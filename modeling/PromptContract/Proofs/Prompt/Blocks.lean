import Mathlib.Data.List.Infix
import Mathlib.Data.List.Nodup
import PromptContract.Prompt
import PromptContract.Proofs.Reply.Lines
import PromptContract.Proofs.Reply.Selection

/-!
# Blocks are read back

A block is a marker line (`field_marker`) with a text under it. A name that a marker can carry
(`MarkerSafe`) is the one that is read from the marker (`atFront?_marker`). Where no line of the
texts starts with an opening half (`Unopened`) the only lines that do are those of the markers, so
that each block ends where the next one begins, and its text is read back, trimmed (`value?_block`).
This holds of blocks in any order with blank lines between them, and under any preamble of whole
lines (`value?_blocks`). Of several blocks of one name the first counts, and what comes behind the
blocks does not matter, if it starts with a marker on a line of its own (`value?_blocks_follows`).
-/

namespace PromptContract.Prompt

open Text Reply Reply.Marker Reply.Scanner

/-! ## Markers of safe names -/

/-- A name that a marker can carry: it keeps to one line, has no padding around it, and holds no
closing half. -/
structure MarkerSafe (name : List Char) : Prop where
  break_notMem : '\n' ∉ name
  head : ∀ c, name.head? = some c → isPad c = false
  last : ∀ c, name.getLast? = some c → isPad c = false
  no_closer : ∀ before behind, name = before ++ behind → afterCloser? behind = none

/-- A name can be carried if trimming leaves it as it is and none of its ends starts with a closing
half. -/
theorem markerSafe_iff (name : List Char) : MarkerSafe name ↔
    '\n' ∉ name ∧ trimBy isPad name = name ∧ ∀ behind ∈ name.tails, afterCloser? behind = none := by
  constructor
  · rintro ⟨hbreak, hhead, hlast, hcloser⟩
    refine ⟨hbreak, trimBy_eq_self isPad name hhead hlast, fun behind hbehind => ?_⟩
    obtain ⟨before, heq⟩ := (List.mem_tails _ _).mp hbehind
    exact hcloser before behind heq.symm
  · rintro ⟨hbreak, htrim, hcloser⟩
    refine ⟨hbreak, fun c hc => ?_, fun c hc => ?_, fun before behind heq => ?_⟩
    · exact not_of_head?_trimBy isPad name (by rw [htrim, hc])
    · exact not_of_getLast?_trimBy isPad name (by rw [htrim, hc])
    · exact hcloser behind ((List.mem_tails _ _).mpr ⟨before, heq.symm⟩)

instance (name : List Char) : Decidable (MarkerSafe name) :=
  decidable_of_iff _ (markerSafe_iff name).symm

/-- A marker of a name, given by the padding between its parts. -/
def markerWith (w₁ w₂ name w₃ w₄ : List Char) : List Char :=
  openerOf w₁ ++ (w₂ ++ (name ++ (w₃ ++ closerOf w₄)))

/-- A single space is padding. -/
theorem isPad_of_mem_space : ∀ c ∈ [' '], isPad c = true := by
  simp [isPad]

/-- The marker of a field has one space between its parts. -/
theorem marker_eq (name : List Char) : marker name = markerWith [' '] [' '] name [' '] [' '] := rfl

/-- A text that does not start with a closing half does not do so with padding and a closing half
behind it. -/
theorem afterCloser?_append_closer {t pads : List Char} (hne : t ≠ [])
    (hnone : afterCloser? t = none) (hpads : ∀ c ∈ pads, isPad c = true) (pads' : List Char) :
    afterCloser? (t ++ (pads ++ closerOf pads')) = none := by
  cases hcloser : afterCloser? (t ++ (pads ++ closerOf pads')) with
  | none => rfl
  | some rest =>
    exfalso
    -- The closing half would begin in the text and reach to a bracket of the one behind it, so that
    -- it had three hash signs.
    obtain ⟨inner, mid, hinner, hmore, hfront⟩ := exists_of_afterCloser?_append hnone hcloser
    have hbracket : ']' ∉ pads ++ ['#', '#'] := by
      rw [List.mem_append, not_or]
      exact ⟨fun h => absurd (hpads _ h) (by decide), by decide⟩
    have hsplit : mid ++ ']' :: rest = (pads ++ ['#', '#']) ++ (pads' ++ [']', ']']) := by
      rw [← hmore]
      simp [closerOf]
    obtain ⟨tail, rfl, -⟩ := front_in_line hbracket hsplit
    obtain ⟨c, t, rfl⟩ := List.exists_cons_of_ne_nil hne
    obtain rfl : c = '#' := (List.cons.inj hfront).1
    have hzero : inner.count '#' = 0 :=
      List.count_eq_zero.mpr fun h => absurd (hinner _ h) (by decide)
    have hcount := congrArg (List.count '#') hfront
    simp [List.count_append, hzero] at hcount
    omega

/-- No closing half begins in padding. -/
theorem untilCloser?_pads {pads : List Char} (hpads : ∀ c ∈ pads, isPad c = true)
    (cs : List Char) : untilCloser? (pads ++ cs) =
      (untilCloser? cs).map fun (inner, behind) => (pads ++ inner, behind) := by
  induction pads with
  | nil => simp
  | cons c pads ih =>
    have hrest := ih fun c hc => hpads c (List.mem_cons_of_mem _ hc)
    have hc : c = ' ' ∨ c = '\t' := by simpa [isPad] using hpads c List.mem_cons_self
    have hnone : afterCloser? (c :: (pads ++ cs)) = none := by
      rcases hc with rfl | rfl <;> rfl
    have hbreak : c ≠ '\n' := by
      rcases hc with rfl | rfl <;> decide
    rw [List.cons_append, untilCloser?, hnone]
    simp only [if_neg hbreak, hrest, Option.map_map]
    rfl

/-- A text without closing halves goes up to the closing half behind it. -/
theorem untilCloser?_append_closer {t pads pads' : List Char} (hbreak : '\n' ∉ t)
    (hno : ∀ before behind, t = before ++ behind → afterCloser? behind = none)
    (hpads : ∀ c ∈ pads, isPad c = true) (hpads' : ∀ c ∈ pads', isPad c = true) :
    untilCloser? (t ++ (pads ++ closerOf pads')) = some (t ++ pads, []) := by
  induction t with
  | nil =>
    have hcloser : untilCloser? (closerOf pads') = some ([], []) := by
      have hend : afterCloser? (closerOf pads') = some [] :=
        afterCloser?_eq_some_iff.mpr ⟨pads', hpads', (List.append_nil _).symm⟩
      rw [closerOf, List.cons_append, List.cons_append] at hend ⊢
      rw [untilCloser?, hend]
    rw [List.nil_append, untilCloser?_pads hpads, hcloser]
    simp
  | cons c t ih =>
    have hc : c ≠ '\n' := fun h => hbreak (by simp [h])
    have hnone := afterCloser?_append_closer (List.cons_ne_nil c t) (hno [] _ rfl) hpads pads'
    have hrest := ih (fun h => hbreak (List.mem_cons_of_mem _ h))
      fun before behind h => hno (c :: before) behind (by rw [h]; rfl)
    rw [List.cons_append] at hnone ⊢
    rw [untilCloser?, hnone]
    simp only [if_neg hc, hrest, Option.map_some, List.cons_append]

/-- What pads a safe name is trimmed. -/
theorem MarkerSafe.trimBy_padded {name w w' : List Char} (h : MarkerSafe name)
    (hw : ∀ c ∈ w, isPad c = true) (hw' : ∀ c ∈ w', isPad c = true) :
    trimBy isPad (w ++ (name ++ w')) = name := by
  have hfront : trimBy isPad (w ++ (name ++ w')) = trimBy isPad (name ++ w') := by
    rw [trimBy, List.dropWhile_append_of_pos hw, ← trimBy]
  rw [hfront, trimBy_append_of_all isPad _ hw', trimBy_eq_self isPad name h.head h.last]

/-- A marker of a safe name is read as one of that name, whatever padding is between its parts. -/
theorem atFront?_markerWith {w₁ w₂ name w₃ w₄ : List Char} (h : MarkerSafe name)
    (hw : ∀ w ∈ [w₁, w₂, w₃, w₄], ∀ c ∈ w, isPad c = true) :
    atFront? (markerWith w₁ w₂ name w₃ w₄) =
      some ((markerWith w₁ w₂ name w₃ w₄).length, some name) := by
  have hw₂ := hw w₂ (by simp)
  have hw₃ := hw w₃ (by simp)
  have huntil : untilCloser? (w₂ ++ (name ++ (w₃ ++ closerOf w₄))) =
      some (w₂ ++ (name ++ w₃), []) := by
    rw [untilCloser?_pads hw₂,
      untilCloser?_append_closer h.break_notMem h.no_closer hw₃ (hw w₄ (by simp))]
    rfl
  have hat := atFront?_of_untilCloser? (hw w₁ (by simp)) huntil
  rwa [h.trimBy_padded hw₂ hw₃, List.length_nil, Nat.sub_zero] at hat

/-- The marker of a safe name is read as a marker of that name. -/
theorem atFront?_marker {name : List Char} (h : MarkerSafe name) :
    atFront? (marker name) = some ((marker name).length, some name) := by
  rw [marker_eq]
  exact atFront?_markerWith h (by simp [isPad])

/-- The marker of a safe name keeps to one line. -/
theorem break_notMem_marker {name : List Char} (h : MarkerSafe name) : '\n' ∉ marker name := by
  have hparts : marker name = ['[', '[', ' ', '#', '#', ' '] ++ name ++
      [' ', '#', '#', ' ', ']', ']'] := rfl
  rw [hparts, List.mem_append, List.mem_append, not_or, not_or]
  exact ⟨⟨by decide, h.break_notMem⟩, by decide⟩

/-! ## Texts without markers of their own -/

/-- No line of a text starts with an opening half. -/
def Unopened (cs : List Char) : Prop :=
  ∀ before behind, cs = before ++ behind → WholeLines before → afterOpener? behind = none

/-- No line of a text starts with an opening half if none is found when the text is scanned. -/
theorem unopened_iff (cs : List Char) : Unopened cs ↔ lineStarts cs = [] := by
  rw [List.eq_nil_iff_forall_not_mem]
  constructor
  · intro h i hi
    obtain ⟨before, behind, heq, -, hbefore, hopen⟩ := mem_lineStarts_iff.mp hi
    rw [h before behind heq hbefore] at hopen
    cases hopen
  · intro h before behind heq hbefore
    rw [← Option.isNone_iff_eq_none, ← Option.not_isSome, Bool.not_eq_true']
    apply Bool.eq_false_iff.mpr
    exact fun hopen => h _ (mem_lineStarts_iff.mpr ⟨before, behind, heq, rfl, hbefore, hopen⟩)

instance (cs : List Char) : Decidable (Unopened cs) := decidable_of_iff _ (unopened_iff cs).symm

/-- Line breaks behind a text open nothing. -/
theorem Unopened.append_breaks {cs gap : List Char} (h : Unopened cs)
    (hgap : ∀ c ∈ gap, c = '\n') : Unopened (cs ++ gap) := by
  intro before behind heq hbefore
  rcases List.append_eq_append_iff.mp heq with ⟨mid, -, rfl⟩ | ⟨mid, hcs, rfl⟩
  · -- Behind the text there are only breaks, and an opening half begins with a bracket.
    cases behind with
    | nil => rfl
    | cons c behind =>
      obtain rfl := hgap c (by simp)
      rfl
  · have hnone := h before mid hcs hbefore
    cases gap with
    | nil =>
      rw [List.append_nil]
      exact hnone
    | cons c gap =>
      obtain rfl := hgap c List.mem_cons_self
      rw [afterOpener?_line, hnone]
      rfl

/-- A blank line consists of line breaks. -/
theorem eq_break_of_mem_blankLine : ∀ c ∈ blankLine, c = '\n' := by simp [blankLine]

/-- A blank line behind a text opens nothing. -/
theorem Unopened.append_blankLine {cs : List Char} (h : Unopened cs) :
    Unopened (cs ++ blankLine) := h.append_breaks eq_break_of_mem_blankLine

/-- A text and line breaks behind it are whole lines. -/
theorem wholeLines_append_breaks (cs : List Char) {gap : List Char}
    (hgap : ∀ c ∈ gap, c = '\n') (hne : gap ≠ []) : WholeLines (cs ++ gap) := by
  have hlast := hgap _ (List.getLast_mem hne)
  refine (wholeLines_iff _).mpr (.inr ?_)
  rw [List.getLast?_append_of_ne_nil _ hne, List.getLast?_eq_some_getLast hne, hlast]

/-- A text and a blank line are whole lines. -/
theorem wholeLines_append_blankLine (cs : List Char) : WholeLines (cs ++ blankLine) :=
  (wholeLines_iff _).mpr (.inr (by simp [blankLine]))

/-- Behind whole lines of which none starts with an opening half, a line that does so comes in what
follows. -/
theorem exists_of_unopened {lead rest before behind : List Char} (hwhole : WholeLines lead)
    (hlead : Unopened lead) (heq : lead ++ rest = before ++ behind) (hbefore : WholeLines before)
    (hopen : (afterOpener? behind).isSome = true) :
    ∃ before', before = lead ++ before' ∧ rest = before' ++ behind ∧ WholeLines before' := by
  rcases List.append_eq_append_iff.mp heq with ⟨mid, rfl, hrest⟩ | ⟨mid, rfl, rfl⟩
  · exact ⟨mid, rfl, hrest, hbefore.of_append⟩
  · rcases hwhole.of_append.getLast? with rfl | hlast
    · exact ⟨[], by simp, by simp, .nil⟩
    · -- The opening half would lie within the last lines of the text in front.
      exfalso
      obtain ⟨line, rfl⟩ := List.getLast?_eq_some_iff.mp hlast
      have hnone := hlead before _ rfl hbefore
      rw [afterOpener?_line, Option.map_eq_none_iff] at hnone
      rw [List.append_assoc, List.singleton_append, afterOpener?_line, hnone] at hopen
      cases hopen

/-! ## Blocks -/

/-- A marker line with a text under it. -/
def blockOf (name under : List Char) : List Char := marker name ++ '\n' :: under

/-- The block of a field is that of the name as it is shown. -/
theorem block_eq (f : Field) (under : List Char) :
    block f under = blockOf f.name.display.toList under := rfl

/-- Behind the start of a block, a line that starts with an opening half comes under its marker. -/
theorem exists_of_blockOf {name under tail before behind : List Char} (hsafe : MarkerSafe name)
    (heq : blockOf name under ++ tail = before ++ behind) (hbefore : WholeLines before)
    (hne : before ≠ []) :
    ∃ before', before = marker name ++ '\n' :: before' ∧ under ++ tail = before' ++ behind ∧
      WholeLines before' := by
  rw [blockOf, List.append_assoc, List.cons_append] at heq
  exact hbefore.exists_of_line (break_notMem_marker hsafe) heq hne

/-- Blocks with a blank line behind each of them. -/
def closedBlocks (bs : List (List Char × List Char)) : List Char :=
  bs.flatMap fun b => blockOf b.1 b.2 ++ blankLine

/-- Blocks with blank lines behind them are whole lines. -/
theorem wholeLines_closedBlocks (bs : List (List Char × List Char)) :
    WholeLines (closedBlocks bs) := by
  induction bs with
  | nil => exact .nil
  | cons b bs ih => exact (wholeLines_append_blankLine _).append ih

/-- Where the texts have no markers of their own at the start of a line, a marker there is that of
one of the blocks. -/
theorem exists_block_of_atFront? {bs : List (List Char × List Char)}
    (hblocks : ∀ b ∈ bs, MarkerSafe b.1 ∧ Unopened b.2) {lead before behind : List Char}
    (hwhole : WholeLines lead) (hlead : Unopened lead)
    (heq : lead ++ closedBlocks bs = before ++ behind) (hbefore : WholeLines before)
    {n : Nat} {name : Option (List Char)} (hat : atFront? behind = some (n, name)) :
    ∃ b ∈ bs, name = some b.1 := by
  have hopen : (afterOpener? behind).isSome = true := by
    rw [← atFront?_isSome, hat]
    rfl
  -- What comes under the marker of a block, with the blank line, leads to the next block.
  induction bs generalizing lead before with
  | nil =>
    rw [closedBlocks, List.flatMap_nil, List.append_nil] at heq
    rw [hlead before behind heq hbefore] at hopen
    cases hopen
  | cons b bs ih =>
    obtain ⟨hsafe, hunder⟩ := hblocks b List.mem_cons_self
    obtain ⟨before', -, hrest, hbefore'⟩ := exists_of_unopened hwhole hlead heq hbefore hopen
    have hsplit : closedBlocks (b :: bs) = blockOf b.1 b.2 ++ (blankLine ++ closedBlocks bs) :=
      List.append_assoc _ _ _
    rw [hsplit] at hrest
    by_cases hnil : before' = []
    · subst hnil
      have hmarker := atFront?_append_of_named ('\n' :: b.2 ++ (blankLine ++ closedBlocks bs))
        (atFront?_marker hsafe)
      rw [← List.append_assoc] at hmarker
      rw [List.nil_append] at hrest
      rw [← hrest, blockOf, hmarker] at hat
      exact ⟨b, List.mem_cons_self, (Prod.mk.inj (Option.some.inj hat)).2.symm⟩
    · obtain ⟨before'', -, hunder', hbefore''⟩ := exists_of_blockOf hsafe hrest hbefore' hnil
      rw [← List.append_assoc] at hunder'
      obtain ⟨c, hc, hname⟩ := ih (fun c hc => hblocks c (List.mem_cons_of_mem _ hc))
        (wholeLines_append_blankLine b.2) hunder.append_blankLine hunder' hbefore''
      exact ⟨c, List.mem_cons_of_mem _ hc, hname⟩

/-! ## Values -/

/-- What may come behind a block: nothing but line breaks, or one at least and the marker of the
next block. -/
def Follows (tail : List Char) : Prop :=
  ∃ gap next, tail = gap ++ next ∧ (∀ c ∈ gap, c = '\n') ∧
    (next = [] ∨ gap ≠ [] ∧ (afterOpener? next).isSome = true)

/-- What comes under the marker of a block is cut behind the line breaks that follow the block. -/
theorem exists_cut_of_follows {under tail : List Char} (hunder : Unopened under)
    (htail : Follows tail) :
    ∃ gap next, tail = gap ++ next ∧ (∀ c ∈ gap, c = '\n') ∧
      Lines.Cut (under ++ tail) (under ++ gap) next := by
  obtain ⟨gap, next, rfl, hgap, hnext⟩ := htail
  have hopened := hunder.append_breaks hgap
  have hsplit : under ++ (gap ++ next) = under ++ gap ++ next := (List.append_assoc _ _ _).symm
  refine ⟨gap, next, rfl, hgap, hsplit, ?_, ?_⟩
  · exact hnext.imp_right fun h => ⟨wholeLines_append_breaks under hgap h.1, h.2⟩
  · intro before behind heq hbefore hopen
    rw [hsplit] at heq
    -- A line that opens comes neither in the text under the marker nor in the breaks behind it.
    rcases hnext with rfl | ⟨hne, -⟩
    · rw [List.append_nil] at heq
      rw [hopened before behind heq hbefore] at hopen
      cases hopen
    · obtain ⟨rest, rfl, -, -⟩ :=
        exists_of_unopened (wholeLines_append_breaks under hgap hne) hopened heq hbefore hopen
      simp only [List.length_append]
      omega

/-- A block ends where the next one begins, or with the text. -/
theorem blockEnd_block {head name under tail : List Char} (hhead : WholeLines head)
    (hsafe : MarkerSafe name) (hunder : Unopened under) (htail : Follows tail) {m : Marker}
    (hm : m.start = head.length) :
    ∃ gap, (∀ c ∈ gap, isBlank c = true) ∧ gap <+: tail ∧
      blockEnd (head ++ (blockOf name under ++ tail)) false m =
        head.length + (blockOf name under).length + gap.length := by
  obtain ⟨gap, next, rfl, hgap, hcut⟩ := exists_cut_of_follows hunder htail
  refine ⟨gap, fun c hc => by rw [hgap c hc]; rfl, List.prefix_append _ _, ?_⟩
  have hmarker : 0 < (marker name).length := Nat.succ_pos _
  have hend := Lines.blockEnd_of_cut hhead (break_notMem_marker hsafe) hcut
    (Nat.le_of_eq hm.symm) (by omega)
  have hsplit : blockOf name under ++ (gap ++ next) =
      marker name ++ '\n' :: (under ++ (gap ++ next)) := by
    simp [blockOf]
  rw [hsplit, hend]
  simp only [blockOf, List.length_append, List.length_cons]
  omega

/-- The marker of a block behind whole lines. -/
def blockMarker (head name : List Char) : Marker :=
  ⟨head.length, head.length + (marker name).length, some name, true⟩

/-- The marker of a block is the one that counts for its name, if no line in front of the block
starts with a marker of the name. -/
theorem markerOf?_block {head name : List Char} (hhead : WholeLines head) (hsafe : MarkerSafe name)
    (under tail : List Char)
    (hfirst : ∀ k ∈ scan head, k.lineStart = true → k.name ≠ some name) :
    (ofText (head ++ (blockOf name under ++ tail))).markerOf? name =
      some (blockMarker head name) := by
  refine markerOf?_eq_some_iff.mpr (.inl ⟨mem_scan_of_atFront? hhead ?_, rfl, rfl, ?_⟩)
  · rw [blockOf, List.append_assoc]
    exact atFront?_append_of_named _ (atFront?_marker hsafe)
  · intro k hk hname hstart
    apply Nat.le_of_not_lt
    intro hlt
    have hmem := mem_scan_of_lt hhead [] hk hlt
    rw [List.append_nil] at hmem
    exact hfirst k hmem hstart hname

/-- The lines under the marker of a block are its text and what comes behind the block. -/
theorem linesUnder?_block (head name under tail : List Char) :
    linesUnder? (head ++ (blockOf name under ++ tail)) (blockMarker head name) =
      some (under ++ tail) := by
  have htext : head ++ (blockOf name under ++ tail) =
      head ++ marker name ++ [] ++ '\n' :: (under ++ tail) := by
    simp [blockOf]
  rw [htext]
  exact linesUnder?_of_eq List.length_append (by simp)

/-- The text of a block is read back, trimmed, if no line in front of the block starts with a marker
of the name. -/
theorem value?_block {head name under tail : List Char} (hhead : WholeLines head)
    (hsafe : MarkerSafe name) (hunder : Unopened under) (htail : Follows tail)
    (hfirst : ∀ k ∈ scan head, k.lineStart = true → k.name ≠ some name) :
    (ofText (head ++ (blockOf name under ++ tail))).value? false name = some (trim under) := by
  obtain ⟨gap, hgap, ⟨rest, rfl⟩, hend⟩ := blockEnd_block hhead hsafe hunder htail
    (m := blockMarker head name) rfl
  have hbody : Scanner.body (head ++ (blockOf name under ++ (gap ++ rest))) false
      (blockMarker head name) (under ++ (gap ++ rest)) = under ++ gap := by
    have hlen : head.length + (blockOf name under).length + gap.length -
        ((head ++ (blockOf name under ++ (gap ++ rest))).length -
          (under ++ (gap ++ rest)).length) = (under ++ gap).length := by
      simp only [blockOf, List.length_append, List.length_cons]
      omega
    rw [Scanner.body, hend, hlen, ← List.append_assoc, List.take_left]
  rw [value?_ofText, markerOf?_block hhead hsafe under _ hfirst, Option.bind_some,
    linesUnder?_block, Option.map_some, hbody]
  -- What stands between the text and the end of the block is blank.
  exact congrArg some (trimBy_append_of_all isBlank under hgap)

/-- Joining parts closes those in front of a part with the separator. -/
theorem joined_append (separator : List Char) (parts : List (List Char)) (part : List Char)
    (more : List (List Char)) : joined separator (parts ++ part :: more) =
      parts.flatMap (· ++ separator) ++ joined separator (part :: more) := by
  induction parts with
  | nil => rfl
  | cons first parts ih =>
    have hcons : ∀ rest : List (List Char), rest ≠ [] →
        joined separator (first :: rest) = first ++ separator ++ joined separator rest := by
      intro rest hne
      cases rest with
      | nil => exact absurd rfl hne
      | cons c rest => rfl
    rw [List.cons_append, hcons _ (by simp), ih, List.flatMap_cons,
      List.append_assoc _ (List.flatMap _ _)]

/-- A marker starts with an opening half. -/
theorem afterOpener?_marker (name more : List Char) :
    (afterOpener? (marker name ++ more)).isSome = true := by
  rw [marker_eq, markerWith, List.append_assoc,
    afterOpener?_eq_some_iff.mpr ⟨[' '], isPad_of_mem_space, rfl⟩]
  rfl

/-- Behind the first of several blocks comes what may come behind a block, if it does so behind them
all. -/
theorem exists_follows (name under : List Char) (more : List (List Char × List Char))
    {ending : List Char} (hending : Follows ending) :
    ∃ tail, Follows tail ∧
      joined blankLine (blockOf name under :: more.map fun b => blockOf b.1 b.2) ++ ending =
        blockOf name under ++ tail := by
  induction more generalizing name under with
  | nil => exact ⟨ending, hending, rfl⟩
  | cons b more ih =>
    obtain ⟨tail, -, hjoined⟩ := ih b.1 b.2
    have hnext : (afterOpener? (blockOf b.1 b.2 ++ tail)).isSome = true := by
      rw [blockOf, List.append_assoc]
      exact afterOpener?_marker _ _
    refine ⟨blankLine ++ (blockOf b.1 b.2 ++ tail), ⟨blankLine, _, rfl, eq_break_of_mem_blankLine,
      .inr ⟨List.cons_ne_nil _ _, hnext⟩⟩, ?_⟩
    rw [List.map_cons, joined, List.append_assoc, List.append_assoc, hjoined]
    exact List.cons_ne_nil _ _

/-- A last line under the marker of a name is read back, trimmed, held or not, if it opens with no
marker and cannot become a line that does. -/
theorem value?_lastLine {head name last : List Char} (hhead : WholeLines head)
    (hsafe : MarkerSafe name) (hlast : '\n' ∉ last) (hopener : afterOpener? last = none)
    (hmay : mayBecomeOpener last = false)
    (hfirst : ∀ k ∈ scan head, k.lineStart = true → k.name ≠ some name) (hold : Bool) :
    (ofText (head ++ blockOf name last)).value? hold name = some (trim last) := by
  have hwhole : WholeLines (head ++ (marker name ++ ['\n'])) :=
    hhead.append (.line _ _ (break_notMem_marker hsafe) .nil)
  have hunder : Unopened last := by
    intro before behind heq hbefore
    obtain rfl := hbefore.eq_nil fun h => hlast (heq ▸ List.mem_append_left _ h)
    rwa [heq] at hopener
  have hends : Follows [] := ⟨[], [], rfl, by simp, .inl rfl⟩
  have hvalue := value?_block hhead hsafe hunder hends hfirst
  have htext : head ++ blockOf name last = head ++ (marker name ++ ['\n']) ++ last := by
    simp [blockOf]
  rw [List.append_nil] at hvalue
  rw [htext] at hvalue ⊢
  rw [value?_of_last hwhole hlast hmay, hvalue]

/-- The text of a block under a preamble is read back, trimmed, if the blocks of its name have one
text, whatever follows the blocks. -/
theorem value?_blocks_follows {lead ending : List Char} {bs : List (List Char × List Char)}
    (hwhole : WholeLines lead) (hlead : Unopened lead) (hending : Follows ending)
    (hblocks : ∀ b ∈ bs, MarkerSafe b.1 ∧ Unopened b.2) {name under : List Char}
    (hb : (name, under) ∈ bs) (hsame : ∀ b ∈ bs, b.1 = name → b.2 = under) :
    (ofText (lead ++ (joined blankLine (bs.map fun b => blockOf b.1 b.2) ++ ending))).value? false
      name = some (trim under) := by
  obtain ⟨bs, more, rfl, hfirst⟩ := List.eq_append_cons_of_mem hb
  obtain ⟨hsafe, hunder⟩ := hblocks _ hb
  -- A marker of the name at the start of a line in front would be that of an earlier block.
  have hnone : ∀ k ∈ scan (lead ++ closedBlocks bs), k.lineStart = true → k.name ≠ some name := by
    intro k hk hstart hname
    obtain ⟨before, behind, n, heq, -, -, hat, hiff⟩ := exists_of_mem_scan hk
    obtain ⟨b, hb, hmarker⟩ := exists_block_of_atFront?
      (fun b hb => hblocks b (List.mem_append_left _ hb)) hwhole hlead heq (hiff.mp hstart) hat
    rw [hname, Option.some.injEq] at hmarker
    have hunder' := hsame b (List.mem_append_left _ hb) hmarker.symm
    rw [hmarker, ← hunder'] at hfirst
    exact hfirst hb
  obtain ⟨tail, htail, hjoined⟩ := exists_follows name under more hending
  have hwhole' := hwhole.append (wholeLines_closedBlocks bs)
  rw [List.map_append, List.map_cons, joined_append, List.append_assoc, hjoined,
    ← List.append_assoc, List.flatMap_map]
  exact value?_block hwhole' hsafe hunder htail hnone

/-- Blocks of different names under a preamble are read back in whatever order they come. -/
theorem value?_blocks {lead : List Char} {bs : List (List Char × List Char)}
    (hwhole : WholeLines lead) (hlead : Unopened lead)
    (hblocks : ∀ b ∈ bs, MarkerSafe b.1 ∧ Unopened b.2) (hnames : (bs.map (·.1)).Nodup)
    {name under : List Char} (hb : (name, under) ∈ bs) :
    (ofText (lead ++ joined blankLine (bs.map fun b => blockOf b.1 b.2))).value? false name =
      some (trim under) := by
  have hending : Follows [] := ⟨[], [], rfl, by simp, .inl rfl⟩
  have hvalue := value?_blocks_follows hwhole hlead hending hblocks hb fun b hb' hname => by
    rw [List.inj_on_of_nodup_map hnames hb' hb hname]
  rwa [List.append_nil] at hvalue

end PromptContract.Prompt
