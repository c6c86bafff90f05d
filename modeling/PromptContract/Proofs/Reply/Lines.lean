import PromptContract.Proofs.Reply.Block

/-!
# Replies line by line

The grammar of replies speaks of lines, not of places. A line opens with a marker if it starts with
an opening half (`opens`), and `complete?` reads a complete marker at the front of a text; what both
accept is told by the forms of the two halves (`opens_iff`, `complete?_eq_some_iff`). The block of a
name starts at the first line that opens with a complete marker of the name, and only where there is
none at the first such marker within a line (`start?`); it consists of the lines below, up to the
next one that opens with a marker (`value?`).

A scanner reads the same (`raw_values`; `value?_eq_lines`): its places and boundaries come to the
lines that the grammar names. A scan of a line has the markers that are found when it is gone
through (`filterMap_scanFrom`), a search among the markers of a text goes line by line
(`map_find?_scan`), and a marker's block ends where the first line below it opens with a marker
(`valueOf_line`).
-/

namespace PromptContract.Reply.Lines

open Text Marker Scanner

/-! ## The grammar -/

/-- Whether a line opens with a marker, complete or not. -/
def opens (line : List Char) : Bool := (afterOpener? line).isSome

/-- The name of a complete marker at the front of a text, and the text behind the marker. -/
def complete? (cs : List Char) : Option (List Char × List Char) := do
  let (inner, behind) ← untilCloser? (← afterOpener? cs)
  return (trimBy isPad inner, behind)

/-- A text starts with a complete marker of a name: two halves with the padded name between them, of
which the second is the first closing half behind the opening one. -/
def Complete (cs name behind : List Char) : Prop :=
  ∃ pads inner pads', (∀ c ∈ pads, isPad c = true) ∧ (∀ c ∈ pads', isPad c = true) ∧
    '\n' ∉ inner ∧ trimBy isPad inner = name ∧
    cs = openerOf pads ++ (inner ++ (closerOf pads' ++ behind)) ∧
    ∀ front rest, inner ++ (closerOf pads' ++ behind) = front ++ rest →
      front.length < inner.length → ∀ pads'' rest', (∀ c ∈ pads'', isPad c = true) →
        rest ≠ closerOf pads'' ++ rest'

/-- Whether a line opens with a marker is told by the form of an opening half. -/
theorem opens_iff (line : List Char) :
    opens line = true ↔
      ∃ pads rest, (∀ c ∈ pads, isPad c = true) ∧ line = openerOf pads ++ rest := by
  unfold opens
  rw [Option.isSome_iff_exists]
  constructor
  · rintro ⟨rest, h⟩
    obtain ⟨pads, hpads, hline⟩ := afterOpener?_eq_some_iff.mp h
    exact ⟨pads, rest, hpads, hline⟩
  · rintro ⟨pads, rest, hpads, hline⟩
    exact ⟨rest, afterOpener?_eq_some_iff.mpr ⟨pads, hpads, hline⟩⟩

/-- A text starts with no closing half if it has not the form of one with more behind it. -/
theorem afterCloser?_eq_none_iff {cs : List Char} :
    afterCloser? cs = none ↔
      ∀ pads rest, (∀ c ∈ pads, isPad c = true) → cs ≠ closerOf pads ++ rest := by
  rw [Option.eq_none_iff_forall_ne_some]
  constructor
  · intro h pads rest hpads heq
    exact h rest (afterCloser?_eq_some_iff.mpr ⟨pads, hpads, heq⟩)
  · intro h rest hrest
    obtain ⟨pads, hpads, heq⟩ := afterCloser?_eq_some_iff.mp hrest
    exact h pads rest hpads heq

/-- The text up to the first closing half of the line has no break, and no closing half starts in
it. -/
theorem untilCloser?_eq_some_iff {cs inner behind : List Char} :
    untilCloser? cs = some (inner, behind) ↔
      ∃ pads, (∀ c ∈ pads, isPad c = true) ∧ '\n' ∉ inner ∧
        cs = inner ++ (closerOf pads ++ behind) ∧
        ∀ front rest, cs = front ++ rest → front.length < inner.length →
          afterCloser? rest = none := by
  constructor
  · intro h
    obtain ⟨pads, hpads, hbreak, hcs⟩ := untilCloser?_eq_some h
    exact ⟨pads, hpads, hbreak, hcs.trans (List.append_assoc _ _ _),
      fun front rest heq hlt => afterCloser?_of_untilCloser? h heq hlt⟩
  · rintro ⟨pads, hpads, hbreak, rfl, hfirst⟩
    exact untilCloser?_of_first hpads hbreak hfirst

/-- What is read as a complete marker has the form of one. -/
theorem complete?_eq_some_iff {cs name behind : List Char} :
    complete? cs = some (name, behind) ↔ Complete cs name behind := by
  unfold complete? Complete
  simp only [Option.bind_eq_bind, Option.bind_eq_some_iff, Prod.exists, Option.pure_def,
    Option.some.injEq, Prod.mk.injEq]
  constructor
  · rintro ⟨rest, hopener, inner, _, huntil, hname, rfl⟩
    obtain ⟨pads, hpads, hcs⟩ := afterOpener?_eq_some_iff.mp hopener
    obtain ⟨pads', hpads', hbreak, rfl, hfirst⟩ := untilCloser?_eq_some_iff.mp huntil
    exact ⟨pads, inner, pads', hpads, hpads', hbreak, hname, hcs, fun front rest heq hlt =>
      afterCloser?_eq_none_iff.mp (hfirst front rest heq hlt)⟩
  · rintro ⟨pads, inner, pads', hpads, hpads', hbreak, hname, hcs, hfirst⟩
    refine ⟨_, afterOpener?_eq_some_iff.mpr ⟨pads, hpads, hcs⟩, inner, behind, ?_, hname, rfl⟩
    exact untilCloser?_eq_some_iff.mpr ⟨pads', hpads', hbreak, rfl, fun front rest heq hlt =>
      afterCloser?_eq_none_iff.mpr (hfirst front rest heq hlt)⟩

/-- What is behind a complete marker is shorter than the text. -/
theorem length_of_complete? {cs name behind : List Char} (h : complete? cs = some (name, behind)) :
    behind.length < cs.length := by
  obtain ⟨pads, inner, pads', -, -, -, -, rfl, -⟩ := complete?_eq_some_iff.mp h
  simp only [openerOf, List.length_append, List.length_cons]
  omega

/-- The complete markers of a text from left to right, each by its name and what is behind it. None
starts within another one, nor within an opening half that no closing half follows. -/
def completeIn (cs : List Char) : List (List Char × List Char) :=
  match cs with
  | [] => []
  | c :: cs =>
    match _h : complete? (c :: cs) with
    | some (name, behind) => (name, behind) :: completeIn behind
    | none =>
      match _h' : afterOpener? (c :: cs) with
      | some behind => completeIn behind
      | none => completeIn cs
termination_by cs.length
decreasing_by
  · exact length_of_complete? _h
  · have hlen := length_of_afterOpener? _h'
    omega
  · exact Nat.lt_succ_self _

/-- A complete marker is passed over as a whole. -/
theorem completeIn_of_complete? {c : Char} {cs name behind : List Char}
    (h : complete? (c :: cs) = some (name, behind)) :
    completeIn (c :: cs) = (name, behind) :: completeIn behind := by
  rw [completeIn]
  split
  · next heq =>
    rw [h, Option.some.injEq, Prod.mk.injEq] at heq
    rw [heq.1, heq.2]
  · next heq =>
    rw [h] at heq
    cases heq

/-- So is an opening half that no closing half follows. -/
theorem completeIn_of_afterOpener? {c : Char} {cs behind : List Char}
    (h : complete? (c :: cs) = none) (h' : afterOpener? (c :: cs) = some behind) :
    completeIn (c :: cs) = completeIn behind := by
  rw [completeIn]
  split
  · next heq =>
    rw [h] at heq
    cases heq
  · split
    · next heq =>
      rw [h', Option.some.injEq] at heq
      rw [heq]
    · next heq =>
      rw [h'] at heq
      cases heq

/-- Where no marker starts, the next character is looked at. -/
theorem completeIn_of_none {c : Char} {cs : List Char} (h : complete? (c :: cs) = none)
    (h' : afterOpener? (c :: cs) = none) : completeIn (c :: cs) = completeIn cs := by
  rw [completeIn]
  split
  · next heq =>
    rw [h] at heq
    cases heq
  · split
    · next heq =>
      rw [h'] at heq
      cases heq
    · rfl

/-- What is behind the marker of a name with which a line opens, if it does so. -/
def openingOf? (name line : List Char) : Option (List Char) :=
  (complete? line).bind fun (found, behind) => if found = name then some behind else none

/-- What is behind the first complete marker of a name in a line, if there is one. -/
def withinOf? (name line : List Char) : Option (List Char) :=
  ((completeIn line).find? (·.1 == name)).map (·.2)

/-- What is found in the first line that has it, and the lines below that line. -/
def first? {α : Type} (find : List Char → Option α) :
    List (List Char) → Option (α × List (List Char))
  | [] => none
  | line :: below =>
    match find line with
    | some found => some (found, below)
    | none => first? find below

/-- The marker at which the block of a name starts, by what is behind it on its line and by the
lines below: the first with which a line opens, or else the first within a line. -/
def start? (name : List Char) (ls : List (List Char)) :
    Option (List Char × List (List Char)) :=
  (first? (openingOf? name) ls).or (first? (withinOf? name) ls)

/-- The text of a block: nothing if the marker's line is the last one or has more on it, else the
lines below up to the first that opens with a marker, without surrounding blanks. -/
def valueOf (behind : List Char) (below : List (List Char)) : Option (List Char) :=
  if below = [] ∨ behind.all isLineRest = false then none
  else some (trim (['\n'].intercalate (below.takeWhile fun line => !opens line)))

/-- The text of the field of a name in a row of lines. -/
def value? (ls : List (List Char)) (name : List Char) : Option (List Char) :=
  (start? name ls).bind fun (behind, below) => valueOf behind below

/-! ## Scanning one line -/

/-- A complete marker at the front of a text is the marker at its front. -/
theorem atFront?_of_complete? {cs name behind : List Char}
    (h : complete? cs = some (name, behind)) :
    ∃ mark, cs = mark ++ behind ∧ atFront? cs = some (mark.length, some name) := by
  unfold complete? at h
  simp only [Option.bind_eq_bind, Option.bind_eq_some_iff, Prod.exists, Option.pure_def,
    Option.some.injEq, Prod.mk.injEq] at h
  obtain ⟨rest, hopener, inner, _, huntil, rfl, rfl⟩ := h
  obtain ⟨pads, hpads, rfl⟩ := afterOpener?_eq_some_iff.mp hopener
  have hat := atFront?_of_untilCloser? hpads huntil
  obtain ⟨pads', -, -, rfl⟩ := untilCloser?_eq_some huntil
  refine ⟨openerOf pads ++ inner ++ closerOf pads', by simp, hat.trans ?_⟩
  congr 2
  simp only [List.length_append]
  omega

/-- An opening half that no closing half follows is the marker at the front of its text, without a
name. -/
theorem atFront?_of_afterOpener? {cs behind : List Char} (hnone : complete? cs = none)
    (h : afterOpener? cs = some behind) :
    ∃ mark, cs = mark ++ behind ∧ atFront? cs = some (mark.length, none) := by
  have huntil : untilCloser? behind = none := by
    cases huntil : untilCloser? behind with
    | none => rfl
    | some found => simp [complete?, h, huntil] at hnone
  obtain ⟨pads, -, rfl⟩ := afterOpener?_eq_some_iff.mp h
  refine ⟨openerOf pads, rfl, ?_⟩
  unfold atFront?
  simp [h, huntil]

/-- Where no complete marker is at the front of a text, a marker there has no name. -/
theorem eq_none_of_complete? {cs : List Char} {n : Nat} {name : Option (List Char)}
    (hnone : complete? cs = none) (h : atFront? cs = some (n, name)) : name = none := by
  cases hopener : afterOpener? cs with
  | none =>
    rw [atFront?_eq_none hopener] at h
    cases h
  | some behind =>
    obtain ⟨mark, -, hbare⟩ := atFront?_of_afterOpener? hnone hopener
    rw [hbare, Option.some.injEq, Prod.mk.injEq] at h
    exact h.2.symm

/-- What is skipped may be dropped. -/
theorem scanFrom_skip (pos skip : Nat) (lineStart : Bool) {cs : List Char}
    (h : skip ≤ cs.length) :
    ∃ lineStart', scanFrom pos skip lineStart cs =
      scanFrom (pos + skip) 0 lineStart' (cs.drop skip) := by
  induction cs generalizing pos skip lineStart with
  | nil =>
    obtain rfl : skip = 0 := Nat.le_zero.mp h
    exact ⟨lineStart, rfl⟩
  | cons c cs ih =>
    cases skip with
    | zero => exact ⟨lineStart, rfl⟩
    | succ skip =>
      obtain ⟨lineStart', heq⟩ := ih (pos + 1) skip (c == '\n') (Nat.le_of_succ_le_succ h)
      refine ⟨lineStart', ?_⟩
      rw [scanFrom, heq, List.drop_succ_cons, Nat.add_assoc, Nat.add_comm 1]

/-- A scan records the marker at the front of a text, and goes on behind it. -/
theorem scanFrom_mark (pos : Nat) (lineStart : Bool) {mark behind : List Char}
    {name : Option (List Char)} (h : atFront? (mark ++ behind) = some (mark.length, name)) :
    ∃ lineStart', scanFrom pos 0 lineStart (mark ++ behind) =
      ⟨pos, pos + mark.length, name, lineStart⟩ ::
        scanFrom (pos + mark.length) 0 lineStart' behind := by
  have hlen := (length_of_atFront? h).1
  cases mark with
  | nil => simp at hlen
  | cons c mark =>
    obtain ⟨lineStart', heq⟩ := scanFrom_skip (pos + 1) mark.length (c == '\n')
      (show mark.length ≤ (mark ++ behind).length by simp)
    refine ⟨lineStart', ?_⟩
    rw [List.cons_append] at h ⊢
    rw [scanFrom, h]
    simp only [List.length_cons, Nat.add_sub_cancel, heq, List.drop_left]
    congr 2
    omega

/-- What a marker says in the terms of the grammar, for a text that starts at a place: its name and
what is behind it. -/
def found? (cs : List Char) (pos : Nat) (m : Marker) : Option (List Char × List Char) :=
  m.name.map fun name => (name, cs.drop (m.stop - pos))

/-- A scan has the complete markers that are found when the text is gone through. -/
theorem filterMap_scanFrom (pos : Nat) (lineStart : Bool) {text front cs : List Char}
    (htext : text = front ++ cs) :
    (scanFrom (pos + front.length) 0 lineStart cs).filterMap (found? text pos) =
      completeIn cs := by
  induction cs using completeIn.induct generalizing front lineStart with
  | case1 => simp [completeIn, scanFrom]
  | case2 c cs name behind h ih =>
    obtain ⟨mark, hmark, hat⟩ := atFront?_of_complete? h
    rw [hmark] at hat htext
    rw [completeIn_of_complete? h, hmark]
    obtain ⟨lineStart', hscan⟩ := scanFrom_mark (pos + front.length) lineStart hat
    have hrest := ih lineStart' (htext.trans (List.append_assoc _ _ _).symm)
    rw [List.length_append, ← Nat.add_assoc] at hrest
    -- What stands behind the marker in the text is what the grammar has behind it.
    have hhead : found? text pos
        ⟨pos + front.length, pos + front.length + mark.length, some name, lineStart⟩ =
          some (name, behind) := by
      have hdrop : pos + front.length + mark.length - pos = (front ++ mark).length := by
        rw [List.length_append]
        omega
      rw [found?, Option.map_some, hdrop, htext, ← List.append_assoc, List.drop_left]
    rw [hscan, List.filterMap_cons, hhead, hrest]
  | case3 c cs h behind h' ih =>
    obtain ⟨mark, hmark, hat⟩ := atFront?_of_afterOpener? h h'
    rw [hmark] at hat htext
    rw [completeIn_of_afterOpener? h h', hmark]
    obtain ⟨lineStart', hscan⟩ := scanFrom_mark (pos + front.length) lineStart hat
    have hrest := ih lineStart' (htext.trans (List.append_assoc _ _ _).symm)
    rw [List.length_append, ← Nat.add_assoc] at hrest
    rw [hscan, List.filterMap_cons, hrest]
    rfl
  | case4 c cs h h' ih =>
    have hsplit : text = (front ++ [c]) ++ cs := by rw [htext, List.append_assoc]; rfl
    have hrest := ih (c == '\n') hsplit
    rw [List.length_append, ← Nat.add_assoc] at hrest
    rw [completeIn_of_none h h', scanFrom, atFront?_eq_none h']
    exact hrest

/-- The first marker of a name in a line is the first complete one that the grammar finds. -/
theorem map_find?_named (pos : Nat) (name line : List Char) :
    ((scanFrom pos 0 true line).find? (·.name == some name)).map
      (fun m => line.drop (m.stop - pos)) = withinOf? name line := by
  have hkind : (fun m => (found? line pos m).any (·.1 == name)) = (·.name == some name) := by
    funext m
    cases hname : m.name <;> simp [found?, hname]
  have hall := filterMap_scanFrom pos true (List.nil_append line).symm
  rw [withinOf?, ← hall, List.find?_filterMap, hkind, List.length_nil, Nat.add_zero]
  cases hfind : (scanFrom pos 0 true line).find? (·.name == some name) with
  | none => rfl
  | some m =>
    have hname : m.name = some name := by simpa using List.find?_some hfind
    simp [found?, hname]

/-- Within a line no marker is at the start of a line. -/
theorem lineStart_of_mem_scanFrom {pos skip : Nat} {cs : List Char} {m : Marker}
    (hbreak : '\n' ∉ cs) (h : m ∈ scanFrom pos skip false cs) : m.lineStart = false := by
  obtain ⟨before, behind, n, rfl, -, -, -, hstart⟩ := exists_of_mem_scanFrom h
  rw [hstart]
  cases hlast : before.getLast? with
  | none => rfl
  | some c =>
    have hc : c ≠ '\n' := by
      rintro rfl
      exact hbreak (List.mem_append_left _ (List.mem_of_mem_getLast? hlast))
    simp [hc]

/-- The first marker of a name at the start of a line is the one with which the line opens. -/
theorem map_find?_lineStart (pos : Nat) (name : List Char) {line : List Char}
    (hline : '\n' ∉ line) :
    ((scanFrom pos 0 true line).find? fun m => m.name == some name && m.lineStart).map
      (fun m => line.drop (m.stop - pos)) = openingOf? name line := by
  cases line with
  | nil => rfl
  | cons c cs =>
    have hc : (c == '\n') = false := by
      simpa using fun h : c = '\n' => hline (by simp [h])
    -- Behind its first character the line has no marker at the start of a line.
    have hrest : ∀ skip, (scanFrom (pos + 1) skip false cs).find?
        (fun m => m.name == some name && m.lineStart) = none := by
      intro skip
      apply List.find?_eq_none.mpr
      intro m hm
      simp [lineStart_of_mem_scanFrom (fun h => hline (List.mem_cons_of_mem _ h)) hm]
    unfold openingOf?
    rw [scanFrom, hc]
    cases h : complete? (c :: cs) with
    | some found =>
      obtain ⟨found, behind⟩ := found
      obtain ⟨mark, hmark, hat⟩ := atFront?_of_complete? h
      have hdrop : (c :: cs).drop mark.length = behind := by rw [hmark, List.drop_left]
      rw [hat]
      simp only [List.find?_cons, Bool.and_true, Option.bind_some]
      by_cases hname : found = name
      · simp [hname, hdrop]
      · have hne : (some found == some name) = false := by simpa using hname
        simp only [hne, hrest, if_neg hname, Option.map_none]
    | none =>
      rw [Option.bind_none]
      cases hfront : atFront? (c :: cs) with
      | none => simp [hrest]
      | some found =>
        obtain ⟨n, found⟩ := found
        obtain rfl := eq_none_of_complete? h hfront
        simp [hrest]

/-! ## The lines of a text -/

/-- A text is cut at the first line that opens with a marker, or at its end. -/
structure Cut (cs front next : List Char) : Prop where
  split : cs = front ++ next
  stop : next = [] ∨ WholeLines front ∧ (afterOpener? next).isSome = true
  /-- No line before the cut opens with a marker. -/
  least : ∀ before behind, cs = before ++ behind → WholeLines before →
    (afterOpener? behind).isSome = true → front.length ≤ before.length

/-- A text that opens with a marker is cut at its front. -/
theorem cut_of_opens {cs : List Char} (hopen : (afterOpener? cs).isSome = true) : Cut cs [] cs :=
  ⟨rfl, .inr ⟨.nil, hopen⟩, fun _ _ _ _ _ => Nat.zero_le _⟩

/-- A text without a break that opens with no marker is not cut. -/
theorem cut_of_notMem {line : List Char} (hline : '\n' ∉ line) (hopen : opens line = false) :
    Cut line line [] := by
  refine ⟨(List.append_nil _).symm, .inl rfl, ?_⟩
  intro before behind heq hwhole hsome
  obtain rfl := hwhole.eq_nil fun h => hline (heq ▸ List.mem_append_left _ h)
  rw [List.nil_append] at heq
  rw [opens, heq, hsome] at hopen
  cases hopen

/-- A line that opens with no marker stands before the cut. -/
theorem Cut.line {line rest front next : List Char} (h : Cut rest front next)
    (hline : '\n' ∉ line) (hopen : opens line = false) :
    Cut (line ++ '\n' :: rest) (line ++ '\n' :: front) next := by
  refine ⟨by simp [h.split], ?_, ?_⟩
  · exact h.stop.imp_right fun hstop => ⟨.line line front hline hstop.1, hstop.2⟩
  · intro before behind heq hwhole hsome
    by_cases hne : before = []
    · rw [hne, List.nil_append] at heq
      rw [← heq, afterOpener?_line, Option.isSome_map, ← opens, hopen] at hsome
      cases hsome
    · obtain ⟨before', rfl, hrest, hwhole'⟩ := hwhole.exists_of_line hline heq hne
      have hle := h.least before' behind hrest hwhole' hsome
      simp only [List.length_append, List.length_cons]
      omega

/-- A text is cut behind the lines up to the first that opens with a marker, and the last of their
breaks. -/
theorem exists_cut (cs : List Char) :
    ∃ front next run, Cut cs front next ∧ (∀ c ∈ run, isBlank c = true) ∧
      front = ['\n'].intercalate ((lines cs).takeWhile fun line => !opens line) ++ run ∧
      ((lines cs).takeWhile (fun line => !opens line) = [] → front = []) := by
  induction cs using line_induction with
  | last line hline =>
    rw [lines_of_notMem hline]
    cases hopen : opens line with
    | true => exact ⟨[], line, [], cut_of_opens hopen, by simp, by simp [hopen], by simp⟩
    | false =>
      exact ⟨line, [], [], cut_of_notMem hline hopen, by simp, by simp [hopen], by simp [hopen]⟩
  | line line rest hline ih =>
    rw [lines_line hline]
    cases hopen : opens line with
    | true =>
      have hsome : (afterOpener? (line ++ '\n' :: rest)).isSome = true := by
        rw [afterOpener?_line, Option.isSome_map, ← opens, hopen]
      exact ⟨[], _, [], cut_of_opens hsome, by simp, by simp [hopen], by simp⟩
    | false =>
      obtain ⟨front, next, run, hcut, hrun, hfront, hnil⟩ := ih
      have htake : (line :: lines rest).takeWhile (fun line => !opens line) =
          line :: (lines rest).takeWhile fun line => !opens line := by
        simp [hopen]
      rw [htake]
      generalize (lines rest).takeWhile (fun line => !opens line) = below at *
      -- Where no more lines follow, the break of this one is what the joined lines lack.
      by_cases hbelow : below = []
      · refine ⟨line ++ '\n' :: front, next, ['\n'], hcut.line hline hopen, by simp [isBlank], ?_,
          by simp⟩
        rw [hnil hbelow, hbelow, List.intercalate_singleton]
      · refine ⟨line ++ '\n' :: front, next, run, hcut.line hline hopen, hrun, ?_, by simp⟩
        rw [List.intercalate_cons_of_ne_nil hbelow, hfront]
        simp

/-- The block of a marker ends where the text below the marker's line is cut. -/
theorem blockEnd_of_cut {whole line rest front next : List Char} (hwhole : WholeLines whole)
    (hline : '\n' ∉ line) (hcut : Cut rest front next) {m : Marker}
    (hstart : whole.length ≤ m.start) (hlt : m.start < whole.length + line.length) :
    blockEnd (whole ++ (line ++ '\n' :: rest)) false m =
      whole.length + line.length + 1 + front.length := by
  apply Nat.le_antisymm
  · rcases hcut.stop with hnil | ⟨hfront, hsome⟩
    · have hle := blockEnd_le_length (whole ++ (line ++ '\n' :: rest)) false m
      have hrest := congrArg List.length hcut.split
      rw [hnil, List.append_nil] at hrest
      simp only [List.length_append, List.length_cons] at hle
      omega
    · apply blockEnd_le
      · refine mem_boundaries_iff.mpr
          ⟨whole ++ (line ++ '\n' :: front), next, ?_, ?_, ?_, .inl hsome⟩
        · rw [hcut.split]
          simp
        · simp only [List.length_append, List.length_cons]
          omega
        · exact hwhole.append (.line line front hline hfront)
      · omega
  · rcases blockEnd_mem (whole ++ (line ++ '\n' :: rest)) false m with ⟨hmem, hbehind⟩ | hend
    · obtain ⟨before, behind, heq, hlen, hbefore, hopens⟩ := mem_boundaries_iff.mp hmem
      have hsome : (afterOpener? behind).isSome = true := by simpa [Opens] using hopens
      -- A boundary behind the marker stands below the marker's line.
      rcases List.append_eq_append_iff.mp heq with ⟨before', rfl, hrest⟩ | ⟨mid, hmid, -⟩
      · have hne : before' ≠ [] := by
          rintro rfl
          rw [List.append_nil] at hlen
          omega
        obtain ⟨before'', rfl, hrest', hbefore'⟩ :=
          hbefore.of_append.exists_of_line hline hrest hne
        have hle := hcut.least before'' behind hrest' hbefore' hsome
        rw [← hlen]
        simp only [List.length_append, List.length_cons]
        omega
      · rw [hmid, List.length_append] at hstart
        omega
    · have hrest := congrArg List.length hcut.split
      rw [hend]
      simp only [List.length_append, List.length_cons] at hrest ⊢
      omega

/-- The lines under a marker are those below its line if the marker has the rest of the line to
itself. -/
theorem linesUnder?_line {head behind : List Char} (hbehind : '\n' ∉ behind) (rest : List Char)
    {m : Marker} (hstop : head.length = m.stop) :
    linesUnder? (head ++ (behind ++ '\n' :: rest)) m =
      if behind.all isLineRest = false then none else some rest := by
  split
  · next hother =>
    apply Option.eq_none_iff_forall_ne_some.mpr
    intro under hunder
    obtain ⟨head', blanks, hlen, hblanks, heq⟩ := exists_of_linesUnder? hunder
    rw [List.append_assoc] at heq
    obtain ⟨-, hline⟩ := List.append_inj heq (hstop.trans hlen.symm)
    have hbreak : '\n' ∉ blanks := fun h => absurd (hblanks _ h) (by decide)
    obtain ⟨tail, hsplit, htail⟩ := front_in_line hbreak hline
    -- The break under the marker is the one behind its line, so that blanks alone are before it.
    cases tail with
    | nil =>
      obtain ⟨c, hc, hnot⟩ := List.all_eq_false.mp hother
      rw [List.append_nil] at hsplit
      exact hnot (hblanks c (hsplit ▸ hc))
    | cons d tail =>
      obtain rfl : '\n' = d := (List.cons.inj htail).1
      exact hbehind (by simp [hsplit])
  · next hall =>
    rw [← List.append_assoc]
    exact linesUnder?_of_eq hstop (List.all_eq_true.mp (eq_true_of_ne_false hall))

/-- The text of the block of a marker is told by the marker's line and the lines below. -/
theorem valueOf_line {whole line : List Char} (hwhole : WholeLines whole) (hline : '\n' ∉ line)
    (rest : List Char) {m : Marker} (hm : m ∈ scanFrom whole.length 0 true line) :
    (linesUnder? (whole ++ (line ++ '\n' :: rest)) m).map
      (fun under => trim (body (whole ++ (line ++ '\n' :: rest)) false m under)) =
        valueOf (line.drop (m.stop - whole.length)) (lines rest) := by
  have hbounds := bounds_of_mem_scanFrom hm
  have hbehind : '\n' ∉ line.drop (m.stop - whole.length) := fun h => hline (List.mem_of_mem_drop h)
  -- The marker ends within its line, whose rest is behind it.
  have hstop : (whole ++ line.take (m.stop - whole.length)).length = m.stop := by
    rw [List.length_append, List.length_take]
    omega
  have htext : whole ++ (line ++ '\n' :: rest) = whole ++ line.take (m.stop - whole.length) ++
      (line.drop (m.stop - whole.length) ++ '\n' :: rest) := by
    rw [List.append_assoc, ← List.append_assoc (List.take _ _), List.take_append_drop]
  have hunder := linesUnder?_line hbehind rest hstop
  rw [← htext] at hunder
  have hne : lines rest ≠ [] := List.splitOn_ne_nil _ _
  rw [hunder, valueOf]
  by_cases hother : (line.drop (m.stop - whole.length)).all isLineRest = false
  · rw [if_pos hother, if_pos (.inr hother)]
    rfl
  · obtain ⟨front, next, run, hcut, hrun, hfront, -⟩ := exists_cut rest
    rw [if_neg hother, if_neg (not_or.mpr ⟨hne, hother⟩), Option.map_some, body,
      blockEnd_of_cut hwhole hline hcut hbounds.1 (by omega)]
    -- The body are the lines below, up to the cut.
    have htake : whole.length + line.length + 1 + front.length -
        ((whole ++ (line ++ '\n' :: rest)).length - rest.length) = front.length := by
      simp only [List.length_append, List.length_cons]
      omega
    rw [htake, hcut.split, List.take_left, ← hcut.split, hfront]
    exact congrArg some (trimBy_append_of_all isBlank _ hrun)

/-- A marker on the last line has nothing under it. -/
theorem linesUnder?_last {whole line : List Char} (hline : '\n' ∉ line) {m : Marker}
    (hm : m ∈ scanFrom whole.length 0 true line) : linesUnder? (whole ++ line) m = none := by
  have hbounds := bounds_of_mem_scanFrom hm
  apply Option.eq_none_iff_forall_ne_some.mpr
  intro under hunder
  have hbreak := break_mem_of_linesUnder? hunder
  rw [List.drop_append, List.drop_of_length_le (by omega), List.nil_append] at hbreak
  exact hline (List.mem_of_mem_drop hbreak)

/-! ## Searching line by line -/

/-- The first marker of a kind in a text is in the first line that has one, and the text of its
block is told by the lines. -/
theorem map_find?_scan {p : Marker → Bool} {find : List Char → Option (List Char)}
    (hfind : ∀ pos line, '\n' ∉ line → ((scanFrom pos 0 true line).find? p).map
      (fun m => line.drop (m.stop - pos)) = find line)
    {whole : List Char} (hwhole : WholeLines whole) (cs : List Char) :
    ((scanFrom whole.length 0 true cs).find? p).map (fun m => (linesUnder? (whole ++ cs) m).map
      fun under => trim (body (whole ++ cs) false m under)) =
        (first? find (lines cs)).map fun (behind, below) => valueOf behind below := by
  induction cs using line_induction generalizing whole with
  | last line hline =>
    rw [lines_of_notMem hline, first?, ← hfind whole.length line hline]
    cases hm : (scanFrom whole.length 0 true line).find? p with
    | none => rfl
    | some m =>
      rw [Option.map_some, linesUnder?_last hline (List.mem_of_find?_eq_some hm)]
      simp [valueOf]
  | line line rest hline ih =>
    rw [lines_line hline, first?, ← hfind whole.length line hline, scanFrom_line _ _ _ _ _ hline
      (Nat.zero_le _), List.find?_append]
    cases hm : (scanFrom whole.length 0 true line).find? p with
    | none =>
      have hnext : WholeLines (whole ++ (line ++ ['\n'])) :=
        hwhole.append (.line line [] hline .nil)
      have hrest := ih hnext
      have htext : whole ++ (line ++ ['\n']) ++ rest = whole ++ (line ++ '\n' :: rest) := by simp
      have hlen : (whole ++ (line ++ ['\n'])).length = whole.length + line.length + 1 := by
        simp only [List.length_append, List.length_singleton]
        omega
      rw [htext, hlen] at hrest
      rw [Option.none_or]
      exact hrest
    | some m =>
      simp only [Option.some_or, Option.map_some]
      rw [valueOf_line hwhole hline rest (List.mem_of_find?_eq_some hm)]

/-- What is found and gone on with is found with what it leads to. -/
theorem bind_eq_join {α β : Type} (o : Option α) (f : α → Option β) :
    o.bind f = (o.map f).join := by
  cases o <;> rfl

/-- A scanner gives the text that the grammar of lines gives to a name. -/
theorem value?_ofText_lines (cs name : List Char) :
    (ofText cs).value? false name = value? (lines cs) name := by
  have hopening := map_find?_scan (fun pos line hline => map_find?_lineStart pos name hline) .nil cs
  have hwithin := map_find?_scan (fun pos line _ => map_find?_named pos name line) .nil cs
  rw [value?_ofText, value?, start?, bind_eq_join, bind_eq_join, markerOf?_ofText, Option.map_or,
    Option.map_or]
  exact congrArg Option.join (congr (congrArg Option.or hopening) hwithin)

/-- A scanner gives the text that the grammar of lines gives to a name, in which what opens a line
and what is a complete marker is told by the forms of the two halves. -/
theorem value?_eq_lines :
    (∀ line, opens line = true ↔
      ∃ pads rest, (∀ c ∈ pads, isPad c = true) ∧ line = openerOf pads ++ rest) ∧
    (∀ cs name behind, complete? cs = some (name, behind) ↔ Complete cs name behind) ∧
    ∀ cs name, (ofText cs).value? false name = value? (lines cs) name :=
  ⟨opens_iff, fun _ _ _ => complete?_eq_some_iff, value?_ofText_lines⟩

end PromptContract.Reply.Lines
