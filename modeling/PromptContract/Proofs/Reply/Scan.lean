import PromptContract.Proofs.Text.Lines
import PromptContract.Reply.Scanner

/-!
# Markers line by line

The halves of a marker have explicit forms (`afterOpener?_eq_some_iff`, `afterCloser?_eq_some_iff`)
in which no line break occurs, so that what stands at the front of a text depends on its first line
alone (`atFront?_line`). Hence a scan goes line by line: behind whole lines it starts afresh
(`scanFrom_append`), and the places of its markers grow from left to right (`pairwise_scanFrom`).

What a marker at the front of a text consists of is told by `atFront?_cases`: its opening half and,
if it has a name, the text up to the first closing half behind that. A closing half that more text
would bring about reaches into this text (`exists_of_afterCloser?_append`), and so a marker that has
its name keeps it whatever text comes behind (`atFront?_append_of_named`). A marker stands at the
start of a line exactly where a line starts with an opening half, be it named or not
(`mem_lineStarts_iff`).
-/

namespace PromptContract.Reply.Marker

open Text

/-! ## The halves of a marker -/

/-- Padding has no line break. -/
theorem break_notMem_of_isPad {pads : List Char} (h : ∀ c ∈ pads, isPad c = true) :
    '\n' ∉ pads := fun hmem => absurd (h _ hmem) (by decide)

/-- Padding in front of a character that pads nothing is skipped. -/
theorem skipPad_pads {pads : List Char} (hpads : ∀ c ∈ pads, isPad c = true) {c : Char}
    (hc : isPad c = false) (rest : List Char) : skipPad (pads ++ c :: rest) = c :: rest := by
  rw [skipPad, List.dropWhile_append_of_pos hpads, List.dropWhile_cons_of_neg (by simp [hc])]

/-- A text is padding and what is left when it is skipped. -/
theorem exists_pads_skipPad (cs : List Char) :
    ∃ pads, (∀ c ∈ pads, isPad c = true) ∧ cs = pads ++ skipPad cs :=
  ⟨cs.takeWhile isPad, List.all_eq_true.mp List.all_takeWhile,
    List.takeWhile_append_dropWhile.symm⟩

/-- What is skipped in front of a character that pads nothing is padding. -/
theorem skipPad_eq_cons_iff {c : Char} (hc : isPad c = false) {cs rest : List Char} :
    skipPad cs = c :: rest ↔
      ∃ pads, (∀ c ∈ pads, isPad c = true) ∧ cs = pads ++ c :: rest := by
  constructor
  · intro h
    rw [← h]
    exact exists_pads_skipPad cs
  · rintro ⟨pads, hpads, rfl⟩
    exact skipPad_pads hpads hc rest

/-- An opening half with its padding. -/
def openerOf (pads : List Char) : List Char := '[' :: '[' :: pads ++ ['#', '#']

/-- A closing half with its padding. -/
def closerOf (pads : List Char) : List Char := '#' :: '#' :: pads ++ [']', ']']

/-- An opening half is two brackets, padding and two hash signs. -/
theorem afterOpener?_eq_some_iff {cs rest : List Char} :
    afterOpener? cs = some rest ↔
      ∃ pads, (∀ c ∈ pads, isPad c = true) ∧ cs = openerOf pads ++ rest := by
  constructor
  · intro h
    unfold afterOpener? at h
    split at h
    · next tail =>
      split at h
      · next rest' hskip =>
        obtain rfl : rest' = rest := by simpa using h
        obtain ⟨pads, hpads, rfl⟩ := (skipPad_eq_cons_iff (by decide)).mp hskip
        exact ⟨pads, hpads, by simp [openerOf]⟩
      · cases h
    · cases h
  · rintro ⟨pads, hpads, rfl⟩
    have hskip : skipPad (pads ++ '#' :: '#' :: rest) = '#' :: '#' :: rest :=
      skipPad_pads hpads (by decide) _
    simp [openerOf, afterOpener?, hskip]

/-- A closing half is two hash signs, padding and two brackets. -/
theorem afterCloser?_eq_some_iff {cs rest : List Char} :
    afterCloser? cs = some rest ↔
      ∃ pads, (∀ c ∈ pads, isPad c = true) ∧ cs = closerOf pads ++ rest := by
  constructor
  · intro h
    unfold afterCloser? at h
    split at h
    · next tail =>
      split at h
      · next rest' hskip =>
        obtain rfl : rest' = rest := by simpa using h
        obtain ⟨pads, hpads, rfl⟩ := (skipPad_eq_cons_iff (by decide)).mp hskip
        exact ⟨pads, hpads, by simp [closerOf]⟩
      · cases h
    · cases h
  · rintro ⟨pads, hpads, rfl⟩
    have hskip : skipPad (pads ++ ']' :: ']' :: rest) = ']' :: ']' :: rest :=
      skipPad_pads hpads (by decide) _
    simp [closerOf, afterCloser?, hskip]

/-- An opening half has no characters but brackets, hash signs and padding. -/
theorem notMem_openerOf {stop : Char} (hpad : isPad stop = false) (hsign : stop ∉ ['[', '#'])
    {pads : List Char} (h : ∀ c ∈ pads, isPad c = true) : stop ∉ openerOf pads := by
  have hpads : stop ∉ pads := fun hmem => by simp [h stop hmem] at hpad
  simp only [List.mem_cons, List.not_mem_nil, or_false, not_or] at hsign
  simp [openerOf, hpads, hsign]

/-- Nor has a closing half. -/
theorem notMem_closerOf {stop : Char} (hpad : isPad stop = false) (hsign : stop ∉ ['#', ']'])
    {pads : List Char} (h : ∀ c ∈ pads, isPad c = true) : stop ∉ closerOf pads := by
  have hpads : stop ∉ pads := fun hmem => by simp [h stop hmem] at hpad
  simp only [List.mem_cons, List.not_mem_nil, or_false, not_or] at hsign
  simp [closerOf, hpads, hsign]

/-- No line break stands in an opening half. -/
theorem break_notMem_openerOf {pads : List Char} (h : ∀ c ∈ pads, isPad c = true) :
    '\n' ∉ openerOf pads := notMem_openerOf (by decide) (by decide) h

/-- No line break stands in a closing half. -/
theorem break_notMem_closerOf {pads : List Char} (h : ∀ c ∈ pads, isPad c = true) :
    '\n' ∉ closerOf pads := notMem_closerOf (by decide) (by decide) h

/-! ## One line decides -/

/-- Whether a text starts with a part of some form is told by what stands in front of a character
that occurs in no such part. -/
theorem after_stop {after? : List Char → Option (List Char)} {half : List Char → List Char}
    (hiff : ∀ cs rest, after? cs = some rest ↔
      ∃ pads, (∀ c ∈ pads, isPad c = true) ∧ cs = half pads ++ rest) {stop : Char}
    (hstop : ∀ pads, (∀ c ∈ pads, isPad c = true) → stop ∉ half pads) (front rest : List Char) :
    after? (front ++ stop :: rest) = (after? front).map (· ++ stop :: rest) := by
  apply Option.ext
  intro behind
  rw [Option.map_eq_some_iff]
  constructor
  · intro h
    obtain ⟨pads, hpads, heq⟩ := (hiff _ _).mp h
    obtain ⟨tail, hl, hb⟩ := front_in_line (hstop pads hpads) heq
    exact ⟨tail, (hiff _ _).mpr ⟨pads, hpads, hl⟩, hb.symm⟩
  · rintro ⟨tail, h, rfl⟩
    obtain ⟨pads, hpads, rfl⟩ := (hiff _ _).mp h
    exact (hiff _ _).mpr ⟨pads, hpads, by simp⟩

/-- An opening half at the front of a text ends before a character that is no part of one. -/
theorem afterOpener?_stop {stop : Char} (hpad : isPad stop = false) (hsign : stop ∉ ['[', '#'])
    (front rest : List Char) :
    afterOpener? (front ++ stop :: rest) = (afterOpener? front).map (· ++ stop :: rest) :=
  after_stop (fun _ _ => afterOpener?_eq_some_iff) (fun _ => notMem_openerOf hpad hsign) front rest

/-- So does a closing half. -/
theorem afterCloser?_stop {stop : Char} (hpad : isPad stop = false) (hsign : stop ∉ ['#', ']'])
    (front rest : List Char) :
    afterCloser? (front ++ stop :: rest) = (afterCloser? front).map (· ++ stop :: rest) :=
  after_stop (fun _ _ => afterCloser?_eq_some_iff) (fun _ => notMem_closerOf hpad hsign) front rest

/-- Whether a text starts with an opening half depends on its first line. -/
theorem afterOpener?_line (line rest : List Char) :
    afterOpener? (line ++ '\n' :: rest) = (afterOpener? line).map (· ++ '\n' :: rest) :=
  afterOpener?_stop (by decide) (by decide) line rest

/-- The name of a marker and what comes behind it are told by what stands in front of a character
that is no part of a closing half, if none is found from that character on. -/
theorem untilCloser?_stop {stop : Char} (hpad : isPad stop = false) (hsign : stop ∉ ['#', ']'])
    (front : List Char) {rest : List Char} (hnone : untilCloser? (stop :: rest) = none) :
    untilCloser? (front ++ stop :: rest) =
      (untilCloser? front).map fun (inner, behind) => (inner, behind ++ stop :: rest) := by
  induction front with
  | nil =>
    rw [List.nil_append, hnone]
    rfl
  | cons c front ih =>
    -- A closing half at the front ends before the character, and where there is none the name goes
    -- on.
    have hcloser := afterCloser?_stop hpad hsign (c :: front) rest
    rw [List.cons_append] at hcloser ⊢
    rw [untilCloser?, untilCloser?, hcloser]
    cases afterCloser? (c :: front) with
    | some behind => rfl
    | none =>
      simp only [Option.map_none]
      split
      · rfl
      · rw [ih, Option.map_map, Option.map_map]
        rfl

/-- The name of a marker and what comes behind it depend on the rest of the line. -/
theorem untilCloser?_line (line rest : List Char) :
    untilCloser? (line ++ '\n' :: rest) =
      (untilCloser? line).map fun (inner, behind) => (inner, behind ++ '\n' :: rest) :=
  untilCloser?_stop (by decide) (by decide) line rfl

/-- What comes behind an opening half is an end of the text. -/
theorem length_of_afterOpener? {cs rest : List Char} (h : afterOpener? cs = some rest) :
    rest.length + 4 ≤ cs.length := by
  obtain ⟨pads, -, rfl⟩ := afterOpener?_eq_some_iff.mp h
  simp only [openerOf, List.length_append, List.length_cons, List.length_nil]
  omega

/-- The name of a marker, the closing half and what comes behind make up the text. -/
theorem untilCloser?_eq_some {cs inner rest : List Char}
    (h : untilCloser? cs = some (inner, rest)) :
    ∃ pads, (∀ c ∈ pads, isPad c = true) ∧ '\n' ∉ inner ∧ cs = inner ++ closerOf pads ++ rest := by
  induction cs generalizing inner with
  | nil => cases h
  | cons c cs ih =>
    rw [untilCloser?] at h
    cases hcloser : afterCloser? (c :: cs) with
    | some behind =>
      rw [hcloser] at h
      obtain ⟨rfl, rfl⟩ : [] = inner ∧ behind = rest := by simpa using h
      obtain ⟨pads, hpads, heq⟩ := afterCloser?_eq_some_iff.mp hcloser
      exact ⟨pads, hpads, by simp, by simpa using heq⟩
    | none =>
      rw [hcloser] at h
      by_cases hc : c = '\n'
      · simp [hc] at h
      · simp only [if_neg hc, Option.map_eq_some_iff, Prod.mk.injEq, Prod.exists] at h
        obtain ⟨inner', rest', htail, rfl, rfl⟩ := h
        obtain ⟨pads, hpads, hbreak, rfl⟩ := ih htail
        exact ⟨pads, hpads, by simp [Ne.symm hc, hbreak], by simp⟩

/-- No closing half starts in the name of a marker. -/
theorem afterCloser?_of_untilCloser? {cs inner behind front rest : List Char}
    (h : untilCloser? cs = some (inner, behind)) (heq : cs = front ++ rest)
    (hlt : front.length < inner.length) : afterCloser? rest = none := by
  induction cs generalizing inner front with
  | nil => cases h
  | cons c cs ih =>
    rw [untilCloser?] at h
    cases hcloser : afterCloser? (c :: cs) with
    | some behind' =>
      rw [hcloser] at h
      obtain ⟨rfl, -⟩ : [] = inner ∧ behind' = behind := by simpa using h
      exact absurd hlt (Nat.not_lt_zero _)
    | none =>
      rw [hcloser] at h
      by_cases hc : c = '\n'
      · simp [hc] at h
      · simp only [if_neg hc, Option.map_eq_some_iff, Prod.mk.injEq, Prod.exists] at h
        obtain ⟨inner', behind', htail, rfl, rfl⟩ := h
        cases front with
        | nil =>
          rw [← List.nil_append rest, ← heq]
          exact hcloser
        | cons d front =>
          exact ih htail (List.cons.inj heq).2 (Nat.lt_of_succ_lt_succ hlt)

/-- A text without a break goes up to the closing half behind it, if none starts in it. -/
theorem untilCloser?_of_first {inner pads behind : List Char}
    (hpads : ∀ c ∈ pads, isPad c = true) (hbreak : '\n' ∉ inner)
    (hfirst : ∀ front rest, inner ++ (closerOf pads ++ behind) = front ++ rest →
      front.length < inner.length → afterCloser? rest = none) :
    untilCloser? (inner ++ (closerOf pads ++ behind)) = some (inner, behind) := by
  induction inner with
  | nil =>
    have hcloser : afterCloser? (closerOf pads ++ behind) = some behind :=
      afterCloser?_eq_some_iff.mpr ⟨pads, hpads, rfl⟩
    simp only [closerOf, List.cons_append] at hcloser
    simp only [closerOf, List.nil_append, List.cons_append, untilCloser?, hcloser]
  | cons c inner ih =>
    have hc : c ≠ '\n' := fun h => hbreak (by simp [h])
    have hnone : afterCloser? (c :: (inner ++ (closerOf pads ++ behind))) = none :=
      hfirst [] _ rfl (Nat.succ_pos _)
    have hrest := ih (fun h => hbreak (List.mem_cons_of_mem _ h)) fun front rest heq hlt =>
      hfirst (c :: front) rest (by rw [List.cons_append, heq]; rfl) (Nat.succ_lt_succ hlt)
    rw [List.cons_append, untilCloser?, hnone]
    simp only [if_neg hc, hrest, Option.map_some]

/-- A marker at the front of a text stands in its first line. -/
theorem atFront?_line (line rest : List Char) :
    atFront? (line ++ '\n' :: rest) = atFront? line := by
  unfold atFront?
  rw [afterOpener?_line line rest]
  cases hopen : afterOpener? line with
  | none => rfl
  | some behind =>
    have hlen := length_of_afterOpener? hopen
    simp only [Option.map_some, Option.bind_eq_bind, Option.bind_some,
      untilCloser?_line behind rest]
    -- The rest of the text adds as much to the whole as to what comes behind the marker.
    cases huntil : untilCloser? behind with
    | none => simp; omega
    | some found => simp; omega

/-! ## A marker at the front of a text -/

/-- A marker is at the front of a text exactly where the text starts with an opening half. -/
theorem atFront?_isSome (cs : List Char) : (atFront? cs).isSome = (afterOpener? cs).isSome := by
  unfold atFront?
  cases hopen : afterOpener? cs with
  | none => rfl
  | some rest =>
    cases huntil : untilCloser? rest with
    | none => simp [huntil]
    | some found => simp [huntil]

/-- Without an opening half at its front a text has no marker there. -/
theorem atFront?_eq_none {cs : List Char} (h : afterOpener? cs = none) : atFront? cs = none := by
  unfold atFront?
  rw [h]
  rfl

/-- With an opening half at its front and a closing half behind it on the line, a text has a marker
there that is named by what is between the two. -/
theorem atFront?_of_untilCloser? {pads rest inner behind : List Char}
    (hpads : ∀ c ∈ pads, isPad c = true) (h : untilCloser? rest = some (inner, behind)) :
    atFront? (openerOf pads ++ rest) =
      some ((openerOf pads ++ rest).length - behind.length, some (trimBy isPad inner)) := by
  have hopen : afterOpener? (openerOf pads ++ rest) = some rest :=
    afterOpener?_eq_some_iff.mpr ⟨pads, hpads, rfl⟩
  unfold atFront?
  simp only [hopen, h, Option.bind_eq_bind, Option.bind_some]

/-- A marker at the front of a text begins with an opening half. It either has a name, and goes up
to the end of the first closing half of the line, or it is the opening half alone. -/
theorem atFront?_cases {cs : List Char} {n : Nat} {name : Option (List Char)}
    (h : atFront? cs = some (n, name)) :
    ∃ pads rest, (∀ c ∈ pads, isPad c = true) ∧ cs = openerOf pads ++ rest ∧
      ((name = none ∧ n = (openerOf pads).length ∧ untilCloser? rest = none) ∨
        ∃ inner behind, name = some (trimBy isPad inner) ∧
          untilCloser? rest = some (inner, behind) ∧ n + behind.length = cs.length) := by
  unfold atFront? at h
  cases hopen : afterOpener? cs with
  | none => simp [hopen] at h
  | some rest =>
    obtain ⟨pads, hpads, rfl⟩ := afterOpener?_eq_some_iff.mp hopen
    refine ⟨pads, rest, hpads, rfl, ?_⟩
    cases huntil : untilCloser? rest with
    | none =>
      simp only [hopen, huntil, Option.bind_eq_bind, Option.bind_some, Option.some.injEq,
        Prod.mk.injEq] at h
      obtain ⟨hn, hname⟩ := h
      rw [List.length_append] at hn
      exact .inl ⟨hname.symm, by omega, rfl⟩
    | some found =>
      obtain ⟨inner, behind⟩ := found
      simp only [hopen, huntil, Option.bind_eq_bind, Option.bind_some, Option.some.injEq,
        Prod.mk.injEq] at h
      obtain ⟨hn, hname⟩ := h
      obtain ⟨pads', -, -, hrest⟩ := untilCloser?_eq_some huntil
      have hlen := congrArg List.length hrest
      simp only [List.length_append] at hn hlen
      refine .inr ⟨inner, behind, hname.symm, rfl, ?_⟩
      rw [List.length_append]
      omega

/-- A marker has at least the four characters of its opening half, and lies in the text. -/
theorem length_of_atFront? {cs : List Char} {n : Nat} {name : Option (List Char)}
    (h : atFront? cs = some (n, name)) : 4 ≤ n ∧ n ≤ cs.length := by
  obtain ⟨pads, rest, -, rfl, ⟨-, rfl, -⟩ | ⟨inner, behind, -, huntil, hlen⟩⟩ := atFront?_cases h
  · simp [openerOf]
  · obtain ⟨pads', -, -, rfl⟩ := untilCloser?_eq_some huntil
    simp only [openerOf, List.length_append, List.length_cons, List.length_nil] at hlen ⊢
    omega

/-- More text behind an opening half changes nothing about it. -/
theorem afterOpener?_append {cs rest : List Char} (more : List Char)
    (h : afterOpener? cs = some rest) : afterOpener? (cs ++ more) = some (rest ++ more) := by
  obtain ⟨pads, hpads, rfl⟩ := afterOpener?_eq_some_iff.mp h
  exact afterOpener?_eq_some_iff.mpr ⟨pads, hpads, by rw [List.append_assoc]⟩

/-- A closing half that a text starts with only when more text comes behind reaches into that text,
with its last bracket at least. -/
theorem exists_of_afterCloser?_append {cs more rest : List Char} (hnone : afterCloser? cs = none)
    (h : afterCloser? (cs ++ more) = some rest) :
    ∃ pads mid, (∀ c ∈ pads, isPad c = true) ∧ more = mid ++ ']' :: rest ∧
      cs ++ mid = '#' :: '#' :: pads ++ [']'] := by
  obtain ⟨pads, hpads, heq⟩ := afterCloser?_eq_some_iff.mp h
  have hwhole : ∀ tail, cs ≠ closerOf pads ++ tail := by
    rintro tail rfl
    rw [afterCloser?_eq_some_iff.mpr ⟨pads, hpads, rfl⟩] at hnone
    cases hnone
  rcases List.append_eq_append_iff.mp heq with ⟨tail, hcloser, hmore⟩ | ⟨tail, hcs, -⟩
  · have htail : tail ≠ [] := by
      rintro rfl
      exact hwhole [] (by rw [hcloser, List.append_nil, List.append_nil])
    -- The part of the closing half that is in the text behind ends with its last bracket.
    obtain ⟨mid, last, rfl⟩ := (List.eq_nil_or_concat tail).resolve_left htail
    rw [List.concat_eq_append] at hcloser hmore
    have hlast : ('#' :: '#' :: pads ++ [']']) ++ [']'] = (cs ++ mid) ++ [last] := by
      rw [List.append_assoc cs, ← hcloser]
      simp [closerOf]
    obtain ⟨hfront, hbracket⟩ := List.append_inj' hlast rfl
    obtain rfl : ']' = last := (List.cons.inj hbracket).1
    exact ⟨pads, mid, hpads, by rw [hmore, List.append_assoc]; rfl, hfront.symm⟩
  · exact absurd hcs (hwhole tail)

/-- A text with a whole closing half somewhere is no beginning of another one that lacks its end. -/
theorem afterCloser?_append_of_none {cs more : List Char} (hnone : afterCloser? cs = none)
    (hcount : 2 ≤ cs.count ']') : afterCloser? (cs ++ more) = none := by
  cases h : afterCloser? (cs ++ more) with
  | none => rfl
  | some rest =>
    exfalso
    -- In front of its last bracket a closing half has only one.
    obtain ⟨pads, mid, hpads, -, hfront⟩ := exists_of_afterCloser?_append hnone h
    have hzero : pads.count ']' = 0 :=
      List.count_eq_zero.mpr fun hmem => absurd (hpads _ hmem) (by decide)
    have hsum := congrArg (List.count ']') hfront
    simp [List.count_append, hzero] at hsum
    omega

/-- A name that is complete stays the same whatever text comes behind. -/
theorem untilCloser?_append {cs inner rest : List Char} (more : List Char)
    (h : untilCloser? cs = some (inner, rest)) :
    untilCloser? (cs ++ more) = some (inner, rest ++ more) := by
  obtain ⟨pads, hpads, hbreak, hcs⟩ := untilCloser?_eq_some h
  have htext : cs ++ more = inner ++ (closerOf pads ++ (rest ++ more)) := by simp [hcs]
  rw [htext]
  refine untilCloser?_of_first hpads hbreak fun front tail heq hlt => ?_
  rcases List.append_eq_append_iff.mp heq with ⟨mid, rfl, -⟩ | ⟨mid, rfl, rfl⟩
  · rw [List.length_append] at hlt
    omega
  · -- What starts in the name has both brackets of the closing half in the text already.
    have hnone : afterCloser? (mid ++ closerOf pads ++ rest) = none :=
      afterCloser?_of_untilCloser? h (by simp [hcs]) hlt
    have hcount : 2 ≤ (mid ++ closerOf pads ++ rest).count ']' := by
      simp [closerOf, List.count_append]
      omega
    have hkept : afterCloser? (mid ++ closerOf pads ++ rest ++ more) = none :=
      afterCloser?_append_of_none hnone hcount
    rwa [List.append_assoc, List.append_assoc] at hkept

/-- A marker with a name is the same marker whatever text comes behind. -/
theorem atFront?_append_of_named {cs name : List Char} {n : Nat} (more : List Char)
    (h : atFront? cs = some (n, some name)) : atFront? (cs ++ more) = some (n, some name) := by
  obtain ⟨pads, rest, hpads, rfl, ⟨hnone, -, -⟩ | ⟨inner, behind, hname, huntil, hlen⟩⟩ :=
    atFront?_cases h
  · cases hnone
  · rw [List.append_assoc, atFront?_of_untilCloser? hpads (untilCloser?_append more huntil), hname]
    congr 2
    simp only [List.length_append] at hlen ⊢
    omega

/-! ## Scanning -/

/-- A line is scanned by itself, and behind its break a scan starts afresh. -/
theorem scanFrom_line (pos skip : Nat) (lineStart : Bool) (line rest : List Char)
    (hline : '\n' ∉ line) (hskip : skip ≤ line.length) :
    scanFrom pos skip lineStart (line ++ '\n' :: rest) =
      scanFrom pos skip lineStart line ++ scanFrom (pos + line.length + 1) 0 true rest := by
  induction line generalizing pos skip lineStart with
  | nil =>
    obtain rfl : skip = 0 := Nat.le_zero.mp hskip
    simp [scanFrom, atFront?, afterOpener?]
  | cons c line ih =>
    have hbreak : '\n' ∉ line := fun h => hline (List.mem_cons_of_mem c h)
    have hpos : pos + (c :: line).length + 1 = pos + 1 + line.length + 1 := by
      rw [List.length_cons]; omega
    have hfront := atFront?_line (c :: line) rest
    rw [List.cons_append] at hfront ⊢
    rw [hpos]
    cases skip with
    | succ skip =>
      rw [scanFrom, scanFrom]
      exact ih _ _ _ hbreak (Nat.le_of_succ_le_succ hskip)
    | zero =>
      rw [scanFrom, scanFrom, hfront]
      cases hat : atFront? (c :: line) with
      | none => exact ih _ _ _ hbreak (Nat.zero_le _)
      | some found =>
        -- A marker of the line ends within it, so that nothing is skipped behind the break.
        obtain ⟨n, name⟩ := found
        have hn := (length_of_atFront? hat).2
        rw [List.length_cons] at hn
        simp only [List.cons_append]
        rw [ih _ _ _ hbreak (by omega)]

/-- Behind whole lines a scan starts afresh. -/
theorem scanFrom_append (pos : Nat) {whole : List Char} (h : WholeLines whole) (cs : List Char) :
    scanFrom pos 0 true (whole ++ cs) =
      scanFrom pos 0 true whole ++ scanFrom (pos + whole.length) 0 true cs := by
  induction h generalizing pos with
  | nil => rfl
  | line line rest hline _ ih =>
    rw [List.append_assoc, List.cons_append, scanFrom_line _ _ _ _ _ hline (Nat.zero_le _),
      scanFrom_line _ _ _ _ _ hline (Nat.zero_le _), ih, List.append_assoc]
    congr 3
    simp only [List.length_append, List.length_cons]
    omega

/-- A scan of whole lines and more is the scan of the whole lines and that of the rest. -/
theorem scan_append {whole : List Char} (h : WholeLines whole) (cs : List Char) :
    scan (whole ++ cs) = scan whole ++ scanFrom whole.length 0 true cs := by
  rw [scan, scanFrom_append 0 h, Nat.zero_add, scan]

/-- The places of a marker lie in the text behind what is skipped. -/
theorem bounds_of_mem_scanFrom {pos skip : Nat} {lineStart : Bool} {cs : List Char} {m : Marker}
    (h : m ∈ scanFrom pos skip lineStart cs) :
    pos + skip ≤ m.start ∧ m.start < m.stop ∧ m.stop ≤ pos + cs.length := by
  induction cs generalizing pos skip lineStart with
  | nil => cases h
  | cons c cs ih =>
    rw [List.length_cons]
    cases skip with
    | succ skip =>
      rw [scanFrom] at h
      have hbounds := ih h
      omega
    | zero =>
      rw [scanFrom] at h
      cases hat : atFront? (c :: cs) with
      | none =>
        simp only [hat] at h
        have hbounds := ih h
        omega
      | some found =>
        obtain ⟨n, name⟩ := found
        have hn := length_of_atFront? hat
        rw [List.length_cons] at hn
        simp only [hat, List.mem_cons] at h
        rcases h with rfl | h
        · simp only
          omega
        · have hbounds := ih h
          omega

/-- Markers come from left to right and do not overlap. -/
theorem pairwise_scanFrom (pos skip : Nat) (lineStart : Bool) (cs : List Char) :
    (scanFrom pos skip lineStart cs).Pairwise (·.stop ≤ ·.start) := by
  induction cs generalizing pos skip lineStart with
  | nil => exact .nil
  | cons c cs ih =>
    cases skip with
    | succ skip => exact ih _ _ _
    | zero =>
      rw [scanFrom]
      cases hat : atFront? (c :: cs) with
      | none => exact ih _ _ _
      | some found =>
        -- The characters of the marker are skipped, and the next one starts behind them.
        obtain ⟨n, name⟩ := found
        have hn := (length_of_atFront? hat).1
        refine List.pairwise_cons.mpr ⟨fun m hm => ?_, ih _ _ _⟩
        have hbounds := (bounds_of_mem_scanFrom hm).1
        simp only
        omega

/-- What a recorded marker says is so: it stands at the front of the text from its start on, and it
is at the start of a line if the text before it ends in a break. -/
theorem exists_of_mem_scanFrom {pos skip : Nat} {lineStart : Bool} {cs : List Char} {m : Marker}
    (h : m ∈ scanFrom pos skip lineStart cs) :
    ∃ before behind n, cs = before ++ behind ∧ m.start = pos + before.length ∧
      m.stop = m.start + n ∧ atFront? behind = some (n, m.name) ∧
      m.lineStart = (before.getLast?.map (· == '\n')).getD lineStart := by
  induction cs generalizing pos skip lineStart with
  | nil => cases h
  | cons c cs ih =>
    -- A marker further on has the first character before it.
    have further : ∀ {skip}, m ∈ scanFrom (pos + 1) skip (c == '\n') cs →
        ∃ before behind n, c :: cs = before ++ behind ∧ m.start = pos + before.length ∧
          m.stop = m.start + n ∧ atFront? behind = some (n, m.name) ∧
          m.lineStart = (before.getLast?.map (· == '\n')).getD lineStart := by
      intro skip hm
      obtain ⟨before, behind, n, rfl, hstart, hstop, hat, hls⟩ := ih hm
      refine ⟨c :: before, behind, n, rfl, ?_, hstop, hat, ?_⟩
      · rw [hstart, List.length_cons]
        omega
      · rw [hls, List.getLast?_cons]
        cases before.getLast? <;> rfl
    cases skip with
    | succ skip => exact further h
    | zero =>
      rw [scanFrom] at h
      cases hat : atFront? (c :: cs) with
      | none => exact further (by simpa only [hat] using h)
      | some found =>
        obtain ⟨n, name⟩ := found
        simp only [hat, List.mem_cons] at h
        rcases h with rfl | h
        · exact ⟨[], c :: cs, n, rfl, rfl, rfl, hat, rfl⟩
        · exact further h

/-- A marker of a text stands at the front of the text from its start on, and at the start of a line
exactly when whole lines are before it. -/
theorem exists_of_mem_scan {cs : List Char} {m : Marker} (h : m ∈ scan cs) :
    ∃ before behind n, cs = before ++ behind ∧ m.start = before.length ∧ m.stop = m.start + n ∧
      atFront? behind = some (n, m.name) ∧ (m.lineStart = true ↔ WholeLines before) := by
  obtain ⟨before, behind, n, hcs, hstart, hstop, hat, hls⟩ := exists_of_mem_scanFrom h
  refine ⟨before, behind, n, hcs, by rw [hstart, Nat.zero_add], hstop, hat, ?_⟩
  rw [hls, wholeLines_iff]
  cases hlast : before.getLast? with
  | none => simp [List.getLast?_eq_none_iff.mp hlast]
  | some c =>
    have hne : before ≠ [] := fun hnil => by simp [hnil] at hlast
    simp [hne]

/-- A line that starts with a marker has it in the scan. -/
theorem mem_scan_of_atFront? {before behind : List Char} {n : Nat} {name : Option (List Char)}
    (hbefore : WholeLines before) (h : atFront? behind = some (n, name)) :
    ⟨before.length, before.length + n, name, true⟩ ∈ scan (before ++ behind) := by
  rw [scan_append hbefore]
  apply List.mem_append_right
  cases behind with
  | nil => cases h
  | cons c cs =>
    rw [scanFrom, h]
    exact List.mem_cons_self

/-- The places of the lines that start with an opening half. -/
def lineStarts (cs : List Char) : List Nat := ((scan cs).filter (·.lineStart)).map (·.start)

/-- A line start is recorded exactly where a line starts with an opening half. -/
theorem mem_lineStarts_iff {cs : List Char} {i : Nat} :
    i ∈ lineStarts cs ↔ ∃ before behind, cs = before ++ behind ∧ before.length = i ∧
      WholeLines before ∧ (afterOpener? behind).isSome = true := by
  unfold lineStarts
  simp only [List.mem_map, List.mem_filter]
  constructor
  · rintro ⟨m, ⟨hm, hls⟩, rfl⟩
    obtain ⟨before, behind, n, hcs, hstart, -, hat, hiff⟩ := exists_of_mem_scan hm
    refine ⟨before, behind, hcs, hstart.symm, hiff.mp hls, ?_⟩
    rw [← atFront?_isSome, hat]
    rfl
  · rintro ⟨before, behind, rfl, rfl, hbefore, hopen⟩
    rw [← atFront?_isSome, Option.isSome_iff_exists] at hopen
    obtain ⟨⟨n, name⟩, hat⟩ := hopen
    exact ⟨_, ⟨mem_scan_of_atFront? hbefore hat, rfl⟩, rfl⟩

end PromptContract.Reply.Marker
