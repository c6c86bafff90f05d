import PromptContract.Proofs.Reply.Pieces

/-!
# The block of a marker

A marker's block is what stands between its line and the next place where a field's text ends. The
lines under a marker are there once its own line has its break (`linesUnder?`), and the end of the
block is the first boundary behind the marker (`blockEnd`), so that `value?_ofText` reads a value as
the lines under its marker up to that end, trimmed.

A boundary is the start of a line that opens with a marker or, with `hold`, of a last line that may
still become one (`mem_boundaries_iff`). The latter are the padded proper first parts of an opening
half, and no others (`mayBecomeOpener_iff`).
-/

namespace PromptContract.Reply

open Text Marker

namespace Scanner

/-! ## The first marker of a kind -/

/-- The markers of a text start one behind the other. -/
theorem pairwise_scan_start (cs : List Char) : (scan cs).Pairwise (·.start < ·.start) := by
  refine (pairwise_scanFrom 0 0 true cs).imp_of_mem fun hm _ h => ?_
  have hbounds := bounds_of_mem_scanFrom hm
  omega

/-- The first marker of a kind stands in front of all others of that kind. -/
theorem find?_scan_eq_some_iff (cs : List Char) (p : Marker → Bool) (m : Marker) :
    (scan cs).find? p = some m ↔
      m ∈ scan cs ∧ p m = true ∧ ∀ k ∈ scan cs, p k = true → m.start ≤ k.start := by
  have hsorted := pairwise_scan_start cs
  generalize scan cs = ms at hsorted
  constructor
  · intro h
    refine ⟨List.mem_of_find?_eq_some h, List.find?_some h, fun k hk hp => ?_⟩
    obtain ⟨-, before, behind, rfl, hbefore⟩ := List.find?_eq_some_iff_append.mp h
    rcases List.mem_append.mp hk with hk | hk
    · have hno := hbefore k hk
      simp [hp] at hno
    · rcases List.mem_cons.mp hk with rfl | hk
      · exact Nat.le_refl _
      · have hbehind := (List.pairwise_append.mp hsorted).2.1
        exact Nat.le_of_lt ((List.pairwise_cons.mp hbehind).1 k hk)
  · rintro ⟨hm, hp, hleast⟩
    obtain ⟨before, behind, rfl⟩ := List.append_of_mem hm
    refine List.find?_eq_some_iff_append.mpr ⟨hp, before, behind, rfl, fun k hk => ?_⟩
    -- A marker of the kind in front of this one would start before it.
    have hlt := (List.pairwise_append.mp hsorted).2.2 k hk m List.mem_cons_self
    have hle := hleast k (List.mem_append_left _ hk)
    simp only [Bool.not_eq_true']
    exact Bool.eq_false_iff.mpr fun hkp => absurd (hle hkp) (Nat.not_le.mpr hlt)

/-- The marker that counts for a name is the first of the name at the start of a line and, where
there is none, the first of the name. -/
theorem markerOf?_ofText (cs name : List Char) : (ofText cs).markerOf? name =
    ((scan cs).find? fun m => m.name == some name && m.lineStart).or
      ((scan cs).find? fun m => m.name == some name) := by
  rw [ofText_eq]
  rfl

/-! ## The lines under a marker -/

/-- The lines under the line of a marker, if that line has a break and holds the marker alone. -/
def linesUnder? (cs : List Char) (m : Marker) : Option (List Char) :=
  match (cs.drop m.stop).dropWhile isLineRest with
  | '\n' :: rest => some rest
  | _ => none

/-- The lines under a marker are the text behind the break of the marker's line, in which only
blanks follow the marker. -/
theorem exists_of_linesUnder? {cs rest : List Char} {m : Marker}
    (h : linesUnder? cs m = some rest) :
    ∃ head blanks, head.length = m.stop ∧ (∀ c ∈ blanks, isLineRest c = true) ∧
      cs = head ++ blanks ++ '\n' :: rest := by
  unfold linesUnder? at h
  split at h
  · next tail hdrop =>
    obtain rfl : tail = rest := by simpa using h
    have hsplit := List.takeWhile_append_dropWhile (p := isLineRest) (l := cs.drop m.stop)
    rw [hdrop] at hsplit
    refine ⟨cs.take m.stop, (cs.drop m.stop).takeWhile isLineRest, ?_,
      List.all_eq_true.mp List.all_takeWhile, ?_⟩
    · rw [List.length_take_of_le]
      apply Nat.le_of_not_lt
      intro hlt
      rw [List.drop_of_length_le (Nat.le_of_lt hlt)] at hsplit
      simp at hsplit
    · rw [List.append_assoc, hsplit, List.take_append_drop]
  · cases h

/-- A marker whose line has only blanks behind it, and a break, has the text behind that break under
it. -/
theorem linesUnder?_of_eq {head blanks rest : List Char} {m : Marker} (hstop : head.length = m.stop)
    (hblanks : ∀ c ∈ blanks, isLineRest c = true) :
    linesUnder? (head ++ blanks ++ '\n' :: rest) m = some rest := by
  unfold linesUnder?
  rw [List.append_assoc, ← hstop, List.drop_left, List.dropWhile_append_of_pos hblanks]
  simp [isLineRest]

/-- Where the line of a marker has its break, more text only adds to the lines under the marker. -/
theorem linesUnder?_append {cs : List Char} {m : Marker} (more : List Char)
    (hbreak : '\n' ∈ cs.drop m.stop) :
    linesUnder? (cs ++ more) m = (linesUnder? cs m).map (· ++ more) := by
  have hstop : m.stop ≤ cs.length := by
    apply Nat.le_of_not_lt
    intro hlt
    rw [List.drop_of_length_le (Nat.le_of_lt hlt)] at hbreak
    cases hbreak
  -- Skipping the blanks of the line stops at its break at the latest.
  have hne : (cs.drop m.stop).dropWhile isLineRest ≠ [] := by
    intro hnil
    have hall := List.all_eq_true.mp (List.all_takeWhile (p := isLineRest) (l := cs.drop m.stop))
    have hsplit := List.takeWhile_append_dropWhile (p := isLineRest) (l := cs.drop m.stop)
    rw [hnil, List.append_nil] at hsplit
    rw [hsplit] at hall
    exact absurd (hall _ hbreak) (by decide)
  unfold linesUnder?
  rw [List.drop_append_of_le_length hstop, List.dropWhile_append,
    if_neg (by simpa [List.isEmpty_iff] using hne)]
  cases hdrop : (cs.drop m.stop).dropWhile isLineRest with
  | nil => exact absurd hdrop hne
  | cons c tail =>
    by_cases hc : c = '\n'
    · subst hc
      rfl
    · simp [hc]

/-- The lines under a marker are an end of the text. -/
theorem suffix_of_linesUnder? {cs rest : List Char} {m : Marker}
    (h : linesUnder? cs m = some rest) : rest <:+ cs := by
  obtain ⟨head, blanks, -, -, hcs⟩ := exists_of_linesUnder? h
  exact ⟨head ++ blanks ++ ['\n'], by rw [hcs]; simp⟩

/-- The line of a marker with lines under it has its break. -/
theorem break_mem_of_linesUnder? {cs rest : List Char} {m : Marker}
    (h : linesUnder? cs m = some rest) : '\n' ∈ cs.drop m.stop := by
  obtain ⟨head, blanks, hlen, -, rfl⟩ := exists_of_linesUnder? h
  rw [List.append_assoc, ← hlen, List.drop_left]
  simp

/-! ## What may become an opening half -/

/-- A proper first part of padding and two hash signs is padding, or padding and one of them. -/
theorem skipPad_of_front {front tail pads : List Char} (hpads : ∀ c ∈ pads, isPad c = true)
    (htail : tail ≠ []) (heq : front ++ tail = pads ++ ['#', '#']) :
    skipPad front = [] ∨ skipPad front = ['#'] := by
  rcases List.append_eq_append_iff.mp heq with ⟨more, rfl, -⟩ | ⟨hashes, rfl, hrest⟩
  · exact .inl (dropWhile_of_all fun c hc => hpads c (List.mem_append_left _ hc))
  · cases hashes with
    | nil =>
      rw [List.append_nil]
      exact .inl (dropWhile_of_all hpads)
    | cons c hashes =>
      obtain rfl : '#' = c := (List.cons.inj hrest).1
      cases hashes with
      | nil => exact .inr (skipPad_pads hpads (by decide) _)
      | cons d hashes =>
        -- With both signs the first part would be the whole.
        have hnil : [] = hashes ++ tail := (List.cons.inj (List.cons.inj hrest).2).2
        exact absurd (List.append_eq_nil_iff.mp hnil.symm).2 htail

/-- Padding and a proper first part of an opening half may become a line that opens with a marker.
-/
theorem mayBecomeOpener_of_front {indent front tail pads : List Char}
    (hindent : ∀ c ∈ indent, isPad c = true) (hpads : ∀ c ∈ pads, isPad c = true)
    (hfront : front ≠ []) (htail : tail ≠ []) (heq : front ++ tail = openerOf pads) :
    mayBecomeOpener (indent ++ front) = true := by
  obtain ⟨c, front, rfl⟩ := List.exists_cons_of_ne_nil hfront
  obtain ⟨rfl, hsecond⟩ := List.cons.inj heq
  unfold mayBecomeOpener
  rw [skipPad_pads hindent (by decide)]
  -- The first part is one bracket, or two of them and a beginning of the rest.
  cases front with
  | nil => rfl
  | cons c front =>
    obtain ⟨rfl, hrest⟩ := List.cons.inj hsecond
    rcases skipPad_of_front hpads htail hrest with hskip | hskip
    · simp [hskip]
    · simp [hskip]

/-- A line that may become one that opens with a marker is padding and a proper first part of an
opening half. -/
theorem exists_front_of_mayBecomeOpener {line : List Char} (h : mayBecomeOpener line = true) :
    ∃ indent front tail pads, (∀ c ∈ indent, isPad c = true) ∧ (∀ c ∈ pads, isPad c = true) ∧
      line = indent ++ front ∧ front ≠ [] ∧ tail ≠ [] ∧ front ++ tail = openerOf pads := by
  obtain ⟨indent, hindent, hline⟩ := exists_pads_skipPad line
  unfold mayBecomeOpener at h
  split at h
  · next rest hskip =>
    rw [hskip] at hline
    split at h
    · exact ⟨indent, ['['], ['[', '#', '#'], [], hindent, by simp, hline, by simp, by simp, rfl⟩
    · next rest =>
      -- Behind two brackets there is padding, and at most one hash sign.
      obtain ⟨pads, hpads, hrest⟩ := exists_pads_skipPad rest
      split at h
      · next hnil =>
        rw [hnil, List.append_nil] at hrest
        refine ⟨indent, '[' :: '[' :: rest, ['#', '#'], pads, hindent, hpads, hline, by simp,
          by simp, ?_⟩
        simp [hrest, openerOf]
      · next hhash =>
        rw [hhash] at hrest
        refine ⟨indent, '[' :: '[' :: rest, ['#'], pads, hindent, hpads, hline, by simp,
          by simp, ?_⟩
        simp [hrest, openerOf]
      · cases h
    · cases h
  · cases h

/-- The lines that may become one that opens with a marker are padding and a proper first part of an
opening half. -/
theorem mayBecomeOpener_iff (line : List Char) :
    mayBecomeOpener line = true ↔
      ∃ indent front tail pads, (∀ c ∈ indent, isPad c = true) ∧ (∀ c ∈ pads, isPad c = true) ∧
        line = indent ++ front ∧ front ≠ [] ∧ tail ≠ [] ∧ front ++ tail = openerOf pads := by
  refine ⟨exists_front_of_mayBecomeOpener, ?_⟩
  rintro ⟨indent, front, tail, pads, hindent, hpads, rfl, hfront, htail, heq⟩
  exact mayBecomeOpener_of_front hindent hpads hfront htail heq

/-! ## Boundaries -/

/-- Whether a text opens with a marker. With `hold` it may also be a last line that may still come
to do so. -/
def Opens (hold : Bool) (cs : List Char) : Prop :=
  (afterOpener? cs).isSome = true ∨ (hold = true ∧ '\n' ∉ cs ∧ mayBecomeOpener cs = true)

/-- Whole lines at the front of a text end at the start of its last line, or before. -/
theorem length_le_lastLineStart {whole : List Char} (hwhole : WholeLines whole) (cs : List Char) :
    whole.length ≤ lastLineStart (whole ++ cs) := by
  obtain ⟨more, last, rfl, hmore, hlast⟩ := exists_wholeLines_append cs
  rw [← List.append_assoc, lastLineStart_append (hwhole.append hmore) hlast, List.length_append]
  omega

/-- A boundary is a place behind whole lines where the text opens with a marker, or may still do. -/
theorem mem_boundaries_iff {cs : List Char} {hold : Bool} {i : Nat} :
    i ∈ (ofText cs).boundaries hold ↔ ∃ before behind, cs = before ++ behind ∧
      before.length = i ∧ WholeLines before ∧ Opens hold behind := by
  have hb : (ofText cs).boundaries hold = lineStarts cs ++
      if hold && mayBecomeOpener (cs.drop (lastLineStart cs)) then [lastLineStart cs] else [] := by
    rw [ofText_eq]
    rfl
  rw [hb, List.mem_append, mem_lineStarts_iff]
  constructor
  · rintro (⟨before, behind, hcs, hi, hbefore, hopen⟩ | hi)
    · exact ⟨before, behind, hcs, hi, hbefore, .inl hopen⟩
    · -- The scanner looks at the last line, which has no break.
      obtain ⟨whole, last, rfl, hwhole, hlast⟩ := exists_wholeLines_append cs
      rw [lastLineStart_append hwhole hlast, List.drop_left] at hi
      split at hi
      · next hhold =>
        rw [Bool.and_eq_true] at hhold
        exact ⟨whole, last, rfl, (List.mem_singleton.mp hi).symm, hwhole,
          .inr ⟨hhold.1, hlast, hhold.2⟩⟩
      · cases hi
  · rintro ⟨before, behind, rfl, hi, hbefore, hopen | ⟨hhold, hbreak, hmay⟩⟩
    · exact .inl ⟨before, behind, rfl, hi, hbefore, hopen⟩
    · right
      rw [lastLineStart_append hbefore hbreak, List.drop_left, hhold, hmay, ← hi]
      simp

/-- Boundaries come from left to right. -/
theorem pairwise_boundaries (cs : List Char) (hold : Bool) :
    ((ofText cs).boundaries hold).Pairwise (· ≤ ·) := by
  rw [boundaries, List.pairwise_append]
  refine ⟨?_, ?_, ?_⟩
  · rw [List.pairwise_map, ofText_eq]
    exact ((pairwise_scan_start cs).imp Nat.le_of_lt).filter _
  · split <;> simp
  · intro i hi j hj
    obtain ⟨before, behind, rfl, rfl, hbefore, -⟩ := mem_lineStarts_iff.mp
      (show i ∈ lineStarts cs by rw [ofText_eq] at hi; exact hi)
    rw [ofText_eq] at hj
    split at hj
    · rw [List.mem_singleton.mp hj]
      exact length_le_lastLineStart hbefore behind
    · cases hj

/-! ## The end of a block -/

/-- The place where the block of a marker ends: the first boundary behind the marker, and the end of
the text where there is none. -/
def blockEnd (cs : List Char) (hold : Bool) (m : Marker) : Nat :=
  (((ofText cs).boundaries hold).find? (m.start < ·)).getD cs.length

/-- A block ends at a boundary behind its marker, or with the text. -/
theorem blockEnd_mem (cs : List Char) (hold : Bool) (m : Marker) :
    (blockEnd cs hold m ∈ (ofText cs).boundaries hold ∧ m.start < blockEnd cs hold m) ∨
      blockEnd cs hold m = cs.length := by
  unfold blockEnd
  cases hfind : ((ofText cs).boundaries hold).find? (m.start < ·) with
  | none => exact .inr rfl
  | some i =>
    have hi := List.find?_some hfind
    exact .inl ⟨List.mem_of_find?_eq_some hfind, by simpa using hi⟩

/-- No boundary lies between a marker and the end of its block. -/
theorem blockEnd_le {cs : List Char} {hold : Bool} {m : Marker} {i : Nat}
    (hi : i ∈ (ofText cs).boundaries hold) (hlt : m.start < i) : blockEnd cs hold m ≤ i := by
  unfold blockEnd
  cases hfind : ((ofText cs).boundaries hold).find? (m.start < ·) with
  | none => exact absurd (by simpa using hlt) (List.find?_eq_none.mp hfind i hi)
  | some j =>
    obtain ⟨-, before, behind, heq, hbefore⟩ := List.find?_eq_some_iff_append.mp hfind
    -- The boundaries in front of the one that is found are not behind the marker.
    have hsorted := pairwise_boundaries cs hold
    rw [heq] at hi hsorted
    rcases List.mem_append.mp hi with hi | hi
    · exact absurd hlt (by simpa using hbefore i hi)
    · rcases List.mem_cons.mp hi with rfl | hi
      · exact Nat.le_refl _
      · exact (List.pairwise_cons.mp (List.pairwise_append.mp hsorted).2.1).1 i hi

/-- A block ends within the text. -/
theorem blockEnd_le_length (cs : List Char) (hold : Bool) (m : Marker) :
    blockEnd cs hold m ≤ cs.length := by
  rcases blockEnd_mem cs hold m with ⟨hmem, -⟩ | heq
  · obtain ⟨before, behind, hcs, hlen, -, -⟩ := mem_boundaries_iff.mp hmem
    rw [← hlen, hcs, List.length_append]
    omega
  · exact Nat.le_of_eq heq

/-- The body of a block: the lines under its marker up to the end of the block. -/
def body (cs : List Char) (hold : Bool) (m : Marker) (rest : List Char) : List Char :=
  rest.take (blockEnd cs hold m - (cs.length - rest.length))

/-- The value of a name is the body of the block of the marker that counts for it, trimmed. -/
theorem value?_ofText (cs : List Char) (hold : Bool) (name : List Char) :
    (ofText cs).value? hold name = ((ofText cs).markerOf? name).bind fun m =>
      (linesUnder? cs m).map fun rest => trim (body cs hold m rest) := by
  unfold value?
  congr 1
  funext m
  simp only [valueAfter, linesUnder?, text_ofText]
  cases hdrop : (cs.drop m.stop).dropWhile isLineRest with
  | nil => rfl
  | cons c rest =>
    by_cases hc : c = '\n'
    · subst hc
      have hbehind : '\n' :: rest <:+ cs :=
        hdrop ▸ (List.dropWhile_suffix _).trans (List.drop_suffix _ _)
      have hrest : rest <:+ cs := (List.suffix_cons _ _).trans hbehind
      have htext : cs.drop (cs.length - rest.length) = rest :=
        (List.suffix_iff_eq_drop.mp hrest).symm
      simp only [Option.map_some, body, blockEnd, List.drop_take, htext]
    · simp [hc]

/-- Where the last line cannot become one that opens with a marker, nothing is held back. -/
theorem value?_of_last {whole last : List Char} (hwhole : WholeLines whole) (hlast : '\n' ∉ last)
    (hmay : mayBecomeOpener last = false) (hold : Bool) (name : List Char) :
    (ofText (whole ++ last)).value? hold name =
      (ofText (whole ++ last)).value? false name := by
  have hbounds : (ofText (whole ++ last)).boundaries hold =
      (ofText (whole ++ last)).boundaries false := by
    rw [ofText_eq, boundaries, boundaries]
    simp only [lastLineStart_append hwhole hlast, List.drop_left, hmay, Bool.and_false]
  unfold value?
  rw [hbounds]

end Scanner

end PromptContract.Reply
