import PromptContract.Proofs.Reply.Block

/-!
# Blocks of a growing reply

What more text does to the block of a marker whose line has its break. A block that ends with the
text so far goes on with the text, or up to the line that closes it. A last line that is on the way
to become such a line is held back from its first character on (`opens_of_append`), so that the
trimmed body of a block only grows (`trim_body_isPrefix`). A block that a marker line has closed
never changes (`map_trim_body_append_of_closed`).
-/

namespace PromptContract.Reply.Scanner

open Text Marker

/-! ## The end of a block -/

/-- Padding and a proper first part of an opening half are held back. -/
theorem opens_of_front {indent part tail pads : List Char} (hindent : ∀ c ∈ indent, isPad c = true)
    (hpads : ∀ c ∈ pads, isPad c = true) (hpart : part ≠ []) (htail : tail ≠ [])
    (hopener : part ++ tail = openerOf pads) : Opens true (indent ++ part) := by
  refine .inr ⟨rfl, ?_, (mayBecomeOpener_iff _).mpr
    ⟨indent, part, tail, pads, hindent, hpads, rfl, hpart, htail, hopener⟩⟩
  rw [List.mem_append, not_or]
  refine ⟨break_notMem_of_isPad hindent, fun hmem => break_notMem_openerOf hpads ?_⟩
  rw [← hopener]
  exact List.mem_append_left _ hmem

/-- What a text starts with, where the text opens with a marker or may come to do so, opens with a
marker, is held back, or is padding. -/
theorem opens_of_append {hold : Bool} {front more : List Char} (h : Opens hold (front ++ more))
    (hne : front ≠ []) : Opens true front ∨ ∀ c ∈ front, isPad c = true := by
  rcases h with hopen | ⟨-, -, hmay⟩
  · obtain ⟨rest, hrest⟩ := Option.isSome_iff_exists.mp hopen
    obtain ⟨pads, hpads, heq⟩ := afterOpener?_eq_some_iff.mp hrest
    have hopens : ∀ tail, front = openerOf pads ++ tail → Opens true front := by
      rintro tail rfl
      exact .inl (by rw [afterOpener?_eq_some_iff.mpr ⟨pads, hpads, rfl⟩]; rfl)
    left
    -- The opening half ends behind the front, or within it.
    rcases List.append_eq_append_iff.mp heq with ⟨tail, hopener, -⟩ | ⟨tail, hfront, -⟩
    · by_cases htail : tail = []
      · exact hopens [] (by rw [hopener, htail, List.append_nil, List.append_nil])
      · exact opens_of_front (List.forall_mem_nil _) hpads hne htail hopener.symm
    · exact hopens tail hfront
  · obtain ⟨indent, part, tail, pads, hindent, hpads, heq, hpart, htail, hopener⟩ :=
      (mayBecomeOpener_iff _).mp hmay
    -- The front ends within the indent, or has a first part of the opening half as well.
    rcases List.append_eq_append_iff.mp heq with ⟨run, hi, -⟩ | ⟨part', rfl, hp⟩
    · exact .inr fun c hc => hindent c (hi ▸ List.mem_append_left _ hc)
    · by_cases hnil : part' = []
      · rw [hnil, List.append_nil]
        exact .inr hindent
      · rw [hp, List.append_assoc] at hopener
        exact .inl (opens_of_front hindent hpads hnil (by simp [htail]) hopener)

/-- With more text a block goes on, except that it may leave out padding at the end of the text that
was there. -/
theorem blockEnd_append (cs more : List Char) (hold : Bool) (m : Marker) :
    blockEnd cs true m ≤ blockEnd (cs ++ more) hold m ∨
      ∀ c ∈ cs.drop (blockEnd (cs ++ more) hold m), isPad c = true := by
  have hlen := blockEnd_le_length cs true m
  rcases blockEnd_mem (cs ++ more) hold m with ⟨hmem, hlt⟩ | hend
  · obtain ⟨before, behind, hsplit, hbefore, hwhole, hopens⟩ := mem_boundaries_iff.mp hmem
    -- Only a boundary in the text that was there can come earlier than the end so far.
    rcases List.append_eq_append_iff.mp hsplit with ⟨tail, hb, -⟩ | ⟨front, hcs, hb⟩
    · left
      rw [← hbefore, hb, List.length_append]
      omega
    · by_cases hne : front = []
      · left
        rw [← hbefore]
        rw [hcs, hne, List.append_nil] at hlen
        rw [hcs, hne, List.append_nil]
        exact hlen
      · rw [hb] at hopens
        rcases opens_of_append hopens hne with hfront | hpads
        · exact .inl (blockEnd_le (mem_boundaries_iff.mpr
            ⟨before, front, hcs, hbefore, hwhole, hfront⟩) hlt)
        · right
          rw [← hbefore, hcs, List.drop_left]
          exact hpads
  · left
    rw [hend, List.length_append]
    omega

/-- What an end of a text has behind a place of the text, the text has there too. -/
theorem mem_drop_of_suffix {cs rest : List Char} (h : rest <:+ cs) {last : Nat} {c : Char}
    (hc : c ∈ rest.drop (last - (cs.length - rest.length))) : c ∈ cs.drop last := by
  obtain ⟨front, rfl⟩ := h
  rw [List.length_append, Nat.add_sub_cancel] at hc
  rw [List.drop_append]
  exact List.mem_append_right _ hc

/-- With more text the trimmed body of a block only grows. -/
theorem trim_body_isPrefix {cs rest : List Char} {m : Marker} (more : List Char) (hold : Bool)
    (h : linesUnder? cs m = some rest) :
    trim (body cs true m rest) <+: trim (body (cs ++ more) hold m (rest ++ more)) := by
  have hsuffix := suffix_of_linesUnder? h
  have hlen := hsuffix.length_le
  have hfirst : (cs ++ more).length - (rest ++ more).length = cs.length - rest.length := by
    rw [List.length_append, List.length_append]
    omega
  unfold body
  rw [hfirst]
  -- The lines under the marker up to a place are a part of those with more text up to a later one.
  have hgrow : ∀ {i j : Nat}, i ≤ j → rest.take i <+: (rest ++ more).take j := by
    intro i j hij
    rw [List.take_append]
    exact (List.take_prefix_take_left hij).trans (List.prefix_append _ _)
  rcases blockEnd_append cs more hold m with hle | hpads
  · exact trimBy_isPrefix _ (hgrow (by omega))
  · rcases Nat.le_total (blockEnd cs true m) (blockEnd (cs ++ more) hold m) with hle | hle
    · exact trimBy_isPrefix _ (hgrow (by omega))
    · -- What the block leaves out is padding, which is trimmed anyway.
      have hleft : ∀ c ∈ rest.drop (blockEnd (cs ++ more) hold m - (cs.length - rest.length)),
          isBlank c = true :=
        fun c hc => isBlank_of_isPad (hpads c (mem_drop_of_suffix hsuffix hc))
      generalize cs.length - rest.length = first at hleft ⊢
      generalize blockEnd (cs ++ more) hold m = last at hle hleft ⊢
      have hsplit : rest.take (blockEnd cs true m - first) = rest.take (last - first) ++
          (rest.drop (last - first)).take (blockEnd cs true m - first - (last - first)) := by
        rw [← List.take_add]
        congr 1
        omega
      rw [hsplit, trim, trimBy_append_of_all _ _ fun c hc => hleft c (List.mem_of_mem_take hc)]
      exact trimBy_isPrefix _ (hgrow (Nat.le_refl _))

/-! ## Blocks that are closed -/

/-- A line that opens with a marker bounds blocks whatever text comes behind. -/
theorem mem_boundaries_append {cs : List Char} {i : Nat} (more : List Char) (hold : Bool)
    (h : i ∈ lineStarts cs) : i ∈ (ofText (cs ++ more)).boundaries hold := by
  obtain ⟨before, behind, rfl, hlen, hwhole, hopen⟩ := mem_lineStarts_iff.mp h
  obtain ⟨rest, hrest⟩ := Option.isSome_iff_exists.mp hopen
  refine mem_boundaries_iff.mpr ⟨before, behind ++ more, by rw [List.append_assoc], hlen, hwhole,
    .inl ?_⟩
  rw [afterOpener?_append more hrest]
  rfl

/-- Whole lines that reach beyond a place have a break behind it. -/
theorem exists_line_of_lt {before behind before' behind' : List Char}
    (heq : before ++ behind = before' ++ behind') (hwhole : WholeLines before')
    (hlt : before.length < before'.length) :
    ∃ line rest, '\n' ∉ line ∧ behind = line ++ '\n' :: (rest ++ behind') ∧
      before' = before ++ line ++ '\n' :: rest := by
  rcases List.append_eq_append_iff.mp heq with ⟨mid, rfl, hbehind⟩ | ⟨mid, hb, -⟩
  · cases hwhole.of_append with
    | nil =>
      rw [List.append_nil] at hlt
      exact absurd hlt (Nat.lt_irrefl _)
    | line line rest hline _ => exact ⟨line, rest, hline, by rw [hbehind]; simp, by simp⟩
  · rw [hb, List.length_append] at hlt
    omega

/-- What bounds blocks in front of a marker line is a marker line itself. -/
theorem mem_lineStarts_of_lt {cs more : List Char} {hold : Bool} {i j : Nat}
    (hi : i ∈ (ofText (cs ++ more)).boundaries hold) (hj : j ∈ lineStarts cs) (hlt : i < j) :
    i ∈ lineStarts cs := by
  obtain ⟨before, behind, hsplit, rfl, hwhole, hopens⟩ := mem_boundaries_iff.mp hi
  obtain ⟨before', behind', rfl, rfl, hwhole', -⟩ := mem_lineStarts_iff.mp hj
  rw [List.append_assoc] at hsplit
  obtain ⟨line, rest, hline, hbehind, hbefore⟩ := exists_line_of_lt hsplit.symm hwhole' hlt
  rcases hopens with hopen | ⟨-, hbreak, -⟩
  · rw [hbehind, afterOpener?_line, Option.isSome_map] at hopen
    refine mem_lineStarts_iff.mpr ⟨before, line ++ '\n' :: (rest ++ behind'), ?_, rfl, hwhole, ?_⟩
    · rw [hbefore]
      simp
    · rw [afterOpener?_line, Option.isSome_map, hopen]
  · rw [hbehind] at hbreak
    exact absurd (by simp) hbreak

/-- The end of a block that a marker line has closed stays where it is. -/
theorem blockEnd_append_of_closed {cs : List Char} {m : Marker} {i : Nat}
    (hi : i ∈ lineStarts cs) (hlt : m.start < i) (more : List Char) (hold hold' : Bool) :
    blockEnd (cs ++ more) hold' m = blockEnd cs hold m := by
  -- No block ends later than one with another continuation.
  have hle : ∀ (a b : List Char) (h h' : Bool),
      blockEnd (cs ++ a) h m ≤ blockEnd (cs ++ b) h' m := by
    intro a b h h'
    have hend : blockEnd (cs ++ b) h' m ≤ i := blockEnd_le (mem_boundaries_append b h' hi) hlt
    -- In front of the line that closes the block both texts have the same boundaries.
    rcases Nat.lt_or_ge (blockEnd (cs ++ b) h' m) i with hbefore | hat
    · have hlen : i ≤ (cs ++ b).length := by
        obtain ⟨before, behind, rfl, hlen, -, -⟩ := mem_lineStarts_iff.mp hi
        rw [← hlen, List.append_assoc, List.length_append]
        omega
      rcases blockEnd_mem (cs ++ b) h' m with ⟨hmem, hbehind⟩ | heq
      · exact blockEnd_le (mem_boundaries_append a h (mem_lineStarts_of_lt hmem hi hbefore)) hbehind
      · omega
    · exact Nat.le_trans (blockEnd_le (mem_boundaries_append a h hi) hlt) hat
  apply Nat.le_antisymm
  · have h := hle more [] hold' hold
    rwa [List.append_nil] at h
  · have h := hle [] more hold hold'
    rwa [List.append_nil] at h

/-- A marker that a marker line follows has the break of its line. -/
theorem break_mem_of_closed {cs : List Char} {m : Marker} {i : Nat} (hm : m ∈ scan cs)
    (hi : i ∈ lineStarts cs) (hlt : m.start < i) : '\n' ∈ cs.drop m.stop := by
  obtain ⟨before, behind, n, rfl, hstart, hstop, hat, -⟩ := exists_of_mem_scan hm
  obtain ⟨before', behind', hsplit, rfl, hwhole', -⟩ := mem_lineStarts_iff.mp hi
  obtain ⟨line, rest, -, rfl, -⟩ := exists_line_of_lt hsplit hwhole' (by omega)
  -- The marker stands in its first line, whose break comes before the closing line.
  rw [atFront?_line] at hat
  have hn := (length_of_atFront? hat).2
  rw [hstop, hstart, ← List.drop_drop, List.drop_left, List.drop_append_of_le_length hn]
  simp

/-- The body of a block that a marker line has closed stays as it is. -/
theorem map_trim_body_append_of_closed {cs : List Char} {m : Marker} {i : Nat} (hm : m ∈ scan cs)
    (hi : i ∈ lineStarts cs) (hlt : m.start < i) (more : List Char) (hold hold' : Bool) :
    (linesUnder? (cs ++ more) m).map (fun rest => trim (body (cs ++ more) hold' m rest)) =
      (linesUnder? cs m).map fun rest => trim (body cs hold m rest) := by
  rw [linesUnder?_append more (break_mem_of_closed hm hi hlt), Option.map_map]
  cases hunder : linesUnder? cs m with
  | none => rfl
  | some rest =>
    have hend : blockEnd cs hold m ≤ cs.length := blockEnd_le_length cs hold m
    have hlen := (suffix_of_linesUnder? hunder).length_le
    simp only [Option.map_some, Function.comp, Option.some.injEq, body,
      blockEnd_append_of_closed hi hlt more hold hold']
    rw [List.length_append, List.length_append, List.take_append_of_le_length (by omega)]
    congr 2
    omega

end PromptContract.Reply.Scanner
