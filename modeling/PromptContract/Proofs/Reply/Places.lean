import PromptContract.Proofs.Reply.Lines

/-!
# Where a text has its markers

What a scanner records of a text (`MarkerScanner.markers`) can be said without it. A half of a
marker stands in a text from one place up to another (`Stands`). A marker begins with an opening
half. It has a name exactly where a closing half stands behind that on the same line, and then ends
with the first one; else it ends with the opening half (`Describes`). No two markers overlap, and
none is missing: an opening half in the text either begins a marker or lies within one that has a
name (`markers_describe_text`).

That a recorded marker is so is read off what stands at its front (`atFront?_cases`). That none is
missing has two parts. Each place where an opening half begins is covered by a recorded marker
(`exists_cover`), since a scan passes over places only within markers. And two opening halves do not
overlap (`le_of_stands_opener`), nor does one reach over the last bracket of a closing half
(`lt_of_stands_closer`), so that it lies wholly within the marker that covers it.
-/

namespace PromptContract.Reply

namespace Marker

open Text

/-! ## Places in a text -/

/-- The characters of a text from one place up to another. -/
def between (cs : List Char) (i j : Nat) : List Char := (cs.take j).drop i

/-- A half of a marker, given by its padding, stands in a text from one place up to another. -/
def Stands (half : List Char → List Char) (cs : List Char) (i j : Nat) : Prop :=
  ∃ before pads behind, (∀ c ∈ pads, isPad c = true) ∧
    cs = before ++ (half pads ++ behind) ∧ before.length = i ∧ i + (half pads).length = j

/-- The characters between two places are those that stand there. -/
theorem between_append (before part behind : List Char) :
    between (before ++ (part ++ behind)) before.length (before.length + part.length) = part := by
  unfold between
  rw [← List.append_assoc, ← List.length_append, List.take_left, List.drop_left]

/-- If a text is put together in two ways, the longer first part goes beyond the shorter one. -/
theorem exists_of_append_eq {a b c d : List Char} (h : a ++ b = c ++ d)
    (hle : a.length ≤ c.length) : ∃ mid, c = a ++ mid ∧ b = mid ++ d := by
  rcases List.append_eq_append_iff.mp h with ⟨mid, hc, hb⟩ | ⟨mid, ha, hd⟩
  · exact ⟨mid, hc, hb⟩
  · have hlen := congrArg List.length ha
    rw [List.length_append] at hlen
    obtain rfl : mid = [] := List.eq_nil_of_length_eq_zero (by omega)
    exact ⟨[], by rw [ha]; simp, by rw [hd]; rfl⟩

/-- A character within a part of a text is that of the part. -/
theorem getElem?_within {before part behind : List Char} {t : Nat} (hle : before.length ≤ t)
    (hlt : t < before.length + part.length) :
    (before ++ (part ++ behind))[t]? = part[t - before.length]? := by
  rw [List.getElem?_append_right hle, List.getElem?_append_left (by omega)]

/-! ## Overlapping halves -/

/-- Within an opening half no character is a closing bracket. -/
theorem getElem?_ne_of_stands_opener {cs : List Char} {i j t : Nat} (h : Stands openerOf cs i j)
    (hle : i ≤ t) (hlt : t < j) : cs[t]? ≠ some ']' := by
  obtain ⟨before, pads, behind, hpads, rfl, rfl, rfl⟩ := h
  rw [getElem?_within hle hlt]
  intro hchar
  have hmem : ']' ∈ openerOf pads := List.mem_of_getElem? hchar
  have hpad : ']' ∉ pads := fun hmem => absurd (hpads _ hmem) (by decide)
  simp [openerOf, hpad] at hmem

/-- A closing half ends with a closing bracket. -/
theorem getElem?_of_stands_closer {cs : List Char} {i j : Nat} (h : Stands closerOf cs i j) :
    i < j ∧ cs[j - 1]? = some ']' := by
  obtain ⟨before, pads, behind, -, rfl, rfl, rfl⟩ := h
  have hlen : (closerOf pads).length = pads.length + 4 := by simp [closerOf]
  refine ⟨by omega, ?_⟩
  rw [getElem?_within (by omega) (by omega)]
  have hplace : before.length + (closerOf pads).length - 1 - before.length = pads.length + 3 := by
    omega
  rw [hplace]
  simp [closerOf]

/-- An opening half that begins in front of the end of a closing half ends there as well. -/
theorem lt_of_stands_closer {cs : List Char} {i j i' j' : Nat} (hcloser : Stands closerOf cs i j)
    (hopener : Stands openerOf cs i' j') (hlt : i' < j) : j' < j := by
  obtain ⟨-, hbracket⟩ := getElem?_of_stands_closer hcloser
  apply Nat.lt_of_not_le
  intro hle
  have hwithin : i' ≤ j - 1 ∧ j - 1 < j' := by omega
  exact getElem?_ne_of_stands_opener hopener hwithin.1 hwithin.2 hbracket

/-- An opening half begins with two opening brackets, and has no more of them. -/
theorem getElem?_of_stands_opener {cs : List Char} {i j : Nat} (h : Stands openerOf cs i j) :
    i + 4 ≤ j ∧ cs[i]? = some '[' ∧ cs[i + 1]? = some '[' ∧
      ∀ t, i + 2 ≤ t → t < j → cs[t]? ≠ some '[' := by
  obtain ⟨before, pads, behind, hpads, rfl, rfl, rfl⟩ := h
  have hlen : (openerOf pads).length = pads.length + 4 := by simp [openerOf]
  refine ⟨by omega, ?_, ?_, fun t hle hlt hchar => ?_⟩
  · rw [getElem?_within (by omega) (by omega), Nat.sub_self]
    rfl
  · rw [getElem?_within (by omega) (by omega), Nat.add_sub_cancel_left]
    rfl
  · rw [getElem?_within (by omega) hlt] at hchar
    obtain ⟨u, hu⟩ : ∃ u, t - before.length = u + 2 := ⟨t - before.length - 2, by omega⟩
    rw [hu] at hchar
    have hmem : '[' ∈ pads ++ ['#', '#'] := List.mem_of_getElem? (i := u) hchar
    have hpad : '[' ∉ pads := fun hmem => absurd (hpads _ hmem) (by decide)
    simp [hpad] at hmem

/-- Opening halves do not overlap. -/
theorem le_of_stands_opener {cs : List Char} {i j i' j' : Nat} (h : Stands openerOf cs i j)
    (h' : Stands openerOf cs i' j') (hlt : i < i') : j ≤ i' := by
  obtain ⟨hlen, -, -, hno⟩ := getElem?_of_stands_opener h
  obtain ⟨-, hfirst, hsecond, -⟩ := getElem?_of_stands_opener h'
  apply Nat.le_of_not_lt
  intro hbefore
  -- The second one would begin at the second bracket of the first, which is its last.
  by_cases hnext : i' = i + 1
  · exact hno (i' + 1) (by omega) (by omega) hsecond
  · exact hno i' (by omega) (by omega) hfirst

/-! ## What a recorded marker is -/

/-- No closing half follows on the line where none is found. -/
theorem untilCloser?_ne_none {front rest : List Char} (hfront : '\n' ∉ front)
    (hrest : afterCloser? rest ≠ none) : untilCloser? (front ++ rest) ≠ none := by
  induction front with
  | nil =>
    cases rest with
    | nil => exact absurd rfl hrest
    | cons c rest =>
      obtain ⟨behind, hbehind⟩ := Option.ne_none_iff_exists'.mp hrest
      rw [List.nil_append, untilCloser?, hbehind]
      exact Option.some_ne_none _
  | cons c front ih =>
    have hc : c ≠ '\n' := fun h => hfront (by simp [h])
    have htail := ih fun h => hfront (List.mem_cons_of_mem _ h)
    rw [List.cons_append, untilCloser?]
    cases afterCloser? (c :: (front ++ rest)) with
    | some behind => exact Option.some_ne_none _
    | none =>
      simp only [if_neg hc]
      rw [Ne, Option.map_eq_none_iff]
      exact htail

/-- What a marker says of a text, in which its opening half ends at `k`. -/
structure Describes (cs : List Char) (m : Marker) (k : Nat) : Prop where
  opener : Stands openerOf cs m.start k
  /-- The marker keeps to one line. -/
  break_notMem : '\n' ∉ between cs m.start m.stop
  lineStart_iff : m.lineStart = true ↔ m.start = 0 ∨ cs[m.start - 1]? = some '\n'
  /-- It has a name where a closing half begins behind the opening one on the same line. -/
  name_iff : m.name ≠ none ↔ ∃ i j, k ≤ i ∧ Stands closerOf cs i j ∧ '\n' ∉ between cs k i
  /-- The first such closing half ends it, and the name is what stands between the two halves. -/
  named : ∀ name, m.name = some name → ∃ i, k ≤ i ∧ Stands closerOf cs i m.stop ∧
    name = trimBy isPad (between cs k i) ∧ ∀ i' j', k ≤ i' → Stands closerOf cs i' j' → i ≤ i'
  bare : m.name = none → m.stop = k

/-- A marker stands at the start of a line if the text begins there, or a line break is before it.
-/
theorem lineStart_iff_getElem? (before behind : List Char) :
    (before.getLast?.map (· == '\n')).getD true = true ↔
      before.length = 0 ∨ (before ++ behind)[before.length - 1]? = some '\n' := by
  cases hlast : before.getLast? with
  | none => simp [List.getLast?_eq_none_iff.mp hlast]
  | some c =>
    obtain ⟨front, rfl⟩ := List.getLast?_eq_some_iff.mp hlast
    have hplace : (front ++ [c]).length - 1 = front.length := by simp
    rw [hplace, List.append_assoc, List.getElem?_append_right (Nat.le_refl _), Nat.sub_self]
    simp

/-- A closing half that begins behind a place begins in what follows the place. -/
theorem exists_of_stands_closer {front rest : List Char} {i j : Nat}
    (h : Stands closerOf (front ++ rest) i j) (hle : front.length ≤ i) :
    ∃ mid behind, rest = mid ++ behind ∧ front.length + mid.length = i ∧
      afterCloser? behind ≠ none := by
  obtain ⟨before, pads, behind, hpads, heq, rfl, -⟩ := h
  obtain ⟨mid, rfl, hrest⟩ := exists_of_append_eq heq hle
  refine ⟨mid, _, hrest, by rw [List.length_append], ?_⟩
  rw [afterCloser?_eq_some_iff.mpr ⟨pads, hpads, rfl⟩]
  exact Option.some_ne_none _

section Describes

variable {before pads rest : List Char} {m : Marker} (hpads : ∀ c ∈ pads, isPad c = true)
  (hstart : m.start = before.length)
  (hls : m.lineStart = (before.getLast?.map (· == '\n')).getD true)

include hpads hstart hls

/-- Where no closing half is found on the line, a marker that is its opening half alone describes
the text. -/
theorem describes_of_none (hname : m.name = none)
    (hstop : m.stop = before.length + (openerOf pads).length) (huntil : untilCloser? rest = none) :
    Describes (before ++ (openerOf pads ++ rest)) m
      (before.length + (openerOf pads).length) where
  opener := ⟨before, pads, rest, hpads, rfl, hstart.symm, by rw [hstart]⟩
  break_notMem := by
    rw [hstart, hstop, between_append]
    exact break_notMem_openerOf hpads
  lineStart_iff := by
    rw [hls, hstart]
    exact lineStart_iff_getElem? before _
  name_iff := by
    refine iff_of_false (fun hne => hne hname) ?_
    -- A closing half behind it would be found on the line.
    rintro ⟨i, j, hle, hcloser, hbreak⟩
    rw [← List.append_assoc] at hcloser hbreak
    rw [← List.length_append] at hle hbreak
    obtain ⟨mid, behind, rfl, rfl, hne⟩ := exists_of_stands_closer hcloser hle
    rw [between_append] at hbreak
    exact untilCloser?_ne_none hbreak hne huntil
  named := by
    intro name hsome
    rw [hname] at hsome
    cases hsome
  bare := fun _ => hstop

/-- Where a closing half is found on the line, a marker up to its end, named by what is between the
halves, describes the text. -/
theorem describes_of_some {inner behind : List Char} (hname : m.name = some (trimBy isPad inner))
    (hstop : m.stop + behind.length = (before ++ (openerOf pads ++ rest)).length)
    (huntil : untilCloser? rest = some (inner, behind)) :
    Describes (before ++ (openerOf pads ++ rest)) m
      (before.length + (openerOf pads).length) := by
  obtain ⟨pads', hpads', hbreak, rfl, hfirst⟩ := Lines.untilCloser?_eq_some_iff.mp huntil
  have hend : m.stop = before.length + (openerOf pads ++ inner ++ closerOf pads').length := by
    simp only [List.length_append] at hstop ⊢
    omega
  have hspan : before ++ (openerOf pads ++ (inner ++ (closerOf pads' ++ behind))) =
      before ++ ((openerOf pads ++ inner ++ closerOf pads') ++ behind) := by
    simp only [List.append_assoc]
  have hfront : before ++ (openerOf pads ++ (inner ++ (closerOf pads' ++ behind))) =
      (before ++ openerOf pads) ++ (inner ++ (closerOf pads' ++ behind)) :=
    (List.append_assoc _ _ _).symm
  have hinner : between (before ++ (openerOf pads ++ (inner ++ (closerOf pads' ++ behind))))
      (before.length + (openerOf pads).length)
      (before.length + (openerOf pads).length + inner.length) = inner := by
    rw [hfront, ← List.length_append, between_append]
  have hcloser : Stands closerOf
      (before ++ (openerOf pads ++ (inner ++ (closerOf pads' ++ behind))))
      (before.length + (openerOf pads).length + inner.length) m.stop := by
    have hplace : (before ++ openerOf pads ++ inner).length =
        before.length + (openerOf pads).length + inner.length := by
      rw [List.length_append, List.length_append]
    refine ⟨before ++ openerOf pads ++ inner, pads', behind, hpads', by simp, hplace, ?_⟩
    rw [hend]
    simp only [List.length_append]
    omega
  refine ⟨⟨before, pads, _, hpads, rfl, hstart.symm, by rw [hstart]⟩, ?_, ?_, ?_,
    fun name hsome => ?_, fun hnone => ?_⟩
  · rw [hspan, hend, hstart, between_append, List.mem_append, List.mem_append, not_or, not_or]
    exact ⟨⟨break_notMem_openerOf hpads, hbreak⟩, break_notMem_closerOf hpads'⟩
  · rw [hls, hstart]
    exact lineStart_iff_getElem? before _
  · refine iff_of_true (by rw [hname]; exact Option.some_ne_none _) ?_
    exact ⟨_, _, Nat.le_add_right _ _, hcloser, by rw [hinner]; exact hbreak⟩
  · rw [hname, Option.some.injEq] at hsome
    refine ⟨_, Nat.le_add_right _ _, hcloser, by rw [hinner, hsome], fun i' j' hle h' => ?_⟩
    rw [hfront] at h'
    rw [← List.length_append] at hle ⊢
    obtain ⟨mid, behind', hmid, rfl, hne⟩ := exists_of_stands_closer h' hle
    -- A closing half before the one that ends the name is none.
    apply Nat.le_of_not_lt
    intro hlt
    exact hne (hfirst mid behind' hmid (by omega))
  · rw [hname] at hnone
    cases hnone

end Describes

/-- A recorded marker describes its text. -/
theorem exists_describes {cs : List Char} {m : Marker} (h : m ∈ scan cs) :
    ∃ k, Describes cs m k := by
  obtain ⟨before, found, n, rfl, hstart, hstop, hat, hls⟩ := exists_of_mem_scanFrom h
  rw [Nat.zero_add] at hstart
  obtain ⟨pads, rest, hpads, rfl, hcases⟩ := atFront?_cases hat
  rcases hcases with ⟨hname, hn, huntil⟩ | ⟨inner, behind, hname, huntil, hn⟩
  · have hend : m.stop = before.length + (openerOf pads).length := by rw [hstop, hstart, hn]
    exact ⟨_, describes_of_none hpads hstart hls hname hend huntil⟩
  · have hend : m.stop + behind.length = (before ++ (openerOf pads ++ rest)).length := by
      rw [hstop, hstart, Nat.add_assoc, hn, ← List.length_append]
    exact ⟨_, describes_of_some hpads hstart hls hname hend huntil⟩

/-- The opening half of a marker lies within it. -/
theorem Describes.le_stop {cs : List Char} {m : Marker} {k : Nat} (h : Describes cs m k) :
    k ≤ m.stop := by
  cases hname : m.name with
  | none => exact Nat.le_of_eq (h.bare hname).symm
  | some name =>
    obtain ⟨i, hle, hcloser, -⟩ := h.named name hname
    have hlt := (getElem?_of_stands_closer hcloser).1
    omega

/-! ## No marker is missing -/

/-- Where an opening half begins, behind what is skipped, a recorded marker covers the place. -/
theorem exists_cover {before behind : List Char} (hopen : (afterOpener? behind).isSome = true)
    (pos : Nat) {skip : Nat} (lineStart : Bool) (hskip : skip ≤ before.length) :
    ∃ m ∈ scanFrom pos skip lineStart (before ++ behind),
      m.start ≤ pos + before.length ∧ pos + before.length < m.stop := by
  induction before generalizing pos skip lineStart with
  | nil =>
    obtain rfl : skip = 0 := Nat.le_zero.mp hskip
    cases behind with
    | nil => cases hopen
    | cons c behind =>
      rw [← atFront?_isSome] at hopen
      obtain ⟨⟨n, name⟩, hat⟩ := Option.isSome_iff_exists.mp hopen
      have hn := (length_of_atFront? hat).1
      refine ⟨⟨pos, pos + n, name, lineStart⟩, ?_, Nat.le_refl _, ?_⟩
      · rw [List.nil_append, scanFrom, hat]
        exact List.mem_cons_self
      · simp only [List.length_nil]
        omega
  | cons c before ih =>
    have further : ∀ skip, skip ≤ before.length →
        ∃ m ∈ scanFrom (pos + 1) skip (c == '\n') (before ++ behind),
          m.start ≤ pos + (c :: before).length ∧ pos + (c :: before).length < m.stop := by
      intro skip hskip
      have hplace : pos + (c :: before).length = pos + 1 + before.length := by
        rw [List.length_cons]
        omega
      rw [hplace]
      exact ih (pos + 1) (c == '\n') hskip
    rw [List.cons_append]
    cases skip with
    | succ skip =>
      rw [scanFrom]
      exact further skip (Nat.le_of_succ_le_succ hskip)
    | zero =>
      rw [scanFrom]
      cases hat : atFront? (c :: (before ++ behind)) with
      | none => exact further 0 (Nat.zero_le _)
      | some found =>
        -- The marker here covers the place, or the scan goes on behind it in front of the place.
        obtain ⟨n, name⟩ := found
        by_cases hle : n - 1 ≤ before.length
        · obtain ⟨m, hm, hbounds⟩ := further (n - 1) hle
          exact ⟨m, List.mem_cons_of_mem _ hm, hbounds⟩
        · refine ⟨_, List.mem_cons_self, Nat.le_add_right _ _, ?_⟩
          simp only [List.length_cons]
          omega

/-- An opening half begins a recorded marker, or lies within one that has a name. -/
theorem exists_of_stands_opener {cs : List Char} {i j : Nat} (h : Stands openerOf cs i j) :
    (∃ m ∈ scan cs, m.start = i) ∨
      ∃ m ∈ scan cs, m.name ≠ none ∧ m.start < i ∧ j < m.stop := by
  obtain ⟨before, pads, behind, hpads, hcs, hi, hj⟩ := h
  have hopen : (afterOpener? (openerOf pads ++ behind)).isSome = true := by
    rw [afterOpener?_eq_some_iff.mpr ⟨pads, hpads, rfl⟩]
    rfl
  obtain ⟨m, hm, hstart, hstop⟩ := exists_cover hopen 0 true (Nat.zero_le before.length)
  have hmem : m ∈ scan cs := hcs ▸ hm
  have hopener : Stands openerOf cs i j := ⟨before, pads, behind, hpads, hcs, hi, hj⟩
  rw [Nat.zero_add, hi] at hstart hstop
  by_cases hsame : m.start = i
  · exact .inl ⟨m, hmem, hsame⟩
  · obtain ⟨k, hdescribes⟩ := exists_describes hmem
    have hlt : m.start < i := by omega
    cases hname : m.name with
    | none =>
      -- A marker without a name is its opening half, with which no other one overlaps.
      have hle := le_of_stands_opener hdescribes.opener hopener hlt
      rw [hdescribes.bare hname] at hstop
      omega
    | some name =>
      obtain ⟨i', -, hcloser, -⟩ := hdescribes.named name hname
      exact .inr ⟨m, hmem, by simp [hname], hlt, lt_of_stands_closer hcloser hopener hstop⟩

end Marker

namespace Scanner

/-- Pieces fed one after the other make the scanner of the whole text. -/
theorem foldl_feed (pieces : List (List Char)) :
    pieces.foldl feed empty = ofText pieces.flatten := by
  have hrequests := foldl_after [] (pieces.map Request.feed)
  rw [List.foldl_map, List.flatMap_map] at hrequests
  simpa [after, Request.piece, ofText] using hrequests

open Marker in
/-- However a text was fed, its markers come from left to right and do not overlap, each of them
describes the text, and every opening half of the text begins one of them or lies within one that
has a name. -/
theorem markers_describe_text (pieces : List (List Char)) :
    (pieces.foldl feed empty).text = pieces.flatten ∧
      (pieces.foldl feed empty).markers.Pairwise
        (fun m m' => m.start < m'.start ∧ m.stop ≤ m'.start) ∧
      (∀ m ∈ (pieces.foldl feed empty).markers,
        m.start < m.stop ∧ m.stop ≤ pieces.flatten.length ∧
          ∃ k ≤ m.stop, Describes pieces.flatten m k) ∧
      ∀ i j, Stands openerOf pieces.flatten i j →
        (∃ m ∈ (pieces.foldl feed empty).markers, m.start = i) ∨
          ∃ m ∈ (pieces.foldl feed empty).markers, m.name ≠ none ∧ m.start < i ∧ j < m.stop := by
  rw [foldl_feed, ofText_eq]
  refine ⟨rfl, ?_, fun m hm => ?_, fun i j => exists_of_stands_opener⟩
  · refine (pairwise_scanFrom 0 0 true pieces.flatten).imp_of_mem fun hm _ hle => ?_
    have hbounds := bounds_of_mem_scanFrom hm
    exact ⟨by omega, hle⟩
  · obtain ⟨-, hlt, hle⟩ := bounds_of_mem_scanFrom hm
    rw [Nat.zero_add] at hle
    obtain ⟨k, hdescribes⟩ := exists_describes hm
    exact ⟨hlt, hle, k, hdescribes.le_stop, hdescribes⟩

-- An opening half within a marker that has a name is no marker of its own.
open Marker in
example : scan "[[ ## a [[ ## b ## ]]".toList = [⟨0, 21, some "a [[ ## b".toList, true⟩] := by
  decide

end Scanner

end PromptContract.Reply
