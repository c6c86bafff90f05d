import PromptContract.Proofs.Prompt.Blocks
import PromptContract.Proofs.Reply.Places

/-!
# Names that a marker can carry

A marker whose name is safe is recorded as one marker of that name, whatever padding is between its
parts (`scan_markerWith`). No other name is recorded at all, of whatever text: what is between an
opening half and the first closing half behind it, without its padding, is a safe name
(`markerSafe_of_mem_scan`). So a field is read back from its own marker (`field_marker`) exactly if
its name is safe (`name_carried`).
-/

namespace PromptContract.Prompt

open Text Reply Reply.Marker Reply.Scanner

/-- A safe name keeps to one line, does not begin or end with a space or a tab, and has no closing
half in it. -/
theorem markerSafe_iff_chars (name : List Char) : MarkerSafe name ↔
    '\n' ∉ name ∧ (∀ c, name.head? = some c → c ≠ ' ' ∧ c ≠ '\t') ∧
      (∀ c, name.getLast? = some c → c ≠ ' ' ∧ c ≠ '\t') ∧
      ∀ before pads behind, (∀ c ∈ pads, isPad c = true) →
        name ≠ before ++ (closerOf pads ++ behind) := by
  have hpad : ∀ c, isPad c = false ↔ c ≠ ' ' ∧ c ≠ '\t' := by simp [isPad]
  constructor
  · rintro ⟨hbreak, hhead, hlast, hcloser⟩
    refine ⟨hbreak, fun c hc => (hpad c).mp (hhead c hc), fun c hc => (hpad c).mp (hlast c hc), ?_⟩
    intro before pads behind hpads heq
    exact Lines.afterCloser?_eq_none_iff.mp (hcloser before _ heq) pads behind hpads rfl
  · rintro ⟨hbreak, hhead, hlast, hcloser⟩
    refine ⟨hbreak, fun c hc => (hpad c).mpr (hhead c hc),
      fun c hc => (hpad c).mpr (hlast c hc), ?_⟩
    intro before behind heq
    apply Lines.afterCloser?_eq_none_iff.mpr
    rintro pads rest hpads rfl
    exact hcloser before pads rest hpads heq

/-- A line that is a marker of a safe name is recorded as that marker alone. -/
theorem scan_markerWith {w₁ w₂ name w₃ w₄ : List Char} (h : MarkerSafe name)
    (hw : ∀ w ∈ [w₁, w₂, w₃, w₄], ∀ c ∈ w, isPad c = true) :
    scan (markerWith w₁ w₂ name w₃ w₄ ++ ['\n']) =
      [⟨0, (markerWith w₁ w₂ name w₃ w₄).length, some name, true⟩] := by
  have hat := atFront?_append_of_named ['\n'] (atFront?_markerWith h hw)
  obtain ⟨lineStart, hscan⟩ := Lines.scanFrom_mark 0 true hat
  -- The break behind the marker is all that is left.
  have hrest : ∀ pos, scanFrom pos 0 lineStart ['\n'] = [] := fun _ => rfl
  rw [scan, hscan, hrest, Nat.zero_add]

/-- A name that is recorded of some text is safe. -/
theorem markerSafe_of_mem_scan {cs name : List Char} {m : Marker} (hm : m ∈ scan cs)
    (hname : m.name = some name) : MarkerSafe name := by
  obtain ⟨before, found, n, -, -, -, hat, -⟩ := exists_of_mem_scan hm
  rw [hname] at hat
  obtain ⟨pads, rest, -, -, ⟨hnone, -⟩ | ⟨inner, behind, hinner, huntil, -⟩⟩ := atFront?_cases hat
  · cases hnone
  · obtain ⟨pads', -, hbreak, hrest, hfirst⟩ := Lines.untilCloser?_eq_some_iff.mp huntil
    obtain rfl : name = trimBy isPad inner := Option.some.inj hinner
    obtain ⟨front, tail, htrim⟩ := trimBy_infix isPad inner
    refine ⟨fun h => hbreak ?_, fun c => not_of_head?_trimBy isPad inner,
      fun c => not_of_getLast?_trimBy isPad inner, fun before' behind' heq => ?_⟩
    · rw [← htrim]
      exact List.mem_append_left _ (List.mem_append_right _ h)
    · -- A closing half in the name would be one in front of the marker's own.
      apply Lines.afterCloser?_eq_none_iff.mpr
      rintro inside more hinside rfl
      have hsplit : rest = (front ++ before') ++
          (closerOf inside ++ (more ++ tail ++ (closerOf pads' ++ behind))) := by
        rw [hrest, ← htrim, heq]
        simp only [List.append_assoc]
      have hlt : (front ++ before').length < inner.length := by
        rw [← htrim, heq]
        simp only [closerOf, List.length_append, List.length_cons]
        omega
      have hnone := hfirst _ _ hsplit hlt
      rw [afterCloser?_eq_some_iff.mpr ⟨inside, hinside, rfl⟩] at hnone
      cases hnone

/-- A marker of a safe name, with any padding between its parts, is the one marker that its line
has, and the text under the marker is read back. A name that is not safe is recorded of no text,
least of all of its own marker, and has no value in any. -/
theorem name_carried (name : List Char) :
    (MarkerSafe name ↔
      '\n' ∉ name ∧ (∀ c, name.head? = some c → c ≠ ' ' ∧ c ≠ '\t') ∧
        (∀ c, name.getLast? = some c → c ≠ ' ' ∧ c ≠ '\t') ∧
        ∀ before pads behind, (∀ c ∈ pads, isPad c = true) →
          name ≠ before ++ (closerOf pads ++ behind)) ∧
    (MarkerSafe name →
      (∀ w₁ w₂ w₃ w₄, (∀ w ∈ [w₁, w₂, w₃, w₄], ∀ c ∈ w, isPad c = true) →
        scan (markerWith w₁ w₂ name w₃ w₄ ++ ['\n']) =
          [⟨0, (markerWith w₁ w₂ name w₃ w₄).length, some name, true⟩]) ∧
      ∀ under, Unopened under →
        (ofText (marker name ++ '\n' :: under)).value? false name = some (trim under)) ∧
    (¬MarkerSafe name →
      (∀ m, (scan (marker name ++ ['\n'])).head? = some m → m.name ≠ some name) ∧
      ∀ cs, (∀ m ∈ scan cs, m.name ≠ some name) ∧
        ∀ hold, (ofText cs).value? hold name = none) := by
  refine ⟨markerSafe_iff_chars name, fun hsafe => ⟨fun w₁ w₂ w₃ w₄ => scan_markerWith hsafe, ?_⟩,
    fun hunsafe => ?_⟩
  · intro under hunder
    have hends : Follows [] := ⟨[], [], rfl, by simp, .inl rfl⟩
    have hvalue := value?_block .nil hsafe hunder hends (by simp [scan, scanFrom])
    rwa [List.nil_append, List.append_nil] at hvalue
  · have hnone : ∀ cs, ∀ m ∈ scan cs, m.name ≠ some name :=
      fun cs m hm hname => hunsafe (markerSafe_of_mem_scan hm hname)
    refine ⟨fun m hm => hnone _ m (List.mem_of_mem_head? hm), fun cs => ⟨hnone cs, fun hold => ?_⟩⟩
    have hmarker : (ofText cs).markerOf? name = none := by
      cases hm : (ofText cs).markerOf? name with
      | none => rfl
      | some m =>
        rcases markerOf?_eq_some_iff.mp hm with hfirst | hfirst
        · exact absurd hfirst.named (hnone cs m hfirst.mem)
        · exact absurd hfirst.named (hnone cs m hfirst.mem)
    rw [value?, hmarker]
    rfl

/-- A name of hash signs and brackets that touches those of its marker is carried. -/
theorem name_carried_touching :
    MarkerSafe "#] ##.]#".toList ∧
    scan (markerWith ['\t'] [] "#] ##.]#".toList [] [' ', ' '] ++ ['\n']) =
      [⟨0, (markerWith ['\t'] [] "#] ##.]#".toList [] [' ', ' ']).length,
        some "#] ##.]#".toList, true⟩] := by
  have hsafe : MarkerSafe "#] ##.]#".toList := by decide
  exact ⟨hsafe, ((name_carried _).2.1 hsafe).1 _ _ _ _ (by simp [isPad])⟩

end PromptContract.Prompt
