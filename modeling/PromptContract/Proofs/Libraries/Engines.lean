import PromptContract.Proofs.Libraries.Json
import PromptContract.Proofs.Libraries.Record

/-!
# Engines that keep to the rules

The engines that follow the libraries in use keep to the rules over flat maps (`usual_spec`), and
make record types with properties whose names can be those of fields (`usual_accepts`).
-/

namespace PromptContract.Schema.Engines

open Evaluation

/-- The engines that are followed keep to the rules. -/
theorem usual_spec (a : Addresses) : (usual a).Spec where
  optional t := by cases t <;> rfl
  record ps name fields _ h _ es hflat := by
    have hfound : Gives Reference.blank
        (do RecordType.issues (.full a.complexRules) name fields (← hold (.map es)))
        fun issues _ => (issues = [] ↔ ∀ f ∈ fields, IsMetBy f es) :=
      (gives_hold_map hflat _).bind fun v _ _ hv =>
        gives_issues h hflat hv (.full a.complexRules) name
    obtain ⟨issues, -, hout, -, hissues⟩ := hfound.outcome_eq
    exact ⟨issues, hout, hissues⟩
  json ps schema _ h es hflat := by
    have hdecides := h.decides hflat
    exact ⟨_, Findings.toExcept_eq _ hdecides.halted, Findings.isValid_eq _ hdecides.halted,
      hdecides.issues⟩

/-- They make record types with properties of different names that can be those of fields. -/
theorem usual_accepts (a : Addresses) {ps : List Declared} (hdistinct : (ps.map (·.name)).Nodup)
    (hnames : ∀ p ∈ ps, RecordType.isFieldName p.name = true) : (usual a).Accepts ps := by
  intro name fields h
  obtain ⟨fs, -, hout, -, rfl⟩ :=
    (RecordType.gives_settledFields_self h hdistinct hnames (.full a.complexRules) name
      _).outcome_eq
  exact hout

end PromptContract.Schema.Engines
