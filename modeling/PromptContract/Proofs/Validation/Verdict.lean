import PromptContract.Proofs.Contract.Precedence
import PromptContract.Proofs.Failure
import PromptContract.Validation.Basic

/-!
# The verdict on a value map

When is a value map taken, and what is reported when it is not (`validate_inputs`,
`validate_outputs`)? The answer does not depend on how schemas and types find what is wrong, so that
is given here by functions (`Judges`), which are a checker (`Judges.checker`). The judgement under a
schema comes from two calls, one that tells whether anything is wrong (`SchemaEngine.validate`) and
one that tells what (`SchemaEngine.explain`), and the two agree.

A map passes (`Passes`) if the schema that its side keeps finds nothing wrong with the entries that
are not null, and the own type of each field finds nothing wrong with the field's value, unless that
is missing or null. Else the first refusal is reported (`RejectedFor`): that of the schema as a
whole, or that of the first field, in the order of the fields. `verdict_of_judges` puts this
together with the precedence of field lists over schemas. The proof goes through the parts of a
check in their order, each of which goes on or is the first refusal.
-/

namespace PromptContract

open Schema

namespace Validation

/-- What schemas and types find, as functions. -/
structure Judges where
  /-- Whether entries satisfy a schema. -/
  fits : Shape → Entries → Bool
  /-- The problems of entries with a schema. -/
  problems : Shape → Entries → List Issue
  /-- Entries without problems, and no others, satisfy a schema. -/
  fits_iff : ∀ shape es, fits shape es = true ↔ problems shape es = []
  /-- The problems of a value with a type. -/
  typeProblems : Value → Value → List Issue

namespace Judges

/-- What is asked about a map, if judges answer. -/
def checking (j : Judges) (es : Entries) : Checking (Except Failure) where
  entries := pure es
  report := pure es
  schemaRejects shape found := pure (if j.fits shape found then none else j.problems shape found)
  fieldRejects f spec :=
    match es.get? f.name.text with
    | none => throw .missingEntry
    | some v =>
      pure (if (j.typeProblems spec v).isEmpty then none else some (j.typeProblems spec v))

/-- The checker of judges, where a value map is given. -/
def checker (j : Judges) (es : Entries) : Checker := .fixed fun _ _ _ => j.checking es

/-- Validates a map as the values of one side of a contract, where judges answer. -/
def check (j : Judges) (contract : Value) (side : Side) (es : Entries) : Except Failure Value :=
  checkUnder (j.checker es) contract side (.map es)

/-- The schema that a side keeps finds nothing wrong with the entries that are not null. -/
def SchemaTakes (j : Judges) (c : Contract) (side : Side) (es : Entries) : Prop :=
  ∀ schema shape, c.schema side = some schema → Shape.of schema = .ok shape →
    j.problems shape es.present = []

/-- The own type of a field finds nothing wrong with the value of the field, unless that is missing
or null. -/
def FieldTakes (j : Judges) (es : Entries) (f : Field) : Prop :=
  ∀ spec v, f.spec = some spec → es.get? f.name.text = some v → v ≠ .null →
    j.typeProblems spec v = []

/-- A map passes the checks of a side. -/
structure Passes (j : Judges) (c : Contract) (side : Side) (es : Entries) : Prop where
  schema : j.SchemaTakes c side es
  fields : ∀ f ∈ c.fields side, j.FieldTakes es f

/-- What a map is rejected for: the problems, and the field whose own type has them. -/
inductive RejectedFor (j : Judges) (c : Contract) (side : Side) (es : Entries) :
    List Issue → Option Name → Prop
  | schema {schema : Value} {shape : Shape} (hschema : c.schema side = some schema)
    (hshape : Shape.of schema = .ok shape) (hproblems : j.problems shape es.present ≠ []) :
    RejectedFor j c side es (j.problems shape es.present) none
  | field {before after : List Field} {f : Field} {spec v : Value}
    (hschema : j.SchemaTakes c side es) (hfields : c.fields side = before ++ f :: after)
    (hbefore : ∀ g ∈ before, j.FieldTakes es g) (hspec : f.spec = some spec)
    (hvalue : es.get? f.name.text = some v) (hnull : v ≠ .null)
    (hproblems : j.typeProblems spec v ≠ []) :
    RejectedFor j c side es ((j.typeProblems spec v).map (Issue.within f.name.toValue))
      (some f.name)

variable {j : Judges} {c : Contract} {es : Entries} {side : Side}

/-! ## One part of the check after the other -/

/-- A schema that finds nothing wrong lets a map through. -/
theorem holdSchema_eq_pure {schema : Value} {shape : Shape} (hshape : Shape.of schema = .ok shape)
    (h : j.problems shape es.present = []) :
    holdSchema (j.checking es) side (some schema) = pure () := by
  have hfits : j.fits shape es.present = true := (j.fits_iff _ _).mpr h
  rw [holdSchema_of_shape _ _ hshape]
  simp only [checking, pure_bind, hfits, if_pos, refuse_none]

/-- A schema that finds something wrong rejects it with all its entries. -/
theorem holdSchema_eq_throw {schema : Value} {shape : Shape} (hshape : Shape.of schema = .ok shape)
    (h : j.problems shape es.present ≠ []) :
    holdSchema (j.checking es) side (some schema) =
      throw (.rejected ⟨side, es, j.problems shape es.present, none⟩) := by
  have hfits : ¬j.fits shape es.present = true := fun hfits => h ((j.fits_iff _ _).mp hfits)
  rw [holdSchema_of_shape _ _ hshape]
  simp only [checking, pure_bind, if_neg hfits, refuse]

/-- A value that is no schema fails as such. -/
theorem holdSchema_eq_error {schema : Value} {why : Failure}
    (hshape : Shape.of schema = .error why) :
    holdSchema (j.checking es) side (some schema) = throw why := by
  unfold holdSchema
  simp only [hshape]
  rfl

/-- A type that finds nothing wrong with the value of its field lets a map through. -/
theorem holdField_eq_pure {f : Field} (h : j.FieldTakes es f) :
    holdField (j.checking es) side f = pure () := by
  unfold holdField
  cases hspec : f.spec with
  | none => rfl
  | some spec =>
    simp only [checking, pure_bind]
    cases hvalue : Entries.get? es f.name.text with
    | none => rfl
    | some v =>
      by_cases hnull : v = .null
      · rw [hnull]
        rfl
      · simp only [Option.bind_some, Value.present?_of_ne hnull, h spec v hspec hvalue hnull,
          pure_bind]
        rfl

/-- A type that finds something wrong with it rejects the map with all its entries. -/
theorem holdField_eq_throw {f : Field} {spec v : Value} (hspec : f.spec = some spec)
    (hvalue : es.get? f.name.text = some v) (hnull : v ≠ .null) (h : j.typeProblems spec v ≠ []) :
    holdField (j.checking es) side f = throw (.rejected
      ⟨side, es, (j.typeProblems spec v).map (Issue.within f.name.toValue), some f.name⟩) := by
  have hproblems : ¬(j.typeProblems spec v).isEmpty = true := mt List.isEmpty_iff.mp h
  unfold holdField
  rw [hspec]
  simp only [checking, pure_bind, hvalue, Option.bind_some, Value.present?_of_ne hnull,
    if_neg hproblems, refuse, Option.map_some]

/-- Fields that take what a map has for them let it through. -/
theorem holdFields_eq_pure {fields : List Field} (h : ∀ f ∈ fields, j.FieldTakes es f) :
    holdFields (j.checking es) side fields = pure () := by
  induction fields with
  | nil => rfl
  | cons f fields ih =>
    rw [holdFields_cons, holdField_eq_pure (h f List.mem_cons_self), pure_bind]
    exact ih fun g hg => h g (List.mem_cons_of_mem _ hg)

/-- What stops at a field stops there if the fields in front of it let a map through. -/
theorem holdFields_eq_throw {before after : List Field} {f : Field} {why : Failure}
    (hbefore : ∀ g ∈ before, j.FieldTakes es g)
    (hf : holdField (j.checking es) side f = throw why) :
    holdFields (j.checking es) side (before ++ f :: after) = throw why := by
  induction before with
  | nil =>
    rw [List.nil_append, holdFields_cons, hf]
    rfl
  | cons g before ih =>
    rw [List.cons_append, holdFields_cons, holdField_eq_pure (hbefore g List.mem_cons_self),
      pure_bind]
    exact ih fun g hg => hbefore g (List.mem_cons_of_mem _ hg)

/-- If not all fields take what a map has for them, there is a first that does not. -/
theorem exists_first {fields : List Field} (h : ¬∀ f ∈ fields, j.FieldTakes es f) :
    ∃ before f after, fields = before ++ f :: after ∧ (∀ g ∈ before, j.FieldTakes es g) ∧
      ¬j.FieldTakes es f := by
  induction fields with
  | nil => exact absurd (fun f hf => nomatch hf) h
  | cons f fields ih =>
    by_cases hf : j.FieldTakes es f
    · obtain ⟨before, g, after, rfl, hbefore, hg⟩ :=
        ih fun hall => h (List.forall_mem_cons.mpr ⟨hf, hall⟩)
      exact ⟨f :: before, g, after, rfl, List.forall_mem_cons.mpr ⟨hf, hbefore⟩, hg⟩
    · exact ⟨[], f, fields, rfl, by simp, hf⟩

/-! ## The whole check of a side -/

/-- A schema that takes a map lets it through. -/
theorem SchemaTakes.holdSchema_eq (h : j.SchemaTakes c side es) (hshape : c.HasShape side) :
    holdSchema (j.checking es) side (c.schema side) = pure () := by
  cases hschema : c.schema side with
  | none => rfl
  | some schema =>
    obtain ⟨shape, hshape⟩ := hshape schema hschema
    exact holdSchema_eq_pure hshape (h schema shape hschema hshape)

/-- A map that passes is let through. -/
theorem Passes.checkSide_eq (h : j.Passes c side es) (hshape : c.HasShape side) :
    checkSide (j.checking es) side (c.schema side) (c.fields side) = pure () := by
  unfold checkSide
  rw [h.schema.holdSchema_eq hshape, pure_bind]
  exact holdFields_eq_pure h.fields

/-- For a map that does not pass something is found first. -/
theorem exists_rejectedFor (h : ¬j.Passes c side es) :
    ∃ issues ≠ [], ∃ field, j.RejectedFor c side es issues field := by
  by_cases htakes : j.SchemaTakes c side es
  · have hfields : ¬∀ f ∈ c.fields side, j.FieldTakes es f := fun hall => h ⟨htakes, hall⟩
    -- The schema finds nothing wrong, so it is the first field that does not take its value.
    obtain ⟨before, f, after, hsplit, hbefore, hf⟩ := exists_first hfields
    unfold FieldTakes at hf
    push Not at hf
    obtain ⟨spec, v, hspec, hvalue, hnull, hproblems⟩ := hf
    exact ⟨_, mt List.map_eq_nil_iff.mp hproblems, _,
      .field htakes hsplit hbefore hspec hvalue hnull hproblems⟩
  · unfold SchemaTakes at htakes
    push Not at htakes
    obtain ⟨schema, shape, hschema, hshape, hproblems⟩ := htakes
    exact ⟨_, hproblems, none, .schema hschema hshape hproblems⟩

/-- What is found first stops the check. -/
theorem RejectedFor.checkSide_eq {issues : List Issue} {field : Option Name}
    (h : j.RejectedFor c side es issues field) (hshape : c.HasShape side) :
    checkSide (j.checking es) side (c.schema side) (c.fields side) =
      throw (.rejected ⟨side, es, issues, field⟩) := by
  unfold checkSide
  cases h with
  | schema hschema hof hproblems =>
    rw [hschema, holdSchema_eq_throw hof hproblems]
    rfl
  | field hschema hfields hbefore hspec hvalue hnull hproblems =>
    rw [hschema.holdSchema_eq hshape, pure_bind, hfields]
    exact holdFields_eq_throw hbefore (holdField_eq_throw hspec hvalue hnull hproblems)

/-! ## From a contract to the verdict -/

variable {contract : Value}

/-- What is found under a contract is what its side is held against for. -/
theorem check_of_contract (hc : Contract.ofValue contract = .ok c) : j.check contract side es =
    (checkSide (j.checking es) side (c.schema side) (c.fields side)).map fun _ => .map es := by
  unfold check checkUnder
  rw [hc]
  rfl

/-- A map that passes comes out as it is. -/
theorem Passes.check_eq (h : j.Passes c side es) (hc : Contract.ofValue contract = .ok c)
    (hshape : c.HasShape side) : j.check contract side es = .ok (.map es) := by
  rw [check_of_contract hc, h.checkSide_eq hshape]
  rfl

/-- A map for which something is found is rejected for it, with all its entries. -/
theorem RejectedFor.check_eq {issues : List Issue} {field : Option Name}
    (h : j.RejectedFor c side es issues field) (hc : Contract.ofValue contract = .ok c)
    (hshape : c.HasShape side) :
    j.check contract side es = .error (.rejected ⟨side, es, issues, field⟩) := by
  rw [check_of_contract hc, h.checkSide_eq hshape]
  rfl

/-- A map comes out as it is only if it passes. -/
theorem check_eq_ok_iff (hc : Contract.ofValue contract = .ok c) (hshape : c.HasShape side) :
    j.check contract side es = .ok (.map es) ↔ j.Passes c side es := by
  refine ⟨fun hcheck => ?_, fun h => h.check_eq hc hshape⟩
  -- A map that does not pass is rejected, and has not come out.
  by_contra h
  obtain ⟨issues, -, field, hrejected⟩ := exists_rejectedFor h
  rw [hrejected.check_eq hc hshape] at hcheck
  cases hcheck

/-- A rejection says what is found first. -/
theorem check_eq_rejected_iff {issues : List Issue} {field : Option Name}
    (hc : Contract.ofValue contract = .ok c) (hshape : c.HasShape side) :
    j.check contract side es = .error (.rejected ⟨side, es, issues, field⟩) ↔
      j.RejectedFor c side es issues field := by
  refine ⟨fun hcheck => ?_, fun h => h.check_eq hc hshape⟩
  -- Whatever is found first is what the rejection says, so the two are the same.
  by_cases h : j.Passes c side es
  · rw [h.check_eq hc hshape] at hcheck
    cases hcheck
  · obtain ⟨issues', -, field', hrejected⟩ := exists_rejectedFor h
    rw [hrejected.check_eq hc hshape] at hcheck
    cases hcheck
    exact hrejected

/-! ## Maps that differ in null entries -/

section Present

variable {es' : Entries} (hpresent : es.present = es'.present)
include hpresent

/-- A schema takes a map if it takes one that differs in null entries. -/
theorem SchemaTakes.of_present (h : j.SchemaTakes c side es') : j.SchemaTakes c side es := by
  intro schema shape hschema hshape
  rw [hpresent]
  exact h schema shape hschema hshape

variable (hdistinct : es.NamesDistinct) (hdistinct' : es'.NamesDistinct)
include hdistinct hdistinct'

/-- The value of a field that is there and not null is the same. -/
theorem get?_eq_some_of_present {name : String} {v : Value} (hvalue : es.get? name = some v)
    (hnull : v ≠ .null) : es'.get? name = some v := by
  have hsame : (es'.get? name).bind Value.present? = some v := by
    rw [← hdistinct'.get?_present, ← hpresent, hdistinct.get?_present, hvalue]
    exact Value.present?_of_ne hnull
  obtain ⟨w, hw, hpresent⟩ := Option.bind_eq_some_iff.mp hsame
  cases w <;> cases hpresent <;> exact hw

/-- A field takes such a map as well. -/
theorem FieldTakes.of_present {f : Field} (h : j.FieldTakes es' f) : j.FieldTakes es f :=
  fun spec v hspec hvalue hnull => h spec v hspec
    (get?_eq_some_of_present hpresent hdistinct hdistinct' hvalue hnull) hnull

/-- A map passes if one that differs in null entries does. -/
theorem Passes.of_present (h : j.Passes c side es') : j.Passes c side es where
  schema := h.schema.of_present hpresent
  fields f hf := (h.fields f hf).of_present hpresent hdistinct hdistinct'

/-- It is rejected for what such a map is rejected for. -/
theorem RejectedFor.of_present {issues : List Issue} {field : Option Name}
    (h : j.RejectedFor c side es' issues field) : j.RejectedFor c side es issues field := by
  cases h with
  | schema hschema hshape hproblems =>
    rw [← hpresent] at hproblems ⊢
    exact .schema hschema hshape hproblems
  | field hschema hfields hbefore hspec hvalue hnull hproblems =>
    exact .field (hschema.of_present hpresent) hfields
      (fun g hg => (hbefore g hg).of_present hpresent hdistinct hdistinct') hspec
      (get?_eq_some_of_present hpresent.symm hdistinct' hdistinct hvalue hnull) hnull hproblems

end Present

end Judges

/-! ## The verdict -/

open Judges

/-- The verdict on a value map, whatever judges find. What is no contract, and a schema that is
none, fail as such. Under a contract a map comes out as it is just if it passes, and is else
rejected for what is found first, with all its entries. Maps that differ in null entries have the
same verdict for the same problems. A contract that is declared keeps the schema of a side where it
has no list of fields, so that the schema beside a list can be any value. -/
theorem verdict_of_judges (j : Judges) (side : Side) :
    (∀ contract why, (Contract.ofValue contract = .error why ∨ ∃ c schema,
        Contract.ofValue contract = .ok c ∧ c.schema side = some schema ∧
          Shape.of schema = .error why) → ∀ es, j.check contract side es = .error why) ∧
    (∀ contract c, Contract.ofValue contract = .ok c → c.HasShape side →
      (∀ es, (j.check contract side es = .ok (.map es) ↔ j.Passes c side es) ∧
        (¬j.Passes c side es → ∃ issues ≠ [], ∃ field, j.RejectedFor c side es issues field ∧
          j.check contract side es = .error (.rejected ⟨side, es, issues, field⟩))) ∧
      ∀ es es' : Entries, es.NamesDistinct → es'.NamesDistinct → es.present = es'.present →
        (j.check contract side es = .ok (.map es) ↔ j.check contract side es' = .ok (.map es')) ∧
        ∀ issues field, j.check contract side es = .error (.rejected ⟨side, es, issues, field⟩) ↔
          j.check contract side es' = .error (.rejected ⟨side, es', issues, field⟩)) ∧
    (∀ d c, Contract.ofDeclaration d = .ok c →
      c.schema side = (if (d.fieldList side).isSome then none else d.schema side) ∧
        (d.schema side ≠ some .null → c.HasShape side)) ∧
    (∀ m c, Contract.ofValue (.map m) = .ok c → c.HasShape side) ∧
    ∀ other es, (∀ d : Declaration, (d.fieldList other).isSome = true → ∀ schema,
        j.check (.declaration (d.withSchema schema other)) side es =
          j.check (.declaration d) side es) ∧
      ∀ m : Entries, m.getD other.plural ≠ .null → ∀ schema,
        j.check (.map (m.put (.text (Declaration.schemaName other)) schema)) side es =
          j.check (.map m) side es := by
  -- A check depends on no more than the contract that is read from the value.
  have hsame {contract contract' : Value}
      (h : Contract.ofValue contract = Contract.ofValue contract') (es : Entries) :
      j.check contract side es = j.check contract' side es := by
    unfold Judges.check checkUnder
    rw [h]
  refine ⟨fun contract why hfails es => ?_,
    fun contract c hc hshape => ⟨fun es => ⟨check_eq_ok_iff hc hshape, fun h => ?_⟩,
    fun es es' hdistinct hdistinct' hpresent => ⟨?_, fun issues field => ?_⟩⟩,
    fun d c hd => Declaration.schema_of_ofDeclaration hd side,
    fun m c hc => Declaration.hasShape_of_map hc side,
    fun other es => ⟨fun d hd schema => ?_, fun m hm schema => ?_⟩⟩
  · rcases hfails with hnone | ⟨c, schema, hc, hschema, hnone⟩
    · unfold Judges.check checkUnder
      rw [hnone]
      rfl
    · rw [check_of_contract hc, checkSide, hschema, holdSchema_eq_error hnone]
      rfl
  · obtain ⟨issues, hissues, field, hrejected⟩ := exists_rejectedFor h
    exact ⟨issues, hissues, field, hrejected, hrejected.check_eq hc hshape⟩
  · rw [check_eq_ok_iff hc hshape, check_eq_ok_iff hc hshape]
    exact ⟨fun h => h.of_present hpresent.symm hdistinct' hdistinct,
      fun h => h.of_present hpresent hdistinct hdistinct'⟩
  · rw [check_eq_rejected_iff hc hshape, check_eq_rejected_iff hc hshape]
    exact ⟨fun h => h.of_present hpresent.symm hdistinct' hdistinct,
      fun h => h.of_present hpresent hdistinct hdistinct'⟩
  · have hcontract : Contract.ofValue (.declaration (d.withSchema schema other)) =
        Contract.ofValue (.declaration d) := Declaration.ofDeclaration_withSchema hd schema
    exact hsame hcontract es
  · exact hsame (Declaration.ofValue_put hm schema) es

/-! ### A field for a number -/

namespace Counted

/-- Judges who want integers, whatever the type. -/
def judges : Judges where
  fits _ _ := true
  problems _ _ := []
  fits_iff _ _ := iff_of_true rfl rfl
  typeProblems _ v := match v with
    | .int _ => []
    | _ => [⟨[], "Input should be a valid integer", some "int_type"⟩]

/-- A contract with one field, which has a type of its own. -/
def contract : Contract :=
  ⟨[⟨.given "n", .int, .text "", .bool true, some (.builtin .int)⟩], [], none, none, none⟩

/-- A map for it, with an entry that is null beside the field. -/
def given (v : Value) : Entries := [(.text "n", v), (.text "note", .null)]

end Counted

open Counted in
/-- A number is taken, and a text is rejected. -/
theorem verdict_of_judges_counted :
    judges.check (.contract contract) .input (given (.int 3)) = .ok (.map (given (.int 3))) ∧
      ∃ issues ≠ [], ∃ field, judges.check (.contract contract) .input (given (.text "three")) =
        .error (.rejected ⟨.input, given (.text "three"), issues, field⟩) := by
  have hverdict := (verdict_of_judges judges .input).2.1 (.contract contract) contract rfl nofun
  constructor
  · refine (hverdict.1 _).1.mpr ⟨nofun, ?_⟩
    intro f hf spec v hspec hvalue hnull
    obtain rfl := List.mem_singleton.mp hf
    obtain rfl := Option.some.inj hvalue
    rfl
  · have hnot : ¬judges.Passes contract .input (given (.text "three")) := fun h => by
      cases h.fields _ (List.mem_singleton.mpr rfl) _ _ rfl rfl nofun
    obtain ⟨issues, hissues, field, -, hcheck⟩ := (hverdict.1 _).2 hnot
    exact ⟨issues, hissues, field, hcheck⟩

end Validation

end PromptContract
