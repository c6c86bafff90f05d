import PromptContract.Libraries.Usual
import PromptContract.Proofs.Schema.Rules

/-!
# JSON Schemas for properties

The keywords of a schema are gone through one by one, and so are the properties that it lists. A
search that reaches its end decides a statement if it finds no problem exactly where the statement
holds (`Findings.Decides`); behind another search it decides both (`Findings.Decides.append`). A
JSON Schema for properties decides whether a flat map keeps to its rules (`JsonSchemaFor.decides`).
-/

namespace PromptContract.Schema

namespace Findings

/-- A search reaches its end, and finds no problem exactly where a statement holds. -/
structure Decides (f : Findings) (holds : Prop) : Prop where
  halted : f.halted = Option.none
  issues : f.issues = [] ↔ holds

variable {f g : Findings} {p q : Prop}

/-- A search that finds nothing decides nothing. -/
theorem decides_none : Findings.none.Decides True := ⟨rfl, iff_of_true rfl trivial⟩

/-- A rule that may be broken decides whether it is kept. -/
theorem decides_oneIf (broken : Bool) (rule msg : String) :
    (oneIf broken rule msg).Decides (broken = false) := by
  cases broken with
  | false => exact ⟨rfl, iff_of_true rfl rfl⟩
  | true => exact ⟨rfl, iff_of_false (List.cons_ne_nil _ _) nofun⟩

/-- Two searches in a row decide both statements. -/
theorem Decides.append (hf : f.Decides p) (hg : g.Decides q) : (f ++ g).Decides (p ∧ q) := by
  obtain ⟨issues, halted⟩ := f
  obtain rfl : halted = Option.none := hf.halted
  refine ⟨hg.halted, ?_⟩
  show issues ++ g.issues = [] ↔ _
  rw [List.append_eq_nil_iff, hf.issues, hg.issues]

/-- A search about a part of a value decides the same, seen from the value. -/
theorem Decides.within (hf : f.Decides p) (step : Value) : (f.within step).Decides p := by
  have hmap (step : Value) : ({ f with issues := f.issues.map (Issue.within step) } :
      Findings).Decides p := ⟨hf.halted, List.map_eq_nil_iff.trans hf.issues⟩
  unfold Findings.within
  cases step with
  | null => exact hf
  | _ => exact hmap _

/-- What is decided can be said in other words. -/
theorem Decides.congr (hf : f.Decides p) (h : p ↔ q) : f.Decides q :=
  ⟨hf.halted, hf.issues.trans h⟩

/-- A search that reached its end says whether it found nothing. -/
theorem isValid_eq (f : Findings) (h : f.halted = Option.none) :
    f.isValid = .ok f.issues.isEmpty := by
  obtain ⟨issues, halted⟩ := f
  obtain rfl : halted = Option.none := h
  cases issues <;> rfl

/-- It gives all problems. -/
theorem toExcept_eq (f : Findings) (h : f.halted = Option.none) : f.toExcept = .ok f.issues := by
  unfold Findings.toExcept
  rw [h]

end Findings

namespace JsonSchema

/-! ## One keyword after the other -/

/-- Behind a search nothing more is found where nothing is looked for. -/
theorem append_none (f : Findings) : f ++ Findings.none = f := by
  obtain ⟨issues, _ | why⟩ := f
  · show Findings.mk (issues ++ []) none = _
    rw [List.append_nil]
  · rfl

/-- The first keyword of a schema comes before the others. -/
theorem keywordFindings_cons (whole : Entries) (k : Value × Value) (rest : Entries) (v : Value) :
    keywordFindings whole (k :: rest) v =
      keywordFindings whole [k] v ++ keywordFindings whole rest v := by
  obtain ⟨key, argument⟩ := k
  have hnil : keywordFindings whole [] v = Findings.none := rfl
  rw [keywordFindings.eq_def whole ((key, argument) :: rest),
    keywordFindings.eq_def whole [(key, argument)]]
  simp only [hnil, append_none]

/-- Keywords that decide something each decide all of it. -/
theorem decides_keywordFindings {whole rest : Entries} {v : Value} {holds : Value × Value → Prop}
    (h : ∀ k ∈ rest, (keywordFindings whole [k] v).Decides (holds k)) :
    (keywordFindings whole rest v).Decides (∀ k ∈ rest, holds k) := by
  induction rest with
  | nil => exact Findings.decides_none.congr (by simp)
  | cons k rest ih =>
    rw [keywordFindings_cons]
    refine ((h k List.mem_cons_self).append
      (ih fun k' hk' => h k' (List.mem_cons_of_mem _ hk'))).congr ?_
    rw [List.forall_mem_cons]

/-- A key that is no keyword says nothing. -/
theorem decides_unknown {key : Value} (hkey : keyword? key = none) (whole : Entries)
    (argument v : Value) : (keywordFindings whole [(key, argument)] v).Decides True := by
  rw [keywordFindings.eq_def]
  simp only [hkey]
  exact (Findings.decides_none.append Findings.decides_none).congr and_self_iff

/-- The type that is demanded of a value decides whether it is of the type. -/
theorem decides_type {type : String} {v : Value} {fits : Bool} (h : hasType type v = some fits)
    (whole : Entries) :
    (keywordFindings whole [(.text "type", .text type)] v).Decides (fits = true) := by
  have hkey : keyword? (.text "type") = some .type := by decide
  have hfits : hasTypeOf (.text type) v = .ok fits := by
    have hname : (Value.text type).comparedText? = some type := rfl
    simp only [hasTypeOf, hname, h]
  have hone : hasOneOf [.text type] v = .ok fits := by
    rw [hasOneOf, hfits, ok_bind]
    cases fits <;> rfl
  rw [keywordFindings.eq_def]
  simp only [hkey]
  have hassertion : (assertion .type (.text type) v).Decides (fits = true) := by
    show (Findings.ofExcept (hasOneOf [.text type] v) fun fits =>
      Findings.oneIf (!fits) "type" _).Decides _
    rw [hone]
    exact (Findings.decides_oneIf _ _ _).congr (by simp)
  exact (hassertion.append Findings.decides_none).congr (and_iff_left trivial)

/-- The properties that a map must have decide whether it has them. -/
theorem decides_required {required : List Value} (hkeys : ∀ key ∈ required, key.isKey = true)
    (whole es : Entries) :
    (keywordFindings whole [(.text "required", .list required)] (.map es)).Decides
      (∀ key ∈ required, es.has key = true) := by
  have hkey : keyword? (.text "required") = some .required := by decide
  have hmissing : (missing es required).Decides (∀ key ∈ required, es.has key = true) := by
    induction required with
    | nil => exact Findings.decides_none.congr (by simp)
    | cons key required ih =>
      rw [missing, if_pos (hkeys key List.mem_cons_self)]
      refine ((Findings.decides_oneIf (!es.has key) _ _).append
        (ih fun key' hkey' => hkeys key' (List.mem_cons_of_mem _ hkey'))).congr ?_
      rw [List.forall_mem_cons, Bool.not_eq_false']
  rw [keywordFindings.eq_def]
  simp only [hkey]
  exact (hmissing.append Findings.decides_none).congr (and_iff_left trivial)

/-- What the schemas of the listed properties find, one after the other. -/
theorem decides_listed {α : Type} {listed : Entries} {items : List α} {holds : α → Prop}
    {es : Entries} (h : List.Forall₂ (fun a e => (listedFindings [e] es).Decides (holds a)) items
      listed) (whole : Entries) :
    (keywordFindings whole [(.text "properties", .map listed)] (.map es)).Decides
      (∀ a ∈ items, holds a) := by
  have hkey : keyword? (.text "properties") = some .properties := by decide
  have hlisted : (listedFindings listed es).Decides (∀ a ∈ items, holds a) := by
    induction h with
    | nil => exact Findings.decides_none.congr (by simp)
    | @cons a e items listed ha _ ih =>
      obtain ⟨name, schema⟩ := e
      rw [listedFindings]
      rw [listedFindings, listedFindings, append_none] at ha
      exact (ha.append ih).congr List.forall_mem_cons.symm
  rw [keywordFindings.eq_def]
  simp only [hkey]
  exact (hlisted.append Findings.decides_none).congr (and_iff_left trivial)

end JsonSchema

/-! ## Schemas for properties -/

open JsonSchema

/-- A scalar is of a primitive type by name as the rules say. -/
theorem hasType_eq {v : Value} (hv : isScalar v = true) (t : FieldType) :
    hasType (jsonName t) v = some (isOfName (jsonName t) v) := by
  obtain ⟨s, rfl⟩ | ⟨b, rfl⟩ | ⟨n, rfl⟩ | ⟨x, rfl⟩ := exists_of_isScalar hv <;> cases t <;> rfl

/-- The schema of a property decides whether a value is of its type. -/
theorem JsonEntry.decides {p : Declared} {e : Value × Value} (h : JsonEntry p e) {es : Entries}
    (hflat : IsFlat es) : (listedFindings [e] es).Decides
      (∀ v, es.get? p.name = some v → isOfName (jsonName p.type) v = true) := by
  obtain ⟨hname, about, hmap, htype, -, honly⟩ := h
  obtain ⟨k, schema⟩ := e
  obtain rfl : k = .text p.name := hname
  obtain rfl : schema = .map about := hmap
  rw [listedFindings, listedFindings, append_none, lookup?_text hflat.hasTextKeys]
  cases hget : es.get? p.name with
  | none => exact Findings.decides_none.congr (by simp)
  | some v =>
    have hof := hasType_eq (hflat.isScalar_of_get? hget) p.type
    have habout : (findings (.map about) v).Decides
        (∀ k ∈ about, k.1 = .text "type" → isOfName (jsonName p.type) v = true) := by
      refine decides_keywordFindings fun k hk => ?_
      rcases honly k hk with rfl | rfl
      · exact (decides_type hof about).congr (by simp)
      · exact (decides_unknown (by decide) about _ v).congr (by simp)
    refine (habout.within (.text p.name)).congr ?_
    simp only [Option.some.injEq, forall_eq']
    exact ⟨fun hall => hall _ htype rfl, fun hof _ _ _ => hof⟩

/-- A JSON Schema for properties decides whether a flat map keeps to its rules. -/
theorem JsonSchemaFor.decides {ps : List Declared} {schema : Entries} (h : JsonSchemaFor ps schema)
    {es : Entries} (hflat : IsFlat es) :
    (findings (.map schema) (.map es)).Decides (Obeys schema es) := by
  have hobeys := h.obeys_iff_forall hflat.hasTextKeys
  obtain ⟨listed, required, hlisted, hall, honly, hproperties, hrequired, hschema⟩ := h.lists
  have hentries : List.Forall₂ (fun p e => (listedFindings [e] es).Decides
      (∀ v, es.get? p.name = some v → isOfName (jsonName p.type) v = true)) ps listed :=
    hlisted.imp fun p e hp => hp.decides hflat
  have hrequiredKeys : ∀ key ∈ required, key.isKey = true := by
    intro key hkey
    obtain ⟨p, -, -, rfl⟩ := honly key hkey
    rfl
  have hdecides : (findings (.map schema) (.map es)).Decides (∀ k ∈ schema,
      (k.1 = .text "properties" →
        ∀ p ∈ ps, ∀ v, es.get? p.name = some v → isOfName (jsonName p.type) v = true) ∧
      (k.1 = .text "required" → ∀ key ∈ required, es.has key = true)) := by
    refine decides_keywordFindings fun k hk => ?_
    rcases hschema k hk with rfl | rfl | rfl
    · have hobject : hasType "object" (.map es) = some true := rfl
      exact (decides_type hobject schema).congr (by simp)
    · exact (decides_listed hentries schema).congr (by simp)
    · exact (decides_required hrequiredKeys schema es).congr (by simp)
  -- What is required is listed by its name, and nothing else is.
  rw [hobeys]
  refine hdecides.congr ⟨fun hkept p hp => ⟨?_, fun hreq => ?_⟩,
    fun hkept k _ => ⟨fun _ p hp => ?_, fun _ key hkey => ?_⟩⟩
  · exact (hkept _ hproperties).1 rfl p hp
  · have hmem := hall p hp hreq
    have hhas := (hkept _ (hrequired (List.ne_nil_of_mem hmem))).2 rfl _ hmem
    exact (has_text hflat.hasTextKeys p.name).mp hhas
  · exact (hkept p hp).1
  · obtain ⟨p, hp, hreq, rfl⟩ := honly key hkey
    exact (has_text hflat.hasTextKeys p.name).mpr ((hkept p hp).2 hreq)

end PromptContract.Schema
