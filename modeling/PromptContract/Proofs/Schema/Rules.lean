import Mathlib.Data.List.Find
import PromptContract.Proofs.Failure
import PromptContract.Proofs.Schema.Declared
import PromptContract.Schema.Engines

/-!
# The rules of engines

What is relied on where engines check schemas for properties of primitive types, over maps of texts,
numbers and truth values. A record type takes for each field what its type takes, strictly, and
misses the fields that are required (`IsMetBy`). A JSON Schema goes by the rules for the
keywords for types and for what is required (`JsonSchema.Obeys`). `Engines.Spec` says that engines
keep to these rules.

For values that a reply can leave both come to the same: they hold of a map exactly where it meets
the properties (`areMetBy_iff`, `JsonSchemaFor.obeys_iff`).
-/

namespace PromptContract.Schema

/-- Whether a value is a text, a number or a truth value. -/
def isScalar : Value → Bool
  | .text _ | .int _ | .float _ | .bool _ => true
  | _ => false

/-- It is one of these. -/
theorem exists_of_isScalar {v : Value} (h : isScalar v = true) :
    (∃ s, v = .text s) ∨ (∃ b, v = .bool b) ∨ (∃ n, v = .int n) ∨ ∃ x, v = .float x := by
  cases v with
  | text s => exact .inl ⟨s, rfl⟩
  | bool b => exact .inr (.inl ⟨b, rfl⟩)
  | int n => exact .inr (.inr (.inl ⟨n, rfl⟩))
  | float x => exact .inr (.inr (.inr ⟨x, rfl⟩))
  | _ => cases h

/-- A map of such values under texts. -/
def IsFlat (es : Entries) : Prop := ∀ e ∈ es, (∃ s, e.1 = .text s) ∧ isScalar e.2 = true

/-- Whether a map has texts for keys only. -/
def HasTextKeys (es : Entries) : Prop := ∀ e ∈ es, ∃ s, e.1 = .text s

/-- A flat map does. -/
theorem IsFlat.hasTextKeys {es : Entries} (h : IsFlat es) : HasTextKeys es := fun e he => (h e he).1

/-- What is found in a flat map is a text, a number or a truth value. -/
theorem IsFlat.isScalar_of_get? {es : Entries} (h : IsFlat es) {name : String} {v : Value}
    (hv : es.get? name = some v) : isScalar v = true := by
  obtain ⟨e, he, -, rfl⟩ := Entries.exists_of_get? hv
  exact (h e he).2

/-- Under texts values are looked up alike. -/
theorem lookup?_text {es : Entries} (h : HasTextKeys es) (name : String) :
    es.lookup? (.text name) = es.get? name := by
  refine congrArg (Option.map _) (List.find?_congr fun e he => ?_)
  obtain ⟨s, hs⟩ := h e he
  rw [hs]
  rfl

/-- A map has a text for a key if there is a value under it. -/
theorem has_text {es : Entries} (h : HasTextKeys es) (name : String) :
    es.has (.text name) = true ↔ ∃ v, es.get? name = some v := by
  rw [← lookup?_text h, ← Option.isSome_iff_exists]
  unfold Entries.has Entries.lookup?
  rw [Option.isSome_map, List.find?_isSome, List.any_eq_true]

/-! ## Record types -/

/-- What a type without parts takes, strictly: texts only, integers but no truth values,
floating-point numbers and integers that one of them can hold, and truth values only. -/
def takesPlain : Value → Value → Bool
  | .builtin .str, .text _ | .builtin .int, .int _ | .builtin .float, .float _
  | .builtin .bool, .bool _ | .builtin .none, .null => true
  | .builtin .float, .int n => (Binary64.ofInt? n).isSome
  | _, _ => false

/-- What a type takes that may be a union: what one of its members takes. -/
def takes : Value → Value → Bool
  | .union _ members, v => members.any fun type => takesPlain type v
  | type, v => takesPlain type v

/-- A map has for a field what the type of the field takes, or nothing where nothing is required. -/
def IsMetBy (f : RecordField) (es : Entries) : Prop :=
  match es.get? f.name with
  | some v => takes f.type v = true
  | none => f.required = false

/-- A type of the values of a property, which may allow null besides. -/
def IsTypeFor (t : FieldType) (type : Value) : Prop :=
  type = FieldMap.ofFieldType t ∨
    ∃ style, type = .union style [FieldMap.ofFieldType t, .builtin .none]

/-- The type of a field for a property is a type of its values. -/
theorem RecordEntry.isTypeFor {p : Declared} {f : RecordField} (h : RecordEntry p f) :
    IsTypeFor p.type f.type := h.type.imp id And.right

/-- Of the values that a reply can leave it takes those of the type of the property. -/
theorem IsTypeFor.takes_eq {t : FieldType} {type v : Value} (h : IsTypeFor t type)
    (hv : IsLeftFor t v) : takes type v = isOfType t v := by
  rcases h with rfl | ⟨style, rfl⟩
  · cases hv with
    | text t s => cases t <;> rfl
    | _ => rfl
  · cases hv with
    | text t s => cases t <;> rfl
    | _ => rfl

variable {ps : List Declared} {es schema : Entries}

/-- Where a map has a value for a property that a reply can leave, it has for a field for the
property what the type takes if it meets the property. -/
theorem RecordEntry.isMetBy_iff {p : Declared} {f : RecordField} (h : RecordEntry p f)
    (hleft : ∀ v, es.get? p.name = some v → IsLeftFor p.type v) : IsMetBy f es ↔ p.Met es := by
  unfold IsMetBy Declared.Met
  rw [h.name, h.required]
  cases hget : es.get? p.name with
  | none => exact Iff.rfl
  | some v =>
    dsimp only
    rw [h.isTypeFor.takes_eq (hleft v hget)]

/-- So it is with all of them. -/
theorem areMetBy_iff {fields : List RecordField} (h : List.Forall₂ RecordEntry ps fields)
    (hleft : ∀ p ∈ ps, ∀ v, es.get? p.name = some v → IsLeftFor p.type v) :
    (∀ f ∈ fields, IsMetBy f es) ↔ ∀ p ∈ ps, p.Met es := by
  induction h with
  | nil => simp
  | @cons p f ps fields hfor _ ih =>
    rw [List.forall_mem_cons] at hleft
    rw [List.forall_mem_cons, List.forall_mem_cons, hfor.isMetBy_iff hleft.1, ih hleft.2]

/-! ## JSON Schemas -/

namespace JsonSchema

/-- Whether a value is of the type of a name. Whole floating-point numbers are integers, and truth
values are no numbers. -/
def isOfName : String → Value → Bool
  | "string", .text _ | "integer", .int _ | "number", .int _ | "number", .float _
  | "boolean", .bool _ => true
  | "integer", .float x => x.isWhole
  | _, _ => false

/-- A map keeps to the rules for two keywords of a schema: it has what is required, and what it has
for the listed properties is of the types that they give. -/
structure Obeys (schema es : Entries) : Prop where
  required : ∀ names, schema.get? "required" = some (.list names) →
    ∀ name ∈ names, es.has name = true
  types : ∀ listed, schema.get? "properties" = some (.map listed) →
    ∀ name about, (name, about) ∈ listed → ∀ (entries : Entries) type v, about = .map entries →
      entries.get? "type" = some (.text type) → es.lookup? name = some v → isOfName type v = true

end JsonSchema

open JsonSchema

/-- Of the values that a reply can leave those of a type are of the type of its name. -/
theorem IsLeftFor.isOfName_eq {t : FieldType} {v : Value} (h : IsLeftFor t v) :
    isOfName (jsonName t) v = isOfType t v := by
  cases h with
  | text t s => cases t <;> rfl
  | _ => rfl

/-- What stands for the type in the map about a property. -/
theorem JsonEntry.get?_type {p : Declared} {e : Value × Value} (h : JsonEntry p e) :
    ∃ about : Entries, e.2 = .map about ∧ about.get? "type" = some (.text (jsonName p.type)) := by
  obtain ⟨about, hmap, htype, -, honly⟩ := h.about
  have hgetD := JsonEntry.getD_type htype honly
  refine ⟨about, hmap, ?_⟩
  unfold Entries.getD at hgetD
  cases hget : about.get? "type" with
  | none =>
    rw [hget] at hgetD
    cases hgetD
  | some v =>
    rw [hget] at hgetD
    exact congrArg some hgetD

/-- A map keeps to the rules of a JSON Schema for properties if for each of them it has a value of
the type of that name, or none, and one where it is required. -/
theorem JsonSchemaFor.obeys_iff_forall (h : JsonSchemaFor ps schema) (hkeys : HasTextKeys es) :
    Obeys schema es ↔ ∀ p ∈ ps,
      (∀ v, es.get? p.name = some v → isOfName (jsonName p.type) v = true) ∧
        (p.required = true → ∃ v, es.get? p.name = some v) := by
  obtain ⟨listed, required, hlisted, hall, honly, hproperties, hrequired⟩ := h.lookups
  constructor
  · intro hobeys p hp
    obtain ⟨⟨name, about⟩, he, hentry⟩ := exists_left_of_forall₂ hlisted.flip p hp
    obtain ⟨entries, hmap, htype⟩ := hentry.get?_type
    refine ⟨fun v hv => ?_, fun hreq => ?_⟩
    · rw [← lookup?_text hkeys, ← hentry.name] at hv
      exact hobeys.types listed hproperties name about he entries _ v hmap htype hv
    · have hmem := hall p hp hreq
      cases hget : schema.get? "required" with
      | none =>
        -- Without the keyword nothing is required.
        rw [hget] at hrequired
        obtain rfl : [] = required := Value.list.inj hrequired
        cases hmem
      | some v =>
        rw [hget] at hrequired
        obtain rfl : v = .list required := hrequired
        exact (has_text hkeys p.name).mp (hobeys.required required hget _ hmem)
  · refine fun hforall => ⟨fun names hnames name hname => ?_, ?_⟩
    · rw [hnames] at hrequired
      obtain rfl := Value.list.inj hrequired
      obtain ⟨p, hp, hreq, rfl⟩ := honly name hname
      exact (has_text hkeys p.name).mpr ((hforall p hp).2 hreq)
    · intro listed' hlisted' name about he entries type v hmap htype hv
      obtain rfl := Value.map.inj (Option.some.inj (hproperties.symm.trans hlisted'))
      obtain ⟨p, hp, hentry⟩ := exists_left_of_forall₂ hlisted _ he
      obtain ⟨entries', hmap', htype'⟩ := hentry.get?_type
      obtain rfl := Value.map.inj (hmap'.symm.trans hmap)
      obtain rfl := Value.text.inj (Option.some.inj (htype'.symm.trans htype))
      obtain rfl : name = .text p.name := hentry.name
      rw [lookup?_text hkeys] at hv
      exact (hforall p hp).1 v hv

/-- Where a map has values for the properties that a reply can leave, it keeps to the rules if it
meets them. -/
theorem JsonSchemaFor.obeys_iff (h : JsonSchemaFor ps schema) (hkeys : HasTextKeys es)
    (hleft : ∀ p ∈ ps, ∀ v, es.get? p.name = some v → IsLeftFor p.type v) :
    Obeys schema es ↔ ∀ p ∈ ps, p.Met es := by
  rw [h.obeys_iff_forall hkeys]
  refine forall₂_congr fun p hp => ?_
  rw [p.met_iff]
  refine and_congr (forall₂_congr fun v hv => ?_) Iff.rfl
  rw [(hleft p hp v hv).isOfName_eq]

/-! ## Engines that keep to the rules -/

namespace Engines

/-- Engines keep to the rules over flat maps. -/
structure Spec (e : Engines (Except Failure)) : Prop where
  /-- The type of the values of a primitive type or null is a union. -/
  optional : ∀ t, e.optional (FieldMap.ofFieldType t) =
    .ok (.union .named [FieldMap.ofFieldType t, .builtin .none])
  /-- A map has no problem with a record type that can be made for properties just if each field is
  met. -/
  record : ∀ (ps : List Declared) name fields, (ps.map (·.name)).Nodup →
    List.Forall₂ RecordEntry ps fields → e.makeRecord name fields = .ok fields →
      ∀ es, IsFlat es → ∃ issues, e.recordIssues name fields (.map es) = .ok issues ∧
        (issues = [] ↔ ∀ f ∈ fields, IsMetBy f es)
  /-- A map has no problem with a JSON Schema for properties just if it keeps to the rules for its
  keywords. -/
  json : ∀ (ps : List Declared) schema, (ps.map (·.name)).Nodup → JsonSchemaFor ps schema →
    ∀ es, IsFlat es → ∃ issues, e.jsonIssues schema (.map es) = .ok issues ∧
      e.jsonFits schema (.map es) = .ok issues.isEmpty ∧ (issues = [] ↔ Obeys schema es)

/-- Engines make record types with fields for properties, as they are. -/
def Accepts (e : Engines (Except Failure)) (ps : List Declared) : Prop :=
  ∀ name fields, List.Forall₂ RecordEntry ps fields → e.makeRecord name fields = .ok fields

variable {e : Engines (Except Failure)}

/-- A property of a field map becomes a field of a record type for it. -/
theorem Spec.recordField_eq (hspec : e.Spec) {p : Declared} {q : Property} (h : PropertyFor p q)
    (htype : FieldMap.typeOf q.tag = FieldMap.ofFieldType p.type) :
    ∃ f, e.recordField q = .ok (.text p.name, f) ∧ RecordEntry p f := by
  have hdescription : p.about.present?.getD .null = p.about := by
    unfold Declared.about
    cases p.description <;> rfl
  unfold Engines.recordField
  rw [h.name, h.description, h.required, htype]
  cases hreq : p.required with
  | true => exact ⟨_, rfl, rfl, .inl rfl, hdescription, hreq.symm⟩
  | false =>
    simp only [hspec.optional, Bool.false_eq_true, if_false]
    exact ⟨_, rfl, rfl, .inr ⟨hreq, .named, rfl⟩, hdescription, hreq.symm⟩

/-- A field map for properties becomes a record type with fields for them. -/
theorem Spec.recordFields_eq (hspec : e.Spec) (haccepts : e.Accepts ps)
    (h : List.Forall₂ FieldMapEntry ps es) :
    ∃ fields, e.recordFields es = .ok fields ∧ List.Forall₂ RecordEntry ps fields := by
  obtain ⟨fs, hfs, hentries⟩ : ∃ fs, (FieldMap.properties es).mapM e.recordField = .ok fs ∧
      List.Forall₂ (fun p f => f.1 = .text p.name ∧ RecordEntry p f.2) ps fs := by
    have hproperties := properties_fieldMap h
    generalize FieldMap.properties es = qs at hproperties
    clear haccepts h
    induction hproperties with
    | nil => exact ⟨[], rfl, .nil⟩
    | cons hfor _ ih =>
      obtain ⟨f, hf, hentry⟩ := hspec.recordField_eq hfor.1 hfor.2
      obtain ⟨fs, hfs, hentries⟩ := ih
      refine ⟨(.text _, f) :: fs, ?_, .cons ⟨rfl, hentry⟩ hentries⟩
      rw [List.mapM_cons, hf, ok_bind, hfs, ok_bind]
      rfl
  have htexts : (fs.all fun f => f.1.comparedText?.isSome) = true := by
    rw [List.all_eq_true]
    intro f hf
    obtain ⟨p, -, hname, -⟩ := exists_left_of_forall₂ hentries f hf
    rw [hname]
    rfl
  have hfields : List.Forall₂ RecordEntry ps (fs.map (·.2)) :=
    List.forall₂_map_right_iff.mpr (hentries.imp fun _ _ => And.right)
  refine ⟨_, ?_, hfields⟩
  unfold Engines.recordFields
  rw [hfs, ok_bind, if_pos htexts, haccepts _ _ hfields]

end Engines

end PromptContract.Schema
