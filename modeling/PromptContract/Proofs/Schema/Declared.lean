import Mathlib.Data.List.Forall2
import Mathlib.Data.List.Nodup
import PromptContract.Contract
import PromptContract.Proofs.Schema.FieldMap
import PromptContract.Proofs.Value.Entries

/-!
# One row of properties in schemas of three shapes

A row of properties of primitive types can be declared by a field map, by a JSON Schema or by a
record type (`Declares`). Whichever it is, the schema is found to be of its shape, declares the
properties in their order (`FieldMapSchemaEngine.properties`, `JsonSchemaEngine.properties`,
`PydanticSchemaEngine.properties`), and gives rise to the same fields (`fields_of_declares`).
-/

namespace PromptContract.Schema

/-- A property as it is to be declared. -/
structure Declared where
  name : String
  type : FieldType
  required : Bool
  description : Option String

namespace Declared

/-- The description as it stands in a schema. -/
def about (p : Declared) : Value := (p.description.map Value.text).getD .null

/-- The description of the field: that of the property unless it is empty, else one by its name. -/
def fieldDescription (p : Declared) : String :=
  match p.description with
  | some s => if s.isEmpty then "Field " ++ p.name else s
  | none => "Field " ++ p.name

/-- The field that a property gives rise to. -/
def toField (p : Declared) : Field :=
  ⟨.given p.name, p.type, .text p.fieldDescription, .bool p.required, none⟩

/-- The field that a property gives rise to, if its name has a character. -/
def toField? (p : Declared) : Except Failure Field :=
  if p.name.isEmpty then .error (.badFieldName (.text p.name)) else .ok p.toField

/-- The fields that a row of properties gives rise to. -/
def fields (ps : List Declared) : Except Failure (List Field) := ps.mapM toField?

end Declared

/-! ## Tags for primitive types -/

/-- A tag that stands for a primitive type: the type itself, its name as a member of the family of
field types, or one of its names as a text. -/
inductive TagFor (t : FieldType) : Value → Prop
  | type : TagFor t (FieldMap.ofFieldType t)
  | member : TagFor t (.fieldType t)
  | name (s : String) (h : Tag.named? s = some t) : TagFor t (.text s)

/-- A tag for a type stands for the type of a field. -/
theorem TagFor.fieldType_eq {t : FieldType} {tag : Value} (h : TagFor t tag) :
    Tag.fieldType tag = t := by
  cases h with
  | type => cases t <;> rfl
  | member => rfl
  | name s h =>
    show (Tag.named? s).getD .str = t
    rw [h]
    rfl

/-- The name of a field type is one of its names. -/
theorem named?_name (t : FieldType) : Tag.named? t.name = some t := by
  cases t <;> decide

/-- A tag for a type stands for the type in checks. -/
theorem TagFor.typeOf_eq {t : FieldType} {tag : Value} (h : TagFor t tag) :
    FieldMap.typeOf tag = FieldMap.ofFieldType t := by
  cases h with
  | type => cases t <;> rfl
  | member =>
    show FieldMap.typeNamed t.name = _
    unfold FieldMap.typeNamed
    rw [named?_name]
  | name s h =>
    show FieldMap.typeNamed s = _
    unfold FieldMap.typeNamed
    rw [h]

/-! ## The three shapes -/

/-- An entry of a field map for a property: a tag alone, or in a row with a map about it. -/
structure FieldMapEntry (p : Declared) (e : Value × Value) : Prop where
  name : e.1 = .text p.name
  tag : TagFor p.type (FieldMap.splitTag e.2).1
  description : (FieldMap.splitTag e.2).2.getD "description" = p.about
  required : ((FieldMap.splitTag e.2).2.getD "optional").truthy = !p.required

/-- The name of a type in JSON Schemas. -/
def jsonName : FieldType → String
  | .str => "string"
  | .int => "integer"
  | .float => "number"
  | .bool => "boolean"

/-- An entry of the properties of a JSON Schema for a property: a map that gives its type, and its
description if it has one. -/
structure JsonEntry (p : Declared) (e : Value × Value) : Prop where
  name : e.1 = .text p.name
  about : ∃ about : Entries, e.2 = .map about ∧
    (.text "type", .text (jsonName p.type)) ∈ about ∧
    (p.description ≠ none → (.text "description", p.about) ∈ about) ∧
    ∀ k ∈ about, k = (.text "type", .text (jsonName p.type)) ∨ k = (.text "description", p.about)

/-- A JSON Schema for a row of properties: a map that lists them, and those that are required if any
are, and may call itself an object. -/
structure JsonSchemaFor (ps : List Declared) (schema : Entries) : Prop where
  lists : ∃ listed required : List _, List.Forall₂ JsonEntry ps listed ∧
    (∀ p ∈ ps, p.required = true → .text p.name ∈ required) ∧
    (∀ v ∈ required, ∃ p ∈ ps, p.required = true ∧ v = .text p.name) ∧
    (.text "properties", .map listed) ∈ schema ∧
    (required ≠ [] → (.text "required", .list required) ∈ schema) ∧
    ∀ k ∈ schema, k = (.text "type", .text "object") ∨ k = (.text "properties", .map listed) ∨
      k = (.text "required", .list required)

/-- A field of a record type for a property. One that is not required may allow null as well. -/
structure RecordEntry (p : Declared) (f : RecordField) : Prop where
  name : f.name = p.name
  type : f.type = FieldMap.ofFieldType p.type ∨ p.required = false ∧ ∃ style,
    f.type = .union style [FieldMap.ofFieldType p.type, .builtin .none]
  description : f.description.getD .null = p.about
  required : f.required = p.required

/-- A schema declares a row of properties. -/
inductive Declares (ps : List Declared) : Value → Prop
  | fieldMap {es : Entries} (h : List.Forall₂ FieldMapEntry ps es) : Declares ps (.map es)
  | json {schema : Entries} (h : JsonSchemaFor ps schema) : Declares ps (.map schema)
  | record {name : String} {fields : List RecordField} (h : List.Forall₂ RecordEntry ps fields) :
    Declares ps (.record name fields)

/-! ## What the shapes declare -/

/-- What a schema of any shape makes of a property. -/
structure PropertyFor (p : Declared) (q : Property) : Prop where
  name : q.name = .text p.name
  tag : Tag.fieldType q.tag = p.type
  description : q.description = p.about
  required : q.required = p.required

/-- A property of a schema gives rise to the field of the property that was declared. -/
theorem PropertyFor.toField_eq {p : Declared} {q : Property} (h : PropertyFor p q) :
    q.toField = p.toField? := by
  have habout : p.about.orElse (.text ("Field " ++ p.name)) = .text p.fieldDescription := by
    unfold Declared.about Declared.fieldDescription
    cases p.description with
    | none => rfl
    | some s =>
      rw [Option.map_some, Option.getD_some, Value.orElse_text, apply_ite Value.text]
  have hshown : (Value.text p.name).display = p.name := rfl
  unfold Property.toField Declared.toField?
  rw [h.name, h.tag, h.description, h.required, hshown, habout]
  rfl

/-- The tag of a primitive type is not the word for objects. -/
theorem TagFor.ne_object {t : FieldType} : ¬TagFor t (.text "object") := by
  generalize htag : Value.text "object" = tag
  intro h
  cases h with
  | type => cases t <;> cases htag
  | member => cases htag
  | name s h =>
    obtain rfl := Value.text.inj htag
    have hnone : Tag.named? "object" = none := by decide
    rw [hnone] at h
    cases h

/-- So what tells a property in a field map is not that word. -/
theorem FieldMapEntry.ne_object {p : Declared} {e : Value × Value} (h : FieldMapEntry p e) :
    e.2 ≠ .text "object" := by
  intro hobject
  have htag := h.tag
  rw [hobject] at htag
  exact TagFor.ne_object htag

/-- What stands on the right of a relation of rows is related to something on the left. -/
theorem exists_left_of_forall₂ {α β : Type} {R : α → β → Prop} {as : List α} {bs : List β}
    (h : List.Forall₂ R as bs) : ∀ b ∈ bs, ∃ a ∈ as, R a b := by
  induction h with
  | nil => exact fun _ hb => nomatch hb
  | @cons a b as bs hab _ ih =>
    intro b' hb'
    rcases List.mem_cons.mp hb' with rfl | hb'
    · exact ⟨a, List.mem_cons_self, hab⟩
    · obtain ⟨a', ha', hrel⟩ := ih b' hb'
      exact ⟨a', List.mem_cons_of_mem _ ha', hrel⟩

/-- Entries for properties, none of which is called by the word for properties, are a field map. -/
theorem of_fieldMap {ps : List Declared} {es : Entries} (h : List.Forall₂ FieldMapEntry ps es)
    (hnames : ∀ p ∈ ps, p.name ≠ "properties") : Shape.of (.map es) = .ok (.fieldMap es) := by
  have hentry := exists_left_of_forall₂ h
  have hnot : looksLikeJson es = false := by
    rw [Bool.eq_false_iff, Ne, looksLikeJson_iff]
    rintro (⟨e, he, hkey⟩ | htype)
    · obtain ⟨p, hp, hfor⟩ := hentry e he
      rw [hfor.name, Value.isText_text_of_ne (hnames p hp)] at hkey
      cases hkey
    · unfold Entries.getD at htype
      cases hget : es.get? "type" with
      | none =>
        rw [hget] at htype
        cases htype
      | some v =>
        rw [hget] at htype
        obtain ⟨e, he, -, rfl⟩ := Entries.exists_of_get? hget
        obtain ⟨p, -, hfor⟩ := hentry e he
        exact hfor.ne_object (isText_object_iff.mp htype)
  rw [of_map, hnot]
  rfl

/-- A field map for properties declares them, with tags that stand for their types in checks. -/
theorem properties_fieldMap {ps : List Declared} {es : Entries}
    (h : List.Forall₂ FieldMapEntry ps es) :
    List.Forall₂ (fun p q => PropertyFor p q ∧
      FieldMap.typeOf q.tag = FieldMap.ofFieldType p.type) ps (FieldMap.properties es) := by
  unfold FieldMap.properties
  rw [List.forall₂_map_right_iff]
  refine h.imp fun p e hfor =>
    ⟨⟨hfor.name, hfor.tag.fieldType_eq, hfor.description, ?_⟩, hfor.tag.typeOf_eq⟩
  exact (congrArg not hfor.required).trans (Bool.not_not _)

/-- The types of JSON Schemas stand for the primitive types. -/
theorem fieldType_jsonName (t : FieldType) : Tag.fieldType (.text (jsonName t)) = t := by
  have hname : Tag.named? (jsonName t) = some t := by cases t <;> decide
  show (Tag.named? (jsonName t)).getD .str = t
  rw [hname]
  rfl

namespace JsonEntry

variable {p : Declared} {e : Value × Value}

/-- The map about a property gives the name of its type. -/
theorem getD_type {about : Entries}
    (h : (.text "type", .text (jsonName p.type)) ∈ about)
    (hall : ∀ k ∈ about, k = (.text "type", .text (jsonName p.type)) ∨
      k = (.text "description", p.about)) : about.getD "type" = .text (jsonName p.type) :=
  Entries.get?_getD_eq (fun k hk hkey => by
    rcases hall k hk with rfl | rfl
    · rfl
    · exact absurd (Value.eq_of_isText_text hkey) (by decide)) fun _ => h

/-- The map about a property gives its description. -/
theorem getD_description {about : Entries}
    (h : p.description ≠ none → (.text "description", p.about) ∈ about)
    (hall : ∀ k ∈ about, k = (.text "type", .text (jsonName p.type)) ∨
      k = (.text "description", p.about)) : about.getD "description" = p.about :=
  Entries.get?_getD_eq (fun k hk hkey => by
    rcases hall k hk with rfl | rfl
    · exact absurd (Value.eq_of_isText_text hkey) (by decide)
    · rfl) fun hne => h fun hnone => hne (by unfold Declared.about; rw [hnone]; rfl)

end JsonEntry

namespace JsonSchemaFor

variable {ps : List Declared} {schema : Entries}

/-- A JSON Schema for properties lists them, and those that are required. -/
theorem lookups (h : JsonSchemaFor ps schema) : ∃ listed required : List _,
    List.Forall₂ JsonEntry ps listed ∧ (∀ p ∈ ps, p.required = true → .text p.name ∈ required) ∧
    (∀ v ∈ required, ∃ p ∈ ps, p.required = true ∧ v = .text p.name) ∧
    schema.get? "properties" = some (.map listed) ∧
    (schema.get? "required").getD (.list []) = .list required := by
  obtain ⟨listed, required, hlisted, hall, honly, hproperties, hrequired, hkeys⟩ := h.lists
  refine ⟨listed, required, hlisted, hall, honly, ?_, ?_⟩
  · obtain ⟨v, hv⟩ : ∃ v, schema.get? "properties" = some v :=
      Entries.exists_get? hproperties (beq_self_eq_true _)
    obtain ⟨k, hk, hkey, rfl⟩ := Entries.exists_of_get? hv
    rcases hkeys k hk with rfl | rfl | rfl
    · exact absurd (Value.eq_of_isText_text hkey) (by decide)
    · exact hv
    · exact absurd (Value.eq_of_isText_text hkey) (by decide)
  · refine Entries.get?_getD_eq (fun k hk hkey => ?_) fun hne =>
      hrequired fun hnil => hne (by rw [hnil])
    rcases hkeys k hk with rfl | rfl | rfl
    · exact absurd (Value.eq_of_isText_text hkey) (by decide)
    · exact absurd (Value.eq_of_isText_text hkey) (by decide)
    · rfl

/-- It is found to be one. -/
theorem of_json (h : JsonSchemaFor ps schema) : Shape.of (.map schema) = .ok (.json schema) := by
  obtain ⟨listed, required, -, -, -, hproperties, -⟩ := h.lookups
  exact of_listed hproperties

/-- It declares the properties. -/
theorem properties_json (h : JsonSchemaFor ps schema) (hdistinct : (ps.map (·.name)).Nodup) :
    ∃ qs, JsonSchema.properties schema = .ok qs ∧ List.Forall₂ PropertyFor ps qs := by
  obtain ⟨listed, required, hlisted, hall, honly, hproperties, hrequired⟩ := h.lookups
  have hkeys : required.all Value.isKey = true := by
    rw [List.all_eq_true]
    intro v hv
    obtain ⟨p, -, -, rfl⟩ := honly v hv
    rfl
  have hmap : ((schema.getD "properties").orElse (.map [])).entriesOfMap = .ok listed := by
    unfold Entries.getD
    rw [hproperties]
    cases listed <;> rfl
  have hitems : ((schema.get? "required").getD (.list [])).items = .ok required := by
    rw [hrequired]
    rfl
  -- The listed entries and the required names are read as they stand.
  refine ⟨_, JsonSchema.properties_of hitems hkeys hmap, ?_⟩
  rw [List.forall₂_map_right_iff]
  refine ((List.forall₂_and_left ps listed).mpr ⟨fun p hp => hp, hlisted⟩).imp fun p e hfor => ?_
  obtain ⟨hp, hname, about, hmap, htype, hdescription, honlyAbout⟩ := hfor
  obtain ⟨k, v⟩ := e
  obtain rfl : k = .text p.name := hname
  obtain rfl : v = .map about := hmap
  refine ⟨rfl, ?_, JsonEntry.getD_description hdescription honlyAbout, ?_⟩
  · have htag : (JsonSchema.property required (.text p.name, .map about)).tag =
        .text (jsonName p.type) := by
      simp only [JsonSchema.property, JsonEntry.getD_type htype honlyAbout]
    rw [htag]
    exact fieldType_jsonName p.type
  · show required.any (Value.text p.name).same = p.required
    -- No two properties have one name, so that a name that is required is that of this one.
    rw [Bool.eq_iff_iff, List.any_eq_true]
    constructor
    · rintro ⟨v, hv, hsame⟩
      obtain ⟨p', hp', hreq, rfl⟩ := honly v hv
      obtain rfl : p = p' := List.inj_on_of_nodup_map hdistinct hp hp' (eq_of_beq hsame)
      exact hreq
    · exact fun hreq => ⟨_, hall p hp hreq, beq_self_eq_true _⟩

end JsonSchemaFor

/-- A record type with fields for properties declares them. -/
theorem properties_record {ps : List Declared} {name : String} {fields : List RecordField}
    (h : List.Forall₂ RecordEntry ps fields) :
    List.Forall₂ PropertyFor ps (RecordType.properties name fields) := by
  unfold RecordType.properties
  rw [List.forall₂_map_right_iff]
  refine h.imp fun p f hfor => ⟨by rw [hfor.name], ?_, hfor.description, hfor.required⟩
  rcases hfor.type with htype | ⟨-, style, htype⟩ <;> rw [htype] <;> cases p.type <;> rfl

/-- A schema for a row of properties declares them in their order. -/
theorem Declares.exists_properties {ps : List Declared} {schema : Value} (h : Declares ps schema)
    (hdistinct : (ps.map (·.name)).Nodup) (hnames : ∀ p ∈ ps, p.name ≠ "properties") :
    ∃ shape qs, Shape.of schema = .ok shape ∧ shape.properties = .ok qs ∧
      List.Forall₂ PropertyFor ps qs := by
  cases h with
  | fieldMap h =>
    exact ⟨_, _, of_fieldMap h hnames, rfl, (properties_fieldMap h).imp fun _ _ => And.left⟩
  | json h =>
    obtain ⟨qs, hqs, hfor⟩ := h.properties_json hdistinct
    exact ⟨_, qs, h.of_json, hqs, hfor⟩
  | record h => exact ⟨_, _, rfl, rfl, properties_record h⟩

/-- A schema for a row of properties gives rise to their fields. -/
theorem fields_of_declares {ps : List Declared} {schema : Value} (h : Declares ps schema)
    (hdistinct : (ps.map (·.name)).Nodup) (hnames : ∀ p ∈ ps, p.name ≠ "properties") :
    Schema.fields schema = (Declared.fields ps).map some := by
  obtain ⟨shape, qs, hshape, hqs, hfor⟩ := h.exists_properties hdistinct hnames
  have hmapM : qs.mapM Property.toField = Declared.fields ps := by
    clear h hdistinct hnames hqs
    unfold Declared.fields
    induction hfor with
    | nil => rfl
    | cons hfirst _ ih => rw [List.mapM_cons, List.mapM_cons, ih, hfirst.toField_eq]
  rw [fields_eq hshape, hqs, ok_bind, hmapM]
  cases Declared.fields ps <;> rfl

/-! ## Maps that satisfy properties -/

/-- Whether a value is of a primitive type. -/
def isOfType : FieldType → Value → Bool
  | .str, .text _ | .int, .int _ | .float, .float _ | .bool, .bool _ => true
  | _, _ => false

/-- A value that a reply can leave for a property: one of its type, or a text. -/
inductive IsLeftFor : FieldType → Value → Prop
  | text (t : FieldType) (s : String) : IsLeftFor t (.text s)
  | int (n : Int) : IsLeftFor .int (.int n)
  | float (x : Binary64) : IsLeftFor .float (.float x)
  | bool (b : Bool) : IsLeftFor .bool (.bool b)

/-- A map has a value of its type for a property, or none where none is required. -/
def Declared.Met (p : Declared) (es : Entries) : Prop :=
  match es.get? p.name with
  | some v => isOfType p.type v = true
  | none => p.required = false

/-- A property is met if what is there for it is of its type, and something is there where the
property is required. -/
theorem Declared.met_iff (p : Declared) (es : Entries) :
    p.Met es ↔ (∀ v, es.get? p.name = some v → isOfType p.type v = true) ∧
      (p.required = true → ∃ v, es.get? p.name = some v) := by
  unfold Declared.Met
  cases es.get? p.name with
  | none => simp
  | some v => simp

end PromptContract.Schema
