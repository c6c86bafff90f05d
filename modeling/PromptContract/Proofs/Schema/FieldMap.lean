import Mathlib.Data.List.Forall2
import PromptContract.Proofs.Failure
import PromptContract.Proofs.Value.Entries
import PromptContract.Schema.Shape

/-!
# Maps that are read as field maps

A field map and a JSON Schema are both maps from names, and are told apart by two entries
(`engine_for`): one that lists properties, and one that says that the map is about objects
(`looksLikeJson`). A map from names to tags is read as a field map just if it has neither, whatever
else its names and tags are, and then gives rise to one field for each entry (`fields_of_tagged`). A
property of a field map that happens to be called `properties` leaves no field at all
(`eq_nil_of_properties`).
-/

namespace PromptContract.Schema

/-! ## Telling the shapes apart -/

/-- Whether a map looks like a JSON Schema: it lists properties or says that it is about objects. -/
def looksLikeJson (es : Entries) : Bool :=
  (es.get? "properties").isSome || (es.getD "type").isText "object"

/-- A map is a JSON Schema if it looks like one, and a field map otherwise. -/
theorem of_map (es : Entries) :
    Shape.of (.map es) = .ok (if looksLikeJson es then .json es else .fieldMap es) := rfl

/-- A map looks like a JSON Schema if an entry is called `properties`, or if what is found as its
type is the word for objects. -/
theorem looksLikeJson_iff (es : Entries) : looksLikeJson es = true ↔
    (∃ e ∈ es, e.1.isText "properties" = true) ∨ (es.getD "type").isText "object" = true := by
  unfold looksLikeJson
  rw [Bool.or_eq_true]
  refine or_congr_left ⟨fun h => ?_, ?_⟩
  · obtain ⟨v, hv⟩ := Option.isSome_iff_exists.mp h
    obtain ⟨e, he, hkey, -⟩ := Entries.exists_of_get? hv
    exact ⟨e, he, hkey⟩
  · rintro ⟨e, he, hkey⟩
    obtain ⟨v, hv⟩ := Entries.exists_get? he hkey
    rw [hv]
    rfl

/-- A map with an entry for properties is a JSON Schema, whatever stands there. -/
theorem of_listed {es : Entries} {v : Value} (h : es.get? "properties" = some v) :
    Shape.of (.map es) = .ok (.json es) := by
  have hlooks : looksLikeJson es = true := by
    unfold looksLikeJson
    rw [h]
    rfl
  rw [of_map, hlooks]
  rfl

/-- The fields of a schema are those of the properties that its shape declares. -/
theorem fields_eq {schema : Value} {shape : Shape} (h : Shape.of schema = .ok shape) :
    fields schema = (do return some (← (← shape.properties).mapM Property.toField)) := by
  have hne : schema ≠ .null := by
    rintro rfl
    cases h
  rw [fields_of_ne hne, h, ok_bind]

/-! ## Properties with tags -/

/-- A property as a field map tells it: its name, its tag, and what is said about it. -/
structure Tagged where
  name : Name
  tag : Value
  about : Entries

namespace Tagged

/-- The description of the field: that of the property unless it counts as false, else one by the
name. -/
def description (p : Tagged) : Value :=
  (p.about.getD "description").orElse (.text ("Field " ++ p.name.display))

/-- Whether the field is required: unless the property is called optional. -/
def required (p : Tagged) : Bool := !(p.about.getD "optional").truthy

/-- The field that a property gives rise to. -/
def toField (p : Tagged) : Field :=
  ⟨p.name, Tag.fieldType p.tag, p.description, .bool p.required, none⟩

/-- Whether a value is a row whose first item is read as a tag. -/
def isRow : Value → Bool
  | .list (_ :: _) | .tuple (_ :: _) => true
  | _ => false

/-- The value that tells a property in a field map: its tag alone, which must not be a row, or in a
pair with what is said about it. -/
inductive ToldBy (p : Tagged) : Value → Prop
  | alone (habout : p.about = []) (hrow : isRow p.tag = false) : ToldBy p p.tag
  | list : ToldBy p (.list [p.tag, .map p.about])
  | tuple : ToldBy p (.tuple [p.tag, .map p.about])

/-- The entry of a property in a field map. -/
structure EntryOf (p : Tagged) (e : Value × Value) : Prop where
  name : e.1 = p.name.toValue
  told : p.ToldBy e.2

variable {p : Tagged}

/-- The tag is split from what is said about the property. -/
theorem ToldBy.splitTag_eq {v : Value} (h : p.ToldBy v) :
    FieldMap.splitTag v = (p.tag, p.about) := by
  obtain ⟨name, tag, about⟩ := p
  cases h with
  | list => rfl
  | tuple => rfl
  | alone habout hrow =>
    obtain rfl : about = [] := habout
    revert hrow
    cases tag with
    | list vs => cases vs with
      | nil => exact fun _ => rfl
      | cons => exact fun hrow => nomatch hrow
    | tuple vs => cases vs with
      | nil => exact fun _ => rfl
      | cons => exact fun hrow => nomatch hrow
    | _ => exact fun _ => rfl

/-- A description that may stand in a field is there. -/
theorem description_ne_null (p : Tagged) : p.description ≠ .null := by
  unfold description Value.orElse
  cases p.about.getD "description" with
  | null => exact fun h => nomatch h
  | _ =>
    split
    · exact fun h => nomatch h
    · exact fun h => nomatch h

/-- The property that a field map declares by an entry gives rise to the field. -/
theorem EntryOf.toField_eq {e : Value × Value} (h : EntryOf p e) (hname : p.name.text ≠ "") :
    (FieldMap.property e).toField = .ok p.toField := by
  have hproperty : FieldMap.property e = ⟨p.name.toValue, p.tag, p.about.getD "description",
      p.required, p.about⟩ := by
    unfold FieldMap.property
    rw [h.told.splitTag_eq, h.name]
    rfl
  rw [hproperty]
  have hempty : p.name.text.isEmpty = false := by
    rw [Bool.eq_false_iff]
    exact fun hempty => hname (String.isEmpty_iff.mp hempty)
  have hshown : p.name.toValue.display = p.name.display := by cases p.name <;> rfl
  have hname? : p.name.toValue.name? = some p.name := by cases p.name <;> rfl
  -- With such a name and description, making the field cannot fail.
  have hdescription :
      (p.about.getD "description").orElse (.text ("Field " ++ p.name.toValue.display)) =
        p.description := by
    rw [hshown]
    rfl
  unfold Property.toField Field.make
  simp only [hdescription, hname?, Value.present?_of_ne p.description_ne_null, hempty]
  rfl

end Tagged

/-! ## The fields of a field map -/

variable {ps : List Tagged} {es : Entries}

/-- The properties of a field map give rise to their fields, one for each entry. -/
theorem mapM_toField (h : List.Forall₂ Tagged.EntryOf ps es) (hnames : ∀ p ∈ ps, p.name.text ≠ "") :
    (FieldMap.properties es).mapM Property.toField = .ok (ps.map Tagged.toField) := by
  unfold FieldMap.properties
  rw [mapM_eq_ok_iff, List.forall₂_map_left_iff, List.forall₂_map_right_iff]
  have hentries := (List.forall₂_and_left ps es).mpr ⟨hnames, h⟩
  exact .flip (hentries.imp fun p e hentry => hentry.2.toField_eq hentry.1)

/-- An entry of a field map is found under the text of its name. -/
theorem Tagged.EntryOf.isText_iff {p : Tagged} {e : Value × Value} (h : p.EntryOf e)
    (key : String) : e.1.isText key = true ↔ p.name.text = key := by
  rw [h.name, Value.isText_iff]
  rw [Value.comparedText?_toValue]
  exact ⟨Option.some.inj, congrArg some⟩

/-- The word for objects is the only value that equals it. -/
theorem isText_object_iff {v : Value} : v.isText "object" = true ↔ v = .text "object" := by
  refine ⟨fun h => ?_, fun h => h ▸ rfl⟩
  obtain ⟨n, rfl, hn⟩ := Value.exists_eq_toValue (Value.isText_iff.mp h)
  cases n with
  | given s => exact congrArg Value.text hn
  | ofType t => cases t <;> exact absurd hn (by decide)

/-- A map from names to tags looks like a JSON Schema if a property is called `properties`, or if
what is found as its type is the word for objects. -/
theorem looksLikeJson_tagged (h : List.Forall₂ Tagged.EntryOf ps es) : looksLikeJson es = true ↔
    (∃ p ∈ ps, p.name.text = "properties") ∨ es.getD "type" = .text "object" := by
  rw [looksLikeJson_iff, isText_object_iff]
  refine or_congr_left ?_
  induction h with
  | nil => simp
  | cons hentry _ ih =>
    rw [List.exists_mem_cons_iff, List.exists_mem_cons_iff, ih, hentry.isText_iff]

/-- A map from names to tags is a field map just if no property is called `properties` and what is
found as its type is not the word for objects. It then gives rise to one field for each entry, in
their order, with the name of the entry, the type that its tag stands for, its description or one by
its name, and required unless it is called optional; otherwise it is a JSON Schema. -/
theorem fields_of_tagged (h : List.Forall₂ Tagged.EntryOf ps es)
    (hnames : ∀ p ∈ ps, p.name.text ≠ "") :
    ((∀ p ∈ ps, p.name.text ≠ "properties") ∧ es.getD "type" ≠ .text "object" →
      Shape.of (.map es) = .ok (.fieldMap es) ∧
      Schema.fields (.map es) = .ok (some (ps.map Tagged.toField))) ∧
    ((∃ p ∈ ps, p.name.text = "properties") ∨ es.getD "type" = .text "object" →
      Shape.of (.map es) = .ok (.json es)) := by
  have hlooks := looksLikeJson_tagged h
  constructor
  · rintro ⟨hproperties, hobject⟩
    have hnot : looksLikeJson es = false := by
      rw [Bool.eq_false_iff, Ne, hlooks]
      rintro (⟨p, hp, hname⟩ | htype)
      · exact hproperties p hp hname
      · exact hobject htype
    have hshape : Shape.of (.map es) = .ok (.fieldMap es) := by rw [of_map, hnot]; rfl
    refine ⟨hshape, ?_⟩
    rw [fields_eq hshape, Shape.properties_fieldMap, ok_bind, mapM_toField h hnames, ok_bind]
    rfl
  · intro hjson
    rw [of_map, hlooks.mpr hjson]
    rfl

/-- The names of a field map may be the other words of JSON Schemas, those of types included. -/
theorem fields_of_tagged_words :
    let ps : List Tagged :=
      [⟨.given "type", .text ":Integer?", []⟩,
        ⟨.given "required", .builtin .bool, [(.text "optional", .bool true)]⟩,
        ⟨.ofType .str, .fieldType .float, [(.text "description", .text "")]⟩]
    let es : Entries :=
      [(.text "type", .text ":Integer?"),
        (.text "required", .tuple [.builtin .bool, .map [(.text "optional", .bool true)]]),
        (.fieldType .str, .list [.fieldType .float, .map [(.text "description", .text "")]])]
    List.Forall₂ Tagged.EntryOf ps es ∧ (∀ p ∈ ps, p.name.text ≠ "") ∧
      Schema.fields (.map es) = .ok (some
        [⟨.given "type", .int, .text "Field type", .bool true, none⟩,
          ⟨.given "required", .bool, .text "Field required", .bool false, none⟩,
          ⟨.ofType .str, .float, .text ("Field " ++ FieldType.str.display), .bool true,
            none⟩]) := by
  intro ps es
  have hentries : List.Forall₂ Tagged.EntryOf ps es :=
    .cons ⟨rfl, .alone rfl rfl⟩ (.cons ⟨rfl, .tuple⟩ (.cons ⟨rfl, .list⟩ .nil))
  have hnames : ∀ p ∈ ps, p.name.text ≠ "" := by decide
  have hother : (∀ p ∈ ps, p.name.text ≠ "properties") ∧ es.getD "type" ≠ .text "object" :=
    ⟨by decide, fun h => absurd (isText_object_iff.mpr h) (by decide)⟩
  refine ⟨hentries, hnames, ?_⟩
  rw [((fields_of_tagged hentries hnames).1 hother).2]
  rfl

/-- A property that is called `properties` is not read as one of a field map. -/
theorem not_fields_of_properties :
    let ps : List Tagged := [⟨.given "properties", .text "str", []⟩]
    let es : Entries := [(.text "properties", .text "str")]
    List.Forall₂ Tagged.EntryOf ps es ∧ (∀ p ∈ ps, p.name.text ≠ "") ∧
      Schema.fields (.map es) = .error .missingMember ∧
      Schema.fields (.map es) ≠ .ok (some (ps.map Tagged.toField)) :=
  ⟨.cons ⟨rfl, .alone rfl rfl⟩ .nil, by decide, rfl, fun h => nomatch h⟩

/-- What is no map lists properties only if it counts as false, and then none. -/
theorem listed_eq_nil {v : Value} {listed : Entries} (hmap : ∀ es, v ≠ .map es)
    (h : (v.orElse (.map [])).entriesOfMap = .ok listed) : listed = [] := by
  cases htruthy : v.truthy with
  | false =>
    rw [Value.orElse_of_not_truthy htruthy] at h
    exact (Except.ok.inj h).symm
  | true =>
    rw [Value.orElse_of_truthy htruthy] at h
    cases v with
    | map es => exact absurd rfl (hmap es)
    | _ => cases h

/-- Where what is found under `properties` is no map, no field comes of a map: that is what a
property of this name and with a tag of a type does to all properties of a field map. -/
theorem eq_nil_of_properties {v : Value} {fields : Option (List Field)}
    (hfound : es.get? "properties" = some v) (hmap : ∀ listed, v ≠ .map listed)
    (h : Schema.fields (.map es) = .ok fields) : fields = some [] := by
  rw [fields_eq (of_listed hfound), Shape.properties_json] at h
  obtain ⟨properties, hproperties, h⟩ := exists_of_bind_eq_ok h
  obtain rfl : properties = [] := by
    unfold JsonSchema.properties Entries.getD at hproperties
    rw [hfound] at hproperties
    obtain ⟨required, -, hproperties⟩ := exists_of_bind_eq_ok hproperties
    cases hkeys : required.all Value.isKey with
    | false =>
      rw [hkeys] at hproperties
      cases hproperties
    | true =>
      rw [hkeys] at hproperties
      obtain ⟨listed, hlisted, hproperties⟩ := exists_of_bind_eq_ok hproperties
      rw [listed_eq_nil hmap hlisted] at hproperties
      exact (Except.ok.inj hproperties).symm
  exact (Except.ok.inj h).symm

end PromptContract.Schema
