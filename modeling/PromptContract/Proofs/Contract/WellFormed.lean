import PromptContract.Proofs.Contract.Precedence
import PromptContract.Proofs.Reply.Outputs
import PromptContract.Proofs.Schema.FieldMap

/-!
# Well-formed contracts

A contract that comes of a map of members (`Module.from_dict`, `normalize_module`), whether the map
describes it or its declaration, has fields with names on both sides, and no name twice on a side.
Each side is settled by what the map gives for it (`Settled`): a list is taken over entry by entry,
even if it is empty, and a schema gives one field for each of its properties, in their order.

That names are distinct is due to different things. A list is read with the names in view that are
taken already, and is refused at the first entry that repeats one or is badly named
(`FirstBadlyNamed`, `readFields_aboutName_iff`); the names of a schema are those of entries or
fields that are distinct themselves (`Shape.NamesDistinct`). What is parsed for such a contract has
one entry for each output (`wellFormed`).
-/

namespace PromptContract

/-- A failure that is about the name of a field. -/
def Failure.IsAboutName : Failure → Prop
  | .badFieldName _ | .duplicateField .. => True
  | _ => False

/-! ## Names of fields -/

namespace Field

/-- A field that was made of some members, as all fields are. -/
def IsMade (f : Field) : Prop :=
  ∃ name type description required spec, make name type description required spec = .ok f

/-- A field is made with the name that is given, if this is a text with a character. -/
theorem name_of_make {name type description required spec : Value} {f : Field}
    (h : make name type description required spec = .ok f) :
    name = f.name.toValue ∧ f.name.text ≠ "" := by
  unfold make at h
  split at h
  next n hn =>
    split at h
    · cases h
    next hempty =>
      obtain rfl := Except.ok.inj h
      exact ⟨Value.eq_toValue hn, fun heq => hempty (by simp [heq])⟩
  next => cases h

/-- A field is not made with any other name. -/
theorem error_of_make {name type description required spec : Value} {why : Failure}
    (h : make name type description required spec = .error why) :
    why = .badFieldName name ∧ ∀ s, name.comparedText? = some s → s = "" := by
  unfold make at h
  split at h
  next n hn =>
    split at h
    next hempty =>
      refine ⟨(Except.error.inj h).symm, fun s hs => ?_⟩
      obtain rfl : n.text = s := by
        unfold Value.comparedText? at hs
        rw [hn] at hs
        exact Option.some.inj hs
      exact String.isEmpty_iff.mp hempty
    · cases h
  next hn =>
    refine ⟨(Except.error.inj h).symm, fun s hs => ?_⟩
    unfold Value.comparedText? at hs
    rw [hn] at hs
    cases hs

end Field

/-! ## Lists of fields -/

namespace Declaration

/-- The name that an entry of a list gives, if it is a field or a map that gives one. -/
def nameGiven : Value → Option Value
  | .field f => some f.name.toValue
  | .map es => Entries.get? es "name"
  | _ => none

/-- An entry gives a name that is no text with a character, or is taken already. -/
def BadlyNamed (taken : List String) (entry : Value) : Prop :=
  ∃ given, nameGiven entry = some given ∧
    ∀ s, given.comparedText? = some s → s = "" ∨ s ∈ taken

/-- Only what names are taken counts, not their order. -/
theorem BadlyNamed.congr {taken taken' : List String} {entry : Value}
    (h : BadlyNamed taken entry) (htaken : ∀ s ∈ taken, s ∈ taken') : BadlyNamed taken' entry := by
  obtain ⟨given, hgiven, hbad⟩ := h
  exact ⟨given, hgiven, fun s hs => (hbad s hs).imp_right (htaken s)⟩

/-- An entry that is a field is one that was made. -/
def EntryMade (entry : Value) : Prop := ∀ f, entry = .field f → Field.IsMade f

variable {side : Side} {entry : Value} {taken : List String}

/-- A field that is read from an entry has the name that the entry gives. -/
theorem name_of_fieldOfEntry {f : Field} (h : fieldOfEntry side entry = .ok f)
    (hmade : EntryMade entry) : nameGiven entry = some f.name.toValue ∧ f.name.text ≠ "" := by
  cases entry with
  | field g =>
    obtain rfl := Except.ok.inj h
    obtain ⟨name, type, description, required, spec, hg⟩ := hmade g rfl
    exact ⟨rfl, (Field.name_of_make hg).2⟩
  | map es =>
    rw [fieldOfEntry_map] at h
    unfold Field.ofEntries at h
    split at h
    next name hname =>
      obtain ⟨rfl, hne⟩ := Field.name_of_make h
      exact ⟨hname, hne⟩
    next => cases h
  | _ => cases h

/-- An entry that is read is badly named if its name is taken. -/
theorem badlyNamed_of_ok {f : Field} (h : fieldOfEntry side entry = .ok f)
    (hmade : EntryMade entry) : BadlyNamed taken entry ↔ f.name.text ∈ taken := by
  obtain ⟨hgiven, hne⟩ := name_of_fieldOfEntry h hmade
  have htext := Value.comparedText?_toValue f.name
  constructor
  · rintro ⟨given, hgiven', hbad⟩
    obtain rfl := Option.some.inj (hgiven.symm.trans hgiven')
    exact (hbad _ htext).resolve_left hne
  · intro htaken
    refine ⟨_, hgiven, fun s hs => .inr ?_⟩
    obtain rfl := Option.some.inj (htext.symm.trans hs)
    exact htaken

/-- An entry that is not read is badly named if that is about its name. -/
theorem badlyNamed_of_error {why : Failure} (h : fieldOfEntry side entry = .error why) :
    BadlyNamed taken entry ↔ why.IsAboutName := by
  cases entry with
  | field f => cases h
  | map es =>
    rw [fieldOfEntry_map] at h
    unfold Field.ofEntries at h
    split at h
    next name hname =>
      obtain ⟨rfl, hempty⟩ := Field.error_of_make h
      exact ⟨fun _ => trivial, fun _ => ⟨name, hname, fun s hs => .inl (hempty s hs)⟩⟩
    next hname =>
      obtain rfl := Except.error.inj h
      refine ⟨?_, nofun⟩
      rintro ⟨given, hgiven, -⟩
      cases hname.symm.trans hgiven
  | _ =>
    obtain rfl := Except.error.inj h
    exact ⟨nofun, nofun⟩

/-- An entry that is not read for another reason is a map that gives no name, or neither a field nor
a map. -/
theorem refusal_of_fieldOfEntry {why : Failure} (h : fieldOfEntry side entry = .error why) :
    why.IsAboutName ∨ why = .missingEntry ∨ why = .badFieldEntry side entry := by
  cases entry with
  | field f => cases h
  | map es =>
    rw [fieldOfEntry_map] at h
    unfold Field.ofEntries at h
    split at h
    · exact .inl ((Field.error_of_make h).1 ▸ trivial)
    · exact .inr (.inl (Except.error.inj h).symm)
  | _ => exact .inr (.inr (Except.error.inj h).symm)

/-- A list is refused at an entry that is not read. -/
theorem readFields_of_error {why : Failure} (h : fieldOfEntry side entry = .error why)
    (rest : List Value) : readFields side taken (entry :: rest) = .error why := by
  rw [readFields, h, error_bind]

/-- It is refused as well at an entry whose name is taken. -/
theorem readFields_of_taken {f : Field} (h : fieldOfEntry side entry = .ok f)
    (htaken : f.name.text ∈ taken) (rest : List Value) :
    readFields side taken (entry :: rest) = .error (.duplicateField side f.name) := by
  unfold readFields
  rw [h, ok_bind, if_pos (List.contains_iff_mem.mpr htaken)]
  rfl

/-- Behind an entry with a new name, that one is taken too. -/
theorem readFields_of_new {f : Field} (h : fieldOfEntry side entry = .ok f)
    (hnew : f.name.text ∉ taken) (rest : List Value) : readFields side taken (entry :: rest) =
      (readFields side (f.name.text :: taken) rest).map (f :: ·) := by
  rw [readFields, h, ok_bind, if_neg (mt List.contains_iff_mem.mp hnew)]
  cases readFields side (f.name.text :: taken) rest <;> rfl

/-- A list that is read is read entry by entry, and the names differ from each other and from those
that are taken. -/
theorem fields_of_readFields {entries : List Value} {fields : List Field}
    (h : readFields side taken entries = .ok fields) :
    List.Forall₂ (fun entry f => fieldOfEntry side entry = .ok f) entries fields ∧
      (fields.map (·.name.text)).Nodup ∧ ∀ f ∈ fields, f.name.text ∉ taken := by
  induction entries generalizing taken fields with
  | nil =>
    obtain rfl := Except.ok.inj h
    exact ⟨.nil, List.nodup_nil, nofun⟩
  | cons entry rest ih =>
    cases hread : fieldOfEntry side entry with
    | error why =>
      rw [readFields_of_error hread] at h
      cases h
    | ok f =>
      by_cases htaken : f.name.text ∈ taken
      · rw [readFields_of_taken hread htaken] at h
        cases h
      · rw [readFields_of_new hread htaken] at h
        obtain ⟨others, hothers, rfl⟩ := exists_of_map_eq_ok h
        obtain ⟨hentries, hnodup, hnew⟩ := ih hothers
        have hfirst : f.name.text ∉ others.map (·.name.text) := fun hmem => by
          obtain ⟨g, hg, hname⟩ := List.mem_map.mp hmem
          exact hnew g hg (hname ▸ List.mem_cons_self)
        exact ⟨.cons hread hentries, List.nodup_cons.mpr ⟨hfirst, hnodup⟩,
          List.forall_mem_cons.mpr ⟨htaken, fun g hg hmem =>
            hnew g hg (List.mem_cons_of_mem _ hmem)⟩⟩

/-- The first bad entry of a list is badly named: those in front of it are read, and it repeats the
name of one of them or gives one that is no text with a character. -/
def FirstBadlyNamed (side : Side) (taken : List String) (entries : List Value) : Prop :=
  ∃ before entry after fields, entries = before ++ entry :: after ∧
    readFields side taken before = .ok fields ∧
    BadlyNamed (fields.map (·.name.text) ++ taken) entry

/-- The first entry is badly named, or it has a new name and the first bad one of the others is
badly named. -/
theorem firstBadlyNamed_cons {rest : List Value} : FirstBadlyNamed side taken (entry :: rest) ↔
    BadlyNamed taken entry ∨ ∃ f, fieldOfEntry side entry = .ok f ∧ f.name.text ∉ taken ∧
      FirstBadlyNamed side (f.name.text :: taken) rest := by
  constructor
  · rintro ⟨before, bad, after, fields, heq, hread, hbad⟩
    -- The bad entry is the first one, or comes behind a first one that was read.
    cases before with
    | nil =>
      obtain ⟨rfl, rfl⟩ := List.cons.inj heq
      obtain rfl := Except.ok.inj hread
      exact .inl hbad
    | cons first before =>
      obtain ⟨rfl, rfl⟩ := List.cons.inj heq
      obtain ⟨hentries, -, hnew⟩ := fields_of_readFields hread
      obtain ⟨f, others, hfirst, -, rfl⟩ := List.forall₂_cons_left_iff.mp hentries
      have hf : f.name.text ∉ taken := hnew f List.mem_cons_self
      rw [readFields_of_new hfirst hf] at hread
      obtain ⟨others', hothers, hsame⟩ := exists_of_map_eq_ok hread
      obtain rfl : others' = others := (List.cons.inj hsame).2
      refine .inr ⟨f, hfirst, hf, before, bad, after, others', rfl, hothers, hbad.congr ?_⟩
      intro s hs
      simpa [or_left_comm] using hs
  · rintro (hbad | ⟨f, hfirst, hf, before, bad, after, fields, rfl, hread, hbad⟩)
    · exact ⟨[], entry, rest, [], rfl, rfl, hbad⟩
    · refine ⟨entry :: before, bad, after, f :: fields, rfl, ?_, hbad.congr ?_⟩
      · rw [readFields_of_new hfirst hf, hread]
        rfl
      · intro s hs
        simpa [or_left_comm] using hs

/-- A list is refused for a name just if its first bad entry is badly named. -/
theorem readFields_aboutName_iff {entries : List Value} (hmade : ∀ e ∈ entries, EntryMade e) :
    (∃ why, readFields side taken entries = .error why ∧ why.IsAboutName) ↔
      FirstBadlyNamed side taken entries := by
  induction entries generalizing taken with
  | nil =>
    constructor
    · rintro ⟨why, h, -⟩
      cases h
    · rintro ⟨before, entry, after, fields, h, -⟩
      simp at h
  | cons first rest ih =>
    obtain ⟨hfirst, hrest⟩ := List.forall_mem_cons.mp hmade
    rw [firstBadlyNamed_cons]
    cases hread : fieldOfEntry side first with
    | error why =>
      simp [readFields_of_error hread, badlyNamed_of_error hread]
    | ok f =>
      rw [badlyNamed_of_ok hread hfirst]
      by_cases htaken : f.name.text ∈ taken
      · exact iff_of_true ⟨_, readFields_of_taken hread htaken _, trivial⟩ (.inl htaken)
      · simp [readFields_of_new hread htaken, map_eq_error_iff, ih hrest, htaken]

/-- A list that is refused for no name is so for an entry that is a map without a name, or neither a
field nor a map. -/
theorem refusal_of_readFields {entries : List Value} {why : Failure}
    (h : readFields side taken entries = .error why) :
    why.IsAboutName ∨ why = .missingEntry ∨ ∃ e ∈ entries, why = .badFieldEntry side e := by
  induction entries generalizing taken with
  | nil => cases h
  | cons entry rest ih =>
    cases hread : fieldOfEntry side entry with
    | error why' =>
      rw [readFields_of_error hread] at h
      obtain rfl := Except.error.inj h
      exact (refusal_of_fieldOfEntry hread).imp_right
        (.imp_right fun heq => ⟨entry, List.mem_cons_self, heq⟩)
    | ok f =>
      by_cases htaken : f.name.text ∈ taken
      · rw [readFields_of_taken hread htaken] at h
        obtain rfl := Except.error.inj h
        exact .inl trivial
      · rw [readFields_of_new hread htaken, map_eq_error_iff] at h
        exact (ih h).imp_right (.imp_right fun ⟨e, he, heq⟩ =>
          ⟨e, List.mem_cons_of_mem _ he, heq⟩)

/-- What has items is read as a list of fields. -/
theorem fieldsOfSide_of_items {v : Value} {entries : List Value} (h : v.items = .ok entries) :
    fieldsOfSide side v = (readFields side [] entries).map some := by
  have hne : v ≠ .null := by
    rintro rfl
    cases h
  rw [fieldsOfSide_of_ne side hne, h, ok_bind]
  cases readFields side [] entries <;> rfl

/-- A list of fields is read from items. -/
theorem exists_of_fieldsOfSide {v : Value} {fields : List Field}
    (h : fieldsOfSide side v = .ok (some fields)) :
    ∃ entries, v.items = .ok entries ∧ readFields side [] entries = .ok fields := by
  have hne : v ≠ .null := by
    rintro rfl
    cases Except.ok.inj h
  rw [fieldsOfSide_of_ne side hne] at h
  obtain ⟨entries, hentries, h⟩ := exists_of_bind_eq_ok h
  obtain ⟨own, hown, h⟩ := exists_of_bind_eq_ok h
  obtain rfl := Option.some.inj (Except.ok.inj h)
  exact ⟨entries, hentries, hown⟩

end Declaration

/-! ## Names of properties -/

namespace Schema

/-- The keys of a map, and none of any other value. -/
def keys : Value → List Value
  | .map es => es.map (·.1)
  | _ => []

/-- The names of the properties of a schema, in its order: those of the fields of a record type, of
the entries that a JSON Schema lists, or of those of a field map. -/
def Shape.names : Shape → List Value
  | .record _ fields => fields.map fun f => .text f.name
  | .json schema => keys (Entries.getD schema "properties")
  | .fieldMap schema => schema.map (·.1)

/-- No key stands twice in the map that lists the properties of a schema, and no two fields of a
record type have one name. -/
def Shape.NamesDistinct : Shape → Prop
  | .record _ fields => (fields.map (·.name)).Nodup
  | .json schema =>
    ∀ listed, Entries.getD schema "properties" = .map listed → Entries.NamesDistinct listed
  | .fieldMap schema => Entries.NamesDistinct schema

/-- What is listed for properties is a map, or nothing. -/
theorem keys_of_entriesOfMap {v : Value} {listed : Entries}
    (h : (v.orElse (.map [])).entriesOfMap = .ok listed) : listed.map (·.1) = keys v := by
  unfold keys
  split
  next es =>
    have hsame : (Value.map es).orElse (.map []) = .map es := by cases es <;> rfl
    rw [hsame] at h
    obtain rfl := Except.ok.inj h
    rfl
  next hmap =>
    rw [listed_eq_nil hmap h]
    rfl

/-- The properties of a schema have these names. -/
theorem names_of_properties {shape : Shape} {properties : List Property}
    (h : shape.properties = .ok properties) : properties.map (·.name) = shape.names := by
  cases shape with
  | record name fields =>
    obtain rfl := Except.ok.inj h
    exact List.map_map
  | fieldMap schema =>
    obtain rfl := Except.ok.inj h
    exact List.map_map
  | json schema =>
    obtain ⟨required, -, h⟩ := exists_of_bind_eq_ok h
    dsimp only at h
    split at h
    · cases h
    · obtain ⟨listed, hlisted, h⟩ := exists_of_bind_eq_ok h
      obtain rfl := Except.ok.inj h
      rw [List.map_map]
      exact keys_of_entriesOfMap hlisted

/-- The fields of properties have their names. -/
theorem names_of_toField {properties : List Property} {fs : List Field}
    (h : List.Forall₂ (fun p f => p.toField = .ok f) properties fs) :
    fs.map (·.name.toValue) = properties.map (·.name) ∧ ∀ f ∈ fs, f.name.text ≠ "" := by
  induction h with
  | nil => exact ⟨rfl, nofun⟩
  | cons hfirst _ ih =>
    obtain ⟨hname, hne⟩ := Field.name_of_make hfirst
    obtain ⟨hnames, hnes⟩ := ih
    exact ⟨by rw [List.map_cons, List.map_cons, hnames, hname],
      List.forall_mem_cons.mpr ⟨hne, hnes⟩⟩

/-- The fields of a schema have the names of its properties. -/
theorem names_of_fields {schema : Value} {shape : Shape} (hshape : Shape.of schema = .ok shape)
    {own : Option (List Field)} (h : fields schema = .ok own) :
    ∃ fs, own = some fs ∧ fs.map (·.name.toValue) = shape.names ∧ ∀ f ∈ fs, f.name.text ≠ "" := by
  rw [fields_eq hshape] at h
  obtain ⟨properties, hproperties, h⟩ := exists_of_bind_eq_ok h
  obtain ⟨fs, hfs, h⟩ := exists_of_bind_eq_ok h
  obtain rfl := Except.ok.inj h
  rw [← names_of_properties hproperties]
  exact ⟨fs, rfl, names_of_toField ((mapM_eq_ok_iff _ _ _).mp hfs)⟩

/-- The names of a schema count as distinct texts. -/
theorem nodup_names {shape : Shape} (h : shape.NamesDistinct) :
    (shape.names.filterMap Value.comparedText?).Nodup := by
  cases shape with
  | record name fields =>
    show ((fields.map fun f => Value.text f.name).filterMap Value.comparedText?).Nodup
    change (fields.map (·.name)).Nodup at h
    rw [← List.filterMap_eq_map] at h
    rw [List.filterMap_map]
    exact h
  | fieldMap schema =>
    show ((schema.map (·.1)).filterMap Value.comparedText?).Nodup
    rw [List.filterMap_map]
    exact h
  | json schema =>
    show ((keys (schema.getD "properties")).filterMap Value.comparedText?).Nodup
    unfold keys
    split
    next listed hlisted =>
      rw [List.filterMap_map]
      exact h listed hlisted
    next => exact List.nodup_nil

/-- So the names of the fields of a schema are. -/
theorem nodup_of_names {shape : Shape} (h : shape.NamesDistinct) {fs : List Field}
    (hnames : fs.map (·.name.toValue) = shape.names) : (fs.map (·.name.text)).Nodup := by
  have htexts : shape.names.filterMap Value.comparedText? = fs.map (·.name.text) := by
    rw [← hnames, List.filterMap_map, ← List.filterMap_eq_map]
    exact List.filterMap_congr fun f _ => Value.comparedText?_toValue f.name
  have hnodup := nodup_names h
  rwa [htexts] at hnodup

end Schema

/-! ## Settled sides -/

namespace Contract

open Declaration

/-- How a side is settled by the list and the schema that are given for it: a list is taken over
entry by entry, and no schema is kept; without one a schema gives a field for each of its properties
and is kept; and without both there are no fields. -/
inductive Settled (side : Side) (list schema : Value) (fields : List Field) (kept : Option Value) :
    Prop
  | listed {entries : List Value} (hentries : list.items = .ok entries)
      (hfields : List.Forall₂ (fun e f => fieldOfEntry side e = .ok f) entries fields)
      (hnames : entries.map nameGiven = fields.map fun f => some f.name.toValue)
      (hkept : kept = none)
  | derived {shape : Schema.Shape} (hlist : list = .null)
      (hshape : Schema.Shape.of schema = .ok shape)
      (hnames : fields.map (·.name.toValue) = shape.names) (hkept : kept = some schema)
  | empty (hlist : list = .null) (hschema : schema = .null) (hfields : fields = [])
      (hkept : kept = none)

/-- The fields of a side have names, and no two of them one. -/
structure WellNamed (fields : List Field) : Prop where
  named : ∀ f ∈ fields, f.name.text ≠ ""
  distinct : (fields.map (·.name.text)).Nodup

/-- A value for a contract with the members of a map: the map, the declaration of these members, or
what one of them is read as. -/
inductive IsModule (es : Entries) : Value → Prop
  | map : IsModule es (.map es)
  | declaration {d : Declaration} (h : ofEntries es = .ok d) : IsModule es (.declaration d)
  | contract {v : Value} {c : Contract} (h : IsModule es v) (hc : ofValue v = .ok c) :
    IsModule es (.contract c)

/-- What values are like that are given for the sides of a contract: the fields in a list were made,
and the names of a schema are distinct. -/
structure Proper (es : Entries) : Prop where
  made : ∀ (side : Side) entries, (es.getD side.plural).items = .ok entries →
    ∀ e ∈ entries, EntryMade e
  distinct : ∀ (side : Side) shape, Schema.Shape.of (es.getD (schemaName side)) = .ok shape →
    shape.NamesDistinct

/-- All values for a contract with the members of a map are read alike. -/
theorem IsModule.ofValue_eq {es : Entries} {v : Value} {c : Contract} (h : IsModule es v)
    (hc : ofValue v = .ok c) : ofValue (.map es) = .ok c := by
  induction h generalizing c with
  | map => exact hc
  | declaration hd =>
    rw [ofValue_map, hd]
    exact hc
  | contract _ hown ih =>
    obtain rfl := Except.ok.inj hc
    exact ih hown

/-- The fields that are read from a list are well named, and have the names that its entries
give. -/
theorem wellNamed_of_readFields {side : Side} {entries : List Value} {fields : List Field}
    (h : readFields side [] entries = .ok fields) (hmade : ∀ e ∈ entries, EntryMade e) :
    WellNamed fields ∧ entries.map nameGiven = fields.map fun f => some f.name.toValue := by
  obtain ⟨hfields, hnodup, -⟩ := fields_of_readFields h
  have hnames : entries.map nameGiven = fields.map (fun f => some f.name.toValue) ∧
      ∀ f ∈ fields, f.name.text ≠ "" := by
    clear h hnodup
    induction hfields with
    | nil => exact ⟨rfl, nofun⟩
    | cons hfirst _ ih =>
      obtain ⟨hentry, hrest⟩ := List.forall_mem_cons.mp hmade
      obtain ⟨hgiven, hne⟩ := name_of_fieldOfEntry hfirst hentry
      obtain ⟨hgivens, hnes⟩ := ih hrest
      exact ⟨by rw [List.map_cons, List.map_cons, hgivens, hgiven],
        List.forall_mem_cons.mpr ⟨hne, hnes⟩⟩
  exact ⟨⟨hnames.2, hnodup⟩, hnames.1⟩

/-- A side of a contract that a map describes is settled by what the map gives for it, and its
fields are well named. -/
theorem settled_of_map {es : Entries} (hes : Proper es) {c : Contract}
    (h : ofValue (.map es) = .ok c) (side : Side) :
    Settled side (es.getD side.plural) (es.getD (schemaName side)) (c.fields side)
      (c.schema side) ∧ WellNamed (c.fields side) := by
  obtain ⟨d, hd, h⟩ := exists_of_bind_eq_ok h
  obtain ⟨hlist, hschema⟩ := side_of_ofEntries hd side
  have hsettled := settled_of_ofDeclaration h side
  rw [hschema] at hsettled
  generalize c.fields side = fields at hsettled ⊢
  generalize c.schema side = kept at hsettled ⊢
  cases hgiven : d.fieldList side with
  | some own =>
    -- A list of fields settles its side by itself.
    rw [hgiven] at hlist hsettled
    obtain ⟨rfl, rfl⟩ := Prod.mk.inj (Except.ok.inj hsettled)
    obtain ⟨entries, hentries, hread⟩ := exists_of_fieldsOfSide hlist
    obtain ⟨hwell, hnames⟩ := wellNamed_of_readFields hread (hes.made side entries hentries)
    exact ⟨.listed hentries (fields_of_readFields hread).1 hnames rfl, hwell⟩
  | none =>
    -- Without a list the side has the fields of its schema, or none.
    rw [hgiven] at hlist hsettled
    have hnull : es.getD side.plural = .null := by
      by_contra hne
      cases isSome_of_fieldsOfSide hlist hne
    by_cases hschema : es.getD (schemaName side) = .null
    · rw [hschema] at hsettled
      obtain ⟨rfl, rfl⟩ := Prod.mk.inj (Except.ok.inj hsettled)
      exact ⟨.empty hnull hschema rfl rfl, nofun, List.nodup_nil⟩
    · rw [Value.present?_of_ne hschema] at hsettled
      obtain ⟨hkept, hshape⟩ := schema_of_settleSide hsettled
      obtain ⟨shape, hshape⟩ := hshape (fun heq => hschema (Option.some.inj heq)) _ hkept
      obtain ⟨own, hown, hsettled⟩ := exists_of_bind_eq_ok hsettled
      obtain ⟨fs, rfl, hnames, hnes⟩ := Schema.names_of_fields hshape hown
      obtain rfl : fs = fields := (Prod.mk.inj (Except.ok.inj hsettled)).1
      exact ⟨.derived hnull hshape hnames hkept, hnes,
        Schema.nodup_of_names (hes.distinct side shape hshape) hnames⟩

/-- A declaration is refused if the list of its inputs is, or else that of its outputs. -/
theorem error_of_ofEntries_iff {es : Entries} {why : Failure} : ofEntries es = .error why ↔
    fieldsOfSide .input (es.getD "inputs") = .error why ∨
      (∃ inputs, fieldsOfSide .input (es.getD "inputs") = .ok inputs) ∧
        fieldsOfSide .output (es.getD "outputs") = .error why := by
  constructor
  · intro h
    rcases error_of_bind_eq_error h with h | ⟨inputs, hinputs, h⟩
    · exact .inl h
    · rcases error_of_bind_eq_error h with h | ⟨outputs, -, h⟩
      · exact .inr ⟨⟨inputs, hinputs⟩, h⟩
      · cases h
  · unfold ofEntries make
    rintro (h | ⟨⟨inputs, hinputs⟩, h⟩)
    · rw [h]
      rfl
    · rw [hinputs, ok_bind, h]
      rfl

/-- The outputs of a value for a contract are those of the contract. -/
theorem IsModule.outputs_eq {es : Entries} {v : Value} {c : Contract} (h : IsModule es v)
    (hc : ofValue v = .ok c) : outputsOfValue v = .ok c.outputs := by
  have hread : outputsOfValue v = (do return (← ofValue v).outputs) := by cases h <;> rfl
  rw [hread, hc]
  rfl

/-- What is parsed for well named fields has one entry for each of them, in their order. -/
theorem WellNamed.names_of_parse {fields : List Field} (h : WellNamed fields) {reply : List Char}
    {m : Reply.Outputs} (hm : Reply.parse reply fields = .ok m) :
    m.map (·.1) = fields.map (·.name) := by
  have hnodup : (([] ++ fields.map (·.name) : List Name).map Name.text).Nodup := by
    rw [List.nil_append, List.map_map]
    exact h.distinct
  rw [Reply.names_of_parse hm, Reply.Outputs.distinct_of_nodup hnodup, List.nil_append]

/-- A contract that comes of the members of a map has each side settled by what the map gives for
it, and its fields are well named; what is parsed for it has an entry for each output, in their
order, and a reply is parsed unless an integer in it has too many digits. The list of a side is
refused for a name just if its first bad entry repeats a name or gives one that is no text with a
character, and the members are refused for the first list that is. -/
theorem wellFormed {es : Entries} (hes : Proper es) :
    (∀ (side : Side) entries, (es.getD side.plural).items = .ok entries →
      ((∃ why, fieldsOfSide side (es.getD side.plural) = .error why ∧ why.IsAboutName) ↔
        FirstBadlyNamed side [] entries) ∧
      ∀ why, fieldsOfSide side (es.getD side.plural) = .error why →
        why.IsAboutName ∨ why = .missingEntry ∨ ∃ e ∈ entries, why = .badFieldEntry side e) ∧
    (∀ why, (ofEntries es = .error why ↔ fieldsOfSide .input (es.getD "inputs") = .error why ∨
      (∃ inputs, fieldsOfSide .input (es.getD "inputs") = .ok inputs) ∧
        fieldsOfSide .output (es.getD "outputs") = .error why) ∧
      (ofEntries es = .error why → ofValue (.map es) = .error why)) ∧
    ∀ v c, IsModule es v → ofValue v = .ok c →
      (∀ side, Settled side (es.getD side.plural) (es.getD (schemaName side)) (c.fields side)
        (c.schema side) ∧ WellNamed (c.fields side)) ∧
      outputsOfValue v = .ok c.outputs ∧
      ∀ reply, (∀ m, Reply.parse reply c.outputs = .ok m → m.map (·.1) = c.outputs.map (·.name)) ∧
        ((∀ f ∈ c.outputs, f.type = .int → ∀ raw,
          (Reply.Scanner.ofText reply).value? false f.name.text.toList = some raw →
          Numeral.integer raw ≠ .tooLong) → ∃ m, Reply.parse reply c.outputs = .ok m) := by
  refine ⟨fun side entries hentries => ?_, fun why => ⟨error_of_ofEntries_iff, fun h => ?_⟩,
    fun v c hv hc => ?_⟩
  · have hmade := hes.made side entries hentries
    rw [fieldsOfSide_of_items hentries]
    simp only [map_eq_error_iff]
    exact ⟨readFields_aboutName_iff hmade, fun why => refusal_of_readFields⟩
  · rw [ofValue_map, h, error_bind]
  · have hsettled := settled_of_map hes (hv.ofValue_eq hc)
    exact ⟨hsettled, hv.outputs_eq hc, fun reply =>
      ⟨fun m => (hsettled .output).2.names_of_parse, Reply.exists_parse⟩⟩

/-- The schema beside the empty list of inputs is not kept, and the outputs are a field and one that
a map describes. -/
theorem wellFormed_listed :
    let city : Field := ⟨.given "city", .str, .text "", .bool true, none⟩
    let size : Field := ⟨.given "size", .int, .text "", .bool true, none⟩
    let es : Entries := [(.text "inputs", .list []),
      (.text "input_schema", .map [(.text "country", .text "str")]),
      (.text "outputs", .list [.field city,
        .map [(.text "name", .text "size"), (.text "type", .text "int")]])]
    let c : Contract := ⟨[], [city, size], none, none, none⟩
    Proper es ∧ IsModule es (.contract c) ∧ ofValue (.contract c) = .ok c ∧
      WellNamed (c.fields .output) ∧
      ∀ reply m, Reply.parse reply c.outputs = .ok m →
        m.map (·.1) = [.given "city", .given "size"] := by
  intro city size es c
  have hcity : city.IsMade := ⟨.text "city", .null, .null, .bool true, .null, rfl⟩
  have hes : Proper es := by
    constructor
    · intro side entries hentries e he f hf
      cases side with
      | input =>
        obtain rfl := Except.ok.inj hentries
        cases he
      | output =>
        obtain rfl := Except.ok.inj hentries
        rcases List.mem_pair.mp he with rfl | rfl
        · obtain rfl := Value.field.inj hf
          exact hcity
        · cases hf
    · intro side shape hshape
      cases side with
      | input =>
        obtain rfl := Except.ok.inj hshape
        show Entries.NamesDistinct [(.text "country", .text "str")]
        decide
      | output => cases hshape
  have hc : IsModule es (.contract c) := .contract .map rfl
  obtain ⟨-, -, hwell⟩ := wellFormed hes
  obtain ⟨hsettled, -, hparsed⟩ := hwell _ c hc rfl
  exact ⟨hes, hc, rfl, (hsettled .output).2, fun reply => (hparsed reply).1⟩

end Contract

end PromptContract
