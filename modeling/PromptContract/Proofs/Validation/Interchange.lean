import PromptContract.Proofs.Libraries.Engines
import PromptContract.Proofs.Reply.Legible
import PromptContract.Proofs.Schema.Rules
import PromptContract.Validation.Basic

/-!
# Schemas of three shapes are interchangeable

Whichever of the three shapes a row of properties is declared in, a contract has the same output
fields (`normalize_module`), and the output map of a reply passes its checks (`validate_outputs`) in
the same cases: where everything that is required came out of the reply and no number stayed a text
(`shapes_interchangeable`). Of the engines no more is known than the rules that they keep to
(`Engines.Spec`), and that they make record types with the properties (`Engines.Accepts`).

What a reply leaves for a property is a value of its type, a text that is no number, or nothing
(`CameOut`), and the entries of the output map that are not null have just that (`get?_of_cameOut`).
Over such maps the rules of the engines come to the same for the three shapes
(`exists_problems_eq`).
-/

namespace PromptContract

open Reply Schema

variable {ps : List Declared}

/-! ## What a reply leaves for properties -/

/-- What the text of a field is read as is of its type, unless it stayed a text that is no number.
-/
theorem isLeftFor_of_read? {t : FieldType} {raw : List Char} {r : Reading}
    (h : Scalar.read? t raw = some r) : IsLeftFor t r.value.toValue ∧
      (isOfType t r.value.toValue = true ↔ (t = .int ∨ t = .float → r.fellBack = false)) := by
  cases readAs_of_read? h with
  | text => exact ⟨.text _ _, iff_of_true rfl fun _ => rfl⟩
  | bool b => exact ⟨.bool b, iff_of_true rfl fun _ => rfl⟩
  | int n => exact ⟨.int n, iff_of_true rfl fun _ => rfl⟩
  | float x => exact ⟨.float x, iff_of_true rfl fun _ => rfl⟩
  | fellBack hnumber =>
    refine ⟨.text _ _, iff_of_false ?_ fun hno => nomatch hno hnumber⟩
    rcases hnumber with rfl | rfl <;> nofun

/-- What came out of a reply for a property. -/
structure CameOut (p : Declared) (q : ParsedField) : Prop where
  name : q.name = .given p.name
  missing : q.value = none ↔ q.outcome = .missing
  left : ∀ s, q.value = some s → IsLeftFor p.type s.toValue ∧
    (isOfType p.type s.toValue = true ↔ (p.type = .int ∨ p.type = .float → q.outcome ≠ .fallback))

/-- What is read for the field of a property came out for it. -/
theorem cameOut_of_resolveField {p : Declared} {raw : Option (List Char)} {q : ParsedField}
    (h : resolveField p.toField raw = .ok q) : CameOut p q := by
  unfold resolveField at h
  cases raw with
  | none =>
    obtain rfl := Except.ok.inj h
    exact ⟨rfl, iff_of_true rfl rfl, nofun⟩
  | some raw =>
    cases hread : Scalar.read? p.toField.type raw with
    | none =>
      simp only [hread] at h
      cases h
    | some r =>
      simp only [hread] at h
      obtain rfl := Except.ok.inj h
      obtain ⟨hleft, hof⟩ := isLeftFor_of_read? hread
      refine ⟨rfl, ?_, fun s hs => ?_⟩
      · cases r.fellBack <;> exact iff_of_false nofun nofun
      · obtain rfl := Option.some.inj hs
        refine ⟨hleft, hof.trans ?_⟩
        cases r.fellBack <;> simp [Declared.toField]

/-- What is parsed with the fields of properties came out for these. -/
theorem cameOut_of_parseFields {reply : List Char} {parsed : List ParsedField}
    (h : parseFields reply (ps.map Declared.toField) = .ok parsed) :
    List.Forall₂ CameOut ps parsed := by
  have hresolved := (resolve_eq_ok_iff _ _ _ _).mp h
  rw [List.forall₂_map_left_iff] at hresolved
  exact hresolved.imp fun p q => cameOut_of_resolveField

/-- Everything that is required came out of a reply, and no number stayed a text. -/
def IsComplete (ps : List Declared) (parsed : List ParsedField) : Prop :=
  List.Forall₂ (fun p q => (p.required = true → q.outcome ≠ .missing) ∧
    (p.type = .int ∨ p.type = .float → q.outcome ≠ .fallback)) ps parsed

/-- A property is met by what came out for it if it came out where it is required, and as a number
where it is one. -/
theorem CameOut.met_iff {p : Declared} {q : ParsedField} (h : CameOut p q) {es : Entries}
    (hget : es.get? p.name = q.value.map Scalar.toValue) :
    p.Met es ↔ (p.required = true → q.outcome ≠ .missing) ∧
      (p.type = .int ∨ p.type = .float → q.outcome ≠ .fallback) := by
  unfold Declared.Met
  rw [hget]
  cases hvalue : q.value with
  | none =>
    rw [h.missing.mp hvalue]
    cases p.required <;> simp
  | some s =>
    have hpresent : q.outcome ≠ .missing := fun hmissing => by
      rw [h.missing.mpr hmissing] at hvalue
      cases hvalue
    exact (h.left s hvalue).2.trans (and_iff_right fun _ => hpresent).symm

/-! ## Output maps as entries -/

/-- The value of a scalar is a text, a number or a truth value, and not null. -/
theorem isScalar_toValue (s : Scalar) : isScalar s.toValue = true ∧ s.toValue ≠ .null := by
  cases s <;> exact ⟨rfl, nofun⟩

/-- A name counts as a text if it has that text. -/
theorem isText_toValue (name : Name) (s : String) : name.toValue.isText s = (name.text == s) := by
  cases name <;> rfl

/-- The entries of an output map, of which no two names have one text, are looked up like the map.
-/
theorem get?_present {m : Outputs} (hnodup : ((m.map (·.1)).map Name.text).Nodup) (name : Name) :
    m.toEntries.present.get? name.text = (m.get name).map Scalar.toValue := by
  induction m with
  | nil => rfl
  | cons e m ih =>
    obtain ⟨n, value⟩ := e
    rw [List.map_cons, List.map_cons, List.nodup_cons] at hnodup
    obtain ⟨hnew, hnodup⟩ := hnodup
    have hget : Outputs.get ((n, value) :: m) name =
        if n.text == name.text then value else Outputs.get m name := by
      unfold Outputs.get
      rw [List.find?_cons]
      cases n.text == name.text <;> rfl
    have hentries : Outputs.toEntries ((n, value) :: m) =
        (n.toValue, (value.map Scalar.toValue).getD .null) :: Outputs.toEntries m := rfl
    rw [hget, hentries]
    cases value with
    | none =>
      rw [Entries.present_cons_of_null rfl, ih hnodup]
      split
      · next hsame =>
        -- No other entry has the name.
        have hnone : Outputs.get m name = none := by
          unfold Outputs.get
          rw [List.find?_eq_none.mpr fun e he heq => hnew ?_]
          · rfl
          rw [eq_of_beq hsame, ← eq_of_beq heq]
          exact List.mem_map_of_mem (List.mem_map_of_mem he)
        rw [hnone]
      · rfl
    | some s =>
      rw [Entries.present_cons (isScalar_toValue s).2]
      have hrest := ih hnodup
      unfold Entries.get? at hrest ⊢
      rw [List.find?_cons, isText_toValue]
      cases n.text == name.text
      · exact hrest
      · rfl

/-- The names of the output map of fields of different names are different. -/
theorem nodup_outputsOf (parsed : List ParsedField) :
    (((outputsOf parsed).map (·.1)).map Name.text).Nodup := by
  unfold outputsOf
  rw [Outputs.names_foldl_put]
  exact Outputs.nodup_distinct (by simp) _

/-- What is found in the entries of the output map for a parsed field is its value. -/
theorem get?_outputsOf {parsed : List ParsedField} (hdistinct : (parsed.map (·.name.text)).Nodup)
    {q : ParsedField} (hq : q ∈ parsed) :
    (outputsOf parsed).toEntries.present.get? q.name.text = q.value.map Scalar.toValue := by
  have hvalue : ∀ q' ∈ parsed, q'.name.text = q.name.text → q'.value = q.value :=
    fun q' hq' hname => by rw [List.inj_on_of_nodup_map hdistinct hq' hq hname]
  rw [get?_present (nodup_outputsOf parsed), get_outputsOf hvalue (.inr ⟨q, hq, rfl⟩)]

/-- The entries of the output map that are not null are flat where the names of all fields are
texts. -/
theorem isFlat_outputsOf {parsed : List ParsedField}
    (hnames : ∀ q ∈ parsed, ∃ s, q.name = .given s) :
    IsFlat (outputsOf parsed).toEntries.present := by
  intro e he
  obtain ⟨he, hpresent⟩ := List.mem_filter.mp he
  obtain ⟨⟨name, value⟩, hentry, rfl⟩ := List.mem_map.mp he
  have hname : name ∈ (outputsOf parsed).map (·.1) := List.mem_map_of_mem hentry
  unfold outputsOf at hname
  rw [Outputs.names_foldl_put] at hname
  rcases Outputs.mem_of_mem_distinct hname with hnil | hname
  · cases hnil
  · obtain ⟨q, hq, rfl⟩ := List.mem_map.mp hname
    obtain ⟨s, hs⟩ := hnames q hq
    refine ⟨⟨s, by rw [hs]; rfl⟩, ?_⟩
    cases value with
    | none => cases hpresent
    | some v => exact (isScalar_toValue v).1

/-- For each property the entries of the output map have what came out for it. -/
theorem get?_of_cameOut {parsed : List ParsedField} (h : List.Forall₂ CameOut ps parsed)
    (hdistinct : (ps.map (·.name)).Nodup) :
    List.Forall₂ (fun p q => CameOut p q ∧
      (outputsOf parsed).toEntries.present.get? p.name = q.value.map Scalar.toValue) ps parsed := by
  have hnames : parsed.map (·.name.text) = ps.map (·.name) := by
    clear hdistinct
    induction h with
    | nil => rfl
    | cons hcame _ ih =>
      rw [List.map_cons, List.map_cons, ih, hcame.name]
      rfl
  refine List.forall₂_iff_zip.mpr ⟨h.length_eq, fun {p q} hpq => ?_⟩
  have hcame := List.forall₂_zip h hpq
  have hget := get?_outputsOf (hnames ▸ hdistinct) (List.of_mem_zip hpq).2
  rw [hcame.name] at hget
  exact ⟨hcame, hget⟩

/-- The entries of the output map meet the properties where all came out that must. -/
theorem met_outputsOf_iff {parsed : List ParsedField} (h : List.Forall₂ CameOut ps parsed)
    (hdistinct : (ps.map (·.name)).Nodup) :
    (∀ p ∈ ps, p.Met (outputsOf parsed).toEntries.present) ↔ IsComplete ps parsed := by
  have hget := get?_of_cameOut h hdistinct
  generalize (outputsOf parsed).toEntries.present = es at hget ⊢
  clear h hdistinct
  unfold IsComplete
  induction hget with
  | nil => simp
  | cons hboth _ ih =>
    rw [List.forall_mem_cons, List.forall₂_cons]
    exact and_congr (hboth.1.met_iff hboth.2) ih

/-- They have values that a reply can leave. -/
theorem isLeftFor_outputsOf {parsed : List ParsedField} (h : List.Forall₂ CameOut ps parsed)
    (hdistinct : (ps.map (·.name)).Nodup) :
    ∀ p ∈ ps, ∀ v, (outputsOf parsed).toEntries.present.get? p.name = some v →
      IsLeftFor p.type v := by
  intro p hp v hv
  obtain ⟨q, -, hcame, hget⟩ := exists_left_of_forall₂ (get?_of_cameOut h hdistinct).flip p hp
  obtain ⟨s, hs, rfl⟩ := Option.map_eq_some_iff.mp (hget.symm.trans hv)
  exact (hcame.left s hs).1

/-! ## Maps under schemas -/

section Checks

variable {e : Engines (Except Failure)} {schema : Value} {shape : Shape} {es : Entries}

/-- What engines find about a map with a schema for properties of different names: a row of
problems, which is empty where the map meets the properties and only there, and what it says of
whether the map is valid. -/
theorem exists_problems_eq (hspec : e.Spec) (haccepts : e.Accepts ps)
    (hdistinct : (ps.map (·.name)).Nodup) (hnames : ∀ p ∈ ps, p.name ≠ "properties")
    (h : Declares ps schema) (hshape : Shape.of schema = .ok shape) (hflat : IsFlat es)
    (hleft : ∀ p ∈ ps, ∀ v, es.get? p.name = some v → IsLeftFor p.type v) :
    ∃ issues, shape.problems e (.map es) = .ok issues ∧
      shape.isValid e (.map es) = .ok issues.isEmpty ∧ (issues = [] ↔ ∀ p ∈ ps, p.Met es) := by
  have hrecord {fields : List RecordField} (hfields : List.Forall₂ RecordEntry ps fields)
      (name : String) : ∃ issues, e.recordIssues name fields (.map es) = .ok issues ∧
        (issues = [] ↔ ∀ p ∈ ps, p.Met es) := by
    obtain ⟨issues, hissues, hmet⟩ :=
      hspec.record ps name fields hdistinct hfields (haccepts name fields hfields) es hflat
    exact ⟨issues, hissues, hmet.trans (areMetBy_iff hfields hleft)⟩
  cases h with
  | @fieldMap listed h =>
    rw [of_fieldMap h hnames] at hshape
    obtain rfl := Except.ok.inj hshape
    obtain ⟨fields, hfields, hentries⟩ := hspec.recordFields_eq haccepts h
    obtain ⟨issues, hissues, hmet⟩ := hrecord hentries FieldMap.recordName
    have hproblems : Shape.problems e (.fieldMap listed) (.map es) = .ok issues := by
      rw [Shape.problems_fieldMap, hfields, ok_bind, hissues]
    exact ⟨issues, hproblems, by rw [Shape.isValid_fieldMap, hproblems]; rfl, hmet⟩
  | json h =>
    rw [h.of_json] at hshape
    obtain rfl := Except.ok.inj hshape
    obtain ⟨issues, hissues, hfits, hobeys⟩ := hspec.json ps _ hdistinct h es hflat
    exact ⟨issues, hissues, hfits, hobeys.trans (h.obeys_iff hflat.hasTextKeys hleft)⟩
  | @record name fields h =>
    obtain rfl := Except.ok.inj hshape
    obtain ⟨issues, hissues, hmet⟩ := hrecord h name
    have hproblems : Shape.problems e (.record name fields) (.map es) = .ok issues := hissues
    exact ⟨issues, hproblems, by rw [Shape.isValid_record, hproblems]; rfl, hmet⟩

/-- A map that meets the properties is not rejected by a schema for them, and one that does not is,
for some problem. -/
theorem rejects_eq (hspec : e.Spec) (haccepts : e.Accepts ps)
    (hdistinct : (ps.map (·.name)).Nodup) (hnames : ∀ p ∈ ps, p.name ≠ "properties")
    (h : Declares ps schema) (hshape : Shape.of schema = .ok shape) (hflat : IsFlat es)
    (hleft : ∀ p ∈ ps, ∀ v, es.get? p.name = some v → IsLeftFor p.type v) :
    ((∀ p ∈ ps, p.Met es) → shape.rejects e (.map es) = .ok none) ∧
      ((¬∀ p ∈ ps, p.Met es) → ∃ issues ≠ [], shape.rejects e (.map es) = .ok (some issues)) := by
  obtain ⟨issues, hproblems, hvalid, hmet⟩ :=
    exists_problems_eq hspec haccepts hdistinct hnames h hshape hflat hleft
  rw [← hmet]
  unfold Shape.rejects
  rw [hvalid, hproblems]
  cases issues with
  | nil => exact ⟨fun _ => rfl, absurd rfl⟩
  | cons issue issues => exact ⟨nofun, fun hne => ⟨_, hne, rfl⟩⟩

/-! ## Maps under contracts -/

namespace Validation

/-- Fields without types of their own ask for nothing. -/
theorem holdFields_eq_ok {fields : List Field} (h : ∀ f ∈ fields, f.spec = none)
    (asked : Checking (Except Failure)) (side : Side) : holdFields asked side fields = .ok () := by
  induction fields with
  | nil => rfl
  | cons f fields ih =>
    rw [holdFields_cons, holdField_of_none _ _ (h f List.mem_cons_self), pure_bind]
    exact ih fun f hf => h f (List.mem_cons_of_mem _ hf)

/-- A contract whose outputs come from a schema for properties takes a map if what is not null in it
meets them, and else rejects it for some problem. -/
theorem check_output (hspec : e.Spec) (haccepts : e.Accepts ps)
    (hdistinct : (ps.map (·.name)).Nodup) (hnames : ∀ p ∈ ps, p.name ≠ "properties")
    (h : Declares ps schema) {c : Contract} (hschema : c.outputSchema = some schema)
    (hspecs : ∀ f ∈ c.outputs, f.spec = none) (hflat : IsFlat es.present)
    (hleft : ∀ p ∈ ps, ∀ v, es.present.get? p.name = some v → IsLeftFor p.type v) :
    ((∀ p ∈ ps, p.Met es.present) → check e.checker c .output (.map es) = .ok (.map es)) ∧
      ((¬∀ p ∈ ps, p.Met es.present) → ∃ issues ≠ [],
        check e.checker c .output (.map es) =
          .error (.rejected ⟨.output, es, issues, none⟩)) := by
  obtain ⟨shape, -, hshape, -⟩ := h.exists_properties hdistinct hnames
  obtain ⟨htaken, hrejected⟩ :=
    rejects_eq hspec haccepts hdistinct hnames h hshape hflat hleft
  have hside : checkSide (e.asked (.map es)) .output (some schema) c.outputs =
      (shape.rejects e (.map es.present)).bind (refuse (e.asked (.map es)) .output none) := by
    rw [checkSide, holdFields_eq_ok hspecs, holdSchema_of_shape _ _ hshape]
    exact bind_pure _
  have hcheck : check e.checker c .output (.map es) =
      ((shape.rejects e (.map es.present)).bind (refuse (e.asked (.map es)) .output none)).map
        fun _ => .map es := by
    rw [← hside, ← hschema]
    rfl
  rw [hcheck]
  refine ⟨fun hmet => ?_, fun hunmet => ?_⟩
  · rw [htaken hmet]
    rfl
  · obtain ⟨issues, hissues, hfound⟩ := hrejected hunmet
    rw [hfound]
    exact ⟨issues, hissues, rfl⟩

end Validation

end Checks

/-! ## One row of properties in three shapes -/

/-- A contract whose outputs are given by a schema for properties is the one with their fields. -/
theorem ofDeclaration_of_declares {schema : Value} (h : Declares ps schema)
    (hdistinct : (ps.map (·.name)).Nodup) (hnames : ∀ p ∈ ps, p.name ≠ "properties")
    (d : Declaration) :
    Contract.ofDeclaration { d with outputs := none, outputSchema := some schema } = (do
      let (inputs, inputSchema) ← Contract.settleSide d.inputs d.inputSchema
      let outputs ← Declared.fields ps
      return { inputs, outputs, instructions := d.instructions, inputSchema,
               outputSchema := some schema }) := by
  have hside : Contract.settleSide none (some schema) =
      (Declared.fields ps).map fun fields => (fields, some schema) := by
    rw [Contract.settleSide_schema, fields_of_declares h hdistinct hnames]
    cases Declared.fields ps <;> rfl
  unfold Contract.ofDeclaration
  rw [hside]
  cases Declared.fields ps <;> rfl

/-- The fields of properties, where all have a name. -/
theorem eq_map_of_fields {outputs : List Field} (h : Declared.fields ps = .ok outputs) :
    outputs = ps.map Declared.toField := by
  have hall := (mapM_eq_ok_iff _ _ _).mp h
  clear h
  induction hall with
  | nil => rfl
  | @cons p f ps outputs hp _ ih =>
    unfold Declared.toField? at hp
    split at hp
    · cases hp
    · rw [List.map_cons, ← Except.ok.inj hp, ih]

/-- For properties of different names that a record type can be made with, none of which is called
by the word for properties, a contract gets the same output fields from a schema of any shape. Where
a reply can be parsed, the output map comes out of the checks as it is if every required property
came out of the reply and no integer or floating-point number stayed a text; else it is rejected as
a whole. The engines are any that keep to the rules for types and for what is required. -/
theorem shapes_interchangeable {e : Engines (Except Failure)} (hspec : e.Spec)
    (haccepts : e.Accepts ps) (hdistinct : (ps.map (·.name)).Nodup)
    (hnames : ∀ p ∈ ps, p.name ≠ "properties") {schema : Value} (h : Declares ps schema)
    (d : Declaration) :
    Contract.ofDeclaration { d with outputs := none, outputSchema := some schema } = (do
      let (inputs, inputSchema) ← Contract.settleSide d.inputs d.inputSchema
      let outputs ← Declared.fields ps
      return { inputs, outputs, instructions := d.instructions, inputSchema,
               outputSchema := some schema }) ∧
    ∀ c, Contract.ofDeclaration { d with outputs := none, outputSchema := some schema } = .ok c →
      ∀ reply parsed, parseFields reply c.outputs = .ok parsed →
        (IsComplete ps parsed →
          Validation.check e.checker c .output (.map (outputsOf parsed).toEntries) =
            .ok (.map (outputsOf parsed).toEntries)) ∧
        (¬IsComplete ps parsed → ∃ issues ≠ [],
          Validation.check e.checker c .output (.map (outputsOf parsed).toEntries) =
            .error (.rejected ⟨.output, (outputsOf parsed).toEntries, issues, none⟩)) := by
  have hcontract := ofDeclaration_of_declares h hdistinct hnames d
  refine ⟨hcontract, fun c hc reply parsed hparsed => ?_⟩
  obtain ⟨hschema, houtputs⟩ :
      c.outputSchema = some schema ∧ c.outputs = ps.map Declared.toField := by
    rw [hcontract] at hc
    obtain ⟨inputs, -, hc⟩ := exists_of_bind_eq_ok hc
    obtain ⟨outputs, houtputs, hc⟩ := exists_of_bind_eq_ok hc
    obtain rfl := Except.ok.inj hc
    exact ⟨rfl, eq_map_of_fields houtputs⟩
  rw [houtputs] at hparsed
  have hcame := cameOut_of_parseFields hparsed
  have hspecs : ∀ f ∈ c.outputs, f.spec = none := by
    rw [houtputs]
    exact List.forall_mem_map.mpr fun p _ => rfl
  have hflat : IsFlat (outputsOf parsed).toEntries.present := by
    refine isFlat_outputsOf fun q hq => ?_
    obtain ⟨p, -, hpq⟩ := exists_left_of_forall₂ hcame q hq
    exact ⟨p.name, hpq.name⟩
  have hcheck := Validation.check_output hspec haccepts hdistinct hnames h hschema hspecs hflat
    (isLeftFor_outputsOf hcame hdistinct)
  rwa [met_outputsOf_iff hcame hdistinct] at hcheck

/-! ### A city and how many of something it has -/

namespace City

/-- A name, and a number that may be missing. -/
def properties : List Declared :=
  [⟨"city", .str, true, some "Where"⟩, ⟨"count", .int, false, none⟩]

/-- The properties in a field map. -/
def fieldMap : Value :=
  .map [(.text "city", .tuple [.builtin .str, .map [(.text "description", .text "Where")]]),
    (.text "count", .list [.text "Integer?", .map [(.text "optional", .bool true)]])]

/-- The properties in a JSON Schema. -/
def json : Value :=
  .map [(.text "type", .text "object"),
    (.text "properties", .map
      [(.text "city", .map [(.text "type", .text "string"), (.text "description", .text "Where")]),
        (.text "count", .map [(.text "type", .text "integer")])]),
    (.text "required", .list [.text "city"])]

/-- The properties as the fields of a record type. -/
def recordFields : List RecordField :=
  [⟨"city", .builtin .str, some (.text "Where"), true⟩,
    ⟨"count", .union .bars [.builtin .int, .builtin .none], none, false⟩]

/-- The field map declares the properties. -/
theorem declares_fieldMap : Declares properties fieldMap :=
  .fieldMap (.cons ⟨rfl, .type, rfl, rfl⟩ (.cons ⟨rfl, .name _ (by decide), rfl, rfl⟩ .nil))

/-- So does the JSON Schema. -/
theorem declares_json : Declares properties json := by
  refine .json ⟨_, [.text "city"],
    .cons ⟨rfl, _, rfl, .head _, fun _ => .tail _ (.head _), ?_⟩
      (.cons ⟨rfl, _, rfl, .head _, fun h => absurd rfl h, ?_⟩ .nil),
    ?_, ?_, .tail _ (.head _), fun _ => .tail _ (.tail _ (.head _)), ?_⟩
  · simp [jsonName, Declared.about]
  · simp [jsonName]
  · simp [properties]
  · simp [properties]
  · simp

/-- The fields of the record type are for the properties. -/
theorem entries_record : List.Forall₂ RecordEntry properties recordFields :=
  .cons ⟨rfl, .inl rfl, rfl, rfl⟩ (.cons ⟨rfl, .inr ⟨rfl, .bars, rfl⟩, rfl, rfl⟩ .nil)

/-- The contract whose outputs are given by a schema for the properties. -/
def contract (schema : Value) : Contract :=
  ⟨[], properties.map Declared.toField, none, none, some schema⟩

/-- A reply that has both. -/
def reply : List Char := "[[ ## city ## ]]\nOslo\n[[ ## count ## ]]\n3".toList

/-- A reply with a text in the place of the number. -/
def vague : List Char := "[[ ## city ## ]]\nOslo\n[[ ## count ## ]]\nmany".toList

end City

open City in
/-- A reply with a number is taken under a schema of any shape, and one with a text in its place is
not. -/
theorem shapes_interchangeable_city :
    Validation.check (Engines.usual default).checker (contract fieldMap) .output
        (.map [(.text "city", .text "Oslo"), (.text "count", .int 3)]) =
      .ok (.map [(.text "city", .text "Oslo"), (.text "count", .int 3)]) ∧
    Validation.check (Engines.usual default).checker (contract json) .output
        (.map [(.text "city", .text "Oslo"), (.text "count", .int 3)]) =
      .ok (.map [(.text "city", .text "Oslo"), (.text "count", .int 3)]) ∧
    ∃ issues ≠ [],
      Validation.check (Engines.usual default).checker (contract (.record "City" recordFields))
        .output (.map [(.text "city", .text "Oslo"), (.text "count", .text "many")]) =
      .error (.rejected ⟨.output, [(.text "city", .text "Oslo"), (.text "count", .text "many")],
        issues, none⟩) := by
  have hdistinct : (properties.map (·.name)).Nodup := by decide
  have haccepts := Engines.usual_accepts default hdistinct (by decide +kernel)
  have hchecks {schema : Value} (h : Declares properties schema)
      (hcontract : Contract.ofDeclaration ⟨none, none, none, none, some schema⟩ =
        .ok (contract schema)) :=
    (shapes_interchangeable (Engines.usual_spec default) haccepts hdistinct (by decide) h
      ⟨none, none, none, none, none⟩).2 _ hcontract
  refine ⟨(hchecks declares_fieldMap rfl reply _ rfl).1 ?_,
    (hchecks declares_json rfl reply _ rfl).1 ?_,
    (hchecks (.record entries_record) rfl vague _ rfl).2 fun hcomplete => ?_⟩
  · exact .cons (by decide) (.cons (by decide) .nil)
  · exact .cons (by decide) (.cons (by decide) .nil)
  · obtain _ | ⟨-, _ | ⟨hcount, -⟩⟩ := hcomplete
    exact hcount.2 (.inl rfl) rfl

end PromptContract
