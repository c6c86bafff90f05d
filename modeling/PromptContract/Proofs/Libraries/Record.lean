import PromptContract.Proofs.Libraries.Flat

/-!
# Record types for properties

The types of the fields of a record type for properties stand for themselves, and demand what the
properties are (`gives_demand`). A flat map is checked field by field, and has problems where it
does not keep to the rules of record types (`gives_issues`). A record type can be made of such
fields where their names are fit (`gives_settledFields`).
-/

namespace PromptContract.Schema

open Evaluation TypeCheck

variable {memory : Memory} {ps : List Declared}

/-! ## Demands -/

/-- The demand of a primitive type. -/
def primitive : FieldType → Demand
  | .str => .text []
  | .int => .integer []
  | .float => .real []
  | .bool => .bool

/-- What is demanded of a value for a property, which may be null besides. -/
def IsDemandFor (t : FieldType) (d : Demand) : Prop := d = primitive t ∨ d = .nullable (primitive t)

/-- A type of the values of a property makes a demand for it. -/
theorem IsTypeFor.gives_build {t : FieldType} {type : Value} (h : IsTypeFor t type)
    (find : Name → Evaluation Demand) (memory : Memory) :
    Gives memory (Demand.build find type) fun d _ => IsDemandFor t d := by
  rcases h with rfl | ⟨style, rfl⟩
  · cases t <;> exact gives_pure (.inl rfl)
  · cases t <;> exact gives_pure (.inr rfl)

/-- There is no name in it that is looked up. -/
theorem IsTypeFor.refers_eq {t : FieldType} {type : Value} (h : IsTypeFor t type) :
    Demand.refers type = false := by
  rcases h with rfl | ⟨style, rfl⟩ <;> cases t <;> rfl

/-- So it is the same without references. -/
theorem IsTypeFor.gives_resolved {t : FieldType} {type : Value} (h : IsTypeFor t type)
    (m : Machine) (memory : Memory) :
    Gives memory (Reference.resolved m type) fun u _ => u = type := by
  rcases h with rfl | ⟨style, rfl⟩
  · cases t <;> exact gives_self memory _
  · cases style <;> cases t <;> exact gives_self memory _

/-- It is the same outside. -/
theorem IsTypeFor.gives_left {t : FieldType} {type : Value} (h : IsTypeFor t type)
    (memory : Memory) : Gives memory (left type) fun u _ => u = type := by
  refine (gives_get memory).bind fun found after _ hfound => ?_
  subst hfound
  refine gives_lift ?_ rfl
  unfold Memory.left nestingLimit
  rcases h with rfl | ⟨style, rfl⟩
  · cases t <;> simp [Memory.settledIn, FieldMap.ofFieldType]
  · simp [Memory.settledIn]

/-- It stands for itself. -/
theorem IsTypeFor.asAnnotation_eq {t : FieldType} {type : Value} (h : IsTypeFor t type) :
    type.asAnnotation = .ok type := by
  rcases h with rfl | ⟨style, rfl⟩
  · cases t <;> rfl
  · rfl

/-- A record type takes it over as it is. -/
theorem IsTypeFor.gives_settledType {t : FieldType} {type : Value} (h : IsTypeFor t type)
    (m : Machine) (record : String) (memory : Memory) :
    Gives memory (RecordType.settledType m record type) fun u _ => u = type := by
  unfold RecordType.settledType
  refine (gives_lift h.asAnnotation_eq rfl : Gives memory _ fun u _ => u = type).bind
    fun u after _ hu => ?_
  subst hu
  refine (gives_within fun last _ => ?_).recovered _
  refine (h.gives_resolved m last).bind fun u _ _ hu => ?_
  subst hu
  exact h.gives_left _

/-- A demand on a field of a record for a property. -/
structure DemandEntry (p : Declared) (d : FieldDemandOf Demand) : Prop where
  name : d.name = p.name
  required : d.required = p.required
  demand : IsDemandFor p.type d.demand

/-- Fields for properties make demands for these. -/
theorem gives_buildFields {fields : List RecordField} (h : List.Forall₂ RecordEntry ps fields)
    (find : Name → Evaluation Demand) (memory : Memory) :
    Gives memory (Demand.buildFields find fields) fun ds _ => List.Forall₂ DemandEntry ps ds := by
  induction h generalizing memory with
  | nil => exact gives_pure .nil
  | @cons p f ps fields hfor _ ih =>
    refine (hfor.isTypeFor.gives_build find memory).bind fun d after _ hd => ?_
    refine (ih after).bind fun ds _ _ hds => ?_
    exact gives_pure (.cons ⟨hfor.name, hfor.required, hd⟩ hds)

/-- The demand for a property can be checked. -/
theorem DemandEntry.isReady {p : Declared} {d : FieldDemandOf Demand} (h : DemandEntry p d) :
    d.demand.isReady = true := by
  rcases h.demand with hd | hd <;> rw [hd] <;> cases p.type <;> rfl

/-- So can the demands of all fields. -/
theorem areFieldsReady {ds : List (FieldDemandOf Demand)} (h : List.Forall₂ DemandEntry ps ds) :
    Demand.areFieldsReady ds = true := by
  induction h with
  | nil => rfl
  | cons hfor _ ih =>
    unfold Demand.areFieldsReady
    rw [hfor.isReady, ih]
    rfl

/-- A record type with fields for properties makes a demand for each. -/
theorem gives_demand {fields : List RecordField} (h : List.Forall₂ RecordEntry ps fields)
    (m : Machine) (name : String) (memory : Memory) :
    Gives memory (RecordType.demand m name fields) fun d _ =>
      ∃ ds, d = .record name ds ∧ List.Forall₂ DemandEntry ps ds := by
  refine gives_within fun after _ => ?_
  have hrefers : (fields.any fun f => Demand.refers f.type) = false := by
    rw [List.any_eq_false]
    intro f hf
    obtain ⟨p, -, hfor⟩ := exists_left_of_forall₂ h f hf
    rw [hfor.isTypeFor.refers_eq]
    exact Bool.false_ne_true
  have hbuild : Gives after (Demand.build (Demand.ofName m) (.record name fields)) fun d _ =>
      ∃ ds, d = .record name ds ∧ List.Forall₂ DemandEntry ps ds := by
    unfold Demand.build
    rw [hrefers]
    exact (gives_buildFields h _ after).bind fun ds _ _ hds => gives_pure ⟨ds, rfl, hds⟩
  refine hbuild.bind fun d _ _ hd => ?_
  obtain ⟨ds, rfl, hds⟩ := hd
  refine gives_lift ?_ ⟨ds, rfl, hds⟩
  unfold Demand.settled Demand.isReady
  rw [areFieldsReady hds]
  rfl

/-! ## Values under demands -/

/-- An integer is taken as the floating-point number that it is, if there is one. -/
theorem issues_asReal (n : Int) : (Demand.asReal [] n).issues = [] ↔
    takesPlain (FieldMap.ofFieldType .float) (.int n) = true := by
  unfold Demand.asReal
  simp only [FieldMap.ofFieldType, takesPlain]
  cases Binary64.ofInt? n with
  | none => exact iff_of_false (List.cons_ne_nil _ _) nofun
  | some x => exact iff_of_true rfl rfl

/-- Of the scalars those pass that the type takes, and only those. -/
theorem IsDemandFor.gives_checkWithin {t : FieldType} {d : Demand} (h : IsDemandFor t d) {v : Value}
    (hv : isScalar v = true) (m : Machine) (again : Value → Evaluation Verdict)
    (memory : Memory) : Gives memory (Demand.checkWithin m again d v) fun verdict _ =>
      (verdict.issues = [] ↔ takesPlain (FieldMap.ofFieldType t) v = true) := by
  have hnull : Demand.checkWithin m again (.nullable (primitive t)) v =
      Demand.checkWithin m again (primitive t) v := by
    obtain ⟨s, rfl⟩ | ⟨b, rfl⟩ | ⟨n, rfl⟩ | ⟨x, rfl⟩ := exists_of_isScalar hv <;> rfl
  have hprimitive : Gives memory (Demand.checkWithin m again (primitive t) v) fun verdict _ =>
      (verdict.issues = [] ↔ takesPlain (FieldMap.ofFieldType t) v = true) := by
    obtain ⟨s, rfl⟩ | ⟨b, rfl⟩ | ⟨n, rfl⟩ | ⟨x, rfl⟩ := exists_of_isScalar hv
    · cases t with
      | str => exact gives_pure (iff_of_true rfl rfl)
      | _ => exact gives_pure (iff_of_false (List.cons_ne_nil _ _) nofun)
    · cases t with
      | bool => exact gives_pure (iff_of_true rfl rfl)
      | _ => exact gives_pure (iff_of_false (List.cons_ne_nil _ _) nofun)
    · cases t with
      | int => exact gives_pure (iff_of_true rfl rfl)
      | float => exact gives_pure (issues_asReal n)
      | _ => exact gives_pure (iff_of_false (List.cons_ne_nil _ _) nofun)
    · cases t with
      | float => exact gives_pure (iff_of_true rfl rfl)
      | _ => exact gives_pure (iff_of_false (List.cons_ne_nil _ _) nofun)
  rcases h with rfl | rfl
  · exact hprimitive
  · rwa [hnull]

/-- A type of the values of a property takes of the scalars what the bare type does. -/
theorem IsTypeFor.takes_of_isScalar {t : FieldType} {type v : Value} (h : IsTypeFor t type)
    (hv : isScalar v = true) : takes type v = takesPlain (FieldMap.ofFieldType t) v := by
  rcases h with rfl | ⟨style, rfl⟩
  · cases t <;> rfl
  · have hnull : takesPlain (.builtin .none) v = false := by
      obtain ⟨s, rfl⟩ | ⟨b, rfl⟩ | ⟨n, rfl⟩ | ⟨x, rfl⟩ := exists_of_isScalar hv <;> rfl
    simp [takes, hnull]

/-- Seen from the record a field has problems if it has any. -/
theorem issues_within (name : String) (verdict : Verdict) :
    (Demand.within name verdict).issues = [] ↔ verdict.issues = [] := by
  cases verdict with
  | passes => rfl
  | fails issues => exact List.map_eq_nil_iff

/-- What becomes of one field of a record. -/
def checkField (m : Machine) (again : Value → Evaluation Verdict) (d : FieldDemandOf Demand)
    (es : Entries) : Evaluation Verdict := do
  match es.get? d.name with
  | some v => return Demand.within d.name (← Demand.checkWithin m again d.demand (← Demand.seen v))
  | none =>
    return if d.required then .fails [⟨[.text d.name], "Field required", some "missing"⟩]
      else .passes .null .exact

/-- The verdicts on the fields of a record begin with that on the first. -/
theorem checkFields_cons (m : Machine) (again : Value → Evaluation Verdict)
    (d : FieldDemandOf Demand) (ds : List (FieldDemandOf Demand)) (es : Entries) :
    Demand.checkFields m again (d :: ds) es =
      (do return (← checkField m again d es) :: (← Demand.checkFields m again ds es)) := by
  unfold checkField
  rw [Demand.checkFields]
  cases es.get? d.name with
  | none => rfl
  | some v => simp only [bind_assoc, pure_bind]

/-- A field has no problems if the map has what its type takes, and only then. -/
theorem DemandEntry.gives_checkField {p : Declared} {d : FieldDemandOf Demand}
    (h : DemandEntry p d) {f : RecordField} (hf : RecordEntry p f) {es ws : Entries}
    (hes : HeldEntries es ws) (hflat : IsFlat es) (m : Machine)
    (again : Value → Evaluation Verdict) (memory : Memory) :
    Gives memory (checkField m again d ws) fun verdict _ =>
      (verdict.issues = [] ↔ IsMetBy f es) := by
  have hget := hes.get? p.name
  unfold checkField IsMetBy
  rw [h.name, h.required, hf.name, hf.required]
  generalize ws.get? p.name = held at hget ⊢
  cases hfound : es.get? p.name with
  | none =>
    rw [hfound] at hget
    obtain rfl : held = none := by cases hget; rfl
    cases p.required
    · exact gives_pure (iff_of_true rfl rfl)
    · exact gives_pure (iff_of_false (List.cons_ne_nil _ _) nofun)
  | some v =>
    rw [hfound] at hget
    have hscalar := hflat.isScalar_of_get? hfound
    obtain ⟨w, rfl, hheld⟩ : ∃ w, held = some w ∧ Held v w := by
      cases hget with
      | some hheld => exact ⟨_, rfl, hheld⟩
    refine (hheld.gives_seen memory).bind fun u after _ hu => ?_
    subst hu
    refine (h.demand.gives_checkWithin hscalar m again after).bind
      fun verdict _ _ hverdict => ?_
    dsimp only
    rw [hf.isTypeFor.takes_of_isScalar hscalar]
    exact gives_pure ((issues_within p.name verdict).trans hverdict)

/-- No field has problems if the map has for all what their types take, and only then. -/
theorem gives_checkFields {ds : List (FieldDemandOf Demand)} (hds : List.Forall₂ DemandEntry ps ds)
    {fields : List RecordField} (h : List.Forall₂ RecordEntry ps fields) {es ws : Entries}
    (hes : HeldEntries es ws) (hflat : IsFlat es) (m : Machine)
    (again : Value → Evaluation Verdict) (memory : Memory) :
    Gives memory (Demand.checkFields m again ds ws) fun verdicts _ =>
      (verdicts.flatMap Verdict.issues = [] ↔ ∀ f ∈ fields, IsMetBy f es) := by
  induction hds generalizing fields memory with
  | nil =>
    cases h
    exact gives_pure (by simp)
  | @cons p d ps ds hfor _ ih =>
    obtain _ | ⟨hf, hfields⟩ := h
    rw [checkFields_cons]
    refine (hfor.gives_checkField hf hes hflat m again memory).bind
      fun verdict after _ hverdict => ?_
    refine (ih hfields after).bind fun verdicts _ _ hverdicts => ?_
    refine gives_pure ?_
    rw [List.flatMap_cons, List.append_eq_nil_iff, hverdict, hverdicts, List.forall_mem_cons]

/-- A record has the problems of its fields. -/
theorem issues_checkRecord (verdicts : List Verdict) :
    (Demand.checkRecord verdicts).issues = verdicts.flatMap Verdict.issues := by
  unfold Demand.checkRecord Verdict.ofIssues
  generalize verdicts.flatMap Verdict.issues = issues
  cases issues <;> rfl

/-- A flat map has no problems with a record type for properties if it has for each field what its
type takes, and only then. -/
theorem gives_issues {fields : List RecordField} (h : List.Forall₂ RecordEntry ps fields)
    {es : Entries} (hflat : IsFlat es) {v : Value} (hv : HoldsMap memory v es) (m : Machine)
    (name : String) : Gives memory (RecordType.issues m name fields v) fun issues _ =>
      (issues = [] ↔ ∀ f ∈ fields, IsMetBy f es) := by
  refine (gives_demand h m name memory).bind fun d after hgrows hd => ?_
  obtain ⟨ds, rfl, hds⟩ := hd
  refine gives_within fun last hgrows' => ?_
  have hcheck : Gives last (Demand.check m (.record name ds) v) fun verdict _ =>
      (verdict.issues = [] ↔ ∀ f ∈ fields, IsMetBy f es) := by
    refine ((hv.grows hgrows).grows hgrows').gives_seen.bind fun u after _ hu => ?_
    obtain ⟨ws, rfl, hws⟩ := hu
    refine (hws.gives_settled after).bind fun u after _ hu => ?_
    subst hu
    refine (gives_checkFields hds h hws hflat m _ after).map _ fun verdicts _ hverdicts => ?_
    rwa [issues_checkRecord]
  exact hcheck.bind fun verdict _ _ hverdict => gives_pure hverdict

/-! ## Making record types -/

namespace RecordType

/-- Whether a name, if it is that of a field at all, is fit for one. -/
def isFit (name : String) : Bool :=
  !(makingNames.contains name || name == settingsName) && !name.startsWith "_"
    && !memberNames.contains name

/-- Whether a name can be that of a field. -/
def isFieldName (name : String) : Bool := !remarkNames.contains name && isFit name

/-- Fields of different names are put among others one behind the other. -/
theorem foldl_putField {kept fields : List RecordField}
    (h : ((kept ++ fields).map (·.name)).Nodup) : fields.foldl putField kept = kept ++ fields := by
  induction fields generalizing kept with
  | nil => simp
  | cons f fields ih =>
    have hnew : (kept.any fun g => g.name == f.name) = false := by
      rw [List.any_eq_false]
      intro g hg heq
      rw [List.map_append, List.nodup_append] at h
      exact h.2.2 _ (List.mem_map_of_mem hg) _ (List.mem_map_of_mem List.mem_cons_self)
        (eq_of_beq heq)
    have hput : putField kept f = kept ++ [f] := by
      unfold putField
      rw [hnew]
      rfl
    rw [List.foldl_cons, hput, ih (by rwa [List.append_assoc]), List.append_assoc]
    rfl

/-- The types of fields for properties stay as they are. -/
theorem gives_settledTypes {fields : List RecordField} (h : List.Forall₂ RecordEntry ps fields)
    (m : Machine) (record : String) (memory : Memory) :
    Gives memory (fields.mapM fun f => do return { f with type := ← settledType m record f.type })
      fun fs _ => fs = fields := by
  have htypes : List.Forall₂ (fun f g => f = g ∧ ∃ t, IsTypeFor t g.type) fields fields := by
    refine List.forall₂_same.mpr fun f hf => ⟨rfl, ?_⟩
    obtain ⟨p, -, hfor⟩ := exists_left_of_forall₂ h f hf
    exact ⟨p.type, hfor.isTypeFor⟩
  have hall : Gives memory
      (fields.mapM fun f => do return { f with type := ← settledType m record f.type })
      fun fs _ => List.Forall₂ (· = ·) fields fs := by
    refine gives_mapM htypes (fun f g hg after => ?_) memory
    obtain ⟨rfl, t, ht⟩ := hg
    refine (ht.gives_settledType m record after).bind fun u _ _ hu => ?_
    subst hu
    exact gives_pure rfl
  exact hall.mono fun fs _ _ hfs => (List.forall₂_eq_eq_eq ▸ hfs : fields = fs).symm

/-- The fields that a record type keeps of those that it is made of. -/
def kept (fields : List RecordField) : List RecordField :=
  fields.filter fun f => !remarkNames.contains f.name

/-- The fields that are kept are for the properties whose names are no remarks. -/
theorem forall₂_kept {fields : List RecordField} (h : List.Forall₂ RecordEntry ps fields) :
    List.Forall₂ RecordEntry (ps.filter fun p => !remarkNames.contains p.name) (kept fields) :=
  List.rel_filter (fun p f hfor => by simp only [hfor.name]) h

/-- Names are fit if none of them is found among those that are not. -/
theorem isFit_iff (fields : List RecordField) : (∀ f ∈ fields, isFit f.name = true) ↔
    (fields.any fun f => makingNames.contains f.name || f.name == settingsName) = false ∧
      (fields.any fun f => f.name.startsWith "_") = false ∧
      (fields.any fun f => memberNames.contains f.name) = false := by
  simp only [List.any_eq_false, isFit, Bool.and_eq_true, Bool.not_eq_true', Bool.not_eq_true]
  constructor
  · exact fun h => ⟨fun f hf => (h f hf).1.1, fun f hf => (h f hf).1.2, fun f hf => (h f hf).2⟩
  · exact fun ⟨hmaking, hreserved, htaken⟩ f hf =>
      ⟨⟨hmaking f hf, hreserved f hf⟩, htaken f hf⟩

/-- A record type is made of fields for properties if the names of those that it keeps are fit. -/
theorem gives_settledFields {fields : List RecordField} (h : List.Forall₂ RecordEntry ps fields)
    (hdistinct : (fields.map (·.name)).Nodup) (hfit : ∀ f ∈ kept fields, isFit f.name = true)
    (m : Machine) (record : String) (memory : Memory) :
    Gives memory (settledFields m record fields) fun fs _ => fs = kept fields := by
  obtain ⟨hmaking, hreserved, htaken⟩ := (isFit_iff _).mp hfit
  unfold settledFields
  rw [foldl_putField (by exact hdistinct), List.nil_append]
  refine Gives.unless hmaking (Gives.unless hreserved ?_)
  refine (gives_settledTypes (forall₂_kept h) m record memory).bind fun fs after _ hfs => ?_
  subst hfs
  refine Gives.unless htaken ?_
  have hready : Gives after (do let _ ← demand m record (kept fields); return ()) fun _ _ => True :=
    (gives_demand (forall₂_kept h) m record after).bind fun _ _ _ _ => gives_pure trivial
  exact (hready.recovered _).bind fun _ _ _ _ => gives_pure rfl

/-- Fields for properties have their names. -/
theorem names_eq {fields : List RecordField} (h : List.Forall₂ RecordEntry ps fields) :
    fields.map (·.name) = ps.map (·.name) := by
  induction h with
  | nil => rfl
  | cons hfor _ ih => rw [List.map_cons, List.map_cons, ih, hfor.name]

/-- All fields are kept, and fit, whose names can be those of fields, and only those. -/
theorem kept_eq_iff {fields : List RecordField} (h : List.Forall₂ RecordEntry ps fields) :
    (∀ p ∈ ps, isFieldName p.name = true) ↔
      kept fields = fields ∧ ∀ f ∈ kept fields, isFit f.name = true := by
  have hnames : (∀ p ∈ ps, isFieldName p.name = true) ↔
      ∀ f ∈ fields, isFieldName f.name = true := by
    have hall : (∀ name ∈ ps.map (·.name), isFieldName name = true) ↔
        ∀ name ∈ fields.map (·.name), isFieldName name = true := by
      rw [names_eq h]
    simpa only [List.forall_mem_map] using hall
  rw [hnames, kept, List.filter_eq_self]
  constructor
  · intro hall
    simp only [isFieldName, Bool.and_eq_true] at hall
    exact ⟨fun f hf => (hall f hf).1, fun f hf => (hall f (List.mem_of_mem_filter hf)).2⟩
  · rintro ⟨hremark, hfit⟩ f hf
    rw [isFieldName, Bool.and_eq_true]
    exact ⟨hremark f hf, hfit f (List.mem_filter.mpr ⟨hf, hremark f hf⟩)⟩

/-- With names that can be those of fields a record type is made of fields for properties, as they
are. -/
theorem gives_settledFields_self {fields : List RecordField}
    (h : List.Forall₂ RecordEntry ps fields) (hdistinct : (ps.map (·.name)).Nodup)
    (hnames : ∀ p ∈ ps, isFieldName p.name = true) (m : Machine) (record : String)
    (memory : Memory) : Gives memory (settledFields m record fields) fun fs _ => fs = fields := by
  obtain ⟨hkept, hfit⟩ := (kept_eq_iff h).mp hnames
  have hfields : (fields.map (·.name)).Nodup := names_eq h ▸ hdistinct
  refine (gives_settledFields h hfields hfit m record memory).mono fun fs _ _ hfs => ?_
  rw [hfs, hkept]

end RecordType

end PromptContract.Schema
