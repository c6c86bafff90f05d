import PromptContract.Contract
import PromptContract.Proofs.Failure
import PromptContract.Proofs.Value.Entries

/-!
# Lists of fields over schemas

A declaration may give a side of a contract a list of fields, a schema, or both
(`normalize_module`). A side keeps its schema just where it has no list (`schema_of_ofDeclaration`),
and what it keeps has one of the shapes of schemas. So the schema beside a list can be anything: the
contract is the same, whether it is declared (`ofDeclaration_withSchema`) or described by a map of
members (`ofValue_put`).
-/

namespace PromptContract

/-- The schema that a side keeps, if any, has one of the shapes of schemas. -/
def Contract.HasShape (c : Contract) (side : Side) : Prop :=
  ∀ schema, c.schema side = some schema → ∃ shape, Schema.Shape.of schema = .ok shape

namespace Declaration

/-- The list of fields that a declaration gives a side. -/
def fieldList (d : Declaration) : Side → Option (List Field)
  | .input => d.inputs
  | .output => d.outputs

/-- The schema that a declaration gives a side. -/
def schema (d : Declaration) : Side → Option Value
  | .input => d.inputSchema
  | .output => d.outputSchema

/-- The same declaration with another schema on a side. -/
def withSchema (d : Declaration) (schema : Option Value) : Side → Declaration
  | .input => { d with inputSchema := schema }
  | .output => { d with outputSchema := schema }

/-- The name of a side's schema among the members of a declaration. -/
def schemaName (side : Side) : String := side.name ++ "_schema"

/-- A side that is settled keeps its schema unless it has a list of fields, and what it keeps has a
shape. -/
theorem schema_of_settleSide {fields : Option (List Field)} {schema kept : Option Value}
    {settled : List Field} (h : Contract.settleSide fields schema = .ok (settled, kept)) :
    kept = (if fields.isSome then none else schema) ∧
      (schema ≠ some .null → ∀ s, kept = some s → ∃ shape, Schema.Shape.of s = .ok shape) := by
  cases fields with
  | some fields =>
    obtain rfl : none = kept := congrArg Prod.snd (Except.ok.inj h)
    exact ⟨rfl, nofun⟩
  | none =>
    cases schema with
    | none =>
      obtain rfl : none = kept := congrArg Prod.snd (Except.ok.inj h)
      exact ⟨rfl, nofun⟩
    | some schema =>
      obtain ⟨own, hread, h⟩ := exists_of_bind_eq_ok h
      obtain rfl : some schema = kept := congrArg Prod.snd (Except.ok.inj h)
      refine ⟨rfl, fun hnull s hs => ?_⟩
      obtain rfl := Option.some.inj hs
      -- Fields are read from the shape of their schema.
      rw [Schema.fields_of_ne fun heq => hnull (congrArg some heq)] at hread
      obtain ⟨shape, hshape, -⟩ := exists_of_bind_eq_ok hread
      exact ⟨shape, hshape⟩

/-- Both sides of a declaration are settled by themselves. -/
theorem settled_of_ofDeclaration {d : Declaration} {c : Contract}
    (h : Contract.ofDeclaration d = .ok c) (side : Side) :
    Contract.settleSide (d.fieldList side) (d.schema side) =
      .ok (c.fields side, c.schema side) := by
  obtain ⟨inputs, hinputs, h⟩ := exists_of_bind_eq_ok h
  obtain ⟨outputs, houtputs, h⟩ := exists_of_bind_eq_ok h
  obtain rfl := Except.ok.inj h
  cases side
  · exact hinputs
  · exact houtputs

/-- A contract that is declared keeps the schema of a side, which then has a shape, unless the side
has a list of fields. -/
theorem schema_of_ofDeclaration {d : Declaration} {c : Contract}
    (h : Contract.ofDeclaration d = .ok c) (side : Side) :
    c.schema side = (if (d.fieldList side).isSome then none else d.schema side) ∧
      (d.schema side ≠ some .null → c.HasShape side) :=
  schema_of_settleSide (settled_of_ofDeclaration h side)

/-- A schema beside a list of fields makes no difference to the contract. -/
theorem ofDeclaration_withSchema {d : Declaration} {side : Side}
    (h : (d.fieldList side).isSome = true) (schema : Option Value) :
    Contract.ofDeclaration (d.withSchema schema side) = Contract.ofDeclaration d := by
  obtain ⟨fields, hfields⟩ := Option.isSome_iff_exists.mp h
  obtain ⟨inputs, outputs, instructions, inputSchema, outputSchema⟩ := d
  cases side
  · obtain rfl : inputs = some fields := hfields
    rfl
  · obtain rfl : outputs = some fields := hfields
    rfl

/-! ## Maps of members -/

/-- A map of members in which a side's schema is set describes the declaration with that schema. -/
theorem ofEntries_put (m : Entries) (side : Side) (schema : Value) :
    ofEntries (m.put (.text (schemaName side)) schema) =
      (ofEntries m).map fun d => d.withSchema schema.present? side := by
  have hinputs : schemaName side ≠ "inputs" := by cases side <;> decide
  have houtputs : schemaName side ≠ "outputs" := by cases side <;> decide
  have hinstructions : schemaName side ≠ "instructions" := by cases side <;> decide
  unfold ofEntries
  rw [Entries.getD_put_text, Entries.getD_put_text, Entries.getD_put_text, Entries.getD_put_text,
    Entries.getD_put_text, if_neg hinputs, if_neg houtputs, if_neg hinstructions]
  unfold make
  cases fieldsOfSide .input (m.getD "inputs") with
  | error why => rfl
  | ok inputs =>
    cases fieldsOfSide .output (m.getD "outputs") with
    | error why => rfl
    | ok outputs => cases side <;> rfl

/-- A declaration has what a map of members gives its sides. -/
theorem side_of_ofEntries {m : Entries} {d : Declaration} (h : ofEntries m = .ok d) (side : Side) :
    fieldsOfSide side (m.getD side.plural) = .ok (d.fieldList side) ∧
      d.schema side = (m.getD (schemaName side)).present? := by
  obtain ⟨inputs, hinputs, h⟩ := exists_of_bind_eq_ok h
  obtain ⟨outputs, houtputs, h⟩ := exists_of_bind_eq_ok h
  obtain rfl := Except.ok.inj h
  cases side
  · exact ⟨hinputs, rfl⟩
  · exact ⟨houtputs, rfl⟩

/-- The schemas of a contract that a map of members describes have shapes. -/
theorem hasShape_of_map {m : Entries} {c : Contract} (h : Contract.ofValue (.map m) = .ok c)
    (side : Side) : c.HasShape side := by
  obtain ⟨d, hd, h⟩ := exists_of_bind_eq_ok h
  refine (schema_of_ofDeclaration h side).2 ?_
  rw [(side_of_ofEntries hd side).2]
  cases m.getD (schemaName side) <;> nofun

/-- What is not null is read as a list of fields. -/
theorem fieldsOfSide_of_ne (side : Side) {v : Value} (hv : v ≠ .null) :
    fieldsOfSide side v = (do return some (← readFields side [] (← v.items))) := by
  cases v with
  | null => exact absurd rfl hv
  | _ => rfl

/-- So there is a list then. -/
theorem isSome_of_fieldsOfSide {side : Side} {v : Value} {fields : Option (List Field)}
    (h : fieldsOfSide side v = .ok fields) (hv : v ≠ .null) : fields.isSome = true := by
  rw [fieldsOfSide_of_ne side hv] at h
  obtain ⟨items, -, h⟩ := exists_of_bind_eq_ok h
  obtain ⟨own, -, h⟩ := exists_of_bind_eq_ok h
  obtain rfl := Except.ok.inj h
  rfl

/-- A schema beside a list of fields makes no difference to what a map of members is read as. -/
theorem ofValue_put {m : Entries} {side : Side} (h : m.getD side.plural ≠ .null)
    (schema : Value) : Contract.ofValue (.map (m.put (.text (schemaName side)) schema)) =
      Contract.ofValue (.map m) := by
  rw [Contract.ofValue_map, Contract.ofValue_map, ofEntries_put]
  cases hd : ofEntries m with
  | error why => rfl
  | ok d =>
    have hfields := isSome_of_fieldsOfSide (side_of_ofEntries hd side).1 h
    exact ofDeclaration_withSchema hfields _

end Declaration

end PromptContract
