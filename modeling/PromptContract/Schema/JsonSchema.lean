import PromptContract.Schema.Property

/-!
# JSON Schemas

A JSON Schema is a map of keywords. Those that list properties and say which are required declare
the properties of a map.
-/

namespace PromptContract.Schema.JsonSchema

/-- The property that an entry of a list declares beside the names that are required: of a list of
types the first that is not the type of null is its tag. -/
def property (required : List Value) (e : Value × Value) : Property :=
  let about := match e.2 with | .map es => es | _ => []
  let tag := match Entries.getD about "type" with
    | .list tags => ((tags.filter fun t => !t.isText "null").head?).getD .null
    | tag => tag
  { name := e.1, tag
    description := Entries.getD about "description"
    required := required.any e.1.same
    metadata := about.filter fun e => !(e.1.isText "type" || e.1.isText "description") }

/-- The properties that a schema declares (`JsonSchemaEngine.properties`): those that it lists. -/
def properties (schema : Entries) : Except Failure (List Property) := do
  let required ← ((schema.get? "required").getD (.list [])).items
  if !required.all Value.isKey then throw .wrongKind
  let listed ← ((schema.getD "properties").orElse (.map [])).entriesOfMap
  return listed.map (property required)

/-- Where the names that are required are keys, each entry of the map that lists properties declares
one. -/
theorem properties_of {schema listed : Entries} {required : List Value}
    (hrequired : ((schema.get? "required").getD (.list [])).items = .ok required)
    (hkeys : required.all Value.isKey = true)
    (hlisted : ((schema.getD "properties").orElse (.map [])).entriesOfMap = .ok listed) :
    properties schema = .ok (listed.map (property required)) := by
  unfold properties
  rw [hrequired, hlisted]
  simp only [bind, Except.bind, hkeys]
  rfl

end PromptContract.Schema.JsonSchema
