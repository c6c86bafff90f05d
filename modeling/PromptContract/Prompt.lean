import PromptContract.Contract
import PromptContract.Value.Writing

/-!
# Prompts

A prompt states a contract: a numbered list of the input fields, one of the output fields, the frame
that a reply is to keep to, and the instructions. In the frame each field stands under a marker line
of its own, an input with its value and an output with a placeholder; the instructions follow a
marker for the end of the reply. `Prompt.template` has placeholders on both sides, and
`Prompt.rendered` the values of the inputs, which are repeated as blocks at the end.

Prompts are lists of characters, since the theory of markers speaks about places in them.
-/

namespace PromptContract.Prompt

/-- The line that opens a list of input fields. -/
def inputHeader : List Char := "Your input fields are:".toList

/-- The line that opens a list of output fields. -/
def outputHeader : List Char := "Your output fields are:".toList

/-- The line in front of the frame. -/
def preamble : List Char :=
  ("All interactions will be structured in the following way, "
    ++ "with the appropriate values filled in.").toList

/-- The marker for the end of a reply. -/
def completedMarker : List Char := "[[ ## completed ## ]]".toList

/-- What stands in front of the instructions. -/
def instructionsLead : List Char :=
  "In adhering to this structure, your instructions are: ".toList

/-- What stands behind the placeholder of a truth value. -/
def boolNote : List Char := "        # note: the value you produce must be True or False".toList

/-- The marker of a field (`field_marker`): exactly one space around each pair of hash signs. -/
def marker (name : List Char) : List Char := "[[ ## ".toList ++ name ++ " ## ]]".toList

/-- The placeholder of a field (`field_placeholder`): its name in braces. -/
def placeholder (name : List Char) : List Char := '\x7b' :: name ++ ['\x7d']

/-- The text of an input value (`format_value`). Null has none. -/
def valueText : Value → List Char
  | .null => []
  | v => v.display.toList

/-- Parts with a separator between them. -/
def joined (separator : List Char) : List (List Char) → List Char
  | [] => []
  | [part] => part
  | part :: parts => part ++ separator ++ joined separator parts

/-- A blank line between two blocks. -/
def blankLine : List Char := ['\n', '\n']

/-- One line of a list of fields: number, name, type and description. -/
def fieldLine (number : Nat) (f : Field) : List Char :=
  (toString number).toList ++ ". `".toList ++ f.name.display.toList ++ "` (".toList
    ++ f.type.name.toList ++ "): ".toList ++ f.description.display.toList

/-- A list of fields under its header (`_field_list`). -/
def fieldList (header : List Char) (fields : List Field) : List Char :=
  joined ['\n'] (header :: fields.zipIdx.map fun (f, i) => fieldLine (i + 1) f)

/-- A field's block: its marker, and under it a body. -/
def block (f : Field) (body : List Char) : List Char := marker f.name.display.toList ++ '\n' :: body

/-- The block of an output field, which holds the placeholder. -/
def outputBlock (f : Field) : List Char :=
  block f (placeholder f.name.text.toList ++ if f.type = .bool then boolNote else [])

/-- The block of an input field with its value. -/
def valueBlock (values : Entries) (f : Field) : List Char :=
  block f (valueText (values.getD f.name.text))

/-- The block of an input field: with its value where values are given, else with the placeholder.
-/
def inputBlock (values : Option Entries) (f : Field) : List Char :=
  match values with
  | some values => valueBlock values f
  | none => block f (placeholder f.name.text.toList)

/-- The frame that a reply is to keep to (`_interaction_format`). -/
def frame (c : Contract) (values : Option Entries) : List Char :=
  preamble ++ blankLine
    ++ joined blankLine (c.inputs.map (inputBlock values) ++ c.outputs.map outputBlock)

/-- The sections of a prompt. A side without fields has no list, a contract without fields no frame,
and one without instructions no last section. -/
def sections (c : Contract) (values : Option Entries) : List (List Char) :=
  (if c.inputs.isEmpty then [] else [fieldList inputHeader c.inputs])
    ++ (if c.outputs.isEmpty then [] else [fieldList outputHeader c.outputs])
    ++ (if c.inputs.isEmpty && c.outputs.isEmpty then [] else [frame c values])
    ++ (match c.instructions with
      | none => []
      | some v => [completedMarker ++ '\n' :: instructionsLead ++ v.display.toList])

/-- The sections of a prompt under each other (`_compile`). -/
def body (c : Contract) (values : Option Entries) : List Char := joined ['\n'] (sections c values)

/-- The prompt of a contract with placeholders for all fields. -/
def template (c : Contract) : List Char := body c none

/-- The blocks of the input fields with their values. -/
def inputBlocks (c : Contract) (values : Entries) : List Char :=
  joined blankLine (c.inputs.map (valueBlock values))

/-- The prompt that is sent: the inputs have their values in the frame, and their blocks follow
after a blank line. -/
def rendered (c : Contract) (values : Entries) : List Char :=
  body c (some values) ++ blankLine ++ inputBlocks c values

/-! ## Writing prompts -/

/-- What stands in the way of writing a value into a prompt. -/
def obstacleOf (reach : Reach) (v : Value) : Option Obstacle := v.displayObstacle reach "prompt"

/-- What stands in the way of writing the values of the input fields. -/
def valuesObstacle (reach : Reach) (c : Contract) (values : Entries) : Option Obstacle :=
  c.inputs.findSome? fun f => obstacleOf reach (values.getD f.name.text)

/-- What stands in the way of writing a prompt, as the sections come: the descriptions of the
fields, the values of the inputs if there are any, and the instructions. -/
def obstacle (reach : Reach) (c : Contract) (values : Option Entries) : Option Obstacle :=
  (((c.inputs ++ c.outputs).findSome? fun f => obstacleOf reach f.description).or
    (values.bind (valuesObstacle reach c))).or (c.instructions.bind (obstacleOf reach))

/-- A text, unless something stands in the way of writing it. -/
def textUnless (obstacle : Option Obstacle) (text : List Char) : Except Failure (List Char) :=
  match obstacle with
  | none => .ok text
  | some found => .error found.failure

/-- The prompt with placeholders for all fields (`compile_prompt`), if it can be written. -/
def compiled (reach : Reach) (c : Contract) : Except Failure (List Char) :=
  textUnless (obstacle reach c none) (template c)

/-- The prompt that is sent (`render_prompt`), if it can be written. -/
def written (reach : Reach) (c : Contract) (values : Entries) : Except Failure (List Char) :=
  textUnless (obstacle reach c (some values)) (rendered c values)

/-- A prompt that nothing stands in the way of can be written. -/
theorem written_of_none {reach : Reach} {c : Contract} {values : Entries}
    (h : obstacle reach c (some values) = none) :
    written reach c values = .ok (rendered c values) := by
  rw [written, h, textUnless]

/-- What stands in the way of a prompt is how writing it fails. -/
theorem written_of_some {reach : Reach} {c : Contract} {values : Entries} {found : Obstacle}
    (h : obstacle reach c (some values) = some found) :
    written reach c values = .error found.failure := by
  rw [written, h, textUnless]

/-- Prompts are written in no other case, and in no other form. -/
theorem written_eq_ok_iff {reach : Reach} {c : Contract} {values : Entries} {prompt : List Char} :
    written reach c values = .ok prompt ↔
      obstacle reach c (some values) = none ∧ prompt = rendered c values := by
  cases hfound : obstacle reach c (some values) with
  | none =>
    rw [written_of_none hfound, Except.ok.injEq, eq_comm]
    exact (and_iff_right rfl).symm
  | some found =>
    rw [written_of_some hfound]
    exact ⟨nofun, nofun⟩

/-- The input values that a value gives. A contract without inputs never looks at them. -/
def inputValues (c : Contract) : Value → Except Failure Entries
  | .map es => .ok es
  | v => if c.inputs.isEmpty then .ok [] else .error v.notMap

/-- The prompt with the input values that a value gives, if it can be written. A value that counts
as false gives none. -/
def renderedFrom (reach : Reach) (c : Contract) (inputs : Value) : Except Failure (List Char) := do
  written reach c (← inputValues c (inputs.orElse (.map [])))

/-- The blocks of the input fields with the values that a value gives (`render_input_blocks`), if
they can be written. -/
def inputBlocksFrom (reach : Reach) (c : Contract) (inputs : Value) :
    Except Failure (List Char) := do
  let values ← inputValues c inputs
  textUnless (valuesObstacle reach c values) (inputBlocks c values)

end PromptContract.Prompt
