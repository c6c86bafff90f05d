import PromptContract.Text.Blank
import PromptContract.Text.Case
import PromptContract.Value.Basic

/-!
# Type tags

A schema says the type of a property by a tag, which may be a type, the name of one, an annotation
around a type, or a row whose first item is a tag. `Tag.fieldType` sees through all of these to one
of the four field types; a tag that says nothing about them stands for text. A name may be written
in any case, with colons in front and question marks behind.
-/

namespace PromptContract.Tag

open Text

/-- The names of types (`TAG_NAMES`), in lower case and without marks around them. -/
def names : List (String × FieldType) :=
  [("str", .str), ("string", .str), ("int", .int), ("integer", .int), ("long", .int),
    ("float", .float), ("double", .float), ("number", .float), ("bool", .bool), ("boolean", .bool)]

/-- A name without blanks around it, colons in front, question marks behind and capitals. -/
def bareName (s : String) : String :=
  let cs := (trim s.toList).dropWhile (· == ':')
  String.ofList (lower (dropEndWhile (· == '?') cs))

/-- The type that a text names, if it names one. -/
def named? (s : String) : Option FieldType := names.lookup (bareName s)

/-- The field type of a type without parameters, if it is one of the four. -/
def ofBuiltin? : BuiltinType → Option FieldType
  | .str => some .str
  | .int => some .int
  | .float => some .float
  | .bool => some .bool
  | _ => none

mutual
/-- The field type that a tag stands for (`field_type_for`). -/
def fieldType : Value → FieldType
  | .fieldType t => t
  | .builtin t => (ofBuiltin? t).getD .str
  | .text s => (named? s).getD .str
  | .list tags => headFieldType tags
  | .tuple tags => headFieldType tags
  | .annotated base _ => fieldType base
  | .union _ members => memberFieldType members
  | _ => .str
termination_by structural v => v

/-- The field type of the first tag of a row. -/
def headFieldType : List Value → FieldType
  | [] => .str
  | tag :: _ => fieldType tag
termination_by structural vs => vs

/-- The field type of the first member of a union that is not the type of null. -/
def memberFieldType : List Value → FieldType
  | [] => .str
  | .builtin .none :: rest => memberFieldType rest
  | tag :: _ => fieldType tag
termination_by structural vs => vs
end

end PromptContract.Tag
