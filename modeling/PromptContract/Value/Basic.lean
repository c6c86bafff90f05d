import PromptContract.Expression.Basic
import PromptContract.Name
import PromptContract.Number.Complex

/-!
# Values

Callers hand over schemas, input maps and options whose shape is found out only by looking, so one
type holds all that may stand in them: plain data, types and type annotations, and the contract
objects themselves (fields, declarations, options). The expressions that give types bring about some
more objects on the way. The contract objects and those of expressions are generic in the type of
the values that they hold, which lets a value hold them in turn.

A map keeps its entries in the order of insertion, and no key stands in it twice (`Value.put`).
-/

namespace PromptContract

/-- The types without parameters. -/
inductive BuiltinType
  | str | int | float | complex | bool | list | dict | bytes | object | none | tuple | set
  | frozenset
  /-- The type of types. -/
  | type
  /-- A type of which only the name matters. -/
  | other (name : String)
deriving DecidableEq, Repr

/-- How a union of types is written: with a name in front, or with bars between the members. -/
inductive UnionStyle
  | named | bars
deriving DecidableEq, Repr

/-- One named, typed field of a contract. The description is never null, and an absent `spec` asks
for no check of the field's own. -/
structure FieldOf (α : Type) where
  name : Name
  type : FieldType
  description : α
  required : α
  spec : Option α

/-- A contract as it is declared: each side by a list of fields or by a schema. -/
structure DeclarationOf (α : Type) where
  inputs : Option (List (FieldOf α))
  outputs : Option (List (FieldOf α))
  instructions : Option α
  inputSchema : Option α
  outputSchema : Option α

/-- A contract with the fields of both sides settled. A schema is kept only for a side whose fields
came from it. -/
structure ContractOf (α : Type) where
  inputs : List (FieldOf α)
  outputs : List (FieldOf α)
  instructions : Option α
  inputSchema : Option α
  outputSchema : Option α

/-- One field of a record type. -/
structure RecordFieldOf (α : Type) where
  name : String
  type : α
  description : Option α
  required : Bool

/-- The options of one call. The members are what the caller gave, so any of them may be of any
kind. -/
structure OptionsOf (α : Type) where
  model : α
  validate : α
  debounceMs : α
  apiKey : α
  providerOptions : α

/-- What of a map is gone through. -/
inductive MapPart
  | keys | values | items
deriving DecidableEq, Repr

/-- Items that are handed out one by one. -/
inductive StreamOf (α : Type)
  /-- Items that are at hand, in a stream of a kind. -/
  | ready (kind : String) (items : List α)
  /-- The items of a row that changes in place, from a place on: those that were left when so many
  changes had been made. -/
  | row (source : α) (place changes : Nat) (left : List α)
  /-- Items of something that must keep its size while they are handed out. -/
  | watched (kind : String) (source : α) (size : Nat) (items : List α)
  /-- The integers of a range. -/
  | range (start stop step : Int)
  /-- Items that are ready, and those of the lists that an expression makes from one item of a
  source after the other. -/
  | generator (ready : List α) (items : Expression) (cells : List (String × Nat))
  /-- What a function gives for the items of some streams side by side. -/
  | mapped (f : α) (sources : List α)
  /-- The items of a stream for which a function gives something that counts as true. -/
  | filtered (f source : α)
  /-- The items of some streams side by side, of which a strict row must have equally many. -/
  | abreast (isStrict : Bool) (sources : List α)
  /-- The items of a stream with numbers. -/
  | numbered (next : Int) (source : α)
  /-- What a function gives, again and again, until it gives a certain value. -/
  | called (f last : α)

/-- How the items of a set stand in its table of places: the number of places, the place of each
item, the places that items have left, and the one to take an item out of next. -/
structure SetPlaces where
  size : Nat
  taken : List Nat
  gone : List Nat
  next : Nat

/-- What is known of items that have no places yet. -/
def SetPlaces.unsettled : SetPlaces := ⟨8, [], [], 0⟩

/-- An object that only expressions bring about. -/
inductive ObjectOf (α : Type)
  | ellipsis
  /-- What an operator gives that is not offered for its operands. -/
  | notOffered
  | bytes (bs : List Nat)
  /-- Bytes that change in place. -/
  | byteArray (bs : List Nat)
  | complex (z : Complex)
  /-- A value that is no number, told from others by a mark. -/
  | nan (mark : Nat)
  | set (isFrozen : Bool) (items : List α) (places : SetPlaces)
  /-- The integers from a start on, each a step further, in front of a stop. -/
  | range (start stop step : Int)
  | slice (start stop step : α)
  /-- What of a map is gone through, as it is at the moment. -/
  | view (part : MapPart) (map : α)
  /-- A function without a name. The names around it stand for the cells of a store, or for values.
  -/
  | function (parameters : List (ParameterOf α)) (body : Expression) (cells : List (String × Nat))
      (known : List (String × α))
  | stream (s : StreamOf α)
  /-- What a cell of a store holds: something that changes in place. -/
  | held (cell : Nat)
  /-- What a cell holds, where it comes up again inside what it holds. -/
  | around (cell : Nat) (kind : String)
  /-- A function with a name. -/
  | routine (name : String)
  /-- A function with a name and parameters, which may belong to a value. -/
  | given (name : String) (parameters : List (ParameterOf α)) (self : Option α)
  /-- What a value offers under a name. -/
  | method (self : α) (name : String)
  /-- The integer that stands for a value in tables. -/
  | hash (of : α)
  /-- An object of a kind that is made of named parts. -/
  | made (kind : String) (parts : List (String × α))
  /-- An object of which no more is known than whether it is a function. -/
  | foreign (isFunction : Bool)

/-- A value of any kind. -/
inductive Value
  | null
  | bool (b : Bool)
  | int (n : Int)
  | float (x : Binary64)
  | text (s : String)
  | list (items : List Value)
  | tuple (items : List Value)
  | map (entries : List (Value × Value))
  /-- A type without parameters, standing as a value. -/
  | builtin (t : BuiltinType)
  /-- The type that every value has. -/
  | anyType
  /-- A union of two or more types, none of them a union and no two the same. -/
  | union (style : UnionStyle) (members : List Value)
  /-- A type with parameters, under the name of an annotation or under its own. -/
  | generic (label : Option String) (origin : BuiltinType) (arguments : List Value)
  /-- The name of an annotation that stands for a type. -/
  | typeName (name : String) (origin : BuiltinType)
  /-- A type with notes. A note that is a map sets bounds, which take part in checks. -/
  | annotated (base : Value) (notes : List Value)
  /-- A type that is given by a name inside another type, and looked up where it is used. -/
  | reference (name : Name)
  /-- What going through a type with parameters gives. -/
  | unpacked (type : Value)
  /-- A record type of a given name. -/
  | record (name : String) (fields : List (RecordFieldOf Value))
  /-- The record type of a given name around the type that this stands in. -/
  | itself (name : String)
  | fieldType (t : FieldType)
  | field (f : FieldOf Value)
  | declaration (d : DeclarationOf Value)
  | contract (c : ContractOf Value)
  | options (o : OptionsOf Value)
  | object (o : ObjectOf Value)
  /-- An object of which nothing is known but that it is one. -/
  | thing
deriving Inhabited

/-- The type of the lists of one type of items. -/
@[match_pattern] abbrev Value.listOf (item : Value) : Value := .generic (some "List") .list [item]

/-- One named, typed field of a contract. -/
abbrev Field := FieldOf Value

/-- A contract as it is declared (`Module`). -/
abbrev Declaration := DeclarationOf Value

/-- A contract with the fields of both sides settled (`NormalizedModule`). -/
abbrev Contract := ContractOf Value

/-- One field of a record type. -/
abbrev RecordField := RecordFieldOf Value

/-- The entries of a map, in order of insertion. -/
abbrev Entries := List (Value × Value)

namespace Value

/-- Nothing for null, and every other value as it is. -/
def present? : Value → Option Value
  | .null => none
  | v => some v

/-- The name that a value gives, if it is a text or a field type. -/
def name? : Value → Option Name
  | .text s => some (.given s)
  | .fieldType t => some (.ofType t)
  | _ => none

end Value

/-- A name as a value. -/
def Name.toValue : Name → Value
  | .given s => .text s
  | .ofType t => .fieldType t

end PromptContract
