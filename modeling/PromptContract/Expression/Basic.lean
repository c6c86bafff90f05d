import PromptContract.Number.Binary64

/-!
# Expressions

A text that gives a type is an expression: names, constants and quoted texts, put together by
operators, brackets, calls, functions without a name, and comprehensions, which go through the items
of something. The parts of an expression that are lists of their own kind (the parameters of a
function, the arguments of a call, the clauses of a comprehension) are generic in what they hold.
-/

namespace PromptContract

/-- A constant of an expression. -/
inductive Constant
  | null
  | bool (b : Bool)
  | int (n : Nat)
  | float (x : Binary64)
  /-- A multiple of the imaginary unit. -/
  | imaginary (x : Binary64)
  | text (s : String)
  | bytes (bs : List Nat)
  | ellipsis

/-- An operator in front of its operand. -/
inductive UnaryOperator
  | not | plus | minus | invert
deriving DecidableEq, Repr

/-- An operator between two operands. -/
inductive BinaryOperator
  | add | subtract | multiply | matrix | divide | floorDivide | remainder | power | shiftLeft
  | shiftRight | bitAnd | bitOr | bitXor
deriving DecidableEq, Repr

/-- A comparison of two operands. -/
inductive Comparison
  | equal | notEqual | less | atMost | greater | atLeast | is | isNot | isIn | isNotIn
deriving DecidableEq, Repr

/-- How a parameter takes its argument. -/
inductive ParameterKind
  /-- Only by its place. -/
  | placed
  /-- By its place or by its name. -/
  | ordinary
  /-- It takes all further arguments by place. -/
  | places
  /-- Only by its name. -/
  | named
  /-- It takes all further arguments by name. -/
  | names
deriving DecidableEq, Repr

/-- A parameter of a function, perhaps with what it is without an argument. -/
structure ParameterOf (α : Type) where
  kind : ParameterKind
  name : String
  default : Option α

/-- An argument of a call. -/
inductive ArgumentOf (α : Type)
  | placed (a : α)
  /-- The items of something, each as an argument. -/
  | spread (a : α)
  | named (name : String) (a : α)
  /-- The entries of a map, each as an argument by name. -/
  | spreadNames (a : α)

/-- A clause of a comprehension: what takes the items of a source in turn, and the conditions on
them. -/
structure ClauseOf (α : Type) where
  /-- Whether the items arrive over time. -/
  isAwaited : Bool
  target : α
  source : α
  conditions : List α

/-- What a comprehension makes. -/
inductive ComprehensionKind
  | list | set | map
  /-- The items one by one, as they are asked for. -/
  | stream
deriving DecidableEq, Repr

/-- How a value is written where it stands in a text. -/
inductive Conversion
  | display | quoted | ascii
deriving DecidableEq, Repr

/-- An expression. -/
inductive Expression
  | constant (c : Constant)
  | name (s : String)
  /-- A text that is put together from texts and values. -/
  | formatted (pieces : List Expression)
  /-- A value within a text. -/
  | shown (e : Expression) (conversion : Option Conversion) (layout : Option Expression)
  | list (items : List Expression)
  | tuple (items : List Expression)
  | set (items : List Expression)
  /-- A map; an entry without a key stands for the entries of another map. -/
  | map (entries : List (Option Expression × Expression))
  /-- The items of something in the place of one. -/
  | starred (e : Expression)
  | unary (op : UnaryOperator) (e : Expression)
  | binary (op : BinaryOperator) (left right : Expression)
  | both (left right : Expression)
  | either (left right : Expression)
  | comparison (first : Expression) (rest : List (Comparison × Expression))
  | choice (condition positive negative : Expression)
  | member (e : Expression) (name : String)
  | item (e index : Expression)
  | slice (start stop step : Option Expression)
  | call (e : Expression) (arguments : List (ArgumentOf Expression))
  | function (parameters : List (ParameterOf Expression)) (body : Expression)
  /-- A value that is given a name on the way. -/
  | assigned (name : String) (e : Expression)
  /-- A comprehension; the element of one that makes a map is a tuple of key and value. -/
  | comprehension (kind : ComprehensionKind) (element : Expression)
      (clauses : List (ClauseOf Expression))
  /-- A value that a function hands out before it ends; a starred one stands for its items. -/
  | yielded (e : Option Expression)
deriving Inhabited

namespace BinaryOperator

/-- How closely an operator binds. -/
def rank : BinaryOperator → Nat
  | .bitOr => 1
  | .bitXor => 2
  | .bitAnd => 3
  | .shiftLeft | .shiftRight => 4
  | .add | .subtract => 5
  | .multiply | .matrix | .divide | .floorDivide | .remainder => 6
  | .power => 7

/-- The marks of the operators that are read from the left to the right. -/
def marks : List (String × BinaryOperator) :=
  [("|", .bitOr), ("^", .bitXor), ("&", .bitAnd), ("<<", .shiftLeft), (">>", .shiftRight),
    ("+", .add), ("-", .subtract), ("*", .multiply), ("@", .matrix), ("/", .divide),
    ("//", .floorDivide), ("%", .remainder)]

end BinaryOperator

/-- The marks of the operators in front of numbers. -/
def UnaryOperator.marks : List (String × UnaryOperator) :=
  [("+", .plus), ("-", .minus), ("~", .invert)]

/-- The marks of comparisons. -/
def Comparison.marks : List (String × Comparison) :=
  [("==", .equal), ("!=", .notEqual), ("<", .less), ("<=", .atMost), (">", .greater),
    (">=", .atLeast)]

namespace Expression

/-- Whether the items of something may be taken by an expression: by names, members and items, and
by rows of these, of which one may take all that the others leave. -/
def isTarget : Expression → Bool
  | .name _ | .member .. | .item .. => true
  | .list items | .tuple items => areTargets false items
  | _ => false
where
  /-- Whether expressions may take items in a row; `starred` says whether one takes all others. -/
  areTargets (starred : Bool) : List Expression → Bool
    | [] => true
    | .starred e :: rest => !starred && isTarget e && areTargets true rest
    | e :: rest => isTarget e && areTargets starred rest

mutual
/-- The names that an expression gives to items that it takes. -/
def targetNames : Expression → List String
  | .name s => [s]
  | .list items | .tuple items => targetNamesOfAll items
  | .starred e => targetNames e
  | _ => []
termination_by structural e => e

/-- The names that expressions in a row give. -/
def targetNamesOfAll : List Expression → List String
  | [] => []
  | e :: rest => targetNames e ++ targetNamesOfAll rest
termination_by structural es => es
end

mutual
/-- Whether the value of an expression is known before it is evaluated: it is put together from
constants by operators and rows alone. -/
def isFixed : Expression → Bool
  | .constant _ => true
  | .tuple items => areFixed items
  | .unary _ e => isFixed e
  | .binary _ left right | .item left right => isFixed left && isFixed right
  | _ => false
termination_by structural e => e

/-- Whether the values of expressions in a row are known before. -/
def areFixed : List Expression → Bool
  | [] => true
  | e :: es => isFixed e && areFixed es
termination_by structural es => es
end

/-- The names that the clauses of a comprehension give. -/
def clauseNames (clauses : List (ClauseOf Expression)) : List String :=
  clauses.flatMap fun c => c.target.targetNames

/-- The name that stands for what a function has handed out. -/
def yieldedName : String := ".yielded"

mutual
/-- The names that an expression gives to values on the way, apart from those inside functions. If
it is not `wide`, only those count that it gives within comprehensions. What hands out a value gives
a name to all that is handed out. -/
def assignedNames (wide : Bool) : Expression → List String
  | .constant _ | .name _ => []
  | .formatted es | .list es | .tuple es | .set es => assignedInAll wide es
  | .shown e _ layout => assignedNames wide e ++ assignedIfAny wide layout
  | .map entries => assignedInEntries wide entries
  | .starred e | .unary _ e | .member e _ => assignedNames wide e
  | .binary _ left right | .both left right | .either left right | .item left right =>
    assignedNames wide left ++ assignedNames wide right
  | .comparison first rest => assignedNames wide first ++ assignedInComparisons wide rest
  | .choice condition positive negative =>
    assignedNames wide condition ++ assignedNames wide positive ++ assignedNames wide negative
  | .slice start stop step =>
    assignedIfAny wide start ++ assignedIfAny wide stop ++ assignedIfAny wide step
  | .call e arguments => assignedNames wide e ++ assignedInArguments wide arguments
  | .function parameters _ => assignedInParameters wide parameters
  | .assigned s e => (if wide then [s] else []) ++ assignedNames wide e
  | .comprehension _ element clauses => assignedNames true element ++ assignedInClauses true clauses
  | .yielded e => (if wide then [yieldedName] else []) ++ assignedIfAny wide e
termination_by structural e => e

/-- The names that expressions in a row give. -/
def assignedInAll (wide : Bool) : List Expression → List String
  | [] => []
  | e :: es => assignedNames wide e ++ assignedInAll wide es
termination_by structural es => es

/-- The names that an expression gives, if there is one. -/
def assignedIfAny (wide : Bool) : Option Expression → List String
  | none => []
  | some e => assignedNames wide e
termination_by structural e => e

/-- The names that the entries of a map give. -/
def assignedInEntries (wide : Bool) : List (Option Expression × Expression) → List String
  | [] => []
  | (key, e) :: rest =>
    assignedIfAny wide key ++ assignedNames wide e ++ assignedInEntries wide rest
termination_by structural es => es

/-- The names that the operands of comparisons give. -/
def assignedInComparisons (wide : Bool) : List (Comparison × Expression) → List String
  | [] => []
  | (_, e) :: rest => assignedNames wide e ++ assignedInComparisons wide rest
termination_by structural es => es

/-- The names that the arguments of a call give. -/
def assignedInArguments (wide : Bool) : List (ArgumentOf Expression) → List String
  | [] => []
  | .placed e :: rest | .spread e :: rest | .named _ e :: rest | .spreadNames e :: rest =>
    assignedNames wide e ++ assignedInArguments wide rest
termination_by structural es => es

/-- The names that the defaults of parameters give. -/
def assignedInParameters (wide : Bool) : List (ParameterOf Expression) → List String
  | [] => []
  | ⟨_, _, e⟩ :: rest => assignedIfAny wide e ++ assignedInParameters wide rest
termination_by structural ps => ps

/-- The names that the clauses of a comprehension give besides those of their items. -/
def assignedInClauses (wide : Bool) : List (ClauseOf Expression) → List String
  | [] => []
  | ⟨_, _, source, conditions⟩ :: rest =>
    assignedNames wide source ++ assignedInAll wide conditions ++ assignedInClauses wide rest
termination_by structural cs => cs
end

end Expression

end PromptContract
