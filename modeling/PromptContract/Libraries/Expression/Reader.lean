import PromptContract.Libraries.Expression.Quotation

/-!
# Reading an expression

A reader takes the tokens of what it reads off a row of tokens. Each kind of expression has a reader
of its own, from the operands that bind closest to the choices and functions that bind least. What
stands within brackets is read by the readers of a level below (`Readers`). As many levels as a text
has characters are enough for all brackets in it (`Expression.ofText?`).
-/

namespace PromptContract

/-- Reads something off a row of tokens, or refuses them. -/
abbrev Reader := StateT (List Token) Option

namespace Reader

/-- The token that comes next. -/
def peek? : Reader (Option Token) := do return (← get).head?

/-- Takes the next token, which must be there. -/
def next : Reader Token := do
  match ← get with
  | t :: rest => set rest; return t
  | [] => failure

/-- Whether a token is a given mark. -/
def isMark (s : String) : Option Token → Bool
  | some (.mark m) => m == s
  | _ => false

/-- Whether a token is a given keyword. -/
def isKeyword (s : String) : Option Token → Bool
  | some (.keyword w) => w == s
  | _ => false

/-- Takes the next token if it is a given mark. -/
def accept (s : String) : Reader Bool := do
  let found := isMark s (← peek?)
  if found then let _ ← next
  return found

/-- Takes the next token if it is a given keyword. -/
def acceptKeyword (s : String) : Reader Bool := do
  let found := isKeyword s (← peek?)
  if found then let _ ← next
  return found

/-- Takes the next token, which must be a given mark. -/
def expect (s : String) : Reader Unit := do unless ← accept s do failure

/-- Takes the next token, which must be a given keyword. -/
def expectKeyword (s : String) : Reader Unit := do unless ← acceptKeyword s do failure

/-- Takes a name. -/
def identifier : Reader String := do
  match ← next with
  | .name s => return s
  | _ => failure

/-- Takes a name that a given mark follows, and the mark. -/
def nameBefore? (mark : String) : Reader (Option String) := do
  match ← get with
  | .name s :: t :: rest =>
    if isMark mark (some t) then
      set rest
      return some s
    else return none
  | _ => return none

/-- Reads as many things as there are, at most as many as a limit. -/
def atMost {α : Type} (p : Reader (Option α)) : Nat → Reader (List α)
  | 0 => return []
  | limit + 1 => do
    match ← p with
    | none => return []
    | some a => return a :: (← atMost p limit)

/-- Reads as many things as there are, each of at least one token. -/
def many {α : Type} (p : Reader (Option α)) : Reader (List α) := do
  atMost p (← get).length

/-- Reads things with commas between them, up to a closing mark, in front of which a comma may stand
too. It is told whether there was a comma at all. -/
def listed {α : Type} (closing : String) (p : Reader α) : Reader (List α × Bool) := do
  if isMark closing (← peek?) then return ([], false)
  let first ← p
  let rest ← many do
    if isMark "," (← peek?) then
      let _ ← next
      if isMark closing (← peek?) then return some none else return some (some (← p))
    else return none
  -- Nothing follows a comma at the end.
  if rest.dropLast.any Option.isNone then failure
  return (first :: rest.filterMap id, !rest.isEmpty)

end Reader

namespace Expression

open Reader

/-- The readers of expressions of one level. -/
structure Readers where
  /-- Reads operators on numbers and all that binds closer. -/
  sum : Reader Expression
  /-- Reads comparisons and their connections, too. -/
  logic : Reader Expression
  /-- Reads any expression that needs no parentheses. -/
  expression : Reader Expression
  /-- The expression of a field of a formatted text. -/
  field? : List Char → Option Expression

/-! ## Operators -/

/-- Reads an operator between numbers that binds at least as closely as a rank. -/
def operator? (rank : Nat) : Reader (Option BinaryOperator) := do
  match ← peek? with
  | some (.mark m) =>
    match BinaryOperator.marks.lookup m with
    | some op =>
      if rank ≤ op.rank then
        let _ ← next
        return some op
      else return none
    | none => return none
  | _ => return none

/-- Reads operators that bind at least as closely as a rank, and their operands, behind what stands
on the left. -/
def operated (operand : Reader Expression) : Nat → Nat → Expression → Reader Expression
  | 0, _, _ => failure
  | fuel + 1, rank, left => do
    match ← operator? rank with
    | none => return left
    | some op =>
      let right ← operated operand fuel (op.rank + 1) (← operand)
      operated operand fuel rank (.binary op left right)

/-- Reads an operand with the operators in front of it, and the power that it is raised to. -/
def signed (primary : Reader Expression) : Nat → Reader Expression
  | 0 => failure
  | fuel + 1 => do
    let op := match ← peek? with
      | some (.mark m) => UnaryOperator.marks.lookup m
      | _ => none
    match op with
    | some op =>
      let _ ← next
      return .unary op (← signed primary fuel)
    | none =>
      let base ← primary
      if ← accept "**" then return .binary .power base (← signed primary fuel) else return base

/-- Reads a comparison sign. -/
def comparison? : Reader (Option Comparison) := do
  match ← peek? with
  | some (.mark m) =>
    match Comparison.marks.lookup m with
    | some c => let _ ← next; return some c
    | none => return none
  | some (.keyword "in") => let _ ← next; return some .isIn
  | some (.keyword "not") =>
    let _ ← next
    expectKeyword "in"
    return some .isNotIn
  | some (.keyword "is") =>
    let _ ← next
    if ← acceptKeyword "not" then return some .isNot else return some .is
  | _ => return none

/-- Reads operands that may be compared. -/
def compared (operand : Reader Expression) : Reader Expression := do
  let first ← operand
  let rest ← many do
    match ← comparison? with
    | some c => return some (c, ← operand)
    | none => return none
  return if rest.isEmpty then first else .comparison first rest

/-- Reads an operand with negations in front of it. -/
def negated (operand : Reader Expression) : Reader Expression := do
  let signs ← many do return if ← acceptKeyword "not" then some () else none
  return signs.foldl (fun e _ => .unary .not e) (← operand)

/-- Reads operands with a keyword between them. -/
def connected (word : String) (connect : Expression → Expression → Expression)
    (operand : Reader Expression) : Reader Expression := do
  let first ← operand
  let rest ← many do if ← acceptKeyword word then return some (← operand) else return none
  return rest.foldl connect first

/-! ## Parts of expressions -/

/-- Reads an expression that is given a name, if the name comes next. -/
def assigned? (inner : Readers) : Reader (Option Expression) := do
  match ← nameBefore? ":=" with
  | some s => return some (.assigned s (← inner.expression))
  | none => return none

/-- Reads an expression that may be given a name. -/
def maybeAssigned (inner : Readers) : Reader Expression := do
  match ← assigned? inner with
  | some e => return e
  | none => inner.expression

/-- An expression that takes the items of a source. -/
def asTarget (e : Expression) : Reader Expression := if e.isTarget then return e else failure

/-- Reads what takes the items of a source. -/
def target (inner : Readers) : Reader Expression := do
  let one : Reader Expression := do
    if ← accept "*" then return .starred (← inner.sum) else inner.sum
  let first ← one
  let rest ← many do
    if ← accept "," then
      if isKeyword "in" (← peek?) then return some none else return some (some (← one))
    else return none
  if rest.isEmpty then asTarget first
  else if rest.dropLast.any Option.isNone then failure
  else asTarget (.tuple (first :: rest.filterMap id))

/-- Reads the clauses of a comprehension, if there are any. -/
def clauses (inner : Readers) : Reader (List (ClauseOf Expression)) := many do
  let isAwaited ← acceptKeyword "async"
  if ← acceptKeyword "for" then
    let target ← target inner
    expectKeyword "in"
    let source ← inner.logic
    let conditions ← many do
      if ← acceptKeyword "if" then return some (← inner.logic) else return none
    return some ⟨isAwaited, target, source, conditions⟩
  else if isAwaited then failure
  else return none

/-- Whether an expression stands for the items of something. -/
def isStarred : Expression → Bool
  | .starred _ => true
  | _ => false

/-- Reads an item of a row, which may stand for the items of something. -/
def rowItem (inner : Readers) : Reader Expression := do
  if ← accept "*" then return .starred (← inner.sum) else maybeAssigned inner

/-- Reads the rest of a comprehension of a kind behind its element, or nothing if it is none. -/
def comprehension? (inner : Readers) (kind : ComprehensionKind) (element : Expression) :
    Reader (Option Expression) := do
  let found ← clauses inner
  if found.isEmpty then return none
  if isStarred element then failure
  return some (.comprehension kind element found)

/-- Reads what a function hands out, behind the word for that. -/
def yielding (inner : Readers) : Reader Expression := do
  if ← acceptKeyword "from" then return .yielded (some (.starred (← inner.expression)))
  else if isMark ")" (← peek?) then return .yielded none
  else
    let (items, hasComma) ← listed ")" do
      if ← accept "*" then return .starred (← inner.sum) else inner.expression
    match items, hasComma with
    | [one], false => if isStarred one then failure else return .yielded (some one)
    | items, _ => return .yielded (some (.tuple items))

/-- Reads what stands behind an opening parenthesis. -/
def parenthesized (inner : Readers) : Reader Expression := do
  if ← acceptKeyword "yield" then
    let e ← yielding inner
    expect ")"
    return e
  else if ← accept ")" then return .tuple []
  else
    let first ← rowItem inner
    match ← comprehension? inner .stream first with
    | some e => expect ")"; return e
    | none =>
      if ← accept "," then
        let (items, _) ← listed ")" (rowItem inner)
        expect ")"
        return .tuple (first :: items)
      else if isStarred first then failure
      else
        expect ")"
        return first

/-- Reads what stands behind an opening square bracket. -/
def bracketed (inner : Readers) : Reader Expression := do
  if ← accept "]" then return .list []
  let first ← rowItem inner
  match ← comprehension? inner .list first with
  | some e => expect "]"; return e
  | none =>
    if ← accept "," then
      let (items, _) ← listed "]" (rowItem inner)
      expect "]"
      return .list (first :: items)
    else
      expect "]"
      return .list [first]

/-- Reads an entry of a map. -/
def mapEntry (inner : Readers) : Reader (Option Expression × Expression) := do
  if ← accept "**" then return (none, ← inner.sum)
  else
    let key ← inner.expression
    expect ":"
    return (some key, ← inner.expression)

/-- Reads the rest of a map behind its first entry. -/
def mapBehind (inner : Readers) (key e : Expression) : Reader Expression := do
  match ← comprehension? inner .map (.tuple [key, e]) with
  | some e => expect "\x7d"; return e
  | none =>
    let (entries, _) ←
      if ← accept "," then listed "\x7d" (mapEntry inner) else pure ([], false)
    expect "\x7d"
    return .map ((some key, e) :: entries)

/-- Reads the rest of a set behind its first item. -/
def setBehind (inner : Readers) (first : Expression) : Reader Expression := do
  match ← comprehension? inner .set first with
  | some e => expect "\x7d"; return e
  | none =>
    let (items, _) ←
      if ← accept "," then listed "\x7d" (rowItem inner) else pure ([], false)
    expect "\x7d"
    return .set (first :: items)

/-- Reads what stands behind an opening brace. -/
def braced (inner : Readers) : Reader Expression := do
  if ← accept "\x7d" then return .map []
  if isMark "**" (← peek?) then
    let (entries, _) ← listed "\x7d" (mapEntry inner)
    expect "\x7d"
    return .map entries
  match ← assigned? inner with
  | some first => setBehind inner first
  | none =>
    let first ← rowItem inner
    if !isStarred first && (← accept ":") then mapBehind inner first (← inner.expression)
    else setBehind inner first

/-! ## Quoted texts -/

mutual
/-- The expression of a piece of a formatted text. -/
def ofPiece? (field? : List Char → Option Expression) : Quotation.Piece → Option Expression
  | .text s => some (.constant (.text (String.ofList s)))
  | .field source conversion layout => do
    return .shown (← field? source) conversion (← ofLayout? field? layout)
termination_by structural p => p

/-- The expression of the layout of a field, if there is one. -/
def ofLayout? (field? : List Char → Option Expression) :
    Option (List Quotation.Piece) → Option (Option Expression)
  | none => some none
  | some pieces => do return some (.formatted (← ofPieces? field? pieces))
termination_by structural layout => layout

/-- The expressions of the pieces of a formatted text. -/
def ofPieces? (field? : List Char → Option Expression) :
    List Quotation.Piece → Option (List Expression)
  | [] => some []
  | p :: ps => do
    let e ← ofPiece? field? p
    return e :: (← ofPieces? field? ps)
termination_by structural ps => ps
end

/-- What a quoted text stands for: the pieces of a text. -/
def ofQuoted? (field? : List Char → Option Expression) (kind : QuotedKind) (body : List Char) :
    Option (List Expression) :=
  if kind.isFormatted then do ofPieces? field? (← Quotation.pieces? kind.isRaw body)
  else do return [.constant (.text (String.ofList (← Quotation.decoded? kind.isRaw body)))]

/-- The text of pieces without fields. -/
def plainText? (pieces : List Expression) : Option String :=
  (pieces.mapM fun
    | Expression.constant (.text s) => some s
    | _ => none).map String.join

/-- What quoted texts beside each other stand for. Texts and bytes do not mix. -/
def ofAllQuoted? (field? : List Char → Option Expression)
    (quoted : List (QuotedKind × List Char)) : Option Expression :=
  if quoted.all fun q => q.1.isBytes then do
    let parts ← quoted.mapM fun (kind, body) => Quotation.decodedBytes? kind.isRaw body
    return .constant (.bytes parts.flatten)
  else if quoted.any fun q => q.1.isBytes then none
  else do
    let pieces := (← quoted.mapM fun (kind, body) => ofQuoted? field? kind body).flatten
    match plainText? pieces with
    | some s => return .constant (.text s)
    | none => return .formatted pieces

/-! ## Operands -/

/-- Reads an expression without operators outside brackets. -/
def atom (inner : Readers) : Reader Expression := do
  match ← next with
  | .name s => return .name s
  | .number c => return .constant c
  | .keyword "None" => return .constant .null
  | .keyword "True" => return .constant (.bool true)
  | .keyword "False" => return .constant (.bool false)
  | .mark "..." => return .constant .ellipsis
  | .mark "(" => parenthesized inner
  | .mark "[" => bracketed inner
  | .mark "\x7b" => braced inner
  | .quoted kind body =>
    let more ← many do
      match ← peek? with
      | some (.quoted kind body) => let _ ← next; return some (kind, body)
      | _ => return none
    ofAllQuoted? inner.field? ((kind, body) :: more)
  | _ => failure

/-- Reads an argument of a call, and says whether it is a comprehension that lacks parentheses of
its own. -/
def argument (inner : Readers) : Reader (ArgumentOf Expression × Bool) := do
  if ← accept "*" then return (.spread (← inner.expression), false)
  else if ← accept "**" then return (.spreadNames (← inner.expression), false)
  else
    match ← nameBefore? "=" with
    | some s => return (.named s (← inner.expression), false)
    | none =>
      let e ← maybeAssigned inner
      match ← comprehension? inner .stream e with
      | some stream => return (.placed stream, true)
      | none => return (.placed e, false)

/-- Whether arguments are in order: those by place in front of those by name, and no items behind
the entries of a map. -/
def inOrder (named spreadNames : Bool) : List (ArgumentOf Expression) → Bool
  | [] => true
  | .placed _ :: rest => !named && inOrder named spreadNames rest
  | .spread _ :: rest => !spreadNames && inOrder named spreadNames rest
  | .named .. :: rest => inOrder true spreadNames rest
  | .spreadNames _ :: rest => inOrder true true rest

/-- Reads the arguments of a call behind the opening parenthesis. A comprehension without
parentheses of its own must be the only one. -/
def arguments (inner : Readers) : Reader (List (ArgumentOf Expression)) := do
  let (found, hasComma) ← listed ")" (argument inner)
  expect ")"
  if found.any (·.2) && hasComma then failure
  let found := found.map (·.1)
  if inOrder false false found then return found else failure

/-- Reads an end of a slice or its step, which may be missing. -/
def sliceEnd (inner : Readers) : Reader (Option Expression) := do
  let t ← peek?
  if [":", ",", "]"].any (isMark · t) then return none else return some (← inner.expression)

/-- Reads an index or a slice. -/
def indexItem (inner : Readers) : Reader Expression := do
  if ← accept "*" then return .starred (← inner.expression)
  match ← assigned? inner with
  | some e => return e
  | none =>
    let start ← sliceEnd inner
    if ← accept ":" then
      let stop ← sliceEnd inner
      let step ← if ← accept ":" then sliceEnd inner else pure none
      return .slice start stop step
    else match start with
      | some e => return e
      | none => failure

/-- Reads an index behind the opening bracket. -/
def index (inner : Readers) : Reader Expression := do
  let (items, hasComma) ← listed "]" (indexItem inner)
  expect "]"
  match items, hasComma with
  | [], _ => failure
  | [.starred e], false => return .tuple [.starred e]
  | [one], false => return one
  | items, _ => return .tuple items

/-- Reads members, indices and calls behind an expression. -/
def trailed (inner : Readers) : Nat → Expression → Reader Expression
  | 0, e => return e
  | fuel + 1, e => do
    if ← accept "." then trailed inner fuel (.member e (← identifier))
    else if ← accept "[" then trailed inner fuel (.item e (← index inner))
    else if ← accept "(" then trailed inner fuel (.call e (← arguments inner))
    else return e

/-! ## Functions -/

/-- Where the reading of parameters stands. -/
structure Parameters where
  found : List (ParameterOf Expression)
  /-- Whether the mark behind the parameters that go by place only was read. -/
  hasSlash : Bool
  /-- The kind of the parameters that follow, if any may. -/
  kind : Option ParameterKind
  /-- Whether a parameter must follow that goes by name only. -/
  awaitsNamed : Bool

namespace Parameters

/-- Adds a parameter. One that goes by place needs a default behind others that have one. -/
def add? (s : Parameters) (p : ParameterOf Expression) : Option Parameters :=
  let hasDefault := s.found.any fun q => q.kind != .named && q.default.isSome
  if p.kind == .ordinary && p.default.isNone && hasDefault then none
  else some { s with found := s.found ++ [p], awaitsNamed := false }

/-- Reads one parameter or a mark between parameters. -/
def more (inner : Readers) (s : Parameters) : Reader Parameters := do
  if ← accept "/" then
    if s.hasSlash || s.found.isEmpty || s.kind != some .ordinary then failure
    return { s with hasSlash := true, found := s.found.map fun p => { p with kind := .placed } }
  else if ← accept "*" then
    if s.kind != some .ordinary then failure
    if isMark "," (← peek?) then return { s with kind := some .named, awaitsNamed := true }
    let s ← s.add? ⟨.places, ← identifier, none⟩
    return { s with kind := some .named }
  else if ← accept "**" then
    if s.kind.isNone || s.awaitsNamed then failure
    let s ← s.add? ⟨.names, ← identifier, none⟩
    return { s with kind := none }
  else
    match s.kind with
    | none => failure
    | some kind =>
      let name ← identifier
      let default ← if ← accept "=" then do pure (some (← inner.expression)) else pure none
      s.add? ⟨kind, name, default⟩

/-- Reads parameters with commas between them. -/
def all (inner : Readers) : Nat → Parameters → Reader Parameters
  | 0, s => return s
  | fuel + 1, s => do
    if isMark ":" (← peek?) then return s
    let s ← s.more inner
    if ← accept "," then all inner fuel s else return s

end Parameters

/-- Reads the parameters and the body of a function. -/
def functionBody (inner : Readers) : Reader Expression := do
  let s ← Parameters.all inner (← get).length ⟨[], false, some .ordinary, false⟩
  if s.awaitsNamed then failure
  expect ":"
  return .function s.found (← inner.expression)

/-! ## Whole expressions -/

/-- Reads any expression that needs no parentheses. -/
def unparenthesized (inner : Readers) (logic : Reader Expression) : Reader Expression := do
  if ← acceptKeyword "lambda" then functionBody inner
  else
    let e ← logic
    if ← acceptKeyword "if" then
      let condition ← logic
      expectKeyword "else"
      return .choice condition e (← inner.expression)
    else return e

/-- The expression of a field of a formatted text, which is read as if it stood in parentheses. -/
def ofField? (inner : Readers) (source : List Char) : Option Expression := do
  let tokens ← Token.ofText? ('(' :: source ++ [')'])
  let (e, rest) ← (atom inner).run tokens
  if rest.isEmpty then some e else none

/-- The readers of a level, given those of the level below. -/
def Readers.above (inner : Readers) : Readers :=
  let operand : Reader Expression := do trailed inner (← get).length (← atom inner)
  let sum : Reader Expression := do
    let operand := signed operand ((← get).length + 1)
    let first ← operand
    operated operand ((← get).length + 1) 0 first
  let logic := connected "or" .either (connected "and" .both (negated (compared sum)))
  ⟨sum, logic, unparenthesized inner logic, ofField? inner⟩

/-- The readers of expressions with as many brackets within each other as there are levels. -/
def readers : Nat → Readers
  | 0 => ⟨failure, failure, failure, fun _ => none⟩
  | depth + 1 => (readers depth).above

/-- Reads an expression that may be a row with commas and without brackets. -/
def row (inner : Readers) : Reader Expression := do
  let first ← inner.expression
  let rest ← many do
    if ← accept "," then
      if (← get).isEmpty then return some none else return some (some (← inner.expression))
    else return none
  if rest.isEmpty then return first
  else if rest.dropLast.any Option.isNone then failure
  else return .tuple (first :: rest.filterMap id)

/-- The expression that a text holds. A text that starts with an asterisk gives the first of the
items that it stands for. -/
def ofText? (s : String) : Option Expression := do
  let cs := match s.toList with
    | '*' :: cs => '(' :: '*' :: cs ++ ",)[0]".toList
    | cs => cs
  let (e, rest) ← (row (readers (cs.length + 1))).run (← Token.ofText? cs)
  if rest.isEmpty then some e else none

end Expression

end PromptContract
