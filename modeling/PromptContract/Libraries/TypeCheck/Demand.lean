import PromptContract.Libraries.Evaluation.Basic
import PromptContract.Libraries.TypeCheck.Bound

/-!
# Demands on values

What is demanded of a value, made ready for checking: the limits are settled, and no name has to be
looked up. `Demand.check` says what becomes of a value: it passes, perhaps as a value of another
type that it stands for, or it fails with all its problems. It cannot be checked where a bound is
tried on a value without an order or a length, or where a function that takes the value as its
arguments goes wrong.

Each type takes its own values only, apart from an integer where a floating-point number is
demanded, and whatever can be read as a complex number. A record takes a map, reports the fields in
the order of the record, and leaves other entries of the map aside. Of several demands a value must
meet one; the first that it meets exactly counts, else the one that it meets best, and where it
meets none the problems with all are reported.
-/

namespace PromptContract.TypeCheck

/-- How well a value meets a demand. -/
inductive Fit
  /-- Anything would have passed, or a record had to be made. -/
  | loose
  /-- The value stands for a value of the type. -/
  | close
  /-- The value is of the type. -/
  | exact
deriving DecidableEq, Repr

/-- The lesser of two fits. -/
def Fit.min : Fit → Fit → Fit
  | .exact, f | f, .exact => f
  | .close, f | f, .close => f
  | .loose, .loose => .loose

/-- Whether a fit is better than another. -/
def Fit.isBetter (f g : Fit) : Bool := f != g && f.min g == g

/-- What becomes of a value that is checked. -/
inductive Verdict
  | passes (v : Value) (fit : Fit)
  | fails (issues : List Issue)

namespace Verdict

/-- Passes without problems. -/
def ofIssues (issues : List Issue) (v : Value) (fit : Fit) : Verdict :=
  if issues.isEmpty then .passes v fit else .fails issues

/-- One problem. -/
def wrong (rule msg : String) : Verdict := .fails [issue rule msg]

/-- The problems of a value that fails. -/
def issues : Verdict → List Issue
  | .fails issues => issues
  | _ => []

end Verdict

/-- A demand on one field of a record. -/
structure FieldDemandOf (α : Type) where
  name : String
  required : Bool
  demand : α

/-- A demand on one parameter of a function: how it takes an argument, its name, and whether it
needs one. -/
structure ParameterDemandOf (α : Type) where
  kind : ParameterKind
  name : String
  required : Bool
  demand : α

/-- What is demanded of a value. -/
inductive Demand
  | anything
  | null
  | bool
  | bytes (lengths : Limits Nat)
  | text (lengths : Limits Nat)
  | integer (limits : Limits Int)
  | real (limits : Limits Binary64)
  | complex
  | map (key item : Demand) (sizes : Limits Nat)
  | list (sizes : Limits Nat)
  | listOf (item : Demand) (sizes : Limits Nat)
  /-- A tuple of any number of items. -/
  | tupleOf (item : Demand) (sizes : Limits Nat)
  /-- A tuple of as many items as there are demands. -/
  | tuple (items : List Demand) (sizes : Limits Nat)
  | set (isFrozen : Bool) (item : Demand) (sizes : Limits Nat)
  /-- Any type. -/
  | someType
  /-- A type, or one below it. -/
  | subtype (t : BuiltinType)
  /-- A value of a type that is known by its name; of a choice of values, or of a record. -/
  | instanceOf (isChoice : Bool) (name : String)
  /-- Arguments for a function of a name, which is called with them. -/
  | callArguments (name : String) (parameters : List (ParameterDemandOf Demand)) (function : Value)
  | nullable (d : Demand)
  | oneOf (ds : List Demand)
  | record (name : String) (fields : List (FieldDemandOf Demand))
  /-- The record of a given name around the demand that this stands in, again. -/
  | again (name : String)
  /-- A bound that is tried on the values that pass. -/
  | bounded (d : Demand) (bound : Bound)
  /-- A demand that nobody can check. -/
  | unknown

namespace Demand

/-- The name of a type with limits or without. -/
def limited {α : Type} (l : Limits α) (name : String) : String :=
  if l.isEmpty then name else "constrained-" ++ name

mutual
/-- The name of a demand in the place of a problem. -/
def label : Demand → String
  | .anything => "any"
  | .null => "none"
  | .bool => "bool"
  | .bytes l => limited l "bytes"
  | .text l => limited l "str"
  | .integer l => limited l "int"
  | .real l => limited l "float"
  | .complex => "complex"
  | .map key item _ => "dict[" ++ label key ++ "," ++ label item ++ "]"
  | .list _ => "list[any]"
  | .listOf item _ => "list[" ++ label item ++ "]"
  | .tupleOf item _ => "tuple[" ++ label item ++ ", ...]"
  | .tuple items _ => "tuple[" ++ ", ".intercalate (labels items) ++ "]"
  | .set isFrozen item _ => (if isFrozen then "frozenset[" else "set[") ++ label item ++ "]"
  | .someType => "custom-error[is-instance[type]]"
  | .subtype t => "is-subclass[" ++ t.name ++ "]"
  | .instanceOf isChoice name => if isChoice then "str-enum[" ++ name ++ "]" else name
  | .callArguments name _ _ => "call[" ++ name ++ "]"
  | .nullable d => "nullable[" ++ label d ++ "]"
  | .oneOf ds => "union[" ++ ",".intercalate (labels ds) ++ "]"
  | .record name _ | .again name => name
  | .bounded d _ => label d
  | .unknown => ""
termination_by structural d => d

/-- The names of demands. -/
def labels : List Demand → List String
  | [] => []
  | d :: ds => label d :: labels ds
termination_by structural ds => ds
end

/-! ## Items, members and fields -/

/-- How a value is seen by a check: as what it stands for at the moment, without the mark that tells
a value that is no number from others. -/
def seen (v : Value) : Evaluation Value := do
  match ← Evaluation.opened v with
  | .object (.nan _) => return .float .nan
  | v => return v

/-- What becomes of the items of a list, from a place on: the items that pass, how well, and the
problems, or the verdict on the list where one settles it. As soon as there are more items than may
be, that is the only problem. -/
def checkItems (check : Value → Evaluation Verdict) (sizes : Limits Nat) (total place : Nat) :
    List Value → Evaluation (Except Verdict (List Value × Fit × List Issue))
  | [] => return .ok ([], .exact, [])
  | v :: vs => do
    let verdict ← check v
    if let some limit := (sizes.get? .atMost).filter (· ≤ place) then
      return .error (.fails [sizeIssue "List" .atMost limit (toString total)])
    match ← checkItems check sizes total (place + 1) vs, verdict with
    | .error verdict, _ => return .error verdict
    | .ok (items, fits, issues), .passes v fit => return .ok (v :: items, fit.min fits, issues)
    | .ok (items, fits, issues), .fails own =>
      return .ok (items, fits, own.map (Issue.within (.int place)) ++ issues)

/-- What becomes of a list. -/
def checkList (check : Value → Evaluation Verdict) (sizes : Limits Nat) (vs : List Value) :
    Evaluation Verdict := do
  match ← checkItems check sizes vs.length 0 vs with
  | .error verdict => return verdict
  | .ok (items, fit, issues) =>
    let issues := if issues.isEmpty then sizeIssues "List" sizes vs.length else issues
    return .ofIssues issues (.list items) fit

/-- The problem of an item that is not there. -/
def missingItem (place : Nat) : Issue := ⟨[.int place], "Field required", some "missing"⟩

/-- What becomes of the items of a tuple, from the verdicts on them, from a place on: those that
pass, how well, and the problems. More items that pass than may be are the only problem of the
tuple. A missing verdict means a missing item. -/
def collectTuple (most : Option Nat) (total place : Nat) (passed : List Value) (fit : Fit)
    (issues : List Issue) :
    List (Option (Evaluation Verdict)) → Evaluation (Except Verdict (List Value × Fit × List Issue))
  | [] => return .ok (passed, fit, issues)
  | none :: rest =>
    collectTuple most total (place + 1) passed fit (issues ++ [missingItem place]) rest
  | some verdict :: rest => do
    match ← verdict, most.filter (· ≤ passed.length) with
    | .fails own, _ =>
      collectTuple most total (place + 1) passed fit
        (issues ++ own.map (Issue.within (.int place))) rest
    | .passes .., some limit =>
      return .error (.fails [sizeIssue "Tuple" .atMost limit (toString total)])
    | .passes v own, none =>
      collectTuple most total (place + 1) (passed ++ [v]) (own.min fit) issues rest

/-- What becomes of a tuple, from the verdicts on its items. At most so many items may be there, if
that is limited by the type. -/
def checkTuple (verdicts : List (Option (Evaluation Verdict))) (total : Nat) (count : Option Nat)
    (sizes : Limits Nat) : Evaluation Verdict := do
  match ← collectTuple (sizes.get? .atMost) total 0 [] .exact [] verdicts with
  | .error verdict => return verdict
  | .ok (items, fit, issues) =>
    match count.filter (· < total), sizes.get? .atLeast with
    | some limit, _ => return .fails [sizeIssue "Tuple" .atMost limit (toString total)]
    | none, some limit =>
      if items.length < limit then
        return .fails [sizeIssue "Tuple" .atLeast limit (toString items.length)]
      else return .ofIssues issues (.tuple items) fit
    | none, none => return .ofIssues issues (.tuple items) fit

/-- The verdict on a value that is not a set of the kind that is demanded. -/
def wrongSet (isFrozen : Bool) : Verdict :=
  if isFrozen then .wrong "frozen_set_type" "Input should be a valid frozenset"
  else .wrong "set_type" "Input should be a valid set"

/-- What becomes of a set. -/
def checkSet (check : Value → Evaluation Verdict) (isFrozen : Bool) (sizes : Limits Nat)
    (vs : List Value) : Evaluation Verdict := do
  match ← checkItems check [] vs.length 0 vs with
  | .error verdict => return verdict
  | .ok (items, fit, issues) =>
    let noun := if isFrozen then "Frozenset" else "Set"
    let issues := if issues.isEmpty then sizeIssues noun sizes vs.length else issues
    return .ofIssues issues (.object (.set isFrozen items .unsettled)) fit

/-- A key as a step of a place: a text or an integer of moderate size as it is, and any other value
in its written form. -/
def stepOf (key : Value) : Value :=
  match key.comparedText?, key with
  | some s, _ => .text s
  | none, .bool b => .int (boolInt b)
  | none, .int n =>
    if -(Int.pow 2 63) ≤ n && n < Int.pow 2 63 then .int n else .text (toString n)
  | none, key => .text key.quoted

/-- What becomes of the entries of a map, of which some were seen before: those that pass, how well,
and the problems, of which those of a key come first. As soon as there are more entries than may be,
that is the only problem. -/
def checkEntries (checkKey check : Value → Evaluation Verdict) (most : Option Nat) (seen : Nat) :
    List (Value × Value) → Evaluation (Except Verdict (Entries × Fit × List Issue))
  | [] => return .ok ([], .exact, [])
  | (key, v) :: es => do
    if let some limit := most.filter (· ≤ seen) then
      return .error (.fails [sizeIssue "Dictionary" .atMost limit "more"])
    let keyVerdict ← checkKey key
    let verdict ← check v
    let keyIssues := keyVerdict.issues.map (Issue.within (.text "[key]"))
    let own := (keyIssues ++ verdict.issues).map (Issue.within (stepOf key))
    match ← checkEntries checkKey check most (seen + 1) es, keyVerdict, verdict with
    | .error verdict, _, _ => return .error verdict
    | .ok (entries, fits, issues), .passes key keyFit, .passes v fit =>
      return .ok ((key, v) :: entries, keyFit.min (fit.min fits), own ++ issues)
    | .ok (entries, fits, issues), _, _ => return .ok (entries, fits, own ++ issues)

/-- What becomes of a map. -/
def checkMap (checkKey check : Value → Evaluation Verdict) (sizes : Limits Nat) (es : Entries) :
    Evaluation Verdict := do
  match ← checkEntries checkKey check (sizes.get? .atMost) 0 es with
  | .error verdict => return verdict
  | .ok (entries, fit, issues) =>
    let short : Limits Nat := sizes.filter fun l => l.1 == .atLeast
    let issues := if issues.isEmpty then sizeIssues "Dictionary" short es.length else issues
    return .ofIssues issues (.map entries) fit

/-- The verdict of several demands with their names: `best` is the best so far, and `issues` the
problems with those that the value does not meet. -/
def choose (best : Option (Value × Fit)) (issues : List Issue) :
    List (String × Evaluation Verdict) → Evaluation Verdict
  | [] =>
    match best with
    | some (v, fit) => return .passes v fit
    | none => return .fails issues
  | (name, verdict) :: rest => do
    match ← verdict, best with
    | .passes v .exact, _ => return .passes v .exact
    | .passes v fit, some (_, earlier) =>
      choose (if fit.isBetter earlier then some (v, fit) else best) issues rest
    | .passes v fit, none => choose (some (v, fit)) issues rest
    | .fails own, best => choose best (issues ++ own.map (Issue.within (.text name))) rest

/-- A verdict on a field, seen from the record. -/
def within (name : String) : Verdict → Verdict
  | .fails issues => .fails (issues.map (Issue.within (.text name)))
  | verdict => verdict

/-- What becomes of a map that a record is made of, from the verdicts on its fields. -/
def checkRecord (verdicts : List Verdict) : Verdict :=
  .ofIssues (verdicts.flatMap Verdict.issues) .thing .loose

/-! ## Complex numbers, types and arguments -/

/-- Whether a value can be read as a complex number. -/
def isComplex (v : Value) : Bool :=
  match v, v.comparedText? with
  | .object (.complex _), _ => true
  | _, some s => (Complex.ofText? s).isSome
  | v, none => v.number?.isSome

/-- Whether a value is a type, and another one or below it. -/
def isSubtype (t : BuiltinType) : Value → Bool
  | .builtin s => s.isBelow t
  | .anyType => (BuiltinType.other "Any").isBelow t
  | .record name _ => t == .other "BaseModel" || (BuiltinType.other name).isBelow t
  | _ => false

/-- Whether a parameter takes arguments by place. -/
def takesPlace (kind : ParameterKind) : Bool := kind == .placed || kind == .ordinary

/-- Whether a parameter takes arguments by name. -/
def takesName (kind : ParameterKind) : Bool := kind == .ordinary || kind == .named

/-- The problem of an argument, which is missing or of no use. -/
def argumentIssue (step : Value) (rule msg : String) : Issue := ⟨[step], msg, some rule⟩

/-- The problem of a parameter that needs an argument and has none. -/
def missingArgument (place : Nat) (kind : ParameterKind) (name : String) : Issue :=
  match kind with
  | .placed =>
    argumentIssue (.int place) "missing_positional_only_argument"
      "Missing required positional only argument"
  | .named =>
    argumentIssue (.text name) "missing_keyword_only_argument"
      "Missing required keyword only argument"
  | _ => argumentIssue (.text name) "missing_argument" "Missing required argument"

/-- The problems of arguments by place and by name that no parameter of a function takes. -/
def surplusIssues (parameters : List (ParameterDemandOf Demand)) (placed : List Value)
    (named : Entries) : List Issue :=
  let places := (parameters.filter fun p => takesPlace p.kind).length
  let surplus := if parameters.any (·.kind == .places) then [] else
    (List.range' places (placed.length - places)).map fun (i : Nat) =>
      argumentIssue (.int i) "unexpected_positional_argument" "Unexpected positional argument"
  let unknown := named.filterMap fun (key, _) =>
    match key.comparedText? with
    | none => some (argumentIssue (stepOf key) "invalid_key" "Keys should be strings")
    | some s =>
      if parameters.any (fun p => takesName p.kind && p.name == s)
        || parameters.any (·.kind == .names) then none
      else
        some (argumentIssue (.text s) "unexpected_keyword_argument" "Unexpected keyword argument")
  surplus ++ unknown

/-- The entries of a map as arguments by name. -/
def namedArguments (es : Entries) : List (String × Value) :=
  es.filterMap fun (key, v) => key.comparedText?.map (·, v)

/-- What becomes of arguments for a function, from what is found about them: the function is called
if there is no problem. A name that it does not find is no type that is missing. -/
def called (m : Machine) (function : Value) (issues : List Issue) (placed : List Value)
    (named : Entries) : Evaluation Verdict := do
  if !issues.isEmpty then return .fails issues
  let result ← tryCatch (m.call function placed (namedArguments named)) fun
    | .undefinedType => throw (.raised "NameError")
    | why => throw why
  return .passes result .loose

/-! ## Checking -/

/-- The verdict on a value that must be a map, from the verdict on its entries. -/
def ofMapOnly (name : String) (check : Entries → Evaluation Verdict) : Value → Evaluation Verdict
  | .map es => check es
  | _ => return .wrong "model_type" ("Input should be a valid dictionary or instance of " ++ name)

/-- What becomes of a value that a record is made of, whose fields may ask for the record again, up
to a depth. -/
def checkAgain (name : String)
    (verdicts : (Value → Evaluation Verdict) → Entries → Evaluation (List Verdict)) :
    Nat → Value → Evaluation Verdict
  | 0, _ => throw .tooDeep
  | depth + 1, v =>
    ofMapOnly name (fun es => checkRecord <$> verdicts (checkAgain name verdicts depth) es) v

/-- What becomes of an integer where a floating-point number is demanded: it is taken as the one
that it is, if there is one. -/
def asReal (l : Limits Binary64) (n : Int) : Verdict :=
  (Binary64.ofInt? n).elim (.wrong "float_type" "Input should be a valid number")
    fun x => .ofIssues (realIssues l x) (.float x) .close

mutual
/-- What becomes of a value, as it is seen, of which something is demanded; `again` says it of the
record around. -/
def checkWithin (m : Machine) (again : Value → Evaluation Verdict) :
    Demand → Value → Evaluation Verdict
  | .anything, v => return .passes v .loose
  | .null, .null => return .passes .null .exact
  | .null, _ => return .wrong "none_required" "Input should be None"
  | .bool, .bool b => return .passes (.bool b) .exact
  | .bool, _ => return .wrong "bool_type" "Input should be a valid boolean"
  | .bytes l, .object (.bytes bs) =>
    return .ofIssues (byteIssues l bs.length) (.object (.bytes bs)) .exact
  | .bytes _, _ => return .wrong "bytes_type" "Input should be a valid bytes"
  | .text l, .text s => return .ofIssues (textIssues l s.length) (.text s) .exact
  | .text l, .fieldType t => return .ofIssues (textIssues l t.name.length) (.text t.name) .close
  | .text _, _ => return .wrong "string_type" "Input should be a valid string"
  | .integer l, .int n => return .ofIssues (integerIssues l n) (.int n) .exact
  | .integer _, _ => return .wrong "int_type" "Input should be a valid integer"
  | .real l, .float x => return .ofIssues (realIssues l x) (.float x) .exact
  | .real l, .int n => return asReal l n
  | .real _, _ => return .wrong "float_type" "Input should be a valid number"
  | .complex, v =>
    if isComplex v then return .passes v .loose
    else
      return .wrong "complex_type" ("Input should be a valid python complex object, a number, or a "
        ++ "valid complex string following the rules at " ++ m.complexRules)
  | .map key item l, .map es =>
    checkMap (fun v => do checkWithin m again key (← seen v))
      (fun v => do checkWithin m again item (← seen v)) l es
  | .map .., _ => return .wrong "dict_type" "Input should be a valid dictionary"
  | .list l, .list vs => return .ofIssues (sizeIssues "List" l vs.length) (.list vs) .exact
  | .list _, _ => return .wrong "list_type" "Input should be a valid list"
  | .listOf item l, .list vs => checkList (fun v => do checkWithin m again item (← seen v)) l vs
  | .listOf .., _ => return .wrong "list_type" "Input should be a valid list"
  | .tupleOf item l, .tuple vs =>
    checkTuple (vs.map fun v => some (do checkWithin m again item (← seen v))) vs.length none l
  | .tuple items l, .tuple vs =>
    checkTuple (checkEach m again items vs) vs.length (some items.length) l
  | .tupleOf .., _ | .tuple .., _ => return .wrong "tuple_type" "Input should be a valid tuple"
  | .set isFrozen item l, .object (.set isFrozen' vs _) => do
    if isFrozen != isFrozen' then return wrongSet isFrozen
    checkSet (fun v => do checkWithin m again item (← seen v)) isFrozen l vs
  | .set isFrozen .., _ => return wrongSet isFrozen
  | .someType, v =>
    if v.isClass then return .passes v .exact else return .wrong "is_type" "Input should be a type"
  | .subtype t, v =>
    if isSubtype t v then return .passes v .exact
    else return .wrong "is_subclass_of" ("Input should be a subclass of " ++ t.name)
  | .instanceOf isChoice name, v =>
    if v.kind == name then return .passes v .exact
    else
      return .wrong (if isChoice then "is_instance_of" else "dataclass_exact_type")
        ("Input should be an instance of " ++ name)
  | .callArguments _ parameters function, .list vs
  | .callArguments _ parameters function, .tuple vs => do
    let own ← checkArguments m again 0 parameters vs []
    called m function (own ++ surplusIssues parameters vs []) vs []
  | .callArguments _ parameters function, .map es => do
    let own ← checkArguments m again 0 parameters [] es
    called m function (own ++ surplusIssues parameters [] es) [] es
  | .callArguments .., _ =>
    return .wrong "arguments_type" "Arguments must be a tuple, list or a dictionary"
  | .nullable _, .null => return .passes .null .exact
  | .nullable d, v => checkWithin m again d v
  | .oneOf ds, v => choose none [] (checkAll m again ds v)
  | .record name fields, v => do
    -- A value has no part as deep as itself, so the record is asked for no deeper.
    let depth := (← Evaluation.settled v).depth
    checkAgain name (fun again es => checkFields m again fields es) (depth + 1) v
  | .again _, v => again v
  | .bounded d bound, v => do
    match ← checkWithin m again d v with
    | .passes v fit => return .ofIssues (← bound.verdict (← Evaluation.settled v)) v fit
    | verdict => return verdict
  | .unknown, _ => throw .badBound
termination_by structural d => d

/-- The verdicts of several demands with their names. -/
def checkAll (m : Machine) (again : Value → Evaluation Verdict) :
    List Demand → Value → List (String × Evaluation Verdict)
  | [], _ => []
  | d :: ds, v => (d.label, checkWithin m again d v) :: checkAll m again ds v
termination_by structural ds => ds

/-- The verdicts of demands on the items of a row, one demand for each; none where an item is
missing. -/
def checkEach (m : Machine) (again : Value → Evaluation Verdict) :
    List Demand → List Value → List (Option (Evaluation Verdict))
  | [], _ => []
  | _ :: ds, [] => none :: checkEach m again ds []
  | d :: ds, v :: vs => some (do checkWithin m again d (← seen v)) :: checkEach m again ds vs
termination_by structural ds => ds

/-- The verdicts on the fields of a record, field by field. -/
def checkFields (m : Machine) (again : Value → Evaluation Verdict) :
    List (FieldDemandOf Demand) → Entries → Evaluation (List Verdict)
  | [], _ => return []
  | ⟨name, required, demand⟩ :: fields, es => do
    let own ← match es.get? name with
      | some v => do pure (within name (← checkWithin m again demand (← seen v)))
      | none =>
        pure (if required then .fails [⟨[.text name], "Field required", some "missing"⟩]
          else .passes .null .exact)
    return own :: (← checkFields m again fields es)
termination_by structural fields => fields

/-- The problems of arguments with the parameters of a function, from a place on. -/
def checkArguments (m : Machine) (again : Value → Evaluation Verdict) (place : Nat) :
    List (ParameterDemandOf Demand) → List Value → Entries → Evaluation (List Issue)
  | [], _, _ => return []
  | ⟨.places, _, _, _⟩ :: rest, placed, named | ⟨.names, _, _, _⟩ :: rest, placed, named =>
    checkArguments m again place rest placed named
  | ⟨kind, name, required, demand⟩ :: rest, placed, named => do
    let byPlace := if takesPlace kind then placed[place]? else none
    let byName := if takesName kind then named.get? name else none
    let own ← match byPlace, byName with
      | some v, _ => do
        pure ((← checkWithin m again demand (← seen v)).issues.map (Issue.within (.int place)))
      | none, some v => do
        pure ((← checkWithin m again demand (← seen v)).issues.map (Issue.within (.text name)))
      | none, none => pure (if required then [missingArgument place kind name] else [])
    return own ++ (← checkArguments m again (place + 1) rest placed named)
termination_by structural parameters => parameters
end

/-- What becomes of a value of which something is demanded. -/
def check (m : Machine) (d : Demand) (v : Value) : Evaluation Verdict := do
  d.checkWithin m (fun _ => throw .tooDeep) (← seen v)

/-- The problems of a value of which something is demanded. -/
def issues (m : Machine) (d : Demand) (v : Value) : Evaluation (List Issue) := do
  return (← d.check m v).issues

/-! ## Taking bounds in -/

/-- A demand within a bound. Where null is allowed the bound is on the other values. A limit that
cannot be read is kept as such. -/
def withBound (d : Demand) (b : Bound) : Demand :=
  let length := lengthLimit? b.limit
  match d, b.measure with
  | .nullable d, _ => .nullable (d.withBound b)
  | .integer l, .value => .integer (l.set b.relation (integerLimit? b.limit))
  | .real l, .value => .real (l.set b.relation (realLimit? b.limit))
  | .text l, .length => .text (l.set b.relation length)
  | .bytes l, .length => .bytes (l.set b.relation length)
  | .map key item l, .length => .map key item (l.set b.relation length)
  | .list l, .length => .list (l.set b.relation length)
  | .listOf item l, .length => .listOf item (l.set b.relation length)
  | .tupleOf item l, .length => .tupleOf item (l.set b.relation length)
  | .tuple items l, .length => .tuple items (l.set b.relation length)
  | .set isFrozen item l, .length => .set isFrozen item (l.set b.relation length)
  | .unknown, _ => .unknown
  | d, _ => .bounded d b
termination_by structural d

mutual
/-- Whether a demand can be checked: all its limits could be read, and nothing in it is unknown. -/
def isReady : Demand → Bool
  | .anything | .null | .bool | .complex | .someType | .subtype _ | .instanceOf ..
  | .callArguments .. | .again _ => true
  | .bytes l | .text l | .list l => l.areReadable
  | .integer l => l.areReadable
  | .real l => l.areReadable
  | .map key item l => isReady key && isReady item && l.areReadable
  | .listOf item l | .tupleOf item l | .set _ item l => isReady item && l.areReadable
  | .tuple items l => areReady items && l.areReadable
  | .nullable d | .bounded d _ => isReady d
  | .oneOf ds => areReady ds
  | .record _ fields => areFieldsReady fields
  | .unknown => false
termination_by structural d => d

/-- Whether all demands of a row can be checked. -/
def areReady : List Demand → Bool
  | [] => true
  | d :: ds => isReady d && areReady ds
termination_by structural ds => ds

/-- Whether the demands of all fields can be checked. -/
def areFieldsReady : List (FieldDemandOf Demand) → Bool
  | [] => true
  | ⟨_, _, demand⟩ :: fields => isReady demand && areFieldsReady fields
termination_by structural fields => fields
end

/-- A demand that can be checked. -/
def settled (d : Demand) : Except Failure Demand :=
  if d.isReady then .ok d else .error .badBound

end Demand

end PromptContract.TypeCheck
