import PromptContract.Schema.JsonSchema
import PromptContract.Libraries.Value.Order
import PromptContract.Libraries.Value.Sorting

/-!
# JSON Schema

A JSON Schema is a map of keywords, each of which makes a demand on a value (or a bare truth value,
which allows everything or nothing). `JsonSchema.findings` goes through the keywords in the order of
the schema and reports every problem. A schema that cannot be read stops the search: what was found
before stays found, so a value with an earlier problem is known to be invalid without reading on
(`Findings.isValid`). A keyword on numbers, texts or lists says nothing about values of other kinds,
and unknown keywords say nothing at all.
-/

namespace PromptContract.Schema

/-- What the search for problems found, and why it stopped if it did not reach the end. -/
structure Findings where
  issues : List Issue
  halted : Option Failure

namespace Findings

/-- No problem. -/
def none : Findings := ⟨[], Option.none⟩

/-- The search stops. -/
def halt (why : Failure) : Findings := ⟨[], some why⟩

/-- One problem at the value itself, found by a rule. -/
def one (rule msg : String) : Findings := ⟨[⟨[], msg, some rule⟩], Option.none⟩

/-- A problem of a rule if a condition holds. -/
def oneIf (broken : Bool) (rule msg : String) : Findings := if broken then one rule msg else none

/-- The findings of two searches in a row. -/
def append (f g : Findings) : Findings :=
  match f.halted with
  | some _ => f
  | Option.none => ⟨f.issues ++ g.issues, g.halted⟩

instance : Append Findings := ⟨append⟩

/-- The findings about a part of a value, seen from the value. A step by null leaves no trace. -/
def within (step : Value) (f : Findings) : Findings :=
  match step with
  | .null => f
  | step => { f with issues := f.issues.map (Issue.within step) }

/-- Whether no problem was found. The first problem settles the question; without one, a search that
stopped leaves it open. -/
def isValid (f : Findings) : Except Failure Bool :=
  match f.issues, f.halted with
  | _ :: _, _ => .ok false
  | [], some why => .error why
  | [], Option.none => .ok true

/-- All problems, if the search reached the end. -/
def toExcept (f : Findings) : Except Failure (List Issue) :=
  match f.halted with
  | some why => .error why
  | Option.none => .ok f.issues

/-- Goes on with a result, or stops with its failure. -/
def ofExcept {α : Type} (r : Except Failure α) (next : α → Findings) : Findings :=
  match r with
  | .ok a => next a
  | .error why => halt why

end Findings

namespace JsonSchema

/-- The keywords that make demands. -/
inductive Keyword
  | type | required | minimum | maximum | exclusiveMinimum | exclusiveMaximum | multipleOf
  | enum | const | minLength | maxLength | minItems | maxItems | uniqueItems
  | properties | items | additionalProperties | allOf | anyOf | oneOf | not
deriving DecidableEq

/-- The keywords with their names. -/
def keywordNames : List (String × Keyword) :=
  [("type", .type), ("required", .required), ("minimum", .minimum), ("maximum", .maximum),
    ("exclusiveMinimum", .exclusiveMinimum), ("exclusiveMaximum", .exclusiveMaximum),
    ("multipleOf", .multipleOf), ("enum", .enum), ("const", .const), ("minLength", .minLength),
    ("maxLength", .maxLength), ("minItems", .minItems), ("maxItems", .maxItems),
    ("uniqueItems", .uniqueItems), ("properties", .properties), ("items", .items),
    ("additionalProperties", .additionalProperties), ("allOf", .allOf), ("anyOf", .anyOf),
    ("oneOf", .oneOf), ("not", .not)]

/-- The keyword that a key of a schema is, if it is one. -/
def keyword? (key : Value) : Option Keyword :=
  key.comparedText?.bind fun name => keywordNames.lookup name

/-- Whether a value is of a type of the schema language. Whole floating-point numbers are integers,
and truth values are no numbers. -/
def hasType (name : String) (v : Value) : Option Bool :=
  match name with
  | "array" => some (match v with | .list _ => true | _ => false)
  | "boolean" => some (match v with | .bool _ => true | _ => false)
  | "integer" =>
    some (match v with | .int _ => true | .float x => x.isWhole | _ => false)
  | "null" => some (match v with | .null => true | _ => false)
  | "number" => some (match v with | .int _ | .float _ => true | _ => false)
  | "object" => some (match v with | .map _ => true | _ => false)
  | "string" => some (match v with | .text _ | .fieldType _ => true | _ => false)
  | _ => none

/-- Whether a value is of a type given by any value: only names are types. -/
def hasTypeOf (type v : Value) : Except Failure Bool :=
  match type.comparedText? with
  | some name =>
    match hasType name v with
    | some b => .ok b
    | none => .error .unknownType
  | none => .error (if type.isKey then .unknownType else .wrongKind)

/-- Whether a value is of one of several types. The search ends at the first that fits. -/
def hasOneOf : List Value → Value → Except Failure Bool
  | [], _ => .ok false
  | type :: types, v => do if ← hasTypeOf type v then return true else hasOneOf types v

/-- The types that a type keyword lists: one may stand by itself. -/
def listedTypes : Value → Except Failure (List Value)
  | .text s => .ok [.text s]
  | .fieldType t => .ok [.fieldType t]
  | v => v.items

/-- The number in a value that has the type of numbers. -/
def numberOf? (v : Value) : Option Value.Number :=
  match v with
  | .int _ | .float _ => v.number?
  | _ => none

mutual
/-- Equality of values as the schema language has it: a truth value equals itself only, and lists
and tuples are equal when their items are. -/
def equal : Value → Value → Bool
  | .list xs, .list ys | .list xs, .tuple ys => equalItems xs ys
  | .tuple xs, .list ys | .tuple xs, .tuple ys => equalItems xs ys
  | .map es, .map fs => es.length == fs.length && equalEntries es fs
  | .bool a, .bool b => a == b
  | .bool _, _ | _, .bool _ => false
  | v, w => v.same w
termination_by structural v => v

/-- Equality of rows of values, place by place. -/
def equalItems : List Value → List Value → Bool
  | [], [] => true
  | x :: xs, y :: ys => equal x y && equalItems xs ys
  | _, _ => false
termination_by structural xs => xs

/-- Whether each entry of the first map has an equal one in the second. -/
def equalEntries : List (Value × Value) → List (Value × Value) → Bool
  | [], _ => true
  | (k, v) :: es, fs => (fs.any fun e => k.same e.1 && equal v e.2) && equalEntries es fs
termination_by structural es => es
end

/-- Whether no two items of a row are equal. -/
def pairwiseDistinct : List Value → Bool
  | [] => true
  | v :: vs => (vs.all fun w => !equal v w) && pairwiseDistinct vs

/-- Whether no item of a row equals the next. -/
def nextDistinct : List Value → Bool
  | v :: w :: vs => !equal v w && nextDistinct (w :: vs)
  | _ => true

/-- Whether one item is less than another. Truth values have no order. -/
def isLess? : Value → Value → Option Bool
  | .bool _, _ | _, .bool _ => none
  | v, w => v.stands? .less w

/-- Whether the items of a row count as distinct: where they can be sorted only neighbours are
compared, else all pairs. -/
def distinct (vs : List Value) : Bool :=
  match Sorting.sorted? isLess? vs with
  | some sorted => nextDistinct sorted
  | none => pairwiseDistinct vs

/-- A demand on the order of a number and a limit. -/
def compared (k : String) (broken : List Ordering) (wording : String) (limit v : Value) :
    Findings :=
  match numberOf? v with
  | none => .none
  | some n =>
    match limit.number? with
    | none => .halt .wrongKind
    | some m =>
      let outside := match n.compare? m with
        | some o => broken.contains o
        | none => false
      .oneIf outside k (v.quoted ++ wording ++ limit.quoted)

/-- Whether one number is no whole multiple of another. A quotient by a floating-point number is
rounded, and taken exactly only where it would be infinite. -/
def isNoMultiple : Value.Number → Value.Number → Except Failure Bool
  | .int _, .int 0 => .error .divisionByZero
  | .int n, .int d => .ok (n.emod d != 0)
  | .float x, .int d =>
    match Binary64.ofInt? d with
    | none => .error .numberTooLarge
    | some y =>
      match x, y with
      | _, .finite _ 0 => .error .divisionByZero
      | .finite _ m, .finite _ n => .ok (m % n != 0)
      | _, _ => .ok true
  | n, .float y =>
    let rounded := match n with
      | .int i => Binary64.ofInt? i
      | .float x => some x
    match rounded with
    | none => .error .numberTooLarge
    | some x =>
      match x.div? y with
      | none => .error .divisionByZero
      | some .nan => .error .unreadable
      | some (.infinite _) =>
        match n, x, y with
        | .int i, _, .finite _ d => .ok (i.natAbs * Binary64.one % d != 0)
        | .float _, .finite _ m, .finite _ d => .ok (m % d != 0)
        | _, _, _ => .error .numberTooLarge
      | some q => .ok !q.isWhole

/-- A demand on the length of a text or a list. -/
def counted (k : String) (length? : Option Nat) (broken : Ordering) (special : Int)
    (specialWording wording : String) (limit v : Value) : Findings :=
  match length? with
  | none => .none
  | some n =>
    match limit.number? with
    | none => .halt .wrongKind
    | some m =>
      .oneIf ((Value.Number.int n).compare? m == some broken) k
        (v.quoted ++ (if limit.same (.int special) then specialWording else wording))

/-- The length of a text. -/
def textLength? : Value → Option Nat
  | .text s => some s.length
  | .fieldType t => some t.name.length
  | _ => none

/-- The length of a list. -/
def listLength? : Value → Option Nat
  | .list vs => some vs.length
  | _ => none

/-- The problems of the properties that a map lacks, in the order of the demand. -/
def missing (es : Entries) : List Value → Findings
  | [] => .none
  | key :: keys =>
    if key.isKey then
      .oneIf (!es.has key) "required" (key.quoted ++ " is a required property") ++ missing es keys
    else .halt .wrongKind

/-- The demands of the keywords that look at the value alone. -/
def assertion (k : Keyword) (argument v : Value) : Findings :=
  match k with
  | .type =>
    .ofExcept (listedTypes argument) fun types =>
      .ofExcept (hasOneOf types v) fun fits =>
        .oneIf (!fits) "type"
          (v.quoted ++ " is not of type " ++ ", ".intercalate (types.map Value.quoted))
  | .required =>
    match v with
    | .map es => .ofExcept argument.items (missing es)
    | _ => .none
  | .minimum => compared "minimum" [.lt] " is less than the minimum of " argument v
  | .maximum => compared "maximum" [.gt] " is greater than the maximum of " argument v
  | .exclusiveMinimum =>
    compared "exclusiveMinimum" [.lt, .eq] " is less than or equal to the minimum of " argument v
  | .exclusiveMaximum =>
    compared "exclusiveMaximum" [.gt, .eq] " is greater than or equal to the maximum of " argument v
  | .multipleOf =>
    match numberOf? v, argument.number? with
    | none, _ => .none
    | some _, none => .halt .wrongKind
    | some n, some d =>
      .ofExcept (isNoMultiple n d) fun broken =>
        .oneIf broken "multipleOf" (v.quoted ++ " is not a multiple of " ++ argument.display)
  | .enum =>
    .ofExcept argument.items fun allowed =>
      .oneIf (!allowed.any (equal · v)) "enum" (v.quoted ++ " is not one of " ++ argument.quoted)
  | .const => .oneIf (!equal v argument) "const" (argument.quoted ++ " was expected")
  | .minLength =>
    counted "minLength" (textLength? v) .lt 1 " should be non-empty" " is too short" argument v
  | .maxLength =>
    counted "maxLength" (textLength? v) .gt 0 " is expected to be empty" " is too long" argument v
  | .minItems =>
    counted "minItems" (listLength? v) .lt 1 " should be non-empty" " is too short" argument v
  | .maxItems =>
    counted "maxItems" (listLength? v) .gt 0 " is expected to be empty" " is too long" argument v
  | .uniqueItems =>
    match v with
    | .list vs =>
      .oneIf (argument.truthy && !distinct vs) "uniqueItems"
        (v.quoted ++ " has non-unique elements")
    | _ => .none
  | _ => .none

/-- Whether a text occurs in another. -/
def occursIn (part : List Char) : List Char → Bool
  | [] => part.isEmpty
  | c :: cs => part.isPrefixOf (c :: cs) || occursIn part cs

/-- Whether a key is among the listed properties: it is a key of a map, an item of a list or a
tuple, or occurs in a text, for which it must be a text itself. -/
def isListed (listed key : Value) : Except Failure Bool :=
  match listed with
  | .map es => .ok (Entries.has es key)
  | .list vs | .tuple vs => .ok (vs.any key.same)
  | .generic .. | .unpacked _ => .ok false
  | v =>
    match v.comparedText?, key.comparedText? with
    | some s, some k => .ok (occursIn k.toList s.toList)
    | _, _ => .error .wrongKind

/-- The entries of a value map that a schema does not list among its properties. -/
def unlisted (schema es : Entries) : Except Failure Entries :=
  es.filterM fun e => do return !(← isListed ((schema.get? "properties").getD (.map [])) e.1)

/-- Entries in the order of the texts of their keys. -/
def byKey (es : Entries) : Entries := es.mergeSort fun a b => !(b.1.display < a.1.display)

/-- The text about entries that must not be there. -/
def unexpected (es : Entries) : String :=
  "Additional properties are not allowed ("
    ++ ", ".intercalate ((byKey es).map fun e => e.1.quoted)
    ++ (if es.length == 1 then " was" else " were") ++ " unexpected)"

/-- At least one of several schemas must allow the value. -/
def anyOfFindings (v : Value) : List (Value × Findings) → Findings
  | [] => .one "anyOf" (v.quoted ++ " is not valid under any of the given schemas")
  | (_, f) :: rest =>
    match f.halted, f.issues with
    | some why, _ => .halt why
    | none, [] => .none
    | none, _ => anyOfFindings v rest

/-- The name of the entry that says which language a schema is written in. -/
def languageKey : String := "$schema"

/-- What is found under a schema that is taken by itself: its language is looked for first, which
takes something that can be searched. -/
def standsAlone (schema : Value) (f : Findings) : Findings :=
  match schema with
  | .bool _ | .map _ => f
  | .list vs | .tuple vs => if vs.any (·.isText languageKey) then .halt .wrongKind else f
  | .generic .. | .unpacked _ => f
  | v =>
    match v.comparedText? with
    | some s =>
      if occursIn languageKey.toList s.toList then .halt .wrongKind else f
    | none => .halt .wrongKind

/-- The schemas of a row that allow the value. -/
def allowing : List (Value × Findings) → Except Failure (List Value)
  | [] => .ok []
  | (schema, f) :: rest => do
    let valid ← (standsAlone schema f).isValid
    let others ← allowing rest
    return if valid then schema :: others else others

/-- Exactly one of several schemas must allow the value. -/
def oneOfFindings (v : Value) : List (Value × Findings) → Findings
  | [] => .one "oneOf" (v.quoted ++ " is not valid under any of the given schemas")
  | (first, f) :: rest =>
    match f.halted, f.issues with
    | some why, _ => .halt why
    | none, [] =>
      .ofExcept (allowing rest) fun more =>
        .oneIf (!more.isEmpty) "oneOf" (v.quoted ++ " is valid under each of "
          ++ ", ".intercalate ((more ++ [first]).map Value.quoted))
    | none, _ => oneOfFindings v rest

/-- The findings of searches in a row. -/
def inOrder (fs : List Findings) : Findings := fs.foldl (· ++ ·) .none

/-- What is found about a list under a schema that allows no item. -/
def noItems (vs : List Value) : Findings :=
  let rest := match vs with
    | [v] => v
    | vs => .list vs
  .oneIf (!vs.isEmpty) "items" ("Expected at most 0 items but found " ++ toString vs.length
    ++ " extra: " ++ rest.quoted)

/-- Whether a schema is the one that allows nothing. -/
def isFalse : Value → Bool
  | .bool false => true
  | _ => false

/-- The findings about the value of a property. A schema that allows nothing speaks about the map.
-/
def atProperty (name schema : Value) (f : Findings) : Findings :=
  if isFalse schema then f else f.within name

/-- What is found about a value under a schema that is no map: a truth value allows everything or
nothing, and no other value is a schema. -/
def bareFindings : Value → Value → Findings
  | .bool true, _ => .none
  | .bool false, v => ⟨[⟨[], "False schema does not allow " ++ v.quoted, none⟩], none⟩
  | schema, _ => .halt schema.notMap

mutual
/-- What is found about a value under a schema. -/
def findings : Value → Value → Findings
  | .map es, v => keywordFindings es es v
  | schema, v => bareFindings schema v
termination_by structural schema => schema

/-- What the keywords of a schema find, one after the other. -/
def keywordFindings (whole : Entries) : List (Value × Value) → Value → Findings
  | [], _ => .none
  | (key, argument) :: rest, v =>
    let own := match keyword? key with
      | none => .none
      | some .properties =>
        match v with
        | .map es => propertiesFindings argument es
        | _ => .none
      | some .items =>
        match v with
        | .list vs =>
          if isFalse argument then noItems vs
          else inOrder (vs.zipIdx.map fun (v, i) => (findings argument v).within (.int i))
        | _ => .none
      | some .additionalProperties =>
        match v with
        | .map es => .ofExcept (unlisted whole es) (extraFindings argument)
        | _ => .none
      | some .allOf =>
        .ofExcept (eachFindings argument v) fun fs => inOrder (fs.map (·.2))
      | some .anyOf => .ofExcept (eachFindings argument v) (anyOfFindings v)
      | some .oneOf => .ofExcept (eachFindings argument v) (oneOfFindings v)
      | some .not =>
        .ofExcept (standsAlone argument (findings argument v)).isValid fun valid =>
          .oneIf valid "not" (v.quoted ++ " should not be valid under " ++ argument.quoted)
      | some k => assertion k argument v
    own ++ keywordFindings whole rest v
termination_by structural es => es

/-- What the schemas of the listed properties find about the entries of a map. -/
def propertiesFindings : Value → Entries → Findings
  | .map listed, es => listedFindings listed es
  | v, _ => .halt v.notMap
termination_by structural v => v

/-- What one listed property after the other finds. -/
def listedFindings : List (Value × Value) → Entries → Findings
  | [], _ => .none
  | (name, schema) :: rest, es =>
    let own := match es.lookup? name with
      | none => .none
      | some v => atProperty name schema (findings schema v)
    own ++ listedFindings rest es
termination_by structural listed => listed

/-- What is found about the entries that no property lists: a schema is demanded of each, and where
none are allowed all are named at once. These entries are a set without an order of its own; the
demands go from the last key to the first. -/
def extraFindings : Value → Entries → Findings
  | .map schema, es =>
    inOrder ((byKey es).reverse.map fun e => (keywordFindings schema schema e.2).within e.1)
  | argument, es =>
    .oneIf (!argument.truthy && !es.isEmpty) "additionalProperties" (unexpected es)
termination_by structural v => v

/-- What each schema of a row finds about a value. -/
def eachFindings : Value → Value → Except Failure (List (Value × Findings))
  | .list schemas, v | .tuple schemas, v => .ok (rowFindings schemas v)
  | argument, v => do return (← argument.items).map fun schema => (schema, bareFindings schema v)
termination_by structural v => v

/-- What each schema of a row finds about a value. -/
def rowFindings : List Value → Value → List (Value × Findings)
  | [], _ => []
  | schema :: rest, v => (schema, findings schema v) :: rowFindings rest v
termination_by structural schemas => schemas
end

end JsonSchema

end PromptContract.Schema
