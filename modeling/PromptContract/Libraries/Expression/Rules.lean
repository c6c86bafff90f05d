import PromptContract.Libraries.Expression.Reader

/-!
# Rules that expressions keep

Not every expression that can be read has a meaning. The names of parameters differ, as do those of
arguments; a value is handed out only within a function; a name that is given on the way is none of
those that a comprehension around it gives to items, and is not given in the source of items. Items
that arrive over time may stand only in a comprehension that hands out its own one by one
(`Expression.isSound`).
-/

namespace PromptContract.Expression

/-- Where an expression stands. -/
structure Place where
  /-- Whether it is directly within a function, and may hand out values. -/
  maySuspend : Bool
  /-- Whether it is within a source of items. -/
  inSource : Bool
  /-- The names that the comprehensions around it, up to a function, give to items. -/
  itemNames : List String

/-- The place of a whole expression. -/
def Place.outermost : Place := ⟨false, false, []⟩

/-- A name that always stands for the same value. -/
def fixedName : String := "__debug__"

/-- Whether names may be given to different things. -/
def areFresh (names : List String) : Bool := names.Nodup && !names.contains fixedName

/-- The names of the arguments of a call. -/
def argumentNames (arguments : List (ArgumentOf Expression)) : List String :=
  arguments.filterMap fun
    | .named s _ => some s
    | _ => none

mutual
/-- Whether an expression keeps the rules. -/
def isSound (p : Place) : Expression → Bool
  | .constant _ | .name _ => true
  | .formatted pieces => areSound p pieces
  | .shown e _ layout => isSound p e && isSoundIfAny p layout
  | .list items | .tuple items | .set items => areSound p items
  | .map entries => areSoundEntries p entries
  | .starred e | .unary _ e | .member e _ => isSound p e
  | .binary _ left right | .both left right | .either left right =>
    isSound p left && isSound p right
  | .comparison first rest => isSound p first && areSoundComparisons p rest
  | .choice condition positive negative =>
    isSound p condition && isSound p positive && isSound p negative
  | .item e index => isSound p e && isSound p index
  | .slice start stop step => isSoundIfAny p start && isSoundIfAny p stop && isSoundIfAny p step
  | .call e arguments =>
    isSound p e && areSoundArguments p arguments && areFresh (argumentNames arguments)
  | .function parameters body =>
    areFresh (parameters.map (·.name)) && areSoundParameters p parameters
      && isSound ⟨true, p.inSource, []⟩ body
  | .assigned s e => s != fixedName && !p.inSource && !p.itemNames.contains s && isSound p e
  | .comprehension kind element clauses =>
    let names := clauseNames clauses
    let inside := ⟨false, p.inSource, names ++ p.itemNames⟩
    !names.contains fixedName
      && (kind == .stream || clauses.all fun c => !c.isAwaited)
      && areSoundClauses p inside clauses && isSound inside element
  | .yielded e => p.maySuspend && isSoundIfAny p e
termination_by structural e => e

/-- Whether expressions in a row keep the rules. -/
def areSound (p : Place) : List Expression → Bool
  | [] => true
  | e :: rest => isSound p e && areSound p rest
termination_by structural es => es

/-- Whether an expression keeps the rules if there is one. -/
def isSoundIfAny (p : Place) : Option Expression → Bool
  | none => true
  | some e => isSound p e
termination_by structural e => e

/-- Whether the entries of a map keep the rules. -/
def areSoundEntries (p : Place) : List (Option Expression × Expression) → Bool
  | [] => true
  | (key, e) :: rest => isSoundIfAny p key && isSound p e && areSoundEntries p rest
termination_by structural es => es

/-- Whether the operands of comparisons keep the rules. -/
def areSoundComparisons (p : Place) : List (Comparison × Expression) → Bool
  | [] => true
  | (_, e) :: rest => isSound p e && areSoundComparisons p rest
termination_by structural es => es

/-- Whether the arguments of a call keep the rules. -/
def areSoundArguments (p : Place) : List (ArgumentOf Expression) → Bool
  | [] => true
  | .placed e :: rest | .spread e :: rest | .named _ e :: rest | .spreadNames e :: rest =>
    isSound p e && areSoundArguments p rest
termination_by structural es => es

/-- Whether the defaults of parameters keep the rules. -/
def areSoundParameters (p : Place) : List (ParameterOf Expression) → Bool
  | [] => true
  | ⟨_, _, default⟩ :: rest => isSoundIfAny p default && areSoundParameters p rest
termination_by structural ps => ps

/-- Whether the clauses of a comprehension keep the rules. The first source stands outside it. -/
def areSoundClauses (first inside : Place) : List (ClauseOf Expression) → Bool
  | [] => true
  | ⟨_, target, source, conditions⟩ :: rest =>
    isSound inside target && isSound { first with inSource := true } source
      && areSound inside conditions && areSoundClauses inside inside rest
termination_by structural cs => cs
end

/-- The expression that a text holds, if it keeps the rules. -/
def soundOfText? (s : String) : Option Expression :=
  (ofText? s).filter (isSound .outermost)

end PromptContract.Expression
