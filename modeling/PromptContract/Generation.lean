import PromptContract.Value.Conversion

/-!
# Generation options

The options that are passed on to a provider split into those that every provider knows, some of
which go by two names, and extras. Of two options for one parameter the later counts.
-/

namespace PromptContract

/-- What is asked of a provider besides the messages (`GenerationConfig`). Null leaves a parameter
to the provider. -/
structure Generation where
  temperature : Value
  maxOutputTokens : Value
  topP : Value
  topK : Value
  stopSequences : List Value
  extra : Entries

namespace Generation

/-- Nothing is asked. -/
def unset : Generation := ⟨.null, .null, .null, .null, [], []⟩

/-- A parameter that every provider knows. -/
inductive Parameter
  | temperature
  | maxOutputTokens
  | topP
  | topK
  | stopSequences
deriving DecidableEq, Repr

/-- The names of the parameters among the options (`_GENERATION_ALIASES`). -/
def names : List (String × Parameter) :=
  [("temperature", .temperature), ("max_tokens", .maxOutputTokens),
    ("max_output_tokens", .maxOutputTokens), ("top_p", .topP), ("top_k", .topK),
    ("stop", .stopSequences), ("stop_sequences", .stopSequences)]

/-- The parameter that an option sets, if it is none of the extras. -/
def parameter? (key : Value) : Option Parameter :=
  key.comparedText?.bind fun name => names.lookup name

/-- The texts at which a reply stops: one may stand by itself. -/
def stopsOf : Value → Except Failure (List Value)
  | .text s => .ok [.text s]
  | .fieldType t => .ok [.fieldType t]
  | v => if v.truthy then v.items else .ok []

/-- Takes one option over. -/
def set (g : Generation) (key value : Value) : Except Failure Generation :=
  match parameter? key with
  | none => .ok { g with extra := g.extra.put key value }
  | some .temperature => .ok { g with temperature := value }
  | some .maxOutputTokens => .ok { g with maxOutputTokens := value }
  | some .topP => .ok { g with topP := value }
  | some .topK => .ok { g with topK := value }
  | some .stopSequences => do return { g with stopSequences := ← stopsOf value }

/-- Takes options over, one after the other. -/
def ofEntries (es : Entries) : Except Failure Generation :=
  es.foldlM (fun g e => g.set e.1 e.2) unset

/-- Reads options (`GenerationConfig.from_options`), which must be a map unless there are none. -/
def ofOptions (v : Value) : Except Failure Generation := v.mapEntries.bind ofEntries

end Generation

end PromptContract
