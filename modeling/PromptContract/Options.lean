import PromptContract.Settings

/-!
# Options of a call

A caller's options are a map with four entries of a meaning of their own; all others are passed on
to the provider, in their order. What is missing or null is filled from the settings. The window
between updates must be an integer that is not negative; everything that an integer can be read from
is accepted.
-/

namespace PromptContract

/-- The options of one call (`PredictOptions`). -/
abbrev Options := OptionsOf Value

namespace Options

/-- The entries with a meaning of their own (`_RECOGNIZED_KEYS`). -/
def ownNames : List String := ["model", "validate", "debounce_ms", "api_key"]

/-- The names of the members of resolved options. -/
def members : List String := ["model", "validate", "debounce_ms", "api_key", "provider_options"]

/-- Options from a map of named members, of which only the model is needed. -/
def ofArguments (es : Entries) : Except Failure Options :=
  if es.all fun e => members.any e.1.isText then
    match es.get? "model" with
    | some model => .ok {
        model
        validate := (es.get? "validate").getD (.bool true)
        debounceMs := (es.get? "debounce_ms").getD (.int 100)
        apiKey := es.getD "api_key"
        providerOptions := (es.get? "provider_options").getD (.map []) }
    | none => .error .wrongKind
  else .error .wrongKind

/-- The place where the writing of a value that is refused as a window starts. -/
def windowPlace : String := "debounce_ms"

/-- Why a value is refused as a window. A value that cannot be written cannot be named, and that is
then what goes wrong. -/
def refusal (reach : Reach) (v : Value) (why : Failure) : Failure :=
  (v.obstacle reach [windowPlace]).elim why Obstacle.failure

/-- The window in milliseconds that a value asks for. -/
def debounceOf (reach : Reach) (v : Value) : Except Failure Int :=
  match v.toInteger with
  | .ok n => if n < 0 then .error (refusal reach (.int n) (.debounceNegative n)) else .ok n
  | .error .wrongKind | .error .unreadable => .error (refusal reach v (.debounceNotInteger v))
  | .error e => .error e

/-- Fills a caller's options from settings, of which only those that are needed are read. -/
def fill (reach : Reach) (es : Entries) (s : Settings) : Except Failure Options := do
  let debounce ← match (es.getD "debounce_ms").present? with
    | some v => debounceOf reach v
    | none => do debounceOf reach (← s.streamingPart).debounceMs
  let model ← if (es.getD "model").truthy then pure (es.getD "model")
    else do pure (← s.modelPart).defaultModel
  return {
    model
    validate := .bool (((es.getD "validate").present?).getD s.validateByDefault).truthy
    debounceMs := .int debounce
    apiKey := es.getD "api_key"
    providerOptions := .map (es.filter fun e => !ownNames.any e.1.isText) }

/-- The options of a call (`PredictOptions.from_mapping`): options that are resolved already stay as
they are. -/
def resolve (c : Context) (given : Value) (settings : Option Settings) :
    Except Failure Options × Context :=
  match given with
  | .options o => (.ok o, c)
  | given =>
    match c.settingsOr settings with
    | (.error e, c) => (.error e, c)
    | (.ok s, c) => (given.entries.bind fun es => fill c.reach es s, c)

end Options

end PromptContract
