import PromptContract.Text.Case
import PromptContract.Text.Split
import PromptContract.Value.Conversion
import PromptContract.Value.Writing

/-!
# Settings

Settings are the defaults of every call: about models their name and the keys of the providers,
about streaming the window between updates and the room for pieces that wait, and whether value maps
are validated. They are given by arguments, over which the environment wins, and may be changed one
by one later (`Settings.assign`); what a setting holds is looked at only where it is used.
`Settings.issues` names those that cannot work.

A `Context` is the environment with the settings that all calls share, and how far values can be
written. The shared settings are read from the environment when they are first needed
(`get_config`), and then stay until they are replaced.
-/

namespace PromptContract

/-- The environment variables that are set. -/
abbrev Environment := List (String × String)

namespace Environment

/-- The text of a variable, if it is set. -/
def get? (env : Environment) (name : String) : Option String := env.lookup name

/-- The text of a variable, else another value. -/
def getD (env : Environment) (name : String) (v : Value) : Value :=
  ((env.get? name).map Value.text).getD v

end Environment

/-- The settings about models (`LLMConfig`). -/
structure ModelSettings where
  defaultModel : Value
  openaiKey : Value
  openaiBaseUrl : Value
  anthropicKey : Value
  googleKey : Value
  maxOutputTokens : Value
  /-- Whether the operation that looks up keys is still there: a value may have been put in its
  place. -/
  findsKeys : Bool

/-- The settings about streaming (`StreamingConfig`). -/
structure StreamingSettings where
  debounceMs : Value
  queueSize : Value

/-- The defaults of every call (`PromptsigConfig`). A part in the place of which a value was put has
no settings any more. -/
structure Settings where
  models : Option ModelSettings
  streaming : Option StreamingSettings
  validateByDefault : Value
  /-- Whether the operation that looks for settings that cannot work is still there. -/
  findsIssues : Bool

namespace Settings

/-- The words that turn validation off, in lower case. -/
def offWords : List (List Char) := ["0".toList, "false".toList, "no".toList, "off".toList]

/-- Whether a text turns a setting off: blanks around it and its case do not matter. -/
def turnsOff (s : String) : Bool := offWords.contains (Text.lower (Text.trim s.toList))

/-- The names of the arguments about models. -/
def modelArguments : List String :=
  ["default_model", "openai_api_key", "openai_base_url", "anthropic_api_key", "google_api_key",
    "max_output_tokens"]

/-- The names of the arguments about streaming. -/
def streamingArguments : List String := ["debounce_ms", "queue_size"]

/-- Whether all keys of a map are among the names of arguments. -/
def onlyNames (names : List String) (es : Entries) : Bool := es.all fun e => names.any e.1.isText

/-- Settings from arguments about models and streaming, and perhaps one about validation. The
environment wins over the arguments. -/
def make (env : Environment) (models streaming : Entries) (validate : Option Value) :
    Except Failure Settings := do
  if !onlyNames modelArguments models || !onlyNames streamingArguments streaming then
    throw .wrongKind
  let debounce ← Value.toInteger
    (env.getD "PROMPTSIG_DEBOUNCE_MS" ((streaming.get? "debounce_ms").getD (.int 100)))
  return {
    models := some {
      defaultModel := env.getD "PROMPTSIG_MODEL"
        ((models.get? "default_model").getD (.text "gpt-3.5-turbo"))
      openaiKey := env.getD "OPENAI_API_KEY" (models.getD "openai_api_key")
      openaiBaseUrl := env.getD "OPENAI_BASE_URL" (models.getD "openai_base_url")
      anthropicKey := env.getD "ANTHROPIC_API_KEY" (models.getD "anthropic_api_key")
      googleKey := env.getD "GOOGLE_API_KEY" (models.getD "google_api_key")
      maxOutputTokens := (models.get? "max_output_tokens").getD (.int 4096)
      findsKeys := true }
    streaming := some {
      debounceMs := .int debounce
      queueSize := (streaming.get? "queue_size").getD (.int 256) }
    validateByDefault :=
      match env.get? "PROMPTSIG_VALIDATE" with
      | some flag => .bool !turnsOff flag
      | none => validate.getD (.bool true)
    findsIssues := true }

/-- The settings that the environment gives (`PromptsigConfig.from_env`). -/
def ofEnvironment (env : Environment) : Except Failure Settings := make env [] [] none

end Settings

/-- The settings about models that a map of members holds. Settings that it lacks have their
defaults. -/
def ModelSettings.ofMembers (es : Entries) : ModelSettings where
  defaultModel := (es.get? "default_model").getD (.text "gpt-3.5-turbo")
  openaiKey := es.getD "openai_api_key"
  openaiBaseUrl := es.getD "openai_base_url"
  anthropicKey := es.getD "anthropic_api_key"
  googleKey := es.getD "google_api_key"
  maxOutputTokens := (es.get? "max_output_tokens").getD (.int 4096)
  findsKeys := (es.get? "api_key_for").isNone

/-- The settings about streaming that a map of members holds. -/
def StreamingSettings.ofMembers (es : Entries) : StreamingSettings where
  debounceMs := (es.get? "debounce_ms").getD (.int 100)
  queueSize := (es.get? "queue_size").getD (.int 256)

/-- Changes one setting about models. A name of no setting changes nothing that is ever read. -/
def ModelSettings.assign (m : ModelSettings) (name : String) (v : Value) : ModelSettings :=
  match name with
  | "default_model" => { m with defaultModel := v }
  | "openai_api_key" => { m with openaiKey := v }
  | "openai_base_url" => { m with openaiBaseUrl := v }
  | "anthropic_api_key" => { m with anthropicKey := v }
  | "google_api_key" => { m with googleKey := v }
  | "max_output_tokens" => { m with maxOutputTokens := v }
  | "api_key_for" => { m with findsKeys := false }
  | _ => m

/-- Changes one setting about streaming. -/
def StreamingSettings.assign (s : StreamingSettings) (name : String) (v : Value) :
    StreamingSettings :=
  match name with
  | "debounce_ms" => { s with debounceMs := v }
  | "queue_size" => { s with queueSize := v }
  | _ => s

/-- What a step of a path to a setting leads to. -/
inductive SettingPlace
  | settings
  | models
  | streaming
  /-- A value without settings. -/
  | plain
  /-- The type of the settings or of a part of them, whose members do not matter. -/
  | ownType
  /-- A type that takes no members. -/
  | fixedType

namespace SettingPlace

/-- The name under which a value has its type. -/
def typeName : String := "__class__"

/-- The name under which the settings and their parts have the map of their members. -/
def membersName : String := "__dict__"

/-- The names of members that can only be read. -/
def readOnlyNames : List String := ["__weakref__"]

/-- The names of members of types that can only be read. -/
def readOnlyTypeNames : List String :=
  ["__base__", "__basicsize__", "__dict__", "__dictoffset__", "__flags__", "__itemsize__",
    "__mro__", "__text_signature__", "__weakrefoffset__"]

/-- The names of members of types that must be texts. -/
def typeTextNames : List String := ["__name__", "__qualname__"]

/-- The names of members of types that no plain value fits. -/
def typeMemberNames : List String := ["__bases__", typeName]

end SettingPlace

namespace Settings

/-- The settings about models. -/
def modelPart (s : Settings) : Except Failure ModelSettings :=
  match s.models with
  | some m => .ok m
  | none => .error .missingMember

/-- The settings about streaming. -/
def streamingPart (s : Settings) : Except Failure StreamingSettings :=
  match s.streaming with
  | some m => .ok m
  | none => .error .missingMember

/-- Takes a step to the member of a name. Where there is none of the name, or none that has members
of its own, no setting can be reached. -/
def step (s : Settings) (place : SettingPlace) (name : String) : Except Failure SettingPlace :=
  match place, name with
  | .settings, "llm" => .ok (if s.models.isSome then .models else .plain)
  | .settings, "streaming" => .ok (if s.streaming.isSome then .streaming else .plain)
  | .settings, "validate_by_default" => .ok .plain
  | place, name =>
    if name == SettingPlace.typeName then
      match place with
      | .settings | .models | .streaming => .ok .ownType
      | .plain | .ownType | .fixedType => .ok .fixedType
    else match place with
      | .models => if modelArguments.contains name then .ok .plain else .error .missingMember
      | .streaming => if streamingArguments.contains name then .ok .plain else .error .missingMember
      | _ => .error .missingMember

/-- Puts a value in the place of a member of the settings or of a part of them. -/
def putMember (s : Settings) (place : SettingPlace) (name : String) (v : Value) : Settings :=
  match place, name with
  | .settings, "llm" => { s with models := none }
  | .settings, "streaming" => { s with streaming := none }
  | .settings, "validate_by_default" => { s with validateByDefault := v }
  | .settings, "validate" => { s with findsIssues := false }
  | .models, name => { s with models := s.models.map (·.assign name v) }
  | .streaming, name => { s with streaming := s.streaming.map (·.assign name v) }
  | _, _ => s

/-- Puts a map in the place of all members of the settings or of a part of them. -/
def putMembers (s : Settings) (place : SettingPlace) (es : Entries) : Settings :=
  match place with
  | .settings => {
      models := none
      streaming := none
      validateByDefault := (es.get? "validate_by_default").getD (.bool true)
      findsIssues := (es.get? "validate").isNone }
  | .models => { s with models := some (.ofMembers es) }
  | .streaming => { s with streaming := some (.ofMembers es) }
  | _ => s

/-- Puts a value in the place of the member of a name. The type of the settings cannot be replaced,
and their members only by a map. -/
def put (s : Settings) (place : SettingPlace) (name : String) (v : Value) :
    Except Failure Settings :=
  match place with
  | .plain => .error .missingMember
  | .fixedType => .error .wrongKind
  | .ownType =>
    if SettingPlace.readOnlyTypeNames.contains name then .error .missingMember
    else if SettingPlace.typeMemberNames.contains name then .error .wrongKind
    else if SettingPlace.typeTextNames.contains name && v.comparedText?.isNone then
      .error .wrongKind
    else .ok s
  | place =>
    if name == SettingPlace.typeName then .error .wrongKind
    else if SettingPlace.readOnlyNames.contains name then .error .missingMember
    else if name == SettingPlace.membersName then
      match v with
      | .map es => .ok (s.putMembers place es)
      | _ => .error .wrongKind
    else .ok (s.putMember place name v)

/-- Changes one setting, named by the path to it, or puts a plain value in the place of a part. -/
def assign (s : Settings) (path : String) (v : Value) : Except Failure Settings := do
  let names := Text.splitOn (· == '.') path.toList |>.map String.ofList
  let place ← names.dropLast.foldlM s.step .settings
  s.put place (names.getLastD "") v

/-- The key for a provider (`api_key_for`). -/
def keyFor (s : Settings) (p : Provider) : Except Failure Value := do
  let m ← s.modelPart
  if !m.findsKeys then throw .wrongKind
  return match p with
    | .openai => m.openaiKey
    | .anthropic => m.anthropicKey
    | .google => m.googleKey

/-- A note if a condition holds. -/
def noteIf (holds : Bool) (note : String) : List String := if holds then [note] else []

/-- The settings that cannot work (`PromptsigConfig.validate`). -/
def issues (s : Settings) : Except Failure (List String) := do
  if !s.findsIssues then throw .wrongKind
  let streaming ← s.streamingPart
  let negative ← streaming.debounceMs.isBelow 0
  let noRoom ← streaming.queueSize.isBelow 1
  let models ← s.modelPart
  return noteIf negative "PROMPTSIG_DEBOUNCE_MS must not be negative"
    ++ noteIf noRoom "streaming queue_size must be at least 1"
    ++ noteIf (!models.defaultModel.truthy) "PROMPTSIG_MODEL is empty"

end Settings

/-- The environment, the settings that all calls share, and how far values can be written. -/
structure Context where
  env : Environment
  shared : Option Settings
  reach : Reach

/-- A context in which no settings have been read yet, and everything can be written. -/
def Context.ofEnvironment (env : Environment) : Context := ⟨env, none, .unlimited⟩

/-- The shared settings, which are read from the environment if there are none yet. -/
def Context.settings (c : Context) : Except Failure Settings × Context :=
  match c.shared with
  | some s => (.ok s, c)
  | none =>
    match Settings.ofEnvironment c.env with
    | .ok s => (.ok s, { c with shared := some s })
    | .error e => (.error e, c)

/-- How far values can be written stays as it is. -/
@[simp] theorem Context.reach_settings (c : Context) : c.settings.2.reach = c.reach := by
  unfold settings
  cases c.shared with
  | some s => rfl
  | none => dsimp only; cases Settings.ofEnvironment c.env <;> rfl

/-- The given settings, else the shared ones. -/
def Context.settingsOr (c : Context) (given : Option Settings) :
    Except Failure Settings × Context :=
  match given with
  | some s => (.ok s, c)
  | none => c.settings

/-- So it does where settings are given. -/
@[simp] theorem Context.reach_settingsOr (c : Context) (given : Option Settings) :
    (c.settingsOr given).2.reach = c.reach := by
  cases given with
  | some s => rfl
  | none => exact c.reach_settings

end PromptContract
