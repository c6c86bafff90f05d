import PromptContract.Provider.Client
import PromptContract.Text.Case

/-!
# Routing by model name

The first word of a model's name says which provider runs it (`provider_for`); what no provider
claims goes to OpenAI, or to a service that speaks its protocol. Routing ends with a client
(`resolve_client`), for which a key is needed: the caller's, else the one in the settings.
-/

namespace PromptContract.Routing

/-- The words that claim a model for a provider (`PROVIDER_ROUTING`); the first that fits counts. -/
def claims : List (List Char × Provider) :=
  [("claude".toList, .anthropic), ("gemini".toList, .google)]

/-- The provider of a model, whatever the case of its name. -/
def providerOf (model : String) : Provider :=
  let name := Text.lower model.toList
  ((claims.find? fun claim => claim.1.isPrefixOf name).map (·.2)).getD .openai

/-- The provider of a model whose name must be a text. -/
def providerOfValue (model : Value) : Except Failure Provider :=
  match model.comparedText? with
  | some name => .ok (providerOf name)
  | none => .error (model.notOf [.str, .bytes])

/-- The arguments that the settings give to the client of a provider. -/
def argumentsFor (s : Settings) : Provider → Except Failure Entries
  | .openai => do return [(.text "base_url", (← s.modelPart).openaiBaseUrl)]
  | .anthropic => do return [(.text "default_max_tokens", (← s.modelPart).maxOutputTokens)]
  | .google => .ok []

/-- The client for a model under settings, of which only those that are needed are read. -/
def clientUnder (sdk : Sdk) (c : Context) (s : Settings) (model key : Value) :
    Except Failure Client := do
  let provider ← providerOfValue model
  let key ← if key.truthy then pure key else s.keyFor provider
  if !key.truthy then throw (.noKeyConfigured provider model)
  let more ← argumentsFor s provider
  Client.make sdk c provider ((.text "api_key", key) :: (.text "model", model) :: more)

/-- The client for a model, under the given settings or the shared ones. -/
def client (sdk : Sdk) (c : Context) (model key : Value) (settings : Option Settings) :
    Except Failure Client × Context :=
  match c.settingsOr settings with
  | (.error e, c) => (.error e, c)
  | (.ok s, c) => (clientUnder sdk c s model key, c)

end PromptContract.Routing
