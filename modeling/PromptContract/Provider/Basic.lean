/-!
# Providers of models

The three services that models are reached through, and what each is called in configuration.
-/

namespace PromptContract

/-- A service that runs models (`LLMProvider`). -/
inductive Provider
  | openai
  | anthropic
  | google
deriving DecidableEq, Repr

namespace Provider

/-- The name of a provider. -/
def name : Provider → String
  | .openai => "openai"
  | .anthropic => "anthropic"
  | .google => "google"

/-- The environment variable that holds the key for a provider (`_KEY_ENV_VARS`). -/
def keyVariable : Provider → String
  | .openai => "OPENAI_API_KEY"
  | .anthropic => "ANTHROPIC_API_KEY"
  | .google => "GOOGLE_API_KEY"

/-- The provider of a given name. -/
def ofName? (s : String) : Option Provider :=
  [openai, anthropic, google].find? fun p => p.name == s

/-- A provider is found again by its name. -/
theorem ofName?_name (p : Provider) : ofName? p.name = some p := by cases p <;> rfl

end Provider

end PromptContract
