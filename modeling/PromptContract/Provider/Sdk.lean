import PromptContract.Provider.Request
import PromptContract.Settings

/-!
# Libraries of providers

Behind a client stands a library that its provider offers. Two things have to be known of the three
libraries: whether what a client needs can be made from its arguments, and the names of the extras
that Google's knows. `Sdk` gives both, whatever they are.
-/

namespace PromptContract

/-- What is known of the libraries of the providers. -/
structure Sdk where
  /-- Makes what a client needs, and tells where the provider is reached (`AsyncOpenAI`,
  `AsyncAnthropic`, `GenerativeModel`). What is looked at are the environment, the key, the name of
  the model, and the address if one is chosen. A failure is known by its kind. -/
  connect : Environment → Provider → (key model address : Value) → Except String String
  /-- The extras that Google's library knows (`genai.types.GenerationConfig`). -/
  extras : Request.ExtraNames

end PromptContract
