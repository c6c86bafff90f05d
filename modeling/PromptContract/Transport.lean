import PromptContract.Generation
import PromptContract.Provider.Message

/-!
# Transports

A transport has a model reply to a call (`BaseLLMClient`): as a whole (`generate`), or piece by
piece with the time that passes before each piece (`generate_stream`). Whoever stands behind a
transport may remember something between calls, which is the state `σ`; `Transport.recording`
remembers the calls themselves.
-/

namespace PromptContract

/-- What is sent to a model. -/
structure ModelCall where
  messages : List Message
  generation : Generation

/-- A way to have a model reply to a call as a whole. -/
abbrev Transport (σ : Type) := ModelCall → σ → Except Failure (List Char) × σ

/-- A streamed reply: the pieces with the time that passes before each, and perhaps a failure with
the time that passes before it. -/
structure TimedReply where
  pieces : List (Rat × List Char)
  failure : Option (Rat × Failure)

/-- A way to have a model reply to a call piece by piece. -/
abbrev StreamTransport (σ : Type) := ModelCall → σ → TimedReply × σ

/-- A transport that replies the same to every call, and remembers the calls. -/
def Transport.recording (reply : Except Failure (List Char)) : Transport (List ModelCall) :=
  fun call calls => (reply, calls ++ [call])

/-- A streaming transport that replies the same to every call, and remembers the calls. -/
def StreamTransport.recording (reply : TimedReply) : StreamTransport (List ModelCall) :=
  fun call calls => (reply, calls ++ [call])

end PromptContract
