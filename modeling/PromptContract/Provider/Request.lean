import PromptContract.Generation
import PromptContract.Provider.Message

/-!
# Shaping requests

Each provider takes messages and parameters in its own form: named arguments that are sent with the
call (`_request_kwargs`, `_convert_messages`, `_generation_config`). Parameters that are not set are
left out. OpenAI and Anthropic take every extra option as an argument, which replaces an argument of
that name; Google's library knows the names of a few extras, which are given (`ExtraNames`), and
refuses all others.
-/

namespace PromptContract.Request

/-- The named arguments of a call. -/
abbrev Arguments := Entries

/-- An argument unless its value is null. -/
def unlessNull (name : String) : Value → Arguments
  | .null => []
  | v => [(.text name, v)]

/-- An argument if its value counts as true. -/
def ifTruthy (name : String) (v : Value) : Arguments := if v.truthy then [(.text name, v)] else []

/-- Puts extras among arguments. -/
def withExtras (arguments extra : Arguments) : Arguments :=
  extra.foldl (fun es e => es.put e.1 e.2) arguments

/-- Arguments need texts as names. -/
def named (arguments : Arguments) : Except Failure Arguments :=
  if arguments.all fun e => e.1.comparedText?.isSome then .ok arguments else .error .wrongKind

/-- The arguments for OpenAI, which takes every message in the list. -/
def openai (model : Value) (messages : List Message) (g : Generation) : Arguments :=
  withExtras
    ([(.text "model", model), (.text "messages", .list (messages.map Message.toValue))]
      ++ unlessNull "temperature" g.temperature ++ unlessNull "max_tokens" g.maxOutputTokens
      ++ unlessNull "top_p" g.topP ++ ifTruthy "stop" (.list g.stopSequences))
    g.extra

/-- The last message of the system, if there is one. -/
def systemText (messages : List Message) : Value :=
  match (messages.filter fun m => m.role == "system").getLast? with
  | some m => .text m.content
  | none => .null

/-- The arguments for Anthropic, which takes the system's text apart from the list and demands a
limit on the reply. -/
def anthropic (model defaultMaxTokens : Value) (messages : List Message) (g : Generation) :
    Arguments :=
  withExtras
    ([(.text "model", model), (.text "max_tokens", g.maxOutputTokens.orElse defaultMaxTokens),
        (.text "messages",
          .list ((messages.filter fun m => m.role != "system").map Message.toValue))]
      ++ ifTruthy "system" (systemText messages) ++ unlessNull "temperature" g.temperature
      ++ unlessNull "top_p" g.topP ++ unlessNull "top_k" g.topK
      ++ ifTruthy "stop_sequences" (.list g.stopSequences))
    g.extra

/-- One entry of the list that Google takes. -/
def part (role content : String) : Value :=
  .map [(.text "role", .text role), (.text "parts", .list [.text content])]

/-- The entries of the list that Google takes (`_convert_messages`). The system's text is put in
front of the next message of the user, of several texts the last; messages of other roles are left
out. -/
def contents (waiting : String) : List Message → List Value
  | [] => []
  | m :: rest =>
    if m.role == "system" then contents (m.content ++ "\n\n") rest
    else if m.role == "user" then part "user" (waiting ++ m.content) :: contents "" rest
    else if m.role == "assistant" then part "model" m.content :: contents waiting rest
    else contents waiting rest

/-- The names of the arguments for Google besides those of extras. -/
def googleNames : List String :=
  ["contents", "stream", "temperature", "max_output_tokens", "top_p", "top_k", "stop_sequences"]

/-- The names of the extras that Google's library knows, none of which is that of another argument.
-/
structure ExtraNames where
  names : List String
  apart : ∀ name ∈ names, name ∉ googleNames

/-- The arguments for Google. -/
def google (known : ExtraNames) (messages : List Message) (g : Generation) (streaming : Bool) :
    Except Failure Arguments :=
  if g.extra.all fun e => known.names.any e.1.isText then
    .ok ([(.text "contents", .list (contents "" messages))]
      ++ unlessNull "temperature" g.temperature
      ++ unlessNull "max_output_tokens" g.maxOutputTokens ++ unlessNull "top_p" g.topP
      ++ unlessNull "top_k" g.topK ++ ifTruthy "stop_sequences" (.list g.stopSequences)
      ++ g.extra.present ++ (if streaming then [(.text "stream", .bool true)] else []))
  else .error .wrongKind

end PromptContract.Request
