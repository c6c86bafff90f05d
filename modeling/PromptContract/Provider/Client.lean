import PromptContract.Provider.Document
import PromptContract.Provider.Sdk
import PromptContract.Provider.Usage
import PromptContract.Settings

/-!
# Clients of providers

A client (`OpenAIClient`, `ClaudeClient`, `GeminiClient`) shapes requests for one provider, reads
its answers, and adds up the usage of the replies that it got (`_track_usage`). What the libraries
of the providers have to be known for is a parameter of its making (`Sdk`), and what the provider
answers to the arguments of a request is one of each call: a document, or the text of a failure. A
call tells what arguments were sent, if any; a request that cannot be shaped is never sent. Only
replies to whole requests count as usage, streams do not.
-/

namespace PromptContract

/-- A client of a provider. -/
structure Client where
  provider : Provider
  model : Value
  key : Value
  /-- The limit on replies of requests that set none, where the provider demands one. -/
  defaultMaxTokens : Value
  /-- Where the provider is reached, if that can be chosen. -/
  address : String
  /-- The extras that Google's library knows. -/
  extras : Request.ExtraNames
  usage : Usage
  requests : Nat

/-- What a provider does with a request. -/
inductive Answer (α : Type)
  | failed (text : String)
  | answered (a : α)

/-- A reply to a whole request (`LLMResponse`). -/
structure Response where
  content : Value
  model : Value
  usage : Usage
  finishReason : Value
  raw : Value

/-- The reasons for which a complete reply ends. -/
def Response.completeReasons : List String := ["stop", "end_turn", "STOP"]

/-- Whether a reply is complete. -/
def Response.success (r : Response) : Bool := completeReasons.any r.finishReason.isText

/-- A streamed reply as far as it came: its pieces, why it broke off if it did, and whether the
provider's stream was closed behind it. -/
structure Streamed where
  pieces : List Value
  failure : Option Failure
  closed : Bool

/-- What a call came to, and the arguments that were sent for it. -/
structure Attempt (α : Type) where
  result : Except Failure α
  sent : Option Request.Arguments

namespace Client

/-- The model of a client that is not told one. -/
def defaultModel : Provider → String
  | .openai => "gpt-3.5-turbo"
  | .anthropic => "claude-3-5-sonnet-20241022"
  | .google => "gemini-1.5-flash"

/-- The names of the arguments that make a client. -/
def arguments : Provider → List String
  | .openai => ["api_key", "model", "base_url"]
  | .anthropic => ["api_key", "model", "default_max_tokens"]
  | .google => ["api_key", "model"]

/-- A client from named arguments. A key that is missing or empty is read from the environment. The
library of the provider makes what it needs, and the name of the model is noted then. -/
def make (sdk : Sdk) (c : Context) (provider : Provider) (es : Entries) :
    Except Failure Client := do
  if !(es.all fun e => (arguments provider).any e.1.isText) then throw .wrongKind
  let key := (es.getD "api_key").orElse (c.env.getD provider.keyVariable .null)
  if !key.truthy then throw (.noKeyFound provider)
  let model := (es.getD "model").orElse (.text (defaultModel provider))
  let address ← (sdk.connect c.env provider key model (es.getD "base_url")).mapError .raised
  if let some found := model.displayObstacle c.reach "model" then throw found.failure
  return {
    provider, key, address, model
    extras := sdk.extras
    defaultMaxTokens := (es.get? "default_max_tokens").getD (.int 4096)
    usage := 0
    requests := 0 }

/-- The arguments of a request. OpenAI is asked for a stream by an argument of its own, which must
not come twice. -/
def request (c : Client) (messages : List Message) (g : Generation) (streaming : Bool) :
    Except Failure Request.Arguments :=
  match c.provider with
  | .openai =>
    let es := Request.openai c.model messages g
    if !streaming then Request.named es
    else if es.has (.text "stream") then .error .wrongKind
    else Request.named ((.text "stream", .bool true) :: es)
  | .anthropic => Request.named (Request.anthropic c.model c.defaultMaxTokens messages g)
  | .google => Request.google c.extras messages g streaming

/-- The usage that an answer of OpenAI states, which may be none. -/
def openaiUsage (document : Value) : Except Failure Usage := do
  let stated ← Document.member document "usage"
  match stated with
  | .null => return 0
  | stated =>
    let prompt ← Document.member stated "prompt_tokens"
    let completion ← Document.member stated "completion_tokens"
    let total ← Document.member stated "total_tokens"
    return ⟨← Document.count prompt, ← Document.count completion, ← Document.count total⟩

/-- The usage that an answer of Anthropic states. -/
def anthropicUsage (document : Value) : Except Failure Usage := do
  let prompt ← Document.path document ["usage", "input_tokens"]
  let completion ← Document.path document ["usage", "output_tokens"]
  return Usage.ofParts (← Document.count prompt) (← Document.count completion)

/-- The usage that an answer of Google states, which may be none. -/
def googleUsage (document : Value) : Except Failure Usage :=
  match (Document.memberIfAny document "usage_metadata").filter Document.holds with
  | none => .ok 0
  | some stated => do
    let prompt ← Document.member stated "prompt_token_count"
    let completion ← Document.member stated "candidates_token_count"
    return Usage.ofParts (← Document.count prompt) (← Document.count completion)

/-- Where an answer came from: the identity and the model that it states. -/
def origin (document : Value) : Except Failure Value := do
  let id ← Document.member document "id"
  let model ← Document.member document "model"
  return .map [(.text "id", Document.passedOn id), (.text "model", Document.passedOn model)]

/-- The choice that an answer of OpenAI makes, if it makes one. -/
def choiceOf (document : Value) : Except Failure Value := do
  let choices ← Document.member document "choices"
  if Document.holds choices then Document.first choices else .ok .null

/-- The text of a choice, or of none. -/
def choiceText (choice : Value) : Except Failure Value := do
  if !Document.holds choice then return .text ""
  return Document.orText (← Document.path choice ["message", "content"]) ""

/-- Why a choice ended, or that of none. -/
def choiceReason (choice : Value) : Except Failure Value := do
  if !Document.holds choice then return .text "stop"
  return Document.orText (← Document.member choice "finish_reason") "stop"

/-- The texts of the parts that have one, joined. -/
def blockTexts (blocks : List Value) : Except Failure String :=
  blocks.foldlM (fun joined block =>
    match Document.memberIfAny block "text" with
    | some v => do return joined ++ (← Document.text v)
    | none => .ok joined) ""

/-- The texts of the parts that have one that is not empty, joined. -/
def partTexts (parts : List Value) : Except Failure String :=
  parts.foldlM (fun joined part =>
    match Document.memberIfAny part "text" with
    | some v => if Document.holds v then do return joined ++ (← Document.text v) else .ok joined
    | none => .ok joined) ""

/-- The candidates of an answer of Google, which may be none. -/
def candidatesOf (document : Value) : Except Failure (List Value) := do
  let stated ← Document.member document "candidates"
  if Document.holds stated then Document.listed stated else .ok []

/-- The text of the first candidate, or of none. -/
def candidateText : List Value → Except Failure String
  | [] => .ok ""
  | candidate :: _ => do
    let parts ← Document.path candidate ["content", "parts"]
    partTexts (← Document.listed parts)

/-- An answer read up to its usage: the text, the usage, and how the rest is read. -/
structure Reading where
  content : Value
  usage : Usage
  rest : Except Failure (Value × Value)

/-- Reads an answer: its text and usage first, then why it ended and where it came from. -/
def read (provider : Provider) (document : Value) : Except Failure Reading :=
  match provider with
  | .openai => do
    let choice ← choiceOf document
    let content ← choiceText choice
    let usage ← openaiUsage document
    return ⟨content, usage, do return (← choiceReason choice, ← origin document)⟩
  | .anthropic => do
    let content ← blockTexts (← Document.listed (← Document.member document "content"))
    let usage ← anthropicUsage document
    return ⟨.text content, usage, do
      let reason ← Document.member document "stop_reason"
      return (Document.orText reason "stop", ← origin document)⟩
  | .google => do
    let candidates ← candidatesOf document
    let content ← candidateText candidates
    let usage ← googleUsage document
    let raw := .map [(.text "candidates", .int candidates.length)]
    return ⟨.text content, usage, .ok (.text "stop", raw)⟩

/-- Adds the usage of a reply (`_track_usage`). -/
def track (c : Client) (u : Usage) : Client :=
  { c with usage := c.usage + u, requests := c.requests + 1 }

/-- Sends a request and reads the reply (`generate`). What the reply has used counts as soon as it
is read. The total is noted then, which fails for one that is too long to be written, and the rest
comes last. -/
def generate (c : Client) (messages : List Message) (g : Generation)
    (answer : Request.Arguments → Answer Value) : Attempt Response × Client :=
  match c.request messages g false with
  | .error e => (⟨.error e, none⟩, c)
  | .ok sent =>
    match answer sent with
    | .failed text => (⟨.error (.callFailed text), some sent⟩, c)
    | .answered document =>
      match read c.provider document with
      | .error e => (⟨.error e, some sent⟩, c)
      | .ok r =>
        let rest := if r.usage.total.toValue.isWritable then r.rest else .error .unreadable
        let response := rest.map fun (finishReason, raw) =>
          { content := r.content, model := c.model, usage := r.usage, finishReason, raw }
        (⟨response, some sent⟩, c.track r.usage)

/-- The text that a piece of a stream brings, if it brings one. -/
def pieceText (provider : Provider) (piece : Value) : Except Failure (Option Value) :=
  match provider with
  | .openai => do
    let choices ← Document.member piece "choices"
    if !Document.holds choices then return none
    let text ← Document.path (← Document.first choices) ["delta", "content"]
    return if Document.holds text then some (Document.passedOn text) else none
  | .anthropic => .ok (some (Document.passedOn piece))
  | .google => do
    let text ← Document.member piece "text"
    return if Document.holds text then some (Document.passedOn text) else none

/-- The texts that the pieces of a stream bring, up to the first piece that cannot be read. -/
def pieceTexts (provider : Provider) : List Value → List Value × Option Failure
  | [] => ([], none)
  | piece :: pieces =>
    match pieceText provider piece with
    | .error e => ([], some e)
    | .ok text =>
      let (texts, failure) := pieceTexts provider pieces
      (text.toList ++ texts, failure)

/-- Sends a request for a stream and reads the pieces (`generate_stream`). -/
def stream (c : Client) (messages : List Message) (g : Generation)
    (answer : Request.Arguments → Answer (List Value)) : Attempt Streamed :=
  match c.request messages g true with
  | .error e => ⟨.error e, none⟩
  | .ok sent =>
    match answer sent with
    | .failed text => ⟨.error (.callFailed text), some sent⟩
    | .answered pieces =>
      let (texts, failure) := pieceTexts c.provider pieces
      ⟨.ok ⟨texts, failure, c.provider != .google⟩, some sent⟩

/-- Starts over with counting (`reset_usage`); the usage so far is told. -/
def resetUsage (c : Client) : Usage × Client := (c.usage, { c with usage := 0, requests := 0 })

end Client

end PromptContract
