import PromptContract.Provider.Client
import PromptContract.Transport

/-!
# Connections

A connection is a client in use, with the arguments of the requests that it has sent. It serves as a
transport (`generate`, `generate_stream`) once it is known what the provider answers. A streamed
reply comes at once: the pieces stand in order, and time plays no part.
-/

namespace PromptContract

/-- A client with the arguments of the requests that it has sent. -/
structure Connection where
  client : Client
  sent : List Request.Arguments

namespace Connection

/-- A client that has sent nothing. -/
def ofClient (client : Client) : Connection := ⟨client, []⟩

/-- Adds a request that was sent, if one was. -/
def record (c : Connection) (sent : Option Request.Arguments) : Connection :=
  { c with sent := c.sent ++ sent.toList }

/-- The transport that a client is, if the provider answers as told. The reply must be a text. -/
def transport (answer : Request.Arguments → Answer Value) : Transport Connection := fun call c =>
  let (attempt, client) := c.client.generate call.messages call.generation answer
  (attempt.result.bind fun r => (Document.text r.content).map String.toList,
    { c with client }.record attempt.sent)

/-- The pieces of a stream up to the first that is no text. -/
def textsOf : List Value → List (List Char) × Option Failure
  | [] => ([], none)
  | v :: vs =>
    match Document.text v with
    | .error e => ([], some e)
    | .ok s =>
      let (texts, failure) := textsOf vs
      (s.toList :: texts, failure)

/-- A streamed reply of which everything comes at once. -/
def atOnce (pieces : List (List Char)) (failure : Option Failure) : TimedReply :=
  ⟨pieces.map fun text => (0, text), failure.map fun e => (0, e)⟩

/-- The streaming transport that a client is, if the provider answers as told. -/
def streamTransport (answer : Request.Arguments → Answer (List Value)) :
    StreamTransport Connection :=
  fun call c =>
    let attempt := c.client.stream call.messages call.generation answer
    let reply := match attempt.result with
      | .error e => atOnce [] (some e)
      | .ok s =>
        let (texts, failure) := textsOf s.pieces
        atOnce texts (failure.or s.failure)
    (reply, c.record attempt.sent)

end Connection

end PromptContract
