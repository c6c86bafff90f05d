import PromptContract.Delivery
import PromptContract.Libraries
import PromptContract.Options
import PromptContract.Prompt
import PromptContract.Provider.Connection
import PromptContract.Provider.Routing
import PromptContract.Window

/-!
# Predictions

A prediction states a contract in a prompt, has a model reply, and reads the reply into an output
map (`predict`, `predict_stream`). What can be wrong with the call is found before anything is sent
(`_prepare`): the contract, the options, the input values, the prompt, the choice of a client, and
the parameters of the model. Then exactly one call is made, with one message of the user that holds
the prompt. The output map of a whole reply is checked once; of a streamed one only the final map
is.

What libraries find in values and make of the arguments of clients is given (`Libraries`). The
transport is the caller's, or the one that `connect` makes of the client that the model's name leads
to. A transport's state is threaded through: it changes by the one call, or not at all.
-/

namespace PromptContract

open Reply

namespace Prediction

/-- What is settled before a transport of type `τ` comes into play, and the transport itself. -/
structure Prepared (τ : Type) where
  contract : Contract
  options : Options
  messages : List Message
  transport : τ

/-- The input values of a call, checked if the options ask for it; the check may change them on the
way. -/
def inputsOf (libs : Libraries) (contract : Contract) (options : Options) (inputs : Value) :
    Except Failure Entries := do
  let values ← inputs.entries
  if options.validate.truthy then
    (← Validation.check libs.checker contract .input (.map values)).entries
  else return values

/-- The messages of a call: one of the user, which holds the prompt. -/
def messagesOf (reach : Reach) (contract : Contract) (values : Entries) :
    Except Failure (List Message) := do
  return [Message.user (String.ofList (← Prompt.written reach contract values))]

/-- The caller's transport, else that of the client for the model. -/
def transportFor {τ : Type} (libs : Libraries) (c : Context) (options : Options)
    (given : Option τ) (connect : Client → τ) : Except Failure τ × Context :=
  match given with
  | some transport => (.ok transport, c)
  | none =>
    let (client, c) := Routing.client libs.sdk c options.model options.apiKey none
    (client.map connect, c)

/-- Settles everything about a call but the parameters of the model (`_prepare`). -/
def prepare {τ : Type} (libs : Libraries) (c : Context) (contract inputs options : Value)
    (given : Option τ) (connect : Client → τ) : Except Failure (Prepared τ) × Context :=
  match Contract.ofValue contract with
  | .error e => (.error e, c)
  | .ok contract =>
    match Options.resolve c options none with
    | (.error e, c) => (.error e, c)
    | (.ok options, c) =>
      match inputsOf libs contract options inputs with
      | .error e => (.error e, c)
      | .ok values =>
        match messagesOf c.reach contract values with
        | .error e => (.error e, c)
        | .ok messages =>
          let (transport, c) := transportFor libs c options given connect
          (transport.map fun transport => ⟨contract, options, messages, transport⟩, c)

/-- An output map, checked if the options ask for it; the check may change it on the way. -/
def checkOutputs {τ : Type} (libs : Libraries) (p : Prepared τ) (m : Outputs) :
    Except Failure Entries := do
  if p.options.validate.truthy then
    (← Validation.check libs.checker p.contract .output (.map m.toEntries)).entries
  else return m.toEntries

/-- The output map of a reply. -/
def conclude {τ : Type} (libs : Libraries) (p : Prepared τ) (reply : List Char) :
    Except Failure Entries := do
  checkOutputs libs p (← parse reply p.contract.outputs)

/-- What a call came to, with the transport's state and the shared settings behind it. -/
structure Outcome (σ α : Type) where
  result : α
  state : σ
  context : Context

variable {σ : Type}

/-- Has a model reply once, and reads the reply (`predict`). -/
def once (libs : Libraries) (c : Context) (contract inputs options : Value)
    (given : Option (Transport σ)) (connect : Client → Transport σ) (s : σ) :
    Outcome σ (Except Failure Entries) :=
  match prepare libs c contract inputs options given connect with
  | (.error e, c) => ⟨.error e, s, c⟩
  | (.ok p, c) =>
    match Generation.ofOptions p.options.providerOptions with
    | .error e => ⟨.error e, s, c⟩
    | .ok generation =>
      let (reply, s) := p.transport ⟨p.messages, generation⟩ s
      ⟨reply.bind (conclude libs p), s, c⟩

/-- How many pieces may wait, by a setting (`maxsize`): no limit where it is not positive, and with
a fraction one more than without it. It must be a number, to which the pieces that wait can be
compared. -/
def roomOf (v : Value) : Except Failure (Option Nat) :=
  match v.number? with
  | some (.int n) => .ok (if 0 < n then some n.toNat else none)
  | some (.float (.finite false units)) =>
    .ok (if 0 < units then some ((units + Binary64.one - 1) / Binary64.one) else none)
  | some (.float _) => .ok none
  | none => .error .wrongKind

/-- The times at which delays end that follow one another. -/
def arrivals (start : Rat) : List Rat → List Span
  | [] => []
  | delay :: delays => .finite (start + delay) :: arrivals (start + delay) delays

/-- What a streamed call came to: the maps that were shown, and how it ended if it did. -/
structure Shown where
  updates : List Entries
  result : Option (Except Failure Unit)

/-- A streamed call that failed before anything was shown. -/
def Shown.failed (e : Failure) : Shown := ⟨[], some (.error e)⟩

/-- Delivers a reply to a prepared call (`_pump` and its receiver), until the receiver has seen
enough. -/
def deliver {τ : Type} (libs : Libraries) (p : Prepared τ) (window : Span) (room : Option Nat)
    (reply : TimedReply) (wanted : Option Nat) : Delivery Span :=
  let d := Delivery.start (reply.pieces.map (·.2)) (reply.failure.map (·.2)) room
    (Session.start p.contract.outputs window)
  let delays := reply.pieces.map (·.1) ++ [(reply.failure.map (·.1)).getD 0]
  d.runTimed (checkOutputs libs p) wanted (arrivals 0 delays)

/-- What a reply to a prepared call shows. Where the setting for the pieces that may wait is no
number the pump fails with the first piece, and so it does with its failure: nothing ever comes to
the receiver, who waits on. -/
def shownOf {τ : Type} (libs : Libraries) (p : Prepared τ) (window : Span) (queueSize : Value)
    (reply : TimedReply) (wanted : Option Nat) : Shown :=
  match roomOf queueSize with
  | .error _ => ⟨[], none⟩
  | .ok room =>
    let d := deliver libs p window room reply wanted
    ⟨d.shown, d.result⟩

/-- Where the setting is a number, a reply shows what its delivery does. -/
theorem shownOf_of_room {τ : Type} (libs : Libraries) (p : Prepared τ) (window : Span)
    {queueSize : Value} {room : Option Nat} (h : roomOf queueSize = .ok room) (reply : TimedReply)
    (wanted : Option Nat) : shownOf libs p window queueSize reply wanted =
      ⟨(deliver libs p window room reply wanted).shown,
        (deliver libs p window room reply wanted).result⟩ := by
  unfold shownOf
  rw [h]

/-- What a streamed call needs besides: the window between updates, the setting for the pieces that
may wait, and the parameters of the model. -/
def streamParameters (options : Options) (settings : Settings) :
    Except Failure (Span × Value × Generation) := do
  let window ← Window.exactly options.debounceMs
  let streaming ← settings.streamingPart
  return (window, streaming.queueSize, ← Generation.ofOptions options.providerOptions)

/-- Has a model reply piece by piece, and shows the output maps as they grow, until the receiver has
seen as many as it wants (`predict_stream`). -/
def streamed (libs : Libraries) (c : Context) (contract inputs options : Value)
    (given : Option (StreamTransport σ)) (connect : Client → StreamTransport σ)
    (wanted : Option Nat) (s : σ) : Outcome σ Shown :=
  match prepare libs c contract inputs options given connect with
  | (.error e, c) => ⟨.failed e, s, c⟩
  | (.ok p, c) =>
    match c.settings with
    | (.error e, c) => ⟨.failed e, s, c⟩
    | (.ok settings, c) =>
      match streamParameters p.options settings with
      | .error e => ⟨.failed e, s, c⟩
      | .ok (window, queueSize, generation) =>
        let (reply, s) := p.transport ⟨p.messages, generation⟩ s
        ⟨shownOf libs p window queueSize reply wanted, s, c⟩

end Prediction

end PromptContract
