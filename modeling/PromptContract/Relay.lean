import PromptContract.Delivery

/-!
# The request that stands between queue and session

The session's side of a delivery (`predict_stream`) does not take an item out of the queue in one
move. It asks for the next item and waits. The queue answers when it has one, and the answer is
taken in at a later move; so an item may be out of the queue and not yet with the session, while the
queue has room for another. A window that ends before the answer has come wakes the session's side
up, and the request stands: it is not made anew, for the answer to a request that was given up would
be lost.

`Relay.step` makes one move of the transport's side, the queue or the session's side, and any order
of moves is a run. A move that is not possible changes nothing.
-/

namespace PromptContract

open Reply

/-- What has become of the request for the next item. -/
inductive Request
  /-- None was made. -/
  | idle
  | waiting
  /-- The item is out of the queue, and was not taken in. -/
  | answered (item : Item)

/-- The item that answers a request, if one does. -/
def Request.held : Request → List Item
  | .answered item => [item]
  | .idle | .waiting => []

/-- A delivery, and the request that its session's side has made. -/
structure Relay (τ : Type) extends Delivery τ where
  request : Request

/-- A move, with the readings of the clock that it makes. -/
inductive Relay.Move (τ : Type)
  /-- The transport's side puts an item into the queue. -/
  | put
  /-- The session's side asks for the next item, unless it has. -/
  | ask
  /-- The queue hands out its first item. -/
  | answer
  /-- The session's side takes the answer in. -/
  | receive (now sentAt : τ)
  /-- The session's side wakes up at the end of a window, before there is an answer. -/
  | wake (now sentAt : τ)

namespace Relay

variable {τ : Type}

/-- A delivery of pieces that ends as told, before anything was asked for. -/
def start (pieces : List (List Char)) (failure : Option Failure) (room : Option Nat)
    (session : Session τ) : Relay τ :=
  ⟨Delivery.start pieces failure room session, .idle⟩

variable [Sub τ] [OfNat τ 0] [LT τ] [DecidableLT τ]

/-- Makes one move. Once the delivery is over, nothing is asked for, taken in or shown any more. -/
def step (check : Outputs → Except Failure Entries) (r : Relay τ) : Move τ → Relay τ
  | .put => { r with toDelivery := r.toDelivery.put }
  | .ask =>
    match r.result, r.request with
    | none, .idle => { r with request := .waiting }
    | _, _ => r
  | .answer =>
    match r.request, r.queue with
    | .waiting, item :: rest => { r with queue := rest, request := .answered item }
    | _, _ => r
  | .receive now sentAt =>
    match r.result, r.request with
    | none, .answered item => ⟨Delivery.receive check r.toDelivery now sentAt item, .idle⟩
    | _, _ => r
  | .wake now sentAt =>
    match r.result, r.request with
    | none, .waiting =>
      { r with toDelivery := r.toDelivery.take (r.session.poll (.ok now) (.ok sentAt)) }
    | _, _ => r

/-- Makes moves one after the other. -/
def run (check : Outputs → Except Failure Entries) (r : Relay τ) (moves : List (Move τ)) :
    Relay τ := moves.foldl (step check) r

end Relay

end PromptContract
