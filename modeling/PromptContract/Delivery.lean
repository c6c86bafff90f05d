import PromptContract.Session

/-!
# Delivery of a streamed reply

Between the transport and the session stands a queue of limited room. One side puts the pieces of
the reply into it as they come, and at last how the reply ended; the other side takes them out,
feeds them to the session and shows what the session sends, and wakes up once more when a window
ends with something pending. `Delivery.step` makes one move of either side, and any order of moves
is a run: a move that is not possible changes nothing. A reply that ended well is followed by the
final map, which is checked before it is shown as the check leaves it; a failure is passed on, and
no final map follows it.

`Delivery.runTimed` is the run in which every piece is taken as soon as it arrives.
-/

namespace PromptContract

open Reply

/-- What stands in the queue. -/
inductive Item
  | piece (text : List Char)
  /-- The reply is complete, or broke off with a failure. -/
  | ended (failure : Option Failure)

/-- The state of a delivery (`predict_stream`) over times of type `τ`. -/
structure Delivery (τ : Type) where
  /-- What the transport has yet to hand over, ending with how the reply ends. -/
  toCome : List Item
  queue : List Item
  /-- How many items may wait; without a limit any number. -/
  room : Option Nat
  session : Session τ
  /-- The pieces that the session was fed, in order. -/
  taken : List (List Char)
  /-- The maps that were shown, in order. -/
  shown : List Entries
  /-- How the delivery ended, if it has. -/
  result : Option (Except Failure Unit)

/-- A move of one of the two sides, with the readings of the clock that it makes. -/
inductive Delivery.Move (τ : Type)
  /-- The transport's side puts an item into the queue. -/
  | put
  /-- The session's side takes an item out of the queue. -/
  | take (now sentAt : τ)
  /-- The session's side wakes up at the end of a window. -/
  | wake (now sentAt : τ)

namespace Delivery

variable {τ : Type}

/-- A delivery of pieces that ends as told. -/
def start (pieces : List (List Char)) (failure : Option Failure) (room : Option Nat)
    (session : Session τ) : Delivery τ :=
  { toCome := pieces.map .piece ++ [.ended failure]
    queue := [], room, session
    taken := [], shown := [], result := none }

/-- Whether the queue has room for another item. -/
def hasRoom (d : Delivery τ) : Bool :=
  match d.room with
  | none => true
  | some n => d.queue.length < n

/-- Puts the next item into the queue (`_pump`). -/
def put (d : Delivery τ) : Delivery τ :=
  match d.toCome with
  | [] => d
  | item :: rest =>
    if d.hasRoom then { d with toCome := rest, queue := d.queue ++ [item] } else d

/-- Shows a map if there is one. -/
def reveal (d : Delivery τ) (sent : Option Entries) : Delivery τ :=
  { d with shown := d.shown ++ sent.toList }

/-- The delivery is over. -/
def stop (d : Delivery τ) (result : Except Failure Unit) : Delivery τ :=
  { d with result := some result }

/-- Checks the final map and shows it if it passes. -/
def conclude (check : Outputs → Except Failure Entries) (d : Delivery τ) (now : τ) : Delivery τ :=
  let (final, session) := d.session.finish (.ok now)
  let d := { d with session }
  match final with
  | .error e => d.stop (.error e)
  | .ok final =>
    match check final with
    | .error e => d.stop (.error e)
    | .ok final => (d.reveal (some final)).stop (.ok ())

variable [Sub τ] [OfNat τ 0] [LT τ] [DecidableLT τ]

/-- What a step of the session brings: a map to show, none, or the end of the delivery. -/
def take (d : Delivery τ) (step : Session.Step τ) : Delivery τ :=
  let (sent, session) := step
  let d := { d with session }
  match sent with
  | .error e => d.stop (.error e)
  | .ok sent => d.reveal (sent.map Outputs.toEntries)

/-- Takes one item in. -/
def receive (check : Outputs → Except Failure Entries) (d : Delivery τ) (now sentAt : τ) :
    Item → Delivery τ
  | .piece text =>
    { d with taken := d.taken ++ [text] }.take (d.session.feed text (.ok now) (.ok sentAt))
  | .ended none => conclude check d sentAt
  | .ended (some failure) => d.stop (.error failure)

/-- Makes one move. Once the delivery is over, nothing is taken or shown any more. -/
def step (check : Outputs → Except Failure Entries) (d : Delivery τ) : Move τ → Delivery τ
  | .put => d.put
  | .take now sentAt =>
    match d.result, d.queue with
    | none, item :: rest => receive check { d with queue := rest } now sentAt item
    | _, _ => d
  | .wake now sentAt =>
    match d.result with
    | none => d.take (d.session.poll (.ok now) (.ok sentAt))
    | some _ => d

/-- Makes moves one after the other. -/
def run (check : Outputs → Except Failure Entries) (d : Delivery τ) (moves : List (Move τ)) :
    Delivery τ := moves.foldl (step check) d

/-- The end of the window that holds something back, if one does. -/
def wakeTime [Add τ] (d : Delivery τ) : Option τ :=
  match d.result, d.session.lastSentAt with
  | none, some sentAt => if d.session.pending then some (sentAt + d.session.window) else none
  | _, _ => none

/-- Lets time pass up to the arrival of an item: a window that ends before lets out what it held. -/
def passTime [Add τ] (check : Outputs → Except Failure Entries) (d : Delivery τ) (arrival : τ) :
    Delivery τ :=
  match d.wakeTime with
  | some t => if t < arrival then d.step check (.wake t t) else d
  | none => d

/-- Whether the receiver has seen as many maps as it wants. -/
def isEnough (wanted : Option Nat) (d : Delivery τ) : Bool :=
  match wanted with
  | some n => n ≤ d.shown.length
  | none => false

/-- The run in which each item is put and taken when it arrives, until the receiver has seen
enough. -/
def runTimed [Add τ] (check : Outputs → Except Failure Entries) (wanted : Option Nat)
    (d : Delivery τ) : List τ → Delivery τ
  | [] => d
  | arrival :: arrivals =>
    if d.isEnough wanted then d
    else
      let d := d.passTime check arrival
      if d.isEnough wanted then d
      else
        runTimed check wanted ((d.step check .put).step check (.take arrival arrival)) arrivals

end Delivery

end PromptContract
