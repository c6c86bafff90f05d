import PromptContract.Reply.Parse

/-!
# Streaming sessions

A session (`StreamReassembler`) puts a reply together from pieces and decides when the caller is to
see a new output map. What a field has shown it keeps: a value may be replaced by another, never by
none. At most one map goes out in each window of time, and only when it differs from the last one
sent; `Session.finish` always sends the final map, whatever the window. Readings of the clock are
parameters, and any type of times with differences and an order will do. A reading may fail, and the
step that needs it then fails too.
-/

namespace PromptContract

open Reply

/-- Whether a session has sent a map, or its last one (`StreamState`). -/
inductive SessionState
  | waiting
  | emitting
  | done
deriving DecidableEq, Repr

/-- The name of a state. -/
def SessionState.name : SessionState → String
  | .waiting => "waiting"
  | .emitting => "emitting"
  | .done => "done"

/-- A streaming session over times of type `τ` (`StreamReassembler`). -/
structure Session (τ : Type) where
  fields : List Field
  window : τ
  scanner : Scanner
  /-- The values so far, sent or not. -/
  latest : Outputs
  lastSent : Outputs
  lastSentAt : Option τ
  state : SessionState
  pieces : Nat
  emissions : Nat

/-- A reading of a clock. -/
abbrev ClockReading (τ : Type) := Except Failure τ

namespace Session

variable {τ : Type}

/-- The map of fields without values. -/
def blank (fields : List Field) : Outputs := fields.foldl (fun m f => m.put f.name none) []

/-- A session that has not received anything. -/
def start (fields : List Field) (window : τ) : Session τ :=
  { fields, window
    scanner := Scanner.empty
    latest := blank fields
    lastSent := blank fields
    lastSentAt := none
    state := .waiting
    pieces := 0
    emissions := 0 }

/-- Whether there is something that has not been sent. -/
def pending (s : Session τ) : Bool := s.state != .done && !s.latest.unchanged s.lastSent

/-- The time left in the window at a reading of the clock, and zero where a map may go out
(`seconds_until_ready`). Before anything was sent the clock is not read. -/
def timeLeft [Sub τ] [OfNat τ 0] [LT τ] [DecidableLT τ] (s : Session τ) (now : ClockReading τ) :
    Except Failure τ :=
  match s.lastSentAt with
  | none => .ok 0
  | some at_ => do
    let left := s.window - ((← now) - at_)
    return if 0 < left then left else 0

/-- Takes over the value of a parsed field. A field without a value changes nothing, and until the
reply is complete neither does one whose text has not begun. -/
def mergeField (final : Bool) (m : Outputs) (p : ParsedField) : Outputs :=
  match p.value with
  | none => m
  | some v => if !final && p.raw == some [] then m else m.put p.name (some v)

/-- Takes over the values that the text so far gives (`_merge`). -/
def merge (final : Bool) (s : Session τ) : Except Failure (Session τ) := do
  let parsed ← resolve s.scanner (!final) s.fields
  return { s with latest := parsed.foldl (mergeField final) s.latest }

/-- Sends the values so far, and notes when (`_emit`). If the clock cannot be read nothing goes out,
and what would have gone out counts as sent. -/
def emit (s : Session τ) (now : ClockReading τ) : Except Failure Outputs × Session τ :=
  let s := { s with lastSent := s.latest }
  match now with
  | .error e => (.error e, s)
  | .ok now =>
    (.ok s.latest, { s with
      lastSentAt := some now
      emissions := s.emissions + 1
      state := if s.state = .waiting then .emitting else s.state })

/-- Ends the session (`StreamReassembler.finish`): the whole text is read once more, and the final
map goes out. A session that has ended gives the same map again. -/
def finish (s : Session τ) (now : ClockReading τ) : Except Failure Outputs × Session τ :=
  if s.state = .done then (.ok s.lastSent, s)
  else
    match s.merge true with
    | .error e => (.error e, s)
    | .ok merged =>
      match merged.emit now with
      | (.error e, s) => (.error e, s)
      | (.ok final, s) => (.ok final, { s with state := .done })

/-- What a step of a session comes to: the session behind it, and what the caller gets. -/
abbrev Step (τ : Type) := Except Failure (Option Outputs) × Session τ

variable [Sub τ] [OfNat τ 0] [LT τ] [DecidableLT τ]

/-- Sends what is pending if the window allows it (`StreamReassembler.poll`). The window is judged
at one reading of the clock, and the sending noted at another, not earlier one. -/
def poll (s : Session τ) (now sentAt : ClockReading τ) : Step τ :=
  if !s.pending then (.ok none, s)
  else
    match s.timeLeft now with
    | .error e => (.error e, s)
    | .ok left =>
      if 0 < left then (.ok none, s)
      else
        let (sent, s) := s.emit sentAt
        (sent.map some, s)

/-- Takes a piece of the reply (`StreamReassembler.feed`). If a field's text cannot be read the
piece stays in the text, and nothing else changes. -/
def feed (s : Session τ) (piece : List Char) (now sentAt : ClockReading τ) : Step τ :=
  if s.state = .done then (.error .sessionFinished, s)
  else
    let received := { s with pieces := s.pieces + 1, scanner := s.scanner.feed piece }
    match received.merge false with
    | .error e => (.error e, received)
    | .ok merged => merged.poll now sentAt

end Session

end PromptContract
