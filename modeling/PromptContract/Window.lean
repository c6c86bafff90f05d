import PromptContract.Value.Conversion
import PromptContract.Value.Writing

/-!
# The window between updates

A window is given in milliseconds (the `debounce_ms` of a `StreamReassembler`). It must be a number
that is not negative, and one that a floating-point number can hold; it need not be finite. Sessions
that are timed by a clock take it in seconds, rounded once (`Window.seconds`), and streamed
predictions exactly (`Window.exactly`), as a span of time (`Span`).
-/

namespace PromptContract

/-- A span of time, or a point in time: an exact number, an infinity, or what comes out where two
infinities take each other away, which is in no order to anything. -/
inductive Span
  | finite (t : Rat)
  | infinite (negative : Bool)
  | undefined
deriving DecidableEq

namespace Span

/-- The span from the other end. -/
def neg : Span → Span
  | .finite t => .finite (-t)
  | .infinite negative => .infinite !negative
  | .undefined => .undefined

/-- One span behind the other. -/
def add : Span → Span → Span
  | .undefined, _ | _, .undefined => .undefined
  | .finite s, .finite t => .finite (s + t)
  | .infinite a, .infinite b => if a = b then .infinite a else .undefined
  | .infinite a, .finite _ | .finite _, .infinite a => .infinite a

/-- Whether one span is shorter than another. -/
def isLess : Span → Span → Bool
  | .undefined, _ | _, .undefined => false
  | .finite s, .finite t => s < t
  | .infinite a, .infinite b => a && !b
  | .infinite a, .finite _ => a
  | .finite _, .infinite b => !b

instance : OfNat Span 0 := ⟨.finite 0⟩
instance : Add Span := ⟨add⟩
instance : Sub Span := ⟨fun s t => s.add t.neg⟩
instance : LT Span := ⟨fun s t => s.isLess t = true⟩
instance (s t : Span) : Decidable (s < t) := inferInstanceAs (Decidable (_ = true))

end Span

namespace Window

/-- An integer number of milliseconds, which must be one that a floating-point number can hold. -/
def whole (ms : Int) : Except Failure Binary64 :=
  (Binary64.ofInt? ms).elim (.error .numberTooLarge) .ok

/-- Why a negative number is refused as a window, unless it is too long to be named. -/
def refusal (v : Value) : Failure := if v.isWritable then .windowNegative v else .unreadable

/-- The milliseconds of a window as a floating-point number. -/
def milliseconds (v : Value) : Except Failure Binary64 := do
  if ← v.isBelow 0 then throw (refusal v)
  match v.number? with
  | some (.int n) => whole n
  | some (.float x) => return x
  | none => throw .wrongKind

/-- Milliseconds as seconds, rounded once. -/
def inSeconds (ms : Binary64) : Binary64 := (ms.div? (Binary64.ofRatio false 1000 1)).getD .nan

/-- The seconds of a window, as a clock counts them. -/
def seconds (v : Value) : Except Failure Binary64 := do return inSeconds (← milliseconds v)

/-- The seconds that a clock shows after an integer number of milliseconds. -/
def reading (ms : Int) : Except Failure Binary64 := do return inSeconds (← whole ms)

/-- The milliseconds of a window as a span of time. -/
def exactly (v : Value) : Except Failure Span := do
  match ← milliseconds v with
  | .nan => return .undefined
  | .infinite negative => return .infinite negative
  | .finite negative units =>
    return .finite (mkRat (if negative then -(units : Int) else units) Binary64.one)

end Window

end PromptContract
