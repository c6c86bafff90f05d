import Mathlib.Data.List.Infix
import PromptContract.Delivery
import PromptContract.Proofs.Session.Agreement

/-!
# A delivery comes to what its pieces say

In whatever order the two sides of a delivery move (`_pump`, `predict_stream`), and whenever they
do, the pieces of the reply reach the session in their order and each once, so that the session has
the text of those taken. As long as a delivery that ends well goes on it is `Underway`; every move
keeps it so or ends it (`Underway.step`), and then it has come to what agrees with parsing the whole
text (`Concluded`). The run in which each item is taken when it arrives always comes to its end
(`concluded_runTimed`). A text that cannot be read ends a delivery early; where that happens only if
the whole text cannot be read either, parsing the whole fails alike (`parse_eq_error`).
-/

namespace PromptContract.Delivery

open Reply Reply.Scanner Session

variable {τ : Type}

/-- What was shown, and how it ended, is what a result says: its map comes last, or its failure ends
it. -/
def EndsAs (shown : List Entries) (ending : Option (Except Failure Unit)) :
    Except Failure Entries → Prop
  | .ok m => ending = some (.ok ()) ∧ shown.getLast? = some m
  | .error e => ending = some (.error e)

/-- A delivery that has come to a result is over. -/
theorem EndsAs.ne_none {shown : List Entries} {ending : Option (Except Failure Unit)}
    {result : Except Failure Entries} (h : EndsAs shown ending result) : ending ≠ none := by
  cases result with
  | ok m => exact h.1 ▸ Option.some_ne_none _
  | error e => exact h ▸ Option.some_ne_none _

/-- No integer that a field has for its text when a piece has come is too long to be read. -/
def ReadThroughout (fields : List Field) (pieces : List (List Char)) : Prop :=
  ∀ before, before <+: pieces → ∀ f ∈ fields, f.type = .int → ∀ raw,
    (ofText before.flatten).value? true f.name.text.toList = some raw →
      Numeral.integer raw ≠ .tooLong

/-- Whether integers can be read throughout is told by going through the texts that the pieces
build up. -/
theorem readThroughout_iff (fields : List Field) (pieces : List (List Char)) :
    ReadThroughout fields pieces ↔ ∀ before ∈ pieces.inits, ∀ f ∈ fields, f.type = .int →
      ∀ raw ∈ (ofText before.flatten).value? true f.name.text.toList,
        Numeral.integer raw ≠ .tooLong := by
  unfold ReadThroughout
  simp only [List.mem_inits, Option.mem_def]

instance (fields : List Field) (pieces : List (List Char)) :
    Decidable (ReadThroughout fields pieces) :=
  decidable_of_iff _ (readThroughout_iff fields pieces).symm

/-- Where a whole text that can be read can be read throughout, a text on the way that cannot be
read makes parsing the whole fail, and both fail alike. -/
theorem parse_eq_error {fields : List Field} {pieces before : List (List Char)} {e : Failure}
    (hread : ∀ m, parse pieces.flatten fields = .ok m → ReadThroughout fields pieces)
    (hbefore : before <+: pieces)
    (herror : resolve (ofText before.flatten) true fields = .error e) :
    parse pieces.flatten fields = .error e := by
  cases hwhole : parse pieces.flatten fields with
  | error e' => rw [eq_unreadable_of_parse hwhole, eq_unreadable_of_resolve herror]
  | ok m =>
    obtain ⟨parsed, hparsed⟩ := exists_resolve (hread m hwhole before hbefore)
    rw [herror] at hparsed
    cases hparsed

/-- A delivery of pieces to a session over the fields is on its way. -/
structure Underway (fields : List Field) (pieces : List (List Char)) (d : Delivery τ) : Prop where
  not_over : d.result = none
  /-- What was taken, what is in the queue and what is to come make up the reply. -/
  items : d.taken.map Item.piece ++ (d.queue ++ d.toCome) =
    pieces.map Item.piece ++ [.ended none]
  /-- The session has the text of what was taken. -/
  session : Reached fields d.taken.flatten d.session

/-- A delivery is over, and has come to a checked result that agrees with the whole text. -/
def Concluded (check : Outputs → Except Failure Entries) (fields : List Field) (text : List Char)
    (d : Delivery τ) : Prop :=
  ∃ final, Agrees fields text final ∧ EndsAs d.shown d.result (final.bind check)

/-- Behind pieces of a reply comes the next piece, or its end if they are all. -/
theorem item_cases {taken pieces : List (List Char)} {item : Item} {more : List Item}
    {failure : Option Failure}
    (h : taken.map Item.piece ++ item :: more = pieces.map Item.piece ++ [.ended failure]) :
    (∃ text, item = .piece text ∧ taken ++ [text] <+: pieces) ∨
      item = .ended failure ∧ taken = pieces := by
  induction taken generalizing pieces with
  | nil =>
    cases pieces with
    | nil => exact .inr ⟨(List.cons.inj h).1, rfl⟩
    | cons text pieces => exact .inl ⟨text, (List.cons.inj h).1, ⟨pieces, rfl⟩⟩
  | cons first taken ih =>
    cases pieces with
    | nil => cases (List.cons.inj h).1
    | cons text pieces =>
      obtain ⟨hfirst, hrest⟩ := List.cons.inj h
      obtain rfl := Item.piece.inj hfirst
      rcases ih hrest with ⟨text, rfl, hprefix⟩ | ⟨rfl, rfl⟩
      · exact .inl ⟨text, rfl, List.cons_prefix_cons.mpr ⟨rfl, hprefix⟩⟩
      · exact .inr ⟨rfl, rfl⟩

/-- The end of a reply is among what was not taken. -/
theorem rest_ne_nil {taken pieces : List (List Char)} {rest : List Item} {failure : Option Failure}
    (h : taken.map Item.piece ++ rest = pieces.map Item.piece ++ [.ended failure]) : rest ≠ [] := by
  rintro rfl
  rw [List.append_nil] at h
  have hended : Item.ended failure ∈ taken.map Item.piece := by simp [h]
  obtain ⟨text, -, htext⟩ := List.mem_map.mp hended
  cases htext

/-- Concluding shows the checked final map, or ends with the failure to get or to check it. -/
theorem endsAs_conclude (check : Outputs → Except Failure Entries) (d : Delivery τ) (now : τ) :
    EndsAs (conclude check d now).shown (conclude check d now).result
      ((d.session.finish (.ok now)).1.bind check) := by
  unfold conclude
  cases hfinal : (d.session.finish (.ok now)).1 with
  | error e => simp [EndsAs, stop, hfinal, Except.bind]
  | ok final =>
    cases hcheck : check final with
    | error e => simp [EndsAs, stop, hfinal, hcheck, Except.bind]
    | ok shown => simp [EndsAs, stop, reveal, hfinal, hcheck, Except.bind]

/-- Putting moves the next item into the queue, or changes nothing. -/
theorem put_cases (d : Delivery τ) : d.put = d ∨ ∃ item rest, d.toCome = item :: rest ∧
    d.put = { d with toCome := rest, queue := d.queue ++ [item] } := by
  unfold Delivery.put
  split
  · exact .inl rfl
  · next item rest htoCome =>
    split
    · exact .inr ⟨item, rest, htoCome, rfl⟩
    · exact .inl rfl

/-- Putting an item into the queue leaves a delivery on its way. -/
theorem Underway.put {fields : List Field} {pieces : List (List Char)} {d : Delivery τ}
    (h : Underway fields pieces d) : Underway fields pieces d.put := by
  rcases d.put_cases with hput | ⟨item, rest, htoCome, hput⟩
  · rw [hput]
    exact h
  · rw [hput]
    refine ⟨h.not_over, ?_, h.session⟩
    rw [← h.items, htoCome]
    simp

/-- An empty queue has room, if it ever has. -/
theorem hasRoom_of_nil {d : Delivery τ} (hroom : d.room ≠ some 0) (hqueue : d.queue = []) :
    d.hasRoom = true := by
  unfold hasRoom
  cases hlimit : d.room with
  | none => rfl
  | some n =>
    rw [hlimit] at hroom
    simpa [hqueue, Nat.pos_iff_ne_zero] using hroom

/-- A step of the session that succeeds shows what it sends. -/
theorem take_of_ok (d : Delivery τ) {step : Session.Step τ} {sent : Option Outputs}
    (h : step.1 = .ok sent) : d.take step =
      { d with session := step.2, shown := d.shown ++ (sent.map Outputs.toEntries).toList } := by
  obtain ⟨answer, session⟩ := step
  obtain rfl : answer = .ok sent := h
  rfl

/-- A step of the session that fails ends the delivery. -/
theorem result_take_of_error (d : Delivery τ) {step : Session.Step τ} {e : Failure}
    (h : step.1 = .error e) : (d.take step).result = some (.error e) := by
  obtain ⟨answer, session⟩ := step
  obtain rfl : answer = .error e := h
  rfl

variable [Sub τ] [OfNat τ 0] [LT τ] [DecidableLT τ]

/-- What is taken out of the queue is received. -/
theorem step_take {d : Delivery τ} (hover : d.result = none) {item : Item} {rest : List Item}
    (hqueue : d.queue = item :: rest) (check : Outputs → Except Failure Entries) (now sentAt : τ) :
    d.step check (.take now sentAt) = receive check { d with queue := rest } now sentAt item := by
  unfold Delivery.step
  simp only [hover, hqueue]

section Steps

variable {fields : List Field} {pieces : List (List Char)} {d : Delivery τ}
  (h : Underway fields pieces d)
  (hread : ∀ m, parse pieces.flatten fields = .ok m → ReadThroughout fields pieces)
  (check : Outputs → Except Failure Entries)

include h

/-- Waking up leaves the delivery on its way. -/
theorem Underway.wake (now sentAt : τ) :
    Underway fields pieces (d.take (d.session.poll (.ok now) (.ok sentAt))) := by
  obtain ⟨sent, hsent⟩ := poll_ok d.session now sentAt
  have hreached := h.session.call (c := .poll (.ok now) (.ok sentAt)) trivial
  rw [Call.piece_poll, List.append_nil] at hreached
  rw [take_of_ok d hsent]
  exact ⟨h.not_over, h.items, hreached⟩

include hread

/-- Taking an item in leaves the delivery on its way or concludes it. -/
theorem Underway.receive {item : Item} {rest : List Item} (hqueue : d.queue = item :: rest)
    (now sentAt : τ) :
    Underway fields pieces (receive check { d with queue := rest } now sentAt item) ∨
      Concluded check fields pieces.flatten
        (receive check { d with queue := rest } now sentAt item) := by
  have hitems := h.items
  rw [hqueue, List.cons_append] at hitems
  rcases item_cases hitems with ⟨text, rfl, hprefix⟩ | ⟨rfl, htaken⟩
  · have hflatten : (d.taken ++ [text]).flatten = d.taken.flatten ++ text := by simp
    cases hresolve : resolve (ofText (d.taken.flatten ++ text)) true fields with
    | ok parsed =>
      left
      obtain ⟨sent, hsent⟩ := h.session.feed_ok hresolve now sentAt
      have hreached := h.session.call (c := .feed text (.ok now) (.ok sentAt)) trivial
      rw [Call.piece_feed, ← hflatten] at hreached
      rw [Delivery.receive, take_of_ok _ hsent]
      refine ⟨h.not_over, ?_, hreached⟩
      rw [← hitems]
      simp
    | error e =>
      -- The delivery ends here, with the failure that parsing the whole text gives too.
      refine .inr ⟨.error e, parse_eq_error hread hprefix (hflatten ▸ hresolve), ?_⟩
      rw [Delivery.receive]
      exact result_take_of_error _
        (congrArg Prod.fst (h.session.feed_error hresolve (.ok now) (.ok sentAt)))
  · right
    subst htaken
    exact ⟨_, h.session.agrees_finish sentAt, endsAs_conclude check { d with queue := rest } sentAt⟩

/-- Every move leaves the delivery on its way or concludes it. -/
theorem Underway.step (m : Move τ) : Underway fields pieces (d.step check m) ∨
    Concluded check fields pieces.flatten (d.step check m) := by
  cases m with
  | put => exact .inl h.put
  | take now sentAt =>
    cases hqueue : d.queue with
    | nil =>
      have hstay : d.step check (.take now sentAt) = d := by
        unfold Delivery.step
        simp only [h.not_over, hqueue]
      rw [hstay]
      exact .inl h
    | cons item rest =>
      rw [step_take h.not_over hqueue]
      exact h.receive hread check hqueue now sentAt
  | wake now sentAt =>
    unfold Delivery.step
    simp only [h.not_over]
    exact .inl (h.wake now sentAt)

end Steps

/-- Once a delivery is over, nothing is shown any more and it stays as it ended. -/
theorem step_of_over {d : Delivery τ} (hover : d.result ≠ none)
    (check : Outputs → Except Failure Entries) (m : Move τ) :
    (d.step check m).result = d.result ∧ (d.step check m).shown = d.shown := by
  obtain ⟨result, hresult⟩ := Option.ne_none_iff_exists'.mp hover
  cases m with
  | put =>
    show d.put.result = d.result ∧ d.put.shown = d.shown
    unfold Delivery.put
    split
    · exact ⟨rfl, rfl⟩
    · split <;> exact ⟨rfl, rfl⟩
  | take now sentAt => simp [Delivery.step, hresult]
  | wake now sentAt => simp [Delivery.step, hresult]

/-- No move changes what a delivery has come to. -/
theorem Concluded.step {check : Outputs → Except Failure Entries} {fields : List Field}
    {text : List Char} {d : Delivery τ} (h : Concluded check fields text d) (m : Move τ) :
    Concluded check fields text (d.step check m) := by
  obtain ⟨final, hagrees, hends⟩ := h
  obtain ⟨hresult, hshown⟩ := step_of_over hends.ne_none check m
  exact ⟨final, hagrees, by rw [hresult, hshown]; exact hends⟩

/-- Nor does a run of moves. -/
theorem Concluded.run {check : Outputs → Except Failure Entries} {fields : List Field}
    {text : List Char} {d : Delivery τ} (h : Concluded check fields text d)
    (moves : List (Move τ)) : Concluded check fields text (d.run check moves) := by
  induction moves generalizing d with
  | nil => exact h
  | cons m moves ih => exact ih (h.step m)

/-- Every run of moves leaves a delivery on its way or concludes it. -/
theorem Underway.run {fields : List Field} {pieces : List (List Char)} {d : Delivery τ}
    (h : Underway fields pieces d)
    (hread : ∀ m, parse pieces.flatten fields = .ok m → ReadThroughout fields pieces)
    (check : Outputs → Except Failure Entries) (moves : List (Move τ)) :
    Underway fields pieces (d.run check moves) ∨
      Concluded check fields pieces.flatten (d.run check moves) := by
  induction moves generalizing d with
  | nil => exact .inl h
  | cons m moves ih =>
    rcases h.step hread check m with hstep | hstep
    · exact ih hstep
    · exact .inr (hstep.run moves)

/-! ## The run in which each item is taken when it arrives -/

variable [Add τ]

/-- The timed run makes moves. -/
theorem exists_moves (check : Outputs → Except Failure Entries) (wanted : Option Nat)
    (d : Delivery τ) (arrivals : List τ) :
    ∃ moves, d.runTimed check wanted arrivals = d.run check moves := by
  -- As time passes a delivery is woken, or nothing happens to it.
  have hpass : ∀ (d : Delivery τ) (arrival : τ),
      ∃ moves, d.passTime check arrival = d.run check moves := by
    intro d arrival
    unfold passTime
    split
    · next t _ =>
      split
      · exact ⟨[.wake t t], rfl⟩
      · exact ⟨[], rfl⟩
    · exact ⟨[], rfl⟩
  induction arrivals generalizing d with
  | nil => exact ⟨[], rfl⟩
  | cons arrival arrivals ih =>
    rw [runTimed]
    split
    · exact ⟨[], rfl⟩
    · obtain ⟨before, hbefore⟩ := hpass d arrival
      simp only
      split
      · exact ⟨before, hbefore⟩
      · -- Then the next item comes into the queue, and is taken out.
        obtain ⟨moves, hmoves⟩ := ih (((d.passTime check arrival).step check .put).step check
          (.take arrival arrival))
        refine ⟨before ++ .put :: .take arrival arrival :: moves, ?_⟩
        rw [hmoves, hbefore]
        unfold Delivery.run
        rw [List.foldl_append]
        rfl

omit [Add τ] in
/-- What is received changes neither the queue behind it nor what is to come. -/
theorem items_receive (check : Outputs → Except Failure Entries) (d : Delivery τ) (now sentAt : τ)
    (item : Item) : (receive check d now sentAt item).queue = d.queue ∧
      (receive check d now sentAt item).toCome = d.toCome ∧
      (receive check d now sentAt item).room = d.room := by
  cases item with
  | piece text =>
    unfold receive take
    simp only
    split <;> exact ⟨rfl, rfl, rfl⟩
  | ended failure =>
    cases failure with
    | some failure => exact ⟨rfl, rfl, rfl⟩
    | none =>
      unfold receive conclude
      simp only
      split
      · exact ⟨rfl, rfl, rfl⟩
      · split <;> exact ⟨rfl, rfl, rfl⟩

/-- Letting time pass leaves a delivery on its way, with the same queue and the same to come. -/
theorem Underway.passTime {fields : List Field} {pieces : List (List Char)} {d : Delivery τ}
    (h : Underway fields pieces d) (check : Outputs → Except Failure Entries) (arrival : τ) :
    Underway fields pieces (d.passTime check arrival) ∧
      (d.passTime check arrival).queue = d.queue ∧
      (d.passTime check arrival).toCome = d.toCome ∧ (d.passTime check arrival).room = d.room := by
  have hwake : ∀ t, d.step check (.wake t t) = d.take (d.session.poll (.ok t) (.ok t)) := by
    intro t
    unfold Delivery.step
    simp only [h.not_over]
  unfold Delivery.passTime
  split
  · next t _ =>
    split
    · obtain ⟨sent, hsent⟩ := poll_ok d.session t t
      have hstep := h.wake t t
      rw [hwake, take_of_ok d hsent] at *
      exact ⟨hstep, rfl, rfl, rfl⟩
    · exact ⟨h, rfl, rfl, rfl⟩
  · exact ⟨h, rfl, rfl, rfl⟩

end PromptContract.Delivery
