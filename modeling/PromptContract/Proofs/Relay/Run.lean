import PromptContract.Relay
import PromptContract.Proofs.Delivery.Run

/-!
# Nothing is lost between the transport and the session

Whatever moves the two sides of a delivery make (`_pump`, `predict_stream`), what the session was
fed, what answers its request, what is in the queue and what is to come make up the reply, in its
order and each once (`Relaying`). As long as a delivery whose reply can be read goes on every move
keeps it so, or ends it (`Relaying.step`). It ends with the reply: with the failure that broke the
reply off, or with the final map, which is checked then and only then (`Relayed`). The timed run of
a delivery is such a run (`exists_moves_runTimed`).
-/

namespace PromptContract

open Reply Reply.Scanner Session Delivery

variable {τ : Type}

namespace Session

/-- The piece that a call feeds, if it does. -/
def Call.piece? : Call τ → Option (List Char)
  | .feed piece _ _ => some piece
  | .poll _ _ | .finish _ => none

/-- The pieces that a row of calls feeds, in order. -/
def fedPieces (calls : List (Call τ)) : List (List Char) := calls.filterMap Call.piece?

/-- The text of a row of calls is that of the pieces. -/
theorem fed_eq_flatten (calls : List (Call τ)) : fed calls = (fedPieces calls).flatten := by
  induction calls with
  | nil => rfl
  | cons c calls ih =>
    rw [fed, List.flatMap_cons, ← fed, ih]
    cases c <;> rfl

end Session

namespace Relay

section Start

variable [Sub τ] [OfNat τ 0] [LT τ] [DecidableLT τ]

/-! ## What a move does -/

/-- What a move does where it is possible. -/
inductive Moved (check : Outputs → Except Failure Entries) (r : Relay τ) : Move τ → Relay τ → Prop
  | put {item : Item} {rest : List Item} (htoCome : r.toCome = item :: rest)
      (hroom : r.hasRoom = true) :
      Moved check r .put { r with toCome := rest, queue := r.queue ++ [item] }
  | ask (hopen : r.result = none) (hrequest : r.request = .idle) :
      Moved check r .ask { r with request := .waiting }
  | answer {item : Item} {rest : List Item} (hrequest : r.request = .waiting)
      (hqueue : r.queue = item :: rest) :
      Moved check r .answer { r with queue := rest, request := .answered item }
  | receive {item : Item} (now sentAt : τ) (hopen : r.result = none)
      (hrequest : r.request = .answered item) :
      Moved check r (.receive now sentAt)
        ⟨Delivery.receive check r.toDelivery now sentAt item, .idle⟩
  | wake (now sentAt : τ) (hopen : r.result = none) (hrequest : r.request = .waiting) :
      Moved check r (.wake now sentAt)
        ⟨r.toDelivery.take (r.session.poll (.ok now) (.ok sentAt)), .waiting⟩

/-- A move that is possible makes the step. -/
theorem Moved.step_eq {check : Outputs → Except Failure Entries} {r r' : Relay τ} {m : Move τ}
    (h : Moved check r m r') : r.step check m = r' := by
  cases h with
  | put htoCome hroom => simp only [Relay.step, Delivery.put, htoCome, hroom, if_true]
  | ask hopen hrequest => simp only [Relay.step, hopen, hrequest]
  | answer hrequest hqueue => simp only [Relay.step, hrequest, hqueue]
  | receive now sentAt hopen hrequest => simp only [Relay.step, hopen, hrequest]
  | wake now sentAt hopen hrequest => simp only [Relay.step, hopen, hrequest]

/-- A move is possible, or changes nothing. -/
theorem moved_or_eq (check : Outputs → Except Failure Entries) (r : Relay τ) (m : Move τ) :
    (∃ r', Moved check r m r') ∨ r.step check m = r := by
  cases m with
  | put =>
    rcases htoCome : r.toCome with _ | ⟨item, rest⟩
    · exact .inr (by simp only [Relay.step, Delivery.put, htoCome])
    · by_cases hroom : r.hasRoom = true
      · exact .inl ⟨_, .put htoCome hroom⟩
      · exact .inr (by simp only [Relay.step, Delivery.put, htoCome, if_neg hroom])
  | ask =>
    rcases hopen : r.result with _ | result <;> rcases hrequest : r.request with _ | _ | item
    · exact .inl ⟨_, .ask hopen hrequest⟩
    all_goals exact .inr (by simp only [Relay.step, hopen, hrequest])
  | answer =>
    rcases hrequest : r.request with _ | _ | item <;> rcases hqueue : r.queue with _ | ⟨next, rest⟩
    case waiting.cons => exact .inl ⟨_, .answer hrequest hqueue⟩
    all_goals exact .inr (by simp only [Relay.step, hrequest, hqueue])
  | receive now sentAt =>
    rcases hopen : r.result with _ | result <;> rcases hrequest : r.request with _ | _ | item
    case none.answered => exact .inl ⟨_, .receive now sentAt hopen hrequest⟩
    all_goals exact .inr (by simp only [Relay.step, hopen, hrequest])
  | wake now sentAt =>
    rcases hopen : r.result with _ | result <;> rcases hrequest : r.request with _ | _ | item
    case none.waiting => exact .inl ⟨_, .wake now sentAt hopen hrequest⟩
    all_goals exact .inr (by simp only [Relay.step, hopen, hrequest])

/-- One more move is made behind the others. -/
theorem run_concat (check : Outputs → Except Failure Entries) (r : Relay τ) (moves : List (Move τ))
    (m : Move τ) : r.run check (moves ++ [m]) = (r.run check moves).step check m := by
  unfold run
  rw [List.foldl_append]
  rfl

/-- Moves are made behind others. -/
theorem run_append (check : Outputs → Except Failure Entries) (r : Relay τ)
    (moves more : List (Move τ)) :
    r.run check (moves ++ more) = (r.run check moves).run check more := List.foldl_append

/-! ## What a run keeps -/

/-- A delivery of pieces that end as told goes on: what was fed, and what was shown, is what the
calls of a session over the fields did. -/
structure Relaying (fields : List Field) (window : τ) (pieces : List (List Char))
    (failure : Option Failure) (calls : List (Call τ)) (r : Relay τ) : Prop where
  not_over : r.result = none
  /-- What was taken in, what answers the request, what is in the queue and what is to come make up
  the reply. -/
  items : r.taken.map Item.piece ++ (r.request.held ++ (r.queue ++ r.toCome)) =
    pieces.map Item.piece ++ [.ended failure]
  /-- The session was not ended. -/
  opened : ∀ c ∈ calls, c.IsOpen
  fed : fedPieces calls = r.taken
  session : r.session = (Session.start fields window).run calls
  shown : r.shown = ((Session.start fields window).emitted calls).map Outputs.toEntries

/-- A delivery of pieces that end as told is over: all of them were fed. A failure was passed on as
it is; else the session was ended, and the final map was shown last if the check lets it pass. -/
structure Relayed (fields : List Field) (window : τ) (pieces : List (List Char))
    (failure : Option Failure) (check : Outputs → Except Failure Entries) (calls : List (Call τ))
    (r : Relay τ) : Prop where
  opened : ∀ c ∈ calls, c.IsOpen
  fed : fedPieces calls = pieces
  taken : r.taken = pieces
  outcome : match failure with
    | some e => r.result = some (.error e) ∧ r.session = (Session.start fields window).run calls ∧
        r.shown = ((Session.start fields window).emitted calls).map Outputs.toEntries
    | none => ∃ now final,
        ((Session.start fields window).run calls).finish (.ok now) = (.ok final, r.session) ∧
        r.result = some ((check final).map fun _ => ()) ∧
        r.shown = ((Session.start fields window).emitted calls).map Outputs.toEntries ++
          (check final).toOption.toList

/-- A delivery of pieces to a new session goes on. -/
theorem relaying_start (fields : List Field) (window : τ) (pieces : List (List Char))
    (failure : Option Failure) (room : Option Nat) :
    Relaying fields window pieces failure []
      (start pieces failure room (Session.start fields window)) where
  not_over := rfl
  items := rfl
  opened := by simp
  fed := rfl
  session := rfl
  shown := rfl

variable {fields : List Field} {window : τ} {pieces : List (List Char)} {failure : Option Failure}
  {calls : List (Call τ)} {r : Relay τ}

/-- What was fed is the beginning of the reply. -/
theorem Relaying.taken_prefix (h : Relaying fields window pieces failure calls r) :
    r.taken <+: pieces := by
  obtain ⟨item, more, hmore⟩ := List.exists_cons_of_ne_nil (rest_ne_nil h.items)
  have hitems := h.items
  rw [hmore] at hitems
  rcases item_cases hitems with ⟨text, -, hprefix⟩ | ⟨-, heq⟩
  · exact (List.prefix_append _ _).trans hprefix
  · exact heq ▸ List.prefix_rfl

/-- The session has the text of what was fed. -/
theorem Relaying.reached (h : Relaying fields window pieces failure calls r) :
    Reached fields r.taken.flatten r.session := by
  have hreached := (reached_start fields window).run h.opened
  rwa [List.nil_append, fed_eq_flatten, h.fed, ← h.session] at hreached

/-- A move that changes neither what was taken in nor the session leaves the delivery going on if
the items still make up the reply. -/
theorem Relaying.move (h : Relaying fields window pieces failure calls r) {queue toCome : List Item}
    {request : Request}
    (hitems : request.held ++ (queue ++ toCome) = r.request.held ++ (r.queue ++ r.toCome)) :
    Relaying fields window pieces failure calls
      ⟨{ r.toDelivery with queue, toCome }, request⟩ where
  not_over := h.not_over
  items := (congrArg _ hitems).trans h.items
  opened := h.opened
  fed := h.fed
  session := h.session
  shown := h.shown

/-- So does a call of the session that succeeds, where its piece is the item that was there. -/
theorem Relaying.call (h : Relaying fields window pieces failure calls r) {c : Call τ}
    (hc : c.IsOpen) {sent : Option Outputs} (hsent : (r.session.call c).1 = .ok sent)
    (request : Request) (hitems : r.request.held = c.piece?.toList.map Item.piece ++ request.held) :
    Relaying fields window pieces failure (calls ++ [c])
      ⟨{ r.toDelivery with taken := r.taken ++ c.piece?.toList }.take (r.session.call c),
        request⟩ := by
  rw [take_of_ok _ hsent]
  refine ⟨h.not_over, ?_, ?_, ?_, ?_, ?_⟩
  · rw [← h.items, hitems]
    simp
  · intro c' hc'
    rcases List.mem_append.mp hc' with hc' | hc'
    · exact h.opened c' hc'
    · rwa [List.mem_singleton.mp hc']
  · show fedPieces (calls ++ [c]) = r.taken ++ c.piece?.toList
    rw [← h.fed]
    unfold fedPieces
    rw [List.filterMap_append]
    cases c <;> rfl
  · rw [Session.run_concat, ← h.session]
  · show r.shown ++ _ = _
    rw [emitted_concat, ← h.session, hsent, h.shown, List.map_append, Option.toList_map]
    rfl

section Steps

variable (check : Outputs → Except Failure Entries)

/-- The end of the reply, taken in, ends the delivery. -/
theorem Relaying.receive_ended (h : Relaying fields window pieces failure calls r)
    (hall : r.taken = pieces)
    (hwhole : failure = none → ∃ m, parse pieces.flatten fields = .ok m) (now sentAt : τ) :
    Relayed fields window pieces failure check calls
      ⟨Delivery.receive check r.toDelivery now sentAt (.ended failure), .idle⟩ := by
  cases failure with
  | some e => exact ⟨h.opened, h.fed.trans hall, hall, rfl, h.session, h.shown⟩
  | none =>
    -- The whole text can be read, so that the session gives its final map.
    obtain ⟨final, hfinal⟩ : ∃ final, (r.session.finish (.ok sentAt)).1 = .ok final := by
      obtain ⟨m, hm⟩ := hwhole rfl
      rw [finish_ok h.reached.not_done, h.reached.fields_eq, h.reached.scanner_eq, hall]
      rw [parse_eq] at hm
      cases hparsed : resolve (ofText pieces.flatten) false fields with
      | ok parsed => exact ⟨_, rfl⟩
      | error e =>
        rw [hparsed] at hm
        cases hm
    have hfinish : r.session.finish (.ok sentAt) = (.ok final, (r.session.finish (.ok sentAt)).2) :=
      Prod.ext hfinal rfl
    rw [Delivery.receive, conclude, hfinish]
    simp only
    rw [h.session] at hfinish ⊢
    -- The checked map is shown last, or its check fails and nothing more is shown.
    cases hcheck : check final with
    | ok m =>
      refine ⟨h.opened, h.fed.trans hall, hall, sentAt, final, hfinish, ?_, ?_⟩
      · rw [hcheck]
        rfl
      · rw [hcheck, ← h.shown]
        rfl
    | error e =>
      refine ⟨h.opened, h.fed.trans hall, hall, sentAt, final, hfinish, ?_, ?_⟩
      · rw [hcheck]
        rfl
      · rw [hcheck, ← h.shown]
        exact (List.append_nil _).symm

/-- An answer that is taken in leaves the delivery going on, or ends it with the reply. -/
theorem Relaying.receive (h : Relaying fields window pieces failure calls r)
    (hread : ReadThroughout fields pieces)
    (hwhole : failure = none → ∃ m, parse pieces.flatten fields = .ok m) {item : Item}
    (hrequest : r.request = .answered item) (now sentAt : τ) :
    let r' : Relay τ := ⟨Delivery.receive check r.toDelivery now sentAt item, .idle⟩
    (∃ calls', Relaying fields window pieces failure calls' r') ∨
      ∃ calls', Relayed fields window pieces failure check calls' r' := by
  have hitems := h.items
  rw [hrequest] at hitems
  rcases item_cases hitems with ⟨text, rfl, hprefix⟩ | ⟨rfl, hall⟩
  · left
    obtain ⟨parsed, hparsed⟩ := exists_resolve (hread _ hprefix)
    rw [List.flatten_append, List.flatten_singleton] at hparsed
    obtain ⟨sent, hsent⟩ := h.reached.feed_ok hparsed now sentAt
    have hcall := h.call (c := .feed text (.ok now) (.ok sentAt)) trivial hsent .idle
      (by rw [hrequest]; rfl)
    exact ⟨_, hcall⟩
  · exact .inr ⟨calls, h.receive_ended check hall hwhole now sentAt⟩

/-- Every move leaves a delivery going on, or ends it with the reply. -/
theorem Relaying.step (h : Relaying fields window pieces failure calls r)
    (hread : ReadThroughout fields pieces)
    (hwhole : failure = none → ∃ m, parse pieces.flatten fields = .ok m) (m : Move τ) :
    (∃ calls', Relaying fields window pieces failure calls' (r.step check m)) ∨
      ∃ calls', Relayed fields window pieces failure check calls' (r.step check m) := by
  rcases moved_or_eq check r m with ⟨r', hmoved⟩ | hstay
  · rw [hmoved.step_eq]
    cases hmoved with
    | put htoCome _ => exact .inl ⟨calls, h.move (by simp [htoCome])⟩
    | ask _ hrequest => exact .inl ⟨calls, h.move (by rw [hrequest]; rfl)⟩
    | answer hrequest hqueue => exact .inl ⟨calls, h.move (by rw [hrequest, hqueue]; rfl)⟩
    | receive now sentAt _ hrequest => exact h.receive check hread hwhole hrequest now sentAt
    | wake now sentAt _ hrequest =>
      obtain ⟨sent, hsent⟩ := poll_ok r.session now sentAt
      have hcall := h.call (c := .poll (.ok now) (.ok sentAt)) trivial hsent .waiting
        (by rw [hrequest]; rfl)
      simp only [Call.piece?, Option.toList_none, List.append_nil] at hcall
      exact .inl ⟨_, hcall⟩
  · rw [hstay]
    exact .inl ⟨calls, h⟩

/-- A delivery that has ended with the reply is over. -/
theorem Relayed.over (h : Relayed fields window pieces failure check calls r) :
    r.result ≠ none := by
  obtain ⟨-, -, -, houtcome⟩ := h
  cases failure with
  | some e => simp [houtcome.1]
  | none =>
    obtain ⟨now, final, -, hresult, -⟩ := houtcome
    simp [hresult]

/-- No move changes what a delivery has come to. -/
theorem Relayed.step (h : Relayed fields window pieces failure check calls r) (m : Move τ) :
    Relayed fields window pieces failure check calls (r.step check m) := by
  rcases moved_or_eq check r m with ⟨r', hmoved⟩ | hstay
  · rw [hmoved.step_eq]
    cases hmoved with
    | put | answer => exact ⟨h.opened, h.fed, h.taken, h.outcome⟩
    | ask hopen | receive _ _ hopen | wake _ _ hopen => exact absurd hopen h.over
  · rwa [hstay]

/-- A run leaves a delivery going on, or ends it with the reply. -/
theorem relaying_or_relayed_run (fields : List Field) (window : τ) (pieces : List (List Char))
    (failure : Option Failure) (room : Option Nat) (hread : ReadThroughout fields pieces)
    (hwhole : failure = none → ∃ m, parse pieces.flatten fields = .ok m) (moves : List (Move τ)) :
    let r := (start pieces failure room (Session.start fields window)).run check moves
    (∃ calls, Relaying fields window pieces failure calls r) ∨
      ∃ calls, Relayed fields window pieces failure check calls r := by
  induction moves using List.reverseRecOn with
  | nil => exact .inl ⟨[], relaying_start fields window pieces failure room⟩
  | append_singleton moves m ih =>
    rw [run_concat]
    rcases ih with ⟨calls, h⟩ | ⟨calls, h⟩
    · exact h.step check hread hwhole m
    · exact .inr ⟨calls, h.step check m⟩

end Steps

/-! ## The timed run of a delivery -/

/-- As long as a delivery goes on nothing is in the queue, and nothing answers the request. -/
def Rests (r : Relay τ) : Prop := r.result = none → r.queue = [] ∧ r.request.held = []

/-- A delivery that goes on and rests can have a request that waits. -/
theorem Rests.step_ask {r : Relay τ} (h : Rests r) (hopen : r.result = none)
    (check : Outputs → Except Failure Entries) :
    r.step check .ask = { r with request := .waiting } := by
  obtain ⟨-, hheld⟩ := h hopen
  cases hrequest : r.request with
  | idle => exact (Moved.ask hopen hrequest).step_eq
  | waiting =>
    simp only [Relay.step, hopen, hrequest]
    rw [← hrequest]
  | answered item =>
    rw [hrequest] at hheld
    cases hheld

/-- Moves let time pass as the timed run does. -/
theorem Rests.exists_moves_passTime [Add τ] {r : Relay τ} (h : Rests r)
    (check : Outputs → Except Failure Entries) (arrival : τ) :
    ∃ moves, (r.run check moves).toDelivery = r.toDelivery.passTime check arrival ∧
      Rests (r.run check moves) := by
  unfold Delivery.passTime
  split
  · next t ht =>
    split
    · have hopen : r.result = none := by
        unfold wakeTime at ht
        cases hresult : r.result with
        | none => rfl
        | some result => simp [hresult] at ht
      obtain ⟨sent, hsent⟩ := poll_ok r.session t t
      have hrun : r.run check [.ask, .wake t t] =
          ⟨r.toDelivery.take (r.session.poll (.ok t) (.ok t)), .waiting⟩ := by
        unfold run
        simp only [List.foldl_cons, List.foldl_nil, h.step_ask hopen check]
        simp only [Relay.step, hopen]
      refine ⟨[.ask, .wake t t], ?_, ?_⟩
      · rw [hrun]
        unfold Delivery.step
        simp only [hopen]
      · rw [hrun, take_of_ok _ hsent]
        exact fun _ => ⟨(h hopen).1, rfl⟩
    · exact ⟨[], rfl, h⟩
  · exact ⟨[], rfl, h⟩

/-- Moves take an item in when it arrives as the timed run does. -/
theorem Rests.exists_moves_arrival {r : Relay τ} (h : Rests r)
    (check : Outputs → Except Failure Entries) (arrival : τ) :
    ∃ moves, (r.run check moves).toDelivery =
        (r.toDelivery.put).step check (.take arrival arrival) ∧ Rests (r.run check moves) := by
  cases hopen : r.result with
  | some result =>
    have hover : r.toDelivery.put.result = some result := by
      rcases r.toDelivery.put_cases with hput | ⟨item, rest, -, hput⟩ <;> rw [hput] <;> exact hopen
    refine ⟨[.put], ?_, fun hnone => ?_⟩
    · simp only [Delivery.step, hover]
      rfl
    · cases hover.symm.trans hnone
  | none =>
    obtain ⟨hqueue, -⟩ := h hopen
    have hask := h.step_ask hopen check
    rcases r.toDelivery.put_cases with hput | ⟨item, rest, htoCome, hput⟩
    · -- Nothing comes into the queue, so that nothing is taken out.
      refine ⟨[], ?_, h⟩
      rw [hput]
      simp only [Delivery.step, hopen, hqueue]
      rfl
    · rw [hqueue, List.nil_append] at hput
      have hrun : r.run check [.ask, .put, .answer, .receive arrival arrival] =
          ⟨Delivery.receive check { r.toDelivery with toCome := rest, queue := [] } arrival arrival
            item, .idle⟩ := by
        unfold run
        simp only [List.foldl_cons, List.foldl_nil, hask]
        simp only [Relay.step, hput, hopen]
      refine ⟨[.ask, .put, .answer, .receive arrival arrival], ?_, ?_⟩
      · rw [hrun, hput]
        simp only [Delivery.step, hopen]
      · rw [hrun]
        exact fun _ => ⟨(items_receive check _ arrival arrival item).1, rfl⟩

/-- The timed run of a delivery is a run with requests. -/
theorem Rests.exists_moves_runTimed [Add τ] {r : Relay τ} (h : Rests r)
    (check : Outputs → Except Failure Entries) (wanted : Option Nat) (arrivals : List τ) :
    ∃ moves, (r.run check moves).toDelivery = r.toDelivery.runTimed check wanted arrivals := by
  induction arrivals generalizing r with
  | nil => exact ⟨[], rfl⟩
  | cons arrival arrivals ih =>
    rw [runTimed]
    split
    · exact ⟨[], rfl⟩
    · obtain ⟨before, hbefore, hrests⟩ := h.exists_moves_passTime check arrival
      simp only
      split
      · exact ⟨before, hbefore⟩
      · obtain ⟨taking, htaking, hrests'⟩ := hrests.exists_moves_arrival check arrival
        obtain ⟨moves, hmoves⟩ := ih hrests'
        refine ⟨before ++ (taking ++ moves), ?_⟩
        rw [run_append, run_append, hmoves, htaking, hbefore]
        rfl

end Start

end Relay

end PromptContract
