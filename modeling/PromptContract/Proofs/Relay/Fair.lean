import PromptContract.Proofs.Relay.Run

/-!
# A delivery that goes on comes to its end

A delivery ends where its sides go on: every kind of move but waking up is made again and again
(`Fair`). Waking up changes nothing between the transport and the session, and every other move that
is possible leaves less to be done (`Moved.left_lt`). As long as the delivery goes on one of them is
possible, it stays so until something is done, and at some time it is made (`Fair.exists_possible`,
`exists_left_lt`). So every piece reaches the session, in order and once, before the delivery ends
(`relayed_in_order`).
-/

namespace PromptContract

open Reply Reply.Scanner Session Delivery

variable {τ : Type}

/-- What a request has yet to go through, and what it has brought. -/
def Request.weight : Request → ℕ
  | .idle => 1
  | .waiting => 0
  | .answered _ => 2

namespace Relay

/-- Every kind of move but waking up is made again and again. -/
structure Fair (schedule : ℕ → Move τ) : Prop where
  put : ∀ n, ∃ m, n ≤ m ∧ schedule m = .put
  ask : ∀ n, ∃ m, n ≤ m ∧ schedule m = .ask
  answer : ∀ n, ∃ m, n ≤ m ∧ schedule m = .answer
  receive : ∀ n, ∃ m, n ≤ m ∧ ∃ now sentAt, schedule m = .receive now sentAt

/-- The moves of a schedule before a time. -/
def before (schedule : ℕ → Move τ) (n : ℕ) : List (Move τ) := (List.range n).map schedule

/-- One time later, one more move is made. -/
theorem before_succ (schedule : ℕ → Move τ) (n : ℕ) :
    before schedule (n + 1) = before schedule n ++ [schedule n] := by
  unfold before
  rw [List.range_succ, List.map_append]
  rfl

/-- How much is to be done: an item is put into the queue, handed out and taken in, and the request
for the next one is made. -/
def left (r : Relay τ) : ℕ := 4 * r.toCome.length + 3 * r.queue.length + r.request.weight

/-- Two states are alike but for the session, and what it was fed and sent. -/
structure SamePlace (r r' : Relay τ) : Prop where
  result : r'.result = r.result
  request : r'.request = r.request
  queue : r'.queue = r.queue
  toCome : r'.toCome = r.toCome
  room : r'.room = r.room

/-- A state is like itself. -/
theorem SamePlace.refl (r : Relay τ) : SamePlace r r := ⟨rfl, rfl, rfl, rfl, rfl⟩

/-- What is like one of two states that are alike is like the other. -/
theorem SamePlace.trans {r r' r'' : Relay τ} (h : SamePlace r r') (h' : SamePlace r' r'') :
    SamePlace r r'' :=
  ⟨h'.result.trans h.result, h'.request.trans h.request, h'.queue.trans h.queue,
    h'.toCome.trans h.toCome, h'.room.trans h.room⟩

/-- In states that are alike as much is to be done. -/
theorem SamePlace.left_eq {r r' : Relay τ} (h : SamePlace r r') : r'.left = r.left := by
  unfold left
  rw [h.toCome, h.queue, h.request]

variable [Sub τ] [OfNat τ 0] [LT τ] [DecidableLT τ]
variable {check : Outputs → Except Failure Entries} {r r' : Relay τ} {m : Move τ}

/-- A move that is possible leaves less to be done, unless it is to wake up, which leaves the state
alike. Neither changes the room in the queue. -/
theorem Moved.left_lt (h : Moved check r m r') :
    ((∃ now sentAt, m = .wake now sentAt) ∧ SamePlace r r' ∨ r'.left < r.left) ∧
      r'.room = r.room := by
  cases h with
  | put htoCome _ =>
    refine ⟨.inr ?_, rfl⟩
    simp only [left, htoCome, List.length_append, List.length_cons, List.length_nil]
    omega
  | ask _ hrequest =>
    refine ⟨.inr ?_, rfl⟩
    simp [left, hrequest, Request.weight]
  | answer hrequest hqueue =>
    refine ⟨.inr ?_, rfl⟩
    simp only [left, hrequest, hqueue, List.length_cons, Request.weight]
    omega
  | @receive item now sentAt _ hrequest =>
    obtain ⟨hqueue, htoCome, hroom⟩ := items_receive check r.toDelivery now sentAt item
    refine ⟨.inr ?_, hroom⟩
    simp only [left, hrequest, hqueue, htoCome, Request.weight]
    omega
  | wake now sentAt hopen hrequest =>
    obtain ⟨sent, hsent⟩ := poll_ok r.session now sentAt
    rw [take_of_ok _ hsent]
    exact ⟨.inl ⟨⟨now, sentAt, rfl⟩, ⟨rfl, hrequest.symm, rfl, rfl, rfl⟩⟩, rfl⟩

/-- A step leaves less to be done, or the state alike. -/
theorem step_left_lt_or_same (check : Outputs → Except Failure Entries) (r : Relay τ) (m : Move τ) :
    (r.step check m).left < r.left ∨ SamePlace r (r.step check m) := by
  rcases moved_or_eq check r m with ⟨r', hmoved⟩ | hstay
  · rw [hmoved.step_eq]
    rcases hmoved.left_lt.1 with ⟨-, hsame⟩ | hlt
    · exact .inr hsame
    · exact .inl hlt
  · rw [hstay]
    exact .inr (.refl r)

/-- No run changes the room in the queue. -/
theorem room_run (check : Outputs → Except Failure Entries) (r : Relay τ) (moves : List (Move τ)) :
    (r.run check moves).room = r.room := by
  induction moves using List.reverseRecOn with
  | nil => rfl
  | append_singleton moves m ih =>
    rw [run_concat, ← ih]
    rcases moved_or_eq check (r.run check moves) m with ⟨r', hmoved⟩ | hstay
    · rw [hmoved.step_eq]
      exact hmoved.left_lt.2
    · rw [hstay]

/-- A move that is possible in a state is possible in those that are alike. -/
theorem SamePlace.possible (h : SamePlace r r') (hmoved : ∃ s, Moved check r m s) :
    ∃ s, Moved check r' m s := by
  obtain ⟨s, hmoved⟩ := hmoved
  cases hmoved with
  | put htoCome hroom =>
    refine ⟨_, .put (h.toCome.trans htoCome) ?_⟩
    unfold hasRoom at hroom ⊢
    rwa [h.room, h.queue]
  | ask hopen hrequest => exact ⟨_, .ask (h.result.trans hopen) (h.request.trans hrequest)⟩
  | answer hrequest hqueue =>
    exact ⟨_, .answer (h.request.trans hrequest) (h.queue.trans hqueue)⟩
  | receive now sentAt hopen hrequest =>
    exact ⟨_, .receive now sentAt (h.result.trans hopen) (h.request.trans hrequest)⟩
  | wake now sentAt hopen hrequest =>
    exact ⟨_, .wake now sentAt (h.result.trans hopen) (h.request.trans hrequest)⟩

section Schedule

variable {origin : Relay τ} {schedule : ℕ → Move τ} {n : ℕ}

/-- Later the state is alike, or something was done. -/
theorem left_lt_or_same_of_le {m : ℕ} (hle : n ≤ m) :
    (origin.run check (before schedule m)).left < (origin.run check (before schedule n)).left ∨
      SamePlace (origin.run check (before schedule n)) (origin.run check (before schedule m)) := by
  induction m, hle using Nat.le_induction with
  | base => exact .inr (.refl _)
  | succ m _ ih =>
    rw [before_succ, run_concat]
    rcases step_left_lt_or_same check (origin.run check (before schedule m)) (schedule m) with
      hlt | hsame
    · rcases ih with hlt' | hsame'
      · exact .inl (hlt.trans hlt')
      · exact .inl (hsame'.left_eq ▸ hlt)
    · rcases ih with hlt' | hsame'
      · exact .inl (hsame.left_eq ▸ hlt')
      · exact .inr (hsame'.trans hsame)

/-- Where a move that is made later is possible, and does not just wake up, something is done when
it is made, if not before. -/
theorem exists_left_lt (hlater : ∃ m, n ≤ m ∧
      (∃ r, Moved check (origin.run check (before schedule n)) (schedule m) r) ∧
      ∀ now sentAt, schedule m ≠ .wake now sentAt) :
    ∃ k, (origin.run check (before schedule k)).left <
      (origin.run check (before schedule n)).left := by
  obtain ⟨m, hle, hpossible, hdoes⟩ := hlater
  have hkept : _ ∨ SamePlace (origin.run check (before schedule n))
      (origin.run check (before schedule m)) := left_lt_or_same_of_le hle
  rcases hkept with hlt | hsame
  · exact ⟨m, hlt⟩
  · obtain ⟨r, hmoved⟩ := hsame.possible hpossible
    refine ⟨m + 1, ?_⟩
    rw [before_succ, run_concat, hmoved.step_eq, ← hsame.left_eq]
    rcases hmoved.left_lt.1 with ⟨⟨now, sentAt, hwake⟩, -⟩ | hlt
    · exact absurd hwake (hdoes now sentAt)
    · exact hlt

variable {fields : List Field} {window : τ} {pieces : List (List Char)} {failure : Option Failure}
  {calls : List (Call τ)}

/-- As long as a delivery with room in its queue goes on, a fair schedule makes a move that is
possible, and does not just wake up. -/
theorem Fair.exists_possible (hfair : Fair schedule)
    (h : Relaying fields window pieces failure calls r) (hroom : r.room ≠ some 0)
    (check : Outputs → Except Failure Entries) (n : ℕ) :
    ∃ m, n ≤ m ∧ (∃ s, Moved check r (schedule m) s) ∧
      ∀ now sentAt, schedule m ≠ .wake now sentAt := by
  cases hrequest : r.request with
  | idle =>
    obtain ⟨m, hle, heq⟩ := hfair.ask n
    exact ⟨m, hle, heq ▸ ⟨_, .ask h.not_over hrequest⟩, by simp [heq]⟩
  | answered item =>
    obtain ⟨m, hle, now, sentAt, heq⟩ := hfair.receive n
    exact ⟨m, hle, heq ▸ ⟨_, .receive now sentAt h.not_over hrequest⟩, by simp [heq]⟩
  | waiting =>
    cases hqueue : r.queue with
    | cons item rest =>
      obtain ⟨m, hle, heq⟩ := hfair.answer n
      exact ⟨m, hle, heq ▸ ⟨_, .answer hrequest hqueue⟩, by simp [heq]⟩
    | nil =>
      -- The end of the reply must still be to come.
      have hrest := rest_ne_nil h.items
      rw [hrequest, hqueue] at hrest
      obtain ⟨item, rest, htoCome⟩ := List.exists_cons_of_ne_nil hrest
      obtain ⟨m, hle, heq⟩ := hfair.put n
      exact ⟨m, hle, heq ▸ ⟨_, .put htoCome (hasRoom_of_nil hroom hqueue)⟩, by simp [heq]⟩

/-- A delivery with room in its queue that is made to go on by a fair schedule ends with the reply.
-/
theorem exists_relayed (check : Outputs → Except Failure Entries)
    (hread : ReadThroughout fields pieces)
    (hwhole : failure = none → ∃ m, parse pieces.flatten fields = .ok m) {room : Option Nat}
    (hroom : room ≠ some 0) (hfair : Fair schedule) : ∃ n calls,
      Relayed fields window pieces failure check calls
        ((start pieces failure room (Session.start fields window)).run check
          (before schedule n)) := by
  suffices hends : ∀ k n, ((start pieces failure room (Session.start fields window)).run check
      (before schedule n)).left = k → ∃ n calls, Relayed fields window pieces failure check calls
        ((start pieces failure room (Session.start fields window)).run check
          (before schedule n)) from hends _ 0 rfl
  intro k
  induction k using Nat.strong_induction_on with
  | _ k ih =>
    rintro n rfl
    rcases relaying_or_relayed_run check fields window pieces failure room hread hwhole
      (before schedule n) with ⟨calls, h⟩ | ⟨calls, h⟩
    · obtain ⟨n', hless⟩ :=
        exists_left_lt (hfair.exists_possible h (by rwa [room_run]) check n)
      exact ih _ hless n' rfl
    · exact ⟨n, calls, h⟩

end Schedule

/-- Where a reply can be read on the way, and at its end if it ends well, what the session was fed
is at every point of a delivery the beginning of its pieces, in whatever order and whenever the two
sides and the queue move. When the delivery is over all of them were fed, and it has ended with the
failure of the reply, or with the final map, checked. It comes to that wherever its sides go on and
there is room in the queue. The timed run of a delivery is one of these runs. -/
theorem relayed_in_order [Add τ] (fields : List Field) (window : τ) (pieces : List (List Char))
    (failure : Option Failure) (room : Option Nat) (check : Outputs → Except Failure Entries)
    (hread : ReadThroughout fields pieces)
    (hwhole : failure = none → ∃ m, parse pieces.flatten fields = .ok m) :
    let origin := start pieces failure room (Session.start fields window)
    (∀ moves, (origin.run check moves).taken <+: pieces ∧
      ((∃ calls, Relaying fields window pieces failure calls (origin.run check moves)) ∨
        ∃ calls, Relayed fields window pieces failure check calls (origin.run check moves))) ∧
    (room ≠ some 0 → ∀ schedule, Fair schedule → ∃ n calls,
      Relayed fields window pieces failure check calls
        (origin.run check (before schedule n))) ∧
    ∀ wanted arrivals, ∃ moves, (origin.run check moves).toDelivery =
      (Delivery.start pieces failure room (Session.start fields window)).runTimed check wanted
        arrivals := by
  intro origin
  refine ⟨fun moves => ?_, fun hroom schedule hfair => ?_, fun wanted arrivals => ?_⟩
  · have hrun := relaying_or_relayed_run check fields window pieces failure room hread hwhole moves
    refine ⟨?_, hrun⟩
    rcases hrun with ⟨calls, h⟩ | ⟨calls, h⟩
    · exact h.taken_prefix
    · exact h.taken ▸ List.prefix_rfl
  · exact exists_relayed check hread hwhole hroom hfair
  · exact Rests.exists_moves_runTimed (fun _ => ⟨rfl, rfl⟩) check wanted arrivals

/-- A piece that answers a request which a window has outlasted is not lost, nor is the one that
waits until there is room in the queue for it. -/
theorem relayed_in_order_waiting :
    let fields : List Field := [⟨.given "n", .int, .text "", .bool true, none⟩]
    let pieces := ["[[ ## n ## ]]\n1".toList, "2".toList, "3".toList]
    let moves : List (Move Int) := [.ask, .put, .answer, .put, .put, .receive 0 0, .ask, .answer,
      .put, .receive 5 5, .ask, .wake 110 110, .answer, .put, .receive 120 120, .ask, .answer,
      .receive 130 130]
    let r := (start pieces none (some 1) (Session.start fields 100)).run (fun m => .ok m.toEntries)
      moves
    ReadThroughout fields pieces ∧ (∃ m, parse pieces.flatten fields = .ok m) ∧
      r.result ≠ none ∧ r.taken = pieces := by
  intro fields pieces moves r
  have hread : ReadThroughout fields pieces := by decide
  have hwhole : ∃ m, parse pieces.flatten fields = .ok m := ⟨_, rfl⟩
  have hover : r.result ≠ none := by decide
  obtain ⟨hruns, -, -⟩ := relayed_in_order fields (100 : Int) pieces none (some 1)
    (fun m => .ok m.toEntries) hread fun _ => hwhole
  have hrun : (∃ calls, Relaying _ _ _ _ calls r) ∨ ∃ calls, Relayed _ _ _ _ _ calls r :=
    (hruns moves).2
  -- From here on the run is not to be computed again.
  clear_value r
  refine ⟨hread, hwhole, hover, ?_⟩
  rcases hrun with ⟨calls, h⟩ | ⟨calls, h⟩
  · exact absurd h.not_over hover
  · exact h.taken

end Relay

end PromptContract
