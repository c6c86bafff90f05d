import PromptContract.Proofs.Session.Run

/-!
# Values stay

What a session has shown of a field it keeps showing (`_merge`), in whatever order it is fed, polled
and ended, and whatever readings of the clock and texts of fields fail on the way. Every map of its
history has the names of the fields, and a field that has a value in one has one in all that come
later (`history_stays`).

A session at any time is `Shaped`, whether it is ended or not: its map has the names of the fields,
and once it is ended the last map sent is the one that it keeps. What a call does to such a session
is said by `Advances`, once for each kind of call.
-/

namespace PromptContract.Session

open Reply

variable {τ : Type}

/-- Every field that has a value in one map has one in the other. -/
def Stays (m n : Outputs) : Prop := ∀ name, m.get name ≠ none → n.get name ≠ none

/-- Values stay in a map that is left as it is. -/
theorem Stays.rfl {m : Outputs} : Stays m m := fun _ h => h

/-- What stays in a map stays where that one's values stay. -/
theorem Stays.trans {m n o : Outputs} (h : Stays m n) (h' : Stays n o) : Stays m o :=
  fun name hm => h' name (h name hm)

/-- Values stay when those of parsed fields are taken over. -/
theorem stays_foldl_mergeField (final : Bool) (parsed : List ParsedField) (m : Outputs) :
    Stays m (parsed.foldl (mergeField final) m) := by
  intro name hm
  rcases get_foldl_mergeField final parsed m name with hkept | ⟨p, -, v, -, -, hnew⟩
  · rw [hkept]
    exact hm
  · rw [hnew]
    exact Option.some_ne_none v

/-- What holds of a session over the fields at any time. -/
structure Shaped (fields : List Field) (s : Session τ) : Prop where
  fields_eq : s.fields = fields
  /-- The map has the names of the fields. -/
  names : s.latest.map (·.1) = (blank fields).map (·.1)
  /-- An ended session has sent the map that it has. -/
  ended : s.state = .done → s.lastSent = s.latest

/-- A session starts with the empty map of the fields. -/
theorem shaped_start (fields : List Field) (window : τ) : Shaped fields (start fields window) where
  fields_eq := rfl
  names := rfl
  ended := fun h => by cases h

/-- A step goes on from a session: it leads to a session over the same fields, in whose map the
values stay, and sends that map if it sends one. -/
structure Advances (fields : List Field) (s : Session τ) (step : Step τ) : Prop where
  shaped : Shaped fields step.2
  stays : Stays s.latest step.2.latest
  sent : ∀ m, sent? step.1 = some m → m = step.2.latest

section Steps

variable {fields : List Field} {s : Session τ} (h : Shaped fields s)

include h

/-- A session whose values were taken over is as it should be, until it is ended. -/
theorem Shaped.taken (hopen : s.state ≠ .done) (final : Bool) {scanner : Scanner} {hold : Bool}
    {parsed : List ParsedField} (hparsed : resolve scanner hold s.fields = .ok parsed)
    (pieces : Nat) : Shaped fields { s with
      pieces, scanner, latest := parsed.foldl (mergeField final) s.latest } where
  fields_eq := h.fields_eq
  names := names_of_taken h.names final (h.fields_eq ▸ hparsed)
  ended := fun hdone => absurd hdone hopen

/-- Ending a session goes on from it. -/
theorem Shaped.finish (now : ClockReading τ) :
    Advances fields s ((s.finish now).1.map some, (s.finish now).2) := by
  have hending := ending_finish s now
  generalize s.finish now = result at hending ⊢
  cases hending with
  | again hdone =>
    -- The last map is given once more.
    exact ⟨h, .rfl, fun m hm => (Option.some.inj hm).symm.trans (h.ended hdone)⟩
  | unreadable => exact ⟨h, .rfl, fun m hm => by cases hm⟩
  | unread hopen hresolve =>
    have htaken := h.taken hopen true hresolve s.pieces
    exact ⟨⟨h.fields_eq, htaken.names, fun hdone => absurd hdone hopen⟩,
      stays_foldl_mergeField true _ s.latest, fun m hm => by cases hm⟩
  | sent hopen hresolve =>
    have htaken := h.taken hopen true hresolve s.pieces
    exact ⟨⟨h.fields_eq, htaken.names, fun _ => rfl⟩, stays_foldl_mergeField true _ s.latest,
      fun m hm => (Option.some.inj hm).symm⟩

variable [Sub τ] [OfNat τ 0] [LT τ] [DecidableLT τ]

/-- Polling a session goes on from it. -/
theorem Shaped.poll (now sentAt : ClockReading τ) : Advances fields s (s.poll now sentAt) := by
  by_cases hdone : s.state = .done
  · rw [poll_of_done hdone]
    exact ⟨h, .rfl, fun m hm => by cases hm⟩
  · have hkeeps := keeps_poll s now sentAt
    refine ⟨⟨hkeeps.fields.trans h.fields_eq, by rw [hkeeps.latest, h.names],
      fun hdone' => absurd hdone' (hkeeps.not_done hdone)⟩, by rw [hkeeps.latest]; exact .rfl,
      fun m hm => latest_of_sent? hdone (c := .poll now sentAt) trivial hm⟩

/-- Feeding a session goes on from it. -/
theorem Shaped.feed (piece : List Char) (now sentAt : ClockReading τ) :
    Advances fields s (s.feed piece now sentAt) := by
  by_cases hdone : s.state = .done
  · rw [feed_of_done hdone]
    exact ⟨h, .rfl, fun m hm => by cases hm⟩
  · rcases feed_cases s piece now sentAt hdone with ⟨e, -, heq⟩ | ⟨parsed, hparsed, heq⟩
    · rw [heq]
      exact ⟨⟨h.fields_eq, h.names, h.ended⟩, .rfl, fun m hm => by cases hm⟩
    · rw [heq]
      -- What is taken over is polled then.
      have hpoll := (h.taken hdone false hparsed (s.pieces + 1)).poll now sentAt
      exact ⟨hpoll.shaped, (stays_foldl_mergeField false parsed s.latest).trans hpoll.stays,
        hpoll.sent⟩

/-- Every call goes on from a session. -/
theorem Shaped.call (c : Call τ) : Advances fields s (s.call c) := by
  cases c with
  | feed piece now sentAt => exact h.feed piece now sentAt
  | poll now sentAt => exact h.poll now sentAt
  | finish now => exact h.finish now

end Steps

variable [Sub τ] [OfNat τ 0] [LT τ] [DecidableLT τ]

/-- The maps of a session while calls are made, in their order: the one that it has, and then, for
each call, the one that goes out if one does, and the one that the session has behind the call. -/
def history (s : Session τ) : List (Call τ) → List Outputs
  | [] => [s.latest]
  | c :: calls => s.latest :: ((sent? (s.call c).1).toList ++ history (s.call c).2 calls)

/-- In the history of a session every map has the names of the fields, and values stay, from the map
that the session has at first and from every map to the later ones. -/
theorem Shaped.history {fields : List Field} {s : Session τ} (h : Shaped fields s)
    (calls : List (Call τ)) :
    (∀ m ∈ s.history calls, m.map (·.1) = (blank fields).map (·.1) ∧ Stays s.latest m) ∧
      (s.history calls).Pairwise Stays := by
  induction calls generalizing s with
  | nil =>
    refine ⟨fun m hm => ?_, List.pairwise_singleton _ _⟩
    obtain rfl := List.mem_singleton.mp hm
    exact ⟨h.names, .rfl⟩
  | cons c calls ih =>
    have hstep := h.call c
    obtain ⟨hall, hpairs⟩ := ih hstep.shaped
    -- What the call sends is the map behind it, from which the values stay in all the later ones.
    have hbehind : ∀ m ∈ (sent? (s.call c).1).toList ++ (s.call c).2.history calls,
        m.map (·.1) = (blank fields).map (·.1) ∧ Stays (s.call c).2.latest m := by
      intro m hm
      rcases List.mem_append.mp hm with hsent | hlater
      · obtain rfl := hstep.sent m (Option.mem_toList.mp hsent)
        exact ⟨hstep.shaped.names, .rfl⟩
      · exact hall m hlater
    have hrest : ((sent? (s.call c).1).toList ++ (s.call c).2.history calls).Pairwise Stays := by
      cases hsent : sent? (s.call c).1 with
      | none => exact hpairs
      | some m =>
        obtain rfl := hstep.sent m hsent
        exact List.pairwise_cons.mpr ⟨fun n hn => (hall n hn).2, hpairs⟩
    rw [Session.history]
    refine ⟨fun m hm => ?_, List.pairwise_cons.mpr ⟨fun m hm => ?_, hrest⟩⟩
    · rcases List.mem_cons.mp hm with rfl | hm
      · exact ⟨h.names, .rfl⟩
      · exact ⟨(hbehind m hm).1, hstep.stays.trans (hbehind m hm).2⟩
    · exact hstep.stays.trans (hbehind m hm).2

/-- Whatever calls are made, every map that a session has or gives has the names of the fields in
their order, each once and at its first place, and a field that has a value in one of these maps has
one in all the later ones. -/
theorem history_stays (fields : List Field) (window : τ) (calls : List (Call τ)) :
    (∀ m ∈ (start fields window).history calls,
      m.map (·.1) = (fields.map (·.name)).eraseDupsBy (fun n n' => n.text == n'.text)) ∧
    ((start fields window).history calls).Pairwise
      fun m n => ∀ name, m.get name ≠ none → n.get name ≠ none := by
  obtain ⟨hall, hpairs⟩ := (shaped_start fields window).history calls
  refine ⟨fun m hm => ?_, hpairs⟩
  rw [(hall m hm).1, blank, Outputs.names_foldl_put, Outputs.distinct_eq]
  simp

end PromptContract.Session
