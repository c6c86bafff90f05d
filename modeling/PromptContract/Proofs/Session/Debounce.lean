import Mathlib.Algebra.Order.Group.Defs
import Mathlib.Algebra.Order.Group.Int
import Mathlib.Algebra.Order.Sub.Basic
import PromptContract.Proofs.Session.Legible

/-!
# When an update goes out

What an open session remembers of the last map sent is what the calls before have sent (`Accounts`),
and every call keeps it so. A piece or a poll (`StreamReassembler.feed`, `StreamReassembler.poll`)
therefore sends the values behind it exactly where they differ from the last map sent and the window
since then has passed (`updates_exact`); the first values go out at once, and a map without values
never does. The clock is read exactly and does not go back, and nothing more is asked of it: the two
readings of one call may differ.
-/

namespace PromptContract.Session

open Reply Numeral Text

variable {τ : Type}

/-! ## Maps that differ -/

/-- Two maps differ at a field, by value, where the value that is no number is one value. -/
def Differs (fields : List Field) (m n : Outputs) : Prop :=
  ∃ f ∈ fields, Outputs.sameValue (m.get f.name) (n.get f.name) = false

/-- A map has a value for a field. -/
def HasValue (fields : List Field) (m : Outputs) : Prop := ∃ f ∈ fields, m.get f.name ≠ none

/-- A map over the fields is unchanged against another one unless they differ at a field. -/
theorem unchanged_eq_false_iff {fields : List Field} {m : Outputs}
    (hnames : m.map (·.1) = (blank fields).map (·.1)) (n : Outputs) :
    m.unchanged n = false ↔ Differs fields m n := by
  have hdistinct : m.map (·.1) = Outputs.distinct [] (fields.map (·.name)) := by
    rw [hnames, blank, Outputs.names_foldl_put]
    rfl
  have hnodup : ((m.map (·.1)).map Name.text).Nodup := by
    rw [hdistinct]
    exact @Outputs.nodup_distinct [] List.nodup_nil _
  unfold Outputs.unchanged
  rw [List.all_eq_false]
  simp only [Bool.not_eq_true]
  constructor
  · rintro ⟨e, he, hdiffers⟩
    -- The names are those of the fields, so that an entry is that of a field.
    have hmem : e.1 ∈ Outputs.distinct [] (fields.map (·.name)) :=
      hdistinct ▸ List.mem_map_of_mem he
    obtain hnil | hmem := Outputs.mem_of_mem_distinct hmem
    · cases hnil
    · obtain ⟨f, hf, hname⟩ := List.mem_map.mp hmem
      refine ⟨f, hf, ?_⟩
      rw [hname, Outputs.get_of_mem hnodup he]
      exact hdiffers
  · rintro ⟨f, hf, hdiffers⟩
    have hhas : m.Has f.name := (Outputs.has_congr hnames f.name).mpr (has_blank ⟨f, hf, rfl⟩)
    obtain ⟨e, he, hname⟩ := List.mem_map.mp hhas
    refine ⟨e, he, ?_⟩
    rw [← Outputs.get_of_mem hnodup he, Outputs.get_congr m hname, Outputs.get_congr n hname]
    exact hdiffers

/-- A map without values differs from no map whose values stay in it. -/
theorem hasValue_of_differs {fields : List Field} {m n : Outputs} (h : Differs fields m n)
    (hstays : Stays n m) : HasValue fields m := by
  obtain ⟨f, hf, hdiffers⟩ := h
  refine ⟨f, hf, fun hnone => ?_⟩
  have hnone' : n.get f.name = none := not_not.mp (mt (hstays f.name) (not_not.mpr hnone))
  rw [hnone, hnone'] at hdiffers
  cases hdiffers

/-- A map with a value differs from one without. -/
theorem differs_of_hasValue {fields : List Field} {m n : Outputs} (h : HasValue fields m)
    (hno : ¬HasValue fields n) : Differs fields m n := by
  obtain ⟨f, hf, hsome⟩ := h
  have hnone : n.get f.name = none := by
    by_contra hn
    exact hno ⟨f, hf, hn⟩
  obtain ⟨v, hv⟩ := Option.ne_none_iff_exists'.mp hsome
  refine ⟨f, hf, ?_⟩
  rw [hv, hnone]
  rfl

/-! ## What was sent -/

/-- The readings of the clock that a call makes, in their order. -/
def Call.readings : Call τ → List (ClockReading τ)
  | .feed _ now sentAt | .poll now sentAt => [now, sentAt]
  | .finish now => [now]

/-- The reading of the clock that a call notes if it sends a map. -/
def Call.noted : Call τ → ClockReading τ
  | .feed _ _ sentAt | .poll _ sentAt => sentAt
  | .finish now => now

/-- A piece or a poll, at readings of the clock. -/
def Call.update (piece : Option (List Char)) (now sentAt : τ) : Call τ :=
  match piece with
  | some text => .feed text (.ok now) (.ok sentAt)
  | none => .poll (.ok now) (.ok sentAt)

/-- Calls that are made by a clock that can always be read and never goes back. -/
def Timed [LE τ] (calls : List (Call τ)) : Prop :=
  ∃ times : List τ, calls.flatMap Call.readings = times.map .ok ∧ times.Pairwise (· ≤ ·)

/-- The readings of a timed update are exact, those of the calls before included, and the second is
not before the first. -/
theorem Timed.of_update [LE τ] {earlier : List (Call τ)} {piece : Option (List Char)}
    {now sentAt : τ}
    (h : Timed (earlier ++ [.update piece now sentAt])) :
    (∀ c ∈ earlier, ∀ r ∈ c.readings, ∃ t, r = .ok t) ∧ now ≤ sentAt := by
  obtain ⟨times, hreadings, hsorted⟩ := h
  have hupdate : (Call.update piece now sentAt).readings = [.ok now, .ok sentAt] := by
    cases piece <;> rfl
  rw [List.flatMap_append, List.flatMap_cons, hupdate] at hreadings
  constructor
  · intro c hc r hr
    have hmem : r ∈ times.map (Except.ok : τ → ClockReading τ) :=
      hreadings ▸ List.mem_append_left _ (List.mem_flatMap.mpr ⟨c, hc, hr⟩)
    obtain ⟨t, -, rfl⟩ := List.mem_map.mp hmem
    exact ⟨t, rfl⟩
  · obtain ⟨before, behind, rfl, -, hbehind⟩ := List.append_eq_map_iff.mp hreadings
    obtain ⟨first, rest, rfl, hfirst, hrest⟩ := List.map_eq_cons_iff.mp hbehind
    obtain ⟨second, rest, rfl, hsecond, -⟩ := List.map_eq_cons_iff.mp hrest
    obtain rfl := Except.ok.inj hfirst
    obtain rfl := Except.ok.inj hsecond
    have hpair := (List.pairwise_append.mp hsorted).2.1
    exact List.rel_of_pairwise_cons hpair List.mem_cons_self

/-- Ending a session does not change its window. -/
theorem window_finish (s : Session τ) (now : ClockReading τ) :
    (s.finish now).2.window = s.window := by
  have hending := ending_finish s now
  generalize s.finish now = result at hending ⊢
  cases hending <;> rfl

/-- At a reading of the clock a session is ended, or it cannot be and stays as it is. -/
theorem finish_ends (s : Session τ) (now : τ) :
    (s.finish (.ok now)).2.state = .done ∨ ∃ e, s.finish (.ok now) = (.error e, s) := by
  have hending := ending_finish s (.ok now)
  generalize s.finish (.ok now) = result at hending ⊢
  cases hending with
  | again hdone => exact .inl hdone
  | unreadable => exact .inr ⟨_, rfl⟩
  | unread _ _ hnow => cases hnow
  | sent => exact .inl rfl

section Calls

variable [Sub τ] [OfNat τ 0] [LT τ] [DecidableLT τ]

/-- What a call sends, with the reading of the clock that it notes. -/
def sending? (s : Session τ) (c : Call τ) : Option (Outputs × τ) :=
  (sent? (s.call c).1).bind fun m => c.noted.toOption.map (m, ·)

/-- What goes out in a row of calls, with the readings of the clock that are noted. -/
def sendings (s : Session τ) : List (Call τ) → List (Outputs × τ)
  | [] => []
  | c :: calls => (s.sending? c).toList ++ (s.call c).2.sendings calls

/-- What one more call sends comes last. -/
theorem sendings_concat (s : Session τ) (calls : List (Call τ)) (c : Call τ) :
    s.sendings (calls ++ [c]) = s.sendings calls ++ ((s.run calls).sending? c).toList := by
  induction calls generalizing s with
  | nil => simp [sendings, run]
  | cons first calls ih =>
    rw [List.cons_append, sendings, sendings, ih, List.append_assoc]
    rfl

end Calls

/-! ## What a session remembers -/

/-- As long as a session over the fields is open it remembers what was sent last, and when; it had
values, and they are still there. -/
structure Accounts (fields : List Field) (window : τ) (last : Option (Outputs × τ))
    (s : Session τ) : Prop where
  shaped : Shaped fields s
  window_eq : s.window = window
  sent : s.state ≠ .done → s.lastSent = (last.map (·.1)).getD (blank fields)
  sentAt : s.state ≠ .done → s.lastSentAt = last.map (·.2)
  stays : s.state ≠ .done → Stays s.lastSent s.latest
  valued : s.state ≠ .done → ∀ sent ∈ last, HasValue fields sent.1

/-- A session starts with nothing sent. -/
theorem accounts_start (fields : List Field) (window : τ) :
    Accounts fields window none (start fields window) where
  shaped := shaped_start fields window
  window_eq := rfl
  sent := fun _ => rfl
  sentAt := fun _ => rfl
  stays := fun _ => .rfl
  valued := fun _ sent h => by cases h

/-- Of a session that is ended an account says no more than its shape. -/
theorem Accounts.of_done {fields : List Field} {window : τ} {last : Option (Outputs × τ)}
    {s : Session τ} (hshaped : Shaped fields s) (hwindow : s.window = window)
    (hdone : s.state = .done) : Accounts fields window last s :=
  ⟨hshaped, hwindow, fun h => absurd hdone h, fun h => absurd hdone h, fun h => absurd hdone h,
    fun h => absurd hdone h⟩

/-- What is pending in an open session differs from what was sent last. -/
theorem Accounts.pending_iff {fields : List Field} {window : τ} {last : Option (Outputs × τ)}
    {s : Session τ} (h : Accounts fields window last s) (hopen : s.state ≠ .done) :
    s.pending = true ↔ Differs fields s.latest ((last.map (·.1)).getD (blank fields)) := by
  rw [← h.sent hopen, ← unchanged_eq_false_iff h.shaped.names]
  simp [pending, hopen]

/-- What is pending has a value. -/
theorem Accounts.hasValue_of_pending {fields : List Field} {window : τ}
    {last : Option (Outputs × τ)} {s : Session τ} (h : Accounts fields window last s)
    (hpending : s.pending = true) : HasValue fields s.latest := by
  have hopen : s.state ≠ .done := by
    intro hdone
    simp [pending, hdone] at hpending
  have hdiffers := (h.pending_iff hopen).mp hpending
  rw [← h.sent hopen] at hdiffers
  exact hasValue_of_differs hdiffers (h.stays hopen)

/-- If the values have not begun, nothing was sent. -/
theorem Accounts.eq_none {fields : List Field} {window : τ} {last : Option (Outputs × τ)}
    {s : Session τ} (h : Accounts fields window last s) (hopen : s.state ≠ .done)
    (hno : ¬HasValue fields s.latest) : last = none := by
  rw [Option.eq_none_iff_forall_ne_some]
  rintro sent rfl
  obtain ⟨f, hf, hvalue⟩ := h.valued hopen sent rfl
  have hsent : s.lastSent = sent.1 := h.sent hopen
  exact hno ⟨f, hf, h.stays hopen f.name (hsent ▸ hvalue)⟩

/-! ## Polling at readings of the clock -/

variable [AddCommGroup τ] [LinearOrder τ] [IsOrderedAddMonoid τ]

/-- The window since the last map was sent has passed, if one was. -/
def Due (s : Session τ) (now : τ) : Prop := ∀ sentAt ∈ s.lastSentAt, sentAt + s.window ≤ now

/-- Polling sends the values of a session if they are pending and the window has passed, and changes
nothing else. -/
theorem poll_cases (s : Session τ) (now sentAt : τ) :
    (s.pending = true ∧ s.Due now ∧
      s.poll (.ok now) (.ok sentAt) = (.ok (some s.latest), (s.emit (.ok sentAt)).2)) ∨
    (¬(s.pending = true ∧ s.Due now) ∧ s.poll (.ok now) (.ok sentAt) = (.ok none, s)) := by
  unfold poll
  cases hpending : s.pending with
  | false => exact .inr ⟨by simp, rfl⟩
  | true =>
    unfold Due timeLeft
    cases hlast : s.lastSentAt with
    | none => exact .inl ⟨rfl, by simp, by simp [emit, Except.map]⟩
    | some last =>
      have hleft : 0 < s.window - (now - last) ↔ ¬last + s.window ≤ now := by
        rw [sub_pos, sub_lt_iff_lt_add', not_le]
      by_cases hdue : last + s.window ≤ now
      · have hno : ¬0 < s.window - (now - last) := fun h => hleft.mp h hdue
        refine .inl ⟨rfl, by simpa using hdue, ?_⟩
        simp [hno, emit, Except.map, bind, Except.bind, pure, Except.pure]
      · have hyes : 0 < s.window - (now - last) := hleft.mpr hdue
        refine .inr ⟨by simpa using hdue, ?_⟩
        simp [hyes, bind, Except.bind, pure, Except.pure]

section Steps

variable {fields : List Field} {window : τ} {last : Option (Outputs × τ)} {s : Session τ}
  (h : Accounts fields window last s)

include h

omit [IsOrderedAddMonoid τ] in
/-- The window has passed since the last map was sent. -/
theorem Accounts.due_iff (hopen : s.state ≠ .done) (now : τ) :
    s.Due now ↔ ∀ sent ∈ last, sent.2 + window ≤ now := by
  unfold Due
  rw [h.sentAt hopen, h.window_eq]
  cases last <;> simp

/-- Polling keeps the account of an open session, with what it sends. -/
theorem Accounts.poll (now sentAt : τ) :
    Accounts fields window
      (((sent? (s.poll (.ok now) (.ok sentAt)).1).map (·, sentAt)).or last)
      (s.poll (.ok now) (.ok sentAt)).2 := by
  have hshaped := (h.shaped.poll (.ok now) (.ok sentAt)).shaped
  rcases poll_cases s now sentAt with ⟨hpending, -, heq⟩ | ⟨-, heq⟩
  · rw [heq] at hshaped ⊢
    refine ⟨hshaped, h.window_eq, fun _ => rfl, fun _ => rfl, fun _ => .rfl, ?_⟩
    rintro - sent ⟨rfl⟩
    exact h.hasValue_of_pending hpending
  · rw [heq]
    exact h

/-- What a poll of an open session sends are its values. They differ from the map sent last, and the
window since then has passed. -/
theorem Accounts.of_sent (hopen : s.state ≠ .done) {now sentAt : τ} {m : Outputs}
    (hsent : (s.poll (.ok now) (.ok sentAt)).1 = .ok (some m)) :
    m = (s.poll (.ok now) (.ok sentAt)).2.latest ∧
      Differs fields m ((last.map (·.1)).getD (blank fields)) ∧ HasValue fields m ∧
      (s.poll (.ok now) (.ok sentAt)).2.lastSentAt = some sentAt ∧
      ∀ sent ∈ last, sent.2 + window ≤ now := by
  rcases poll_cases s now sentAt with ⟨hpending, hpassed, heq⟩ | ⟨-, heq⟩
  · rw [heq] at hsent ⊢
    obtain rfl := Option.some.inj (Except.ok.inj hsent)
    exact ⟨rfl, (h.pending_iff hopen).mp hpending, h.hasValue_of_pending hpending, rfl,
      (h.due_iff hopen now).mp hpassed⟩
  · rw [heq] at hsent
    cases hsent

/-- A poll of an open session sends its values if they differ from the map sent last and the window
since then has passed. -/
theorem Accounts.sends (hopen : s.state ≠ .done) {now : τ} (sentAt : τ)
    (hdiffers : Differs fields s.latest ((last.map (·.1)).getD (blank fields)))
    (hpassed : ∀ sent ∈ last, sent.2 + window ≤ now) :
    (s.poll (.ok now) (.ok sentAt)).1 = .ok (some s.latest) := by
  rcases poll_cases s now sentAt with ⟨-, -, heq⟩ | ⟨hno, -⟩
  · rw [heq]
  · exact absurd ⟨(h.pending_iff hopen).mpr hdiffers, (h.due_iff hopen now).mpr hpassed⟩ hno

omit [IsOrderedAddMonoid τ] in
/-- An update of an open session fails if a field cannot be read, and its piece stays in the text;
else it polls a session of the same account. -/
theorem Accounts.update (hopen : s.state ≠ .done) {text : List Char}
    (hscanner : s.scanner = Scanner.ofText text) (piece : Option (List Char)) (now sentAt : τ) :
    (∃ more, piece = some more ∧ ¬Legible true fields (text ++ more) ∧
      s.call (.update piece now sentAt) = (.error .unreadable, s.received more)) ∨
    ((∀ more ∈ piece, Legible true fields (text ++ more)) ∧
      ∃ s', s'.state ≠ .done ∧ Accounts fields window last s' ∧ Stays s.latest s'.latest ∧
        s.call (.update piece now sentAt) = s'.poll (.ok now) (.ok sentAt)) := by
  cases piece with
  | none => exact .inr ⟨by simp, s, hopen, h, .rfl, rfl⟩
  | some more =>
    have hcall : s.call (.update (some more) now sentAt) = s.feed more (.ok now) (.ok sentAt) := rfl
    have hlegible := exists_resolve_iff (text ++ more) true fields
    rw [← Scanner.feed_ofText, ← hscanner] at hlegible
    rw [hcall]
    rcases feed_cases s more (.ok now) (.ok sentAt) hopen with
      ⟨e, herror, heq⟩ | ⟨parsed, hparsed, heq⟩
    · refine .inl ⟨more, rfl, fun hall => ?_, by rw [heq, eq_unreadable_of_resolve herror]⟩
      obtain ⟨parsed, hparsed⟩ := hlegible.mpr hall
      rw [h.shaped.fields_eq, hparsed] at herror
      cases herror
    · -- The values that are taken over come on top of those that were there.
      have hstays := stays_foldl_mergeField false parsed s.latest
      have htaken : Accounts fields window last { s.received more with
          latest := parsed.foldl (mergeField false) s.latest } :=
        ⟨h.shaped.taken hopen false hparsed (s.pieces + 1), h.window_eq, h.sent, h.sentAt,
          fun hopen => (h.stays hopen).trans hstays, h.valued⟩
      refine .inr ⟨fun text' htext => ?_, { s.received more with
        latest := parsed.foldl (mergeField false) s.latest }, hopen, htaken, hstays, heq⟩
      obtain rfl := Option.some.inj htext
      exact hlegible.mp ⟨parsed, h.shaped.fields_eq ▸ hparsed⟩

omit [IsOrderedAddMonoid τ] in
/-- Ending a session keeps the account, since the session is ended then or left as it is. -/
theorem Accounts.finish (now : τ) :
    Accounts fields window ((s.sending? (.finish (.ok now))).or last) (s.finish (.ok now)).2 := by
  rcases finish_ends s now with hdone | ⟨e, heq⟩
  · exact .of_done (h.shaped.finish (.ok now)).shaped ((window_finish s _).trans h.window_eq) hdone
  · have hnothing : s.sending? (.finish (.ok now)) = none := by
      unfold sending?
      rw [call, heq]
      rfl
    rw [hnothing, heq]
    exact h

/-- Every call by a clock that can be read keeps the account, with what it sends. -/
theorem Accounts.call {text : List Char}
    (hscanner : s.state ≠ .done → s.scanner = Scanner.ofText text) {c : Call τ}
    (hread : ∀ r ∈ c.readings, ∃ t, r = .ok t) :
    Accounts fields window ((s.sending? c).or last) (s.call c).2 := by
  by_cases hdone : s.state = .done
  · rw [call_of_done hdone]
    exact .of_done h.shaped h.window_eq hdone
  · -- Feeding and polling are one step, with a piece or without.
    have hupdate : ∀ piece now sentAt, c = .update piece now sentAt →
        Accounts fields window ((s.sending? c).or last) (s.call c).2 := by
      rintro piece now sentAt rfl
      have hnoted : (Call.update piece now sentAt).noted = .ok sentAt := by cases piece <;> rfl
      unfold sending?
      rw [hnoted]
      rcases h.update hdone (hscanner hdone) piece now sentAt with
        ⟨more, -, -, heq⟩ | ⟨-, s', -, h', -, heq⟩
      · rw [heq]
        exact ⟨⟨h.shaped.fields_eq, h.shaped.names, h.shaped.ended⟩, h.window_eq, h.sent, h.sentAt,
          h.stays, h.valued⟩
      · rw [heq]
        have hpoll := h'.poll now sentAt
        cases hsent : sent? (s'.poll (.ok now) (.ok sentAt)).1 <;> rw [hsent] at hpoll <;>
          exact hpoll
    cases c with
    | feed more now sentAt =>
      obtain ⟨now, rfl⟩ := hread now (by simp [Call.readings])
      obtain ⟨sentAt, rfl⟩ := hread sentAt (by simp [Call.readings])
      exact hupdate (some more) now sentAt rfl
    | poll now sentAt =>
      obtain ⟨now, rfl⟩ := hread now (by simp [Call.readings])
      obtain ⟨sentAt, rfl⟩ := hread sentAt (by simp [Call.readings])
      exact hupdate none now sentAt rfl
    | finish now =>
      obtain ⟨now, rfl⟩ := hread now (by simp [Call.readings])
      exact h.finish now

end Steps

/-- After calls by a clock that can be read a session remembers what they have sent last. -/
theorem accounts_run (fields : List Field) (window : τ) (calls : List (Call τ))
    (hread : ∀ c ∈ calls, ∀ r ∈ c.readings, ∃ t, r = .ok t) :
    Accounts fields window ((start fields window).sendings calls).getLast?
      ((start fields window).run calls) := by
  induction calls using List.reverseRecOn with
  | nil => exact accounts_start fields window
  | append_singleton calls c ih =>
    have hbefore := ih fun c' hc' => hread c' (List.mem_append_left _ hc')
    have hcall := hbefore.call (scanner_run fields window calls) (hread c (by simp))
    rw [run_concat, sendings_concat, List.getLast?_append]
    cases hsent : ((start fields window).run calls).sending? c <;> rw [hsent] at hcall <;>
      exact hcall

omit [IsOrderedAddMonoid τ] in
/-- An update of a session that is ended sends nothing. -/
theorem update_of_done {s : Session τ} (hdone : s.state = .done) (piece : Option (List Char))
    (now sentAt : τ) : (s.call (.update piece now sentAt)).1 =
      if piece.isSome then .error .sessionFinished else .ok none := by
  cases piece with
  | none => exact congrArg Prod.fst (poll_of_done hdone _ _)
  | some more => exact congrArg Prod.fst (feed_of_done hdone more _ _)

/-- With a clock that does not go back, an update after whatever calls sends only the values behind
it, which then differ from the map that went out last (the one without values before the first), and
only when the window has passed since then; so it never sends a map without values. Conversely,
unless the session is ended or a field cannot be read in the text, it sends the values behind it if
they differ and the window has passed or nothing went out, and so it sends the first values. Where a
field cannot be read a piece fails. -/
theorem updates_exact (fields : List Field) (window : τ) (earlier : List (Call τ))
    (piece : Option (List Char)) (now sentAt : τ)
    (htimed : Timed (earlier ++ [.update piece now sentAt])) :
    let s := (start fields window).run earlier
    let last := ((start fields window).sendings earlier).getLast?
    let lastMap := (last.map (·.1)).getD (blank fields)
    let step := s.call (.update piece now sentAt)
    (∀ m, step.1 = .ok (some m) →
      m = step.2.latest ∧ Differs fields m lastMap ∧ HasValue fields m ∧
        step.2.lastSentAt = some sentAt ∧
        ∀ sent ∈ last, sent.2 + window ≤ now ∧ sent.2 + window ≤ sentAt) ∧
    (s.state ≠ .done → (∀ more ∈ piece, Legible true fields (fed earlier ++ more)) →
      (Differs fields step.2.latest lastMap → (∀ sent ∈ last, sent.2 + window ≤ now) →
        step.1 = .ok (some step.2.latest)) ∧
      (¬HasValue fields s.latest → HasValue fields step.2.latest →
        step.1 = .ok (some step.2.latest))) ∧
    (s.state ≠ .done → ∀ more ∈ piece, ¬Legible true fields (fed earlier ++ more) →
      step.1 = .error .unreadable) := by
  intro s last lastMap step
  obtain ⟨hread, hclock⟩ := htimed.of_update
  have haccount : Accounts fields window last s := accounts_run fields window earlier hread
  by_cases hdone : s.state = .done
  · refine ⟨fun m hm => ?_, fun hopen => absurd hdone hopen, fun hopen => absurd hdone hopen⟩
    rw [show step.1 = _ from rfl, update_of_done hdone piece now sentAt] at hm
    cases piece <;> cases hm
  · have hscanner : s.scanner = Scanner.ofText (fed earlier) :=
      scanner_run fields window earlier hdone
    rcases haccount.update hdone hscanner piece now sentAt with
      ⟨more, rfl, hillegible, heq⟩ | ⟨hlegible, s', hopen, haccount', hstays, heq⟩
    · have herror : step.1 = .error .unreadable := congrArg Prod.fst heq
      refine ⟨fun m hm => ?_, fun _ hlegible => ?_, fun _ _ _ _ => herror⟩
      · rw [herror] at hm
        cases hm
      · exact absurd (hlegible more rfl) hillegible
    · have hlatest : (s'.poll (.ok now) (.ok sentAt)).2.latest = s'.latest :=
        (keeps_poll s' _ _).latest
      rw [show step = _ from heq]
      refine ⟨fun m hm => ?_, fun _ _ => ?_, fun _ more hmore hno =>
        absurd (hlegible more hmore) hno⟩
      · obtain ⟨hm, hdiffers, hvalue, hnoted, hpassed⟩ := haccount'.of_sent hopen hm
        exact ⟨hm, hdiffers, hvalue, hnoted, fun sent hsent =>
          ⟨hpassed sent hsent, (hpassed sent hsent).trans hclock⟩⟩
      · rw [hlatest]
        refine ⟨haccount'.sends hopen sentAt, fun hno hvalue => ?_⟩
        -- Nothing went out before the first values, so they differ from the blank map.
        have hnone : last = none := haccount.eq_none hdone hno
        have hblank : ¬HasValue fields lastMap := by
          rintro ⟨f, -, hvalue⟩
          simp [lastMap, hnone, get_blank] at hvalue
        exact haccount'.sends hopen sentAt (differs_of_hasValue hvalue hblank) (by simp [hnone])

/-- What was held back within the window goes out with the next piece behind it. -/
theorem updates_exact_held :
    Timed ([Call.feed "[[ ## a ## ]]\nhi".toList (.ok 0) (.ok 5),
      .feed " you".toList (.ok 40) (.ok 40)] ++ [.update (some "!".toList) (105 : Int) 106]) ∧
    (((start [⟨.given "a", .str, .text "", .bool true, none⟩] 100).run
      [.feed "[[ ## a ## ]]\nhi".toList (.ok 0) (.ok 5),
        .feed " you".toList (.ok 40) (.ok 40)]).call (.update (some "!".toList) 105 106)).1 =
      .ok (some [(.given "a", some (.text "hi you!".toList))]) := by
  have htimed : Timed ([Call.feed "[[ ## a ## ]]\nhi".toList (.ok 0) (.ok 5),
      .feed " you".toList (.ok 40) (.ok 40)] ++ [.update (some "!".toList) (105 : Int) 106]) :=
    ⟨[0, 5, 40, 40, 105, 106], rfl, by decide⟩
  obtain ⟨-, hsends, -⟩ := updates_exact [⟨.given "a", .str, .text "", .bool true, none⟩] 100
    [.feed "[[ ## a ## ]]\nhi".toList (.ok 0) (.ok 5), .feed " you".toList (.ok 40) (.ok 40)]
    (some "!".toList) 105 106 htimed
  refine ⟨htimed, (hsends (by decide) ?_).1 ⟨_, List.mem_cons_self, by decide⟩ (by decide)⟩
  intro more _ f hf hint
  obtain rfl := List.mem_singleton.mp hf
  cases hint

/-- An integer that is too long makes a piece fail at a time when what was held back is to go out.
-/
theorem update_fails_overLong :
    let fields : List Field := [⟨.given "a", .str, .text "", .bool true, none⟩,
      ⟨.given "n", .int, .text "", .bool true, none⟩]
    let earlier : List (Call Int) := [.feed "[[ ## a ## ]]\nhi".toList (.ok 0) (.ok 5),
      .feed " you".toList (.ok 40) (.ok 40)]
    let piece := "\n\n[[ ## n ## ]]\n".toList ++ List.replicate 4301 '1'
    let s := (start fields 100).run earlier
    let step := s.call (.update (some piece) 200 200)
    Timed (earlier ++ [.update (some piece) 200 200]) ∧ s.state ≠ .done ∧
      ((start fields 100).sendings earlier).getLast? =
        some ([(.given "a", some (.text "hi".toList)), (.given "n", none)], 5) ∧
      step.2.latest = [(.given "a", some (.text "hi you".toList)), (.given "n", none)] ∧
      Differs fields step.2.latest [(.given "a", some (.text "hi".toList)), (.given "n", none)] ∧
      5 + 100 ≤ 200 ∧ step.1 = .error .unreadable := by
  intro fields earlier piece s step
  have hlong : OverLong (List.replicate 4301 '1') := overLong_replicate (by decide)
  have hvalue := value?_replicate "[[ ## a ## ]]\nhi you\n\n".toList "n".toList
    ((wholeLines_iff _).mpr (.inr rfl)) (by decide) (by decide) true 4300
  have hopen : ∀ c ∈ earlier, c.IsOpen := by
    intro c hc
    simp only [earlier, List.mem_cons, List.not_mem_nil, or_false] at hc
    rcases hc with rfl | rfl <;> trivial
  have hreached : Reached fields (fed earlier) s := (reached_start fields 100).run hopen
  have hillegible : ¬Legible true fields (fed earlier ++ piece) := fun h =>
    h _ (List.mem_cons_of_mem _ List.mem_cons_self) rfl _ hvalue hlong
  have hstep : step = (.error .unreadable, s.received piece) :=
    hreached.feed_error (resolve_eq_error hillegible) (.ok 200) (.ok 200)
  have hlatest : s.latest = [(.given "a", some (.text "hi you".toList)), (.given "n", none)] := by
    decide
  -- Nothing below computes with the session or the piece, which is long.
  clear_value step s piece
  subst hstep
  refine ⟨⟨[0, 5, 40, 40, 200, 200], rfl, by decide⟩, hreached.not_done, by decide, hlatest, ?_,
    by decide, rfl⟩
  rw [show (s.received piece).latest = s.latest from rfl, hlatest]
  exact ⟨_, List.mem_cons_self, by decide⟩

end PromptContract.Session
