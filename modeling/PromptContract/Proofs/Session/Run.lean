import PromptContract.Proofs.Reply.Outputs
import PromptContract.Proofs.Reply.Selection
import PromptContract.Session

/-!
# Runs of a session

A session (`StreamReassembler`) is driven by calls, each with the readings of the clock that it
makes (`Call`). A run makes one call after the other, whatever the calls before came to. `Reached`
says what holds of a session that has received a text and is not ended: its scanner is that of the
text, its map has the names of the fields, and each value in it was read from what the text was at
some time (`ReadEarlier`). A session starts so (`reached_start`), every call keeps it so
(`Reached.call`), and hence every run (`Reached.run`).

What the steps come to is said once for each: `feed_cases` for a piece, `Polling` for a poll and
`Ending` for the end. What a call can do to the values is said in `Reached.latest_call`, and what it
can give to the caller in `latest_of_sent?`.
-/

namespace PromptContract

open Reply Text

/-- A call of a session, with the readings of the clock that it makes. -/
inductive Session.Call (τ : Type)
  | feed (piece : List Char) (now sentAt : ClockReading τ)
  | poll (now sentAt : ClockReading τ)
  | finish (now : ClockReading τ)

namespace Session

variable {τ : Type}

namespace Call

/-- The piece of the reply that a call brings. -/
def piece : Call τ → List Char
  | .feed piece _ _ => piece
  | .poll _ _ | .finish _ => []

@[simp] theorem piece_feed (piece : List Char) (now sentAt : ClockReading τ) :
    (feed piece now sentAt).piece = piece := rfl

@[simp] theorem piece_poll (now sentAt : ClockReading τ) : (poll now sentAt).piece = [] := rfl

/-- Whether a call leaves the session open for more of the reply. -/
def IsOpen : Call τ → Prop
  | .feed _ _ _ | .poll _ _ => True
  | .finish _ => False

end Call

/-- The text that a row of calls brings. -/
def fed (calls : List (Call τ)) : List Char := calls.flatMap Call.piece

/-- The text of two rows of calls is that of one behind that of the other. -/
theorem fed_append (calls more : List (Call τ)) : fed (calls ++ more) = fed calls ++ fed more :=
  List.flatMap_append

section Calls

variable [Sub τ] [OfNat τ 0] [LT τ] [DecidableLT τ]

/-- The step that a call makes. -/
def call (s : Session τ) : Call τ → Step τ
  | .feed piece now sentAt => s.feed piece now sentAt
  | .poll now sentAt => s.poll now sentAt
  | .finish now => ((s.finish now).1.map some, (s.finish now).2)

@[simp] theorem call_feed (s : Session τ) (piece : List Char) (now sentAt : ClockReading τ) :
    s.call (.feed piece now sentAt) = s.feed piece now sentAt := rfl

@[simp] theorem call_poll (s : Session τ) (now sentAt : ClockReading τ) :
    s.call (.poll now sentAt) = s.poll now sentAt := rfl

/-- The session behind a row of calls. -/
def run (s : Session τ) (calls : List (Call τ)) : Session τ :=
  calls.foldl (fun s c => (s.call c).2) s

/-- What the caller gets from a row of calls. -/
def answers (s : Session τ) : List (Call τ) → List (Except Failure (Option Outputs))
  | [] => []
  | c :: calls => (s.call c).1 :: answers (s.call c).2 calls

/-- The map in an answer, if there is one. -/
def sent? : Except Failure (Option Outputs) → Option Outputs
  | .ok sent => sent
  | .error _ => none

/-- The maps that go out in a row of calls, in their order. -/
def emitted (s : Session τ) (calls : List (Call τ)) : List Outputs :=
  (s.answers calls).filterMap sent?

/-- What goes out in a row of calls is what its first call sends and what goes out behind it. -/
theorem emitted_cons (s : Session τ) (c : Call τ) (calls : List (Call τ)) :
    s.emitted (c :: calls) = (sent? (s.call c).1).toList ++ (s.call c).2.emitted calls := by
  unfold emitted
  rw [answers, List.filterMap_cons]
  cases sent? (s.call c).1 <;> rfl

/-- One more call is made behind the others. -/
theorem run_concat (s : Session τ) (calls : List (Call τ)) (c : Call τ) :
    s.run (calls ++ [c]) = ((s.run calls).call c).2 := by
  unfold run
  rw [List.foldl_append]
  rfl

/-- What one more call sends goes out behind what the others sent. -/
theorem emitted_concat (s : Session τ) (calls : List (Call τ)) (c : Call τ) :
    s.emitted (calls ++ [c]) = s.emitted calls ++ (sent? ((s.run calls).call c).1).toList := by
  induction calls generalizing s with
  | nil =>
    rw [List.nil_append, emitted_cons]
    simp [emitted, answers, run]
  | cons first calls ih =>
    rw [List.cons_append, emitted_cons, emitted_cons, ih, List.append_assoc]
    rfl

/-- What goes out when a session is ended is the map that the caller gets. -/
theorem emitted_finish (s : Session τ) (now : ClockReading τ) :
    s.emitted [.finish now] = (s.finish now).1.toOption.toList := by
  have hcall : (s.call (.finish now)).1 = (s.finish now).1.map some := rfl
  rw [emitted_cons, hcall]
  cases (s.finish now).1 <;> rfl

end Calls

/-! ## Taking over values -/

/-- Taking over a parsed field changes the value of no other name, and that of its own name to the
value that was read, if it does. -/
theorem get_mergeField (final : Bool) (m : Outputs) (p : ParsedField) (name : Name) :
    (mergeField final m p).get name = m.get name ∨
      ∃ v, p.name.text = name.text ∧ p.value = some v ∧
        (mergeField final m p).get name = some v := by
  unfold mergeField
  cases hvalue : p.value with
  | none => exact .inl rfl
  | some v =>
    simp only
    split
    · exact .inl rfl
    · rw [Outputs.get_put]
      split
      · next hname => exact .inr ⟨v, hname.symm, rfl, rfl⟩
      · exact .inl rfl

/-- A value behind taking over parsed fields was there before, or is that of one of the fields. -/
theorem get_foldl_mergeField (final : Bool) (parsed : List ParsedField) (m : Outputs)
    (name : Name) :
    (parsed.foldl (mergeField final) m).get name = m.get name ∨
      ∃ p ∈ parsed, ∃ v, p.name.text = name.text ∧ p.value = some v ∧
        (parsed.foldl (mergeField final) m).get name = some v := by
  induction parsed generalizing m with
  | nil => exact .inl rfl
  | cons p parsed ih =>
    rw [List.foldl_cons]
    -- The value comes from one of the later fields, or is the one behind the first.
    rcases ih (mergeField final m p) with hsame | ⟨q, hq, v, hname, hvalue, hget⟩
    · rw [hsame]
      rcases get_mergeField final m p name with hkept | ⟨v, hname, hvalue, hget⟩
      · exact .inl hkept
      · exact .inr ⟨p, List.mem_cons_self, v, hname, hvalue, hget⟩
    · exact .inr ⟨q, List.mem_cons_of_mem _ hq, v, hname, hvalue, hget⟩

/-- Taking over parsed fields whose names are in a map keeps its names. -/
theorem names_foldl_mergeField (final : Bool) (parsed : List ParsedField) (m : Outputs)
    (h : ∀ p ∈ parsed, m.Has p.name) :
    (parsed.foldl (mergeField final) m).map (·.1) = m.map (·.1) := by
  induction parsed generalizing m with
  | nil => rfl
  | cons p parsed ih =>
    have hone : (mergeField final m p).map (·.1) = m.map (·.1) := by
      unfold mergeField
      split
      · rfl
      · split
        · rfl
        · exact Outputs.names_put_of_has (h p List.mem_cons_self) _
    rw [List.foldl_cons, ih _ fun q hq => ?_, hone]
    exact (Outputs.has_congr hone q.name).mpr (h q (List.mem_cons_of_mem _ hq))

/-- A session takes over the values of the fields if all of them can be read. -/
theorem merge_eq (final : Bool) (s : Session τ) :
    s.merge final = (resolve s.scanner (!final) s.fields).map fun parsed =>
      { s with latest := parsed.foldl (mergeField final) s.latest } := by
  unfold merge
  cases resolve s.scanner (!final) s.fields <;> rfl

/-- The names of the fields are in the empty map of the fields. -/
theorem has_blank {fields : List Field} {name : Name} (h : ∃ f ∈ fields, f.name.text = name.text) :
    (blank fields).Has name :=
  Outputs.has_foldl_put (fun f : Field => f.name) (fun _ => none) fields [] name (.inr h)

/-- The empty map of the fields has no values. -/
theorem get_blank (fields : List Field) (name : Name) : (blank fields).get name = none :=
  Outputs.get_foldl_put (fun f : Field => f.name) (fun _ => none) fields [] name (fun _ _ _ => rfl)
    (.inl rfl)

/-! ## What holds of every session that is not ended -/

/-- A value was read, for a field of the name, from what a text was at some time. -/
def ReadEarlier (fields : List Field) (text : List Char) (name : Name) (v : Scalar) : Prop :=
  ∃ f ∈ fields, f.name.text = name.text ∧ ∃ earlier raw reading, earlier <+: text ∧
    (Scanner.ofText earlier).value? true f.name.text.toList = some raw ∧
    Scalar.read? f.type raw = some reading ∧ reading.value = v

/-- A session over the fields has received the text and is not ended. -/
structure Reached (fields : List Field) (text : List Char) (s : Session τ) : Prop where
  fields_eq : s.fields = fields
  scanner_eq : s.scanner = Scanner.ofText text
  not_done : s.state ≠ .done
  /-- The map has the names of the fields. -/
  names : s.latest.map (·.1) = (blank fields).map (·.1)
  /-- Each value was read from the text at some time. -/
  read : ∀ name v, s.latest.get name = some v → ReadEarlier fields text name v

/-- A session starts with the empty text. -/
theorem reached_start (fields : List Field) (window : τ) :
    Reached fields [] (start fields window) where
  fields_eq := rfl
  scanner_eq := rfl
  not_done := by simp [start]
  names := rfl
  read := by
    intro name v h
    rw [start, get_blank] at h
    cases h

/-- Taking over the values of the fields keeps the names of the fields in a map. -/
theorem names_of_taken {fields : List Field} {m : Outputs}
    (hnames : m.map (·.1) = (blank fields).map (·.1)) (final : Bool) {scanner : Scanner}
    {hold : Bool} {parsed : List ParsedField} (hparsed : resolve scanner hold fields = .ok parsed) :
    (parsed.foldl (mergeField final) m).map (·.1) = (blank fields).map (·.1) := by
  rw [names_foldl_mergeField, hnames]
  intro p hp
  obtain ⟨f, hf, hread⟩ := exists_field_of_resolve hparsed hp
  exact (Outputs.has_congr hnames p.name).mpr (has_blank ⟨f, hf, by rw [hread.name_eq]⟩)

/-- Values that are taken over were read from the text that they are taken from. -/
theorem readEarlier_of_resolve {fields : List Field} {text : List Char} {parsed : List ParsedField}
    (h : resolve (Scanner.ofText text) true fields = .ok parsed) {p : ParsedField} (hp : p ∈ parsed)
    {v : Scalar} (hvalue : p.value = some v) : ReadEarlier fields text p.name v := by
  obtain ⟨f, hf, hread⟩ := exists_field_of_resolve h hp
  cases hread with
  | missing _ _ _ hnone =>
    rw [hnone] at hvalue
    cases hvalue
  | present raw reading hname hraw _ hread hsome =>
    refine ⟨f, hf, by rw [hname], text, raw, reading, List.prefix_rfl, hraw, hread, ?_⟩
    rw [hsome] at hvalue
    exact Option.some.inj hvalue

/-! ## What a step changes -/

/-- A step that takes nothing over: the fields, the text and the values are as they were, and an
open session is still open. -/
structure Keeps (s s' : Session τ) : Prop where
  fields : s'.fields = s.fields
  scanner : s'.scanner = s.scanner
  latest : s'.latest = s.latest
  not_done : s.state ≠ .done → s'.state ≠ .done

/-- No step at all takes nothing over. -/
theorem keeps_rfl (s : Session τ) : Keeps s s := ⟨rfl, rfl, rfl, id⟩

/-- Ending a session once more gives the last map again. -/
theorem finish_of_done {s : Session τ} (hdone : s.state = .done) (now : ClockReading τ) :
    s.finish now = (.ok s.lastSent, s) := by
  rw [finish, if_pos hdone]

/-- What ending a session comes to. An ended one gives its last map again, and one with a text that
cannot be read stays as it is. Else the values of the whole text are taken over and count as sent,
and the session is ended if the clock can be read. -/
inductive Ending (s : Session τ) (now : ClockReading τ) :
    Except Failure Outputs × Session τ → Prop
  | again (hdone : s.state = .done) : Ending s now (.ok s.lastSent, s)
  | unreadable (hopen : s.state ≠ .done) {e : Failure}
      (hresolve : resolve s.scanner false s.fields = .error e) : Ending s now (.error e, s)
  | unread (hopen : s.state ≠ .done) {parsed : List ParsedField} {e : Failure}
      (hresolve : resolve s.scanner false s.fields = .ok parsed) (hnow : now = .error e) :
      Ending s now (.error e, { s with
        latest := parsed.foldl (mergeField true) s.latest
        lastSent := parsed.foldl (mergeField true) s.latest })
  | sent (hopen : s.state ≠ .done) {parsed : List ParsedField} {t : τ}
      (hresolve : resolve s.scanner false s.fields = .ok parsed) (hnow : now = .ok t) :
      Ending s now (.ok (parsed.foldl (mergeField true) s.latest), { s with
        latest := parsed.foldl (mergeField true) s.latest
        lastSent := parsed.foldl (mergeField true) s.latest
        lastSentAt := some t
        emissions := s.emissions + 1
        state := .done })

/-- Ending a session comes to one of these. -/
theorem ending_finish (s : Session τ) (now : ClockReading τ) : Ending s now (s.finish now) := by
  by_cases hdone : s.state = .done
  · rw [finish_of_done hdone]
    exact .again hdone
  · unfold finish
    rw [if_neg hdone, merge_eq]
    simp only [Bool.not_true]
    cases hresolve : resolve s.scanner false s.fields with
    | error e => exact .unreadable hdone hresolve
    | ok parsed =>
      cases now with
      | error e => exact .unread hdone hresolve rfl
      | ok t => exact .sent hdone hresolve rfl

/-- Ending a session that cannot read a field fails and changes nothing. Else it takes over the
values of the whole text, and if it then gives a map it is that of these values. -/
theorem finish_cases (s : Session τ) (now : ClockReading τ) (hopen : s.state ≠ .done) :
    (∃ e, (s.finish now).1 = .error e) ∨
      ∃ parsed, resolve s.scanner false s.fields = .ok parsed ∧
        (s.finish now).1 = .ok (parsed.foldl (mergeField true) s.latest) := by
  have hending := ending_finish s now
  generalize s.finish now = result at hending ⊢
  cases hending with
  | again hdone => exact absurd hdone hopen
  | unreadable => exact .inl ⟨_, rfl⟩
  | unread => exact .inl ⟨_, rfl⟩
  | sent _ hresolve => exact .inr ⟨_, hresolve, rfl⟩

variable [Sub τ] [OfNat τ 0] [LT τ] [DecidableLT τ]

/-- A session that is ended takes no piece. -/
theorem feed_of_done {s : Session τ} (hdone : s.state = .done) (piece : List Char)
    (now sentAt : ClockReading τ) :
    s.feed piece now sentAt = (.error .sessionFinished, s) := by
  rw [feed, if_pos hdone]

/-- Nor has it anything to send. -/
theorem poll_of_done {s : Session τ} (hdone : s.state = .done) (now sentAt : ClockReading τ) :
    s.poll now sentAt = (.ok none, s) := by
  simp [poll, pending, hdone]

/-- What polling comes to: nothing where nothing is to go out, or the clock cannot be read, or the
values go out. They count as sent even if the clock fails when it is to be noted that they are. -/
inductive Polling (s : Session τ) (now sentAt : ClockReading τ) : Step τ → Prop
  | nothing : Polling s now sentAt (.ok none, s)
  | unread {e : Failure} (hnow : now = .error e) : Polling s now sentAt (.error e, s)
  | unnoted {e : Failure} (hsentAt : sentAt = .error e) :
      Polling s now sentAt (.error e, { s with lastSent := s.latest })
  | sent {t : τ} (hsentAt : sentAt = .ok t) :
      Polling s now sentAt (.ok (some s.latest), { s with
        lastSent := s.latest
        lastSentAt := some t
        emissions := s.emissions + 1
        state := if s.state = .waiting then .emitting else s.state })

/-- The time left in the window fails to be told where the clock cannot be read. -/
theorem eq_error_of_timeLeft {s : Session τ} {now : ClockReading τ} {e : Failure}
    (h : s.timeLeft now = .error e) : now = .error e := by
  unfold timeLeft at h
  cases hsent : s.lastSentAt with
  | none =>
    -- The clock is not read before anything was sent.
    rw [hsent] at h
    cases h
  | some at_ =>
    rw [hsent] at h
    cases now with
    | ok now => cases h
    | error e' => exact congrArg _ (Except.error.inj h)

/-- Polling comes to one of these. -/
theorem polling_poll (s : Session τ) (now sentAt : ClockReading τ) :
    Polling s now sentAt (s.poll now sentAt) := by
  unfold poll
  split
  · exact .nothing
  · split
    · next hleft => exact .unread (eq_error_of_timeLeft hleft)
    · split
      · exact .nothing
      · cases sentAt with
        | error e => exact .unnoted rfl
        | ok t => exact .sent rfl

/-- Polling takes nothing over. -/
theorem keeps_poll (s : Session τ) (now sentAt : ClockReading τ) :
    Keeps s (s.poll now sentAt).2 := by
  have hpolling := polling_poll s now sentAt
  generalize s.poll now sentAt = step at hpolling ⊢
  cases hpolling with
  | nothing => exact keeps_rfl s
  | unread => exact keeps_rfl s
  | unnoted => exact ⟨rfl, rfl, rfl, id⟩
  | sent =>
    refine ⟨rfl, rfl, rfl, fun h => ?_⟩
    simp only
    split
    · simp
    · exact h

/-- What polling sends are the values so far. -/
theorem latest_of_poll {s : Session τ} {now sentAt : ClockReading τ} {sent : Outputs}
    (h : (s.poll now sentAt).1 = .ok (some sent)) : sent = s.latest := by
  have hpolling := polling_poll s now sentAt
  generalize s.poll now sentAt = step at hpolling h
  cases hpolling with
  | nothing => cases h
  | unread => cases h
  | unnoted => cases h
  | sent => exact (Option.some.inj (Except.ok.inj h)).symm

/-- A session that has received a piece, before its values are taken over. -/
def received (s : Session τ) (piece : List Char) : Session τ :=
  { s with pieces := s.pieces + 1, scanner := s.scanner.feed piece }

/-- Feeding an open session fails where a field cannot be read, and leaves its values. Else it takes
over the values of the text so far, and goes on as polling does. -/
theorem feed_cases (s : Session τ) (piece : List Char) (now sentAt : ClockReading τ)
    (hopen : s.state ≠ .done) :
    (∃ e, resolve (s.scanner.feed piece) true s.fields = .error e ∧
        s.feed piece now sentAt = (.error e, s.received piece)) ∨
      ∃ parsed, resolve (s.scanner.feed piece) true s.fields = .ok parsed ∧
        s.feed piece now sentAt =
          { s.received piece with
            latest := parsed.foldl (mergeField false) s.latest }.poll now sentAt := by
  unfold feed
  rw [if_neg hopen]
  simp only [merge_eq, Bool.not_false]
  cases hparsed : resolve (s.scanner.feed piece) true s.fields with
  | error e => exact .inl ⟨e, rfl, rfl⟩
  | ok parsed => exact .inr ⟨parsed, rfl, rfl⟩

/-! ## Calls and runs -/

/-- An open call adds its piece to the text, and either leaves the values as they are or takes over
those of the longer text. -/
theorem Reached.latest_call {fields : List Field} {text : List Char} {s : Session τ}
    (h : Reached fields text s) {c : Call τ} (hc : c.IsOpen) :
    (s.call c).2.fields = fields ∧
      (s.call c).2.scanner = Scanner.ofText (text ++ c.piece) ∧ (s.call c).2.state ≠ .done ∧
      ((s.call c).2.latest = s.latest ∨
        ∃ parsed, resolve (Scanner.ofText (text ++ c.piece)) true fields = .ok parsed ∧
          (s.call c).2.latest = parsed.foldl (mergeField false) s.latest) := by
  cases c with
  | feed piece now sentAt =>
    have hfed : s.scanner.feed piece = Scanner.ofText (text ++ piece) := by
      rw [h.scanner_eq, Scanner.feed_ofText]
    rw [call_feed, Call.piece_feed]
    rcases feed_cases s piece now sentAt h.not_done with ⟨e, -, heq⟩ | ⟨parsed, hparsed, heq⟩
    · rw [heq]
      exact ⟨h.fields_eq, hfed, h.not_done, .inl rfl⟩
    · rw [heq]
      have hkeeps := keeps_poll
        { s.received piece with latest := parsed.foldl (mergeField false) s.latest } now sentAt
      rw [hfed, h.fields_eq] at hparsed
      exact ⟨hkeeps.fields.trans h.fields_eq, hkeeps.scanner.trans hfed,
        hkeeps.not_done h.not_done, .inr ⟨parsed, hparsed, hkeeps.latest⟩⟩
  | poll now sentAt =>
    -- Polling brings no text.
    have hkeeps := keeps_poll s now sentAt
    rw [call_poll, Call.piece_poll, List.append_nil]
    exact ⟨hkeeps.fields.trans h.fields_eq, hkeeps.scanner.trans h.scanner_eq,
      hkeeps.not_done h.not_done, .inl hkeeps.latest⟩
  | finish now => exact hc.elim

/-- What an open call sends are the values behind it. -/
theorem latest_of_sent? {s : Session τ} {c : Call τ} (hopen : s.state ≠ .done) (hc : c.IsOpen)
    {sent : Outputs} (hsent : sent? (s.call c).1 = some sent) : sent = (s.call c).2.latest := by
  have h : (s.call c).1 = .ok (some sent) := by
    cases hcall : (s.call c).1 with
    | error e => simp [hcall, sent?] at hsent
    | ok m => simpa [hcall, sent?] using hsent
  cases c with
  | feed piece now sentAt =>
    rw [call_feed] at h ⊢
    rcases feed_cases s piece now sentAt hopen with ⟨e, -, heq⟩ | ⟨parsed, -, heq⟩
    · rw [heq] at h
      cases h
    · rw [heq] at h ⊢
      rw [(keeps_poll _ now sentAt).latest]
      exact latest_of_poll h
  | poll now sentAt =>
    rw [call_poll] at h ⊢
    rw [(keeps_poll s now sentAt).latest]
    exact latest_of_poll h
  | finish now => exact hc.elim

/-- An open call leads from a session that has received a text to one that has its piece as well. -/
theorem Reached.call {fields : List Field} {text : List Char} {s : Session τ}
    (h : Reached fields text s) {c : Call τ} (hc : c.IsOpen) :
    Reached fields (text ++ c.piece) (s.call c).2 := by
  obtain ⟨hfields, hscanner, hstate, hlatest⟩ := h.latest_call hc
  -- What was read from the text before was read from a beginning of the longer text.
  have kept : ∀ name v, s.latest.get name = some v →
      ReadEarlier fields (text ++ c.piece) name v := by
    intro name v hget
    obtain ⟨f, hf, hname, earlier, raw, reading, hearlier, hread⟩ := h.read name v hget
    exact ⟨f, hf, hname, earlier, raw, reading, hearlier.trans (List.prefix_append _ _), hread⟩
  rcases hlatest with hsame | ⟨parsed, hparsed, htaken⟩
  · exact ⟨hfields, hscanner, hstate, by rw [hsame, h.names], by rw [hsame]; exact kept⟩
  · refine ⟨hfields, hscanner, hstate, ?_, fun name v hget => ?_⟩
    · rw [htaken]
      exact names_of_taken h.names false hparsed
    · -- A value behind taking over was there before, or was read just now.
      rw [htaken] at hget
      rcases get_foldl_mergeField false parsed s.latest name with
        hold | ⟨p, hp, v', hname, hv, hnew⟩
      · exact kept name v (hold ▸ hget)
      · obtain rfl : v' = v := Option.some.inj (hnew.symm.trans hget)
        obtain ⟨f, hf, hfname, hread⟩ := readEarlier_of_resolve hparsed hp hv
        exact ⟨f, hf, hfname.trans hname, hread⟩

/-- A run of open calls leads from a session that has received a text to one that has the text of
the calls as well. -/
theorem Reached.run {fields : List Field} {text : List Char} {s : Session τ}
    (h : Reached fields text s) {calls : List (Call τ)} (hcalls : ∀ c ∈ calls, c.IsOpen) :
    Reached fields (text ++ fed calls) (s.run calls) := by
  induction calls generalizing text s with
  | nil =>
    rw [fed, List.flatMap_nil, List.append_nil]
    exact h
  | cons c calls ih =>
    rw [fed, List.flatMap_cons, ← List.append_assoc]
    exact ih (h.call (hcalls c List.mem_cons_self))
      fun c' hc' => hcalls c' (List.mem_cons_of_mem _ hc')

end Session

end PromptContract
