import PromptContract.Proofs.Session.Debounce

/-!
# Calls that fail and sessions that are ended

A call that fails at a text (`StreamReassembler.feed`) leaves the session as it was, but for the
piece that it brought (`Refused.feed_eq`), so that calls which bring no values may come between
pieces and the values are in the end those of all the pieces at once (`AllIdle.run`). Ending a
session either fails, and then it is open and has sent nothing (`finish_error`), or ends it for
good. Nothing was sent exactly as long as the session waits (`waiting_iff`). `failed_calls_keep`
puts these together.

The clock is another matter: where it cannot be read when the session is to be ended, the values of
the whole text have been taken over all the same (`finish_unread`).
-/

namespace PromptContract.Session

open Reply Numeral Text

variable {τ : Type}

/-- Ending a session fails where it is open, and leaves it open, with nothing sent. Unless the clock
is what failed the session is left as it was. -/
theorem finish_error {s : Session τ} {now : ClockReading τ} {e : Failure}
    (h : (s.finish now).1 = .error e) :
    s.state ≠ .done ∧ (s.finish now).2.state = s.state ∧
      (s.finish now).2.emissions = s.emissions ∧ (s.finish now).2.lastSentAt = s.lastSentAt ∧
      (now ≠ .error e → (s.finish now).2 = s) := by
  have hending := ending_finish s now
  generalize s.finish now = result at hending h ⊢
  cases hending with
  | again => cases h
  | unreadable hopen => exact ⟨hopen, rfl, rfl, rfl, fun _ => rfl⟩
  | unread hopen _ hnow =>
    obtain rfl := Except.error.inj h
    exact ⟨hopen, rfl, rfl, rfl, fun hclock => absurd hnow hclock⟩
  | sent => cases h

/-- A session that is ended successfully is ended, and the map is the last one it has sent. -/
theorem finish_done {s : Session τ} {now : ClockReading τ} {m : Outputs}
    (h : (s.finish now).1 = .ok m) :
    (s.finish now).2.state = .done ∧ (s.finish now).2.lastSent = m := by
  have hending := ending_finish s now
  generalize s.finish now = result at hending h ⊢
  cases hending with
  | again hdone => exact ⟨hdone, Except.ok.inj h⟩
  | unreadable => cases h
  | unread => cases h
  | sent => exact ⟨rfl, Except.ok.inj h⟩

section Calls

variable [Sub τ] [OfNat τ 0] [LT τ] [DecidableLT τ]

/-- Polling fails at the clock and at nothing else. -/
theorem mem_readings_of_poll_error {s : Session τ} {now sentAt : ClockReading τ} {e : Failure}
    (h : (s.poll now sentAt).1 = .error e) : .error e ∈ [now, sentAt] := by
  have hpolling := polling_poll s now sentAt
  generalize s.poll now sentAt = step at hpolling h
  cases hpolling with
  | nothing => cases h
  | unread hnow => simp [hnow, Except.error.inj h]
  | unnoted hsentAt => simp [hsentAt, Except.error.inj h]
  | sent => cases h

/-! ## Calls that bring no values -/

/-- A call fails at a text that cannot be read, and not at its clock. -/
def Refused (s : Session τ) (c : Call τ) : Prop :=
  (s.call c).1 = .error .unreadable ∧ .error .unreadable ∉ c.readings

/-- A call brings no values: it is a poll, or it is refused. -/
def Idle (s : Session τ) (c : Call τ) : Prop :=
  (∃ now sentAt, c = .poll now sentAt) ∨ Refused s c

/-- Calls that are made one after the other and bring no values. -/
def AllIdle (s : Session τ) : List (Call τ) → Prop
  | [] => True
  | c :: calls => Idle s c ∧ AllIdle (s.call c).2 calls

/-- A session that refuses a piece is open, and leaves all as it was but for the piece. -/
theorem Refused.feed_eq {s : Session τ} {piece : List Char} {now sentAt : ClockReading τ}
    (h : Refused s (.feed piece now sentAt)) :
    s.state ≠ .done ∧ (s.feed piece now sentAt).2 = s.received piece := by
  obtain ⟨herror, hclock⟩ := h
  rw [call_feed] at herror
  have hopen : s.state ≠ .done := by
    intro hdone
    rw [feed_of_done hdone] at herror
    cases herror
  rcases feed_cases s piece now sentAt hopen with ⟨e, -, heq⟩ | ⟨parsed, -, heq⟩
  · exact ⟨hopen, congrArg Prod.snd heq⟩
  · rw [heq] at herror
    exact absurd (mem_readings_of_poll_error herror) hclock

/-- A call that brings no values leaves the fields and the values of an open session as they are,
and the session open. -/
theorem Idle.call {s : Session τ} {c : Call τ} (hopen : s.state ≠ .done) (h : Idle s c) :
    (s.call c).2.fields = s.fields ∧ (s.call c).2.latest = s.latest ∧
      (s.call c).2.state ≠ .done := by
  rcases h with ⟨now, sentAt, rfl⟩ | hrefused
  · have hkeeps := keeps_poll s now sentAt
    exact ⟨hkeeps.fields, hkeeps.latest, hkeeps.not_done hopen⟩
  · cases c with
    | feed piece now sentAt =>
      rw [call_feed, hrefused.feed_eq.2]
      exact ⟨rfl, rfl, hopen⟩
    | poll now sentAt => exact absurd (mem_readings_of_poll_error hrefused.1) hrefused.2
    | finish now =>
      obtain ⟨herror, hclock⟩ := hrefused
      have hending := ending_finish s now
      rw [Session.call] at herror ⊢
      generalize s.finish now = result at hending herror ⊢
      cases hending with
      | again => cases herror
      | unreadable => exact ⟨rfl, rfl, hopen⟩
      | unread _ _ hnow =>
        -- The failure would be the clock's.
        obtain rfl := Except.error.inj herror
        simp [Call.readings, hnow] at hclock
      | sent => cases herror

/-- Calls that bring no values leave the fields and the values of an open session as they are, and
their pieces stay in its text. -/
theorem AllIdle.run {s : Session τ} {text : List Char} {calls : List (Call τ)}
    (hopen : s.state ≠ .done) (hscanner : s.scanner = Scanner.ofText text)
    (h : AllIdle s calls) :
    (s.run calls).fields = s.fields ∧ (s.run calls).latest = s.latest ∧
      (s.run calls).state ≠ .done ∧ (s.run calls).scanner = Scanner.ofText (text ++ fed calls) := by
  induction calls generalizing s text with
  | nil =>
    rw [fed, List.flatMap_nil, List.append_nil]
    exact ⟨rfl, rfl, hopen, hscanner⟩
  | cons c calls ih =>
    obtain ⟨hidle, hrest⟩ := h
    obtain ⟨hfields, hlatest, hstate⟩ := hidle.call hopen
    have hfed : (s.call c).2.scanner = Scanner.ofText (text ++ c.piece) := by
      rw [scanner_call hopen, hscanner, Scanner.feed_ofText]
    have hrun := ih hstate hfed hrest
    rw [hfields, hlatest, List.append_assoc] at hrun
    rw [fed, List.flatMap_cons]
    exact hrun

/-- An open session that takes a piece has the values of the whole text behind it, whatever was read
from the clock. -/
theorem latest_feed {s : Session τ} (hopen : s.state ≠ .done) {piece : List Char}
    {parsed : List ParsedField}
    (hparsed : resolve (s.scanner.feed piece) true s.fields = .ok parsed)
    (now sentAt : ClockReading τ) :
    (s.feed piece now sentAt).2.latest = parsed.foldl (mergeField false) s.latest := by
  rcases feed_cases s piece now sentAt hopen with ⟨e, herror, -⟩ | ⟨parsed', hparsed', heq⟩
  · rw [hparsed] at herror
    cases herror
  · obtain rfl := Except.ok.inj (hparsed.symm.trans hparsed')
    rw [heq, (keeps_poll _ now sentAt).latest]

/-- A piece that is refused and one that is taken after it, with calls between them that bring no
values, come to the values of all the pieces at once. -/
theorem Refused.latest_feed {s : Session τ} {text : List Char}
    (hscanner : s.scanner = Scanner.ofText text) {piece : List Char} {now sentAt : ClockReading τ}
    (h : Refused s (.feed piece now sentAt)) {calls : List (Call τ)}
    (hcalls : AllIdle (s.feed piece now sentAt).2 calls) {more : List Char}
    {now' sentAt' : ClockReading τ} {sent : Option Outputs}
    (hsent : (((s.feed piece now sentAt).2.run calls).feed more now' sentAt').1 = .ok sent) :
    ∃ parsed, resolve (s.scanner.feed (piece ++ fed calls ++ more)) true s.fields = .ok parsed ∧
      (((s.feed piece now sentAt).2.run calls).feed more now' sentAt').2.latest =
        parsed.foldl (mergeField false) s.latest := by
  obtain ⟨hopen, hreceived⟩ := h.feed_eq
  rw [hreceived] at hcalls hsent ⊢
  have hpiece : (s.received piece).scanner = Scanner.ofText (text ++ piece) := by
    rw [received, hscanner, Scanner.feed_ofText]
  obtain ⟨hfields, hlatest, hopen', hscanner'⟩ :=
    hcalls.run (show (s.received piece).state ≠ .done from hopen) hpiece
  have htext : s.scanner.feed (piece ++ fed calls ++ more) =
      ((s.received piece).run calls).scanner.feed more := by
    rw [hscanner, hscanner', Scanner.feed_ofText, Scanner.feed_ofText]
    simp only [List.append_assoc]
  rcases feed_cases ((s.received piece).run calls) more now' sentAt' hopen' with
    ⟨e, -, heq⟩ | ⟨parsed, hparsed, -⟩
  · rw [heq] at hsent
    cases hsent
  · refine ⟨parsed, ?_, ?_⟩
    · rw [htext, ← hparsed, hfields]
      rfl
    · rw [Session.latest_feed hopen' hparsed, hlatest]
      rfl

/-! ## Waiting sessions -/

/-- A session waits behind a poll if it waited before and the poll sends nothing. -/
theorem waiting_poll (s : Session τ) (now sentAt : ClockReading τ) :
    (s.poll now sentAt).2.state = .waiting ↔
      s.state = .waiting ∧ sent? (s.poll now sentAt).1 = none := by
  have hpolling := polling_poll s now sentAt
  generalize s.poll now sentAt = step at hpolling ⊢
  cases hpolling with
  | nothing => exact (and_iff_left rfl).symm
  | unread => exact (and_iff_left rfl).symm
  | unnoted => exact (and_iff_left rfl).symm
  | sent =>
    -- What was sent ends the waiting.
    by_cases hwaiting : s.state = .waiting <;> simp [hwaiting, sent?]

/-- A session waits behind a call if it waited before and the call sends nothing. -/
theorem waiting_call (s : Session τ) (c : Call τ) :
    (s.call c).2.state = .waiting ↔ s.state = .waiting ∧ sent? (s.call c).1 = none := by
  cases c with
  | feed piece now sentAt =>
    rw [call_feed]
    by_cases hdone : s.state = .done
    · rw [feed_of_done hdone]
      simp [hdone, sent?]
    · rcases feed_cases s piece now sentAt hdone with ⟨e, -, heq⟩ | ⟨parsed, -, heq⟩
      · rw [heq]
        simp [received, sent?]
      · rw [heq]
        exact waiting_poll _ now sentAt
  | poll now sentAt => exact waiting_poll s now sentAt
  | finish now =>
    have hending := ending_finish s now
    rw [call]
    generalize s.finish now = result at hending ⊢
    cases hending with
    | again hdone => simp [hdone, sent?, Except.map]
    | unreadable => exact (and_iff_left rfl).symm
    | unread => exact (and_iff_left rfl).symm
    | sent => simp [sent?, Except.map]

/-- A session waits as long as nothing was sent. -/
theorem waiting_iff (fields : List Field) (window : τ) (calls : List (Call τ)) :
    ((start fields window).run calls).state = .waiting ↔
      (start fields window).emitted calls = [] := by
  induction calls using List.reverseRecOn with
  | nil => exact iff_of_true rfl rfl
  | append_singleton calls c ih =>
    rw [run_concat, emitted_concat, waiting_call, ih, List.append_eq_nil_iff,
      Option.toList_eq_nil_iff]

/-! ## What is left -/

/-- A piece that is refused is put behind the text and counted, and nothing else changes; when a
piece is taken later, with no values in between, the values are those of all the pieces at once.
Where ending a session fails it is open, with nothing sent, and unchanged unless the clock failed.
Where it succeeds no call changes the session any more, and the caller gets the same map again. A
session waits exactly as long as it has sent nothing. -/
theorem failed_calls_keep (fields : List Field) (window : τ) (calls : List (Call τ)) :
    let s := (start fields window).run calls
    (∀ piece now sentAt, Refused s (.feed piece now sentAt) →
      (s.feed piece now sentAt).2 =
        { s with pieces := s.pieces + 1, scanner := Scanner.ofText (fed calls ++ piece) } ∧
      ∀ idle, AllIdle (s.feed piece now sentAt).2 idle → ∀ more now' sentAt' sent,
        (((s.feed piece now sentAt).2.run idle).feed more now' sentAt').1 = .ok sent →
        (∀ at₁ at₂, (s.feed (piece ++ fed idle ++ more) at₁ at₂).2.latest =
          (((s.feed piece now sentAt).2.run idle).feed more now' sentAt').2.latest) ∧
        ∀ t₁ t₂, ∃ sent', (s.feed (piece ++ fed idle ++ more) (.ok t₁) (.ok t₂)).1 = .ok sent') ∧
    (∀ now e, (s.finish now).1 = .error e →
      (s.finish now).2.state = s.state ∧ s.state ≠ .done ∧
      (s.finish now).2.emissions = s.emissions ∧ (s.finish now).2.lastSentAt = s.lastSentAt ∧
      (now ≠ .error e → (s.finish now).2 = s)) ∧
    (∀ now m, (s.finish now).1 = .ok m →
      (s.finish now).2.state = .done ∧
      (∀ piece now' sentAt', (s.finish now).2.feed piece now' sentAt' =
        (.error .sessionFinished, (s.finish now).2)) ∧
      (∀ now' sentAt', (s.finish now).2.poll now' sentAt' = (.ok none, (s.finish now).2)) ∧
      ∀ now', (s.finish now).2.finish now' = (.ok m, (s.finish now).2)) ∧
    (s.state = .waiting ↔ (start fields window).emitted calls = []) := by
  intro s
  refine ⟨fun piece now sentAt hrefused => ?_, fun now e herror => ?_, fun now m hfinal => ?_,
    waiting_iff fields window calls⟩
  · obtain ⟨hopen, hreceived⟩ := hrefused.feed_eq
    have hscanner : s.scanner = Scanner.ofText (fed calls) := scanner_run fields window calls hopen
    constructor
    · rw [hreceived, received, hscanner, Scanner.feed_ofText]
    · intro idle hidle more now' sentAt' sent hsent
      obtain ⟨parsed, hparsed, hlatest⟩ := hrefused.latest_feed hscanner hidle hsent
      refine ⟨fun at₁ at₂ => ?_, fun t₁ t₂ => ?_⟩
      · rw [Session.latest_feed hopen hparsed, hlatest]
      · rcases feed_cases s (piece ++ fed idle ++ more) (.ok t₁) (.ok t₂) hopen with
          ⟨e, herror, -⟩ | ⟨parsed', -, heq⟩
        · rw [hparsed] at herror
          cases herror
        · rw [heq]
          exact poll_ok _ t₁ t₂
  · obtain ⟨hopen, hstate, hemissions, hsentAt, hsame⟩ := finish_error herror
    exact ⟨hstate, hopen, hemissions, hsentAt, hsame⟩
  · obtain ⟨hdone, hlast⟩ := finish_done hfinal
    refine ⟨hdone, feed_of_done hdone, poll_of_done hdone, fun now' => ?_⟩
    rw [finish_of_done hdone, hlast]

/-- Digits with a letter behind them are no integer, however many they are. -/
theorem legible_word (n : Nat) :
    Legible true [⟨.given "n", .int, .text "", .bool true, none⟩]
      ("[[ ## n ## ]]\n".toList ++ List.replicate (n + 1) '1' ++ "x".toList) := by
  intro f hf _ raw hraw
  obtain rfl := List.mem_singleton.mp hf
  have hbreak : '\n' ∉ List.replicate (n + 1) '1' ++ "x".toList := by
    rw [List.mem_append, List.mem_replicate]
    simp
  have hlast := Prompt.value?_lastLine .nil (by decide : Prompt.MarkerSafe "n".toList) hbreak rfl
    rfl (by decide) true
  rw [List.append_assoc] at hraw
  obtain rfl : trim (List.replicate (n + 1) '1' ++ "x".toList) = raw :=
    Option.some.inj (hlast.symm.trans hraw)
  rintro ⟨digits, hwritten, -⟩
  exact absurd (hwritten.mem (mem_trimBy rfl (List.mem_append_right _ List.mem_cons_self)))
    (by decide)

/-- A session refuses an integer of one digit too many, and the word that it becomes when more comes
is what the whole text has for it. Until then the session cannot be ended; one that has received
nothing is ended for good. -/
theorem failed_calls_keep_overLong :
    let fields : List Field := [⟨.given "n", .int, .text "", .bool true, none⟩]
    let piece := "[[ ## n ## ]]\n".toList ++ List.replicate 4301 '1'
    let s := start fields (0 : Int)
    let refused := (s.feed piece (.ok 0) (.ok 0)).2
    (refused = { s with pieces := 1, scanner := Scanner.ofText piece } ∧
      (refused.feed "x".toList (.ok 2) (.ok 2)).2.latest =
        (s.feed (piece ++ "x".toList) (.ok 2) (.ok 2)).2.latest) ∧
    (refused.finish (.ok 1)).2 = refused ∧
    (s.finish (.ok 1)).2.finish (.ok 2) = (.ok [(.given "n", none)], (s.finish (.ok 1)).2) := by
  intro fields
  -- The piece is long, and nothing but its legibility counts.
  obtain ⟨text, htext, hillegible, hlegible⟩ :
      ∃ text, "[[ ## n ## ]]\n".toList ++ List.replicate 4301 '1' = text ∧
        (∀ hold, ¬Legible hold fields text) ∧ Legible true fields (text ++ "x".toList) :=
    ⟨_, rfl, fun hold h => h _ List.mem_cons_self rfl _
      (value?_replicate [] "n".toList .nil (by decide) (by decide) hold 4300)
      (overLong_replicate (by decide)), legible_word 4300⟩
  rw [htext]
  intro piece s refused
  have hfeed : s.feed piece (.ok 0) (.ok 0) = (.error .unreadable, s.received piece) :=
    (reached_start fields 0).feed_error (resolve_eq_error (hillegible true)) (.ok 0) (.ok 0)
  have hrefused : Refused s (.feed piece (.ok 0) (.ok 0)) :=
    ⟨congrArg Prod.fst hfeed, by simp [Call.readings]⟩
  have hreceived : refused = s.received piece := congrArg Prod.snd hfeed
  have hopen : refused.state ≠ .done := hreceived ▸ (by decide : s.state ≠ .done)
  have hscanner : refused.scanner = Scanner.ofText piece := hreceived ▸ rfl
  have hfields : refused.fields = fields := hreceived ▸ rfl
  obtain ⟨hfeeds, -, hfinal, -⟩ := failed_calls_keep fields (0 : Int) []
  obtain ⟨-, hfails, -, -⟩ := failed_calls_keep fields (0 : Int) [.feed piece (.ok 0) (.ok 0)]
  obtain ⟨hkept, hlater⟩ := hfeeds piece (.ok 0) (.ok 0) hrefused
  have hsent := exists_feed_iff hopen hscanner "x".toList 2 2
  rw [hfields] at hsent
  obtain ⟨sent, hsent⟩ := hsent.mpr hlegible
  have herror : (refused.finish (.ok 1)).1 = .error .unreadable := by
    rw [finish_ok hopen, hscanner, hfields, resolve_eq_error (hillegible false)]
    rfl
  obtain ⟨hlatest, -⟩ := hlater [] trivial "x".toList (.ok 2) (.ok 2) sent hsent
  refine ⟨⟨hkept, ?_⟩, ?_, ?_⟩
  · have hwhole := hlatest (.ok 2) (.ok 2)
    rw [fed, List.flatMap_nil, List.append_nil] at hwhole
    exact hwhole.symm
  · exact (hfails (.ok 1) .unreadable herror).2.2.2.2 (by simp)
  · exact (hfinal (.ok 1) _ rfl).2.2.2 (.ok 2)

end Calls

/-- Where the clock cannot be read when a session is to be ended, the values of the whole text have
been taken over before. -/
theorem finish_unread :
    let s := (start [⟨.given "a", .str, .text "", .bool true, none⟩] (0 : Int)).run
      [.feed "[[ ## a ## ]]\n".toList (.ok 0) (.ok 0)]
    (s.finish (.error .numberTooLarge)).1 = .error .numberTooLarge ∧
      s.latest = [(.given "a", none)] ∧
      (s.finish (.error .numberTooLarge)).2.latest = [(.given "a", some (.text []))] :=
  ⟨rfl, rfl, rfl⟩

end PromptContract.Session
