import PromptContract.Proofs.Session.Final

/-!
# A session against the whole text

What ending a session gives (`StreamReassembler.finish`) agrees with what parsing its whole text
gives (`Agrees`): both fail with one failure, or both give a map, and the maps have the same names
and values but for a value that was superseded. Where none was they are the same
(`Agrees.eq_parse`). Feeding and polling a session whose fields can be read and whose clock can be
read never fails.
-/

namespace PromptContract.Session

open Reply Reply.Scanner

variable {τ : Type}

/-- What comes of a text agrees with what parsing the whole of it gives, except that a superseded
value may remain where the whole text gives none. -/
def Agrees (fields : List Field) (text : List Char) : Except Failure Outputs → Prop
  | .error e => parse text fields = .error e
  | .ok m => ∃ whole, parse text fields = .ok whole ∧ m.map (·.1) = whole.map (·.1) ∧
      ∀ f ∈ fields, m.get f.name = whole.get f.name ∨
        whole.get f.name = none ∧ Superseded text f.name.text.toList

/-- A value that a session still has when its text gives none was superseded. -/
theorem Reached.superseded {fields : List Field} {text : List Char} {s : Session τ}
    (h : Reached fields text s) {name : Name} {hold : Bool}
    (hnone : (ofText text).value? hold name.text.toList = none) (hget : s.latest.get name ≠ none) :
    Superseded text name.text.toList := by
  obtain ⟨v, hv⟩ := Option.ne_none_iff_exists'.mp hget
  obtain ⟨f, -, hname, earlier, raw, -, ⟨more, rfl⟩, hread, -, -⟩ := h.read name v hv
  rw [hname] at hread
  exact superseded_of_value? hread hnone

/-- Ending a session with the clock at hand takes over the values of its whole text, or fails where
they cannot be read. -/
theorem finish_ok {s : Session τ} (hopen : s.state ≠ .done) (now : τ) :
    (s.finish (.ok now)).1 = (resolve s.scanner false s.fields).map fun parsed =>
      parsed.foldl (mergeField true) s.latest := by
  have hending := ending_finish s (.ok now)
  generalize s.finish (.ok now) = result at hending ⊢
  cases hending with
  | again hdone => exact absurd hdone hopen
  | unreadable _ hresolve =>
    rw [hresolve]
    rfl
  | unread _ _ hnow => cases hnow
  | sent _ hresolve =>
    rw [hresolve]
    rfl

/-- What ending a session gives agrees with what its whole text gives. -/
theorem Reached.agrees_finish {fields : List Field} {text : List Char} {s : Session τ}
    (h : Reached fields text s) (now : τ) : Agrees fields text (s.finish (.ok now)).1 := by
  rw [finish_ok h.not_done, h.fields_eq, h.scanner_eq]
  cases hparsed : resolve (ofText text) false fields with
  | error e =>
    have hparse : parse text fields = .error e := by
      rw [parse_eq, hparsed]
      rfl
    exact hparse
  | ok parsed =>
    have hparse : parse text fields = .ok (outputsOf parsed) := by
      rw [parse_eq, hparsed]
      rfl
    refine ⟨outputsOf parsed, hparse, h.names_finish hparsed, fun f hf => ?_⟩
    obtain ⟨p, hp, hread⟩ := exists_parsed_of_resolve hparsed hf
    have hex : ∃ p ∈ parsed, p.name.text = f.name.text := ⟨p, hp, by rw [hread.name_eq]⟩
    have hvalue := value_of_resolve hparsed f.name
    by_cases hraw : (ofText text).value? false f.name.text.toList = none
    · -- Nothing is taken over for the name, so that what the session had remains.
      have hnone : ∀ q ∈ parsed, q.name.text = f.name.text → q.value = none :=
        fun q hq hname => (hvalue q hq hname).mpr hraw
      have hkept : (parsed.foldl (mergeField true) s.latest).get f.name = s.latest.get f.name := by
        rcases get_foldl_mergeField true parsed s.latest f.name with
          hkept | ⟨q, hq, v, hname, hv, -⟩
        · exact hkept
        · rw [hnone q hq hname] at hv
          cases hv
      rw [hkept, get_outputsOf hnone (.inl rfl)]
      by_cases hget : s.latest.get f.name = none
      · exact .inl hget
      · exact .inr ⟨rfl, h.superseded hraw hget⟩
    · exact .inl (get_foldl_mergeField_eq
        (fun q hq hname => mt (hvalue q hq hname).mp hraw) _ _ (.inr hex))

variable [Sub τ] [OfNat τ 0] [LT τ] [DecidableLT τ]

/-- Polling does not fail where the clock can be read. -/
theorem poll_ok (s : Session τ) (now sentAt : τ) :
    ∃ sent, (s.poll (.ok now) (.ok sentAt)).1 = .ok sent := by
  have hpolling := polling_poll s (.ok now) (.ok sentAt)
  generalize s.poll (.ok now) (.ok sentAt) = step at hpolling ⊢
  cases hpolling with
  | nothing => exact ⟨none, rfl⟩
  | unread hnow => cases hnow
  | unnoted hsentAt => cases hsentAt
  | sent => exact ⟨some s.latest, rfl⟩

/-- Nor does feeding where the fields can be read. -/
theorem Reached.feed_ok {fields : List Field} {text piece : List Char} {s : Session τ}
    (h : Reached fields text s) {parsed : List ParsedField}
    (hparsed : resolve (ofText (text ++ piece)) true fields = .ok parsed) (now sentAt : τ) :
    ∃ sent, (s.feed piece (.ok now) (.ok sentAt)).1 = .ok sent := by
  rw [← feed_ofText, ← h.scanner_eq, ← h.fields_eq] at hparsed
  rcases feed_cases s piece (.ok now) (.ok sentAt) h.not_done with
    ⟨e, herror, -⟩ | ⟨parsed, -, heq⟩
  · rw [hparsed] at herror
    cases herror
  · rw [heq]
    exact poll_ok _ now sentAt

/-- Where the fields cannot be read, feeding fails with the failure to read them, and the piece
stays in the text. -/
theorem Reached.feed_error {fields : List Field} {text piece : List Char} {s : Session τ}
    (h : Reached fields text s) {e : Failure}
    (herror : resolve (ofText (text ++ piece)) true fields = .error e)
    (now sentAt : ClockReading τ) : s.feed piece now sentAt = (.error e, s.received piece) := by
  rw [← feed_ofText, ← h.scanner_eq, ← h.fields_eq] at herror
  rcases feed_cases s piece now sentAt h.not_done with ⟨e', herror', heq⟩ | ⟨parsed, hparsed, -⟩
  · rw [herror] at herror'
    obtain rfl := Except.error.inj herror'
    exact heq
  · rw [herror] at hparsed
    cases hparsed

end PromptContract.Session
