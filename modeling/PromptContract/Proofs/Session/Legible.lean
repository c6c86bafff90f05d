import Mathlib.Data.List.Induction
import PromptContract.Proofs.Prompt.Blocks
import PromptContract.Proofs.Reply.Legible
import PromptContract.Proofs.Session.Agreement
import PromptContract.Proofs.Session.Monotone

/-!
# When a session fails

A session that is not ended has the text of the calls that were made, whatever these came to
(`scanner_run`), and is fed or ended where its fields are legible in the text (`exists_feed_iff`,
`exists_finish_iff`). So a session, like a parsed reply, fails at integers that are too long and at
no other text (`fails_only_overLong`).
-/

namespace PromptContract.Session

open Reply Numeral Text

variable {τ : Type}

/-- Ending a session brings it no text, whether it is ended then or not. -/
theorem scanner_finish (s : Session τ) (now : ClockReading τ) :
    (s.finish now).2.scanner = s.scanner := by
  have hending := ending_finish s now
  generalize s.finish now = result at hending ⊢
  cases hending <;> rfl

section Calls

variable [Sub τ] [OfNat τ 0] [LT τ] [DecidableLT τ]

/-- No call changes a session that is ended. -/
theorem call_of_done {s : Session τ} (hdone : s.state = .done) (c : Call τ) : (s.call c).2 = s := by
  cases c with
  | feed piece now sentAt => rw [call_feed, feed_of_done hdone]
  | poll now sentAt => rw [call_poll, poll_of_done hdone]
  | finish now => rw [call, finish_of_done hdone]

/-- A call of an open session adds its piece to the text, whatever it comes to. -/
theorem scanner_call {s : Session τ} (hopen : s.state ≠ .done) (c : Call τ) :
    (s.call c).2.scanner = s.scanner.feed c.piece := by
  cases c with
  | feed piece now sentAt =>
    rw [call_feed, Call.piece_feed]
    rcases feed_cases s piece now sentAt hopen with ⟨e, -, heq⟩ | ⟨parsed, -, heq⟩
    · rw [heq]
      rfl
    · rw [heq]
      exact (keeps_poll _ now sentAt).scanner
  | poll now sentAt => exact (keeps_poll s now sentAt).scanner
  | finish now => exact scanner_finish s now

/-- A session keeps its fields and the names of its map whatever calls are made. -/
theorem Shaped.run {fields : List Field} {s : Session τ} (h : Shaped fields s)
    (calls : List (Call τ)) : Shaped fields (s.run calls) := by
  induction calls generalizing s with
  | nil => exact h
  | cons c calls ih => exact ih (h.call c).shaped

/-- As long as a session is open it has the text of the calls that were made. -/
theorem scanner_run (fields : List Field) (window : τ) (calls : List (Call τ))
    (hopen : ((start fields window).run calls).state ≠ .done) :
    ((start fields window).run calls).scanner = Scanner.ofText (fed calls) := by
  induction calls using List.reverseRecOn with
  | nil => rfl
  | append_singleton calls c ih =>
    rw [run_concat] at hopen ⊢
    have hbefore : ((start fields window).run calls).state ≠ .done := by
      intro hdone
      rw [call_of_done hdone c] at hopen
      exact hopen hdone
    rw [scanner_call hbefore, ih hbefore, Scanner.feed_ofText, fed_append]
    simp [fed]

/-- An open session takes a piece where its fields are legible in the text with the piece, and only
there. -/
theorem exists_feed_iff {s : Session τ} (hopen : s.state ≠ .done) {text : List Char}
    (hscanner : s.scanner = Scanner.ofText text) (piece : List Char) (now sentAt : τ) :
    (∃ sent, (s.feed piece (.ok now) (.ok sentAt)).1 = .ok sent) ↔
      Legible true s.fields (text ++ piece) := by
  rw [← exists_resolve_iff, ← Scanner.feed_ofText, ← hscanner]
  rcases feed_cases s piece (.ok now) (.ok sentAt) hopen with
    ⟨e, herror, heq⟩ | ⟨parsed, hparsed, heq⟩
  · rw [heq, herror]
    simp
  · rw [heq]
    exact iff_of_true (poll_ok _ now sentAt) ⟨parsed, hparsed⟩

end Calls

/-- An open session is ended where its fields are legible in the text, and only there. -/
theorem exists_finish_iff {s : Session τ} (hopen : s.state ≠ .done) {text : List Char}
    (hscanner : s.scanner = Scanner.ofText text) (now : τ) :
    (∃ m, (s.finish (.ok now)).1 = .ok m) ↔ Legible false s.fields text := by
  rw [← exists_resolve_iff, finish_ok hopen, hscanner]
  cases resolve (Scanner.ofText text) false s.fields <;> simp [Except.map]

/-- A text that a numeric type does not take is given back as it is, and any other is read, but for
an integer that is too long. So a reply is parsed, and a session that is open after whatever calls
is fed and ended, exactly where no field of integers has such a text. -/
theorem fails_only_overLong [Sub τ] [OfNat τ 0] [LT τ] [DecidableLT τ] :
    (∀ type raw,
      (¬Scalar.Takes type raw → Scalar.read? type raw = some ⟨.text raw, true⟩) ∧
      (Scalar.Takes type raw → ¬(type = .int ∧ OverLong raw) →
        ∃ v, Scalar.read? type raw = some ⟨v, false⟩) ∧
      (type = .int ∧ OverLong raw → Scalar.read? type raw = none)) ∧
    (∀ reply fields,
      ((∃ parsed, parseFields reply fields = .ok parsed) ↔ Legible false fields reply) ∧
      ((∃ m, parse reply fields = .ok m) ↔ Legible false fields reply)) ∧
    ∀ (fields : List Field) (window : τ) (calls : List (Call τ)),
      ((start fields window).run calls).state ≠ .done →
      (∀ piece now sentAt,
        (∃ sent, (((start fields window).run calls).feed piece (.ok now) (.ok sentAt)).1 =
          .ok sent) ↔ Legible true fields (fed calls ++ piece)) ∧
      ∀ now, (∃ m, (((start fields window).run calls).finish (.ok now)).1 = .ok m) ↔
        Legible false fields (fed calls) := by
  refine ⟨fun type raw => ⟨(read?_eq_text_iff type raw).mpr, fun htakes hshort => ?_,
    (read?_eq_none_iff_overLong type raw).mpr⟩, fun reply fields => ⟨?_, ?_⟩, ?_⟩
  · exact (exists_read?_iff type raw).mpr ⟨htakes, hshort⟩
  · exact exists_resolve_iff reply false fields
  · exact exists_parse_iff reply fields
  · intro fields window calls hopen
    have hscanner := scanner_run fields window calls hopen
    have hfields := ((shaped_start fields window).run calls).fields_eq
    refine ⟨fun piece now sentAt => ?_, fun now => ?_⟩
    · rw [exists_feed_iff hopen hscanner, hfields]
    · rw [exists_finish_iff hopen hscanner, hfields]

/-- A session that was fed a word for an integer takes more of it, and can be ended. -/
theorem fails_only_overLong_word :
    ((start [⟨.given "n", .int, .text "", .bool true, none⟩] (0 : Int)).run
      [.feed "[[ ## n ## ]]\ntw".toList (.ok 0) (.ok 0)]).state ≠ .done ∧
    (∃ sent, (((start [⟨.given "n", .int, .text "", .bool true, none⟩] (0 : Int)).run
      [.feed "[[ ## n ## ]]\ntw".toList (.ok 0) (.ok 0)]).feed "o".toList (.ok 1) (.ok 1)).1 =
        .ok sent) ∧
    Scalar.read? .int "two".toList = some ⟨.text "two".toList, true⟩ := by
  have hopen : ((start [⟨.given "n", .int, .text "", .bool true, none⟩] (0 : Int)).run
      [.feed "[[ ## n ## ]]\ntw".toList (.ok 0) (.ok 0)]).state ≠ .done := by decide
  obtain ⟨hread, -, hsession⟩ := fails_only_overLong (τ := Int)
  refine ⟨hopen, ((hsession _ 0 _ hopen).1 "o".toList 1 1).mpr ?_, (hread .int _).1 ?_⟩
  · intro f hf _ raw hraw
    obtain rfl := List.mem_singleton.mp hf
    obtain rfl : "two".toList = raw := Option.some.inj hraw
    rw [← integer_eq_tooLong_iff]
    decide
  · show ¬∃ digits, Written _ digits
    rw [← integer_eq_notInteger_iff]
    rfl

/-- The digit one, more often than an integer may have digits, is too long. -/
theorem overLong_replicate {n : Nat} (h : digitLimit < n) : OverLong (List.replicate n '1') := by
  refine ⟨_, ⟨.inl rfl, ?_, fun c hc => ?_⟩, by rwa [List.length_replicate]⟩
  · rw [Ne, List.replicate_eq_nil_iff]
    omega
  · rw [List.eq_of_mem_replicate hc]
    decide

/-- The digit one any number of times comes back from the last block of a text. -/
theorem value?_replicate (head name : List Char) (hhead : WholeLines head)
    (hsafe : Prompt.MarkerSafe name)
    (hfirst : ∀ k ∈ Marker.scan head, k.lineStart = true → k.name ≠ some name) (hold : Bool)
    (n : Nat) : (Scanner.ofText (head ++ Prompt.blockOf name (List.replicate (n + 1) '1'))).value?
      hold name = some (List.replicate (n + 1) '1') := by
  have hbreak : '\n' ∉ List.replicate (n + 1) '1' := by simp
  have htrim : Text.trim (List.replicate (n + 1) '1') = List.replicate (n + 1) '1' := by
    have hblank : ∀ c ∈ List.replicate (n + 1) '1', Text.isBlank c = false := by
      intro c hc
      rw [List.eq_of_mem_replicate hc]
      decide
    exact Text.trimBy_eq_self _ _ (fun c hc => hblank c (List.mem_of_head? hc))
      (fun c hc => hblank c (List.mem_of_getLast? hc))
  rw [Prompt.value?_lastLine hhead hsafe hbreak rfl rfl hfirst hold, htrim]

/-- An integer of one digit too many is not read, and neither the reply nor the session that has it
is. -/
theorem overLong_fails :
    Scalar.read? .int (List.replicate 4301 '1') = none ∧
    parse ("[[ ## n ## ]]\n".toList ++ List.replicate 4301 '1')
      [⟨.given "n", .int, .text "", .bool true, none⟩] = .error .unreadable ∧
    ((start [⟨.given "n", .int, .text "", .bool true, none⟩] (0 : Int)).feed
      ("[[ ## n ## ]]\n".toList ++ List.replicate 4301 '1') (.ok 0) (.ok 0)).1 =
        .error .unreadable := by
  have hlong : OverLong (List.replicate 4301 '1') := overLong_replicate (by decide)
  have hvalue := fun hold =>
    value?_replicate [] "n".toList .nil (by decide) (by decide) hold 4300
  have hparse : ∀ hold, ¬Legible hold [⟨.given "n", .int, .text "", .bool true, none⟩]
      ("[[ ## n ## ]]\n".toList ++ List.replicate 4301 '1') :=
    fun hold h => h _ List.mem_cons_self rfl _ (hvalue hold) hlong
  refine ⟨(read?_eq_none_iff_overLong _ _).mpr ⟨rfl, hlong⟩, ?_, ?_⟩
  · rw [parse_eq, resolve_eq_error (hparse false)]
    rfl
  · exact congrArg Prod.fst
      ((reached_start _ 0).feed_error (resolve_eq_error (hparse true)) (.ok 0) (.ok 0))

end PromptContract.Session
