import PromptContract.Proofs.Session.Run

/-!
# Shown text is never taken back

The values of a text field only grow while a session goes on (`Grows`): every map that goes out
shows a text that the later maps begin with, the final map among them. One step of this is
`Reached.grows`, which takes over the values of a longer text, and `pairwise_emitted` puts the steps
of a run together. Once the block of a field is closed its text is the same from then on
(`value?_append_of_closed`), and `shown_text_stays` says both of whole runs.

Both hold where no marker of the field within a line precedes the first one at the start of a line.
Else the latter takes the place of the former, and with it another block.
-/

namespace PromptContract.Session

open Reply Reply.Scanner Text

variable {τ : Type}

/-- The value of a name goes on from one map to another: it is a text, and the other map has a text
that begins with it. -/
def Grows (name : Name) (m n : Outputs) : Prop :=
  ∀ v, m.get name = some v → ∃ a b, v = .text a ∧ n.get name = some (.text b) ∧ a <+: b

/-- What goes on to a map goes on with it. -/
theorem Grows.trans {name : Name} {m n o : Outputs} (h : Grows name m n) (h' : Grows name n o) :
    Grows name m o := by
  intro v hv
  obtain ⟨a, b, rfl, hb, hab⟩ := h v hv
  obtain ⟨b', c, hb', hc, hbc⟩ := h' (.text b) hb
  obtain rfl : b = b' := Scalar.text.inj hb'
  exact ⟨a, c, rfl, hc, hab.trans hbc⟩

/-! ## Values of a text field -/

section TextField

variable {fields : List Field} {f : Field} (hnames : (fields.map (·.name.text)).Nodup)
  (hf : f ∈ fields) (htype : f.type = .str)

include hnames hf htype

/-- A value of a text field is the text that some earlier text had for the field. -/
theorem exists_text_of_readEarlier {text : List Char} {v : Scalar}
    (h : ReadEarlier fields text f.name v) :
    ∃ earlier raw, earlier <+: text ∧
      (Scanner.ofText earlier).value? true f.name.text.toList = some raw ∧ v = .text raw := by
  obtain ⟨f', hf', hname, earlier, raw, reading, hearlier, hraw, hread, rfl⟩ := h
  obtain rfl : f' = f := List.inj_on_of_nodup_map hnames hf' hf hname
  rw [htype] at hread
  obtain rfl := Option.some.inj hread
  exact ⟨earlier, raw, hearlier, hraw, rfl⟩

/-- What is taken over for a text field is the text that the field has. -/
theorem value_of_resolve_text {s : Scanner} {hold : Bool} {parsed : List ParsedField}
    (h : resolve s hold fields = .ok parsed) {p : ParsedField} (hp : p ∈ parsed)
    (hname : p.name.text = f.name.text) :
    p.value = (s.value? hold f.name.text.toList).map .text := by
  rw [(read_of_resolve h hnames hf hp hname).value_eq, htype]
  cases s.value? hold f.name.text.toList <;> rfl

/-- The value of a text field goes on when those of a longer text are taken over. -/
theorem Reached.grows {text more rest : List Char} {s : Session τ} (h : Reached fields text s)
    (hno : ¬Preceded (text ++ more ++ rest) f.name.text.toList) {hold final : Bool}
    {parsed : List ParsedField}
    (hparsed : resolve (Scanner.ofText (text ++ more)) hold fields = .ok parsed) :
    Grows f.name s.latest (parsed.foldl (mergeField final) s.latest) := by
  intro v hv
  obtain ⟨earlier, raw, ⟨between, rfl⟩, hraw, rfl⟩ :=
    exists_text_of_readEarlier hnames hf htype (h.read _ _ hv)
  rcases get_foldl_mergeField final parsed s.latest f.name with
    hkept | ⟨p, hp, v, hname, hvalue, hnew⟩
  · exact ⟨raw, raw, rfl, hkept.trans hv, List.prefix_rfl⟩
  · -- The text that the old value was read from is a beginning of the longer text.
    rw [List.append_assoc earlier] at hno hparsed
    obtain ⟨later, hlater, hprefix⟩ := value?_isPrefix hold hno hraw
    rw [value_of_resolve_text hnames hf htype hparsed hp hname, hlater] at hvalue
    obtain rfl := Option.some.inj hvalue
    exact ⟨raw, later, rfl, hnew, hprefix⟩

/-- The value of a text field goes on to itself. -/
theorem Reached.grows_rfl {text : List Char} {s : Session τ} (h : Reached fields text s) :
    Grows f.name s.latest s.latest := by
  intro v hv
  obtain ⟨-, raw, -, -, rfl⟩ := exists_text_of_readEarlier hnames hf htype (h.read _ _ hv)
  exact ⟨raw, raw, rfl, hv, List.prefix_rfl⟩

/-- The value of a text field goes on to the map that ends the session. -/
theorem Reached.grows_finish {text : List Char} {s : Session τ} (h : Reached fields text s)
    (hno : ¬Preceded text f.name.text.toList) {now : ClockReading τ} {final : Outputs}
    (hfinal : (s.finish now).1 = .ok final) : Grows f.name s.latest final := by
  rcases finish_cases s now h.not_done with ⟨e, herror⟩ | ⟨parsed, hparsed, hmap⟩
  · rw [herror] at hfinal
    cases hfinal
  · obtain rfl := Except.ok.inj (hmap.symm.trans hfinal)
    rw [h.fields_eq, h.scanner_eq, ← List.append_nil text] at hparsed
    rw [← List.append_nil text, ← List.append_nil (text ++ [])] at hno
    exact h.grows hnames hf htype hno hparsed

/-! ## Calls and runs -/

variable [Sub τ] [OfNat τ 0] [LT τ] [DecidableLT τ]

/-- The value of a text field goes on through an open call. -/
theorem Reached.grows_call {text rest : List Char} {s : Session τ} (h : Reached fields text s)
    {c : Call τ} (hc : c.IsOpen)
    (hno : ¬Preceded (text ++ c.piece ++ rest) f.name.text.toList) :
    Grows f.name s.latest (s.call c).2.latest := by
  obtain ⟨-, -, -, hsame | ⟨parsed, hparsed, htaken⟩⟩ := h.latest_call hc
  · rw [hsame]
    exact h.grows_rfl hnames hf htype
  · rw [htaken]
    exact h.grows hnames hf htype hno hparsed

/-- In a run of open calls that is ended then, the value of a text field goes on from the start to
every map that goes out, and from each of these to the ones behind it. -/
theorem Reached.pairwise_emitted {text : List Char} {s : Session τ} (h : Reached fields text s)
    {calls : List (Call τ)} (hopen : ∀ c ∈ calls, c.IsOpen) (now : ClockReading τ)
    (hno : ¬Preceded (text ++ fed calls) f.name.text.toList) :
    (s.latest :: s.emitted (calls ++ [.finish now])).Pairwise (Grows f.name) := by
  induction calls generalizing text s with
  | nil =>
    have hno : ¬Preceded text f.name.text.toList := by
      rwa [fed, List.flatMap_nil, List.append_nil] at hno
    rw [List.nil_append, emitted_finish]
    cases hfinal : (s.finish now).1 with
    | error e => exact List.pairwise_singleton _ _
    | ok final =>
      have hgrows := h.grows_finish hnames hf htype hno hfinal
      exact List.pairwise_pair.mpr hgrows
  | cons c calls ih =>
    have hc := hopen c List.mem_cons_self
    rw [fed, List.flatMap_cons, ← List.append_assoc] at hno
    have hstep := h.grows_call hnames hf htype hc hno
    have hrest := ih (h.call hc) (fun c' hc' => hopen c' (List.mem_cons_of_mem _ hc')) hno
    -- What the call sends are the values behind it, with which the rest of the run begins.
    have hbehind : ∀ m ∈ (s.call c).2.latest :: (s.call c).2.emitted (calls ++ [.finish now]),
        Grows f.name s.latest m := by
      intro m hm
      rcases List.mem_cons.mp hm with rfl | hm
      · exact hstep
      · exact hstep.trans (List.rel_of_pairwise_cons hrest hm)
    rw [List.cons_append, emitted_cons]
    cases hsent : sent? (s.call c).1 with
    | none =>
      exact List.pairwise_cons.mpr ⟨fun m hm => hbehind m (List.mem_cons_of_mem _ hm),
        (List.pairwise_cons.mp hrest).2⟩
    | some sent =>
      obtain rfl : sent = (s.call c).2.latest := latest_of_sent? h.not_done hc hsent
      exact List.pairwise_cons.mpr ⟨hbehind, hrest⟩

end TextField

/-- In a run over fields of different names in which no marker of a text field within a line
precedes the first one at the start of a line, each map that goes out shows a beginning of what the
later ones show of the field, the final map among them; and once its block is closed the field's
text stays as it is. -/
theorem shown_text_stays [Sub τ] [OfNat τ 0] [LT τ] [DecidableLT τ] (fields : List Field)
    (window : τ) (calls : List (Call τ)) (hopen : ∀ c ∈ calls, c.IsOpen) (now : ClockReading τ)
    (hnames : (fields.map (·.name.text)).Nodup) (f : Field) (hf : f ∈ fields)
    (htype : f.type = .str) (hno : ¬Preceded (fed calls) f.name.text.toList) :
    ((start fields window).emitted (calls ++ [.finish now])).Pairwise (Grows f.name) ∧
      ∀ before more, before ++ more <+: calls → Closed (fed before) f.name.text.toList →
        ∀ hold hold',
          ((start fields window).run (before ++ more)).scanner.value? hold' f.name.text.toList =
            ((start fields window).run before).scanner.value? hold f.name.text.toList := by
  constructor
  · have hall := (reached_start fields window).pairwise_emitted hnames hf htype hopen now hno
    exact (List.pairwise_cons.mp hall).2
  · rintro before more ⟨rest, rfl⟩ hclosed hold hold'
    have hbefore : Reached fields (fed before) ((start fields window).run before) :=
      (reached_start fields window).run fun c hc => hopen c (by simp [hc])
    have hmore : Reached fields (fed (before ++ more))
        ((start fields window).run (before ++ more)) :=
      (reached_start fields window).run fun c hc => hopen c (List.mem_append_left _ hc)
    rw [fed_append, fed_append] at hno
    rw [hbefore.scanner_eq, hmore.scanner_eq, fed_append]
    exact value?_append_of_closed hno hclosed hold hold'

/-- What may become an opening half is held back, and shown once it cannot. What is fed behind the
block makes no difference. -/
theorem shown_text_stays_held :
    (start [⟨.given "a", .str, .text "", .bool true, none⟩] (0 : Int)).emitted
        [.feed "[[ ## a ## ]]\nhi\n[[".toList (.ok 0) (.ok 0),
          .feed " you\n[[ ## b ## ]]".toList (.ok 1) (.ok 1),
          .feed "\nto".toList (.ok 2) (.ok 2), .finish (.ok 3)] =
      [[(.given "a", some (.text "hi".toList))],
        [(.given "a", some (.text "hi\n[[ you".toList))],
        [(.given "a", some (.text "hi\n[[ you".toList))]] ∧
    ((start [⟨.given "a", .str, .text "", .bool true, none⟩] (0 : Int)).emitted
        [.feed "[[ ## a ## ]]\nhi\n[[".toList (.ok 0) (.ok 0),
          .feed " you\n[[ ## b ## ]]".toList (.ok 1) (.ok 1),
          .feed "\nto".toList (.ok 2) (.ok 2), .finish (.ok 3)]).Pairwise (Grows (.given "a")) ∧
    ((start [⟨.given "a", .str, .text "", .bool true, none⟩] (0 : Int)).run
        [.feed "[[ ## a ## ]]\nhi\n[[".toList (.ok 0) (.ok 0),
          .feed " you\n[[ ## b ## ]]".toList (.ok 1) (.ok 1),
          .feed "\nto".toList (.ok 2) (.ok 2)]).scanner.value? true "a".toList =
      some "hi\n[[ you".toList := by
  have hno : ¬Preceded "[[ ## a ## ]]\nhi\n[[ you\n[[ ## b ## ]]\nto".toList "a".toList := by
    have hscan : Marker.scan "[[ ## a ## ]]\nhi\n[[ you\n[[ ## b ## ]]\nto".toList =
        [⟨0, 13, some ['a'], true⟩, ⟨24, 37, some ['b'], true⟩] := rfl
    rintro ⟨m, k, hm, -, hwithin, -, -⟩
    rw [hscan] at hm
    simp only [List.mem_cons, List.not_mem_nil, or_false] at hm
    rcases hm with rfl | rfl <;> cases hwithin
  have hclosed : Closed "[[ ## a ## ]]\nhi\n[[ you\n[[ ## b ## ]]".toList "a".toList :=
    ⟨⟨0, 13, some ['a'], true⟩, "[[ ## a ## ]]\nhi\n[[ you\n".toList, "[[ ## b ## ]]".toList, rfl,
      rfl, (wholeLines_iff _).mpr (.inr rfl), rfl, by decide⟩
  obtain ⟨hgrows, hstays⟩ := shown_text_stays [⟨.given "a", .str, .text "", .bool true, none⟩]
    (0 : Int) [.feed "[[ ## a ## ]]\nhi\n[[".toList (.ok 0) (.ok 0),
      .feed " you\n[[ ## b ## ]]".toList (.ok 1) (.ok 1), .feed "\nto".toList (.ok 2) (.ok 2)]
    (by simp [Call.IsOpen]) (.ok 3) (by simp) _ List.mem_cons_self rfl hno
  exact ⟨rfl, hgrows, hstays [_, _] [_] List.prefix_rfl hclosed true true⟩

end PromptContract.Session
