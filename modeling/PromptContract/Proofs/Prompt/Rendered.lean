import PromptContract.Proofs.Number.Numeral
import PromptContract.Proofs.Prompt.Blocks
import PromptContract.Proofs.Reply.Outputs

/-!
# A prompt parses as the contract it states

A prompt (`render_prompt`) mentions the name of a field more than once: in the list of its side, in
the frame, and an input's again at the end. Read as a reply (`parse_output`) it gives the block in
the frame, since that is the first of the name whose marker starts a line (`value?_rendered`): no
line of the lists opens with a marker (`unopened_lead`), and behind the frame there is nothing, or a
line that does (`follows_ending`). So each output field comes back as its placeholder, in so far as
its type can read one (`resolveField_shown`), and each input field as its value (`parse_rendered`).
The instructions make no difference.
-/

namespace PromptContract.Prompt

open Text Reply Reply.Marker Reply.Scanner

/-! ## Lines in front of the blocks -/

/-- A text that begins with another character than a bracket does not start with an opening half. -/
theorem afterOpener?_cons {c : Char} (hc : c ≠ '[') (cs : List Char) :
    afterOpener? (c :: cs) = none := by
  unfold afterOpener?
  split
  · next heq => exact absurd (List.cons.inj heq).1 hc
  · rfl

/-- No line of two texts under each other starts with an opening half if none of either does. -/
theorem Unopened.append {a b : List Char} (ha : Unopened a) (hwhole : WholeLines a)
    (hb : Unopened b) : Unopened (a ++ b) := by
  intro before behind heq hbefore
  rw [← Option.not_isSome_iff_eq_none]
  intro hopen
  obtain ⟨before', -, hrest, hbefore'⟩ := exists_of_unopened hwhole ha heq hbefore hopen
  rw [hb before' behind hrest hbefore'] at hopen
  cases hopen

/-- No line of a text but the first may start with an opening half. -/
def UnopenedBelow (cs : List Char) : Prop :=
  ∀ before behind, cs = before ++ behind → WholeLines before → before ≠ [] →
    afterOpener? behind = none

/-- With more in front of the first line it depends on the whole whether that line starts with an
opening half. -/
theorem UnopenedBelow.append_front {front cs : List Char} (h : UnopenedBelow cs)
    (hbreak : '\n' ∉ front) (hfront : afterOpener? (front ++ cs) = none) :
    Unopened (front ++ cs) := by
  intro before behind heq hbefore
  by_cases hnil : before = []
  · rwa [heq, hnil, List.nil_append] at hfront
  · rcases List.append_eq_append_iff.mp heq with ⟨mid, rfl, hrest⟩ | ⟨mid, rfl, -⟩
    · refine h mid behind hrest hbefore.of_append ?_
      rintro rfl
      rw [List.append_nil] at hbefore hnil
      exact hbreak (List.mem_of_getLast? (hbefore.getLast?.resolve_left hnil))
    · -- The lines in front would end within the first one.
      have hlast := hbefore.getLast?.resolve_left hnil
      exact absurd (List.mem_append_left _ (List.mem_of_getLast? hlast)) hbreak

/-- Behind a space only the lines below can start with an opening half. -/
theorem unopenedBelow_iff (cs : List Char) : UnopenedBelow cs ↔ Unopened (' ' :: cs) := by
  constructor
  · intro h
    have hbreak : '\n' ∉ [' '] := by decide
    exact h.append_front hbreak (afterOpener?_cons (by decide) cs)
  · intro h before behind heq hbefore hne
    exact h (' ' :: before) behind (by rw [heq]; rfl) (hbefore.cons ' ' hne)

instance (cs : List Char) : Decidable (UnopenedBelow cs) :=
  decidable_of_iff _ (unopenedBelow_iff cs).symm

/-- Joined by line breaks, texts of which no line starts with an opening half stay so. -/
theorem unopened_joined {parts : List (List Char)} (h : ∀ part ∈ parts, Unopened part) :
    Unopened (joined ['\n'] parts) := by
  have hbreak : ∀ c ∈ ['\n'], c = '\n' := by simp
  induction parts with
  | nil => decide
  | cons part parts ih =>
    have hpart := h part List.mem_cons_self
    cases parts with
    | nil => exact hpart
    | cons next parts =>
      exact (hpart.append_breaks hbreak).append (wholeLines_append_breaks part hbreak (by simp))
        (ih fun part hp => h part (List.mem_cons_of_mem _ hp))

/-- A field that can be stated in a prompt: its name is shown as the text that it counts as, markers
can carry it, and no line of the description but the first starts with an opening half. -/
structure Statable (f : Field) : Prop where
  shown : f.name.display = f.name.text
  safe : MarkerSafe f.name.text.toList
  described : UnopenedBelow f.description.display.toList

/-- Whether a field can be stated is told by its name and its description. -/
theorem statable_iff (f : Field) : Statable f ↔ f.name.display = f.name.text ∧
    MarkerSafe f.name.text.toList ∧ UnopenedBelow f.description.display.toList :=
  ⟨fun ⟨h, h', h''⟩ => ⟨h, h', h''⟩, fun ⟨h, h', h''⟩ => ⟨h, h', h''⟩⟩

instance (f : Field) : Decidable (Statable f) := decidable_of_iff _ (statable_iff f).symm

/-- The line of a field in a list starts with a number, and other lines come from the description
alone. -/
theorem unopened_fieldLine {f : Field} (h : Statable f) (number : Nat) :
    Unopened (fieldLine number f) := by
  have hdigits : ∀ c ∈ (toString number).toList, Numeral.isDigit c = true := by
    intro c hc
    rw [Nat.toString_eq_repr, Nat.toList_repr] at hc
    exact Numeral.isDigit_of_mem_toDigits hc
  apply h.described.append_front
  · have hnumber : '\n' ∉ (toString number).toList := fun hc => absurd (hdigits _ hc) (by decide)
    have hname : '\n' ∉ f.name.display.toList := by
      rw [h.shown]
      exact h.safe.break_notMem
    have htype : '\n' ∉ f.type.name.toList := by cases f.type <;> decide
    simp only [List.mem_append, not_or]
    exact ⟨⟨⟨⟨⟨hnumber, by decide⟩, hname⟩, by decide⟩, htype⟩, by decide⟩
  · -- The line starts with a digit, which is no bracket.
    cases hnumber : (toString number).toList with
    | nil => exact afterOpener?_cons (by decide) _
    | cons c cs =>
      have hc : c ≠ '[' := by
        rintro rfl
        exact absurd (hdigits '[' (hnumber ▸ List.mem_cons_self)) (by decide)
      exact afterOpener?_cons hc _

/-- No line of a field list starts with an opening half if none of its header does. -/
theorem unopened_fieldList {header : List Char} (hheader : Unopened header) {fields : List Field}
    (h : ∀ f ∈ fields, Statable f) : Unopened (fieldList header fields) := by
  apply unopened_joined
  intro part hpart
  rcases List.mem_cons.mp hpart with rfl | hpart
  · exact hheader
  · obtain ⟨⟨f, i⟩, hf, rfl⟩ := List.mem_map.mp hpart
    exact unopened_fieldLine (h f (List.fst_mem_of_mem_zipIdx hf)) (i + 1)

/-! ## The parts of a prompt -/

/-- The field lists of a contract. -/
def lists (c : Contract) : List (List Char) :=
  (if c.inputs.isEmpty then [] else [fieldList inputHeader c.inputs])
    ++ (if c.outputs.isEmpty then [] else [fieldList outputHeader c.outputs])

/-- What a prompt has in front of its blocks. -/
def lead (c : Contract) : List Char := joined ['\n'] (lists c ++ [preamble ++ blankLine])

/-- What a prompt has under the marker of an output field. -/
def shown (f : Field) : List Char :=
  placeholder f.name.text.toList ++ if f.type = .bool then boolNote else []

/-- The blocks of the frame, each by the name in its marker and the text under it. -/
def blocks (c : Contract) (values : Entries) : List (List Char × List Char) :=
  c.inputs.map (fun f => (f.name.display.toList, valueText (values.getD f.name.text)))
    ++ c.outputs.map fun f => (f.name.display.toList, shown f)

/-- The last section of a prompt with the break in front of it, if there are instructions. -/
def instructed (c : Contract) : List Char :=
  match c.instructions with
  | none => []
  | some v => '\n' :: (completedMarker ++ '\n' :: instructionsLead ++ v.display.toList)

/-- What a prompt has behind the blocks of its frame. -/
def ending (c : Contract) (values : Entries) : List Char :=
  instructed c ++ (blankLine ++ inputBlocks c values)

/-- A prompt is the blocks of its frame with what stands in front of them and behind them. -/
theorem rendered_eq {c : Contract} (hfields : (c.inputs.isEmpty && c.outputs.isEmpty) = false)
    (values : Entries) : rendered c values = lead c ++
      (joined blankLine ((blocks c values).map fun b => blockOf b.1 b.2) ++ ending c values) := by
  have hblocks : c.inputs.map (inputBlock (some values)) ++ c.outputs.map outputBlock =
      (blocks c values).map fun b => blockOf b.1 b.2 := by
    rw [blocks, List.map_append, List.map_map, List.map_map]
    rfl
  have hsections : body c (some values) =
      (lists c).flatMap (· ++ ['\n']) ++ (frame c (some values) ++ instructed c) := by
    rw [body, sections, hfields, if_neg Bool.false_ne_true, List.append_assoc, ← lists, instructed]
    cases c.instructions with
    | none =>
      rw [List.append_nil, List.append_nil, joined_append, joined]
    | some v =>
      rw [List.singleton_append, joined_append, joined, joined]
      · simp only [List.append_assoc, List.singleton_append]
      · exact List.cons_ne_nil _ _
  rw [rendered, hsections, frame, hblocks, lead, joined_append, joined, ending]
  simp only [List.append_assoc]

/-- No line in front of the blocks starts with an opening half. -/
theorem unopened_lead {c : Contract} (hinputs : ∀ f ∈ c.inputs, Statable f)
    (houtputs : ∀ f ∈ c.outputs, Statable f) : Unopened (lead c) := by
  have hlist : ∀ {header : List Char} {fields : List Field}, Unopened header →
      (∀ f ∈ fields, Statable f) →
      ∀ part ∈ (if fields.isEmpty then [] else [fieldList header fields]), Unopened part := by
    intro header fields hheader hfields part hpart
    split at hpart
    · cases hpart
    · obtain rfl := List.mem_singleton.mp hpart
      exact unopened_fieldList hheader hfields
  apply unopened_joined
  intro part hpart
  rcases List.mem_append.mp hpart with hpart | hpart
  · rcases List.mem_append.mp hpart with hpart | hpart
    · exact hlist (by decide) hinputs part hpart
    · exact hlist (by decide) houtputs part hpart
  · obtain rfl := List.mem_singleton.mp hpart
    exact Unopened.append_blankLine (by decide)

/-- What a prompt has in front of its blocks are whole lines. -/
theorem wholeLines_lead (c : Contract) : WholeLines (lead c) := by
  rw [lead, joined_append, joined, ← List.append_assoc]
  exact wholeLines_append_blankLine _

/-- Joined parts begin with the first of them. -/
theorem isPrefix_joined (separator part : List Char) (parts : List (List Char)) :
    part <+: joined separator (part :: parts) := by
  cases parts with
  | nil => exact List.prefix_rfl
  | cons next parts =>
    rw [joined, List.append_assoc]
    · exact List.prefix_append _ _
    · exact List.cons_ne_nil _ _

/-- What comes behind the blocks of a prompt may come behind a block. -/
theorem follows_ending (c : Contract) (values : Entries) : Follows (ending c values) := by
  rw [ending, instructed]
  cases c.instructions with
  | none =>
    refine ⟨blankLine, inputBlocks c values, rfl, eq_break_of_mem_blankLine, ?_⟩
    unfold inputBlocks
    cases c.inputs with
    | nil => exact .inl rfl
    | cons f fields =>
      obtain ⟨rest, hrest⟩ := isPrefix_joined blankLine (valueBlock values f)
        (fields.map (valueBlock values))
      rw [List.map_cons, ← hrest, valueBlock, block, List.append_assoc]
      exact .inr ⟨List.cons_ne_nil _ _, afterOpener?_marker _ _⟩
  | some v =>
    exact ⟨['\n'], _, rfl, by simp, .inr ⟨List.cons_ne_nil _ _,
      afterOpener?_marker "completed".toList _⟩⟩

/-! ## Reading a prompt -/

/-- The prompt of a contract with values can be read back: its fields can be stated, the sides have
no name in common, and no line of a value starts with an opening half. Output fields of one name are
truth values all of them or none, as they are wherever names differ. -/
structure Readable (c : Contract) (values : Entries) : Prop where
  inputs : ∀ f ∈ c.inputs, Statable f
  outputs : ∀ f ∈ c.outputs, Statable f
  disjoint : ∀ f ∈ c.inputs, ∀ g ∈ c.outputs, f.name.text ≠ g.name.text
  alike : ∀ f ∈ c.outputs, ∀ g ∈ c.outputs, f.name.text = g.name.text →
    (f.type = .bool ↔ g.type = .bool)
  unopened : ∀ f ∈ c.inputs, Unopened (valueText (values.getD f.name.text))

/-- Whether a prompt can be read back is told by going through the fields. -/
theorem readable_iff (c : Contract) (values : Entries) : Readable c values ↔
    (∀ f ∈ c.inputs, Statable f ∧ Unopened (valueText (values.getD f.name.text)) ∧
      ∀ g ∈ c.outputs, f.name.text ≠ g.name.text) ∧
    ∀ f ∈ c.outputs, Statable f ∧
      ∀ g ∈ c.outputs, f.name.text = g.name.text → (f.type = .bool ↔ g.type = .bool) := by
  constructor
  · intro h
    exact ⟨fun f hf => ⟨h.inputs f hf, h.unopened f hf, h.disjoint f hf⟩,
      fun f hf => ⟨h.outputs f hf, h.alike f hf⟩⟩
  · rintro ⟨hinputs, houtputs⟩
    exact ⟨fun f hf => (hinputs f hf).1, fun f hf => (houtputs f hf).1,
      fun f hf => (hinputs f hf).2.2, fun f hf => (houtputs f hf).2,
      fun f hf => (hinputs f hf).2.1⟩

instance (c : Contract) (values : Entries) : Decidable (Readable c values) :=
  decidable_of_iff _ (readable_iff c values).symm

/-- What is shown for an output field keeps to one line, which starts with a brace. -/
theorem unopened_shown {f : Field} (hsafe : MarkerSafe f.name.text.toList) :
    Unopened (shown f) := by
  have hbreak : '\n' ∉ shown f := by
    have hnote : '\n' ∉ if f.type = .bool then boolNote else [] := by split <;> decide
    simp only [shown, placeholder, List.mem_append, List.mem_cons, not_or]
    exact ⟨⟨⟨by decide, hsafe.break_notMem⟩, by decide, by simp⟩, hnote⟩
  have hnil : UnopenedBelow [] := by decide
  have hline := hnil.append_front hbreak (afterOpener?_cons (by decide) _)
  rwa [List.append_nil] at hline

/-- The blocks of one name in a prompt have one text under their markers. -/
theorem Readable.under_eq {c : Contract} {values : Entries} (h : Readable c values)
    {b b' : List Char × List Char} (hb : b ∈ blocks c values) (hb' : b' ∈ blocks c values)
    (hname : b.1 = b'.1) : b.2 = b'.2 := by
  have htext : ∀ {f g : Field}, Statable f → Statable g →
      f.name.display.toList = g.name.display.toList → f.name.text = g.name.text := by
    intro f g hf hg heq
    rw [← hf.shown, ← hg.shown]
    exact String.toList_inj.mp heq
  rcases List.mem_append.mp hb with hb | hb <;> rcases List.mem_append.mp hb' with hb' | hb' <;>
    obtain ⟨f, hf, rfl⟩ := List.mem_map.mp hb <;> obtain ⟨g, hg, rfl⟩ := List.mem_map.mp hb'
  · have heq := htext (h.inputs f hf) (h.inputs g hg) hname
    simp only [heq]
  · exact absurd (htext (h.inputs f hf) (h.outputs g hg) hname) (h.disjoint f hf g hg)
  · exact absurd (htext (h.outputs f hf) (h.inputs g hg) hname).symm (h.disjoint g hg f hf)
  · have heq := htext (h.outputs f hf) (h.outputs g hg) hname
    simp only [shown, heq, h.alike f hf g hg heq]

/-- Each block of the frame is read back from a prompt, trimmed. -/
theorem value?_rendered {c : Contract} {values : Entries} (h : Readable c values)
    {name under : List Char} (hb : (name, under) ∈ blocks c values) :
    (ofText (rendered c values)).value? false name = some (trim under) := by
  have hfields : (c.inputs.isEmpty && c.outputs.isEmpty) = false := by
    rw [← Bool.not_eq_true, Bool.and_eq_true, List.isEmpty_iff, List.isEmpty_iff]
    rintro ⟨hinputs, houtputs⟩
    simp [blocks, hinputs, houtputs] at hb
  have hblocks : ∀ b ∈ blocks c values, MarkerSafe b.1 ∧ Unopened b.2 := by
    intro b hb
    rcases List.mem_append.mp hb with hb | hb
    · obtain ⟨f, hf, rfl⟩ := List.mem_map.mp hb
      have hstated := h.inputs f hf
      exact ⟨hstated.shown ▸ hstated.safe, h.unopened f hf⟩
    · obtain ⟨f, hf, rfl⟩ := List.mem_map.mp hb
      have hstated := h.outputs f hf
      exact ⟨hstated.shown ▸ hstated.safe, unopened_shown hstated.safe⟩
  rw [rendered_eq hfields]
  exact value?_blocks_follows (wholeLines_lead c) (unopened_lead h.inputs h.outputs)
    (follows_ending c values) hblocks hb fun b hb' hname => h.under_eq hb' hb hname

/-- What is shown for an output field has no blanks around it. -/
theorem trim_shown (f : Field) : trim (shown f) = shown f := by
  apply trimBy_eq_self
  · intro c hc
    obtain rfl := Option.some.inj hc
    decide
  · intro c hc
    have hlast : c = '\x7d' ∨ c = 'e' := by
      unfold shown at hc
      split at hc
      · rw [List.getLast?_append] at hc
        exact .inr (Option.some.inj hc).symm
      · rw [List.append_nil, placeholder, List.getLast?_append] at hc
        exact .inl (Option.some.inj hc).symm
    rcases hlast with rfl | rfl <;> decide

/-- A text that starts with a brace is no integer. -/
theorem integer_brace (cs : List Char) : Numeral.integer ('\x7b' :: cs) = .notInteger := by
  have hbrace : Numeral.isDigit '\x7b' = false := by decide
  simp [Numeral.integer, Numeral.takeSign, hbrace]

/-- Nor is a placeholder any other number. -/
theorem float?_placeholder (name : List Char) : Numeral.float? (placeholder name) = none := by
  have htrim : trimBy isNumberBlank (placeholder name) = placeholder name := by
    apply trimBy_eq_self
    · intro c hc
      obtain rfl := Option.some.inj hc
      decide
    · intro c hc
      rw [placeholder, List.getLast?_append] at hc
      obtain rfl := Option.some.inj hc
      decide
  have hbrace : Numeral.isDigit '\x7b' = false := by decide
  unfold Numeral.float?
  rw [htrim]
  simp [placeholder, Numeral.takeSign, Numeral.decimal?, hbrace]

/-- What parsing gives for the text that a prompt shows for an output field. A number comes back as
the text, since the placeholder is none, and a truth value as false. -/
def echo (f : Field) : ParsedField where
  name := f.name
  type := f.type
  raw := some (shown f)
  value := some (if f.type = .bool then .bool false else .text (placeholder f.name.text.toList))
  outcome := if f.type = .int ∨ f.type = .float then .fallback else .parsed

/-- A text that starts with a brace is not the word for true. -/
theorem lower_brace_ne (cs : List Char) : (lower ('\x7b' :: cs) == "true".toList) = false := by
  have hfirst : lower ('\x7b' :: cs) = '\x7b' :: lowerFrom ['\x7b'] cs := rfl
  rw [hfirst]
  rfl

/-- What is shown for an output field can be read as its type. -/
theorem resolveField_shown (f : Field) : resolveField f (some (shown f)) = .ok (echo f) := by
  obtain ⟨name, type, description, required, spec⟩ := f
  cases type with
  | str => simp [resolveField, Scalar.read?, shown, echo]
  | int => simp [resolveField, Scalar.read?, shown, echo, placeholder, integer_brace]
  | float =>
    simp only [resolveField, Scalar.read?, shown, echo, reduceCtorEq, if_false, List.append_nil,
      float?_placeholder, or_true, if_true, ite_self]
  | bool =>
    have hlower := lower_brace_ne (name.text.toList ++ ['\x7d'] ++ boolNote)
    simp only [resolveField, Scalar.read?, shown, echo, if_true, placeholder, List.cons_append,
      hlower]
    rfl

/-- The output fields of a prompt that can be read back are parsed as what is shown for them. -/
theorem parseFields_rendered {c : Contract} {values : Entries} (h : Readable c values) :
    parseFields (rendered c values) c.outputs = .ok (c.outputs.map echo) := by
  unfold parseFields
  rw [resolve_eq_ok_iff, List.forall₂_map_right_iff, List.forall₂_same]
  intro f hf
  have hb : (f.name.text.toList, shown f) ∈ blocks c values := by
    refine List.mem_append_right _ (List.mem_map.mpr ⟨f, hf, ?_⟩)
    rw [(h.outputs f hf).shown]
  rw [value?_rendered h hb, trim_shown, resolveField_shown]

/-- A map of input values is used as it is. -/
theorem renderedFrom_map (reach : Reach) (c : Contract) (values : Entries) :
    renderedFrom reach c (.map values) = written reach c values := by
  cases values <;> rfl

/-- The prompt of a contract with values, if all that it shows can be written, parses as the
contract that it states, whatever the instructions are: every output field has its placeholder,
which is no number of the field's type, or is false, and every input field has the text of its
value, trimmed. -/
theorem parse_rendered (reach : Reach) (c : Contract) (values : Entries) (h : Readable c values) :
    (obstacle reach c (some values) = none →
      ∃ prompt, renderedFrom reach c (.map values) = .ok prompt) ∧
    ∀ prompt, renderedFrom reach c (.map values) = .ok prompt →
      parseFields prompt c.outputs = .ok (c.outputs.map echo) ∧
      (∃ whole, parse prompt c.outputs = .ok whole ∧ ∀ f ∈ c.outputs, whole.get f.name =
        some (if f.type = .bool then .bool false else .text (placeholder f.name.text.toList))) ∧
      ∀ f ∈ c.inputs, (ofText prompt).value? false f.name.text.toList =
        some (trim (valueText (values.getD f.name.text))) := by
  rw [renderedFrom_map]
  refine ⟨fun hfree => ⟨_, written_of_none hfree⟩, fun prompt hprompt => ?_⟩
  obtain rfl := (written_eq_ok_iff.mp hprompt).2
  have hparsed := parseFields_rendered h
  refine ⟨hparsed, ⟨outputsOf (c.outputs.map echo), ?_, fun f hf => ?_⟩, fun f hf => ?_⟩
  · unfold parse
    rw [hparsed]
    rfl
  · -- Fields of one name have one value, so that the last of them does not matter.
    refine get_outputsOf (fun p hp hname => ?_) (.inr ⟨echo f, List.mem_map_of_mem hf, rfl⟩)
    obtain ⟨g, hg, rfl⟩ := List.mem_map.mp hp
    have htext : g.name.text = f.name.text := hname
    simp only [echo, htext, h.alike g hg f hf htext]
  · refine value?_rendered h (List.mem_append_left _ (List.mem_map.mpr ⟨f, hf, ?_⟩))
    rw [(h.inputs f hf).shown]

/-- A contract with markers within the lines of a description, and instructions that have a block of
their own for an output. -/
def echoing : Contract where
  inputs := [⟨.given "q", .str, .text "as in\n- [[ ## n ## ]]", .bool true, none⟩]
  outputs := [⟨.given "n", .int, .text "", .bool true, none⟩,
    ⟨.given "ok", .bool, .text "", .bool true, none⟩]
  instructions := some (.text "say\n[[ ## n ## ]]\n7")
  inputSchema := none
  outputSchema := none

/-- It parses as it is stated, with a marker within a line of a value too. -/
theorem parse_rendered_instructed :
    ∃ prompt whole,
      renderedFrom .unlimited echoing (.map [(.text "q", .text " # [[ ## ok ## ]]\nTrue")]) =
        .ok prompt ∧
      parse prompt echoing.outputs = .ok whole ∧
      whole.get (.given "n") = some (.text "\x7bn\x7d".toList) ∧
      whole.get (.given "ok") = some (.bool false) ∧
      (ofText prompt).value? false "q".toList = some "# [[ ## ok ## ]]\nTrue".toList := by
  obtain ⟨hwritten, hparses⟩ := parse_rendered .unlimited echoing
    [(.text "q", .text " # [[ ## ok ## ]]\nTrue")] (by decide)
  obtain ⟨prompt, hprompt⟩ := hwritten rfl
  obtain ⟨-, ⟨whole, hwhole, houtputs⟩, hinputs⟩ := hparses prompt hprompt
  have hn := houtputs _ List.mem_cons_self
  have hok := houtputs _ (List.mem_cons_of_mem _ List.mem_cons_self)
  have hq := hinputs _ List.mem_cons_self
  exact ⟨prompt, whole, hprompt, hwhole, hn, hok, hq⟩

end PromptContract.Prompt
