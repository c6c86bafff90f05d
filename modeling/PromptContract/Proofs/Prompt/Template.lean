import PromptContract.Proofs.Prompt.Rendered

/-!
# A template determines its contract

A template (`compile_prompt`) is a list of lines (`template_eq_joined`), which is read back section
by section. The lists of fields are their headers and numbered lines, and no other section begins
with one of these, so that the lists are told from what follows (`append_inj_of_head`). They tell
how many fields there are, and so how long the frame is; the rest are the instructions. Of a field
the numbered line is ambiguous on its own, since names may hold what stands around them there, but
the marker in the frame has the name on a line of its own. So two contracts with names and
descriptions of one line and the same template state the same fields and have the same instructions
(`template_injective`).
-/

namespace PromptContract.Prompt

open Text

/-! ## Texts as lines -/

/-- Joined parts are the first one with the separator behind it, and the others joined, if there are
any. -/
theorem joined_cons_of_ne_nil (separator part : List Char) {parts : List (List Char)}
    (h : parts ≠ []) :
    joined separator (part :: parts) = part ++ separator ++ joined separator parts := by
  cases parts with
  | nil => exact absurd rfl h
  | cons next parts => rfl

/-- They are also the first one, and all others with the separator in front. -/
theorem joined_cons (separator part : List Char) (parts : List (List Char)) :
    joined separator (part :: parts) = part ++ parts.flatMap (separator ++ ·) := by
  induction parts generalizing part with
  | nil => exact (List.append_nil part).symm
  | cons next parts ih =>
    rw [joined_cons_of_ne_nil _ _ (List.cons_ne_nil _ _), ih, List.flatMap_cons,
      List.append_assoc, List.append_assoc]

/-- Joined groups of parts, each joined by the same separator, are the parts joined, if no group is
empty. -/
theorem joined_joined (separator : List Char) {groups : List (List (List Char))}
    (h : ∀ group ∈ groups, group ≠ []) :
    joined separator (groups.map (joined separator)) = joined separator groups.flatten := by
  -- Behind the first group every part has the separator in front of it.
  have hrest : ∀ groups : List (List (List Char)), (∀ group ∈ groups, group ≠ []) →
      (groups.map (joined separator)).flatMap (separator ++ ·) =
        groups.flatten.flatMap (separator ++ ·) := by
    intro groups h
    induction groups with
    | nil => rfl
    | cons group groups ih =>
      obtain ⟨part, parts, rfl⟩ := List.exists_cons_of_ne_nil (h group List.mem_cons_self)
      rw [List.map_cons, List.flatMap_cons, ih fun g hg => h g (List.mem_cons_of_mem _ hg),
        joined_cons, List.flatten_cons, List.flatMap_append, List.flatMap_cons]
      simp only [List.append_assoc]
  cases groups with
  | nil => rfl
  | cons group groups =>
    obtain ⟨part, parts, rfl⟩ := List.exists_cons_of_ne_nil (h group List.mem_cons_self)
    rw [List.map_cons, joined_cons, joined_cons, List.flatten_cons, List.cons_append, joined_cons,
      hrest groups fun g hg => h g (List.mem_cons_of_mem _ hg), List.flatMap_append,
      List.append_assoc]

/-- Every text has a line. -/
theorem lines_ne_nil (cs : List Char) : lines cs ≠ [] := List.splitOn_ne_nil _ _

/-- A text is its lines, joined. -/
theorem joined_lines (cs : List Char) : joined ['\n'] (lines cs) = cs := by
  induction cs using line_induction with
  | last line hline => rw [lines_of_notMem hline]; rfl
  | line line rest hline ih =>
    rw [lines_line hline, joined_cons_of_ne_nil _ _ (lines_ne_nil rest), ih,
      List.append_assoc]
    rfl

/-- Joined lines are cut into the same lines again. -/
theorem lines_joined {line : List Char} {more : List (List Char)}
    (h : ∀ l ∈ line :: more, '\n' ∉ l) : lines (joined ['\n'] (line :: more)) = line :: more := by
  induction more generalizing line with
  | nil => exact lines_of_notMem (h line List.mem_cons_self)
  | cons next more ih =>
    rw [joined_cons, List.flatMap_cons]
    have hnext := ih fun l hl => h l (List.mem_cons_of_mem line hl)
    rw [joined_cons] at hnext
    rw [← hnext]
    exact lines_line (h line List.mem_cons_self) _

/-- Two rows of lines that come to the same text are the same, if neither begins with an empty line.
-/
theorem joined_injective {ls ls' : List (List Char)} (h : ∀ l ∈ ls, '\n' ∉ l)
    (h' : ∀ l ∈ ls', '\n' ∉ l) (hne : [] ∉ ls.head?) (hne' : [] ∉ ls'.head?)
    (heq : joined ['\n'] ls = joined ['\n'] ls') : ls = ls' := by
  have hempty : ∀ {ls : List (List Char)}, (∀ l ∈ ls, '\n' ∉ l) → [] ∉ ls.head? →
      joined ['\n'] ls = [] → ls = [] := by
    intro ls h hne hnil
    cases ls with
    | nil => rfl
    | cons line more =>
      have hlines := lines_joined h
      rw [hnil, lines_of_notMem List.not_mem_nil] at hlines
      exact absurd (by rw [← hlines]; rfl) hne
  cases ls with
  | nil => exact (hempty h' hne' heq.symm).symm
  | cons line more =>
    cases ls' with
    | nil => exact hempty h hne heq
    | cons line' more' => rw [← lines_joined h, heq, lines_joined h']

/-! ## The lines of a template -/

/-- The numbered lines of a list of fields. -/
def numberedLines (fields : List Field) : List (List Char) :=
  fields.zipIdx.map fun e => fieldLine (e.2 + 1) e.1

/-- The lines of a list of fields, which has none without fields. -/
def listLines (header : List Char) (fields : List Field) : List (List Char) :=
  if fields.isEmpty then [] else header :: numberedLines fields

/-- The lines of a block, with the blank line in front of it. -/
def blockLines (f : Field) (under : List Char) : List (List Char) :=
  [[], marker f.name.display.toList, under]

/-- The lines of the blocks of a contract. -/
def framedLines (c : Contract) : List (List Char) :=
  c.inputs.flatMap (fun f => blockLines f (placeholder f.name.text.toList)) ++
    c.outputs.flatMap fun f => blockLines f (shown f)

/-- The lines of the frame, which a contract without fields lacks. -/
def frameLines (c : Contract) : List (List Char) :=
  if c.inputs.isEmpty && c.outputs.isEmpty then [] else preamble :: framedLines c

/-- The lines of the instructions. -/
def instructionLines (c : Contract) : List (List Char) :=
  match c.instructions with
  | none => []
  | some v => completedMarker :: lines (instructionsLead ++ v.display.toList)

/-- The lines of a template. -/
def templateLines (c : Contract) : List (List Char) :=
  listLines inputHeader c.inputs ++
    (listLines outputHeader c.outputs ++ (frameLines c ++ instructionLines c))

/-- Blocks with a blank line in front of each are their lines with a break in front of each. -/
theorem flatMap_block (under : Field → List Char) (fields : List Field) :
    (fields.map fun f => block f (under f)).flatMap (blankLine ++ ·) =
      (fields.flatMap fun f => blockLines f (under f)).flatMap (['\n'] ++ ·) := by
  induction fields with
  | nil => rfl
  | cons f fields ih =>
    rw [List.map_cons, List.flatMap_cons, ih, List.flatMap_cons, List.flatMap_append]
    simp [blockLines, block, blankLine]

/-- The frame is the lines of its blocks under the preamble, joined. -/
theorem frame_eq {c : Contract} (h : (c.inputs.isEmpty && c.outputs.isEmpty) = false) :
    frame c none = joined ['\n'] (preamble :: framedLines c) := by
  have hinputs : inputBlock none = fun f => block f (placeholder f.name.text.toList) := rfl
  have houtputs : outputBlock = fun f => block f (shown f) := rfl
  have hblocks : c.inputs.map (inputBlock none) ++ c.outputs.map outputBlock ≠ [] := by
    simpa [List.isEmpty_iff] using h
  obtain ⟨first, others, hcons⟩ := List.exists_cons_of_ne_nil hblocks
  have hframe : frame c none = preamble ++
      (c.inputs.map (inputBlock none) ++ c.outputs.map outputBlock).flatMap (blankLine ++ ·) := by
    rw [frame, hcons, joined_cons, List.flatMap_cons]
    simp only [List.append_assoc]
  rw [hframe, joined_cons, framedLines, List.flatMap_append, List.flatMap_append, hinputs, houtputs,
    flatMap_block, flatMap_block]

/-- The lines of the sections of a template, section by section. -/
def sectionLines (c : Contract) : List (List (List Char)) :=
  (if c.inputs.isEmpty then [] else [inputHeader :: numberedLines c.inputs])
    ++ (if c.outputs.isEmpty then [] else [outputHeader :: numberedLines c.outputs])
    ++ (if c.inputs.isEmpty && c.outputs.isEmpty then [] else [preamble :: framedLines c])
    ++ (match c.instructions with
      | none => []
      | some v => [completedMarker :: lines (instructionsLead ++ v.display.toList)])

/-- Each section is its lines, joined. -/
theorem sections_eq (c : Contract) :
    sections c none = (sectionLines c).map (joined ['\n']) := by
  have hframe : (if c.inputs.isEmpty && c.outputs.isEmpty then [] else [frame c none]) =
      (if c.inputs.isEmpty && c.outputs.isEmpty then [] else [preamble :: framedLines c]).map
        (joined ['\n']) := by
    cases h : c.inputs.isEmpty && c.outputs.isEmpty with
    | true => rfl
    | false => rw [frame_eq h]; rfl
  have hinstructions (v : Value) :
      completedMarker ++ '\n' :: instructionsLead ++ v.display.toList =
        joined ['\n'] (completedMarker :: lines (instructionsLead ++ v.display.toList)) := by
    rw [joined_cons_of_ne_nil _ _ (lines_ne_nil _), joined_lines]
    simp only [List.append_assoc, List.cons_append, List.nil_append]
  unfold sections sectionLines
  rw [hframe, List.map_append, List.map_append, List.map_append]
  cases c.instructions with
  | none => cases c.inputs.isEmpty <;> cases c.outputs.isEmpty <;> rfl
  | some v =>
    simp only [hinstructions]
    cases c.inputs.isEmpty <;> cases c.outputs.isEmpty <;> rfl

/-- A template is its lines, joined. -/
theorem template_eq_joined (c : Contract) : template c = joined ['\n'] (templateLines c) := by
  have hne : ∀ lines ∈ sectionLines c, lines ≠ [] := by
    unfold sectionLines
    cases c.inputs.isEmpty <;> cases c.outputs.isEmpty <;> cases c.instructions <;> simp
  have hflatten : (sectionLines c).flatten = templateLines c := by
    unfold sectionLines templateLines listLines frameLines instructionLines
    cases c.inputs.isEmpty <;> cases c.outputs.isEmpty <;> cases c.instructions <;> simp
  rw [template, body, sections_eq, joined_joined _ hne, hflatten]

/-! ## Fields and contracts of one line -/

/-- A field whose name and description keep to one line. -/
structure OneLine (f : Field) : Prop where
  name : '\n' ∉ f.name.text.toList
  description : ∃ s, f.description = .text s ∧ '\n' ∉ s.toList

/-- A contract of such fields, whose instructions are a text if it has any. -/
structure Plain (c : Contract) : Prop where
  inputs : ∀ f ∈ c.inputs, OneLine f
  outputs : ∀ f ∈ c.outputs, OneLine f
  instructions : ∀ v, c.instructions = some v → ∃ s, v = .text s

/-- The name of a field type is shown on one line. -/
theorem break_notMem_display (t : FieldType) : '\n' ∉ t.display.toList := by
  cases t <;> simp [FieldType.display, FieldType.name, String.toUpper]

/-- It is not shown as what it counts as. -/
theorem display_ne_name (t u : FieldType) (h : t.display = u.name) : False := by
  have hchars := congrArg String.toList h
  cases t <;> cases u <;> simp [FieldType.display, FieldType.name, String.toUpper] at hchars

/-- A name is determined by how it is shown and what it counts as. -/
theorem name_ext {n n' : Name} (hshown : n.display = n'.display) (htext : n.text = n'.text) :
    n = n' := by
  cases n with
  | given s =>
    cases n' with
    | given s' => exact congrArg Name.given htext
    | ofType t => exact (display_ne_name t t (hshown.symm.trans htext)).elim
  | ofType t =>
    cases n' with
    | given s' => exact (display_ne_name t t (hshown.trans htext.symm)).elim
    | ofType t' => cases t <;> cases t' <;> first | rfl | exact absurd htext (by decide)

/-- What a template states of a field. -/
def stated (f : Field) : Name × FieldType × Value := (f.name, f.type, f.description)

/-- A line of a list of fields begins with a digit. -/
def isNumbered (line : List Char) : Bool := line.head?.any Numeral.isDigit

/-- The line of a field does. -/
theorem isNumbered_fieldLine (number : ℕ) (f : Field) : isNumbered (fieldLine number f) = true := by
  have hne : (toString number).toList ≠ [] := by
    rw [Nat.toString_eq_repr, Nat.toList_repr]
    exact Nat.toDigits_ne_nil
  obtain ⟨c, cs, hcons⟩ := List.exists_cons_of_ne_nil hne
  have hdigit : c ∈ Nat.toDigits 10 number := by
    rw [← Nat.toList_repr, ← Nat.toString_eq_repr, hcons]
    exact List.mem_cons_self
  unfold isNumbered fieldLine
  rw [hcons]
  exact Numeral.isDigit_of_mem_toDigits hdigit

/-- A name of one line is shown on one line. -/
theorem OneLine.display {f : Field} (h : OneLine f) : '\n' ∉ f.name.display.toList := by
  have hname := h.name
  cases hn : f.name with
  | given s => rwa [hn] at hname
  | ofType t => exact break_notMem_display t

/-- The line of a field of one line is one line. -/
theorem OneLine.fieldLine {f : Field} (h : OneLine f) (number : ℕ) :
    '\n' ∉ fieldLine number f := by
  obtain ⟨s, hs, hdescription⟩ := h.description
  have hnumber : '\n' ∉ (toString number).toList := by
    rw [Nat.toString_eq_repr, Nat.toList_repr]
    exact fun hc => absurd (Numeral.isDigit_of_mem_toDigits hc) (by decide)
  have htype : '\n' ∉ f.type.name.toList := by cases f.type <;> decide
  have htext : '\n' ∉ f.description.display.toList := by rwa [hs]
  simp only [Prompt.fieldLine, List.mem_append, not_or]
  exact ⟨⟨⟨⟨⟨⟨hnumber, by decide⟩, h.display⟩, by decide⟩, htype⟩, by decide⟩, htext⟩

/-- Types and descriptions behind the name of a field tell them. -/
theorem typed_injective {t t' : FieldType} {d d' : List Char}
    (h : t.name.toList ++ "): ".toList ++ d = t'.name.toList ++ "): ".toList ++ d') :
    t = t' ∧ d = d' := by
  cases t <;> cases t' <;> simp [FieldType.name] at h ⊢ <;> exact h

-- The numbered line alone does not tell a name from a description.
example : fieldLine 1 ⟨.given "a", .str, .text "b` (str): c", .null, none⟩ =
    fieldLine 1 ⟨.given "a` (str): b", .str, .text "c", .null, none⟩ := by decide

/-- A field of one line is determined by its numbered line, its marker and the text under that, if
the type and this text determine what the name counts as. -/
theorem stated_eq {f f' : Field} (hf : OneLine f) (hf' : OneLine f') {number : ℕ}
    (hline : fieldLine number f = fieldLine number f')
    (hmarker : marker f.name.display.toList = marker f'.name.display.toList)
    (htext : f.type = f'.type → f.name.text = f'.name.text) : stated f = stated f' := by
  have hshown : f.name.display.toList = f'.name.display.toList :=
    List.append_cancel_left (List.append_cancel_right hmarker)
  -- As the name is known, the line can be read behind it.
  unfold fieldLine at hline
  rw [hshown] at hline
  simp only [List.append_assoc, List.append_cancel_left_eq] at hline
  obtain ⟨htype, hdescription⟩ := typed_injective (by simpa only [List.append_assoc] using hline)
  obtain ⟨s, hs, -⟩ := hf.description
  obtain ⟨s', hs', -⟩ := hf'.description
  rw [hs, hs'] at hdescription
  have hname := name_ext (String.toList_inj.mp hshown) (htext htype)
  have hsame : s = s' := String.toList_inj.mp hdescription
  rw [stated, stated, hname, htype, hs, hs', hsame]

/-- Fields of one line are determined by their numbered lines and the lines of their blocks. -/
theorem map_stated_eq {under : Field → List Char}
    (hunder : ∀ f f', under f = under f' → f.type = f'.type → f.name.text = f'.name.text)
    {fields fields' : List Field} (h : ∀ f ∈ fields, OneLine f) (h' : ∀ f ∈ fields', OneLine f)
    (hlines : numberedLines fields = numberedLines fields')
    (hblocks : fields.flatMap (fun f => blockLines f (under f)) =
      fields'.flatMap fun f => blockLines f (under f)) :
    fields.map stated = fields'.map stated := by
  -- Field by field, each with its number.
  have hfrom : ∀ (k : ℕ) (fields' : List Field), (∀ f ∈ fields', OneLine f) →
      (fields.zipIdx k).map (fun e => fieldLine (e.2 + 1) e.1) =
        (fields'.zipIdx k).map (fun e => fieldLine (e.2 + 1) e.1) →
      fields.flatMap (fun f => blockLines f (under f)) =
        fields'.flatMap (fun f => blockLines f (under f)) →
      fields.map stated = fields'.map stated := by
    clear h' hlines hblocks
    induction fields with
    | nil =>
      intro k fields' _ hlines _
      cases fields' with
      | nil => rfl
      | cons => cases hlines
    | cons f fields ih =>
      intro k fields' h' hlines hblocks
      cases fields' with
      | nil => cases hlines
      | cons f' fields' =>
        simp only [List.zipIdx_cons, List.map_cons, List.cons.injEq] at hlines
        simp only [List.flatMap_cons, blockLines, List.cons_append, List.nil_append,
          List.cons.injEq, true_and] at hblocks
        obtain ⟨hmarker, htext, hblocks⟩ := hblocks
        have hfirst :=
          stated_eq (h f List.mem_cons_self) (h' f' List.mem_cons_self) hlines.1 hmarker
          (hunder f f' htext)
        have hothers := ih (fun g hg => h g (List.mem_cons_of_mem f hg)) (k + 1) fields'
          (fun g hg => h' g (List.mem_cons_of_mem f' hg)) hlines.2 hblocks
        rw [List.map_cons, List.map_cons, hfirst, hothers]
  exact hfrom 0 fields' h' hlines hblocks

/-- What an input field has under its marker tells what its name counts as. -/
theorem text_of_placeholder {f f' : Field}
    (h : placeholder f.name.text.toList = placeholder f'.name.text.toList) :
    f.name.text = f'.name.text := by
  unfold placeholder at h
  simp only [List.cons_append, List.cons.injEq, true_and] at h
  exact String.toList_inj.mp (List.append_cancel_right h)

/-- So does what an output field has under it, with its type. -/
theorem text_of_shown {f f' : Field} (h : shown f = shown f') (htype : f.type = f'.type) :
    f.name.text = f'.name.text := by
  unfold shown at h
  rw [htype] at h
  exact text_of_placeholder (List.append_cancel_right h)

/-! ## Reading a template -/

/-- A row is told from what follows by a test that all its members pass, and what follows does not
begin with one that does. -/
theorem append_inj_of_head {α : Type} {p : α → Bool} {as as' rest rest' : List α}
    (has : ∀ a ∈ as, p a = true) (has' : ∀ a ∈ as', p a = true)
    (hrest : ∀ a ∈ rest.head?, p a = false) (hrest' : ∀ a ∈ rest'.head?, p a = false)
    (h : as ++ rest = as' ++ rest') : as = as' ∧ rest = rest' := by
  have htake : ∀ {as rest : List α}, (∀ a ∈ as, p a = true) → (∀ a ∈ rest.head?, p a = false) →
      (as ++ rest).takeWhile p = as := by
    intro as rest has hrest
    rw [List.takeWhile_append_of_pos has]
    cases rest with
    | nil => simp
    | cons a rest => simp [hrest a rfl]
  have heq : as = as' := by rw [← htake has hrest, h, htake has' hrest']
  exact ⟨heq, List.append_cancel_left (heq ▸ h)⟩

/-- Whether a line belongs to the list of fields under a header. -/
def isListLine (header line : List Char) : Bool := line == header || isNumbered line

/-- All lines of a list of fields do. -/
theorem isListLine_of_mem {header line : List Char} {fields : List Field}
    (h : line ∈ listLines header fields) : isListLine header line = true := by
  unfold isListLine
  unfold listLines at h
  split at h
  · cases h
  · rcases List.mem_cons.mp h with rfl | h
    · simp
    · obtain ⟨e, -, rfl⟩ := List.mem_map.mp h
      simp [isNumbered_fieldLine]

/-- The lines of a list of fields tell the numbered ones. -/
theorem numberedLines_eq {header : List Char} {fields fields' : List Field}
    (h : listLines header fields = listLines header fields') :
    numberedLines fields = numberedLines fields' := by
  unfold listLines at h
  cases fields with
  | nil =>
    cases fields' with
    | nil => rfl
    | cons => cases h
  | cons =>
    cases fields' with
    | nil => cases h
    | cons => exact (List.cons.inj h).2

/-- They tell how many fields there are. -/
theorem length_numberedLines (fields : List Field) :
    (numberedLines fields).length = fields.length := by simp [numberedLines]

/-- What follows the lists of fields begins with one of two lines. -/
theorem head?_frameLines (c : Contract) :
    ∀ line ∈ (frameLines c ++ instructionLines c).head?,
      line = preamble ∨ line = completedMarker := by
  unfold frameLines instructionLines
  cases c.inputs.isEmpty && c.outputs.isEmpty with
  | true =>
    cases c.instructions with
    | none => exact nofun
    | some v => exact fun line hline => .inr (Option.some.inj hline).symm
  | false => exact fun line hline => .inl (Option.some.inj hline).symm

/-- What follows the list of the inputs begins with one more. -/
theorem head?_outputLines (c : Contract) :
    ∀ line ∈ (listLines outputHeader c.outputs ++ (frameLines c ++ instructionLines c)).head?,
      line = outputHeader ∨ line = preamble ∨ line = completedMarker := by
  have hrest := head?_frameLines c
  rw [listLines]
  cases c.outputs.isEmpty with
  | true => exact fun line hline => .inr (hrest line hline)
  | false => exact fun line hline => .inl (Option.some.inj hline).symm

/-- A template begins with one of four lines. -/
theorem head?_templateLines (c : Contract) : [] ∉ (templateLines c).head? := by
  have hrest := head?_outputLines c
  unfold templateLines
  rw [listLines]
  cases c.inputs.isEmpty with
  | true =>
    intro hline
    rcases hrest [] hline with h | h | h <;> exact absurd h (by decide)
  | false => exact fun hline => absurd (Option.some.inj hline) (by decide)

/-- The lines of a text are lines. -/
theorem break_notMem_of_mem_lines (cs : List Char) : ∀ line ∈ lines cs, '\n' ∉ line := by
  induction cs using line_induction with
  | last line hline => simpa [lines_of_notMem hline] using hline
  | line line rest hline ih =>
    rw [lines_line hline]
    intro l hl
    rcases List.mem_cons.mp hl with rfl | hl
    · exact hline
    · exact ih l hl

/-- So are those of a list of fields of one line. -/
theorem break_notMem_of_mem_listLines {header : List Char} (hheader : '\n' ∉ header)
    {fields : List Field} (h : ∀ f ∈ fields, OneLine f) :
    ∀ line ∈ listLines header fields, '\n' ∉ line := by
  intro line hline
  unfold listLines at hline
  split at hline
  · cases hline
  · rcases List.mem_cons.mp hline with rfl | hline
    · exact hheader
    · obtain ⟨⟨f, i⟩, hf, rfl⟩ := List.mem_map.mp hline
      exact (h f (List.fst_mem_of_mem_zipIdx hf)).fieldLine (i + 1)

/-- So are those of a block. -/
theorem OneLine.blockLines {f : Field} (h : OneLine f) {under : List Char} (hunder : '\n' ∉ under) :
    ∀ line ∈ blockLines f under, '\n' ∉ line := by
  intro line hline
  simp only [Prompt.blockLines, List.mem_cons, List.not_mem_nil, or_false] at hline
  rcases hline with rfl | rfl | rfl
  · exact List.not_mem_nil
  · intro hbreak
    rcases List.mem_append.mp hbreak with hbreak | hbreak
    · rcases List.mem_append.mp hbreak with hbreak | hbreak
      · exact absurd hbreak (by decide)
      · exact h.display hbreak
    · exact absurd hbreak (by decide)
  · exact hunder

/-- A placeholder of one line is one line. -/
theorem OneLine.placeholder {f : Field} (h : OneLine f) :
    '\n' ∉ placeholder f.name.text.toList := by
  simp only [Prompt.placeholder, List.mem_append, List.mem_cons, not_or]
  exact ⟨⟨by decide, h.name⟩, by decide, List.not_mem_nil⟩

/-- The lines of a template are lines. -/
theorem Plain.break_notMem {c : Contract} (h : Plain c) :
    ∀ line ∈ templateLines c, '\n' ∉ line := by
  intro line hline
  unfold templateLines at hline
  simp only [List.mem_append] at hline
  -- The lines of the two lists, of the frame and of the instructions.
  rcases hline with hline | hline | hline | hline
  · exact break_notMem_of_mem_listLines (by decide) h.inputs line hline
  · exact break_notMem_of_mem_listLines (by decide) h.outputs line hline
  · unfold frameLines at hline
    split at hline
    · cases hline
    · rcases List.mem_cons.mp hline with rfl | hline
      · decide
      · rcases List.mem_append.mp hline with hline | hline
        · obtain ⟨f, hf, hline⟩ := List.mem_flatMap.mp hline
          exact (h.inputs f hf).blockLines (h.inputs f hf).placeholder line hline
        · obtain ⟨f, hf, hline⟩ := List.mem_flatMap.mp hline
          refine (h.outputs f hf).blockLines ?_ line hline
          have hnote : '\n' ∉ if f.type = .bool then boolNote else [] := by split <;> decide
          rw [shown, List.mem_append, not_or]
          exact ⟨(h.outputs f hf).placeholder, hnote⟩
  · unfold instructionLines at hline
    cases hinstructions : c.instructions with
    | none =>
      rw [hinstructions] at hline
      cases hline
    | some v =>
      rw [hinstructions] at hline
      rcases List.mem_cons.mp hline with rfl | hline
      · decide
      · exact break_notMem_of_mem_lines _ line hline

/-- Blocks have three lines each. -/
theorem length_flatMap_blockLines (under : Field → List Char) (fields : List Field) :
    (fields.flatMap fun f => blockLines f (under f)).length = 3 * fields.length := by
  induction fields with
  | nil => rfl
  | cons f fields ih =>
    have hthree : (blockLines f (under f)).length = 3 := rfl
    rw [List.flatMap_cons, List.length_append, ih, List.length_cons, hthree]
    omega

section
variable {c c' : Contract} (hinputs : c.inputs.length = c'.inputs.length)
  (houtputs : c.outputs.length = c'.outputs.length)
include hinputs houtputs

/-- Of two contracts with as many fields on either side both have fields, or neither. -/
theorem isEmpty_eq :
    (c.inputs.isEmpty && c.outputs.isEmpty) = (c'.inputs.isEmpty && c'.outputs.isEmpty) := by
  rw [Bool.eq_iff_iff, Bool.and_eq_true, Bool.and_eq_true]
  simp only [List.isEmpty_iff_length_eq_zero, hinputs, houtputs]

/-- Their frames are as long. -/
theorem length_frameLines : (frameLines c).length = (frameLines c').length := by
  unfold frameLines
  rw [isEmpty_eq hinputs houtputs]
  split
  · rfl
  · simp only [framedLines, List.length_cons, List.length_append, length_flatMap_blockLines,
      hinputs, houtputs]

/-- Their frames tell the lines of the blocks of each side. -/
theorem framedLines_injective (h : frameLines c = frameLines c') :
    c.inputs.flatMap (fun f => blockLines f (placeholder f.name.text.toList)) =
        c'.inputs.flatMap (fun f => blockLines f (placeholder f.name.text.toList)) ∧
      c.outputs.flatMap (fun f => blockLines f (shown f)) =
        c'.outputs.flatMap fun f => blockLines f (shown f) := by
  have hlength : (c.inputs.flatMap fun f => blockLines f (placeholder f.name.text.toList)).length =
      (c'.inputs.flatMap fun f => blockLines f (placeholder f.name.text.toList)).length := by
    rw [length_flatMap_blockLines, length_flatMap_blockLines, hinputs]
  have hframed : framedLines c = framedLines c' := by
    have hempty := isEmpty_eq hinputs houtputs
    unfold frameLines at h
    cases hnone : c.inputs.isEmpty && c.outputs.isEmpty with
    | true =>
      -- There are no frames, but no blocks either.
      rw [hnone] at hempty
      have hnone' := hempty.symm
      simp only [Bool.and_eq_true, List.isEmpty_iff] at hnone hnone'
      rw [framedLines, framedLines, hnone.1, hnone.2, hnone'.1, hnone'.2]
    | false =>
      rw [← hempty, hnone] at h
      exact (List.cons.inj h).2
  exact List.append_inj hframed hlength

end

/-- The lines of the instructions tell these. -/
theorem instructions_eq {c c' : Contract} (hc : Plain c) (hc' : Plain c')
    (h : instructionLines c = instructionLines c') : c.instructions = c'.instructions := by
  unfold instructionLines at h
  cases hv : c.instructions with
  | none =>
    cases hv' : c'.instructions with
    | none => rfl
    | some v' =>
      rw [hv, hv'] at h
      cases h
  | some v =>
    cases hv' : c'.instructions with
    | none =>
      rw [hv, hv'] at h
      cases h
    | some v' =>
      rw [hv, hv'] at h
      obtain ⟨s, rfl⟩ := hc.instructions v hv
      obtain ⟨s', rfl⟩ := hc'.instructions v' hv'
      have hlines := congrArg (joined ['\n']) (List.cons.inj h).2
      rw [joined_lines, joined_lines] at hlines
      have htext : s = s' := String.toList_inj.mp (List.append_cancel_left hlines)
      rw [htext]

/-- Two contracts with names and descriptions of one line, and with instructions that are a text if
there are any, have the same template only if they state the same fields on both sides, in the same
order, and have the same instructions. -/
theorem template_injective {c c' : Contract} (hc : Plain c) (hc' : Plain c')
    (h : template c = template c') :
    c.inputs.map stated = c'.inputs.map stated ∧ c.outputs.map stated = c'.outputs.map stated ∧
      c.instructions = c'.instructions := by
  rw [template_eq_joined, template_eq_joined] at h
  have hlines : templateLines c = templateLines c' := joined_injective hc.break_notMem
    hc'.break_notMem (head?_templateLines c) (head?_templateLines c') h
  -- The lists of fields are told from what follows, one after the other.
  have hnotInput (c : Contract) : ∀ line ∈
      (listLines outputHeader c.outputs ++ (frameLines c ++ instructionLines c)).head?,
      isListLine inputHeader line = false := by
    intro line hline
    rcases head?_outputLines c line hline with rfl | rfl | rfl <;> decide
  have hnotOutput (c : Contract) : ∀ line ∈ (frameLines c ++ instructionLines c).head?,
      isListLine outputHeader line = false := by
    intro line hline
    rcases head?_frameLines c line hline with rfl | rfl <;> decide
  obtain ⟨hinputs, hlines⟩ := append_inj_of_head (fun _ => isListLine_of_mem)
    (fun _ => isListLine_of_mem) (hnotInput c) (hnotInput c') hlines
  obtain ⟨houtputs, hlines⟩ := append_inj_of_head (fun _ => isListLine_of_mem)
    (fun _ => isListLine_of_mem) (hnotOutput c) (hnotOutput c') hlines
  have hinputs := numberedLines_eq hinputs
  have houtputs := numberedLines_eq houtputs
  -- They tell the number of fields, and so where the frame ends.
  have hlength : c.inputs.length = c'.inputs.length := by
    rw [← length_numberedLines, hinputs, length_numberedLines]
  have hlength' : c.outputs.length = c'.outputs.length := by
    rw [← length_numberedLines, houtputs, length_numberedLines]
  obtain ⟨hframe, hinstructions⟩ := List.append_inj hlines (length_frameLines hlength hlength')
  obtain ⟨hframed, hframed'⟩ := framedLines_injective hlength hlength' hframe
  exact ⟨map_stated_eq (fun _ _ h _ => text_of_placeholder h) hc.inputs hc'.inputs hinputs hframed,
    map_stated_eq (fun _ _ => text_of_shown) hc.outputs hc'.outputs houtputs hframed',
    instructions_eq hc hc' hinstructions⟩

/-- A name with the end of a field line in it, an empty description and instructions that begin like
a list of fields do not hide where the parts of a template end. -/
theorem template_injective_nested :
    let field (required : Bool) : Field :=
      ⟨.given "a` (int): b ## ]]", .bool, .text "", .bool required, none⟩
    let contract (required : Bool) : Contract := ⟨[field required], [⟨.ofType .str, .str,
      .text "`", .null, none⟩], some (.text "Your input fields are:\n2. `c` (str): "), none, none⟩
    Plain (contract true) ∧ Plain (contract false) ∧
      template (contract true) = template (contract false) ∧
      (contract true).inputs.map stated = (contract false).inputs.map stated := by
  intro field contract
  have hplain (required : Bool) : Plain (contract required) := by
    refine ⟨fun f hf => ?_, fun f hf => ?_, fun v hv => ⟨_, (Option.some.inj hv).symm⟩⟩
    · obtain rfl := List.mem_singleton.mp hf
      have hname : '\n' ∉ "a` (int): b ## ]]".toList := by decide
      exact ⟨hname, "", rfl, by decide⟩
    · obtain rfl := List.mem_singleton.mp hf
      exact ⟨by decide, "`", rfl, by decide⟩
  have htemplate : template (contract true) = template (contract false) := rfl
  exact ⟨hplain true, hplain false, htemplate,
    (template_injective (hplain true) (hplain false) htemplate).1⟩

end PromptContract.Prompt
