/-!
# Whole lines

A text is cut into whole lines, each of which ends in a line break, and a last line that may have no
break yet (`exists_wholeLines_append`). `WholeLines` is the form that proofs go through line by
line, and `wholeLines_iff` says when a text has it. `lines` are the lines of a text without their
breaks; what is to hold of all texts may be shown line by line (`line_induction`).
-/

namespace PromptContract.Text

/-- A text of whole lines: it is empty or ends in a line break. -/
inductive WholeLines : List Char → Prop
  | nil : WholeLines []
  | line (line rest : List Char) (hline : '\n' ∉ line) (hrest : WholeLines rest) :
      WholeLines (line ++ '\n' :: rest)

/-- One more character in front of a line break keeps whole lines whole. -/
theorem WholeLines.cons (c : Char) {cs : List Char} (h : WholeLines cs) (hne : cs ≠ []) :
    WholeLines (c :: cs) := by
  cases h with
  | nil => exact absurd rfl hne
  | line line rest hline hrest =>
    by_cases hc : c = '\n'
    · subst hc
      exact .line [] (line ++ '\n' :: rest) (by simp) (.line line rest hline hrest)
    · exact .line (c :: line) rest (by simp [Ne.symm hc, hline]) hrest

/-- A text is whole lines and a last one without a break. -/
theorem exists_wholeLines_append (cs : List Char) :
    ∃ whole last, cs = whole ++ last ∧ WholeLines whole ∧ '\n' ∉ last := by
  induction cs with
  | nil => exact ⟨[], [], rfl, .nil, by simp⟩
  | cons c cs ih =>
    obtain ⟨whole, last, rfl, hwhole, hlast⟩ := ih
    by_cases hne : whole = []
    · subst hne
      by_cases hc : c = '\n'
      · subst hc
        exact ⟨['\n'], last, rfl, .line [] [] (by simp) .nil, hlast⟩
      · exact ⟨[], c :: last, rfl, .nil, by simp [Ne.symm hc, hlast]⟩
    · exact ⟨c :: whole, last, rfl, hwhole.cons c hne, hlast⟩

/-- What holds of every text without a break, and of a line with its break in front of any text that
it holds of, holds of all texts. -/
@[elab_as_elim]
theorem line_induction {motive : List Char → Prop} (cs : List Char)
    (last : ∀ line, '\n' ∉ line → motive line)
    (line : ∀ line rest, '\n' ∉ line → motive rest → motive (line ++ '\n' :: rest)) :
    motive cs := by
  obtain ⟨whole, tail, rfl, hwhole, htail⟩ := exists_wholeLines_append cs
  induction hwhole with
  | nil => exact last tail htail
  | line first rest hfirst _ ih =>
    rw [List.append_assoc, List.cons_append]
    exact line first _ hfirst ih

/-- The lines of a text: what stands between its line breaks. -/
def lines (cs : List Char) : List (List Char) := cs.splitOn '\n'

/-- A text without a break is one line. -/
theorem lines_of_notMem {line : List Char} (hline : '\n' ∉ line) : lines line = [line] :=
  List.splitOn_eq_singleton hline

/-- A line with its break in front of a text is one line more. -/
theorem lines_line {line : List Char} (hline : '\n' ∉ line) (rest : List Char) :
    lines (line ++ '\n' :: rest) = line :: lines rest :=
  List.splitOn_append_cons_self_of_not_mem hline rest

/-- Whole lines behind whole lines are whole lines. -/
theorem WholeLines.append {a b : List Char} (ha : WholeLines a) (hb : WholeLines b) :
    WholeLines (a ++ b) := by
  induction ha with
  | nil => exact hb
  | line line rest hline _ ih =>
    rw [List.append_assoc, List.cons_append]
    exact .line line (rest ++ b) hline ih

/-- Whole lines are empty or end in a line break. -/
theorem WholeLines.getLast? {cs : List Char} (h : WholeLines cs) :
    cs = [] ∨ cs.getLast? = some '\n' := by
  induction h with
  | nil => exact .inl rfl
  | line line rest _ _ ih =>
    right
    rcases ih with rfl | ih
    · simp
    · rw [List.getLast?_append, List.getLast?_cons, ih]
      rfl

/-- A text that is empty or ends in a line break is whole lines. -/
theorem wholeLines_iff (cs : List Char) : WholeLines cs ↔ cs = [] ∨ cs.getLast? = some '\n' := by
  refine ⟨WholeLines.getLast?, fun h => ?_⟩
  obtain ⟨whole, last, rfl, hwhole, hlast⟩ := exists_wholeLines_append cs
  cases hl : last.getLast? with
  | none =>
    rw [List.getLast?_eq_none_iff] at hl
    rwa [hl, List.append_nil]
  | some c =>
    rw [List.getLast?_append, hl] at h
    rcases h with h | h
    · rw [List.append_eq_nil_iff] at h
      rw [h.2] at hl
      simp at hl
    · obtain rfl : c = '\n' := by simpa using h
      exact absurd (List.mem_of_getLast? hl) hlast

/-- Whole lines in a text without a break are none: such a text has no start of a line but its own.
-/
theorem WholeLines.eq_nil {cs : List Char} (h : WholeLines cs) (hbreak : '\n' ∉ cs) : cs = [] := by
  cases h with
  | nil => rfl
  | line line rest _ _ => exact absurd (by simp) hbreak

/-- What stands behind a place in whole lines are whole lines, where the text goes on. -/
theorem WholeLines.of_append {a b : List Char} (h : WholeLines (a ++ b)) : WholeLines b := by
  rw [wholeLines_iff] at h ⊢
  rcases h with h | h
  · exact .inl (List.append_eq_nil_iff.mp h).2
  · cases hb : b.getLast? with
    | none => exact .inl (List.getLast?_eq_none_iff.mp hb)
    | some c =>
      rw [List.getLast?_append, hb] at h
      exact .inr h

/-- A part at the front of a text ends before a character that the part lacks. So a part without
line breaks lies in the first line. -/
theorem front_in_line {stop : Char} {line rest front behind : List Char} (hfront : stop ∉ front)
    (h : line ++ stop :: rest = front ++ behind) :
    ∃ tail, line = front ++ tail ∧ behind = tail ++ stop :: rest := by
  rcases List.append_eq_append_iff.mp h with ⟨tail, hf, hr⟩ | ⟨tail, hl, hb⟩
  · cases tail with
    | nil => exact ⟨[], by simpa using hf.symm, by simpa using hr.symm⟩
    | cons c tail =>
      obtain rfl : stop = c := by
        rw [List.cons_append] at hr
        exact (List.cons.inj hr).1
      exact absurd (by simp [hf]) hfront
  · exact ⟨tail, hl, hb⟩

/-- Whole lines at the front of a text begin with its first line, unless there are none. -/
theorem WholeLines.exists_of_line {line rest before behind : List Char} (h : WholeLines before)
    (hline : '\n' ∉ line) (heq : line ++ '\n' :: rest = before ++ behind) (hne : before ≠ []) :
    ∃ before', before = line ++ '\n' :: before' ∧ rest = before' ++ behind ∧
      WholeLines before' := by
  cases h with
  | nil => exact absurd rfl hne
  | line first more hfirst hmore =>
    rw [List.append_assoc] at heq
    obtain ⟨tail, rfl, htail⟩ := front_in_line hfirst heq
    -- Two lines with their breaks at the front of one text are the same line.
    cases tail with
    | nil =>
      rw [List.nil_append, List.cons_append, List.cons.injEq] at htail
      exact ⟨more, by rw [List.append_nil], htail.2.symm, hmore⟩
    | cons c tail =>
      rw [List.cons_append, List.cons_append, List.cons.injEq] at htail
      obtain ⟨rfl, -⟩ := htail
      exact absurd (by simp) hline

end PromptContract.Text
