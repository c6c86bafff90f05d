import PromptContract.Proofs.Text.Lines
import PromptContract.Text.Blank

/-!
# Line ends of two characters

A text may end its lines with a carriage return and a line break. `withReturns` is the text with the
return put in front of every break, `map_lines_withReturns` says what its lines are, and trimming
commutes with it (`trimBy_withReturns`) where both characters are trimmed.
-/

namespace PromptContract.Text

/-- A text with a carriage return in front of every line break. -/
def withReturns (cs : List Char) : List Char :=
  cs.flatMap fun c => if c = '\n' then ['\r', '\n'] else [c]

@[simp] theorem withReturns_nil : withReturns [] = [] := rfl

@[simp] theorem withReturns_break (cs : List Char) :
    withReturns ('\n' :: cs) = '\r' :: '\n' :: withReturns cs := rfl

/-- Other characters stay alone. -/
theorem withReturns_cons {c : Char} (hc : c ≠ '\n') (cs : List Char) :
    withReturns (c :: cs) = c :: withReturns cs := by
  rw [withReturns, List.flatMap_cons, if_neg hc]
  rfl

/-- The returns of a text are those of its parts. -/
theorem withReturns_append (a b : List Char) :
    withReturns (a ++ b) = withReturns a ++ withReturns b := List.flatMap_append

/-- Only the empty text becomes empty. -/
theorem withReturns_eq_nil_iff {cs : List Char} : withReturns cs = [] ↔ cs = [] := by
  constructor
  · intro h
    cases cs with
    | nil => rfl
    | cons c cs =>
      rw [withReturns, List.flatMap_cons, List.append_eq_nil_iff] at h
      split at h <;> cases h.1
  · rintro rfl
    rfl

/-- A text without breaks gets no return. -/
theorem withReturns_of_notMem {cs : List Char} (h : '\n' ∉ cs) : withReturns cs = cs := by
  induction cs with
  | nil => rfl
  | cons c cs ih =>
    rw [List.mem_cons, not_or] at h
    rw [withReturns_cons (Ne.symm h.1), ih h.2]

/-- A line gets one in front of its break. -/
theorem withReturns_line {line : List Char} (hline : '\n' ∉ line) (rest : List Char) :
    withReturns (line ++ '\n' :: rest) = (line ++ ['\r']) ++ '\n' :: withReturns rest := by
  rw [withReturns_append, withReturns_of_notMem hline, withReturns_break, List.append_assoc]
  rfl

/-- No characters come in but the returns, and none is lost. -/
theorem mem_withReturns_iff {cs : List Char} {c : Char} :
    c ∈ withReturns cs ↔ c ∈ cs ∨ c = '\r' ∧ '\n' ∈ cs := by
  induction cs with
  | nil => simp
  | cons d cs ih =>
    by_cases hd : d = '\n'
    · subst hd
      simp only [withReturns_break, List.mem_cons, ih, true_or, and_true]
      constructor
      · rintro (rfl | rfl | h | ⟨rfl, -⟩)
        · exact .inr rfl
        · exact .inl (.inl rfl)
        · exact .inl (.inr h)
        · exact .inr rfl
      · rintro ((rfl | h) | rfl)
        · exact .inr (.inl rfl)
        · exact .inr (.inr (.inl h))
        · exact .inl rfl
    · simp [withReturns_cons hd, ih, Ne.symm hd, or_assoc]

/-- Returns are ASCII. -/
theorem isAscii_withReturns (cs : List Char) : isAscii (withReturns cs) = isAscii cs := by
  unfold isAscii
  rw [Bool.eq_iff_iff, List.all_eq_true, List.all_eq_true]
  constructor
  · exact fun h c hc => h c (mem_withReturns_iff.mpr (.inl hc))
  · intro h c hc
    rcases mem_withReturns_iff.mp hc with hc | ⟨rfl, -⟩
    · exact h c hc
    · rfl

/-- The lines of a text with returns are the lines with a return behind each, but for the last. -/
theorem lines_withReturns_line {line : List Char} (hline : '\n' ∉ line) (rest : List Char) :
    lines (withReturns (line ++ '\n' :: rest)) = (line ++ ['\r']) :: lines (withReturns rest) := by
  rw [withReturns_line hline, lines_line (by simpa using hline)]

/-! ## Trimming -/

section Trimming

variable {p : Char → Bool}

/-- What is dropped at the front takes the returns of its breaks with it. -/
theorem dropWhile_withReturns (hbreak : p '\n' = true) (hreturn : p '\r' = true) (cs : List Char) :
    (withReturns cs).dropWhile p = withReturns (cs.dropWhile p) := by
  induction cs with
  | nil => rfl
  | cons c cs ih =>
    by_cases hc : c = '\n'
    · subst hc
      rw [withReturns_break, List.dropWhile_cons_of_pos hreturn, List.dropWhile_cons_of_pos hbreak,
        List.dropWhile_cons_of_pos hbreak, ih]
    · rw [withReturns_cons hc]
      by_cases hp : p c = true
      · rw [List.dropWhile_cons_of_pos hp, List.dropWhile_cons_of_pos hp, ih]
      · rw [List.dropWhile_cons_of_neg hp, List.dropWhile_cons_of_neg hp, withReturns_cons hc]

/-- So does what is dropped at the end. -/
theorem dropEndWhile_withReturns (hbreak : p '\n' = true) (hreturn : p '\r' = true)
    (cs : List Char) : dropEndWhile p (withReturns cs) = withReturns (dropEndWhile p cs) := by
  induction cs with
  | nil => rfl
  | cons c cs ih =>
    -- What one character becomes is dropped as a whole or not at all.
    have hone : dropEndWhile p (withReturns [c]) = withReturns (dropEndWhile p [c]) := by
      by_cases hc : c = '\n'
      · subst hc
        have hrun : ∀ d ∈ withReturns ['\n'], p d = true := by simp [hbreak, hreturn]
        have hrun' : ∀ d ∈ ['\n'], p d = true := by simp [hbreak]
        rw [dropEndWhile_of_all p hrun, dropEndWhile_of_all p hrun']
        rfl
      · have hsame : withReturns (dropEndWhile p [c]) = dropEndWhile p [c] :=
          withReturns_of_notMem fun hmem =>
            hc (List.mem_singleton.mp ((dropEndWhile_isPrefix p [c]).subset hmem)).symm
        rw [withReturns_of_notMem (by simpa using Ne.symm hc), hsame]
    rw [← List.singleton_append, withReturns_append, dropEndWhile_append, dropEndWhile_append, ih,
      hone]
    by_cases hnil : dropEndWhile p cs = []
    · rw [if_pos (withReturns_eq_nil_iff.mpr hnil), if_pos hnil]
    · rw [if_neg (mt withReturns_eq_nil_iff.mp hnil), if_neg hnil, withReturns_append]

/-- A text that is trimmed of breaks and returns keeps the returns of the breaks that stay. -/
theorem trimBy_withReturns (hbreak : p '\n' = true) (hreturn : p '\r' = true) (cs : List Char) :
    trimBy p (withReturns cs) = withReturns (trimBy p cs) := by
  rw [trimBy, dropWhile_withReturns hbreak hreturn, dropEndWhile_withReturns hbreak hreturn, trimBy]

end Trimming

end PromptContract.Text
