/-!
# Blank characters and trimming

The characters that count as surrounding whitespace of a value (`isBlank`), the narrower class that
may pad a marker (`isPad`), and trimming from one or both ends of a text. Texts are lists of code
points here, so that a cut never falls inside a character. `trimBy` leaves a connected part of the
text (`trimBy_infix`) that has no character of the class at either end. It goes with growth: what a
text starts with is trimmed to what the trimmed text starts with (`trimBy_isPrefix`).
-/

namespace PromptContract.Text

/-- The characters that are trimmed from both ends of a value: the controls that move the print
position, the four separators of information, and every space of the Unicode space classes. -/
def isBlank (c : Char) : Bool :=
  let n := c.toNat
  (0x09 ≤ n && n ≤ 0x0D) || (0x1C ≤ n && n ≤ 0x20) || n == 0x85 || n == 0xA0 || n == 0x1680
    || (0x2000 ≤ n && n ≤ 0x200A) || n == 0x2028 || n == 0x2029 || n == 0x202F || n == 0x205F
    || n == 0x3000

/-- The characters that may pad the inside of a marker: space and tab. -/
def isPad (c : Char) : Bool := c == ' ' || c == '\t'

/-- The blank characters that may surround a number: the ASCII ones without the separators of
information. -/
def isNumberBlank (c : Char) : Bool := (0x09 ≤ c.toNat && c.toNat ≤ 0x0D) || c == ' '

/-- Drops the longest end part whose characters all satisfy `p`. -/
def dropEndWhile (p : Char → Bool) (cs : List Char) : List Char :=
  (cs.reverse.dropWhile p).reverse

/-- Drops the characters that satisfy `p` from both ends. -/
def trimBy (p : Char → Bool) (cs : List Char) : List Char := dropEndWhile p (cs.dropWhile p)

/-- Drops blank characters from both ends. -/
def trim (cs : List Char) : List Char := trimBy isBlank cs

/-- A text over ASCII alone. -/
def isAscii (cs : List Char) : Bool := cs.all fun c => c.toNat < 128

/-! ## The classes of blank characters -/

/-- What may pad a marker is blank. -/
theorem isBlank_of_isPad {c : Char} (h : isPad c = true) : isBlank c = true := by
  simp only [isPad, Bool.or_eq_true, beq_iff_eq] at h
  rcases h with rfl | rfl <;> rfl

/-! ## Trimming -/

@[simp] theorem dropEndWhile_nil (p : Char → Bool) : dropEndWhile p [] = [] := rfl

@[simp] theorem trimBy_nil (p : Char → Bool) : trimBy p [] = [] := rfl

/-- What is dropped at the end is a run of characters that satisfy `p`. -/
theorem dropEndWhile_append_takeWhile (p : Char → Bool) (cs : List Char) :
    dropEndWhile p cs ++ (cs.reverse.takeWhile p).reverse = cs := by
  rw [dropEndWhile, ← List.reverse_append, List.takeWhile_append_dropWhile, List.reverse_reverse]

/-- Dropping at the end leaves a first part. -/
theorem dropEndWhile_isPrefix (p : Char → Bool) (cs : List Char) : dropEndWhile p cs <+: cs :=
  ⟨_, dropEndWhile_append_takeWhile p cs⟩

/-- Trimming leaves a connected part. -/
theorem trimBy_infix (p : Char → Bool) (cs : List Char) : trimBy p cs <:+: cs :=
  (dropEndWhile_isPrefix p _).isInfix.trans (List.dropWhile_suffix p).isInfix

/-- The character at which dropping stops does not satisfy `p`. -/
theorem not_of_head?_dropWhile (p : Char → Bool) (cs : List Char) {c : Char}
    (h : (cs.dropWhile p).head? = some c) : p c = false := by
  have hstop := List.head?_dropWhile_not p cs
  simpa [h] using hstop

/-- A trimmed text does not start with a character that satisfies `p`. -/
theorem not_of_head?_trimBy (p : Char → Bool) (cs : List Char) {c : Char}
    (h : (trimBy p cs).head? = some c) : p c = false := by
  obtain ⟨rest, hrest⟩ := dropEndWhile_isPrefix p (cs.dropWhile p)
  apply not_of_head?_dropWhile p cs
  unfold trimBy at h
  rw [← hrest, List.head?_append, h]
  rfl

/-- A trimmed text does not end with a character that satisfies `p`. -/
theorem not_of_getLast?_trimBy (p : Char → Bool) (cs : List Char) {c : Char}
    (h : (trimBy p cs).getLast? = some c) : p c = false := by
  rw [trimBy, dropEndWhile, List.getLast?_reverse] at h
  exact not_of_head?_dropWhile p _ h

/-- A text that neither starts nor ends with a character that satisfies `p` is left as it is. -/
theorem trimBy_eq_self (p : Char → Bool) (cs : List Char)
    (hfirst : ∀ c, cs.head? = some c → p c = false)
    (hlast : ∀ c, cs.getLast? = some c → p c = false) : trimBy p cs = cs := by
  have hfront : cs.dropWhile p = cs := by
    cases cs with
    | nil => rfl
    | cons c cs => simp [hfirst c rfl]
  rw [trimBy, hfront, dropEndWhile]
  cases hr : cs.reverse with
  | nil =>
    rw [List.reverse_eq_nil_iff] at hr
    simp [hr]
  | cons c rest =>
    have hc : p c = false := by
      apply hlast
      rw [← List.head?_reverse, hr]
      rfl
    rw [List.dropWhile_cons, hc, ← hr]
    simp

/-- A character at which dropping stops is not dropped. -/
theorem mem_dropWhile {p : Char → Bool} {c : Char} (hc : p c = false) {cs : List Char}
    (h : c ∈ cs) : c ∈ cs.dropWhile p := by
  rw [← List.takeWhile_append_dropWhile (p := p) (l := cs), List.mem_append] at h
  refine h.resolve_left fun hfront => ?_
  rw [List.all_eq_true.mp List.all_takeWhile c hfront] at hc
  cases hc

/-- Nor is it trimmed. -/
theorem mem_trimBy {p : Char → Bool} {c : Char} (hc : p c = false) {cs : List Char}
    (h : c ∈ cs) : c ∈ trimBy p cs := by
  rw [trimBy, dropEndWhile, List.mem_reverse]
  exact mem_dropWhile hc (List.mem_reverse.mpr (mem_dropWhile hc h))

/-- Dropping at the end stops in the second part unless all of it is dropped. -/
theorem dropEndWhile_append (p : Char → Bool) (a b : List Char) :
    dropEndWhile p (a ++ b) =
      if dropEndWhile p b = [] then dropEndWhile p a else a ++ dropEndWhile p b := by
  unfold dropEndWhile
  rw [List.reverse_append, List.dropWhile_append]
  by_cases hb : b.reverse.dropWhile p = []
  · simp [hb]
  · simp [hb]

/-- A run of characters that satisfy `p` is dropped as a whole. -/
theorem dropWhile_of_all {p : Char → Bool} {run : List Char} (h : ∀ c ∈ run, p c = true) :
    run.dropWhile p = [] := by
  rw [← List.append_nil run, List.dropWhile_append_of_pos h, List.dropWhile_nil]

/-- A run of characters that satisfy `p` is dropped at the end as well. -/
theorem dropEndWhile_of_all (p : Char → Bool) {run : List Char} (h : ∀ c ∈ run, p c = true) :
    dropEndWhile p run = [] := by
  have hrev : ∀ c ∈ run.reverse, p c = true := fun c hc => h c (List.mem_reverse.mp hc)
  unfold dropEndWhile
  rw [dropWhile_of_all hrev, List.reverse_nil]

/-- Characters that satisfy `p` at the end of a text make no difference to trimming it. -/
theorem trimBy_append_of_all (p : Char → Bool) (cs : List Char) {run : List Char}
    (h : ∀ c ∈ run, p c = true) : trimBy p (cs ++ run) = trimBy p cs := by
  unfold trimBy
  rw [List.dropWhile_append]
  split
  · next hempty =>
    rw [dropWhile_of_all h, List.isEmpty_iff.mp hempty]
  · rw [dropEndWhile_append, if_pos (dropEndWhile_of_all p h)]

/-- What is dropped in front is a run of characters that satisfy `p`. -/
theorem exists_dropWhile (p : Char → Bool) (cs : List Char) :
    ∃ run, cs = run ++ cs.dropWhile p ∧ ∀ c ∈ run, p c = true :=
  ⟨cs.takeWhile p, List.takeWhile_append_dropWhile.symm, List.all_eq_true.mp List.all_takeWhile⟩

/-- So is what is dropped at the end. -/
theorem exists_dropEndWhile (p : Char → Bool) (cs : List Char) :
    ∃ run, cs = dropEndWhile p cs ++ run ∧ ∀ c ∈ run, p c = true :=
  ⟨_, (dropEndWhile_append_takeWhile p cs).symm, fun c hc =>
    List.all_eq_true.mp List.all_takeWhile c (List.mem_reverse.mp hc)⟩

/-- Runs of characters that satisfy `p` are trimmed from a text that has no other such
characters. -/
theorem trimBy_append_append {p : Char → Bool} {left cs right : List Char}
    (hends : ∀ c ∈ left ++ right, p c = true) (hcs : ∀ c ∈ cs, p c = false) :
    trimBy p (left ++ cs ++ right) = cs := by
  rw [trimBy_append_of_all p _ fun c hc => hends c (List.mem_append_right _ hc), trimBy,
    List.dropWhile_append_of_pos fun c hc => hends c (List.mem_append_left _ hc)]
  exact trimBy_eq_self p cs (fun c hc => hcs c (List.mem_of_mem_head? hc))
    fun c hc => hcs c (List.mem_of_getLast? hc)

/-- Trimming what a text starts with gives what the trimmed text starts with. -/
theorem trimBy_isPrefix (p : Char → Bool) {a b : List Char} (h : a <+: b) :
    trimBy p a <+: trimBy p b := by
  obtain ⟨more, rfl⟩ := h
  unfold trimBy
  rw [List.dropWhile_append]
  split
  · next hempty =>
    rw [List.isEmpty_iff.mp hempty, dropEndWhile_nil]
    exact List.nil_prefix
  · rw [dropEndWhile_append]
    split
    · exact List.prefix_rfl
    · exact (dropEndWhile_isPrefix p _).trans (List.prefix_append _ _)

end PromptContract.Text
