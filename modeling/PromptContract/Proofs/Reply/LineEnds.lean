import PromptContract.Proofs.Reply.Legible
import PromptContract.Proofs.Reply.Lines
import PromptContract.Proofs.Text.LineEnds

/-!
# Replies with other line ends

A reply whose lines end in a carriage return and a line break is parsed like the one with breaks
alone, and the texts of its fields have the returns in them (`parseFields_withReturns`).

A return at the end of a line is no part of a marker, so the line has the same markers with the
return behind them (`openingOf?_return`, `withinOf?_return`). In the text of a block the returns of
the breaks stay and one at the end is trimmed (`valueOf_withReturns`), so a name has the same text
with returns (`value?_withReturns`). No number has a break within it, nor is a text with one the
word of a truth value: reading is not changed by returns either (`read?_withReturns`).
-/

namespace PromptContract

open Text

/-! ## Numerals -/

namespace Numeral

/-- A character that is no sign stays behind the sign. -/
theorem mem_takeSign {c : Char} (hsign : c ∉ ['+', '-']) {cs : List Char} (h : c ∈ cs) :
    c ∈ (takeSign cs).2 := by
  simp only [List.mem_cons, List.not_mem_nil, or_false, not_or] at hsign
  rcases sign_takeSign cs with heq | heq | heq
  · exact heq ▸ h
  · rw [heq, List.mem_cons] at h
    exact h.resolve_left hsign.1
  · rw [heq, List.mem_cons] at h
    exact h.resolve_left hsign.2

/-- No exponent has a line break. -/
theorem exponent?_of_break {cs : List Char} (h : '\n' ∈ cs) : exponent? cs = none := by
  cases cs with
  | nil => cases h
  | cons c rest =>
    rw [exponent?]
    split
    · next hletter =>
      have hrest : '\n' ∈ rest := by
        refine (List.mem_cons.mp h).resolve_left ?_
        rintro rfl
        simp at hletter
      have hdigits : (takeSign rest).2.all isDigit = false :=
        List.all_eq_false.mpr ⟨'\n', mem_takeSign (by decide) hrest, by decide⟩
      simp [hdigits]
    · rfl

/-- No decimal number has one. -/
theorem decimal?_of_break (negative : Bool) {cs : List Char} (h : '\n' ∈ cs) :
    decimal? negative cs = none := by
  have hrest := mem_dropWhile (by decide : isDigit '\n' = false) h
  unfold decimal?
  -- The break is behind the whole digits, and behind those of a fraction too.
  cases hdrop : cs.dropWhile isDigit with
  | nil => simp [hdrop] at hrest
  | cons c rest =>
    rw [hdrop] at hrest
    by_cases hpoint : c = '.'
    · subst hpoint
      have hbehind := mem_dropWhile (by decide : isDigit '\n' = false)
        ((List.mem_cons.mp hrest).resolve_left (by decide))
      simp [exponent?_of_break hbehind]
    · simp [hpoint, exponent?_of_break hrest]

/-- A text is no floating-point number if a line break is left in it when it is trimmed. -/
theorem float?_of_break {cs : List Char} (h : '\n' ∈ trimBy isNumberBlank cs) :
    float? cs = none := by
  have hrest := mem_takeSign (by decide) h
  have hword : '\n' ∈ (takeSign (trimBy isNumberBlank cs)).2.map Char.toLower :=
    List.mem_map.mpr ⟨'\n', hrest, by decide⟩
  have hne {word : List Char} (hbreak : '\n' ∉ word) :
      (takeSign (trimBy isNumberBlank cs)).2.map Char.toLower ≠ word := by
    rintro rfl
    exact hbreak hword
  unfold float?
  simp only [hne (by decide : '\n' ∉ "inf".toList), hne (by decide : '\n' ∉ "infinity".toList),
    hne (by decide : '\n' ∉ "nan".toList), decimal?_of_break _ hrest, decide_false, Bool.or_self,
    Bool.false_eq_true, if_false]

/-- A text with returns is the same floating-point number, if it is one. -/
theorem float?_withReturns (cs : List Char) : float? (withReturns cs) = float? cs := by
  have htrim : trimBy isNumberBlank (withReturns cs) = withReturns (trimBy isNumberBlank cs) :=
    trimBy_withReturns (by decide) (by decide) cs
  by_cases hbreak : '\n' ∈ trimBy isNumberBlank cs
  · rw [float?_of_break hbreak, float?_of_break]
    rw [htrim]
    exact mem_withReturns_iff.mpr (.inl hbreak)
  · unfold float?
    rw [htrim, withReturns_of_notMem hbreak]

/-- No integer has a line break. -/
theorem integer_of_break {cs : List Char} (h : '\n' ∈ cs) : integer cs = .notInteger := by
  rw [integer_eq_notInteger_iff]
  rintro ⟨digits, hwritten⟩
  exact absurd (hwritten.mem h) (by decide)

end Numeral

/-! ## Reading a text -/

namespace Reply

open Numeral

/-- A value whose text, if it is one, has a return in front of every break. -/
def Scalar.withReturns : Scalar → Scalar
  | .text s => .text (Text.withReturns s)
  | v => v

/-- What a text with returns is read as. -/
def Reading.withReturns (r : Reading) : Reading := { r with value := r.value.withReturns }

/-- What is read from a text without breaks has none. -/
theorem withReturns_of_read? {type : FieldType} {raw : List Char} {r : Reading}
    (hraw : '\n' ∉ raw) (h : Scalar.read? type raw = some r) : r.withReturns = r := by
  have htext : Text.withReturns raw = raw := withReturns_of_notMem hraw
  cases readAs_of_read? h <;> simp [Reading.withReturns, Scalar.withReturns, htext]

/-- A text with returns is read as the text without them, but for the returns. -/
theorem read?_withReturns (type : FieldType) (raw : List Char) :
    Scalar.read? type (withReturns raw) = (Scalar.read? type raw).map Reading.withReturns := by
  by_cases hraw : '\n' ∈ raw
  · -- A text with a break is no number and not the word for true, with returns or without.
    have hbreak : '\n' ∈ withReturns raw := mem_withReturns_iff.mpr (.inl hraw)
    cases type with
    | str => rfl
    | bool =>
      have hword {cs : List Char} (h : '\n' ∈ cs) : (lower cs == "true".toList) = false := by
        rw [beq_eq_false_iff_ne]
        intro heq
        have hmem : '\n' ∈ lower cs := mem_lowerFrom (fun _ _ => rfl) h
        rw [heq] at hmem
        exact absurd hmem (by decide)
      rw [Scalar.read?, Scalar.read?, hword hraw, hword hbreak]
      rfl
    | int =>
      simp [Scalar.read?, integer_of_break hraw, integer_of_break hbreak, Reading.withReturns,
        Scalar.withReturns]
    | float =>
      have hloose : ((withReturns raw).contains '_' || !isAscii (withReturns raw)) =
          (raw.contains '_' || !isAscii raw) := by
        rw [isAscii_withReturns, Bool.eq_iff_iff]
        simp [mem_withReturns_iff]
      unfold Scalar.read?
      simp only [hloose, float?_withReturns]
      split
      · rfl
      · cases float? raw <;> rfl
  · rw [withReturns_of_notMem hraw]
    cases hread : Scalar.read? type raw with
    | none => rfl
    | some r => rw [Option.map_some, withReturns_of_read? hraw hread]

/-! ## Lines with a return at the end -/

namespace Lines

open Marker Scanner

/-- A return behind a line changes nothing about the marker that opens it. -/
theorem afterOpener?_return (line : List Char) :
    afterOpener? (line ++ ['\r']) = (afterOpener? line).map (· ++ ['\r']) :=
  afterOpener?_stop (by decide) (by decide) line []

/-- A line opens with a marker with a return behind it or without. -/
theorem opens_return (line : List Char) : opens (line ++ ['\r']) = opens line := by
  rw [opens, afterOpener?_return, Option.isSome_map, opens]

/-- A complete marker at the front of a line has the return behind it. -/
theorem complete?_return (line : List Char) :
    complete? (line ++ ['\r']) =
      (complete? line).map fun (name, behind) => (name, behind ++ ['\r']) := by
  unfold complete?
  rw [afterOpener?_return]
  cases afterOpener? line with
  | none => rfl
  | some rest =>
    have huntil : untilCloser? (rest ++ ['\r']) =
        (untilCloser? rest).map fun (inner, behind) => (inner, behind ++ ['\r']) :=
      untilCloser?_stop (by decide) (by decide) rest rfl
    simp only [Option.map_some, Option.bind_eq_bind, Option.bind_some, huntil]
    cases untilCloser? rest <;> rfl

/-- The complete markers of a line have the return behind them. -/
theorem completeIn_return (line : List Char) :
    completeIn (line ++ ['\r']) =
      (completeIn line).map fun (name, behind) => (name, behind ++ ['\r']) := by
  induction line using completeIn.induct with
  | case1 =>
    rw [List.nil_append, completeIn_of_none (by rfl) (by rfl), completeIn]
    rfl
  | case2 c cs name behind h ih =>
    have h' := complete?_return (c :: cs)
    rw [h, Option.map_some, List.cons_append] at h'
    rw [completeIn_of_complete? h, List.cons_append, completeIn_of_complete? h', ih, List.map_cons]
  | case3 c cs h behind hopener ih =>
    have h' := complete?_return (c :: cs)
    have hopener' := afterOpener?_return (c :: cs)
    rw [h, Option.map_none, List.cons_append] at h'
    rw [hopener, Option.map_some, List.cons_append] at hopener'
    rw [completeIn_of_afterOpener? h hopener, List.cons_append,
      completeIn_of_afterOpener? h' hopener', ih]
  | case4 c cs h hopener ih =>
    have h' := complete?_return (c :: cs)
    have hopener' := afterOpener?_return (c :: cs)
    rw [h, Option.map_none, List.cons_append] at h'
    rw [hopener, Option.map_none, List.cons_append] at hopener'
    rw [completeIn_of_none h hopener, List.cons_append, completeIn_of_none h' hopener', ih]

/-- What opens a line with a name has the return behind it. -/
theorem openingOf?_return (name line : List Char) :
    openingOf? name (line ++ ['\r']) = (openingOf? name line).map (· ++ ['\r']) := by
  unfold openingOf?
  rw [complete?_return]
  cases complete? line with
  | none => rfl
  | some found =>
    simp only [Option.map_some, Option.bind_some]
    split <;> rfl

/-- So has the first marker of a name in a line. -/
theorem withinOf?_return (name line : List Char) :
    withinOf? name (line ++ ['\r']) = (withinOf? name line).map (· ++ ['\r']) := by
  unfold withinOf?
  rw [completeIn_return, List.find?_map, Option.map_map, Option.map_map]
  rfl

/-! ## Texts with returns -/

/-- The lines up to the first that opens with a marker. -/
def blockLines (cs : List Char) : List (List Char) := (lines cs).takeWhile fun line => !opens line

/-- A line that opens with no marker belongs to the block. -/
theorem blockLines_line {line : List Char} (hline : '\n' ∉ line) (rest : List Char) :
    blockLines (line ++ '\n' :: rest) = if opens line then [] else line :: blockLines rest := by
  unfold blockLines
  rw [lines_line hline, List.takeWhile_cons]
  cases opens line <;> rfl

/-- The lines of a text with returns that are put together are those of the text with returns, and
blanks. -/
theorem exists_blockLines_withReturns (cs : List Char) :
    ∃ run, (∀ c ∈ run, isBlank c = true) ∧
      ['\n'].intercalate (blockLines (withReturns cs)) =
        withReturns (['\n'].intercalate (blockLines cs)) ++ run ∧
      (blockLines (withReturns cs) = [] ↔ blockLines cs = []) := by
  induction cs using line_induction with
  | last line hline =>
    have hbreak : '\n' ∉ ['\n'].intercalate (blockLines line) := by
      rw [blockLines, lines_of_notMem hline, List.takeWhile_cons]
      cases opens line <;> simp [hline]
    rw [withReturns_of_notMem hline, withReturns_of_notMem hbreak]
    exact ⟨[], by simp, (List.append_nil _).symm, Iff.rfl⟩
  | line line rest hline ih =>
    rw [withReturns_line hline, blockLines_line (by simpa using hline), blockLines_line hline,
      opens_return]
    cases opens line with
    | true => exact ⟨[], by simp, rfl, Iff.rfl⟩
    | false =>
      obtain ⟨run, hrun, hjoined, hnil⟩ := ih
      simp only [Bool.false_eq_true, if_false]
      -- The return of the last line has no break behind it and counts as a blank.
      by_cases hrest : blockLines rest = []
      · rw [hrest, hnil.mpr hrest, List.intercalate_singleton, List.intercalate_singleton,
          withReturns_of_notMem hline]
        exact ⟨['\r'], by simp [isBlank], rfl, by simp⟩
      · rw [List.intercalate_cons_of_ne_nil hrest,
          List.intercalate_cons_of_ne_nil (mt hnil.mp hrest), hjoined]
        refine ⟨run, hrun, ?_, by simp⟩
        rw [withReturns_append, withReturns_append, withReturns_of_notMem hline]
        simp

/-- The text of a block with returns is that of the block, with returns. -/
theorem valueOf_withReturns (behind rest : List Char) :
    valueOf (behind ++ ['\r']) (lines (withReturns rest)) =
      (valueOf behind (lines rest)).map withReturns := by
  have hall : (behind ++ ['\r']).all isLineRest = behind.all isLineRest := by
    rw [List.all_append, Bool.and_eq_left_iff_imp.mpr]
    intro _
    rfl
  have hne (cs : List Char) : lines cs ≠ [] := List.splitOn_ne_nil _ _
  unfold valueOf
  rw [hall]
  by_cases hother : behind.all isLineRest = false
  · rw [if_pos (.inr hother), if_pos (.inr hother)]
    rfl
  · rw [if_neg (not_or.mpr ⟨hne _, hother⟩), if_neg (not_or.mpr ⟨hne _, hother⟩), Option.map_some]
    obtain ⟨run, hrun, hjoined, -⟩ := exists_blockLines_withReturns rest
    show some (trim (['\n'].intercalate (blockLines (withReturns rest)))) =
      some (withReturns (trim (['\n'].intercalate (blockLines rest))))
    rw [hjoined, trim, trimBy_append_of_all isBlank _ hrun, trimBy_withReturns rfl rfl, trim]

/-- The block that is found first with returns has the text of the one without, with returns. -/
theorem map_first?_withReturns {find : List Char → Option (List Char)}
    (hfind : ∀ line, find (line ++ ['\r']) = (find line).map (· ++ ['\r'])) (cs : List Char) :
    (first? find (lines (withReturns cs))).map (fun (behind, below) => valueOf behind below) =
      (first? find (lines cs)).map fun (behind, below) =>
        (valueOf behind below).map withReturns := by
  induction cs using line_induction with
  | last line hline =>
    rw [withReturns_of_notMem hline, lines_of_notMem hline, first?, first?]
    -- A marker on the last line has no block.
    cases find line with
    | none => rfl
    | some behind => simp [valueOf]
  | line line rest hline ih =>
    rw [lines_withReturns_line hline, lines_line hline, first?, first?, hfind]
    cases find line with
    | none => exact ih
    | some behind =>
      simp only [Option.map_some]
      rw [valueOf_withReturns]

/-- A name has the same text in a reply with returns, but for the returns. -/
theorem value?_withReturns (cs name : List Char) :
    (ofText (withReturns cs)).value? false name =
      ((ofText cs).value? false name).map withReturns := by
  rw [value?_ofText_lines, value?_ofText_lines, value?, value?, start?, start?, bind_eq_join,
    bind_eq_join, Option.map_or, Option.map_or, map_first?_withReturns (openingOf?_return name),
    map_first?_withReturns (withinOf?_return name), ← Option.join_map_eq_map_join, Option.map_or,
    Option.map_map, Option.map_map]
  rfl

-- The return of the last line is trimmed, and the one within the text stays.
example : (ofText (withReturns "[[ ## a ## ]]\n1\n2\n".toList)).value? false "a".toList =
    some "1\r\n2".toList := by
  decide

end Lines

/-! ## Parsing a reply -/

/-- A parsed field whose texts have a return in front of every break. -/
def ParsedField.withReturns (p : ParsedField) : ParsedField :=
  { p with raw := p.raw.map Text.withReturns, value := p.value.map Scalar.withReturns }

/-- A field is resolved from a text with returns as from the text without them, but for the
returns. -/
theorem resolveField_withReturns (f : Field) (raw : Option (List Char)) :
    resolveField f (raw.map withReturns) = (resolveField f raw).map ParsedField.withReturns := by
  cases raw with
  | none => rfl
  | some raw =>
    simp only [Option.map_some, resolveField, read?_withReturns]
    cases Scalar.read? f.type raw <;> rfl

/-- A parsed field that has no break in its text is left as it is. -/
theorem Read.withReturns_eq {f : Field} {raw : Option (List Char)} {p : ParsedField}
    (h : Read f raw p) (hraw : ∀ text, p.raw = some text → '\n' ∉ text) : p.withReturns = p := by
  have htexts : p.raw.map Text.withReturns = p.raw ∧
      p.value.map Scalar.withReturns = p.value := by
    cases h with
    | missing _ hnone hp hvalue =>
      rw [hp, hnone, hvalue]
      exact ⟨rfl, rfl⟩
    | present text reading _ hsome hp hread hvalue =>
      have hbreak := hraw text (hp.trans hsome)
      have hsame := congrArg Reading.value (withReturns_of_read? hbreak hread)
      rw [hp, hsome, hvalue, Option.map_some, Option.map_some, withReturns_of_notMem hbreak]
      exact ⟨rfl, congrArg some hsame⟩
  rw [ParsedField.withReturns, htexts.1, htexts.2]

/-- A reply with returns in front of its breaks is parsed, or fails to be, as the reply without them
is: each field comes out the same but for the returns in its texts, so that one without a break in
its text, and every value that is no text, is the same altogether. -/
theorem parseFields_withReturns (reply : List Char) (fields : List Field) :
    parseFields (withReturns reply) fields =
        (parseFields reply fields).map (·.map ParsedField.withReturns) ∧
      ∀ parsed, parseFields reply fields = .ok parsed → ∀ p ∈ parsed,
        p.withReturns.outcome = p.outcome ∧
        ((∀ text, p.raw = some text → '\n' ∉ text) → p.withReturns = p) ∧
        ∀ v, p.value = some v → (∃ text, v = .text text) ∨ p.withReturns.value = some v := by
  constructor
  · apply mapM_map_right
    intro f
    rw [Lines.value?_withReturns]
    exact resolveField_withReturns f _
  · intro parsed hparsed p hp
    obtain ⟨f, -, hread⟩ := exists_field_of_resolve hparsed hp
    refine ⟨rfl, hread.withReturns_eq, ?_⟩
    intro v hv
    rw [ParsedField.withReturns, hv]
    cases v with
    | text text => exact .inl ⟨text, rfl⟩
    | _ => exact .inr rfl

end Reply

end PromptContract
