import PromptContract.Proofs.Reply.Growth

/-!
# The marker that counts for a name

The marker that counts for a name is the first one at the start of a line (`FirstOnLine`) and, where
no line starts with one, the first of all (`FirstWithin`); see `markerOf?_eq_some_iff`. Once its
line has its break a growing text keeps it, with one exception: a marker within a line gives way to
the first marker at the start of a line, which then comes later (`markerOf?_append`). Hence a value
that was there is lost only where it was superseded (`superseded_of_value?`). In a text
where no marker within a line precedes the first one at the start of a line (`Preceded`) the
exception cannot come about at any time before (`markerOf?_append_of_not_preceded`), so that values
only grow (`value?_isPrefix`) and are final once their block is closed (`value?_append_of_closed`).
-/

namespace PromptContract.Reply.Scanner

open Text Marker

/-- The number of the line in which a place lies, counted from zero. -/
def lineNumber (cs : List Char) (i : Nat) : Nat := (cs.take i).count '\n'

/-- The first marker of a name at the start of a line. -/
structure FirstOnLine (cs name : List Char) (m : Marker) : Prop where
  mem : m ∈ scan cs
  named : m.name = some name
  lineStart : m.lineStart = true
  least : ∀ k ∈ scan cs, k.name = some name → k.lineStart = true → m.start ≤ k.start

/-- The first marker of a name with which no line starts. -/
structure FirstWithin (cs name : List Char) (m : Marker) : Prop where
  mem : m ∈ scan cs
  named : m.name = some name
  within : ∀ k ∈ scan cs, k.name = some name → k.lineStart = false
  least : ∀ k ∈ scan cs, k.name = some name → m.start ≤ k.start

/-- A marker of a name stands within a line in front of the first one at the start of a line. -/
def Preceded (cs name : List Char) : Prop :=
  ∃ m k, m ∈ scan cs ∧ m.name = some name ∧ m.lineStart = false ∧ FirstOnLine cs name k ∧
    m.start < k.start

/-- A marker of a name whose lines have begun stands within a line, and on a later line the first
marker of the name at the start of a line has none under it: its break is still to come, or more
than blanks stand in front of it. -/
def Superseded (cs name : List Char) : Prop :=
  ∃ m k, m ∈ scan cs ∧ m.name = some name ∧ m.lineStart = false ∧ (linesUnder? cs m).isSome ∧
    FirstOnLine cs name k ∧ lineNumber cs m.start < lineNumber cs k.start ∧
    linesUnder? cs k = none

/-- The first marker at the start of a line is found as such. -/
theorem firstOnLine_iff {cs name : List Char} {m : Marker} : FirstOnLine cs name m ↔
    (scan cs).find? (fun m => m.name == some name && m.lineStart) = some m := by
  rw [find?_scan_eq_some_iff]
  simp only [Bool.and_eq_true, beq_iff_eq]
  constructor
  · rintro ⟨hmem, hnamed, hstart, hleast⟩
    exact ⟨hmem, ⟨hnamed, hstart⟩, fun k hk h => hleast k hk h.1 h.2⟩
  · rintro ⟨hmem, ⟨hnamed, hstart⟩, hleast⟩
    exact ⟨hmem, hnamed, hstart, fun k hk hname hline => hleast k hk ⟨hname, hline⟩⟩

/-- A text with a marker of a name at the start of a line has a first one. -/
theorem exists_firstOnLine {cs name : List Char} {m : Marker} (hm : m ∈ scan cs)
    (hnamed : m.name = some name) (hstart : m.lineStart = true) : ∃ k, FirstOnLine cs name k := by
  cases hfind : (scan cs).find? (fun m => m.name == some name && m.lineStart) with
  | none =>
    have hno := List.find?_eq_none.mp hfind m hm
    simp [hnamed, hstart] at hno
  | some k => exact ⟨k, firstOnLine_iff.mpr hfind⟩

/-- The marker that counts for a name is the first one at the start of a line, and the first of all
where no line starts with one. -/
theorem markerOf?_eq_some_iff {cs name : List Char} {m : Marker} :
    (ofText cs).markerOf? name = some m ↔ FirstOnLine cs name m ∨ FirstWithin cs name m := by
  rw [markerOf?_ofText, firstOnLine_iff]
  cases hfind : (scan cs).find? (fun m => m.name == some name && m.lineStart) with
  | some k =>
    -- With a marker at the start of a line, none counts that stands within one.
    have hk := firstOnLine_iff.mpr hfind
    rw [Option.some_or]
    constructor
    · exact .inl
    · rintro (h | h)
      · exact h
      · have hfalse := h.within k hk.mem hk.named
        rw [hk.lineStart] at hfalse
        cases hfalse
  | none =>
    have hno : ∀ k ∈ scan cs, k.name = some name → k.lineStart = false := by
      intro k hk hname
      have h := List.find?_eq_none.mp hfind k hk
      simpa [hname] using h
    rw [Option.none_or, find?_scan_eq_some_iff]
    simp only [beq_iff_eq, reduceCtorEq, false_or]
    constructor
    · rintro ⟨hmem, hnamed, hleast⟩
      exact ⟨hmem, hnamed, hno, hleast⟩
    · rintro ⟨hmem, hnamed, -, hleast⟩
      exact ⟨hmem, hnamed, hleast⟩

/-- The marker that counts for a name is one of the text. -/
theorem mem_scan_of_markerOf? {cs name : List Char} {m : Marker}
    (h : (ofText cs).markerOf? name = some m) : m ∈ scan cs := by
  rcases markerOf?_eq_some_iff.mp h with h | h
  · exact h.mem
  · exact h.mem

/-! ## More text -/

/-- The first marker of a name at the start of a line is on a later line than the markers before it.
-/
theorem lineNumber_lt {cs name : List Char} {k : Marker} (hk : FirstOnLine cs name k) {i : Nat}
    (hlt : i < k.start) : lineNumber cs i < lineNumber cs k.start := by
  obtain ⟨before, behind, n, rfl, hstart, -, -, hiff⟩ := exists_of_mem_scan hk.mem
  have hwhole : WholeLines before := hiff.mp hk.lineStart
  have hsplit : (before ++ behind).take i ++ (before ++ behind).drop i = before ++ behind :=
    List.take_append_drop _ _
  have hlen : ((before ++ behind).take i).length = i := by
    rw [List.length_take, List.length_append]
    omega
  -- The line in which the place lies has its break before the marker.
  obtain ⟨line, rest, -, -, hbefore⟩ := exists_line_of_lt hsplit hwhole (by omega)
  unfold lineNumber
  rw [hstart, List.take_left]
  have hcount := congrArg (List.count '\n') hbefore
  simp only [List.count_append, List.count_cons_self] at hcount
  omega

/-- On whole lines at the front, texts that go on differently have the same markers. -/
theorem mem_scan_of_lt {whole : List Char} (hwhole : WholeLines whole) {a : List Char}
    (b : List Char) {k : Marker} (hk : k ∈ scan (whole ++ a)) (hlt : k.start < whole.length) :
    k ∈ scan (whole ++ b) := by
  rw [scan_append hwhole] at hk ⊢
  rcases List.mem_append.mp hk with hk | hk
  · exact List.mem_append_left _ hk
  · have hbounds := bounds_of_mem_scanFrom hk
    omega

/-- Up to a marker whose line has its break, more text makes no difference to the markers. -/
theorem mem_scan_append_iff {cs : List Char} {m : Marker} (more : List Char)
    (hm : m.start ≤ m.stop) (hbreak : '\n' ∈ cs.drop m.stop) {k : Marker}
    (hle : k.start ≤ m.start) : k ∈ scan (cs ++ more) ↔ k ∈ scan cs := by
  obtain ⟨whole, last, rfl, hwhole, hlast⟩ := exists_wholeLines_append cs
  -- The break behind the marker is one of the whole lines.
  have hlt : m.stop < whole.length := by
    apply Nat.lt_of_not_le
    intro hle
    rw [List.drop_append, List.drop_of_length_le hle, List.nil_append] at hbreak
    exact hlast (List.mem_of_mem_drop hbreak)
  rw [List.append_assoc]
  exact ⟨fun h => mem_scan_of_lt hwhole _ h (by omega),
    fun h => mem_scan_of_lt hwhole _ h (by omega)⟩

/-- A marker at the start of a line that has its name keeps it whatever text comes behind. -/
theorem mem_scan_append_of_lineStart {cs name : List Char} {k : Marker} (more : List Char)
    (hk : k ∈ scan cs) (hnamed : k.name = some name) (hstart : k.lineStart = true) :
    k ∈ scan (cs ++ more) := by
  obtain ⟨before, behind, n, rfl, hpos, hstop, hat, hiff⟩ := exists_of_mem_scan hk
  rw [hnamed] at hat
  have hmem := mem_scan_of_atFront? (hiff.mp hstart) (atFront?_append_of_named more hat)
  rw [List.append_assoc]
  have heq : k = ⟨before.length, before.length + n, some name, true⟩ := by
    rw [← hpos, ← hstop, ← hnamed, ← hstart]
  rw [heq]
  exact hmem

/-- The first marker of a name at the start of a line stays the first. -/
theorem FirstOnLine.append {cs name : List Char} {m : Marker} (h : FirstOnLine cs name m)
    (more : List Char) (hbreak : '\n' ∈ cs.drop m.stop) : FirstOnLine (cs ++ more) name m := by
  have hbounds := bounds_of_mem_scanFrom h.mem
  refine ⟨mem_scan_append_of_lineStart more h.mem h.named h.lineStart, h.named, h.lineStart, ?_⟩
  intro k hk hnamed hstart
  rcases Nat.le_total m.start k.start with hle | hle
  · exact hle
  · exact h.least k ((mem_scan_append_iff more (by omega) hbreak hle).mp hk) hnamed hstart

/-- With more text the marker that counts for a name stays, once its line has its break, unless it
stands within a line and gives way to a later one at the start of a line. -/
theorem markerOf?_append {cs name : List Char} {m : Marker} (more : List Char)
    (h : (ofText cs).markerOf? name = some m) (hbreak : '\n' ∈ cs.drop m.stop) :
    (ofText (cs ++ more)).markerOf? name = some m ∨
      (m ∈ scan (cs ++ more) ∧ m.name = some name ∧ m.lineStart = false ∧
        ∃ k, FirstOnLine (cs ++ more) name k ∧ m.start < k.start) := by
  have hbounds := bounds_of_mem_scanFrom (mem_scan_of_markerOf? h)
  rcases markerOf?_eq_some_iff.mp h with hfirst | hfirst
  · exact .inl (markerOf?_eq_some_iff.mpr (.inl (hfirst.append more hbreak)))
  · have hmem : m ∈ scan (cs ++ more) :=
      (mem_scan_append_iff more (by omega) hbreak (Nat.le_refl _)).mpr hfirst.mem
    by_cases hline : ∃ k ∈ scan (cs ++ more), k.name = some name ∧ k.lineStart = true
    · obtain ⟨k, hk, hnamed, hstart⟩ := hline
      obtain ⟨k, hk⟩ := exists_firstOnLine hk hnamed hstart
      refine .inr ⟨hmem, hfirst.named, hfirst.within m hfirst.mem hfirst.named, k, hk, ?_⟩
      -- A marker at the start of a line in front of this one would have counted before.
      apply Nat.lt_of_not_le
      intro hle
      have hold := (mem_scan_append_iff more (by omega) hbreak hle).mp hk.mem
      have hfalse := hfirst.within k hold hk.named
      rw [hk.lineStart] at hfalse
      cases hfalse
    · left
      refine markerOf?_eq_some_iff.mpr (.inr ⟨hmem, hfirst.named, ?_, ?_⟩)
      · intro k hk hnamed
        apply Bool.eq_false_iff.mpr
        exact fun hstart => hline ⟨k, hk, hnamed, hstart⟩
      · intro k hk hnamed
        rcases Nat.le_total m.start k.start with hle | hle
        · exact hle
        · exact hfirst.least k ((mem_scan_append_iff more (by omega) hbreak hle).mp hk) hnamed

/-- A marker within a line that precedes the first one at the start of a line does so whatever text
comes behind. -/
theorem preceded_append {cs name : List Char} {m k : Marker} (more : List Char)
    (hm : m ∈ scan cs) (hnamed : m.name = some name) (hwithin : m.lineStart = false)
    (hbreak : '\n' ∈ cs.drop m.stop) (hk : FirstOnLine cs name k) (hlt : m.start < k.start) :
    Preceded (cs ++ more) name := by
  have hbounds := bounds_of_mem_scanFrom hm
  obtain ⟨k', hk'⟩ := exists_firstOnLine
    (mem_scan_append_of_lineStart more hk.mem hk.named hk.lineStart) hk.named hk.lineStart
  refine ⟨m, k', (mem_scan_append_iff more (by omega) hbreak (Nat.le_refl _)).mpr hm, hnamed,
    hwithin, hk', ?_⟩
  apply Nat.lt_of_not_le
  intro hle
  have hold := (mem_scan_append_iff more (by omega) hbreak hle).mp hk'.mem
  have hleast := hk.least k' hold hk'.named hk'.lineStart
  omega

/-- In a text where no marker within a line precedes the first one at the start of a line, the
marker that counted for the name at an earlier time counts from then on. -/
theorem markerOf?_append_of_not_preceded {cs more rest name : List Char} {m : Marker}
    (hno : ¬Preceded (cs ++ more ++ rest) name) (h : (ofText cs).markerOf? name = some m)
    (hbreak : '\n' ∈ cs.drop m.stop) : (ofText (cs ++ more)).markerOf? name = some m := by
  rcases markerOf?_append more h hbreak with hsame | ⟨hm, hnamed, hwithin, k, hk, hlt⟩
  · exact hsame
  · -- The marker that gave way would still precede the other one in the whole text.
    have hlate : '\n' ∈ (cs ++ more).drop m.stop := by
      rw [List.drop_append]
      exact List.mem_append_left _ hbreak
    exact absurd (preceded_append rest hm hnamed hwithin hlate hk hlt) hno

/-! ## Values -/

/-- A value comes from a marker that counts for the name and whose line has its break. -/
theorem exists_of_value? {cs name raw : List Char} {hold : Bool}
    (h : (ofText cs).value? hold name = some raw) :
    ∃ m rest, (ofText cs).markerOf? name = some m ∧ linesUnder? cs m = some rest ∧
      raw = trim (body cs hold m rest) := by
  rw [value?_ofText, Option.bind_eq_some_iff] at h
  obtain ⟨m, hm, h⟩ := h
  obtain ⟨rest, hrest, rfl⟩ := Option.map_eq_some_iff.mp h
  exact ⟨m, rest, hm, hrest, rfl⟩

/-- A value that was read at an earlier time and is not there any more was superseded. -/
theorem superseded_of_value? {cs more name raw : List Char} {hold hold' : Bool}
    (h : (ofText cs).value? hold name = some raw)
    (hnone : (ofText (cs ++ more)).value? hold' name = none) : Superseded (cs ++ more) name := by
  obtain ⟨m, under, hm, hunder, -⟩ := exists_of_value? h
  have hbreak := break_mem_of_linesUnder? hunder
  have hlater : linesUnder? (cs ++ more) m = some (under ++ more) := by
    rw [linesUnder?_append more hbreak, hunder]
    rfl
  rw [value?_ofText] at hnone
  -- The marker that counted before would still give a value, so that another one counts now.
  rcases markerOf?_append more hm hbreak with hsame | ⟨hmem, hnamed, hwithin, k, hk, hlt⟩
  · rw [hsame, Option.bind_some, hlater] at hnone
    cases hnone
  · refine ⟨m, k, hmem, hnamed, hwithin, by rw [hlater]; rfl, hk, lineNumber_lt hk hlt, ?_⟩
    rw [markerOf?_eq_some_iff.mpr (.inl hk), Option.bind_some] at hnone
    exact Option.map_eq_none_iff.mp hnone

/-- In a text where no marker within a line precedes the first one at the start of a line, a value
that was read at an earlier time, held back at its end, is the beginning of every later one. -/
theorem value?_isPrefix {cs more rest name raw : List Char} (hold : Bool)
    (hno : ¬Preceded (cs ++ more ++ rest) name) (h : (ofText cs).value? true name = some raw) :
    ∃ later, (ofText (cs ++ more)).value? hold name = some later ∧ raw <+: later := by
  obtain ⟨m, under, hm, hunder, rfl⟩ := exists_of_value? h
  have hbreak := break_mem_of_linesUnder? hunder
  refine ⟨trim (body (cs ++ more) hold m (under ++ more)), ?_, trim_body_isPrefix more hold hunder⟩
  rw [value?_ofText, markerOf?_append_of_not_preceded hno hm hbreak, Option.bind_some,
    linesUnder?_append more hbreak, hunder]
  rfl

/-- The block of a name is closed: behind the marker that counts for the name a line starts with an
opening half. -/
def Closed (cs name : List Char) : Prop :=
  ∃ m before behind, (ofText cs).markerOf? name = some m ∧ cs = before ++ behind ∧
    WholeLines before ∧ (afterOpener? behind).isSome = true ∧ m.start < before.length

/-- In a text where no marker within a line precedes the first one at the start of a line, a value
whose block is closed is the value from then on. -/
theorem value?_append_of_closed {cs more rest name : List Char}
    (hno : ¬Preceded (cs ++ more ++ rest) name) (hclosed : Closed cs name) (hold hold' : Bool) :
    (ofText (cs ++ more)).value? hold' name = (ofText cs).value? hold name := by
  obtain ⟨m, before, behind, hm, hcs, hwhole, hopener, hlt⟩ := hclosed
  have hi : before.length ∈ lineStarts cs :=
    mem_lineStarts_iff.mpr ⟨before, behind, hcs, rfl, hwhole, hopener⟩
  have hmem := mem_scan_of_markerOf? hm
  rw [value?_ofText, value?_ofText, hm,
    markerOf?_append_of_not_preceded hno hm (break_mem_of_closed hmem hi hlt), Option.bind_some,
    Option.bind_some]
  exact map_trim_body_append_of_closed hmem hi hlt more hold hold'

end PromptContract.Reply.Scanner
