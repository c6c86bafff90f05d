import Mathlib.Data.List.Forall2
import Mathlib.Data.List.Nodup
import PromptContract.Proofs.Failure
import PromptContract.Reply.Parse

/-!
# Output maps and the fields they are made of

An output map is looked up by the text of a name: setting a value is seen under that text alone
(`get_put`). The names of a map that is set up entry by entry are those of the entries, each once
(`names_foldl_put`), and where the entries of a name have one value the map has it
(`get_foldl_put`). Maps of the same names that have the same values are the same (`eq_of_get`).

Parsing (`parse_fields`, `parse_output`) succeeds when each field can be read, and gives the fields
in their order (`resolve_eq_ok_iff`), each with what its text reads as (`Read`). It fails in one way
only, at an integer of too many digits (`exists_resolve`, `eq_unreadable_of_parse`).
-/

namespace PromptContract.Reply

namespace Outputs

/-! ## Looking up what was set -/

/-- A value that was set is seen under its name, and nothing changes under other names. -/
theorem get_put (m : Outputs) (name other : Name) (value : Option Scalar) :
    (m.put name value).get other = if other.text = name.text then value else m.get other := by
  unfold get put
  by_cases hany : m.any (·.1.text == name.text) = true
  · have hkeys : ((fun e : Name × Option Scalar => e.1.text == other.text) ∘
        fun e => if e.1.text == name.text then (e.1, value) else e) =
        fun e => e.1.text == other.text := by
      funext e
      simp only [Function.comp]
      split <;> rfl
    rw [if_pos hany, List.find?_map, hkeys]
    cases hfind : m.find? (fun e => e.1.text == other.text) with
    | none =>
      split
      · next hsame =>
        -- The name is in the map, so that it must be found.
        obtain ⟨e, he, hname⟩ := List.any_eq_true.mp hany
        exact absurd (by simpa [hsame] using hname) (List.find?_eq_none.mp hfind e he)
      · rfl
    | some e =>
      have he : e.1.text = other.text := by simpa using List.find?_some hfind
      by_cases hsame : other.text = name.text
      · simp [he, hsame]
      · simp [he, hsame]
  · rw [if_neg hany, List.find?_append]
    have hno : ∀ e ∈ m, e.1.text ≠ name.text := by
      intro e he hname
      exact hany (List.any_eq_true.mpr ⟨e, he, by simp [hname]⟩)
    by_cases hsame : other.text = name.text
    · have hnone : m.find? (fun e => e.1.text == other.text) = none := by
        apply List.find?_eq_none.mpr
        intro e he
        simpa [hsame] using hno e he
      rw [hnone, if_pos hsame, hsame]
      simp
    · have hother : (name.text == other.text) = false := by simpa using Ne.symm hsame
      rw [List.find?_singleton, hother, if_neg hsame]
      simp

/-- A name that is in a map, by its text. -/
def Has (m : Outputs) (name : Name) : Prop := name.text ∈ m.map (·.1.text)

/-- A value set under a name of the map keeps the names. -/
theorem names_put_of_has {m : Outputs} {name : Name} (h : m.Has name) (value : Option Scalar) :
    (m.put name value).map (·.1) = m.map (·.1) :=
  (names_put m name value).trans (if_pos h)

/-- Maps of the same names have the same names in them. -/
theorem has_congr {m n : Outputs} (h : m.map (·.1) = n.map (·.1)) (name : Name) :
    m.Has name ↔ n.Has name := by
  have htexts : ∀ o : Outputs, o.map (·.1.text) = (o.map (·.1)).map Name.text := by
    intro o
    rw [List.map_map]
    rfl
  unfold Has
  rw [htexts, htexts, h]

/-- A name is in the map once its value was set, and names stay in. -/
theorem has_put (m : Outputs) (name other : Name) (value : Option Scalar)
    (h : other.text = name.text ∨ m.Has other) : (m.put name value).Has other := by
  have htexts : (m.put name value).map (·.1.text) =
      ((m.put name value).map (·.1)).map Name.text := by
    rw [List.map_map]
    rfl
  unfold Has
  rw [htexts, names_put]
  split
  · next hin =>
    rw [List.map_map]
    rcases h with h | h
    · rw [h]
      exact hin
    · exact h
  · rw [List.map_append, List.map_map]
    rcases h with h | h
    · exact List.mem_append_right _ (by simp [h])
    · exact List.mem_append_left _ h

/-- The names of a row of entries, each at its first place. -/
def distinct (names : List Name) (more : List Name) : List Name :=
  more.foldl (fun ns n => if n.text ∈ ns.map Name.text then ns else ns ++ [n]) names

/-- Names that are added to others come in their order, each at its first place. -/
theorem distinct_eq (names more : List Name) :
    distinct names more = names ++
      (more.filter fun n => !names.any (·.text == n.text)).eraseDupsBy
        fun n n' => n.text == n'.text := by
  unfold distinct
  induction more generalizing names with
  | nil => simp
  | cons n more ih =>
    have hmem : n.text ∈ names.map Name.text ↔ names.any (·.text == n.text) = true := by
      simp [List.any_eq_true]
    rw [List.foldl_cons, ih, List.filter_cons]
    by_cases hin : n.text ∈ names.map Name.text
    · rw [if_pos hin, hmem.mp hin]
      rfl
    · rw [if_neg hin, eq_false_of_ne_true (mt hmem.mpr hin), List.append_assoc]
      -- Behind the name, what is left out is what is in the names or has its text.
      have hrest : (more.filter fun m => !(names ++ [n]).any (·.text == m.text)) =
          (more.filter fun m => !names.any (·.text == m.text)).filter
            fun m => (m.text == n.text) = false := by
        rw [List.filter_filter]
        apply List.filter_congr
        intro m _
        have hcomm : (n.text == m.text) = (m.text == n.text) := BEq.comm
        cases hsame : m.text == n.text <;> simp [hcomm, hsame]
      rw [hrest]
      simp [List.eraseDupsBy_cons]

/-- No two of the names that are left have one text. -/
theorem nodup_distinct {names : List Name} (h : (names.map Name.text).Nodup) (more : List Name) :
    ((distinct names more).map Name.text).Nodup := by
  unfold distinct
  induction more generalizing names with
  | nil => exact h
  | cons n more ih =>
    rw [List.foldl_cons]
    split
    · exact ih h
    · next hnew =>
      apply ih
      rw [List.map_append]
      exact List.nodup_append.mpr ⟨h, List.nodup_singleton _, fun t ht t' ht' heq =>
        hnew (by rwa [← List.mem_singleton.mp ht', ← heq])⟩

/-- Distinct names are added as they are. -/
theorem distinct_of_nodup {names more : List Name} (h : ((names ++ more).map Name.text).Nodup) :
    distinct names more = names ++ more := by
  induction more generalizing names with
  | nil => exact (List.append_nil names).symm
  | cons n more ih =>
    rw [List.append_cons] at h ⊢
    have hnew : n.text ∉ names.map Name.text := by
      rw [List.map_append, List.map_append] at h
      have hfront := (List.nodup_append.mp h).1
      exact fun hmem => (List.nodup_append.mp hfront).2.2 _ hmem _ (by simp) rfl
    unfold distinct
    rw [List.foldl_cons, if_neg hnew]
    exact ih h

/-- Only names that were there or were added are left. -/
theorem mem_of_mem_distinct {names more : List Name} {n : Name} (h : n ∈ distinct names more) :
    n ∈ names ∨ n ∈ more := by
  unfold distinct at h
  induction more generalizing names with
  | nil => exact .inl h
  | cons first more ih =>
    rw [List.foldl_cons] at h
    split at h
    · exact (ih h).imp_right (List.mem_cons_of_mem _)
    · rcases ih h with hin | hin
      · rcases List.mem_append.mp hin with hin | hin
        · exact .inl hin
        · exact .inr (List.mem_singleton.mp hin ▸ List.mem_cons_self)
      · exact .inr (List.mem_cons_of_mem _ hin)

/-- The value of a name is that of every name with its text. -/
theorem get_congr (m : Outputs) {name other : Name} (h : name.text = other.text) :
    m.get name = m.get other := by
  unfold get
  rw [h]

/-- Where no two names have one text, the value of each entry is the value of its name. -/
theorem get_of_mem {m : Outputs} (hnodup : ((m.map (·.1)).map Name.text).Nodup)
    {e : Name × Option Scalar} (he : e ∈ m) : m.get e.1 = e.2 := by
  induction m with
  | nil => cases he
  | cons first m ih =>
    rw [List.map_cons, List.map_cons, List.nodup_cons] at hnodup
    unfold get
    rcases List.mem_cons.mp he with rfl | he
    · simp
    · have hother : (first.1.text == e.1.text) = false := by
        rw [beq_eq_false_iff_ne]
        exact fun heq => hnodup.1 (heq ▸ List.mem_map_of_mem (List.mem_map_of_mem he))
      rw [List.find?_cons, hother]
      exact ih hnodup.2 he

/-- A map that is set up entry by entry has the names of the entries, whatever the values. -/
theorem names_foldl_put {α : Type} (name : α → Name) (value : α → Option Scalar) (entries : List α)
    (m : Outputs) :
    (entries.foldl (fun m e => m.put (name e) (value e)) m).map (·.1) =
      distinct (m.map (·.1)) (entries.map name) := by
  induction entries generalizing m with
  | nil => rfl
  | cons e entries ih =>
    rw [List.foldl_cons, ih, names_put, List.map_cons]
    unfold distinct
    rw [List.foldl_cons, List.map_map]
    rfl

/-- A map that is set up entry by entry has the names of all entries in it. -/
theorem has_foldl_put {α : Type} (name : α → Name) (value : α → Option Scalar) (entries : List α)
    (m : Outputs) (other : Name)
    (h : m.Has other ∨ ∃ e ∈ entries, (name e).text = other.text) :
    (entries.foldl (fun m e => m.put (name e) (value e)) m).Has other := by
  induction entries generalizing m with
  | nil =>
    rcases h with h | ⟨e, he, -⟩
    · exact h
    · cases he
  | cons e entries ih =>
    rw [List.foldl_cons]
    apply ih
    rcases h with h | ⟨e', he', hname⟩
    · exact .inl (has_put m _ _ _ (.inr h))
    · rcases List.mem_cons.mp he' with rfl | he'
      · exact .inl (has_put m _ _ _ (.inl hname.symm))
      · exact .inr ⟨e', he', hname⟩

/-- Where all entries of a name have one value, a map that is set up entry by entry has it. -/
theorem get_foldl_put {α : Type} (name : α → Name) (value : α → Option Scalar) (entries : List α)
    (m : Outputs) (other : Name) {v : Option Scalar}
    (hvalue : ∀ e ∈ entries, (name e).text = other.text → value e = v)
    (h : m.get other = v ∨ ∃ e ∈ entries, (name e).text = other.text) :
    (entries.foldl (fun m e => m.put (name e) (value e)) m).get other = v := by
  induction entries generalizing m with
  | nil =>
    rcases h with h | ⟨e, he, -⟩
    · exact h
    · cases he
  | cons e entries ih =>
    rw [List.foldl_cons]
    apply ih _ fun e' he' => hvalue e' (List.mem_cons_of_mem _ he')
    rw [get_put]
    by_cases hname : other.text = (name e).text
    · left
      rw [if_pos hname]
      exact hvalue e List.mem_cons_self hname.symm
    · rw [if_neg hname]
      rcases h with h | ⟨e', he', hsame⟩
      · exact .inl h
      · rcases List.mem_cons.mp he' with rfl | he'
        · exact absurd hsame.symm hname
        · exact .inr ⟨e', he', hsame⟩

end Outputs

/-! ## Parsed fields -/

/-- A parsed field is what the text of its field says: nothing where there is none, else a value
that was read as the field's type. -/
inductive Read (f : Field) (raw : Option (List Char)) (p : ParsedField) : Prop
  | missing (hname : p.name = f.name) (hraw : raw = none) (hp : p.raw = raw)
      (hvalue : p.value = none)
  | present (text : List Char) (reading : Reading) (hname : p.name = f.name)
      (hraw : raw = some text) (hp : p.raw = raw)
      (hread : Scalar.read? f.type text = some reading) (hvalue : p.value = some reading.value)

/-- A parsed field has the name of the field. -/
theorem Read.name_eq {f : Field} {raw : Option (List Char)} {p : ParsedField} (h : Read f raw p) :
    p.name = f.name := by
  cases h with
  | missing hname => exact hname
  | present _ _ hname => exact hname

/-- The value of a parsed field is what its text reads as. -/
theorem Read.value_eq {f : Field} {raw : Option (List Char)} {p : ParsedField} (h : Read f raw p) :
    p.value = raw.bind fun text => (Scalar.read? f.type text).map (·.value) := by
  cases h with
  | missing _ hraw _ hvalue =>
    rw [hraw, hvalue]
    rfl
  | present text reading _ hraw _ hread hvalue =>
    rw [hraw, hvalue, Option.bind_some, hread]
    rfl

/-- A parsed field has a value if its field has a text, and only then. -/
theorem Read.value_eq_none_iff {f : Field} {raw : Option (List Char)} {p : ParsedField}
    (h : Read f raw p) : p.value = none ↔ raw = none := by
  cases h with
  | missing _ hraw _ hvalue => simp [hraw, hvalue]
  | present text reading _ hraw _ _ hvalue => simp [hraw, hvalue]

/-- A field that is resolved was read from its text. -/
theorem read_of_resolveField {f : Field} {raw : Option (List Char)} {p : ParsedField}
    (h : resolveField f raw = .ok p) : Read f raw p := by
  unfold resolveField at h
  cases raw with
  | none =>
    obtain rfl := Except.ok.inj h
    exact .missing rfl rfl rfl rfl
  | some text =>
    cases hread : Scalar.read? f.type text with
    | none => simp [hread] at h
    | some reading =>
      simp only [hread, Except.ok.injEq] at h
      subst h
      exact .present text reading rfl rfl rfl hread rfl

/-- Resolving fields succeeds when each of them can be read, and keeps their order. -/
theorem resolve_eq_ok_iff (s : Scanner) (hold : Bool) (fields : List Field)
    (parsed : List ParsedField) : resolve s hold fields = .ok parsed ↔
      List.Forall₂ (fun f p => resolveField f (s.value? hold f.name.text.toList) = .ok p)
        fields parsed :=
  mapM_eq_ok_iff _ _ _

/-- The one text that cannot be read is an integer of too many digits. -/
theorem read?_eq_none_iff (type : FieldType) (raw : List Char) :
    Scalar.read? type raw = none ↔ type = .int ∧ Numeral.integer raw = .tooLong := by
  cases type with
  | str => simp [Scalar.read?]
  | bool => simp [Scalar.read?]
  | int => cases h : Numeral.integer raw <;> simp [Scalar.read?, h]
  | float =>
    simp only [Scalar.read?, reduceCtorEq, false_and, iff_false]
    split
    · simp
    · cases Numeral.float? raw <;> simp

/-- Fields can be resolved where no text of an integer field is an integer of too many digits. -/
theorem exists_resolve {s : Scanner} {hold : Bool} {fields : List Field}
    (h : ∀ f ∈ fields, f.type = .int → ∀ raw, s.value? hold f.name.text.toList = some raw →
      Numeral.integer raw ≠ .tooLong) : ∃ parsed, resolve s hold fields = .ok parsed := by
  refine exists_mapM_eq_ok fun f hf => ?_
  unfold resolveField
  cases hraw : s.value? hold f.name.text.toList with
  | none => exact ⟨_, rfl⟩
  | some raw =>
    cases hread : Scalar.read? f.type raw with
    | some reading =>
      simp only [hread]
      exact ⟨_, rfl⟩
    | none =>
      obtain ⟨hint, hlong⟩ := (read?_eq_none_iff f.type raw).mp hread
      exact absurd hlong (h f hf hint raw hraw)

/-- Resolving fields fails in one way only. -/
theorem eq_unreadable_of_resolve {s : Scanner} {hold : Bool} {fields : List Field} {e : Failure}
    (h : resolve s hold fields = .error e) : e = .unreadable := by
  unfold resolve at h
  induction fields with
  | nil => cases h
  | cons f fields ih =>
    rw [List.mapM_cons] at h
    cases hfirst : resolveField f (s.value? hold f.name.text.toList) with
    | error e' =>
      rw [hfirst] at h
      cases h
      -- A field fails only where its text cannot be read.
      unfold resolveField at hfirst
      split at hfirst
      · cases hfirst
      · split at hfirst <;> cases hfirst
        rfl
    | ok p =>
      rw [hfirst] at h
      cases hrest : fields.mapM fun f => resolveField f (s.value? hold f.name.text.toList) with
      | error e' =>
        rw [hrest] at h
        cases h
        exact ih hrest
      | ok parsed =>
        rw [hrest] at h
        cases h

/-- The resolved fields have the names of the fields. -/
theorem names_of_resolve {s : Scanner} {hold : Bool} {fields : List Field}
    {parsed : List ParsedField} (h : resolve s hold fields = .ok parsed) :
    parsed.map (·.name) = fields.map (·.name) := by
  have hall := (resolve_eq_ok_iff s hold fields parsed).mp h
  clear h
  induction hall with
  | nil => rfl
  | cons hread _ ih =>
    rw [List.map_cons, List.map_cons, ih, (read_of_resolveField hread).name_eq]

/-- A resolved field was read from the text of one of the fields. -/
theorem exists_field_of_resolve {s : Scanner} {hold : Bool} {fields : List Field}
    {parsed : List ParsedField} (h : resolve s hold fields = .ok parsed) {p : ParsedField}
    (hp : p ∈ parsed) :
    ∃ f ∈ fields, Read f (s.value? hold f.name.text.toList) p := by
  have hall := (resolve_eq_ok_iff s hold fields parsed).mp h
  clear h
  induction hall with
  | nil => cases hp
  | cons hread _ ih =>
    rcases List.mem_cons.mp hp with rfl | hp
    · exact ⟨_, List.mem_cons_self, read_of_resolveField hread⟩
    · obtain ⟨f, hf, hread⟩ := ih hp
      exact ⟨f, List.mem_cons_of_mem _ hf, hread⟩

/-- Each of the fields has a resolved one. -/
theorem exists_parsed_of_resolve {s : Scanner} {hold : Bool} {fields : List Field}
    {parsed : List ParsedField} (h : resolve s hold fields = .ok parsed) {f : Field}
    (hf : f ∈ fields) :
    ∃ p ∈ parsed, Read f (s.value? hold f.name.text.toList) p := by
  have hall := (resolve_eq_ok_iff s hold fields parsed).mp h
  clear h
  induction hall with
  | nil => cases hf
  | cons hread _ ih =>
    rcases List.mem_cons.mp hf with rfl | hf
    · exact ⟨_, List.mem_cons_self, read_of_resolveField hread⟩
    · obtain ⟨p, hp, hread⟩ := ih hf
      exact ⟨p, List.mem_cons_of_mem _ hp, hread⟩

/-- Resolved fields of one name have a value all of them or none. -/
theorem value_of_resolve {s : Scanner} {hold : Bool} {fields : List Field}
    {parsed : List ParsedField} (h : resolve s hold fields = .ok parsed) (name : Name) :
    ∀ p ∈ parsed, p.name.text = name.text →
      (p.value = none ↔ s.value? hold name.text.toList = none) := by
  intro p hp hname
  obtain ⟨f, -, hread⟩ := exists_field_of_resolve h hp
  rw [hread.value_eq_none_iff, ← hname, hread.name_eq]

/-- Where the fields have different names a resolved field was read from the one of its name. -/
theorem read_of_resolve {s : Scanner} {hold : Bool} {fields : List Field}
    {parsed : List ParsedField} (h : resolve s hold fields = .ok parsed)
    (hnames : (fields.map (·.name.text)).Nodup) {f : Field} (hf : f ∈ fields) {p : ParsedField}
    (hp : p ∈ parsed) (hname : p.name.text = f.name.text) :
    Read f (s.value? hold f.name.text.toList) p := by
  obtain ⟨f', hf', hread⟩ := exists_field_of_resolve h hp
  rw [hread.name_eq] at hname
  obtain rfl : f' = f := List.inj_on_of_nodup_map hnames hf' hf hname
  exact hread

/-- Where all parsed fields of a name have one value, the output map has it. -/
theorem get_outputsOf {parsed : List ParsedField} {name : Name} {v : Option Scalar}
    (hvalue : ∀ p ∈ parsed, p.name.text = name.text → p.value = v)
    (h : v = none ∨ ∃ p ∈ parsed, p.name.text = name.text) : (outputsOf parsed).get name = v := by
  refine Outputs.get_foldl_put (·.name) (·.value) parsed [] name hvalue (h.imp_left fun hnone => ?_)
  rw [hnone]
  rfl

/-- A reply is parsed where its fields can be resolved. -/
theorem parse_eq (reply : List Char) (fields : List Field) :
    parse reply fields = (resolve (Scanner.ofText reply) false fields).map outputsOf := by
  unfold parse parseFields
  cases resolve (Scanner.ofText reply) false fields <;> rfl

/-- Parsing fails in one way only. -/
theorem eq_unreadable_of_parse {reply : List Char} {fields : List Field} {e : Failure}
    (h : parse reply fields = .error e) : e = .unreadable := by
  rw [parse_eq] at h
  cases hparsed : resolve (Scanner.ofText reply) false fields with
  | error e' =>
    rw [hparsed] at h
    cases h
    exact eq_unreadable_of_resolve hparsed
  | ok parsed =>
    rw [hparsed] at h
    cases h

/-- Parsing succeeds where no text of an integer field is an integer of too many digits. -/
theorem exists_parse {reply : List Char} {fields : List Field}
    (h : ∀ f ∈ fields, f.type = .int → ∀ raw,
      (Scanner.ofText reply).value? false f.name.text.toList = some raw →
      Numeral.integer raw ≠ .tooLong) : ∃ m, parse reply fields = .ok m := by
  obtain ⟨parsed, hparsed⟩ := exists_resolve h
  exact ⟨outputsOf parsed, by rw [parse_eq, hparsed]; rfl⟩

/-- The names of a map that is parsed are those of the fields, each at its first place. -/
theorem names_of_parse {reply : List Char} {fields : List Field} {m : Outputs}
    (h : parse reply fields = .ok m) :
    m.map (·.1) = Outputs.distinct [] (fields.map (·.name)) := by
  rw [parse_eq] at h
  cases hparsed : resolve (Scanner.ofText reply) false fields with
  | error e =>
    rw [hparsed] at h
    cases h
  | ok parsed =>
    rw [hparsed] at h
    obtain rfl : outputsOf parsed = m := Except.ok.inj h
    rw [outputsOf, Outputs.names_foldl_put, names_of_resolve hparsed]
    rfl

end PromptContract.Reply
