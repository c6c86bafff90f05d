import PromptContract.Libraries.Value.Union
import PromptContract.Proofs.Failure
import PromptContract.Proofs.Schema.Declared

/-!
# What tags stand for

A tag may stand in wrappings, one around the other: notes, a union with the type of null, and rows
that it is at the head of (`Wraps`). None of them changes the field type that the tag stands for
(`field_type_for`). Through a union this is seen in its members: a union is made by leaving out
members, but never the first that is not the type of null (`find?_withoutRepeats`), and that one
alone counts (`memberFieldType_eq`).

A text is a name of a type if it is one of its names in any case, with colons in front, question
marks behind, and blanks around all that (`IsNameOf`, `named?_eq_some_iff`). What a name stands for
as a field type and what it stands for in checks (`_python_type`) go together; in checks an unknown
name stands for any type, and as a field type for a text. All this is said by `fieldType_resolves`.
-/

namespace PromptContract

namespace Text

/-- Blank characters are their own small letters. -/
theorem lowerBetween_of_isBlank {c : Char} (h : isBlank c = true) (before behind : List Char) :
    lowerBetween before c behind = [c] := by
  let codes := List.range' 0x09 5 ++ List.range' 0x1C 5 ++ [0x85, 0xA0, 0x1680]
    ++ List.range' 0x2000 11 ++ [0x2028, 0x2029, 0x202F, 0x205F, 0x3000]
  have hcode : c.toNat ∈ codes := by
    simp only [isBlank, Bool.or_eq_true, Bool.and_eq_true, decide_eq_true_eq, beq_iff_eq] at h
    simp only [codes, List.mem_append, List.mem_range'_1, List.mem_cons, List.not_mem_nil]
    omega
  -- None of them is among the capitals that have a small letter, nor is the capital sigma.
  have hall : ∀ n ∈ codes, n ≠ 0x3A3 ∧ lowerLetter (Char.ofNat n) = [Char.ofNat n] := by
    decide +kernel
  obtain ⟨hsigma, hself⟩ := hall _ hcode
  rw [Char.ofNat_toNat] at hself
  rw [lowerBetween, if_neg hsigma, hself]

end Text

namespace Tag

open Text

/-! ## Names -/

/-- A text is a name of a type: one of the names in any case, with colons in front, question marks
behind, and blanks around all that. -/
def IsNameOf (t : FieldType) (s : String) : Prop :=
  ∃ left colons word marks right : List Char,
    s.toList = left ++ (colons ++ word ++ marks) ++ right ∧
    (String.ofList (lower word), t) ∈ names ∧ (∀ c ∈ left ++ right, isBlank c = true) ∧
    (∀ c ∈ colons, c = ':') ∧ ∀ c ∈ marks, c = '?'

/-- The names of types are written without blanks, colons and question marks. -/
theorem letters_of_names : ∀ e ∈ names, e.1.toList ≠ [] ∧
    ∀ c ∈ e.1.toList, isBlank c = false ∧ c ≠ ':' ∧ c ≠ '?' := by
  have hall : (names.all fun e => e.1.toList != [] &&
      e.1.toList.all fun c => !isBlank c && c != ':' && c != '?') = true := by decide
  simpa [List.all_eq_true, and_assoc] using hall

/-- A text whose small letters are such a name has none of these characters either. -/
theorem letters_of_lower {word : List Char} {t : FieldType}
    (h : (String.ofList (lower word), t) ∈ names) :
    word ≠ [] ∧ ∀ c ∈ word, isBlank c = false ∧ c ≠ ':' ∧ c ≠ '?' := by
  obtain ⟨hne, hletters⟩ := letters_of_names _ h
  rw [String.toList_ofList] at hne hletters
  have hkept {c : Char} (hself : ∀ before behind, lowerBetween before c behind = [c])
      (hc : c ∈ word) := hletters c (mem_lowerFrom hself hc)
  refine ⟨fun hword => hne (by rw [hword]; rfl), fun c hc => ⟨?_, ?_, ?_⟩⟩
  · refine Bool.eq_false_iff.mpr fun hblank => ?_
    have hletter := (hkept (lowerBetween_of_isBlank hblank) hc).1
    rw [hblank] at hletter
    cases hletter
  · rintro rfl
    exact (hkept (fun _ _ => rfl) hc).2.1 rfl
  · rintro rfl
    exact (hkept (fun _ _ => rfl) hc).2.2 rfl

/-- A word without characters that are dropped is bared of those around it. -/
theorem bareName_eq {s : String} {left colons word marks right : List Char}
    (hs : s.toList = left ++ (colons ++ word ++ marks) ++ right)
    (hends : ∀ c ∈ left ++ right, isBlank c = true) (hcolons : ∀ c ∈ colons, c = ':')
    (hmarks : ∀ c ∈ marks, c = '?') (hne : word ≠ [])
    (hword : ∀ c ∈ word, isBlank c = false ∧ c ≠ ':' ∧ c ≠ '?') :
    bareName s = String.ofList (lower word) := by
  -- The blanks go first, then the colons in front and the marks at the end.
  have htrim : trim s.toList = colons ++ word ++ marks := by
    rw [hs]
    refine trimBy_append_append hends fun c hc => ?_
    simp only [List.mem_append] at hc
    rcases hc with (hc | hc) | hc
    · rw [hcolons c hc]
      rfl
    · exact (hword c hc).1
    · rw [hmarks c hc]
      rfl
  have hstart {p : Char → Bool} (hp : ∀ c ∈ word, p c = false) :
      (word ++ marks).dropWhile p = word ++ marks := by
    obtain ⟨c, cs, rfl⟩ := List.exists_cons_of_ne_nil hne
    exact List.dropWhile_cons_of_neg (by simp [hp])
  have hfront : (colons ++ word ++ marks).dropWhile (· == ':') = word ++ marks := by
    rw [List.append_assoc, List.dropWhile_append_of_pos fun c hc => beq_iff_eq.mpr (hcolons c hc)]
    exact hstart fun c hc => beq_eq_false_iff_ne.mpr (hword c hc).2.1
  have hmark (c : Char) (hc : c ∈ word) : (c == '?') = false :=
    beq_eq_false_iff_ne.mpr (hword c hc).2.2
  have hback : dropEndWhile (· == '?') (word ++ marks) = word :=
    calc dropEndWhile (· == '?') (word ++ marks)
      _ = trimBy (· == '?') ([] ++ word ++ marks) := by rw [List.nil_append, trimBy, hstart hmark]
      _ = word := trimBy_append_append (fun c hc => beq_iff_eq.mpr (hmarks c hc)) hmark
  unfold bareName
  rw [htrim]
  dsimp only
  rw [hfront, hback]

/-- The types that texts name are those that they are names of. -/
theorem named?_eq_some_iff (s : String) (t : FieldType) : named? s = some t ↔ IsNameOf t s := by
  constructor
  · intro h
    obtain ⟨front, back, hnames, -⟩ := List.lookup_eq_some_iff.mp h
    have hmem : (bareName s, t) ∈ names := hnames ▸ List.mem_append_right _ List.mem_cons_self
    -- What is dropped in front of the bare name and behind it makes up the rest of the text.
    obtain ⟨left, hleft, hblank⟩ := exists_dropWhile isBlank s.toList
    obtain ⟨right, hright, hblank'⟩ := exists_dropEndWhile isBlank (s.toList.dropWhile isBlank)
    obtain ⟨colons, hfront, hcolons⟩ := exists_dropWhile (· == ':') (trim s.toList)
    obtain ⟨marks, hback, hmarks⟩ :=
      exists_dropEndWhile (· == '?') ((trim s.toList).dropWhile (· == ':'))
    refine ⟨left, colons, _, marks, right, ?_, hmem, List.forall_mem_append.mpr ⟨hblank, hblank'⟩,
      fun c hc => beq_iff_eq.mp (hcolons c hc), fun c hc => beq_iff_eq.mp (hmarks c hc)⟩
    rw [List.append_assoc colons, ← hback, ← hfront, List.append_assoc]
    exact hleft.trans (congrArg (left ++ ·) hright)
  · rintro ⟨left, colons, word, marks, right, hs, hmem, hends, hcolons, hmarks⟩
    obtain ⟨hne, hword⟩ := letters_of_lower hmem
    have hlookup : ∀ e ∈ names, names.lookup e.1 = some e.2 := by decide
    unfold named?
    rw [bareName_eq hs hends hcolons hmarks hne hword, hlookup _ hmem]

/-! ## Unions -/

/-- Whether a value is the type of null. -/
def isNoneType : Value → Bool
  | .builtin .none => true
  | _ => false

/-- The first member of a union counts unless it is the type of null. -/
theorem memberFieldType_cons (v : Value) (members : List Value) :
    memberFieldType (v :: members) =
      if isNoneType v then memberFieldType members else fieldType v := by
  cases v with
  | builtin t => cases t <;> rfl
  | _ => rfl

/-- So the first that is not the type of null counts. -/
theorem memberFieldType_eq (members : List Value) : memberFieldType members =
    ((members.find? (!isNoneType ·)).map fieldType).getD .str := by
  induction members with
  | nil => rfl
  | cons v members ih =>
    rw [memberFieldType_cons, List.find?_cons, ih]
    cases isNoneType v <;> rfl

/-- Nothing but the type of null equals it. -/
theorem isNoneType_of_same {v w : Value} (hw : isNoneType w = true) (h : v.same w = true) :
    isNoneType v = true := by
  cases w with
  | builtin t =>
    cases t with
    | none =>
      cases v with
      | builtin s =>
        obtain rfl := beq_iff_eq.mp h
        rfl
      | generic label => cases label <;> cases h
      | object o => cases o <;> cases h
      | _ => cases h
    | _ => cases hw
  | _ => cases hw

/-- The first member that is not the type of null is not left out of a union. -/
theorem find?_withoutRepeats (members : List Value) :
    (Value.withoutRepeats members).find? (!isNoneType ·) = members.find? (!isNoneType ·) := by
  suffices h : ∀ kept : List Value, List.find? (!isNoneType ·)
      (members.foldl (fun kept v => if kept.any v.same then kept else kept ++ [v]) kept) =
      (kept ++ members).find? (!isNoneType ·) from h []
  induction members with
  | nil => intro kept; rw [List.append_nil]; rfl
  | cons v members ih =>
    intro kept
    rw [List.foldl_cons, ih]
    split
    next hany =>
      obtain ⟨w, hw, hsame⟩ := List.any_eq_true.mp hany
      rw [List.find?_append, List.find?_append]
      cases hkept : kept.find? (!isNoneType ·) with
      | some first => rfl
      | none =>
        -- What is left out equals a kept one, and these are all the type of null.
        have hnone : isNoneType w = true := by simpa using List.find?_eq_none.mp hkept w hw
        rw [List.find?_cons_of_neg (by simp [isNoneType_of_same hnone hsame])]
    next => rw [List.append_assoc]; rfl

/-- A single member stands for what it does by itself. -/
theorem memberFieldType_singleton (v : Value) : memberFieldType [v] = fieldType v := by
  cases v with
  | builtin t => cases t <;> rfl
  | _ => rfl

/-- So do the members that a type brings to a union. -/
theorem memberFieldType_unionMembers (v : Value) :
    memberFieldType v.unionMembers = fieldType v := by
  unfold Value.unionMembers
  split
  · rfl
  · rfl
  · exact memberFieldType_singleton v

/-- A union stands for what its members do. -/
theorem fieldType_ofMembers (style : UnionStyle) (types : List Value) :
    fieldType (Value.ofMembers style types) =
      memberFieldType (types.flatMap Value.unionMembers) := by
  have hkept : memberFieldType (Value.withoutRepeats (types.flatMap Value.unionMembers)) =
      memberFieldType (types.flatMap Value.unionMembers) := by
    rw [memberFieldType_eq, memberFieldType_eq, find?_withoutRepeats]
  rw [← hkept]
  unfold Value.ofMembers
  split
  next one hone => rw [hone, memberFieldType_singleton]
  next => rfl

/-! ## Wrappings -/

/-- A value that stands for the type of null inside types: null, or that type. -/
inductive IsNull : Value → Prop
  | null : IsNull .null
  | type : IsNull (.builtin .none)

/-- A tag in wrappings, one around the other. Those of types go around what is not the name of one,
which would be looked up instead. -/
inductive Wraps (tag : Value) : Value → Prop
  | bare : Wraps tag tag
  | notes {v w : Value} {notes : List Value} (h : Wraps tag v) (hv : v.name? = none)
      (hw : v.withNotes notes = .ok w) : Wraps tag w
  | optional {v w : Value} (h : Wraps tag v) (hv : v.name? = none) (hw : v.optional = .ok w) :
    Wraps tag w
  | bar {v n w : Value} (h : Wraps tag v) (hv : v.name? = none) (hn : IsNull n)
      (hw : v.bar n = .ok w ∨ n.bar v = .ok w) : Wraps tag w
  | union {v n w : Value} (h : Wraps tag v) (hv : v.name? = none) (hn : IsNull n)
      (hw : Value.unionOf [v, n] = .ok w ∨ Value.unionOf [n, v] = .ok w) : Wraps tag w
  | tuple {v : Value} (rest : List Value) (h : Wraps tag v) : Wraps tag (.tuple (v :: rest))
  | list {v : Value} (rest : List Value) (h : Wraps tag v) : Wraps tag (.list (v :: rest))

/-- What is not the name of a type stands for the same inside one. -/
theorem fieldType_asArgument {v w : Value} (hv : v.name? = none) (h : v.asArgument = .ok w) :
    fieldType w = fieldType v := by
  unfold Value.asArgument Value.asAnnotation at h
  split at h
  · cases h
  · cases h
  · split at h
    · obtain rfl := Except.ok.inj h
      rfl
    · cases hv
    · cases hv
    · obtain rfl := Except.ok.inj h
      rfl

/-- What stands for the type of null is that type inside another. -/
theorem IsNull.asArgument {n : Value} (h : IsNull n) : n.asArgument = .ok (.builtin .none) := by
  cases h <;> rfl

/-- The type of null adds nothing to a union, on either side. -/
theorem fieldType_ofMembers_null {n : Value} (hn : IsNull n) (style : UnionStyle) (v : Value) :
    fieldType (Value.ofMembers style [v, n]) = fieldType v ∧
      fieldType (Value.ofMembers style [n, v]) = fieldType v := by
  have hmembers : n.unionMembers = [.builtin .none] := by cases hn <;> rfl
  have hskip : List.find? (!isNoneType ·) [.builtin .none] = none := rfl
  rw [fieldType_ofMembers, fieldType_ofMembers, ← memberFieldType_unionMembers v]
  simp only [List.flatMap_cons, List.flatMap_nil, List.append_nil, hmembers, memberFieldType_eq,
    List.find?_append, hskip, Option.or_none, Option.none_or, and_self]

/-- A union of two values that stand for types is made of these types. -/
theorem exists_of_unionOf {a b w : Value} (h : Value.unionOf [a, b] = .ok w) :
    ∃ a' b', a.asArgument = .ok a' ∧ b.asArgument = .ok b' ∧ w = .ofMembers .named [a', b'] := by
  obtain ⟨types, htypes, h⟩ := exists_of_bind_eq_ok h
  simp only [List.mapM_cons, List.mapM_nil] at htypes
  obtain ⟨a', ha, htypes⟩ := exists_of_bind_eq_ok htypes
  obtain ⟨rest, hrest, htypes⟩ := exists_of_bind_eq_ok htypes
  obtain ⟨b', hb, hrest⟩ := exists_of_bind_eq_ok hrest
  obtain rfl := Except.ok.inj hrest
  obtain rfl := Except.ok.inj htypes
  dsimp only at h
  split at h
  · cases h
  · exact ⟨a', b', ha, hb, (Except.ok.inj h).symm⟩

/-- The type of null adds nothing to such a union either. -/
theorem fieldType_unionOf_null {v n w : Value} (hv : v.name? = none) (hn : IsNull n)
    (h : Value.unionOf [v, n] = .ok w ∨ Value.unionOf [n, v] = .ok w) :
    fieldType w = fieldType v := by
  rcases h with h | h
  · obtain ⟨v', n', hv', hn', rfl⟩ := exists_of_unionOf h
    obtain rfl := Except.ok.inj (hn.asArgument.symm.trans hn')
    rw [(fieldType_ofMembers_null .type _ v').1, fieldType_asArgument hv hv']
  · obtain ⟨n', v', hn', hv', rfl⟩ := exists_of_unionOf h
    obtain rfl := Except.ok.inj (hn.asArgument.symm.trans hn')
    rw [(fieldType_ofMembers_null .type _ v').2, fieldType_asArgument hv hv']

/-- Types with a bar between them make a union. -/
theorem union_of_bar {a b w : Value} (hnull : IsNull a ∨ IsNull b) (h : a.bar b = .ok w) :
    Value.unionOf [a, b] = .ok w ∨ w = .ofMembers .bars [a, b] := by
  unfold Value.bar at h
  split at h
  · exact .inl h
  · split at h
    case h_1 => cases h
    case h_7 =>
      split at h
      · exact .inr (Except.ok.inj h).symm
      · cases h
    -- Truth values, integers and maps do not stand for the type of null.
    all_goals rcases hnull with hnull | hnull <;> cases hnull

/-- The type of null adds nothing with a bar. -/
theorem fieldType_bar_null {v n w : Value} (hv : v.name? = none) (hn : IsNull n)
    (h : v.bar n = .ok w ∨ n.bar v = .ok w) : fieldType w = fieldType v := by
  rcases h with h | h
  · rcases union_of_bar (.inr hn) h with h | rfl
    · exact fieldType_unionOf_null hv hn (.inl h)
    · exact (fieldType_ofMembers_null hn .bars v).1
  · rcases union_of_bar (.inl hn) h with h | rfl
    · exact fieldType_unionOf_null hv hn (.inr h)
    · exact (fieldType_ofMembers_null hn .bars v).2

/-- Notes make no difference. -/
theorem fieldType_withNotes {v w : Value} {notes : List Value} (hv : v.name? = none)
    (h : v.withNotes notes = .ok w) : fieldType w = fieldType v := by
  unfold Value.withNotes at h
  split at h
  · cases h
  · obtain ⟨base, hbase, h⟩ := exists_of_bind_eq_ok h
    rw [← fieldType_asArgument hv hbase]
    split at h
    · obtain rfl := Except.ok.inj h
      rfl
    · split at h
      · obtain rfl := Except.ok.inj h
        rfl
      · cases h

/-- A tag in wrappings stands for what it does by itself. -/
theorem Wraps.fieldType_eq {tag w : Value} (h : Wraps tag w) : fieldType w = fieldType tag := by
  induction h with
  | bare => rfl
  | notes _ hv hw ih => exact (fieldType_withNotes hv hw).trans ih
  | optional _ hv hw ih => exact (fieldType_unionOf_null hv .null (.inl hw)).trans ih
  | bar _ hv hn hw ih => exact (fieldType_bar_null hv hn hw).trans ih
  | union _ hv hn hw ih => exact (fieldType_unionOf_null hv hn hw).trans ih
  | tuple rest _ ih => exact ih
  | list rest _ ih => exact ih

/-! ## Field types and checks -/

/-- A tag that is a name of a type, as a text or as a field type in the place of one, is a tag for
that type. -/
theorem tagFor_of_isNameOf {v : Value} {s : String} {t : FieldType}
    (hv : v.comparedText? = some s) (h : IsNameOf t s) : Schema.TagFor t v := by
  have hnamed := (named?_eq_some_iff s t).mpr h
  cases v with
  | text s' =>
    obtain rfl : s' = s := Option.some.inj hv
    exact .name s' hnamed
  | fieldType t' =>
    obtain rfl : t'.name = s := Option.some.inj hv
    obtain rfl := Option.some.inj ((Schema.named?_name t').symm.trans hnamed)
    exact .member
  | _ => cases hv

/-- A tag that is no name of a type stands for a text as a field type, and for any type in
checks. -/
theorem text_and_anyType {v : Value} {s : String} (hv : v.comparedText? = some s)
    (h : ¬ ∃ t, IsNameOf t s) :
    fieldType v = .str ∧ Schema.FieldMap.typeOf v = .anyType := by
  have hnamed : named? s = none :=
    Option.eq_none_iff_forall_ne_some.mpr fun t ht => h ⟨t, (named?_eq_some_iff s t).mp ht⟩
  cases v with
  | text s' =>
    obtain rfl : s' = s := Option.some.inj hv
    show (named? s').getD .str = .str ∧ Schema.FieldMap.typeNamed s' = .anyType
    unfold Schema.FieldMap.typeNamed
    rw [hnamed]
    exact ⟨rfl, rfl⟩
  | fieldType t =>
    obtain rfl : t.name = s := Option.some.inj hv
    rw [Schema.named?_name] at hnamed
    cases hnamed
  | _ => cases hv

/-- A tag in any wrappings stands for what it does by itself. A tag that is a text stands, if the
text is a name of a type, for that type both as a field type and in checks, and otherwise for a text
as a field type and, only then, for any type in checks. -/
theorem fieldType_resolves :
    (∀ tag w, Wraps tag w → fieldType w = fieldType tag) ∧
    ∀ v s, v.comparedText? = some s →
      (∀ t, IsNameOf t s → fieldType v = t ∧
        Schema.FieldMap.typeOf v = Schema.FieldMap.ofFieldType (fieldType v)) ∧
      ((¬ ∃ t, IsNameOf t s) → fieldType v = .str) ∧
      (Schema.FieldMap.typeOf v = .anyType ↔ ¬ ∃ t, IsNameOf t s) := by
  refine ⟨fun _ _ => Wraps.fieldType_eq, fun v s hv => ⟨fun t h => ?_,
    fun h => (text_and_anyType hv h).1, fun hany => ?_, fun h => (text_and_anyType hv h).2⟩⟩
  · have htag := tagFor_of_isNameOf hv h
    exact ⟨htag.fieldType_eq, htag.typeOf_eq.trans (by rw [htag.fieldType_eq])⟩
  · rintro ⟨t, h⟩
    rw [(tagFor_of_isNameOf hv h).typeOf_eq] at hany
    cases t <;> cases hany

/-- The type of integers is seen through a union, notes, a bar and two rows, and as a name it may be
written with a capital and with marks. -/
theorem fieldType_resolves_integer :
    let nullable := Value.union .named [.builtin .int, .builtin .none]
    let noted := Value.annotated nullable [.text "counted"]
    let joined := Value.union .named [.builtin .none, noted]
    (Value.builtin .int).optional = .ok nullable ∧
    nullable.withNotes [.text "counted"] = .ok noted ∧ Value.null.bar noted = .ok joined ∧
    fieldType (.list [.tuple [joined, .map []], .text "more"]) = .int ∧
    fieldType (.text " :Integer?") = .int ∧
    Schema.FieldMap.typeOf (.text " :Integer?") = .builtin .int := by
  intro nullable noted joined
  have hnullable : Wraps (.builtin .int) nullable := .optional .bare rfl rfl
  have hnotes : nullable.withNotes [.text "counted"] = .ok noted := rfl
  have hnoted : Wraps (.builtin .int) noted := .notes hnullable rfl hnotes
  have hjoined : Wraps (.builtin .int) joined := .bar hnoted rfl .null (.inr rfl)
  obtain ⟨hwraps, htexts⟩ := fieldType_resolves
  have hname : IsNameOf .int " :Integer?" :=
    ⟨[' '], [':'], "Integer".toList, ['?'], [], by decide, by decide,
      List.forall_mem_singleton.mpr rfl, List.forall_mem_singleton.mpr rfl,
      List.forall_mem_singleton.mpr rfl⟩
  obtain ⟨hint, hcheck⟩ := (htexts (.text " :Integer?") _ rfl).1 _ hname
  exact ⟨rfl, hnotes, rfl, hwraps _ _ (.list _ (.tuple _ hjoined)), hint, by rw [hcheck, hint]; rfl⟩

end Tag

end PromptContract
