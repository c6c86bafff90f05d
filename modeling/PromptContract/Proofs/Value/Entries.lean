import Mathlib.Data.List.Nodup
import Mathlib.Data.List.Perm.Basic
import PromptContract.Value.Equality

/-!
# Entries of a map

Looking up the entries of a map by texts. A key counts as one text or as none, so that the keys that
count as texts are told apart by these (`Entries.NamesDistinct`). Setting the value of a key changes
what is found under its text, if it counts as one, and nothing else (`get?_put`). In maps with
distinct names the order of the entries does not matter (`NamesDistinct.get?_perm`), nor that in
which values are set (`put_comm`).
-/

namespace PromptContract

namespace Value

/-- A key of one text is not another text. -/
theorem isText_text_of_ne {s key : String} (h : s ≠ key) : (Value.text s).isText key = false :=
  beq_eq_false_iff_ne.mpr fun heq => h (Option.some.inj heq)

/-- A text that counts as a text is that. -/
theorem eq_of_isText_text {s key : String} (h : (Value.text s).isText key = true) : s = key :=
  Option.some.inj (eq_of_beq h)

/-- A value counts as a text if that is the one it is compared by. -/
theorem isText_iff {v : Value} {s : String} : v.isText s = true ↔ v.comparedText? = some s :=
  beq_iff_eq

/-- A key of one text is another text just if the two are the same. -/
theorem isText_text (s key : String) : (Value.text s).isText key = decide (s = key) := by
  rw [Bool.eq_iff_iff, decide_eq_true_eq]
  exact ⟨eq_of_isText_text, fun h => h ▸ beq_self_eq_true _⟩

/-- A value that counts as a text counts as no other. -/
theorem not_isText {v : Value} {s t : String} (h : v.isText s = true) (hne : s ≠ t) :
    v.isText t = false := by
  rw [isText, isText_iff.mp h]
  exact beq_eq_false_iff_ne.mpr fun heq => hne (Option.some.inj heq)

/-- What gives a name is that name as a value. -/
theorem eq_toValue {v : Value} {n : Name} (h : v.name? = some n) : v = n.toValue := by
  cases v with
  | text s =>
    obtain rfl := Option.some.inj h
    rfl
  | fieldType t =>
    obtain rfl := Option.some.inj h
    rfl
  | _ => cases h

/-- A name as a value counts as its text. -/
theorem comparedText?_toValue (n : Name) : n.toValue.comparedText? = some n.text := by
  cases n <;> rfl

/-- What counts as a text is a name of that text. -/
theorem exists_eq_toValue {v : Value} {s : String} (h : v.comparedText? = some s) :
    ∃ n : Name, v = n.toValue ∧ n.text = s := by
  obtain ⟨n, hn, hs⟩ := Option.map_eq_some_iff.mp h
  exact ⟨n, eq_toValue hn, hs⟩

/-- A value equals a key that counts as a text if it counts as that text. -/
theorem same_eq_isText {v key : Value} {s : String} (h : key.comparedText? = some s) :
    v.same key = v.isText s := by
  obtain ⟨n, rfl, rfl⟩ := exists_eq_toValue h
  cases n <;> cases v <;>
    simp [Name.toValue, Name.text, same, isText, comparedText?, name?, number?]

/-- A value that counts as a text equals no key that counts as none. -/
theorem same_eq_false {v key : Value} {s : String} (h : v.comparedText? = some s)
    (hkey : key.comparedText? = none) : v.same key = false := by
  obtain ⟨n, rfl, rfl⟩ := exists_eq_toValue h
  cases n <;> simp [Name.toValue, same, number?, hkey]

/-- A value that is not null is there. -/
theorem present?_of_ne {v : Value} (h : v ≠ .null) : v.present? = some v := by
  cases v with
  | null => exact absurd rfl h
  | _ => rfl

end Value

namespace Entries

/-! ## Looking up -/

/-- What is found under a key stands in an entry of the key. -/
theorem exists_of_get? {es : Entries} {key : String} {v : Value} (h : es.get? key = some v) :
    ∃ e ∈ es, e.1.isText key = true ∧ e.2 = v := by
  unfold Entries.get? at h
  obtain ⟨e, he, rfl⟩ := Option.map_eq_some_iff.mp h
  have hkey := List.find?_some he
  exact ⟨e, List.mem_of_find?_eq_some he, hkey, rfl⟩

/-- Something is found under the key of an entry. -/
theorem exists_get? {es : Entries} {key : String} {e : Value × Value} (he : e ∈ es)
    (hkey : e.1.isText key = true) : ∃ v, es.get? key = some v := by
  unfold Entries.get?
  cases hfind : es.find? fun e => e.1.isText key with
  | none => exact absurd hkey (List.find?_eq_none.mp hfind e he)
  | some e' => exact ⟨e'.2, rfl⟩

/-- A value is found under a key that has no other, in the place of another one where it is missing.
-/
theorem get?_getD_eq {es : Entries} {key : String} {v other : Value}
    (hall : ∀ e ∈ es, e.1.isText key = true → e.2 = v)
    (hother : v ≠ other → (.text key, v) ∈ es) : (es.get? key).getD other = v := by
  cases hget : es.get? key with
  | some w =>
    obtain ⟨e, he, hkey, rfl⟩ := exists_of_get? hget
    exact hall e he hkey
  | none =>
    by_contra hne
    obtain ⟨w, hw⟩ : ∃ w, es.get? key = some w :=
      exists_get? (hother (Ne.symm hne)) (beq_self_eq_true _)
    rw [hw] at hget
    cases hget

/-- Nothing is found under the key of no entry. -/
theorem get?_eq_none_iff {es : Entries} {key : String} :
    es.get? key = none ↔ ∀ e ∈ es, e.1.isText key = false := by
  unfold get?
  rw [Option.map_eq_none_iff, List.find?_eq_none]
  exact forall₂_congr fun e _ => Bool.not_eq_true _ ▸ Iff.rfl

/-- Nothing is found among no entries. -/
@[simp] theorem get?_nil (key : String) : get? [] key = none := rfl

/-- The first entry is found under its key, and the others behind it. -/
theorem get?_cons (e : Value × Value) (es : Entries) (key : String) :
    get? (e :: es) key = if e.1.isText key then some e.2 else es.get? key := by
  unfold get?
  rw [List.find?_cons]
  cases e.1.isText key <;> rfl

/-- So is the first entry of a text. -/
theorem get?_cons_text (s : String) (v : Value) (es : Entries) (key : String) :
    get? ((.text s, v) :: es) key = if s = key then some v else es.get? key := by
  rw [get?_cons, Value.isText_text]
  simp

/-- What is found among the first entries counts. -/
theorem get?_append (es fs : Entries) (key : String) :
    get? (es ++ fs) key = (es.get? key).or (fs.get? key) := by
  unfold get?
  rw [List.find?_append]
  cases es.find? fun e => e.1.isText key <;> rfl

/-! ## Entries that are not null -/

/-- An entry that is null is left aside. -/
theorem present_cons_of_null {e : Value × Value} (h : e.2 = .null) (es : Entries) :
    present (e :: es) = present es := by
  unfold present
  rw [List.filter_cons, h]
  rfl

/-- An entry that is not null stays. -/
theorem present_cons {e : Value × Value} (h : e.2 ≠ .null) (es : Entries) :
    present (e :: es) = e :: present es := by
  unfold present
  rw [List.filter_cons]
  cases hvalue : e.2 with
  | null => exact absurd hvalue h
  | _ => rfl

/-! ## Distinct names -/

/-- The keys of a map are texts. -/
def AreNamed (es : Entries) : Prop := ∀ e ∈ es, ∃ s, e.1.comparedText? = some s

instance (es : Entries) : Decidable es.AreNamed :=
  decidable_of_iff (∀ e ∈ es, e.1.comparedText?.isSome = true)
    (forall₂_congr fun _ _ => Option.isSome_iff_exists)

/-- The texts that the keys of a map count as are distinct. -/
def NamesDistinct (es : Entries) : Prop := (es.filterMap (·.1.comparedText?)).Nodup

instance (es : Entries) : Decidable es.NamesDistinct := inferInstanceAs (Decidable (List.Nodup _))

namespace NamesDistinct

variable {es fs : Entries}

/-- No other entry has the name of the first, and the others are distinct. -/
theorem of_cons {e : Value × Value} (h : NamesDistinct (e :: es)) :
    (∀ name, e.1.isText name = true → es.get? name = none) ∧ es.NamesDistinct := by
  unfold NamesDistinct at h
  rw [List.filterMap_cons] at h
  cases hname : e.1.comparedText? with
  | none =>
    rw [hname] at h
    refine ⟨fun name hkey => ?_, h⟩
    rw [Value.isText_iff, hname] at hkey
    cases hkey
  | some s =>
    rw [hname, List.nodup_cons] at h
    refine ⟨fun name hkey => get?_eq_none_iff.mpr fun e' he' => ?_, h.2⟩
    rw [Value.isText_iff, hname, Option.some.injEq] at hkey
    rw [← hkey]
    refine Bool.eq_false_iff.mpr fun hkey' => h.1 ?_
    exact List.mem_filterMap.mpr ⟨e', he', Value.isText_iff.mp hkey'⟩

/-- The names of some of the entries are distinct. -/
theorem sublist (h : es.NamesDistinct) (hsub : List.Sublist fs es) : fs.NamesDistinct :=
  List.Nodup.sublist (hsub.filterMap _) h

/-- So are those of the same entries in another order. -/
theorem perm (h : es.NamesDistinct) (hperm : es.Perm fs) : fs.NamesDistinct :=
  (hperm.filterMap _).nodup_iff.mp h

/-- The value of an entry is found under its name. -/
theorem get?_of_mem (h : es.NamesDistinct) {e : Value × Value} (he : e ∈ es) {name : String}
    (hkey : e.1.isText name = true) : es.get? name = some e.2 := by
  induction es with
  | nil => cases he
  | cons e' es ih =>
    obtain ⟨hother, hdistinct⟩ := h.of_cons
    rw [get?_cons]
    rcases List.mem_cons.mp he with rfl | he
    · rw [if_pos hkey]
    · obtain ⟨v, hv⟩ := exists_get? he hkey
      have hfirst : e'.1.isText name ≠ true := fun hkey' => by
        rw [hother name hkey'] at hv
        cases hv
      rw [if_neg hfirst]
      exact ih hdistinct he

/-- The order of entries does not matter to what is found. -/
theorem get?_perm (h : es.NamesDistinct) (hperm : es.Perm fs) (name : String) :
    es.get? name = fs.get? name := by
  cases hget : fs.get? name with
  | some v =>
    obtain ⟨e, he, hkey, rfl⟩ := exists_of_get? hget
    exact h.get?_of_mem (hperm.mem_iff.mpr he) hkey
  | none =>
    refine get?_eq_none_iff.mpr fun e he => Bool.eq_false_iff.mpr fun hkey => ?_
    obtain ⟨v, hv⟩ := exists_get? (hperm.mem_iff.mp he) hkey
    rw [hv] at hget
    cases hget

/-- What is found among the entries that are not null is what is found among all, unless that is
null. -/
theorem get?_present (h : es.NamesDistinct) (name : String) :
    es.present.get? name = (es.get? name).bind Value.present? := by
  induction es with
  | nil => rfl
  | cons e es ih =>
    obtain ⟨hother, hdistinct⟩ := h.of_cons
    rw [get?_cons]
    by_cases hnull : e.2 = .null
    · rw [present_cons_of_null hnull, ih hdistinct, hnull]
      split
      · next hkey =>
        rw [hother name hkey]
        rfl
      · rfl
    · rw [present_cons hnull, get?_cons, ih hdistinct]
      split
      · exact (Value.present?_of_ne hnull).symm
      · rfl

end NamesDistinct

/-! ## Setting values -/

/-- The entries with the value of a text replaced. -/
def replaced (es : Entries) (s : String) (value : Value) : Entries :=
  es.map fun e => if e.1.isText s then (e.1, value) else e

/-- What is found where the value of a text is replaced. -/
theorem get?_replaced (es : Entries) (s : String) (value : Value) (name : String) :
    (es.replaced s value).get? name =
      if s = name then (es.get? name).map fun _ => value else es.get? name := by
  induction es with
  | nil => exact (ite_self _).symm
  | cons e es ih =>
    unfold replaced at ih ⊢
    rw [List.map_cons, get?_cons, get?_cons, ih]
    by_cases hs : s = name
    · subst hs
      cases hkey : e.1.isText s <;> simp [hkey]
    · cases hkey : e.1.isText s
      · simp [hs]
      · simp [hs, Value.not_isText hkey hs]

/-- A key that counts as a text stands in a map if something is found under the text. -/
theorem has_eq (es : Entries) {key : Value} {s : String} (h : key.comparedText? = some s) :
    es.has key = (es.get? s).isSome := by
  unfold has get?
  rw [Option.isSome_map, Bool.eq_iff_iff, List.find?_isSome, List.any_eq_true]
  simp only [Value.same_eq_isText h]

/-- The value of a key that counts as a text is replaced if something is found under the text. -/
theorem put_eq (es : Entries) {key : Value} {s : String} (h : key.comparedText? = some s)
    (value : Value) : es.put key value =
      if (es.get? s).isSome then es.replaced s value else es ++ [(key, value)] := by
  unfold put
  rw [has_eq es h]
  simp only [Value.same_eq_isText h, replaced]

/-- Setting the value of a key that counts as a text changes what is found under that text. -/
theorem get?_put_named (es : Entries) {key : Value} {s : String} (h : key.comparedText? = some s)
    (value : Value) (name : String) :
    (es.put key value).get? name = if s = name then some value else es.get? name := by
  rw [put_eq es h]
  split
  · next hfound =>
    obtain ⟨v, hv⟩ := Option.isSome_iff_exists.mp hfound
    rw [get?_replaced]
    split
    · next heq => rw [← heq, hv, Option.map_some]
    · rfl
  · next hnone =>
    rw [get?_append, get?_cons, Value.isText, h]
    by_cases heq : s = name
    · subst heq
      rw [Option.not_isSome_iff_eq_none.mp hnone, if_pos (beq_self_eq_true _), if_pos rfl,
        Option.none_or]
    · rw [if_neg fun hkey => heq (Option.some.inj (eq_of_beq hkey)), if_neg heq]
      exact Option.or_none

/-- Setting the value of a key that counts as no text changes nothing that is found. -/
theorem get?_put_unnamed (es : Entries) {key : Value} (h : key.comparedText? = none)
    (value : Value) (name : String) : (es.put key value).get? name = es.get? name := by
  have hreplaced (es : Entries) :
      Entries.get? (es.map fun e => if e.1.same key then (e.1, value) else e) name =
        es.get? name := by
    induction es with
    | nil => rfl
    | cons e es ih =>
      rw [List.map_cons, get?_cons, get?_cons, ih]
      cases hkey : e.1.isText name with
      | false => cases e.1.same key <;> simp [hkey]
      | true => simp [Value.same_eq_false (Value.isText_iff.mp hkey) h, hkey]
  unfold put
  split
  · exact hreplaced es
  · rw [get?_append, get?_cons, Value.isText, h]
    exact Option.or_none

/-- Setting a value changes what is found under the text that its key counts as, if it counts as
one. -/
theorem get?_put (es : Entries) (key value : Value) (name : String) :
    (es.put key value).get? name = if key.isText name then some value else es.get? name := by
  cases hkey : key.comparedText? with
  | none =>
    have hnot : key.isText name = false := by rw [Value.isText, hkey]; rfl
    rw [get?_put_unnamed es hkey, hnot]
    rfl
  | some s =>
    rw [get?_put_named es hkey, Value.isText, hkey]
    by_cases heq : s = name <;> simp [heq]

/-- Setting a value keeps names distinct. -/
theorem NamesDistinct.put {es : Entries} (h : es.NamesDistinct) (key value : Value) :
    (es.put key value).NamesDistinct := by
  -- A value that replaces another leaves the names as they are, and a new name comes last.
  have hreplaced : (es.map fun e => if e.1.same key then (e.1, value) else e).filterMap
      (·.1.comparedText?) = es.filterMap (·.1.comparedText?) := by
    rw [List.filterMap_map]
    refine List.filterMap_congr fun e _ => ?_
    simp only [Function.comp]
    split <;> rfl
  unfold NamesDistinct Entries.put at *
  split
  · rwa [hreplaced]
  · next hhas =>
    rw [List.filterMap_append]
    cases hkey : key.comparedText? with
    | none => simpa [hkey] using h
    | some s =>
      rw [has_eq es hkey, Option.not_isSome_iff_eq_none, get?_eq_none_iff] at hhas
      have hnew : s ∉ es.filterMap (·.1.comparedText?) := fun hmem => by
        obtain ⟨e, he, hname⟩ := List.mem_filterMap.mp hmem
        exact Bool.eq_false_iff.mp (hhas e he) (Value.isText_iff.mpr hname)
      have hlast : [(key, value)].filterMap (·.1.comparedText?) = [s] := by simp [hkey]
      rw [hlast, List.nodup_append]
      exact ⟨h, List.nodup_singleton s,
        fun a ha b hb heq => hnew (List.mem_singleton.mp hb ▸ heq ▸ ha)⟩

/-- So does setting the value of a text. -/
theorem getD_put_text (es : Entries) (s : String) (value : Value) (name : String) :
    (es.put (.text s) value).getD name = if s = name then value else es.getD name := by
  unfold getD
  rw [get?_put, Value.isText_text]
  by_cases heq : s = name <;> simp [heq]

/-! ## The order of entries -/

/-- Setting a value does the same to the same entries in another order. -/
theorem put_perm {es fs : Entries} (h : es.Perm fs) (key value : Value) :
    (es.put key value).Perm (fs.put key value) := by
  have hhas : es.has key = fs.has key := h.any_eq
  unfold put
  rw [hhas]
  split
  · exact h.map _
  · exact h.append_right _

/-- Two values of different texts can be replaced in either order. -/
theorem replaced_comm (es : Entries) {s t : String} (hne : s ≠ t) (v w : Value) :
    (es.replaced s v).replaced t w = (es.replaced t w).replaced s v := by
  unfold replaced
  rw [List.map_map, List.map_map]
  refine List.map_congr_left fun e _ => ?_
  cases hs : e.1.isText s
  · cases ht : e.1.isText t <;> simp [hs, ht]
  · simp [hs, Value.not_isText hs hne]

/-- Replacing the value of a text passes over an entry of another one. -/
theorem replaced_concat (es : Entries) {key : Value} {s t : String}
    (ht : key.comparedText? = some t) (hne : t ≠ s) (v w : Value) :
    (es ++ [(key, w)]).replaced s v = es.replaced s v ++ [(key, w)] := by
  unfold replaced
  rw [List.map_append, List.map_cons, Value.not_isText (Value.isText_iff.mpr ht) hne]
  rfl

/-- The order in which the values of two keys are set does not matter to what the entries are. -/
theorem put_comm (es : Entries) {key other : Value} {s t : String}
    (hs : key.comparedText? = some s) (ht : other.comparedText? = some t) (hne : s ≠ t)
    (v w : Value) : ((es.put key v).put other w).Perm ((es.put other w).put key v) := by
  rw [put_eq (es.put key v) ht, put_eq (es.put other w) hs, get?_put_named es hs,
    get?_put_named es ht, if_neg hne, if_neg (Ne.symm hne), put_eq es hs, put_eq es ht]
  cases (es.get? s).isSome <;> cases (es.get? t).isSome
  · show ((es ++ [(key, v)]) ++ [(other, w)]).Perm ((es ++ [(other, w)]) ++ [(key, v)])
    rw [List.append_assoc, List.append_assoc]
    exact (List.Perm.swap _ _ []).append_left es
  · exact .of_eq (replaced_concat es hs hne w v)
  · exact .of_eq (replaced_concat es ht (Ne.symm hne) v w).symm
  · exact .of_eq (replaced_comm es hne v w)

end Entries

end PromptContract
