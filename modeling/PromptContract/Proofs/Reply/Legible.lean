import PromptContract.Proofs.Number.Numeral
import PromptContract.Proofs.Reply.Outputs

/-!
# Which texts can be read

A text that its type does not take stands for itself (`read?_eq_text_iff`), so reading a field fails
in one case only: in a field of integers, at digits of a number greater than may be read
(`OverLong`). Fields are resolved where none of them has such a text (`Legible`), and a reply is
parsed there and nowhere else (`exists_parse_iff`).
-/

namespace PromptContract

namespace Numeral

open Text

/-- A text is the digits of an integer, with one sign in front or none. -/
structure Written (raw digits : List Char) : Prop where
  sign : raw = digits ∨ raw = '+' :: digits ∨ raw = '-' :: digits
  ne_nil : digits ≠ []
  digit : ∀ c ∈ digits, '0' ≤ c ∧ c ≤ '9'

/-- A text is an integer of more digits than may be read. -/
def OverLong (raw : List Char) : Prop := ∃ digits, Written raw digits ∧ digitLimit < digits.length

/-- The digits are those from zero to nine. -/
theorem isDigit_iff (c : Char) : isDigit c = true ↔ '0' ≤ c ∧ c ≤ '9' := by
  unfold isDigit asciiDigit?
  split
  · next h => simpa using h
  · next h => simpa using h

/-- Behind the sign of a written integer are its digits. -/
theorem Written.takeSign_eq {raw digits : List Char} (h : Written raw digits) :
    (takeSign raw).2 = digits := by
  rcases h.sign with rfl | rfl | rfl
  · rw [takeSign_of_digits fun c hc => (isDigit_iff c).mpr (h.digit c hc)]
  · rfl
  · rfl

/-- What a sign is split off from has it in front. -/
theorem sign_takeSign (raw : List Char) :
    raw = (takeSign raw).2 ∨ raw = '+' :: (takeSign raw).2 ∨ raw = '-' :: (takeSign raw).2 := by
  unfold takeSign
  split <;> simp

/-- A written integer is read, unless it has too many digits. -/
theorem Written.integer_eq {raw digits : List Char} (h : Written raw digits) :
    integer raw = if digitLimit < digits.length then .tooLong
      else .value (signed (takeSign raw).1 (digitsValue digits)) := by
  have hguard : (digits.isEmpty || !digits.all isDigit) = false := by
    simpa [isDigit_iff] using ⟨h.ne_nil, h.digit⟩
  unfold integer
  simp only [h.takeSign_eq, hguard, Bool.false_eq_true, if_false]

/-- A written integer has no characters but a sign and digits. -/
theorem Written.mem {raw digits : List Char} (h : Written raw digits) {c : Char} (hc : c ∈ raw) :
    c ∈ ['+', '-'] ∨ '0' ≤ c ∧ c ≤ '9' := by
  rcases h.sign with rfl | rfl | rfl
  · exact .inr (h.digit c hc)
  · rcases List.mem_cons.mp hc with rfl | hc
    · exact .inl (by decide)
    · exact .inr (h.digit c hc)
  · rcases List.mem_cons.mp hc with rfl | hc
    · exact .inl (by decide)
    · exact .inr (h.digit c hc)

/-- What is read as an integer, or is too long to be, is written as one. -/
theorem written_of_integer {raw : List Char} (h : integer raw ≠ .notInteger) :
    Written raw (takeSign raw).2 := by
  have hguard : ¬((takeSign raw).2.isEmpty || !(takeSign raw).2.all isDigit) = true := by
    intro hbad
    apply h
    unfold integer
    simp only [hbad, if_true]
  simp only [Bool.or_eq_true, not_or, List.isEmpty_iff, Bool.not_eq_true', Bool.not_eq_false,
    List.all_eq_true, isDigit_iff] at hguard
  exact ⟨sign_takeSign raw, hguard.1, hguard.2⟩

/-- A text is no integer if it is not written as one. -/
theorem integer_eq_notInteger_iff (raw : List Char) :
    integer raw = .notInteger ↔ ¬∃ digits, Written raw digits := by
  constructor
  · rintro h ⟨digits, hwritten⟩
    rw [hwritten.integer_eq] at h
    split at h <;> cases h
  · intro hno
    by_contra h
    exact hno ⟨_, written_of_integer h⟩

/-- A text is too long to be read as an integer if it is one of too many digits. -/
theorem integer_eq_tooLong_iff (raw : List Char) : integer raw = .tooLong ↔ OverLong raw := by
  constructor
  · intro h
    have hwritten := written_of_integer (by rw [h]; simp)
    refine ⟨_, hwritten, ?_⟩
    rw [hwritten.integer_eq] at h
    split at h
    · next hlong => exact hlong
    · cases h
  · rintro ⟨digits, hwritten, hlong⟩
    rw [hwritten.integer_eq, if_pos hlong]

end Numeral

namespace Reply

open Numeral

/-- A type takes a text: every text is one of the types of texts and truth values, and the numeric
types take numerals in ASCII. -/
def Scalar.Takes : FieldType → List Char → Prop
  | .str, _ | .bool, _ => True
  | .int, raw => ∃ digits, Written raw digits
  | .float, raw => '_' ∉ raw ∧ (∀ c ∈ raw, c.toNat < 128) ∧ ∃ x, float? raw = some x

/-- A text that its type does not take stands for itself, and no other text does. -/
theorem read?_eq_text_iff (type : FieldType) (raw : List Char) :
    Scalar.read? type raw = some ⟨.text raw, true⟩ ↔ ¬Scalar.Takes type raw := by
  cases type with
  | str => simp [Scalar.read?, Scalar.Takes]
  | bool => simp [Scalar.read?, Scalar.Takes]
  | int =>
    show _ ↔ ¬∃ digits, Written raw digits
    rw [← integer_eq_notInteger_iff]
    cases h : integer raw <;> simp [Scalar.read?, h]
  | float =>
    have hscript : (raw.contains '_' || !Text.isAscii raw) = true ↔
        ¬('_' ∉ raw ∧ ∀ c ∈ raw, c.toNat < 128) := by
      simp [Text.isAscii, imp_iff_not_or]
    show _ ↔ ¬('_' ∉ raw ∧ (∀ c ∈ raw, c.toNat < 128) ∧ ∃ x, float? raw = some x)
    rw [← and_assoc]
    unfold Scalar.read?
    simp only
    split
    · next h => exact iff_of_true rfl fun htakes => hscript.mp h htakes.1
    · next h =>
      have hgood := not_not.mp (mt hscript.mpr h)
      cases hfloat : float? raw with
      | none => simp
      | some x => simpa using hgood

/-- What a text is read as: a value of the type, or the text itself where it is no number. -/
inductive ReadAs (raw : List Char) : FieldType → Reading → Prop
  | text : ReadAs raw .str ⟨.text raw, false⟩
  | bool (b : Bool) : ReadAs raw .bool ⟨.bool b, false⟩
  | int (n : Int) : ReadAs raw .int ⟨.int n, false⟩
  | float (x : Binary64) : ReadAs raw .float ⟨.float x, false⟩
  | fellBack {type : FieldType} (h : type = .int ∨ type = .float) :
    ReadAs raw type ⟨.text raw, true⟩

/-- A text that is read is read as one of these. -/
theorem readAs_of_read? {type : FieldType} {raw : List Char} {reading : Reading}
    (h : Scalar.read? type raw = some reading) : ReadAs raw type reading := by
  unfold Scalar.read? at h
  cases type with
  | str =>
    obtain rfl := Option.some.inj h
    exact .text
  | bool =>
    obtain rfl := Option.some.inj h
    exact .bool _
  | int =>
    simp only at h
    split at h
    · obtain rfl := Option.some.inj h
      exact .int _
    · obtain rfl := Option.some.inj h
      exact .fellBack (.inl rfl)
    · cases h
  | float =>
    simp only at h
    split at h
    · obtain rfl := Option.some.inj h
      exact .fellBack (.inr rfl)
    · split at h
      · obtain rfl := Option.some.inj h
        exact .float _
      · obtain rfl := Option.some.inj h
        exact .fellBack (.inr rfl)

/-- Reading a text gives nothing if it is an integer that is too long, and only then. -/
theorem read?_eq_none_iff_overLong (type : FieldType) (raw : List Char) :
    Scalar.read? type raw = none ↔ type = .int ∧ OverLong raw := by
  rw [read?_eq_none_iff, integer_eq_tooLong_iff]

/-- A text that its type takes is read as a value of the type, unless it is an integer that is too
long. -/
theorem exists_read?_iff (type : FieldType) (raw : List Char) :
    (∃ v, Scalar.read? type raw = some ⟨v, false⟩) ↔
      Scalar.Takes type raw ∧ ¬(type = .int ∧ OverLong raw) := by
  rw [← read?_eq_none_iff_overLong]
  constructor
  · rintro ⟨v, hv⟩
    refine ⟨?_, by simp [hv]⟩
    by_contra hno
    rw [(read?_eq_text_iff type raw).mpr hno] at hv
    cases hv
  · rintro ⟨htakes, hsome⟩
    obtain ⟨reading, hread⟩ := Option.ne_none_iff_exists'.mp hsome
    cases readAs_of_read? hread with
    | fellBack => exact absurd htakes ((read?_eq_text_iff type raw).mp hread)
    | _ => exact ⟨_, hread⟩

/-- No field of integers has an integer for its text that is too long to be read. -/
def Legible (hold : Bool) (fields : List Field) (text : List Char) : Prop :=
  ∀ f ∈ fields, f.type = .int → ∀ raw,
    (Scanner.ofText text).value? hold f.name.text.toList = some raw → ¬OverLong raw

/-- Fields are resolved where they are legible, and only there. -/
theorem exists_resolve_iff (text : List Char) (hold : Bool) (fields : List Field) :
    (∃ parsed, resolve (Scanner.ofText text) hold fields = .ok parsed) ↔
      Legible hold fields text := by
  constructor
  · rintro ⟨parsed, hparsed⟩ f hf hint raw hraw hlong
    -- The field was read, though nothing is read from a text that is too long.
    obtain ⟨p, -, hread⟩ := exists_parsed_of_resolve hparsed hf
    cases hread with
    | missing _ hnone =>
      rw [hnone] at hraw
      cases hraw
    | present text reading _ hsome _ hread _ =>
      obtain rfl : text = raw := Option.some.inj (hsome.symm.trans hraw)
      rw [(read?_eq_none_iff_overLong f.type text).mpr ⟨hint, hlong⟩] at hread
      cases hread
  · intro h
    refine exists_resolve fun f hf hint raw hraw => ?_
    rw [Ne, integer_eq_tooLong_iff]
    exact h f hf hint raw hraw

/-- Where fields are not legible, resolving them fails. -/
theorem resolve_eq_error {text : List Char} {hold : Bool} {fields : List Field}
    (h : ¬Legible hold fields text) :
    resolve (Scanner.ofText text) hold fields = .error .unreadable := by
  cases hresolve : resolve (Scanner.ofText text) hold fields with
  | error e => rw [eq_unreadable_of_resolve hresolve]
  | ok parsed => exact absurd ((exists_resolve_iff text hold fields).mp ⟨parsed, hresolve⟩) h

/-- A reply is parsed where the fields are legible in it, and only there. -/
theorem exists_parse_iff (reply : List Char) (fields : List Field) :
    (∃ m, parse reply fields = .ok m) ↔ Legible false fields reply := by
  rw [← exists_resolve_iff, parse_eq]
  cases resolve (Scanner.ofText reply) false fields with
  | error e => simp [Except.map]
  | ok parsed => simp [Except.map]

end Reply

end PromptContract
