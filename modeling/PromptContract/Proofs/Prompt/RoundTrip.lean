import PromptContract.Proofs.Number.Numeral
import PromptContract.Proofs.Prompt.Blocks
import PromptContract.Proofs.Reply.Outputs

/-!
# Values come back from their blocks

Fields that are written as blocks with their values, in any order and under any preamble, are read
back from the text (`parse_message`): each has what a prompt shows for its value (`format_value`),
trimmed, and texts, integers and truth values come back as they were in fields of their type
(`GivenBack`). The names must be such that markers can carry them, and no line of the preamble or of
a value may start with an opening half; markers within their lines do no harm.
-/

namespace PromptContract.Prompt

open Text Reply Reply.Scanner

/-- A preamble, and the blocks of fields with their values in some order. -/
def message (preamble : List Char) (values : Entries) (order : List Field) : List Char :=
  preamble ++ joined blankLine
    (order.map fun f => blockOf f.name.text.toList (valueText (values.getD f.name.text)))

/-- The blocks of the input fields that a prompt ends with are a message without a preamble, where
names are shown as the texts that they count as. -/
theorem inputBlocks_eq (c : Contract) (values : Entries)
    (h : ∀ f ∈ c.inputs, f.name.display = f.name.text) :
    inputBlocks c values = message [] values c.inputs := by
  unfold inputBlocks message
  rw [List.nil_append]
  congr 1
  apply List.map_congr_left
  intro f hf
  rw [valueBlock, block_eq, h f hf]

/-- What comes back of a value in a field of a type, for the values that fields of the type are for.
-/
def GivenBack (type : FieldType) (value : Value) (result : Option Scalar) : Prop :=
  match type, value with
  | .str, .text s => trim s.toList = s.toList → result = some (.text s.toList)
  | .str, .null => result = some (.text [])
  | .int, .int n => n.natAbs < Nat.pow 10 Numeral.digitLimit → result = some (.int n)
  | .bool, .bool b => result = some (.bool b)
  | _, _ => True

/-- What a prompt shows for a value reads as the value. -/
theorem givenBack_read (type : FieldType) (value : Value) :
    GivenBack type value ((Scalar.read? type (trim (valueText value))).map (·.value)) := by
  unfold GivenBack
  split
  · next s =>
    intro htrim
    have htext : valueText (.text s) = s.toList := rfl
    rw [htext, htrim]
    rfl
  · rfl
  · next n =>
    intro hlt
    have htext : valueText (.int n) = (toString n).toList := rfl
    rw [htext, Numeral.trim_toString]
    unfold Scalar.read?
    rw [Numeral.integer_toString, if_pos hlt]
    rfl
  · next b => cases b <;> rfl
  · trivial

/-- Values come back from their blocks, whatever the order of the blocks and the preamble: the text
of each field is what a prompt shows for its value, trimmed, and a map that parsing gives has the
values that were written. -/
theorem parse_message (fields order : List Field) (horder : order.Perm fields)
    (hnames : (fields.map (·.name.text)).Nodup)
    (hsafe : ∀ f ∈ fields, MarkerSafe f.name.text.toList) (values : Entries)
    (hvalues : ∀ f ∈ fields, Unopened (valueText (values.getD f.name.text)))
    (preamble : List Char) (hwhole : WholeLines preamble) (hpreamble : Unopened preamble) :
    (∀ f ∈ fields, (ofText (message preamble values order)).value? false f.name.text.toList =
      some (trim (valueText (values.getD f.name.text)))) ∧
    ∀ whole, parse (message preamble values order) fields = .ok whole →
      ∀ f ∈ fields, GivenBack f.type (values.getD f.name.text) (whole.get f.name) := by
  have hvalue : ∀ f ∈ fields, (ofText (message preamble values order)).value? false
      f.name.text.toList = some (trim (valueText (values.getD f.name.text))) := by
    intro f hf
    have hmessage : message preamble values order = preamble ++ joined blankLine
        ((order.map fun f => (f.name.text.toList, valueText (values.getD f.name.text))).map
          fun b => blockOf b.1 b.2) := by
      rw [List.map_map]
      rfl
    rw [hmessage]
    apply value?_blocks hwhole hpreamble
    · intro b hb
      obtain ⟨g, hg, rfl⟩ := List.mem_map.mp hb
      have hg := horder.mem_iff.mp hg
      exact ⟨hsafe g hg, hvalues g hg⟩
    · rw [List.map_map]
      have hnodup : ((fields.map (·.name.text)).map String.toList).Nodup :=
        hnames.map fun a b h => String.toList_inj.mp h
      rw [List.map_map] at hnodup
      exact (horder.map _).nodup_iff.mpr hnodup
    · exact List.mem_map.mpr ⟨f, horder.mem_iff.mpr hf, rfl⟩
  refine ⟨hvalue, fun whole hparse f hf => ?_⟩
  rw [parse_eq] at hparse
  cases hparsed : resolve (ofText (message preamble values order)) false fields with
  | error e =>
    rw [hparsed] at hparse
    cases hparse
  | ok parsed =>
    rw [hparsed] at hparse
    obtain rfl : outputsOf parsed = whole := Except.ok.inj hparse
    obtain ⟨p, hp, hread⟩ := exists_parsed_of_resolve hparsed hf
    -- All parsed fields of the name were read from the field, so that they have one value.
    have hget : (outputsOf parsed).get f.name =
        (Scalar.read? f.type (trim (valueText (values.getD f.name.text)))).map (·.value) := by
      refine get_outputsOf (fun q hq hname => ?_) (.inr ⟨p, hp, by rw [hread.name_eq]⟩)
      rw [(read_of_resolve hparsed hnames hf hq hname).value_eq, hvalue f hf]
      rfl
    rw [hget]
    exact givenBack_read f.type _

/-- Two blocks, the second field's first, under a preamble and with a value that hold markers within
their lines. -/
theorem parse_message_swapped :
    ∃ whole, parse (message "see [[ ## a ## ]]\n".toList
        [(.text "a", .text "- [[ ## n ## ]]\n# 2"), (.text "n", .int (-12))]
        [⟨.given "n", .int, .text "", .bool true, none⟩,
          ⟨.given "a", .str, .text "", .bool true, none⟩])
      [⟨.given "a", .str, .text "", .bool true, none⟩,
        ⟨.given "n", .int, .text "", .bool true, none⟩] = .ok whole ∧
      whole.get (.given "a") = some (.text "- [[ ## n ## ]]\n# 2".toList) ∧
      whole.get (.given "n") = some (.int (-12)) := by
  have hlimit : (-12 : Int).natAbs < Nat.pow 10 Numeral.digitLimit := by decide +kernel
  obtain ⟨-, hback⟩ := parse_message
    [⟨.given "a", .str, .text "", .bool true, none⟩,
      ⟨.given "n", .int, .text "", .bool true, none⟩]
    [⟨.given "n", .int, .text "", .bool true, none⟩,
      ⟨.given "a", .str, .text "", .bool true, none⟩]
    (.swap _ _ _) (by decide) (by decide)
    [(.text "a", .text "- [[ ## n ## ]]\n# 2"), (.text "n", .int (-12))] (by decide)
    "see [[ ## a ## ]]\n".toList ((wholeLines_iff _).mpr (.inr rfl)) (by decide)
  have hall := hback [(.given "a", some (.text "- [[ ## n ## ]]\n# 2".toList)),
    (.given "n", some (.int (-12)))] rfl
  have ha : GivenBack .str (.text "- [[ ## n ## ]]\n# 2") _ := hall _ List.mem_cons_self
  have hn : GivenBack .int (.int (-12)) _ := hall _ (List.mem_cons_of_mem _ List.mem_cons_self)
  exact ⟨_, rfl, ha rfl, hn hlimit⟩

end PromptContract.Prompt
