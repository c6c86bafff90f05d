import PromptContract.Proofs.Session.Run

/-!
# The final map of a session

A session that is ended (`StreamReassembler.finish`) gives the map that its whole text gives at
once, however the text was cut into pieces and whatever was sent in between (`finish_agrees`). What
it took over before never shows in the end, save in one case: a value that was read for a marker
within a line stays if the first marker at the start of a line came later and never got its break
(`Superseded`).
-/

namespace PromptContract

open Reply Reply.Scanner

/-! ## Taking over the last values -/

/-- Where every parsed field of a name has a value, the last of them counts, whatever the map. -/
theorem Session.get_foldl_mergeField_eq {parsed : List ParsedField} {name : Name}
    (hvalue : ∀ p ∈ parsed, p.name.text = name.text → p.value ≠ none) (m n : Outputs)
    (h : m.get name = n.get name ∨ ∃ p ∈ parsed, p.name.text = name.text) :
    (parsed.foldl (mergeField true) m).get name =
      (parsed.foldl (fun m p => m.put p.name p.value) n).get name := by
  induction parsed generalizing m n with
  | nil =>
    rcases h with h | ⟨p, hp, -⟩
    · exact h
    · cases hp
  | cons p parsed ih =>
    rw [List.foldl_cons, List.foldl_cons]
    apply ih fun q hq => hvalue q (List.mem_cons_of_mem _ hq)
    -- A field of the name sets the value in both maps, and other fields set it in neither.
    by_cases hname : p.name.text = name.text
    · left
      obtain ⟨v, hv⟩ := Option.ne_none_iff_exists'.mp (hvalue p List.mem_cons_self hname)
      unfold mergeField
      simp [hv, Outputs.get_put, hname]
    · rcases h with h | ⟨q, hq, hq'⟩
      · left
        rw [Outputs.get_put, if_neg (Ne.symm hname), ← h]
        rcases get_mergeField true m p name with hkept | ⟨-, hsame, -⟩
        · exact hkept
        · exact absurd hsame hname
      · right
        rcases List.mem_cons.mp hq with rfl | hq
        · exact absurd hq' hname
        · exact ⟨q, hq, hq'⟩

/-! ## The final map -/

namespace Session

variable {τ : Type}

/-- The names of the final map are those of the map that the whole text gives at once. -/
theorem Reached.names_finish {fields : List Field} {text : List Char} {s : Session τ}
    (h : Reached fields text s) {hold : Bool} {parsed : List ParsedField}
    (hparsed : resolve (Scanner.ofText text) hold fields = .ok parsed) :
    (parsed.foldl (mergeField true) s.latest).map (·.1) = (outputsOf parsed).map (·.1) := by
  rw [names_of_taken h.names true hparsed]
  unfold blank outputsOf
  rw [Outputs.names_foldl_put, Outputs.names_foldl_put, names_of_resolve hparsed]

variable [Sub τ] [OfNat τ 0] [LT τ] [DecidableLT τ]

/-- Calls that end in a final map come to the names and values that parsing the whole text gives,
except that a superseded value may remain where the whole text gives none. -/
theorem finish_agrees (fields : List Field) (window : τ) (calls : List (Call τ))
    (hopen : ∀ c ∈ calls, c.IsOpen) (now : ClockReading τ) (final : Outputs)
    (hfinal : (((start fields window).run calls).finish now).1 = .ok final) :
    ∃ whole, parse (fed calls) fields = .ok whole ∧ final.map (·.1) = whole.map (·.1) ∧
      ∀ f ∈ fields, final.get f.name = whole.get f.name ∨
        whole.get f.name = none ∧ Superseded (fed calls) f.name.text.toList := by
  have hreached : Reached fields (fed calls) ((start fields window).run calls) :=
    (reached_start fields window).run hopen
  rcases finish_cases _ now hreached.not_done with ⟨e, herror⟩ | ⟨parsed, hparsed, hmap⟩
  · rw [herror] at hfinal
    cases hfinal
  obtain rfl := Except.ok.inj (hmap.symm.trans hfinal)
  rw [hreached.fields_eq, hreached.scanner_eq] at hparsed
  have hwhole : parse (fed calls) fields = .ok (outputsOf parsed) := by
    rw [parse_eq, hparsed]
    rfl
  refine ⟨outputsOf parsed, hwhole, hreached.names_finish hparsed, fun f hf => ?_⟩
  have hvalue := value_of_resolve hparsed f.name
  cases hraw : (Scanner.ofText (fed calls)).value? false f.name.text.toList with
  | some raw =>
    -- The whole text has a value, and the last one read from it counts in both maps.
    left
    obtain ⟨p, hp, hread⟩ := exists_parsed_of_resolve hparsed hf
    refine get_foldl_mergeField_eq (fun q hq hq' hnone => ?_) _ _
      (.inr ⟨p, hp, by rw [hread.name_eq]⟩)
    rw [(hvalue q hq hq').mp hnone] at hraw
    cases hraw
  | none =>
    have hnone : ∀ p ∈ parsed, p.name.text = f.name.text → p.value = none :=
      fun p hp hname => (hvalue p hp hname).mpr hraw
    rw [get_outputsOf hnone (.inl rfl)]
    rcases get_foldl_mergeField true parsed ((start fields window).run calls).latest f.name with
      hkept | ⟨p, hp, v, hname, hv, -⟩
    · rw [hkept]
      cases hget : ((start fields window).run calls).latest.get f.name with
      | none => exact .inl rfl
      | some v =>
        -- A value that is left over was there once, so that it was superseded.
        obtain ⟨f', -, hname, earlier, raw, -, ⟨more, hmore⟩, hread, -, -⟩ := hreached.read _ _ hget
        rw [hname] at hread
        rw [← hmore] at hraw ⊢
        exact .inr ⟨rfl, superseded_of_value? hread hraw⟩
    · rw [hnone p hp hname] at hv
      cases hv

/-- A value that was read for a marker within a line remains in the final map when a last line with
a marker alone makes the whole text give none. -/
theorem finish_agrees_unended :
    (((start [⟨.given "a", .str, .text "", .bool true, none⟩] (0 : Int)).run
        [.feed "x [[ ## a ## ]]\nhi".toList (.ok 0) (.ok 0),
          .feed "\n[[ ## a ## ]]".toList (.ok 0) (.ok 0)]).finish (.ok 0)).1 =
      .ok [(.given "a", some (.text "hi".toList))] ∧
    parse "x [[ ## a ## ]]\nhi\n[[ ## a ## ]]".toList
      [⟨.given "a", .str, .text "", .bool true, none⟩] = .ok [(.given "a", none)] ∧
    Superseded "x [[ ## a ## ]]\nhi\n[[ ## a ## ]]".toList "a".toList := by
  have hfinal : (((start [⟨.given "a", .str, .text "", .bool true, none⟩] (0 : Int)).run
      [.feed "x [[ ## a ## ]]\nhi".toList (.ok 0) (.ok 0),
        .feed "\n[[ ## a ## ]]".toList (.ok 0) (.ok 0)]).finish (.ok 0)).1 =
      .ok [(.given "a", some (.text "hi".toList))] := rfl
  have hparse : parse "x [[ ## a ## ]]\nhi\n[[ ## a ## ]]".toList
      [⟨.given "a", .str, .text "", .bool true, none⟩] = .ok [(.given "a", none)] := rfl
  refine ⟨hfinal, hparse, ?_⟩
  obtain ⟨whole, hwhole, -, hvalues⟩ :=
    finish_agrees _ _ _ (by simp [Call.IsOpen]) _ _ hfinal
  obtain rfl := Except.ok.inj (hparse.symm.trans hwhole)
  rcases hvalues _ List.mem_cons_self with hsame | ⟨-, hsuperseded⟩
  · cases hsame
  · exact hsuperseded

end Session

end PromptContract
