import Mathlib.Data.List.Induction
import PromptContract.Generation
import PromptContract.Options
import PromptContract.Proofs.Failure
import PromptContract.Proofs.Value.Entries

/-!
# What options come to

The options of a call go through two splits before a provider is asked
(`PredictOptions.from_mapping`, `GenerationConfig.from_options`): those with a meaning of their own
are taken out, and of the others those that every provider knows are told from the extras. Under
distinct names the result can be written down (`ofEntries_eq`): every parameter has the value of the
last option for it, and the extras are the other options as they are. So the order of the options
matters only among the options for one parameter (`Reordered.ofEntries_eq`), and the options with a
meaning of their own are filled in without a look at the others (`fill_of_getD`).
-/

namespace PromptContract

namespace Generation

/-- The options for a parameter. -/
def optionsFor (es : Entries) (p : Parameter) : Entries :=
  es.filter fun e => parameter? e.1 == some p

/-- The value of the last option for a parameter. -/
def last? (es : Entries) (p : Parameter) : Option Value := ((optionsFor es p).getLast?).map (·.2)

/-- The options for no parameter. -/
def extras (es : Entries) : Entries := es.filter fun e => (parameter? e.1).isNone

/-- The lists of texts at which replies stop, one for each option about them. -/
def stopLists (es : Entries) : Except Failure (List (List Value)) :=
  (optionsFor es .stopSequences).mapM fun e => stopsOf e.2

/-- What options come to if their lists of texts can be read. -/
def ofLists (es : Entries) (lists : List (List Value)) : Generation where
  temperature := (last? es .temperature).getD .null
  maxOutputTokens := (last? es .maxOutputTokens).getD .null
  topP := (last? es .topP).getD .null
  topK := (last? es .topK).getD .null
  stopSequences := lists.getLastD []
  extra := extras es

/-! ## One option more -/

variable (es : Entries) (e : Value × Value)

/-- A further option is for one parameter at most. -/
theorem optionsFor_concat (p : Parameter) : optionsFor (es ++ [e]) p =
    if parameter? e.1 = some p then optionsFor es p ++ [e] else optionsFor es p := by
  unfold optionsFor
  rw [List.filter_append, List.filter_singleton]
  by_cases h : parameter? e.1 = some p
  · rw [if_pos h, h]
    simp
  · rw [if_neg h, beq_eq_false_iff_ne.mpr h]
    simp

/-- The last option for a parameter counts. -/
theorem last?_concat (p : Parameter) : last? (es ++ [e]) p =
    if parameter? e.1 = some p then some e.2 else last? es p := by
  unfold last?
  rw [optionsFor_concat]
  split
  · rw [List.getLast?_concat, Option.map_some]
  · rfl

/-- A further option is an extra if it is for no parameter. -/
theorem extras_concat : extras (es ++ [e]) =
    if parameter? e.1 = none then extras es ++ [e] else extras es := by
  unfold extras
  rw [List.filter_append, List.filter_singleton]
  by_cases h : parameter? e.1 = none
  · rw [if_pos h, h]
    simp
  · rw [if_neg h, Bool.eq_false_iff.mpr (mt Option.isNone_iff_eq_none.mp h)]
    simp

/-- A further option brings a list of texts if it is about these. -/
theorem stopLists_concat : stopLists (es ++ [e]) =
    if parameter? e.1 = some .stopSequences then
      (do return (← stopLists es) ++ [← stopsOf e.2])
    else stopLists es := by
  unfold stopLists
  rw [optionsFor_concat]
  split
  · rw [List.mapM_append, List.mapM_cons, List.mapM_nil]
    simp only [bind_assoc, pure_bind]
  · rfl

/-- Options are taken over one after the other. -/
theorem ofEntries_concat : ofEntries (es ++ [e]) = (do (← ofEntries es).set e.1 e.2) := by
  unfold ofEntries
  rw [List.foldlM_append]
  refine bind_congr fun g => ?_
  rw [List.foldlM_cons]
  exact bind_pure _

/-! ## All options -/

variable {es}

/-- What options come to, where their names are distinct: the extras are as they are, and every
parameter has the value of the last option for it. They are refused if a list of texts is. -/
theorem ofEntries_eq (hnamed : es.AreNamed) (hdistinct : es.NamesDistinct) :
    ofEntries es = (stopLists es).map (ofLists es) := by
  -- From the last option on, which is the one that counts for its parameter.
  induction es using List.reverseRecOn with
  | nil => rfl
  | append_singleton es e ih =>
    have hes : Entries.AreNamed es := fun e he => hnamed e (List.mem_append_left _ he)
    obtain ⟨s, hs⟩ := hnamed e (List.mem_append_right _ List.mem_cons_self)
    have hcons : Entries.NamesDistinct (e :: es) :=
      hdistinct.perm (List.perm_append_singleton e es)
    obtain ⟨hnew, hdistinct⟩ := hcons.of_cons
    rw [ofEntries_concat, ih hes hdistinct, stopLists_concat]
    cases stopLists es with
    | error why => split <;> rfl
    | ok lists =>
      have hput : (extras es).put e.1 e.2 = extras es ++ [e] := by
        have hnone : (extras es).get? s = none := by
          rw [Entries.get?_eq_none_iff]
          exact fun e' he' => Entries.get?_eq_none_iff.mp (hnew s (Value.isText_iff.mpr hs)) e'
            (List.mem_of_mem_filter he')
        rw [Entries.put_eq _ hs, hnone]
        rfl
      show (ofLists es lists).set e.1 e.2 = _
      unfold set
      cases hp : parameter? e.1 with
      | none => simp [ofLists, last?_concat, extras_concat, hp, hput, Except.map]
      | some p =>
        cases p with
        | stopSequences =>
          cases stopsOf e.2 with
          | error why => rfl
          | ok list =>
            show Except.ok _ = Except.ok (ofLists (es ++ [e]) (lists ++ [list]))
            simp [ofLists, last?_concat, extras_concat, hp]
        | _ => simp [ofLists, last?_concat, extras_concat, hp, Except.map]

/-- Taking one option over sets an extra if it is for no parameter. -/
theorem extra_of_set {g g' : Generation} {key value : Value} (h : g.set key value = .ok g') :
    g'.extra = if parameter? key = none then g.extra.put key value else g.extra := by
  unfold set at h
  cases hp : parameter? key with
  | none =>
    rw [hp] at h
    obtain rfl := Except.ok.inj h
    rfl
  | some p =>
    rw [hp] at h
    cases p with
    | stopSequences =>
      obtain ⟨stops, -, h⟩ := exists_of_bind_eq_ok h
      obtain rfl := Except.ok.inj h
      rfl
    | _ =>
      obtain rfl := Except.ok.inj h
      rfl

/-- The extras have distinct names, and under the name of no parameter the option of that name. -/
theorem extra_of_ofEntries {g : Generation} (h : ofEntries es = .ok g) :
    g.extra.NamesDistinct ∧ (es.NamesDistinct → ∀ name, names.lookup name = none →
      g.extra.get? name = es.get? name) := by
  -- From the last option on, which is an extra or sets a parameter.
  induction es using List.reverseRecOn generalizing g with
  | nil =>
    obtain rfl := Except.ok.inj h
    exact ⟨List.nodup_nil, fun _ _ _ => rfl⟩
  | append_singleton es e ih =>
    rw [ofEntries_concat] at h
    obtain ⟨g₀, hg₀, hset⟩ := exists_of_bind_eq_ok h
    obtain ⟨hdistinct₀, hextra₀⟩ := ih hg₀
    have hextra := extra_of_set hset
    rw [hextra]
    refine ⟨?_, fun hdistinct name hname => ?_⟩
    · split
      · exact hdistinct₀.put e.1 e.2
      · exact hdistinct₀
    · have hcons : Entries.NamesDistinct (e :: es) :=
        hdistinct.perm (List.perm_append_singleton e es)
      obtain ⟨hnew, hdistinct⟩ := hcons.of_cons
      rw [Entries.get?_append, Entries.get?_cons, ← hextra₀ hdistinct name hname]
      cases hkey : e.1.isText name with
      | false => split <;> simp [Entries.get?_put, hkey]
      | true =>
        have hparameter : parameter? e.1 = none := by
          rw [parameter?, Value.isText_iff.mp hkey]
          exact hname
        rw [if_pos hparameter, Entries.get?_put, hkey, hextra₀ hdistinct name hname,
          hnew name hkey]
        rfl

/-- A map of options is taken over entry by entry. -/
theorem ofOptions_map (es : Entries) : ofOptions (.map es) = ofEntries es := by
  cases es <;> rfl

/-- A text by itself and a list say for themselves where replies stop. -/
theorem stopsOf_eq {v : Value} {stops : List Value} (h : stopsOf v = .ok stops) :
    (∀ s, v = .text s → stops = [.text s]) ∧ ∀ vs, v = .list vs → stops = vs := by
  constructor
  · rintro s rfl
    exact (Except.ok.inj h).symm
  · rintro vs rfl
    cases vs <;> exact (Except.ok.inj h).symm

/-- The last option about texts at which replies stop says which these are. -/
theorem stopsOf_last {lists : List (List Value)} (h : stopLists es = .ok lists) {v : Value}
    (hlast : last? es .stopSequences = some v) : stopsOf v = .ok (lists.getLastD []) := by
  obtain ⟨e, he, rfl⟩ := Option.map_eq_some_iff.mp hlast
  obtain ⟨before, hbefore⟩ := List.getLast?_eq_some_iff.mp he
  unfold stopLists at h
  rw [hbefore, List.mapM_append] at h
  obtain ⟨front, -, h⟩ := exists_of_bind_eq_ok h
  rw [List.mapM_cons, List.mapM_nil] at h
  obtain ⟨back, hback, h⟩ := exists_of_bind_eq_ok h
  obtain ⟨list, hlist, hback⟩ := exists_of_bind_eq_ok hback
  obtain rfl := Except.ok.inj hback
  obtain rfl := Except.ok.inj h
  rw [hlist]
  simp

/-! ## Options in another order -/

variable {es' : Entries}

/-- Two rows of options are the same up to their order, which is the same among the options for one
parameter. -/
structure Reordered (es es' : Entries) : Prop where
  perm : es.Perm es'
  inOrder : ∀ p, optionsFor es p = optionsFor es' p

/-- Then they come to the same but for the order of the extras. -/
theorem Reordered.ofEntries_eq (h : Reordered es es') (hnamed : es.AreNamed)
    (hdistinct : es.NamesDistinct) :
    ofEntries es' = (ofEntries es).map fun g => { g with extra := extras es' } := by
  have hnamed' : es'.AreNamed := fun e he => hnamed e (h.perm.mem_iff.mpr he)
  have hlast (p : Parameter) : last? es' p = last? es p := by
    unfold last?
    rw [h.inOrder]
  have hlists : stopLists es' = stopLists es := by
    unfold stopLists
    rw [h.inOrder]
  rw [Generation.ofEntries_eq hnamed hdistinct,
    Generation.ofEntries_eq hnamed' (hdistinct.perm h.perm), hlists]
  cases stopLists es with
  | error why => rfl
  | ok lists =>
    show Except.ok (ofLists es' lists) = Except.ok _
    unfold ofLists
    rw [hlast, hlast, hlast, hlast]

/-- The extras are the same up to their order. -/
theorem Reordered.extras_perm (h : Reordered es es') : (extras es).Perm (extras es') :=
  h.perm.filter _

end Generation

namespace Options

open Generation

/-- The options that are passed on. -/
def passedOn (es : Entries) : Entries := es.filter fun e => !ownNames.any e.1.isText

/-- An option for a parameter has no meaning of its own. -/
theorem not_own_of_parameter {key : Value} {p : Parameter} (h : parameter? key = some p) :
    ownNames.any key.isText = false := by
  obtain ⟨name, hname, hlookup⟩ := Option.bind_eq_some_iff.mp h
  refine Bool.eq_false_iff.mpr fun hany => ?_
  obtain ⟨own, hown, hkey⟩ := List.any_eq_true.mp hany
  obtain rfl : name = own := Option.some.inj (hname.symm.trans (Value.isText_iff.mp hkey))
  have hnone : ∀ own ∈ ownNames, Generation.names.lookup own = none := by decide
  rw [hnone name hown] at hlookup
  cases hlookup

/-- All options for a parameter are passed on. -/
theorem optionsFor_passedOn (es : Entries) (p : Parameter) :
    optionsFor (passedOn es) p = optionsFor es p := by
  unfold optionsFor passedOn
  rw [List.filter_filter]
  refine List.filter_congr fun e _ => ?_
  cases hp : parameter? e.1 == some p with
  | false => rfl
  | true => rw [not_own_of_parameter (eq_of_beq hp)]; rfl

/-- An option of a name without a meaning of its own is passed on. -/
theorem mem_passedOn {es : Entries} {e : Value × Value} (he : e ∈ es) {name : String}
    (hkey : e.1.isText name = true) (hname : name ∉ ownNames) : e ∈ passedOn es := by
  have hother : ownNames.any e.1.isText = false := Bool.eq_false_iff.mpr fun hany => by
    obtain ⟨own, hown, hkey'⟩ := List.any_eq_true.mp hany
    have heq : own = name :=
      Option.some.inj ((Value.isText_iff.mp hkey').symm.trans (Value.isText_iff.mp hkey))
    exact hname (heq ▸ hown)
  exact List.mem_filter.mpr ⟨he, by rw [hother]; rfl⟩

/-- The last option for a parameter is passed on. -/
theorem last?_passedOn (es : Entries) (p : Parameter) : last? (passedOn es) p = last? es p := by
  unfold last?
  rw [optionsFor_passedOn]

/-- What is passed on of reordered options is reordered. -/
theorem reordered_passedOn {es es' : Entries} (h : Reordered es es') :
    Reordered (passedOn es) (passedOn es') where
  perm := h.perm.filter _
  inOrder p := by rw [optionsFor_passedOn, optionsFor_passedOn, h.inOrder]

/-- Under its own name an option is not passed on, and under any other it is. -/
theorem get?_passedOn (es : Entries) (name : String) :
    (passedOn es).get? name = if name ∈ ownNames then none else es.get? name := by
  -- Whether a key is an own name is told by the text that it counts as.
  have hany {key : Value} (hkey : key.isText name = true) :
      ownNames.any key.isText = decide (name ∈ ownNames) := by
    have hisText : key.isText = fun own => decide (name = own) := by
      funext own
      rw [Value.isText, Value.isText_iff.mp hkey, Bool.eq_iff_iff]
      simp
    rw [hisText, Bool.eq_iff_iff]
    simp
  induction es with
  | nil => simp [passedOn]
  | cons e es ih =>
    unfold passedOn at ih ⊢
    rw [List.filter_cons, Entries.get?_cons]
    cases hkey : e.1.isText name with
    | false =>
      split
      · rw [Entries.get?_cons, hkey]
        exact ih
      · exact ih
    | true =>
      rw [hany hkey]
      by_cases hown : name ∈ ownNames
      · simpa [hown] using ih
      · simp [hown, Entries.get?_cons, hkey]

/-- What is filled in depends on the options with a meaning of their own; the others are passed on
as they are. -/
theorem fill_of_getD {es es' : Entries} (h : ∀ name ∈ ownNames, es.getD name = es'.getD name)
    (reach : Reach) (s : Settings) : fill reach es' s =
      (fill reach es s).map fun o => { o with providerOptions := .map (passedOn es') } := by
  have hmodel := h "model" (by decide)
  have hvalidate := h "validate" (by decide)
  have hdebounce := h "debounce_ms" (by decide)
  have hkey := h "api_key" (by decide)
  rw [map_eq_fmap]
  unfold fill
  -- The steps are the same; only the last one names the options that are passed on.
  simp only [hmodel, hvalidate, hdebounce, hkey]
  cases (es'.getD "debounce_ms").present? <;> cases (es'.getD "model").truthy <;>
    simp [passedOn]

/-- The options of a call that are given by a map, with what is passed on as it is. -/
theorem resolve_map (c : Context) (es : Entries) : (resolve c (.map es) none).1 = (do
    let o ← fill c.reach es (← c.settings.1)
    return { o with providerOptions := .map (passedOn es) }) := by
  have hentries : (Value.map es).entries = .ok es := by cases es <;> rfl
  rw [← c.reach_settings]
  unfold resolve Context.settingsOr
  rcases c.settings with ⟨_ | s, c'⟩
  · rfl
  · have hfill : fill c'.reach es s = _ := fill_of_getD (fun _ _ => rfl) c'.reach s
    rw [map_eq_fmap] at hfill
    rw [ok_bind, bind_pure_comp, ← hfill]
    dsimp only
    rw [hentries]
    rfl

/-- So maps of options that agree on those with a meaning of their own come to the same but for what
is passed on. -/
theorem resolve_of_getD {es es' : Entries} (h : ∀ name ∈ ownNames, es.getD name = es'.getD name)
    (c : Context) : (resolve c (.map es') none).1 =
      (resolve c (.map es) none).1.map fun o =>
        { o with providerOptions := .map (passedOn es') } := by
  rw [resolve_map, resolve_map]
  cases c.settings.1 with
  | error why => rfl
  | ok s =>
    rw [ok_bind, ok_bind, fill_of_getD h]
    cases fill c.reach es s <;> rfl

end Options

end PromptContract
