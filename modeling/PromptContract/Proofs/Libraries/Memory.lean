import Mathlib.Data.List.Forall2
import PromptContract.Libraries.Usual

/-!
# What evaluations leave in the store

An evaluation that changes no content only adds to the store: what was held is held behind it
(`Memory.Grows`). `Evaluation.Gives` says so of an evaluation that comes to a value, with a
statement about the value. It goes through the steps of an evaluation one by one (`Gives.bind`).
Putting values into the store is such a step (`gives_hold`), and so is going to the names of a place
and back (`gives_within`).
-/

namespace PromptContract

variable {α β : Type}

/-- What one memory holds another holds as well, and nothing has been changed in between. -/
structure Memory.Grows (before after : Memory) : Prop where
  contents : ∀ (cell : Nat) (content : Value), before.contents[cell]? = some content →
    after.contents[cell]? = some content
  changes : after.changes = before.changes

namespace Memory

/-- A memory holds what it holds. -/
theorem Grows.refl (memory : Memory) : memory.Grows memory := ⟨fun _ _ h => h, rfl⟩

/-- What is kept twice in a row is kept. -/
theorem Grows.trans {first second third : Memory} (h : first.Grows second)
    (h' : second.Grows third) : first.Grows third :=
  ⟨fun cell content hcell => h'.contents cell content (h.contents cell content hcell),
    h'.changes.trans h.changes⟩

end Memory

namespace Evaluation

/-- An evaluation comes to a value of which a statement holds, and only adds to what is held. -/
def Gives (memory : Memory) (x : Evaluation α) (holds : α → Memory → Prop) : Prop :=
  ∃ a after, x.run.run memory = (.ok a, after) ∧ memory.Grows after ∧ holds a after

variable {memory : Memory} {x : Evaluation α} {f : α → Evaluation β}
  {holds : α → Memory → Prop} {holds' : β → Memory → Prop}

/-- An evaluation goes on with what another one comes to. -/
theorem run_bind (x : Evaluation α) (f : α → Evaluation β) (memory : Memory) :
    (x >>= f).run.run memory =
      match x.run.run memory with
      | (.ok a, after) => (f a).run.run after
      | (.error why, after) => (.error why, after) := by
  rw [ExceptT.run_bind, StateT.run_bind]
  rcases x.run.run memory with ⟨_ | a, after⟩ <;> rfl

/-- What an evaluation gives can be said in weaker words. -/
theorem Gives.mono (h : Gives memory x holds) {weaker : α → Memory → Prop}
    (himp : ∀ a after, memory.Grows after → holds a after → weaker a after) :
    Gives memory x weaker := by
  obtain ⟨a, after, hrun, hgrows, hholds⟩ := h
  exact ⟨a, after, hrun, hgrows, himp a after hgrows hholds⟩

/-- A value is given as it is. -/
theorem gives_pure {a : α} (h : holds a memory) : Gives memory (pure a) holds :=
  ⟨a, memory, rfl, .refl memory, h⟩

/-- An evaluation that goes on with what another one gives. -/
theorem Gives.bind (h : Gives memory x holds)
    (hf : ∀ a after, memory.Grows after → holds a after → Gives after (f a) holds') :
    Gives memory (x >>= f) holds' := by
  obtain ⟨a, after, hrun, hgrows, hholds⟩ := h
  obtain ⟨b, last, hrun', hgrows', hholds'⟩ := hf a after hgrows hholds
  refine ⟨b, last, ?_, hgrows.trans hgrows', hholds'⟩
  rw [run_bind, hrun]
  exact hrun'

/-- Behind a check that does not stop it an evaluation goes on. -/
theorem Gives.unless {stops : Bool} (hstops : stops = false) {why : Failure}
    {next : PUnit → Evaluation α} (h : Gives memory (next ⟨⟩) holds) :
    Gives memory (if stops = true then throw why >>= next else next ⟨⟩) holds := by
  rwa [hstops, if_neg Bool.false_ne_true]

/-- What needs no memory is given. -/
theorem gives_lift {r : Except Failure α} {a : α} (hr : r = .ok a) (h : holds a memory) :
    Gives memory (liftM r) holds := by
  subst hr
  exact gives_pure h

/-- A failure is caught in what goes on behind it. -/
theorem run_tryCatch (x : Evaluation α) (other : Failure → Evaluation α) (memory : Memory) :
    (tryCatch x other).run.run memory =
      match x.run.run memory with
      | (.ok a, after) => (.ok a, after)
      | (.error why, after) => (other why).run.run after := by
  simp only [tryCatch, tryCatchThe, MonadExceptOf.tryCatch, ExceptT.tryCatch, ExceptT.run_mk]
  rw [StateT.run_bind]
  rcases hrun : x.run.run memory with ⟨_ | a, after⟩ <;>
    rw [show StateT.run x memory = _ from hrun] <;> rfl

/-- What is given without a failure is given where failures are caught. -/
theorem Gives.tryCatch (h : Gives memory x holds) (other : Failure → Evaluation α) :
    Gives memory (tryCatch x other) holds := by
  obtain ⟨a, after, hrun, hgrows, hholds⟩ := h
  refine ⟨a, after, ?_, hgrows, hholds⟩
  rw [run_tryCatch, hrun]

/-- What is given needs nothing in its place. -/
theorem Gives.recovered (h : Gives memory x holds) (other : Failure → Option α) :
    Gives memory (recovered x other) holds := by
  obtain ⟨a, after, hrun, hgrows, hholds⟩ := h
  refine ⟨a, after, ?_, hgrows, hholds⟩
  unfold Evaluation.recovered
  rw [ExceptT.run_mk, StateT.run_bind, hrun]
  rfl

/-- What is made of a value that is given. -/
theorem Gives.map (h : Gives memory x holds) (g : α → β)
    (himp : ∀ a after, holds a after → holds' (g a) after) : Gives memory (g <$> x) holds' := by
  rw [map_eq_pure_bind]
  exact h.bind fun a after _ hholds => gives_pure (himp a after hholds)

/-- A value that is given as it is, is that one. -/
theorem gives_self (memory : Memory) (a : α) : Gives memory (pure a) fun b _ => b = a :=
  gives_pure rfl

/-- What is remembered is given. -/
theorem gives_get (memory : Memory) : Gives memory get fun found _ => found = memory :=
  ⟨memory, memory, rfl, .refl memory, rfl⟩

/-- What is remembered may change beside the store. -/
theorem gives_modifyGet {change : Memory → α × Memory} (hgrows : memory.Grows (change memory).2) :
    Gives memory (modifyGet change) fun _ _ => True :=
  ⟨(change memory).1, (change memory).2, rfl, hgrows, trivial⟩

/-! ## Contents -/

/-- A new content is held, and is found where it was put. -/
theorem gives_allocate (memory : Memory) (content : Value) :
    Gives memory (allocate content) fun v after =>
      ∃ cell : Nat, v = .object (.held cell) ∧ after.contents[cell]? = some content := by
  refine ⟨.object (.held memory.contents.size),
    { memory with contents := memory.contents.push content }, rfl, ⟨fun cell kept hcell => ?_, rfl⟩,
    memory.contents.size, rfl, ?_⟩
  · obtain ⟨hlt, heq⟩ := Array.getElem?_eq_some_iff.mp hcell
    show (memory.contents.push content)[cell]? = some kept
    rw [Array.getElem?_eq_some_iff]
    exact ⟨by rw [Array.size_push]; omega, by rw [Array.getElem_push_lt hlt, heq]⟩
  · simp

/-- A value that is no number is told from others without a change in the store. -/
theorem gives_marked (memory : Memory) :
    Gives memory marked fun v _ => ∃ mark : Nat, v = .object (.nan mark) :=
  ⟨.object (.nan memory.marks), { memory with marks := memory.marks + 1 }, rfl,
    ⟨fun _ _ h => h, rfl⟩, memory.marks, rfl⟩

mutual

/-- Whatever is put into the store, nothing in it changes. -/
theorem gives_hold (v : Value) (memory : Memory) : Gives memory (hold v) fun _ _ => True := by
  cases v with
  | list vs =>
    exact (gives_holdAll vs memory).bind fun held after _ _ =>
      (gives_allocate after _).mono fun _ _ _ _ => trivial
  | tuple vs => exact (gives_holdAll vs memory).bind fun _ _ _ _ => gives_pure trivial
  | map es =>
    exact (gives_holdEntries es memory).bind fun held after _ _ =>
      (gives_allocate after _).mono fun _ _ _ _ => trivial
  | float x =>
    cases x with
    | nan => exact (gives_marked memory).mono fun _ _ _ _ => trivial
    | _ => exact gives_pure trivial
  | object o => exact gives_holdObject o memory
  | _ => exact gives_pure trivial
termination_by structural v

/-- The same for an object of expressions. -/
theorem gives_holdObject (o : ObjectOf Value) (memory : Memory) :
    Gives memory (holdObject o) fun _ _ => True := by
  cases o with
  | set isFrozen items places =>
    refine (gives_holdAll items memory).bind fun held after _ _ => ?_
    cases isFrozen
    · exact (gives_allocate after _).mono fun _ _ _ _ => trivial
    · exact gives_pure trivial
  | byteArray bs => exact (gives_allocate memory _).mono fun _ _ _ _ => trivial
  | stream s => exact (gives_allocate memory _).mono fun _ _ _ _ => trivial
  | view part map => exact (gives_hold map memory).bind fun _ _ _ _ => gives_pure trivial
  | made kind parts => exact (gives_holdParts parts memory).bind fun _ _ _ _ => gives_pure trivial
  | _ => exact gives_pure trivial
termination_by structural o

/-- The same for the values of a row. -/
theorem gives_holdAll (vs : List Value) (memory : Memory) :
    Gives memory (holdAll vs) fun _ _ => True := by
  cases vs with
  | nil => exact gives_pure trivial
  | cons v vs =>
    exact (gives_hold v memory).bind fun _ after _ _ =>
      (gives_holdAll vs after).bind fun _ _ _ _ => gives_pure trivial
termination_by structural vs

/-- The same for the parts of an object. -/
theorem gives_holdParts (ps : List (String × Value)) (memory : Memory) :
    Gives memory (holdParts ps) fun _ _ => True := by
  cases ps with
  | nil => exact gives_pure trivial
  | cons p ps =>
    obtain ⟨s, v⟩ := p
    exact (gives_hold v memory).bind fun _ after _ _ =>
      (gives_holdParts ps after).bind fun _ _ _ _ => gives_pure trivial
termination_by structural ps

/-- The same for the entries of a map. -/
theorem gives_holdEntries (es : List (Value × Value)) (memory : Memory) :
    Gives memory (holdEntries es) fun _ _ => True := by
  cases es with
  | nil => exact gives_pure trivial
  | cons e es =>
    obtain ⟨k, v⟩ := e
    exact (gives_hold k memory).bind fun _ after _ _ =>
      (gives_hold v after).bind fun _ after _ _ =>
        (gives_holdEntries es after).bind fun _ _ _ _ => gives_pure trivial
termination_by structural es

end

/-! ## Rows and places -/

/-- Steps on the items of a row, which are known to belong to another row, give a row that belongs
to it as well. -/
theorem gives_mapM {γ : Type} {given : γ → α → Prop} {related : γ → β → Prop} {cs : List γ}
    {as : List α} (h : List.Forall₂ given cs as) {step : α → Evaluation β}
    (hstep : ∀ c a, given c a → ∀ after, Gives after (step a) fun b _ => related c b)
    (memory : Memory) : Gives memory (as.mapM step) fun bs _ => List.Forall₂ related cs bs := by
  induction h generalizing memory with
  | nil => exact gives_pure .nil
  | @cons c a cs as hgiven _ ih =>
    rw [List.mapM_cons]
    refine (hstep c a hgiven memory).bind fun b after _ hb => ?_
    refine (ih after).bind fun bs _ _ hbs => ?_
    exact gives_pure (.cons hb hbs)

/-- Putting what names stand for into the store changes nothing in it. -/
theorem gives_heldNames (names : List (String × Value)) (memory : Memory) :
    Gives memory (Reference.heldNames names) fun _ _ => True := by
  have hnames : List.Forall₂ (fun _ _ => True) names names :=
    List.forall₂_same.mpr fun _ _ => trivial
  have hheld : Gives memory (Reference.heldNames names) fun held _ =>
      List.Forall₂ (fun _ _ => True) names held :=
    gives_mapM hnames (fun _ (_, v) _ after =>
      (gives_hold v after).bind fun _ _ _ _ => gives_pure trivial) memory
  exact hheld.mono fun _ _ _ _ => trivial

/-- A memory with other names holds the same. -/
theorem grows_names (memory : Memory) (globals locals : List (String × Value)) (takesNames : Bool) :
    memory.Grows { memory with globals, locals, takesNames } := ⟨fun _ _ h => h, rfl⟩

/-- What comes out among the names of a place. -/
theorem gives_within {globals locals : List (String × Value)} {takesNames : Bool} {holds : α → Prop}
    (h : ∀ after, memory.Grows after → Gives after x fun a _ => holds a) :
    Gives memory (Reference.within globals locals takesNames x) fun a _ => holds a := by
  unfold Reference.within
  refine (gives_modifyGet (.refl _)).bind fun outer _ h₁ _ => ?_
  refine (gives_heldNames globals _).bind fun _ _ h₂ _ => ?_
  refine (gives_heldNames locals _).bind fun _ _ h₃ _ => ?_
  refine (gives_modifyGet (grows_names _ _ _ _)).bind fun _ _ h₄ _ => ?_
  refine ((h _ (((h₁.trans h₂).trans h₃).trans h₄)).tryCatch _).bind fun a _ _ ha => ?_
  exact (gives_modifyGet (grows_names _ _ _ _)).bind fun _ _ _ _ => gives_pure ha

/-! ## What comes out -/

/-- What is given where nothing has been evaluated before comes out. -/
theorem Gives.outcome_eq (h : Gives Reference.blank x holds) :
    ∃ a after, outcome x = .ok a ∧ Reference.blank.Grows after ∧ holds a after := by
  obtain ⟨a, after, hrun, hgrows, hholds⟩ := h
  exact ⟨a, after, congrArg Prod.fst hrun, hgrows, hholds⟩

end Evaluation

end PromptContract
