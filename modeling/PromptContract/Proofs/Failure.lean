import Mathlib.Data.List.Forall2
import PromptContract.Failure

/-!
# Steps that may fail

What is known of the steps of an operation that has come through, or that has failed. A row of steps
comes through if each of them does (`mapM_eq_ok_iff`). An operation whose steps do not reject a map
does not reject one itself (`Unrejected.bind`).
-/

namespace PromptContract

variable {α β : Type} {x : Except Failure α} {f : α → Except Failure β}

/-- An operation goes on after a step that has come through. -/
@[simp] theorem ok_bind (a : α) (f : α → Except Failure β) : Except.ok a >>= f = f a := rfl

/-- It stops at a step that has failed. -/
@[simp] theorem error_bind (why : Failure) (f : α → Except Failure β) :
    Except.error why >>= f = .error why := rfl

/-- What is made of a result, by its two names. -/
theorem map_eq_fmap (g : α → β) (x : Except Failure α) : x.map g = g <$> x := rfl

/-- An operation that goes on after a step has come through if both have. -/
theorem exists_of_bind_eq_ok {b : β} (h : x >>= f = .ok b) : ∃ a, x = .ok a ∧ f a = .ok b := by
  cases x with
  | error why => cases h
  | ok a => exact ⟨a, rfl, h⟩

/-- It has failed if the step has, or what comes after it. -/
theorem error_of_bind_eq_error {why : Failure} (h : x >>= f = .error why) :
    x = .error why ∨ ∃ a, x = .ok a ∧ f a = .error why := by
  cases x with
  | error why' => exact .inl (congrArg _ (Except.error.inj h))
  | ok a => exact .inr ⟨a, rfl, h⟩

/-- What is made of a result that came through is made of that. -/
theorem exists_of_map_eq_ok {g : α → β} {b : β} (h : x.map g = .ok b) :
    ∃ a, x = .ok a ∧ g a = b := by
  cases x with
  | error why => cases h
  | ok a => exact ⟨a, rfl, Except.ok.inj h⟩

/-- What is made of results leaves failures as they are. -/
theorem map_eq_error_iff {g : α → β} {why : Failure} :
    x.map g = .error why ↔ x = .error why := by
  cases x with
  | error why' =>
    exact ⟨fun h => congrArg _ (Except.error.inj h), fun h => congrArg _ (Except.error.inj h)⟩
  | ok a => exact ⟨nofun, nofun⟩

/-! ## Rows of steps -/

/-- A row of steps succeeds when each of them does. -/
theorem mapM_eq_ok_iff (step : α → Except Failure β) (as : List α) (bs : List β) :
    as.mapM step = .ok bs ↔ List.Forall₂ (fun a b => step a = .ok b) as bs := by
  induction as generalizing bs with
  | nil =>
    rw [List.mapM_nil, List.forall₂_nil_left_iff]
    exact ⟨fun h => (Except.ok.inj h).symm, fun h => congrArg _ h.symm⟩
  | cons a as ih =>
    rw [List.mapM_cons]
    constructor
    · intro h
      obtain ⟨b, hb, h⟩ := exists_of_bind_eq_ok h
      obtain ⟨bs', hbs, h⟩ := exists_of_bind_eq_ok h
      obtain rfl := Except.ok.inj h
      exact .cons hb ((ih bs').mp hbs)
    · intro h
      cases h with
      | cons hb hbs =>
        rw [hb, ok_bind, (ih _).mpr hbs]
        rfl

/-- Steps whose results are changed in one way have their rows changed so. -/
theorem mapM_map_right {step step' : α → Except Failure β} {g : β → β}
    (h : ∀ a, step' a = (step a).map g) (as : List α) :
    as.mapM step' = (as.mapM step).map (·.map g) := by
  induction as with
  | nil => rfl
  | cons a as ih =>
    rw [List.mapM_cons, List.mapM_cons, h a, ih]
    cases step a with
    | error e => rfl
    | ok b => cases as.mapM step <;> rfl

/-- A row of steps of which each succeeds does so as a whole. -/
theorem exists_mapM_eq_ok {step : α → Except Failure β} {as : List α}
    (h : ∀ a ∈ as, ∃ b, step a = .ok b) : ∃ bs, as.mapM step = .ok bs := by
  induction as with
  | nil => exact ⟨[], rfl⟩
  | cons a as ih =>
    obtain ⟨b, hb⟩ := h a List.mem_cons_self
    obtain ⟨bs, hbs⟩ := ih fun a' ha' => h a' (List.mem_cons_of_mem _ ha')
    exact ⟨b :: bs, (mapM_eq_ok_iff _ _ _).mpr (.cons hb ((mapM_eq_ok_iff _ _ _).mp hbs))⟩

/-! ## Operations that reject nothing -/

/-- An operation that may fail, but not by rejecting a map. -/
def Unrejected (x : Except Failure α) : Prop := ∀ r, x ≠ .error (.rejected r)

namespace Unrejected

/-- What comes through rejects nothing. -/
@[simp] theorem ok (a : α) : Unrejected (.ok a) := nofun

/-- Nor does what is given back. -/
@[simp] theorem pure (a : α) : Unrejected (Pure.pure a : Except Failure α) := nofun

/-- A failure rejects nothing if it is none of that kind. -/
@[simp] theorem error_iff (why : Failure) :
    Unrejected (.error why : Except Failure α) ↔ ∀ r, why ≠ .rejected r :=
  forall_congr' fun _ => not_congr ⟨Except.error.inj, congrArg _⟩

/-- An operation that has failed for another reason rejects nothing. -/
theorem error {why : Failure} (h : ∀ r, why ≠ .rejected r) :
    Unrejected (.error why : Except Failure α) := (error_iff why).mpr h

/-- A choice of two operations rejects nothing if neither does. -/
theorem ite {p : Prop} [Decidable p] {y : Except Failure α} (hx : Unrejected x)
    (hy : Unrejected y) : Unrejected (if p then x else y) := by
  split
  · exact hx
  · exact hy

/-- An operation rejects nothing if its steps do not. -/
theorem bind (hx : Unrejected x) (hf : ∀ a, Unrejected (f a)) : Unrejected (x >>= f) := by
  intro r h
  rcases error_of_bind_eq_error h with h | ⟨a, -, h⟩
  · exact hx r h
  · exact hf a r h

/-- What is made of a result rejects nothing if the operation does not. -/
theorem map (hx : Unrejected x) (g : α → β) : Unrejected (x.map g) := by
  cases x with
  | error why => exact .error ((error_iff why).mp hx)
  | ok a => exact .ok _

/-- An operation on each item of a row rejects nothing if it rejects no item. -/
theorem mapM (hf : ∀ a, Unrejected (f a)) (as : List α) : Unrejected (as.mapM f) := by
  induction as with
  | nil => exact .pure []
  | cons a as ih =>
    rw [List.mapM_cons]
    exact (hf a).bind fun b => ih.bind fun bs => .pure _

/-- So does an operation that takes the items of a row one after the other. -/
theorem foldlM {g : β → α → Except Failure β} (hg : ∀ b a, Unrejected (g b a)) (b : β)
    (as : List α) : Unrejected (as.foldlM g b) := by
  induction as generalizing b with
  | nil => exact .pure b
  | cons a as ih =>
    rw [List.foldlM_cons]
    exact (hg b a).bind ih

end Unrejected

end PromptContract
