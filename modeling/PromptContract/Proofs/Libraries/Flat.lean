import PromptContract.Proofs.Libraries.Memory
import PromptContract.Proofs.Schema.Rules

/-!
# Flat maps in the store

In the store texts, numbers and truth values are what they are outside (`Held`), but for the value
that is no number, which gets a mark there, and what looks at a value sees it without
(`gives_seen`). So a flat map that is put into the store can be looked up (`HeldEntries.get?`).
-/

namespace PromptContract

open Evaluation Schema

variable {memory : Memory}

/-- What a text, a number or a truth value is in the store. -/
inductive Held : Value → Value → Prop
  | same {v : Value} (hscalar : isScalar v = true) (hnumber : v ≠ .float .nan) : Held v v
  | marked (mark : Nat) : Held (.float .nan) (.object (.nan mark))

namespace Held

variable {v w : Value}

/-- A text is in the store what it is outside. -/
theorem text (s : String) : Held (.text s) (.text s) := .same rfl nofun

/-- Such a value is put into the store. -/
theorem gives_hold (hscalar : isScalar v = true) (memory : Memory) :
    Gives memory (hold v) fun w _ => Held v w := by
  cases v with
  | float x =>
    cases x with
    | nan =>
      refine (gives_marked memory).mono fun w _ _ hw => ?_
      obtain ⟨mark, rfl⟩ := hw
      exact .marked mark
    | infinite negative => exact gives_pure (.same rfl (by simp))
    | finite negative units => exact gives_pure (.same rfl (by simp))
  | bool b | int n | text s => exact gives_pure (.same rfl (by simp))
  | _ => cases hscalar

/-- What is looked at is seen as it is outside. -/
theorem gives_seen (h : Held v w) (memory : Memory) :
    Gives memory (TypeCheck.Demand.seen w) fun u _ => u = v := by
  unfold TypeCheck.Demand.seen
  cases h with
  | same hscalar hnumber =>
    cases v with
    | bool b | int n | float x | text s =>
      exact (gives_self memory _).bind fun u after _ hu => by
        subst hu
        exact gives_pure rfl
    | _ => cases hscalar
  | marked mark =>
    exact (gives_self memory _).bind fun u after _ hu => by
      subst hu
      exact gives_pure rfl

/-- Inside the store it is what it is. -/
theorem settledIn_eq (h : Held v w) (memory : Memory) (capturing depth : Nat)
    (within : List Nat) : memory.settledIn false capturing (depth + 1) within w = .ok w := by
  cases h with
  | same hscalar hnumber =>
    cases v with
    | bool b | int n | float x | text s => simp [Memory.settledIn]
    | _ => cases hscalar
  | marked mark => simp [Memory.settledIn]

end Held

/-! ## Flat maps -/

/-- What the entries of a flat map are in the store. -/
def HeldEntries (es ws : Entries) : Prop :=
  List.Forall₂ (fun e w => (∃ s, e.1 = .text s) ∧ w.1 = e.1 ∧ Held e.2 w.2) es ws

namespace HeldEntries

variable {es ws : Entries}

/-- The entries of a flat map are put into the store. -/
theorem gives_hold (hflat : IsFlat es) (memory : Memory) :
    Gives memory (holdEntries es) fun ws _ => HeldEntries es ws := by
  induction es generalizing memory with
  | nil => exact gives_pure .nil
  | cons e es ih =>
    obtain ⟨⟨s, hkey⟩, hvalue⟩ := hflat e List.mem_cons_self
    obtain ⟨k, v⟩ := e
    obtain rfl : k = .text s := hkey
    refine (gives_self memory (Value.text s)).bind fun k after _ hk => ?_
    subst hk
    refine (Held.gives_hold hvalue after).bind fun w after _ hw => ?_
    refine (ih (fun e he => hflat e (List.mem_cons_of_mem _ he)) after).bind fun ws _ _ hws => ?_
    exact gives_pure (.cons ⟨⟨s, rfl⟩, rfl, hw⟩ hws)

/-- The values of a key come from one another. -/
theorem get? (h : HeldEntries es ws) (name : String) :
    Option.Rel Held (es.get? name) (ws.get? name) := by
  induction h with
  | nil => exact .none
  | @cons e w es ws hw _ ih =>
    obtain ⟨hkey, heq, hheld⟩ := hw
    unfold Entries.get? at ih ⊢
    rw [List.find?_cons, List.find?_cons, heq]
    cases e.1.isText name
    · exact ih
    · exact .some hheld

/-- Inside the store they are what they are. -/
theorem settledIn_eq (h : HeldEntries es ws) (memory : Memory) (capturing depth : Nat)
    (within : List Nat) :
    memory.settledIn false capturing (depth + 2) within (.map ws) = .ok (.map ws) := by
  simp only [Memory.settledIn]
  have hall : (ws.mapM fun e => do
      return (← memory.settledIn false capturing (depth + 1) within e.1,
        ← memory.settledIn false capturing (depth + 1) within e.2)) =
      (.ok ws : Except Failure Entries) := by
    induction h with
    | nil => rfl
    | @cons e w es ws hw _ ih =>
      obtain ⟨⟨s, hkey⟩, heq, hheld⟩ := hw
      obtain ⟨k, v⟩ := w
      obtain rfl : k = .text s := heq.trans hkey
      rw [List.mapM_cons, ih]
      simp only [(Held.text s).settledIn_eq, hheld.settledIn_eq]
      rfl
  rw [hall]
  rfl

end HeldEntries

/-! ## Flat maps in the store -/

/-- A map in the store comes from a flat one. -/
def HoldsMap (memory : Memory) (v : Value) (es : Entries) : Prop :=
  ∃ (cell : Nat) (ws : Entries), v = .object (.held cell) ∧
    memory.contents[cell]? = some (.map ws) ∧ HeldEntries es ws

/-- A flat map is put into the store. -/
theorem gives_hold_map {es : Entries} (hflat : IsFlat es) (memory : Memory) :
    Gives memory (hold (.map es)) fun v after => HoldsMap after v es := by
  refine (HeldEntries.gives_hold hflat memory).bind fun ws after _ hws => ?_
  refine (gives_allocate after _).mono fun v last _ hv => ?_
  obtain ⟨cell, hv, hcell⟩ := hv
  exact ⟨cell, ws, hv, hcell, hws⟩

namespace HoldsMap

variable {v : Value} {es : Entries}

/-- It stays there. -/
theorem grows {after : Memory} (h : HoldsMap memory v es) (hgrows : memory.Grows after) :
    HoldsMap after v es := by
  obtain ⟨cell, ws, hv, hcell, hws⟩ := h
  exact ⟨cell, ws, hv, hgrows.contents cell _ hcell, hws⟩

/-- It is seen as a map that comes from the flat one. -/
theorem gives_seen (h : HoldsMap memory v es) :
    Gives memory (TypeCheck.Demand.seen v) fun u _ => ∃ ws, u = .map ws ∧ HeldEntries es ws := by
  have hopened : Gives memory (opened v) fun u _ => ∃ ws, u = .map ws ∧ HeldEntries es ws := by
    obtain ⟨cell, ws, rfl, hcell, hws⟩ := h
    refine (gives_get memory).bind fun found after _ hfound => ?_
    subst hfound
    rw [hcell]
    exact gives_pure ⟨ws, rfl, hws⟩
  refine hopened.bind fun u after _ hu => ?_
  obtain ⟨ws, rfl, hws⟩ := hu
  exact gives_pure ⟨ws, rfl, hws⟩

end HoldsMap

/-- A map that comes from a flat one is seen inside as it is. -/
theorem HeldEntries.gives_settled {es ws : Entries} (h : HeldEntries es ws) (memory : Memory) :
    Gives memory (Evaluation.settled (.map ws)) fun u _ => u = .map ws := by
  refine (gives_get memory).bind fun found after _ hfound => ?_
  subst hfound
  exact gives_lift (h.settledIn_eq found capturingLimit 1998 []) rfl

end PromptContract
