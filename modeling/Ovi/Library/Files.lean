import Mathlib.Logic.Function.Basic
import Mathlib.Data.Set.Basic

namespace Files

variable {P C : Type}

def Agree (changed : Set P) (fs fs' : P → Option C) : Prop := ∀ p, p ∉ changed → fs' p = fs p

variable {fs fs' fs'' : P → Option C} {p q : P} {changed changed' : Set P} {c : C}

theorem Agree.refl (changed : Set P) (fs : P → Option C) : Agree changed fs fs := fun _ _ => rfl

theorem Agree.trans (h : Agree changed fs fs') (h' : Agree changed fs' fs'') :
    Agree changed fs fs'' := fun p hp => (h' p hp).trans (h p hp)

theorem Agree.mono (h : Agree changed fs fs') (hsub : changed ⊆ changed') :
    Agree changed' fs fs' := fun p hp => h p fun hc => hp (hsub hc)

variable [DecidableEq P]

def remove (fs : P → Option C) (p : P) : P → Option C := Function.update fs p none

def rename (fs : P → Option C) (source target : P) : P → Option C :=
  match fs source with
  | none => fs
  | some c => Function.update (remove fs source) target (some c)

theorem remove_other (h : q ≠ p) : remove fs p q = fs q := Function.update_of_ne h _ _

theorem rename_target (h : fs p = some c) : rename fs p q q = some c := by
  rw [rename,h]
  exact Function.update_self _ _ _

theorem rename_other {r : P} (hp : r ≠ p) (hq : r ≠ q) : rename fs p q r = fs r := by
  rw [rename]
  cases fs p with
  | none => rfl
  | some c => exact (Function.update_of_ne hq _ _).trans (remove_other hp)

theorem agree_update (hp : p ∈ changed) (c : Option C) :
    Agree changed fs (Function.update fs p c) :=
  fun _ hq => Function.update_of_ne (fun h => hq (by rw [h]; exact hp)) _ _

theorem agree_remove (hp : p ∈ changed) : Agree changed fs (remove fs p) := agree_update hp none

theorem agree_rename (hp : p ∈ changed) (hq : q ∈ changed) : Agree changed fs (rename fs p q) :=
  fun _ hr => rename_other (fun h => hr (by rw [h]; exact hp)) fun h => hr (by rw [h]; exact hq)

end Files
