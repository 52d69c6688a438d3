import Mathlib.Logic.Relation

namespace Transition

variable {S A : Type} {step : S → A → Option S} {allowed allowed' : S → A → Prop} {s s' : S}

def Moves (step : S → A → Option S) (allowed : S → A → Prop) (s s' : S) : Prop :=
  ∃ a, allowed s a ∧ step s a = some s'

abbrev Reaches (step : S → A → Option S) (allowed : S → A → Prop) : S → S → Prop :=
  Relation.ReflTransGen (Moves step allowed)

def Stuck (step : S → A → Option S) (internal : A → Prop) (s : S) : Prop :=
  ∀ a, internal a → step s a = none

theorem Reaches.invariant {P : S → Prop} (h : Reaches step allowed s s') (hs : P s)
    (hstep : ∀ s a s', P s → allowed s a → step s a = some s' → P s') : P s' := by
  induction h with
  | refl => exact hs
  | tail _ hmove ih =>
    obtain ⟨a,ha,he⟩ := hmove
    exact hstep _ a _ ih ha he

theorem Reaches.weaken (h : Reaches step allowed s s')
    (himp : ∀ s a, allowed s a → allowed' s a) : Reaches step allowed' s s' :=
  Relation.ReflTransGen.mono (fun s _ ⟨a,ha,he⟩ => ⟨a,himp s a ha,he⟩) s s' h

def exec (step : S → A → Option S) (ok : S → A → Bool) : List A → S → Option S
  | [], s => some s
  | a :: as, s => if ok s a then (step s a).bind (exec step ok as) else none

theorem reaches_of_exec (as : List A) {ok : S → A → Bool}
    (hok : ∀ s a, ok s a = true → allowed s a) (h : exec step ok as s = some s') :
    Reaches step allowed s s' := by
  induction as generalizing s with
  | nil =>
    obtain rfl := Option.some.inj h
    exact .refl
  | cons a as ih =>
    rw [exec] at h
    split at h
    · rename_i ha
      obtain ⟨s₁,hs₁,hrest⟩ := Option.bind_eq_some_iff.mp h
      exact .head ⟨a,hok s a ha,hs₁⟩ (ih hrest)
    · cases h

end Transition
