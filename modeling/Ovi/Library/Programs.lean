import Mathlib.Data.List.Basic

namespace Programs

variable {ε σ α β : Type}

def wp (m : EStateM ε σ α) (Q : α → σ → Prop) (E : ε → σ → Prop) (s : σ) : Prop :=
  match m s with
  | .ok a s' => Q a s'
  | .error e s' => E e s'

variable {m : EStateM ε σ α} {f : α → EStateM ε σ β} {Q Q' : α → σ → Prop} {R : β → σ → Prop}
  {E E' : ε → σ → Prop} {s : σ}

theorem wp_pure (a : α) : wp (pure a) Q E s ↔ Q a s := Iff.rfl

theorem wp_get {Q : σ → σ → Prop} : wp (get : EStateM ε σ σ) Q E s ↔ Q s s := Iff.rfl

theorem wp_bind : wp (m >>= f) R E s ↔ wp m (fun a s => wp (f a) R E s) E s := by
  change (match EStateM.bind m f s with
    | .ok a s' => R a s'
    | .error e s' => E e s') ↔ _
  rw [EStateM.bind,wp]
  cases m s with
  | ok a s' => exact Iff.rfl
  | error e s' => exact Iff.rfl

theorem wp_mono (h : wp m Q E s) (hQ : ∀ a s', Q a s' → Q' a s') (hE : ∀ e s', E e s' → E' e s') :
    wp m Q' E' s := by
  unfold wp at h ⊢
  cases hm : m s with
  | ok a s' =>
    rw [hm] at h
    exact hQ a s' h
  | error e s' =>
    rw [hm] at h
    exact hE e s' h

-- the loop keeps `I`, which speaks of the items it is done with and what it made of them
theorem wp_mapM_from {f : α → EStateM ε σ β} {l : List α} (I : List (α × β) → σ → Prop)
    (h : ∀ done a s, a ∈ l → I done s →
      wp (f a) (fun b s' => I (done ++ [(a,b)]) s') E s) {done : List (α × β)} (hs : I done s) :
    wp (l.mapM f) (fun bs s' => bs.length = l.length ∧ I (done ++ l.zip bs) s') E s := by
  induction l generalizing done s with
  | nil =>
    rw [List.mapM_nil,wp_pure]
    exact ⟨rfl,by rwa [List.zip_nil_left,List.append_nil]⟩
  | cons a l ih =>
    rw [List.mapM_cons,wp_bind]
    refine wp_mono (h done a s List.mem_cons_self hs) (fun b s' hb => ?_) (fun _ _ he => he)
    rw [wp_bind]
    refine wp_mono (ih (fun done a' s ha => h done a' s (List.mem_cons_of_mem _ ha)) hb)
      (fun bs s'' hbs => ?_) (fun _ _ he => he)
    rw [wp_pure,List.length_cons,List.length_cons,List.zip_cons_cons]
    rw [List.append_assoc] at hbs
    exact ⟨congrArg (· + 1) hbs.1,hbs.2⟩

theorem wp_mapM {f : α → EStateM ε σ β} {l : List α} (I : List (α × β) → σ → Prop)
    (h : ∀ done a s, a ∈ l → I done s →
      wp (f a) (fun b s' => I (done ++ [(a,b)]) s') E s) (hs : I [] s) :
    wp (l.mapM f) (fun bs s' => bs.length = l.length ∧ I (l.zip bs) s') E s := wp_mapM_from I h hs

theorem wp_forM_from {f : α → EStateM ε σ PUnit} {l : List α} (I : List α → σ → Prop)
    (h : ∀ done a s, a ∈ l → I done s → wp (f a) (fun _ s' => I (done ++ [a]) s') E s)
    {done : List α} (hs : I done s) :
    wp (l.forM f) (fun _ s' => I (done ++ l) s') E s := by
  induction l generalizing done s with
  | nil =>
    rw [List.append_nil]
    exact hs
  | cons a l ih =>
    refine wp_bind.mpr (wp_mono (h done a s List.mem_cons_self hs) (fun _ s' hb => ?_)
      (fun _ _ he => he))
    refine wp_mono (ih (fun done a' s ha => h done a' s (List.mem_cons_of_mem _ ha)) hb)
      (fun _ s'' hl => ?_) (fun _ _ he => he)
    rwa [List.append_assoc] at hl

theorem wp_forM {f : α → EStateM ε σ PUnit} {l : List α} (I : List α → σ → Prop)
    (h : ∀ done a s, a ∈ l → I done s → wp (f a) (fun _ s' => I (done ++ [a]) s') E s)
    (hs : I [] s) : wp (l.forM f) (fun _ s' => I l s') E s := wp_forM_from I h hs

end Programs
