import Mathlib.Algebra.GroupWithZero.Nat
import Mathlib.Data.List.Basic

namespace Checks

variable {α ε : Type} {check : α → Except ε Bool} {l : List α} {a : α}

theorem bind_ok {β γ : Type} {x : Except ε β} {f : β → Except ε γ} {c : γ}
    (h : x >>= f = .ok c) : ∃ b, x = .ok b ∧ f b = .ok c := by
  cases x with
  | error e => cases h
  | ok b => exact ⟨b,rfl,h⟩

theorem allM_cons : (a :: l).allM check = (match check a with
    | .ok true => l.allM check
    | .ok false => .ok false
    | .error e => .error e) := by
  rw [List.allM]
  cases check a with
  | error e => rfl
  | ok b => cases b <;> rfl

theorem allM_cons_true (h : check a = .ok true) : (a :: l).allM check = l.allM check := by
  rw [allM_cons,h]

theorem allM_cons_false (h : check a = .ok false) : (a :: l).allM check = .ok false := by
  rw [allM_cons,h]

theorem allM_cons_error {e : ε} (h : check a = .error e) : (a :: l).allM check = .error e := by
  rw [allM_cons,h]

theorem allM_eq_true_iff : l.allM check = .ok true ↔ ∀ a ∈ l, check a = .ok true := by
  induction l with
  | nil => exact iff_of_true rfl (List.forall_mem_nil _)
  | cons a l ih =>
    rw [allM_cons,List.forall_mem_cons,← ih]
    cases check a with
    | error e => simp
    | ok b => cases b <;> simp

theorem raises_of_cons {e : ε} (h : check a = .error e) :
    ¬ ∀ pre x post, a :: l = pre ++ x :: post → (∃ e, check x = .error e) →
      ∃ y ∈ pre, check y = .ok false := by
  intro hall
  obtain ⟨y,hy,-⟩ := hall [] a l rfl ⟨e,h⟩
  cases hy

theorem settled_cons (h : check a = .ok true) :
    (∀ pre x post, a :: l = pre ++ x :: post → (∃ e, check x = .error e) →
      ∃ y ∈ pre, check y = .ok false) ↔
    ∀ pre x post, l = pre ++ x :: post → (∃ e, check x = .error e) →
      ∃ y ∈ pre, check y = .ok false := by
  constructor
  · rintro hall pre x post rfl hx
    obtain ⟨y,hy,hf⟩ := hall (a :: pre) x post rfl hx
    rcases List.mem_cons.mp hy with rfl | hy
    · rw [h] at hf
      cases hf
    · exact ⟨y,hy,hf⟩
  · intro hall pre x post he hx
    cases pre with
    | nil =>
      obtain ⟨rfl,-⟩ := List.cons.inj he
      obtain ⟨e,hx⟩ := hx
      rw [h] at hx
      cases hx
    | cons z pre =>
      obtain ⟨rfl,rfl⟩ := List.cons.inj he
      obtain ⟨y,hy,hf⟩ := hall pre x post rfl hx
      exact ⟨y,List.mem_cons_of_mem _ hy,hf⟩

theorem allM_returns_iff : (∃ b, l.allM check = .ok b) ↔
    ∀ pre x post, l = pre ++ x :: post → (∃ e, check x = .error e) →
      ∃ y ∈ pre, check y = .ok false := by
  induction l with
  | nil =>
    refine iff_of_true ⟨true,rfl⟩ ?_
    intro pre x post h
    cases pre <;> cases h
  | cons a l ih =>
    cases hc : check a with
    | error e =>
      refine iff_of_false ?_ (raises_of_cons hc)
      rintro ⟨b,h⟩
      rw [allM_cons_error hc] at h
      cases h
    | ok b =>
      cases b with
      | true =>
        rw [allM_cons_true hc,settled_cons hc]
        exact ih
      | false =>
        rw [allM_cons_false hc]
        refine iff_of_true ⟨false,rfl⟩ ?_
        intro pre x post he hx
        cases pre with
        | nil =>
          obtain ⟨rfl,-⟩ := List.cons.inj he
          obtain ⟨e,hx⟩ := hx
          rw [hc] at hx
          cases hx
        | cons z pre =>
          obtain ⟨rfl,-⟩ := List.cons.inj he
          exact ⟨a,List.mem_cons_self,hc⟩

theorem mapM_ok {β : Type} {f : α → Except ε β} {g : α → β} (h : ∀ a ∈ l, f a = .ok (g a)) :
    l.mapM f = .ok (l.map g) := by
  induction l with
  | nil => rfl
  | cons a l ih =>
    rw [List.mapM_cons,h a List.mem_cons_self,ih (fun b hb => h b (List.mem_cons_of_mem _ hb))]
    rfl

theorem mapM_cons_ok_iff {β : Type} {f : α → Except ε β} {bs : List β} :
    (a :: l).mapM f = .ok bs ↔ ∃ b bs', bs = b :: bs' ∧ f a = .ok b ∧ l.mapM f = .ok bs' := by
  rw [List.mapM_cons]
  cases f a with
  | error e => simp [bind,Except.bind]
  | ok b =>
    cases l.mapM f with
    | error e => simp [bind,Except.bind]
    | ok bs' => simp [bind,Except.bind,pure,Except.pure,eq_comm]

theorem exists_mapM_iff {β : Type} {f : α → Except ε β} {Q : α → β → Prop} :
    (∃ bs, l.mapM f = .ok bs ∧ List.Forall₂ Q l bs) ↔ ∀ a ∈ l, ∃ b, f a = .ok b ∧ Q a b := by
  induction l with
  | nil => exact iff_of_true ⟨[],rfl,.nil⟩ (List.forall_mem_nil _)
  | cons a l ih =>
    rw [List.forall_mem_cons,← ih]
    constructor
    · rintro ⟨bs,hbs,hq⟩
      obtain ⟨b,bs',rfl,hb,hl⟩ := mapM_cons_ok_iff.mp hbs
      obtain ⟨hqa,hql⟩ := List.forall₂_cons.mp hq
      exact ⟨⟨b,hb,hqa⟩,bs',hl,hql⟩
    · rintro ⟨⟨b,hb,hqa⟩,bs,hl,hql⟩
      exact ⟨b :: bs,mapM_cons_ok_iff.mpr ⟨b,bs,rfl,hb,hl⟩,.cons hqa hql⟩

theorem mapM_all_iff {β : Type} {f : α → Except ε β} :
    (∃ bs, l.mapM f = .ok bs) ↔ ∀ a ∈ l, ∃ b, f a = .ok b := by
  induction l with
  | nil => exact iff_of_true ⟨[],rfl⟩ (List.forall_mem_nil _)
  | cons a l ih =>
    rw [List.forall_mem_cons,← ih]
    constructor
    · rintro ⟨bs,hbs⟩
      obtain ⟨b,bs',-,hb,hl⟩ := mapM_cons_ok_iff.mp hbs
      exact ⟨⟨b,hb⟩,bs',hl⟩
    · rintro ⟨⟨b,hb⟩,bs,hl⟩
      exact ⟨b :: bs,mapM_cons_ok_iff.mpr ⟨b,bs,rfl,hb,hl⟩⟩

theorem mapM_perm {β : Type} {f : α → Except ε β} {l' : List α} {bs : List β} (h : l'.Perm l)
    (hbs : l.mapM f = .ok bs) : ∃ bs', l'.mapM f = .ok bs' ∧ bs'.Perm bs := by
  induction h generalizing bs with
  | nil => exact ⟨bs,hbs,.refl bs⟩
  | cons a h ih =>
    obtain ⟨b,rest,rfl,hb,hrest⟩ := mapM_cons_ok_iff.mp hbs
    obtain ⟨rest',hrest',hperm⟩ := ih hrest
    exact ⟨b :: rest',mapM_cons_ok_iff.mpr ⟨b,rest',rfl,hb,hrest'⟩,hperm.cons b⟩
  | swap a a' l =>
    obtain ⟨b,more,rfl,hb,hmore⟩ := mapM_cons_ok_iff.mp hbs
    obtain ⟨b',rest,rfl,hb',hrest⟩ := mapM_cons_ok_iff.mp hmore
    have hswapped := mapM_cons_ok_iff.mpr ⟨b,rest,rfl,hb,hrest⟩
    exact ⟨b' :: b :: rest,mapM_cons_ok_iff.mpr ⟨b',_,rfl,hb',hswapped⟩,.swap b b' rest⟩
  | trans _ _ ih ih' =>
    obtain ⟨middle,hmiddle,hperm⟩ := ih' hbs
    obtain ⟨bs',hbs',hperm'⟩ := ih hmiddle
    exact ⟨bs',hbs',hperm'.trans hperm⟩

section Chain

variable {step : α → Except ε Unit}

theorem forM_cons : (a :: l).forM step = (step a >>= fun _ => l.forM step) := rfl

theorem forM_cons_ok {u : Unit} (h : step a = .ok u) : (a :: l).forM step = l.forM step := by
  rw [forM_cons,h]
  rfl

theorem forM_cons_error {e : ε} (h : step a = .error e) : (a :: l).forM step = .error e := by
  rw [forM_cons,h]
  rfl

theorem forM_append (l' : List α) :
    (l ++ l').forM step = (l.forM step >>= fun _ => l'.forM step) := by
  induction l with
  | nil => rfl
  | cons a l ih =>
    rw [List.cons_append,forM_cons,forM_cons,ih]
    cases step a <;> rfl

theorem forM_map {β : Type} (f : β → α) (l : List β) :
    (l.map f).forM step = l.forM (fun b => step (f b)) := by
  induction l with
  | nil => rfl
  | cons b l ih => rw [List.map_cons,forM_cons,forM_cons,ih]

theorem forM_flatMap {β : Type} (f : β → List α) (l : List β) :
    (l.flatMap f).forM step = l.forM (fun b => (f b).forM step) := by
  induction l with
  | nil => rfl
  | cons b l ih => rw [List.flatMap_cons,forM_append,forM_cons,ih]

theorem forM_discard {β : Type} (f : α → Except ε β) :
    l.forM (fun a => (f a).map (fun _ => ())) = (l.mapM f).map (fun _ => ()) := by
  induction l with
  | nil => rfl
  | cons a l ih =>
    rw [forM_cons,ih,List.mapM_cons]
    cases f a with
    | error e => rfl
    | ok b => cases l.mapM f <;> rfl

theorem forM_error_iff {P : ε → Prop} : (∀ e, l.forM step = .error e → P e) ↔
    ∀ pre x post, l = pre ++ x :: post → (∃ e, step x = .error e ∧ ¬ P e) →
      ∃ y ∈ pre, ∃ e, step y = .error e ∧ P e := by
  induction l with
  | nil =>
    refine iff_of_true (fun e h => by cases h) ?_
    intro pre x post h
    cases pre <;> cases h
  | cons a l ih =>
    cases hs : step a with
    | error e =>
      rw [forM_cons_error hs]
      constructor
      · rintro h pre x post he ⟨e',hx,hP⟩
        cases pre with
        | nil =>
          obtain ⟨rfl,-⟩ := List.cons.inj he
          rw [hs] at hx
          exact absurd (h e' hx) hP
        | cons z pre =>
          obtain ⟨rfl,-⟩ := List.cons.inj he
          exact ⟨a,List.mem_cons_self,e,hs,h e rfl⟩
      · intro h e' he'
        obtain rfl := Except.error.inj he'
        by_contra hP
        obtain ⟨y,hy,-⟩ := h [] a l rfl ⟨e,hs,hP⟩
        cases hy
    | ok u =>
      rw [forM_cons_ok hs,ih]
      constructor
      · intro h pre x post he hx
        cases pre with
        | nil =>
          obtain ⟨rfl,-⟩ := List.cons.inj he
          obtain ⟨e,hx,-⟩ := hx
          rw [hs] at hx
          cases hx
        | cons z pre =>
          obtain ⟨rfl,rfl⟩ := List.cons.inj he
          obtain ⟨y,hy,hfails⟩ := h pre x post rfl hx
          exact ⟨y,List.mem_cons_of_mem _ hy,hfails⟩
      · rintro h pre x post rfl hx
        obtain ⟨y,hy,e,hfails,hP⟩ := h (a :: pre) x post rfl hx
        rcases List.mem_cons.mp hy with rfl | hy
        · rw [hs] at hfails
          cases hfails
        · exact ⟨y,hy,e,hfails,hP⟩

theorem forM_fails_iff : (∃ e, l.forM step = .error e) ↔ ∃ a ∈ l, ∃ e, step a = .error e := by
  induction l with
  | nil =>
    refine iff_of_false ?_ ?_
    · rintro ⟨e,h⟩
      cases h
    · rintro ⟨a,h,-⟩
      cases h
  | cons a l ih =>
    rw [List.exists_mem_cons_iff,← ih]
    cases hs : step a with
    | error e =>
      rw [forM_cons_error hs]
      exact iff_of_true ⟨e,rfl⟩ (.inl ⟨e,rfl⟩)
    | ok u =>
      rw [forM_cons_ok hs]
      exact ⟨.inr,fun h => h.resolve_left fun ⟨e,h⟩ => by cases h⟩

theorem forM_congr {step' : α → Except ε Unit} (h : ∀ a ∈ l, step a = step' a) :
    l.forM step = l.forM step' := by
  induction l with
  | nil => rfl
  | cons a l ih =>
    rw [forM_cons,forM_cons,h a List.mem_cons_self]
    congr 1
    exact funext fun _ => ih fun b hb => h b (List.mem_cons_of_mem _ hb)

theorem forM_ok_iff : l.forM step = .ok () ↔ ∀ a ∈ l, step a = .ok () := by
  induction l with
  | nil => exact iff_of_true rfl (List.forall_mem_nil _)
  | cons a l ih =>
    rw [List.forall_mem_cons,← ih]
    cases hs : step a with
    | error e =>
      rw [forM_cons_error hs]
      refine iff_of_false ?_ ?_
      · intro h
        cases h
      · rintro ⟨h,-⟩
        cases h
    | ok u => rw [forM_cons_ok hs,and_iff_right rfl]

theorem forM_first_iff {e : ε} : l.forM step = .error e ↔
    ∃ pre a post, l = pre ++ a :: post ∧ (∀ x ∈ pre, step x = .ok ()) ∧ step a = .error e := by
  constructor
  · induction l with
    | nil =>
      intro h
      cases h
    | cons a l ih =>
      intro h
      cases hs : step a with
      | error e' =>
        rw [forM_cons_error hs] at h
        exact ⟨[],a,l,rfl,List.forall_mem_nil _,hs.trans h⟩
      | ok u =>
        rw [forM_cons_ok hs] at h
        obtain ⟨pre,b,post,rfl,hpre,hb⟩ := ih h
        exact ⟨a :: pre,b,post,rfl,List.forall_mem_cons.mpr ⟨hs,hpre⟩,hb⟩
  · rintro ⟨pre,a,post,rfl,hpre,ha⟩
    rw [forM_append,forM_ok_iff.mpr hpre]
    exact forM_cons_error ha

def demand (refusal : ε) : Except ε Bool → Except ε Unit
  | .ok true => .ok ()
  | .ok false => .error refusal
  | .error e => .error e

theorem demand_allM (refusal : ε) :
    demand refusal (l.allM check) = l.forM (fun a => demand refusal (check a)) := by
  induction l with
  | nil => rfl
  | cons a l ih =>
    rw [allM_cons,forM_cons,← ih]
    cases check a with
    | error e => rfl
    | ok b => cases b <;> rfl

end Chain

section Fold

variable {β : Type} {f : β → α → Except ε β} {b b' : β}

theorem foldlM_cons_error {e : ε} (h : f b a = .error e) : (a :: l).foldlM f b = .error e := by
  rw [List.foldlM_cons,h]
  rfl

theorem foldlM_cons_ok (h : f b a = .ok b') : (a :: l).foldlM f b = l.foldlM f b' := by
  rw [List.foldlM_cons,h]
  rfl

theorem foldlM_sum (size : β → Nat) {cost : α → Nat}
    (hstep : ∀ b a b', f b a = .ok b' → size b' = size b + cost a)
    (h : l.foldlM f b = .ok b') : size b' = size b + (l.map cost).sum := by
  induction l generalizing b with
  | nil =>
    obtain rfl := Except.ok.inj h
    rfl
  | cons a l ih =>
    cases hs : f b a with
    | error e =>
      rw [foldlM_cons_error hs] at h
      cases h
    | ok b₁ =>
      rw [foldlM_cons_ok hs] at h
      rw [ih h,hstep b a b₁ hs,List.map_cons,List.sum_cons,Nat.add_assoc]

theorem foldlM_invariant {P : β → Prop} (hstep : ∀ b a b', P b → f b a = .ok b' → P b')
    (hb : P b) (h : l.foldlM f b = .ok b') : P b' := by
  induction l generalizing b with
  | nil => exact Except.ok.inj h ▸ hb
  | cons a l ih =>
    cases hs : f b a with
    | error e =>
      rw [foldlM_cons_error hs] at h
      cases h
    | ok b₁ =>
      rw [foldlM_cons_ok hs] at h
      exact ih (hstep b a b₁ hb hs) h

theorem foldlM_map {γ ε' : Type} {g : γ → α → Except ε' γ} {φ : β → γ} {ψ : ε → ε'}
    (h : ∀ b a, g (φ b) a = ((f b a).map φ).mapError ψ) (l : List α) (b : β) :
    l.foldlM g (φ b) = ((l.foldlM f b).map φ).mapError ψ := by
  induction l generalizing b with
  | nil => rfl
  | cons a l ih =>
    rw [List.foldlM_cons,List.foldlM_cons,h]
    cases f b a with
    | error e => rfl
    | ok b' => exact ih b'

theorem foldlM_fails_iff {bad : α → Prop} (hstep : ∀ b a, (∃ e, f b a = .error e) ↔ bad a)
    (b : β) : (∃ e, l.foldlM f b = .error e) ↔ ∃ a ∈ l, bad a := by
  induction l generalizing b with
  | nil =>
    refine iff_of_false ?_ ?_
    · rintro ⟨e,h⟩
      cases h
    · rintro ⟨a,h,-⟩
      cases h
  | cons a l ih =>
    rw [List.exists_mem_cons_iff,← hstep b a]
    cases hs : f b a with
    | error e =>
      rw [foldlM_cons_error hs]
      exact iff_of_true ⟨e,rfl⟩ (.inl ⟨e,rfl⟩)
    | ok b₁ =>
      rw [foldlM_cons_ok hs,ih]
      exact ⟨.inr,fun h => h.resolve_left fun ⟨e,h⟩ => by cases h⟩

end Fold

end Checks
