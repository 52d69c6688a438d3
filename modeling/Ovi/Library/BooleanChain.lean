import Mathlib.Data.List.Basic

namespace BooleanChain

variable {α β : Type}

inductive Op where
  | conj
  | disj
deriving DecidableEq, Repr

structure Chain (α : Type) where
  first : α
  rest : List (Op × α)
deriving Repr

def Op.apply : Op → Bool → Bool → Bool
  | .conj, x, y => x && y
  | .disj, x, y => x || y

def extend (alts : List (List α)) : Op × α → List (List α)
  | (.conj, a) => alts.map (· ++ [a])
  | (.disj, a) => alts ++ [[a]]

namespace Chain

def items (c : Chain α) : List α := c.first :: c.rest.map Prod.snd

def eval (v : α → Bool) (c : Chain α) : Bool :=
  c.rest.foldl (fun acc p => p.1.apply acc (v p.2)) (v c.first)

def alternatives (c : Chain α) : List (List α) := c.rest.foldl extend [[c.first]]

end Chain

theorem extend_holds (v : α → Bool) (p : Op × α) {alts : List (List α)} {b : Bool}
    (h : b = true ↔ ∃ alt ∈ alts, ∀ a ∈ alt, v a = true) :
    p.1.apply b (v p.2) = true ↔ ∃ alt ∈ extend alts p, ∀ a ∈ alt, v a = true := by
  obtain ⟨op,a⟩ := p
  cases op with
  | conj =>
    simp only [Op.apply,Bool.and_eq_true,extend,h,List.mem_map]
    constructor
    · rintro ⟨⟨alt,hm,ha⟩,hv⟩
      refine ⟨alt ++ [a],⟨alt,hm,rfl⟩,?_⟩
      simpa using fun b hb => hb.elim (ha b) (fun e => e ▸ hv)
    · rintro ⟨_,⟨alt,hm,rfl⟩,ha⟩
      exact ⟨⟨alt,hm,fun b hb => ha b (by simp [hb])⟩,ha a (by simp)⟩
  | disj =>
    simp only [Op.apply,Bool.or_eq_true,extend,h,List.mem_append,List.mem_singleton]
    constructor
    · rintro (⟨alt,hm,ha⟩ | hv)
      · exact ⟨alt,.inl hm,ha⟩
      · exact ⟨[a],.inr rfl,by simpa using hv⟩
    · rintro ⟨alt,hm | rfl,ha⟩
      · exact .inl ⟨alt,hm,ha⟩
      · exact .inr (ha a (by simp))

theorem foldl_extend_holds (v : α → Bool) (rest : List (Op × α)) {alts : List (List α)} {b : Bool}
    (h : b = true ↔ ∃ alt ∈ alts, ∀ a ∈ alt, v a = true) :
    rest.foldl (fun acc p => p.1.apply acc (v p.2)) b = true ↔
      ∃ alt ∈ rest.foldl extend alts, ∀ a ∈ alt, v a = true := by
  induction rest generalizing alts b with
  | nil => exact h
  | cons p rest ih => exact ih (extend_holds v p h)

theorem eval_iff_alternative (v : α → Bool) (c : Chain α) :
    c.eval v = true ↔ ∃ alt ∈ c.alternatives, ∀ a ∈ alt, v a = true :=
  foldl_extend_holds v c.rest (by simp)

theorem mem_foldl_extend {rest : List (Op × α)} {alts : List (List α)} {alt : List α} {a : α}
    (hm : alt ∈ rest.foldl extend alts) (ha : a ∈ alt) :
    (∃ alt₀ ∈ alts, a ∈ alt₀) ∨ a ∈ rest.map Prod.snd := by
  induction rest generalizing alts with
  | nil => exact .inl ⟨alt,hm,ha⟩
  | cons p rest ih =>
    obtain ⟨op,b⟩ := p
    rcases ih hm with ⟨alt₀,h₀,ha₀⟩ | h
    · cases op with
      | conj =>
        obtain ⟨alt₁,h₁,rfl⟩ := List.mem_map.mp h₀
        rcases List.mem_append.mp ha₀ with h | h
        · exact .inl ⟨alt₁,h₁,h⟩
        · exact .inr (by simp_all)
      | disj =>
        rcases List.mem_append.mp h₀ with h | h
        · exact .inl ⟨alt₀,h,ha₀⟩
        · exact .inr (by simp_all)
    · exact .inr (List.mem_cons_of_mem _ h)

theorem mem_items_of_alternative {c : Chain α} {alt : List α} {a : α}
    (hm : alt ∈ c.alternatives) (ha : a ∈ alt) : a ∈ c.items := by
  rcases mem_foldl_extend hm ha with ⟨alt₀,h₀,ha₀⟩ | h
  · obtain rfl := List.mem_singleton.mp h₀
    exact List.mem_cons.mpr (.inl (List.mem_singleton.mp ha₀))
  · exact List.mem_cons_of_mem _ h

section Numbered

-- each item with its place in the chain, since one item may stand in a chain more than once
def Chain.numbered (c : Chain α) : Chain (α × Nat) where
  first := (c.first,0)
  rest := (c.rest.zipIdx 1).map (fun p => (p.1.1,(p.1.2,p.2)))

theorem items_numbered (c : Chain α) : c.numbered.items = c.items.zipIdx := by
  rw [Chain.items,Chain.items,Chain.numbered,List.zipIdx_cons,List.zipIdx_map,List.map_map]
  rfl

theorem eval_numbered (v : α → Bool) (c : Chain α) :
    c.numbered.eval (fun x => v x.1) = c.eval v := by
  obtain ⟨first,rest⟩ := c
  have hfold : ∀ (i : Nat) (acc : Bool), ((rest.zipIdx i).map (fun p => (p.1.1,(p.1.2,p.2)))).foldl
      (fun acc p => p.1.apply acc (v p.2.1)) acc =
        rest.foldl (fun acc p => p.1.apply acc (v p.2)) acc := by
    induction rest with
    | nil => exact fun _ _ => rfl
    | cons p rest ih => exact fun i acc => ih (i + 1) (p.1.apply acc (v p.2))
  exact hfold 1 (v first)

theorem getElem?_of_alternative {c : Chain α} {alt : List (α × Nat)} {x : α × Nat}
    (hm : alt ∈ c.numbered.alternatives) (hx : x ∈ alt) : c.items[x.2]? = some x.1 := by
  have hitem := mem_items_of_alternative hm hx
  rw [items_numbered] at hitem
  exact List.mem_zipIdx_iff_getElem?.mp hitem

end Numbered

section Overshadowed

def Overshadowed (holds essential : α → Bool) (decided : Bool) (alts : List α) : Prop :=
  ∃ pre alt post, alts = pre ++ alt :: post ∧ (decided = true ∨ ∃ x ∈ pre, holds x = true) ∧
    essential alt = true ∧ ∀ x ∈ alt :: post, holds x = false

variable {holds essential : α → Bool} {decided : Bool} {x : α} {xs : List α}

theorem not_overshadowed_nil : ¬ Overshadowed holds essential decided [] := by
  rintro ⟨pre,alt,post,h,-⟩
  cases pre <;> simp at h

theorem overshadowed_cons : Overshadowed holds essential decided (x :: xs) ↔
    (decided = true ∧ essential x = true ∧ ∀ y ∈ x :: xs, holds y = false) ∨
      Overshadowed holds essential (decided || holds x) xs := by
  constructor
  · rintro ⟨pre,alt,post,he,hpre,hess,hpost⟩
    cases pre with
    | nil =>
      obtain ⟨rfl,rfl⟩ := List.cons.inj he
      exact .inl ⟨by simpa using hpre,hess,hpost⟩
    | cons y pre =>
      obtain ⟨rfl,rfl⟩ := List.cons.inj he
      refine .inr ⟨pre,alt,post,rfl,?_,hess,hpost⟩
      rcases hpre with hd | ⟨z,hz,hh⟩
      · exact .inl (by simp [hd])
      · rcases List.mem_cons.mp hz with rfl | hz
        · exact .inl (by simp [hh])
        · exact .inr ⟨z,hz,hh⟩
  · rintro (⟨hd,hess,hpost⟩ | ⟨pre,alt,post,rfl,hpre,hess,hpost⟩)
    · exact ⟨[],x,xs,rfl,.inl hd,hess,hpost⟩
    · refine ⟨x :: pre,alt,post,rfl,?_,hess,hpost⟩
      rcases hpre with hd | ⟨z,hz,hh⟩
      · rcases Bool.or_eq_true_iff.mp hd with hd | hh
        · exact .inl hd
        · exact .inr ⟨x,by simp,hh⟩
      · exact .inr ⟨z,List.mem_cons_of_mem _ hz,hh⟩

theorem Overshadowed.undecided (h : Overshadowed holds essential decided xs) :
    (∀ y ∈ xs, holds y = false) ∨ Overshadowed holds essential false xs := by
  obtain ⟨pre,alt,post,rfl,hpre,hess,hpost⟩ := h
  by_cases hany : ∃ y ∈ pre, holds y = true
  · exact .inr ⟨pre,alt,post,rfl,.inr hany,hess,hpost⟩
  · refine .inl (fun y hy => ?_)
    rcases List.mem_append.mp hy with hy | hy
    · simpa using fun hh => hany ⟨y,hy,hh⟩
    · exact hpost y hy

theorem Overshadowed.decide (h : Overshadowed holds essential false xs) :
    Overshadowed holds essential decided xs := by
  obtain ⟨pre,alt,post,rfl,hpre,hess,hpost⟩ := h
  exact ⟨pre,alt,post,rfl,.inr (by simpa using hpre),hess,hpost⟩

theorem overshadowed_congr {holds' essential' : β → Bool} {R : α → β → Prop}
    (hR : ∀ x y, R x y → holds x = holds' y) {xs : List α} {ys : List β}
    (h : List.Forall₂ (fun x y => R x y ∧ essential x = essential' y) xs ys) :
    Overshadowed holds essential decided xs ↔ Overshadowed holds' essential' decided ys := by
  induction h generalizing decided with
  | nil => exact iff_of_false not_overshadowed_nil not_overshadowed_nil
  | @cons x y xs ys hxy hrest ih =>
    have hall : ∀ {xs ys}, List.Forall₂ (fun x y => R x y ∧ essential x = essential' y) xs ys →
        ((∀ z ∈ xs, holds z = false) ↔ ∀ z ∈ ys, holds' z = false) := by
      intro xs ys h
      induction h with
      | nil => simp
      | cons hxy _ ih => simp [hR _ _ hxy.1,ih]
    rw [overshadowed_cons,overshadowed_cons,ih,hR _ _ hxy.1,hxy.2,hall (.cons hxy hrest)]

theorem Overshadowed.exists_holds (h : Overshadowed holds essential false xs) :
    ∃ y ∈ xs, holds y = true := by
  obtain ⟨pre,alt,post,rfl,hpre,-,-⟩ := h
  rcases hpre with hd | ⟨y,hy,hh⟩
  · cases hd
  · exact ⟨y,List.mem_append_left _ hy,hh⟩

end Overshadowed

end BooleanChain
