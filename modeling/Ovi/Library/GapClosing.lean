import Mathlib.Data.List.SplitBy
import Mathlib.Data.List.Pairwise
import Mathlib.Algebra.Order.Group.Int
import Mathlib.Tactic.Common

namespace GapClosing

variable {α : Type} {pos : α → ℤ} {c : ℕ} {xs g : List α} {gs : List (List α)} {x y : α} {i : ℤ}

def near (pos : α → ℤ) (c : ℕ) (x y : α) : Bool := pos y ≤ pos x + (max c 1 : ℕ)

def groups (pos : α → ℤ) (c : ℕ) (xs : List α) : List (List α) := xs.splitBy (near pos c)

def span (pos : α → ℤ) (g : List α) : ℤ × ℤ := (g.head?.elim 0 pos,g.getLast?.elim 0 pos)

def Bridged (marked : ℤ → Prop) (c : ℕ) (i : ℤ) : Prop :=
  ∃ p q, p ≤ i ∧ i ≤ q ∧ marked p ∧ marked q ∧ (∀ k, p < k → k < q → ¬ marked k) ∧ q ≤ p + c

structure Closed (marked : ℤ → Prop) (c : ℕ) (ranges : List (ℤ × ℤ)) : Prop where
  covered : ∀ i, (∃ r ∈ ranges, r.1 ≤ i ∧ i ≤ r.2) ↔ Bridged marked c i
  once : ∀ i, marked i → ∃! r, r ∈ ranges ∧ r.1 ≤ i ∧ i ≤ r.2
  ascending : ranges.Pairwise (fun r r' => r.2 < r'.1)
  ends : ∀ r ∈ ranges, r.1 ≤ r.2 ∧ marked r.1 ∧ marked r.2
  short : ∀ r ∈ ranges, ∀ (k : ℤ) (n : ℕ), 0 < n → r.1 ≤ k → k + n ≤ r.2 + 1 →
    (∀ j : ℕ, j < n → ¬ marked (k + j)) → n < c
  separated : ranges.IsChain (fun r r' : ℤ × ℤ =>
    r.2 + (max c 1 : ℕ) < r'.1 ∧ ∀ k : ℤ, r.2 < k → k < r'.1 → ¬ marked k)
  outer : ∀ r ∈ ranges, ∀ i, r.1 ≤ i → i ≤ r.2 →
    (∃ p, p ≤ i ∧ marked p) ∧ ∃ q, i ≤ q ∧ marked q

section Chain

theorem span_of_cons (x : α) (g : List α) :
    span pos (x :: g) = (pos x,pos ((x :: g).getLast (List.cons_ne_nil x g))) := by
  simp [span,List.getLast?_eq_some_getLast]

theorem span_first_le (hs : g.Pairwise (fun a b => pos a < pos b)) (hx : x ∈ g) :
    (span pos g).1 ≤ pos x := by
  cases g with
  | nil => cases hx
  | cons a g =>
    rw [span_of_cons]
    rcases List.mem_cons.mp hx with rfl | hx
    · exact le_refl (pos x)
    · exact ((List.pairwise_cons.mp hs).1 x hx).le

theorem span_le_last (hs : g.Pairwise (fun a b => pos a < pos b)) (hx : x ∈ g) :
    pos x ≤ (span pos g).2 := by
  induction g generalizing x with
  | nil => cases hx
  | cons a g ih =>
    obtain ⟨ha,htail⟩ := List.pairwise_cons.mp hs
    cases g with
    | nil =>
      obtain rfl := List.mem_singleton.mp hx
      exact le_refl (pos x)
    | cons b g =>
      have hlast : (span pos (a :: b :: g)).2 = (span pos (b :: g)).2 := by
        simp [span_of_cons]
      rw [hlast]
      rcases List.mem_cons.mp hx with rfl | hx
      · exact (ha b List.mem_cons_self).le.trans (ih htail List.mem_cons_self)
      · exact ih htail hx

theorem exists_at_first (pos : α → ℤ) (hg : g ≠ []) : ∃ x ∈ g, pos x = (span pos g).1 := by
  cases g with
  | nil => exact absurd rfl hg
  | cons a g => exact ⟨a,List.mem_cons_self,by rw [span_of_cons]⟩

theorem exists_at_last (pos : α → ℤ) (hg : g ≠ []) : ∃ x ∈ g, pos x = (span pos g).2 := by
  cases g with
  | nil => exact absurd rfl hg
  | cons a g => exact ⟨_,List.getLast_mem (List.cons_ne_nil a g),by rw [span_of_cons]⟩

-- induction on the chain: `i` is its first position, lies in its first gap, or lies further on
theorem neighbours_of_chain (hs : g.Pairwise (fun a b => pos a < pos b))
    (hc : g.IsChain (fun a b => near pos c a b = true)) (hg : g ≠ [])
    (h₁ : (span pos g).1 ≤ i) (h₂ : i ≤ (span pos g).2) :
    ∃ x ∈ g, ∃ y ∈ g, pos x ≤ i ∧ i ≤ pos y ∧ (∀ z ∈ g, ¬ (pos x < pos z ∧ pos z < pos y)) ∧
      pos y ≤ pos x + c := by
  induction g with
  | nil => exact absurd rfl hg
  | cons a g ih =>
    obtain ⟨ha,hs⟩ := List.pairwise_cons.mp hs
    rw [span_of_cons] at h₁
    by_cases hstart : i = pos a
    · exact ⟨a,List.mem_cons_self,a,List.mem_cons_self,by omega,by omega,fun z _ h => by omega,
        by omega⟩
    cases g with
    | nil =>
      rw [span_of_cons] at h₂
      have hlast : i ≤ pos a := h₂
      have hfirst : pos a ≤ i := h₁
      omega
    | cons b g =>
      obtain ⟨hab,hc⟩ := List.isChain_cons_cons.mp hc
      have hnear : pos b ≤ pos a + (max c 1 : ℕ) := by simpa [near] using hab
      have hfirst : pos a ≤ i := h₁
      by_cases hib : i < pos b
      · refine ⟨a,by simp,b,by simp,hfirst,hib.le,?_,by omega⟩
        rintro z hz ⟨haz,hzb⟩
        rcases List.mem_cons.mp hz with rfl | hz
        · exact absurd haz (lt_irrefl _)
        · have hbz := span_first_le hs hz
          rw [span_of_cons] at hbz
          exact absurd hzb (not_lt.mpr hbz)
      · have hlast : (span pos (a :: b :: g)).2 = (span pos (b :: g)).2 := by
          simp [span_of_cons]
        have hb : (span pos (b :: g)).1 ≤ i := by
          rw [span_of_cons]
          exact not_lt.mp hib
        obtain ⟨x,hx,y,hy,hxi,hiy,hbetween,hle⟩ :=
          ih hs hc (List.cons_ne_nil b g) hb (hlast ▸ h₂)
        refine ⟨x,List.mem_cons_of_mem a hx,y,List.mem_cons_of_mem a hy,hxi,hiy,?_,hle⟩
        rintro z hz ⟨hxz,hzy⟩
        rcases List.mem_cons.mp hz with rfl | hz
        · exact absurd hxz (not_lt.mpr (ha x hx).le)
        · exact hbetween z hz ⟨hxz,hzy⟩

end Chain

section Groups

theorem mem_of_groups (hg : g ∈ groups pos c xs) (hx : x ∈ g) : x ∈ xs := by
  rw [← List.flatten_splitBy (near pos c) xs]
  exact List.mem_flatten.mpr ⟨g,hg,hx⟩

theorem exists_group (pos : α → ℤ) (c : ℕ) (hx : x ∈ xs) : ∃ g ∈ groups pos c xs, x ∈ g := by
  rw [← List.flatten_splitBy (near pos c) xs] at hx
  exact List.mem_flatten.mp hx

theorem group_ne_nil (hg : g ∈ groups pos c xs) : g ≠ [] := List.ne_nil_of_mem_splitBy hg

theorem group_sorted (hs : xs.Pairwise (fun a b => pos a < pos b)) (hg : g ∈ groups pos c xs) :
    g.Pairwise (fun a b => pos a < pos b) := by
  rw [← List.flatten_splitBy (near pos c) xs] at hs
  exact (List.pairwise_flatten.mp hs).1 g hg

theorem span_ordered (hs : xs.Pairwise (fun a b => pos a < pos b)) (hg : g ∈ groups pos c xs) :
    (span pos g).1 ≤ (span pos g).2 := by
  obtain ⟨x,hx,he⟩ := exists_at_first pos (group_ne_nil hg)
  exact he ▸ span_le_last (group_sorted hs hg) hx

theorem groups_separated (hs : xs.Pairwise (fun a b => pos a < pos b)) :
    (groups pos c xs).Pairwise (fun g g' =>
      (span pos g).2 + (max c 1 : ℕ) < (span pos g').1) := by
  let R : List α → List α → Prop := fun g g' =>
    (span pos g).2 + (max c 1 : ℕ) < (span pos g').1 ∧ (span pos g').1 ≤ (span pos g').2
  have hchain : (groups pos c xs).IsChain R := by
    refine (List.isChain_getLast_head_splitBy (near pos c) xs).imp_of_mem_imp ?_
    rintro g g' _ hg' ⟨hn,hn',hfar⟩
    refine ⟨?_,span_ordered hs hg'⟩
    obtain ⟨a,l,rfl⟩ := List.exists_cons_of_ne_nil hn
    obtain ⟨b,l',rfl⟩ := List.exists_cons_of_ne_nil hn'
    rw [span_of_cons,span_of_cons]
    exact not_le.mp (of_decide_eq_false hfar)
  have : Trans R R R := ⟨fun h h' => ⟨by have := h.1; have := h.2; have := h'.1; omega,h'.2⟩⟩
  exact hchain.pairwise.imp And.left

theorem groups_apart (hs : xs.Pairwise (fun a b => pos a < pos b)) (hg : g ∈ groups pos c xs)
    {g' : List α} (hg' : g' ∈ groups pos c xs) (hne : g ≠ g') :
    (span pos g).2 + (max c 1 : ℕ) < (span pos g').1 ∨
      (span pos g').2 + (max c 1 : ℕ) < (span pos g).1 := by
  have hp := (groups_separated (c := c) hs).imp
    (S := fun g g' => (span pos g).2 + (max c 1 : ℕ) < (span pos g').1 ∨
      (span pos g').2 + (max c 1 : ℕ) < (span pos g).1) Or.inl
  have : Std.Symm (fun g g' => (span pos g).2 + (max c 1 : ℕ) < (span pos g').1 ∨
      (span pos g').2 + (max c 1 : ℕ) < (span pos g).1) := ⟨fun _ _ => Or.symm⟩
  exact hp.forall hg hg' hne

theorem mem_group_of_span (hs : xs.Pairwise (fun a b => pos a < pos b))
    (hg : g ∈ groups pos c xs) (hx : x ∈ xs) (h₁ : (span pos g).1 ≤ pos x)
    (h₂ : pos x ≤ (span pos g).2) : x ∈ g := by
  obtain ⟨g',hg',hx'⟩ := exists_group pos c hx
  by_contra hne
  have hfirst := span_first_le (group_sorted hs hg') hx'
  have hlast := span_le_last (group_sorted hs hg') hx'
  rcases groups_apart hs hg hg' (fun h => hne (h ▸ hx')) with h | h <;> omega

theorem bridged_of_span (hs : xs.Pairwise (fun a b => pos a < pos b))
    (hg : g ∈ groups pos c xs) (h₁ : (span pos g).1 ≤ i) (h₂ : i ≤ (span pos g).2) :
    Bridged (fun k => ∃ x ∈ xs, pos x = k) c i := by
  have hsorted := group_sorted hs hg
  obtain ⟨x,hx,y,hy,hxi,hiy,hbetween,hle⟩ := neighbours_of_chain hsorted
    (List.isChain_of_mem_splitBy hg) (group_ne_nil hg) h₁ h₂
  refine ⟨pos x,pos y,hxi,hiy,⟨x,mem_of_groups hg hx,rfl⟩,⟨y,mem_of_groups hg hy,rfl⟩,?_,hle⟩
  rintro k hxk hky ⟨z,hz,rfl⟩
  have hfirst := span_first_le hsorted hx
  have hlast := span_le_last hsorted hy
  exact hbetween z (mem_group_of_span hs hg hz (by omega) (by omega)) ⟨hxk,hky⟩

theorem span_of_bridged (hs : xs.Pairwise (fun a b => pos a < pos b))
    (h : Bridged (fun k => ∃ x ∈ xs, pos x = k) c i) :
    ∃ g ∈ groups pos c xs, (span pos g).1 ≤ i ∧ i ≤ (span pos g).2 := by
  obtain ⟨_,_,hpi,hiq,⟨x,hx,rfl⟩,⟨y,hy,rfl⟩,hbetween,hle⟩ := h
  obtain ⟨g,hg,hxg⟩ := exists_group pos c hx
  obtain ⟨g',hg',hyg⟩ := exists_group pos c hy
  have hxfirst := span_first_le (group_sorted hs hg) hxg
  have hylast := span_le_last (group_sorted hs hg') hyg
  by_cases hgg : g = g'
  · subst hgg
    exact ⟨g,hg,by omega,by omega⟩
  · have hxlast := span_le_last (group_sorted hs hg) hxg
    have hyfirst := span_first_le (group_sorted hs hg') hyg
    rcases groups_apart hs hg hg' hgg with hapart | hapart <;> omega

theorem not_bridged_before (hs : xs.Pairwise (fun a b => pos a < pos b))
    (hg : g ∈ groups pos c xs) :
    ¬ Bridged (fun k => ∃ x ∈ xs, pos x = k) c ((span pos g).1 - 1) := by
  intro h
  obtain ⟨g',hg',h₁,h₂⟩ := span_of_bridged hs h
  have hord := span_ordered hs hg
  by_cases hgg : g = g'
  · subst hgg
    omega
  · rcases groups_apart hs hg hg' hgg with hapart | hapart <;> omega

theorem not_bridged_after (hs : xs.Pairwise (fun a b => pos a < pos b))
    (hg : g ∈ groups pos c xs) :
    ¬ Bridged (fun k => ∃ x ∈ xs, pos x = k) c ((span pos g).2 + 1) := by
  intro h
  obtain ⟨g',hg',h₁,h₂⟩ := span_of_bridged hs h
  have hord := span_ordered hs hg
  by_cases hgg : g = g'
  · subst hgg
    omega
  · rcases groups_apart hs hg hg' hgg with hapart | hapart <;> omega

theorem unmarked_between (hs : xs.Pairwise (fun a b => pos a < pos b)) {g' : List α}
    (hadjacent : [g,g'] <:+: groups pos c xs) (hx : x ∈ xs) :
    ¬ ((span pos g).2 < pos x ∧ pos x < (span pos g').1) := by
  rintro ⟨hlast,hfirst⟩
  obtain ⟨g'',hg'',hxg⟩ := exists_group pos c hx
  have hge := span_first_le (group_sorted hs hg'') hxg
  have hle := span_le_last (group_sorted hs hg'') hxg
  have hpairs := groups_separated (c := c) hs
  obtain ⟨before,after,he⟩ := hadjacent
  rw [← he] at hg'' hpairs
  obtain ⟨hpairs,-,hafter⟩ := List.pairwise_append.mp hpairs
  obtain ⟨-,-,hbefore⟩ := List.pairwise_append.mp hpairs
  have hcases : g'' ∈ before ∨ g'' = g ∨ g'' = g' ∨ g'' ∈ after := by
    simpa [or_assoc] using hg''
  rcases hcases with h | rfl | rfl | h
  · have hapart := hbefore g'' h g (by simp)
    have hord := span_ordered hs (he ▸ List.mem_append_left _ (List.mem_append_right _ (by simp)) :
      g ∈ groups pos c xs)
    omega
  · omega
  · omega
  · have hapart := hafter g' (by simp) g'' h
    have hord := span_ordered hs (he ▸ List.mem_append_left _ (List.mem_append_right _ (by simp)) :
      g' ∈ groups pos c xs)
    omega

theorem groups_append_far (h : ∀ x ∈ xs.getLast?, pos x + (max c 1 : ℕ) < pos y) :
    groups pos c (xs ++ [y]) = groups pos c xs ++ [[y]] := by
  refine (List.splitBy_append_cons [] fun x hx => ?_).trans ?_
  · exact decide_eq_false (not_le.mpr (h x hx))
  · rw [List.splitBy_of_isChain (List.cons_ne_nil y []) (List.isChain_singleton y)]
    rfl

theorem groups_append_near {done : List (List α)} (he : groups pos c xs = done ++ [g])
    (hx : g.getLast? = some x) (hle : pos y ≤ pos x + (max c 1 : ℕ)) :
    groups pos c (xs ++ [y]) = done ++ [g ++ [y]] := by
  obtain ⟨hflat,hnil,hinside,hbetween⟩ := List.splitBy_eq_iff.mp he
  have hg : g ≠ [] := fun h => by simp [h] at hx
  have hnear : ∀ a ∈ g.getLast?, near pos c a y = true := by
    intro a ha
    obtain rfl := Option.some.inj (hx ▸ ha)
    exact decide_eq_true hle
  refine List.splitBy_eq_iff.mpr ⟨?_,?_,?_,?_⟩
  · rw [hflat]
    simp
  · simp only [List.mem_append,List.mem_singleton,not_or] at hnil ⊢
    exact ⟨hnil.1,by simp⟩
  · intro m hm
    rcases List.mem_append.mp hm with hm | hm
    · exact hinside m (List.mem_append_left [g] hm)
    · obtain rfl := List.mem_singleton.mp hm
      refine List.isChain_append.mpr ⟨hinside g (by simp),List.isChain_singleton y,?_⟩
      simpa using hnear
  · obtain ⟨hdone,-,hlast⟩ := List.isChain_append.mp hbetween
    refine List.isChain_append.mpr ⟨hdone,List.isChain_singleton _,?_⟩
    intro m hm m' hm'
    obtain ⟨hn,_,hfar⟩ := hlast m hm g rfl
    obtain rfl : g ++ [y] = m' := by simpa using hm'
    refine ⟨hn,by simp,?_⟩
    rwa [List.head_append_of_ne_nil hg]

theorem closed_groups (hs : xs.Pairwise (fun a b => pos a < pos b)) :
    Closed (fun k => ∃ x ∈ xs, pos x = k) c ((groups pos c xs).map (span pos)) where
  covered i := by
    constructor
    · rintro ⟨r,hr,h₁,h₂⟩
      obtain ⟨g,hg,rfl⟩ := List.mem_map.mp hr
      exact bridged_of_span hs hg h₁ h₂
    · intro h
      obtain ⟨g,hg,h₁,h₂⟩ := span_of_bridged hs h
      exact ⟨span pos g,List.mem_map_of_mem hg,h₁,h₂⟩
  once := by
    rintro i ⟨x,hx,rfl⟩
    obtain ⟨g,hg,hxg⟩ := exists_group pos c hx
    refine ⟨span pos g,⟨List.mem_map_of_mem hg,span_first_le (group_sorted hs hg) hxg,
      span_le_last (group_sorted hs hg) hxg⟩,?_⟩
    rintro r ⟨hr,h₁,h₂⟩
    obtain ⟨g',hg',rfl⟩ := List.mem_map.mp hr
    have hxg' := mem_group_of_span hs hg' hx h₁ h₂
    by_contra hne
    have hfirst := span_first_le (group_sorted hs hg) hxg
    have hlast := span_le_last (group_sorted hs hg) hxg
    rcases groups_apart hs hg hg' (fun h => hne (h ▸ rfl)) with h | h <;> omega
  ascending := by
    refine List.pairwise_map.mpr ((groups_separated hs).imp ?_)
    intro g g' h
    omega
  ends := by
    intro r hr
    obtain ⟨g,hg,rfl⟩ := List.mem_map.mp hr
    obtain ⟨x,hx,hfirst⟩ := exists_at_first pos (group_ne_nil hg)
    obtain ⟨y,hy,hlast⟩ := exists_at_last pos (group_ne_nil hg)
    exact ⟨span_ordered hs hg,⟨x,mem_of_groups hg hx,hfirst⟩,y,mem_of_groups hg hy,hlast⟩
  short := by
    intro r hr k n hn hk hkn hclear
    obtain ⟨g,hg,rfl⟩ := List.mem_map.mp hr
    obtain ⟨p,q,hpk,hkq,hp,hq,-,hle⟩ := bridged_of_span hs hg hk (by omega)
    have hpk' : p ≠ k := fun he => hclear 0 hn (by simpa [← he] using hp)
    have hqn : k + n ≤ q := by
      by_contra hlt
      refine hclear (q - k).toNat (by omega) ?_
      rwa [Int.toNat_of_nonneg (by omega),add_sub_cancel]
    omega
  separated := by
    refine (List.isChain_map _).mpr ?_
    refine (List.IsChain.iff_mem.mp (List.isChain_isInfix (groups pos c xs))).imp ?_
    rintro g g' ⟨hg,hg',hadjacent⟩
    constructor
    · obtain ⟨before,after,he⟩ := hadjacent
      have hpairs := groups_separated (c := c) hs
      rw [← he,List.append_assoc] at hpairs
      have hpair := (List.pairwise_append.mp hpairs).2.1
      exact (List.pairwise_cons.mp hpair).1 g' (by simp)
    · rintro k h₁ h₂ ⟨x,hx,rfl⟩
      exact unmarked_between hs hadjacent hx ⟨h₁,h₂⟩
  outer := by
    intro r hr i h₁ h₂
    obtain ⟨g,hg,rfl⟩ := List.mem_map.mp hr
    obtain ⟨p,q,hpi,hiq,hp,hq,-,-⟩ := bridged_of_span hs hg h₁ h₂
    exact ⟨⟨p,hpi,hp⟩,q,hiq,hq⟩

end Groups

end GapClosing
