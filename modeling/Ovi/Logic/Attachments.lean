import Ovi.Logic.Traversal
import Mathlib.Data.List.Sublists

namespace Ovi

section Plan

variable (v effect detect : String → Bool)

-- with no detector evaluated yet the outcome is the default one, whose verdict is true
def held (current : Option String) : Bool := current.all v

def evaluate (current : Option String) (uid : String) : Option (Option String) :=
  if effect uid then some current else if detect uid then some (some uid) else none

def attach (current : Option String) (effects : List String) : List (String × String) :=
  current.toList.flatMap (fun detector => effects.map (fun uid => (detector,uid)))

def attachNodes : Option String → List NodePlan → List (String × String) × Option (Option String)
  | current, [] => ([],some current)
  | current, n :: ns =>
    match evaluate effect detect current n.plugin with
    | none => ([],none)
    | some next =>
      let headed := if effect n.plugin then attach current [n.plugin] else []
      if held v next then
        (headed ++ (attach next n.effects ++ (attachNodes next ns).1),(attachNodes next ns).2)
      else (headed,some next)

def attachAlternatives : Option String → Bool → List Alternative → List (String × String)
  | _, _, [] => []
  | current, ok, a :: as =>
    if ok && !a.essential then attachAlternatives current ok as
    else
      (attachNodes v effect detect current a.nodes).1 ++
        match (attachNodes v effect detect current a.nodes).2 with
        | none => []
        | some next => attachAlternatives next (held v next) as

def attachments (plan : List Alternative) : List (String × String) :=
  attachAlternatives v effect detect none false plan

inductive Attaches : Cursor → Option String → String → String → Prop
  | here {c c' : Cursor} {detector uid : String}
    (hs : c.step (held v (some detector)) = some (uid,c')) (he : effect uid = true) :
    Attaches c (some detector) detector uid
  | next {c c' : Cursor} {current current' : Option String} {uid detector x : String}
    (hs : c.step (held v current) = some (uid,c'))
    (he : evaluate effect detect current uid = some current')
    (rest : Attaches c' current' detector x) : Attaches c current detector x

end Plan

section Walk

variable {v effect detect : String → Bool} {c c' : Cursor} {current next : Option String}
  {uid detector x : String} {n : NodePlan} {ns : List NodePlan} {as : List Alternative}

theorem mem_attach {effects : List String} :
    (detector,x) ∈ attach current effects ↔ current = some detector ∧ x ∈ effects := by
  cases current with
  | none => simp [attach]
  | some d =>
    simp only [attach,Option.toList,List.flatMap_cons,List.flatMap_nil,List.append_nil,
      List.mem_map,Prod.mk.injEq,Option.some_inj]
    constructor
    · rintro ⟨uid,huid,rfl,rfl⟩
      exact ⟨rfl,huid⟩
    · rintro ⟨rfl,hx⟩
      exact ⟨x,hx,rfl,rfl⟩

theorem attaches_step (hs : c.step (held v current) = some (uid,c')) :
    Attaches v effect detect c current detector x ↔
      (current = some detector ∧ uid = x ∧ effect uid = true) ∨
        ∃ next, evaluate effect detect current uid = some next ∧
          Attaches v effect detect c' next detector x := by
  constructor
  · intro h
    cases h with
    | here hs' he =>
      obtain ⟨rfl,rfl⟩ := Prod.mk.inj (Option.some.inj (hs.symm.trans hs'))
      exact .inl ⟨rfl,rfl,he⟩
    | next hs' he rest =>
      obtain ⟨rfl,rfl⟩ := Prod.mk.inj (Option.some.inj (hs.symm.trans hs'))
      exact .inr ⟨_,he,rest⟩
  · rintro (⟨rfl,rfl,he⟩ | ⟨next,he,rest⟩)
    · exact .here hs he
    · exact .next hs he rest

theorem not_attaches (hs : c.step (held v current) = none) :
    ¬ Attaches v effect detect c current detector x := by
  intro h
  cases h with
  | here hs' _ => cases hs.symm.trans hs'
  | next hs' _ _ => cases hs.symm.trans hs'

variable (v effect detect) in
def attachFrom (current : Option String) (ns : List NodePlan) (as : List Alternative) :
    List (String × String) :=
  (attachNodes v effect detect current ns).1 ++
    match (attachNodes v effect detect current ns).2 with
    | none => []
    | some next => attachAlternatives v effect detect next (held v next) as

theorem attachAlternatives_skip (current : Option String) (ok : Bool) (as : List Alternative) :
    attachAlternatives v effect detect current ok (skip ok as) =
      attachAlternatives v effect detect current ok as := by
  cases ok with
  | false => rfl
  | true =>
    induction as with
    | nil => rfl
    | cons a as ih =>
      simp only [skip,if_true] at ih ⊢
      rw [List.dropWhile_cons]
      by_cases h : a.essential = true
      · simp [h]
      · simp [attachAlternatives,h,ih]

theorem attaches_effects {left : List String} (hc : held v current = true)
    (hleft : ∀ uid ∈ left, effect uid = true) (pos : Nat) :
    Attaches v effect detect ⟨pos,true,true,left,ns,as⟩ current detector x ↔
      (detector,x) ∈ attach current left ∨
        Attaches v effect detect ⟨pos + left.length,true,true,[],ns,as⟩ current detector x := by
  induction left generalizing pos with
  | nil => simp [mem_attach]
  | cons uid left ih =>
    have hstep : (⟨pos,true,true,uid :: left,ns,as⟩ : Cursor).step (held v current) =
        some (uid,⟨pos + 1,true,true,left,ns,as⟩) := by
      simp [Cursor.step,Cursor.include?,hc]
    have hrest := ih (fun u hu => hleft u (List.mem_cons_of_mem _ hu)) (pos + 1)
    have he := hleft uid List.mem_cons_self
    have hpos : pos + 1 + left.length = pos + (uid :: left).length := by
      rw [List.length_cons]
      omega
    rw [attaches_step hstep,evaluate,if_pos he]
    simp only [Option.some_inj,exists_eq_left']
    rw [hrest,hpos,mem_attach,mem_attach,List.mem_cons]
    constructor
    · rintro (⟨hd,rfl,-⟩ | ⟨hd,hx⟩ | h)
      · exact .inl ⟨hd,.inl rfl⟩
      · exact .inl ⟨hd,.inr hx⟩
      · exact .inr h
    · rintro (⟨hd,rfl | hx⟩ | h)
      · exact .inl ⟨hd,rfl,he⟩
      · exact .inr (.inl ⟨hd,hx⟩)
      · exact .inr (.inr h)

theorem attaches_node (hn : n.cut = true) (heffects : ∀ uid ∈ n.effects, effect uid = true)
    (hleave : ∀ current pos, held v current = true →
      (Attaches v effect detect ⟨pos,true,true,[],ns,as⟩ current detector x ↔
        (detector,x) ∈ attachFrom v effect detect current ns as))
    (henter : ∀ c current, held v current = false → c.step false = Cursor.enter as →
      (Attaches v effect detect c current detector x ↔
        (detector,x) ∈ attachAlternatives v effect detect current false as))
    (hs : c.step (held v current) = some (n.plugin,Cursor.afterHead n ns as)) :
    Attaches v effect detect c current detector x ↔
      (detector,x) ∈ attachFrom v effect detect current (n :: ns) as := by
  have hafter : ∀ next, Attaches v effect detect (Cursor.afterHead n ns as) next detector x ↔
      (detector,x) ∈ if held v next then
          attach next n.effects ++ attachFrom v effect detect next ns as
        else attachAlternatives v effect detect next false as := by
    intro next
    rw [Cursor.afterHead,hn]
    cases hv : held v next with
    | true => rw [if_pos rfl,List.mem_append,attaches_effects hv heffects,hleave next _ hv]
    | false =>
      rw [if_neg Bool.false_ne_true]
      exact henter _ next hv (by simp [Cursor.step,Cursor.include?])
  rw [attaches_step hs,attachFrom,attachNodes]
  cases he : evaluate effect detect current n.plugin with
  | none =>
    have heffect : effect n.plugin = false := by
      rw [evaluate] at he
      split at he
      · cases he
      · rename_i h
        exact Bool.not_eq_true _ ▸ h
    simp [heffect]
  | some next =>
    have hhead : (current = some detector ∧ n.plugin = x ∧ effect n.plugin = true) ↔
        (detector,x) ∈ if effect n.plugin then attach current [n.plugin] else [] := by
      cases effect n.plugin with
      | false => simp
      | true => simp [mem_attach,eq_comm]
    simp only [Option.some_inj,exists_eq_left']
    rw [hhead,hafter]
    cases hv : held v next with
    | true => simp only [if_true,attachFrom,List.mem_append,or_assoc]
    | false => simp only [Bool.false_eq_true,if_false,hv,List.mem_append]

structure NodePlan.Plain (effect : String → Bool) (n : NodePlan) : Prop where
  cut : n.cut = true
  effects : ∀ uid ∈ n.effects, effect uid = true

theorem attaches_leave (hns : ∀ n ∈ ns, n.Plain effect)
    (henter : ∀ ok c current, held v current = ok → c.step ok = Cursor.enter (skip ok as) →
      (Attaches v effect detect c current detector x ↔
        (detector,x) ∈ attachAlternatives v effect detect current ok as))
    (current : Option String) (pos : Nat) (hc : held v current = true) :
    Attaches v effect detect ⟨pos,true,true,[],ns,as⟩ current detector x ↔
      (detector,x) ∈ attachFrom v effect detect current ns as := by
  have hstep : (⟨pos,true,true,[],ns,as⟩ : Cursor).step true = Cursor.leave ns as := by
    simp [Cursor.step,Cursor.include?]
  induction ns generalizing current pos with
  | nil =>
    rw [attachFrom,attachNodes,List.nil_append]
    dsimp only
    rw [hc]
    exact henter true _ current hc hstep
  | cons n ns ih =>
    have hn := hns n List.mem_cons_self
    refine attaches_node hn.cut hn.effects ?_ (henter false) (hc ▸ hstep)
    intro current pos hc
    exact ih (fun m hm => hns m (List.mem_cons_of_mem _ hm)) current pos hc
      (by simp [Cursor.step,Cursor.include?])

-- from one alternative to the next, on the number of those that are left
theorem attaches_enter (has : ∀ a ∈ as, ∀ n ∈ a.nodes, n.Plain effect) {ok : Bool}
    (hc : held v current = ok) (hs : c.step ok = Cursor.enter (skip ok as)) :
    Attaches v effect detect c current detector x ↔
      (detector,x) ∈ attachAlternatives v effect detect current ok as := by
  induction hn : as.length using Nat.strong_induction_on generalizing as c current ok with
  | _ k ih =>
    subst hn
    rw [← attachAlternatives_skip]
    have hsub : (skip ok as).Sublist as := by
      unfold skip
      split
      · exact List.dropWhile_sublist _
      · exact List.Sublist.refl as
    have hhead : ∀ a as', skip ok as = a :: as' → (ok && !a.essential) = false := by
      intro a as' ha
      cases ok with
      | false => rfl
      | true =>
        have := List.head?_dropWhile_not (!·.essential) as
        simp only [skip,if_true] at ha
        simpa [ha] using this
    cases hskip : skip ok as with
    | nil =>
      rw [hskip] at hs
      exact iff_of_false (not_attaches (hc ▸ hs)) (by simp [attachAlternatives])
    | cons a as' =>
      rw [hskip] at hs hsub
      have hless : as'.length < as.length := hsub.length_le
      have ha := has a (hsub.mem List.mem_cons_self)
      have has' : ∀ b ∈ as', ∀ n ∈ b.nodes, n.Plain effect :=
        fun b hb => has b (hsub.mem (List.mem_cons_of_mem _ hb))
      have henter : ∀ ok c current, held v current = ok →
          c.step ok = Cursor.enter (skip ok as') →
          (Attaches v effect detect c current detector x ↔
            (detector,x) ∈ attachAlternatives v effect detect current ok as') :=
        fun ok c current hc hs => ih _ hless has' hc hs rfl
      have hfirst := ha a.first List.mem_cons_self
      have hnode := attaches_node hfirst.cut hfirst.effects
        (attaches_leave (fun m hm => ha m (List.mem_cons_of_mem _ hm)) henter) (henter false)
        (hc ▸ hs)
      rw [hnode,attachAlternatives,hhead a as' hskip,if_neg Bool.false_ne_true]
      rfl

theorem attaches_start {a : Alternative} (has : ∀ b ∈ a :: as, ∀ n ∈ b.nodes, n.Plain effect) :
    Attaches v effect detect (Cursor.start a as) none detector x ↔
      (detector,x) ∈ attachments v effect detect (a :: as) := by
  have ha := has a List.mem_cons_self
  have hfirst := ha a.first List.mem_cons_self
  have has' : ∀ b ∈ as, ∀ n ∈ b.nodes, n.Plain effect :=
    fun b hb => has b (List.mem_cons_of_mem _ hb)
  have henter : ∀ ok c current, held v current = ok → c.step ok = Cursor.enter (skip ok as) →
      (Attaches v effect detect c current detector x ↔
        (detector,x) ∈ attachAlternatives v effect detect current ok as) :=
    fun ok c current hc hs => attaches_enter has' hc hs
  have hs : (Cursor.start a as).step (held v none) =
      some (a.first.plugin,Cursor.afterHead a.first a.rest as) := by
    simp [Cursor.step,Cursor.start,Cursor.include?,held,NodePlan.plugins,Cursor.afterHead]
  have hnode : Attaches v effect detect (Cursor.start a as) none detector x ↔
      (detector,x) ∈ attachFrom v effect detect none (a.first :: a.rest) as :=
    attaches_node hfirst.cut hfirst.effects
      (attaches_leave (fun m hm => ha m (List.mem_cons_of_mem _ hm)) henter) (henter false) hs
  rw [hnode,attachments,attachAlternatives]
  rfl

theorem held_of_evaluate {v' : String → Bool} (hc : held v current = held v' current)
    (hv : v uid = v' uid) (he : evaluate effect detect current uid = some next) :
    held v next = held v' next := by
  rw [evaluate] at he
  split at he
  · exact Option.some.inj he ▸ hc
  · split at he
    · obtain rfl := Option.some.inj he
      exact hv
    · cases he

theorem attachNodes_congr {v' : String → Bool} (hc : held v current = held v' current)
    (hns : ∀ n ∈ ns, v n.plugin = v' n.plugin) :
    attachNodes v effect detect current ns = attachNodes v' effect detect current ns ∧
      ∀ next, (attachNodes v effect detect current ns).2 = some next →
        held v next = held v' next := by
  induction ns generalizing current with
  | nil => exact ⟨rfl,fun next h => Option.some.inj h ▸ hc⟩
  | cons n ns ih =>
    rw [attachNodes,attachNodes]
    cases he : evaluate effect detect current n.plugin with
    | none => exact ⟨rfl,fun next h => by cases h⟩
    | some next =>
      have hnext := held_of_evaluate hc (hns n List.mem_cons_self) he
      obtain ⟨heq,hlast⟩ := ih hnext (fun m hm => hns m (List.mem_cons_of_mem _ hm))
      dsimp only
      rw [← hnext,← heq]
      cases hv : held v next with
      | true => exact ⟨rfl,hlast⟩
      | false =>
        refine ⟨rfl,fun last h => ?_⟩
        obtain rfl := Option.some.inj h
        exact hnext

theorem attachAlternatives_congr {v' : String → Bool} (hc : held v current = held v' current)
    (has : ∀ a ∈ as, ∀ n ∈ a.nodes, v n.plugin = v' n.plugin) (ok : Bool) :
    attachAlternatives v effect detect current ok as =
      attachAlternatives v' effect detect current ok as := by
  induction as generalizing current ok with
  | nil => rfl
  | cons a as ih =>
    have has' := fun b hb => has b (List.mem_cons_of_mem _ hb)
    rw [attachAlternatives,attachAlternatives,ih hc has']
    obtain ⟨heq,hlast⟩ : attachNodes v effect detect current a.nodes =
        attachNodes v' effect detect current a.nodes ∧
        ∀ next, (attachNodes v effect detect current a.nodes).2 = some next →
          held v next = held v' next := attachNodes_congr hc (has a List.mem_cons_self)
    rw [← heq]
    cases hnext : (attachNodes v effect detect current a.nodes).2 with
    | none => rfl
    | some next =>
      dsimp only
      rw [ih (hlast next hnext) has',hlast next hnext]

-- only the verdicts of the heads count, so finitely many walks show every attachment
def attachable (effect detect : String → Bool) (plan : List Alternative) :
    List (String × String) :=
  (plan.flatMap (fun a => a.nodes.map NodePlan.plugin)).sublists.flatMap (fun trues =>
    attachments trues.contains effect detect plan)

theorem mem_attachable_iff {plan : List Alternative} {p : String × String} :
    p ∈ attachable effect detect plan ↔ ∃ v, p ∈ attachments v effect detect plan := by
  constructor
  · intro h
    obtain ⟨trues,-,hp⟩ := List.mem_flatMap.mp h
    exact ⟨_,hp⟩
  · rintro ⟨v,hp⟩
    let heads := plan.flatMap (fun a => a.nodes.map NodePlan.plugin)
    refine List.mem_flatMap.mpr ⟨heads.filter v,List.mem_sublists.mpr List.filter_sublist,?_⟩
    have hverdict : ∀ a ∈ plan, ∀ n ∈ a.nodes,
        v n.plugin = (heads.filter v).contains n.plugin := by
      intro a ha n hn
      have hmem : n.plugin ∈ heads := List.mem_flatMap.mpr ⟨a,ha,List.mem_map_of_mem hn⟩
      rw [Bool.eq_iff_iff,List.contains_iff_mem,List.mem_filter]
      exact ⟨fun h => ⟨hmem,h⟩,fun h => h.2⟩
    have hnone : held v none = held (heads.filter v).contains none := rfl
    have heq : attachments v effect detect plan =
        attachments (heads.filter v).contains effect detect plan :=
      attachAlternatives_congr hnone hverdict false
    exact heq ▸ hp

theorem Attaches.typed (h : Attaches v effect detect c current detector x)
    (hc : ∀ uid, current = some uid → detect uid = true) {P : String → Prop} (hP : c.All P) :
    detect detector = true ∧ effect x = true ∧ P x := by
  induction h with
  | here hs he => exact ⟨hc _ rfl,he,(Cursor.all_step hs hP).1⟩
  | @next c c' current current' uid detector x hs he _ ih =>
    refine ih (fun uid' h => ?_) (Cursor.all_step hs hP).2
    rw [evaluate] at he
    split at he
    · exact hc uid' ((Option.some.inj he).trans h)
    · split at he
      · rename_i hd
        obtain rfl := Option.some.inj ((Option.some.inj he).trans h)
        exact hd
      · cases he

end Walk

end Ovi
