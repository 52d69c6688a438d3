import Mathlib.Data.List.Basic
import Mathlib.Algebra.GroupWithZero.Nat
import Mathlib.Algebra.Order.BigOperators.Group.List

namespace Ovi

structure NodePlan where
  plugin : String
  effects : List String
  cut : Bool
deriving DecidableEq, Repr

structure Alternative where
  essential : Bool
  first : NodePlan
  rest : List NodePlan
deriving DecidableEq, Repr

def NodePlan.plugins (n : NodePlan) : List String := n.plugin :: n.effects
def Alternative.nodes (a : Alternative) : List NodePlan := a.first :: a.rest

structure Cursor where
  pos : Nat
  included : Bool
  cut : Bool
  left : List String
  nodes : List NodePlan
  alts : List Alternative
deriving DecidableEq, Repr

namespace Cursor

def start (a : Alternative) (as : List Alternative) : Cursor :=
  ⟨0,true,a.first.cut,a.first.plugins,a.rest,as⟩

def afterHead (n : NodePlan) (ns : List NodePlan) (as : List Alternative) : Cursor :=
  ⟨1,true,n.cut,n.effects,ns,as⟩

def enter : List Alternative → Option (String × Cursor)
  | [] => none
  | a :: as => some (a.first.plugin,afterHead a.first a.rest as)

def leave (nodes : List NodePlan) (alts : List Alternative) : Option (String × Cursor) :=
  match nodes with
  | n :: ns => some (n.plugin,afterHead n ns alts)
  | [] => enter (alts.dropWhile (!·.essential))

def include? (c : Cursor) (b : Bool) : Bool := !c.cut || b

def step (b : Bool) (c : Cursor) : Option (String × Cursor) :=
  let included := if c.pos = 1 then b else c.included
  if !c.include? b then enter c.alts
  else
    match included,c.left with
    | true,uid :: left => some (uid,{ c with pos := c.pos + 1, included := true, left := left })
    | _,_ => leave c.nodes c.alts

end Cursor

section Uids

def NodePlan.All (P : String → Prop) (n : NodePlan) : Prop := ∀ uid ∈ n.plugins, P uid
def Alternative.All (P : String → Prop) (a : Alternative) : Prop := ∀ n ∈ a.nodes, n.All P

structure Cursor.All (P : String → Prop) (c : Cursor) : Prop where
  left : ∀ uid ∈ c.left, P uid
  nodes : ∀ n ∈ c.nodes, n.All P
  alts : ∀ a ∈ c.alts, a.All P

variable {P : String → Prop} {b : Bool} {uid : String} {c c' : Cursor}

theorem Cursor.All.imp {Q : String → Prop} (hc : c.All P) (h : ∀ uid, P uid → Q uid) : c.All Q :=
  ⟨fun u hu => h u (hc.left u hu),fun n hn u hu => h u (hc.nodes n hn u hu),
    fun a ha n hn u hu => h u (hc.alts a ha n hn u hu)⟩

theorem Cursor.all_afterHead {n : NodePlan} {ns : List NodePlan} {as : List Alternative}
    (hn : n.All P) (hns : ∀ n ∈ ns, n.All P) (has : ∀ a ∈ as, a.All P) :
    P n.plugin ∧ (Cursor.afterHead n ns as).All P :=
  ⟨hn _ (by simp [NodePlan.plugins]),
    ⟨fun u hu => hn u (List.mem_cons_of_mem _ hu),hns,has⟩⟩

theorem Cursor.all_enter {as : List Alternative} (h : Cursor.enter as = some (uid,c'))
    (has : ∀ a ∈ as, a.All P) : P uid ∧ c'.All P := by
  cases as with
  | nil => cases h
  | cons a as =>
    obtain ⟨rfl,rfl⟩ : a.first.plugin = uid ∧ Cursor.afterHead a.first a.rest as = c' := by
      simpa [Cursor.enter] using h
    have ha := has a (by simp)
    exact Cursor.all_afterHead (ha a.first (by simp [Alternative.nodes]))
      (fun n hn => ha n (List.mem_cons_of_mem _ hn)) (fun a ha => has a (List.mem_cons_of_mem _ ha))

theorem Cursor.all_leave {nodes : List NodePlan} {alts : List Alternative}
    (h : Cursor.leave nodes alts = some (uid,c')) (hn : ∀ n ∈ nodes, n.All P)
    (ha : ∀ a ∈ alts, a.All P) : P uid ∧ c'.All P := by
  cases nodes with
  | nil => exact Cursor.all_enter h (fun a h => ha a ((List.dropWhile_sublist _).mem h))
  | cons n ns =>
    obtain ⟨rfl,rfl⟩ : n.plugin = uid ∧ Cursor.afterHead n ns alts = c' := by
      simpa [Cursor.leave] using h
    exact Cursor.all_afterHead (hn n (by simp)) (fun m hm => hn m (List.mem_cons_of_mem _ hm)) ha

theorem Cursor.all_step (h : c.step b = some (uid,c')) (hc : c.All P) : P uid ∧ c'.All P := by
  unfold Cursor.step at h
  dsimp only at h
  split at h
  · exact Cursor.all_enter h hc.alts
  · split at h
    · rename_i hl
      cases h
      exact ⟨hc.left _ (by simp [hl]),⟨fun x hx => hc.left x (by simp [hl,hx]),hc.nodes,hc.alts⟩⟩
    · exact Cursor.all_leave h hc.nodes hc.alts

end Uids

section Size

def Alternative.size (a : Alternative) : Nat := (a.nodes.map (·.plugins.length)).sum

def Cursor.size (c : Cursor) : Nat :=
  c.left.length + (c.nodes.map (·.plugins.length)).sum + (c.alts.map Alternative.size).sum

variable {b : Bool} {uid : String} {c c' : Cursor}

theorem Cursor.size_enter {as : List Alternative} (h : Cursor.enter as = some (uid,c')) :
    c'.size < (as.map Alternative.size).sum := by
  cases as with
  | nil => cases h
  | cons a as =>
    obtain ⟨-,rfl⟩ : a.first.plugin = uid ∧ Cursor.afterHead a.first a.rest as = c' := by
      simpa [Cursor.enter] using h
    simp only [Cursor.size,Cursor.afterHead,List.map_cons,List.sum_cons,Alternative.size,
      Alternative.nodes,NodePlan.plugins,List.length_cons]
    omega

theorem sum_dropWhile_le {α : Type} (p : α → Bool) (f : α → Nat) (xs : List α) :
    ((xs.dropWhile p).map f).sum ≤ (xs.map f).sum := by
  induction xs with
  | nil => simp
  | cons x xs ih =>
    rw [List.dropWhile_cons]
    split
    · simp only [List.map_cons,List.sum_cons]
      omega
    · exact le_rfl

theorem Cursor.size_leave {nodes : List NodePlan} {alts : List Alternative}
    (h : Cursor.leave nodes alts = some (uid,c')) :
    c'.size < (nodes.map (·.plugins.length)).sum + (alts.map Alternative.size).sum := by
  cases nodes with
  | nil =>
    have he := Cursor.size_enter h
    have hd := sum_dropWhile_le (!·.essential) Alternative.size alts
    simp only [List.map_nil,List.sum_nil,Nat.zero_add]
    omega
  | cons n ns =>
    obtain ⟨-,rfl⟩ : n.plugin = uid ∧ Cursor.afterHead n ns alts = c' := by
      simpa [Cursor.leave] using h
    simp only [Cursor.size,Cursor.afterHead,List.map_cons,List.sum_cons,NodePlan.plugins,
      List.length_cons]
    omega

theorem Cursor.size_step (h : c.step b = some (uid,c')) : c'.size < c.size := by
  unfold Cursor.step at h
  dsimp only at h
  split at h
  · have := Cursor.size_enter h
    simp only [Cursor.size] at this ⊢
    omega
  · split at h
    · rename_i hl
      cases h
      simp [Cursor.size,hl]
    · have := Cursor.size_leave h
      simp only [Cursor.size] at this ⊢
      omega

end Size

section Visits

variable (v : String → Bool)

def walk : List NodePlan → List NodePlan × Bool
  | [] => ([],true)
  | n :: ns => if v n.plugin || !n.cut then (n :: (walk ns).1,(walk ns).2) else ([n],false)

def visit : Bool → List Alternative → List NodePlan × Bool
  | ok, [] => ([],ok)
  | ok, a :: as =>
    if ok && !a.essential then visit ok as
    else ((walk v a.nodes).1 ++ (visit (walk v a.nodes).2 as).1,(visit (walk v a.nodes).2 as).2)

def emission (n : NodePlan) : List String := n.plugin :: if v n.plugin then n.effects else []

def feedback (effect : String → Bool) (b : Bool) (uid : String) : Bool :=
  if effect uid then b else v uid

inductive Runs (effect : String → Bool) : Cursor → Bool → List String → Bool → Prop
  | eop {c : Cursor} {b : Bool} : c.step b = none → Runs effect c b [] (c.include? b)
  | next {c c' : Cursor} {b r : Bool} {uid : String} {uids : List String} :
    c.step b = some (uid,c') → Runs effect c' (feedback v effect b uid) uids r →
      Runs effect c b (uid :: uids) r

def skip (ok : Bool) (as : List Alternative) : List Alternative :=
  if ok then as.dropWhile (!·.essential) else as

structure Typed (effect : String → Bool) (n : NodePlan) : Prop where
  head : effect n.plugin = false
  effects : ∀ uid ∈ n.effects, effect uid = true

variable {v}

theorem visit_skip (ok : Bool) (as : List Alternative) :
    visit v ok (skip ok as) = visit v ok as := by
  cases ok with
  | false => rfl
  | true =>
    induction as with
    | nil => rfl
    | cons a as ih =>
      simp only [skip,if_true] at ih ⊢
      rw [List.dropWhile_cons]
      by_cases h : a.essential = true
      · simp [h]
      · simp [visit,h,ih]

theorem visit_of_enter {ok : Bool} {as : List Alternative} {uid : String} {c : Cursor}
    (h : Cursor.enter (skip ok as) = some (uid,c)) :
    ∃ a as', uid = a.first.plugin ∧ c = Cursor.afterHead a.first a.rest as' ∧
      as'.length < as.length ∧ (∀ x ∈ a :: as', x ∈ as) ∧
      visit v ok as = ((walk v a.nodes).1 ++ (visit v (walk v a.nodes).2 as').1,
        (visit v (walk v a.nodes).2 as').2) := by
  have hsub : (skip ok as).Sublist as := by
    unfold skip
    split
    · exact List.dropWhile_sublist _
    · exact List.Sublist.refl as
  cases hs : skip ok as with
  | nil => simp [hs,Cursor.enter] at h
  | cons a as' =>
    rw [hs] at h hsub
    obtain ⟨rfl,rfl⟩ : a.first.plugin = uid ∧ Cursor.afterHead a.first a.rest as' = c := by
      simpa [Cursor.enter] using h
    refine ⟨a,as',rfl,rfl,hsub.length_le,fun x hx => hsub.mem hx,?_⟩
    have hess : ¬ (ok && !a.essential) = true := by
      cases ok with
      | false => simp
      | true =>
        have := List.head?_dropWhile_not (!·.essential) as
        simp only [skip,if_true] at hs
        simpa [hs] using this
    rw [← visit_skip,hs,visit,if_neg hess]

theorem visit_of_not_enter {ok : Bool} {as : List Alternative}
    (h : Cursor.enter (skip ok as) = none) : visit v ok as = ([],ok) := by
  cases hs : skip ok as with
  | nil => rw [← visit_skip,hs,visit]
  | cons a as' => simp [hs,Cursor.enter] at h

variable (v) in
def visitFrom (ns : List NodePlan) (as : List Alternative) : List NodePlan × Bool :=
  ((walk v ns).1 ++ (visit v (walk v ns).2 as).1,(visit v (walk v ns).2 as).2)

variable {effect : String → Bool}

variable (v effect) in
def RunsFrom (n : NodePlan) (ns : List NodePlan) (as : List Alternative) : Prop :=
  ∃ uids, (visitFrom v (n :: ns) as).1.flatMap (emission v) = n.plugin :: uids ∧
    Runs v effect (Cursor.afterHead n ns as) (v n.plugin) uids (visitFrom v (n :: ns) as).2

theorem runs_enter {c : Cursor} {b ok : Bool} {as : List Alternative}
    (hstep : c.step b = Cursor.enter (skip ok as)) (hok : c.include? b = ok)
    (htyped : ∀ a ∈ as, ∀ n ∈ a.nodes, Typed effect n)
    (hruns : ∀ a as', as'.length < as.length → (∀ x ∈ a :: as', x ∈ as) →
      RunsFrom v effect a.first a.rest as') :
    Runs v effect c b ((visit v ok as).1.flatMap (emission v)) (visit v ok as).2 := by
  cases he : Cursor.enter (skip ok as) with
  | none =>
    rw [visit_of_not_enter he,← hok]
    exact .eop (hstep.trans he)
  | some p =>
    obtain ⟨uid,c'⟩ := p
    obtain ⟨a,as',rfl,rfl,hlen,hmem,hvisit⟩ := visit_of_enter (v := v) he
    obtain ⟨uids,hu,hr⟩ := hruns a as' hlen hmem
    have hhead : effect a.first.plugin = false :=
      (htyped a (hmem a (by simp)) a.first (by simp [Alternative.nodes])).head
    have heq : visit v ok as = visitFrom v (a.first :: a.rest) as' := hvisit
    rw [heq,hu]
    exact .next (hstep.trans he) (by simpa [feedback,hhead] using hr)

theorem runs_leave {c : Cursor} {b : Bool} {ns : List NodePlan} {as : List Alternative}
    (hstep : c.step b = Cursor.leave ns as) (hok : c.include? b = true)
    (hns : ∀ n ∈ ns, Typed effect n) (htyped : ∀ a ∈ as, ∀ n ∈ a.nodes, Typed effect n)
    (hnode : ∀ n ns', ns = n :: ns' → RunsFrom v effect n ns' as)
    (hruns : ∀ a as', as'.length < as.length → (∀ x ∈ a :: as', x ∈ as) →
      RunsFrom v effect a.first a.rest as') :
    Runs v effect c b ((visitFrom v ns as).1.flatMap (emission v)) (visitFrom v ns as).2 := by
  cases ns with
  | nil =>
    have hstep' : c.step b = Cursor.enter (skip true as) := hstep
    exact runs_enter hstep' hok htyped hruns
  | cons n ns =>
    obtain ⟨uids,hu,hr⟩ := hnode n ns rfl
    rw [hu]
    exact .next hstep (by simpa [feedback,(hns n (by simp)).head] using hr)

theorem runs_effects {cut : Bool} {left uids : List String} {ns : List NodePlan}
    {as : List Alternative} {r : Bool} (pos : Nat) (hleft : ∀ uid ∈ left, effect uid = true)
    (hruns : ∀ pos, Runs v effect ⟨pos,true,cut,[],ns,as⟩ true uids r) :
    Runs v effect ⟨pos,true,cut,left,ns,as⟩ true (left ++ uids) r := by
  induction left generalizing pos with
  | nil => exact hruns pos
  | cons uid left ih =>
    have hrest := ih (pos + 1) (fun u hu => hleft u (List.mem_cons_of_mem _ hu))
    have hstep : (⟨pos,true,cut,uid :: left,ns,as⟩ : Cursor).step true =
        some (uid,⟨pos + 1,true,cut,left,ns,as⟩) := by
      simp [Cursor.step,Cursor.include?]
    exact .next hstep (by simpa [feedback,hleft uid (by simp)] using hrest)

theorem runsFrom_node {n : NodePlan} {ns : List NodePlan} {as : List Alternative}
    (hn : Typed effect n) (hns : ∀ n ∈ ns, Typed effect n)
    (htyped : ∀ a ∈ as, ∀ n ∈ a.nodes, Typed effect n)
    (hnode : ∀ n' ns', ns = n' :: ns' → RunsFrom v effect n' ns' as)
    (hruns : ∀ a as', as'.length < as.length → (∀ x ∈ a :: as', x ∈ as) →
      RunsFrom v effect a.first a.rest as') : RunsFrom v effect n ns as := by
  cases hv : v n.plugin with
  | true =>
    have hwalk : visitFrom v (n :: ns) as = (n :: (visitFrom v ns as).1,(visitFrom v ns as).2) := by
      simp [visitFrom,walk,hv]
    have hrest : Runs v effect (Cursor.afterHead n ns as) true
        (n.effects ++ (visitFrom v ns as).1.flatMap (emission v)) (visitFrom v ns as).2 :=
      runs_effects 1 hn.effects (fun pos => runs_leave (by simp [Cursor.step,Cursor.include?])
        (by simp [Cursor.include?]) hns htyped hnode hruns)
    rw [RunsFrom,hwalk,hv]
    exact ⟨_,by simp [emission,hv],hrest⟩
  | false =>
    cases hc : n.cut with
    | true =>
      have hwalk : visitFrom v (n :: ns) as = (n :: (visit v false as).1,(visit v false as).2) := by
        simp [visitFrom,walk,hv,hc]
      have hrest : Runs v effect (Cursor.afterHead n ns as) false
          ((visit v false as).1.flatMap (emission v)) (visit v false as).2 :=
        runs_enter (by simp [Cursor.step,Cursor.include?,Cursor.afterHead,hc,skip])
          (by simp [Cursor.include?,Cursor.afterHead,hc]) htyped hruns
      rw [RunsFrom,hwalk,hv]
      exact ⟨_,by simp [emission,hv],hrest⟩
    | false =>
      have hwalk : visitFrom v (n :: ns) as =
          (n :: (visitFrom v ns as).1,(visitFrom v ns as).2) := by
        simp [visitFrom,walk,hv,hc]
      have hrest : Runs v effect (Cursor.afterHead n ns as) false
          ((visitFrom v ns as).1.flatMap (emission v)) (visitFrom v ns as).2 :=
        runs_leave (by simp [Cursor.step,Cursor.include?,Cursor.afterHead,hc])
          (by simp [Cursor.include?,Cursor.afterHead,hc]) hns htyped hnode hruns
      rw [RunsFrom,hwalk,hv]
      exact ⟨_,by simp [emission,hv],hrest⟩

theorem runsFrom {n : NodePlan} {ns : List NodePlan} {as : List Alternative}
    (hn : Typed effect n) (hns : ∀ n ∈ ns, Typed effect n)
    (htyped : ∀ a ∈ as, ∀ n ∈ a.nodes, Typed effect n) : RunsFrom v effect n ns as := by
  induction hlen : as.length using Nat.strong_induction_on generalizing n ns as with
  | _ k ih =>
    have hruns : ∀ a as', as'.length < as.length → (∀ x ∈ a :: as', x ∈ as) →
        RunsFrom v effect a.first a.rest as' := by
      intro a as' hlt hmem
      have ha := htyped a (hmem a (by simp))
      exact ih as'.length (hlen ▸ hlt) (ha a.first (by simp [Alternative.nodes]))
        (fun n hn => ha n (List.mem_cons_of_mem _ hn))
        (fun x hx => htyped x (hmem x (List.mem_cons_of_mem _ hx))) rfl
    induction ns generalizing n with
    | nil => exact runsFrom_node hn hns htyped nofun hruns
    | cons n' ns' ihns =>
      have hnode := ihns (hns n' (by simp)) (fun m hm => hns m (List.mem_cons_of_mem _ hm))
      refine runsFrom_node hn hns htyped ?_ hruns
      rintro _ _ ⟨⟩
      exact hnode

theorem runs_start {a : Alternative} {as : List Alternative}
    (htyped : ∀ x ∈ a :: as, ∀ n ∈ x.nodes, Typed effect n) :
    Runs v effect (Cursor.start a as) true ((visit v false (a :: as)).1.flatMap (emission v))
      (visit v false (a :: as)).2 := by
  have ha := htyped a (by simp)
  have hfirst := ha a.first (by simp [Alternative.nodes])
  obtain ⟨uids,hu,hr⟩ := runsFrom (v := v) hfirst (fun n hn => ha n (List.mem_cons_of_mem _ hn))
    (fun x hx => htyped x (List.mem_cons_of_mem _ hx))
  have heq : visit v false (a :: as) = visitFrom v (a.first :: a.rest) as := by
    simp [visit,visitFrom,Alternative.nodes]
  have hstep : (Cursor.start a as).step true =
      some (a.first.plugin,Cursor.afterHead a.first a.rest as) := by
    simp [Cursor.step,Cursor.start,Cursor.include?,NodePlan.plugins,Cursor.afterHead]
  rw [heq,hu]
  exact .next hstep (by simpa [feedback,hfirst.head] using hr)

end Visits

end Ovi
