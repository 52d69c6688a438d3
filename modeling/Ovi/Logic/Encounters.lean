import Ovi.Logic.Attachments
import Ovi.Logic.Regularity
import Mathlib.Data.List.TakeWhile

namespace Ovi

def Evaluable (effect detect : String → Bool) (uid : String) : Prop :=
  effect uid = true ∨ detect uid = true

inductive Meets (v effect detect : String → Bool) : Cursor → Option String → String → Prop
  | here {c c' : Cursor} {current : Option String} {uid : String}
    (hs : c.step (held v current) = some (uid,c'))
    (he : evaluate effect detect current uid = none) : Meets v effect detect c current uid
  | next {c c' : Cursor} {current current' : Option String} {uid x : String}
    (hs : c.step (held v current) = some (uid,c'))
    (he : evaluate effect detect current uid = some current')
    (rest : Meets v effect detect c' current' x) : Meets v effect detect c current x

section Steps

variable {effect detect : String → Bool} {c c' : Cursor} {current : Option String} {uid : String}
  {b : Bool}

theorem evaluate_eq_none : evaluate effect detect current uid = none ↔
    ¬ Evaluable effect detect uid := by
  rw [evaluate,Evaluable]
  cases effect uid with
  | true => simp
  | false => cases detect uid <;> simp

theorem evaluate_some {detector : String} (h : Evaluable effect detect uid) :
    ∃ next, evaluate effect detect (some detector) uid = some (some next) := by
  rw [evaluate]
  cases he : effect uid with
  | true => exact ⟨detector,rfl⟩
  | false =>
    rw [if_neg Bool.false_ne_true,if_pos (h.resolve_left (by rw [he]; exact Bool.false_ne_true))]
    exact ⟨uid,rfl⟩

theorem Meets.not_evaluable {v : String → Bool} (h : Meets v effect detect c current uid) :
    ¬ Evaluable effect detect uid := by
  induction h with
  | here _ he => exact evaluate_eq_none.mp he
  | next _ _ _ ih => exact ih

theorem Cursor.enter_some {as : List Alternative} (h : Cursor.enter as = some (uid,c')) :
    ∃ a rest, as = a :: rest ∧ uid = a.first.plugin ∧
      c' = Cursor.afterHead a.first a.rest rest := by
  cases as with
  | nil => cases h
  | cons a rest =>
    cases h
    exact ⟨a,rest,rfl,rfl,rfl⟩

inductive CursorMoves (c : Cursor) (b : Bool) : String → Cursor → Prop
  | fail {a : Alternative} {as : List Alternative} (hcut : c.cut = true) (hb : b = false)
    (ha : c.alts = a :: as) : CursorMoves c b a.first.plugin (Cursor.afterHead a.first a.rest as)
  | emit {uid : String} {left : List String} (hl : c.left = uid :: left) :
    CursorMoves c b uid { c with pos := c.pos + 1, included := true, left := left }
  | node {n : NodePlan} {ns : List NodePlan} (hn : c.nodes = n :: ns) :
    CursorMoves c b n.plugin (Cursor.afterHead n ns c.alts)
  | pass {a : Alternative} {as : List Alternative} (hn : c.nodes = [])
    (ha : c.alts.dropWhile (!·.essential) = a :: as) :
    CursorMoves c b a.first.plugin (Cursor.afterHead a.first a.rest as)

theorem Cursor.moves (h : c.step b = some (uid,c')) : CursorMoves c b uid c' := by
  unfold Cursor.step at h
  dsimp only at h
  split at h
  · rename_i hinclude
    obtain ⟨a,as,ha,rfl,rfl⟩ := Cursor.enter_some h
    rw [Cursor.include?] at hinclude
    have hcut : c.cut = true ∧ b = false := by simpa using hinclude
    exact .fail hcut.1 hcut.2 ha
  · split at h
    · rename_i hl
      cases h
      exact .emit hl
    · unfold Cursor.leave at h
      split at h
      · rename_i hn
        cases h
        exact .node hn
      · rename_i hn
        obtain ⟨a,as,ha,rfl,rfl⟩ := Cursor.enter_some h
        exact .pass hn ha

end Steps

section AllTrue

variable {effect detect : String → Bool} {c : Cursor} {current : Option String}

theorem not_meets_step {v : String → Bool} {c' : Cursor} {uid : String}
    (h : ∀ x, ¬ Meets v effect detect c current x)
    (hs : c.step (held v current) = some (uid,c')) :
    Evaluable effect detect uid ∧
      ∃ next, ∀ x, ¬ Meets v effect detect c' next x := by
  cases he : evaluate effect detect current uid with
  | none => exact absurd (.here hs he) (h uid)
  | some next =>
    refine ⟨?_,next,fun x hx => h x (.next hs he hx)⟩
    by_contra hnot
    rw [evaluate_eq_none.mpr hnot] at he
    cases he

theorem mem_of_essential {as : List Alternative} {x : Alternative} (hx : x ∈ as)
    (he : x.essential = true) : x ∈ as.dropWhile (!·.essential) := by
  rw [← List.takeWhile_append_dropWhile (p := (!·.essential)) (l := as)] at hx
  rcases List.mem_append.mp hx with hx | hx
  · have hnot := List.mem_takeWhile_imp hx
    rw [he] at hnot
    cases hnot
  · exact hx

theorem evaluable_of_true (hinc : c.included = true)
    (h : ∀ x, ¬ Meets (fun _ => true) effect detect c current x) :
    (∀ uid ∈ c.left, Evaluable effect detect uid) ∧
      (∀ n ∈ c.nodes, n.All (Evaluable effect detect)) ∧
      ∀ x ∈ c.alts, x.essential = true → x.All (Evaluable effect detect) := by
  induction hn : c.size using Nat.strong_induction_on generalizing c current with
  | _ k ih =>
    subst hn
    have hheld : held (fun _ => true) current = true := by
      cases current <;> rfl
    have hstep : ∀ {uid : String} {c' : Cursor}, c.step true = some (uid,c') →
        c'.included = true → Evaluable effect detect uid ∧
          (∀ uid ∈ c'.left, Evaluable effect detect uid) ∧
          (∀ n ∈ c'.nodes, n.All (Evaluable effect detect)) ∧
          ∀ x ∈ c'.alts, x.essential = true → x.All (Evaluable effect detect) := by
      intro uid c' hs hinc'
      have hsize := Cursor.size_step hs
      rw [← hheld] at hs
      obtain ⟨huid,next,hrest⟩ := not_meets_step h hs
      exact ⟨huid,ih _ hsize hinc' hrest rfl⟩
    obtain ⟨pos,included,cut,left,nodes,alts⟩ := c
    obtain rfl : included = true := hinc
    cases left with
    | cons uid left =>
      have hname : (⟨pos,true,cut,uid :: left,nodes,alts⟩ : Cursor).step true =
          some (uid,⟨pos + 1,true,cut,left,nodes,alts⟩) := by
        simp [Cursor.step,Cursor.include?]
      obtain ⟨huid,hleft,hnodes,halts⟩ := hstep hname rfl
      exact ⟨List.forall_mem_cons.mpr ⟨huid,hleft⟩,hnodes,halts⟩
    | nil =>
      refine ⟨List.forall_mem_nil _,?_⟩
      have hleave : (⟨pos,true,cut,[],nodes,alts⟩ : Cursor).step true =
          Cursor.leave nodes alts := by
        simp [Cursor.step,Cursor.include?]
      cases nodes with
      | cons n ns =>
        obtain ⟨huid,hleft,hnodes,halts⟩ := hstep hleave rfl
        exact ⟨List.forall_mem_cons.mpr ⟨List.forall_mem_cons.mpr ⟨huid,hleft⟩,hnodes⟩,halts⟩
      | nil =>
        refine ⟨List.forall_mem_nil _,fun x hx he => ?_⟩
        have hmem := mem_of_essential hx he
        cases has : alts.dropWhile (!·.essential) with
        | nil =>
          rw [has] at hmem
          cases hmem
        | cons e es =>
          rw [Cursor.leave,has] at hleave
          obtain ⟨huid,hleft,hnodes,halts⟩ := hstep hleave rfl
          rw [has] at hmem
          rcases List.mem_cons.mp hmem with rfl | hmem
          · exact List.forall_mem_cons.mpr ⟨List.forall_mem_cons.mpr ⟨huid,hleft⟩,hnodes⟩
          · exact halts x hmem he

end AllTrue

section AllFalse

variable {v effect detect : String → Bool} {c c' : Cursor} {current : Option String}
  {a : Alternative} {as : List Alternative} {uid : String}

def Cursor.target (c : Cursor) : List Alternative :=
  if c.cut || c.nodes.any NodePlan.cut then c.alts else c.alts.dropWhile (!·.essential)

def Falls (effect detect : String → Bool) (as : List Alternative) : Prop :=
  ∀ c detector, c.step false = Cursor.enter as →
    ∃ uid, Meets (fun _ => false) effect detect c (some detector) uid

theorem meets_false_next {detector : String} (hs : c.step false = some (uid,c'))
    (h : ∀ next, ∃ x, Meets (fun _ => false) effect detect c' (some next) x) :
    ∃ x, Meets (fun _ => false) effect detect c (some detector) x := by
  by_cases hu : Evaluable effect detect uid
  · obtain ⟨next,hnext⟩ := evaluate_some hu
    obtain ⟨x,hx⟩ := h next
    exact ⟨x,.next hs hnext hx⟩
  · exact ⟨uid,.here hs (evaluate_eq_none.mpr hu)⟩

theorem meets_of_falls (h : Falls effect detect c.target) (detector : String) :
    ∃ uid, Meets (fun _ => false) effect detect c (some detector) uid := by
  induction hn : c.size using Nat.strong_induction_on generalizing c detector with
  | _ k ih =>
    subst hn
    obtain ⟨pos,included,cut,left,nodes,alts⟩ := c
    cases cut with
    | true => exact h _ detector (by simp [Cursor.step,Cursor.include?,Cursor.target])
    | false =>
      have hleave : ((if pos = 1 then false else included) = false ∨ left = []) →
          (⟨pos,included,false,left,nodes,alts⟩ : Cursor).step false =
            Cursor.leave nodes alts := by
        rintro (hinc | rfl)
        · simp [Cursor.step,Cursor.include?,hinc]
        · simp [Cursor.step,Cursor.include?]
      have hleft : (⟨pos,included,false,left,nodes,alts⟩ : Cursor).step false =
          Cursor.leave nodes alts → ∃ uid, Meets (fun _ => false) effect detect
            ⟨pos,included,false,left,nodes,alts⟩ (some detector) uid := by
        intro hs
        cases nodes with
        | nil => exact h _ detector hs
        | cons n ns =>
          have hrest : Falls effect detect (Cursor.afterHead n ns alts).target := h
          exact meets_false_next hs fun next => ih _ (Cursor.size_step hs) hrest next rfl
      cases hinc : if pos = 1 then false else included with
      | false => exact hleft (hleave (.inl hinc))
      | true =>
        cases left with
        | nil => exact hleft (hleave (.inr rfl))
        | cons uid left =>
          have hs : (⟨pos,included,false,uid :: left,nodes,alts⟩ : Cursor).step false =
              some (uid,⟨pos + 1,true,false,left,nodes,alts⟩) := by
            simp [Cursor.step,Cursor.include?,hinc]
          have hrest : Falls effect detect
              (⟨pos + 1,true,false,left,nodes,alts⟩ : Cursor).target := h
          exact meets_false_next hs fun next => ih _ (Cursor.size_step hs) hrest next rfl

theorem falls_first (h : ¬ Evaluable effect detect a.first.plugin) :
    Falls effect detect (a :: as) := by
  intro c detector hs
  exact ⟨_,.here hs (evaluate_eq_none.mpr h)⟩

theorem Falls.cons (h : Falls effect detect (Cursor.afterHead a.first a.rest as).target) :
    Falls effect detect (a :: as) := by
  intro c detector hs
  exact meets_false_next hs (meets_of_falls h)

theorem Falls.skipped (h : Falls effect detect (as.dropWhile (!·.essential))) :
    Falls effect detect as := by
  induction as with
  | nil => exact h
  | cons a as ih =>
    rw [List.dropWhile_cons] at h
    split at h
    · refine Falls.cons ?_
      rw [Cursor.target]
      split
      · exact ih h
      · exact h
    · exact h

theorem falls_alts (h : Falls effect detect c.target) : Falls effect detect c.alts := by
  rw [Cursor.target] at h
  split at h
  · exact h
  · exact h.skipped

structure Alternative.Mostly (P : String → Prop) (a : Alternative) : Prop where
  head : a.essential = true → P a.first.plugin
  effects : ∀ uid ∈ a.first.effects, P uid
  rest : ∀ n ∈ a.rest, n.All P

structure Cursor.Mostly (P : String → Prop) (c : Cursor) : Prop where
  left : ∀ uid ∈ c.left, P uid
  nodes : ∀ n ∈ c.nodes, n.All P
  alts : ∀ a ∈ c.alts, a.Mostly P

theorem mem_of_dropWhile (h : c.alts.dropWhile (!·.essential) = a :: as) :
    a ∈ c.alts ∧ (∀ x ∈ as, x ∈ c.alts) ∧ a.essential = true := by
  have hsub := List.dropWhile_sublist (!·.essential) (l := c.alts)
  have hhead := List.head?_dropWhile_not (!·.essential) c.alts
  rw [h] at hsub hhead
  refine ⟨hsub.mem List.mem_cons_self,fun x hx => hsub.mem (List.mem_cons_of_mem _ hx),?_⟩
  simpa using hhead

theorem Cursor.Mostly.moves {P : String → Prop} {b : Bool} (hc : c.Mostly P)
    (hm : CursorMoves c b uid c') : c'.Mostly P := by
  cases hm with
  | fail _ _ ha =>
    have halts := hc.alts
    rw [ha] at halts
    obtain ⟨hfirst,hrest⟩ := List.forall_mem_cons.mp halts
    exact ⟨hfirst.effects,hfirst.rest,hrest⟩
  | emit hl =>
    have hleft := hc.left
    rw [hl] at hleft
    exact ⟨(List.forall_mem_cons.mp hleft).2,hc.nodes,hc.alts⟩
  | node hn =>
    have hnodes := hc.nodes
    rw [hn] at hnodes
    obtain ⟨hall,hns⟩ := List.forall_mem_cons.mp hnodes
    exact ⟨fun u hu => hall u (List.mem_cons_of_mem _ hu),hns,hc.alts⟩
  | pass _ ha =>
    obtain ⟨hmem,hrest,-⟩ := mem_of_dropWhile ha
    have hfirst := hc.alts _ hmem
    exact ⟨hfirst.effects,hfirst.rest,fun x hx => hc.alts x (hrest x hx)⟩

theorem falls_of_meets (h : Meets v effect detect c current uid)
    (hc : c.Mostly (Evaluable effect detect)) : Falls effect detect c.target := by
  induction h with
  | @here c c' current uid hs he =>
    have hnot := evaluate_eq_none.mp he
    cases Cursor.moves hs with
    | fail hcut _ ha =>
      rw [Cursor.target,hcut,Bool.true_or,if_pos rfl,ha]
      exact falls_first hnot
    | emit hl => exact absurd (hc.left _ (hl ▸ List.mem_cons_self)) hnot
    | node hn =>
      have hall := hc.nodes _ (hn ▸ List.mem_cons_self)
      exact absurd (hall _ List.mem_cons_self) hnot
    | pass _ ha =>
      obtain ⟨hmem,-,hessential⟩ := mem_of_dropWhile ha
      exact absurd ((hc.alts _ hmem).head hessential) hnot
  | @next c c' current current' uid x hs he _ ih =>
    have hmoves := Cursor.moves hs
    have hfalls := ih (hc.moves hmoves)
    cases hmoves with
    | fail hcut _ ha =>
      rw [Cursor.target,hcut,Bool.true_or,if_pos rfl,ha]
      exact hfalls.cons
    | emit _ => exact hfalls
    | @node n ns hn =>
      have halts : Falls effect detect c.alts :=
        falls_alts (c := Cursor.afterHead n ns c.alts) hfalls
      rw [Cursor.target,hn,List.any_cons]
      cases c.cut with
      | true => exact halts
      | false => exact hfalls
    | pass _ ha =>
      have hdropped : Falls effect detect (c.alts.dropWhile (!·.essential)) := by
        rw [ha]
        exact hfalls.cons
      rw [Cursor.target]
      split
      · exact hdropped.skipped
      · exact hdropped

theorem meets_false_of_meets (h : Meets v effect detect c current uid) (hnone : current = none)
    (hc : c.Mostly (Evaluable effect detect)) :
    ∃ x, Meets (fun _ => false) effect detect c none x := by
  induction h with
  | here hs he =>
    subst hnone
    exact ⟨_,.here hs he⟩
  | @next c c' current current' uid x hs he hrest ih =>
    subst hnone
    have hc' := hc.moves (Cursor.moves hs)
    cases current' with
    | none =>
      obtain ⟨y,hy⟩ := ih rfl hc'
      exact ⟨y,.next hs he hy⟩
    | some detector =>
      obtain ⟨y,hy⟩ := meets_of_falls (falls_of_meets hrest hc') detector
      exact ⟨y,.next hs he hy⟩

end AllFalse

theorem meets_constant {v effect detect : String → Bool} {a : Alternative} {as : List Alternative}
    {uid : String} (hr : RegularPlan a as)
    (h : Meets v effect detect (Cursor.start a as) none uid) :
    ∃ b x, Meets (fun _ => b) effect detect (Cursor.start a as) none x := by
  by_contra hno
  have hnot : ∀ b x, ¬ Meets (fun _ => b) effect detect (Cursor.start a as) none x :=
    fun b x hx => hno ⟨b,x,hx⟩
  obtain ⟨hleft,hnodes,halts⟩ := evaluable_of_true rfl (hnot true)
  have hall : ∀ n ∈ a.nodes, n.All (Evaluable effect detect) :=
    List.forall_mem_cons.mpr ⟨hleft,hnodes⟩
  have hmostly : (Cursor.start a as).Mostly (Evaluable effect detect) := by
    refine ⟨hleft,hnodes,fun x hx => ⟨fun he => ?_,fun u hu => ?_,fun n hn => ?_⟩⟩
    · exact halts x hx he x.first List.mem_cons_self _ List.mem_cons_self
    · cases he : x.essential with
      | true => exact halts x hx he x.first List.mem_cons_self u (List.mem_cons_of_mem _ hu)
      | false =>
        rw [hr.bare x hx he] at hu
        cases hu
    · exact hall n (hr.shared x hx n hn)
  obtain ⟨x,hx⟩ := meets_false_of_meets h rfl hmostly
  exact hnot false x hx

end Ovi
