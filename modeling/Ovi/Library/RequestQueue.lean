import Mathlib.Logic.Function.Basic
import Mathlib.Data.Set.Basic

namespace RequestQueue

-- `enter` runs under the lock that guards the queue, `serve` in the thread of the one worker
structure Service (K C Q S R : Type) where
  enter : K → C → K × Q
  serve : S → Q → S × Option R
  awaited : Q → Bool
  answered : ∀ s q, (serve s q).2.isSome = awaited q

inductive Caller (R : Type) where
  | free
  | blocked
  | answered (r : R)

def Caller.isBlocked {R : Type} : Caller R → Bool
  | .blocked => true
  | _ => false

structure State (T K Q S R : Type) where
  front : K
  server : S
  req : List (T × Q)
  callers : T → Caller R

inductive Label (T C R : Type) where
  | call (t : T) (c : C)
  | answer (t : T) (r : R)
  | work

def Label.visible {T C R : Type} : Label T C R → Bool
  | .work => false
  | _ => true

def Label.prompt {T C R : Type} : Label T C R → List (Label T C R)
  | .call t c => [.call t c,.work]
  | a => [a]

theorem Label.filter_prompt {T C R : Type} (as : List (Label T C R)) :
    (as.flatMap Label.prompt).filter Label.visible = as.filter Label.visible := by
  induction as with
  | nil => rfl
  | cons a as ih =>
    cases a with
    | call t c | answer t r => exact congrArg (List.cons _) ih
    | work => exact ih

def Label.by {T C R : Type} : Label T C R → Option T
  | .call t _ => some t
  | .answer t _ => some t
  | .work => none

variable {T K C Q S R : Type} [DecidableEq T] (V : Service K C Q S R)

namespace State

variable {x x' : State T K Q S R} {t t' : T}

def setCaller (x : State T K Q S R) (t : T) (v : Caller R) : State T K Q S R :=
  { x with callers := Function.update x.callers t v }

def push (x : State T K Q S R) (k : K) (t : T) (q : Q) : State T K Q S R :=
  let y := { x with front := k, req := x.req ++ [(t,q)] }
  if V.awaited q then y.setCaller t .blocked else y

def took (x : State T K Q S R) (p : T × Q) : State T K Q S R :=
  let y := { x with server := (V.serve x.server p.2).1 }
  match (V.serve x.server p.2).2 with
  | none => y
  | some r => y.setCaller p.1 (.answered r)

def get [DecidableEq R] (x : State T K Q S R) (t : T) (r : R) : Option (State T K Q S R) :=
  match x.callers t with
  | .answered r' => if r = r' then some (x.setCaller t .free) else none
  | _ => none

def step [DecidableEq R] (x : State T K Q S R) : Label T C R → Option (State T K Q S R)
  | .call t c =>
    match x.callers t with
    | .free => some (x.push V (V.enter x.front c).1 t (V.enter x.front c).2)
    | _ => none
  | .answer t r => x.get t r
  | .work =>
    match x.req with
    | [] => some x
    | p :: req => some (took V { x with req := req } p)

-- the object the queue stands for: a call takes effect at once
def atomicStep [DecidableEq R] (x : State T K Q S R) : Label T C R → Option (State T K Q S R)
  | .call t c =>
    match x.callers t with
    | .free => some (took V { x with front := (V.enter x.front c).1 } (t,(V.enter x.front c).2))
    | _ => none
  | .answer t r => x.get t r
  | .work => some x

def settled (x : State T K Q S R) : State T K Q S R := x.req.foldl (took V) { x with req := [] }

def pending (t : T) (req : List (T × Q)) : Nat :=
  req.countP fun p => decide (p.1 = t) && V.awaited p.2

def Tidy (x : State T K Q S R) : Prop :=
  ∀ t, pending V t x.req = (x.callers t).isBlocked.toNat

@[simp] theorem setCaller_callers (v : Caller R) :
    (x.setCaller t v).callers t = v := Function.update_self _ _ _

theorem setCaller_ne (v : Caller R) (h : t' ≠ t) :
    (x.setCaller t v).callers t' = x.callers t' := Function.update_of_ne h _ _

@[simp] theorem setCaller_req (v : Caller R) : (x.setCaller t v).req = x.req := rfl

@[simp] theorem setCaller_server (v : Caller R) : (x.setCaller t v).server = x.server := rfl

theorem setCaller_twice (v w : Caller R) : (x.setCaller t v).setCaller t w = x.setCaller t w := by
  simp only [setCaller,Function.update_idem]

theorem setCaller_comm (v w : Caller R) (h : t ≠ t') :
    (x.setCaller t v).setCaller t' w = (x.setCaller t' w).setCaller t v := by
  simp only [setCaller,Function.update_comm h]

theorem took_unawaited {p : T × Q} (h : V.awaited p.2 = false) :
    x.took V p = { x with server := (V.serve x.server p.2).1 } := by
  have hnone : (V.serve x.server p.2).2 = none := by
    simpa [h] using V.answered x.server p.2
  simp only [took,hnone]

theorem took_awaited {p : T × Q} (h : V.awaited p.2 = true) :
    ∃ r, (V.serve x.server p.2).2 = some r ∧ x.took V p =
      { x with server := (V.serve x.server p.2).1 }.setCaller p.1 (.answered r) := by
  have hsome : (V.serve x.server p.2).2.isSome := by rw [V.answered,h]
  obtain ⟨r,hr⟩ := Option.isSome_iff_exists.mp hsome
  exact ⟨r,hr,by simp only [took,hr]⟩

theorem took_req (p : T × Q) : (x.took V p).req = x.req := by
  rw [took]
  cases (V.serve x.server p.2).2 <;> rfl

theorem took_front (p : T × Q) : (x.took V p).front = x.front := by
  rw [took]
  cases (V.serve x.server p.2).2 <;> rfl

theorem took_with_front (k : K) (p : T × Q) :
    took V { x with front := k } p = { x.took V p with front := k } := by
  rw [took,took]
  cases (V.serve x.server p.2).2 <;> rfl

theorem took_with_req (req : List (T × Q)) (p : T × Q) :
    took V { x with req := req } p = { x.took V p with req := req } := by
  rw [took,took]
  cases (V.serve x.server p.2).2 <;> rfl

theorem took_caller {p : T × Q} (h : ¬(p.1 = t ∧ V.awaited p.2 = true)) :
    (x.took V p).callers t = x.callers t := by
  cases ha : V.awaited p.2 with
  | false => rw [took_unawaited V ha]
  | true =>
    obtain ⟨r,_,hr⟩ := took_awaited V (x := x) ha
    rw [hr]
    exact setCaller_ne _ fun he => h ⟨he.symm,ha⟩

theorem took_setCaller {p : T × Q} (h : ¬(p.1 = t ∧ V.awaited p.2 = true)) (v : Caller R) :
    (x.setCaller t v).took V p = (x.took V p).setCaller t v := by
  cases ha : V.awaited p.2 with
  | false => rw [took_unawaited V ha,took_unawaited V ha]; rfl
  | true =>
    have hne : t ≠ p.1 := fun he => h ⟨he.symm,ha⟩
    rw [took,took,setCaller_server]
    cases (V.serve x.server p.2).2 with
    | none => rfl
    | some r => exact setCaller_comm (x := { x with server := (V.serve x.server p.2).1 }) _ _ hne

theorem pending_cons_pos {p : T × Q} {req : List (T × Q)} (h : p.1 = t ∧ V.awaited p.2 = true) :
    pending V t (p :: req) = pending V t req + 1 :=
  List.countP_cons_of_pos (by simp [h])

theorem pending_cons_neg {p : T × Q} {req : List (T × Q)}
    (h : ¬(p.1 = t ∧ V.awaited p.2 = true)) : pending V t (p :: req) = pending V t req :=
  List.countP_cons_of_neg (by simpa using h)

theorem pending_append (req req' : List (T × Q)) :
    pending V t (req ++ req') = pending V t req + pending V t req' := List.countP_append

theorem pending_drop {req : List (T × Q)} (h : pending V t req = 0) (n : Nat) :
    pending V t (req.drop n) = 0 := by
  have hsub := List.Sublist.countP_le (p := fun p : T × Q => decide (p.1 = t) && V.awaited p.2)
    (List.drop_sublist n req)
  rw [pending] at h
  rw [pending]
  omega

theorem not_awaited_of_pending {p : T × Q} {req : List (T × Q)}
    (h : pending V t (p :: req) = 0) :
    ¬(p.1 = t ∧ V.awaited p.2 = true) ∧ pending V t req = 0 := by
  have hp : ¬(p.1 = t ∧ V.awaited p.2 = true) := fun hpos => by
    rw [pending_cons_pos V hpos] at h
    cases h
  exact ⟨hp,by rwa [pending_cons_neg V hp] at h⟩

theorem foldl_took_setCaller {req : List (T × Q)} (h : pending V t req = 0) (v : Caller R)
    (x : State T K Q S R) :
    req.foldl (took V) (x.setCaller t v) = (req.foldl (took V) x).setCaller t v := by
  induction req generalizing x with
  | nil => rfl
  | cons p req ih =>
    obtain ⟨hp,hreq⟩ := not_awaited_of_pending V h
    rw [List.foldl_cons,took_setCaller V hp,ih hreq,List.foldl_cons]

theorem foldl_took_caller {req : List (T × Q)} (h : pending V t req = 0)
    (x : State T K Q S R) : (req.foldl (took V) x).callers t = x.callers t := by
  induction req generalizing x with
  | nil => rfl
  | cons p req ih =>
    obtain ⟨hp,hreq⟩ := not_awaited_of_pending V h
    rw [List.foldl_cons,ih hreq,took_caller V hp]

theorem foldl_took_front (req : List (T × Q)) (x : State T K Q S R) :
    (req.foldl (took V) x).front = x.front :=
  List.foldlRecOn req (took V) (motive := fun y => y.front = x.front) rfl
    fun _ h p _ => (took_front V p).trans h

theorem foldl_took_with_front (req : List (T × Q)) (k : K) (x : State T K Q S R) :
    req.foldl (took V) { x with front := k } = { req.foldl (took V) x with front := k } := by
  induction req generalizing x with
  | nil => rfl
  | cons p req ih => rw [List.foldl_cons,took_with_front,ih,List.foldl_cons]

theorem pending_of_not_blocked (h : Tidy V x) (ht : (x.callers t).isBlocked = false) :
    pending V t x.req = 0 := by
  rw [h t,ht]
  rfl

theorem settled_caller (h : Tidy V x) (ht : (x.callers t).isBlocked = false) :
    (x.settled V).callers t = x.callers t :=
  foldl_took_caller V (pending_of_not_blocked V h ht) _

theorem settled_front : (x.settled V).front = x.front := foldl_took_front V _ _

theorem settled_setCaller (h : Tidy V x) (ht : (x.callers t).isBlocked = false) (v : Caller R) :
    (x.setCaller t v).settled V = (x.settled V).setCaller t v :=
  foldl_took_setCaller V (pending_of_not_blocked V h ht) v { x with req := [] }

theorem took_blocked {q : Q} (h : V.awaited q = true) (v : Caller R) :
    took V (x.setCaller t v) (t,q) = took V x (t,q) := by
  obtain ⟨r,hr,_⟩ := took_awaited V (x := x) (p := (t,q)) h
  have hr' : (V.serve x.server q).2 = some r := hr
  simp only [took,setCaller_server,hr']
  exact setCaller_twice (x := { x with server := (V.serve x.server q).1 }) _ _

theorem settled_push (h : Tidy V x) (ht : (x.callers t).isBlocked = false) (k : K) (q : Q) :
    (x.push V k t q).settled V = took V { x.settled V with front := k } (t,q) := by
  have hfold : (x.req ++ [(t,q)]).foldl (took V) { x with front := k, req := [] } =
      took V { x.settled V with front := k } (t,q) := by
    rw [List.foldl_append]
    exact congrArg (fun y => took V y (t,q))
      (foldl_took_with_front V x.req k { x with req := [] })
  rw [push]
  cases ha : V.awaited q with
  | false => exact hfold
  | true =>
    have hzero := pending_of_not_blocked V h ht
    rw [if_pos rfl,settled,setCaller_req,← hfold,List.foldl_append,List.foldl_append]
    have hcomm := foldl_took_setCaller V hzero .blocked { x with front := k, req := [] }
    exact (congrArg (fun y => took V y (t,q)) hcomm).trans (took_blocked V ha _)

theorem tidy_push (h : Tidy V x) (ht : (x.callers t).isBlocked = false) (k : K) (q : Q) :
    Tidy V (x.push V k t q) := by
  intro t'
  rw [push]
  cases ha : V.awaited q with
  | false =>
    have hlast : pending V t' [(t,q)] = 0 :=
      pending_cons_neg V (by simp [ha])
    exact (pending_append V _ _).trans (by rw [hlast]; exact h t')
  | true =>
    rw [if_pos rfl,setCaller_req,pending_append]
    by_cases hne : t' = t
    · subst hne
      have hlast : pending V t' [(t',q)] = 1 := pending_cons_pos V ⟨rfl,ha⟩
      rw [pending_of_not_blocked V h ht,hlast,setCaller_callers]
      rfl
    · rw [setCaller_ne _ hne,pending_cons_neg V (fun hp => hne hp.1.symm)]
      exact h t'

theorem tidy_took {p : T × Q} {req : List (T × Q)} (h : Tidy V x) (hreq : x.req = p :: req) :
    Tidy V (took V { x with req := req } p) := by
  intro t
  rw [took_req]
  have hx := h t
  rw [hreq] at hx
  by_cases hp : p.1 = t ∧ V.awaited p.2 = true
  · obtain ⟨r,_,hr⟩ := took_awaited V (x := { x with req := req }) hp.2
    rw [pending_cons_pos V hp] at hx
    rw [hr,← hp.1,setCaller_callers,hp.1]
    change pending V t req = 0
    have hle := Bool.toNat_le (x.callers t).isBlocked
    omega
  · rw [took_caller V hp]
    rwa [pending_cons_neg V hp] at hx

theorem tidy_setCaller (h : Tidy V x) (ht : (x.callers t).isBlocked = false) {v : Caller R}
    (hv : v.isBlocked = false) : Tidy V (x.setCaller t v) := by
  intro t'
  rw [setCaller_req]
  by_cases hne : t' = t
  · subst hne
    rw [setCaller_callers,hv]
    exact pending_of_not_blocked V h ht
  · rw [setCaller_ne _ hne]
    exact h t'

theorem settled_of_idle (hreq : x.req = []) : x.settled V = x := by
  cases x
  cases hreq
  rfl

variable [DecidableEq R]

theorem get_eq_some {r : R} :
    x.get t r = some x' ↔ x.callers t = .answered r ∧ x' = x.setCaller t .free := by
  rw [get]
  cases x.callers t with
  | free | blocked => simp
  | answered r' =>
    simp only [Caller.answered.injEq,Option.ite_none_right_eq_some,Option.some.injEq]
    exact ⟨fun h => ⟨h.1.symm,h.2.symm⟩,fun h => ⟨h.1.symm,h.2.symm⟩⟩

theorem step_call_eq_some {c : C} :
    x.step V (.call t c) = some x' ↔ x.callers t = .free ∧
      x' = x.push V (V.enter x.front c).1 t (V.enter x.front c).2 := by
  rw [step]
  cases x.callers t with
  | blocked | answered => simp
  | free => exact ⟨fun h => ⟨rfl,(Option.some.inj h).symm⟩,fun h => congrArg some h.2.symm⟩

theorem atomicStep_call_eq_some {c : C} :
    x.atomicStep V (.call t c) = some x' ↔ x.callers t = .free ∧
      x' = took V { x with front := (V.enter x.front c).1 } (t,(V.enter x.front c).2) := by
  rw [atomicStep]
  cases x.callers t with
  | blocked | answered => simp
  | free => exact ⟨fun h => ⟨rfl,(Option.some.inj h).symm⟩,fun h => congrArg some h.2.symm⟩

theorem step_work : x.step (C := C) V .work = some (match x.req with
    | [] => x
    | p :: req => took V { x with req := req } p) := by
  rw [step]
  cases x.req <;> rfl

theorem tidy_step {a : Label T C R} (h : Tidy V x) (hs : x.step V a = some x') : Tidy V x' := by
  cases a with
  | call t c =>
    obtain ⟨ht,rfl⟩ := (step_call_eq_some V).mp hs
    exact tidy_push V h (by rw [ht]; rfl) _ _
  | answer t r =>
    obtain ⟨ht,rfl⟩ := get_eq_some.mp hs
    exact tidy_setCaller V h (by rw [ht]; rfl) rfl
  | work =>
    rw [step_work] at hs
    obtain rfl := Option.some.inj hs
    cases hreq : x.req with
    | nil => exact h
    | cons p req => exact tidy_took V h hreq

theorem settled_step {a : Label T C R} (h : Tidy V x) (hs : x.step V a = some x') :
    (x.settled V).atomicStep V a = some (x'.settled V) := by
  cases a with
  | call t c =>
    obtain ⟨ht,rfl⟩ := (step_call_eq_some V).mp hs
    have hfree : (x.callers t).isBlocked = false := by rw [ht]; rfl
    refine (atomicStep_call_eq_some V).mpr ⟨(settled_caller V h hfree).trans ht,?_⟩
    rw [settled_push V h hfree,settled_front]
  | answer t r =>
    obtain ⟨ht,rfl⟩ := get_eq_some.mp hs
    have hfree : (x.callers t).isBlocked = false := by rw [ht]; rfl
    refine get_eq_some.mpr ⟨(settled_caller V h hfree).trans ht,?_⟩
    rw [settled_setCaller V h hfree]
  | work =>
    rw [step_work] at hs
    obtain rfl := Option.some.inj hs
    refine congrArg some ?_
    cases hreq : x.req with
    | nil => rfl
    | cons p req =>
      have hsame : took V { x with req := [] } p =
          { took V { x with req := req } p with req := [] } :=
        (took_with_req V [] p).trans (by rw [took_with_req V req p])
      rw [settled,settled,hreq,List.foldl_cons,hsame,took_req]

variable {as : List (Label T C R)}

theorem tidy_run (h : Tidy V x) (hs : as.foldlM (step V) x = some x') : Tidy V x' := by
  induction as generalizing x with
  | nil =>
    obtain rfl := Option.some.inj hs
    exact h
  | cons a as ih =>
    obtain ⟨y,hy,hrest⟩ := Option.bind_eq_some_iff.mp hs
    exact ih (tidy_step V h hy) hrest

theorem settled_run (h : Tidy V x) (hs : as.foldlM (step V) x = some x') :
    (as.filter Label.visible).foldlM (atomicStep V) (x.settled V) = some (x'.settled V) := by
  induction as generalizing x with
  | nil =>
    obtain rfl := Option.some.inj hs
    rfl
  | cons a as ih =>
    obtain ⟨y,hy,hrest⟩ := Option.bind_eq_some_iff.mp hs
    have hrun := ih (tidy_step V h hy) hrest
    have hstep := settled_step V h hy
    cases a with
    | call t c | answer t r =>
      rw [List.filter_cons_of_pos rfl,List.foldlM_cons,hstep]
      exact hrun
    | work =>
      rw [List.filter_cons_of_neg (by simp [Label.visible])]
      exact (Option.some.inj hstep) ▸ hrun

def Traces (step : State T K Q S R → Label T C R → Option (State T K Q S R))
    (x : State T K Q S R) : Set (List (Label T C R)) :=
  { tr | ∃ (as : List (Label T C R)) (x' : _), as.foldlM step x = some x' ∧
    as.filter Label.visible = tr }

theorem took_of_push (hreq : x.req = []) {k : K} {q : Q} :
    (x.push V k t q).step (C := C) V .work = some (took V { x with front := k } (t,q)) := by
  have hpush : (x.push V k t q).req = [(t,q)] := by
    rw [push]
    cases V.awaited q <;> simp [hreq]
  have hx : { x with req := [] } = x := by
    cases x
    exact congrArg (fun req => State.mk _ _ req _) hreq.symm
  rw [step_work,hpush]
  refine congrArg some ?_
  change took V { x.push V k t q with req := [] } (t,q) = took V { x with front := k } (t,q)
  cases ha : V.awaited q with
  | false =>
    rw [push,ha]
    exact congrArg (fun y => took V { y with front := k } (t,q)) hx
  | true =>
    rw [push,ha]
    refine (took_blocked (x := { x with front := k, req := [] }) V ha _).trans ?_
    exact congrArg (fun y => took V { y with front := k } (t,q)) hx

theorem prompt_run {a : Label T C R} (hreq : x.req = []) (hs : x.atomicStep V a = some x') :
    a.prompt.foldlM (step V) x = some x' ∧ x'.req = [] := by
  cases a with
  | call t c =>
    obtain ⟨ht,rfl⟩ := (atomicStep_call_eq_some V).mp hs
    refine ⟨?_,(took_req V _).trans hreq⟩
    change (x.step V (.call t c)).bind (fun y => (y.step V .work).bind some) = _
    rw [(step_call_eq_some V).mpr ⟨ht,rfl⟩,Option.bind_some,took_of_push V hreq,Option.bind_some]
  | answer t r =>
    obtain ⟨ht,rfl⟩ := get_eq_some.mp hs
    refine ⟨?_,hreq⟩
    change (x.get t r).bind some = _
    rw [get_eq_some.mpr ⟨ht,rfl⟩,Option.bind_some]
  | work =>
    obtain rfl := Option.some.inj hs
    refine ⟨?_,hreq⟩
    change (x.step V .work).bind some = _
    rw [step_work,hreq,Option.bind_some]

theorem run_of_atomic (hreq : x.req = []) (hs : as.foldlM (atomicStep V) x = some x') :
    (as.flatMap Label.prompt).foldlM (step V) x = some x' := by
  induction as generalizing x with
  | nil => exact hs
  | cons a as ih =>
    obtain ⟨y,hy,hrest⟩ := Option.bind_eq_some_iff.mp hs
    obtain ⟨hprompt,hnil⟩ := prompt_run V hreq hy
    rw [List.flatMap_cons,List.foldlM_append,hprompt]
    exact ih hnil hrest

theorem foldlM_visible (as : List (Label T C R)) :
    (as.filter Label.visible).foldlM (atomicStep V) x = as.foldlM (atomicStep V) x := by
  induction as generalizing x with
  | nil => rfl
  | cons a as ih =>
    cases a with
    | call t c | answer t r =>
      rw [List.filter_cons_of_pos rfl,List.foldlM_cons,List.foldlM_cons]
      exact congrArg _ (funext fun y => ih)
    | work =>
      rw [List.filter_cons_of_neg (by simp [Label.visible]),List.foldlM_cons]
      exact ih

def entered (enter : K → C → K × Q) (k : K) : List (Label T C R) → List Q
  | [] => []
  | .call _ c :: as => (enter k c).2 :: entered enter (enter k c).1 as
  | .answer _ _ :: as => entered enter k as
  | .work :: as => entered enter k as

theorem traces_eq (h : Tidy V x) (hreq : x.req = []) :
    Traces (step V) x = Traces (atomicStep (C := C) V) x := by
  apply Set.Subset.antisymm
  · rintro tr ⟨as,x',hs,rfl⟩
    have hrun := settled_run V h hs
    rw [settled_of_idle V hreq,foldlM_visible] at hrun
    exact ⟨as,_,hrun,rfl⟩
  · rintro tr ⟨as,x',hs,rfl⟩
    exact ⟨as.flatMap Label.prompt,x',run_of_atomic V hreq hs,Label.filter_prompt as⟩

def works (as : List (Label T C R)) : Nat := as.countP fun a => !a.visible

theorem step_waits {a : Label T C R} (ha : a.by ≠ some t) (hs : x.step V a = some x')
    (ht : x.callers t ≠ .free) : x'.callers t ≠ .free := by
  cases a with
  | call t' c =>
    obtain ⟨_,rfl⟩ := (step_call_eq_some V).mp hs
    have hne : t ≠ t' := fun h => ha (congrArg some h.symm)
    rw [push]
    cases V.awaited (V.enter x.front c).2 with
    | false => exact ht
    | true =>
      rw [if_pos rfl,setCaller_ne _ hne]
      exact ht
  | answer t' r =>
    obtain ⟨_,rfl⟩ := get_eq_some.mp hs
    rw [setCaller_ne _ fun h => ha (congrArg some h.symm)]
    exact ht
  | work =>
    rw [step_work] at hs
    obtain rfl := Option.some.inj hs
    cases x.req with
    | nil => exact ht
    | cons p req =>
      dsimp only
      by_cases hp : p.1 = t ∧ V.awaited p.2 = true
      · obtain ⟨r,_,hr⟩ := took_awaited V (x := { x with req := req }) hp.2
        rw [hr,← hp.1,setCaller_callers]
        exact fun h => by cases h
      · rw [took_caller V hp]
        exact ht

theorem step_req {a : Label T C R} (ha : a.by ≠ some t) (hs : x.step V a = some x') :
    ∃ later, x'.req = x.req.drop (works [a]) ++ later ∧ pending V t later = 0 := by
  cases a with
  | call t' c =>
    obtain ⟨_,rfl⟩ := (step_call_eq_some V).mp hs
    refine ⟨[(t',(V.enter x.front c).2)],?_,pending_cons_neg V fun h => ha (congrArg some h.1)⟩
    rw [push]
    cases V.awaited (V.enter x.front c).2 <;> rfl
  | answer t' r =>
    obtain ⟨_,rfl⟩ := get_eq_some.mp hs
    exact ⟨[],(List.append_nil _).symm,rfl⟩
  | work =>
    rw [step_work] at hs
    obtain rfl := Option.some.inj hs
    refine ⟨[],?_,rfl⟩
    rw [List.append_nil]
    cases hreq : x.req with
    | nil => exact hreq
    | cons p req => exact took_req V p

theorem run_req (ha : ∀ a ∈ as, a.by ≠ some t) (hs : as.foldlM (step V) x = some x') :
    ∃ later, x'.req = x.req.drop (works as) ++ later ∧ pending V t later = 0 := by
  induction as generalizing x with
  | nil =>
    obtain rfl := Option.some.inj hs
    exact ⟨[],(List.append_nil _).symm,rfl⟩
  | cons a as ih =>
    obtain ⟨y,hy,hrest⟩ := Option.bind_eq_some_iff.mp hs
    obtain ⟨first,hfirst,hpfirst⟩ := step_req V (ha a List.mem_cons_self) hy
    obtain ⟨later,hlater,hplater⟩ := ih (fun b hb => ha b (List.mem_cons_of_mem _ hb)) hrest
    have hworks : works (a :: as) = works [a] + works as := by
      rw [works,works,works,← List.countP_append]
      rfl
    refine ⟨first.drop (works as - (x.req.drop (works [a])).length) ++ later,?_,?_⟩
    · rw [hlater,hfirst,List.drop_append,List.drop_drop,hworks,List.append_assoc]
    · rw [pending_append,pending_drop V hpfirst,hplater]

theorem run_waits (ha : ∀ a ∈ as, a.by ≠ some t) (hs : as.foldlM (step V) x = some x')
    (ht : x.callers t ≠ .free) : x'.callers t ≠ .free := by
  induction as generalizing x with
  | nil =>
    obtain rfl := Option.some.inj hs
    exact ht
  | cons a as ih =>
    obtain ⟨y,hy,hrest⟩ := Option.bind_eq_some_iff.mp hs
    exact ih (fun b hb => ha b (List.mem_cons_of_mem _ hb)) hrest
      (step_waits V (ha a List.mem_cons_self) hy ht)

theorem answered_in_time {z : State T K Q S R} (h : Tidy V x) (ht : x.callers t = .blocked)
    (hs : as.foldlM (step V) x = some z) (ha : ∀ a ∈ as, a.by ≠ some t)
    (hworks : x.req.length ≤ works as) : ∃ r, z.callers t = .answered r := by
  have hwaits := run_waits V ha hs (by rw [ht]; exact fun h => by cases h)
  obtain ⟨later,hreq,hlater⟩ := run_req V ha hs
  rw [List.drop_of_length_le hworks,List.nil_append] at hreq
  have hz := tidy_run V h hs t
  rw [hreq,hlater] at hz
  cases hcaller : z.callers t with
  | free => exact absurd hcaller hwaits
  | blocked =>
    rw [hcaller] at hz
    cases hz
  | answered r => exact ⟨r,rfl⟩

end State

end RequestQueue
