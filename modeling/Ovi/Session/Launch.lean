import Ovi.Session.Session

namespace Ovi

open Transition

def Unstopped (_ : Session) (a : Action) : Prop := a ≠ .stopCheck

def Internal (a : Action) : Prop := a ≠ .startCheck ∧ a ≠ .stopCheck

def RendersOnce (s : Session) : Prop :=
  ∀ w th, s.threads[w]? = some th → th.job = .dataFlow → th.ret = some oviErrorNone →
    th.callback = .returned → renders s.threads w = 1

def SettlesIdle (s : Session) : Prop := Stuck Session.step Internal s → s.state = .idle

namespace Session

def first (s : Session) : Action → Option Nat
  | .callback t .read => some t
  | .callback t .update =>
    if s.threads[t]?.any (fun th => th.ret = some oviErrorNone) then none else some t
  | _ => none

def published (s : Session) (t : Nat) : Bool :=
  match s.threads[t]? with
  | none => true
  | some th =>
    match th.launcher with
    | none => !(s.caller = .launched && s.dataFlow = some t)
    | some launcher => s.threads[launcher]?.all (fun th => th.callback = .returned)

end Session

def InTurn (s : Session) (a : Action) : Prop :=
  Unstopped s a ∧ ∀ t ∈ s.first a, s.published t = true

instance (s : Session) (a : Action) : Decidable (Unstopped s a) :=
  inferInstanceAs (Decidable (a ≠ .stopCheck))

instance (s : Session) (a : Action) : Decidable (InTurn s a) :=
  inferInstanceAs (Decidable (_ ∧ _))

section Threads

variable {threads : List Thread} {active : List Nat} {t i w : Nat} {th th' : Thread}

structure Rest (threads : List Thread) (active : List Nat) : Prop where
  returned : ∀ i th, threads[i]? = some th → i ∉ active → th.callback = .returned
  rendered : ∀ i th, threads[i]? = some th → i ∉ active → th.job = .dataFlow →
    renders threads i = if th.ret = some oviErrorNone then 1 else 0
  unborn : ∀ i, threads.length ≤ i → renders threads i = 0

theorem Rest.set (h : Rest threads active) (hth : threads[t]? = some th) (ht : t ∈ active)
    (hjob : th'.job = th.job) (hrun : th'.run = th.run) : Rest (threads.set t th') active := by
  have hother : ∀ {i u}, (threads.set t th')[i]? = some u → i ∉ active → threads[i]? = some u := by
    intro i u hu hi
    have hne : t ≠ i := fun he => hi (he ▸ ht)
    rwa [List.getElem?_set_ne hne] at hu
  constructor
  · exact fun i u hu hi => h.returned i u (hother hu hi) hi
  · intro i u hu hi hj
    rw [renders_set hth hjob hrun]
    exact h.rendered i u (hother hu hi) hi hj
  · intro i hi
    rw [renders_set hth hjob hrun]
    exact h.unborn i (by simpa using hi)

theorem Rest.close (h : Rest threads (t :: active)) (hth : threads[t]? = some th)
    (hjob : th'.job = th.job) (hrun : th'.run = th.run) (hreturned : th'.callback = .returned)
    (hrendered : th.job = .dataFlow →
      renders threads t = if th'.ret = some oviErrorNone then 1 else 0) :
    Rest (threads.set t th') active := by
  have hset := h.set hth List.mem_cons_self hjob hrun
  constructor
  · intro i u hu hi
    by_cases hit : i = t
    · subst hit
      obtain rfl := Option.some.inj ((getElem?_set_found hth).symm.trans hu)
      exact hreturned
    · exact hset.returned i u hu (by simp [hit,hi])
  · intro i u hu hi hj
    by_cases hit : i = t
    · subst hit
      obtain rfl := Option.some.inj ((getElem?_set_found hth).symm.trans hu)
      rw [renders_set hth hjob hrun]
      exact hrendered (hjob ▸ hj)
    · exact hset.rendered i u hu (by simp [hit,hi]) hj
  · exact hset.unborn

theorem Rest.swap {t' : Nat} (h : Rest threads [t,t']) : Rest threads [t',t] := by
  have hmem : ∀ i, i ∉ [t',t] → i ∉ [t,t'] := fun i hi hm => hi (by simpa [or_comm] using hm)
  exact ⟨fun i u hu hi => h.returned i u hu (hmem i hi),
    fun i u hu hi => h.rendered i u hu (hmem i hi),h.unborn⟩

theorem Rest.push (h : Rest threads active)
    (hnew : th.job = .renderTask → th.run ∈ active ∧ th.run < threads.length) :
    Rest (threads ++ [th]) (threads.length :: active) := by
  have hsame : ∀ i, i ∉ active ∨ threads.length ≤ i →
      renders (threads ++ [th]) i = renders threads i := by
    intro i hi
    rw [renders_push,if_neg,Nat.add_zero]
    rintro ⟨hjob,rfl⟩
    obtain ⟨hmem,hlt⟩ := hnew hjob
    rcases hi with hi | hi
    · exact hi hmem
    · omega
  have hold : ∀ {i u}, (threads ++ [th])[i]? = some u → i ∉ threads.length :: active →
      threads[i]? = some u ∧ i ∉ active := by
    intro i u hu hi
    obtain ⟨hne,hi⟩ := not_or.mp (List.mem_cons.not.mp hi)
    have hlt : i < threads.length := by
      have := (List.getElem?_eq_some_iff.mp hu).1
      simp only [List.length_append,List.length_singleton] at this
      omega
    rw [List.getElem?_append_left hlt] at hu
    exact ⟨hu,hi⟩
  constructor
  · intro i u hu hi
    obtain ⟨hu,hi⟩ := hold hu hi
    exact h.returned i u hu hi
  · intro i u hu hi hj
    obtain ⟨hu,hi⟩ := hold hu hi
    rw [hsame i (.inl hi)]
    exact h.rendered i u hu hi hj
  · intro i hi
    have hle : threads.length ≤ i := by
      simp only [List.length_append,List.length_singleton] at hi
      omega
    rw [hsame i (.inr hle)]
    exact h.unborn i hle

end Threads

section Phases

variable {s s' : Session} {t w r : Nat} {th tr : Thread}

inductive Awaiting (th : Thread) : Prop
  | working (hc : th.callback = .working)
  | reading (hc : th.callback = .reading) (hr : th.ret = some oviErrorNone)
  | failed (hc : th.callback = .updating .idle) (hr : th.ret ≠ some oviErrorNone)

structure WorkerAt (s : Session) (w : Nat) (th : Thread) : Prop where
  found : s.threads[w]? = some th
  job : th.job = .dataFlow
  launcher : th.launcher = none
  run : th.run = w

structure RenderAt (s : Session) (r : Nat) (w : Nat) (tr : Thread) : Prop where
  found : s.threads[r]? = some tr
  job : tr.job = .renderTask
  launcher : tr.launcher = some w

inductive Phase (s : Session) : Prop
  | settled (hstate : s.state = .idle) (hcaller : s.caller = .ready ∨ s.caller = .starting)
    (hrest : Rest s.threads [])
  | launched {w : Nat} {th : Thread} (hstate : s.state = .idle) (hcaller : s.caller = .launched)
    (hflow : s.dataFlow = some w) (hw : WorkerAt s w th) (hawait : Awaiting th)
    (hnone : renders s.threads w = 0) (hrest : Rest s.threads [w])
  | analysing {w : Nat} {th : Thread} (hstate : s.state = .analysis) (hcaller : s.caller = .ready)
    (hw : WorkerAt s w th)
    (hth : Awaiting th ∨ th.callback = .launching ∧ th.ret = some oviErrorNone)
    (hnone : renders s.threads w = 0) (hrest : Rest s.threads [w])
  | handing {w r : Nat} {th tr : Thread} (hstate : s.state = .analysis)
    (hcaller : s.caller = .ready) (hw : WorkerAt s w th) (hr : RenderAt s r w tr)
    (hth : th.callback = .replacing r ∧ s.render ≠ some r ∨ th.callback = .updating .render)
    (hret : th.ret = some oviErrorNone) (hawait : Awaiting tr)
    (hone : renders s.threads w = 1) (hrest : Rest s.threads [r,w])
  | rendering {r w : Nat} {tr : Thread} (hstate : s.state = .render) (hcaller : s.caller = .ready)
    (hr : RenderAt s r w tr) (hne : w ≠ r)
    (htr : Awaiting tr ∨ tr.ret = some oviErrorNone ∧
      (tr.callback = .rereading ∨ tr.callback = .updating .idle))
    (hrest : Rest s.threads [r])

def Held (s : Session) : Prop :=
  ∀ r, s.render = some r → ∃ tr : Thread, s.threads[r]? = some tr ∧ tr.job = .renderTask

theorem Awaiting.callback (h : Awaiting th) :
    th.callback = .working ∨ th.callback = .reading ∨ th.callback = .updating .idle := by
  cases h with
  | working hc => exact .inl hc
  | reading hc => exact .inr (.inl hc)
  | failed hc => exact .inr (.inr hc)

theorem Awaiting.not_returned (h : Awaiting th) : th.callback ≠ .returned := by
  rcases h.callback with hc | hc | hc <;> simp [hc]

theorem Awaiting.not_replacing (h : Awaiting th) (task : Nat) : th.callback ≠ .replacing task := by
  rcases h.callback with hc | hc | hc <;> simp [hc]

theorem active_of_step {active : List Nat} {a : CallbackAction} (h : Rest s.threads active)
    (hth : s.threads[t]? = some th) (hs : s.callbackStep t th a = some s') : t ∈ active := by
  by_contra hno
  rw [callbackStep_returned (h.returned t th hth hno)] at hs
  cases hs

theorem Awaiting.step {a : CallbackAction} (h : Awaiting th)
    (hs : s.callbackStep t th a = some s') :
    (∃ th', s' = s.put t th' ∧ Awaiting th' ∧ th.SameJob th') ∨
    (a = .read ∧ th.ret = some oviErrorNone ∧ s' = s.put t { th with
      callback := if s.state = .analysis then .launching else .rereading }) ∨
    (a = .update ∧ th.ret ≠ some oviErrorNone ∧
      s' = (s.updateState .idle).put t { th with callback := .returned }) := by
  cases h with
  | working hc =>
    obtain ⟨ret,rfl⟩ := step_of_working hc hs
    refine .inl ⟨_,rfl,?_,rfl,rfl,rfl⟩
    by_cases hret : ret = oviErrorNone
    · exact .reading (by simp [hret]) (by simp [hret])
    · exact .failed (by simp [hret]) (by simp [hret])
  | reading hc hr =>
    obtain ⟨rfl,rfl⟩ := step_of_reading hc hs
    exact .inr (.inl ⟨rfl,hr,rfl⟩)
  | failed hc hr =>
    obtain ⟨rfl,rfl⟩ := step_of_updating hc hs
    exact .inr (.inr ⟨rfl,hr,rfl⟩)

theorem Awaiting.step_unpublished {a : CallbackAction} (h : Awaiting th)
    (hth : s.threads[t]? = some th) (hs : s.callbackStep t th a = some s')
    (hturn : InTurn s (.callback t a)) (hno : s.published t = false) :
    ∃ th', s' = s.put t th' ∧ Awaiting th' ∧ th.SameJob th' := by
  rcases h.step hs with hgo | ⟨rfl,hr,-⟩ | ⟨rfl,hr,-⟩
  · exact hgo
  · have hp := hturn.2 t rfl
    simp [hno] at hp
  · have hp := hturn.2 t (by simp [Session.first,hth,hr])
    simp [hno] at hp

theorem WorkerAt.put (h : WorkerAt s w th) {th' : Thread} (hsame : th.SameJob th') :
    WorkerAt (s.put w th') w th' :=
  ⟨getElem?_set_found h.found,hsame.job.trans h.job,hsame.launcher.trans h.launcher,
    hsame.run.trans h.run⟩

theorem RenderAt.put (h : RenderAt s r w tr) {tr' : Thread} (hsame : tr.SameJob tr') :
    RenderAt (s.put r tr') r w tr' :=
  ⟨getElem?_set_found h.found,hsame.job.trans h.job,hsame.launcher.trans h.launcher⟩

theorem Rest.put {active : List Nat} (h : Rest s.threads active) (hth : s.threads[t]? = some th)
    (ht : t ∈ active) {th' : Thread} (hsame : th.SameJob th') :
    Rest (s.put t th').threads active := h.set hth ht hsame.job hsame.run

theorem launched_step {a : CallbackAction} (hstate : s.state = .idle)
    (hcaller : s.caller = .launched) (hflow : s.dataFlow = some w) (hw : WorkerAt s w th)
    (hawait : Awaiting th) (hnone : renders s.threads w = 0) (hrest : Rest s.threads [w])
    (hturn : InTurn s (.callback w a)) (hs : s.callbackStep w th a = some s') : Phase s' := by
  have hno : s.published w = false := by
    simp [Session.published,hw.found,hw.launcher,hcaller,hflow]
  obtain ⟨th',rfl,hawait',hsame⟩ := hawait.step_unpublished hw.found hs hturn hno
  exact .launched hstate hcaller hflow (hw.put hsame) hawait'
    ((renders_put hw.found hsame w).trans hnone) (hrest.put hw.found (by simp) hsame)

theorem launch_phase (hheld : Held s) (hstate : s.state = .analysis) (hcaller : s.caller = .ready)
    (hw : WorkerAt s w th) (hret : th.ret = some oviErrorNone)
    (hnone : renders s.threads w = 0) (hrest : Rest s.threads [w]) :
    Phase { s.put w { th with callback := .replacing s.threads.length } with
      threads := (s.put w { th with callback := .replacing s.threads.length }).threads ++
        [⟨.renderTask,some w,th.run,none,.working⟩] } := by
  let task : Thread := ⟨.renderTask,some w,th.run,none,.working⟩
  let s₁ := s.put w { th with callback := .replacing s.threads.length }
  have hsame : th.SameJob { th with callback := .replacing s.threads.length } := ⟨rfl,rfl,rfl⟩
  have hlen : s₁.threads.length = s.threads.length := List.length_set
  have hlt := (List.getElem?_eq_some_iff.mp hw.found).1
  have hput := hw.put hsame
  have hrun : task.run = w := hw.run
  have hrest' : Rest (s₁.threads ++ [task]) [s₁.threads.length,w] :=
    (hrest.put hw.found (by simp) hsame).push fun _ => by rw [hlen,hrun]; exact ⟨by simp,hlt⟩
  rw [hlen] at hrest'
  have hrender : RenderAt { s₁ with threads := s₁.threads ++ [task] } s.threads.length w task :=
    ⟨by rw [← hlen]; exact List.getElem?_concat_length,rfl,rfl⟩
  refine .handing hstate hcaller ⟨?_,hput.job,hput.launcher,hput.run⟩ hrender
    (.inl ⟨rfl,?_⟩) hret (.working rfl) ?_ hrest'
  · have hlt' : w < s₁.threads.length := by rwa [hlen]
    exact (List.getElem?_append_left hlt').trans hput.found
  · intro hr
    obtain ⟨tr,htr,-⟩ := hheld _ hr
    simp at htr
  · rw [renders_push,renders_put hw.found hsame,hnone,if_pos ⟨rfl,hw.run⟩]

theorem analysing_step {a : CallbackAction} (hheld : Held s) (hstate : s.state = .analysis)
    (hcaller : s.caller = .ready) (hw : WorkerAt s w th)
    (hth : Awaiting th ∨ th.callback = .launching ∧ th.ret = some oviErrorNone)
    (hnone : renders s.threads w = 0) (hrest : Rest s.threads [w])
    (hs : s.callbackStep w th a = some s') : Phase s' := by
  rcases hth with hawait | ⟨hc,hret⟩
  · rcases hawait.step hs with ⟨th',rfl,hawait',hsame⟩ | ⟨rfl,hr,rfl⟩ | ⟨rfl,hr,rfl⟩
    · exact .analysing hstate hcaller (hw.put hsame) (.inl hawait')
        ((renders_put hw.found hsame w).trans hnone) (hrest.put hw.found (by simp) hsame)
    · have hsame : th.SameJob { th with
          callback := if s.state = .analysis then .launching else .rereading } := ⟨rfl,rfl,rfl⟩
      exact .analysing hstate hcaller (hw.put hsame) (.inr ⟨by simp [hstate],hr⟩)
        ((renders_put hw.found hsame w).trans hnone) (hrest.put hw.found (by simp) hsame)
    · refine .settled rfl (.inl hcaller) ?_
      exact hrest.close hw.found rfl rfl rfl fun _ => by rw [hnone,if_neg hr]
  · obtain rfl := step_of_launching hc hs
    exact launch_phase hheld hstate hcaller hw hret hnone hrest

theorem handing_worker {a : CallbackAction} (hstate : s.state = .analysis)
    (hcaller : s.caller = .ready) (hw : WorkerAt s w th) (hr : RenderAt s r w tr)
    (hth : th.callback = .replacing r ∧ s.render ≠ some r ∨ th.callback = .updating .render)
    (hret : th.ret = some oviErrorNone) (hawait : Awaiting tr) (hone : renders s.threads w = 1)
    (hrest : Rest s.threads [r,w]) (hs : s.callbackStep w th a = some s') : Phase s' := by
  have hne : r ≠ w := by
    rintro rfl
    have hjob := hr.job
    rw [Option.some.inj (hr.found.symm.trans hw.found),hw.job] at hjob
    cases hjob
  have hkeep : ∀ th', RenderAt (s.put w th') r w tr := fun th' =>
    ⟨(List.getElem?_set_ne hne.symm).trans hr.found,hr.job,hr.launcher⟩
  rcases hth with ⟨hc,hnew⟩ | hc
  · obtain rfl := step_of_replacing hc hs
    have hsame : th.SameJob { th with callback := .updating .render } := ⟨rfl,rfl,rfl⟩
    have hput := hw.put hsame
    have hr' := hkeep { th with callback := .updating .render }
    exact .handing hstate hcaller ⟨hput.found,hput.job,hput.launcher,hput.run⟩
      ⟨hr'.found,hr'.job,hr'.launcher⟩ (.inr rfl) hret hawait
      ((renders_put hw.found hsame w).trans hone) (hrest.put hw.found (by simp) hsame)
  · obtain ⟨-,rfl⟩ := step_of_updating hc hs
    have hr' := hkeep { th with callback := .returned }
    refine .rendering rfl hcaller ⟨hr'.found,hr'.job,hr'.launcher⟩ hne.symm (.inl hawait) ?_
    exact hrest.swap.close hw.found rfl rfl rfl fun _ => by rw [hone,if_pos hret]

theorem handing_render {a : CallbackAction} (hstate : s.state = .analysis)
    (hcaller : s.caller = .ready) (hw : WorkerAt s w th) (hr : RenderAt s r w tr)
    (hth : th.callback = .replacing r ∧ s.render ≠ some r ∨ th.callback = .updating .render)
    (hret : th.ret = some oviErrorNone) (hawait : Awaiting tr) (hone : renders s.threads w = 1)
    (hrest : Rest s.threads [r,w]) (hturn : InTurn s (.callback r a))
    (hs : s.callbackStep r tr a = some s') : Phase s' := by
  have hne : w ≠ r := by
    rintro rfl
    have hjob := hr.job
    rw [Option.some.inj (hr.found.symm.trans hw.found),hw.job] at hjob
    cases hjob
  have hno : s.published r = false := by
    have hbusy : th.callback ≠ .returned := by rcases hth with ⟨hc,-⟩ | hc <;> simp [hc]
    simp [Session.published,hr.found,hr.launcher,hw.found,hbusy]
  obtain ⟨tr',rfl,hawait',hsame⟩ := hawait.step_unpublished hr.found hs hturn hno
  refine .handing hstate hcaller ⟨?_,hw.job,hw.launcher,hw.run⟩ (hr.put hsame) hth hret hawait'
    ((renders_put hr.found hsame w).trans hone) (hrest.put hr.found (by simp) hsame)
  exact (List.getElem?_set_ne hne.symm).trans hw.found

theorem rendering_step {a : CallbackAction} (hstate : s.state = .render)
    (hcaller : s.caller = .ready) (hr : RenderAt s r w tr) (hne : w ≠ r)
    (htr : Awaiting tr ∨ tr.ret = some oviErrorNone ∧
      (tr.callback = .rereading ∨ tr.callback = .updating .idle))
    (hrest : Rest s.threads [r]) (hs : s.callbackStep r tr a = some s') : Phase s' := by
  have hsettles : Phase ((s.updateState .idle).put r { tr with callback := .returned }) := by
    refine .settled rfl (.inl hcaller) (hrest.close hr.found rfl rfl rfl fun hjob => ?_)
    rw [hr.job] at hjob
    cases hjob
  rcases htr with hawait | ⟨hret,hc | hc⟩
  · rcases hawait.step hs with ⟨tr',rfl,hawait',hsame⟩ | ⟨rfl,hret,rfl⟩ | ⟨rfl,-,rfl⟩
    · exact .rendering hstate hcaller (hr.put hsame) hne (.inl hawait')
        (hrest.put hr.found (by simp) hsame)
    · have hsame : tr.SameJob { tr with
          callback := if s.state = .analysis then .launching else .rereading } := ⟨rfl,rfl,rfl⟩
      exact .rendering hstate hcaller (hr.put hsame) hne (.inr ⟨hret,.inl (by simp [hstate])⟩)
        (hrest.put hr.found (by simp) hsame)
    · exact hsettles
  · obtain rfl := step_of_rereading hc hs
    have hsame : tr.SameJob { tr with
        callback := if s.state = .render then .updating .idle else .returned } := ⟨rfl,rfl,rfl⟩
    exact .rendering hstate hcaller (hr.put hsame) hne (.inr ⟨hret,.inr (by simp [hstate])⟩)
      (hrest.put hr.found (by simp) hsame)
  · obtain ⟨-,rfl⟩ := step_of_updating hc hs
    exact hsettles

theorem callback_phase {a : CallbackAction} (hp : Phase s) (hh : Held s)
    (hturn : InTurn s (.callback t a)) (hth : s.threads[t]? = some th)
    (hs : s.callbackStep t th a = some s') : Phase s' := by
  cases hp with
  | settled hstate hcaller hrest => cases active_of_step hrest hth hs
  | launched hstate hcaller hflow hw hawait hnone hrest =>
    obtain rfl := List.mem_singleton.mp (active_of_step hrest hth hs)
    obtain rfl := Option.some.inj (hw.found.symm.trans hth)
    exact launched_step hstate hcaller hflow hw hawait hnone hrest hturn hs
  | analysing hstate hcaller hw hactive hnone hrest =>
    obtain rfl := List.mem_singleton.mp (active_of_step hrest hth hs)
    obtain rfl := Option.some.inj (hw.found.symm.trans hth)
    exact analysing_step hh hstate hcaller hw hactive hnone hrest hs
  | handing hstate hcaller hw hr hactive hret hawait hone hrest =>
    rcases List.mem_pair.mp (active_of_step hrest hth hs) with rfl | rfl
    · obtain rfl := Option.some.inj (hr.found.symm.trans hth)
      exact handing_render hstate hcaller hw hr hactive hret hawait hone hrest hturn hs
    · obtain rfl := Option.some.inj (hw.found.symm.trans hth)
      exact handing_worker hstate hcaller hw hr hactive hret hawait hone hrest hs
  | rendering hstate hcaller hr hne hactive hrest =>
    obtain rfl := List.mem_singleton.mp (active_of_step hrest hth hs)
    obtain rfl := Option.some.inj (hr.found.symm.trans hth)
    exact rendering_step hstate hcaller hr hne hactive hrest hs

theorem start_phase (hstate : s.state = .idle) (hrest : Rest s.threads []) :
    Phase { s with
      caller := .launched
      threads := s.threads ++ [⟨.dataFlow,none,s.threads.length,none,.working⟩]
      dataFlow := some s.threads.length } := by
  refine .launched hstate rfl rfl ⟨List.getElem?_concat_length,rfl,rfl,rfl⟩ (.working rfl) ?_
    (hrest.push nofun)
  rw [renders_push,hrest.unborn _ (le_refl _)]
  rfl

theorem Phase.caller (hp : Phase s) :
    s.caller = .ready ∨ s.caller = .starting ∧ s.state = .idle ∧ Rest s.threads [] ∨
      s.caller = .launched := by
  cases hp with
  | settled hstate hcaller hrest =>
    exact hcaller.imp id fun h => .inl ⟨h,hstate,hrest⟩
  | launched _ hcaller => exact .inr (.inr hcaller)
  | analysing _ hcaller => exact .inl hcaller
  | handing _ hcaller => exact .inl hcaller
  | rendering _ hcaller => exact .inl hcaller

theorem phase_step {a : Action} (hp : Phase s) (hh : Held s) (hturn : InTurn s a)
    (hs : s.step a = some s') : Phase s' := by
  cases stepped hs with
  | callback hth hs => exact callback_phase hp hh hturn hth hs
  | stopCheck => exact absurd rfl hturn.1
  | stopRefused => exact absurd rfl hturn.1
  | startRefused => exact hp
  | startCheck hc hidle =>
    cases hp with
    | settled hstate _ hrest => exact .settled hstate (.inr rfl) hrest
    | launched _ hcaller => simp [hc] at hcaller
    | analysing hstate => simp [hidle] at hstate
    | handing hstate => simp [hidle] at hstate
    | rendering hstate => simp [hidle] at hstate
  | startRaise hc =>
    rcases hp.caller with h | ⟨-,hstate,hrest⟩ | h
    · simp [hc] at h
    · exact .settled hstate (.inl rfl) hrest
    · simp [hc] at h
  | startLaunch hc =>
    rcases hp.caller with h | ⟨-,hstate,hrest⟩ | h
    · simp [hc] at h
    · exact start_phase hstate hrest
    · simp [hc] at h
  | startUpdate hc =>
    cases hp with
    | settled _ hcaller => simp [hc] at hcaller
    | launched _ _ _ hw hawait hnone hrest =>
      exact .analysing rfl rfl ⟨hw.found,hw.job,hw.launcher,hw.run⟩ (.inl hawait) hnone hrest
    | analysing _ hcaller => simp [hc] at hcaller
    | handing _ hcaller => simp [hc] at hcaller
    | rendering _ hcaller => simp [hc] at hcaller
  | stopUpdate hc => rcases hp.caller with h | ⟨h,-⟩ | h <;> simp [hc] at h
  | stopJoin hc => rcases hp.caller with h | ⟨h,-⟩ | h <;> simp [hc] at h

theorem replaced_render {task : Nat} (hp : Phase s) (hth : s.threads[t]? = some th)
    (hc : th.callback = .replacing task) :
    ∃ tr, s.threads[task]? = some tr ∧ tr.job = .renderTask := by
  have hbusy : ∀ {active}, Rest s.threads active → t ∈ active := by
    intro active hrest
    by_contra hno
    have hreturned := hrest.returned t th hth hno
    simp [hc] at hreturned
  cases hp with
  | settled _ _ hrest => cases hbusy hrest
  | launched _ _ _ hw hawait _ hrest =>
    obtain rfl := List.mem_singleton.mp (hbusy hrest)
    obtain rfl := Option.some.inj (hw.found.symm.trans hth)
    exact absurd hc (hawait.not_replacing task)
  | analysing _ _ hw hactive _ hrest =>
    obtain rfl := List.mem_singleton.mp (hbusy hrest)
    obtain rfl := Option.some.inj (hw.found.symm.trans hth)
    rcases hactive with hawait | ⟨hl,-⟩
    · exact absurd hc (hawait.not_replacing task)
    · simp [hc] at hl
  | handing _ _ hw hr hactive _ hawait _ hrest =>
    rcases List.mem_pair.mp (hbusy hrest) with rfl | rfl
    · obtain rfl := Option.some.inj (hr.found.symm.trans hth)
      exact absurd hc (hawait.not_replacing task)
    · obtain rfl := Option.some.inj (hw.found.symm.trans hth)
      rcases hactive with ⟨hl,-⟩ | hl
      · obtain rfl : task = _ := by simpa [hc] using hl
        exact ⟨_,hr.found,hr.job⟩
      · simp [hc] at hl
  | rendering _ _ hr _ hactive hrest =>
    obtain rfl := List.mem_singleton.mp (hbusy hrest)
    obtain rfl := Option.some.inj (hr.found.symm.trans hth)
    rcases hactive with hawait | ⟨-,hl | hl⟩
    · exact absurd hc (hawait.not_replacing task)
    · simp [hc] at hl
    · simp [hc] at hl

theorem held_step {a : Action} (hp : Phase s) (hh : Held s) (hs : s.step a = some s') :
    Held s' := by
  have hkept : ∀ (r : Nat) (tr : Thread), s.threads[r]? = some tr → tr.job = .renderTask →
      ∃ tr' : Thread, s'.threads[r]? = some tr' ∧ tr'.job = .renderTask := by
    intro r tr htr hjob
    obtain ⟨tr',htr',hsame⟩ := step_kept hs r tr htr
    exact ⟨tr',htr',hsame.job.trans hjob⟩
  intro r hr
  rcases step_render hs with hsame | ⟨t,th,task,hth,hc,htask⟩
  · obtain ⟨tr,htr,hjob⟩ := hh r (hsame ▸ hr)
    exact hkept r tr htr hjob
  · obtain rfl := Option.some.inj (htask.symm.trans hr)
    obtain ⟨tr,htr,hjob⟩ := replaced_render hp hth hc
    exact hkept task tr htr hjob

end Phases

section Runs

variable {s : Session}

theorem phase_of_reaches (h : Reaches Session.step InTurn .initial s) : Phase s ∧ Held s := by
  have hrest : Rest Session.initial.threads [] :=
    ⟨fun i th hth => by simp [Session.initial] at hth,fun i th hth => by
      simp [Session.initial] at hth,fun _ _ => rfl⟩
  exact h.invariant (P := fun s => Phase s ∧ Held s) ⟨.settled rfl (.inl rfl) hrest,nofun⟩
    fun s a s' hs hturn hstep => ⟨phase_step hs.1 hs.2 hturn hstep,held_step hs.1 hs.2 hstep⟩

theorem Phase.rendersOnce (hp : Phase s) : RendersOnce s := by
  intro w th hth hjob hret hc
  have hrendered : ∀ {active}, Rest s.threads active → w ∉ active → renders s.threads w = 1 := by
    intro active hrest hw
    rw [hrest.rendered w th hth hw hjob,if_pos hret]
  cases hp with
  | settled _ _ hrest => exact hrendered hrest (by simp)
  | @launched w' _ _ _ _ hw hawait _ hrest =>
    refine hrendered hrest fun hmem => ?_
    obtain rfl := List.mem_singleton.mp hmem
    obtain rfl := Option.some.inj (hw.found.symm.trans hth)
    exact hawait.not_returned hc
  | analysing _ _ hw hactive _ hrest =>
    refine hrendered hrest fun hmem => ?_
    obtain rfl := List.mem_singleton.mp hmem
    obtain rfl := Option.some.inj (hw.found.symm.trans hth)
    rcases hactive with hawait | ⟨hl,-⟩
    · exact hawait.not_returned hc
    · simp [hc] at hl
  | @handing w' r' _ _ _ _ hw hr _ _ hawait hone hrest =>
    by_cases hmem : w ∈ [r',w']
    · rcases List.mem_pair.mp hmem with rfl | rfl
      · obtain rfl := Option.some.inj (hr.found.symm.trans hth)
        exact absurd hc hawait.not_returned
      · exact hone
    · exact hrendered hrest hmem
  | rendering _ _ hr _ _ hrest =>
    refine hrendered hrest fun hmem => ?_
    obtain rfl := List.mem_singleton.mp hmem
    obtain rfl := Option.some.inj (hr.found.symm.trans hth)
    simp [hr.job] at hjob

theorem inTurn_of_first {t : Nat} {a : CallbackAction}
    (h : ∀ u, s.first (.callback t a) = some u → s.published u = true) :
    InTurn s (.callback t a) := by
  constructor
  · intro he
    cases he
  · exact h

theorem inTurn_update {t : Nat} {th : Thread} (hth : s.threads[t]? = some th)
    (hret : th.ret = some oviErrorNone) : InTurn s (.callback t .update) := by
  refine inTurn_of_first fun u hu => ?_
  simp [Session.first,hth,hret] at hu

theorem inTurn_later {t : Nat} {a : CallbackAction} (h : s.first (.callback t a) = none) :
    InTurn s (.callback t a) := by
  refine inTurn_of_first fun u hu => ?_
  rw [h] at hu
  cases hu

theorem Awaiting.progress {t : Nat} {th : Thread} (h : Awaiting th)
    (hth : s.threads[t]? = some th) (hp : s.published t = true) :
    ∃ a, InTurn s (.callback t a) ∧ (s.step (.callback t a)).isSome = true := by
  have hfirst : ∀ a, ∀ u ∈ s.first (.callback t a), s.published u = true := by
    intro a u hu
    have hut : u = t := by
      cases a with
      | read => exact (Option.some.inj hu).symm
      | update =>
        simp only [Session.first] at hu
        split at hu
        · cases hu
        · exact (Option.some.inj hu).symm
      | _ => cases hu
    exact hut ▸ hp
  have hturn : ∀ a, InTurn s (.callback t a) := fun a => inTurn_of_first (hfirst a)
  cases h with
  | working hc =>
    exact ⟨.complete oviErrorNone,hturn _,by simp [step_callback hth,Session.callbackStep,hc]⟩
  | reading hc => exact ⟨.read,hturn _,by simp [step_callback hth,Session.callbackStep,hc]⟩
  | failed hc => exact ⟨.update,hturn _,by simp [step_callback hth,Session.callbackStep,hc]⟩

theorem Phase.progress (hp : Phase s) (hh : Held s) (hbusy : s.state ≠ .idle) :
    ∃ t a, InTurn s (.callback t a) ∧ (s.step (.callback t a)).isSome = true := by
  cases hp with
  | settled hstate => exact absurd hstate hbusy
  | launched hstate => exact absurd hstate hbusy
  | @analysing w _ _ hcaller hw hactive =>
    rcases hactive with hawait | ⟨hc,-⟩
    · have hpub : s.published w = true := by
        simp [Session.published,hw.found,hw.launcher,hcaller]
      exact ⟨w,hawait.progress hw.found hpub⟩
    · exact ⟨w,.runRender,inTurn_later rfl,by simp [step_callback hw.found,Session.callbackStep,hc]⟩
  | @handing w r th _ _ _ hw hr hactive hret _ _ hrest =>
    rcases hactive with ⟨hc,hnew⟩ | hc
    · have hjoined : s.joined s.render = true := by
        cases hrender : s.render with
        | none => rfl
        | some h =>
          obtain ⟨old,hold,hjob⟩ := hh h hrender
          have hhr : h ≠ r := fun he => hnew (he ▸ hrender)
          have hhw : h ≠ w := by
            rintro rfl
            rw [Option.some.inj (hold.symm.trans hw.found),hw.job] at hjob
            cases hjob
          have hreturned := hrest.returned h old hold (by simp [hhr,hhw])
          simp [Session.joined,hold,hreturned]
      refine ⟨w,.replaceRender,inTurn_later rfl,?_⟩
      simp [step_callback hw.found,Session.callbackStep,hc,hjoined]
    · exact ⟨w,.update,inTurn_update hw.found hret,
        by simp [step_callback hw.found,Session.callbackStep,hc]⟩
  | @rendering r w tr _ _ hr hne hactive hrest =>
    rcases hactive with hawait | ⟨hret,hc | hc⟩
    · have hpub : s.published r = true := by
        simp only [Session.published,hr.found,hr.launcher]
        cases hl : s.threads[w]? with
        | none => rfl
        | some th => simp [hrest.returned w th hl (by simpa using hne)]
      exact ⟨r,hawait.progress hr.found hpub⟩
    · exact ⟨r,.reread,inTurn_later rfl,by simp [step_callback hr.found,Session.callbackStep,hc]⟩
    · exact ⟨r,.update,inTurn_update hr.found hret,
        by simp [step_callback hr.found,Session.callbackStep,hc]⟩

theorem Phase.settlesIdle (hp : Phase s) (hh : Held s) : SettlesIdle s := by
  intro hstuck
  by_contra hbusy
  obtain ⟨t,a,-,hs⟩ := hp.progress hh hbusy
  simp [hstuck (.callback t a) ⟨nofun,nofun⟩] at hs

theorem session_settles (h : Reaches Session.step InTurn .initial s) :
    RendersOnce s ∧ SettlesIdle s := by
  obtain ⟨hp,hh⟩ := phase_of_reaches h
  exact ⟨hp.rendersOnce,hp.settlesIdle hh⟩

def renderedRun : List Action :=
  [.startCheck,.startLaunch,.startUpdate,.callback 0 (.complete oviErrorNone),.callback 0 .read,
    .callback 0 .runRender,.callback 0 .replaceRender,.callback 0 .update,
    .callback 1 (.complete oviErrorNone),.callback 1 .read,.callback 1 .reread,
    .callback 1 .update]

theorem session_settles_renderedRun : ∃ s,
    exec Session.step (fun s a => InTurn s a) renderedRun .initial = some s ∧
      RendersOnce s ∧ SettlesIdle s := by
  obtain ⟨s,hs⟩ : ∃ s,
      exec Session.step (fun s a => InTurn s a) renderedRun .initial = some s := ⟨_,rfl⟩
  exact ⟨s,hs,session_settles (reaches_of_exec renderedRun (fun _ _ => of_decide_eq_true) hs)⟩

-- the worker reads the state before `start` publishes it
def overtakingRun : List Action :=
  [.startCheck,.startLaunch,.callback 0 (.complete oviErrorNone),.callback 0 .read,
    .callback 0 .reread,.startUpdate]

def hangingSession : Session :=
  ⟨.analysis,.ready,[⟨.dataFlow,none,0,some oviErrorNone,.returned⟩],some 0,none,
    [(.idle,.analysis)]⟩

theorem hangingSession_stuck : Stuck Session.step Internal hangingSession := by
  intro a ha
  cases a with
  | startCheck => exact absurd rfl ha.1
  | stopCheck => exact absurd rfl ha.2
  | callback t a =>
    cases t with
    | zero => exact callbackStep_returned rfl
    | succ t => rfl
  | _ => rfl

theorem session_hangs_overtakingRun : ∃ s,
    Reaches Session.step Unstopped .initial s ∧ ¬ RendersOnce s ∧ ¬ SettlesIdle s := by
  have hexec : exec Session.step (fun s a => Unstopped s a) overtakingRun .initial =
      some hangingSession := by decide
  have hreaches : Reaches Session.step Unstopped .initial hangingSession :=
    reaches_of_exec overtakingRun (fun _ _ => of_decide_eq_true) hexec
  refine ⟨hangingSession,hreaches,fun h => ?_,fun h => ?_⟩
  · have hone := h 0 _ rfl rfl rfl rfl
    revert hone
    decide
  · have hidle := h hangingSession_stuck
    cases hidle

end Runs

end Ovi
