import Ovi.Types
import Ovi.Library.Transition
import Mathlib.Data.List.Basic
import Mathlib.Tactic.Common

namespace Ovi

inductive OviState where
  | idle
  | analysis
  | render
deriving DecidableEq, Repr

inductive Callback where
  -- the thread has not called the completion callback yet
  | working
  -- at the comparison with `OVI_STATE_ANALYSIS`
  | reading
  -- at the comparison with `OVI_STATE_RENDER`
  | rereading
  | launching
  -- the task `_render` held before is joined when the new one takes its place
  | replacing (task : Nat)
  | updating (current : OviState)
  | returned
deriving DecidableEq, Repr

inductive Job where
  | dataFlow
  | renderTask
deriving DecidableEq, Repr

structure Thread where
  job : Job
  -- the thread that launched it, or none for `start`
  launcher : Option Nat
  -- the worker of the `start` it goes back to
  run : Nat
  ret : Option ErrorCode
  callback : Callback
deriving DecidableEq, Repr

inductive Caller where
  | ready
  | starting
  | launched
  | stopping
  | joining
deriving DecidableEq, Repr

structure Session where
  state : OviState
  caller : Caller
  threads : List Thread
  dataFlow : Option Nat
  render : Option Nat
  reported : List (OviState × OviState)
deriving DecidableEq, Repr

inductive CallbackAction where
  | complete (ret : ErrorCode)
  | read
  | reread
  | runRender
  | replaceRender
  | update
deriving DecidableEq, Repr

inductive Action where
  | startCheck
  | startRaise
  | startLaunch
  | startUpdate
  | stopCheck
  | stopUpdate
  | stopJoin
  | callback (t : Nat) (a : CallbackAction)
deriving DecidableEq, Repr

namespace Session

def initial : Session := ⟨.idle,.ready,[],none,none,[]⟩

def updateState (s : Session) (current : OviState) : Session :=
  { s with
    state := current
    reported := if s.state = current then s.reported else s.reported ++ [(s.state,current)] }

def joined (s : Session) (t : Option Nat) : Bool :=
  t.all (fun t => s.threads[t]?.all (fun th => th.callback = .returned))

def put (s : Session) (t : Nat) (th : Thread) : Session :=
  { s with threads := s.threads.set t th }

def callbackStep (s : Session) (t : Nat) (th : Thread) : CallbackAction → Option Session
  | .complete ret =>
    if th.callback = .working then
      some (s.put t { th with
        ret := some ret
        callback := if ret = oviErrorNone then .reading else .updating .idle })
    else none
  | .read =>
    if th.callback = .reading then
      some (s.put t { th with
        callback := if s.state = .analysis then .launching else .rereading })
    else none
  | .reread =>
    if th.callback = .rereading then
      some (s.put t { th with
        callback := if s.state = .render then .updating .idle else .returned })
    else none
  | .runRender =>
    if th.callback = .launching then
      let task := s.threads.length
      let s := s.put t { th with callback := .replacing task }
      some { s with threads := s.threads ++ [⟨.renderTask,some t,th.run,none,.working⟩] }
    else none
  | .replaceRender =>
    match th.callback with
    | .replacing task =>
      if s.joined s.render then
        some { s.put t { th with callback := .updating .render } with render := some task }
      else none
    | _ => none
  | .update =>
    match th.callback with
    | .updating current => some ((s.updateState current).put t { th with callback := .returned })
    | _ => none

def step (s : Session) : Action → Option Session
  | .startCheck =>
    if s.caller = .ready then
      if s.state = .idle then some { s with caller := .starting } else some s
    else none
  | .startRaise => if s.caller = .starting then some { s with caller := .ready } else none
  -- `_dataFlow` takes the new worker, so the one it held before is joined
  | .startLaunch =>
    if s.caller = .starting ∧ s.joined s.dataFlow then
      some { s with
        caller := .launched
        threads := s.threads ++ [⟨.dataFlow,none,s.threads.length,none,.working⟩]
        dataFlow := some s.threads.length }
    else none
  | .startUpdate =>
    if s.caller = .launched then some { s.updateState .analysis with caller := .ready } else none
  | .stopCheck =>
    if s.caller = .ready then
      if s.state = .analysis ∧ s.dataFlow.isSome then some { s with caller := .stopping }
      else some s
    else none
  | .stopUpdate =>
    if s.caller = .stopping then some { s.updateState .idle with caller := .joining } else none
  | .stopJoin =>
    if s.caller = .joining ∧ s.joined s.dataFlow then some { s with caller := .ready } else none
  | .callback t a => s.threads[t]?.bind (fun th => s.callbackStep t th a)

end Session

def renders (threads : List Thread) (w : Nat) : Nat :=
  threads.countP (fun th => th.job = .renderTask && th.run = w)

structure Thread.SameJob (th th' : Thread) : Prop where
  job : th'.job = th.job
  launcher : th'.launcher = th.launcher
  run : th'.run = th.run

section Renders

variable {threads : List Thread} {t : Nat} {th th' : Thread}

theorem renders_set (hth : threads[t]? = some th) (hjob : th'.job = th.job)
    (hrun : th'.run = th.run) (w : Nat) : renders (threads.set t th') w = renders threads w := by
  induction threads generalizing t with
  | nil => cases hth
  | cons a threads ih =>
    cases t with
    | zero =>
      obtain rfl : a = th := by simpa using hth
      simp [renders,List.countP_cons,hjob,hrun]
    | succ t =>
      have hrest := ih (by simpa using hth)
      simp only [renders,List.set_cons_succ,List.countP_cons] at hrest ⊢
      rw [hrest]

theorem renders_push (th : Thread) (w : Nat) : renders (threads ++ [th]) w =
    renders threads w + if th.job = .renderTask ∧ th.run = w then 1 else 0 := by
  simp [renders,List.countP_append,List.countP_cons]

end Renders

section Steps

variable {s s' : Session} {t : Nat} {th : Thread}

theorem renders_put (hth : s.threads[t]? = some th) {th' : Thread} (hsame : th.SameJob th')
    (w : Nat) : renders (s.put t th').threads w = renders s.threads w :=
  renders_set hth hsame.job hsame.run w

inductive Stepped (s : Session) : Action → Session → Prop
  | startCheck (hc : s.caller = .ready) (hstate : s.state = .idle) :
    Stepped s .startCheck { s with caller := .starting }
  | startRefused (hc : s.caller = .ready) (hstate : s.state ≠ .idle) : Stepped s .startCheck s
  | startRaise (hc : s.caller = .starting) : Stepped s .startRaise { s with caller := .ready }
  | startLaunch (hc : s.caller = .starting) (hjoined : s.joined s.dataFlow = true) :
    Stepped s .startLaunch { s with
      caller := .launched
      threads := s.threads ++ [⟨.dataFlow,none,s.threads.length,none,.working⟩]
      dataFlow := some s.threads.length }
  | startUpdate (hc : s.caller = .launched) :
    Stepped s .startUpdate { s.updateState .analysis with caller := .ready }
  | stopCheck (hc : s.caller = .ready) (hstate : s.state = .analysis) :
    Stepped s .stopCheck { s with caller := .stopping }
  | stopRefused (hc : s.caller = .ready) : Stepped s .stopCheck s
  | stopUpdate (hc : s.caller = .stopping) :
    Stepped s .stopUpdate { s.updateState .idle with caller := .joining }
  | stopJoin (hc : s.caller = .joining) (hjoined : s.joined s.dataFlow = true) :
    Stepped s .stopJoin { s with caller := .ready }
  | callback {t : Nat} {th : Thread} {a : CallbackAction} {s' : Session}
    (hth : s.threads[t]? = some th) (hs : s.callbackStep t th a = some s') :
    Stepped s (.callback t a) s'

theorem stepped {a : Action} (h : s.step a = some s') : Stepped s a s' := by
  cases a with
  | callback t a =>
    obtain ⟨th,hth,hs⟩ := Option.bind_eq_some_iff.mp h
    exact .callback hth hs
  | startCheck =>
    simp only [Session.step] at h
    split at h
    · rename_i hc
      split at h <;> rename_i hstate <;> cases h
      · exact .startCheck hc hstate
      · exact .startRefused hc hstate
    · cases h
  | stopCheck =>
    simp only [Session.step] at h
    split at h
    · rename_i hc
      split at h <;> rename_i hstate <;> cases h
      · exact .stopCheck hc hstate.1
      · exact .stopRefused hc
    · cases h
  | startRaise =>
    simp only [Session.step] at h
    split at h <;> rename_i hc <;> cases h
    exact .startRaise hc
  | startLaunch =>
    simp only [Session.step] at h
    split at h <;> rename_i hc <;> cases h
    exact .startLaunch hc.1 hc.2
  | startUpdate =>
    simp only [Session.step] at h
    split at h <;> rename_i hc <;> cases h
    exact .startUpdate hc
  | stopUpdate =>
    simp only [Session.step] at h
    split at h <;> rename_i hc <;> cases h
    exact .stopUpdate hc
  | stopJoin =>
    simp only [Session.step] at h
    split at h <;> rename_i hc <;> cases h
    exact .stopJoin hc.1 hc.2

theorem step_callback (hth : s.threads[t]? = some th) (a : CallbackAction) :
    s.step (.callback t a) = s.callbackStep t th a := by
  rw [Session.step,hth]
  rfl

theorem callbackStep_returned {a : CallbackAction} (hc : th.callback = .returned) :
    s.callbackStep t th a = none := by
  cases a <;> simp [Session.callbackStep,hc]

inductive CallbackStepped (s : Session) (t : Nat) (th : Thread) : CallbackAction → Session → Prop
  | completed {ret : ErrorCode} (hc : th.callback = .working) (hret : ret = oviErrorNone) :
    CallbackStepped s t th (.complete ret)
      (s.put t { th with ret := some ret, callback := .reading })
  | failed {ret : ErrorCode} (hc : th.callback = .working) (hret : ret ≠ oviErrorNone) :
    CallbackStepped s t th (.complete ret)
      (s.put t { th with ret := some ret, callback := .updating .idle })
  | readAnalysis (hc : th.callback = .reading) (hstate : s.state = .analysis) :
    CallbackStepped s t th .read (s.put t { th with callback := .launching })
  | readOther (hc : th.callback = .reading) (hstate : s.state ≠ .analysis) :
    CallbackStepped s t th .read (s.put t { th with callback := .rereading })
  | rereadRender (hc : th.callback = .rereading) (hstate : s.state = .render) :
    CallbackStepped s t th .reread (s.put t { th with callback := .updating .idle })
  | rereadOther (hc : th.callback = .rereading) (hstate : s.state ≠ .render) :
    CallbackStepped s t th .reread (s.put t { th with callback := .returned })
  | runRender (hc : th.callback = .launching) :
    CallbackStepped s t th .runRender
      { s.put t { th with callback := .replacing s.threads.length } with
        threads := (s.put t { th with callback := .replacing s.threads.length }).threads ++
          [⟨.renderTask,some t,th.run,none,.working⟩] }
  | replaceRender {task : Nat} (hc : th.callback = .replacing task)
    (hjoined : s.joined s.render = true) :
    CallbackStepped s t th .replaceRender
      { s.put t { th with callback := .updating .render } with render := some task }
  | update {current : OviState} (hc : th.callback = .updating current) :
    CallbackStepped s t th .update
      ((s.updateState current).put t { th with callback := .returned })

theorem callbackStepped {a : CallbackAction} (h : s.callbackStep t th a = some s') :
    CallbackStepped s t th a s' := by
  cases a with
  | complete ret =>
    simp only [Session.callbackStep] at h
    split at h <;> rename_i hc <;> cases h
    split
    · exact .completed hc (by assumption)
    · exact .failed hc (by assumption)
  | read =>
    simp only [Session.callbackStep] at h
    split at h <;> rename_i hc <;> cases h
    split
    · exact .readAnalysis hc (by assumption)
    · exact .readOther hc (by assumption)
  | reread =>
    simp only [Session.callbackStep] at h
    split at h <;> rename_i hc <;> cases h
    split
    · exact .rereadRender hc (by assumption)
    · exact .rereadOther hc (by assumption)
  | runRender =>
    simp only [Session.callbackStep] at h
    split at h <;> rename_i hc <;> cases h
    exact .runRender hc
  | replaceRender =>
    simp only [Session.callbackStep] at h
    split at h
    · rename_i hc
      split at h <;> rename_i hjoined <;> cases h
      exact .replaceRender hc hjoined
    · cases h
  | update =>
    simp only [Session.callbackStep] at h
    split at h <;> rename_i hc <;> cases h
    exact .update hc

section Turns

variable {a : CallbackAction}

theorem step_of_working (hc : th.callback = .working) (hs : s.callbackStep t th a = some s') :
    ∃ ret, s' = s.put t { th with
      ret := some ret
      callback := if ret = oviErrorNone then .reading else .updating .idle } := by
  cases callbackStepped hs with
  | @completed ret _ hret => exact ⟨ret,by rw [if_pos hret]⟩
  | @failed ret _ hret => exact ⟨ret,by rw [if_neg hret]⟩
  | readAnalysis h | readOther h | rereadRender h | rereadOther h | runRender h
  | replaceRender h | update h => simp [hc] at h

theorem step_of_reading (hc : th.callback = .reading) (hs : s.callbackStep t th a = some s') :
    a = .read ∧ s' = s.put t { th with
      callback := if s.state = .analysis then .launching else .rereading } := by
  cases callbackStepped hs with
  | readAnalysis _ hstate => exact ⟨rfl,by rw [if_pos hstate]⟩
  | readOther _ hstate => exact ⟨rfl,by rw [if_neg hstate]⟩
  | completed h | failed h | rereadRender h | rereadOther h | runRender h | replaceRender h
  | update h => simp [hc] at h

theorem step_of_rereading (hc : th.callback = .rereading)
    (hs : s.callbackStep t th a = some s') : s' = s.put t { th with
      callback := if s.state = .render then .updating .idle else .returned } := by
  cases callbackStepped hs with
  | rereadRender _ hstate => rw [if_pos hstate]
  | rereadOther _ hstate => rw [if_neg hstate]
  | completed h | failed h | readAnalysis h | readOther h | runRender h | replaceRender h
  | update h => simp [hc] at h

theorem step_of_launching (hc : th.callback = .launching)
    (hs : s.callbackStep t th a = some s') :
    s' = { s.put t { th with callback := .replacing s.threads.length } with
      threads := (s.put t { th with callback := .replacing s.threads.length }).threads ++
        [⟨.renderTask,some t,th.run,none,.working⟩] } := by
  cases callbackStepped hs with
  | runRender => rfl
  | completed h | failed h | readAnalysis h | readOther h | rereadRender h | rereadOther h
  | replaceRender h | update h => simp [hc] at h

theorem step_of_replacing {task : Nat} (hc : th.callback = .replacing task)
    (hs : s.callbackStep t th a = some s') :
    s' = { s.put t { th with callback := .updating .render } with render := some task } := by
  cases callbackStepped hs with
  | replaceRender h =>
    rw [hc,Callback.replacing.injEq] at h
    rw [h]
  | completed h | failed h | readAnalysis h | readOther h | rereadRender h | rereadOther h
  | runRender h | update h => simp [hc] at h

theorem step_of_updating {current : OviState} (hc : th.callback = .updating current)
    (hs : s.callbackStep t th a = some s') :
    a = .update ∧ s' = (s.updateState current).put t { th with callback := .returned } := by
  cases callbackStepped hs with
  | update h =>
    rw [hc,Callback.updating.injEq] at h
    rw [h]
    exact ⟨rfl,rfl⟩
  | completed h | failed h | readAnalysis h | readOther h | rereadRender h | rereadOther h
  | runRender h | replaceRender h => simp [hc] at h

end Turns

inductive CallbackThreads (s s' : Session) (t : Nat) (th : Thread) : Prop
  | changed {th' : Thread} (hthreads : s'.threads = s.threads.set t th') (hsame : th.SameJob th')
  | launched {th' : Thread} (hc : th.callback = .launching)
    (hthreads : s'.threads = s.threads.set t th' ++ [⟨.renderTask,some t,th.run,none,.working⟩])
    (hsame : th.SameJob th')

theorem CallbackStepped.threads {a : CallbackAction} (h : CallbackStepped s t th a s') :
    CallbackThreads s s' t th := by
  cases h with
  | runRender hc => exact .launched hc rfl ⟨rfl,rfl,rfl⟩
  | _ => exact .changed rfl ⟨rfl,rfl,rfl⟩

theorem getElem?_set_found {threads : List Thread} {th' : Thread} (hth : threads[t]? = some th) :
    (threads.set t th')[t]? = some th' := by
  have hlt := (List.getElem?_eq_some_iff.mp hth).1
  simp [hlt]

def Kept (s s' : Session) : Prop :=
  ∀ (i : Nat) (u : Thread), s.threads[i]? = some u → ∃ u', s'.threads[i]? = some u' ∧ u.SameJob u'

theorem Kept.of_append {threads : List Thread} (h : s'.threads = s.threads ++ threads) :
    Kept s s' := by
  intro i u hu
  have hlt := (List.getElem?_eq_some_iff.mp hu).1
  exact ⟨u,by rw [h,List.getElem?_append_left hlt,hu],rfl,rfl,rfl⟩

theorem CallbackThreads.kept (h : CallbackThreads s s' t th) (hth : s.threads[t]? = some th) :
    Kept s s' := by
  have hset : ∀ {th'}, th.SameJob th' → ∀ (i : Nat) (u : Thread), s.threads[i]? = some u →
      ∃ u', (s.threads.set t th')[i]? = some u' ∧ u.SameJob u' := by
    intro th' hsame i u hu
    by_cases hit : t = i
    · subst hit
      obtain rfl := Option.some.inj (hth.symm.trans hu)
      exact ⟨th',getElem?_set_found hth,hsame⟩
    · exact ⟨u,(List.getElem?_set_ne hit).trans hu,rfl,rfl,rfl⟩
  intro i u hu
  cases h with
  | changed he hsame =>
    obtain ⟨u',hu',hsame'⟩ := hset hsame i u hu
    exact ⟨u',he ▸ hu',hsame'⟩
  | launched _ he hsame =>
    obtain ⟨u',hu',hsame'⟩ := hset hsame i u hu
    have hlt := (List.getElem?_eq_some_iff.mp hu').1
    exact ⟨u',by rw [he,List.getElem?_append_left hlt,hu'],hsame'⟩

theorem step_kept {a : Action} (h : s.step a = some s') : Kept s s' := by
  cases stepped h with
  | callback hth hs => exact (callbackStepped hs).threads.kept hth
  | startLaunch => exact .of_append rfl
  | _ => exact .of_append (List.append_nil _).symm

inductive Newborn (s : Session) : Thread → Prop
  | worker : Newborn s ⟨.dataFlow,none,s.threads.length,none,.working⟩
  | render {t : Nat} {th : Thread} (hth : s.threads[t]? = some th)
    (hc : th.callback = .launching) : Newborn s ⟨.renderTask,some t,th.run,none,.working⟩

inductive Origin (s : Session) (i : Nat) (u : Thread) : Prop
  | old {u₀ : Thread} (hu : s.threads[i]? = some u₀) (hsame : u₀.SameJob u)
    (hdone : u₀.callback = .returned → u = u₀)
  | newborn (hi : i = s.threads.length) (hu : Newborn s u)

theorem origin_set {th' u : Thread} {i : Nat} (hth : s.threads[t]? = some th)
    (hc : th.callback ≠ .returned) (hsame : th.SameJob th')
    (hu : (s.threads.set t th')[i]? = some u) : Origin s i u := by
  by_cases hit : t = i
  · subst hit
    obtain rfl := Option.some.inj ((getElem?_set_found hth).symm.trans hu)
    exact .old hth hsame fun h => absurd h hc
  · rw [List.getElem?_set_ne hit] at hu
    exact .old hu ⟨rfl,rfl,rfl⟩ fun _ => rfl

theorem origin_append {threads : List Thread} {new u : Thread} {i : Nat}
    (hold : ∀ {u}, threads[i]? = some u → Origin s i u)
    (hlen : threads.length = s.threads.length) (hnew : Newborn s new)
    (hu : (threads ++ [new])[i]? = some u) : Origin s i u := by
  by_cases hlt : i < threads.length
  · rw [List.getElem?_append_left hlt] at hu
    exact hold hu
  · have hi : i = threads.length := by
      have := (List.getElem?_eq_some_iff.mp hu).1
      simp only [List.length_append,List.length_singleton] at this
      omega
    subst hi
    obtain rfl : new = u := Option.some.inj (List.getElem?_concat_length.symm.trans hu)
    exact .newborn hlen hnew

theorem step_origin {a : Action} {i : Nat} {u : Thread} (h : s.step a = some s')
    (hu : s'.threads[i]? = some u) : Origin s i u := by
  have hsame : ∀ {u}, s.threads[i]? = some u → Origin s i u :=
    fun hu => .old hu ⟨rfl,rfl,rfl⟩ fun _ => rfl
  cases stepped h with
  | callback hth hs =>
    have hc : _ ≠ Callback.returned := fun hc => by
      rw [callbackStep_returned hc] at hs
      cases hs
    cases (callbackStepped hs).threads with
    | changed he hjob => exact origin_set hth hc hjob (he ▸ hu)
    | launched hl he hjob =>
      exact origin_append (origin_set hth hc hjob) List.length_set (.render hth hl) (he ▸ hu)
  | startLaunch => exact origin_append hsame rfl .worker hu
  | _ => exact hsame hu

theorem step_render {a : Action} (h : s.step a = some s') : s'.render = s.render ∨
    ∃ (t : Nat) (th : Thread) (task : Nat), s.threads[t]? = some th ∧
      th.callback = .replacing task ∧ s'.render = some task := by
  cases stepped h with
  | @callback t th _ _ hth hs =>
    cases callbackStepped hs with
    | @replaceRender task hc => exact .inr ⟨t,th,task,hth,hc,rfl⟩
    | _ => exact .inl rfl
  | _ => exact .inl rfl

end Steps

end Ovi
