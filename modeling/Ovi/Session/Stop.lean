import Ovi.Session.Session

namespace Ovi

open Transition

def Any (_ : Session) (_ : Action) : Prop := True

def BeforeStart (_ : Session) (a : Action) : Prop := a ≠ .startUpdate

def Callback.quiet : Callback → Bool
  | .launching => false
  | .replacing _ => false
  | .updating .idle => true
  | .updating _ => false
  | _ => true

structure StopCall (w : Nat) (p q : Session) : Prop where
  reached : Reaches Session.step Any .initial p
  dataFlow : p.dataFlow = some w
  returns : ∃ p' q', p.step .stopUpdate = some p' ∧
    Reaches Session.step (fun _ a => a ≠ .stopJoin) p' q' ∧ q'.step .stopJoin = some q

structure StopHolds (w : Nat) (p q : Session) : Prop where
  idle : ∀ e, Reaches Session.step BeforeStart q e → e.state = .idle
  unrendered : ∀ e, Reaches Session.step Any q e → renders e.threads w = 0
  unreported : ∀ e, Reaches Session.step BeforeStart q e →
    (OviState.idle,OviState.render) ∉ e.reported.drop p.reported.length

structure Unread (w : Nat) (p : Session) : Prop where
  quiet : ∀ th ∈ p.threads, th.callback.quiet = true
  unrendered : renders p.threads w = 0

def Alone (w : Nat) (p : Session) : Prop :=
  ∀ th ∈ p.threads, th.run ≠ w → th.callback.quiet = true

section Silence

variable {s s' : Session} {w t : Nat} {th : Thread} {reported : List (OviState × OviState)}

structure Silent (w : Nat) (reported : List (OviState × OviState)) (s : Session) : Prop where
  idle : s.state = .idle
  quiet : ∀ th ∈ s.threads, th.callback.quiet = true
  unrendered : renders s.threads w = 0
  reported : s.reported = reported

theorem updateState_idle (h : s.state = .idle) : s.updateState .idle = s := by
  obtain ⟨state,caller,threads,dataFlow,render,reported⟩ := s
  obtain rfl : state = .idle := h
  rfl

theorem Silent.put (h : Silent w reported s) (hth : s.threads[t]? = some th) {th' : Thread}
    (hsame : th.SameJob th') (hq : th'.callback.quiet = true) :
    Silent w reported (s.put t th') := by
  refine ⟨h.idle,fun u hu => ?_,?_,h.reported⟩
  · rcases List.mem_or_eq_of_mem_set hu with hu | rfl
    · exact h.quiet u hu
    · exact hq
  · exact (renders_put hth hsame w).trans h.unrendered

theorem Silent.callback {a : CallbackAction} (h : Silent w reported s)
    (hth : s.threads[t]? = some th) (hs : s.callbackStep t th a = some s') :
    Silent w reported s' := by
  have hquiet := h.quiet th (List.mem_of_getElem? hth)
  cases callbackStepped hs with
  | completed => exact h.put hth ⟨rfl,rfl,rfl⟩ rfl
  | failed => exact h.put hth ⟨rfl,rfl,rfl⟩ rfl
  | readAnalysis _ hstate => simp [h.idle] at hstate
  | readOther => exact h.put hth ⟨rfl,rfl,rfl⟩ rfl
  | rereadRender _ hstate => simp [h.idle] at hstate
  | rereadOther => exact h.put hth ⟨rfl,rfl,rfl⟩ rfl
  | runRender hc => simp [hc,Callback.quiet] at hquiet
  | replaceRender hc => simp [hc,Callback.quiet] at hquiet
  | @update current hc =>
    obtain rfl : current = .idle := by cases current <;> simp [hc,Callback.quiet] at hquiet ⊢
    rw [updateState_idle h.idle]
    exact h.put hth ⟨rfl,rfl,rfl⟩ rfl

theorem Silent.step {a : Action} (h : Silent w reported s) (ha : BeforeStart s a)
    (hs : s.step a = some s') : Silent w reported s' := by
  cases stepped hs with
  | callback hth hs => exact h.callback hth hs
  | startUpdate => exact absurd rfl ha
  | startLaunch =>
    refine ⟨h.idle,fun u hu => ?_,?_,h.reported⟩
    · rcases List.mem_append.mp hu with hu | hu
      · exact h.quiet u hu
      · obtain rfl := List.mem_singleton.mp hu
        rfl
    · rw [renders_push,h.unrendered]
      rfl
  | stopUpdate =>
    rw [updateState_idle h.idle]
    exact ⟨h.idle,h.quiet,h.unrendered,h.reported⟩
  | _ => exact ⟨h.idle,h.quiet,h.unrendered,h.reported⟩

theorem Silent.reaches (h : Silent w reported s) (hr : Reaches Session.step BeforeStart s s') :
    Silent w reported s' := hr.invariant h fun _ _ _ h ha hs => h.step ha hs

end Silence

section Joining

variable {s s' p q : Session} {w t : Nat} {th : Thread}

structure Joining (w : Nat) (s : Session) : Prop where
  caller : s.caller = .joining
  dataFlow : s.dataFlow = some w

theorem callbackStep_call {a : CallbackAction} (hs : s.callbackStep t th a = some s') :
    s'.caller = s.caller ∧ s'.dataFlow = s.dataFlow := by
  cases callbackStepped hs <;> exact ⟨rfl,rfl⟩

theorem Joining.step {a : Action} (h : Joining w s) (ha : a ≠ .stopJoin)
    (hs : s.step a = some s') : Joining w s' ∧ BeforeStart s a := by
  cases stepped hs with
  | callback hth hs =>
    obtain ⟨hcaller,hflow⟩ := callbackStep_call hs
    exact ⟨⟨hcaller.trans h.caller,hflow.trans h.dataFlow⟩,nofun⟩
  | stopJoin => exact absurd rfl ha
  | startCheck hc | startRefused hc | startRaise hc | startLaunch hc | startUpdate hc
  | stopCheck hc | stopRefused hc | stopUpdate hc => simp [h.caller] at hc

theorem Joining.reaches (h : Joining w s)
    (hr : Reaches Session.step (fun _ a => a ≠ .stopJoin) s s') :
    Joining w s' ∧ Reaches Session.step BeforeStart s s' := by
  induction hr with
  | refl => exact ⟨h,.refl⟩
  | tail _ hmove ih =>
    obtain ⟨a,ha,hs⟩ := hmove
    obtain ⟨hjoining,hbefore⟩ := ih.1.step ha hs
    exact ⟨hjoining,ih.2.tail ⟨a,hbefore,hs⟩⟩

end Joining

section Runs

variable {s s' p q : Session} {w t : Nat} {th : Thread}

def Numbered (s : Session) : Prop :=
  ∀ (i : Nat) (th : Thread), s.threads[i]? = some th → th.job = .dataFlow → th.run = i

theorem Numbered.step {a : Action} (h : Numbered s) (hs : s.step a = some s') : Numbered s' := by
  intro i u hu hjob
  cases step_origin hs hu with
  | old hu₀ hsame _ => exact hsame.run.trans (h i _ hu₀ (hsame.job.symm.trans hjob))
  | newborn hi hnew =>
    cases hnew with
    | worker => exact hi.symm
    | render => cases hjob

theorem numbered_of_reaches (h : Reaches Session.step Any .initial s) : Numbered s :=
  h.invariant (fun i th hth => by simp [Session.initial] at hth) fun _ _ _ h _ hs => h.step hs

def Started (s : Session) : Prop :=
  ∀ w, s.dataFlow = some w → ∃ th, s.threads[w]? = some th ∧ th.job = .dataFlow

theorem Started.step {a : Action} (h : Started s) (hs : s.step a = some s') : Started s' := by
  have hkept : ∀ w, s.dataFlow = some w → ∃ th, s'.threads[w]? = some th ∧ th.job = .dataFlow := by
    intro w hw
    obtain ⟨th,hth,hjob⟩ := h w hw
    obtain ⟨th',hth',hsame⟩ := step_kept hs w th hth
    exact ⟨th',hth',hsame.job.trans hjob⟩
  intro w hw
  cases stepped hs with
  | callback _ hs => exact hkept w ((callbackStep_call hs).2 ▸ hw)
  | startLaunch =>
    obtain rfl := Option.some.inj hw
    exact ⟨_,List.getElem?_concat_length,rfl⟩
  | _ => exact hkept w hw

theorem started_of_reaches (h : Reaches Session.step Any .initial s) : Started s :=
  h.invariant nofun fun _ _ _ h _ hs => h.step hs

structure Barren (w : Nat) (s : Session) : Prop where
  returned : ∀ th ∈ s.threads, th.run = w → th.callback = .returned ∧ th.job = .dataFlow
  launched : w < s.threads.length

theorem Barren.step {a : Action} (h : Barren w s) (hs : s.step a = some s') : Barren w s' := by
  constructor
  · intro u hu hrun
    obtain ⟨i,hi⟩ := List.mem_iff_getElem?.mp hu
    cases step_origin hs hi with
    | old hu₀ hsame hdone =>
      have hret := h.returned _ (List.mem_of_getElem? hu₀) (hsame.run.symm.trans hrun)
      rwa [hdone hret.1]
    | newborn _ hnew =>
      cases hnew with
      | worker => exact absurd hrun h.launched.ne'
      | render hth hc =>
        have hret := h.returned _ (List.mem_of_getElem? hth) hrun
        simp [hc] at hret
  · obtain ⟨u,hu,-⟩ := step_kept hs w _ (List.getElem?_eq_getElem h.launched)
    exact (List.getElem?_eq_some_iff.mp hu).1

theorem Barren.unrendered (h : Barren w s) : renders s.threads w = 0 := by
  refine List.countP_eq_zero.mpr fun th hth => ?_
  simp only [Bool.and_eq_true,decide_eq_true_eq,not_and]
  intro hjob hrun
  have hret := h.returned th hth hrun
  simp [hjob] at hret

theorem dataFlow_of_unrendered (hnone : renders s.threads w = 0) (hth : th ∈ s.threads)
    (hrun : th.run = w) : th.job = .dataFlow := by
  cases hj : th.job with
  | dataFlow => rfl
  | renderTask =>
    have hcount := List.countP_eq_zero.mp hnone th hth
    simp [hj,hrun] at hcount

theorem barren_of_joined (hn : Numbered s) (hflow : s.dataFlow = some w)
    (hw : ∃ th, s.threads[w]? = some th ∧ th.job = .dataFlow) (hjoined : s.joined s.dataFlow = true)
    (hnone : renders s.threads w = 0) : Barren w s := by
  obtain ⟨th,hth,-⟩ := hw
  refine ⟨fun u hu hrun => ?_,(List.getElem?_eq_some_iff.mp hth).1⟩
  have hjob := dataFlow_of_unrendered hnone hu hrun
  obtain ⟨i,hi⟩ := List.mem_iff_getElem?.mp hu
  obtain rfl : i = w := (hn i u hi hjob).symm.trans hrun
  refine ⟨?_,hjob⟩
  simpa [Session.joined,hflow,hi] using hjoined

def Launching (w : Nat) (s : Session) : Prop :=
  0 < renders s.threads w ∨
    ∃ th, s.threads[w]? = some th ∧ th.run = w ∧ th.callback = .launching

theorem renders_le {a : Action} (hs : s.step a = some s') (w : Nat) :
    renders s.threads w ≤ renders s'.threads w := by
  cases stepped hs with
  | callback hth hs =>
    cases (callbackStepped hs).threads with
    | changed he hsame => rw [he,renders_set hth hsame.job hsame.run]
    | launched _ he hsame =>
      rw [he,renders_push,renders_set hth hsame.job hsame.run]
      exact Nat.le_add_right _ _
  | startLaunch =>
    rw [renders_push]
    exact Nat.le_add_right _ _
  | _ => exact le_refl _

theorem launching_callback {a : CallbackAction} (hrun : th.run = w)
    (hc : th.callback = .launching) (hs : s.callbackStep w th a = some s') :
    0 < renders s'.threads w := by
  obtain rfl := step_of_launching hc hs
  rw [renders_push,if_pos ⟨rfl,hrun⟩]
  exact Nat.succ_pos _

theorem Launching.step {a : Action} (h : Launching w s) (hs : s.step a = some s') :
    Launching w s' := by
  rcases h with hpos | ⟨th,hth,hrun,hc⟩
  · exact .inl (lt_of_lt_of_le hpos (renders_le hs w))
  · have hlt := (List.getElem?_eq_some_iff.mp hth).1
    cases stepped hs with
    | @callback t _ _ _ ht hs =>
      by_cases htw : t = w
      · subst htw
        obtain rfl := Option.some.inj (hth.symm.trans ht)
        exact .inl (launching_callback hrun hc hs)
      · have hkept : ∀ th', (s.threads.set t th')[w]? = some th := fun th' =>
          (List.getElem?_set_ne htw).trans hth
        refine .inr ⟨th,?_,hrun,hc⟩
        cases (callbackStepped hs).threads with
        | changed he => exact he ▸ hkept _
        | launched _ he => rw [he,List.getElem?_append_left (by simpa using hlt),hkept]
    | startLaunch => exact .inr ⟨th,(List.getElem?_append_left hlt).trans hth,hrun,hc⟩
    | _ => exact .inr ⟨th,hth,hrun,hc⟩

def Handed (s : Session) : Prop := ∀ th ∈ s.threads, th.callback.quiet = false →
  th.callback = .launching ∨ 0 < renders s.threads th.run

theorem Handed.put (h : Handed s) (hth : s.threads[t]? = some th) {th' : Thread}
    (hsame : th.SameJob th') (hq : th'.callback.quiet = false →
      th'.callback = .launching ∨ 0 < renders s.threads th.run) : Handed (s.put t th') := by
  intro u hu hloud
  rw [renders_put hth hsame]
  rcases List.mem_or_eq_of_mem_set hu with hu | rfl
  · exact h u hu hloud
  · exact hsame.run ▸ hq hloud

theorem Handed.push (h : Handed s) {new : Thread} (hq : new.callback.quiet = true) :
    Handed { s with threads := s.threads ++ [new] } := by
  intro u hu hloud
  rcases List.mem_append.mp hu with hu | hu
  · refine (h u hu hloud).imp_right fun hpos => ?_
    rw [renders_push]
    omega
  · obtain rfl := List.mem_singleton.mp hu
    simp [hq] at hloud

theorem Handed.callback {a : CallbackAction} (h : Handed s) (hth : s.threads[t]? = some th)
    (hs : s.callbackStep t th a = some s') : Handed s' := by
  have hthread := h th (List.mem_of_getElem? hth)
  cases callbackStepped hs with
  | completed => exact h.put hth ⟨rfl,rfl,rfl⟩ nofun
  | failed => exact h.put hth ⟨rfl,rfl,rfl⟩ nofun
  | readAnalysis => exact h.put hth ⟨rfl,rfl,rfl⟩ fun _ => .inl rfl
  | readOther => exact h.put hth ⟨rfl,rfl,rfl⟩ nofun
  | rereadRender => exact h.put hth ⟨rfl,rfl,rfl⟩ nofun
  | rereadOther => exact h.put hth ⟨rfl,rfl,rfl⟩ nofun
  | update => exact h.put hth ⟨rfl,rfl,rfl⟩ nofun
  | replaceRender hc =>
    refine h.put hth ⟨rfl,rfl,rfl⟩ fun _ => .inr ?_
    simpa [hc,Callback.quiet] using hthread
  | runRender hc =>
    have hsame : th.SameJob { th with callback := .replacing s.threads.length } := ⟨rfl,rfl,rfl⟩
    intro u hu hloud
    rw [renders_push,renders_put hth hsame]
    rcases List.mem_append.mp hu with hu | hu
    · rcases List.mem_or_eq_of_mem_set hu with hu | rfl
      · exact (h u hu hloud).imp_right fun hpos => Nat.lt_add_right _ hpos
      · exact .inr (by simp)
    · obtain rfl := List.mem_singleton.mp hu
      cases hloud

theorem Handed.step {a : Action} (h : Handed s) (hs : s.step a = some s') : Handed s' := by
  cases stepped hs with
  | callback hth hs => exact h.callback hth hs
  | startLaunch => exact h.push rfl
  | _ => exact h

theorem handed_of_reaches (h : Reaches Session.step Any .initial s) : Handed s :=
  h.invariant nofun fun _ _ _ h _ hs => h.step hs

theorem Launching.reaches {allowed : Session → Action → Prop} (h : Launching w s)
    (hr : Reaches Session.step allowed s s') : Launching w s' :=
  hr.invariant h fun _ _ _ h _ hs => h.step hs

end Runs

section Return

variable {p p' q q' : Session} {w : Nat}

theorem stopCall_of_exec (before after : List Action)
    (hp : exec Session.step (fun _ _ => true) before .initial = some p)
    (hflow : p.dataFlow = some w) (hpublish : p.step .stopUpdate = some p')
    (hjoining : exec Session.step (fun _ a => a ≠ .stopJoin) after p' = some q')
    (hjoin : q'.step .stopJoin = some q) : StopCall w p q :=
  ⟨reaches_of_exec before (fun _ _ _ => trivial) hp,hflow,p',q',hpublish,
    reaches_of_exec after (fun _ _ => of_decide_eq_true) hjoining,hjoin⟩

theorem Unread.silent (h : Unread w p) (hs : p.step .stopUpdate = some p') :
    Silent w (p.updateState .idle).reported p' := by
  cases stepped hs
  exact ⟨rfl,h.quiet,h.unrendered,rfl⟩

theorem joining_of_stopUpdate (hflow : p.dataFlow = some w)
    (hs : p.step .stopUpdate = some p') : Joining w p' := by
  cases stepped hs
  exact ⟨rfl,hflow⟩

theorem updateState_unreported (p : Session) :
    (OviState.idle,OviState.render) ∉ (p.updateState .idle).reported.drop p.reported.length := by
  simp only [Session.updateState]
  split
  · simp
  · rw [List.drop_left]
    simp

theorem StopCall.unread_holds (h : StopCall w p q) (hu : Unread w p) : StopHolds w p q := by
  obtain ⟨p',q',hpublish,hjoining,hjoin⟩ := h.returns
  obtain ⟨hcall,hrun⟩ := (joining_of_stopUpdate h.dataFlow hpublish).reaches hjoining
  have hsilent := (hu.silent hpublish).reaches hrun
  have hreached : Reaches Session.step Any .initial q' :=
    (h.reached.tail ⟨_,trivial,hpublish⟩).trans (hjoining.weaken fun _ _ _ => trivial)
  cases stepped hjoin with
  | stopJoin _ hjoined =>
    have hbarren := barren_of_joined (numbered_of_reaches hreached) hcall.dataFlow
      (started_of_reaches hreached w hcall.dataFlow) hjoined hsilent.unrendered
    have hq : Silent w _ { q' with caller := .ready } :=
      ⟨hsilent.idle,hsilent.quiet,hsilent.unrendered,hsilent.reported⟩
    refine ⟨fun e he => (hq.reaches he).idle,fun e he => ?_,fun e he => ?_⟩
    · have hrest : Barren w e := he.invariant (P := Barren w) ⟨hbarren.returned,hbarren.launched⟩
        fun _ _ _ h _ hs => h.step hs
      exact hrest.unrendered
    · rw [(hq.reaches he).reported]
      exact updateState_unreported p

theorem StopCall.launching_renders (h : StopCall w p q) (hl : Launching w p) :
    0 < renders q.threads w := by
  obtain ⟨p',q',hpublish,hjoining,hjoin⟩ := h.returns
  have hq' := (hl.step hpublish).reaches hjoining
  have hq := hq'.step hjoin
  cases stepped hjoin with
  | stopJoin hcaller hjoined =>
    rcases hq with hpos | ⟨th,hth,-,hc⟩
    · exact hpos
    · have hcall := ((joining_of_stopUpdate h.dataFlow hpublish).reaches hjoining).1
      have hth' : q'.threads[w]? = some th := hth
      simp [Session.joined,hcall.dataFlow,hth',hc] at hjoined

theorem StopCall.holds_unread (h : StopCall w p q) (ha : Alone w p) (hholds : StopHolds w p q) :
    Unread w p := by
  have hno : ¬ Launching w p := fun hl =>
    (h.launching_renders hl).ne' (hholds.unrendered q .refl)
  obtain ⟨hzero,hidle⟩ := not_or.mp hno
  have hnone : renders p.threads w = 0 := Nat.eq_zero_of_not_pos hzero
  refine ⟨fun th hth => ?_,hnone⟩
  by_cases hrun : th.run = w
  · by_contra hq
    have hloud : th.callback.quiet = false := by simpa using hq
    rcases handed_of_reaches h.reached th hth hloud with hc | hpos
    · obtain ⟨i,hi⟩ := List.mem_iff_getElem?.mp hth
      have hi' : i = w := by
        rw [← hrun]
        exact (numbered_of_reaches h.reached i th hi (dataFlow_of_unrendered hnone hth hrun)).symm
      exact hidle ⟨th,hi' ▸ hi,hrun,hc⟩
    · rw [hrun,hnone] at hpos
      cases hpos
  · exact ha th hth hrun

theorem stop_holds (h : StopCall w p q) :
    (Unread w p → StopHolds w p q) ∧ (Alone w p → StopHolds w p q → Unread w p) :=
  ⟨h.unread_holds,h.holds_unread⟩

def analysingSession : Session :=
  ⟨.analysis,.stopping,[⟨.dataFlow,none,0,none,.working⟩],some 0,none,[(.idle,.analysis)]⟩

def stoppedSession : Session :=
  ⟨.idle,.ready,[⟨.dataFlow,none,0,some oviErrorNone,.returned⟩],some 0,none,
    [(.idle,.analysis),(.analysis,.idle)]⟩

theorem stop_holds_analysingSession : StopCall 0 analysingSession stoppedSession ∧
    StopHolds 0 analysingSession stoppedSession := by
  have hcall : StopCall 0 analysingSession stoppedSession :=
    stopCall_of_exec [.startCheck,.startLaunch,.startUpdate,.stopCheck]
      [.callback 0 (.complete oviErrorNone),.callback 0 .read,.callback 0 .reread]
      (by decide) rfl rfl rfl rfl
  exact ⟨hcall,(stop_holds hcall).1 ⟨by decide,rfl⟩⟩

-- the worker reads the state before `stop` publishes it, and launches after
def crossingSession : Session :=
  ⟨.analysis,.stopping,[⟨.dataFlow,none,0,some oviErrorNone,.launching⟩],some 0,none,
    [(.idle,.analysis)]⟩

def resumedSession : Session :=
  ⟨.render,.ready,[⟨.dataFlow,none,0,some oviErrorNone,.returned⟩,
    ⟨.renderTask,some 0,0,none,.working⟩],some 0,some 1,
    [(.idle,.analysis),(.analysis,.idle),(.idle,.render)]⟩

theorem stop_resumed_crossingSession : StopCall 0 crossingSession resumedSession ∧
    ¬ StopHolds 0 crossingSession resumedSession := by
  refine ⟨stopCall_of_exec [.startCheck,.startLaunch,.startUpdate,
    .callback 0 (.complete oviErrorNone),.callback 0 .read,.stopCheck]
    [.callback 0 .runRender,.callback 0 .replaceRender,.callback 0 .update]
    (by decide) rfl rfl rfl rfl,fun h => ?_⟩
  have hidle := h.idle resumedSession .refl
  cases hidle

end Return

end Ovi
