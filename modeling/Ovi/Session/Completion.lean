import Ovi.Flow.Completion
import Ovi.Render.EffectMetadata
import Ovi.Render.TaskRun
import Ovi.Session.Session

namespace Ovi

open Transition

def Thread.succeeded (th : Thread) (callback : Callback) : Thread :=
  { th with ret := some oviErrorNone, callback := callback }

namespace Session

def callbackActions (s : Session) (ret : ErrorCode) : List CallbackAction :=
  .complete ret :: if ret = oviErrorNone then
    match s.state with
    | .analysis => [.read,.runRender,.replaceRender,.update]
    | .render => [.read,.reread,.update]
    | .idle => [.read,.reread]
  else [.update]

def receive (s : Session) (t : Nat) (ret : ErrorCode) : Option Session :=
  exec step (fun _ _ => true) ((s.callbackActions ret).map (.callback t)) s

def receiveRun (s : Session) (w : Nat) (ret taskRet : ErrorCode) : Option Session :=
  (s.receive w ret).bind fun s' =>
    if ret = oviErrorNone then s'.receive s.threads.length taskRet else some s'

structure Awaits (s : Session) (w : Nat) : Prop where
  state : s.state = .analysis
  working : ∃ th, s.threads[w]? = some th ∧ th.callback = .working
  render : ∀ r, s.render = some r → ∃ th, s.threads[r]? = some th ∧ th.callback = .returned

variable {s s' : Session} {t : Nat} {th : Thread} {ret : ErrorCode}

theorem exec_callback {a : CallbackAction} (hth : s.threads[t]? = some th)
    (hs : s.callbackStep t th a = some s') (as : List Action) :
    exec step (fun _ _ => true) (.callback t a :: as) s = exec step (fun _ _ => true) as s' := by
  rw [exec,if_pos rfl,step_callback hth,hs]
  rfl

theorem exec_nil (s : Session) : exec step (fun _ _ => true) [] s = some s := rfl

theorem put_found (hth : s.threads[t]? = some th) (th' : Thread) :
    (s.put t th').threads[t]? = some th' := getElem?_set_found hth

theorem receive_failed (hth : s.threads[t]? = some th) (hc : th.callback = .working)
    (hret : ret ≠ oviErrorNone) : ∃ s', s.receive t ret = some s' ∧ s'.state = .idle := by
  have hcomplete : s.callbackStep t th (.complete ret) =
      some (s.put t { th with ret := some ret, callback := .updating .idle }) := by
    simp [callbackStep,hc,hret]
  rw [receive,callbackActions,if_neg hret]
  simp only [List.map_cons,List.map_nil]
  rw [exec_callback hth hcomplete,exec_callback (put_found hth _) rfl,exec_nil]
  exact ⟨_,rfl,rfl⟩

theorem exec_succeeded (hth : s.threads[t]? = some th) (hc : th.callback = .working)
    (as : List Action) :
    exec step (fun _ _ => true)
        (.callback t (.complete oviErrorNone) :: .callback t .read :: as) s =
      exec step (fun _ _ => true) as
        (s.put t (th.succeeded (if s.state = .analysis then .launching else .rereading))) := by
  have hcomplete : s.callbackStep t th (.complete oviErrorNone) =
      some (s.put t (th.succeeded .reading)) := by
    simp [callbackStep,hc,Thread.succeeded]
  have hread : (s.put t (th.succeeded .reading)).callbackStep t (th.succeeded .reading) .read =
      some (s.put t (th.succeeded
        (if s.state = .analysis then .launching else .rereading))) := by
    by_cases hs : s.state = .analysis
    · simp [callbackStep,Thread.succeeded,put,hs]
    · simp [callbackStep,Thread.succeeded,put,hs]
  rw [exec_callback hth hcomplete,exec_callback (put_found hth _) hread]

theorem receive_rendered (hth : s.threads[t]? = some th) (hc : th.callback = .working)
    (hs : s.state = .render) : ∃ s', s.receive t oviErrorNone = some s' ∧ s'.state = .idle := by
  have hreread : (s.put t (th.succeeded .rereading)).callbackStep t (th.succeeded .rereading)
      .reread = some (s.put t (th.succeeded (.updating .idle))) := by
    simp [callbackStep,Thread.succeeded,put,hs]
  rw [receive,callbackActions,if_pos rfl,hs]
  simp only [List.map_cons,List.map_nil]
  rw [exec_succeeded hth hc,hs,if_neg (by decide),exec_callback (put_found hth _) hreread,
    exec_callback (put_found hth _) rfl,exec_nil]
  exact ⟨_,rfl,rfl⟩

def launched (s : Session) (t : Nat) (th : Thread) : Session := { s with
  threads := s.threads.set t (th.succeeded (.replacing s.threads.length)) ++
    [⟨.renderTask,some t,th.run,none,.working⟩] }

theorem launched_self (hth : s.threads[t]? = some th) :
    (s.launched t th).threads[t]? = some (th.succeeded (.replacing s.threads.length)) := by
  have hlt := (List.getElem?_eq_some_iff.mp hth).1
  have hlen : t < (s.threads.set t (th.succeeded (.replacing s.threads.length))).length := by
    rwa [List.length_set]
  exact (List.getElem?_append_left hlen).trans (getElem?_set_found hth)

theorem launched_other {r : Nat} {u : Thread} (hu : s.threads[r]? = some u) (hne : t ≠ r) :
    (s.launched t th).threads[r]? = some u := by
  have hlt := (List.getElem?_eq_some_iff.mp hu).1
  have hlen : r < (s.threads.set t (th.succeeded (.replacing s.threads.length))).length := by
    rwa [List.length_set]
  refine (List.getElem?_append_left hlen).trans ?_
  rw [List.getElem?_set_ne hne]
  exact hu

theorem joined_launched (h : s.Awaits t) (hth : s.threads[t]? = some th)
    (hc : th.callback = .working) : (s.launched t th).joined (s.launched t th).render = true := by
  rw [joined,Option.all_eq_true]
  intro r hr
  obtain ⟨u,hu,hdone⟩ := h.render r hr
  have hne : t ≠ r := by
    rintro rfl
    obtain rfl := Option.some.inj (hth.symm.trans hu)
    rw [hc] at hdone
    cases hdone
  have hkept : (s.launched t th).threads[r]? = some u := launched_other hu hne
  simp [hkept,hdone]

theorem receive_analysed (h : s.Awaits t) : ∃ s', s.receive t oviErrorNone = some s' ∧
    s'.state = .render ∧ ∃ th', s'.threads[s.threads.length]? = some th' ∧
      th'.callback = .working := by
  obtain ⟨th,hth,hc⟩ := h.working
  have hlt := (List.getElem?_eq_some_iff.mp hth).1
  have hrun : (s.put t (th.succeeded .launching)).callbackStep t (th.succeeded .launching)
      .runRender = some (s.launched t th) := by
    simp [callbackStep,Thread.succeeded,put,launched]
  have hreplace : (s.launched t th).callbackStep t (th.succeeded (.replacing s.threads.length))
      .replaceRender = some { (s.launched t th).put t (th.succeeded (.updating .render)) with
        render := some s.threads.length } := by
    simp [callbackStep,Thread.succeeded,joined_launched h hth hc]
  have hupdate : ({ (s.launched t th).put t (th.succeeded (.updating .render)) with
      render := some s.threads.length } : Session).threads[t]? =
      some (th.succeeded (.updating .render)) := put_found (launched_self hth) _
  rw [receive,callbackActions,if_pos rfl,h.state]
  simp only [List.map_cons,List.map_nil]
  rw [exec_succeeded hth hc,h.state,if_pos rfl,exec_callback (put_found hth _) hrun,
    exec_callback (launched_self hth) hreplace,exec_callback hupdate rfl,exec_nil]
  refine ⟨_,rfl,rfl,⟨.renderTask,some t,th.run,none,.working⟩,?_,rfl⟩
  have hne : t ≠ s.threads.length := Nat.ne_of_lt hlt
  simp [updateState,put,launched,hne]

theorem receiveRun_idle {w : Nat} (h : s.Awaits w) (ret taskRet : ErrorCode) :
    ∃ s', s.receiveRun w ret taskRet = some s' ∧ s'.state = .idle := by
  by_cases hret : ret = oviErrorNone
  · subst hret
    obtain ⟨s₁,hs₁,hstate,th,hth,hc⟩ := receive_analysed h
    rw [receiveRun,hs₁,Option.bind_some,if_pos rfl]
    by_cases htask : taskRet = oviErrorNone
    · subst htask
      exact receive_rendered hth hc hstate
    · exact receive_failed hth hc htask
  · obtain ⟨th,hth,hc⟩ := h.working
    obtain ⟨s₁,hs₁,hidle⟩ := receive_failed hth hc hret
    rw [receiveRun,hs₁,Option.bind_some,if_neg hret]
    exact ⟨s₁,rfl,hidle⟩

end Session

theorem completes_iff {σ : Type} {d : DataFlow σ} {request : List String}
    (hv : validateLogic d.pluginManager request = true) {A₀ : LogicAnalyzer}
    (hA₀ : LogicAnalyzer.make request = some A₀) {w : Worker σ} (hA : Used A₀ w.logicAnalyzer)
    (task : RenderTask) (p : RenderPlugins) {s : Session} {t : Nat} (hs : s.Awaits t) :
    (∃ answers result, LoopRun d (d.startWorker w) answers result) ∧
    (∀ answers result, LoopRun d (d.startWorker w) answers result →
      (d.CompletesOnce w answers ↔ Orderly answers)) ∧
    (task.CompletesOnce p ↔ task.Orderly p) ∧
    ∀ ret taskRet, ∃ s', s.receiveRun t ret taskRet = some s' ∧ s'.state = .idle :=
  ⟨worker_runs hv hA₀ hA,fun _ _ h => h.completesOnce_iff,RenderTask.completesOnce_iff,
    Session.receiveRun_idle hs⟩

section Sample

def started : Session :=
  ⟨.analysis,.ready,[⟨.dataFlow,none,0,none,.working⟩],some 0,none,[(.idle,.analysis)]⟩

theorem started_awaits : started.Awaits 0 :=
  ⟨rfl,⟨_,rfl,rfl⟩,fun r hr => by cases hr⟩

-- a detector that lets an exception of the standard library through
def escapingFlow : DataFlow Unit := { sampleFlow with
  plugins := ⟨fun _ frame => .ok frame,fun _ _ st => (.error .other,st)⟩ }

def oneFrameWorker : Worker Unit :=
  Worker.initial faceAnalyzer (AvSynchronizer.make oneFrame.extractor) ()

-- `applyEffect` is handed a word where `std::stoi` wants a number
def wordTask : RenderTask :=
  ⟨"FFmpegRender.2",30,[⟨5,true,{("VideoEffectMarker.1",[.rect 10 20 30 40])}⟩],"out.mp4"⟩

def wordPlugins : RenderPlugins where
  pluginManager := markerPlugins.load 1 "FFmpegRender" ⟨.render⟩
  effectInfo := fun _ _ => .ok (drawbox "abc")
  setAttrs := fun _ => .ok ()
  render := fun clips => clips.forM (fun clip => clip.effects.forM (fun effect =>
    (FFmpegEffect.applyEffect sampleHost effect.effectName effect.metadata 30).map
      (fun _ => ())))

theorem completes_iff_oneFrame :
    (∃ answers result, LoopRun sampleFlow (sampleFlow.startWorker oneFrameWorker) answers result) ∧
    (∀ answers result, LoopRun sampleFlow (sampleFlow.startWorker oneFrameWorker) answers result →
      (sampleFlow.CompletesOnce oneFrameWorker answers ↔ Orderly answers)) ∧
    (wordTask.CompletesOnce wordPlugins ↔ wordTask.Orderly wordPlugins) ∧
    ∀ ret taskRet, ∃ s', started.receiveRun 0 ret taskRet = some s' ∧ s'.state = .idle :=
  completes_iff (by decide) faceAnalyzer_made .made wordTask wordPlugins started_awaits

theorem escaping_never_completes :
    validateLogic escapingFlow.pluginManager ["FaceDetect.1"] = true ∧
    LogicAnalyzer.make ["FaceDetect.1"] = some oneFrameWorker.logicAnalyzer ∧
    (∃ answers result, LoopRun escapingFlow (escapingFlow.startWorker oneFrameWorker) answers
      result ∧ ¬ escapingFlow.CompletesOnce oneFrameWorker answers) ∧
    ¬ wordTask.CompletesOnce wordPlugins := by
  have hv : validateLogic escapingFlow.pluginManager ["FaceDetect.1"] = true := by decide
  have hescapes : ∀ n, escapingFlow.worker (n + 3) oneFrameWorker =
      some (.error (.raised .other)) := fun _ => rfl
  obtain ⟨answers,result,hrun⟩ := worker_runs (w := oneFrameWorker) hv faceAnalyzer_made .made
  refine ⟨hv,faceAnalyzer_made,⟨answers,result,hrun,?_⟩,?_⟩
  · rintro ⟨code,⟨n,hcode⟩,-⟩
    obtain ⟨w',hw',-⟩ := hcode (n + 3) (by omega)
    rw [hescapes] at hw'
    cases hw'
  · rintro ⟨code,hcode,-⟩
    have hescaped : wordTask.worker wordPlugins = .error (.raised .other) := rfl
    cases hescaped.symm.trans hcode

end Sample

end Ovi
