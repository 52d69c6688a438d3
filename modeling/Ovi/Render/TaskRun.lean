import Ovi.Library.Checks
import Ovi.Range.RenderTask
import Ovi.Render.FFmpegEffect

namespace Ovi

structure Clip where
  timeRange : TimeRange
  effects : List Effect

-- the plugins of a task, where each clip may get another answer from `effectInfo`
structure RenderPlugins where
  pluginManager : PluginManager
  effectInfo : Nat → String → Except Exn AttrMap
  setAttrs : AttrMap → Except Exn Unit
  render : List Clip → Except Exn Unit

structure RenderTask where
  renderId : String
  framerate : ℚ
  accumulated : List RawData
  outputPath : String

namespace RenderTask

def raise (answer : Except Exn Unit) : Except Fault Unit := answer.mapError .raised

variable (task : RenderTask) (p : RenderPlugins)

def makeClip (tr : TimeRangeWithMetadata × Nat) : Except Fault Clip :=
  (makeEffectList p.pluginManager (p.effectInfo tr.2) tr.1.collection).map (Clip.mk tr.1.timeRange)

def makeClips : Except Fault (List Clip) :=
  (makeTimeRange task.accumulated task.framerate).zipIdx.mapM (makeClip p)

-- what stands between `try` and the call of the completion callback
def renderClips : Except Fault Unit := do
  let clips ← task.makeClips p
  raise (p.setAttrs {("path",task.outputPath)})
  raise (p.render clips)

-- the codes the completion callback has been invoked with when the task returns
def worker : Except Fault (List ErrorCode) :=
  match p.pluginManager.find task.renderId with
  | none => .error (.raised (.ovi oviErrorInvalidParameter))
  | some plugin =>
    if plugin.type = .render then
      match task.renderClips p with
      | .ok _ => .ok [oviErrorNone]
      | .error (.raised (.ovi error)) => .ok [error]
      | .error fault => .error fault
    else .error .undefined

def calls : List (Except Fault Unit) :=
  (makeTimeRange task.accumulated task.framerate).zipIdx.flatMap (fun tr =>
    tr.1.collection.toList.map (fun item =>
      (effectOf p.pluginManager (p.effectInfo tr.2) item).map (fun _ => ()))) ++
  [raise (p.setAttrs {("path",task.outputPath)}),
    match task.makeClips p with
    | .ok clips => raise (p.render clips)
    | .error _ => .ok ()]

end RenderTask

def Fault.Coded (fault : Fault) : Prop :=
  ∃ error, fault = .raised (.ovi error) ∧ error ≠ oviErrorNone

namespace RenderTask

def CompletesOnce (task : RenderTask) (p : RenderPlugins) : Prop :=
  ∃ code, task.worker p = .ok [code] ∧
    ((∃ call ∈ task.calls p, ∃ fault, call = .error fault) → code ≠ oviErrorNone)

structure Orderly (task : RenderTask) (p : RenderPlugins) : Prop where
  render : ∃ plugin, p.pluginManager.find task.renderId = some plugin ∧ plugin.type = .render
  coded : ∀ pre call post, task.calls p = pre ++ call :: post →
    (∃ fault, call = .error fault ∧ ¬ fault.Coded) →
      ∃ earlier ∈ pre, ∃ fault, earlier = .error fault ∧ fault.Coded

variable {task : RenderTask} {p : RenderPlugins}

theorem renderClips_eq_forM : task.renderClips p = (task.calls p).forM id := by
  have hclip : ∀ tr : TimeRangeWithMetadata × Nat,
      (tr.1.collection.toList.map (fun item =>
        (effectOf p.pluginManager (p.effectInfo tr.2) item).map (fun _ => ()))).forM id =
      (makeClip p tr).map (fun _ => ()) := by
    intro tr
    rw [Checks.forM_map,makeClip,makeEffectList]
    simp only [id_eq]
    rw [Checks.forM_discard]
    cases tr.1.collection.toList.mapM (effectOf p.pluginManager (p.effectInfo tr.2)) <;> rfl
  rw [renderClips,calls,Checks.forM_append,Checks.forM_flatMap]
  simp only [hclip]
  rw [Checks.forM_discard]
  change (task.makeClips p >>= _) = ((task.makeClips p).map _ >>= _)
  cases task.makeClips p with
  | error fault => rfl
  | ok clips =>
    change _ = (raise (p.setAttrs {("path",task.outputPath)}) >>= fun _ =>
      raise (p.render clips) >>= fun _ => .ok ())
    cases raise (p.setAttrs {("path",task.outputPath)}) with
    | error fault => rfl
    | ok u => cases h : raise (p.render clips) <;> simp [bind,Except.bind,h]

theorem completesOnce_iff : task.CompletesOnce p ↔ task.Orderly p := by
  have hchain : (∀ fault, task.renderClips p = .error fault → fault.Coded) ↔
      ∀ pre call post, task.calls p = pre ++ call :: post →
        (∃ fault, call = .error fault ∧ ¬ fault.Coded) →
          ∃ earlier ∈ pre, ∃ fault, earlier = .error fault ∧ fault.Coded := by
    rw [renderClips_eq_forM]
    exact Checks.forM_error_iff
  have hfails : (∃ call ∈ task.calls p, ∃ fault, call = .error fault) ↔
      ∃ fault, task.renderClips p = .error fault := by
    rw [renderClips_eq_forM]
    exact Checks.forM_fails_iff.symm
  rw [CompletesOnce,hfails]
  constructor
  · rintro ⟨code,hworker,hcode⟩
    rw [worker] at hworker
    split at hworker
    · cases hworker
    · rename_i plugin hf
      split at hworker
      · rename_i hr
        refine ⟨⟨plugin,hf,hr⟩,hchain.mp fun fault hfault => ?_⟩
        have hne := hcode ⟨fault,hfault⟩
        rw [hfault] at hworker
        split at hworker
        · rename_i heq
          cases heq
        · rename_i error heq
          cases heq
          cases hworker
          exact ⟨_,rfl,hne⟩
        · cases hworker
      · cases hworker
  · rintro ⟨⟨plugin,hf,hr⟩,hcoded⟩
    cases hbody : task.renderClips p with
    | ok u =>
      refine ⟨oviErrorNone,?_,fun ⟨fault,hfault⟩ => by cases hfault⟩
      simp [worker,hf,hr,hbody]
    | error fault =>
      obtain ⟨error,rfl,hne⟩ := hchain.mpr hcoded fault hbody
      refine ⟨error,?_,fun _ => hne⟩
      simp [worker,hf,hr,hbody]

end RenderTask

end Ovi
