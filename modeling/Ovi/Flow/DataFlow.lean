import Ovi.Logic.LogicAnalyzer
import Ovi.Flow.OutcomeCache
import Ovi.Flow.AvSynchronizer
import Mathlib.Algebra.Group.Nat.Defs

namespace Ovi

-- the plugins under one state `σ`, since a detector may remember the frames it was given
structure PluginProcess (σ : Type) where
  convert : String → FramePack → Except Exn FramePack
  process : String → FramePack → σ → Except Exn Outcome × σ

structure DataFlow (σ : Type) where
  pluginManager : PluginManager
  plugins : PluginProcess σ
  skipFrames : UInt64
  progressCallback : Bool
  -- what the successive loads of `_run` see
  run : Nat → Bool

structure Worker (σ : Type) where
  avSynchronizer : AvSynchronizer
  logicAnalyzer : LogicAnalyzer
  accumulator : Accumulator
  outcomeCache : OutcomeCache
  plugins : σ
  loads : Nat
  ret : ErrorCode
  progress : List String
  completed : List ErrorCode

abbrev Frames := Option FramePack × List FramePack

namespace DataFlow

variable {σ : Type} (d : DataFlow σ)

def load (w : Worker σ) : Bool × Worker σ := (d.run w.loads,{ w with loads := w.loads + 1 })

def invokeProgressCb (w : Worker σ) (progress : String) : Worker σ :=
  if d.progressCallback then { w with progress := w.progress ++ [progress] } else w

def readGroup : Nat → AvSynchronizer → Frames → Except Exn (Frames × AvSynchronizer)
  | 0, s, frames => .ok (frames,s)
  | steps + 1, s, _ => do
    let (vFrame,s) ← s.getNextVideo
    let (aFrames,s) ← s.getNextAudio
    if vFrame.isNone && aFrames.isEmpty then .ok ((vFrame,aFrames),s)
    else readGroup steps s (vFrame,aFrames)

def processOne (uid : String) (frame : FramePack) (st : σ) : Except Exn Outcome × σ :=
  match d.plugins.convert uid frame with
  | .error e => (.error e,st)
  | .ok frameConverted => d.plugins.process uid frameConverted st

def processAudio (uid : String) : List FramePack → Outcome → σ → Except Exn Outcome × σ
  | [], result, st => (.ok result,st)
  | frame :: aFrames, _, st =>
    match d.processOne uid frame st with
    | (.error e,st) => (.error e,st)
    | (.ok result,st) =>
      if result.detect then (.ok result,st) else processAudio uid aFrames result st

def raise (result : Except Exn Outcome × σ) : Except Fault Outcome × σ :=
  (result.1.mapError .raised,result.2)

-- only a detector is an `IPluginProcess`, so the assertion fails for every other type
def processPlugin (uid : String) (frames : Frames) (st : σ) : Except Fault Outcome × σ :=
  match d.pluginManager.find uid with
  | none => (.error (.raised (.ovi oviErrorInvalidParameter)),st)
  | some plugin =>
    match plugin.type with
    | .videoDetect =>
      match frames.1 with
      | some vFrame => raise (d.processOne uid vFrame st)
      | none => (.ok ⟨true,[]⟩,st)
    | .audioDetect => raise (d.processAudio uid frames.2 ⟨true,[]⟩ st)
    | _ => (.error .undefined,st)

-- `for (int i = _skipFrames; i >= 0; i--)`
def skipCounts (skipFrames : UInt64) : List Int :=
  (List.range (Int.bmod skipFrames.toNat (2 ^ 32) + 1).toNat).reverse.map Int.ofNat

def appendResult (w : Worker σ) (frames : Frames) : Accumulator :=
  let numbers := match frames.1 with
    | some vFrame => (skipCounts d.skipFrames).map (vFrame.frameNum - ·)
    | none => frames.2.map FramePack.frameNum
  numbers.foldl (fun a frameNumber =>
    a.append frameNumber w.logicAnalyzer.included w.outcomeCache.detected) w.accumulator

def endFrame (w : Worker σ) (frames : Frames) : Except Fault (Worker σ) :=
  if w.outcomeCache.findMultiFrameResult then
    match w.outcomeCache.getMultiFrameResult with
    | .error e => .error (.raised e)
    | .ok detected =>
      match w.accumulator.update detected with
      | (_,some fault) => .error fault
      | (accumulator,none) => .ok { w with accumulator := accumulator }
  else .ok { w with accumulator := d.appendResult w frames }

def handlePlugin (w : Worker σ) (frames : Frames) (uid : String) (plugin : Plugin) :
    Except Fault (Bool × Worker σ) :=
  if isEffectType plugin then
    .ok (true,{ w with outcomeCache := w.outcomeCache.setDetected uid })
  else
    match d.processPlugin uid frames w.plugins with
    | (.ok outcome,st) =>
      .ok (true,{ w with plugins := st, outcomeCache := w.outcomeCache.write uid outcome })
    | (.error (.raised (.ovi error)),st) => .ok (false,{ w with plugins := st, ret := error })
    | (.error fault,_) => .error fault

-- the flag says that the loop was left at `OVI_EOP`
def frameLoop (frames : Frames) : Nat → Worker σ → Option (Except Fault (Bool × Worker σ))
  | 0, _ => none
  | fuel + 1, w =>
    let (running,w) := d.load w
    if !running then some (.ok (false,w))
    else
      let (outcome,cache) := w.outcomeCache.result
      match w.logicAnalyzer.nextPlugin outcome.detect with
      | none => some (.error .undefined)
      | some (uid,logicAnalyzer) =>
        let w := { w with logicAnalyzer := logicAnalyzer, outcomeCache := cache }
        if uid == oviEop then some (.ok (true,w))
        else if w.outcomeCache.hit uid then
          frameLoop frames fuel { w with outcomeCache := w.outcomeCache.setResultUid uid }
        else
          match d.pluginManager.find uid with
          | none => some (.error (.raised (.ovi oviErrorInvalidParameter)))
          | some plugin =>
            match d.handlePlugin w frames uid plugin with
            | .error fault => some (.error fault)
            | .ok (false,w) => some (.ok (false,w))
            | .ok (true,w) => frameLoop frames fuel w

def reportFrame (w : Worker σ) (frames : Frames) : Worker σ :=
  match frames with
  | (some vFrame,_) =>
    d.invokeProgressCb w (toString vFrame.frameNum ++ "/" ++ toString vFrame.duration)
  | (none,aFrame :: _) =>
    d.invokeProgressCb w (toString aFrame.frameNum ++ "/" ++ toString aFrame.duration)
  | (none,[]) => w

def startFrame (w : Worker σ) (s : AvSynchronizer) : Worker σ :=
  { w with avSynchronizer := s, logicAnalyzer := w.logicAnalyzer.reset, outcomeCache := .clear }

def workerLoop : Nat → Worker σ → Option (Except Fault (Worker σ))
  | 0, _ => none
  | fuel + 1, w =>
    let (running,w) := d.load w
    if !running then some (.ok w)
    else
      match readGroup (d.skipFrames + 1).toNat w.avSynchronizer (none,[]) with
      | .error (.ovi error) => some (.ok { w with ret := error })
      | .error .other => some (.error (.raised .other))
      | .ok (frames,s) =>
        if frames.1.isNone && frames.2.isEmpty then some (.ok { w with avSynchronizer := s })
        else
          match d.frameLoop frames fuel (startFrame w s) with
          | none => none
          | some (.error fault) => some (.error fault)
          | some (.ok (eop,w)) =>
            match if eop then d.endFrame w frames else .ok w with
            | .error fault => some (.error fault)
            | .ok w => workerLoop fuel (d.reportFrame w frames)

def startWorker (w : Worker σ) : Worker σ :=
  d.invokeProgressCb { w with ret := oviErrorNone } "Start Analysis..."

def worker (fuel : Nat) (w : Worker σ) : Option (Except Fault (Worker σ)) :=
  match d.workerLoop fuel (d.startWorker w) with
  | some (.ok w) =>
    let w := d.invokeProgressCb w "Finish Analysis..."
    some (.ok { w with completed := w.completed ++ [w.ret] })
  | result => result

end DataFlow

def Worker.advance {σ : Type} (w : Worker σ) (A : LogicAnalyzer) : Worker σ := { w with
  loads := w.loads + 1
  logicAnalyzer := A
  outcomeCache := w.outcomeCache.result.2 }

structure SameStreams {σ : Type} (w w' : Worker σ) : Prop where
  avSynchronizer : w'.avSynchronizer = w.avSynchronizer
  accumulator : w'.accumulator = w.accumulator

section Turns

variable {σ : Type} {d : DataFlow σ} {frames : Frames} {w w₁ : Worker σ} {uid : String}
  {A : LogicAnalyzer} {plugin : Plugin}

theorem frameLoop_stopped (hrun : d.run w.loads = false) (fuel : Nat) :
    d.frameLoop frames (fuel + 1) w = some (.ok (false,{ w with loads := w.loads + 1 })) := by
  rw [DataFlow.frameLoop]
  simp [DataFlow.load,hrun]

theorem frameLoop_undefined (hrun : d.run w.loads = true)
    (hn : w.logicAnalyzer.nextPlugin w.outcomeCache.result.1.detect = none) (fuel : Nat) :
    d.frameLoop frames (fuel + 1) w = some (.error .undefined) := by
  rw [DataFlow.frameLoop]
  simp [DataFlow.load,hrun,hn]

theorem frameLoop_eop (hrun : d.run w.loads = true)
    (hn : w.logicAnalyzer.nextPlugin w.outcomeCache.result.1.detect = some (oviEop,A))
    (fuel : Nat) : d.frameLoop frames (fuel + 1) w = some (.ok (true,w.advance A)) := by
  rw [DataFlow.frameLoop]
  simp [DataFlow.load,hrun,hn,Worker.advance]

theorem frameLoop_hit (hrun : d.run w.loads = true)
    (hn : w.logicAnalyzer.nextPlugin w.outcomeCache.result.1.detect = some (uid,A))
    (hne : uid ≠ oviEop) (hhit : w.outcomeCache.result.2.hit uid = true) (fuel : Nat) :
    d.frameLoop frames (fuel + 1) w = d.frameLoop frames fuel { w.advance A with
      outcomeCache := w.outcomeCache.result.2.setResultUid uid } := by
  rw [DataFlow.frameLoop]
  simp [DataFlow.load,hrun,hn,hne,hhit,Worker.advance]

theorem frameLoop_unknown (hrun : d.run w.loads = true)
    (hn : w.logicAnalyzer.nextPlugin w.outcomeCache.result.1.detect = some (uid,A))
    (hne : uid ≠ oviEop) (hhit : w.outcomeCache.result.2.hit uid = false)
    (hf : d.pluginManager.find uid = none) (fuel : Nat) : d.frameLoop frames (fuel + 1) w =
      some (.error (.raised (.ovi oviErrorInvalidParameter))) := by
  rw [DataFlow.frameLoop]
  simp [DataFlow.load,hrun,hn,hne,hhit,hf]

theorem frameLoop_handled (hrun : d.run w.loads = true)
    (hn : w.logicAnalyzer.nextPlugin w.outcomeCache.result.1.detect = some (uid,A))
    (hne : uid ≠ oviEop) (hhit : w.outcomeCache.result.2.hit uid = false)
    (hf : d.pluginManager.find uid = some plugin)
    (hp : d.handlePlugin (w.advance A) frames uid plugin = .ok (true,w₁)) (fuel : Nat) :
    d.frameLoop frames (fuel + 1) w = d.frameLoop frames fuel w₁ := by
  rw [Worker.advance] at hp
  rw [DataFlow.frameLoop]
  simp [DataFlow.load,hrun,hn,hne,hhit,hf,hp]

theorem frameLoop_raised (hrun : d.run w.loads = true)
    (hn : w.logicAnalyzer.nextPlugin w.outcomeCache.result.1.detect = some (uid,A))
    (hne : uid ≠ oviEop) (hhit : w.outcomeCache.result.2.hit uid = false)
    (hf : d.pluginManager.find uid = some plugin)
    (hp : d.handlePlugin (w.advance A) frames uid plugin = .ok (false,w₁)) (fuel : Nat) :
    d.frameLoop frames (fuel + 1) w = some (.ok (false,w₁)) := by
  rw [Worker.advance] at hp
  rw [DataFlow.frameLoop]
  simp [DataFlow.load,hrun,hn,hne,hhit,hf,hp]

theorem frameLoop_fault (hrun : d.run w.loads = true)
    (hn : w.logicAnalyzer.nextPlugin w.outcomeCache.result.1.detect = some (uid,A))
    (hne : uid ≠ oviEop) (hhit : w.outcomeCache.result.2.hit uid = false)
    (hf : d.pluginManager.find uid = some plugin) {fault : Fault}
    (hp : d.handlePlugin (w.advance A) frames uid plugin = .error fault) (fuel : Nat) :
    d.frameLoop frames (fuel + 1) w = some (.error fault) := by
  rw [Worker.advance] at hp
  rw [DataFlow.frameLoop]
  simp [DataFlow.load,hrun,hn,hne,hhit,hf,hp]

inductive Turn (d : DataFlow σ) (frames : Frames) (w : Worker σ) : Prop
  | stopped (heq : ∀ fuel, d.frameLoop frames (fuel + 1) w =
      some (.ok (false,{ w with loads := w.loads + 1 })))
  | fault {fault : Fault} (heq : ∀ fuel, d.frameLoop frames (fuel + 1) w = some (.error fault))
  | eop {A : LogicAnalyzer}
    (heq : ∀ fuel, d.frameLoop frames (fuel + 1) w = some (.ok (true,w.advance A)))
  | hit {uid : String} {A : LogicAnalyzer}
    (heq : ∀ fuel, d.frameLoop frames (fuel + 1) w = d.frameLoop frames fuel { w.advance A with
      outcomeCache := w.outcomeCache.result.2.setResultUid uid })
  | raised {uid : String} {A : LogicAnalyzer} {plugin : Plugin} {w₁ : Worker σ}
    (hp : d.handlePlugin (w.advance A) frames uid plugin = .ok (false,w₁))
    (heq : ∀ fuel, d.frameLoop frames (fuel + 1) w = some (.ok (false,w₁)))
  | handled {uid : String} {A : LogicAnalyzer} {plugin : Plugin} {w₁ : Worker σ}
    (hp : d.handlePlugin (w.advance A) frames uid plugin = .ok (true,w₁))
    (heq : ∀ fuel, d.frameLoop frames (fuel + 1) w = d.frameLoop frames fuel w₁)

theorem turn (d : DataFlow σ) (frames : Frames) (w : Worker σ) : Turn d frames w := by
  cases hrun : d.run w.loads with
  | false => exact .stopped (frameLoop_stopped hrun)
  | true =>
    cases hn : w.logicAnalyzer.nextPlugin w.outcomeCache.result.1.detect with
    | none => exact .fault (frameLoop_undefined hrun hn)
    | some r =>
      obtain ⟨uid,A⟩ := r
      by_cases hne : uid = oviEop
      · subst hne
        exact .eop (frameLoop_eop hrun hn)
      · cases hhit : w.outcomeCache.result.2.hit uid with
        | true => exact .hit (frameLoop_hit hrun hn hne hhit)
        | false =>
          cases hf : d.pluginManager.find uid with
          | none => exact .fault (frameLoop_unknown hrun hn hne hhit hf)
          | some plugin =>
            cases hp : d.handlePlugin (w.advance A) frames uid plugin with
            | error fault => exact .fault (frameLoop_fault hrun hn hne hhit hf hp)
            | ok r =>
              obtain ⟨go,w₁⟩ := r
              cases go with
              | false => exact .raised hp (frameLoop_raised hrun hn hne hhit hf hp)
              | true => exact .handled hp (frameLoop_handled hrun hn hne hhit hf hp)

theorem SameStreams.trans {w₂ : Worker σ} (h : SameStreams w w₁) (h' : SameStreams w₁ w₂) :
    SameStreams w w₂ :=
  ⟨h'.avSynchronizer.trans h.avSynchronizer,h'.accumulator.trans h.accumulator⟩

theorem advance_streams (w : Worker σ) (A : LogicAnalyzer) : SameStreams w (w.advance A) :=
  ⟨rfl,rfl⟩

theorem handlePlugin_streams {b : Bool} (h : d.handlePlugin w frames uid plugin = .ok (b,w₁)) :
    SameStreams w w₁ := by
  unfold DataFlow.handlePlugin at h
  split at h
  · cases h
    exact ⟨rfl,rfl⟩
  · split at h <;> cases h <;> exact ⟨rfl,rfl⟩

theorem frameLoop_streams {fuel : Nat} {w' : Worker σ} {eop : Bool}
    (h : d.frameLoop frames fuel w = some (.ok (eop,w'))) : SameStreams w w' := by
  induction fuel generalizing w with
  | zero => cases h
  | succ fuel ih =>
    cases turn d frames w with
    | stopped heq =>
      rw [heq] at h
      cases h
      exact ⟨rfl,rfl⟩
    | fault heq =>
      rw [heq] at h
      cases h
    | eop heq =>
      rw [heq] at h
      cases h
      exact advance_streams w _
    | hit heq =>
      rw [heq] at h
      have hrest := ih h
      exact ⟨hrest.avSynchronizer,hrest.accumulator⟩
    | raised hp heq =>
      rw [heq] at h
      cases h
      exact (advance_streams w _).trans (handlePlugin_streams hp)
    | handled hp heq =>
      rw [heq] at h
      exact ((advance_streams w _).trans (handlePlugin_streams hp)).trans (ih h)

theorem invokeProgressCb_streams (w : Worker σ) (progress : String) :
    SameStreams w (d.invokeProgressCb w progress) := by
  unfold DataFlow.invokeProgressCb
  split <;> exact ⟨rfl,rfl⟩

end Turns

end Ovi
