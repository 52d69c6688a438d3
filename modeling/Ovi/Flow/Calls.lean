import Ovi.Flow.Coverage
import Ovi.Flow.Turns

namespace Ovi

structure DetectorCall where
  uid : String
  frame : FramePack
  detect : Bool
deriving DecidableEq, Repr

def detects : Except Exn Outcome → Bool
  | .ok outcome => outcome.detect
  | .error _ => false

variable {σ : Type}

def PluginProcess.logged (p : PluginProcess σ) : PluginProcess (σ × List DetectorCall) where
  convert := p.convert
  process uid frame st :=
    ((p.process uid frame st.1).1,(p.process uid frame st.1).2,
      st.2 ++ [⟨uid,frame,detects (p.process uid frame st.1).1⟩])

def DataFlow.logged (d : DataFlow σ) : DataFlow (σ × List DetectorCall) where
  pluginManager := d.pluginManager
  plugins := d.plugins.logged
  skipFrames := d.skipFrames
  progressCallback := d.progressCallback
  run := d.run

def PluginType.hasData (frames : Frames) : PluginType → Bool
  | .videoDetect => frames.1.isSome
  | .audioDetect => !frames.2.isEmpty
  | _ => false

def PluginManager.hasData (pm : PluginManager) (frames : Frames) (uid : String) : Bool :=
  (pm.find uid).any fun plugin => plugin.type.hasData frames

structure NewCalls (before after : List DetectorCall) (detect : Prop) : Prop where
  grows : ∃ new, after = before ++ new ∧ ((∃ c ∈ new, c.detect = true) ↔ detect)

section Calls

variable {d : DataFlow σ} {frames : Frames} {uid : String} {st st' : σ × List DetectorCall}
  {outcome : Outcome}

theorem NewCalls.none {calls : List DetectorCall} {P : Prop} (h : ¬P) : NewCalls calls calls P :=
  ⟨[],(List.append_nil calls).symm,iff_of_false (fun ⟨_,hc,_⟩ => by cases hc) h⟩

theorem NewCalls.trans {calls calls' calls'' : List DetectorCall} {P Q : Prop}
    (h : NewCalls calls calls' P) (h' : NewCalls calls' calls'' Q) :
    NewCalls calls calls'' (P ∨ Q) := by
  obtain ⟨new,rfl,hP⟩ := h.grows
  obtain ⟨new',rfl,hQ⟩ := h'.grows
  refine ⟨new ++ new',List.append_assoc _ _ _,?_⟩
  rw [← hP,← hQ]
  constructor
  · rintro ⟨c,hc,hd⟩
    exact (List.mem_append.mp hc).imp (fun hc => ⟨c,hc,hd⟩) fun hc => ⟨c,hc,hd⟩
  · rintro (⟨c,hc,hd⟩ | ⟨c,hc,hd⟩)
    · exact ⟨c,List.mem_append_left _ hc,hd⟩
    · exact ⟨c,List.mem_append_right _ hc,hd⟩

theorem NewCalls.congr {calls calls' : List DetectorCall} {P Q : Prop} (h : NewCalls calls calls' P)
    (hPQ : P ↔ Q) : NewCalls calls calls' Q := by
  obtain ⟨new,heq,hP⟩ := h.grows
  exact ⟨new,heq,hP.trans hPQ⟩

theorem processOne_calls {frame : FramePack}
    (h : d.logged.processOne uid frame st = (.ok outcome,st')) :
    NewCalls st.2 st'.2 (outcome.detect = true) := by
  rw [DataFlow.processOne] at h
  split at h
  · cases h
  · have hres := congrArg Prod.fst h
    have hst := congrArg (fun r => r.2.2) h
    refine ⟨_,hst.symm,?_⟩
    have hdetect : detects (d.plugins.process uid _ st.1).1 = outcome.detect :=
      congrArg detects hres
    constructor
    · rintro ⟨c,hc,hd⟩
      obtain rfl := List.mem_singleton.mp hc
      exact hdetect.symm.trans hd
    · intro hd
      exact ⟨_,List.mem_singleton.mpr rfl,hdetect.trans hd⟩

theorem processAudio_calls {aFrames : List FramePack} {result : Outcome}
    (hresult : result.detect = false)
    (h : d.logged.processAudio uid aFrames result st = (.ok outcome,st')) :
    NewCalls st.2 st'.2 (outcome.detect = true) := by
  induction aFrames generalizing result st with
  | nil =>
    rw [DataFlow.processAudio] at h
    cases h
    exact .none (by rw [hresult]; exact Bool.false_ne_true)
  | cons frame aFrames ih =>
    rw [DataFlow.processAudio] at h
    cases hone : d.logged.processOne uid frame st with
    | mk answer st₁ =>
      rw [hone] at h
      cases answer with
      | error e => cases h
      | ok result₁ =>
        have hcalls := processOne_calls hone
        dsimp only at h
        split at h
        · cases h
          exact hcalls
        · rename_i hfalse
          have hrest := ih (Bool.eq_false_iff.mpr hfalse) h
          exact (hcalls.trans hrest).congr (or_iff_right hfalse)

theorem hasData_of_find {pm : PluginManager} {plugin : Plugin} (hf : pm.find uid = some plugin) :
    pm.hasData frames uid = plugin.type.hasData frames := by
  rw [PluginManager.hasData,hf]
  rfl

theorem raise_ok {result : Except Exn Outcome × (σ × List DetectorCall)}
    (h : DataFlow.raise result = (.ok outcome,st')) : result = (.ok outcome,st') := by
  obtain ⟨answer,st⟩ := result
  cases answer with
  | error e => cases h
  | ok o =>
    cases h
    rfl

-- a detector without data answers by default that it detected something
theorem processPlugin_calls (h : d.logged.processPlugin uid frames st = (.ok outcome,st')) :
    NewCalls st.2 st'.2 (outcome.detect = true ∧ d.pluginManager.hasData frames uid = true) ∧
      (d.pluginManager.hasData frames uid = false → outcome.detect = true) := by
  rw [DataFlow.processPlugin] at h
  cases hf : d.logged.pluginManager.find uid with
  | none =>
    rw [hf] at h
    cases h
  | some plugin =>
    obtain ⟨type⟩ := plugin
    rw [hf] at h
    have hdata : d.pluginManager.hasData frames uid = type.hasData frames := hasData_of_find hf
    rw [hdata]
    cases type with
    | videoDetect =>
      cases hv : frames.1 with
      | none =>
        rw [hv] at h
        cases h
        have hno : PluginType.hasData frames .videoDetect = false := congrArg Option.isSome hv
        exact ⟨.none fun hand => Bool.false_ne_true (hno.symm.trans hand.2),fun _ => rfl⟩
      | some vFrame =>
        rw [hv] at h
        have hyes : PluginType.hasData frames .videoDetect = true := congrArg Option.isSome hv
        have hone := processOne_calls (raise_ok h)
        refine ⟨hone.congr (and_iff_left hyes).symm,fun hno => ?_⟩
        exact absurd (hno.symm.trans hyes) Bool.false_ne_true
    | audioDetect =>
      have haudio := raise_ok h
      cases ha : frames.2 with
      | nil =>
        rw [ha] at haudio
        cases haudio
        have hno : PluginType.hasData frames .audioDetect = false := 
          congrArg (fun l : List FramePack => !l.isEmpty) ha
        exact ⟨.none fun hand => Bool.false_ne_true (hno.symm.trans hand.2),fun _ => rfl⟩
      | cons aFrame aFrames =>
        rw [ha] at haudio
        have hyes : PluginType.hasData frames .audioDetect = true := 
          congrArg (fun l : List FramePack => !l.isEmpty) ha
        -- a batch that is not empty forgets the answer it was started with
        have hfalse : d.logged.processAudio uid (aFrame :: aFrames) ⟨false,[]⟩ st =
            (.ok outcome,st') := haudio
        have hcalls := processAudio_calls rfl hfalse
        refine ⟨hcalls.congr (and_iff_left hyes).symm,fun hno => ?_⟩
        exact absurd (hno.symm.trans hyes) Bool.false_ne_true
    | _ => cases h

end Calls

end Ovi
