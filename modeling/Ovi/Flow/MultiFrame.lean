import Ovi.Flow.Numbering
import Ovi.Flow.Turns

namespace Ovi

variable {σ : Type} {d : DataFlow σ}

-- `given` counts the frames the detector has been given, and the answer comes at the last of them
structure MultiFrameDetector (d : DataFlow σ) (uid : String) (given : σ → Nat)
    (values : List Bool) : Prop where
  loaded : d.pluginManager.find uid = some ⟨.videoDetect⟩
  own : ∀ frame st, given (d.plugins.process uid frame st).2 = given st + 1
  others : ∀ uid' frame st, uid' ≠ uid → given (d.plugins.process uid' frame st).2 = given st
  before : ∀ frame st, given st + 1 < values.length →
    ∃ detect, (d.plugins.process uid frame st).1 = .ok ⟨detect,[]⟩
  answer : ∀ frame st, given st + 1 = values.length →
    ∃ detect, (d.plugins.process uid frame st).1 = .ok ⟨detect,values.map .bool⟩

def MultiFrameRecorded (g k : Nat) (values : List Bool) : Except Fault (Worker σ) → Prop
  | .error _ => False
  | .ok w => (w.accumulator.rawdata.map fun x => (x.frameNumber,x.included)).Perm
      ((List.range (k * g)).map fun (i : Nat) => ((i : Int) + 1,values.getD (i / g) false))

def OutcomeCache.Holds (c : OutcomeCache) (uid : String) : Prop :=
  ∃ outcome, c.storage[uid]? = some outcome ∧ outcome.multiFrame = true

section Update

theorem updateFrom_bools (values : List Bool) (i : Nat) (rawdata : List RawData) :
    (Accumulator.updateFrom (values.map .bool) i rawdata).2 =
      if i + rawdata.length ≤ values.length ∨ rawdata = [] then none else some .undefined := by
  induction rawdata generalizing i with
  | nil => exact (if_pos (.inr rfl)).symm
  | cons item rawdata ih =>
    rw [Accumulator.updateFrom,List.getElem?_map]
    cases hv : values[i]? with
    | none =>
      have hle := List.getElem?_eq_none_iff.mp hv
      have hlong : ¬(i + (item :: rawdata).length ≤ values.length ∨ item :: rawdata = []) := by
        rw [List.length_cons]
        rintro (h | h)
        · omega
        · cases h
      rw [if_neg hlong]
      rfl
    | some value =>
      have hlt := (List.getElem?_eq_some_iff.mp hv).1
      have hiff : (i + 1 + rawdata.length ≤ values.length ∨ rawdata = []) ↔
          (i + (item :: rawdata).length ≤ values.length ∨ item :: rawdata = []) := by
        rw [List.length_cons]
        constructor
        · rintro (h | rfl)
          · exact .inl (by omega)
          · exact .inl (by rw [List.length_nil]; omega)
        · rintro (h | h)
          · exact .inl (by omega)
          · cases h
      exact (ih (i + 1)).trans (by simp only [hiff])

theorem update_bools (a : Accumulator) (values : List Bool) :
    (a.update (values.map .bool)).2 =
      if a.rawdata.length ≤ values.length then none else some .undefined := by
  have h := updateFrom_bools values 0 a.rawdata
  rw [Nat.zero_add] at h
  refine h.trans ?_
  by_cases hle : a.rawdata.length ≤ values.length
  · rw [if_pos hle,if_pos (.inl hle)]
  · rw [if_neg hle,if_neg]
    rintro (h | h)
    · exact hle h
    · exact hle (by rw [h]; exact Nat.zero_le _)

end Update

section Frame

variable {uid : String} {given : σ → Nat} {values : List Bool} {w w' : Worker σ} {fuel : Nat}

theorem OutcomeCache.Holds.hit {c : OutcomeCache} (h : c.Holds uid) : c.hit uid = true := by
  obtain ⟨outcome,hs,-⟩ := h
  exact hit_iff.mpr ⟨outcome,hs⟩

theorem OutcomeCache.Holds.result {c : OutcomeCache} (h : c.Holds uid) : c.result.2.Holds uid := by
  obtain ⟨outcome,hs,hm⟩ := h
  exact ⟨outcome,stored_result hs,hm⟩

theorem OutcomeCache.Holds.found {c : OutcomeCache} (h : c.Holds uid) :
    c.findMultiFrameResult = true := by
  obtain ⟨outcome,hs,hm⟩ := h
  exact List.any_eq_true.mpr ⟨(uid,outcome),Std.TreeMap.mem_toList_iff_getElem?_eq_some.mpr hs,hm⟩

theorem MultiFrameDetector.processOne_other (h : MultiFrameDetector d uid given values)
    {uid' : String} (hne : uid' ≠ uid) (frame : FramePack) (st : σ) :
    given (d.processOne uid' frame st).2 = given st := by
  rw [DataFlow.processOne]
  split
  · rfl
  · exact h.others uid' _ st hne

theorem MultiFrameDetector.processAudio_other (h : MultiFrameDetector d uid given values)
    {uid' : String} (hne : uid' ≠ uid) (aFrames : List FramePack) (result : Outcome) (st : σ) :
    given (d.processAudio uid' aFrames result st).2 = given st := by
  induction aFrames generalizing result st with
  | nil => rfl
  | cons frame aFrames ih =>
    have hone := h.processOne_other hne frame st
    rw [DataFlow.processAudio]
    generalize d.processOne uid' frame st = answer at hone
    obtain ⟨outcome,st'⟩ := answer
    cases outcome with
    | error e => exact hone
    | ok outcome =>
      dsimp only
      split
      · exact hone
      · exact (ih outcome st').trans hone

theorem MultiFrameDetector.processPlugin_other (h : MultiFrameDetector d uid given values)
    {uid' : String} (hne : uid' ≠ uid) (frames : Frames) (st : σ) :
    given (d.processPlugin uid' frames st).2 = given st := by
  rw [DataFlow.processPlugin]
  split
  · rfl
  · split
    · split
      · exact h.processOne_other hne _ st
      · rfl
    · exact h.processAudio_other hne _ _ st
    · rfl

theorem MultiFrameDetector.processPlugin_own (h : MultiFrameDetector d uid given values)
    {frames : Frames} {st st' : σ} {outcome : Outcome}
    (hp : d.processPlugin uid frames st = (.ok outcome,st'))
    (hbefore : given st ≠ values.length) (hafter : given st' = values.length) :
    outcome.multiFrame = true := by
  rw [DataFlow.processPlugin,h.loaded] at hp
  dsimp only at hp
  cases hv : frames.1 with
  | none =>
    rw [hv] at hp
    cases hp
    exact absurd hafter hbefore
  | some vFrame =>
    rw [hv] at hp
    change DataFlow.raise (d.processOne uid vFrame st) = (.ok outcome,st') at hp
    rw [DataFlow.processOne] at hp
    cases hc : d.plugins.convert uid vFrame with
    | error e =>
      rw [hc] at hp
      cases hp
    | ok frame =>
      rw [hc] at hp
      have hcount := h.own frame st
      have hst : (d.plugins.process uid frame st).2 = st' := congrArg Prod.snd hp
      rw [hst,hafter] at hcount
      obtain ⟨detect,hanswer⟩ := h.answer frame st hcount.symm
      have hout := congrArg Prod.fst hp
      rw [DataFlow.raise,hanswer] at hout
      cases hout
      cases values with
      | nil => cases hcount
      | cons value values => rfl

theorem MultiFrameDetector.handlePlugin (h : MultiFrameDetector d uid given values)
    {frames : Frames} {uid' : String} {plugin : Plugin}
    (hw : given w.plugins = values.length → w.outcomeCache.Holds uid)
    (hhit : w.outcomeCache.hit uid' = false)
    (hp : d.handlePlugin w frames uid' plugin = .ok (true,w'))
    (hgiven : given w'.plugins = values.length) : w'.outcomeCache.Holds uid := by
  unfold DataFlow.handlePlugin at hp
  split at hp
  · cases hp
    exact (hw hgiven).result
  · split at hp
    · rename_i outcome st hprocess
      cases hp
      by_cases hne : uid' = uid
      · subst hne
        have hbefore : given w.plugins ≠ values.length := fun he => by
          rw [(hw he).hit] at hhit
          cases hhit
        exact ⟨outcome,by rw [OutcomeCache.storage_write,if_pos rfl],
          h.processPlugin_own hprocess hbefore hgiven⟩
      · have hsame := h.processPlugin_other hne frames w.plugins
        rw [hprocess] at hsame
        obtain ⟨o,ho,hm⟩ := hw (hsame.symm.trans hgiven)
        exact ⟨o,by rw [OutcomeCache.storage_write,if_neg hne,ho],hm⟩
    · cases hp
    · cases hp

theorem MultiFrameDetector.frameLoop (h : MultiFrameDetector d uid given values)
    {frames : Frames} (hw : given w.plugins ≠ values.length)
    (hloop : d.frameLoop frames fuel w = some (.ok (true,w')))
    (hgiven : given w'.plugins = values.length) : w'.outcomeCache.Holds uid := by
  refine Exit.of_eop (P := fun w => given w.plugins = values.length →
    w.outcomeCache.Holds uid) (frameLoop_exit ?_ ?_ ?_ (fun he => absurd he hw) hloop) hgiven
  · exact fun w uid' A hw _ he => (hw he).result
  · exact fun w uid' hw _ he => hw he
  · exact fun w uid' plugin w₁ hw hhit _ hp he => h.handlePlugin hw hhit hp he

end Frame

section Run

variable {uid : String} {given : σ → Nat} {values : List Bool} {m : Media} {w w' : Worker σ}
  {fuel k : Nat}

theorem endFrame_numbers {frames : Frames} (hfound : w.outcomeCache.findMultiFrameResult = true)
    (h : d.endFrame w frames = .ok w') :
    w'.accumulator.rawdata.map RawData.frameNumber =
      w.accumulator.rawdata.map RawData.frameNumber := by
  rw [DataFlow.endFrame,if_pos hfound] at h
  split at h
  · cases h
  · rename_i detected _
    split at h
    · cases h
    · rename_i accumulator hu
      cases h
      rw [← updateFrom_numbers detected 0 w.accumulator.rawdata]
      exact congrArg (fun a => a.rawdata.map RawData.frameNumber) (Prod.mk.inj hu).1.symm

theorem MultiFrameDetector.groupTurn (h : MultiFrameDetector d uid given values)
    (hbefore : given w.plugins ≠ values.length)
    (hturn : d.groupTurn fuel w = some (.ok (true,w')))
    (hgiven : given w'.plugins = values.length) :
    w'.accumulator.rawdata.map RawData.frameNumber =
      w.accumulator.rawdata.map RawData.frameNumber := by
  obtain ⟨frames,s,eop,w₁,w₂,hgroup,rfl⟩ := groupTurn_go hturn
  have hsame := frameLoop_streams hgroup.frame
  have hreport := (reportFrame_streams (d := d) w₂ frames).accumulator
  rw [reportFrame_plugins] at hgiven
  rw [hreport]
  have hended := hgroup.ended
  cases eop with
  | false =>
    obtain rfl := Except.ok.inj hended
    rw [hsame.accumulator]
    rfl
  | true =>
    rw [if_pos rfl] at hended
    rw [endFrame_plugins hended] at hgiven
    have hstart : given (DataFlow.startFrame { w with loads := w.loads + 1 } s).plugins ≠
        values.length := hbefore
    have hholds := h.frameLoop hstart hgroup.frame hgiven
    rw [endFrame_numbers hholds.found hended,hsame.accumulator]
    rfl

theorem groupTurn_pos (hturn : d.groupTurn fuel w = some (.ok (true,w'))) : 0 < d.groupSize := by
  obtain ⟨frames,s,eop,w₁,w₂,hgroup,-⟩ := groupTurn_go hturn
  refine Nat.pos_of_ne_zero fun hzero => ?_
  have hread := hgroup.read
  rw [show (d.skipFrames + 1).toNat = 0 from hzero,DataFlow.readGroup] at hread
  cases hread
  cases hgroup.media

theorem groupTurn_progress (h : Progress d m w k)
    (hturn : d.groupTurn fuel w = some (.ok (true,w'))) : Progress d m w' (k + 1) := by
  obtain ⟨frames,s,eop,w₁,w₂,hgroup,rfl⟩ := groupTurn_go hturn
  obtain ⟨r,hw,hr⟩ := h.reading
  have hread := hgroup.read
  rw [hw,readGroup_synchronizer,Except.ok.injEq] at hread
  obtain ⟨hframes,hs⟩ := Prod.mk.inj hread
  subst hs
  rcases hr.groupRead h.length_le with ⟨hnone,-⟩ | ⟨vFrame,aFrames,hg⟩
  · have hmedia := hgroup.media
    rw [← hframes] at hmedia
    rw [DataFlow.groupSize] at hnone
    rw [hnone] at hmedia
    cases hmedia
  · have heq : frames = (some vFrame,aFrames) := hframes.symm.trans hg.frames
    subst heq
    exact h.next hg hgroup.frame hgroup.ended

theorem afterGroups_progress {k₀ : Nat} (h : Progress d m w k₀)
    (hafter : d.afterGroups fuel k w = some (.ok (true,w'))) : Progress d m w' (k₀ + k) := by
  induction k generalizing w k₀ with
  | zero =>
    cases hafter
    exact h
  | succ k ih =>
    obtain ⟨w₁,hturn,hrest⟩ := afterGroups_first hafter
    have hnext := ih (groupTurn_progress h hturn) hrest
    rwa [Nat.add_assoc,Nat.add_comm 1 k] at hnext

theorem initial_progress (d : DataFlow σ) (m : Media) (A : LogicAnalyzer) (st : σ) :
    Progress d m (d.startWorker (Worker.initial A (AvSynchronizer.make m.extractor) st)) 0 := by
  have hinitial := covered_initial d m A st
  exact ⟨hinitial.reading,hinitial.length_le,by
    rw [hinitial.rawdata]
    exact ⟨.nil,List.forall_mem_nil _⟩⟩

theorem multi_frame_never_recorded (h : MultiFrameDetector d uid given values)
    (A : LogicAnalyzer) (st : σ) {result : Except Fault (Worker σ)}
    (hafter : d.afterGroups fuel k (d.startWorker
      (Worker.initial A (AvSynchronizer.make m.extractor) st)) = some (.ok (true,w)))
    (hbefore : given w.plugins < values.length)
    (hturn : d.groupTurn fuel w = some (result.map (true,·)))
    (hgiven : ∀ w', result = .ok w' → given w'.plugins = values.length) :
    ¬MultiFrameRecorded d.groupSize (k + 1) values result := by
  cases result with
  | error fault => exact id
  | ok w' =>
    have hprogress := afterGroups_progress (initial_progress d m A st) hafter
    rw [Nat.zero_add] at hprogress
    have hnumbers := h.groupTurn (Nat.ne_of_lt hbefore) hturn (hgiven w' rfl)
    have hasc := hprogress.ascending.congr hnumbers
    have hpos := groupTurn_pos hturn
    intro hrecorded
    -- the first frame of the group analysed last has no entry
    have hmem : ((k * d.groupSize : Nat) : Int) + 1 ∈
        w'.accumulator.rawdata.map RawData.frameNumber := by
      have hperm := hrecorded.map Prod.fst
      rw [List.map_map,List.map_map] at hperm
      have hlast : k * d.groupSize ∈ List.range ((k + 1) * d.groupSize) := by
        rw [List.mem_range,Nat.succ_mul]
        omega
      exact hperm.mem_iff.mpr (List.mem_map.mpr ⟨_,hlast,rfl⟩)
    obtain ⟨x,hx,hn⟩ := List.mem_map.mp hmem
    have hbound := (hasc.bounds x hx).2
    omega

end Run

section Sample

def multiFrameFlow (skipFrames : UInt64) : DataFlow Nat where
  pluginManager := samplePlugins
  plugins := ⟨fun _ frame => .ok frame,fun uid _ st =>
    if uid = "FaceDetect.1" then
      (.ok ⟨true,if st = 2 then [.bool true,.bool false,.bool true] else []⟩,st + 1)
    else (.ok ⟨false,[]⟩,st)⟩
  skipFrames := skipFrames
  progressCallback := false
  run := fun _ => true

theorem multiFrameFlow_detector (skipFrames : UInt64) :
    MultiFrameDetector (multiFrameFlow skipFrames) "FaceDetect.1" id [true,false,true] where
  loaded := show samplePlugins.find "FaceDetect.1" = some ⟨.videoDetect⟩ by decide
  own := fun _ _ => rfl
  others := fun uid' frame st hne => by simp [multiFrameFlow,hne]
  before := fun frame st hlt => ⟨true,by
    have hne : st ≠ 2 := by
      simp only [id,List.length_cons,List.length_nil] at hlt
      omega
    simp [multiFrameFlow,hne]⟩
  answer := fun frame st heq => ⟨true,by
    have htwo : st = 2 := by
      simp only [id,List.length_cons,List.length_nil] at heq
      omega
    simp [multiFrameFlow,htwo]⟩

def sixFrames : Media :=
  ⟨false,[⟨1,0,6⟩,⟨2,1,6⟩,⟨3,2,6⟩,⟨4,3,6⟩,⟨5,4,6⟩,⟨6,5,6⟩],[],rfl,by decide⟩

def multiFrameStart (skipFrames : UInt64) : Worker Nat :=
  (multiFrameFlow skipFrames).startWorker
    (Worker.initial faceAnalyzer (AvSynchronizer.make sixFrames.extractor) 0)

theorem multi_frame_never_recorded_sample : ∃ w w',
    (multiFrameFlow 0).afterGroups 9 2 (multiFrameStart 0) = some (.ok (true,w)) ∧
      (multiFrameFlow 0).groupTurn 9 w = some (.ok (true,w')) ∧
      ¬MultiFrameRecorded 1 3 [true,false,true] (.ok w') := by
  have hafter : ∃ w, (multiFrameFlow 0).afterGroups 9 2 (multiFrameStart 0) =
      some (.ok (true,w)) ∧ w.plugins = 2 ∧ ∃ w', (multiFrameFlow 0).groupTurn 9 w =
        some (.ok (true,w')) ∧ w'.plugins = 3 := ⟨_,rfl,rfl,_,rfl,rfl⟩
  obtain ⟨w,hafter,hw,w',hturn,hw'⟩ := hafter
  refine ⟨w,w',hafter,hturn,?_⟩
  exact multi_frame_never_recorded (multiFrameFlow_detector 0) faceAnalyzer 0
    (m := sixFrames) hafter (by rw [hw]; decide) hturn
    (fun w'' he => by cases he; exact hw')

-- with one frame skipped there are four entries for the three bools
theorem multi_frame_overrun : ∃ w,
    (multiFrameFlow 1).afterGroups 9 2 (multiFrameStart 1) = some (.ok (true,w)) ∧
      (multiFrameFlow 1).groupTurn 9 w = some (.error .undefined) ∧
      ¬MultiFrameRecorded (multiFrameFlow 1).groupSize 3 [true,false,true]
        (.error .undefined : Except Fault (Worker Nat)) :=
  ⟨_,rfl,rfl,id⟩

end Sample

end Ovi
