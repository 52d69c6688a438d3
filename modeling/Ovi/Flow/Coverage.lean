import Ovi.Flow.Frame
import Ovi.Flow.Reading
import Mathlib.Data.List.Induction
import Mathlib.Tactic.Ring

namespace Ovi

structure Calm {σ : Type} (d : DataFlow σ) : Prop where
  process : ∀ uid frame st, d.pluginManager.isDetect uid = true →
    ∃ outcome st', d.processOne uid frame st = (.ok outcome,st') ∧ outcome.multiFrame = false

def SingleFrame (c : OutcomeCache) : Prop :=
  ∀ (uid : String) (outcome : Outcome), c.storage[uid]? = some outcome →
    outcome.multiFrame = false

section Calm

variable {σ : Type} {d : DataFlow σ}

theorem Calm.processAudio (h : Calm d) {uid : String} (hu : d.pluginManager.isDetect uid = true)
    (aFrames : List FramePack) {result : Outcome} (hr : result.multiFrame = false) (st : σ) :
    ∃ outcome st', d.processAudio uid aFrames result st = (.ok outcome,st') ∧
      outcome.multiFrame = false := by
  induction aFrames generalizing result st with
  | nil => exact ⟨result,st,rfl,hr⟩
  | cons frame aFrames ih =>
    obtain ⟨outcome,st',hone,hm⟩ := h.process uid frame st hu
    rw [DataFlow.processAudio,hone]
    dsimp only
    split
    · exact ⟨outcome,st',rfl,hm⟩
    · exact ih hm st'

theorem Calm.processPlugin (h : Calm d) {uid : String} (hu : d.pluginManager.isDetect uid = true)
    (frames : Frames) (st : σ) :
    ∃ outcome st', d.processPlugin uid frames st = (.ok outcome,st') ∧
      outcome.multiFrame = false := by
  obtain ⟨plugin,hf,hd⟩ := exists_find_of_isDetect hu
  rw [DataFlow.processPlugin,hf]
  obtain ⟨type⟩ := plugin
  cases type with
  | videoDetect =>
    cases frames.1 with
    | none => exact ⟨⟨true,[]⟩,st,rfl,rfl⟩
    | some vFrame =>
      obtain ⟨outcome,st',hone,hm⟩ := h.process uid vFrame st hu
      exact ⟨outcome,st',by simp [hone,DataFlow.raise,Except.mapError],hm⟩
  | audioDetect =>
    have hempty : (⟨true,[]⟩ : Outcome).multiFrame = false := rfl
    obtain ⟨outcome,st',haudio,hm⟩ := h.processAudio hu frames.2 hempty st
    exact ⟨outcome,st',by simp [haudio,DataFlow.raise,Except.mapError],hm⟩
  | _ => cases hd

theorem SingleFrame.clear : SingleFrame .clear := by
  intro uid outcome h
  simp [OutcomeCache.clear] at h

theorem SingleFrame.result {c : OutcomeCache} (h : SingleFrame c) : SingleFrame c.result.2 := by
  unfold OutcomeCache.result
  split
  · exact h
  · cases hs : c.storage[c.resultUid]? with
    | some outcome => exact h
    | none =>
      intro uid outcome ho
      simp only [Std.TreeMap.getElem?_insert] at ho
      split at ho
      · obtain rfl := Option.some_inj.mp ho
        rfl
      · exact h uid outcome ho

theorem SingleFrame.setDetected {c : OutcomeCache} (h : SingleFrame c) (uid : String) :
    SingleFrame (c.setDetected uid) := h.result

theorem SingleFrame.write {c : OutcomeCache} (h : SingleFrame c) {outcome : Outcome}
    (hm : outcome.multiFrame = false) (uid : String) : SingleFrame (c.write uid outcome) := by
  intro uid' o ho
  rw [OutcomeCache.storage_write] at ho
  split at ho
  · obtain rfl := Option.some_inj.mp ho
    exact hm
  · exact h uid' o ho

theorem Calm.handlePlugin (h : Calm d) (frames : Frames) {w : Worker σ}
    (hs : SingleFrame w.outcomeCache) {uid : String} {plugin : Plugin}
    (hf : d.pluginManager.find uid = some plugin) :
    (∃ w₁, d.handlePlugin w frames uid plugin = .ok (true,w₁) ∧
      SingleFrame w₁.outcomeCache ∧ w₁.logicAnalyzer = w.logicAnalyzer) ∨
    (¬ Handled d.pluginManager uid ∧
      ∃ fault, d.handlePlugin w frames uid plugin = .error fault) := by
  unfold DataFlow.handlePlugin
  by_cases he : isEffectType plugin = true
  · rw [if_pos he]
    exact .inl ⟨_,rfl,hs.setDetected uid,rfl⟩
  · rw [if_neg he]
    by_cases hd : d.pluginManager.isDetect uid = true
    · obtain ⟨outcome,st,hp,hm⟩ := h.processPlugin hd frames w.plugins
      rw [hp]
      exact .inl ⟨_,rfl,hs.write hm uid,rfl⟩
    · refine .inr ⟨?_,.undefined,?_⟩
      · rintro (h | h)
        · exact hd h
        · exact he (isEffect_of_find hf ▸ h)
      · rw [PluginManager.isDetect,hf] at hd
        rw [processPlugin_undefined hf (Bool.eq_false_iff.mpr hd)]

end Calm

section FrameLoop

variable {σ : Type} {d : DataFlow σ} {frames : Frames}

theorem frameLoop_turn (h : Calm d) {w : Worker σ} (hrun : d.run w.loads = true)
    (hs : SingleFrame w.outcomeCache) {uid : String} {A : LogicAnalyzer}
    (hn : w.logicAnalyzer.nextPlugin w.outcomeCache.result.1.detect = some (uid,A))
    (hne : uid ≠ oviEop) :
    (∃ w₁, SingleFrame w₁.outcomeCache ∧ w₁.logicAnalyzer = A ∧
      ∀ fuel, d.frameLoop frames (fuel + 1) w = d.frameLoop frames fuel w₁) ∨
    (¬ Handled d.pluginManager uid ∧
      ∃ fault, ∀ fuel, d.frameLoop frames (fuel + 1) w = some (.error fault)) := by
  have hs₀ : SingleFrame (w.advance A).outcomeCache := hs.result
  cases hhit : w.outcomeCache.result.2.hit uid with
  | true =>
    have hs₁ : SingleFrame (w.outcomeCache.result.2.setResultUid uid) := hs₀
    exact .inl ⟨_,hs₁,rfl,frameLoop_hit hrun hn hne hhit⟩
  | false =>
    cases hf : d.pluginManager.find uid with
    | none =>
      refine .inr ⟨fun hu => ?_,_,frameLoop_unknown hrun hn hne hhit hf⟩
      obtain ⟨plugin,hf'⟩ := exists_find_of_exist hu.exist
      rw [hf] at hf'
      cases hf'
    | some plugin =>
      rcases h.handlePlugin frames hs₀ hf with ⟨w₁,hp,hs₁,hA⟩ | ⟨hu,fault,hp⟩
      · exact .inl ⟨w₁,hs₁,hA,frameLoop_handled hrun hn hne hhit hf hp⟩
      · exact .inr ⟨hu,fault,frameLoop_fault hrun hn hne hhit hf hp⟩

theorem frameLoop_done (h : Calm d) (hrun : ∀ n, d.run n = true) {fuel : Nat} {w w' : Worker σ}
    {eop : Bool} (hs : SingleFrame w.outcomeCache)
    (hloop : d.frameLoop frames fuel w = some (.ok (eop,w'))) :
    eop = true ∧ SingleFrame w'.outcomeCache := by
  induction fuel generalizing w with
  | zero => cases hloop
  | succ fuel ih =>
    cases hn : w.logicAnalyzer.nextPlugin w.outcomeCache.result.1.detect with
    | none =>
      rw [frameLoop_undefined (hrun w.loads) hn] at hloop
      cases hloop
    | some r =>
      obtain ⟨uid,A⟩ := r
      by_cases he : uid = oviEop
      · subst he
        rw [frameLoop_eop (hrun w.loads) hn] at hloop
        cases hloop
        exact ⟨rfl,hs.result⟩
      · rcases frameLoop_turn h (hrun w.loads) hs hn he with ⟨w₁,hs₁,-,heq⟩ | ⟨-,fault,heq⟩
        · rw [heq] at hloop
          exact ih hs₁ hloop
        · rw [heq] at hloop
          cases hloop

-- whatever the detectors answer, each turn uses up a plugin position of the plan
theorem frameLoop_finishes (h : Calm d) (hrun : ∀ n, d.run n = true) {fuel : Nat} {w : Worker σ}
    {c : Cursor} (hs : SingleFrame w.outcomeCache) (hat : At w.logicAnalyzer c)
    (hc : c.All (Handled d.pluginManager)) (hfuel : fuel > c.size) :
    ∃ w', d.frameLoop frames fuel w = some (.ok (true,w')) ∧
      w'.logicAnalyzer.skeleton = w.logicAnalyzer.skeleton := by
  induction fuel generalizing w c with
  | zero => omega
  | succ fuel ih =>
    have hgenuine : c.All Genuine :=
      ⟨fun u hu => genuine_of_exist (hc.left u hu).exist,
        fun n hn u hu => genuine_of_exist (hc.nodes n hn u hu).exist,
        fun a ha n hn u hu => genuine_of_exist (hc.alts a ha n hn u hu).exist⟩
    have hland := nextPlugin_step hat hgenuine (b := w.outcomeCache.result.1.detect)
    cases hstep : c.step w.outcomeCache.result.1.detect with
    | none =>
      rw [hstep] at hland
      obtain ⟨A,hn,hsk,-⟩ := hland
      exact ⟨_,frameLoop_eop (hrun w.loads) hn fuel,hsk⟩
    | some p =>
      obtain ⟨uid,c'⟩ := p
      rw [hstep] at hland
      obtain ⟨A,hn,hsk,hat'⟩ := hland
      obtain ⟨hu,hc'⟩ := Cursor.all_step hstep hc
      have hsize := Cursor.size_step hstep
      rcases frameLoop_turn h (hrun w.loads) hs hn (genuine_of_exist hu.exist).ne_eop with
        ⟨w₁,hs₁,rfl,heq⟩ | ⟨hnot,-⟩
      · obtain ⟨w',hloop,hsk'⟩ := ih hs₁ hat' hc' (by omega)
        exact ⟨w',(heq fuel).trans hloop,hsk'.trans hsk⟩
      · exact absurd hu hnot

end FrameLoop

section Groups

def firstFrames (n : Nat) : List Int := (List.range n).map (fun (i : Nat) => (i : Int) + 1)

theorem firstFrames_length (n : Nat) : (firstFrames n).length = n := by
  simp [firstFrames]

theorem firstFrames_inj {m n : Nat} : firstFrames m = firstFrames n ↔ m = n :=
  ⟨fun h => by simpa [firstFrames_length] using congrArg List.length h,fun h => h ▸ rfl⟩

def groupData (g k : Nat) (e : Bool × DetectedData) : List RawData :=
  (List.range g).map (fun (i : Nat) => ⟨((k * g + i : Nat) : Int) + 1,e.1,e.2⟩)

def recorded (g : Nat) (groups : List (Bool × DetectedData)) : List RawData :=
  groups.zipIdx.flatMap (fun e => groupData g e.2 e.1)

theorem recorded_concat (g : Nat) (groups : List (Bool × DetectedData)) (e : Bool × DetectedData) :
    recorded g (groups ++ [e]) = recorded g groups ++ groupData g groups.length e := by
  simp [recorded,List.zipIdx_append]

theorem groupData_numbers (g k : Nat) (e : Bool × DetectedData) :
    firstFrames (k * g) ++ (groupData g k e).map RawData.frameNumber =
      firstFrames ((k + 1) * g) := by
  have hsucc : (k + 1) * g = k * g + g := Nat.succ_mul k g
  rw [hsucc,firstFrames,firstFrames,List.range_add,List.map_append,List.map_map,groupData,
    List.map_map]
  rfl

theorem recorded_numbers (g : Nat) (groups : List (Bool × DetectedData)) :
    (recorded g groups).map RawData.frameNumber = firstFrames (groups.length * g) := by
  induction groups using List.reverseRecOn with
  | nil => simp [recorded,firstFrames]
  | append_singleton groups e ih =>
    rw [recorded_concat,List.map_append,ih,groupData_numbers,List.length_append]
    rfl

variable {σ : Type} {d : DataFlow σ}

theorem foldl_append_rawdata (a : Accumulator) (numbers : List Int) (included : Bool)
    (detected : DetectedData) :
    (numbers.foldl (fun a n => a.append n included detected) a).rawdata =
      a.rawdata ++ numbers.map (fun n => ⟨n,included,detected⟩) := by
  induction numbers generalizing a with
  | nil => simp
  | cons n numbers ih =>
    rw [List.foldl_cons,ih]
    simp [Accumulator.append]

theorem skipCounts_eq {s : UInt64} (h : s.toNat < 2 ^ 31) :
    DataFlow.skipCounts s = (List.range (s.toNat + 1)).reverse.map Int.ofNat := by
  have hmod : Int.bmod s.toNat (2 ^ 32) = s.toNat := by
    rw [Int.bmod_eq_of_le] <;> omega
  rw [DataFlow.skipCounts,hmod]
  rfl

-- counted down from the analysed frame `(k + 1) * g`, the numbers ascend through the group
theorem skipCounts_group {s : UInt64} (h : s.toNat < 2 ^ 31) (k : Nat) (e : Bool × DetectedData) :
    ((DataFlow.skipCounts s).map
      ((((k + 1) * (s.toNat + 1) : Nat) : Int) - ·)).map (fun n => (⟨n,e.1,e.2⟩ : RawData)) =
      groupData (s.toNat + 1) k e := by
  rw [skipCounts_eq h,groupData,List.map_map,List.map_map]
  apply List.ext_getElem
  · simp
  · intro i hi hi'
    have hlt : i < s.toNat + 1 := by simpa using hi'
    have hsucc : (k + 1) * (s.toNat + 1) = k * (s.toNat + 1) + (s.toNat + 1) := Nat.succ_mul _ _
    simp only [List.getElem_map,List.getElem_reverse,List.getElem_range,List.length_range,
      Function.comp_apply,RawData.mk.injEq,and_true,hsucc]
    have hcast : Int.ofNat (s.toNat + 1 - 1 - i) = (s.toNat : Int) - i := by
      simp only [Int.ofNat_eq_natCast]
      omega
    rw [hcast]
    push_cast
    ring

end Groups

section Reading

variable {r : Reading}

structure Decoding (r : Reading) (video : List FramePack) : Prop where
  hasVideo : r.hasVideo = true
  videoEOF : r.videoEOF = false
  video : r.video = video

theorem Decoding.nextAudio {video : List FramePack} (h : Decoding r video) :
    Decoding r.nextAudio.2 video := by
  unfold Reading.nextAudio
  split
  · exact h
  · exact ⟨h.hasVideo,h.videoEOF,h.video⟩

theorem Decoding.both_cons {vFrame : FramePack} {video : List FramePack}
    (h : Decoding r (vFrame :: video)) :
    ∃ aFrames, r.both.1 = (some vFrame,aFrames) ∧ Decoding r.both.2 video := by
  have hnext : r.nextVideo = (some vFrame,{ r with video := video, pts := vFrame.pts }) := by
    simp [Reading.nextVideo,h.videoEOF,h.video]
  have hdecoding : Decoding r.nextVideo.2 video := by
    rw [hnext]
    exact ⟨h.hasVideo,h.videoEOF,rfl⟩
  exact ⟨r.nextVideo.2.nextAudio.1,by simp [Reading.both,hnext],hdecoding.nextAudio⟩

theorem Decoding.both_nil (h : Decoding r []) : r.both.1 = (none,[]) := by
  simp [Reading.both,Reading.nextVideo,Reading.nextAudio,h.videoEOF,h.video,h.hasVideo]

theorem group_full {video : List FramePack} (h : Decoding r video) {steps : Nat}
    (hlen : steps + 1 ≤ video.length) (frames : Frames) :
    ∃ vFrame aFrames, video[steps]? = some vFrame ∧
      (r.group (steps + 1) frames).1 = (some vFrame,aFrames) ∧
      Decoding (r.group (steps + 1) frames).2 (video.drop (steps + 1)) := by
  induction steps generalizing r video frames with
  | zero =>
    cases video with
    | nil => simp at hlen
    | cons vFrame video =>
      obtain ⟨aFrames,hboth,hdecoding⟩ := h.both_cons
      refine ⟨vFrame,aFrames,rfl,?_,?_⟩ <;> simp [Reading.group,hboth,hdecoding]
  | succ steps ih =>
    cases video with
    | nil => simp at hlen
    | cons vFrame video =>
      obtain ⟨aFrames,hboth,hdecoding⟩ := h.both_cons
      have hnext : r.group (steps + 1 + 1) frames = r.both.2.group (steps + 1) r.both.1 := by
        rw [Reading.group,hboth]
        rfl
      rw [hnext]
      exact ih hdecoding (by simpa using hlen) r.both.1

theorem group_short {video : List FramePack} (h : Decoding r video) {steps : Nat}
    (hlen : steps > video.length) (frames : Frames) : (r.group steps frames).1 = (none,[]) := by
  induction steps generalizing r video frames with
  | zero => omega
  | succ steps ih =>
    rw [Reading.group]
    cases video with
    | nil => simp [h.both_nil]
    | cons vFrame video =>
      obtain ⟨aFrames,hboth,hdecoding⟩ := h.both_cons
      rw [if_neg (by simp [hboth])]
      exact ih hdecoding (by simpa using hlen) r.both.1

end Reading

section Worker

variable {σ : Type} {d : DataFlow σ}

structure Media where
  hasAudio : Bool
  video : List FramePack
  audio : List FramePack
  numbered : video.map FramePack.frameNum = firstFrames video.length
  -- `frameNum` is an `int`
  bounded : video.length < 2 ^ 31

def Media.extractor (m : Media) : FrameExtractor :=
  ⟨true,m.hasAudio,m.video.map .ok,m.audio.map .ok⟩

def DataFlow.groupSize (d : DataFlow σ) : Nat := (d.skipFrames + 1).toNat

structure Covered (d : DataFlow σ) (m : Media) (w : Worker σ)
    (groups : List (Bool × DetectedData)) : Prop where
  reading : ∃ r : Reading, w.avSynchronizer = r.synchronizer ∧
    Decoding r (m.video.drop (groups.length * d.groupSize))
  length_le : groups.length * d.groupSize ≤ m.video.length
  rawdata : w.accumulator.rawdata = recorded d.groupSize groups

theorem groupSize_eq {n : Nat} (hle : d.groupSize ≤ n) (hn : n < 2 ^ 31) (hpos : 0 < d.groupSize) :
    d.groupSize = d.skipFrames.toNat + 1 ∧ d.skipFrames.toNat < 2 ^ 31 := by
  have hs : d.skipFrames.toNat < 2 ^ 64 := d.skipFrames.toNat_lt
  have hg : d.groupSize = (d.skipFrames.toNat + 1) % 2 ^ 64 := UInt64.toNat_add d.skipFrames 1
  rw [hg] at hle hpos ⊢
  omega

theorem reportFrame_streams (w : Worker σ) (frames : Frames) :
    SameStreams w (d.reportFrame w frames) := by
  unfold DataFlow.reportFrame
  split
  · exact invokeProgressCb_streams w _
  · exact invokeProgressCb_streams w _
  · exact ⟨rfl,rfl⟩

theorem Covered.congr {m : Media} {w w' : Worker σ} {groups : List (Bool × DetectedData)}
    (h : Covered d m w groups) (hw : SameStreams w w') : Covered d m w' groups :=
  ⟨hw.avSynchronizer ▸ h.reading,h.length_le,hw.accumulator ▸ h.rawdata⟩

theorem appendResult_group {m : Media} {k : Nat} {vFrame : FramePack}
    (hlen : (k + 1) * d.groupSize ≤ m.video.length) (hpos : 0 < d.groupSize)
    (hv : m.video[(k + 1) * d.groupSize - 1]? = some vFrame) (w : Worker σ)
    (aFrames : List FramePack) :
    (d.appendResult w (some vFrame,aFrames)).rawdata = w.accumulator.rawdata ++
      groupData d.groupSize k (w.logicAnalyzer.included,w.outcomeCache.detected) := by
  have hle : d.groupSize ≤ (k + 1) * d.groupSize := Nat.le_mul_of_pos_left _ (by omega)
  obtain ⟨hg,hs⟩ := groupSize_eq (hle.trans hlen) m.bounded hpos
  have hnumber : vFrame.frameNum = (((k + 1) * (d.skipFrames.toNat + 1) : Nat) : Int) := by
    have hmap := congrArg (·[(k + 1) * d.groupSize - 1]?) m.numbered
    have hlt : (k + 1) * d.groupSize - 1 < m.video.length := by omega
    simp only [List.getElem?_map,hv,Option.map_some,firstFrames,
      List.getElem?_range hlt,Option.some_inj] at hmap
    rw [hmap,← hg]
    omega
  rw [hg,← skipCounts_group hs k (w.logicAnalyzer.included,w.outcomeCache.detected),← hnumber]
  exact foldl_append_rawdata _ _ _ _

theorem Covered.append {m : Media} {w : Worker σ} {groups : List (Bool × DetectedData)}
    (h : w.accumulator.rawdata = recorded d.groupSize groups) {vFrame : FramePack}
    (hlen : (groups.length + 1) * d.groupSize ≤ m.video.length) (hpos : 0 < d.groupSize)
    (hv : m.video[(groups.length + 1) * d.groupSize - 1]? = some vFrame)
    (aFrames : List FramePack) :
    (d.appendResult w (some vFrame,aFrames)).rawdata = recorded d.groupSize
      (groups ++ [(w.logicAnalyzer.included,w.outcomeCache.detected)]) := by
  rw [recorded_concat,← h]
  exact appendResult_group hlen hpos hv w aFrames

theorem recorded_zero (groups : List (Bool × DetectedData)) : recorded 0 groups = [] := by
  simp [recorded,groupData]

theorem endFrame_single {w : Worker σ} (hs : SingleFrame w.outcomeCache) (frames : Frames) :
    d.endFrame w frames = .ok { w with accumulator := d.appendResult w frames } := by
  rw [DataFlow.endFrame,OutcomeCache.findMultiFrameResult_eq_false hs]
  rfl

theorem workerLoop_group (hrun : ∀ n, d.run n = true) {w : Worker σ} {r : Reading}
    (hw : w.avSynchronizer = r.synchronizer) (fuel : Nat) :
    d.workerLoop (fuel + 1) w =
      let g := r.group d.groupSize (none,[])
      let w := { w with loads := w.loads + 1 }
      if g.1.1.isNone && g.1.2.isEmpty then some (.ok { w with avSynchronizer := g.2.synchronizer })
      else
        match d.frameLoop g.1 fuel (DataFlow.startFrame w g.2.synchronizer) with
        | none => none
        | some (.error fault) => some (.error fault)
        | some (.ok (eop,w)) =>
          match if eop then d.endFrame w g.1 else .ok w with
          | .error fault => some (.error fault)
          | .ok w => d.workerLoop fuel (d.reportFrame w g.1) := by
  have hread := readGroup_synchronizer d.groupSize r (none,[])
  rw [DataFlow.workerLoop]
  simp only [DataFlow.load,hrun,hw,Bool.not_true,Bool.false_eq_true,if_false]
  rw [DataFlow.groupSize] at hread
  rw [hread]
  rfl

structure GroupRead (d : DataFlow σ) (m : Media) (r : Reading) (k : Nat) (vFrame : FramePack)
    (aFrames : List FramePack) : Prop where
  frames : (r.group d.groupSize (none,[])).1 = (some vFrame,aFrames)
  last : m.video[(k + 1) * d.groupSize - 1]? = some vFrame
  decoding : Decoding (r.group d.groupSize (none,[])).2 (m.video.drop ((k + 1) * d.groupSize))
  length_le : (k + 1) * d.groupSize ≤ m.video.length
  pos : 0 < d.groupSize

theorem Decoding.groupRead {m : Media} {r : Reading} {k : Nat}
    (h : Decoding r (m.video.drop (k * d.groupSize))) (hk : k * d.groupSize ≤ m.video.length) :
    (r.group d.groupSize (none,[])).1 = (none,[]) ∧
        (d.groupSize = 0 ∨ m.video.length < (k + 1) * d.groupSize) ∨
      ∃ vFrame aFrames, GroupRead d m r k vFrame aFrames := by
  have hsucc : (k + 1) * d.groupSize = k * d.groupSize + d.groupSize := Nat.succ_mul _ _
  cases hg : d.groupSize with
  | zero => exact .inl ⟨rfl,.inl rfl⟩
  | succ steps =>
    rw [hg] at h hsucc hk
    by_cases hlen : steps + 1 ≤ (m.video.drop (k * (steps + 1))).length
    · obtain ⟨vFrame,aFrames,hv,hframes,hdecoding⟩ := group_full h hlen (none,[])
      rw [List.length_drop] at hlen
      refine .inr ⟨vFrame,aFrames,hg ▸ hframes,?_,?_,?_,by omega⟩
      · rw [List.getElem?_drop] at hv
        rw [hg,hsucc]
        exact hv
      · rw [List.drop_drop] at hdecoding
        rw [hg,hsucc]
        exact hdecoding
      · rw [hg,hsucc]
        omega
    · refine .inl ⟨group_short h (by omega) _,.inr ?_⟩
      rw [List.length_drop] at hlen
      omega

def Media.reading (m : Media) (g : Nat) : Nat → Reading
  | 0 => .start true m.hasAudio m.video m.audio
  | k + 1 => ((m.reading g k).group g (none,[])).2

def Media.group (m : Media) (g k : Nat) : Frames := ((m.reading g k).group g (none,[])).1

theorem reading_decoding (d : DataFlow σ) (m : Media) {k : Nat}
    (hk : k * d.groupSize ≤ m.video.length) :
    Decoding (m.reading d.groupSize k) (m.video.drop (k * d.groupSize)) := by
  induction k with
  | zero =>
    rw [Nat.zero_mul]
    exact ⟨rfl,rfl,rfl⟩
  | succ k ih =>
    have hsucc : (k + 1) * d.groupSize = k * d.groupSize + d.groupSize := Nat.succ_mul _ _
    have hbefore := ih (by omega)
    rcases hbefore.groupRead (by omega) with ⟨-,hzero | hlt⟩ | ⟨vFrame,aFrames,hread⟩
    · rw [Media.reading]
      rw [hzero] at hbefore ⊢
      rw [Nat.mul_zero] at hbefore ⊢
      exact hbefore
    · omega
    · exact hread.decoding

theorem Covered.next {m : Media} {w w₁ : Worker σ} {groups : List (Bool × DetectedData)}
    {r : Reading} {vFrame : FramePack} {aFrames : List FramePack} (hc : Covered d m w groups)
    (hread : GroupRead d m r groups.length vFrame aFrames)
    (hsame : SameStreams (DataFlow.startFrame { w with loads := w.loads + 1 }
      (r.group d.groupSize (none,[])).2.synchronizer) w₁) :
    Covered d m (d.reportFrame { w₁ with
      accumulator := d.appendResult w₁ (some vFrame,aFrames) } (some vFrame,aFrames))
      (groups ++ [(w₁.logicAnalyzer.included,w₁.outcomeCache.detected)]) := by
  have hrawdata : w₁.accumulator.rawdata = recorded d.groupSize groups := by
    rw [hsame.accumulator]
    exact hc.rawdata
  have hcovered : Covered d m { w₁ with
      accumulator := d.appendResult w₁ (some vFrame,aFrames) }
      (groups ++ [(w₁.logicAnalyzer.included,w₁.outcomeCache.detected)]) := by
    refine ⟨⟨_,hsame.avSynchronizer,?_⟩,?_,?_⟩
    · simpa using hread.decoding
    · simpa using hread.length_le
    · exact Covered.append hrawdata hread.length_le hread.pos hread.last aFrames
  exact hcovered.congr (reportFrame_streams _ _)

theorem workerLoop_covered (h : Calm d) (hrun : ∀ n, d.run n = true) {m : Media} {fuel : Nat}
    {w w' : Worker σ} {groups : List (Bool × DetectedData)} (hc : Covered d m w groups)
    (hloop : d.workerLoop fuel w = some (.ok w')) :
    ∃ groups', groups'.length = m.video.length / d.groupSize ∧
      w'.accumulator.rawdata = recorded d.groupSize groups' := by
  induction fuel generalizing w groups with
  | zero => cases hloop
  | succ fuel ih =>
    obtain ⟨r,hw,hr⟩ := hc.reading
    rw [workerLoop_group hrun hw] at hloop
    rcases hr.groupRead hc.length_le with ⟨hnone,hend⟩ | ⟨vFrame,aFrames,hread⟩
    · simp only [hnone,Option.isNone_none,List.isEmpty_nil,Bool.and_self,if_true] at hloop
      cases hloop
      rcases hend with hzero | hlt
      · refine ⟨[],by simp [hzero],?_⟩
        rw [hzero,recorded_zero]
        exact hc.rawdata.trans (by rw [hzero,recorded_zero])
      · refine ⟨groups,?_,hc.rawdata⟩
        exact (Nat.div_eq_of_lt_le hc.length_le hlt).symm
    · simp only [hread.frames,Option.isNone_some,Bool.false_and,Bool.false_eq_true,
        if_false] at hloop
      split at hloop
      · cases hloop
      · cases hloop
      · rename_i eop w₁ hframe
        obtain ⟨rfl,hsingle⟩ := frameLoop_done h hrun SingleFrame.clear hframe
        rw [if_pos rfl,endFrame_single hsingle] at hloop
        exact ih (hc.next hread (frameLoop_streams hframe)) hloop

theorem workerLoop_finishes (h : Calm d) (hrun : ∀ n, d.run n = true) {m : Media} {a : Alternative}
    {as : List Alternative} (hall : ∀ x ∈ a :: as, x.All (Handled d.pluginManager)) {fuel : Nat}
    {w : Worker σ} {groups : List (Bool × DetectedData)} (hc : Covered d m w groups)
    (hA : w.logicAnalyzer.Shows (a :: as))
    (hfuel : fuel > (Cursor.start a as).size + (m.video.length - groups.length * d.groupSize)) :
    ∃ w', d.workerLoop fuel w = some (.ok w') := by
  induction fuel generalizing w groups with
  | zero => omega
  | succ fuel ih =>
    obtain ⟨r,hw,hr⟩ := hc.reading
    rw [workerLoop_group hrun hw]
    rcases hr.groupRead hc.length_le with ⟨hnone,-⟩ | ⟨vFrame,aFrames,hread⟩
    · simp [hnone]
    · have hsucc : (groups.length + 1) * d.groupSize =
          groups.length * d.groupSize + d.groupSize := Nat.succ_mul _ _
      have hlen := hread.length_le
      have hpos := hread.pos
      obtain ⟨w₁,hframe,hsk⟩ : ∃ w₁, d.frameLoop (some vFrame,aFrames) fuel
          (DataFlow.startFrame { w with loads := w.loads + 1 }
            (r.group d.groupSize (none,[])).2.synchronizer) = some (.ok (true,w₁)) ∧
          w₁.logicAnalyzer.skeleton = w.logicAnalyzer.reset.skeleton :=
        frameLoop_finishes h hrun SingleFrame.clear (reset_at hA) (Cursor.start_all hall) (by omega)
      obtain ⟨-,hsingle⟩ := frameLoop_done h hrun SingleFrame.clear hframe
      simp only [hread.frames,Option.isNone_some,Bool.false_and,Bool.false_eq_true,if_false,
        hframe,if_true,endFrame_single hsingle]
      refine ih (hc.next hread (frameLoop_streams hframe)) ?_ ?_
      · have hskeleton : (d.reportFrame { w₁ with
            accumulator := d.appendResult w₁ (some vFrame,aFrames) }
            (some vFrame,aFrames)).logicAnalyzer.skeleton = w.logicAnalyzer.skeleton := by
          rw [DataFlow.reportFrame,DataFlow.invokeProgressCb]
          split <;> exact hsk.trans reset_skeleton
        rw [LogicAnalyzer.Shows,hskeleton]
        exact hA
      · simp only [List.length_append,List.length_cons,List.length_nil,Nat.zero_add]
        omega

def Worker.initial (A : LogicAnalyzer) (s : AvSynchronizer) (st : σ) : Worker σ :=
  ⟨s,A,⟨[]⟩,.clear,st,0,oviErrorNone,[],[]⟩

theorem covered_initial (d : DataFlow σ) (m : Media) (A : LogicAnalyzer) (st : σ) :
    Covered d m (d.startWorker (Worker.initial A (AvSynchronizer.make m.extractor) st)) [] := by
  refine Covered.congr ⟨⟨Reading.start true m.hasAudio m.video m.audio,rfl,rfl,rfl,?_⟩,?_,rfl⟩
    (invokeProgressCb_streams _ _)
  · simp [Reading.start]
  · simp

theorem startWorker_shows {A : LogicAnalyzer} {plan : List Alternative} (h : A.Shows plan)
    (s : AvSynchronizer) (st : σ) :
    (d.startWorker (Worker.initial A s st)).logicAnalyzer.Shows plan := by
  unfold DataFlow.startWorker DataFlow.invokeProgressCb
  split <;> exact h

theorem worker_rawdata (h : Calm d) (hrun : ∀ n, d.run n = true) {m : Media} {A : LogicAnalyzer}
    {st : σ} {fuel : Nat} {w : Worker σ}
    (hw : d.worker fuel (Worker.initial A (AvSynchronizer.make m.extractor) st) = some (.ok w)) :
    ∃ groups, groups.length = m.video.length / d.groupSize ∧
      w.accumulator.rawdata = recorded d.groupSize groups := by
  unfold DataFlow.worker at hw
  split at hw
  · rename_i w₁ hloop
    obtain ⟨groups,hlen,hraw⟩ :=
      workerLoop_covered h hrun (covered_initial d m A st) hloop
    have hsame := invokeProgressCb_streams (d := d) w₁ "Finish Analysis..."
    cases hw
    exact ⟨groups,hlen,hsame.accumulator ▸ hraw⟩
  · rename_i hnot
    exact absurd hw (hnot w)

theorem mul_groupSize_iff (d : DataFlow σ) {n : Nat} (hn : n < 2 ^ 31) :
    n / d.groupSize * d.groupSize = n ↔ d.skipFrames.toNat + 1 ∣ n := by
  have hs : d.skipFrames.toNat < 2 ^ 64 := d.skipFrames.toNat_lt
  have hg : d.groupSize = (d.skipFrames.toNat + 1) % 2 ^ 64 := UInt64.toNat_add d.skipFrames 1
  by_cases hwrap : d.skipFrames.toNat + 1 = 2 ^ 64
  · have hzero : d.groupSize = 0 := by rw [hg,hwrap,Nat.mod_self]
    rw [hzero,hwrap,Nat.mul_zero]
    constructor
    · rintro rfl
      exact Nat.dvd_zero _
    · intro hdvd
      exact (Nat.eq_zero_of_dvd_of_lt hdvd (by omega)).symm
  · have heq : d.groupSize = d.skipFrames.toNat + 1 := by
      rw [hg,Nat.mod_eq_of_lt (by omega)]
    rw [heq]
    exact ⟨fun h => ⟨_,(Nat.mul_comm _ _ ▸ h).symm⟩,Nat.div_mul_cancel⟩

theorem worker_frames_iff (h : Calm d) (hrun : ∀ n, d.run n = true) {request : List String}
    (hv : validateLogic d.pluginManager request = true) {A₀ A : LogicAnalyzer}
    (hA₀ : LogicAnalyzer.make request = some A₀) (hA : Used A₀ A) (m : Media) (st : σ) :
    (∀ fuel w, d.worker fuel (Worker.initial A (AvSynchronizer.make m.extractor) st) =
        some (.ok w) →
      (w.accumulator.rawdata.map RawData.frameNumber = firstFrames m.video.length ↔
        d.skipFrames.toNat + 1 ∣ m.video.length)) ∧
    ((∀ uid ∈ request, d.pluginManager.exist uid = true → Handled d.pluginManager uid) →
      ∃ n, ∀ fuel ≥ n, ∃ w,
        d.worker fuel (Worker.initial A (AvSynchronizer.make m.extractor) st) = some (.ok w)) := by
  constructor
  · intro fuel w hw
    obtain ⟨groups,hlen,hraw⟩ := worker_rawdata h hrun hw
    rw [hraw,recorded_numbers,firstFrames_inj,hlen]
    exact mul_groupSize_iff d m.bounded
  · intro hhandled
    obtain ⟨a,as,hshows,hall⟩ := make_sound hv hA₀
    have hshows' : A.Shows (a :: as) := by
      rw [LogicAnalyzer.Shows,hA.skeleton]
      exact hshows
    have hall' : ∀ x ∈ a :: as, x.All (Handled d.pluginManager) :=
      fun x hx n hn uid hu => hhandled uid (hall x hx n hn uid hu).1 (hall x hx n hn uid hu).2
    refine ⟨(Cursor.start a as).size + m.video.length + 1,fun fuel hf => ?_⟩
    obtain ⟨w,hw⟩ : ∃ w, d.workerLoop fuel (d.startWorker
        (Worker.initial A (AvSynchronizer.make m.extractor) st)) = some (.ok w) :=
      workerLoop_finishes h hrun hall' (covered_initial d m A st) (startWorker_shows hshows' _ st)
        (by simp only [List.length_nil]; omega)
    rw [DataFlow.worker,hw]
    exact ⟨_,rfl⟩

end Worker

section Sample

def skippingOne : DataFlow Unit := { sampleFlow with skipFrames := 1 }

def faceAnalyzer : LogicAnalyzer :=
  ⟨["FaceDetect.1"],[⟨["FaceDetect.1"],0,true,true⟩],[⟨[0],0,false⟩],0,false⟩

def oneFrame : Media := ⟨false,[⟨1,0,1⟩],[],rfl,by decide⟩

theorem faceAnalyzer_made : LogicAnalyzer.make ["FaceDetect.1"] = some faceAnalyzer := by decide

theorem skippingOne_calm : Calm skippingOne :=
  ⟨fun uid _ st _ => ⟨⟨uid == "FaceDetect.1",[]⟩,st,rfl,rfl⟩⟩

theorem worker_frames_iff_oneFrame :
    (∀ fuel w, skippingOne.worker fuel
        (Worker.initial faceAnalyzer (AvSynchronizer.make oneFrame.extractor) ()) = some (.ok w) →
      (w.accumulator.rawdata.map RawData.frameNumber = firstFrames 1 ↔ 2 ∣ 1)) ∧
    ((∀ uid ∈ ["FaceDetect.1"], samplePlugins.exist uid = true → Handled samplePlugins uid) →
      ∃ n, ∀ fuel ≥ n, ∃ w, skippingOne.worker fuel
        (Worker.initial faceAnalyzer (AvSynchronizer.make oneFrame.extractor) ()) = some (.ok w)) :=
  worker_frames_iff skippingOne_calm (fun _ => rfl) (by decide) faceAnalyzer_made .made oneFrame ()

theorem worker_drops_oneFrame :
    validateLogic samplePlugins ["FaceDetect.1"] = true ∧ Calm skippingOne ∧
      ∃ w, skippingOne.worker 4
        (Worker.initial faceAnalyzer (AvSynchronizer.make oneFrame.extractor) ()) = some (.ok w) ∧
        w.accumulator.rawdata.map RawData.frameNumber ≠ firstFrames oneFrame.video.length :=
  ⟨by decide,skippingOne_calm,_,rfl,by decide⟩

end Sample

end Ovi
