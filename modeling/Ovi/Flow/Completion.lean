import Ovi.Flow.Coverage
import Ovi.Flow.Turns

namespace Ovi

inductive Answer where
  | read (e : Exn)
  | process (uid : String) (answer : Except Fault Outcome)
  | multiFrame (list : Details) (entries : Nat)

namespace Answer

def code : Answer → Option ErrorCode
  | read (.ovi error) => some error
  | process _ (.error (.raised (.ovi error))) => some error
  | _ => none

def Failed : Answer → Prop
  | read _ => True
  | process _ answer => ∃ fault, answer = .error fault
  | multiFrame _ _ => False

def Caught : Answer → Prop
  | read e => ∃ error, e = .ovi error
  | process _ answer => ∀ fault, answer = .error fault → ∃ error, fault = .raised (.ovi error)
  | multiFrame list entries => ∀ i < entries, ∃ value, list[i]? = some (.bool value)

end Answer

def lastCode (ret : ErrorCode) (answers : List Answer) : ErrorCode :=
  (answers.filterMap Answer.code).getLast?.getD ret

section Codes

variable {ret : ErrorCode} {answers answers' : List Answer} {a : Answer}

theorem lastCode_append (ret : ErrorCode) (answers answers' : List Answer) :
    lastCode ret (answers ++ answers') = lastCode (lastCode ret answers) answers' := by
  rw [lastCode,lastCode,lastCode,List.filterMap_append,List.getLast?_append]
  cases (answers'.filterMap Answer.code).getLast? <;> rfl

theorem Answer.Caught.code_of_failed (h : a.Caught) (hf : a.Failed) :
    ∃ error, a.code = some error := by
  cases a with
  | read e =>
    obtain ⟨error,rfl⟩ := h
    exact ⟨error,rfl⟩
  | process uid answer =>
    obtain ⟨fault,rfl⟩ := hf
    obtain ⟨error,rfl⟩ := h fault rfl
    exact ⟨error,rfl⟩
  | multiFrame list entries => exact hf.elim

theorem lastCode_of_failed (hc : ∀ a ∈ answers, a.Caught) (hf : ∃ a ∈ answers, a.Failed) :
    ∃ error, (answers.filterMap Answer.code).getLast? = some error ∧
      ∀ ret, lastCode ret answers = error := by
  obtain ⟨a,ha,hfailed⟩ := hf
  obtain ⟨error,hcode⟩ := (hc a ha).code_of_failed hfailed
  have hne : answers.filterMap Answer.code ≠ [] :=
    List.ne_nil_of_mem (List.mem_filterMap.mpr ⟨a,ha,hcode⟩)
  refine ⟨_,List.getLast?_eq_some_getLast hne,fun ret => ?_⟩
  rw [lastCode,List.getLast?_eq_some_getLast hne]
  rfl

end Codes

variable {σ : Type} {d : DataFlow σ} {frames : Frames} {w w' w₁ w₂ : Worker σ}

structure Calling (d : DataFlow σ) (w : Worker σ) (uid : String) (A : LogicAnalyzer)
    (plugin : Plugin) : Prop where
  running : d.run w.loads = true
  named : w.logicAnalyzer.nextPlugin w.outcomeCache.result.1.detect = some (uid,A)
  genuine : uid ≠ oviEop
  missed : w.outcomeCache.result.2.hit uid = false
  found : d.pluginManager.find uid = some plugin

namespace DataFlow

def called (d : DataFlow σ) (w : Worker σ) (frames : Frames) (uid : String) (plugin : Plugin) :
    List Answer :=
  if isEffectType plugin then [] else [.process uid (d.processPlugin uid frames w.plugins).1]

end DataFlow

def Worker.ending (w : Worker σ) : List Answer :=
  match w.outcomeCache.getMultiFrameResult with
  | .ok list => [.multiFrame list w.accumulator.rawdata.length]
  | .error _ => []

inductive FrameRun (d : DataFlow σ) (frames : Frames) :
    Worker σ → List Answer → Except Fault (Bool × Worker σ) → Prop
  | stopped {w : Worker σ} (hrun : d.run w.loads = false) :
    FrameRun d frames w [] (.ok (false,{ w with loads := w.loads + 1 }))
  | eop {w : Worker σ} {A : LogicAnalyzer} (hrun : d.run w.loads = true)
    (hn : w.logicAnalyzer.nextPlugin w.outcomeCache.result.1.detect = some (oviEop,A)) :
    FrameRun d frames w [] (.ok (true,w.advance A))
  | hit {w : Worker σ} {uid : String} {A : LogicAnalyzer} {answers : List Answer}
    {result : Except Fault (Bool × Worker σ)} (hrun : d.run w.loads = true)
    (hn : w.logicAnalyzer.nextPlugin w.outcomeCache.result.1.detect = some (uid,A))
    (hne : uid ≠ oviEop) (hhit : w.outcomeCache.result.2.hit uid = true)
    (rest : FrameRun d frames { w.advance A with
      outcomeCache := w.outcomeCache.result.2.setResultUid uid } answers result) :
    FrameRun d frames w answers result
  | handled {w w₁ : Worker σ} {uid : String} {A : LogicAnalyzer} {plugin : Plugin}
    {answers : List Answer} {result : Except Fault (Bool × Worker σ)}
    (h : Calling d w uid A plugin)
    (hp : d.handlePlugin (w.advance A) frames uid plugin = .ok (true,w₁))
    (rest : FrameRun d frames w₁ answers result) :
    FrameRun d frames w (d.called w frames uid plugin ++ answers) result
  | raised {w w₁ : Worker σ} {uid : String} {A : LogicAnalyzer} {plugin : Plugin}
    (h : Calling d w uid A plugin)
    (hp : d.handlePlugin (w.advance A) frames uid plugin = .ok (false,w₁)) :
    FrameRun d frames w (d.called w frames uid plugin) (.ok (false,w₁))
  | fault {w : Worker σ} {uid : String} {A : LogicAnalyzer} {plugin : Plugin} {fault : Fault}
    (h : Calling d w uid A plugin)
    (hp : d.handlePlugin (w.advance A) frames uid plugin = .error fault) :
    FrameRun d frames w (d.called w frames uid plugin) (.error fault)

inductive LoopRun (d : DataFlow σ) : Worker σ → List Answer → Except Fault (Worker σ) → Prop
  | stopped {w : Worker σ} (hrun : d.run w.loads = false) :
    LoopRun d w [] (.ok { w with loads := w.loads + 1 })
  | raised {w : Worker σ} {error : ErrorCode} (hrun : d.run w.loads = true)
    (hread : DataFlow.readGroup (d.skipFrames + 1).toNat w.avSynchronizer (none,[]) =
      .error (.ovi error)) :
    LoopRun d w [.read (.ovi error)] (.ok { w with loads := w.loads + 1, ret := error })
  | escaped {w : Worker σ} (hrun : d.run w.loads = true)
    (hread : DataFlow.readGroup (d.skipFrames + 1).toNat w.avSynchronizer (none,[]) =
      .error .other) :
    LoopRun d w [.read .other] (.error (.raised .other))
  | finished {w : Worker σ} {frames : Frames} {s : AvSynchronizer} (hrun : d.run w.loads = true)
    (hread : DataFlow.readGroup (d.skipFrames + 1).toNat w.avSynchronizer (none,[]) =
      .ok (frames,s))
    (hmedia : (frames.1.isNone && frames.2.isEmpty) = true) :
    LoopRun d w [] (.ok { w with loads := w.loads + 1, avSynchronizer := s })
  | fault {w : Worker σ} {frames : Frames} {s : AvSynchronizer} {answers : List Answer}
    {fault : Fault} (h : Opens d w frames s)
    (hframe : FrameRun d frames (w.opened s) answers (.error fault)) :
    LoopRun d w answers (.error fault)
  | endFault {w w₁ : Worker σ} {frames : Frames} {s : AvSynchronizer} {answers : List Answer}
    {fault : Fault} (h : Opens d w frames s)
    (hframe : FrameRun d frames (w.opened s) answers (.ok (true,w₁)))
    (hend : d.endFrame w₁ frames = .error fault) :
    LoopRun d w (answers ++ w₁.ending) (.error fault)
  | group {w w₁ w₂ : Worker σ} {frames : Frames} {s : AvSynchronizer} {eop : Bool}
    {answers answers' : List Answer} {result : Except Fault (Worker σ)} (h : Opens d w frames s)
    (hframe : FrameRun d frames (w.opened s) answers (.ok (eop,w₁)))
    (hend : (if eop then d.endFrame w₁ frames else .ok w₁) = .ok w₂)
    (rest : LoopRun d (d.reportFrame w₂ frames) answers' result) :
    LoopRun d w (answers ++ (if eop then w₁.ending else []) ++ answers') result

section Explained

structure Recorded (w : Worker σ) (answers : List Answer) (w' : Worker σ) : Prop where
  caught : ∀ a ∈ answers, a.Caught
  ret : w'.ret = lastCode w.ret answers
  completed : w'.completed = w.completed

def Explains (w : Worker σ) (answers : List Answer) : Except Fault (Worker σ) → Prop
  | .ok w' => Recorded w answers w'
  | .error _ => ∃ a ∈ answers, ¬ a.Caught

variable {answers answers' : List Answer} {result : Except Fault (Worker σ)} {uid : String}
  {plugin : Plugin} {fault : Fault}

theorem Recorded.silent (hret : w'.ret = w.ret) (hcompleted : w'.completed = w.completed) :
    Recorded w [] w' := ⟨List.forall_mem_nil _,hret,hcompleted⟩

theorem Recorded.trans (h : Recorded w answers w₁) (h' : Recorded w₁ answers' w₂) :
    Recorded w (answers ++ answers') w₂ := by
  refine ⟨List.forall_mem_append.mpr ⟨h.caught,h'.caught⟩,?_,h'.completed.trans h.completed⟩
  rw [lastCode_append,← h.ret]
  exact h'.ret

theorem Recorded.explains (h : Recorded w answers w₁) (h' : Explains w₁ answers' result) :
    Explains w (answers ++ answers') result := by
  cases result with
  | ok w₂ => exact h.trans h'
  | error fault =>
    obtain ⟨a,ha,hn⟩ := h'
    exact ⟨a,List.mem_append_right _ ha,hn⟩

theorem Recorded.congr {w₀ : Worker σ} (h : Recorded w answers w') (hret : w.ret = w₀.ret)
    (hcompleted : w.completed = w₀.completed) : Recorded w₀ answers w' :=
  ⟨h.caught,hret ▸ h.ret,h.completed.trans hcompleted⟩

theorem Explains.congr {w₀ : Worker σ} (h : Explains w answers result) (hret : w.ret = w₀.ret)
    (hcompleted : w.completed = w₀.completed) : Explains w₀ answers result := by
  cases result with
  | ok w' => exact Recorded.congr h hret hcompleted
  | error fault => exact h

theorem handlePlugin_recorded {go : Bool}
    (h : d.handlePlugin w frames uid plugin = .ok (go,w₁)) :
    Recorded w (d.called w frames uid plugin) w₁ := by
  rw [DataFlow.handlePlugin] at h
  rw [DataFlow.called]
  split at h
  · rename_i he
    cases h
    rw [if_pos he]
    exact .silent rfl rfl
  · rename_i he
    rw [if_neg he]
    split at h
    · rename_i outcome st hp
      cases h
      rw [hp]
      refine ⟨?_,rfl,rfl⟩
      intro a ha
      obtain rfl := List.mem_singleton.mp ha
      intro fault hfault
      cases hfault
    · rename_i error st hp
      cases h
      rw [hp]
      refine ⟨?_,rfl,rfl⟩
      intro a ha
      obtain rfl := List.mem_singleton.mp ha
      intro fault hfault
      cases hfault
      exact ⟨error,rfl⟩
    · cases h

theorem handlePlugin_fault (h : d.handlePlugin w frames uid plugin = .error fault) :
    ∃ a ∈ d.called w frames uid plugin, ¬ a.Caught := by
  rw [DataFlow.handlePlugin] at h
  split at h
  · cases h
  · rename_i he
    rw [DataFlow.called,if_neg he]
    refine ⟨_,List.mem_singleton_self _,fun hcaught => ?_⟩
    split at h
    · cases h
    · cases h
    · rename_i fault' st hnot hp
      obtain ⟨error,rfl⟩ := hcaught fault' (by rw [hp])
      exact hnot error rfl

theorem updateFrom_none_iff (detected : Details) (i : Nat) (rawdata : List RawData) :
    (Accumulator.updateFrom detected i rawdata).2 = none ↔
      ∀ j < rawdata.length, ∃ value, detected[i + j]? = some (.bool value) := by
  induction rawdata generalizing i with
  | nil => exact iff_of_true rfl fun j hj => absurd hj (Nat.not_lt_zero j)
  | cons item rawdata ih =>
    rw [Accumulator.updateFrom]
    have hfirst : (∀ j < (item :: rawdata).length, ∃ value, detected[i + j]? = some (.bool value)) ↔
        (∃ value, detected[i]? = some (.bool value)) ∧
          ∀ j < rawdata.length, ∃ value, detected[i + 1 + j]? = some (.bool value) := by
      constructor
      · intro h
        refine ⟨h 0 (Nat.succ_pos _),fun j hj => ?_⟩
        have hj' := h (j + 1) (Nat.succ_lt_succ hj)
        rwa [Nat.add_comm j 1,← Nat.add_assoc] at hj'
      · rintro ⟨h₀,h⟩ j hj
        cases j with
        | zero => exact h₀
        | succ j =>
          rw [Nat.add_comm j 1,← Nat.add_assoc]
          exact h j (Nat.lt_of_succ_lt_succ hj)
    rw [hfirst,← ih]
    split
    · rename_i hnone
      simp [hnone]
    · rename_i value hvalue
      simp [hvalue]
    · rename_i value hnot hvalue
      refine iff_of_false (by simp) ?_
      rintro ⟨⟨value',hvalue'⟩,-⟩
      exact hnot value' (Option.some.inj (hvalue.symm.trans hvalue'))

theorem getMultiFrameResult_cases (c : OutcomeCache) :
    (c.findMultiFrameResult = true ∧ ∃ list, c.getMultiFrameResult = .ok list) ∨
      (c.findMultiFrameResult = false ∧ ∃ e, c.getMultiFrameResult = .error e) := by
  rw [OutcomeCache.getMultiFrameResult,OutcomeCache.findMultiFrameResult]
  cases hf : c.storage.toList.find? (fun item => item.2.multiFrame) with
  | some item =>
    have hmulti := List.find?_some hf
    exact .inl ⟨List.any_eq_true.mpr ⟨item,List.mem_of_find?_eq_some hf,hmulti⟩,item.2.list,rfl⟩
  | none =>
    refine .inr ⟨?_,_,rfl⟩
    rw [List.any_eq_false]
    exact List.find?_eq_none.mp hf

theorem endFrame_explains (w : Worker σ) (frames : Frames) :
    Explains w w.ending (d.endFrame w frames) := by
  rw [DataFlow.endFrame,Worker.ending]
  rcases getMultiFrameResult_cases w.outcomeCache with ⟨hfind,list,hget⟩ | ⟨hfind,e,hget⟩
  · rw [hget,hfind,if_pos rfl]
    have hupdate := updateFrom_none_iff list 0 w.accumulator.rawdata
    simp only [Nat.zero_add] at hupdate
    dsimp only [Accumulator.update]
    split
    · rename_i accumulator fault hfault
      have hsome := congrArg Prod.snd hfault
      refine ⟨_,List.mem_singleton_self _,fun hcaught => ?_⟩
      rw [hupdate.mpr hcaught] at hsome
      cases hsome
    · rename_i accumulator hnone
      refine ⟨?_,rfl,rfl⟩
      intro a ha
      obtain rfl := List.mem_singleton.mp ha
      exact hupdate.mp (congrArg Prod.snd hnone)
  · rw [hget,hfind,if_neg Bool.false_ne_true]
    exact .silent rfl rfl

theorem reportFrame_recorded (w : Worker σ) (frames : Frames) :
    Recorded w [] (d.reportFrame w frames) := by
  unfold DataFlow.reportFrame DataFlow.invokeProgressCb
  split
  · split <;> exact .silent rfl rfl
  · split <;> exact .silent rfl rfl
  · exact .silent rfl rfl

theorem FrameRun.explains {result : Except Fault (Bool × Worker σ)}
    (h : FrameRun d frames w answers result) : Explains w answers (result.map Prod.snd) := by
  induction h with
  | stopped _ => exact .silent rfl rfl
  | eop _ _ => exact .silent rfl rfl
  | hit _ _ _ _ _ ih => exact ih.congr rfl rfl
  | @handled w w₁ uid A plugin answers result _ hp _ ih =>
    have hrecorded : Recorded w _ w₁ := (handlePlugin_recorded hp).congr rfl rfl
    exact hrecorded.explains ih
  | raised _ hp => exact (handlePlugin_recorded hp).congr rfl rfl
  | fault _ hp =>
    have hfault := handlePlugin_fault hp
    exact hfault

theorem LoopRun.explains (h : LoopRun d w answers result) : Explains w answers result := by
  induction h with
  | stopped _ => exact .silent rfl rfl
  | @raised w error _ _ =>
    refine ⟨?_,rfl,rfl⟩
    intro a ha
    obtain rfl := List.mem_singleton.mp ha
    exact ⟨error,rfl⟩
  | escaped _ _ =>
    refine ⟨_,List.mem_singleton_self _,?_⟩
    rintro ⟨error,he⟩
    cases he
  | finished _ _ _ => exact .silent rfl rfl
  | fault _ hframe => exact hframe.explains
  | @endFault w w₁ frames _ _ _ _ hframe hend =>
    have hended := endFrame_explains (d := d) w₁ frames
    rw [hend] at hended
    exact (Recorded.congr hframe.explains rfl rfl).explains hended
  | @group w w₁ w₂ frames s eop answers answers' result _ hframe hend _ ih =>
    have hended : Recorded w₁ (if eop then w₁.ending else []) w₂ := by
      cases eop with
      | false =>
        cases hend
        exact .silent rfl rfl
      | true =>
        have hended := endFrame_explains (d := d) w₁ frames
        rw [if_pos rfl] at hend
        rw [hend] at hended
        exact hended
    have hframe' : Recorded w answers w₁ := Recorded.congr hframe.explains rfl rfl
    have hreport := (reportFrame_recorded (d := d) w₂ frames)
    have hturn := (hframe'.trans hended).trans hreport
    rw [List.append_nil] at hturn
    exact hturn.explains ih

end Explained

section Adequacy

variable {answers : List Answer} {s : AvSynchronizer}

theorem FrameRun.frameLoop {result : Except Fault (Bool × Worker σ)}
    (h : FrameRun d frames w answers result) :
    ∃ fuel, d.frameLoop frames fuel w = some result := by
  induction h with
  | stopped hrun => exact ⟨1,frameLoop_stopped hrun 0⟩
  | eop hrun hn => exact ⟨1,frameLoop_eop hrun hn 0⟩
  | hit hrun hn hne hhit _ ih =>
    obtain ⟨fuel,hloop⟩ := ih
    refine ⟨fuel + 1,?_⟩
    rw [frameLoop_hit hrun hn hne hhit]
    exact hloop
  | handled h hp _ ih =>
    obtain ⟨fuel,hloop⟩ := ih
    refine ⟨fuel + 1,?_⟩
    rw [frameLoop_handled h.running h.named h.genuine h.missed h.found hp]
    exact hloop
  | raised h hp =>
    exact ⟨1,frameLoop_raised h.running h.named h.genuine h.missed h.found hp 0⟩
  | fault h hp =>
    exact ⟨1,frameLoop_fault h.running h.named h.genuine h.missed h.found hp 0⟩

theorem LoopRun.workerLoop {result : Except Fault (Worker σ)} (h : LoopRun d w answers result) :
    ∃ fuel, d.workerLoop fuel w = some result := by
  induction h with
  | stopped hrun =>
    refine ⟨1,?_⟩
    simp only [DataFlow.workerLoop,DataFlow.load,hrun,Bool.not_false,if_true]
  | raised hrun hread =>
    refine ⟨1,?_⟩
    simp only [DataFlow.workerLoop,DataFlow.load,hrun,hread,Bool.not_true,Bool.false_eq_true,
      if_false]
  | escaped hrun hread =>
    refine ⟨1,?_⟩
    simp only [DataFlow.workerLoop,DataFlow.load,hrun,hread,Bool.not_true,Bool.false_eq_true,
      if_false]
  | finished hrun hread hmedia =>
    refine ⟨1,?_⟩
    simp only [DataFlow.workerLoop,DataFlow.load,hrun,hread,hmedia,Bool.not_true,
      Bool.false_eq_true,if_false,if_true]
  | fault h hframe =>
    obtain ⟨fuel,hloop⟩ := hframe.frameLoop
    refine ⟨fuel + 1,?_⟩
    rw [workerLoop_turn,groupTurn_opens h,hloop]
  | endFault h hframe hend =>
    obtain ⟨fuel,hloop⟩ := hframe.frameLoop
    refine ⟨fuel + 1,?_⟩
    rw [workerLoop_turn,groupTurn_opens h,hloop]
    dsimp only
    rw [if_pos rfl,hend]
  | group h hframe hend _ ih =>
    obtain ⟨fuel,hloop⟩ := hframe.frameLoop
    obtain ⟨fuel',hrest⟩ := ih
    refine ⟨max fuel fuel' + 1,?_⟩
    rw [workerLoop_turn,groupTurn_opens h,frameLoop_mono hloop (Nat.le_max_left _ _)]
    dsimp only
    rw [hend]
    exact workerLoop_mono hrest (Nat.le_max_right _ _)

end Adequacy

section Existence

-- what the extractor still has to give bounds the turns of the outer loop
def AvSynchronizer.left (s : AvSynchronizer) : Nat :=
  s.frameExtractor.video.length + s.frameExtractor.audio.length

variable {s s' : AvSynchronizer} {A₀ : LogicAnalyzer}

theorem getNext_left {type : MediaType} {frame : Option FramePack}
    (h : s.getNext type = .ok (frame,s')) : s'.left + frame.toList.length = s.left := by
  obtain ⟨⟨hasVideo,hasAudio,video,audio⟩,videoEOF,audioEOF,pts⟩ := s
  cases type with
  | video =>
    cases video with
    | nil =>
      cases h
      rfl
    | cons entry video =>
      cases entry with
      | error e => cases h
      | ok frame =>
        cases h
        simp only [AvSynchronizer.left,Option.toList,List.length_cons,List.length_nil]
        omega
  | audio =>
    cases audio with
    | nil =>
      cases h
      rfl
    | cons entry audio =>
      cases entry with
      | error e => cases h
      | ok frame =>
        cases h
        simp only [AvSynchronizer.left,Option.toList,List.length_cons,List.length_nil]
        omega

theorem getNextVideo_left {vFrame : Option FramePack} (h : s.getNextVideo = .ok (vFrame,s')) :
    s'.left + vFrame.toList.length = s.left := by
  rw [AvSynchronizer.getNextVideo] at h
  split at h
  · cases h
    rfl
  · exact getNext_left h

theorem getNextAudioLoop_left {steps : Nat} {frames aFrames : List FramePack}
    (h : s.getNextAudioLoop steps frames = .ok (aFrames,s')) :
    s'.left + aFrames.length = s.left + frames.length := by
  induction steps generalizing s frames with
  | zero =>
    cases h
    rfl
  | succ steps ih =>
    rw [AvSynchronizer.getNextAudioLoop] at h
    split at h
    · cases h
      rfl
    · cases hnext : s.getNext .audio with
      | error e =>
        rw [hnext] at h
        cases h
      | ok r =>
        obtain ⟨frame,s₁⟩ := r
        have hleft := getNext_left hnext
        rw [hnext] at h
        cases frame with
        | none =>
          cases h
          simpa using hleft
        | some frame =>
          simp only [Option.toList,List.length_singleton] at hleft
          change (if (s₁.pts == noPts || decide (frame.pts > s₁.pts)) = true then
            Except.ok (frames ++ [frame],s₁)
            else s₁.getNextAudioLoop steps (frames ++ [frame])) = _ at h
          split at h
          · cases h
            simp only [List.length_append,List.length_singleton]
            omega
          · have hrest := ih h
            simp only [List.length_append,List.length_singleton] at hrest
            omega

theorem getNextAudio_left {aFrames : List FramePack} (h : s.getNextAudio = .ok (aFrames,s')) :
    s'.left + aFrames.length = s.left := by
  rw [AvSynchronizer.getNextAudio] at h
  split at h
  · cases h
    rfl
  · split at h
    · cases h
      rfl
    · exact getNextAudioLoop_left h

theorem readGroup_left {steps : Nat} {frames₀ : Frames}
    (h : DataFlow.readGroup steps s frames₀ = .ok (frames,s')) :
    s'.left ≤ s.left ∧ (steps ≠ 0 → (frames.1.isNone && frames.2.isEmpty) = false →
      s'.left < s.left) := by
  induction steps generalizing s frames₀ with
  | zero =>
    cases h
    exact ⟨le_refl _,fun hne => absurd rfl hne⟩
  | succ steps ih =>
    rw [DataFlow.readGroup] at h
    cases hv : s.getNextVideo with
    | error e =>
      rw [hv] at h
      cases h
    | ok r =>
      obtain ⟨vFrame,s₁⟩ := r
      rw [hv] at h
      cases ha : s₁.getNextAudio with
      | error e =>
        change (s₁.getNextAudio >>= _) = _ at h
        rw [ha] at h
        cases h
      | ok r =>
        obtain ⟨aFrames,s₂⟩ := r
        change (s₁.getNextAudio >>= _) = _ at h
        rw [ha] at h
        change (if (vFrame.isNone && aFrames.isEmpty) = true then
          Except.ok ((vFrame,aFrames),s₂)
          else DataFlow.readGroup steps s₂ (vFrame,aFrames)) = _ at h
        have hvideo := getNextVideo_left hv
        have haudio := getNextAudio_left ha
        split at h
        · rename_i hnone
          cases h
          refine ⟨by omega,fun _ hmedia => ?_⟩
          rw [hnone] at hmedia
          cases hmedia
        · rename_i hmedia
          have hless : s₂.left < s.left := by
            cases vFrame with
            | some vFrame =>
              simp only [Option.toList,List.length_singleton] at hvideo
              omega
            | none =>
              cases aFrames with
              | nil => exact absurd rfl hmedia
              | cons a aFrames =>
                simp only [List.length_cons] at haudio
                omega
          have hrest := (ih h).1
          exact ⟨by omega,fun _ _ => by omega⟩

theorem Opens.left (h : Opens d w frames s) : s.left < w.avSynchronizer.left := by
  refine (readGroup_left h.read).2 ?_ h.media
  intro hzero
  have hread := h.read
  rw [hzero] at hread
  cases hread
  have hmedia := h.media
  cases hmedia

structure SamePlan (w w' : Worker σ) : Prop where
  avSynchronizer : w'.avSynchronizer = w.avSynchronizer
  skeleton : w'.logicAnalyzer.skeleton = w.logicAnalyzer.skeleton

theorem handlePlugin_samePlan {uid : String} {plugin : Plugin} {go : Bool}
    (h : d.handlePlugin w frames uid plugin = .ok (go,w₁)) : SamePlan w w₁ :=
  ⟨(handlePlugin_streams h).avSynchronizer,congrArg _ (handlePlugin_analyzer h)⟩

-- whatever the plugins do, each turn uses up a plugin position of the plan
theorem frameRun_exists (d : DataFlow σ) (frames : Frames) {c : Cursor}
    (hat : At w.logicAnalyzer c) (hc : c.All (fun uid => d.pluginManager.exist uid = true)) :
    ∃ answers result, FrameRun d frames w answers result ∧
      ∀ eop w', result = .ok (eop,w') → SamePlan w w' := by
  induction hn : c.size using Nat.strong_induction_on generalizing w c with
  | _ n ih =>
    subst hn
    cases hrun : d.run w.loads with
    | false =>
      refine ⟨[],_,.stopped hrun,fun eop w' h => ?_⟩
      cases h
      exact ⟨rfl,rfl⟩
    | true =>
      have hgenuine : c.All Genuine := hc.imp fun _ hu => genuine_of_exist hu
      have hland := nextPlugin_step hat hgenuine (b := w.outcomeCache.result.1.detect)
      cases hstep : c.step w.outcomeCache.result.1.detect with
      | none =>
        rw [hstep] at hland
        obtain ⟨A,hn,hsk,-⟩ := hland
        refine ⟨[],_,.eop hrun hn,fun eop w' h => ?_⟩
        cases h
        exact ⟨rfl,hsk⟩
      | some p =>
        obtain ⟨uid,c'⟩ := p
        rw [hstep] at hland
        obtain ⟨A,hn,hsk,hat'⟩ := hland
        obtain ⟨hu,hc'⟩ := Cursor.all_step hstep hc
        have hsize := Cursor.size_step hstep
        have hne := (genuine_of_exist hu).ne_eop
        cases hhit : w.outcomeCache.result.2.hit uid with
        | true =>
          obtain ⟨answers,result,hframe,hkept⟩ := ih c'.size hsize (w := { w.advance A with
            outcomeCache := w.outcomeCache.result.2.setResultUid uid }) hat' hc' rfl
          refine ⟨answers,result,.hit hrun hn hne hhit hframe,fun eop w' h => ?_⟩
          have hk := hkept eop w' h
          exact ⟨hk.avSynchronizer,hk.skeleton.trans hsk⟩
        | false =>
          obtain ⟨plugin,hf⟩ := exists_find_of_exist hu
          have hcalling : Calling d w uid A plugin := ⟨hrun,hn,hne,hhit,hf⟩
          cases hp : d.handlePlugin (w.advance A) frames uid plugin with
          | error fault => exact ⟨_,_,.fault hcalling hp,fun eop w' h => by cases h⟩
          | ok r =>
            obtain ⟨go,w₁⟩ := r
            have hk₁ := handlePlugin_samePlan hp
            cases go with
            | false =>
              refine ⟨_,_,.raised hcalling hp,fun eop w' h => ?_⟩
              cases h
              exact ⟨hk₁.avSynchronizer,hk₁.skeleton.trans hsk⟩
            | true =>
              have hat₁ : At w₁.logicAnalyzer c' := by
                rw [handlePlugin_analyzer hp]
                exact hat'
              obtain ⟨answers,result,hframe,hkept⟩ := ih c'.size hsize hat₁ hc' rfl
              refine ⟨_,result,.handled hcalling hp hframe,fun eop w' h => ?_⟩
              have hk := hkept eop w' h
              exact ⟨hk.avSynchronizer.trans hk₁.avSynchronizer,
                hk.skeleton.trans (hk₁.skeleton.trans hsk)⟩

theorem endFrame_samePlan (h : d.endFrame w frames = .ok w') : SamePlan w w' := by
  refine ⟨?_,congrArg _ (endFrame_analyzer h)⟩
  unfold DataFlow.endFrame at h
  split at h
  · split at h
    · cases h
    · split at h
      · cases h
      · cases h
        rfl
  · cases h
    rfl

theorem loopRun_exists (d : DataFlow σ) {a : Alternative} {as : List Alternative}
    (hall : ∀ x ∈ a :: as, x.All (fun uid => d.pluginManager.exist uid = true))
    (hA : w.logicAnalyzer.Shows (a :: as)) : ∃ answers result, LoopRun d w answers result := by
  induction hn : w.avSynchronizer.left using Nat.strong_induction_on generalizing w with
  | _ n ih =>
    subst hn
    cases hrun : d.run w.loads with
    | false => exact ⟨_,_,.stopped hrun⟩
    | true =>
      cases hread : DataFlow.readGroup (d.skipFrames + 1).toNat w.avSynchronizer (none,[]) with
      | error e =>
        cases e with
        | ovi error => exact ⟨_,_,.raised hrun hread⟩
        | other => exact ⟨_,_,.escaped hrun hread⟩
      | ok r =>
        obtain ⟨frames,s⟩ := r
        cases hmedia : frames.1.isNone && frames.2.isEmpty with
        | true => exact ⟨_,_,.finished hrun hread hmedia⟩
        | false =>
          have hopens : Opens d w frames s := ⟨hrun,hread,hmedia⟩
          obtain ⟨answers,result,hframe,hkept⟩ := frameRun_exists (w := w.opened s) d frames
            (reset_at hA) (Cursor.start_all hall)
          cases result with
          | error fault => exact ⟨_,_,.fault hopens hframe⟩
          | ok r =>
            obtain ⟨eop,w₁⟩ := r
            have hk := hkept eop w₁ rfl
            cases hend : (if eop then d.endFrame w₁ frames else .ok w₁) with
            | error fault =>
              cases eop with
              | true => exact ⟨_,_,.endFault hopens hframe hend⟩
              | false => cases hend
            | ok w₂ =>
              have hk₂ : SamePlan w₁ w₂ := by
                cases eop with
                | true => exact endFrame_samePlan hend
                | false =>
                  cases hend
                  exact ⟨rfl,rfl⟩
              have hleft : (d.reportFrame w₂ frames).avSynchronizer.left <
                  w.avSynchronizer.left := by
                rw [(reportFrame_streams w₂ frames).avSynchronizer,hk₂.avSynchronizer,
                  hk.avSynchronizer]
                exact hopens.left
              have hshows : (d.reportFrame w₂ frames).logicAnalyzer.Shows (a :: as) := by
                rw [LogicAnalyzer.Shows,reportFrame_analyzer,hk₂.skeleton,hk.skeleton]
                rw [LogicAnalyzer.Shows] at hA
                exact reset_skeleton (A := w.logicAnalyzer) ▸ hA
              obtain ⟨answers',result,hrest⟩ := ih _ hleft hshows rfl
              exact ⟨_,_,.group hopens hframe hend hrest⟩

end Existence

section Skeleton

theorem FrameRun.skeleton {answers : List Answer} {ending : Except Fault (Bool × Worker σ)}
    (h : FrameRun d frames w answers ending) : ∀ eop w', ending = .ok (eop,w') →
      w'.logicAnalyzer.skeleton = w.logicAnalyzer.skeleton := by
  induction h with
  | stopped _ =>
    rintro eop w' ⟨⟩
    rfl
  | eop _ hn =>
    rintro eop w' ⟨⟩
    exact nextPluginAux_skeleton hn
  | hit _ hn _ _ _ ih =>
    intro eop w' h
    exact (ih eop w' h).trans (nextPluginAux_skeleton hn)
  | handled hcall hp _ ih =>
    intro eop w' h
    refine (ih eop w' h).trans ?_
    rw [handlePlugin_analyzer hp]
    exact nextPluginAux_skeleton hcall.named
  | raised hcall hp =>
    rintro eop w' ⟨⟩
    rw [handlePlugin_analyzer hp]
    exact nextPluginAux_skeleton hcall.named
  | fault _ _ => exact fun eop w' h => by cases h

theorem group_skeleton {answers : List Answer} {s : AvSynchronizer} {eop : Bool}
    (hframe : FrameRun d frames (w.opened s) answers (.ok (eop,w₁)))
    (hend : (if eop then d.endFrame w₁ frames else .ok w₁) = .ok w₂) :
    (d.reportFrame w₂ frames).logicAnalyzer.skeleton = w.logicAnalyzer.skeleton := by
  have hended : w₂.logicAnalyzer = w₁.logicAnalyzer := by
    cases eop with
    | false =>
      cases hend
      rfl
    | true => exact endFrame_analyzer hend
  rw [reportFrame_analyzer,hended,hframe.skeleton eop w₁ rfl]
  exact reset_skeleton

end Skeleton

section Completes

variable {answers : List Answer} {result : Except Fault (Worker σ)}

def DataFlow.CompletesOnce (d : DataFlow σ) (w : Worker σ) (answers : List Answer) : Prop :=
  ∃ code, (∃ n, ∀ fuel ≥ n, ∃ w', d.worker fuel w = some (.ok w') ∧
      w'.completed = w.completed ++ [code]) ∧
    ((∃ a ∈ answers, a.Failed) → code ≠ oviErrorNone)

structure Orderly (answers : List Answer) : Prop where
  caught : ∀ a ∈ answers, a.Caught
  coded : (answers.filterMap Answer.code).getLast? ≠ some oviErrorNone

theorem Answer.failed_of_code {a : Answer} {error : ErrorCode} (h : a.code = some error) :
    a.Failed := by
  cases a with
  | read e => trivial
  | process uid answer =>
    cases answer with
    | ok outcome => cases h
    | error fault => exact ⟨fault,rfl⟩
  | multiFrame list entries => cases h

theorem failed_of_lastCode {error : ErrorCode}
    (h : (answers.filterMap Answer.code).getLast? = some error) : ∃ a ∈ answers, a.Failed := by
  obtain ⟨a,ha,hcode⟩ := List.mem_filterMap.mp (List.mem_of_getLast? h)
  exact ⟨a,ha,Answer.failed_of_code hcode⟩

theorem startWorker_same (w : Worker σ) :
    (d.startWorker w).ret = oviErrorNone ∧ (d.startWorker w).completed = w.completed ∧
      (d.startWorker w).logicAnalyzer = w.logicAnalyzer := by
  unfold DataFlow.startWorker DataFlow.invokeProgressCb
  split <;> exact ⟨rfl,rfl,rfl⟩

theorem worker_finish {fuel : Nat} (h : d.workerLoop fuel (d.startWorker w) = some (.ok w₁)) :
    ∃ w', d.worker fuel w = some (.ok w') ∧ w'.completed = w₁.completed ++ [w₁.ret] := by
  rw [DataFlow.worker,h]
  refine ⟨_,rfl,?_⟩
  unfold DataFlow.invokeProgressCb
  split <;> rfl

theorem LoopRun.completesOnce_iff (h : LoopRun d (d.startWorker w) answers result) :
    d.CompletesOnce w answers ↔ Orderly answers := by
  obtain ⟨n,hloop⟩ := h.workerLoop
  have hexplains := h.explains
  obtain ⟨hret,hcompleted,-⟩ := startWorker_same (d := d) w
  cases result with
  | error fault =>
    obtain ⟨a,ha,hnot⟩ := hexplains
    refine iff_of_false ?_ fun h => hnot (h.caught a ha)
    rintro ⟨code,⟨m,hcode⟩,-⟩
    obtain ⟨w',hw',-⟩ := hcode (n + m) (Nat.le_add_left _ _)
    rw [DataFlow.worker,workerLoop_mono hloop (Nat.le_add_right n m)] at hw'
    cases hw'
  | ok w₁ =>
    have hlast : w₁.ret = lastCode oviErrorNone answers := hret ▸ hexplains.ret
    have hdone : w₁.completed = w.completed := hexplains.completed.trans hcompleted
    constructor
    · rintro ⟨code,⟨m,hcode⟩,hfailed⟩
      refine ⟨hexplains.caught,fun hzero => ?_⟩
      obtain ⟨w',hw',hw'completed⟩ := hcode (n + m) (Nat.le_add_left _ _)
      obtain ⟨w'',hw'',hlist⟩ := worker_finish (workerLoop_mono hloop (Nat.le_add_right n m))
      cases hw'.symm.trans hw''
      rw [hw'completed,hdone] at hlist
      have hcode := List.singleton_inj.mp (List.append_cancel_left hlist)
      refine hfailed (failed_of_lastCode hzero) ?_
      rw [hcode,hlast,lastCode,hzero]
      rfl
    · intro horderly
      refine ⟨w₁.ret,⟨n,fun fuel hf => ?_⟩,fun hfailed => ?_⟩
      · obtain ⟨w',hw',hlist⟩ := worker_finish (workerLoop_mono hloop hf)
        exact ⟨w',hw',hdone ▸ hlist⟩
      · obtain ⟨error,hsome,hall⟩ := lastCode_of_failed horderly.caught hfailed
        rw [hlast,hall]
        exact fun hzero => horderly.coded (hzero ▸ hsome)

theorem worker_runs {request : List String} (hv : validateLogic d.pluginManager request = true)
    {A₀ : LogicAnalyzer} (hA₀ : LogicAnalyzer.make request = some A₀)
    (hA : Used A₀ w.logicAnalyzer) :
    ∃ answers result, LoopRun d (d.startWorker w) answers result := by
  obtain ⟨a,as,hshows,hall⟩ := make_sound hv hA₀
  have hstart : (d.startWorker w).logicAnalyzer.Shows (a :: as) := by
    rw [(startWorker_same w).2.2,LogicAnalyzer.Shows,hA.skeleton]
    exact hshows
  exact loopRun_exists d (fun x hx n hn uid hu => (hall x hx n hn uid hu).2) hstart

end Completes

end Ovi
