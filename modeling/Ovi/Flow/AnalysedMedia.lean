import Ovi.Flow.Completion

namespace Ovi

variable {σ : Type} {d : DataFlow σ} {m : Media} {r : LinkRequest}

def Memoryless (d : DataFlow σ) : Prop :=
  ∀ uid frame st st', (d.plugins.process uid frame st).1 = (d.plugins.process uid frame st').1

def DataFlow.answer (d : DataFlow σ) (frames : Frames) (st : σ) (uid : String) : Outcome :=
  match (d.processPlugin uid frames st).1 with
  | .ok outcome => outcome
  | .error _ => ⟨false,[]⟩

section Memoryless

theorem Memoryless.processOne (h : Memoryless d) (uid : String) (frame : FramePack) (st st' : σ) :
    (d.processOne uid frame st).1 = (d.processOne uid frame st').1 := by
  unfold DataFlow.processOne
  cases d.plugins.convert uid frame with
  | error e => rfl
  | ok frameConverted => exact h uid frameConverted st st'

theorem Memoryless.processAudio (h : Memoryless d) (uid : String) (aFrames : List FramePack)
    (result : Outcome) (st st' : σ) :
    (d.processAudio uid aFrames result st).1 = (d.processAudio uid aFrames result st').1 := by
  induction aFrames generalizing result st st' with
  | nil => rfl
  | cons frame aFrames ih =>
    have hone := h.processOne uid frame st st'
    rw [DataFlow.processAudio,DataFlow.processAudio]
    revert hone
    cases d.processOne uid frame st with | mk answer st₁ =>
    cases d.processOne uid frame st' with | mk answer' st₁' =>
    rintro rfl
    cases answer with
    | error e => rfl
    | ok outcome =>
      dsimp only
      split
      · rfl
      · exact ih outcome st₁ st₁'

theorem Memoryless.processPlugin (h : Memoryless d) (uid : String) (frames : Frames) (st st' : σ) :
    (d.processPlugin uid frames st).1 = (d.processPlugin uid frames st').1 := by
  unfold DataFlow.processPlugin
  cases d.pluginManager.find uid with
  | none => rfl
  | some plugin =>
    obtain ⟨type⟩ := plugin
    cases type with
    | videoDetect =>
      cases frames.1 with
      | none => rfl
      | some vFrame =>
        exact congrArg (Except.mapError Fault.raised) (h.processOne uid vFrame st st')
    | audioDetect =>
      exact congrArg (Except.mapError Fault.raised) (h.processAudio uid frames.2 ⟨true,[]⟩ st st')
    | _ => rfl

theorem answers_of_memoryless (h : Calm d) (hm : Memoryless d) (frames : Frames) (st : σ) :
    Answers d frames (d.answer frames st) := by
  constructor
  intro uid st' hu
  obtain ⟨outcome,st₁,hprocess,-⟩ := h.processPlugin hu frames st
  rw [hm.processPlugin uid frames st' st,DataFlow.answer,hprocess]

end Memoryless

section Frame

variable {frames : Frames} {outcome : String → Outcome} {w w' : Worker σ} {fuel : Nat}

theorem analyzer_of_frameLoop (ha : Answers d frames outcome) {A A' : LogicAnalyzer} {b : Bool}
    {uids : List String}
    (h : Emits (feedback (verdictOf outcome) d.pluginManager.isEffect) A b uids A')
    (hA : w.logicAnalyzer = A) (hc : Caches d.pluginManager.isEffect outcome w.outcomeCache b)
    (hu : ∀ uid ∈ uids, Handled d.pluginManager uid)
    (hloop : d.frameLoop frames fuel w = some (.ok (true,w'))) : w'.logicAnalyzer = A' := by
  induction h generalizing w fuel with
  | @eop A A' b hn =>
    subst hA
    cases fuel with
    | zero => cases hloop
    | succ fuel =>
      rw [cached_eop hc (run_of_frameLoop hloop) hn] at hloop
      cases hloop
      rfl
  | @next A A₁ A' b uid uids hn hne _ ih =>
    subst hA
    cases fuel with
    | zero => cases hloop
    | succ fuel =>
      have huid := hu uid List.mem_cons_self
      have hstep := hc.step (genuine_of_exist huid.exist).ne_empty
      obtain ⟨st,heq⟩ := cached_step ha (run_of_frameLoop hloop) hc hn hne huid
      rw [heq] at hloop
      exact ih rfl hstep (fun u hm => hu u (List.mem_cons_of_mem _ hm)) hloop

structure SameCodes (w w' : Worker σ) : Prop where
  ret : w'.ret = w.ret
  completed : w'.completed = w.completed

theorem handlePlugin_codes {uid : String} {plugin : Plugin}
    (h : d.handlePlugin w frames uid plugin = .ok (true,w')) : SameCodes w w' := by
  unfold DataFlow.handlePlugin at h
  split at h
  · cases h
    exact ⟨rfl,rfl⟩
  · split at h <;> cases h
    exact ⟨rfl,rfl⟩

theorem frameLoop_codes (h : d.frameLoop frames fuel w = some (.ok (true,w'))) :
    SameCodes w w' := by
  induction fuel generalizing w with
  | zero => cases h
  | succ fuel ih =>
    cases turn d frames w with
    | stopped heq =>
      rw [heq] at h
      cases h
    | fault heq =>
      rw [heq] at h
      cases h
    | eop heq =>
      rw [heq] at h
      cases h
      exact ⟨rfl,rfl⟩
    | hit heq =>
      rw [heq] at h
      have hrest := ih h
      exact ⟨hrest.ret,hrest.completed⟩
    | raised hp heq =>
      rw [heq] at h
      cases h
    | handled hp heq =>
      rw [heq] at h
      have hhandled := handlePlugin_codes hp
      have hrest := ih h
      exact ⟨hrest.ret.trans hhandled.ret,hrest.completed.trans hhandled.completed⟩

theorem reportFrame_codes (w : Worker σ) (frames : Frames) :
    SameCodes w (d.reportFrame w frames) :=
  ⟨(reportFrame_recorded w frames).ret,(reportFrame_recorded w frames).completed⟩

structure Judged (r : LinkRequest) (outcome : String → Outcome) (e : Bool × DetectedData) :
    Prop where
  included : e.1 = (visit (verdictOf outcome) false r.plan).2
  detected : DetectedSpec r outcome e.2

theorem Judged.value {e : Bool × DetectedData} (h : Judged r outcome e) :
    e.1 = r.value (verdictOf outcome) ↔ ¬VerdictOvershadowed (verdictOf outcome) r := by
  rw [h.included]
  exact visit_eq_value_iff

theorem frameLoop_judged (hr : DetectorRequest d.pluginManager r)
    (hd : (r.items.flatMap Term.effects).Nodup) (ha : Answers d frames outcome)
    (hA : w.logicAnalyzer.Shows r.plan) {s : AvSynchronizer}
    (hloop : d.frameLoop frames fuel (DataFlow.startFrame w s) = some (.ok (true,w'))) :
    Judged r outcome (w'.logicAnalyzer.included,w'.outcomeCache.detected) ∧
      w'.logicAnalyzer.Shows r.plan := by
  obtain ⟨A',hemits,hincluded,hskeleton⟩ := hr.emits hA (verdictOf outcome)
  have hhandled := hr.handled (verdictOf outcome)
  have hclear : Caches d.pluginManager.isEffect outcome
      (DataFlow.startFrame w s).outcomeCache true := caches_clear
  have hanalyzer := analyzer_of_frameLoop ha hemits rfl hclear hhandled hloop
  refine ⟨⟨hanalyzer ▸ hincluded,?_⟩,?_⟩
  · rw [cache_of_frameLoop ha hemits rfl hclear hhandled hloop]
    exact detectedSpec_of_visit hr hd
  · rw [LogicAnalyzer.Shows,hanalyzer,hskeleton]
    exact hA

end Frame

section Run

variable {outcome : Nat → String → Outcome} {w w' : Worker σ} {fuel : Nat}
  {groups : List (Bool × DetectedData)}

structure Judging (d : DataFlow σ) (m : Media) (r : LinkRequest)
    (outcome : Nat → String → Outcome) (w : Worker σ) (groups : List (Bool × DetectedData)) :
    Prop where
  reading : w.avSynchronizer = (m.reading d.groupSize groups.length).synchronizer
  covered : Covered d m w groups
  shows : w.logicAnalyzer.Shows r.plan
  judged : ∀ k e, groups[k]? = some e → Judged r (outcome k) e

theorem judged_concat {e : Bool × DetectedData}
    (h : ∀ k e, groups[k]? = some e → Judged r (outcome k) e)
    (he : Judged r (outcome groups.length) e) :
    ∀ k e', (groups ++ [e])[k]? = some e' → Judged r (outcome k) e' := by
  intro k e' hk
  rcases Nat.lt_or_ge k groups.length with hlt | hge
  · rw [List.getElem?_append_left hlt] at hk
    exact h k e' hk
  · rw [List.getElem?_append_right hge,List.getElem?_singleton] at hk
    split at hk
    · obtain rfl := Option.some.inj hk
      obtain rfl : k = groups.length := by omega
      exact he
    · cases hk

theorem workerLoop_judged (h : Calm d) (hrun : ∀ n, d.run n = true)
    (hr : DetectorRequest d.pluginManager r) (hd : (r.items.flatMap Term.effects).Nodup)
    (ha : ∀ k < m.video.length / d.groupSize, Answers d (m.group d.groupSize k) (outcome k))
    (hj : Judging d m r outcome w groups) (hloop : d.workerLoop fuel w = some (.ok w')) :
    ∃ groups', groups'.length = m.video.length / d.groupSize ∧
      w'.accumulator.rawdata = recorded d.groupSize groups' ∧
      (∀ k e, groups'[k]? = some e → Judged r (outcome k) e) ∧ SameCodes w w' := by
  induction fuel generalizing w groups with
  | zero => cases hloop
  | succ fuel ih =>
    have hread := reading_decoding d m hj.covered.length_le
    rw [workerLoop_group hrun hj.reading] at hloop
    rcases hread.groupRead hj.covered.length_le with ⟨hnone,hend⟩ | ⟨vFrame,aFrames,hread⟩
    · simp only [hnone,Option.isNone_none,List.isEmpty_nil,Bool.and_self,if_true] at hloop
      cases hloop
      rcases hend with hzero | hlt
      · refine ⟨[],by rw [hzero,Nat.div_zero]; rfl,?_,fun k e he => (by cases he),⟨rfl,rfl⟩⟩
        have hraw := hj.covered.rawdata
        rw [hzero,recorded_zero] at hraw ⊢
        exact hraw
      · exact ⟨groups,(Nat.div_eq_of_lt_le hj.covered.length_le hlt).symm,hj.covered.rawdata,
          hj.judged,⟨rfl,rfl⟩⟩
    · have hanswers := ha groups.length ((Nat.le_div_iff_mul_le hread.pos).mpr hread.length_le)
      rw [Media.group,hread.frames] at hanswers
      simp only [hread.frames,Option.isNone_some,Bool.false_and,Bool.false_eq_true,
        if_false] at hloop
      split at hloop
      · cases hloop
      · cases hloop
      · rename_i eop w₁ hframe
        obtain ⟨rfl,hsingle⟩ := frameLoop_done h hrun SingleFrame.clear hframe
        rw [if_pos rfl,endFrame_single hsingle] at hloop
        have hstreams := frameLoop_streams hframe
        obtain ⟨hjudged,hshows⟩ := frameLoop_judged (w := { w with loads := w.loads + 1 }) hr hd
          hanswers
          hj.shows hframe
        have hnext := hj.covered.next hread hstreams
        have hcodes := frameLoop_codes hframe
        have hreport := reportFrame_codes (d := d)
          { w₁ with accumulator := d.appendResult w₁ (some vFrame,aFrames) } (some vFrame,aFrames)
        have hreading : (d.reportFrame { w₁ with
            accumulator := d.appendResult w₁ (some vFrame,aFrames) }
            (some vFrame,aFrames)).avSynchronizer =
              (m.reading d.groupSize (groups.length + 1)).synchronizer := by
          rw [(reportFrame_streams _ _).avSynchronizer]
          exact hstreams.avSynchronizer
        have hplan : (d.reportFrame { w₁ with
            accumulator := d.appendResult w₁ (some vFrame,aFrames) }
            (some vFrame,aFrames)).logicAnalyzer.Shows r.plan := by
          rw [reportFrame_analyzer]
          exact hshows
        obtain ⟨groups',hlength,hraw,hall,hsame⟩ := ih ⟨by rw [List.length_append]; exact hreading,
          hnext,hplan,judged_concat hj.judged hjudged⟩ hloop
        exact ⟨groups',hlength,hraw,hall,hsame.ret.trans (hreport.ret.trans hcodes.ret),
          hsame.completed.trans (hreport.completed.trans hcodes.completed)⟩

structure Analysed (d : DataFlow σ) (m : Media) (r : LinkRequest)
    (outcome : Nat → String → Outcome) (w : Worker σ) : Prop where
  completed : w.completed = [oviErrorNone]
  recorded : ∃ groups, groups.length = m.video.length / d.groupSize ∧
    w.accumulator.rawdata = recorded d.groupSize groups ∧
    ∀ k e, groups[k]? = some e → Judged r (outcome k) e

theorem judging_start {A : LogicAnalyzer} (hA : A.Shows r.plan) (st : σ) :
    Judging d m r outcome
      (d.startWorker (Worker.initial A (AvSynchronizer.make m.extractor) st)) [] := by
  refine ⟨?_,covered_initial d m A st,startWorker_shows hA _ st,fun k e he => (by cases he)⟩
  rw [DataFlow.startWorker,(invokeProgressCb_streams _ _).avSynchronizer]
  rfl

theorem plan_handled (hr : DetectorRequest d.pluginManager r) :
    ∀ a ∈ r.plan, a.All (Handled d.pluginManager) := by
  intro a ha n hn uid huid
  obtain ⟨t,ht,rfl⟩ := plan_node ha hn
  rcases List.mem_cons.mp huid with rfl | he
  · exact .inl (hr.detectors t ht)
  · exact .inr (hr.effects t ht uid he)

theorem judged_by_itself (h : Calm d) (hrun : ∀ n, d.run n = true)
    (hr : DetectorRequest d.pluginManager r) (hd : (r.items.flatMap Term.effects).Nodup)
    (ha : ∀ k < m.video.length / d.groupSize, Answers d (m.group d.groupSize k) (outcome k))
    {A : LogicAnalyzer} (hA : A.Shows r.plan) (st : σ) : ∃ n, ∀ fuel ≥ n, ∃ w,
      d.worker fuel (Worker.initial A (AvSynchronizer.make m.extractor) st) = some (.ok w) ∧
        Analysed d m r outcome w := by
  obtain ⟨-,a,as,hplan,-,-⟩ := plans r
  have hhandled := plan_handled hr
  have hstart : (d.startWorker (Worker.initial A (AvSynchronizer.make m.extractor)
      st)).logicAnalyzer.Shows r.plan := startWorker_shows hA _ st
  rw [hplan] at hhandled hstart
  refine ⟨(Cursor.start a as).size + m.video.length + 1,fun fuel hf => ?_⟩
  obtain ⟨w,hloop⟩ : ∃ w, d.workerLoop fuel (d.startWorker
      (Worker.initial A (AvSynchronizer.make m.extractor) st)) = some (.ok w) :=
    workerLoop_finishes h hrun hhandled (covered_initial d m A st) hstart
      (by simp only [List.length_nil]; omega)
  obtain ⟨w',hworker,hdone⟩ := worker_finish hloop
  obtain ⟨groups,hlength,hraw,hall,hcodes⟩ :=
    workerLoop_judged h hrun hr hd ha (judging_start hA st) hloop
  obtain ⟨hret,hcompleted,-⟩ := @startWorker_same _ d
    (Worker.initial A (AvSynchronizer.make m.extractor) st)
  refine ⟨w',hworker,?_,groups,hlength,?_,hall⟩
  · rw [hdone,hcodes.completed,hcompleted,hcodes.ret,hret]
    rfl
  · rw [DataFlow.worker,hloop] at hworker
    cases hworker
    rw [(invokeProgressCb_streams _ _).accumulator]
    exact hraw

theorem analysis_judged (h : Calm d) (hm : Memoryless d) (hrun : ∀ n, d.run n = true)
    (hr : DetectorRequest d.pluginManager r) (hd : (r.items.flatMap Term.effects).Nodup)
    (m : Media) (st : σ) :
    ∃ A₀, LogicAnalyzer.make r.tokens = some A₀ ∧ ∀ A, Used A₀ A → ∃ n, ∀ fuel ≥ n, ∃ w,
      d.worker fuel (Worker.initial A (AvSynchronizer.make m.extractor) st) = some (.ok w) ∧
        Analysed d m r (fun k => d.answer (m.group d.groupSize k) st) w := by
  obtain ⟨A₀,hmake,hshows⟩ := make_shows hr.uids
  refine ⟨A₀,hmake,fun A hused => ?_⟩
  have hA : A.Shows r.plan := by
    rw [LogicAnalyzer.Shows,hused.skeleton]
    exact hshows
  exact judged_by_itself h hrun hr hd (fun k _ => answers_of_memoryless h hm _ st) hA st

end Run

section Sample

def blinking : DataFlow Unit := { sampleFlow with
  plugins := ⟨fun _ frame => .ok frame,
    fun _ frame st => (.ok ⟨frame.frameNum % 2 == 1,[]⟩,st)⟩ }

theorem blinking_calm : Calm blinking :=
  ⟨fun _ frame st _ => ⟨⟨frame.frameNum % 2 == 1,[]⟩,st,rfl,rfl⟩⟩

theorem blinking_memoryless : Memoryless blinking := fun _ _ _ _ => rfl

def threeFrames : Media := ⟨false,[⟨1,0,3⟩,⟨2,1,3⟩,⟨3,2,3⟩],[],rfl,by decide⟩

theorem analysis_judged_blinking :
    ∃ A₀, LogicAnalyzer.make faceOrAudioMarked.tokens = some A₀ ∧ ∀ A, Used A₀ A →
      ∃ n, ∀ fuel ≥ n, ∃ w,
        blinking.worker fuel (Worker.initial A (AvSynchronizer.make threeFrames.extractor) ()) =
          some (.ok w) ∧
        Analysed blinking threeFrames faceOrAudioMarked
          (fun k => blinking.answer (threeFrames.group blinking.groupSize k) ()) w :=
  analysis_judged blinking_calm blinking_memoryless (fun _ => rfl) faceOrAudioMarked_request
    (by decide) threeFrames ()

end Sample

end Ovi
