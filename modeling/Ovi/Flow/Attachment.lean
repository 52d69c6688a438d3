import Ovi.Flow.Completion
import Ovi.Logic.Attachments

namespace Ovi

variable {σ : Type} {d : DataFlow σ} {frames : Frames} {w w₁ : Worker σ}

inductive FrameStep (d : DataFlow σ) (frames : Frames) (w : Worker σ) : Worker σ → Prop
  | hit {uid : String} {A : LogicAnalyzer} (hrun : d.run w.loads = true)
    (hn : w.logicAnalyzer.nextPlugin w.outcomeCache.result.1.detect = some (uid,A))
    (hne : uid ≠ oviEop) (hhit : w.outcomeCache.result.2.hit uid = true) :
    FrameStep d frames w { w.advance A with
      outcomeCache := w.outcomeCache.result.2.setResultUid uid }
  | handled {w₁ : Worker σ} {uid : String} {A : LogicAnalyzer} {plugin : Plugin}
    (h : Calling d w uid A plugin)
    (hp : d.handlePlugin (w.advance A) frames uid plugin = .ok (true,w₁)) :
    FrameStep d frames w w₁

-- `setDetected` is called for the effect while `result` is the outcome of the detector
structure SetsDetected (d : DataFlow σ) (w : Worker σ) (detector effect : String) : Prop where
  called : ∃ A plugin, Calling d w effect A plugin ∧ isEffectType plugin = true
  current : ∃ outcome, w.outcomeCache.Current detector outcome

def FrameAttaches (d : DataFlow σ) (frames : Frames) (w : Worker σ) (detector effect : String) :
    Prop :=
  ∃ w', Relation.ReflTransGen (FrameStep d frames) w w' ∧ SetsDetected d w' detector effect

def CanAttach (pm : PluginManager) (request : List String) (detector effect : String) : Prop :=
  ∃ (σ : Type) (d : DataFlow σ) (frames : Frames) (outcome : String → Outcome) (w : Worker σ)
    (s : AvSynchronizer) (A₀ : LogicAnalyzer),
    d.pluginManager = pm ∧ Answers d frames outcome ∧ LogicAnalyzer.make request = some A₀ ∧
      Used A₀ w.logicAnalyzer ∧ FrameAttaches d frames (DataFlow.startFrame w s) detector effect

section Cache

variable {effect detect : String → Bool} {outcome : String → Outcome} {c : OutcomeCache}
  {current next : Option String} {uid : String}

structure Holding (effect detect : String → Bool) (outcome : String → Outcome) (c : OutcomeCache)
    (current : Option String) : Prop where
  caches : Caches effect outcome c (held (verdictOf outcome) current)
  detectors : ∀ uid o, c.storage[uid]? = some o → detect uid = true
  detector : ∀ uid, (∃ o, c.Current uid o) ↔ current = some uid

theorem holding_clear : Holding effect detect outcome .clear none := by
  refine ⟨caches_clear,fun uid o h => ?_,fun uid => iff_of_false ?_ (by simp)⟩
  · simp [OutcomeCache.clear] at h
  · rintro ⟨o,h⟩
    have hs := h.stored
    simp [OutcomeCache.clear] at hs

theorem Holding.step (h : Holding effect detect outcome c current) (hu : uid ≠ "")
    (he : evaluate effect detect current uid = some next) :
    Holding effect detect outcome (cacheStep effect outcome c uid) next := by
  have hcaches := h.caches.step hu
  rw [evaluate] at he
  cases heffect : effect uid with
  | true =>
    rw [heffect,if_pos rfl] at he
    obtain rfl := Option.some_inj.mp he
    have hfeed : feedback (verdictOf outcome) effect (held (verdictOf outcome) current) uid =
        held (verdictOf outcome) current := if_pos heffect
    rw [hfeed] at hcaches
    obtain ⟨o,ho,-⟩ := h.caches.current
    have hset := (h.caches.step_effect heffect).trans (OutcomeCache.setDetected_eq ho uid)
    rw [hset] at hcaches ⊢
    refine ⟨hcaches,h.detectors,fun uid' => ?_⟩
    rw [← h.detector uid']
    constructor
    · rintro ⟨o,hc⟩
      exact ⟨o,hc.resultUid,hc.stored,hc.genuine⟩
    · rintro ⟨o,hc⟩
      exact ⟨o,hc.resultUid,hc.stored,hc.genuine⟩
  | false =>
    rw [heffect,if_neg Bool.false_ne_true] at he
    split at he
    · rename_i hdetect
      obtain rfl := Option.some_inj.mp he
      have hfeed : feedback (verdictOf outcome) effect (held (verdictOf outcome) current) uid =
          held (verdictOf outcome) (some uid) :=
        if_neg (by rw [heffect]; exact Bool.false_ne_true)
      rw [hfeed] at hcaches
      have hcurrent := h.caches.current_step hu heffect
      refine ⟨hcaches,fun uid' o hs => ?_,fun uid' => ?_⟩
      · unfold cacheStep at hs
        split at hs
        · exact h.detectors uid' o hs
        · rw [heffect,if_neg Bool.false_ne_true,OutcomeCache.storage_write] at hs
          split at hs
          · rename_i heq
            exact heq ▸ hdetect
          · exact h.detectors uid' o hs
      · constructor
        · rintro ⟨o,hc⟩
          exact congrArg some (hcurrent.resultUid.symm.trans hc.resultUid)
        · intro heq
          obtain rfl := Option.some_inj.mp heq
          exact ⟨_,hcurrent⟩
    · cases he

end Cache

section Steps

variable {outcome : String → Outcome} {c c' : Cursor} {current next : Option String}
  {uid detector effect : String}

structure Walking (d : DataFlow σ) (outcome : String → Outcome) (c : Cursor)
    (current : Option String) (w : Worker σ) : Prop where
  at_cursor : At w.logicAnalyzer c
  loaded : c.All (fun uid => d.pluginManager.exist uid = true)
  holding : Holding d.pluginManager.isEffect d.pluginManager.isDetect outcome w.outcomeCache current

theorem Walking.genuine (h : Walking d outcome c current w) : c.All Genuine :=
  h.loaded.imp fun _ hu => genuine_of_exist hu

theorem Walking.cache (h : Walking d outcome c current w) :
    w.outcomeCache.result.2 = w.outcomeCache :=
  congrArg Worker.outcomeCache (h.holding.caches.advance w.logicAnalyzer)

theorem Walking.named (h : Walking d outcome c current w) {A : LogicAnalyzer}
    (hn : w.logicAnalyzer.nextPlugin w.outcomeCache.result.1.detect = some (uid,A))
    (hne : uid ≠ oviEop) : ∃ c', c.step (held (verdictOf outcome) current) = some (uid,c') ∧
      At A c' := by
  rw [h.holding.caches.detect] at hn
  exact h.at_cursor.named h.genuine hn hne

theorem evaluate_of_handled {pm : PluginManager} (current : Option String)
    (h : Handled pm uid) : ∃ next, evaluate pm.isEffect pm.isDetect current uid = some next := by
  rw [evaluate]
  cases he : pm.isEffect uid with
  | true => exact ⟨current,rfl⟩
  | false =>
    rw [if_neg Bool.false_ne_true,if_pos (h.resolve_right (by rw [he]; exact Bool.false_ne_true))]
    exact ⟨some uid,rfl⟩

theorem handled_of_evaluate {pm : PluginManager}
    (h : evaluate pm.isEffect pm.isDetect current uid = some next) : Handled pm uid := by
  rw [evaluate] at h
  split at h
  · rename_i he
    exact .inr he
  · split at h
    · rename_i hd
      exact .inl hd
    · cases h

theorem handled_of_go {plugin : Plugin} (hf : d.pluginManager.find uid = some plugin)
    (hp : d.handlePlugin w frames uid plugin = .ok (true,w₁)) : Handled d.pluginManager uid := by
  rw [DataFlow.handlePlugin] at hp
  split at hp
  · rename_i he
    exact .inr ((isEffect_of_find hf).trans he)
  · rename_i he
    left
    rw [PluginManager.isDetect,hf]
    by_contra hd
    rw [processPlugin_undefined hf (Bool.eq_false_iff.mpr hd)] at hp
    cases hp

theorem Walking.step (ha : Answers d frames outcome) (h : Walking d outcome c current w)
    (hs : FrameStep d frames w w₁) : ∃ uid c' next,
      c.step (held (verdictOf outcome) current) = some (uid,c') ∧
      evaluate d.pluginManager.isEffect d.pluginManager.isDetect current uid = some next ∧
      Walking d outcome c' next w₁ := by
  cases hs with
  | @hit uid A hrun hn hne hhit =>
    obtain ⟨c',hstep,hat⟩ := h.named hn hne
    obtain ⟨hu,hc'⟩ := Cursor.all_step hstep h.loaded
    rw [h.cache] at hhit ⊢
    obtain ⟨o,ho⟩ := OutcomeCache.hit_iff.mp hhit
    obtain ⟨next,hnext⟩ := evaluate_of_handled current (.inl (h.holding.detectors uid o ho))
    have hholding := h.holding.step (genuine_of_exist hu).ne_empty hnext
    rw [cacheStep,if_pos hhit] at hholding
    exact ⟨uid,c',next,hstep,hnext,hat,hc',hholding⟩
  | @handled _ uid A plugin hcall hp =>
    obtain ⟨c',hstep,hat⟩ := h.named hcall.named hcall.genuine
    obtain ⟨hu,hc'⟩ := Cursor.all_step hstep h.loaded
    have hmissed := hcall.missed
    have hhandled := handled_of_go hcall.found hp
    obtain ⟨next,hnext⟩ := evaluate_of_handled current hhandled
    rw [h.cache] at hmissed
    rw [h.holding.caches.advance] at hp
    obtain ⟨st,hst⟩ := handlePlugin_step
      (w := { w with loads := w.loads + 1, logicAnalyzer := A }) ha h.holding.caches hmissed
      hhandled hcall.found
    cases hst.symm.trans hp
    exact ⟨uid,c',next,hstep,hnext,hat,hc',
      h.holding.step (genuine_of_exist hu).ne_empty hnext⟩

theorem Walking.calling (h : Walking d outcome c current w) (hrun : ∀ n, d.run n = true)
    (hs : c.step (held (verdictOf outcome) current) = some (uid,c')) : ∃ A plugin, At A c' ∧
      d.run w.loads = true ∧
      w.logicAnalyzer.nextPlugin w.outcomeCache.result.1.detect = some (uid,A) ∧
      uid ≠ oviEop ∧ d.pluginManager.find uid = some plugin := by
  obtain ⟨A,hn,-,hat⟩ := h.at_cursor.steps h.genuine hs
  obtain ⟨hu,-⟩ := Cursor.all_step hs h.loaded
  obtain ⟨plugin,hf⟩ := exists_find_of_exist hu
  exact ⟨A,plugin,hat,hrun _,h.holding.caches.detect ▸ hn,(genuine_of_exist hu).ne_eop,hf⟩

theorem Walking.exists_step (ha : Answers d frames outcome) (h : Walking d outcome c current w)
    (hrun : ∀ n, d.run n = true)
    (hs : c.step (held (verdictOf outcome) current) = some (uid,c'))
    (he : evaluate d.pluginManager.isEffect d.pluginManager.isDetect current uid = some next) :
    ∃ w₁, FrameStep d frames w w₁ ∧ Walking d outcome c' next w₁ := by
  obtain ⟨A,plugin,hat,hload,hn,hne,hf⟩ := h.calling hrun hs
  obtain ⟨hu,hc'⟩ := Cursor.all_step hs h.loaded
  have hholding := h.holding.step (genuine_of_exist hu).ne_empty he
  cases hhit : w.outcomeCache.hit uid with
  | true =>
    refine ⟨_,.hit hload hn hne (h.cache.symm ▸ hhit),hat,hc',?_⟩
    rw [cacheStep,if_pos hhit] at hholding
    rw [h.cache]
    exact hholding
  | false =>
    obtain ⟨st,hst⟩ := handlePlugin_step
      (w := { w with loads := w.loads + 1, logicAnalyzer := A }) ha h.holding.caches hhit
      (handled_of_evaluate he) hf
    have hp := (congrArg (d.handlePlugin · frames uid plugin) (h.holding.caches.advance A)).trans
      hst
    exact ⟨_,.handled ⟨hload,hn,hne,h.cache.symm ▸ hhit,hf⟩ hp,hat,hc',hholding⟩

theorem attaches_of_frame (ha : Answers d frames outcome) (h : Walking d outcome c current w)
    (hw : FrameAttaches d frames w detector effect) :
    Attaches (verdictOf outcome) d.pluginManager.isEffect d.pluginManager.isDetect c current
      detector effect := by
  obtain ⟨w',hreach,hsets⟩ := hw
  induction hreach using Relation.ReflTransGen.head_induction_on generalizing c current with
  | refl =>
    obtain ⟨A,plugin,hcall,he⟩ := hsets.called
    obtain ⟨c',hs,-⟩ := h.named hcall.named hcall.genuine
    obtain rfl := (h.holding.detector detector).mp hsets.current
    exact .here hs ((isEffect_of_find hcall.found).trans he)
  | head hstep _ ih =>
    obtain ⟨uid,c',next,hs,he,hnext⟩ := h.step ha hstep
    exact .next hs he (ih hnext)

theorem frame_of_attaches (ha : Answers d frames outcome) (hrun : ∀ n, d.run n = true)
    (h : Attaches (verdictOf outcome) d.pluginManager.isEffect d.pluginManager.isDetect c current
      detector effect) (hw : Walking d outcome c current w) :
    FrameAttaches d frames w detector effect := by
  induction h generalizing w with
  | @here c c' detector uid hs he =>
    obtain ⟨A,plugin,-,hload,hn,hne,hf⟩ := hw.calling hrun hs
    have hmissed := hw.holding.caches.not_hit he
    refine ⟨w,.refl,⟨A,plugin,⟨hload,hn,hne,hw.cache.symm ▸ hmissed,hf⟩,?_⟩,
      (hw.holding.detector detector).mpr rfl⟩
    exact (isEffect_of_find hf).symm.trans he
  | next hs he _ ih =>
    obtain ⟨w₁,hstep,hw₁⟩ := hw.exists_step ha hrun hs he
    obtain ⟨w',hreach,hsets⟩ := ih hw₁
    exact ⟨w',.head hstep hreach,hsets⟩

end Steps

section Request

def steadyFlow (pm : PluginManager) (outcome : String → Outcome) : DataFlow Unit where
  pluginManager := pm
  plugins := ⟨fun _ frame => .ok frame,fun uid _ st => (.ok (outcome uid),st)⟩
  skipFrames := 0
  progressCallback := false
  run := fun _ => true

structure Supplies (pm : PluginManager) (frames : Frames) : Prop where
  video : ∀ uid, pm.find uid = some ⟨.videoDetect⟩ → frames.1.isSome = true
  audio : ∀ uid, pm.find uid = some ⟨.audioDetect⟩ → frames.2 ≠ []

theorem steadyFlow_audio (pm : PluginManager) (outcome : String → Outcome) (uid : String)
    (frame : FramePack) (aFrames : List FramePack) (result : Outcome) (st : Unit) :
    (steadyFlow pm outcome).processAudio uid (frame :: aFrames) result st =
      (.ok (outcome uid),st) := by
  induction aFrames generalizing frame result with
  | nil =>
    rw [DataFlow.processAudio]
    change (if (outcome uid).detect = true then (Except.ok (outcome uid),st)
      else DataFlow.processAudio _ uid [] (outcome uid) st) = _
    split <;> rfl
  | cons next aFrames ih =>
    rw [DataFlow.processAudio]
    change (if (outcome uid).detect = true then (Except.ok (outcome uid),st)
      else DataFlow.processAudio _ uid (next :: aFrames) (outcome uid) st) = _
    split
    · rfl
    · exact ih next (outcome uid)

theorem steadyFlow_answers {pm : PluginManager} {frames : Frames} (h : Supplies pm frames)
    (outcome : String → Outcome) : Answers (steadyFlow pm outcome) frames outcome := by
  constructor
  intro uid st hu
  obtain ⟨plugin,hf,hd⟩ := exists_find_of_isDetect hu
  rw [DataFlow.processPlugin,hf]
  obtain ⟨type⟩ := plugin
  cases type with
  | videoDetect =>
    obtain ⟨vFrame,hv⟩ := Option.isSome_iff_exists.mp (h.video uid hf)
    rw [hv]
    rfl
  | audioDetect =>
    obtain ⟨frame,aFrames,ha⟩ := List.exists_cons_of_ne_nil (h.audio uid hf)
    dsimp only
    rw [ha,steadyFlow_audio]
    rfl
  | _ => cases hd

def oneOfEach : Frames := (some ⟨1,0,1⟩,[⟨1,0,1⟩])

theorem oneOfEach_supplies (pm : PluginManager) : Supplies pm oneOfEach :=
  ⟨fun _ _ => rfl,fun _ _ => nofun⟩

variable {pm : PluginManager} {r : LinkRequest} {detector effect : String}

structure PlainRequest (pm : PluginManager) (r : LinkRequest) : Prop where
  terms : ∀ t ∈ r.items, t.WellFormed pm
  cut : ∀ t ∈ r.items, t.uncut = false

theorem PlainRequest.plain (h : PlainRequest pm r) :
    ∀ a ∈ r.plan, ∀ n ∈ a.nodes, n.Plain pm.isEffect := by
  intro a ha n hn
  obtain ⟨t,ht,rfl⟩ := plan_node ha hn
  exact ⟨by simp [Term.plan,h.cut t ht],(h.terms t ht).effects_loaded⟩

theorem walking_start {σ : Type} {d : DataFlow σ} (h : PlainRequest d.pluginManager r)
    {a : Alternative} {as : List Alternative} (hplan : r.plan = a :: as)
    (outcome : String → Outcome) {w : Worker σ} (hshows : w.logicAnalyzer.Shows r.plan)
    (s : AvSynchronizer) :
    Walking d outcome (Cursor.start a as) none (DataFlow.startFrame w s) :=
  ⟨reset_at (hplan ▸ hshows),Cursor.start_all (hplan ▸ LinkRequest.loaded h.terms),
    holding_clear⟩

theorem canAttach_iff (h : PlainRequest pm r) : CanAttach pm r.tokens detector effect ↔
    ∃ v, (detector,effect) ∈ attachments v pm.isEffect pm.isDetect r.plan := by
  obtain ⟨-,a,as,hplan,-,-⟩ := plans r
  have hplain := h.plain
  rw [hplan] at hplain ⊢
  obtain ⟨A,hmake,hshows⟩ := make_shows fun t ht => (h.terms t ht).uids
  constructor
  · rintro ⟨σ,d,frames,outcome,w,s,A₀,rfl,ha,hmake',hused,hframe⟩
    obtain rfl := Option.some.inj (hmake.symm.trans hmake')
    have hw : w.logicAnalyzer.Shows r.plan := by
      rw [LogicAnalyzer.Shows,hused.skeleton]
      exact hshows
    have hattaches := attaches_of_frame ha (walking_start h hplan outcome hw s) hframe
    exact ⟨verdictOf outcome,(attaches_start hplain).mp hattaches⟩
  · rintro ⟨v,hv⟩
    let outcome : String → Outcome := fun uid => ⟨v uid,[]⟩
    let s : AvSynchronizer := AvSynchronizer.make ⟨true,true,[],[]⟩
    have hanswers := steadyFlow_answers (oneOfEach_supplies pm) outcome
    have hverdict : verdictOf outcome = v := rfl
    have hattaches : Attaches (verdictOf outcome) pm.isEffect pm.isDetect (Cursor.start a as) none
        detector effect := (attaches_start hplain).mpr (hverdict ▸ hv)
    have hwalking : Walking (steadyFlow pm outcome) outcome (Cursor.start a as) none
        (DataFlow.startFrame (Worker.initial A s ()) s) :=
      walking_start h hplan outcome hshows s
    exact ⟨Unit,steadyFlow pm outcome,oneOfEach,outcome,Worker.initial A s (),s,A,rfl,
      hanswers,hmake,.made,frame_of_attaches hanswers (fun _ => rfl) hattaches hwalking⟩

end Request

end Ovi
