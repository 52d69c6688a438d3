import Ovi.Flow.Attachment
import Ovi.Flow.Calls
import Ovi.Logic.Encounters
import Ovi.Session.Start

namespace Ovi

structure StartedRun (c : StartConfig) (info : MediaInfo) (A₀ : LogicAnalyzer) {σ : Type}
    (d : DataFlow σ) (w : Worker σ) : Prop where
  pluginManager : d.pluginManager = c.plugins.toPluginManager
  skipFrames : info.hasVideo = false → d.skipFrames = 0
  logicAnalyzer : Used A₀ w.logicAnalyzer
  extractor : ∃ e, e.hasVideo = info.hasVideo ∧ e.hasAudio = info.hasAudio ∧
    w.avSynchronizer = AvSynchronizer.make e

def DispatchesDetectors (c : StartConfig) (info : MediaInfo) (A₀ : LogicAnalyzer) : Prop :=
  ∀ (σ : Type) (d : DataFlow σ) (w : Worker σ), StartedRun c info A₀ d w →
    ∀ answers result, LoopRun d (d.startWorker w) answers result →
      ∀ uid answer, .process uid answer ∈ answers → c.plugins.isDetect uid = true

section Sound

structure Remembered (detect : String → Bool) (cache : OutcomeCache) (current : Option String) :
    Prop where
  detectors : ∀ uid o, cache.storage[uid]? = some o → detect uid = true
  fresh : current = none → cache.resultUid = ""
  stored : ∀ uid, current = some uid → ∃ o, cache.Current uid o

def Recalls (v : String → Bool) (cache : OutcomeCache) : Prop :=
  ∀ uid o, cache.storage[uid]? = some o → v uid = o.detect

variable {σ : Type} {d : DataFlow σ} {frames : Frames} {w w₁ : Worker σ} {detect : String → Bool}
  {v : String → Bool} {cache : OutcomeCache} {current : Option String} {uid : String}
  {answers : List Answer}

theorem remembered_clear : Remembered detect .clear none := by
  refine ⟨fun uid o h => ?_,fun _ => rfl,fun uid h => by cases h⟩
  simp [OutcomeCache.clear] at h

theorem Remembered.result (h : Remembered detect cache current) : cache.result.2 = cache ∧
    (Recalls v cache → held v current = cache.result.1.detect) := by
  cases current with
  | none =>
    have hempty : cache.empty = true := by simp [OutcomeCache.empty,h.fresh rfl]
    rw [OutcomeCache.result,if_pos hempty]
    exact ⟨rfl,fun _ => rfl⟩
  | some uid =>
    obtain ⟨o,ho⟩ := h.stored uid rfl
    rw [ho.result]
    exact ⟨rfl,fun hv => hv uid o ho.stored⟩

theorem Remembered.hit (h : Remembered detect cache current) (hu : uid ≠ "")
    (hhit : cache.hit uid = true) : detect uid = true ∧
      Remembered detect (cache.setResultUid uid) (some uid) := by
  obtain ⟨o,ho⟩ := OutcomeCache.hit_iff.mp hhit
  refine ⟨h.detectors uid o ho,h.detectors,nofun,?_⟩
  rintro _ ⟨⟩
  exact ⟨o,OutcomeCache.current_setResultUid ho hu⟩

theorem Remembered.write (h : Remembered detect cache current) (hu : uid ≠ "")
    (hd : detect uid = true) (o : Outcome) :
    Remembered detect (cache.write uid o) (some uid) := by
  refine ⟨fun uid' o' ho' => ?_,nofun,?_⟩
  · rw [OutcomeCache.storage_write] at ho'
    split at ho'
    · rename_i heq
      exact heq ▸ hd
    · exact h.detectors uid' o' ho'
  · rintro _ ⟨⟩
    exact ⟨o,OutcomeCache.current_write hu⟩

theorem Remembered.setDetected (h : Remembered detect cache current) (uid : String) :
    Remembered detect (cache.setDetected uid) current ∧
      (cache.setDetected uid).storage = cache.storage := by
  have hcache := (h.result (v := fun _ => true)).1
  rw [OutcomeCache.setDetected,hcache]
  refine ⟨⟨h.detectors,h.fresh,fun uid' hsome => ?_⟩,rfl⟩
  obtain ⟨o,ho⟩ := h.stored uid' hsome
  exact ⟨o,ho.resultUid,ho.stored,ho.genuine⟩

theorem recalls_of_write (hmissed : cache.hit uid = false) {o : Outcome}
    (h : Recalls v (cache.write uid o)) : Recalls v cache := by
  intro uid' o' ho'
  refine h uid' o' ?_
  rw [OutcomeCache.storage_write,if_neg]
  · exact ho'
  · rintro rfl
    rw [OutcomeCache.hit_iff.mpr ⟨o',ho'⟩] at hmissed
    cases hmissed

theorem evaluate_detector {pm : PluginManager} (h : pm.isDetect uid = true) :
    evaluate pm.isEffect pm.isDetect current uid = some (some uid) := by
  rw [evaluate,if_neg (by rw [not_isEffect_of_isDetect h]; exact Bool.false_ne_true),if_pos h]

theorem called_of_mem {x : String} {plugin : Plugin} {answer : Except Fault Outcome}
    (h : .process uid answer ∈ d.called w frames x plugin) :
    isEffectType plugin = false ∧ uid = x := by
  rw [DataFlow.called] at h
  split at h
  · cases h
  · rename_i he
    cases List.mem_singleton.mp h
    exact ⟨Bool.eq_false_iff.mpr he,rfl⟩

variable (current) in
theorem evaluate_of_called {x : String} {plugin : Plugin} {answer : Except Fault Outcome}
    (hf : d.pluginManager.find x = some plugin)
    (hmem : .process uid answer ∈ d.called w frames x plugin)
    (hnot : d.pluginManager.isDetect uid = false) : uid = x ∧
      evaluate d.pluginManager.isEffect d.pluginManager.isDetect current uid = none := by
  obtain ⟨he,rfl⟩ := called_of_mem hmem
  rw [evaluate_eq_none]
  refine ⟨rfl,?_⟩
  rintro (heffect | hd)
  · rw [isEffect_of_find hf,he] at heffect
    cases heffect
  · rw [hnot] at hd
    cases hd

theorem Remembered.handled {x : String} {plugin : Plugin} {A : LogicAnalyzer}
    (h : Remembered d.pluginManager.isDetect w.outcomeCache current)
    (hcall : Calling d w x A plugin) (hx : x ≠ "")
    (hp : d.handlePlugin (w.advance A) frames x plugin = .ok (true,w₁)) :
    ∃ next, evaluate d.pluginManager.isEffect d.pluginManager.isDetect current x = some next ∧
      Remembered d.pluginManager.isDetect w₁.outcomeCache next ∧
      ∀ v, Recalls v w₁.outcomeCache → Recalls v w.outcomeCache := by
  have hcache := (h.result (v := fun _ => true)).1
  have hadvance : (w.advance A).outcomeCache = w.outcomeCache := hcache
  have hmissed := hcall.missed
  rw [hcache] at hmissed
  rw [DataFlow.handlePlugin,hadvance] at hp
  split at hp
  · rename_i he
    cases hp
    obtain ⟨hset,hstorage⟩ := h.setDetected x
    refine ⟨current,?_,hset,fun v hv => ?_⟩
    · rw [evaluate,if_pos ((isEffect_of_find hcall.found).trans he)]
    · rw [Recalls,hstorage] at hv
      exact hv
  · rename_i he
    cases hd : isDetectType plugin with
    | false =>
      rw [processPlugin_undefined hcall.found hd] at hp
      cases hp
    | true =>
      have hdetect : d.pluginManager.isDetect x = true := by
        rw [PluginManager.isDetect,hcall.found]
        exact hd
      split at hp
      · cases hp
        exact ⟨some x,evaluate_detector hdetect,h.write hx hdetect _,
          fun v hv => recalls_of_write hmissed hv⟩
      · cases hp
      · cases hp

theorem Remembered.meets_here {x : String} {plugin : Plugin} {A : LogicAnalyzer} {c : Cursor}
    (h : Remembered d.pluginManager.isDetect w.outcomeCache current)
    (hcall : Calling d w x A plugin) (hat : At w.logicAnalyzer c)
    (hc : c.All (fun uid => d.pluginManager.exist uid = true))
    {answer : Except Fault Outcome} (hmem : .process uid answer ∈ d.called w frames x plugin)
    (hnot : d.pluginManager.isDetect uid = false) : ∃ v, Recalls v w.outcomeCache ∧
      Meets v d.pluginManager.isEffect d.pluginManager.isDetect c current uid := by
  obtain ⟨rfl,hnone⟩ := evaluate_of_called current hcall.found hmem hnot
  obtain ⟨c',hs,-⟩ := hat.named (hc.imp fun _ hu => genuine_of_exist hu) hcall.named hcall.genuine
  let v := fun x : String => (w.outcomeCache.storage[x]?).all Outcome.detect
  have hv : Recalls v w.outcomeCache := by
    intro x o ho
    simp [v,ho]
  rw [← h.result.2 hv] at hs
  exact ⟨v,hv,.here hs hnone⟩

theorem FrameRun.meets {result : Except Fault (Bool × Worker σ)}
    (h : FrameRun d frames w answers result) {c : Cursor} (hat : At w.logicAnalyzer c)
    (hc : c.All (fun uid => d.pluginManager.exist uid = true))
    (hcache : Remembered d.pluginManager.isDetect w.outcomeCache current)
    {answer : Except Fault Outcome} (hmem : .process uid answer ∈ answers)
    (hnot : d.pluginManager.isDetect uid = false) : ∃ v, Recalls v w.outcomeCache ∧
      Meets v d.pluginManager.isEffect d.pluginManager.isDetect c current uid := by
  induction h generalizing c current with
  | stopped _ => cases hmem
  | eop _ _ => cases hmem
  | @hit w x A answers result _ hn hne hhit _ ih =>
    obtain ⟨c',hs,hat'⟩ := hat.named (hc.imp fun _ hu => genuine_of_exist hu) hn hne
    obtain ⟨hx,hc'⟩ := Cursor.all_step hs hc
    obtain ⟨heq,-⟩ := hcache.result (v := fun _ => true)
    rw [heq] at hhit ih
    obtain ⟨hdetect,hkept⟩ := hcache.hit (genuine_of_exist hx).ne_empty hhit
    obtain ⟨v,hv,hmeets⟩ := ih hat' hc' hkept hmem
    have hheld := hcache.result.2 hv
    rw [← hheld] at hs
    exact ⟨v,hv,.next hs (evaluate_detector hdetect) hmeets⟩
  | @handled w w₁ x A plugin answers result hcall hp _ ih =>
    obtain ⟨c',hs,hat'⟩ := hat.named (hc.imp fun _ hu => genuine_of_exist hu) hcall.named
      hcall.genuine
    obtain ⟨hx,hc'⟩ := Cursor.all_step hs hc
    obtain ⟨next,hnext,hkept,hrecalls⟩ :=
      hcache.handled hcall (genuine_of_exist hx).ne_empty hp
    have hat₁ : At w₁.logicAnalyzer c' := by
      rw [handlePlugin_analyzer hp]
      exact hat'
    rcases List.mem_append.mp hmem with hmem | hmem
    · obtain ⟨rfl,hnone⟩ := evaluate_of_called current hcall.found hmem hnot
      rw [hnext] at hnone
      cases hnone
    · obtain ⟨v,hv,hmeets⟩ := ih hat₁ hc' hkept hmem
      have hheld := hcache.result.2 (hrecalls v hv)
      rw [← hheld] at hs
      exact ⟨v,hrecalls v hv,.next hs hnext hmeets⟩
  | raised hcall _ =>
    exact hcache.meets_here hcall hat hc hmem hnot
  | fault hcall _ =>
    exact hcache.meets_here hcall hat hc hmem hnot

theorem LoopRun.detectors {result : Except Fault (Worker σ)} (h : LoopRun d w answers result)
    {a : Alternative} {as : List Alternative}
    (hall : ∀ x ∈ a :: as, x.All (fun uid => d.pluginManager.exist uid = true))
    (hshows : w.logicAnalyzer.Shows (a :: as))
    (hno : ∀ v uid, ¬ Meets v d.pluginManager.isEffect d.pluginManager.isDetect
      (Cursor.start a as) none uid) {answer : Except Fault Outcome}
    (hmem : .process uid answer ∈ answers) : d.pluginManager.isDetect uid = true := by
  have hframe : ∀ {w : Worker σ} {frames : Frames} {s : AvSynchronizer} {answers : List Answer}
      {result : Except Fault (Bool × Worker σ)}, w.logicAnalyzer.Shows (a :: as) →
      FrameRun d frames (w.opened s) answers result → .process uid answer ∈ answers →
      d.pluginManager.isDetect uid = true := by
    intro w frames s answers result hshows hframe hmem
    by_contra hnot
    obtain ⟨v,-,hmeets⟩ := hframe.meets (reset_at hshows) (Cursor.start_all hall)
      remembered_clear hmem (Bool.eq_false_iff.mpr hnot)
    exact hno v uid hmeets
  have hending : ∀ w : Worker σ, .process uid answer ∉ w.ending := by
    intro w hw
    rw [Worker.ending] at hw
    split at hw
    · cases List.mem_singleton.mp hw
    · cases hw
  induction h with
  | stopped _ => cases hmem
  | raised _ _ => cases List.mem_singleton.mp hmem
  | escaped _ _ => cases List.mem_singleton.mp hmem
  | finished _ _ _ => cases hmem
  | fault _ hrun => exact hframe hshows hrun hmem
  | endFault _ hrun _ =>
    have hmem := (List.mem_append.mp hmem).resolve_right (hending _)
    exact hframe hshows hrun hmem
  | @group w w₁ w₂ frames s eop answers answers' result _ hrun hend _ ih =>
    rcases List.mem_append.mp hmem with hmem | hmem
    · have hmem := (List.mem_append.mp hmem).resolve_right (by
        cases eop with
        | true => exact hending w₁
        | false => exact List.not_mem_nil)
      exact hframe hshows hrun hmem
    · refine ih ?_ hmem
      rw [LogicAnalyzer.Shows,group_skeleton hrun hend]
      exact hshows

end Sound

section Complete

variable {σ : Type} {d : DataFlow σ} {frames : Frames} {w : Worker σ} {outcome : String → Outcome}
  {c : Cursor} {current : Option String} {uid : String}

theorem undefined_of_meets (ha : Answers d frames outcome) (hrun : ∀ n, d.run n = true)
    (h : Meets (verdictOf outcome) d.pluginManager.isEffect d.pluginManager.isDetect c current uid)
    (hw : Walking d outcome c current w) : ∃ answers,
      FrameRun d frames w answers (.error .undefined) ∧
        .process uid (.error .undefined) ∈ answers := by
  induction h generalizing w with
  | @here c c' current uid hs he =>
    obtain ⟨A,plugin,-,hload,hn,hne,hf⟩ := hw.calling hrun hs
    obtain ⟨heffect,hdetect⟩ := not_or.mp (evaluate_eq_none.mp he)
    rw [isEffect_of_find hf] at heffect
    have hmissed : w.outcomeCache.hit uid = false := by
      by_contra hhit
      obtain ⟨o,ho⟩ := OutcomeCache.hit_iff.mp (by simpa using hhit)
      exact hdetect (hw.holding.detectors uid o ho)
    rw [PluginManager.isDetect,hf] at hdetect
    have hp : ∀ st, d.processPlugin uid frames st = (.error .undefined,st) :=
      processPlugin_undefined hf (Bool.eq_false_iff.mpr hdetect)
    refine ⟨_,.fault ⟨hload,hn,hne,hw.cache.symm ▸ hmissed,hf⟩ ?_,?_⟩
    · rw [DataFlow.handlePlugin,if_neg heffect,hp]
    · rw [DataFlow.called,if_neg heffect,hp]
      exact List.mem_singleton_self _
  | next hs he _ ih =>
    obtain ⟨w₁,hstep,hw₁⟩ := hw.exists_step ha hrun hs he
    obtain ⟨answers,hframe,hmem⟩ := ih hw₁
    cases hstep with
    | hit hload hn hne hhit => exact ⟨_,.hit hload hn hne hhit hframe,hmem⟩
    | handled hcall hp => exact ⟨_,.handled hcall hp hframe,List.mem_append_right _ hmem⟩

end Complete

section Media

variable {c : StartConfig} {info : MediaInfo}

def MediaInfo.frames (info : MediaInfo) : Frames :=
  (if info.hasVideo then some ⟨0,0,1⟩ else none,if info.hasAudio then [⟨0,1,1⟩] else [])

def MediaInfo.extractor (info : MediaInfo) : FrameExtractor :=
  ⟨info.hasVideo,info.hasAudio,info.frames.1.toList.map .ok,info.frames.2.map .ok⟩

theorem MediaInfo.reads (h : info.hasVideo = true ∨ info.hasAudio = true) :
    (∃ s, DataFlow.readGroup 1 (AvSynchronizer.make info.extractor) (none,[]) =
      .ok (info.frames,s)) ∧ (info.frames.1.isNone && info.frames.2.isEmpty) = false := by
  obtain ⟨hasVideo,hasAudio⟩ := info
  cases hasVideo with
  | true => cases hasAudio <;> exact ⟨⟨_,rfl⟩,rfl⟩
  | false =>
    cases hasAudio with
    | true => exact ⟨⟨_,rfl⟩,rfl⟩
    | false => exact absurd h (by decide)

-- `PluginManager::validate` has found a stream for every detector
theorem StartConfig.supplies (hmedia : c.frameExtractor c.mediaPath = .ok info)
    (hstart : c.prepare = .ok ()) : Supplies c.plugins.toPluginManager info.frames := by
  have htype : ∀ uid plugin, c.plugins.find uid = some plugin →
      c.plugins.validateType info uid = .ok () := by
    intro uid plugin hf
    have huid : uid ∈ c.plugins.uids := by
      rw [SessionPlugins.uids,Std.TreeMap.mem_keys,← Std.TreeMap.isSome_getElem?_iff_mem]
      exact Option.isSome_of_eq_some hf
    have hmem : StartCheck.type uid ∈ c.checks := by
      simp [StartConfig.checks,StartConfig.pluginChecks,huid]
    cases hrun : c.plugins.validateType info uid with
    | ok u => rfl
    | error fault =>
      have hcheck : StartCheck.run c (.type uid) = .error fault := by
        rw [StartCheck.run,hmedia]
        exact hrun
      have hfails := Checks.forM_fails_iff.mpr ⟨_,hmem,fault,hcheck⟩
      rw [← c.prepare_eq_forM,hstart] at hfails
      obtain ⟨e,he⟩ := hfails
      cases he
  constructor
  · intro uid hf
    have h := htype uid _ hf
    rw [SessionPlugins.validateType,hf] at h
    cases hv : info.hasVideo with
    | true => simp [MediaInfo.frames,hv]
    | false => simp [hv] at h
  · intro uid hf
    have h := htype uid _ hf
    rw [SessionPlugins.validateType,hf] at h
    cases ha : info.hasAudio with
    | true => simp [MediaInfo.frames,ha]
    | false => simp [ha] at h

end Media

section Dispatch

variable {c : StartConfig} {request : List String} {info : MediaInfo} {A₀ : LogicAnalyzer}
  {a : Alternative} {as : List Alternative}

theorem not_dispatches_of_meets (hmedia : c.frameExtractor c.mediaPath = .ok info)
    (hstreams : info.hasVideo = true ∨ info.hasAudio = true) (hstart : c.prepare = .ok ())
    (hshows : A₀.Shows (a :: as))
    (hall : ∀ x ∈ a :: as, x.All (fun uid => c.plugins.exist uid = true)) {b : Bool} {uid : String}
    (h : Meets (fun _ => b) c.plugins.isEffect c.plugins.isDetect (Cursor.start a as) none uid) :
    ¬ DispatchesDetectors c info A₀ := by
  intro hdispatches
  let outcome : String → Outcome := fun _ => ⟨b,[]⟩
  let d := steadyFlow c.plugins.toPluginManager outcome
  let w := Worker.initial A₀ (AvSynchronizer.make info.extractor) ()
  obtain ⟨⟨s,hread⟩,hframes⟩ := info.reads hstreams
  have hopens : Opens d (d.startWorker w) info.frames s := ⟨rfl,hread,hframes⟩
  have hwalking : Walking d outcome (Cursor.start a as) none ((d.startWorker w).opened s) :=
    ⟨reset_at hshows,Cursor.start_all hall,holding_clear⟩
  obtain ⟨answers,hframe,hmem⟩ := undefined_of_meets
    (steadyFlow_answers (c.supplies hmedia hstart) outcome) (fun _ => rfl) h hwalking
  have hrun : StartedRun c info A₀ d w := ⟨rfl,fun _ => rfl,.made,info.extractor,rfl,rfl,rfl⟩
  have hdetect := hdispatches Unit d w hrun _ _ (.fault hopens hframe) uid _ hmem
  exact h.not_evaluable (.inr hdetect)

theorem dispatches_of_not_meets (hmake : LogicAnalyzer.make request = some A₀)
    (hv : validateLogic c.plugins.toPluginManager request = true) (hshows : A₀.Shows (a :: as))
    (hall : ∀ x ∈ a :: as, x.All (fun uid => c.plugins.exist uid = true))
    (hno : ∀ b uid, ¬ Meets (fun _ => b) c.plugins.isEffect c.plugins.isDetect
      (Cursor.start a as) none uid) : DispatchesDetectors c info A₀ := by
  intro σ d w hrun answers result hloop uid answer hmem
  have hplan := regular_of_shows hv hmake hshows
  have hanalyzer : (d.startWorker w).logicAnalyzer.Shows (a :: as) := by
    rw [(startWorker_same w).2.2,LogicAnalyzer.Shows,hrun.logicAnalyzer.skeleton]
    exact hshows
  rw [← hrun.pluginManager] at hall ⊢
  refine hloop.detectors hall hanalyzer ?_ hmem
  intro v x hmeets
  rw [hrun.pluginManager] at hmeets
  obtain ⟨b,y,hy⟩ := meets_constant hplan hmeets
  exact hno b y hy

theorem dispatches_iff (hexpression : c.expression = some request)
    (hmake : LogicAnalyzer.make request = some A₀)
    (hmedia : c.frameExtractor c.mediaPath = .ok info)
    (hstreams : info.hasVideo = true ∨ info.hasAudio = true) (hstart : c.prepare = .ok ()) :
    ∃ a as, A₀.Shows (a :: as) ∧ (DispatchesDetectors c info A₀ ↔
      ∀ b uid, ¬ Meets (fun _ => b) c.plugins.isEffect c.plugins.isDetect (Cursor.start a as)
        none uid) := by
  have hv := c.accepted request hexpression
  obtain ⟨a,as,hshows,hloaded⟩ := make_sound hv hmake
  have hall : ∀ x ∈ a :: as, x.All (fun uid => c.plugins.exist uid = true) :=
    fun x hx n hn uid hu => (hloaded x hx n hn uid hu).2
  refine ⟨a,as,hshows,?_,dispatches_of_not_meets hmake hv hshows hall⟩
  intro hdispatches b uid hmeets
  exact not_dispatches_of_meets hmedia hstreams hstart hshows hall hmeets hdispatches

end Dispatch

section Sample

def faceAndRender : SessionPlugins where
  toPluginManager := (PluginManager.empty.load 0 "FaceDetect" ⟨.videoDetect⟩).load 1
    "FFmpegRender" ⟨.render⟩
  data := fun _ => ⟨.rect,∅,fun _ => .error .other⟩
  validateEffectAttrs := fun _ _ => .ok ()
  setAttrs := fun _ _ => .ok ()

def renderConfig : StartConfig where
  plugins := faceAndRender
  expression := some ["FFmpegRender.2"]
  mediaPath := "input.mp4"
  renderUid := "FFmpegRender.2"
  outputFilePath := "output.mp4"
  frameExtractor := fun _ => .ok ⟨true,false⟩
  thread := .ok ()
  accepted := by
    intro request h
    obtain rfl := Option.some_inj.mp h
    decide
  render := fun _ => by decide

def renderAnalyzer : LogicAnalyzer where
  expression := ["FFmpegRender.2"]
  nodes := [PluginNode.make "FFmpegRender.2" true]
  pipelines := [⟨[0],0,false⟩]
  pos := 0
  included := false

theorem dispatches_iff_renderConfig : ∃ a as, renderAnalyzer.Shows (a :: as) ∧
    (DispatchesDetectors renderConfig ⟨true,false⟩ renderAnalyzer ↔
      ∀ b uid, ¬ Meets (fun _ => b) faceAndRender.isEffect faceAndRender.isDetect
        (Cursor.start a as) none uid) :=
  dispatches_iff (c := renderConfig) rfl (by decide) rfl (.inl rfl) rfl

theorem renderConfig_undefined : renderConfig.prepare = .ok () ∧
    LogicAnalyzer.make ["FFmpegRender.2"] = some renderAnalyzer ∧
    ¬ DispatchesDetectors renderConfig ⟨true,false⟩ renderAnalyzer := by
  refine ⟨rfl,by decide,?_⟩
  have hshows : renderAnalyzer.Shows [⟨false,⟨"FFmpegRender.2",[],true⟩,[]⟩] :=
    .cons ⟨.cons rfl .nil,List.nodup_singleton 0,rfl⟩ .nil
  have hmeets : Meets (fun _ => true) faceAndRender.isEffect faceAndRender.isDetect
      (Cursor.start ⟨false,⟨"FFmpegRender.2",[],true⟩,[]⟩ []) none "FFmpegRender.2" :=
    .here rfl (by decide)
  refine not_dispatches_of_meets (c := renderConfig) rfl (.inl rfl) rfl hshows ?_ hmeets
  intro x hx n hn uid hu
  obtain rfl := List.mem_singleton.mp hx
  obtain rfl := List.mem_singleton.mp hn
  obtain rfl := List.mem_singleton.mp hu
  decide

end Sample

end Ovi
