import Ovi.Flow.Trace

namespace Ovi

structure Plain (σ : Type) where
  logicAnalyzer : LogicAnalyzer
  plugins : σ
  loads : Nat
  result : Outcome
  detected : DetectedData

variable {σ : Type}

namespace Plain

def next (p : Plain σ) (A : LogicAnalyzer) : Plain σ :=
  { p with logicAnalyzer := A, loads := p.loads + 1 }

def start (w : Worker σ) : Plain σ where
  logicAnalyzer := w.logicAnalyzer.reset
  plugins := w.plugins
  loads := w.loads
  result := defaultOutcome
  detected := ∅

end Plain

abbrev PlainResult (σ : Type) := List Named × Except Fault (Bool × Plain σ)

def PlainResult.name (named : Named) (result : PlainResult σ) : PlainResult σ :=
  (named :: result.1,result.2)

def DataFlow.plainLoop (d : DataFlow σ) (frames : Frames) :
    Nat → Plain σ → Option (PlainResult σ)
  | 0, _ => none
  | fuel + 1, p =>
    if !d.run p.loads then some ([],.ok (false,{ p with loads := p.loads + 1 }))
    else
      match p.logicAnalyzer.nextPlugin p.result.detect with
      | none => some ([],.error .undefined)
      | some (uid,A) =>
        let named : Named := ⟨uid,A.included⟩
        let p := p.next A
        if uid == oviEop then some ([named],.ok (true,p))
        else
          match d.pluginManager.find uid with
          | none => some ([named],.error (.raised (.ovi oviErrorInvalidParameter)))
          | some plugin =>
            if isEffectType plugin then
              (plainLoop d frames fuel { p with
                detected := p.detected.insert uid p.result.list }).map (PlainResult.name named)
            else
              match d.processPlugin uid frames p.plugins with
              | (.ok outcome,st) =>
                (plainLoop d frames fuel { p with plugins := st, result := outcome }).map
                  (PlainResult.name named)
              | (.error (.raised (.ovi _)),st) =>
                some ([named],.ok (false,{ p with plugins := st }))
              | (.error fault,_) => some ([named],.error fault)

inductive Agrees : Except Fault (Bool × Worker σ) → Except Fault (Bool × Plain σ) → Prop
  | ok {eop : Bool} {w : Worker σ} {p : Plain σ} (hA : p.logicAnalyzer = w.logicAnalyzer)
    (hdetected : p.detected = w.outcomeCache.detected) : Agrees (.ok (eop,w)) (.ok (eop,p))
  | fault {fault : Fault} : Agrees (.error fault) (.error fault)

structure Mirrors (d : DataFlow σ) (outcome : String → Outcome) (w : Worker σ) (p : Plain σ) :
    Prop where
  logicAnalyzer : p.logicAnalyzer = w.logicAnalyzer
  loads : p.loads = w.loads
  result : w.outcomeCache.result = (p.result,w.outcomeCache)
  detected : p.detected = w.outcomeCache.detected
  stored : ∀ uid o, w.outcomeCache.storage[uid]? = some o →
    d.pluginManager.isDetect uid = true ∧ o = outcome uid

section PlainTurns

variable {d : DataFlow σ} {frames : Frames} {p : Plain σ} {uid : String} {A : LogicAnalyzer}
  {plugin : Plugin} {outcome : Outcome} {st : σ} {r : PlainResult σ}

theorem plainLoop_stopped (hrun : d.run p.loads = false) (fuel : Nat) :
    d.plainLoop frames (fuel + 1) p =
      some ([],.ok (false,{ p with loads := p.loads + 1 })) := by
  rw [DataFlow.plainLoop]
  simp [hrun]

theorem plainLoop_eop (hrun : d.run p.loads = true)
    (hn : p.logicAnalyzer.nextPlugin p.result.detect = some (oviEop,A)) (fuel : Nat) :
    d.plainLoop frames (fuel + 1) p =
      some ([⟨oviEop,A.included⟩],.ok (true,p.next A)) := by
  rw [DataFlow.plainLoop]
  simp [hrun,hn]

theorem plainLoop_effect (hrun : d.run p.loads = true)
    (hn : p.logicAnalyzer.nextPlugin p.result.detect = some (uid,A)) (hne : uid ≠ oviEop)
    (hf : d.pluginManager.find uid = some plugin) (he : isEffectType plugin = true) (fuel : Nat) :
    d.plainLoop frames (fuel + 1) p = (d.plainLoop frames fuel { p.next A with
      detected := p.detected.insert uid p.result.list }).map
        (PlainResult.name ⟨uid,A.included⟩) := by
  rw [DataFlow.plainLoop]
  simp [hrun,hn,hne,hf,he,Plain.next]

theorem plainLoop_process (hrun : d.run p.loads = true)
    (hn : p.logicAnalyzer.nextPlugin p.result.detect = some (uid,A)) (hne : uid ≠ oviEop)
    (hf : d.pluginManager.find uid = some plugin) (he : isEffectType plugin = false)
    (hp : d.processPlugin uid frames p.plugins = (.ok outcome,st)) (fuel : Nat) :
    d.plainLoop frames (fuel + 1) p = (d.plainLoop frames fuel { p.next A with
      plugins := st, result := outcome }).map (PlainResult.name ⟨uid,A.included⟩) := by
  rw [DataFlow.plainLoop]
  simp [hrun,hn,hne,hf,he,hp,Plain.next]

theorem plainLoop_undefined (hrun : d.run p.loads = true)
    (hn : p.logicAnalyzer.nextPlugin p.result.detect = some (uid,A)) (hne : uid ≠ oviEop)
    (hf : d.pluginManager.find uid = some plugin) (he : isEffectType plugin = false)
    (hp : d.processPlugin uid frames p.plugins = (.error .undefined,st)) (fuel : Nat) :
    d.plainLoop frames (fuel + 1) p = some ([⟨uid,A.included⟩],.error .undefined) := by
  rw [DataFlow.plainLoop]
  simp [hrun,hn,hne,hf,he,hp,Plain.next]

def DataFlow.Settles (d : DataFlow σ) (frames : Frames) (p : Plain σ) (r : PlainResult σ) :
    Prop := ∃ n, ∀ fuel ≥ n, d.plainLoop frames fuel p = some r

theorem settles_now (h : ∀ fuel, d.plainLoop frames (fuel + 1) p = some r) :
    d.Settles frames p r := by
  refine ⟨1,fun fuel hf => ?_⟩
  obtain ⟨fuel,rfl⟩ : ∃ k, fuel = k + 1 := ⟨fuel - 1,by omega⟩
  exact h fuel

theorem settles_next {p' : Plain σ} {named : Named}
    (h : ∀ fuel, d.plainLoop frames (fuel + 1) p =
      (d.plainLoop frames fuel p').map (PlainResult.name named))
    (hr : d.Settles frames p' r) : d.Settles frames p (r.name named) := by
  obtain ⟨n,hr⟩ := hr
  refine ⟨n + 1,fun fuel hf => ?_⟩
  obtain ⟨fuel,rfl⟩ : ∃ k, fuel = k + 1 := ⟨fuel - 1,by omega⟩
  rw [h,hr fuel (Nat.le_of_succ_le_succ hf)]
  rfl

end PlainTurns

section Simulation

variable {d : DataFlow σ} {frames : Frames} {outcome : String → Outcome} {w w₁ : Worker σ}
  {p : Plain σ} {uid : String} {A : LogicAnalyzer} {plugin : Plugin}

theorem Mirrors.running (h : Mirrors d outcome w p) {b : Bool} (hrun : d.run w.loads = b) :
    d.run p.loads = b := by
  rw [h.loads]
  exact hrun

theorem Mirrors.named (h : Mirrors d outcome w p)
    (hn : w.logicAnalyzer.nextPlugin w.outcomeCache.result.1.detect = some (uid,A)) :
    p.logicAnalyzer.nextPlugin p.result.detect = some (uid,A) := by
  rw [h.result] at hn
  rw [h.logicAnalyzer]
  exact hn

theorem Mirrors.cache (h : Mirrors d outcome w p) :
    w.outcomeCache.result.2 = w.outcomeCache := by rw [h.result]

theorem Mirrors.hit (h : Mirrors d outcome w p)
    (hhit : w.outcomeCache.result.2.hit uid = true) (A : LogicAnalyzer) (st : σ) :
    d.pluginManager.isDetect uid = true ∧ Mirrors d outcome
      { w.advance A with outcomeCache := w.outcomeCache.result.2.setResultUid uid }
      { p.next A with plugins := st, result := outcome uid } := by
  rw [h.cache] at hhit ⊢
  obtain ⟨o,ho⟩ := OutcomeCache.hit_iff.mp hhit
  obtain ⟨hd,rfl⟩ := h.stored uid o ho
  obtain ⟨plugin,hf,-⟩ := exists_find_of_isDetect hd
  have hcurrent := OutcomeCache.current_setResultUid ho (ne_empty_of_find hf)
  exact ⟨hd,⟨rfl,congrArg (· + 1) h.loads,hcurrent.result,h.detected,h.stored⟩⟩

theorem Mirrors.effect (h : Mirrors d outcome w p) (he : isEffectType plugin = true)
    (hp : d.handlePlugin (w.advance A) frames uid plugin = .ok (true,w₁)) :
    Mirrors d outcome w₁ { p.next A with detected := p.detected.insert uid p.result.list } := by
  rw [DataFlow.handlePlugin,if_pos he] at hp
  cases hp
  have hset : (w.advance A).outcomeCache.setDetected uid = { w.outcomeCache with
      detected := w.outcomeCache.detected.insert uid p.result.list } := by
    have hadvance : (w.advance A).outcomeCache = w.outcomeCache := h.cache
    rw [hadvance,OutcomeCache.setDetected_eq h.result]
  refine ⟨rfl,congrArg (· + 1) h.loads,?_,?_,?_⟩
  · dsimp only
    rw [hset]
    exact OutcomeCache.result_detected h.result _
  · dsimp only
    rw [hset,h.detected]
  · dsimp only
    rw [hset]
    exact h.stored

theorem processPlugin_cases (ha : Answers d frames outcome)
    (hf : d.pluginManager.find uid = some plugin) :
    (isDetectType plugin = true ∧
      ∀ st, ∃ st', d.processPlugin uid frames st = (.ok (outcome uid),st')) ∨
        ∀ st : σ, d.processPlugin uid frames st = (.error .undefined,st) := by
  cases hd : isDetectType plugin with
  | false => exact .inr (processPlugin_undefined hf hd)
  | true =>
    have hdetect : d.pluginManager.isDetect uid = true := by
      rw [PluginManager.isDetect,hf]
      exact hd
    exact .inl ⟨rfl,processPlugin_of_answers ha hdetect⟩

theorem Mirrors.process (h : Mirrors d outcome w p) (ha : Answers d frames outcome)
    (hf : d.pluginManager.find uid = some plugin) (he : isEffectType plugin = false)
    (hp : d.handlePlugin (w.advance A) frames uid plugin = .ok (true,w₁)) (st : σ) :
    (∃ st', d.processPlugin uid frames p.plugins = (.ok (outcome uid),st')) ∧
      Mirrors d outcome w₁ { p.next A with plugins := st, result := outcome uid } := by
  rcases processPlugin_cases ha hf with ⟨hd,hall⟩ | hundefined
  · refine ⟨hall p.plugins,?_⟩
    obtain ⟨st',hst⟩ := hall (w.advance A).plugins
    rw [DataFlow.handlePlugin,he,if_neg Bool.false_ne_true,hst] at hp
    cases hp
    have hadvance : (w.advance A).outcomeCache = w.outcomeCache := h.cache
    have hcurrent : (w.outcomeCache.write uid (outcome uid)).Current uid (outcome uid) :=
      OutcomeCache.current_write (ne_empty_of_find hf)
    refine ⟨rfl,congrArg (· + 1) h.loads,?_,?_,?_⟩
    · dsimp only
      rw [hadvance]
      exact hcurrent.result
    · dsimp only
      rw [hadvance]
      exact h.detected
    · intro x o ho
      dsimp only at ho
      rw [hadvance,OutcomeCache.storage_write] at ho
      split at ho
      · rename_i heq
        subst heq
        refine ⟨?_,(Option.some_inj.mp ho).symm⟩
        rw [PluginManager.isDetect,hf]
        exact hd
      · exact h.stored x o ho
  · rw [DataFlow.handlePlugin,he,if_neg Bool.false_ne_true,hundefined] at hp
    cases hp

theorem Mirrors.ended (h : Mirrors d outcome w p) (ha : Answers d frames outcome)
    (hcall : Calling d w uid A plugin) {result : Except Fault (Bool × Worker σ)}
    (hp : d.handlePlugin (w.advance A) frames uid plugin = result)
    (hr : ∀ w₁, result ≠ .ok (true,w₁)) : result = .error .undefined ∧
      d.Settles frames p ([⟨uid,A.included⟩],.error .undefined) := by
  rw [DataFlow.handlePlugin] at hp
  cases he : isEffectType plugin with
  | true =>
    rw [he,if_pos rfl] at hp
    exact absurd hp.symm (hr _)
  | false =>
    rw [he,if_neg Bool.false_ne_true] at hp
    rcases processPlugin_cases ha hcall.found with ⟨-,hall⟩ | hundefined
    · obtain ⟨st',hst⟩ := hall (w.advance A).plugins
      rw [hst] at hp
      exact absurd hp.symm (hr _)
    · rw [hundefined] at hp
      refine ⟨hp.symm,settles_now fun fuel => ?_⟩
      exact plainLoop_undefined (h.running hcall.running) (h.named hcall.named) hcall.genuine
        hcall.found he (hundefined p.plugins) fuel

theorem FrameTrace.plain {named : List Named} {processed : List String}
    {result : Except Fault (Bool × Worker σ)} (ha : Answers d frames outcome)
    (h : FrameTrace d frames w named processed result) (hm : Mirrors d outcome w p) :
    ∃ result', d.Settles frames p (named,result') ∧ Agrees result result' := by
  induction h generalizing p with
  | stopped hrun =>
    exact ⟨_,settles_now (plainLoop_stopped (hm.running hrun)),.ok hm.logicAnalyzer hm.detected⟩
  | eop hrun hn =>
    refine ⟨_,settles_now (plainLoop_eop (hm.running hrun) (hm.named hn)),.ok rfl ?_⟩
    have hadvance := congrArg OutcomeCache.detected hm.cache
    exact hm.detected.trans hadvance.symm
  | @hit w uid A named processed result hrun hn hne hhit _ ih =>
    obtain ⟨hd,-⟩ := hm.hit hhit A p.plugins
    obtain ⟨plugin,hf,hdetect⟩ := exists_find_of_isDetect hd
    obtain ⟨st,hst⟩ := processPlugin_of_answers ha hd p.plugins
    obtain ⟨result',hsettles,hagrees⟩ := ih (hm.hit hhit A st).2
    refine ⟨result',settles_next (fun fuel => ?_) hsettles,hagrees⟩
    have he : isEffectType plugin = false := by
      rw [← isEffect_of_find hf]
      exact not_isEffect_of_isDetect hd
    exact plainLoop_process (hm.running hrun) (hm.named hn) hne hf he hst fuel
  | @handled w w₁ uid A plugin named processed result hcall hp _ ih =>
    have hrun := hm.running hcall.running
    have hn := hm.named hcall.named
    cases he : isEffectType plugin with
    | true =>
      obtain ⟨result',hsettles,hagrees⟩ := ih (hm.effect he hp)
      exact ⟨result',settles_next (plainLoop_effect hrun hn hcall.genuine hcall.found he) hsettles,
        hagrees⟩
    | false =>
      obtain ⟨⟨st,hst⟩,-⟩ := hm.process ha hcall.found he hp p.plugins
      obtain ⟨result',hsettles,hagrees⟩ := ih (hm.process ha hcall.found he hp st).2
      exact ⟨result',
        settles_next (plainLoop_process hrun hn hcall.genuine hcall.found he hst) hsettles,hagrees⟩
  | raised hcall hp =>
    have hended := hm.ended ha hcall hp (fun _ hresult => by cases hresult)
    cases hended.1
  | fault hcall hp =>
    obtain ⟨heq,hsettles⟩ := hm.ended ha hcall hp (fun _ hresult => by cases hresult)
    cases heq
    exact ⟨_,hsettles,.fault⟩

end Simulation

section Request

variable {d : DataFlow σ} {frames : Frames} {outcome : String → Outcome} {r : LinkRequest}

structure CachedAsPlain (d : DataFlow σ) (frames : Frames) (w : Worker σ) (s : AvSynchronizer) :
    Prop where
  ends : ∃ named processed result,
    FrameTrace d frames (DataFlow.startFrame w s) named processed result
  loop : ∀ named processed result,
    FrameTrace d frames (DataFlow.startFrame w s) named processed result →
      ∃ n, ∀ fuel ≥ n, d.frameLoop frames fuel (DataFlow.startFrame w s) = some result
  plain : ∀ named processed result,
    FrameTrace d frames (DataFlow.startFrame w s) named processed result →
      ∃ result', d.Settles frames (Plain.start w) (named,result') ∧ Agrees result result'
  once : ∀ named processed result,
    FrameTrace d frames (DataFlow.startFrame w s) named processed result → processed.Nodup

theorem mirrors_start (w : Worker σ) (s : AvSynchronizer) :
    Mirrors d outcome (DataFlow.startFrame w s) (Plain.start w) := by
  refine ⟨rfl,rfl,rfl,rfl,fun uid o h => ?_⟩
  simp [DataFlow.startFrame,OutcomeCache.clear] at h

theorem cached_as_plain (hr : ∀ t ∈ r.items, t.WellFormed d.pluginManager)
    (ha : Answers d frames outcome) :
    ∃ A₀, LogicAnalyzer.make r.tokens = some A₀ ∧ ∀ (w : Worker σ) (s : AvSynchronizer),
      Used A₀ w.logicAnalyzer → CachedAsPlain d frames w s := by
  obtain ⟨A₀,hmake,hshows⟩ := make_shows fun t ht => (hr t ht).uids
  refine ⟨A₀,hmake,fun w s hused => ?_⟩
  have hA : w.logicAnalyzer.Shows r.plan := by
    rw [LogicAnalyzer.Shows,hused.skeleton]
    exact hshows
  constructor
  · exact frameTrace_exists hr hA s
  · intro named processed result h
    exact h.frameLoop
  · intro named processed result h
    exact h.plain ha (mirrors_start w s)
  · intro named processed result h
    exact h.processed_once.1

theorem cached_as_plain_sample :
    ∃ A₀, LogicAnalyzer.make faceOrAudioMarked.tokens = some A₀ ∧
      ∀ (w : Worker Unit) (s : AvSynchronizer), Used A₀ w.logicAnalyzer →
        CachedAsPlain sampleFlow sampleFrames w s :=
  cached_as_plain faceOrAudioMarked_wellFormed sampleFlow_answers

end Request

end Ovi
