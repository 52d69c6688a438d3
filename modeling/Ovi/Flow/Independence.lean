import Ovi.Flow.Trace

namespace Ovi

variable {σ₁ σ₂ : Type}

structure SameAnswers (R : σ₁ → σ₂ → Prop) (d₁ : DataFlow σ₁) (frames₁ : Frames)
    (d₂ : DataFlow σ₂) (frames₂ : Frames) : Prop where
  pluginManager : d₂.pluginManager = d₁.pluginManager
  process : ∀ uid st₁ st₂, R st₁ st₂ →
    (d₂.processPlugin uid frames₂ st₂).1 = (d₁.processPlugin uid frames₁ st₁).1 ∧
      R (d₁.processPlugin uid frames₁ st₁).2 (d₂.processPlugin uid frames₂ st₂).2

def SameRun (d₁ : DataFlow σ₁) (w₁ : Worker σ₁) (d₂ : DataFlow σ₂) (w₂ : Worker σ₂) : Prop :=
  ∀ k, d₂.run (w₂.loads + k) = d₁.run (w₁.loads + k)

inductive SameRecord :
    Except Fault (Bool × Worker σ₁) → Except Fault (Bool × Worker σ₂) → Prop
  | recorded {w₁ : Worker σ₁} {w₂ : Worker σ₂}
    (hincluded : w₂.logicAnalyzer.included = w₁.logicAnalyzer.included)
    (hcache : w₂.outcomeCache = w₁.outcomeCache) : SameRecord (.ok (true,w₁)) (.ok (true,w₂))
  | abandoned {w₁ : Worker σ₁} {w₂ : Worker σ₂}
    (hcache : w₂.outcomeCache = w₁.outcomeCache) : SameRecord (.ok (false,w₁)) (.ok (false,w₂))
  | fault {fault : Fault} : SameRecord (.error fault) (.error fault)

section Included

variable {A A' A₁ A₂ : LogicAnalyzer} {c : Cursor} {b : Bool} {uid : String} {depth : Nat}

theorem pop_blocked {p p' : PluginPipeline} {nodes nodes' : Nodes}
    (h : p.pop nodes b = some (uid,p',nodes')) (hne : uid ≠ "") : b = true := by
  cases b with
  | true => rfl
  | false =>
    cases h
    exact absurd rfl hne

theorem advance_included (h : A.advance b = some (uid,A')) (hne : uid ≠ "") :
    A'.included = true := by
  unfold LogicAnalyzer.advance at h
  cases hp : A.pipelines[A.pos]? with
  | none => simp [hp] at h
  | some p =>
    cases hptr : p.current with
    | none => simp [hp,hptr] at h
    | some ptr =>
      cases hn : A.nodes[ptr]? with
      | none => simp [hp,hptr,hn] at h
      | some node =>
        simp only [hp,hptr,hn,post_eq,Option.bind_eq_bind,Option.bind_some] at h
        cases hpop : p.pop (A.nodes.set ptr (posted node b)) (!node.cut || b) with
        | none => simp [hpop] at h
        | some r =>
          obtain ⟨uid',p',nodes'⟩ := r
          simp only [hpop,Option.bind_some,Option.some_inj] at h
          obtain ⟨rfl,rfl⟩ := Prod.mk.inj h
          exact pop_blocked hpop hne

theorem jump_included {pos : Nat}
    (hnext : ∀ {A : LogicAnalyzer} {b : Bool}, A.nextPluginAux depth b = some (uid,A') →
      A'.included = true) (hne : uid ≠ oviEop) (h : A.jump depth pos = some (uid,A')) :
    A'.included = true := by
  unfold LogicAnalyzer.jump at h
  split at h
  · cases h
    exact absurd rfl hne
  · cases he : A.enter pos with
    | none => simp [he] at h
    | some A₁ =>
      rw [he] at h
      exact hnext h

theorem nextPluginAux_included (hne : uid ≠ oviEop)
    (h : A.nextPluginAux depth b = some (uid,A')) : A'.included = true := by
  induction depth generalizing A b with
  | zero => cases h
  | succ depth ih =>
    rw [nextPluginAux_succ] at h
    cases ha : A.advance b with
    | none => simp [ha] at h
    | some r =>
      rw [ha] at h
      dsimp only [Option.bind_some] at h
      split at h
      · exact jump_included ih hne h
      · rename_i hr
        cases h
        exact advance_included ha (not_or.mp hr).2

theorem twin_eop (h₁ : At A₁ c) (h₂ : At A₂ c) (hc : c.All Genuine)
    (hn : A₁.nextPlugin b = some (oviEop,A)) :
    ∃ A', A₂.nextPlugin b = some (oviEop,A') ∧ A'.included = A.included := by
  have hland₁ := nextPlugin_step h₁ hc (b := b)
  have hland₂ := nextPlugin_step h₂ hc (b := b)
  cases hs : c.step b with
  | none =>
    rw [hs] at hland₁ hland₂
    obtain ⟨A₁',hn₁,-,hinc₁⟩ := hland₁
    obtain ⟨A₂',hn₂,-,hinc₂⟩ := hland₂
    cases hn.symm.trans hn₁
    exact ⟨A₂',hn₂,hinc₂.trans hinc₁.symm⟩
  | some p =>
    obtain ⟨uid,c'⟩ := p
    rw [hs] at hland₁
    obtain ⟨A₁',hn₁,-,-⟩ := hland₁
    cases hn.symm.trans hn₁
    exact absurd rfl (Cursor.all_step hs hc).1.ne_eop

theorem twin_next (h₁ : At A₁ c) (h₂ : At A₂ c)
    (hc : c.All (fun uid => Genuine uid)) (hne : uid ≠ oviEop)
    (hn : A₁.nextPlugin b = some (uid,A)) :
    ∃ A' c', A₂.nextPlugin b = some (uid,A') ∧ A'.included = A.included ∧
      c.step b = some (uid,c') ∧ At A c' ∧ At A' c' := by
  obtain ⟨c',hs,hat₁⟩ := h₁.named hc hn hne
  obtain ⟨A',hn₂,-,hat₂⟩ := h₂.steps hc hs
  refine ⟨A',c',hn₂,?_,hs,hat₁,hat₂⟩
  rw [nextPluginAux_included hne hn,nextPluginAux_included hne hn₂]

end Included

section Twins

variable {R : σ₁ → σ₂ → Prop} {d₁ : DataFlow σ₁} {d₂ : DataFlow σ₂} {frames₁ frames₂ : Frames}
  {w₁ w₁' : Worker σ₁} {w₂ : Worker σ₂} {calls : List Named} {processed : List String}
  {result₁ : Except Fault (Bool × Worker σ₁)} {uid : String} {A₁ A₂ : LogicAnalyzer}
  {plugin : Plugin} {c c' : Cursor}

structure Twins (R : σ₁ → σ₂ → Prop) (d₁ : DataFlow σ₁) (d₂ : DataFlow σ₂) (c : Cursor)
    (w₁ : Worker σ₁) (w₂ : Worker σ₂) : Prop where
  first : At w₁.logicAnalyzer c
  second : At w₂.logicAnalyzer c
  genuine : c.All Genuine
  outcomeCache : w₂.outcomeCache = w₁.outcomeCache
  plugins : R w₁.plugins w₂.plugins
  run : SameRun d₁ w₁ d₂ w₂

theorem SameRun.now (h : SameRun d₁ w₁ d₂ w₂) : d₂.run w₂.loads = d₁.run w₁.loads := h 0

theorem SameRun.next (h : SameRun d₁ w₁ d₂ w₂) (A₁ A₂ : LogicAnalyzer) :
    SameRun d₁ (w₁.advance A₁) d₂ (w₂.advance A₂) := by
  intro k
  have hk := h (k + 1)
  rw [Nat.add_comm k 1,← Nat.add_assoc,← Nat.add_assoc] at hk
  exact hk

theorem Twins.named (h : Twins R d₁ d₂ c w₁ w₂) (hne : uid ≠ oviEop)
    (hn : w₁.logicAnalyzer.nextPlugin w₁.outcomeCache.result.1.detect = some (uid,A₁)) :
    ∃ A₂ c', w₂.logicAnalyzer.nextPlugin w₂.outcomeCache.result.1.detect = some (uid,A₂) ∧
      A₂.included = A₁.included ∧ Twins R d₁ d₂ c' (w₁.advance A₁) (w₂.advance A₂) := by
  obtain ⟨A₂,c',hn₂,hincluded,hs,hat₁,hat₂⟩ := twin_next h.first h.second h.genuine hne hn
  refine ⟨A₂,c',?_,hincluded,hat₁,hat₂,(Cursor.all_step hs h.genuine).2,?_,h.plugins,
    h.run.next A₁ A₂⟩
  · rw [h.outcomeCache]
    exact hn₂
  · exact congrArg (fun c => c.result.2) h.outcomeCache

theorem Twins.calling (ha : SameAnswers R d₁ frames₁ d₂ frames₂) (h : Twins R d₁ d₂ c w₁ w₂)
    (hcall : Calling d₁ w₁ uid A₁ plugin) :
    ∃ A₂ c', Calling d₂ w₂ uid A₂ plugin ∧ A₂.included = A₁.included ∧
      Twins R d₁ d₂ c' (w₁.advance A₁) (w₂.advance A₂) := by
  obtain ⟨A₂,c',hn₂,hincluded,htwins⟩ := h.named hcall.genuine hcall.named
  refine ⟨A₂,c',⟨h.run.now.trans hcall.running,hn₂,hcall.genuine,?_,?_⟩,hincluded,htwins⟩
  · rw [h.outcomeCache]
    exact hcall.missed
  · rw [ha.pluginManager]
    exact hcall.found

theorem Twins.handle (ha : SameAnswers R d₁ frames₁ d₂ frames₂) (h : Twins R d₁ d₂ c w₁ w₂) :
    (∃ go w₁' w₂', d₁.handlePlugin w₁ frames₁ uid plugin = .ok (go,w₁') ∧
      d₂.handlePlugin w₂ frames₂ uid plugin = .ok (go,w₂') ∧ Twins R d₁ d₂ c w₁' w₂') ∨
    ∃ fault, d₁.handlePlugin w₁ frames₁ uid plugin = .error fault ∧
      d₂.handlePlugin w₂ frames₂ uid plugin = .error fault := by
  rw [DataFlow.handlePlugin,DataFlow.handlePlugin]
  cases isEffectType plugin with
  | true =>
    refine .inl ⟨true,_,_,rfl,rfl,h.first,h.second,h.genuine,?_,h.plugins,h.run⟩
    exact congrArg (OutcomeCache.setDetected · uid) h.outcomeCache
  | false =>
    obtain ⟨hanswer,hrel⟩ := ha.process uid w₁.plugins w₂.plugins h.plugins
    rw [if_neg Bool.false_ne_true,if_neg Bool.false_ne_true]
    cases hp₁ : d₁.processPlugin uid frames₁ w₁.plugins with
    | mk answer₁ st₁ =>
      cases hp₂ : d₂.processPlugin uid frames₂ w₂.plugins with
      | mk answer₂ st₂ =>
        rw [hp₁,hp₂] at hanswer hrel
        obtain rfl : answer₂ = answer₁ := hanswer
        cases answer₂ with
        | ok outcome =>
          refine .inl ⟨true,_,_,rfl,rfl,h.first,h.second,h.genuine,?_,hrel,h.run⟩
          exact congrArg (OutcomeCache.write · uid outcome) h.outcomeCache
        | error fault =>
          cases fault with
          | undefined => exact .inr ⟨_,rfl,rfl⟩
          | raised e =>
            cases e with
            | other => exact .inr ⟨_,rfl,rfl⟩
            | ovi error =>
              exact .inl ⟨false,_,_,rfl,rfl,h.first,h.second,h.genuine,h.outcomeCache,hrel,h.run⟩

theorem Twins.handled (ha : SameAnswers R d₁ frames₁ d₂ frames₂) (h : Twins R d₁ d₂ c w₁ w₂)
    {go : Bool} (hp : d₁.handlePlugin w₁ frames₁ uid plugin = .ok (go,w₁')) :
    ∃ w₂', d₂.handlePlugin w₂ frames₂ uid plugin = .ok (go,w₂') ∧ Twins R d₁ d₂ c w₁' w₂' := by
  rcases h.handle ha with ⟨go',w,w₂',hp₁,hp₂,htwins⟩ | ⟨fault,hp₁,-⟩
  · cases hp.symm.trans hp₁
    exact ⟨w₂',hp₂,htwins⟩
  · cases hp.symm.trans hp₁

theorem Twins.faulted (ha : SameAnswers R d₁ frames₁ d₂ frames₂) (h : Twins R d₁ d₂ c w₁ w₂)
    {fault : Fault} (hp : d₁.handlePlugin w₁ frames₁ uid plugin = .error fault) :
    d₂.handlePlugin w₂ frames₂ uid plugin = .error fault := by
  rcases h.handle ha with ⟨go',w,w₂',hp₁,-,-⟩ | ⟨fault',hp₁,hp₂⟩
  · cases hp.symm.trans hp₁
  · cases hp.symm.trans hp₁
    exact hp₂

theorem FrameTrace.twin (ha : SameAnswers R d₁ frames₁ d₂ frames₂)
    (ht : FrameTrace d₁ frames₁ w₁ calls processed result₁) (h : Twins R d₁ d₂ c w₁ w₂) :
    ∃ result₂, FrameTrace d₂ frames₂ w₂ calls processed result₂ ∧
      SameRecord result₁ result₂ := by
  induction ht generalizing c w₂ with
  | stopped hrun => exact ⟨_,.stopped (h.run.now.trans hrun),.abandoned h.outcomeCache⟩
  | @eop w₁ A₁ hrun hn =>
    obtain ⟨A₂,hn₂,hincluded⟩ := twin_eop h.first h.second h.genuine hn
    rw [← h.outcomeCache] at hn₂
    have hrest : FrameTrace d₂ frames₂ w₂ [⟨oviEop,A₂.included⟩] []
        (.ok (true,w₂.advance A₂)) := .eop (h.run.now.trans hrun) hn₂
    rw [hincluded] at hrest
    refine ⟨_,hrest,.recorded hincluded ?_⟩
    exact congrArg (fun c => c.result.2) h.outcomeCache
  | @hit w₁ uid A₁ calls processed result hrun hn hne hhit _ ih =>
    obtain ⟨A₂,c',hn₂,hincluded,htwins⟩ := h.named hne hn
    rw [← h.outcomeCache] at hhit ih
    have hnext : Twins R d₁ d₂ c'
        { w₁.advance A₁ with outcomeCache := w₂.outcomeCache.result.2.setResultUid uid }
        { w₂.advance A₂ with outcomeCache := w₂.outcomeCache.result.2.setResultUid uid } :=
      ⟨htwins.first,htwins.second,htwins.genuine,rfl,htwins.plugins,htwins.run⟩
    obtain ⟨result₂,hrest,hrecord⟩ := ih hnext
    exact ⟨result₂,hincluded ▸ .hit (h.run.now.trans hrun) hn₂ hne hhit hrest,hrecord⟩
  | handled hcall hp _ ih =>
    obtain ⟨A₂,c',hcall₂,hincluded,htwins⟩ := h.calling ha hcall
    obtain ⟨w₂',hp₂,htwins'⟩ := htwins.handled ha hp
    obtain ⟨result₂,hrest,hrecord⟩ := ih htwins'
    exact ⟨result₂,hincluded ▸ .handled hcall₂ hp₂ hrest,hrecord⟩
  | raised hcall hp =>
    obtain ⟨A₂,c',hcall₂,hincluded,htwins⟩ := h.calling ha hcall
    obtain ⟨w₂',hp₂,htwins'⟩ := htwins.handled ha hp
    exact ⟨_,hincluded ▸ .raised hcall₂ hp₂,.abandoned htwins'.outcomeCache⟩
  | fault hcall hp =>
    obtain ⟨A₂,c',hcall₂,hincluded,htwins⟩ := h.calling ha hcall
    exact ⟨_,hincluded ▸ .fault hcall₂ (htwins.faulted ha hp),.fault⟩

end Twins

section Request

variable {R : σ₁ → σ₂ → Prop} {d₁ : DataFlow σ₁} {d₂ : DataFlow σ₂} {frames₁ frames₂ : Frames}
  {r : LinkRequest}

structure FrameAlone (d₁ : DataFlow σ₁) (frames₁ : Frames) (w₁ : Worker σ₁) (d₂ : DataFlow σ₂)
    (frames₂ : Frames) (w₂ : Worker σ₂) : Prop where
  ends : ∃ calls processed result, FrameTrace d₁ frames₁ w₁ calls processed result
  same : ∀ calls processed result₁, FrameTrace d₁ frames₁ w₁ calls processed result₁ →
    ∃ result₂, FrameTrace d₂ frames₂ w₂ calls processed result₂ ∧ SameRecord result₁ result₂

theorem frame_alone (hr : ∀ t ∈ r.items, t.WellFormed d₁.pluginManager)
    (ha : SameAnswers R d₁ frames₁ d₂ frames₂) :
    ∃ A₀, LogicAnalyzer.make r.tokens = some A₀ ∧ ∀ (w₁ : Worker σ₁) (w₂ : Worker σ₂)
      (s₁ s₂ : AvSynchronizer), Used A₀ w₁.logicAnalyzer → Used A₀ w₂.logicAnalyzer →
        R w₁.plugins w₂.plugins → SameRun d₁ w₁ d₂ w₂ →
          FrameAlone d₁ frames₁ (DataFlow.startFrame w₁ s₁) d₂ frames₂
            (DataFlow.startFrame w₂ s₂) := by
  obtain ⟨A₀,hmake,hshows⟩ := make_shows fun t ht => (hr t ht).uids
  refine ⟨A₀,hmake,fun w₁ w₂ s₁ s₂ hused₁ hused₂ hplugins hrun => ?_⟩
  have hshown : ∀ A, Used A₀ A → A.Shows r.plan := by
    intro A hused
    rw [LogicAnalyzer.Shows,hused.skeleton]
    exact hshows
  refine ⟨frameTrace_exists hr (hshown _ hused₁) s₁,fun calls processed result₁ h => ?_⟩
  obtain ⟨-,a,as,hplan,-,-⟩ := plans r
  have hloaded := LinkRequest.loaded hr
  rw [hplan] at hshown hloaded
  have hgenuine := (Cursor.start_all hloaded).imp fun _ hu => genuine_of_exist hu
  exact h.twin ha ⟨reset_at (hshown _ hused₁),reset_at (hshown _ hused₂),hgenuine,rfl,hplugins,hrun⟩

theorem frame_alone_sample :
    ∃ A₀, LogicAnalyzer.make faceOrAudioMarked.tokens = some A₀ ∧ ∀ (w₁ w₂ : Worker Unit)
      (s₁ s₂ : AvSynchronizer), Used A₀ w₁.logicAnalyzer → Used A₀ w₂.logicAnalyzer →
        w₁.plugins = w₂.plugins → SameRun sampleFlow w₁ sampleFlow w₂ →
          FrameAlone sampleFlow sampleFrames (DataFlow.startFrame w₁ s₁) sampleFlow sampleFrames
            (DataFlow.startFrame w₂ s₂) :=
  frame_alone faceOrAudioMarked_wellFormed ⟨rfl,fun _ _ _ h => ⟨by rw [h],by rw [h]⟩⟩

end Request

end Ovi
