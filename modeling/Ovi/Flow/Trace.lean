import Ovi.Flow.Completion

namespace Ovi

structure Named where
  uid : String
  included : Bool
deriving DecidableEq, Repr

def processedUids (uid : String) (plugin : Plugin) : List String :=
  if isEffectType plugin then [] else [uid]

variable {σ : Type}

inductive FrameTrace (d : DataFlow σ) (frames : Frames) :
    Worker σ → List Named → List String → Except Fault (Bool × Worker σ) → Prop
  | stopped {w : Worker σ} (hrun : d.run w.loads = false) :
    FrameTrace d frames w [] [] (.ok (false,{ w with loads := w.loads + 1 }))
  | eop {w : Worker σ} {A : LogicAnalyzer} (hrun : d.run w.loads = true)
    (hn : w.logicAnalyzer.nextPlugin w.outcomeCache.result.1.detect = some (oviEop,A)) :
    FrameTrace d frames w [⟨oviEop,A.included⟩] [] (.ok (true,w.advance A))
  | hit {w : Worker σ} {uid : String} {A : LogicAnalyzer} {named : List Named}
    {processed : List String} {result : Except Fault (Bool × Worker σ)}
    (hrun : d.run w.loads = true)
    (hn : w.logicAnalyzer.nextPlugin w.outcomeCache.result.1.detect = some (uid,A))
    (hne : uid ≠ oviEop) (hhit : w.outcomeCache.result.2.hit uid = true)
    (rest : FrameTrace d frames { w.advance A with
      outcomeCache := w.outcomeCache.result.2.setResultUid uid } named processed result) :
    FrameTrace d frames w (⟨uid,A.included⟩ :: named) processed result
  | handled {w w₁ : Worker σ} {uid : String} {A : LogicAnalyzer} {plugin : Plugin}
    {named : List Named} {processed : List String} {result : Except Fault (Bool × Worker σ)}
    (h : Calling d w uid A plugin)
    (hp : d.handlePlugin (w.advance A) frames uid plugin = .ok (true,w₁))
    (rest : FrameTrace d frames w₁ named processed result) :
    FrameTrace d frames w (⟨uid,A.included⟩ :: named) (processedUids uid plugin ++ processed)
      result
  | raised {w w₁ : Worker σ} {uid : String} {A : LogicAnalyzer} {plugin : Plugin}
    (h : Calling d w uid A plugin)
    (hp : d.handlePlugin (w.advance A) frames uid plugin = .ok (false,w₁)) :
    FrameTrace d frames w [⟨uid,A.included⟩] (processedUids uid plugin) (.ok (false,w₁))
  | fault {w : Worker σ} {uid : String} {A : LogicAnalyzer} {plugin : Plugin} {fault : Fault}
    (h : Calling d w uid A plugin)
    (hp : d.handlePlugin (w.advance A) frames uid plugin = .error fault) :
    FrameTrace d frames w [⟨uid,A.included⟩] (processedUids uid plugin) (.error fault)

variable {d : DataFlow σ} {frames : Frames} {w w₁ : Worker σ} {named : List Named}
  {processed : List String} {result : Except Fault (Bool × Worker σ)}

section Adequacy

theorem FrameRun.trace {answers : List Answer} (h : FrameRun d frames w answers result) :
    ∃ named processed, FrameTrace d frames w named processed result := by
  induction h with
  | stopped hrun => exact ⟨_,_,.stopped hrun⟩
  | eop hrun hn => exact ⟨_,_,.eop hrun hn⟩
  | hit hrun hn hne hhit _ ih =>
    obtain ⟨named,processed,hrest⟩ := ih
    exact ⟨_,_,.hit hrun hn hne hhit hrest⟩
  | handled h hp _ ih =>
    obtain ⟨named,processed,hrest⟩ := ih
    exact ⟨_,_,.handled h hp hrest⟩
  | raised h hp => exact ⟨_,_,.raised h hp⟩
  | fault h hp => exact ⟨_,_,.fault h hp⟩

theorem FrameTrace.run (h : FrameTrace d frames w named processed result) :
    ∃ answers, FrameRun d frames w answers result := by
  induction h with
  | stopped hrun => exact ⟨_,.stopped hrun⟩
  | eop hrun hn => exact ⟨_,.eop hrun hn⟩
  | hit hrun hn hne hhit _ ih =>
    obtain ⟨answers,hrest⟩ := ih
    exact ⟨_,.hit hrun hn hne hhit hrest⟩
  | handled h hp _ ih =>
    obtain ⟨answers,hrest⟩ := ih
    exact ⟨_,.handled h hp hrest⟩
  | raised h hp => exact ⟨_,.raised h hp⟩
  | fault h hp => exact ⟨_,.fault h hp⟩

theorem FrameTrace.frameLoop (h : FrameTrace d frames w named processed result) :
    ∃ n, ∀ fuel ≥ n, d.frameLoop frames fuel w = some result := by
  obtain ⟨answers,hrun⟩ := h.run
  obtain ⟨n,hloop⟩ := hrun.frameLoop
  exact ⟨n,fun fuel hf => frameLoop_mono hloop hf⟩

theorem frameTrace_exists {r : LinkRequest} (hr : ∀ t ∈ r.items, t.WellFormed d.pluginManager)
    (hA : w.logicAnalyzer.Shows r.plan) (s : AvSynchronizer) :
    ∃ named processed result, FrameTrace d frames (DataFlow.startFrame w s) named processed
      result := by
  obtain ⟨-,a,as,hplan,-,-⟩ := plans r
  have hloaded := LinkRequest.loaded hr
  rw [hplan] at hA hloaded
  obtain ⟨answers,result,hrun,-⟩ := frameRun_exists (w := DataFlow.startFrame w s) d frames
    (reset_at hA) (Cursor.start_all hloaded)
  obtain ⟨named,processed,htrace⟩ := hrun.trace
  exact ⟨named,processed,result,htrace⟩

end Adequacy

section Processed

variable {uid : String} {plugin : Plugin}

theorem result_storage {c : OutcomeCache} (h : c.hit uid = true) : c.result.2.hit uid = true := by
  obtain ⟨o,ho⟩ := OutcomeCache.hit_iff.mp h
  exact OutcomeCache.hit_iff.mpr ⟨o,OutcomeCache.stored_result ho⟩

theorem handlePlugin_hit {x : String} {go : Bool}
    (h : d.handlePlugin w frames uid plugin = .ok (go,w₁)) (hx : w.outcomeCache.hit x = true) :
    w₁.outcomeCache.hit x = true := by
  rw [DataFlow.handlePlugin] at h
  split at h
  · cases h
    exact result_storage hx
  · split at h
    · cases h
      obtain ⟨o,ho⟩ := OutcomeCache.hit_iff.mp hx
      rw [OutcomeCache.hit_iff]
      simp only [OutcomeCache.storage_write]
      split
      · exact ⟨_,rfl⟩
      · exact ⟨o,ho⟩
    · cases h
      exact hx
    · cases h

theorem handlePlugin_written (h : d.handlePlugin w frames uid plugin = .ok (true,w₁)) :
    ∀ x ∈ processedUids uid plugin, w₁.outcomeCache.hit x = true := by
  intro x hx
  rw [DataFlow.handlePlugin] at h
  rw [processedUids] at hx
  split at h
  · rename_i he
    rw [if_pos he] at hx
    cases hx
  · rename_i he
    rw [if_neg he] at hx
    obtain rfl := List.mem_singleton.mp hx
    split at h
    · cases h
      rw [OutcomeCache.hit_iff]
      simp [OutcomeCache.storage_write]
    · cases h
    · cases h

theorem processedUids_nodup (uid : String) (plugin : Plugin) :
    (processedUids uid plugin).Nodup := by
  unfold processedUids
  split
  · exact List.nodup_nil
  · exact List.nodup_singleton uid

theorem processed_missed {A : LogicAnalyzer} (h : Calling d w uid A plugin) :
    ∀ x ∈ processedUids uid plugin, w.outcomeCache.hit x = false := by
  intro x hx
  have hmissed := h.missed
  rw [processedUids] at hx
  split at hx
  · cases hx
  · obtain rfl := List.mem_singleton.mp hx
    by_contra hhit
    rw [result_storage (by simpa using hhit)] at hmissed
    cases hmissed

theorem FrameTrace.processed_once (h : FrameTrace d frames w named processed result) :
    processed.Nodup ∧ ∀ x ∈ processed, w.outcomeCache.hit x = false := by
  induction h with
  | stopped _ => exact ⟨List.nodup_nil,List.forall_mem_nil _⟩
  | eop _ _ => exact ⟨List.nodup_nil,List.forall_mem_nil _⟩
  | @hit w uid A named processed result _ _ _ _ _ ih =>
    refine ⟨ih.1,fun x hx => ?_⟩
    by_contra hhit
    have hkept : (w.outcomeCache.result.2.setResultUid uid).hit x = true :=
      result_storage (by simpa using hhit)
    rw [ih.2 x hx] at hkept
    cases hkept
  | @handled w w₁ uid A plugin named processed result h hp _ ih =>
    constructor
    · apply List.nodup_append.mpr
      refine ⟨processedUids_nodup uid plugin,ih.1,?_⟩
      rintro x hx y hy rfl
      have hwritten := handlePlugin_written hp x hx
      rw [ih.2 x hy] at hwritten
      cases hwritten
    · intro x hx
      rcases List.mem_append.mp hx with hx | hx
      · exact processed_missed h x hx
      · by_contra hhit
        have hkept := handlePlugin_hit hp (x := x) (result_storage (by simpa using hhit))
        rw [ih.2 x hx] at hkept
        cases hkept
  | @raised w w₁ uid A plugin h _ => exact ⟨processedUids_nodup uid plugin,processed_missed h⟩
  | @fault w uid A plugin _ h _ => exact ⟨processedUids_nodup uid plugin,processed_missed h⟩

end Processed

end Ovi
