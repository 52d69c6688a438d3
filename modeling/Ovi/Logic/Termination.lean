import Ovi.Logic.Verdict

namespace Ovi

def PluginPipeline.positions (p : PluginPipeline) (nodes : Nodes) : Nat :=
  (p.pipeline.map (fun ptr => nodes[ptr]?.elim 0 (·.plugins.length))).sum

def LogicAnalyzer.positions (A : LogicAnalyzer) : Nat :=
  (A.pipelines.map (·.positions A.nodes)).sum

def LogicAnalyzer.current (A : LogicAnalyzer) : Option PluginNode := do
  let p ← A.pipelines[A.pos]?
  let ptr ← p.current
  A.nodes[ptr]?

structure NextCall (A : LogicAnalyzer) (b : Bool) (uid : String) (A' : LogicAnalyzer) : Prop where
  current : A.current.isSome = true
  returns : A.nextPlugin b = some (uid,A')
  nested : A.nextPluginAux 2 b = some (uid,A')

inductive EndsIn (pm : PluginManager) (request : List String) :
    LogicAnalyzer → (Nat → Bool) → Nat → Prop
  | eop {A A' : LogicAnalyzer} {feed : Nat → Bool} (h : NextCall A (feed 0) oviEop A') :
    EndsIn pm request A feed 1
  | next {A A' : LogicAnalyzer} {feed : Nat → Bool} {uid : String} {n : Nat}
    (h : NextCall A (feed 0) uid A') (hne : uid ≠ "") (hu : uid ∈ request)
    (hloaded : pm.exist uid = true) (rest : EndsIn pm request A' (fun i => feed (i + 1)) n) :
    EndsIn pm request A feed (n + 1)

section Depth

variable {A A' : LogicAnalyzer} {c c' : Cursor} {b : Bool} {uid : String} {depth : Nat}

theorem jump_mono {pos : Nat}
    (hnext : ∀ {A : LogicAnalyzer} {b : Bool}, A.nextPluginAux depth b = some (uid,A') →
      A.nextPluginAux (depth + 1) b = some (uid,A'))
    (h : A.jump depth pos = some (uid,A')) : A.jump (depth + 1) pos = some (uid,A') := by
  unfold LogicAnalyzer.jump at h ⊢
  split at h
  · rename_i hpos
    rw [if_pos hpos]
    exact h
  · rename_i hpos
    rw [if_neg hpos]
    cases he : A.enter pos with
    | none => simp [he] at h
    | some A₁ =>
      rw [he] at h
      exact hnext h

theorem nextPluginAux_succ_of_some (h : A.nextPluginAux depth b = some (uid,A')) :
    A.nextPluginAux (depth + 1) b = some (uid,A') := by
  induction depth generalizing A b with
  | zero => cases h
  | succ depth ih =>
    rw [nextPluginAux_succ] at h ⊢
    cases ha : A.advance b with
    | none => simp [ha] at h
    | some r =>
      rw [ha] at h
      dsimp only [Option.bind_some] at h ⊢
      split at h
      · rename_i hr
        rw [if_pos hr]
        exact jump_mono ih h
      · rename_i hr
        rw [if_neg hr]
        exact h

theorem nextPluginAux_mono {depth' : Nat} (h : A.nextPluginAux depth b = some (uid,A'))
    (hle : depth ≤ depth') : A.nextPluginAux depth' b = some (uid,A') := by
  induction hle with
  | refl => exact h
  | step _ ih => exact nextPluginAux_succ_of_some ih

theorem At.current (h : At A c) : A.current.isSome = true := by
  obtain ⟨p,ptr,ptrs,node,h⟩ := h
  simp [LogicAnalyzer.current,h.pipeline,PluginPipeline.current,h.ptr_get,h.node]

theorem At.call_of_nested (h : At A c) (hn : A.nextPluginAux 2 b = some (uid,A')) :
    NextCall A b uid A' := by
  refine ⟨h.current,nextPluginAux_mono hn ?_,hn⟩
  obtain ⟨p,ptr,ptrs,node,h⟩ := h
  have := (List.getElem?_eq_some_iff.mp h.pipeline).1
  omega

theorem At.call_eop (h : At A c) (hu : c.All Genuine) (hs : c.step b = none) :
    ∃ A', NextCall A b oviEop A' := by
  have hland := nextPluginAux_step h hu 0 (b := b)
  rw [hs] at hland
  obtain ⟨A',hn,-,-⟩ := hland
  exact ⟨A',h.call_of_nested hn⟩

theorem At.call_next (h : At A c) (hu : c.All Genuine) (hs : c.step b = some (uid,c')) :
    ∃ A', NextCall A b uid A' ∧ At A' c' := by
  have hland := nextPluginAux_step h hu 0 (b := b)
  rw [hs] at hland
  obtain ⟨A',hn,-,hat⟩ := hland
  exact ⟨A',h.call_of_nested hn,hat⟩

end Depth

section Bound

variable {pm : PluginManager} {request : List String} {A : LogicAnalyzer} {c : Cursor}

-- each call uses up a plugin position that is left to the cursor
theorem At.ends (h : At A c) (hc : c.All (fun uid => uid ∈ request ∧ pm.exist uid = true))
    (feed : Nat → Bool) : ∃ n ≤ 1 + c.size, EndsIn pm request A feed n := by
  induction hsize : c.size using Nat.strong_induction_on generalizing A c feed with
  | _ size ih =>
    subst hsize
    have hgenuine : c.All Genuine := hc.imp fun _ hu => genuine_of_exist hu.2
    cases hs : c.step (feed 0) with
    | none =>
      obtain ⟨A',hcall⟩ := h.call_eop hgenuine hs
      exact ⟨1,Nat.le_add_right 1 _,.eop hcall⟩
    | some p =>
      obtain ⟨uid,c'⟩ := p
      obtain ⟨A',hcall,hat⟩ := h.call_next hgenuine hs
      obtain ⟨⟨hu,hloaded⟩,hc'⟩ := Cursor.all_step hs hc
      have hless := Cursor.size_step hs
      obtain ⟨n,hn,hrest⟩ := ih c'.size hless hat hc' (fun i => feed (i + 1)) rfl
      refine ⟨n + 1,by omega,.next hcall ?_ hu hloaded hrest⟩
      exact (genuine_of_exist hloaded).ne_empty

theorem positions_of_shows {plan : List Alternative} (h : A.Shows plan) :
    A.positions = (plan.map Alternative.size).sum := by
  have hpipeline : ∀ (p : PluginPipeline) (a : Alternative),
      PipelineShows (shapes A.nodes) (p.pipeline,p.essential) a →
        p.positions A.nodes = a.size := by
    intro p a hshows
    have hnodes : List.Forall₂ (fun ptr n => (shapes A.nodes)[ptr]? = some n.node.shape)
      p.pipeline a.nodes := hshows.nodes
    rw [PluginPipeline.positions,Alternative.size]
    generalize p.pipeline = ptrs at hnodes
    generalize a.nodes = ns at hnodes
    induction hnodes with
    | nil => rfl
    | @cons ptr n ptrs ns hget _ ih =>
      rw [List.map_cons,List.map_cons,List.sum_cons,List.sum_cons,ih]
      rw [shapes,List.getElem?_map,Option.map_eq_some_iff] at hget
      obtain ⟨node,hnode,hshape⟩ := hget
      have hplugins : node.plugins = n.plugins := congrArg Prod.fst hshape
      rw [hnode,← hplugins]
      rfl
  rw [LogicAnalyzer.Shows,LogicAnalyzer.skeleton,List.forall₂_map_left_iff] at h
  rw [LogicAnalyzer.positions]
  generalize A.pipelines = ps at h
  induction h with
  | nil => rfl
  | cons hshows _ ih =>
    rw [List.map_cons,List.map_cons,List.sum_cons,List.sum_cons,ih,hpipeline _ _ hshows]

theorem Cursor.size_start (a : Alternative) (as : List Alternative) :
    (Cursor.start a as).size = ((a :: as).map Alternative.size).sum := by
  simp [Cursor.start,Cursor.size,Alternative.size,Alternative.nodes]

theorem nextPlugin_ends (h : LinkLanguage pm request) :
    ∃ A₀, LogicAnalyzer.make request = some A₀ ∧ ∀ A, Used A₀ A → ∀ feed : Nat → Bool,
      ∃ n ≤ 1 + A₀.positions, EndsIn pm request A.reset feed n := by
  have hv := (validateLogic_iff_loose pm request).mpr (loose_of_linkLanguage h).1
  obtain ⟨-,-,r,rfl,hr⟩ := h
  obtain ⟨A₀,hmake,-⟩ := make_shows fun t ht => (hr t ht).uids
  obtain ⟨a,as,hshows,hall⟩ := make_sound hv hmake
  refine ⟨A₀,hmake,fun A hused feed => ?_⟩
  have hA : A.Shows (a :: as) := by
    rw [LogicAnalyzer.Shows,hused.skeleton]
    exact hshows
  rw [positions_of_shows hshows,← Cursor.size_start]
  exact (reset_at hA).ends (Cursor.start_all hall) feed

theorem nextPlugin_ends_faceOrAudioMarked :
    ∃ A₀, LogicAnalyzer.make faceOrAudioMarked.tokens = some A₀ ∧ ∀ A, Used A₀ A →
      ∀ feed : Nat → Bool, ∃ n ≤ 1 + A₀.positions,
        EndsIn samplePlugins faceOrAudioMarked.tokens A.reset feed n :=
  nextPlugin_ends ⟨by decide,by decide,faceOrAudioMarked,rfl,faceOrAudioMarked_wellFormed⟩

end Bound

end Ovi
