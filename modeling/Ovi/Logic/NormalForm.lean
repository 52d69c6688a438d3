import Ovi.Logic.Verdict

namespace Ovi
open BooleanChain

def PluginNode.satisfied (verdict : String → Bool) (n : PluginNode) : Bool :=
  n.plugins.head?.any verdict || !n.cut

structure NodeOf (t : Term) (n : PluginNode) : Prop where
  plugins : n.plugins = t.plugin :: t.effects
  cut : n.cut = !t.uncut

structure NormalForm (r : LinkRequest) (nodes : Nodes) (pipelines : List PluginPipeline) :
    Prop where
  value : ∀ verdict : String → Bool,
    (∃ p ∈ pipelines, ∀ ptr ∈ p.pipeline, ∃ n, nodes[ptr]? = some n ∧
      n.satisfied verdict = true) ↔ r.value verdict = true
  placed : ∀ verdict : Nat → Bool,
    (∃ p ∈ pipelines, ∀ ptr ∈ p.pipeline, ∃ n, nodes[ptr]? = some n ∧
      (verdict ptr || !n.cut) = true) ↔
        r.numbered.eval (fun x => verdict x.2 || x.1.uncut) = true
  effects : ∀ p ∈ pipelines, ∀ ptr ∈ p.pipeline, ∃ t n, r.items[ptr]? = some t ∧
    nodes[ptr]? = some n ∧ NodeOf t n

structure Enumerates (b : Analysis) (terms : List Term) (alts : List (List (Term × Nat))) :
    Prop where
  ready : b.Ready
  nodes : b.nodes = terms.map (·.plan.node)
  pipelines : b.pipelines.map PluginPipeline.pipeline = alts.map (·.map Prod.snd)

section Enumerate

variable {b b' : Analysis} {terms : List Term} {alts : List (List (Term × Nat))} {t : Term}

theorem Enumerates.length (h : Enumerates b terms alts) : b.nodes.length = terms.length := by
  rw [h.nodes,List.length_map]

theorem Enumerates.and_term (h : Enumerates b terms alts) (ht : t.Uids) :
    ∃ b', (linkOperator .conj :: t.tokens).foldlM Analysis.step b = some b' ∧
      Enumerates b' (terms ++ [t]) (extend alts (.conj,(t,terms.length))) := by
  refine ⟨_,h.ready.and_term ht,⟨rfl,rfl,?_,?_⟩,?_,?_⟩
  · simpa using h.ready.current
  · intro p hp
    obtain ⟨q,-,rfl⟩ := List.mem_map.mp hp
    simp [PluginPipeline.push]
  · rw [h.nodes,List.map_append]
    rfl
  · have hpush : PluginPipeline.pipeline ∘ (·.push b.nodes.length) =
        (· ++ [terms.length]) ∘ PluginPipeline.pipeline := by
      funext p
      simp [PluginPipeline.push,h.length]
    rw [extend,List.map_map,hpush,← List.map_map,h.pipelines,List.map_map,List.map_map]
    refine List.map_congr_left fun alt _ => ?_
    simp

theorem Enumerates.or_term (h : Enumerates b terms alts) (ht : t.Uids) :
    ∃ b', (linkOperator .disj :: t.tokens).foldlM Analysis.step b = some b' ∧
      Enumerates b' (terms ++ [t]) (extend alts (.disj,(t,terms.length))) := by
  refine ⟨_,h.ready.or_term ht,⟨rfl,rfl,?_,?_⟩,?_,?_⟩
  · simp
  · intro p hp
    rcases List.mem_append.mp hp with hp | hp
    · exact h.ready.filled p hp
    · simp [List.mem_singleton.mp hp]
  · rw [h.nodes,List.map_append]
    rfl
  · rw [extend,List.map_append,List.map_append,h.pipelines,h.length]
    rfl

theorem enumerates_first (ht : t.Uids) :
    ∃ b, t.tokens.foldlM Analysis.step Analysis.start = some b ∧ Enumerates b [t] [[(t,0)]] :=
  ⟨_,first_term ht,⟨rfl,rfl,rfl,by simp⟩,rfl,rfl⟩

theorem Enumerates.foldlM (h : Enumerates b terms alts) {rest : List (Op × Term)}
    (ht : ∀ p ∈ rest, p.2.Uids) :
    ∃ b', (rest.flatMap (fun p => linkOperator p.1 :: p.2.tokens)).foldlM Analysis.step b =
      some b' ∧ Enumerates b' (terms ++ rest.map Prod.snd)
        (((rest.zipIdx terms.length).map (fun p => (p.1.1,(p.1.2,p.2)))).foldl extend alts) := by
  induction rest generalizing b terms alts with
  | nil => exact ⟨b,rfl,by simpa using h⟩
  | cons p rest ih =>
    obtain ⟨op,t⟩ := p
    have hstep : ∃ b₁, (linkOperator op :: t.tokens).foldlM Analysis.step b = some b₁ ∧
        Enumerates b₁ (terms ++ [t]) (extend alts (op,(t,terms.length))) := by
      cases op with
      | conj => exact h.and_term (ht (.conj,t) (by simp))
      | disj => exact h.or_term (ht (.disj,t) (by simp))
    obtain ⟨b₁,hb₁,h₁⟩ := hstep
    obtain ⟨b₂,hb₂,hfinal⟩ := ih h₁ (fun p hp => ht p (List.mem_cons_of_mem _ hp))
    refine ⟨b₂,?_,?_⟩
    · rw [List.flatMap_cons,List.foldlM_append,hb₁]
      exact hb₂
    · rw [List.append_assoc,List.length_append] at hfinal
      exact hfinal

theorem runAnalysis_enumerates {r : LinkRequest} (hr : ∀ t ∈ r.items, t.Uids) :
    ∃ b, runAnalysis r.tokens = some b ∧ Enumerates b r.items r.numbered.alternatives := by
  obtain ⟨b,hb,hfirst⟩ := enumerates_first (hr r.first (by simp [Chain.items]))
  have hrest : ∀ p ∈ r.rest, p.2.Uids :=
    fun p hp => hr p.2 (List.mem_cons_of_mem _ (List.mem_map_of_mem hp))
  obtain ⟨b',hb',hall⟩ := hfirst.foldlM hrest
  refine ⟨b',?_,hall⟩
  rw [runAnalysis,LinkRequest.tokens,List.foldlM_append,hb]
  exact hb'

end Enumerate

section Normal

variable {r : LinkRequest} {A : LogicAnalyzer}

structure NumberedNodes (r : LinkRequest) (A : LogicAnalyzer) : Prop where
  nodes : shapes A.nodes = r.items.map (·.plan.node.shape)
  pipelines : A.pipelines.map PluginPipeline.pipeline =
    r.numbered.alternatives.map (·.map Prod.snd)

theorem make_numbered (hr : ∀ t ∈ r.items, t.Uids) :
    ∃ A, LogicAnalyzer.make r.tokens = some A ∧ NumberedNodes r A := by
  obtain ⟨b,hb,h⟩ := runAnalysis_enumerates hr
  refine ⟨_,by rw [LogicAnalyzer.make,hb]; rfl,?_,?_⟩
  · have hnodes := congrArg Prod.fst
      (reset_skeleton (A := ⟨r.tokens,b.nodes,b.pipelines,0,false⟩))
    refine hnodes.trans ?_
    rw [LogicAnalyzer.skeleton,shapes,h.nodes,List.map_map]
    rfl
  · rw [← h.pipelines,LogicAnalyzer.reset,List.map_map]
    rfl

theorem NumberedNodes.node (h : NumberedNodes r A) {ptr : Nat} {t : Term}
    (ht : r.items[ptr]? = some t) :
    ∃ n, A.nodes[ptr]? = some n ∧ NodeOf t n := by
  have hshape := congrArg (·[ptr]?) h.nodes
  simp only [shapes,List.getElem?_map,ht,Option.map_some] at hshape
  obtain ⟨n,hn,heq⟩ := Option.map_eq_some_iff.mp hshape
  refine ⟨n,hn,congrArg Prod.fst heq,?_⟩
  exact congrArg Prod.snd heq

theorem NumberedNodes.exists_pipeline (h : NumberedNodes r A) {Q : PluginNodePtr → Prop} :
    (∃ p ∈ A.pipelines, ∀ ptr ∈ p.pipeline, Q ptr) ↔
      ∃ alt ∈ r.numbered.alternatives, ∀ x ∈ alt, Q x.2 := by
  constructor
  · rintro ⟨p,hp,hq⟩
    have hmem : p.pipeline ∈ A.pipelines.map PluginPipeline.pipeline := List.mem_map_of_mem hp
    rw [h.pipelines] at hmem
    obtain ⟨alt,halt,heq⟩ := List.mem_map.mp hmem
    exact ⟨alt,halt,fun x hx => hq x.2 (heq ▸ List.mem_map_of_mem hx)⟩
  · rintro ⟨alt,halt,hq⟩
    have hmem : alt.map Prod.snd ∈ A.pipelines.map PluginPipeline.pipeline := by
      rw [h.pipelines]
      exact List.mem_map_of_mem halt
    obtain ⟨p,hp,heq⟩ := List.mem_map.mp hmem
    refine ⟨p,hp,fun ptr hptr => ?_⟩
    rw [heq] at hptr
    obtain ⟨x,hx,rfl⟩ := List.mem_map.mp hptr
    exact hq x hx

theorem NumberedNodes.exists_satisfied (h : NumberedNodes r A) {P : Nat → PluginNode → Prop}
    {v : Term × Nat → Bool}
    (hP : ∀ t n i, NodeOf t n → (P i n ↔ v (t,i) = true)) :
    (∃ p ∈ A.pipelines, ∀ ptr ∈ p.pipeline, ∃ n, A.nodes[ptr]? = some n ∧ P ptr n) ↔
      r.numbered.eval v = true := by
  rw [h.exists_pipeline,eval_iff_alternative]
  refine exists_congr fun alt => and_congr_right fun halt => forall₂_congr fun x hx => ?_
  obtain ⟨t,i⟩ := x
  obtain ⟨n,hn,hnode⟩ := h.node (getElem?_of_alternative halt hx)
  rw [← hP t n i hnode]
  constructor
  · rintro ⟨n',hn',hp⟩
    obtain rfl := Option.some.inj (hn.symm.trans hn')
    exact hp
  · exact fun hp => ⟨n,hn,hp⟩

theorem NumberedNodes.normalForm (h : NumberedNodes r A) : NormalForm r A.nodes A.pipelines := by
  constructor
  · intro verdict
    rw [LinkRequest.value,← eval_numbered]
    apply h.exists_satisfied
    intro t n i hnode
    rw [PluginNode.satisfied,hnode.plugins,hnode.cut,List.head?_cons,Bool.not_not]
    rfl
  · intro verdict
    apply h.exists_satisfied
    intro t n i hnode
    rw [hnode.cut,Bool.not_not]
  · intro p hp ptr hptr
    have hmem : p.pipeline ∈ A.pipelines.map PluginPipeline.pipeline := List.mem_map_of_mem hp
    rw [h.pipelines] at hmem
    obtain ⟨alt,halt,heq⟩ := List.mem_map.mp hmem
    rw [← heq] at hptr
    obtain ⟨x,hx,rfl⟩ := List.mem_map.mp hptr
    have hitem := getElem?_of_alternative halt hx
    obtain ⟨n,hn,hnode⟩ := h.node hitem
    exact ⟨x.1,n,hitem,hn,hnode⟩

theorem make_normalForm {pm : PluginManager} (hr : ∀ t ∈ r.items, t.WellFormed pm) :
    ∃ A, LogicAnalyzer.make r.tokens = some A ∧ NormalForm r A.nodes A.pipelines := by
  obtain ⟨A,hmake,h⟩ := make_numbered fun t ht => (hr t ht).uids
  exact ⟨A,hmake,h.normalForm⟩

theorem make_normalForm_faceOrAudioMarked :
    ∃ A, LogicAnalyzer.make faceOrAudioMarked.tokens = some A ∧
      NormalForm faceOrAudioMarked A.nodes A.pipelines :=
  make_normalForm faceOrAudioMarked_wellFormed

end Normal

end Ovi
