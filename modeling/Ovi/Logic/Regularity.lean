import Ovi.Logic.AcceptedRequest

namespace Ovi

structure RegularPlan (a : Alternative) (as : List Alternative) : Prop where
  shared : ∀ x ∈ as, ∀ n ∈ x.rest, n ∈ a.nodes
  bare : ∀ x ∈ as, x.essential = false → x.first.effects = []

structure LaterPipeline (b : Analysis) (i : Nat) (p : PluginPipeline) (ptr : Nat)
    (ptrs : List Nat) : Prop where
  pipeline : p.pipeline = ptr :: ptrs
  inside : ptr < b.nodes.length
  shared : ∀ x ∈ ptrs, ∃ p₀, b.pipelines[0]? = some p₀ ∧ x ∈ p₀.pipeline
  bare : p.essential = false → ∀ node, b.nodes[ptr]? = some node → node.plugins.length = 1
  fresh : ptr + 1 = b.nodes.length → i + 1 = b.pipeline ∧ ptrs = []

structure Analysis.Regular (b : Analysis) : Prop where
  node : ∃ k, b.nodes.length = k + 1 ∧ b.pluginNode = some k
  current : b.pipeline + 1 = b.pipelines.length
  later : ∀ i p, b.pipelines[i + 1]? = some p → ∃ ptr ptrs, LaterPipeline b i p ptr ptrs

section Steps

variable {b b' : Analysis} {uid : String}

theorem Analysis.Regular.and (h : b.Regular) :
    ({ b.newNode uid with
      pipelines := b.pipelines.map (·.push b.nodes.length) } : Analysis).Regular := by
  refine ⟨⟨b.nodes.length,by simp [newNode],rfl⟩,by simpa [newNode] using h.current,?_⟩
  intro i p hp
  dsimp only at hp
  rw [List.getElem?_map] at hp
  obtain ⟨q,hq,rfl⟩ := Option.map_eq_some_iff.mp hp
  obtain ⟨ptr,ptrs,hlater⟩ := h.later i q hq
  have hpositive : 0 < b.pipelines.length := by
    have := (List.getElem?_eq_some_iff.mp hq).1
    omega
  have hinside := hlater.inside
  refine ⟨ptr,ptrs ++ [b.nodes.length],by simp [PluginPipeline.push,hlater.pipeline],?_,?_,?_,?_⟩
  · simp only [newNode,List.length_append,List.length_singleton]
    omega
  · intro x hx
    have hfirst : b.pipelines[0]? = some b.pipelines[0] := List.getElem?_eq_getElem hpositive
    refine ⟨b.pipelines[0].push b.nodes.length,by simp [hfirst],?_⟩
    rcases List.mem_append.mp hx with hx | hx
    · obtain ⟨p₀,hp₀,hx⟩ := hlater.shared x hx
      obtain rfl := Option.some.inj (hfirst.symm.trans hp₀)
      exact List.mem_append_left _ hx
    · exact List.mem_append_right _ hx
  · intro he node hnode
    simp only [newNode] at hnode
    rw [List.getElem?_append_left hinside] at hnode
    exact hlater.bare he node hnode
  · intro hlast
    simp only [newNode,List.length_append,List.length_singleton] at hlast
    omega

theorem Analysis.Regular.or (h : b.Regular) :
    ({ b.newNode uid with
      pipelines := b.pipelines ++ [PluginPipeline.make.push b.nodes.length]
      pipeline := b.pipelines.length } : Analysis).Regular := by
  refine ⟨⟨b.nodes.length,by simp [newNode],rfl⟩,by simp,?_⟩
  intro i p hp
  have hcurrent := h.current
  by_cases hi : i + 1 < b.pipelines.length
  · rw [List.getElem?_append_left hi] at hp
    obtain ⟨ptr,ptrs,hlater⟩ := h.later i p hp
    have hinside := hlater.inside
    refine ⟨ptr,ptrs,hlater.pipeline,?_,?_,?_,?_⟩
    · simp only [newNode,List.length_append,List.length_singleton]
      omega
    · intro x hx
      obtain ⟨p₀,hp₀,hx⟩ := hlater.shared x hx
      exact ⟨p₀,getElem?_append_of_some hp₀,hx⟩
    · intro he node hnode
      simp only [newNode] at hnode
      rw [List.getElem?_append_left hinside] at hnode
      exact hlater.bare he node hnode
    · intro hlast
      simp only [newNode,List.length_append,List.length_singleton] at hlast
      omega
  · have hlength := (List.getElem?_eq_some_iff.mp hp).1
    rw [List.length_append,List.length_singleton] at hlength
    have hlast : i + 1 = b.pipelines.length := by omega
    rw [hlast,List.getElem?_concat_length] at hp
    obtain rfl := Option.some.inj hp
    refine ⟨b.nodes.length,[],rfl,by simp [newNode],List.forall_mem_nil _,?_,fun _ => ⟨hlast,rfl⟩⟩
    intro _ node hnode
    simp only [newNode] at hnode
    rw [List.getElem?_concat_length] at hnode
    obtain rfl := Option.some.inj hnode
    rfl

theorem setEssential_pipeline (p : PluginPipeline) : p.setEssential.pipeline = p.pipeline := by
  unfold PluginPipeline.setEssential
  split <;> rfl

theorem marked_get {ps : List PluginPipeline} {i j : Nat} {p : PluginPipeline}
    (h : (marked ps i)[j]? = some p) : ∃ q, ps[j]? = some q ∧ p.pipeline = q.pipeline ∧
      (p.essential = false → q.essential = false) ∧
      (ps.length > 1 → j = i → q.pipeline.length = 1 → p.essential = true) := by
  unfold marked at h
  split at h
  · rw [List.getElem?_modify] at h
    obtain ⟨q,hq,rfl⟩ := Option.map_eq_some_iff.mp h
    refine ⟨q,hq,?_⟩
    split
    · refine ⟨setEssential_pipeline q,?_,fun _ _ hone => ?_⟩
      · intro he
        unfold PluginPipeline.setEssential at he
        split at he
        · exact he
        · cases he
      · simp [PluginPipeline.setEssential,hone]
    · rename_i hne
      exact ⟨rfl,id,fun _ heq => absurd heq.symm hne⟩
  · rename_i hone
    exact ⟨p,h,rfl,id,fun hlength => absurd hlength hone⟩

theorem Analysis.Regular.colon (h : b.Regular) {k : PluginNodePtr} (hk : b.pluginNode = some k) :
    ({ b with
      nodes := b.nodes.modify k (·.push uid)
      pipelines := marked b.pipelines b.pipeline } : Analysis).Regular := by
  obtain ⟨last,hlength,hlast⟩ := h.node
  obtain rfl := Option.some.inj (hlast.symm.trans hk)
  have hmarked : (marked b.pipelines b.pipeline).length = b.pipelines.length := by
    unfold marked
    split
    · exact List.length_modify _ _ _
    · rfl
  refine ⟨⟨last,by simpa using hlength,hlast⟩,h.current.trans hmarked.symm,?_⟩
  intro i p hp
  obtain ⟨q,hq,hpipeline,hessential,hmark⟩ := marked_get hp
  have hmany := (List.getElem?_eq_some_iff.mp hq).1
  obtain ⟨ptr,ptrs,hlater⟩ := h.later i q hq
  have hinside := hlater.inside
  refine ⟨ptr,ptrs,hpipeline.trans hlater.pipeline,by simpa using hinside,?_,?_,?_⟩
  · intro x hx
    obtain ⟨p₀,hp₀,hx⟩ := hlater.shared x hx
    have hfirst : 0 < (marked b.pipelines b.pipeline).length := by omega
    have hget : (marked b.pipelines b.pipeline)[0]? = some _ := List.getElem?_eq_getElem hfirst
    obtain ⟨q₀,hq₀,heq,-,-⟩ := marked_get hget
    obtain rfl := Option.some.inj (hq₀.symm.trans hp₀)
    exact ⟨_,hget,heq ▸ hx⟩
  · intro he node hnode
    simp only [List.getElem?_modify] at hnode
    obtain ⟨node',hnode',rfl⟩ := Option.map_eq_some_iff.mp hnode
    split
    · rename_i heq
      -- the pipeline of the node is the current one, and `:` has marked it
      obtain ⟨hcurrent,hnil⟩ := hlater.fresh (by omega)
      have hone : q.pipeline.length = 1 := by rw [hlater.pipeline,hnil]; rfl
      have htrue := hmark (by omega) hcurrent hone
      rw [he] at htrue
      cases htrue
    · exact hlater.bare (hessential he) node' hnode'
  · intro hfresh
    rw [List.length_modify] at hfresh
    exact hlater.fresh hfresh

theorem Analysis.Regular.plugin (h : b.Regular) (hop : b.logicalOperator ≠ .none)
    (hb : b.plugin uid = some b') : b'.Regular := by
  unfold Analysis.plugin at hb
  split at hb
  · cases hb
    exact h.and
  · cases hb
    exact h.or
  · obtain ⟨k,hk,hb⟩ := Option.bind_eq_some_iff.mp hb
    cases hb
    exact h.colon hk
  · rename_i hnone
    exact absurd hnone hop

theorem Analysis.Regular.set (h : b.Regular) (op : LogicalOperator) (cut : Bool) :
    ({ b with logicalOperator := op, cut := cut } : Analysis).Regular := by
  refine ⟨h.node,h.current,fun i p hp => ?_⟩
  obtain ⟨ptr,ptrs,hlater⟩ := h.later i p hp
  exact ⟨ptr,ptrs,hlater.pipeline,hlater.inside,hlater.shared,hlater.bare,hlater.fresh⟩

theorem Analysis.Regular.step (h : b.Regular) (hu : IsUid uid) (hop : b.logicalOperator ≠ .none)
    (hb : b.step uid = some b') : b'.Regular := by
  rw [hu.step] at hb
  obtain ⟨b₁,hb₁,rfl⟩ := Option.map_eq_some_iff.mp hb
  exact (h.plugin hop hb₁).set .none true

end Steps

section Requests

variable {b b' : Analysis} {pm : PluginManager}

def Link.operator : Link → LogicalOperator
  | .and => .and
  | .or => .or
  | .colon => .colon

theorem step_link (b : Analysis) (l : Link) :
    b.step l.token = some { b with logicalOperator := l.operator } := by
  cases l <;> rfl

theorem foldlM_cons_some {tokens : List String} {str : String}
    (h : (str :: tokens).foldlM Analysis.step b = some b') :
    ∃ b₁, b.step str = some b₁ ∧ tokens.foldlM Analysis.step b₁ = some b' := by
  rw [List.foldlM_cons] at h
  exact Option.bind_eq_some_iff.mp h

theorem Analysis.Regular.effects (h : b.Regular) {effects : List String}
    (hu : ∀ uid ∈ effects, IsUid uid)
    (hb : (effectTokens effects).foldlM Analysis.step b = some b') : b'.Regular := by
  induction effects generalizing b with
  | nil =>
    cases hb
    exact h
  | cons uid effects ih =>
    obtain ⟨hfirst,hrest⟩ := List.forall_mem_cons.mp hu
    change (oviOpColon :: uid :: effectTokens effects).foldlM Analysis.step b = _ at hb
    obtain ⟨b₁,hb₁,hb⟩ := foldlM_cons_some hb
    cases hb₁
    obtain ⟨b₂,hb₂,hb⟩ := foldlM_cons_some hb
    have hcolon := h.set .colon b.cut
    exact ih (hcolon.step hfirst nofun hb₂) hrest hb

theorem LooseTerm.WellFormed.plugin_uid {t : LooseTerm} (h : t.WellFormed pm) :
    IsUid t.plugin := isUid_of_exist h.plugin_loaded

theorem LooseTerm.WellFormed.effect_uids {t : LooseTerm} (h : t.WellFormed pm) :
    ∀ uid ∈ t.effects, IsUid uid := by
  intro uid huid
  obtain ⟨plugin,hf,-⟩ := exists_find_of_isEffect (h.effects_loaded uid huid)
  exact isUid_of_exist (exist_of_find hf)

theorem Analysis.Regular.term (h : b.Regular) (l : Link) {t : LooseTerm} (ht : t.WellFormed pm)
    (hb : (l.token :: t.tokens).foldlM Analysis.step b = some b') : b'.Regular := by
  obtain ⟨b₁,hb₁,hb⟩ := foldlM_cons_some hb
  rw [step_link] at hb₁
  cases hb₁
  have hplugin : ∀ op cut, op ≠ .none →
      (t.plugin :: effectTokens t.effects).foldlM Analysis.step
        { b with logicalOperator := op, cut := cut } = some b' → b'.Regular := by
    intro op cut hop hb
    obtain ⟨b₂,hb₂,hb⟩ := foldlM_cons_some hb
    have hstep := (h.set op cut).step ht.plugin_uid hop hb₂
    exact hstep.effects ht.effect_uids hb
  have hlink : l.operator ≠ .none := by cases l <;> decide
  rw [LooseTerm.tokens] at hb
  cases hm : t.mark with
  | cut =>
    rw [hm] at hb
    exact hplugin l.operator b.cut hlink hb
  | uncut =>
    rw [hm] at hb
    exact hplugin l.operator false hlink hb
  | uncutColon =>
    rw [hm] at hb
    exact hplugin .colon false (by decide) hb

theorem Analysis.Regular.tail (h : b.Regular) {tail : List (Link × LooseTerm)}
    (ht : ∀ p ∈ tail, LinkedTerm pm p)
    (hb : (tailTokens tail).foldlM Analysis.step b = some b') : b'.Regular := by
  induction tail generalizing b with
  | nil =>
    cases hb
    exact h
  | cons p tail ih =>
    obtain ⟨hfirst,hrest⟩ := List.forall_mem_cons.mp ht
    change (p.1.token :: p.2.tokens ++ tailTokens tail).foldlM Analysis.step b = _ at hb
    rw [List.foldlM_append] at hb
    obtain ⟨b₁,hb₁,hb⟩ := Option.bind_eq_some_iff.mp hb
    exact ih (h.term p.1 hfirst.term hb₁) hrest hb

theorem regular_of_accepted {request : List String} (hv : validateLogic pm request = true)
    (hb : runAnalysis request = some b) : b.Regular := by
  obtain ⟨-,-,t,tail,rfl,ht,htail⟩ := (validateLogic_iff_loose pm request).mp hv
  have hsplit : t.tokens ++ tailTokens tail =
      (t.mark.tokens ++ [t.plugin]) ++ (effectTokens t.effects ++ tailTokens tail) := by
    simp [LooseTerm.tokens]
  rw [runAnalysis,hsplit,List.foldlM_append] at hb
  obtain ⟨b₁,hb₁,hb⟩ := Option.bind_eq_some_iff.mp hb
  obtain ⟨cut,rfl⟩ := head_start ht.plugin_uid hb₁
  rw [List.foldlM_append] at hb
  obtain ⟨b₂,hb₂,hb⟩ := Option.bind_eq_some_iff.mp hb
  have hstart : (⟨true,.none,some 0,0,[PluginNode.make t.plugin cut],[⟨[0],0,false⟩]⟩ :
      Analysis).Regular := by
    refine ⟨⟨0,rfl,rfl⟩,rfl,fun i p hp => ?_⟩
    cases hp
  exact (hstart.effects ht.effect_uids hb₂).tail htail hb

theorem node_of_shape {n n' : NodePlan} (h : n.node.shape = n'.node.shape) : n = n' := by
  obtain ⟨plugin,effects,cut⟩ := n
  obtain ⟨plugin',effects',cut'⟩ := n'
  cases h
  rfl

theorem Analysis.Regular.plan (h : b.Regular) {a : Alternative} {as : List Alternative}
    (hs : List.Forall₂ (PipelineShows (shapes b.nodes))
      (b.pipelines.map (fun p => (p.pipeline,p.essential))) (a :: as)) : RegularPlan a as := by
  rw [List.forall₂_map_left_iff] at hs
  cases hps : b.pipelines with
  | nil =>
    rw [hps] at hs
    cases hs
  | cons p₀ ps =>
    rw [hps] at hs
    obtain ⟨hfirst,hrest⟩ := List.forall₂_cons.mp hs
    have hlater : ∀ x ∈ as, ∃ i p ptr ptrs, LaterPipeline b i p ptr ptrs ∧
        PipelineShows (shapes b.nodes) (p.pipeline,p.essential) x := by
      intro x hx
      obtain ⟨p,hp,hshows⟩ := exists_of_mem_forall₂ hrest.flip hx
      obtain ⟨i,hi⟩ := List.mem_iff_getElem?.mp hp
      obtain ⟨ptr,ptrs,hlater⟩ := h.later i p (by rw [hps]; exact hi)
      exact ⟨i,p,ptr,ptrs,hlater,hshows⟩
    constructor
    · intro x hx n hn
      obtain ⟨i,p,ptr,ptrs,hlater,hshows⟩ := hlater x hx
      have hnodes := hshows.nodes
      rw [hlater.pipeline] at hnodes
      obtain ⟨-,hnodes⟩ := List.forall₂_cons.mp hnodes
      obtain ⟨y,hy,hshape⟩ := exists_of_mem_forall₂ hnodes.flip hn
      obtain ⟨q,hq,hmem⟩ := hlater.shared y hy
      rw [hps] at hq
      obtain rfl := Option.some.inj hq
      obtain ⟨n',hn',hshape'⟩ := exists_of_mem_forall₂ hfirst.nodes hmem
      obtain rfl := node_of_shape (Option.some.inj (hshape.symm.trans hshape'))
      exact hn'
    · intro x hx he
      obtain ⟨i,p,ptr,ptrs,hlater,hshows⟩ := hlater x hx
      have hnodes := hshows.nodes
      rw [hlater.pipeline] at hnodes
      obtain ⟨hhead,-⟩ := List.forall₂_cons.mp hnodes
      have hessential : p.essential = false := hshows.essential.trans he
      rw [shapes,List.getElem?_map] at hhead
      obtain ⟨node,hnode,hshape⟩ := Option.map_eq_some_iff.mp hhead
      have hone := hlater.bare hessential node hnode
      have hplugins : node.plugins = x.first.plugins := congrArg Prod.fst hshape
      rw [hplugins,NodePlan.plugins,List.length_cons] at hone
      exact List.length_eq_zero_iff.mp (by omega)

theorem regular_of_shows {request : List String} {A : LogicAnalyzer} {a : Alternative}
    {as : List Alternative} (hv : validateLogic pm request = true)
    (hA : LogicAnalyzer.make request = some A) (hs : A.Shows (a :: as)) : RegularPlan a as := by
  rw [LogicAnalyzer.make] at hA
  obtain ⟨b,hb,hA⟩ := Option.bind_eq_some_iff.mp hA
  cases hA
  rw [LogicAnalyzer.Shows,reset_skeleton] at hs
  exact (regular_of_accepted hv hb).plan hs

end Requests

end Ovi
