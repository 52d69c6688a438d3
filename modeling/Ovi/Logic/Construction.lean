import Ovi.Logic.Simulation
import Ovi.Request.LinkGrammar

namespace Ovi
open BooleanChain

def Term.plan (t : Term) : NodePlan := ⟨t.plugin,t.effects,!t.uncut⟩

def Alternative.push (a : Alternative) (n : NodePlan) : Alternative :=
  { a with rest := a.rest ++ [n] }

def planStep (as : List Alternative) : Op × Term → List Alternative
  | (.conj,t) => as.map (·.push t.plan)
  | (.disj,t) => as ++ [⟨!t.effects.isEmpty,t.plan,[]⟩]

def LinkRequest.plan (r : LinkRequest) : List Alternative :=
  r.rest.foldl planStep [⟨false,r.first.plan,[]⟩]

structure IsUid (uid : String) : Prop where
  not_logical : isLogicalOperator uid = false
  ne_uncut : uid ≠ oviOpUncut

structure Term.Uids (t : Term) : Prop where
  plugin : IsUid t.plugin
  effects : ∀ effect ∈ t.effects, IsUid effect

structure Analysis.Ready (b : Analysis) : Prop where
  cut : b.cut = true
  operator : b.logicalOperator = .none
  current : b.pipeline + 1 = b.pipelines.length
  filled : ∀ p ∈ b.pipelines, p.pipeline ≠ []

section Steps

variable {b : Analysis} {uid : String}

theorem IsUid.step (h : IsUid uid) :
    b.step uid =
      (b.plugin uid).map (fun b => { b with logicalOperator := .none, cut := true }) := by
  have hu : (uid == oviOpUncut) = false := by simpa using h.ne_uncut
  rw [Analysis.step,hu,h.not_logical]
  cases b.plugin uid <;> rfl

theorem step_operator (op : Op) : b.step (linkOperator op) =
    some { b with logicalOperator := match op with | .conj => .and | .disj => .or } := by
  cases op <;> rfl

theorem step_colon : b.step oviOpColon = some { b with logicalOperator := .colon } := rfl

theorem step_uncut (t : Term) (h : b.cut = true) :
    (if t.uncut then [oviOpUncut] else []).foldlM Analysis.step b =
      some { b with cut := !t.uncut } := by
  obtain ⟨cut,op,node,pipeline,nodes,pipelines⟩ := b
  obtain rfl : cut = true := h
  cases t.uncut <;> rfl

theorem modify_concat {α : Type} (xs : List α) (x : α) (f : α → α) :
    (xs ++ [x]).modify xs.length f = xs ++ [f x] := by
  induction xs with
  | nil => rfl
  | cons y xs ih => exact congrArg (List.cons y) ih

def marked (pipelines : List PluginPipeline) (pipeline : Nat) : List PluginPipeline :=
  if pipelines.length > 1 then pipelines.modify pipeline PluginPipeline.setEssential else pipelines

theorem setEssential_idem (p : PluginPipeline) : p.setEssential.setEssential = p.setEssential := by
  unfold PluginPipeline.setEssential
  split <;> simp_all

theorem marked_marked (ps : List PluginPipeline) (i : Nat) :
    marked (marked ps i) i = marked ps i := by
  unfold marked
  split
  · rw [List.length_modify,if_pos ‹_›,List.modify_modify_eq]
    congr 1
    funext p
    exact setEssential_idem p
  · rfl

def markedBy (effects : List String) (ps : List PluginPipeline) (i : Nat) : List PluginPipeline :=
  if effects = [] then ps else marked ps i

theorem step_effects {base : Nodes} {node : PluginNode} (effects : List String)
    (hb : b.cut = true ∧ b.logicalOperator = .none) (hn : b.nodes = base ++ [node])
    (hp : b.pluginNode = some base.length) (he : ∀ effect ∈ effects, IsUid effect) :
    (effectTokens effects).foldlM Analysis.step b = some { b with
      nodes := base ++ [{ node with plugins := node.plugins ++ effects }]
      pipelines := markedBy effects b.pipelines b.pipeline } := by
  obtain ⟨cut,op,ptr,pipeline,nodes,pipelines⟩ := b
  obtain ⟨rfl,rfl⟩ : cut = true ∧ op = .none := hb
  obtain rfl : nodes = base ++ [node] := hn
  obtain rfl : ptr = some base.length := hp
  induction effects generalizing node pipelines with
  | nil => simp [effectTokens,markedBy]
  | cons effect effects ih =>
    have hrest := @ih (node.push effect) (fun x hx => he x (List.mem_cons_of_mem _ hx))
      (marked pipelines pipeline)
    change (oviOpColon :: effect :: effectTokens effects).foldlM Analysis.step _ = _
    rw [List.foldlM_cons,step_colon,Option.bind_eq_bind,Option.bind_some,List.foldlM_cons,
      (he effect (by simp)).step]
    simp only [Analysis.plugin,Option.bind_eq_bind,Option.bind_some,Option.map_some,modify_concat]
    refine Eq.trans hrest ?_
    simp [markedBy,marked_marked,PluginNode.push]

def Analysis.linked (b : Analysis) : List PluginPipeline × Nat :=
  match b.logicalOperator with
  | .and => (b.pipelines.map (·.push b.nodes.length),b.pipeline)
  | .or => (b.pipelines ++ [PluginPipeline.make.push b.nodes.length],b.pipelines.length)
  | _ => (b.pipelines.modify b.pipeline (·.push b.nodes.length),b.pipeline)

theorem step_head {t : Term} (hu : IsUid t.plugin) (hop : b.logicalOperator ≠ .colon) :
    ({ b with cut := !t.uncut } : Analysis).step t.plugin = some ⟨true,.none,some b.nodes.length,
      b.linked.2,b.nodes ++ [PluginNode.make t.plugin (!t.uncut)],b.linked.1⟩ := by
  rw [hu.step]
  obtain ⟨cut,op,ptr,pipeline,nodes,pipelines⟩ := b
  cases op with
  | colon => exact absurd rfl hop
  | none => rfl
  | and => rfl
  | or => rfl

theorem step_term {t : Term} (ht : t.Uids) (hcut : b.cut = true)
    (hop : b.logicalOperator ≠ .colon) :
    t.tokens.foldlM Analysis.step b = some ⟨true,.none,some b.nodes.length,b.linked.2,
      b.nodes ++ [t.plan.node],markedBy t.effects b.linked.1 b.linked.2⟩ := by
  rw [Term.tokens,List.foldlM_append,step_uncut t hcut,Option.bind_eq_bind,Option.bind_some,
    List.foldlM_cons,step_head ht.plugin hop,Option.bind_eq_bind,Option.bind_some,
    step_effects t.effects ⟨rfl,rfl⟩ rfl rfl ht.effects]
  rfl

theorem setEssential_of_two {p : PluginPipeline} (h : p.pipeline.length ≠ 1) :
    p.setEssential = p := by
  simp [PluginPipeline.setEssential,h]

theorem modify_of_forall {α : Type} {f : α → α} {xs : List α} (h : ∀ x ∈ xs, f x = x) (i : Nat) :
    xs.modify i f = xs := by
  induction xs generalizing i with
  | nil => simp
  | cons x xs ih =>
    cases i with
    | zero => rw [List.modify_zero_cons,h x (by simp)]
    | succ i => rw [List.modify_succ_cons,ih (fun y hy => h y (List.mem_cons_of_mem _ hy))]

-- behind `&` the current pipeline holds at least two nodes, so `:` never marks it
theorem markedBy_and (effects : List String) (n i : Nat) {ps : List PluginPipeline}
    (h : ∀ p ∈ ps, p.pipeline ≠ []) :
    markedBy effects (ps.map (·.push n)) i = ps.map (·.push n) := by
  have hall : ∀ p ∈ ps.map (·.push n), p.setEssential = p := by
    intro p hp
    obtain ⟨q,hq,rfl⟩ := List.mem_map.mp hp
    have hpos := List.length_pos_iff.mpr (h q hq)
    refine setEssential_of_two ?_
    simp only [PluginPipeline.push,List.length_append,List.length_cons,List.length_nil]
    omega
  unfold markedBy marked
  split
  · rfl
  · split
    · exact modify_of_forall hall i
    · rfl

theorem markedBy_or (effects : List String) (n : Nat) {ps : List PluginPipeline} (h : ps ≠ []) :
    markedBy effects (ps ++ [PluginPipeline.make.push n]) ps.length =
      ps ++ [⟨[n],0,!effects.isEmpty⟩] := by
  have hlen : (ps ++ [PluginPipeline.make.push n]).length > 1 := by
    have := List.length_pos_iff.mpr h
    simp only [List.length_append,List.length_cons,List.length_nil]
    omega
  cases effects with
  | nil => rfl
  | cons effect effects =>
    rw [markedBy,if_neg (by simp),marked,if_pos hlen,modify_concat]
    rfl

end Steps

section Shown

structure Builds (b : Analysis) (as : List Alternative) : Prop where
  ready : b.Ready
  shows : List.Forall₂ (PipelineShows (shapes b.nodes))
    (b.pipelines.map (fun p => (p.pipeline,p.essential))) as

variable {sh : List (List String × Bool)} {p : List PluginNodePtr × Bool} {a : Alternative}
  {b : Analysis} {as : List Alternative}

theorem getElem?_append_of_some {α : Type} {xs ys : List α} {i : Nat} {x : α}
    (h : xs[i]? = some x) : (xs ++ ys)[i]? = some x := by
  rw [List.getElem?_append_left (List.getElem?_eq_some_iff.mp h).1,h]

theorem PipelineShows.append (h : PipelineShows sh p a) (more : List (List String × Bool)) :
    PipelineShows (sh ++ more) p a :=
  ⟨h.nodes.imp (fun _ _ h => getElem?_append_of_some h),h.nodup,h.essential⟩

theorem exists_of_mem_forall₂ {α β : Type} {R : α → β → Prop} {xs : List α} {ys : List β} {x : α}
    (h : List.Forall₂ R xs ys) (hx : x ∈ xs) : ∃ y ∈ ys, R x y := by
  induction h with
  | nil => cases hx
  | @cons x' y xs ys hxy _ ih =>
    rcases List.mem_cons.mp hx with rfl | hx
    · exact ⟨y,by simp,hxy⟩
    · obtain ⟨y',hy',hr⟩ := ih hx
      exact ⟨y',List.mem_cons_of_mem _ hy',hr⟩

theorem PipelineShows.lt_length (h : PipelineShows sh p a) : ∀ ptr ∈ p.1, ptr < sh.length := by
  intro ptr hptr
  obtain ⟨n,-,hn⟩ := exists_of_mem_forall₂ h.nodes hptr
  exact (List.getElem?_eq_some_iff.mp hn).1

theorem PipelineShows.push (h : PipelineShows sh p a) (n : NodePlan) :
    PipelineShows (sh ++ [n.node.shape]) (p.1 ++ [sh.length],p.2) (a.push n) := by
  have hlast : (sh ++ [n.node.shape])[sh.length]? = some n.node.shape := by simp
  refine ⟨?_,?_,h.essential⟩
  · exact List.rel_append (h.append [n.node.shape]).nodes (.cons hlast .nil)
  · rw [List.nodup_append]
    refine ⟨h.nodup,List.pairwise_singleton _ _,?_⟩
    intro x hx y hy
    rw [List.mem_singleton.mp hy]
    exact Nat.ne_of_lt (h.lt_length x hx)

theorem PipelineShows.single (sh : List (List String × Bool)) (n : NodePlan) (essential : Bool) :
    PipelineShows (sh ++ [n.node.shape]) ([sh.length],essential) ⟨essential,n,[]⟩ := by
  have hlast : (sh ++ [n.node.shape])[sh.length]? = some n.node.shape := by simp
  exact ⟨.cons hlast .nil,List.pairwise_singleton _ _,rfl⟩

theorem shapes_append (b : Analysis) (n : NodePlan) :
    shapes (b.nodes ++ [n.node]) = shapes b.nodes ++ [n.node.shape] := by
  simp [shapes]

theorem Analysis.Ready.and_term (h : b.Ready) {t : Term} (ht : t.Uids) :
    (linkOperator .conj :: t.tokens).foldlM Analysis.step b =
      some ⟨true,.none,some b.nodes.length,b.pipeline,b.nodes ++ [t.plan.node],
        b.pipelines.map (·.push b.nodes.length)⟩ := by
  have hmark := markedBy_and t.effects b.nodes.length b.pipeline h.filled
  rw [List.foldlM_cons,step_operator]
  refine (step_term (b := { b with logicalOperator := .and }) ht h.cut nofun).trans ?_
  simp only [Analysis.linked,hmark]

theorem Analysis.Ready.or_term (h : b.Ready) {t : Term} (ht : t.Uids) :
    (linkOperator .disj :: t.tokens).foldlM Analysis.step b =
      some ⟨true,.none,some b.nodes.length,b.pipelines.length,b.nodes ++ [t.plan.node],
        b.pipelines ++ [⟨[b.nodes.length],0,!t.effects.isEmpty⟩]⟩ := by
  have hne : b.pipelines ≠ [] := by
    intro hnil
    have := h.current
    simp [hnil] at this
  have hmark := markedBy_or t.effects b.nodes.length hne
  rw [List.foldlM_cons,step_operator]
  refine (step_term (b := { b with logicalOperator := .or }) ht h.cut nofun).trans ?_
  simp only [Analysis.linked,hmark]

theorem first_term {t : Term} (ht : t.Uids) : t.tokens.foldlM Analysis.step Analysis.start =
    some ⟨true,.none,some 0,0,[t.plan.node],[⟨[0],0,false⟩]⟩ := by
  have hmark : markedBy t.effects [⟨[0],0,false⟩] 0 = [⟨[0],0,false⟩] := by
    unfold markedBy
    split <;> rfl
  refine (step_term (b := Analysis.start) ht rfl nofun).trans ?_
  simp only [Analysis.linked,Analysis.start,List.modify_zero_cons,List.length_nil,
    PluginPipeline.push,PluginPipeline.make,List.nil_append,hmark]

theorem Builds.and_term (h : Builds b as) {t : Term} (ht : t.Uids) :
    ∃ b', (linkOperator .conj :: t.tokens).foldlM Analysis.step b = some b' ∧
      Builds b' (planStep as (.conj,t)) := by
  refine ⟨_,h.ready.and_term ht,⟨rfl,rfl,?_,?_⟩,?_⟩
  · simpa using h.ready.current
  · intro p hp
    obtain ⟨q,-,rfl⟩ := List.mem_map.mp hp
    simp [PluginPipeline.push]
  · rw [shapes_append,List.map_map,planStep,List.forall₂_map_left_iff,
      List.forall₂_map_right_iff]
    have hshows := h.shows
    rw [List.forall₂_map_left_iff] at hshows
    refine hshows.imp (fun p a hp => ?_)
    have hlen : (shapes b.nodes).length = b.nodes.length := List.length_map _
    exact hlen ▸ hp.push t.plan

theorem Builds.or_term (h : Builds b as) {t : Term} (ht : t.Uids) :
    ∃ b', (linkOperator .disj :: t.tokens).foldlM Analysis.step b = some b' ∧
      Builds b' (planStep as (.disj,t)) := by
  refine ⟨_,h.ready.or_term ht,⟨rfl,rfl,?_,?_⟩,?_⟩
  · simp
  · intro p hp
    rcases List.mem_append.mp hp with hp | hp
    · exact h.ready.filled p hp
    · simp [List.mem_singleton.mp hp]
  · rw [shapes_append,List.map_append,planStep]
    refine List.rel_append (h.shows.imp (fun p a hp => hp.append _)) ?_
    have hlen : (shapes b.nodes).length = b.nodes.length := List.length_map _
    exact .cons (hlen ▸ PipelineShows.single (shapes b.nodes) t.plan _) .nil

theorem builds_first {t : Term} (ht : t.Uids) :
    ∃ b, t.tokens.foldlM Analysis.step Analysis.start = some b ∧ Builds b [⟨false,t.plan,[]⟩] :=
  ⟨_,first_term ht,⟨rfl,rfl,rfl,by simp⟩,.cons (PipelineShows.single [] t.plan false) .nil⟩

theorem Builds.foldlM (h : Builds b as) {rest : List (Op × Term)} (ht : ∀ p ∈ rest, p.2.Uids) :
    ∃ b', (rest.flatMap (fun p => linkOperator p.1 :: p.2.tokens)).foldlM Analysis.step b =
      some b' ∧ Builds b' (rest.foldl planStep as) := by
  induction rest generalizing b as with
  | nil => exact ⟨b,rfl,h⟩
  | cons p rest ih =>
    obtain ⟨op,t⟩ := p
    have hstep : ∃ b₁, (linkOperator op :: t.tokens).foldlM Analysis.step b = some b₁ ∧
        Builds b₁ (planStep as (op,t)) := by
      cases op with
      | conj => exact h.and_term (ht (.conj,t) (by simp))
      | disj => exact h.or_term (ht (.disj,t) (by simp))
    obtain ⟨b₁,hb₁,hbuilds⟩ := hstep
    obtain ⟨b₂,hb₂,hfinal⟩ := ih hbuilds (fun p hp => ht p (List.mem_cons_of_mem _ hp))
    refine ⟨b₂,?_,hfinal⟩
    rw [List.flatMap_cons,List.foldlM_append,hb₁]
    exact hb₂

theorem make_shows {r : LinkRequest} (hr : ∀ t ∈ r.items, t.Uids) :
    ∃ A, LogicAnalyzer.make r.tokens = some A ∧ A.Shows r.plan := by
  obtain ⟨b,hb,hfirst⟩ := builds_first (hr r.first (by simp [Chain.items]))
  have hrest : ∀ p ∈ r.rest, p.2.Uids :=
    fun p hp => hr p.2 (List.mem_cons_of_mem _ (List.mem_map_of_mem hp))
  obtain ⟨b',hb',hall⟩ := hfirst.foldlM hrest
  have hrun : runAnalysis r.tokens = some b' := by
    rw [runAnalysis,LinkRequest.tokens,List.foldlM_append,hb]
    exact hb'
  refine ⟨_,by rw [LogicAnalyzer.make,hrun]; rfl,?_⟩
  rw [LogicAnalyzer.Shows,reset_skeleton]
  exact hall.shows

end Shown

end Ovi
