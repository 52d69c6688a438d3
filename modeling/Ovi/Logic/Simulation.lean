import Ovi.Logic.LogicAnalyzer
import Ovi.Logic.Traversal
import Mathlib.Data.List.Forall2

namespace Ovi

def PluginNode.shape (n : PluginNode) : List String × Bool := (n.plugins,n.cut)

abbrev shapes (nodes : Nodes) : List (List String × Bool) := nodes.map PluginNode.shape

def LogicAnalyzer.skeleton (A : LogicAnalyzer) :
    List (List String × Bool) × List (List PluginNodePtr × Bool) :=
  (shapes A.nodes,A.pipelines.map (fun p => (p.pipeline,p.essential)))

def NodePlan.node (n : NodePlan) : PluginNode := ⟨n.plugins,0,true,n.cut⟩

def NodePlan.popped (n : NodePlan) : PluginNode := ⟨n.plugins,1,true,n.cut⟩

theorem NodePlan.node_pop (n : NodePlan) : n.node.pop = (n.plugin,n.popped) := rfl

def Fresh (nodes : Nodes) (ptr : PluginNodePtr) (n : NodePlan) : Prop := nodes[ptr]? = some n.node

structure PipelineShows (shapes : List (List String × Bool)) (p : List PluginNodePtr × Bool)
    (a : Alternative) : Prop where
  nodes : List.Forall₂ (fun ptr n => shapes[ptr]? = some n.node.shape) p.1 a.nodes
  nodup : p.1.Nodup
  essential : p.2 = a.essential

def LogicAnalyzer.Shows (A : LogicAnalyzer) (plan : List Alternative) : Prop :=
  List.Forall₂ (PipelineShows A.skeleton.1) A.skeleton.2 plan

structure Focus (A : LogicAnalyzer) (c : Cursor) (p : PluginPipeline) (ptr : PluginNodePtr)
    (ptrs : List PluginNodePtr) (n : PluginNode) : Prop where
  pipeline : A.pipelines[A.pos]? = some p
  drop : p.pipeline.drop p.pos = ptr :: ptrs
  nodup : (ptr :: ptrs).Nodup
  node : A.nodes[ptr]? = some n
  left : n.plugins.drop n.pos = c.left
  pos : n.pos = c.pos
  included : n.included = c.included
  cut : n.cut = c.cut
  fresh : List.Forall₂ (Fresh A.nodes) ptrs c.nodes
  alts : List.Forall₂ (PipelineShows A.skeleton.1) (A.skeleton.2.drop (A.pos + 1)) c.alts

def At (A : LogicAnalyzer) (c : Cursor) : Prop := ∃ p ptr ptrs node, Focus A c p ptr ptrs node

section Heap

variable {nodes : Nodes} {ptr ptr' : PluginNodePtr} {node node' : PluginNode}

theorem map_set {α β : Type} {f : α → β} {xs : List α} {i : Nat} {x y : α} (h : xs[i]? = some x)
    (hf : f y = f x) : (xs.set i y).map f = xs.map f := by
  rw [List.map_set,hf]
  apply List.ext_getElem?
  intro j
  rw [List.getElem?_set]
  split
  · rename_i hj
    subst hj
    obtain ⟨hlt,rfl⟩ := List.getElem?_eq_some_iff.mp h
    simp [hlt]
  · rfl

theorem getElem?_set_of_some {α : Type} {xs : List α} {i : Nat} {x y : α} (h : xs[i]? = some x) :
    (xs.set i y)[i]? = some y := by
  rw [List.getElem?_set_self (List.getElem?_eq_some_iff.mp h).1]

theorem fresh_set {n : NodePlan} (hne : ptr ≠ ptr') (h : Fresh nodes ptr' n) :
    Fresh (nodes.set ptr node') ptr' n := by
  rw [Fresh,List.getElem?_set_ne hne]
  exact h

theorem fresh_forall_set {ptrs : List PluginNodePtr} {ns : List NodePlan} (hn : ptr ∉ ptrs)
    (h : List.Forall₂ (Fresh nodes) ptrs ns) :
    List.Forall₂ (Fresh (nodes.set ptr node')) ptrs ns := by
  induction h with
  | nil => exact .nil
  | cons hh _ ih =>
    rw [List.mem_cons,not_or] at hn
    exact .cons (fresh_set hn.1 hh) (ih hn.2)

end Heap

section Advance

def posted (node : PluginNode) (b : Bool) : PluginNode :=
  if node.pos = 1 then { node with included := b } else node

theorem post_eq (node : PluginNode) (b : Bool) : node.post b = (!node.cut || b,posted node b) := by
  obtain ⟨plugins,pos,included,cut⟩ := node
  by_cases h : pos = 1 <;> cases cut <;> simp [PluginNode.post,posted,h]

theorem posted_shape (node : PluginNode) (b : Bool) : (posted node b).shape = node.shape := by
  unfold posted
  split <;> rfl

theorem pop_shape (node : PluginNode) : node.pop.2.shape = node.shape := by
  unfold PluginNode.pop
  split
  · rfl
  · split <;> rfl

variable {A : LogicAnalyzer} {c : Cursor} {p : PluginPipeline} {ptr : PluginNodePtr}
  {ptrs : List PluginNodePtr} {node : PluginNode} {b : Bool}

def Cursor.posted (c : Cursor) (b : Bool) : Bool := if c.pos = 1 then b else c.included

theorem Focus.posted_included (h : Focus A c p ptr ptrs node) :
    (posted node b).included = c.posted b := by
  unfold Ovi.posted Cursor.posted
  rw [h.pos]
  split
  · rfl
  · exact h.included

theorem Focus.posted_left (h : Focus A c p ptr ptrs node) :
    (posted node b).plugins.drop (posted node b).pos = c.left := by
  unfold Ovi.posted
  split <;> exact h.left

theorem Focus.posted_pos (h : Focus A c p ptr ptrs node) : (posted node b).pos = c.pos := by
  unfold Ovi.posted
  split <;> exact h.pos

theorem Focus.ptr_get (h : Focus A c p ptr ptrs node) : p.pipeline[p.pos]? = some ptr := by
  have hd := congrArg List.head? h.drop
  simpa [List.head?_drop] using hd

theorem Focus.ptrs_drop (h : Focus A c p ptr ptrs node) : p.pipeline.drop (p.pos + 1) = ptrs := by
  have hd := congrArg List.tail h.drop
  simpa [List.tail_drop] using hd

theorem Focus.advance_eq (h : Focus A c p ptr ptrs node) :
    A.advance b = (p.pop (A.nodes.set ptr (posted node b)) (c.include? b)).map (fun r =>
      (r.1,{ A with
        included := c.include? b
        nodes := r.2.2
        pipelines := A.pipelines.set A.pos r.2.1 })) := by
  have hcut : (!node.cut || b) = c.include? b := by rw [h.cut,Cursor.include?]
  unfold LogicAnalyzer.advance
  simp only [h.pipeline,PluginPipeline.current,h.ptr_get,h.node,post_eq,hcut,
    Option.bind_eq_bind,Option.bind_some]
  cases p.pop (A.nodes.set ptr (posted node b)) (c.include? b) <;> rfl

theorem Focus.popNode_eq (h : Focus A c p ptr ptrs node) :
    p.popNode (A.nodes.set ptr (posted node b)) =
      some ((posted node b).pop.1,A.nodes.set ptr (posted node b).pop.2) := by
  unfold PluginPipeline.popNode
  simp [h.ptr_get,getElem?_set_of_some h.node]

theorem Focus.pop_emit (h : Focus A c p ptr ptrs node) {uid : String} {left : List String}
    (hp : c.posted b = true) (hl : c.left = uid :: left) :
    (posted node b).pop = (uid,{ posted node b with pos := c.pos + 1 }) := by
  have hget : (posted node b).plugins[(posted node b).pos]? = some uid := by
    have hd := congrArg List.head? ((h.posted_left (b := b)).trans hl)
    simpa [List.head?_drop] using hd
  rw [h.posted_pos] at hget
  simp [PluginNode.pop,h.posted_included,hp,hget,h.posted_pos]

theorem Focus.pop_empty (h : Focus A c p ptr ptrs node) (hp : c.posted b = false ∨ c.left = []) :
    (posted node b).pop = ("",posted node b) := by
  rcases hp with hp | hl
  · simp [PluginNode.pop,h.posted_included,hp]
  · have hget : (posted node b).plugins[(posted node b).pos]? = none := by
      rw [List.getElem?_eq_none_iff,← List.drop_eq_nil_iff,h.posted_left,hl]
    simp [PluginNode.pop,hget]

structure Advanced (A A' : LogicAnalyzer) (included : Bool) : Prop where
  skeleton : A'.skeleton = A.skeleton
  pos : A'.pos = A.pos
  included : A'.included = included

theorem Focus.advanced (h : Focus A c p ptr ptrs node) {nodes : Nodes} {p' : PluginPipeline}
    {included : Bool} (hn : shapes nodes = shapes A.nodes)
    (hp : (p'.pipeline,p'.essential) = (p.pipeline,p.essential)) :
    Advanced A { A with
      included := included
      nodes := nodes
      pipelines := A.pipelines.set A.pos p' } included :=
  ⟨Prod.ext hn (map_set h.pipeline hp),rfl,rfl⟩

theorem Focus.shapes_posted (h : Focus A c p ptr ptrs node) :
    shapes (A.nodes.set ptr (posted node b)) = shapes A.nodes :=
  map_set h.node (posted_shape node b)

theorem Focus.shapes_pop (h : Focus A c p ptr ptrs node) :
    shapes (A.nodes.set ptr (posted node b).pop.2) = shapes A.nodes :=
  map_set h.node ((pop_shape _).trans (posted_shape node b))

theorem Focus.advance_blocked (h : Focus A c p ptr ptrs node) (hb : c.include? b = false) :
    ∃ A', A.advance b = some ("",A') ∧ Advanced A A' (c.include? b) := by
  have hadv : Advanced A { A with
      included := c.include? b
      nodes := A.nodes.set ptr (posted node b)
      pipelines := A.pipelines.set A.pos p } (c.include? b) := h.advanced h.shapes_posted rfl
  refine ⟨_,?_,hadv⟩
  rw [h.advance_eq,hb]
  rfl

theorem Focus.advance_emit (h : Focus A c p ptr ptrs node) (hb : c.include? b = true)
    {uid : String} {left : List String} (hp : c.posted b = true) (hl : c.left = uid :: left)
    (huid : uid ≠ "") :
    ∃ A', A.advance b = some (uid,A') ∧ Advanced A A' true ∧
      At A' { c with pos := c.pos + 1, included := true, left := left } := by
  have hpop := h.pop_emit hp hl
  have hadv : Advanced A { A with
      included := true
      nodes := A.nodes.set ptr (posted node b).pop.2
      pipelines := A.pipelines.set A.pos p } true := h.advanced h.shapes_pop rfl
  refine ⟨_,?_,hadv,p,ptr,ptrs,(posted node b).pop.2,?_⟩
  · rw [h.advance_eq,hb,PluginPipeline.pop,h.popNode_eq]
    simp [hpop,huid]
  · have hnotin := (List.nodup_cons.mp h.nodup).1
    refine ⟨?_,h.drop,h.nodup,getElem?_set_of_some h.node,?_,?_,?_,?_,
      fresh_forall_set hnotin h.fresh,?_⟩
    · exact getElem?_set_of_some h.pipeline
    · have hd := congrArg List.tail ((h.posted_left (b := b)).trans hl)
      rw [List.tail_drop,h.posted_pos] at hd
      simpa [hpop] using hd
    · simp [hpop]
    · simpa [hpop] using h.posted_included.trans hp
    · have hshape := congrArg Prod.snd (posted_shape node b)
      simpa [hpop,PluginNode.shape] using hshape.trans h.cut
    · rw [hadv.skeleton]
      exact h.alts

theorem Focus.advance_next (h : Focus A c p ptr ptrs node) (hb : c.include? b = true)
    (hp : c.posted b = false ∨ c.left = []) {n : NodePlan} {ns : List NodePlan}
    (hn : c.nodes = n :: ns) :
    ∃ A', A.advance b = some (n.plugin,A') ∧ Advanced A A' true ∧
      At A' (Cursor.afterHead n ns c.alts) := by
  have hpop := h.pop_empty hp
  have hfresh := h.fresh
  rw [hn] at hfresh
  obtain ⟨ptr',ptrs',hget,hrest,rfl⟩ := List.forall₂_cons_right_iff.mp hfresh
  obtain ⟨hnotin,hnodup⟩ := List.nodup_cons.mp h.nodup
  obtain ⟨hne,hnotin'⟩ := not_or.mp (List.mem_cons.not.mp hnotin)
  let nodes := A.nodes.set ptr (posted node b)
  have hnode : nodes[ptr']? = some n.node := fresh_set hne hget
  have hptr : p.pipeline[p.pos + 1]? = some ptr' := by
    have hd := congrArg List.head? h.ptrs_drop
    simpa [List.head?_drop] using hd
  have hlt : ¬ p.pos + 1 ≥ p.pipeline.length := by
    have := (List.getElem?_eq_some_iff.mp hptr).1
    omega
  have hadv : Advanced A { A with
      included := true
      nodes := nodes.set ptr' n.popped
      pipelines := A.pipelines.set A.pos { p with pos := p.pos + 1 } } true :=
    h.advanced ((map_set (y := n.popped) hnode rfl).trans h.shapes_posted) rfl
  refine ⟨_,?_,hadv,{ p with pos := p.pos + 1 },ptr',ptrs',n.popped,?_⟩
  · rw [h.advance_eq,hb,PluginPipeline.pop,h.popNode_eq]
    simp [hpop,hlt,PluginPipeline.popNode,hptr,hnode,nodes,n.node_pop]
  · refine ⟨?_,h.ptrs_drop,hnodup,getElem?_set_of_some hnode,?_,?_,?_,?_,
      fresh_forall_set (List.nodup_cons.mp hnodup).1 (fresh_forall_set hnotin' hrest),?_⟩
    · exact getElem?_set_of_some h.pipeline
    · rfl
    · rfl
    · rfl
    · rfl
    · rw [hadv.skeleton]
      exact h.alts

theorem Focus.advance_finish (h : Focus A c p ptr ptrs node) (hb : c.include? b = true)
    (hp : c.posted b = false ∨ c.left = []) (hn : c.nodes = []) :
    ∃ A', A.advance b = some (oviEopp,A') ∧ Advanced A A' true := by
  have hpop := h.pop_empty hp
  have hfresh := h.fresh
  rw [hn] at hfresh
  obtain rfl := List.forall₂_nil_right_iff.mp hfresh
  have hle : p.pos + 1 ≥ p.pipeline.length := List.drop_eq_nil_iff.mp h.ptrs_drop
  have hadv : Advanced A { A with
      included := true
      nodes := A.nodes.set ptr (posted node b)
      pipelines := A.pipelines.set A.pos { p with pos := p.pos + 1 } } true :=
    h.advanced h.shapes_posted rfl
  refine ⟨_,?_,hadv⟩
  rw [h.advance_eq,hb,PluginPipeline.pop,h.popNode_eq]
  simp [hpop,hle]

end Advance

section Reset

theorem foldl_reset_get (ptrs : List PluginNodePtr) (nodes : Nodes) (ptr : PluginNodePtr) :
    (ptrs.foldl (fun nodes ptr => nodes.modify ptr PluginNode.reset) nodes)[ptr]? =
      if ptr ∈ ptrs then nodes[ptr]?.map PluginNode.reset else nodes[ptr]? := by
  induction ptrs generalizing nodes with
  | nil => simp
  | cons p ptrs ih =>
    rw [List.foldl_cons,ih,List.getElem?_modify]
    by_cases hp : p = ptr
    · subst hp
      by_cases hmem : p ∈ ptrs
      · cases nodes[p]? <;> simp [hmem,PluginNode.reset]
      · simp [hmem]
    · simp [hp,Ne.symm hp,List.mem_cons]

theorem resetNodes_shapes (p : PluginPipeline) (nodes : Nodes) :
    shapes (p.resetNodes nodes) = shapes nodes := by
  apply List.ext_getElem?
  intro ptr
  rw [shapes,shapes,List.getElem?_map,List.getElem?_map,PluginPipeline.resetNodes,
    foldl_reset_get]
  split
  · cases nodes[ptr]? <;> rfl
  · rfl

theorem fresh_of_reset {ptrs : List PluginNodePtr} {nodes : Nodes} {ptr : PluginNodePtr}
    {n : NodePlan} (hmem : ptr ∈ ptrs) (h : (shapes nodes)[ptr]? = some n.node.shape) :
    Fresh (ptrs.foldl (fun nodes ptr => nodes.modify ptr PluginNode.reset) nodes) ptr n := by
  rw [Fresh,foldl_reset_get,if_pos hmem]
  rw [shapes,List.getElem?_map] at h
  cases hn : nodes[ptr]? with
  | none => simp [hn] at h
  | some node =>
    rw [hn,Option.map_some,Option.some_inj] at h
    obtain ⟨hp,hc⟩ := Prod.mk.inj h
    simp only [Option.map_some,PluginNode.reset,hp,hc,NodePlan.node]

theorem fresh_forall_of_reset {ptrs sub : List PluginNodePtr} {nodes : Nodes} {ns : List NodePlan}
    (hsub : ∀ ptr ∈ sub, ptr ∈ ptrs)
    (h : List.Forall₂ (fun ptr n => (shapes nodes)[ptr]? = some n.node.shape) sub ns) :
    List.Forall₂
      (Fresh (ptrs.foldl (fun nodes ptr => nodes.modify ptr PluginNode.reset) nodes)) sub ns := by
  induction h with
  | nil => exact .nil
  | cons hh _ ih =>
    exact .cons (fresh_of_reset (hsub _ (by simp)) hh)
      (ih (fun p hp => hsub p (List.mem_cons_of_mem _ hp)))

-- both `reset` and the jump to another pipeline put a rewound pipeline over fresh nodes
theorem at_start {A : LogicAnalyzer} {p : PluginPipeline} {a : Alternative}
    {as : List Alternative} (hp : A.pipelines[A.pos]? = some p) (hpos : p.pos = 0)
    (hshows : PipelineShows (shapes A.nodes) (p.pipeline,p.essential) a)
    (hfresh : List.Forall₂ (Fresh A.nodes) p.pipeline a.nodes)
    (has : List.Forall₂ (PipelineShows A.skeleton.1) (A.skeleton.2.drop (A.pos + 1)) as) :
    At A (Cursor.start a as) := by
  have hnodes : a.nodes = a.first :: a.rest := rfl
  rw [hnodes] at hfresh
  obtain ⟨ptr,ptrs,hget,hrest,hcons⟩ := List.forall₂_cons_right_iff.mp hfresh
  have hnodup : (ptr :: ptrs).Nodup := by
    rw [← hcons]
    exact hshows.nodup
  have hdrop : p.pipeline.drop p.pos = ptr :: ptrs := by
    rw [hpos,List.drop_zero,hcons]
  exact ⟨p,ptr,ptrs,a.first.node,hp,hdrop,hnodup,hget,rfl,rfl,rfl,rfl,hrest,has⟩

variable {A : LogicAnalyzer}

theorem skeleton_get (pos : Nat) {q : List PluginNodePtr × Bool} (h : A.skeleton.2[pos]? = some q) :
    ∃ p, A.pipelines[pos]? = some p ∧ q = (p.pipeline,p.essential) := by
  rw [LogicAnalyzer.skeleton,List.getElem?_map,Option.map_eq_some_iff] at h
  obtain ⟨p,hp,rfl⟩ := h
  exact ⟨p,hp,rfl⟩

theorem enter_at {pos : Nat} {a : Alternative} {as : List Alternative}
    (h : List.Forall₂ (PipelineShows A.skeleton.1) (A.skeleton.2.drop pos) (a :: as)) :
    ∃ A', A.enter pos = some A' ∧ A'.skeleton = A.skeleton ∧ A'.included = A.included ∧
      At A' (Cursor.start a as) := by
  obtain ⟨q,qs,hq,hqs,hdrop⟩ := List.forall₂_cons_right_iff.mp h
  have hget : A.skeleton.2[pos]? = some q := by
    have hd := congrArg List.head? hdrop
    simpa [List.head?_drop] using hd
  have htail : A.skeleton.2.drop (pos + 1) = qs := by
    have hd := congrArg List.tail hdrop
    simpa [List.tail_drop] using hd
  obtain ⟨p,hp,rfl⟩ := skeleton_get _ hget
  have hshapes := resetNodes_shapes p A.nodes
  have hskeleton : ({ A with
      pos := pos
      nodes := p.resetNodes A.nodes
      pipelines := A.pipelines.set pos p.rewind } : LogicAnalyzer).skeleton = A.skeleton :=
    Prod.ext hshapes (map_set (y := p.rewind) hp rfl)
  refine ⟨_,?_,hskeleton,rfl,?_⟩
  · simp [LogicAnalyzer.enter,hp]
  · have hshows : PipelineShows (shapes (p.resetNodes A.nodes)) (p.pipeline,p.essential) a := by
      rw [hshapes]
      exact hq
    refine at_start (p := p.rewind) (getElem?_set_of_some hp) rfl hshows ?_ ?_
    · exact fresh_forall_of_reset (fun _ h => h) hq.nodes
    · rw [hskeleton,htail]
      exact hqs

theorem foldl_resetNodes (ps : List PluginPipeline) (nodes : Nodes) :
    ps.foldl (fun nodes p => p.resetNodes nodes) nodes =
      (ps.flatMap PluginPipeline.pipeline).foldl
        (fun nodes ptr => nodes.modify ptr PluginNode.reset) nodes := by
  rw [List.foldl_flatMap]
  rfl

theorem reset_skeleton : A.reset.skeleton = A.skeleton := by
  refine Prod.ext ?_ ?_
  · rw [LogicAnalyzer.skeleton,LogicAnalyzer.reset,foldl_resetNodes]
    exact resetNodes_shapes ⟨A.pipelines.flatMap PluginPipeline.pipeline,0,false⟩ A.nodes
  · simp [LogicAnalyzer.skeleton,LogicAnalyzer.reset,PluginPipeline.rewind]

theorem reset_at {a : Alternative} {as : List Alternative} (h : A.Shows (a :: as)) :
    At A.reset (Cursor.start a as) := by
  have hsk := reset_skeleton (A := A)
  have h' := h
  rw [LogicAnalyzer.Shows,← hsk] at h'
  obtain ⟨q,qs,hq,hqs,hcons⟩ := List.forall₂_cons_right_iff.mp h'
  obtain ⟨q',qs',hq',-,hcons'⟩ := List.forall₂_cons_right_iff.mp h
  have hqq : q' = q := by
    rw [hsk] at hcons
    exact (List.cons.inj (hcons'.symm.trans hcons)).1
  subst hqq
  obtain ⟨p,hp,rfl⟩ := skeleton_get 0 (by rw [hcons']; rfl)
  have hmem : p ∈ A.pipelines := List.mem_of_getElem? hp
  refine at_start (p := p.rewind) ?_ rfl hq ?_ ?_
  · simp [LogicAnalyzer.reset,hp]
  · rw [LogicAnalyzer.reset,foldl_resetNodes]
    exact fresh_forall_of_reset
      (fun ptr hptr => List.mem_flatMap.mpr ⟨p,hmem,hptr⟩) hq'.nodes
  · have hd : A.reset.skeleton.2.drop 1 = qs := by rw [hcons]; rfl
    exact hd ▸ hqs

end Reset

section NextPlugin

variable {A : LogicAnalyzer} {c : Cursor} {b : Bool}

structure Genuine (uid : String) : Prop where
  ne_empty : uid ≠ ""
  ne_eopp : uid ≠ oviEopp
  ne_eop : uid ≠ oviEop

def Lands (A : LogicAnalyzer) (included : Bool) (target : Option (String × Cursor))
    (result : Option (String × LogicAnalyzer)) : Prop :=
  match target with
  | none => ∃ A', result = some (oviEop,A') ∧ A'.skeleton = A.skeleton ∧ A'.included = included
  | some (uid,c) => ∃ A', result = some (uid,A') ∧ A'.skeleton = A.skeleton ∧ At A' c

def LogicAnalyzer.jump (depth : Nat) (A : LogicAnalyzer) (pos : Nat) :
    Option (String × LogicAnalyzer) :=
  if pos ≥ A.pipelines.length then some (oviEop,{ A with pos := pos })
  else do
    let A ← A.enter pos
    A.nextPluginAux depth true

theorem nextPluginAux_succ (depth : Nat) (A : LogicAnalyzer) (b : Bool) :
    LogicAnalyzer.nextPluginAux (depth + 1) A b = (A.advance b).bind (fun r =>
      if r.1 = oviEopp ∨ r.1 = "" then
        r.2.jump depth (if r.1 = oviEopp then r.2.nextEssential else r.2.pos + 1)
      else some r) := by
  rw [LogicAnalyzer.nextPluginAux]
  cases A.advance b with
  | none => rfl
  | some r => simp [LogicAnalyzer.jump]

theorem At.start_emit {a : Alternative} {as : List Alternative}
    (h : At A (Cursor.start a as)) (depth : Nat) (hu : Genuine a.first.plugin) :
    ∃ A', A.nextPluginAux (depth + 1) true = some (a.first.plugin,A') ∧
      A'.skeleton = A.skeleton ∧ At A' (Cursor.afterHead a.first a.rest as) := by
  obtain ⟨p,ptr,ptrs,node,h⟩ := h
  obtain ⟨A',hadv,hsk,hat⟩ := h.advance_emit (b := true) (by simp [Cursor.include?])
    (by simp [Cursor.posted,Cursor.start]) rfl hu.ne_empty
  refine ⟨A',?_,hsk.skeleton,hat⟩
  rw [nextPluginAux_succ,hadv]
  simp [hu.ne_empty,hu.ne_eopp]

theorem jump_lands {pos depth : Nat} {as : List Alternative}
    (h : List.Forall₂ (PipelineShows A.skeleton.1) (A.skeleton.2.drop pos) as)
    (hu : ∀ a ∈ as, a.All Genuine) :
    Lands A A.included (Cursor.enter as) (A.jump (depth + 1) pos) := by
  have hlen : A.skeleton.2.length = A.pipelines.length := List.length_map _
  cases as with
  | nil =>
    have hle : pos ≥ A.pipelines.length := by
      have hnil := List.forall₂_nil_right_iff.mp h
      rw [List.drop_eq_nil_iff,hlen] at hnil
      exact hnil
    exact ⟨{ A with pos := pos },if_pos hle,rfl,rfl⟩
  | cons a as =>
    have hlt : ¬ pos ≥ A.pipelines.length := by
      intro hle
      rw [List.drop_eq_nil_of_le (hlen ▸ hle)] at h
      cases h
    obtain ⟨A₁,henter,hsk₁,-,hat₁⟩ := enter_at h
    obtain ⟨A₂,hnext,hsk₂,hat₂⟩ := hat₁.start_emit depth
      (hu a (by simp) a.first (by simp [Alternative.nodes]) _ (by simp [NodePlan.plugins]))
    refine ⟨A₂,?_,hsk₂.trans hsk₁,hat₂⟩
    rw [LogicAnalyzer.jump,if_neg hlt,henter]
    exact hnext

theorem forall₂_drop_findIdx {α β : Type} {R : α → β → Prop} {f : α → Bool} {g : β → Bool}
    (hfg : ∀ x y, R x y → f x = g y) {xs : List α} {ys : List β} (h : List.Forall₂ R xs ys) :
    List.Forall₂ R (xs.drop (xs.findIdx f)) (ys.dropWhile (!g ·)) := by
  induction h with
  | nil => exact .nil
  | @cons x y xs ys hxy hrest ih =>
    rw [List.findIdx_cons,List.dropWhile_cons,hfg x y hxy]
    cases g y with
    | true => exact .cons hxy hrest
    | false => exact ih

theorem drop_nextEssential {as : List Alternative}
    (h : List.Forall₂ (PipelineShows A.skeleton.1) (A.skeleton.2.drop (A.pos + 1)) as) :
    List.Forall₂ (PipelineShows A.skeleton.1) (A.skeleton.2.drop A.nextEssential)
      (as.dropWhile (!·.essential)) := by
  have hidx : A.nextEssential =
      A.pos + 1 + (A.skeleton.2.drop (A.pos + 1)).findIdx Prod.snd := by
    rw [LogicAnalyzer.nextEssential,LogicAnalyzer.skeleton,← List.map_drop,List.findIdx_map]
    rfl
  rw [hidx,← List.drop_drop]
  exact forall₂_drop_findIdx (fun _ _ hs => hs.essential) h

theorem Lands.of_advanced {A' : LogicAnalyzer} {included : Bool}
    {target : Option (String × Cursor)} {result : Option (String × LogicAnalyzer)}
    (ha : Advanced A A' included) (h : Lands A' A'.included target result) :
    Lands A included target result := by
  cases target with
  | none =>
    obtain ⟨A'',hr,hsk,hinc⟩ := h
    exact ⟨A'',hr,hsk.trans ha.skeleton,hinc.trans ha.included⟩
  | some p =>
    obtain ⟨A'',hr,hsk,hat⟩ := h
    exact ⟨A'',hr,hsk.trans ha.skeleton,hat⟩

theorem Cursor.step_of_include (hb : c.include? b = true) :
    c.step b = match c.posted b,c.left with
      | true,uid :: left =>
        some (uid,{ c with pos := c.pos + 1, included := true, left := left })
      | _,_ => Cursor.leave c.nodes c.alts := by
  simp only [Cursor.step,hb,Cursor.posted]
  rfl

-- the nested call starts on a fresh node, so that it never calls itself again
theorem nextPluginAux_step (h : At A c) (hu : c.All Genuine) (depth : Nat) :
    Lands A (c.include? b) (c.step b) (A.nextPluginAux (depth + 2) b) := by
  obtain ⟨p,ptr,ptrs,node,h⟩ := h
  rw [nextPluginAux_succ]
  cases hb : c.include? b with
  | false =>
    obtain ⟨A',hadv,ha⟩ := h.advance_blocked hb
    have halts : List.Forall₂ (PipelineShows A'.skeleton.1)
        (A'.skeleton.2.drop (A'.pos + 1)) c.alts := by
      rw [ha.skeleton,ha.pos]
      exact h.alts
    have hstep : c.step b = Cursor.enter c.alts := by simp [Cursor.step,hb]
    rw [hstep,hadv,← hb]
    exact .of_advanced ha (jump_lands halts hu.alts)
  | true =>
    rw [Cursor.step_of_include hb]
    by_cases hp : c.posted b = false ∨ c.left = []
    · have hleave : (match c.posted b,c.left with
          | true,uid :: left =>
            some (uid,{ c with pos := c.pos + 1, included := true, left := left })
          | _,_ => Cursor.leave c.nodes c.alts) = Cursor.leave c.nodes c.alts := by
        rcases hp with hp | hp
        · simp [hp]
        · cases c.posted b <;> simp [hp]
      rw [hleave]
      cases hn : c.nodes with
      | nil =>
        obtain ⟨A',hadv,ha⟩ := h.advance_finish hb hp hn
        have halts : List.Forall₂ (PipelineShows A'.skeleton.1)
            (A'.skeleton.2.drop (A'.pos + 1)) c.alts := by
          rw [ha.skeleton,ha.pos]
          exact h.alts
        rw [hadv]
        exact .of_advanced ha (jump_lands (drop_nextEssential halts)
          (fun a hmem => hu.alts a ((List.dropWhile_sublist _).mem hmem)))
      | cons n ns =>
        have hgen : Genuine n.plugin :=
          hu.nodes n (by simp [hn]) _ (by simp [NodePlan.plugins])
        obtain ⟨A',hadv,ha,hat⟩ := h.advance_next hb hp hn
        refine ⟨A',?_,ha.skeleton,hat⟩
        rw [hadv]
        simp [hgen.ne_empty,hgen.ne_eopp]
    · obtain ⟨hpost,hne⟩ := not_or.mp hp
      obtain ⟨uid,left,hl⟩ := List.exists_cons_of_ne_nil hne
      have hpost' : c.posted b = true := by simpa using hpost
      have hgen : Genuine uid := hu.left uid (by simp [hl])
      obtain ⟨A',hadv,ha,hat⟩ := h.advance_emit hb hpost' hl hgen.ne_empty
      rw [hpost',hl]
      refine ⟨A',?_,ha.skeleton,hat⟩
      rw [hadv]
      simp [hgen.ne_empty,hgen.ne_eopp]

theorem nextPlugin_step (h : At A c) (hu : c.All Genuine) :
    Lands A (c.include? b) (c.step b) (A.nextPlugin b) := by
  have hlen : A.pipelines.length + 1 = (A.pipelines.length - 1) + 2 := by
    obtain ⟨p,ptr,ptrs,node,h⟩ := h
    have := (List.getElem?_eq_some_iff.mp h.pipeline).1
    omega
  rw [LogicAnalyzer.nextPlugin,hlen]
  exact nextPluginAux_step h hu _

theorem At.steps (h : At A c) (hu : c.All Genuine) {uid : String} {c' : Cursor}
    (hs : c.step b = some (uid,c')) :
    ∃ A', A.nextPlugin b = some (uid,A') ∧ A'.skeleton = A.skeleton ∧ At A' c' := by
  have hland := nextPlugin_step h hu (b := b)
  rw [hs] at hland
  exact hland

theorem At.named (h : At A c) (hu : c.All Genuine) {uid : String} {A' : LogicAnalyzer}
    (hn : A.nextPlugin b = some (uid,A')) (hne : uid ≠ oviEop) :
    ∃ c', c.step b = some (uid,c') ∧ At A' c' := by
  have hland := nextPlugin_step h hu (b := b)
  rw [hn] at hland
  cases hs : c.step b with
  | none =>
    rw [hs] at hland
    obtain ⟨A₁,heq,-⟩ := hland
    exact absurd (Prod.mk.inj (Option.some.inj heq)).1 hne
  | some p =>
    obtain ⟨uid',c'⟩ := p
    rw [hs] at hland
    obtain ⟨A₁,heq,-,hat⟩ := hland
    obtain ⟨rfl,rfl⟩ := Prod.mk.inj (Option.some.inj heq)
    exact ⟨c',rfl,hat⟩

end NextPlugin

end Ovi
