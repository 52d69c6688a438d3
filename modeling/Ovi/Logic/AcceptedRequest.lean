import Ovi.Logic.Construction

namespace Ovi

section Accepted

variable {P : String → Prop} {b b' : Analysis} {str : String}

structure Analysis.Sound (P : String → Prop) (b : Analysis) : Prop where
  nonempty : b.pipelines ≠ []
  filled : ∀ p ∈ b.pipelines, p.pipeline ≠ []
  nodup : ∀ p ∈ b.pipelines, p.pipeline.Nodup
  inside : ∀ p ∈ b.pipelines, ∀ ptr ∈ p.pipeline, ptr < b.nodes.length
  plugins : ∀ n ∈ b.nodes, n.plugins ≠ [] ∧ ∀ uid ∈ n.plugins, P uid

structure Widens (nodes : Nat) (ps ps' : List PluginPipeline) : Prop where
  nonempty : ps' ≠ []
  from_old : ∀ p' ∈ ps', p'.pipeline = [nodes] ∨ ∃ p ∈ ps, p'.pipeline = p.pipeline ∨
    p'.pipeline = p.pipeline ++ [nodes]

theorem Analysis.Sound.widen (h : b.Sound P) (hw : Widens b.nodes.length b.pipelines b'.pipelines)
    (hn : b'.nodes.length = b.nodes.length + 1)
    (hp : ∀ n ∈ b'.nodes, n.plugins ≠ [] ∧ ∀ uid ∈ n.plugins, P uid) : b'.Sound P := by
  refine ⟨hw.nonempty,?_,?_,?_,hp⟩
  · intro p' hp'
    rcases hw.from_old p' hp' with e | ⟨p,hm,e | e⟩
    · simp [e]
    · exact e ▸ h.filled p hm
    · simp [e]
  · intro p' hp'
    rcases hw.from_old p' hp' with e | ⟨p,hm,e | e⟩
    · exact e ▸ List.pairwise_singleton _ _
    · exact e ▸ h.nodup p hm
    · rw [e,List.nodup_append]
      refine ⟨h.nodup p hm,List.pairwise_singleton _ _,?_⟩
      intro x hx y hy
      rw [List.mem_singleton.mp hy]
      exact Nat.ne_of_lt (h.inside p hm x hx)
  · intro p' hp' ptr hptr
    rw [hn]
    rcases hw.from_old p' hp' with e | ⟨p,hm,e | e⟩
    · rw [e,List.mem_singleton] at hptr
      exact hptr ▸ Nat.lt_succ_self _
    · exact Nat.lt_succ_of_lt (h.inside p hm ptr (e ▸ hptr))
    · rw [e,List.mem_append,List.mem_singleton] at hptr
      rcases hptr with hptr | hptr
      · exact Nat.lt_succ_of_lt (h.inside p hm ptr hptr)
      · exact hptr ▸ Nat.lt_succ_self _

theorem mem_modify {α : Type} {f : α → α} {xs : List α} {i : Nat} {y : α}
    (h : y ∈ xs.modify i f) : ∃ x ∈ xs, y = x ∨ y = f x := by
  obtain ⟨j,hj,rfl⟩ := List.mem_iff_getElem.mp h
  have hj' : j < xs.length := by simpa using hj
  refine ⟨xs[j],List.getElem_mem hj',?_⟩
  rw [List.getElem_modify]
  split
  · exact .inr rfl
  · exact .inl rfl

theorem newNode_plugins (h : ∀ n ∈ b.nodes, n.plugins ≠ [] ∧ ∀ uid ∈ n.plugins, P uid)
    (hs : P str) : ∀ n ∈ (b.newNode str).nodes, n.plugins ≠ [] ∧ ∀ uid ∈ n.plugins, P uid := by
  intro n hn
  rcases List.mem_append.mp hn with hn | hn
  · exact h n hn
  · rw [List.mem_singleton.mp hn]
    simpa [PluginNode.make] using hs

theorem Analysis.Sound.and (h : b.Sound P) (hs : P str) :
    ({ b.newNode str with
      pipelines := b.pipelines.map (·.push b.nodes.length) } : Analysis).Sound P := by
  refine h.widen ⟨by simpa using h.nonempty,?_⟩ (by simp [newNode]) (newNode_plugins h.plugins hs)
  intro p' hp'
  obtain ⟨p,hp,rfl⟩ := List.mem_map.mp hp'
  exact .inr ⟨p,hp,.inr rfl⟩

theorem Analysis.Sound.or (h : b.Sound P) (hs : P str) :
    ({ b.newNode str with
      pipelines := b.pipelines ++ [PluginPipeline.make.push b.nodes.length]
      pipeline := b.pipelines.length } : Analysis).Sound P := by
  refine h.widen ⟨by simp,?_⟩ (by simp [newNode]) (newNode_plugins h.plugins hs)
  intro p' hp'
  rcases List.mem_append.mp hp' with hp' | hp'
  · exact .inr ⟨p',hp',.inl rfl⟩
  · exact .inl (by rw [List.mem_singleton.mp hp']; rfl)

theorem Analysis.Sound.none (h : b.Sound P) (hs : P str) :
    ({ b.newNode str with
      pipelines := b.pipelines.modify b.pipeline (·.push b.nodes.length) } : Analysis).Sound P := by
  refine h.widen ⟨by simpa using h.nonempty,?_⟩ (by simp [newNode]) (newNode_plugins h.plugins hs)
  intro p' hp'
  obtain ⟨p,hp,rfl | rfl⟩ := mem_modify hp'
  · exact .inr ⟨_,hp,.inl rfl⟩
  · exact .inr ⟨p,hp,.inr rfl⟩

theorem marked_pipeline {p' : PluginPipeline} (hp' : p' ∈ if b.pipelines.length > 1 then
      b.pipelines.modify b.pipeline PluginPipeline.setEssential else b.pipelines) :
    ∃ p ∈ b.pipelines, p'.pipeline = p.pipeline := by
  split at hp'
  · obtain ⟨p,hp,rfl | rfl⟩ := mem_modify hp'
    · exact ⟨_,hp,rfl⟩
    · exact ⟨p,hp,by unfold PluginPipeline.setEssential; split <;> rfl⟩
  · exact ⟨p',hp',rfl⟩

theorem pushed_plugins (h : ∀ n ∈ b.nodes, n.plugins ≠ [] ∧ ∀ uid ∈ n.plugins, P uid) (hs : P str)
    {ptr : PluginNodePtr} : ∀ n ∈ b.nodes.modify ptr (·.push str),
      n.plugins ≠ [] ∧ ∀ uid ∈ n.plugins, P uid := by
  intro n hn
  obtain ⟨m,hm,rfl | rfl⟩ := mem_modify hn
  · exact h n hm
  · refine ⟨by simp [PluginNode.push],?_⟩
    intro uid huid
    rcases List.mem_append.mp huid with huid | huid
    · exact (h m hm).2 uid huid
    · exact List.mem_singleton.mp huid ▸ hs

theorem Analysis.Sound.colon (h : b.Sound P) (hs : P str) (ptr : PluginNodePtr) :
    ({ b with
      nodes := b.nodes.modify ptr (·.push str)
      pipelines :=
        if b.pipelines.length > 1 then b.pipelines.modify b.pipeline PluginPipeline.setEssential
        else b.pipelines } : Analysis).Sound P := by
  refine ⟨?_,?_,?_,?_,pushed_plugins h.plugins hs⟩
  · dsimp only
    split
    · simpa using h.nonempty
    · exact h.nonempty
  · intro p' hp'
    obtain ⟨p,hp,e⟩ := marked_pipeline hp'
    exact e ▸ h.filled p hp
  · intro p' hp'
    obtain ⟨p,hp,e⟩ := marked_pipeline hp'
    exact e ▸ h.nodup p hp
  · intro p' hp' x hx
    obtain ⟨p,hp,e⟩ := marked_pipeline hp'
    simpa using h.inside p hp x (e ▸ hx)

theorem Analysis.Sound.plugin (h : b.Sound P) (hs : P str) (hb : b.plugin str = some b') :
    b'.Sound P := by
  unfold Analysis.plugin at hb
  split at hb
  · cases hb
    exact h.and hs
  · cases hb
    exact h.or hs
  · obtain ⟨ptr,-,hb⟩ := Option.bind_eq_some_iff.mp hb
    cases hb
    exact h.colon hs ptr
  · cases hb
    exact h.none hs

theorem Analysis.Sound.step (h : b.Sound P)
    (hs : str = oviOpUncut ∨ isLogicalOperator str = true ∨ P str) (hb : b.step str = some b') :
    b'.Sound P := by
  unfold Analysis.step at hb
  split at hb
  · cases hb
    exact ⟨h.nonempty,h.filled,h.nodup,h.inside,h.plugins⟩
  · split at hb
    · cases hb
      exact ⟨h.nonempty,h.filled,h.nodup,h.inside,h.plugins⟩
    · have hP : P str := by
        rcases hs with rfl | hs | hs
        · simp_all
        · simp_all
        · exact hs
      cases hp : b.plugin str with
      | none => simp [hp] at hb
      | some b₁ =>
        have h₁ := h.plugin hP hp
        simp only [hp,Option.bind_eq_bind,Option.bind_some,Option.some_inj] at hb
        subst hb
        exact ⟨h₁.nonempty,h₁.filled,h₁.nodup,h₁.inside,h₁.plugins⟩

theorem Analysis.Sound.foldlM (h : b.Sound P) {tokens : List String}
    (hs : ∀ str ∈ tokens, str = oviOpUncut ∨ isLogicalOperator str = true ∨ P str)
    (hb : tokens.foldlM Analysis.step b = some b') : b'.Sound P := by
  induction tokens generalizing b with
  | nil =>
    cases hb
    exact h
  | cons str tokens ih =>
    rw [List.foldlM_cons] at hb
    cases hstep : b.step str with
    | none => simp [hstep] at hb
    | some b₁ =>
      rw [hstep] at hb
      exact ih (h.step (hs str (by simp)) hstep) (fun x hx => hs x (List.mem_cons_of_mem _ hx)) hb

theorem exists_forall₂ {α β : Type} {R : α → β → Prop} {xs : List α} (h : ∀ x ∈ xs, ∃ y, R x y) :
    ∃ ys, List.Forall₂ R xs ys := by
  induction xs with
  | nil => exact ⟨[],.nil⟩
  | cons x xs ih =>
    obtain ⟨y,hy⟩ := h x (by simp)
    obtain ⟨ys,hys⟩ := ih (fun z hz => h z (List.mem_cons_of_mem _ hz))
    exact ⟨y :: ys,.cons hy hys⟩

def ShowsLoaded (P : String → Prop) (sh : List (List String × Bool))
    (p : List PluginNodePtr × Bool) (a : Alternative) : Prop :=
  PipelineShows sh p a ∧ a.All P

theorem Analysis.Sound.node (h : b.Sound P) {ptr : PluginNodePtr} (hptr : ptr < b.nodes.length) :
    ∃ n : NodePlan, (shapes b.nodes)[ptr]? = some n.node.shape ∧ n.All P := by
  obtain ⟨hne,hall⟩ := h.plugins _ (List.getElem_mem hptr)
  obtain ⟨uid,effects,hu⟩ := List.exists_cons_of_ne_nil hne
  refine ⟨⟨uid,effects,b.nodes[ptr].cut⟩,?_,?_⟩
  · rw [shapes,List.getElem?_map,List.getElem?_eq_getElem hptr]
    simp [PluginNode.shape,NodePlan.node,NodePlan.plugins,hu]
  · intro x hx
    exact hall x (by rw [hu]; exact hx)

theorem Analysis.Sound.alternative (h : b.Sound P) {p : PluginPipeline} (hp : p ∈ b.pipelines) :
    ∃ a, ShowsLoaded P (shapes b.nodes) (p.pipeline,p.essential) a := by
  obtain ⟨ns,hns⟩ := exists_forall₂ (fun ptr hptr => h.node (h.inside p hp ptr hptr))
  cases ns with
  | nil =>
    rw [List.forall₂_nil_right_iff] at hns
    exact absurd hns (h.filled p hp)
  | cons n ns =>
    refine ⟨⟨p.essential,n,ns⟩,⟨hns.imp (fun _ _ h => h.1),h.nodup p hp,rfl⟩,?_⟩
    intro m hm
    obtain ⟨ptr,-,-,hall⟩ := exists_of_mem_forall₂ hns.flip hm
    exact hall

theorem Analysis.Sound.plan (h : b.Sound P) :
    ∃ a as, List.Forall₂ (PipelineShows (shapes b.nodes))
      (b.pipelines.map (fun p => (p.pipeline,p.essential))) (a :: as) ∧
      ∀ x ∈ a :: as, x.All P := by
  obtain ⟨as,has⟩ := exists_forall₂ (fun p hp => h.alternative hp)
  cases as with
  | nil =>
    rw [List.forall₂_nil_right_iff] at has
    exact absurd has h.nonempty
  | cons a as =>
    refine ⟨a,as,List.forall₂_map_left_iff.mpr (has.imp (fun _ _ h => h.1)),?_⟩
    intro x hx
    obtain ⟨p,-,hp⟩ := exists_of_mem_forall₂ has.flip hx
    exact hp.2

theorem loose_token {pm : PluginManager} {request : List String} (h : LooseLanguage pm request) :
    ∀ str ∈ request, str = oviOpUncut ∨ isLogicalOperator str = true ∨ pm.exist str = true := by
  obtain ⟨-,-,t,tail,rfl,ht,htail⟩ := h
  have hterm : ∀ t : LooseTerm, t.WellFormed pm → ∀ str ∈ t.tokens,
      str = oviOpUncut ∨ isLogicalOperator str = true ∨ pm.exist str = true := by
    intro t ht str hstr
    rcases List.mem_append.mp hstr with hm | hm
    · cases h : t.mark <;> simp [h,Mark.tokens] at hm
      · exact .inl hm
      · rcases hm with rfl | rfl
        · exact .inl rfl
        · exact .inr (.inl (by decide))
    · rcases List.mem_cons.mp hm with rfl | hm
      · exact .inr (.inr ht.plugin_loaded)
      · obtain ⟨effect,he,hm⟩ := List.mem_flatMap.mp hm
        rcases List.mem_pair.mp hm with rfl | rfl
        · exact .inr (.inl (by decide))
        · obtain ⟨plugin,hf,-⟩ := exists_find_of_isEffect (ht.effects_loaded _ he)
          exact .inr (.inr (exist_of_find hf))
  intro str hstr
  rcases List.mem_append.mp hstr with hstr | hstr
  · exact hterm t ht str hstr
  · obtain ⟨p,hp,hm⟩ := List.mem_flatMap.mp hstr
    rcases List.mem_cons.mp hm with rfl | hm
    · exact .inr (.inl (logical_token p.1))
    · exact hterm p.2 (htail p hp).term str hm

theorem isUid_of_exist {pm : PluginManager} {uid : String} (h : pm.exist uid = true) :
    IsUid uid := by
  obtain ⟨plugin,hf⟩ := exists_find_of_exist h
  exact ⟨not_logical_of_find hf,ne_uncut_of_find hf⟩

theorem Term.WellFormed.uids {pm : PluginManager} {t : Term} (h : t.WellFormed pm) : t.Uids := by
  constructor
  · exact isUid_of_exist h.plugin_loaded
  · intro effect he
    obtain ⟨plugin,hf,-⟩ := exists_find_of_isEffect (h.effects_loaded effect he)
    exact isUid_of_exist (exist_of_find hf)

theorem head_start {t : LooseTerm} (hu : IsUid t.plugin)
    (hb : (t.mark.tokens ++ [t.plugin]).foldlM Analysis.step Analysis.start = some b) :
    ∃ cut, b = ⟨true,.none,some 0,0,[PluginNode.make t.plugin cut],[⟨[0],0,false⟩]⟩ := by
  have hcut : ∀ cut, ({ Analysis.start with cut := cut } : Analysis).step t.plugin =
      some ⟨true,.none,some 0,0,[PluginNode.make t.plugin cut],[⟨[0],0,false⟩]⟩ := by
    intro cut
    rw [hu.step]
    rfl
  cases hm : t.mark with
  | cut =>
    rw [hm,Mark.tokens,List.nil_append,List.foldlM_cons] at hb
    change ({ Analysis.start with cut := true } : Analysis).step t.plugin >>= _ = _ at hb
    rw [hcut] at hb
    cases hb
    exact ⟨true,rfl⟩
  | uncut =>
    rw [hm,Mark.tokens,List.singleton_append,List.foldlM_cons] at hb
    change ({ Analysis.start with cut := false } : Analysis).step t.plugin >>= _ = _ at hb
    rw [hcut] at hb
    cases hb
    exact ⟨false,rfl⟩
  | uncutColon =>
    rw [hm] at hb
    change ({ Analysis.start with cut := false, logicalOperator := .colon } : Analysis).step
      t.plugin >>= _ = _ at hb
    rw [hu.step] at hb
    cases hb

theorem sound_head {t : LooseTerm} (hu : IsUid t.plugin) (hP : P t.plugin)
    (hb : (t.mark.tokens ++ [t.plugin]).foldlM Analysis.step Analysis.start = some b) :
    b.Sound P := by
  obtain ⟨cut,rfl⟩ := head_start hu hb
  constructor <;> simp [PluginNode.make,hP]

theorem make_sound {pm : PluginManager} {request : List String} {A : LogicAnalyzer}
    (hv : validateLogic pm request = true) (hA : LogicAnalyzer.make request = some A) :
    ∃ a as, A.Shows (a :: as) ∧
      ∀ x ∈ a :: as, x.All (fun uid => uid ∈ request ∧ pm.exist uid = true) := by
  have hloose := (validateLogic_iff_loose pm request).mp hv
  have htokens : ∀ str ∈ request, str = oviOpUncut ∨ isLogicalOperator str = true ∨
      (str ∈ request ∧ pm.exist str = true) :=
    fun str hstr => (loose_token hloose str hstr).imp_right (Or.imp_right (fun h => ⟨hstr,h⟩))
  obtain ⟨-,-,t,tail,rfl,ht,-⟩ := hloose
  have hsplit : t.tokens ++ tailTokens tail =
      (t.mark.tokens ++ [t.plugin]) ++ (effectTokens t.effects ++ tailTokens tail) := by
    simp [LooseTerm.tokens]
  have hplugin : t.plugin ∈ t.tokens ++ tailTokens tail := by simp [LooseTerm.tokens]
  rw [LogicAnalyzer.make,runAnalysis,hsplit,List.foldlM_append] at hA
  cases hhead : (t.mark.tokens ++ [t.plugin]).foldlM Analysis.step Analysis.start with
  | none => simp [hhead] at hA
  | some b₁ =>
    have hb₁ : b₁.Sound (fun uid => uid ∈ t.tokens ++ tailTokens tail ∧ pm.exist uid = true) :=
      sound_head (isUid_of_exist ht.plugin_loaded) ⟨hplugin,ht.plugin_loaded⟩ hhead
    simp only [hhead,Option.bind_eq_bind,Option.bind_some] at hA
    cases hrest : (effectTokens t.effects ++ tailTokens tail).foldlM Analysis.step b₁ with
    | none => simp [hrest] at hA
    | some b₂ =>
      have hb₂ := hb₁.foldlM (fun str hstr => htokens str
        (by rw [hsplit]; exact List.mem_append_right _ hstr)) hrest
      obtain ⟨a,as,hshows,hall⟩ := hb₂.plan
      refine ⟨a,as,?_,hall⟩
      simp only [hrest,Option.bind_some,Option.some_inj] at hA
      rw [LogicAnalyzer.Shows,← hA,reset_skeleton]
      exact hshows

theorem genuine_of_exist {pm : PluginManager} {uid : String} (h : pm.exist uid = true) :
    Genuine uid := by
  obtain ⟨plugin,hf⟩ := exists_find_of_exist h
  exact ⟨ne_empty_of_find hf,PluginManager.ne_of_no_dot hf (by decide),
    PluginManager.ne_of_no_dot hf (by decide)⟩

end Accepted

end Ovi
