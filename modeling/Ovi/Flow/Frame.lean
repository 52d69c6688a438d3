import Ovi.Logic.Verdict
import Ovi.Flow.DataFlow
import Mathlib.Data.List.Nodup

namespace Ovi
open BooleanChain

def verdictOf (outcome : String → Outcome) (uid : String) : Bool := (outcome uid).detect

section CacheSteps

variable (effect : String → Bool) (outcome : String → Outcome)

def cacheStep (c : OutcomeCache) (uid : String) : OutcomeCache :=
  if c.hit uid then c.setResultUid uid
  else if effect uid then c.setDetected uid
  else c.write uid (outcome uid)

structure Caches (c : OutcomeCache) (b : Bool) : Prop where
  stored : ∀ uid o, c.storage[uid]? = some o → effect uid = false ∧ o = outcome uid
  current : ∃ o, c.result = (o,c) ∧ o.detect = b

variable {effect outcome} {c : OutcomeCache} {b : Bool} {uid : String}

theorem caches_clear : Caches effect outcome .clear true := by
  refine ⟨fun uid o h => ?_,defaultOutcome,rfl,rfl⟩
  simp [OutcomeCache.clear] at h

theorem Caches.current_step (h : Caches effect outcome c b) (hu : uid ≠ "")
    (he : effect uid = false) : (cacheStep effect outcome c uid).Current uid (outcome uid) := by
  unfold cacheStep
  cases hhit : c.hit uid with
  | true =>
    obtain ⟨o,ho⟩ := OutcomeCache.hit_iff.mp hhit
    obtain ⟨-,rfl⟩ := h.stored uid o ho
    exact OutcomeCache.current_setResultUid ho hu
  | false =>
    simp only [he]
    exact OutcomeCache.current_write hu

theorem Caches.not_hit (h : Caches effect outcome c b) (he : effect uid = true) :
    c.hit uid = false := by
  by_contra hhit
  obtain ⟨o,ho⟩ := OutcomeCache.hit_iff.mp (by simpa using hhit)
  exact absurd (h.stored uid o ho).1 (by simp [he])

theorem Caches.step_effect (h : Caches effect outcome c b) (he : effect uid = true) :
    cacheStep effect outcome c uid = c.setDetected uid := by
  simp [cacheStep,h.not_hit he,he]

theorem OutcomeCache.setDetected_eq {o : Outcome} (h : c.result = (o,c)) (uid : String) :
    c.setDetected uid = { c with detected := c.detected.insert uid o.list } := by
  simp [OutcomeCache.setDetected,h]

theorem OutcomeCache.result_detected {o : Outcome} (h : c.result = (o,c))
    (detected : DetectedData) : ({ c with detected := detected } : OutcomeCache).result =
      (o,{ c with detected := detected }) := by
  unfold OutcomeCache.result OutcomeCache.empty at h ⊢
  dsimp only
  split at h <;> rename_i hc
  · rw [if_pos hc]
    simpa using h
  · rw [if_neg hc]
    cases hs : c.storage[c.resultUid]? with
    | some o' => simpa [hs] using h
    | none =>
      have hins := congrArg (fun r => r.2.storage[c.resultUid]?) h
      simp [hs] at hins

theorem Caches.step (h : Caches effect outcome c b) (hu : uid ≠ "") :
    Caches effect outcome (cacheStep effect outcome c uid)
      (feedback (verdictOf outcome) effect b uid) := by
  cases he : effect uid with
  | true =>
    obtain ⟨o,ho,hd⟩ := h.current
    rw [h.step_effect he,OutcomeCache.setDetected_eq ho]
    exact ⟨h.stored,o,OutcomeCache.result_detected ho _,by simp [feedback,he,hd]⟩
  | false =>
    have hcur := h.current_step hu he
    refine ⟨?_,outcome uid,hcur.result,by simp [feedback,verdictOf,he]⟩
    intro uid' o ho
    unfold cacheStep at ho
    split at ho
    · exact h.stored uid' o ho
    · simp only [he] at ho
      rw [if_neg (by simp),OutcomeCache.storage_write] at ho
      split at ho
      · rename_i heq
        subst heq
        exact ⟨he,(Option.some_inj.mp ho).symm⟩
      · exact h.stored uid' o ho

end CacheSteps

section FrameLoop

variable {σ : Type} {d : DataFlow σ} {frames : Frames} {outcome : String → Outcome}

structure Answers (d : DataFlow σ) (frames : Frames) (outcome : String → Outcome) : Prop where
  process : ∀ uid st, d.pluginManager.isDetect uid = true →
    (d.processPlugin uid frames st).1 = .ok (outcome uid)

def Handled (pm : PluginManager) (uid : String) : Prop :=
  pm.isDetect uid = true ∨ pm.isEffect uid = true

theorem Handled.exist {pm : PluginManager} {uid : String} (h : Handled pm uid) :
    pm.exist uid = true := by
  rcases h with h | h
  · obtain ⟨plugin,hf,-⟩ := exists_find_of_isDetect h
    exact exist_of_find hf
  · obtain ⟨plugin,hf,-⟩ := exists_find_of_isEffect h
    exact exist_of_find hf

theorem processPlugin_of_answers (ha : Answers d frames outcome) {uid : String}
    (hu : d.pluginManager.isDetect uid = true) (st : σ) :
    ∃ st', d.processPlugin uid frames st = (.ok (outcome uid),st') :=
  ⟨(d.processPlugin uid frames st).2,Prod.ext (ha.process uid st hu) rfl⟩

theorem processPlugin_undefined {uid : String} {plugin : Plugin}
    (hf : d.pluginManager.find uid = some plugin) (hd : isDetectType plugin = false) (st : σ) :
    d.processPlugin uid frames st = (.error .undefined,st) := by
  rw [DataFlow.processPlugin,hf]
  obtain ⟨type⟩ := plugin
  cases type with
  | videoDetect => cases hd
  | audioDetect => cases hd
  | _ => rfl

theorem handlePlugin_step (ha : Answers d frames outcome) {w : Worker σ} {b : Bool} {uid : String}
    (hc : Caches d.pluginManager.isEffect outcome w.outcomeCache b)
    (hhit : w.outcomeCache.hit uid = false) (hu : Handled d.pluginManager uid) {plugin : Plugin}
    (hf : d.pluginManager.find uid = some plugin) :
    ∃ st, d.handlePlugin w frames uid plugin = .ok (true,{ w with
      plugins := st
      outcomeCache := cacheStep d.pluginManager.isEffect outcome w.outcomeCache uid }) := by
  have he := isEffect_of_find hf
  unfold DataFlow.handlePlugin
  cases heff : isEffectType plugin with
  | true =>
    refine ⟨w.plugins,?_⟩
    rw [heff] at he
    simp [hc.step_effect he]
  | false =>
    rw [heff] at he
    have hd : d.pluginManager.isDetect uid = true := hu.resolve_right (by simp [he])
    obtain ⟨st,hst⟩ := processPlugin_of_answers ha hd w.plugins
    refine ⟨st,?_⟩
    simp [hst,cacheStep,hhit,he]

theorem Caches.detect {effect : String → Bool} {c : OutcomeCache} {b : Bool}
    (h : Caches effect outcome c b) : c.result.1.detect = b := by
  obtain ⟨o,ho,hd⟩ := h.current
  rw [ho]
  exact hd

theorem Caches.advance {effect : String → Bool} {w : Worker σ} {b : Bool}
    (h : Caches effect outcome w.outcomeCache b) (A : LogicAnalyzer) :
    w.advance A = { w with loads := w.loads + 1, logicAnalyzer := A } := by
  obtain ⟨o,ho,-⟩ := h.current
  rw [Worker.advance,ho]

theorem cached_step (ha : Answers d frames outcome) {w : Worker σ} {b : Bool} {uid : String}
    {A : LogicAnalyzer} (hrun : d.run w.loads = true)
    (hc : Caches d.pluginManager.isEffect outcome w.outcomeCache b)
    (hn : w.logicAnalyzer.nextPlugin b = some (uid,A)) (hne : uid ≠ oviEop)
    (hu : Handled d.pluginManager uid) :
    ∃ st, ∀ fuel, d.frameLoop frames (fuel + 1) w = d.frameLoop frames fuel { w with
      loads := w.loads + 1
      logicAnalyzer := A
      plugins := st
      outcomeCache := cacheStep d.pluginManager.isEffect outcome w.outcomeCache uid } := by
  rw [← hc.detect] at hn
  have hcache : w.outcomeCache.result.2 = w.outcomeCache :=
    congrArg Worker.outcomeCache (hc.advance A)
  obtain ⟨plugin,hf⟩ := exists_find_of_exist hu.exist
  cases hhit : w.outcomeCache.hit uid with
  | true =>
    refine ⟨w.plugins,fun fuel => ?_⟩
    rw [frameLoop_hit hrun hn hne (hcache.symm ▸ hhit),hc.advance,hcache,cacheStep,if_pos hhit]
  | false =>
    obtain ⟨st,hst⟩ := handlePlugin_step
      (w := { w with loads := w.loads + 1, logicAnalyzer := A }) ha hc hhit hu hf
    have hp := (congrArg (d.handlePlugin · frames uid plugin) (hc.advance A)).trans hst
    exact ⟨st,frameLoop_handled hrun hn hne (hcache.symm ▸ hhit) hf hp⟩

theorem cached_eop {w : Worker σ} {b : Bool} {A : LogicAnalyzer}
    (hc : Caches d.pluginManager.isEffect outcome w.outcomeCache b) (hrun : d.run w.loads = true)
    (hn : w.logicAnalyzer.nextPlugin b = some (oviEop,A)) (fuel : Nat) :
    d.frameLoop frames (fuel + 1) w =
      some (.ok (true,{ w with loads := w.loads + 1, logicAnalyzer := A })) := by
  rw [← hc.detect] at hn
  rw [frameLoop_eop hrun hn,hc.advance]

theorem run_of_frameLoop {w w' : Worker σ} {fuel : Nat}
    (h : d.frameLoop frames (fuel + 1) w = some (.ok (true,w'))) : d.run w.loads = true := by
  cases hrun : d.run w.loads with
  | true => rfl
  | false =>
    rw [frameLoop_stopped hrun] at h
    cases h

theorem cache_of_frameLoop (ha : Answers d frames outcome) {A A' : LogicAnalyzer} {b : Bool}
    {uids : List String}
    (h : Emits (feedback (verdictOf outcome) d.pluginManager.isEffect) A b uids A')
    {w w' : Worker σ} {fuel : Nat} (hA : w.logicAnalyzer = A)
    (hc : Caches d.pluginManager.isEffect outcome w.outcomeCache b)
    (hu : ∀ uid ∈ uids, Handled d.pluginManager uid)
    (hloop : d.frameLoop frames fuel w = some (.ok (true,w'))) :
    w'.outcomeCache = uids.foldl (cacheStep d.pluginManager.isEffect outcome) w.outcomeCache := by
  induction h generalizing w fuel with
  | @eop A A' b hn =>
    subst hA
    cases fuel with
    | zero => cases hloop
    | succ fuel =>
      rw [cached_eop hc (run_of_frameLoop hloop) hn] at hloop
      cases hloop
      rfl
  | @next A A₁ A' b uid uids hn hne _ ih =>
    subst hA
    cases fuel with
    | zero => cases hloop
    | succ fuel =>
      have huid := hu uid (by simp)
      have hstep := hc.step (genuine_of_exist huid.exist).ne_empty
      obtain ⟨st,heq⟩ := cached_step ha (run_of_frameLoop hloop) hc hn hne huid
      rw [heq] at hloop
      exact ih rfl hstep (fun u hm => hu u (List.mem_cons_of_mem _ hm)) hloop

theorem frameLoop_of_emits (ha : Answers d frames outcome) (hrun : ∀ n, d.run n = true)
    {A A' : LogicAnalyzer} {b : Bool} {uids : List String}
    (h : Emits (feedback (verdictOf outcome) d.pluginManager.isEffect) A b uids A')
    {w : Worker σ} (hA : w.logicAnalyzer = A)
    (hc : Caches d.pluginManager.isEffect outcome w.outcomeCache b)
    (hu : ∀ uid ∈ uids, Handled d.pluginManager uid) :
    ∃ w', ∀ fuel ≥ uids.length + 1, d.frameLoop frames fuel w = some (.ok (true,w')) := by
  induction h generalizing w with
  | @eop A A' b hn =>
    subst hA
    refine ⟨{ w with loads := w.loads + 1,logicAnalyzer := A' },fun fuel hf => ?_⟩
    obtain ⟨fuel,rfl⟩ : ∃ k, fuel = k + 1 := ⟨fuel - 1,by omega⟩
    exact cached_eop hc (hrun w.loads) hn fuel
  | @next A A₁ A' b uid uids hn hne _ ih =>
    subst hA
    have huid := hu uid (by simp)
    have hstep := hc.step (genuine_of_exist huid.exist).ne_empty
    obtain ⟨st,heq⟩ := cached_step ha (hrun w.loads) hc hn hne huid
    obtain ⟨w',hloop⟩ := ih (w := { w with
      loads := w.loads + 1
      logicAnalyzer := A₁
      plugins := st
      outcomeCache := cacheStep d.pluginManager.isEffect outcome w.outcomeCache uid }) rfl hstep
      (fun u hm => hu u (List.mem_cons_of_mem _ hm))
    refine ⟨w',fun fuel hf => ?_⟩
    obtain ⟨fuel,rfl⟩ : ∃ k, fuel = k + 1 := ⟨fuel - 1,by omega⟩
    rw [heq]
    exact hloop fuel (by simpa using hf)

end FrameLoop

section Visited

variable {effect : String → Bool} {outcome : String → Outcome} {c : OutcomeCache} {b : Bool}

structure Marks (outcome : String → Outcome) (visited : List NodePlan) (detected : DetectedData) :
    Prop where
  sound : ∀ uid list, detected[uid]? = some list → ∃ n ∈ visited, uid ∈ n.effects ∧
    (outcome n.plugin).detect = true ∧ list = (outcome n.plugin).list
  complete : ∀ n ∈ visited, (outcome n.plugin).detect = true → ∀ uid ∈ n.effects, uid ∈ detected

theorem effects_step {n : NodePlan} {effects : List String}
    (hcur : c.Current n.plugin (outcome n.plugin)) (hc : Caches effect outcome c b)
    (he : ∀ uid ∈ effects, effect uid = true) :
    effects.foldl (cacheStep effect outcome) c = { c with
      detected :=
        effects.foldl (fun m uid => m.insert uid (outcome n.plugin).list) c.detected } := by
  induction effects generalizing c with
  | nil => rfl
  | cons uid effects ih =>
    rw [List.foldl_cons,hc.step_effect (he uid (by simp)),hcur.setDetected]
    obtain ⟨o,ho,hd⟩ := hc.current
    have hc' : Caches effect outcome
        { c with detected := c.detected.insert uid (outcome n.plugin).list } b :=
      ⟨hc.stored,o,OutcomeCache.result_detected ho _,hd⟩
    exact ih ⟨hcur.resultUid,hcur.stored,hcur.genuine⟩ hc'
      (fun x hx => he x (List.mem_cons_of_mem _ hx))

theorem getElem?_foldl_insert {list : Details} {uids : List String} {m : DetectedData}
    (uid : String) : (uids.foldl (fun m uid => m.insert uid list) m)[uid]? =
      if uid ∈ uids then some list else m[uid]? := by
  induction uids generalizing m with
  | nil => simp
  | cons x uids ih =>
    rw [List.foldl_cons,ih,Std.TreeMap.getElem?_insert]
    by_cases hx : x = uid
    · subst hx
      simp
    · simp [hx,Ne.symm hx]

theorem Marks.node {visited : List NodePlan} {m : DetectedData} {n : NodePlan}
    (h : Marks outcome visited m) : Marks outcome (visited ++ [n])
      (if (outcome n.plugin).detect then
        n.effects.foldl (fun m uid => m.insert uid (outcome n.plugin).list) m else m) := by
  cases hv : (outcome n.plugin).detect with
  | false =>
    constructor
    · intro uid list hl
      obtain ⟨x,hx,hrest⟩ := h.sound uid list hl
      exact ⟨x,List.mem_append_left _ hx,hrest⟩
    · intro x hx hd uid hu
      rcases List.mem_append.mp hx with hx | hx
      · exact h.complete x hx hd uid hu
      · rw [List.mem_singleton.mp hx,hv] at hd
        cases hd
  | true =>
    have hget := @getElem?_foldl_insert (outcome n.plugin).list n.effects m
    constructor
    · intro uid list hl
      rw [if_pos rfl,hget] at hl
      split at hl
      · exact ⟨n,by simp,‹_›,hv,(Option.some_inj.mp hl).symm⟩
      · obtain ⟨x,hx,hrest⟩ := h.sound uid list hl
        exact ⟨x,List.mem_append_left _ hx,hrest⟩
    · intro x hx hd uid hu
      rw [if_pos rfl,← Std.TreeMap.isSome_getElem?_iff_mem,hget]
      split
      · rfl
      · rcases List.mem_append.mp hx with hx | hx
        · exact Std.TreeMap.isSome_getElem?_iff_mem.mpr (h.complete x hx hd uid hu)
        · rw [List.mem_singleton.mp hx] at hu
          contradiction

theorem emission_step {n : NodePlan} (hc : Caches effect outcome c b) (hn : Typed effect n)
    (hu : n.plugin ≠ "") :
    (∃ b', Caches effect outcome
      ((emission (verdictOf outcome) n).foldl (cacheStep effect outcome) c) b') ∧
    ((emission (verdictOf outcome) n).foldl (cacheStep effect outcome) c).detected =
      if (outcome n.plugin).detect then
        n.effects.foldl (fun m uid => m.insert uid (outcome n.plugin).list) c.detected
      else c.detected := by
  have hcur := hc.current_step hu hn.head
  have hstep := hc.step hu
  have hdetected : (cacheStep effect outcome c n.plugin).detected = c.detected := by
    unfold cacheStep
    split
    · rfl
    · rw [hn.head]
      rfl
  rw [emission,List.foldl_cons,← hdetected]
  unfold verdictOf
  cases hv : (outcome n.plugin).detect with
  | false => exact ⟨⟨_,hstep⟩,rfl⟩
  | true =>
    rw [if_pos rfl,if_pos rfl,effects_step hcur hstep hn.effects]
    obtain ⟨o,ho,hd⟩ := hstep.current
    exact ⟨⟨_,hstep.stored,o,OutcomeCache.result_detected ho _,hd⟩,rfl⟩

theorem marks_emissions {visited nodes : List NodePlan} (hc : Caches effect outcome c b)
    (hm : Marks outcome visited c.detected)
    (hn : ∀ n ∈ nodes, Typed effect n ∧ n.plugin ≠ "") :
    Marks outcome (visited ++ nodes) ((nodes.flatMap (emission (verdictOf outcome))).foldl
      (cacheStep effect outcome) c).detected := by
  induction nodes generalizing visited c b with
  | nil => simpa using hm
  | cons n nodes ih =>
    obtain ⟨htyped,hu⟩ := hn n (by simp)
    obtain ⟨⟨b',hc'⟩,hdetected⟩ := emission_step hc htyped hu
    have hm' := hm.node (n := n)
    rw [← hdetected] at hm'
    rw [List.flatMap_cons,List.foldl_append,List.append_cons]
    exact ih hc' hm' (fun x hx => hn x (List.mem_cons_of_mem _ hx))

theorem mem_walk {v : String → Bool} {ns : List NodePlan} {n : NodePlan} (h : n ∈ (walk v ns).1) :
    n ∈ ns := by
  induction ns with
  | nil => simp [walk] at h
  | cons m ns ih =>
    rw [walk] at h
    split at h
    · rcases List.mem_cons.mp h with rfl | h
      · simp
      · exact List.mem_cons_of_mem _ (ih h)
    · simp_all

theorem mem_visit {v : String → Bool} {ok : Bool} {as : List Alternative} {n : NodePlan}
    (h : n ∈ (visit v ok as).1) : ∃ a ∈ as, n ∈ a.nodes := by
  induction as generalizing ok with
  | nil => simp [visit] at h
  | cons a as ih =>
    rw [visit] at h
    split at h
    · obtain ⟨a',ha',hn⟩ := ih h
      exact ⟨a',List.mem_cons_of_mem _ ha',hn⟩
    · rcases List.mem_append.mp h with h | h
      · exact ⟨a,by simp,mem_walk h⟩
      · obtain ⟨a',ha',hn⟩ := ih h
        exact ⟨a',List.mem_cons_of_mem _ ha',hn⟩

theorem first_mem_walk (v : String → Bool) (a : Alternative) : a.first ∈ (walk v a.nodes).1 := by
  rw [Alternative.nodes,walk]
  split <;> simp

theorem first_mem_visit {v : String → Bool} {ok : Bool} {as : List Alternative} {a : Alternative}
    (ha : a ∈ as) (hess : a.essential = true) : a.first ∈ (visit v ok as).1 := by
  induction as generalizing ok with
  | nil => cases ha
  | cons x as ih =>
    rw [visit]
    rcases List.mem_cons.mp ha with rfl | ha
    · rw [if_neg (by simp [hess])]
      exact List.mem_append_left _ (first_mem_walk v a)
    · split
      · exact ih ha
      · exact List.mem_append_right _ (ih ha)

end Visited

section Detected

variable {σ : Type} {d : DataFlow σ} {r : LinkRequest} {frames : Frames}
  {outcome : String → Outcome}

def LinkRequest.Opens (r : LinkRequest) (t : Term) : Prop := t = r.first ∨ (.disj,t) ∈ r.rest

theorem opener_mem_plan {rest : List (Op × Term)} {t : Term} (as : List Alternative)
    (h : (.disj,t) ∈ rest) :
    ∃ a ∈ rest.foldl planStep as, a.first = t.plan ∧ a.essential = !t.effects.isEmpty := by
  have hkeep : ∀ (rest : List (Op × Term)) (as : List Alternative) (a : Alternative), a ∈ as →
      ∃ a' ∈ rest.foldl planStep as, a'.first = a.first ∧ a'.essential = a.essential := by
    intro rest
    induction rest with
    | nil => exact fun as a ha => ⟨a,ha,rfl,rfl⟩
    | cons p rest ih =>
      intro as a ha
      obtain ⟨op,u⟩ := p
      cases op with
      | conj =>
        obtain ⟨a',ha',h⟩ := ih (as.map (·.push u.plan)) _ (List.mem_map_of_mem ha)
        exact ⟨a',ha',h⟩
      | disj =>
        obtain ⟨a',ha',h⟩ := ih _ a (List.mem_append_left _ ha)
        exact ⟨a',ha',h⟩
  induction rest generalizing as with
  | nil => cases h
  | cons p rest ih =>
    rcases List.mem_cons.mp h with rfl | h
    · exact hkeep rest _ ⟨!t.effects.isEmpty,t.plan,[]⟩ (by simp [planStep])
    · exact ih _ h

theorem opener_visited {t : Term} (h : r.Opens t) (he : t.effects ≠ []) (v : String → Bool) :
    t.plan ∈ (visit v false r.plan).1 := by
  rcases h with rfl | h
  · have hfirst : ∀ (rest : List (Op × Term)) (a : Alternative) (as : List Alternative),
        ∃ a' as', rest.foldl planStep (a :: as) = a' :: as' ∧ a'.first = a.first := by
      intro rest
      induction rest with
      | nil => exact fun a as => ⟨a,as,rfl,rfl⟩
      | cons p rest ih =>
        intro a as
        obtain ⟨op,u⟩ := p
        cases op with
        | conj => exact ih (a.push u.plan) (as.map (·.push u.plan))
        | disj => exact ih a (as ++ [_])
    obtain ⟨a,as,hplan,hf⟩ := hfirst r.rest ⟨false,r.first.plan,[]⟩ []
    rw [LinkRequest.plan,hplan,visit,if_neg (by simp)]
    have hmem := first_mem_walk v a
    rw [hf] at hmem
    exact List.mem_append_left _ hmem
  · obtain ⟨a,ha,hf,hess⟩ := opener_mem_plan [⟨false,r.first.plan,[]⟩] h
    have hess' : a.essential = true := by simpa [hess] using he
    exact hf ▸ first_mem_visit ha hess'

theorem term_eq_of_effect (hd : (r.items.flatMap Term.effects).Nodup) {t t' : Term} {uid : String}
    (ht : t ∈ r.items) (ht' : t' ∈ r.items) (hu : uid ∈ t.effects) (hu' : uid ∈ t'.effects) :
    t = t' := by
  by_contra hne
  have hpair := (List.nodup_flatMap.mp hd).2
  have hsymm : Std.Symm (Function.onFun List.Disjoint Term.effects) :=
    ⟨fun _ _ h _ hx hy => h hy hx⟩
  exact hpair.forall ht ht' hne hu hu'

structure DetectedSpec (r : LinkRequest) (outcome : String → Outcome) (detected : DetectedData) :
    Prop where
  sound : ∀ uid list, detected[uid]? = some list → (∃ t ∈ r.items, uid ∈ t.effects) ∧
    ∀ t ∈ r.items, uid ∈ t.effects →
      (outcome t.plugin).detect = true ∧ list = (outcome t.plugin).list
  complete : ∀ t, r.Opens t → (outcome t.plugin).detect = true → ∀ uid ∈ t.effects, uid ∈ detected

theorem visited_term {v : String → Bool} {n : NodePlan} (hn : n ∈ (visit v false r.plan).1) :
    ∃ t ∈ r.items, n = t.plan := by
  obtain ⟨a,ha,hn⟩ := mem_visit hn
  exact plan_node ha hn

theorem DetectorRequest.handled {pm : PluginManager} (hr : DetectorRequest pm r)
    (v : String → Bool) :
    ∀ uid ∈ (visit v false r.plan).1.flatMap (emission v), Handled pm uid := by
  intro uid hu
  obtain ⟨n,hn,hu⟩ := List.mem_flatMap.mp hu
  obtain ⟨t,ht,rfl⟩ := visited_term hn
  rcases List.mem_cons.mp hu with rfl | hu
  · exact .inl (hr.detectors t ht)
  · refine .inr (hr.effects t ht uid ?_)
    split at hu
    · exact hu
    · cases hu

theorem detectedSpec_of_visit {pm : PluginManager} (hr : DetectorRequest pm r)
    (hd : (r.items.flatMap Term.effects).Nodup) :
    DetectedSpec r outcome (((visit (verdictOf outcome) false r.plan).1.flatMap
      (emission (verdictOf outcome))).foldl (cacheStep pm.isEffect outcome) .clear).detected := by
  have hempty : Marks outcome [] OutcomeCache.clear.detected :=
    ⟨fun uid list h => by simp [OutcomeCache.clear] at h,nofun⟩
  have hnodes : ∀ n ∈ (visit (verdictOf outcome) false r.plan).1,
      Typed pm.isEffect n ∧ n.plugin ≠ "" := by
    intro n hn
    obtain ⟨t,ht,rfl⟩ := visited_term hn
    have hdetect := hr.detectors t ht
    exact ⟨⟨not_isEffect_of_isDetect hdetect,hr.effects t ht⟩,
      (genuine_of_exist (Handled.exist (.inl hdetect))).ne_empty⟩
  have hmarks := marks_emissions caches_clear hempty hnodes
  rw [List.nil_append] at hmarks
  constructor
  · intro uid list hl
    obtain ⟨n,hn,hu,hv,hlist⟩ := hmarks.sound uid list hl
    obtain ⟨t,ht,rfl⟩ := visited_term hn
    refine ⟨⟨t,ht,hu⟩,fun t' ht' hu' => ?_⟩
    obtain rfl := term_eq_of_effect hd ht ht' hu hu'
    exact ⟨hv,hlist⟩
  · intro t hopen hv uid hu
    have hvisited := opener_visited hopen (List.ne_nil_of_mem hu) (verdictOf outcome)
    exact hmarks.complete t.plan hvisited hv uid hu

theorem frameLoop_detected (hr : DetectorRequest d.pluginManager r)
    (hd : (r.items.flatMap Term.effects).Nodup) (ha : Answers d frames outcome) :
    ∃ A₀, LogicAnalyzer.make r.tokens = some A₀ ∧
      ∀ (w : Worker σ) (s : AvSynchronizer), Used A₀ w.logicAnalyzer →
        ((∀ n, d.run n = true) → ∃ n w', ∀ fuel ≥ n,
          d.frameLoop frames fuel (DataFlow.startFrame w s) = some (.ok (true,w'))) ∧
        ∀ fuel w', d.frameLoop frames fuel (DataFlow.startFrame w s) = some (.ok (true,w')) →
          DetectedSpec r outcome w'.outcomeCache.detected := by
  obtain ⟨A₀,hmake,hshows⟩ := make_shows hr.uids
  refine ⟨A₀,hmake,fun w s hused => ?_⟩
  have hA : w.logicAnalyzer.Shows r.plan := by
    rw [LogicAnalyzer.Shows,hused.skeleton]
    exact hshows
  obtain ⟨A',hemits,-,-⟩ := hr.emits hA (verdictOf outcome)
  have hhandled := hr.handled (verdictOf outcome)
  have hclear : Caches d.pluginManager.isEffect outcome
      (DataFlow.startFrame w s).outcomeCache true := caches_clear
  constructor
  · intro hrun
    obtain ⟨w',hloop⟩ := frameLoop_of_emits ha hrun hemits rfl hclear hhandled
    exact ⟨_,w',hloop⟩
  · intro fuel w' hloop
    rw [cache_of_frameLoop ha hemits rfl hclear hhandled hloop]
    exact detectedSpec_of_visit hr hd

end Detected

section Sample

def sampleFlow : DataFlow Unit where
  pluginManager := samplePlugins
  plugins := ⟨fun _ frame => .ok frame,fun uid _ st => (.ok ⟨uid == "FaceDetect.1",[]⟩,st)⟩
  skipFrames := 0
  progressCallback := false
  run := fun _ => true

def sampleFrames : Frames := (some ⟨1,0,1⟩,[⟨1,0,1⟩])

def faceOutcome (uid : String) : Outcome := ⟨uid == "FaceDetect.1",[]⟩

theorem sampleFlow_answers : Answers sampleFlow sampleFrames faceOutcome := by
  constructor
  intro uid st hu
  obtain ⟨plugin,hf,hd⟩ := exists_find_of_isDetect hu
  rw [DataFlow.processPlugin,hf]
  obtain ⟨type⟩ := plugin
  cases type with
  | videoDetect => rfl
  | audioDetect =>
    simp only [sampleFrames,DataFlow.processAudio]
    cases h : uid == "FaceDetect.1" <;>
      simp [DataFlow.raise,DataFlow.processOne,sampleFlow,faceOutcome,h,Except.mapError]
  | _ => cases hd

theorem frameLoop_detected_sample :
    ∃ A₀, LogicAnalyzer.make faceOrAudioMarked.tokens = some A₀ ∧
      ∀ (w : Worker Unit) (s : AvSynchronizer), Used A₀ w.logicAnalyzer →
        ((∀ n, sampleFlow.run n = true) → ∃ n w', ∀ fuel ≥ n,
          sampleFlow.frameLoop sampleFrames fuel (DataFlow.startFrame w s) =
            some (.ok (true,w'))) ∧
        ∀ fuel w', sampleFlow.frameLoop sampleFrames fuel (DataFlow.startFrame w s) =
            some (.ok (true,w')) →
          DetectedSpec faceOrAudioMarked faceOutcome w'.outcomeCache.detected :=
  frameLoop_detected faceOrAudioMarked_request (by decide) sampleFlow_answers

end Sample

end Ovi
