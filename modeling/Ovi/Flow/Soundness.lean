import Ovi.Flow.Calls
import Ovi.Flow.Numbering

namespace Ovi
open BooleanChain

section Traced

variable {σ : Type}

structure Traced (d : DataFlow σ) (frames : Frames) (calls : List DetectorCall)
    (w : Worker (σ × List DetectorCall)) : Prop where
  settled : w.outcomeCache.result.2 = w.outcomeCache
  made : NewCalls calls w.plugins.2 (∃ (uid : String) (o : Outcome),
    w.outcomeCache.storage[uid]? = some o ∧ o.detect = true ∧
      d.pluginManager.hasData frames uid = true)
  dataless : ∀ (uid : String) (o : Outcome), w.outcomeCache.storage[uid]? = some o →
    d.pluginManager.hasData frames uid = false → o.detect = true

variable {d : DataFlow σ} {frames : Frames} {calls : List DetectorCall}
  {w w' : Worker (σ × List DetectorCall)}
  {uid : String} {c : OutcomeCache}

theorem OutcomeCache.result_of_settled (h : c.result.2 = c) : c.result = (c.result.1,c) :=
  Prod.ext rfl h

theorem settled_setResultUid (hhit : c.hit uid = true) :
    (c.setResultUid uid).result.2 = c.setResultUid uid := by
  obtain ⟨o,ho⟩ := OutcomeCache.hit_iff.mp hhit
  by_cases hu : uid = ""
  · have hempty : (c.setResultUid uid).empty = true := by
      rw [OutcomeCache.empty,OutcomeCache.setResultUid,hu]
      exact Bool.or_true _
    rw [OutcomeCache.result,if_pos hempty]
  · rw [(OutcomeCache.current_setResultUid ho hu).result]

theorem traced_start (w : Worker (σ × List DetectorCall)) (s : AvSynchronizer) :
    Traced d frames w.plugins.2 (DataFlow.startFrame w s) where
  settled := rfl
  made := .none fun ⟨uid,o,ho,_⟩ => by simp [DataFlow.startFrame,OutcomeCache.clear] at ho
  dataless := fun uid o ho => by simp [DataFlow.startFrame,OutcomeCache.clear] at ho

theorem Traced.effect (h : Traced d frames calls w) (uid : String) :
    Traced d frames calls { w with outcomeCache := w.outcomeCache.setDetected uid } := by
  have hresult := OutcomeCache.result_of_settled h.settled
  rw [OutcomeCache.setDetected_eq hresult]
  exact ⟨congrArg Prod.snd (OutcomeCache.result_detected hresult _),h.made,h.dataless⟩

theorem Traced.write (h : Traced d frames calls w) (hhit : w.outcomeCache.hit uid = false)
    (hu : uid ≠ "") {o : Outcome} {st : σ × List DetectorCall}
    (hp : d.logged.processPlugin uid frames w.plugins = (.ok o,st)) :
    Traced d frames calls { w with plugins := st, outcomeCache := w.outcomeCache.write uid o } := by
  obtain ⟨hcalls,hdefault⟩ := processPlugin_calls hp
  have hnew : w.outcomeCache.storage[uid]? = none := by
    cases hs : w.outcomeCache.storage[uid]? with
    | none => rfl
    | some o' =>
      rw [OutcomeCache.hit_iff.mpr ⟨o',hs⟩] at hhit
      cases hhit
  have hget := @OutcomeCache.storage_write w.outcomeCache uid o
  refine ⟨?_,(h.made.trans hcalls).congr ?_,?_⟩
  · exact congrArg Prod.snd (OutcomeCache.current_write hu).result
  · constructor
    · rintro (⟨uid',o',ho,hd,hdata⟩ | ⟨hd,hdata⟩)
      · have hne : uid ≠ uid' := fun he => by
          rw [← he,hnew] at ho
          cases ho
        exact ⟨uid',o',by rw [hget,if_neg hne,ho],hd,hdata⟩
      · exact ⟨uid,o,by rw [hget,if_pos rfl],hd,hdata⟩
    · rintro ⟨uid',o',ho,hd,hdata⟩
      rw [hget] at ho
      split at ho
      · rename_i he
        subst he
        obtain rfl := Option.some.inj ho
        exact .inr ⟨hd,hdata⟩
      · exact .inl ⟨uid',o',ho,hd,hdata⟩
  · intro uid' o' ho hdata
    rw [hget] at ho
    split at ho
    · rename_i he
      subst he
      obtain rfl := Option.some.inj ho
      exact hdefault hdata
    · exact h.dataless uid' o' ho hdata

theorem Traced.handlePlugin (h : Traced d frames calls w) {plugin : Plugin}
    (hhit : w.outcomeCache.hit uid = false) (hf : d.pluginManager.find uid = some plugin)
    (hp : d.logged.handlePlugin w frames uid plugin = .ok (true,w')) :
    Traced d frames calls w' := by
  unfold DataFlow.handlePlugin at hp
  split at hp
  · cases hp
    exact h.effect uid
  · split at hp
    · rename_i o st hprocess
      cases hp
      exact h.write hhit (ne_empty_of_find hf) hprocess
    · cases hp
    · cases hp

theorem Traced.frameLoop (h : Traced d frames calls w) {fuel : Nat}
    (hloop : d.logged.frameLoop frames fuel w = some (.ok (true,w'))) :
    Traced d frames calls w' := by
  refine Exit.of_eop (frameLoop_exit (P := Traced d frames calls) ?_ ?_ ?_ h hloop)
  · intro w uid A hw _
    have hsame : (w.advance A).outcomeCache = w.outcomeCache := hw.settled
    exact ⟨by rw [hsame,hw.settled],by rw [hsame]; exact hw.made,by rw [hsame]; exact hw.dataless⟩
  · exact fun w uid hw hhit => ⟨settled_setResultUid hhit,hw.made,hw.dataless⟩
  · exact fun w uid plugin w₁ hw hhit hf hp => hw.handlePlugin hhit hf hp

theorem frameLoop_stored {τ : Type} {d : DataFlow τ} {w w' : Worker τ} {fuel : Nat} {o : Outcome}
    (hs : w.outcomeCache.storage[uid]? = some o)
    (hloop : d.frameLoop frames fuel w = some (.ok (true,w'))) :
    w'.outcomeCache.storage[uid]? = some o := by
  refine Exit.of_eop (frameLoop_exit (P := fun w => w.outcomeCache.storage[uid]? = some o)
    ?_ ?_ ?_ hs hloop)
  · exact fun w uid' A hw _ => OutcomeCache.stored_result hw
  · exact fun w uid' hw _ => hw
  · intro w uid' plugin w₁ hw hhit _ hp
    unfold DataFlow.handlePlugin at hp
    split at hp
    · cases hp
      exact OutcomeCache.stored_result hw
    · split at hp
      · cases hp
        have hne : uid' ≠ uid := fun he => by
          rw [he,OutcomeCache.hit_iff.mpr ⟨o,hw⟩] at hhit
          cases hhit
        dsimp only
        rw [OutcomeCache.storage_write,if_neg hne,hw]
      · cases hp
      · cases hp

end Traced

section Follow

variable {σ : Type} {d : DataFlow σ} {frames : Frames} {v : String → Bool}

def DataFlow.answersAs (d : DataFlow σ) (frames : Frames) (v : String → Bool) :
    List String → List String → σ → Bool
  | _, [], _ => true
  | seen, uid :: uids, st =>
    if uid ∈ seen then answersAs d frames v seen uids st
    else
      match d.processPlugin uid frames st with
      | (.ok outcome,st) => outcome.detect == v uid && answersAs d frames v (uid :: seen) uids st
      | (.error _,_) => false

def OutcomeCache.Agrees (v : String → Bool) (c : OutcomeCache) : Prop :=
  ∀ (uid : String) (o : Outcome), c.storage[uid]? = some o → o.detect = v uid

theorem agrees_write {c : OutcomeCache} {uid : String} {o : Outcome} (h : c.Agrees v)
    (ho : o.detect = v uid) : (c.write uid o).Agrees v := by
  intro uid' o' hs
  rw [OutcomeCache.storage_write] at hs
  split at hs
  · rename_i he
    subst he
    obtain rfl := Option.some.inj hs
    exact ho
  · exact h uid' o' hs

theorem hit_write {c : OutcomeCache} {uid : String} {o : Outcome} (uid' : String) :
    (c.write uid o).hit uid' = true ↔ uid = uid' ∨ c.hit uid' = true := by
  rw [OutcomeCache.hit_iff,OutcomeCache.hit_iff,OutcomeCache.storage_write]
  by_cases he : uid = uid'
  · rw [if_pos he]
    exact iff_of_true ⟨o,rfl⟩ (.inl he)
  · rw [if_neg he]
    exact (or_iff_right he).symm

theorem handlePlugin_detect {w : Worker σ} {uid : String} {plugin : Plugin}
    (hf : d.pluginManager.find uid = some plugin) (hu : d.pluginManager.isEffect uid = false) :
    d.handlePlugin w frames uid plugin =
      match d.processPlugin uid frames w.plugins with
      | (.ok outcome,st) =>
        .ok (true,{ w with plugins := st, outcomeCache := w.outcomeCache.write uid outcome })
      | (.error (.raised (.ovi error)),st) => .ok (false,{ w with plugins := st, ret := error })
      | (.error fault,_) => .error fault := by
  have he : isEffectType plugin = false := by rw [← isEffect_of_find hf,hu]
  rw [DataFlow.handlePlugin,he]
  rfl

theorem frameLoop_asked {w w' : Worker σ} {fuel : Nat} {uid : String} {A : LogicAnalyzer}
    {plugin : Plugin}
    (hn : w.logicAnalyzer.nextPlugin w.outcomeCache.result.1.detect = some (uid,A))
    (hne : uid ≠ oviEop) (hcache : w.outcomeCache.result.2 = w.outcomeCache)
    (hhit : w.outcomeCache.hit uid = false) (hf : d.pluginManager.find uid = some plugin)
    (hu : d.pluginManager.isEffect uid = false)
    (hloop : d.frameLoop frames (fuel + 1) w = some (.ok (true,w'))) :
    ∃ o st, d.processPlugin uid frames w.plugins = (.ok o,st) ∧
      d.frameLoop frames fuel { w.advance A with
        plugins := st
        outcomeCache := w.outcomeCache.write uid o } = some (.ok (true,w')) := by
  have hrun := run_of_frameLoop hloop
  have hmiss : w.outcomeCache.result.2.hit uid = false := by rw [hcache,hhit]
  have hhandle := @handlePlugin_detect σ d frames (w.advance A) uid plugin hf hu
  have hplugins : (w.advance A).plugins = w.plugins := rfl
  rw [hplugins] at hhandle
  cases hp : d.processPlugin uid frames w.plugins with
  | mk answer st =>
    rw [hp] at hhandle
    cases answer with
    | ok o =>
      rw [frameLoop_handled hrun hn hne hmiss hf hhandle] at hloop
      have hwrite : (w.advance A).outcomeCache.write uid o = w.outcomeCache.write uid o :=
        congrArg (OutcomeCache.write · uid o) hcache
      rw [hwrite] at hloop
      exact ⟨o,st,rfl,hloop⟩
    | error fault =>
      cases fault with
      | undefined =>
        rw [frameLoop_fault hrun hn hne hmiss hf hhandle] at hloop
        cases hloop
      | raised e =>
        cases e with
        | ovi error =>
          rw [frameLoop_raised hrun hn hne hmiss hf hhandle] at hloop
          cases hloop
        | other =>
          rw [frameLoop_fault hrun hn hne hmiss hf hhandle] at hloop
          cases hloop

-- the induction is on the plugins the analyser names while every verdict is the one of `v`
theorem frameLoop_follows {A A' : LogicAnalyzer} {b : Bool} {uids seen : List String}
    (h : Emits (feedback v d.pluginManager.isEffect) A b uids A') {w w' : Worker σ} {fuel : Nat}
    (hA : w.logicAnalyzer = A) {o : Outcome} (ho : w.outcomeCache.result = (o,w.outcomeCache))
    (hb : o.detect = b) (hseen : ∀ uid, uid ∈ seen ↔ w.outcomeCache.hit uid = true)
    (hagree : w.outcomeCache.Agrees v) (hu : ∀ uid ∈ uids, d.pluginManager.isDetect uid = true)
    (hloop : d.frameLoop frames fuel w = some (.ok (true,w'))) :
    (w'.outcomeCache.Agrees v ↔ d.answersAs frames v seen uids w.plugins = true) ∧
      (w'.outcomeCache.Agrees v → w'.logicAnalyzer = A') := by
  induction h generalizing w fuel o seen with
  | @eop A A' b hn =>
    subst hA
    subst hb
    cases fuel with
    | zero => cases hloop
    | succ fuel =>
      have hn' : w.logicAnalyzer.nextPlugin w.outcomeCache.result.1.detect = some (oviEop,A') := by
        rw [ho]
        exact hn
      rw [frameLoop_eop (run_of_frameLoop hloop) hn'] at hloop
      cases hloop
      have hsame : (w.advance A').outcomeCache = w.outcomeCache := congrArg Prod.snd ho
      rw [hsame]
      exact ⟨iff_of_true hagree rfl,fun _ => rfl⟩
  | @next A A₁ A' b uid uids hn hne _ ih =>
    subst hA
    subst hb
    cases fuel with
    | zero => cases hloop
    | succ fuel =>
      have hrun := run_of_frameLoop hloop
      have hn' : w.logicAnalyzer.nextPlugin w.outcomeCache.result.1.detect = some (uid,A₁) := by
        rw [ho]
        exact hn
      have hcache : w.outcomeCache.result.2 = w.outcomeCache := congrArg Prod.snd ho
      have hdetect := hu uid List.mem_cons_self
      have hrest : ∀ u ∈ uids, d.pluginManager.isDetect u = true :=
        fun u hm => hu u (List.mem_cons_of_mem _ hm)
      have hfeed : feedback v d.pluginManager.isEffect o.detect uid = v uid := by
        rw [feedback,not_isEffect_of_isDetect hdetect]
        rfl
      obtain ⟨plugin,hf,-⟩ := exists_find_of_isDetect hdetect
      have huid := ne_empty_of_find hf
      cases hhit : w.outcomeCache.hit uid with
      | true =>
        obtain ⟨o₁,ho₁⟩ := OutcomeCache.hit_iff.mp hhit
        rw [frameLoop_hit hrun hn' hne (by rw [hcache,hhit]),hcache] at hloop
        rw [DataFlow.answersAs,if_pos ((hseen uid).mpr hhit)]
        exact ih (w := { w.advance A₁ with outcomeCache := w.outcomeCache.setResultUid uid }) rfl
          (OutcomeCache.current_setResultUid ho₁ huid).result
          ((hagree uid o₁ ho₁).trans hfeed.symm) hseen hagree hrest hloop
      | false =>
        have hnot : uid ∉ seen := fun hm => by
          rw [(hseen uid).mp hm] at hhit
          cases hhit
        obtain ⟨o₁,st,hp,hnext⟩ := frameLoop_asked hn' hne hcache hhit hf
          (not_isEffect_of_isDetect hdetect) hloop
        rw [DataFlow.answersAs,if_neg hnot,hp]
        dsimp only
        by_cases hv : o₁.detect = v uid
        · rw [beq_iff_eq.mpr hv,Bool.true_and]
          refine ih (w := { w.advance A₁ with
            plugins := st
            outcomeCache := w.outcomeCache.write uid o₁ }) rfl
            (OutcomeCache.current_write huid).result (hv.trans hfeed.symm)
            (fun u => ?_) (agrees_write hagree hv) hrest hnext
          rw [hit_write,List.mem_cons,hseen]
          exact or_congr_left eq_comm
        · have hwritten : (w.outcomeCache.write uid o₁).storage[uid]? = some o₁ := by
            simp only [OutcomeCache.storage_write,if_pos]
          have hstored := frameLoop_stored hwritten hnext
          have hdis : ¬w'.outcomeCache.Agrees v := fun hall => hv (hall uid o₁ hstored)
          rw [beq_eq_false_iff_ne.mpr hv,Bool.false_and]
          exact ⟨iff_of_false hdis Bool.false_ne_true,fun hall => absurd hall hdis⟩

end Follow

section Skeleton

variable {σ : Type} {d : DataFlow σ} {w w' : Worker σ} {fuel k : Nat}

theorem groupTurn_skeleton (h : d.groupTurn fuel w = some (.ok (true,w'))) :
    w'.logicAnalyzer.skeleton = w.logicAnalyzer.skeleton := by
  obtain ⟨frames,s,eop,w₁,w₂,hgroup,rfl⟩ := groupTurn_go h
  have hexit : Exit d frames
      (fun u => u.logicAnalyzer.skeleton = w.logicAnalyzer.skeleton) eop w₁ := by
    refine frameLoop_exit ?_ ?_ ?_ reset_skeleton hgroup.frame
    · exact fun u uid A hu hn => (nextPluginAux_skeleton hn).trans hu
    · exact fun u uid hu _ => hu
    · exact fun u uid plugin u₁ hu _ _ hp => (congrArg _ (handlePlugin_analyzer hp)).trans hu
  have hframe : w₁.logicAnalyzer.skeleton = w.logicAnalyzer.skeleton := by
    cases hexit with
    | eop hu => exact hu
    | stopped hu => exact hu
    | raised hu hp => exact (congrArg _ (handlePlugin_analyzer hp)).trans hu
  rw [reportFrame_analyzer,← hframe]
  have hended := hgroup.ended
  cases eop with
  | false => rw [Except.ok.inj hended]
  | true => exact congrArg _ (endFrame_analyzer hended)

theorem afterGroups_skeleton (h : d.afterGroups fuel k w = some (.ok (true,w'))) :
    w'.logicAnalyzer.skeleton = w.logicAnalyzer.skeleton := by
  induction k generalizing w with
  | zero =>
    cases h
    rfl
  | succ k ih =>
    obtain ⟨w₁,hturn,hafter⟩ := afterGroups_first h
    exact (ih hafter).trans (groupTurn_skeleton hturn)

end Skeleton

section Recorded

variable {σ : Type} {d : DataFlow σ} {r : LinkRequest} {frames : Frames} {fuel : Nat}
  {w w₁ : Worker (σ × List DetectorCall)} {s : AvSynchronizer}

def LinkRequest.DetectorsOnly (r : LinkRequest) : Prop :=
  ∀ t ∈ r.items, t.effects = [] ∧ t.uncut = false

def DetectsNone (d : DataFlow σ) (r : LinkRequest) (frames : Frames) (st : σ) : Prop :=
  let v := fun uid => !d.pluginManager.hasData frames uid
  d.answersAs frames v [] ((visit v false r.plan).1.flatMap (emission v)) st = true

def Blind (d : DataFlow σ) (r : LinkRequest) (frames : Frames) (st : σ) : Prop :=
  r.value (fun uid => !d.pluginManager.hasData frames uid) = true ∧ DetectsNone d r frames st

theorem visit_eq_value (hplain : r.DetectorsOnly) (v : String → Bool) :
    (visit v false r.plan).2 = r.value v := by
  refine visit_eq_value_iff.mpr ?_
  rintro ⟨pre,alt,post,halts,-,hopens,-⟩
  cases alt with
  | nil => cases hopens
  | cons t alt =>
    have hmem : t :: alt ∈ r.alternatives := by
      rw [halts]
      exact List.mem_append_right _ List.mem_cons_self
    have ht := (hplain t (mem_items_of_alternative hmem List.mem_cons_self)).1
    rw [opensWithEffects,List.head?_cons,Option.any_some,ht] at hopens
    cases hopens

theorem emission_detect (hr : DetectorRequest d.pluginManager r) (hplain : r.DetectorsOnly)
    (v : String → Bool) : ∀ uid ∈ (visit v false r.plan).1.flatMap (emission v),
      d.pluginManager.isDetect uid = true := by
  intro uid huid
  obtain ⟨n,hn,huid⟩ := List.mem_flatMap.mp huid
  obtain ⟨t,ht,rfl⟩ := visited_term hn
  have hnone : t.plan.effects = [] := (hplain t ht).1
  rw [emission,hnone,ite_self,List.mem_singleton] at huid
  rw [huid]
  exact hr.detectors t ht

theorem Traced.agrees_iff (h : Traced d frames w.plugins.2 w₁) :
    (¬∃ c ∈ w₁.plugins.2.drop w.plugins.2.length, c.detect = true) ↔
      w₁.outcomeCache.Agrees fun uid => !d.pluginManager.hasData frames uid := by
  obtain ⟨new,hnew,hiff⟩ := h.made.grows
  rw [hnew,List.drop_left,hiff]
  constructor
  · intro hnone uid o ho
    change o.detect = !d.pluginManager.hasData frames uid
    cases hdata : d.pluginManager.hasData frames uid with
    | false => exact h.dataless uid o ho hdata
    | true =>
      cases hd : o.detect with
      | false => rfl
      | true => exact absurd ⟨uid,o,ho,hd,hdata⟩ hnone
  · rintro hall ⟨uid,o,ho,hd,hdata⟩
    have hv : o.detect = !d.pluginManager.hasData frames uid := hall uid o ho
    rw [hd,hdata] at hv
    cases hv

theorem follows_detectsNone (hr : DetectorRequest d.pluginManager r) (hplain : r.DetectorsOnly)
    (hA : w.logicAnalyzer.Shows r.plan) (hloop : d.logged.frameLoop frames fuel
      (DataFlow.startFrame { w with loads := w.loads + 1 } s) = some (.ok (true,w₁))) :
    ((¬∃ c ∈ w₁.plugins.2.drop w.plugins.2.length, c.detect = true) ↔
        DetectsNone d.logged r frames w.plugins) ∧
      (DetectsNone d.logged r frames w.plugins → w₁.logicAnalyzer.included =
        r.value fun uid => !d.pluginManager.hasData frames uid) := by
  let v := fun uid => !d.pluginManager.hasData frames uid
  have hstart := @traced_start σ d frames { w with loads := w.loads + 1 } s
  have htraced : Traced d frames w.plugins.2 w₁ := hstart.frameLoop hloop
  obtain ⟨A',hemits,hincluded,-⟩ := hr.emits hA v
  obtain ⟨hagrees,hanalyzer⟩ := @frameLoop_follows _ d.logged frames v _ A' true _ [] hemits
    _ w₁ fuel rfl defaultOutcome rfl rfl
    (fun uid => by simp [DataFlow.startFrame,OutcomeCache.clear,OutcomeCache.hit])
    (fun uid o ho => by simp [DataFlow.startFrame,OutcomeCache.clear] at ho)
    (emission_detect hr hplain v) hloop
  refine ⟨htraced.agrees_iff.trans hagrees,fun hsilent => ?_⟩
  rw [hanalyzer (hagrees.mpr hsilent),hincluded,visit_eq_value hplain]

theorem blind_iff (hr : DetectorRequest d.pluginManager r) (hplain : r.DetectorsOnly)
    (hA : w.logicAnalyzer.Shows r.plan) (hloop : d.logged.frameLoop frames fuel
      (DataFlow.startFrame { w with loads := w.loads + 1 } s) = some (.ok (true,w₁))) :
    (w₁.logicAnalyzer.included = true ∧
      ¬∃ c ∈ w₁.plugins.2.drop w.plugins.2.length, c.detect = true) ↔
        Blind d.logged r frames w.plugins := by
  obtain ⟨hcalls,hincluded⟩ := follows_detectsNone hr hplain hA hloop
  rw [hcalls]
  constructor
  · rintro ⟨hinc,hsilent⟩
    exact ⟨(hincluded hsilent).symm.trans hinc,hsilent⟩
  · rintro ⟨hvalue,hsilent⟩
    exact ⟨(hincluded hsilent).trans hvalue,hsilent⟩

end Recorded

end Ovi
