import Ovi.Flow.Soundness

namespace Ovi

variable {σ : Type}

def DataFlow.Consults (d : DataFlow σ) (frames : Frames) (o : String → Outcome) :
    List String → List String → σ → σ → Prop
  | _, [], st, st' => st' = st
  | seen, uid :: uids, st, st' =>
    if uid ∈ seen ∨ d.pluginManager.isEffect uid = true then Consults d frames o seen uids st st'
    else ∃ st₁, d.processPlugin uid frames st = (.ok (o uid),st₁) ∧
      Consults d frames o (uid :: seen) uids st₁ st'

structure Consulted (d : DataFlow σ) (A : LogicAnalyzer) (frames : Frames) (st : σ)
    (o : String → Outcome) (uids : List String) (A' : LogicAnalyzer) (st' : σ) : Prop where
  named : Emits (feedback (fun uid => (o uid).detect) d.pluginManager.isEffect) A.reset true uids A'
  answered : d.Consults frames o [] uids st st'

structure Lists (pm : PluginManager) (o : String → Outcome) (uids : List String)
    (detected : Details) : Prop where
  first : ∃ uid ∈ uids, pm.isEffect uid = false ∧ (o uid).multiFrame = true ∧
    (o uid).list = detected ∧ ∀ uid' ∈ uids, pm.isEffect uid' = false →
      (o uid').multiFrame = true → compare uid' uid ≠ .lt

section Cache

variable {c : OutcomeCache} {detected : Details}

theorem getMultiFrameResult_iff : c.getMultiFrameResult = .ok detected ↔
    ∃ (uid : String) (outcome : Outcome), c.storage[uid]? = some outcome ∧
      outcome.multiFrame = true ∧ outcome.list = detected ∧
      ∀ (uid' : String) (outcome' : Outcome), c.storage[uid']? = some outcome' →
        outcome'.multiFrame = true → compare uid' uid ≠ .lt := by
  have hmem : ∀ {uid outcome}, (uid,outcome) ∈ c.storage.toList ↔
      c.storage[uid]? = some outcome := Std.TreeMap.mem_toList_iff_getElem?_eq_some
  have hsorted : c.storage.toList.Pairwise (fun a b => compare a.1 b.1 = .lt) :=
    Std.TreeMap.ordered_keys_toList
  rw [OutcomeCache.getMultiFrameResult]
  constructor
  · intro h
    split at h
    · rename_i item hitem
      obtain ⟨hmulti,before,after,hlist,hbefore⟩ := List.find?_eq_some_iff_append.mp hitem
      rw [hlist] at hsorted
      have hstored : c.storage[item.1]? = some item.2 :=
        hmem.mp (by rw [hlist]; exact List.mem_append_right _ List.mem_cons_self)
      refine ⟨item.1,item.2,hstored,hmulti,Except.ok.inj h,fun uid' outcome' hs hm hlt => ?_⟩
      have hin := hmem.mpr hs
      rw [hlist] at hin
      rcases List.mem_append.mp hin with hin | hin
      · have hnot := hbefore _ hin
        rw [hm] at hnot
        cases hnot
      · rcases List.mem_cons.mp hin with heq | hin
        · rw [← heq] at hlt
          cases Std.ReflCmp.compare_self.symm.trans hlt
        · have hgt := (List.pairwise_cons.mp (List.pairwise_append.mp hsorted).2.1).1 _ hin
          cases (Std.OrientedCmp.gt_of_lt hgt).symm.trans hlt
    · cases h
  · rintro ⟨uid,outcome,hs,hm,rfl,hfirst⟩
    obtain ⟨before,after,hlist⟩ := List.append_of_mem (hmem.mpr hs)
    rw [hlist] at hsorted
    have hfind : c.storage.toList.find? (fun item => item.2.multiFrame) = some (uid,outcome) := by
      refine List.find?_eq_some_iff_append.mpr ⟨hm,before,after,hlist,fun item hitem => ?_⟩
      have hlt := (List.pairwise_append.mp hsorted).2.2 item hitem _ List.mem_cons_self
      have hstored : c.storage[item.1]? = some item.2 :=
        hmem.mp (by rw [hlist]; exact List.mem_append_left _ hitem)
      cases hmulti : item.2.multiFrame with
      | false => rfl
      | true => exact absurd hlt (hfirst _ _ hstored hmulti)
    rw [hfind]

theorem findMultiFrameResult_iff : c.findMultiFrameResult = true ↔
    ∃ detected, c.getMultiFrameResult = .ok detected := by
  rw [OutcomeCache.findMultiFrameResult,OutcomeCache.getMultiFrameResult,List.any_eq_true]
  constructor
  · rintro ⟨item,hitem,hm⟩
    cases hfind : c.storage.toList.find? (fun item => item.2.multiFrame) with
    | some found => exact ⟨_,rfl⟩
    | none => exact absurd hm (List.find?_eq_none.mp hfind item hitem)
  · rintro ⟨detected,h⟩
    split at h
    · rename_i item hitem
      have hmulti : item.2.multiFrame = true := by simpa using List.find?_some hitem
      exact ⟨item,List.mem_of_find?_eq_some hitem,hmulti⟩
    · cases h

end Cache

section Walk

variable {d : DataFlow σ} {frames : Frames} {fuel : Nat} {w w' : Worker σ}

structure Asked (d : DataFlow σ) (o : String → Outcome) (seen : List String) (c : OutcomeCache) :
    Prop where
  settled : c.result.2 = c
  hit : ∀ uid, c.hit uid = true ↔ uid ∈ seen
  genuine : ∀ uid ∈ seen, d.pluginManager.isEffect uid = false ∧ uid ≠ ""
  stored : ∀ (uid : String) (outcome : Outcome), c.storage[uid]? = some outcome → outcome = o uid

variable {o : String → Outcome} {seen : List String} {c : OutcomeCache} {uid : String}

theorem Asked.result (h : Asked d o seen c) (hu : uid ∈ seen) :
    (c.setResultUid uid).result = (o uid,c.setResultUid uid) := by
  obtain ⟨outcome,ho⟩ := OutcomeCache.hit_iff.mp ((h.hit uid).mpr hu)
  obtain rfl := h.stored uid outcome ho
  exact (OutcomeCache.current_setResultUid ho (h.genuine uid hu).2).result

theorem Asked.setResultUid (h : Asked d o seen c) (hu : uid ∈ seen) :
    Asked d o seen (c.setResultUid uid) :=
  ⟨congrArg Prod.snd (h.result hu),h.hit,h.genuine,h.stored⟩

theorem Asked.setDetected (h : Asked d o seen c) (uid : String) :
    Asked d o seen (c.setDetected uid) ∧ (c.setDetected uid).result.1 = c.result.1 := by
  have hresult := OutcomeCache.result_of_settled h.settled
  rw [OutcomeCache.setDetected_eq hresult]
  have hsame := OutcomeCache.result_detected hresult (c.detected.insert uid c.result.1.list)
  exact ⟨⟨congrArg Prod.snd hsame,h.hit,h.genuine,h.stored⟩,by rw [hsame]⟩

theorem Asked.write (h : Asked d o seen c) (he : d.pluginManager.isEffect uid = false)
    (hu : uid ≠ "") : Asked d o (uid :: seen) (c.write uid (o uid)) where
  settled := congrArg Prod.snd (OutcomeCache.current_write hu).result
  hit := fun uid' => by
    rw [hit_write,h.hit,List.mem_cons]
    exact or_congr_left eq_comm
  genuine := fun uid' hm => by
    rcases List.mem_cons.mp hm with rfl | hm
    · exact ⟨he,hu⟩
    · exact h.genuine uid' hm
  stored := fun uid' outcome ho => by
    rw [OutcomeCache.storage_write] at ho
    split at ho
    · rename_i heq
      subst heq
      exact (Option.some.inj ho).symm
    · exact h.stored uid' outcome ho

theorem asked_clear (d : DataFlow σ) (o : String → Outcome) : Asked d o [] .clear where
  settled := rfl
  hit := fun uid => by simp [OutcomeCache.hit,OutcomeCache.clear]
  genuine := fun uid h => by cases h
  stored := fun uid outcome h => by simp [OutcomeCache.clear] at h

structure Walks (d : DataFlow σ) (frames : Frames) (o : String → Outcome) (seen : List String)
    (w : Worker σ) (uids : List String) (w' : Worker σ) : Prop where
  named : Emits (feedback (fun uid => (o uid).detect) d.pluginManager.isEffect) w.logicAnalyzer
    w.outcomeCache.result.1.detect uids w'.logicAnalyzer
  answered : d.Consults frames o seen uids w.plugins w'.plugins
  stored : ∀ (uid : String) (outcome : Outcome), w'.outcomeCache.storage[uid]? = some outcome ↔
    (uid ∈ seen ∨ uid ∈ uids ∧ d.pluginManager.isEffect uid = false) ∧ outcome = o uid

theorem Consults.skip {uids : List String} {st st' : σ}
    (hu : uid ∈ seen ∨ d.pluginManager.isEffect uid = true) :
    d.Consults frames o seen (uid :: uids) st st' = d.Consults frames o seen uids st st' := by
  rw [DataFlow.Consults,if_pos hu]

theorem Consults.ask {uids : List String} {st st' : σ} (hseen : uid ∉ seen)
    (he : d.pluginManager.isEffect uid = false) :
    d.Consults frames o seen (uid :: uids) st st' =
      ∃ st₁, d.processPlugin uid frames st = (.ok (o uid),st₁) ∧
        d.Consults frames o (uid :: seen) uids st₁ st' := by
  rw [DataFlow.Consults,if_neg]
  rintro (h | h)
  · exact hseen h
  · rw [he] at h
    cases h

section Turns

variable {A : LogicAnalyzer} {uids : List String}

theorem walks_end (hc : Asked d o seen w.outcomeCache)
    (hn : w.logicAnalyzer.nextPlugin w.outcomeCache.result.1.detect = some (oviEop,A)) :
    Walks d frames o seen w [] (w.advance A) := by
  refine ⟨.eop hn,rfl,fun uid outcome => ?_⟩
  have hsame : (w.advance A).outcomeCache = w.outcomeCache := hc.settled
  rw [hsame]
  constructor
  · exact fun hs => ⟨.inl ((hc.hit uid).mp (OutcomeCache.hit_iff.mpr ⟨outcome,hs⟩)),
      hc.stored uid outcome hs⟩
  · rintro ⟨hm | ⟨hm,-⟩,rfl⟩
    · obtain ⟨outcome,hs⟩ := OutcomeCache.hit_iff.mp ((hc.hit uid).mpr hm)
      rwa [← hc.stored uid outcome hs]
    · cases hm

theorem Walks.again (hc : Asked d o seen w.outcomeCache)
    (hn : w.logicAnalyzer.nextPlugin w.outcomeCache.result.1.detect = some (uid,A))
    (hne : uid ≠ oviEop) (hm : uid ∈ seen)
    (h : Walks d frames o seen { w.advance A with
      outcomeCache := w.outcomeCache.setResultUid uid } uids w') :
    Walks d frames o seen w (uid :: uids) w' := by
  refine ⟨.next hn hne ?_,?_,fun uid' outcome => ?_⟩
  · have hnamed := h.named
    dsimp only at hnamed
    rw [hc.result hm] at hnamed
    rwa [feedback,(hc.genuine uid hm).1]
  · rw [Consults.skip (.inl hm)]
    exact h.answered
  · rw [h.stored]
    refine and_congr_left fun _ => ?_
    rw [List.mem_cons]
    constructor
    · exact Or.imp_right fun h => ⟨.inr h.1,h.2⟩
    · rintro (h | ⟨rfl | h,he⟩)
      · exact .inl h
      · exact .inl hm
      · exact .inr ⟨h,he⟩

theorem Walks.effect (hc : Asked d o seen w.outcomeCache)
    (hn : w.logicAnalyzer.nextPlugin w.outcomeCache.result.1.detect = some (uid,A))
    (hne : uid ≠ oviEop) (he : d.pluginManager.isEffect uid = true)
    (h : Walks d frames o seen { w.advance A with
      outcomeCache := w.outcomeCache.setDetected uid } uids w') :
    Walks d frames o seen w (uid :: uids) w' := by
  refine ⟨.next hn hne ?_,?_,fun uid' outcome => ?_⟩
  · have hnamed := h.named
    dsimp only at hnamed
    rw [(hc.setDetected uid).2] at hnamed
    rwa [feedback,he]
  · rw [Consults.skip (.inr he)]
    exact h.answered
  · rw [h.stored]
    refine and_congr_left fun _ => or_congr_right ?_
    rw [List.mem_cons]
    constructor
    · exact fun h => ⟨.inr h.1,h.2⟩
    · rintro ⟨rfl | h,he'⟩
      · cases he.symm.trans he'
      · exact ⟨h,he'⟩

theorem Walks.ask {st : σ}
    (hn : w.logicAnalyzer.nextPlugin w.outcomeCache.result.1.detect = some (uid,A))
    (hne : uid ≠ oviEop) (hseen : uid ∉ seen) (he : d.pluginManager.isEffect uid = false)
    (hu : uid ≠ "") (hp : d.processPlugin uid frames w.plugins = (.ok (o uid),st))
    (h : Walks d frames o (uid :: seen) { w.advance A with
      plugins := st
      outcomeCache := w.outcomeCache.write uid (o uid) } uids w') :
    Walks d frames o seen w (uid :: uids) w' := by
  refine ⟨.next hn hne ?_,?_,fun uid' outcome => ?_⟩
  · have hnamed := h.named
    dsimp only at hnamed
    rw [(OutcomeCache.current_write hu).result] at hnamed
    rwa [feedback,he]
  · rw [Consults.ask hseen he]
    exact ⟨st,hp,h.answered⟩
  · rw [h.stored]
    refine and_congr_left fun _ => ?_
    rw [List.mem_cons,List.mem_cons]
    constructor
    · rintro ((rfl | h) | h)
      · exact .inr ⟨.inl rfl,he⟩
      · exact .inl h
      · exact .inr ⟨.inr h.1,h.2⟩
    · rintro (h | ⟨rfl | h,he'⟩)
      · exact .inl (.inr h)
      · exact .inl (.inl rfl)
      · exact .inr ⟨h,he'⟩

end Turns

-- the turns of the inner loop, where `o` is read off the cache at its end
theorem frameLoop_walks (hc : Asked d o seen w.outcomeCache)
    (ho : ∀ (uid : String) (outcome : Outcome), w'.outcomeCache.storage[uid]? = some outcome →
      outcome = o uid)
    (hloop : d.frameLoop frames fuel w = some (.ok (true,w'))) :
    ∃ uids, Walks d frames o seen w uids w' := by
  induction fuel generalizing w seen with
  | zero => cases hloop
  | succ fuel ih =>
    have hrun := run_of_frameLoop hloop
    have hsettled := hc.settled
    cases hn : w.logicAnalyzer.nextPlugin w.outcomeCache.result.1.detect with
    | none =>
      rw [frameLoop_undefined hrun hn] at hloop
      cases hloop
    | some r =>
      obtain ⟨uid,A⟩ := r
      by_cases hne : uid = oviEop
      · subst hne
        rw [frameLoop_eop hrun hn] at hloop
        cases hloop
        exact ⟨[],walks_end hc hn⟩
      · cases hhit : w.outcomeCache.hit uid with
        | true =>
          have hm := (hc.hit uid).mp hhit
          rw [frameLoop_hit hrun hn hne (by rw [hsettled,hhit]),hsettled] at hloop
          obtain ⟨uids,hwalk⟩ := ih (w := { w.advance A with
            outcomeCache := w.outcomeCache.setResultUid uid }) (hc.setResultUid hm) hloop
          exact ⟨uid :: uids,hwalk.again hc hn hne hm⟩
        | false =>
          have hseen : uid ∉ seen := fun hm => by
            rw [(hc.hit uid).mpr hm] at hhit
            cases hhit
          have hmiss : w.outcomeCache.result.2.hit uid = false := by rw [hsettled,hhit]
          cases hf : d.pluginManager.find uid with
          | none =>
            rw [frameLoop_unknown hrun hn hne hmiss hf] at hloop
            cases hloop
          | some plugin =>
            cases he : d.pluginManager.isEffect uid with
            | true =>
              have hplugin : isEffectType plugin = true := (isEffect_of_find hf).symm.trans he
              have hp : d.handlePlugin (w.advance A) frames uid plugin = .ok (true,{
                  w.advance A with outcomeCache := w.outcomeCache.setDetected uid }) := by
                rw [DataFlow.handlePlugin,if_pos hplugin,Worker.advance,hsettled]
              rw [frameLoop_handled hrun hn hne hmiss hf hp] at hloop
              obtain ⟨uids,hwalk⟩ := ih (hc.setDetected uid).1 hloop
              exact ⟨uid :: uids,hwalk.effect hc hn hne he⟩
            | false =>
              obtain ⟨answer,st,hp,hnext⟩ := frameLoop_asked hn hne hsettled hhit hf he hloop
              have hu := ne_empty_of_find hf
              have hwritten : (w.outcomeCache.write uid answer).storage[uid]? = some answer := by
                rw [OutcomeCache.storage_write,if_pos rfl]
              obtain rfl := ho uid answer (frameLoop_stored hwritten hnext)
              obtain ⟨uids,hwalk⟩ := ih (hc.write he hu) hnext
              exact ⟨uid :: uids,hwalk.ask hn hne hseen he hu hp⟩

theorem Walks.lists {uids : List String} (h : Walks d frames o [] w uids w') (detected : Details) :
    w'.outcomeCache.getMultiFrameResult = .ok detected ↔
      Lists d.pluginManager o uids detected := by
  have hstored : ∀ (uid : String) (outcome : Outcome),
      w'.outcomeCache.storage[uid]? = some outcome ↔
        (uid ∈ uids ∧ d.pluginManager.isEffect uid = false) ∧ outcome = o uid := by
    intro uid outcome
    rw [h.stored,or_iff_right List.not_mem_nil]
  rw [getMultiFrameResult_iff]
  constructor
  · rintro ⟨uid,outcome,hs,hm,hlist,hfirst⟩
    obtain ⟨⟨huid,he⟩,rfl⟩ := (hstored uid outcome).mp hs
    exact ⟨uid,huid,he,hm,hlist,fun uid' huid' he' =>
      hfirst uid' _ ((hstored uid' _).mpr ⟨⟨huid',he'⟩,rfl⟩)⟩
  · rintro ⟨uid,huid,he,hm,hlist,hfirst⟩
    refine ⟨uid,o uid,(hstored uid _).mpr ⟨⟨huid,he⟩,rfl⟩,hm,hlist,fun uid' outcome' hs => ?_⟩
    obtain ⟨⟨huid',he'⟩,rfl⟩ := (hstored uid' outcome').mp hs
    exact hfirst uid' huid' he'

theorem frameLoop_consulted {s : AvSynchronizer}
    (hloop : d.frameLoop frames fuel (DataFlow.startFrame w s) = some (.ok (true,w'))) :
    ∃ o uids, Consulted d w.logicAnalyzer frames w.plugins o uids w'.logicAnalyzer w'.plugins ∧
      ∀ detected, w'.outcomeCache.getMultiFrameResult = .ok detected ↔
        Lists d.pluginManager o uids detected := by
  let o := fun (uid : String) => w'.outcomeCache.storage[uid]?.getD defaultOutcome
  obtain ⟨uids,hwalk⟩ := frameLoop_walks (asked_clear d o) (fun uid outcome hs => by
    change outcome = w'.outcomeCache.storage[uid]?.getD defaultOutcome
    rw [hs,Option.getD_some]) hloop
  exact ⟨o,uids,⟨hwalk.named,hwalk.answered⟩,hwalk.lists⟩

end Walk

section Unique

variable {d : DataFlow σ} {frames : Frames} {o o' : String → Outcome} {uids uids' : List String}
  {A A' A'' : LogicAnalyzer} {st st' st'' : σ}

theorem feedback_congr {effect : String → Bool} {uid : String}
    (h : effect uid = false → o uid = o' uid) (b : Bool) :
    feedback (fun uid => (o uid).detect) effect b uid =
      feedback (fun uid => (o' uid).detect) effect b uid := by
  rw [feedback,feedback]
  cases he : effect uid with
  | true => rfl
  | false => rw [h he]

theorem emits_unique {b : Bool} {seen : List String}
    (h : Emits (feedback (fun uid => (o uid).detect) d.pluginManager.isEffect) A b uids A')
    (h' : Emits (feedback (fun uid => (o' uid).detect) d.pluginManager.isEffect) A b uids' A'')
    (hseen : ∀ uid ∈ seen, o uid = o' uid) (hc : d.Consults frames o seen uids st st')
    (hc' : d.Consults frames o' seen uids' st st'') :
    uids = uids' ∧ A' = A'' ∧ st' = st'' ∧
      ∀ uid ∈ uids, d.pluginManager.isEffect uid = false → o uid = o' uid := by
  induction h generalizing uids' st seen with
  | eop hn =>
    cases h' with
    | eop hn' =>
      obtain ⟨-,rfl⟩ := Prod.mk.inj (Option.some.inj (hn.symm.trans hn'))
      exact ⟨rfl,rfl,hc.trans hc'.symm,fun uid huid => by cases huid⟩
    | next hn' hne _ =>
      obtain ⟨rfl,-⟩ := Prod.mk.inj (Option.some.inj (hn.symm.trans hn'))
      exact absurd rfl hne
  | @next A A₁ A' b uid uids hn hne _ ih =>
    cases h' with
    | eop hn' =>
      obtain ⟨rfl,-⟩ := Prod.mk.inj (Option.some.inj (hn.symm.trans hn'))
      exact absurd rfl hne
    | next hn' _ hrest =>
      obtain ⟨rfl,rfl⟩ := Prod.mk.inj (Option.some.inj (hn.symm.trans hn'))
      by_cases hskip : uid ∈ seen ∨ d.pluginManager.isEffect uid = true
      · rw [Consults.skip hskip] at hc hc'
        have hsame : d.pluginManager.isEffect uid = false → o uid = o' uid := fun he =>
          hskip.elim (hseen uid) fun he' => by cases he.symm.trans he'
        rw [← feedback_congr hsame] at hrest
        obtain ⟨rfl,hA,hst,hall⟩ := ih hrest hseen hc hc'
        exact ⟨rfl,hA,hst,List.forall_mem_cons.mpr ⟨hsame,hall⟩⟩
      · obtain ⟨hnot,he⟩ := not_or.mp hskip
        rw [Bool.not_eq_true] at he
        rw [Consults.ask hnot he] at hc hc'
        obtain ⟨st₁,hp,hc⟩ := hc
        obtain ⟨st₂,hp',hc'⟩ := hc'
        obtain ⟨houtcome,rfl⟩ := Prod.mk.inj (hp.symm.trans hp')
        have hsame : o uid = o' uid := Except.ok.inj houtcome
        rw [← feedback_congr fun _ => hsame] at hrest
        obtain ⟨rfl,hA,hst,hall⟩ := ih hrest (List.forall_mem_cons.mpr ⟨hsame,hseen⟩) hc hc'
        exact ⟨rfl,hA,hst,List.forall_mem_cons.mpr ⟨fun _ => hsame,hall⟩⟩

theorem Lists.congr {pm : PluginManager} {detected : Details} (h : Lists pm o uids detected)
    (hsame : ∀ uid ∈ uids, pm.isEffect uid = false → o uid = o' uid) :
    Lists pm o' uids detected := by
  obtain ⟨uid,huid,he,hm,hlist,hfirst⟩ := h
  refine ⟨uid,huid,he,hsame uid huid he ▸ hm,hsame uid huid he ▸ hlist,fun uid' huid' he' hm' => ?_⟩
  exact hfirst uid' huid' he' (by rw [hsame uid' huid' he',hm'])

theorem emits_named {feed : Bool → String → Bool} {b : Bool} (h : Emits feed A b uids A')
    (h' : Emits feed A b uids' A'') : uids = uids' := by
  induction h generalizing uids' with
  | eop hn =>
    cases h' with
    | eop _ => rfl
    | next hn' hne _ =>
      obtain ⟨rfl,-⟩ := Prod.mk.inj (Option.some.inj (hn.symm.trans hn'))
      exact absurd rfl hne
  | next hn hne _ ih =>
    cases h' with
    | eop hn' =>
      obtain ⟨rfl,-⟩ := Prod.mk.inj (Option.some.inj (hn.symm.trans hn'))
      exact absurd rfl hne
    | next hn' _ hrest =>
      obtain ⟨rfl,rfl⟩ := Prod.mk.inj (Option.some.inj (hn.symm.trans hn'))
      rw [ih hrest]

end Unique

section Request

variable {d : DataFlow σ} {r : LinkRequest} {frames : Frames} {fuel : Nat} {w w₁ : Worker σ}
  {s : AvSynchronizer}

def LinkRequest.named (r : LinkRequest) (o : String → Outcome) : List String :=
  (visit (fun uid => (o uid).detect) false r.plan).1.flatMap
    (emission fun uid => (o uid).detect)

def GivesList (d : DataFlow σ) (r : LinkRequest) (frames : Frames) (st : σ)
    (detected : Details) : Prop :=
  ∃ o st', d.Consults frames o [] (r.named o) st st' ∧
    Lists d.pluginManager o (r.named o) detected

theorem givesList_iff (hr : DetectorRequest d.pluginManager r)
    (hA : w.logicAnalyzer.Shows r.plan)
    (hloop : d.frameLoop frames fuel (DataFlow.startFrame w s) = some (.ok (true,w₁)))
    (detected : Details) : w₁.outcomeCache.getMultiFrameResult = .ok detected ↔
      GivesList d r frames w.plugins detected := by
  obtain ⟨o,uids,hconsulted,hlists⟩ := frameLoop_consulted hloop
  rw [hlists]
  constructor
  · intro h
    obtain ⟨A',hemits,-⟩ := hr.emits hA fun uid => (o uid).detect
    obtain rfl := emits_named hconsulted.named hemits
    exact ⟨o,w₁.plugins,hconsulted.answered,h⟩
  · rintro ⟨o',st',hconsults,h⟩
    obtain ⟨A',hemits,-⟩ := hr.emits hA fun uid => (o' uid).detect
    obtain ⟨rfl,-,-,hsame⟩ := emits_unique hconsulted.named hemits (List.forall_mem_nil _)
      hconsulted.answered hconsults
    exact h.congr fun uid huid he => (hsame uid huid he).symm

theorem findList_iff (hr : DetectorRequest d.pluginManager r)
    (hA : w.logicAnalyzer.Shows r.plan)
    (hloop : d.frameLoop frames fuel (DataFlow.startFrame w s) = some (.ok (true,w₁))) :
    w₁.outcomeCache.findMultiFrameResult = true ↔
      ∃ detected, GivesList d r frames w.plugins detected := by
  rw [findMultiFrameResult_iff]
  exact exists_congr (givesList_iff hr hA hloop)

end Request

end Ovi
