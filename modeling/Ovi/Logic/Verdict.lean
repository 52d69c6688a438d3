import Ovi.Logic.AcceptedRequest

namespace Ovi
open BooleanChain

structure DetectorRequest (pm : PluginManager) (r : LinkRequest) : Prop where
  accepted : validateLogic pm r.tokens = true
  detectors : ∀ t ∈ r.items, pm.isDetect t.plugin = true
  effects : ∀ t ∈ r.items, ∀ effect ∈ t.effects, pm.isEffect effect = true

def Term.holds (verdict : String → Bool) (t : Term) : Bool := verdict t.plugin || t.uncut

def LinkRequest.value (verdict : String → Bool) (r : LinkRequest) : Bool :=
  r.eval (Term.holds verdict)

inductive Used (A₀ : LogicAnalyzer) : LogicAnalyzer → Prop
  | made : Used A₀ A₀
  | reset {A : LogicAnalyzer} : Used A₀ A → Used A₀ A.reset
  | next {A A' : LogicAnalyzer} {b : Bool} {uid : String} : Used A₀ A →
    A.nextPlugin b = some (uid,A') → Used A₀ A'

-- `include?` is the verdict of the detector evaluated last, which an effect leaves as it is
def drive (pm : PluginManager) (verdict : String → Bool) :
    Nat → LogicAnalyzer → Bool → Option LogicAnalyzer
  | 0, _, _ => none
  | fuel + 1, A, include? => do
    let (uid,A) ← A.nextPlugin include?
    if uid == oviEop then some A
    else drive pm verdict fuel A (feedback verdict pm.isEffect include? uid)

section Skeleton

variable {A A' : LogicAnalyzer} {b : Bool} {uid : String}

theorem popNode_shapes {p : PluginPipeline} {nodes nodes' : Nodes}
    (h : p.popNode nodes = some (uid,nodes')) : shapes nodes' = shapes nodes := by
  unfold PluginPipeline.popNode at h
  cases hp : p.pipeline[p.pos]? with
  | none => simp [hp] at h
  | some ptr =>
    cases hn : nodes[ptr]? with
    | none => simp [hp,hn] at h
    | some node =>
      simp only [hp,hn,Option.bind_eq_bind,Option.bind_some,Option.some_inj] at h
      rw [← (Prod.mk.inj h).2]
      exact map_set hn (pop_shape node)

theorem pop_skeleton {p p' : PluginPipeline} {nodes nodes' : Nodes}
    (h : p.pop nodes b = some (uid,p',nodes')) :
    shapes nodes' = shapes nodes ∧ (p'.pipeline,p'.essential) = (p.pipeline,p.essential) := by
  unfold PluginPipeline.pop at h
  split at h
  · cases h
    exact ⟨rfl,rfl⟩
  · cases h₁ : p.popNode nodes with
    | none => simp [h₁] at h
    | some r₁ =>
      obtain ⟨uid₁,nodes₁⟩ := r₁
      have hs₁ := popNode_shapes h₁
      simp only [h₁,Option.bind_eq_bind,Option.bind_some] at h
      split at h
      · cases h
        exact ⟨hs₁,rfl⟩
      · split at h
        · cases h
          exact ⟨hs₁,rfl⟩
        · cases h₂ : ({ p with pos := p.pos + 1 } : PluginPipeline).popNode nodes₁ with
          | none => simp [h₂] at h
          | some r₂ =>
            obtain ⟨uid₂,nodes₂⟩ := r₂
            simp only [h₂,Option.bind_some] at h
            cases h
            exact ⟨(popNode_shapes h₂).trans hs₁,rfl⟩

theorem advance_skeleton (h : A.advance b = some (uid,A')) : A'.skeleton = A.skeleton := by
  unfold LogicAnalyzer.advance at h
  cases hp : A.pipelines[A.pos]? with
  | none => simp [hp] at h
  | some p =>
    cases hptr : p.current with
    | none => simp [hp,hptr] at h
    | some ptr =>
      cases hn : A.nodes[ptr]? with
      | none => simp [hp,hptr,hn] at h
      | some node =>
        simp only [hp,hptr,hn,post_eq,Option.bind_eq_bind,Option.bind_some] at h
        cases hpop : p.pop (A.nodes.set ptr (posted node b)) (!node.cut || b) with
        | none => simp [hpop] at h
        | some r =>
          obtain ⟨uid',p',nodes'⟩ := r
          obtain ⟨hs,hq⟩ := pop_skeleton hpop
          simp only [hpop,Option.bind_some,Option.some_inj] at h
          rw [← (Prod.mk.inj h).2]
          exact Prod.ext (hs.trans (map_set hn (posted_shape node b))) (map_set hp hq)

theorem enter_skeleton {pos : Nat} (h : A.enter pos = some A') : A'.skeleton = A.skeleton := by
  unfold LogicAnalyzer.enter at h
  cases hp : A.pipelines[pos]? with
  | none => simp [hp] at h
  | some p =>
    simp only [hp,Option.bind_eq_bind,Option.bind_some,Option.some_inj] at h
    rw [← h]
    exact Prod.ext (resetNodes_shapes p A.nodes) (map_set (y := p.rewind) hp rfl)

theorem jump_skeleton {depth pos : Nat}
    (hnext : ∀ {A : LogicAnalyzer} {b : Bool}, A.nextPluginAux depth b = some (uid,A') →
      A'.skeleton = A.skeleton) (h : A.jump depth pos = some (uid,A')) :
    A'.skeleton = A.skeleton := by
  unfold LogicAnalyzer.jump at h
  split at h
  · cases h
    rfl
  · cases he : A.enter pos with
    | none => simp [he] at h
    | some A₁ =>
      simp only [he,Option.bind_eq_bind,Option.bind_some] at h
      exact (hnext h).trans (enter_skeleton he)

theorem nextPluginAux_skeleton {depth : Nat} (h : A.nextPluginAux depth b = some (uid,A')) :
    A'.skeleton = A.skeleton := by
  induction depth generalizing A b with
  | zero => cases h
  | succ depth ih =>
    rw [nextPluginAux_succ] at h
    cases ha : A.advance b with
    | none => simp [ha] at h
    | some r =>
      obtain ⟨uid₁,A₁⟩ := r
      have hs₁ := advance_skeleton ha
      simp only [ha,Option.bind_some] at h
      split at h
      · exact (jump_skeleton ih h).trans hs₁
      · cases h
        exact hs₁

theorem Used.skeleton {A₀ : LogicAnalyzer} (h : Used A₀ A) : A.skeleton = A₀.skeleton := by
  induction h with
  | made => rfl
  | reset _ ih => exact reset_skeleton.trans ih
  | next _ hn ih => exact (nextPluginAux_skeleton hn).trans ih

end Skeleton

section Emits

inductive Emits (feed : Bool → String → Bool) :
    LogicAnalyzer → Bool → List String → LogicAnalyzer → Prop
  | eop {A A' : LogicAnalyzer} {b : Bool} : A.nextPlugin b = some (oviEop,A') → Emits feed A b [] A'
  | next {A A₁ A' : LogicAnalyzer} {b : Bool} {uid : String} {uids : List String} :
    A.nextPlugin b = some (uid,A₁) → uid ≠ oviEop → Emits feed A₁ (feed b uid) uids A' →
      Emits feed A b (uid :: uids) A'

variable {A : LogicAnalyzer} {c : Cursor} {b r : Bool} {uids : List String}
  {v effect : String → Bool}

theorem emits_of_runs (h : Runs v effect c b uids r) (hat : At A c) (hu : c.All Genuine) :
    ∃ A', Emits (feedback v effect) A b uids A' ∧ A'.included = r ∧ A'.skeleton = A.skeleton := by
  induction h generalizing A with
  | @eop c b hstep =>
    have hland := nextPlugin_step hat hu (b := b)
    rw [hstep] at hland
    obtain ⟨A',hn,hsk,hinc⟩ := hland
    exact ⟨A',.eop hn,hinc,hsk⟩
  | @next c c' b r uid uids hstep _ ih =>
    obtain ⟨A₁,hn,hsk₁,hat₁⟩ := hat.steps hu hstep
    obtain ⟨huid,hu'⟩ := Cursor.all_step hstep hu
    obtain ⟨A',hemits,hinc,hsk'⟩ := ih hat₁ hu'
    exact ⟨A',.next hn huid.ne_eop hemits,hinc,hsk'.trans hsk₁⟩

theorem drive_of_emits {pm : PluginManager} {A' : LogicAnalyzer}
    (h : Emits (feedback v pm.isEffect) A b uids A') {fuel : Nat} (hf : fuel ≥ uids.length + 1) :
    drive pm v fuel A b = some A' := by
  induction h generalizing fuel with
  | eop hn =>
    obtain ⟨fuel,rfl⟩ : ∃ k, fuel = k + 1 := ⟨fuel - 1,by omega⟩
    simp [drive,hn]
  | next hn hne _ ih =>
    obtain ⟨fuel,rfl⟩ : ∃ k, fuel = k + 1 := ⟨fuel - 1,by omega⟩
    have hrest := ih (Nat.le_of_succ_le_succ hf)
    simp [drive,hn,hne,hrest]

end Emits

section Plans

variable {pm : PluginManager} {r : LinkRequest}

def Term.Planned (alt : List Term) (a : Alternative) : Prop := a.nodes = alt.map Term.plan

structure Plans (alts : List (List Term)) (as : List Alternative) : Prop where
  nodes : List.Forall₂ Term.Planned alts as
  head : ∃ a as', as = a :: as' ∧ a.essential = false ∧
    ∀ x ∈ as', x.essential = !x.first.effects.isEmpty

theorem Plans.step {alts : List (List Term)} {as : List Alternative} (h : Plans alts as)
    (p : Op × Term) : Plans (extend alts p) (planStep as p) := by
  obtain ⟨hnodes,a,as',rfl,ha,has'⟩ := h
  obtain ⟨op,t⟩ := p
  cases op with
  | conj =>
    refine ⟨?_,a.push t.plan,as'.map (·.push t.plan),rfl,ha,?_⟩
    · rw [extend,planStep,List.forall₂_map_left_iff,List.forall₂_map_right_iff]
      refine hnodes.imp (fun alt a hpa => ?_)
      have hpush : (a.push t.plan).nodes = a.nodes ++ [t.plan] := rfl
      rw [Term.Planned,hpush,hpa,List.map_append]
      rfl
    · intro x hx
      obtain ⟨y,hy,rfl⟩ := List.mem_map.mp hx
      exact has' y hy
  | disj =>
    refine ⟨List.rel_append hnodes (.cons rfl .nil),a,as' ++ [_],rfl,ha,?_⟩
    intro x hx
    rcases List.mem_append.mp hx with hx | hx
    · exact has' x hx
    · rw [List.mem_singleton.mp hx]
      rfl

theorem plans (r : LinkRequest) : Plans r.alternatives r.plan := by
  have hfold : ∀ (rest : List (Op × Term)) alts as, Plans alts as →
      Plans (rest.foldl extend alts) (rest.foldl planStep as) := by
    intro rest
    induction rest with
    | nil => exact fun _ _ h => h
    | cons p rest ih => exact fun alts as h => ih _ _ (h.step p)
  exact hfold r.rest _ _ ⟨.cons rfl .nil,_,[],rfl,rfl,nofun⟩

theorem plan_node {a : Alternative} {n : NodePlan} (ha : a ∈ r.plan) (hn : n ∈ a.nodes) :
    ∃ t ∈ r.items, n = t.plan := by
  obtain ⟨alt,halt,hplanned⟩ := exists_of_mem_forall₂ (plans r).nodes.flip ha
  rw [hplanned] at hn
  obtain ⟨t,ht,rfl⟩ := List.mem_map.mp hn
  exact ⟨t,mem_items_of_alternative halt ht,rfl⟩

theorem LinkRequest.loaded (hr : ∀ t ∈ r.items, t.WellFormed pm) :
    ∀ a ∈ r.plan, a.All (fun uid => pm.exist uid = true) := by
  intro a ha n hn uid huid
  obtain ⟨t,ht,rfl⟩ := plan_node ha hn
  rcases List.mem_cons.mp huid with rfl | he
  · exact (hr t ht).plugin_loaded
  · obtain ⟨plugin,hf,-⟩ := exists_find_of_isEffect ((hr t ht).effects_loaded uid he)
    exact exist_of_find hf

theorem DetectorRequest.uids (h : DetectorRequest pm r) : ∀ t ∈ r.items, t.Uids := by
  intro t ht
  constructor
  · obtain ⟨plugin,hf,-⟩ := exists_find_of_isDetect (h.detectors t ht)
    exact isUid_of_exist (exist_of_find hf)
  · intro effect he
    obtain ⟨plugin,hf,-⟩ := exists_find_of_isEffect (h.effects t ht effect he)
    exact isUid_of_exist (exist_of_find hf)

theorem DetectorRequest.typed (h : DetectorRequest pm r) :
    ∀ a ∈ r.plan, ∀ n ∈ a.nodes, Typed pm.isEffect n := by
  intro a ha n hn
  obtain ⟨t,ht,rfl⟩ := plan_node ha hn
  exact ⟨not_isEffect_of_isDetect (h.detectors t ht),h.effects t ht⟩

theorem DetectorRequest.genuine (h : DetectorRequest pm r) : ∀ a ∈ r.plan, a.All Genuine := by
  intro a ha n hn uid huid
  obtain ⟨t,ht,rfl⟩ := plan_node ha hn
  rcases List.mem_cons.mp huid with rfl | he
  · obtain ⟨plugin,hf,-⟩ := exists_find_of_isDetect (h.detectors t ht)
    exact genuine_of_exist (exist_of_find hf)
  · obtain ⟨plugin,hf,-⟩ := exists_find_of_isEffect (h.effects t ht uid he)
    exact genuine_of_exist (exist_of_find hf)

theorem Cursor.start_all {P : String → Prop} {a : Alternative} {as : List Alternative}
    (h : ∀ x ∈ a :: as, x.All P) : (Cursor.start a as).All P := by
  have ha := h a (by simp)
  refine ⟨ha a.first (by simp [Alternative.nodes]),?_,fun x hx => h x (List.mem_cons_of_mem _ hx)⟩
  exact fun n hn => ha n (List.mem_cons_of_mem _ hn)

theorem DetectorRequest.emits (h : DetectorRequest pm r) {A : LogicAnalyzer}
    (hA : A.Shows r.plan) (v : String → Bool) :
    ∃ A', Emits (feedback v pm.isEffect) A.reset true
      ((visit v false r.plan).1.flatMap (emission v)) A' ∧
      A'.included = (visit v false r.plan).2 ∧ A'.skeleton = A.skeleton := by
  obtain ⟨-,a,as,hplan,-,-⟩ := plans r
  have htyped := h.typed
  have hgenuine := h.genuine
  rw [hplan] at hA htyped hgenuine ⊢
  obtain ⟨A',hemits,hinc,hsk⟩ :=
    emits_of_runs (runs_start (v := v) htyped) (reset_at hA) (Cursor.start_all hgenuine)
  exact ⟨A',hemits,hinc,hsk.trans reset_skeleton⟩

end Plans

section Visit

def NodePlan.holds (v : String → Bool) (n : NodePlan) : Bool := v n.plugin || !n.cut

def Alternative.holds (v : String → Bool) (a : Alternative) : Bool := a.nodes.all (NodePlan.holds v)

theorem walk_snd (v : String → Bool) (ns : List NodePlan) :
    (walk v ns).2 = ns.all (NodePlan.holds v) := by
  induction ns with
  | nil => rfl
  | cons n ns ih =>
    rw [walk,List.all_cons,← ih,NodePlan.holds]
    split
    · simp_all
    · simp_all

theorem visit_snd_eq_false_iff (v : String → Bool) (ok : Bool) (as : List Alternative) :
    (visit v ok as).2 = false ↔
      Overshadowed (Alternative.holds v) Alternative.essential ok as ∨
        (ok = false ∧ ∀ a ∈ as, a.holds v = false) := by
  induction as generalizing ok with
  | nil => simp [visit,not_overshadowed_nil]
  | cons a as ih =>
    rw [overshadowed_cons,visit]
    split
    · rename_i hskip
      obtain ⟨rfl,hess⟩ : ok = true ∧ a.essential = false := by simpa using hskip
      simp [ih,hess]
    · rename_i hskip
      have hwalk : (walk v a.nodes).2 = a.holds v := walk_snd v a.nodes
      rw [hwalk,ih,List.forall_mem_cons]
      cases hh : a.holds v with
      | true => simp
      | false =>
        cases ok with
        | false => simp
        | true =>
          have hess : a.essential = true := by simpa using hskip
          simp only [hess,Bool.true_or,true_and,Bool.true_eq_false,false_and,or_false]
          constructor
          · rintro (h | h)
            · exact .inr h.decide
            · exact .inl h
          · rintro (h | h)
            · exact .inr h
            · exact h.undecided.symm

end Visit

section Value

variable {pm : PluginManager} {r : LinkRequest} {v : String → Bool}

def alternativeHolds (v : String → Bool) (alt : List Term) : Bool := alt.all (Term.holds v)

def opensWithEffects (alt : List Term) : Bool := alt.head?.any (!·.effects.isEmpty)

def VerdictOvershadowed (v : String → Bool) (r : LinkRequest) : Prop :=
  Overshadowed (alternativeHolds v) opensWithEffects false r.alternatives

theorem holds_of_planned {alt : List Term} {a : Alternative} (h : Term.Planned alt a) :
    alternativeHolds v alt = a.holds v := by
  have hnode : NodePlan.holds v ∘ Term.plan = Term.holds v := by
    funext t
    simp [NodePlan.holds,Term.plan,Term.holds]
  rw [Alternative.holds,h,List.all_map,hnode]
  rfl

theorem opens_of_planned {alt : List Term} {a : Alternative} (h : Term.Planned alt a) :
    opensWithEffects alt = !a.first.effects.isEmpty := by
  cases alt with
  | nil => cases h
  | cons t alt =>
    have hfirst : a.first = t.plan := (List.cons.inj h).1
    rw [hfirst]
    rfl

theorem verdictOvershadowed_iff_plan : VerdictOvershadowed v r ↔
    Overshadowed (Alternative.holds v) Alternative.essential false r.plan := by
  obtain ⟨hnodes,a,as,hplan,-,hess⟩ := plans r
  rw [VerdictOvershadowed]
  rw [hplan] at hnodes ⊢
  obtain ⟨alt,alts,halt,halts,heq⟩ := List.forall₂_cons_right_iff.mp hnodes
  have hrest : List.Forall₂ (fun alt a => Term.Planned alt a ∧
      opensWithEffects alt = a.essential) alts as := by
    clear hplan hnodes heq
    induction halts with
    | nil => exact .nil
    | @cons alt' a' alts as hp _ ih =>
      exact .cons ⟨hp,(opens_of_planned hp).trans (hess a' (by simp)).symm⟩
        (ih (fun x hx => hess x (List.mem_cons_of_mem _ hx)))
  rw [heq,overshadowed_cons,overshadowed_cons,holds_of_planned halt,
    overshadowed_congr (fun _ _ h => holds_of_planned h) hrest]
  simp

theorem value_eq_false_iff : r.value v = false ↔ ∀ a ∈ r.plan, a.holds v = false := by
  have hnodes := (plans r).nodes
  rw [← Bool.not_eq_true,LinkRequest.value,eval_iff_alternative]
  constructor
  · intro h a ha
    obtain ⟨alt,halt,hp⟩ := exists_of_mem_forall₂ hnodes.flip ha
    have hholds := holds_of_planned (v := v) hp
    by_contra hne
    rw [← hholds,Bool.not_eq_false,alternativeHolds,List.all_eq_true] at hne
    exact h ⟨alt,halt,hne⟩
  · rintro h ⟨alt,halt,hall⟩
    obtain ⟨a,ha,hp⟩ := exists_of_mem_forall₂ hnodes halt
    have hfalse := h a ha
    rw [← holds_of_planned hp,alternativeHolds,← Bool.not_eq_true,List.all_eq_true] at hfalse
    exact hfalse hall

theorem visit_eq_value_iff : (visit v false r.plan).2 = r.value v ↔ ¬ VerdictOvershadowed v r := by
  have hvisit := visit_snd_eq_false_iff v false r.plan
  rw [← verdictOvershadowed_iff_plan,← value_eq_false_iff] at hvisit
  constructor
  · intro heq hover
    have hvalue : r.value v = false := heq ▸ hvisit.mpr (.inl hover)
    obtain ⟨a,ha,hh⟩ := (verdictOvershadowed_iff_plan.mp hover).exists_holds
    exact absurd hh (by simp [value_eq_false_iff.mp hvalue a ha])
  · intro hover
    cases hv : r.value v with
    | false => exact hvisit.mpr (.inr ⟨rfl,hv⟩)
    | true =>
      rw [← Bool.not_eq_false,hvisit]
      simp [hover,hv]

theorem include_eq_value_iff (hr : DetectorRequest pm r) (verdict : String → Bool) :
    ∃ A₀, LogicAnalyzer.make r.tokens = some A₀ ∧ ∀ A, Used A₀ A →
      ∃ A', (∃ n, ∀ fuel ≥ n, drive pm verdict fuel A.reset true = some A') ∧
        (A'.included = r.value verdict ↔ ¬ VerdictOvershadowed verdict r) := by
  obtain ⟨A₀,hmake,hshows⟩ := make_shows hr.uids
  refine ⟨A₀,hmake,fun A hused => ?_⟩
  have hA : A.Shows r.plan := by
    rw [LogicAnalyzer.Shows,hused.skeleton]
    exact hshows
  obtain ⟨A',hemits,hinc,-⟩ := hr.emits hA verdict
  refine ⟨A',⟨_,fun fuel hf => drive_of_emits hemits hf⟩,?_⟩
  rw [hinc]
  exact visit_eq_value_iff

end Value

section Sample

def samplePlugins : PluginManager :=
  ((PluginManager.empty.load 0 "FaceDetect" ⟨.videoDetect⟩).load 1 "AudioDetect"
    ⟨.audioDetect⟩).load 2 "VideoEffectMarker" ⟨.videoEffect⟩

def faceOrAudioMarked : LinkRequest :=
  ⟨⟨false,"FaceDetect.1",[]⟩,[(.disj,⟨false,"AudioDetect.2",["VideoEffectMarker.3"]⟩)]⟩

def faceOnly (uid : String) : Bool := uid == "FaceDetect.1"

theorem faceOrAudioMarked_request : DetectorRequest samplePlugins faceOrAudioMarked := by
  constructor <;> decide

theorem faceOrAudioMarked_wellFormed :
    ∀ t ∈ faceOrAudioMarked.items, t.WellFormed samplePlugins := by
  have hloaded : ∀ t ∈ faceOrAudioMarked.items, samplePlugins.exist t.plugin = true ∧
      (∀ effect ∈ t.effects, samplePlugins.isEffect effect = true) ∧ t.uncut = false := by
    decide
  intro t ht
  obtain ⟨hplugin,heffects,huncut⟩ := hloaded t ht
  refine ⟨hplugin,heffects,fun h => ?_⟩
  rw [huncut] at h
  cases h

theorem include_eq_value_iff_faceOrAudioMarked :
    ∃ A₀, LogicAnalyzer.make faceOrAudioMarked.tokens = some A₀ ∧ ∀ A, Used A₀ A →
      ∃ A', (∃ n, ∀ fuel ≥ n, drive samplePlugins faceOnly fuel A.reset true = some A') ∧
        (A'.included = faceOrAudioMarked.value faceOnly ↔
          ¬ VerdictOvershadowed faceOnly faceOrAudioMarked) :=
  include_eq_value_iff faceOrAudioMarked_request faceOnly

theorem include_ne_value_faceOrAudioMarked :
    DetectorRequest samplePlugins faceOrAudioMarked ∧
      faceOrAudioMarked.value faceOnly = true ∧
      ((LogicAnalyzer.make faceOrAudioMarked.tokens).bind (fun A =>
        drive samplePlugins faceOnly 4 A.reset true)).map LogicAnalyzer.included = some false :=
  ⟨faceOrAudioMarked_request,by decide,by decide⟩

end Sample

end Ovi
