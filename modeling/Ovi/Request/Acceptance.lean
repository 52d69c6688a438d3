import Ovi.Request.ValidateLogic
import Mathlib.Data.List.Chain
import Mathlib.Tactic.Tauto

namespace Ovi
open BooleanChain

inductive Mark where
  | cut
  | uncut
  | uncutColon
deriving DecidableEq, Repr

def Mark.tokens : Mark → List String
  | .cut => []
  | .uncut => [oviOpUncut]
  | .uncutColon => [oviOpUncut,oviOpColon]

structure LooseTerm where
  mark : Mark
  plugin : String
  effects : List String
deriving DecidableEq, Repr

def LooseTerm.tokens (t : LooseTerm) : List String :=
  t.mark.tokens ++ t.plugin :: effectTokens t.effects

inductive Link where
  | and
  | or
  | colon
deriving DecidableEq, Repr

def Link.token : Link → String
  | .and => oviOpAnd
  | .or => oviOpOr
  | .colon => oviOpColon

structure LooseTerm.WellFormed (pm : PluginManager) (t : LooseTerm) : Prop where
  plugin_loaded : pm.exist t.plugin = true
  effects_loaded : ∀ effect ∈ t.effects, pm.isEffect effect = true
  mark_has_effect : t.mark ≠ .cut → ∃ uid ∈ t.plugin :: t.effects, pm.isEffect uid = true
  colon_head : t.mark = .uncutColon → pm.isEffect t.plugin = true

def tailTokens (tail : List (Link × LooseTerm)) : List String :=
  tail.flatMap (fun p => p.1.token :: p.2.tokens)

structure LinkedTerm (pm : PluginManager) (p : Link × LooseTerm) : Prop where
  term : p.2.WellFormed pm
  colon_marked : p.1 = .colon → p.2.mark ≠ .cut

def LooseLanguage (pm : PluginManager) (request : List String) : Prop :=
  1 ≤ request.length ∧ request.length ≤ 1000 ∧
    ∃ (t : LooseTerm) (tail : List (Link × LooseTerm)), t.tokens ++ tailTokens tail = request ∧
      t.WellFormed pm ∧ ∀ p ∈ tail, LinkedTerm pm p

def UncutNextToColon (request : List String) : Prop :=
  [oviOpUncut,oviOpColon] <:+: request ∨ [oviOpColon,oviOpUncut] <:+: request

section Uid

variable {pm : PluginManager} {uid : String} {plugin : Plugin}

theorem not_logical_of_find (h : pm.find uid = some plugin) : isLogicalOperator uid = false := by
  have h1 : uid ≠ oviOpAnd := PluginManager.ne_of_no_dot h (by decide)
  have h2 : uid ≠ oviOpOr := PluginManager.ne_of_no_dot h (by decide)
  have h3 : uid ≠ oviOpColon := PluginManager.ne_of_no_dot h (by decide)
  simp [isLogicalOperator,h1,h2,h3]

theorem ne_uncut_of_find (h : pm.find uid = some plugin) : uid ≠ oviOpUncut :=
  PluginManager.ne_of_no_dot h (by decide)

theorem ne_empty_of_find (h : pm.find uid = some plugin) : uid ≠ "" :=
  PluginManager.ne_of_no_dot h (by decide)

theorem logical_cases {str : String} (h : isLogicalOperator str = true) :
    ∃ link : Link, str = link.token := by
  simp only [isLogicalOperator,Bool.or_eq_true,beq_iff_eq] at h
  rcases h with (h | h) | h
  · exact ⟨.and,h⟩
  · exact ⟨.or,h⟩
  · exact ⟨.colon,h⟩

@[simp] theorem logical_token (link : Link) : isLogicalOperator link.token = true := by
  cases link <;> decide

@[simp] theorem token_eq_colon (link : Link) : link.token = oviOpColon ↔ link = .colon := by
  cases link <;> decide

@[simp] theorem token_ne_uncut (link : Link) : link.token ≠ oviOpUncut := by
  cases link <;> decide

theorem not_logical_uncut : isLogicalOperator oviOpUncut = false := by decide

end Uid

structure Ended (last : String) : Prop where
  not_logical : isLogicalOperator last = false
  ne_uncut : last ≠ oviOpUncut

structure Accepts (pm : PluginManager) (s : Scan) (rest : List String) : Prop where
  loop : validateLoop pm rest s = some true
  ended : Ended (rest.getLastD s.prev)

def OpensProcess (prev : String) : Prop :=
  prev = "" ∨ isLogicalOperator prev = true ∨ prev = oviOpUncut

theorem accepts_nil {pm : PluginManager} {s : Scan} (h : Accepts pm s []) :
    s.validateUncut = true ∧ Ended s.prev :=
  ⟨by simpa [validateLoop] using h.loop,h.ended⟩

theorem accepts_cons {pm : PluginManager} {s : Scan} {str : String} {rest : List String}
    (h : Accepts pm s (str :: rest)) :
    (∃ link : Link, str = link.token ∧ isLogicalOperator s.prev = false ∧
      (link = .colon ∨ s.validateUncut = true) ∧ Accepts pm ⟨str,s.validateUncut⟩ rest) ∨
    (str = oviOpUncut ∧ OpensProcess s.prev ∧ s.validateUncut = true ∧
      Accepts pm ⟨str,false⟩ rest) ∨
    (∃ plugin, pm.find str = some plugin ∧ OpensProcess s.prev ∧
      (s.prev = oviOpColon → isEffectType plugin = true) ∧
      Accepts pm ⟨str,s.validateUncut || isEffectType plugin⟩ rest) := by
  obtain ⟨hl,he⟩ := h
  rw [List.getLastD_cons] at he
  unfold validateLoop at hl
  split at hl
  · rename_i hop
    obtain ⟨link,rfl⟩ := logical_cases hop
    split at hl
    · cases hl
    · rename_i hprev
      split at hl
      · rename_i hbreak
        simp_all
      · rename_i hgo
        refine .inl ⟨link,rfl,by simpa using hprev,?_,hl,he⟩
        cases hv : s.validateUncut
        · exact .inl (by simpa [hv] using hgo)
        · exact .inr rfl
  · split at hl
    · cases hl
    · rename_i hprev
      have hopen : OpensProcess s.prev := by
        simp only [Bool.and_eq_true,Bool.not_eq_true',String.isEmpty_eq_false_iff,bne_iff_ne,
          ne_eq] at hprev
        unfold OpensProcess
        by_cases h1 : s.prev = ""
        · exact .inl h1
        · by_cases h2 : isLogicalOperator s.prev = true
          · exact .inr (.inl h2)
          · by_cases h3 : s.prev = oviOpUncut
            · exact .inr (.inr h3)
            · exact absurd ⟨⟨h1,by simpa using h2⟩,h3⟩ hprev
      split at hl
      · rename_i huncut
        split at hl
        · rename_i hv
          simp_all
        · rename_i hv
          exact .inr (.inl ⟨by simpa using huncut,hopen,by simpa using hv,hl,he⟩)
      · split at hl
        · cases hl
        · rename_i plugin hf
          split at hl
          · cases hl
          · rename_i hcolon
            refine .inr (.inr ⟨plugin,hf,hopen,fun hc => ?_,hl,he⟩)
            simpa [hc] using hcolon

section Parsing

variable (pm : PluginManager)

def AfterPlugin (validateUncut : Bool) (rest : List String) : Prop :=
  ∃ effects tail, rest = effectTokens effects ++ tailTokens tail ∧
    (∀ effect ∈ effects, pm.isEffect effect = true) ∧
    (validateUncut = true ∨ effects ≠ []) ∧ ∀ p ∈ tail, LinkedTerm pm p

def AtTerm (marked : Prop) (rest : List String) : Prop :=
  ∃ (t : LooseTerm) (tail : List (Link × LooseTerm)), rest = t.tokens ++ tailTokens tail ∧
    t.WellFormed pm ∧ (marked → t.mark ≠ .cut) ∧ ∀ p ∈ tail, LinkedTerm pm p

def AtEffect (rest : List String) : Prop :=
  ∃ effect rest', rest = effect :: rest' ∧ pm.isEffect effect = true ∧ AfterPlugin pm true rest'

def AfterMark (rest : List String) : Prop :=
  (∃ uid rest', rest = uid :: rest' ∧ pm.exist uid = true ∧
    AfterPlugin pm (pm.isEffect uid) rest') ∨
  ∃ rest', rest = oviOpColon :: rest' ∧ AtEffect pm rest'

structure Remainder (s : Scan) (rest : List String) : Prop where
  plugin : ∀ plugin, pm.find s.prev = some plugin → AfterPlugin pm s.validateUncut rest
  operator : isLogicalOperator s.prev = true → s.prev ≠ oviOpColon → s.validateUncut = true →
    AtTerm pm False rest
  colon : s.prev = oviOpColon → AtEffect pm rest ∨ s.validateUncut = true ∧ AtTerm pm True rest
  mark : s.prev = oviOpUncut → s.validateUncut = false → AfterMark pm rest

variable {pm}

theorem atTerm_of_afterMark {rest : List String} {marked : Prop} (h : AfterMark pm rest) :
    AtTerm pm marked (oviOpUncut :: rest) := by
  rcases h with ⟨uid,rest',rfl,hu,effects,tail,rfl,he,hv,ht⟩ |
    ⟨_,rfl,uid,rest',rfl,hu,effects,tail,rfl,he,-,ht⟩
  · refine ⟨⟨.uncut,uid,effects⟩,tail,by simp [LooseTerm.tokens,Mark.tokens],
      ⟨hu,he,fun _ => ?_,nofun⟩,fun _ => nofun,ht⟩
    rcases hv with hv | hv
    · exact ⟨uid,by simp,hv⟩
    · obtain ⟨effect,hm⟩ := List.exists_mem_of_ne_nil _ hv
      exact ⟨effect,List.mem_cons_of_mem _ hm,he effect hm⟩
  · obtain ⟨plugin,hf,-⟩ := exists_find_of_isEffect hu
    exact ⟨⟨.uncutColon,uid,effects⟩,tail,by simp [LooseTerm.tokens,Mark.tokens],
      ⟨exist_of_find hf,he,fun _ => ⟨uid,by simp,hu⟩,fun _ => hu⟩,fun _ => nofun,ht⟩

theorem atTerm_of_afterPlugin {uid : String} {rest : List String} (hu : pm.exist uid = true)
    (h : AfterPlugin pm true rest) : AtTerm pm False (uid :: rest) := by
  obtain ⟨effects,tail,rfl,he,-,ht⟩ := h
  exact ⟨⟨.cut,uid,effects⟩,tail,by simp [LooseTerm.tokens,Mark.tokens],
    ⟨hu,he,fun h => absurd rfl h,nofun⟩,False.elim,ht⟩

theorem afterPlugin_of_atTerm {link : Link} {marked : Prop} {rest : List String}
    (h : AtTerm pm marked rest) (hm : link = .colon → marked) :
    AfterPlugin pm true (link.token :: rest) := by
  obtain ⟨t,tail,rfl,ht,hmark,htail⟩ := h
  refine ⟨[],(link,t) :: tail,by simp [effectTokens,tailTokens],by simp,.inl rfl,?_⟩
  intro p hp
  rcases List.mem_cons.mp hp with rfl | hp
  · exact ⟨ht,fun hc => hmark (hm hc)⟩
  · exact htail p hp

theorem afterPlugin_of_atEffect {validateUncut : Bool} {rest : List String} (h : AtEffect pm rest) :
    AfterPlugin pm validateUncut (oviOpColon :: rest) := by
  obtain ⟨effect,rest',rfl,hu,effects,tail,rfl,he,-,ht⟩ := h
  refine ⟨effect :: effects,tail,by simp [effectTokens],?_,.inr (by simp),ht⟩
  intro x hx
  rcases List.mem_cons.mp hx with rfl | hx
  · exact hu
  · exact he x hx

theorem atEffect_of_afterPlugin {uid : String} {plugin : Plugin} {validateUncut : Bool}
    {rest : List String} (hf : pm.find uid = some plugin) (he : isEffectType plugin = true)
    (h : AfterPlugin pm (validateUncut || isEffectType plugin) rest) :
    AtEffect pm (uid :: rest) :=
  ⟨uid,rest,rfl,by rw [isEffect_of_find hf,he],by simpa [he] using h⟩

theorem not_opensProcess_of_find {uid : String} {plugin : Plugin}
    (hf : pm.find uid = some plugin) : ¬ OpensProcess uid := by
  rintro (h | h | h)
  · exact ne_empty_of_find hf h
  · rw [not_logical_of_find hf] at h
    cases h
  · exact ne_uncut_of_find hf h

theorem accepts_remainder {s : Scan} {rest : List String} (h : Accepts pm s rest) :
    Remainder pm s rest := by
  induction rest generalizing s with
  | nil =>
    obtain ⟨hv,hl,hu⟩ := accepts_nil h
    refine ⟨fun _ _ => ?_,fun hop => ?_,fun hc => ?_,fun hm => absurd hm hu⟩
    · exact ⟨[],[],by simp [effectTokens,tailTokens],by simp,.inl hv,by simp⟩
    · rw [hop] at hl
      cases hl
    · rw [hc] at hl
      cases hl
  | cons str rest ih =>
    rcases accepts_cons h with ⟨link,rfl,hprev,hlink,hrest⟩ | ⟨rfl,hopen,hv,hrest⟩ |
      ⟨plugin,hf,hopen,hcolon,hrest⟩
    · have hr := ih hrest
      refine ⟨fun _ _ => ?_,fun hop => ?_,fun hc => ?_,fun hm hv => ?_⟩
      · by_cases hc : link = .colon
        · subst hc
          rcases hr.colon rfl with he | ⟨hv,ht⟩
          · exact afterPlugin_of_atEffect he
          · exact hv ▸ afterPlugin_of_atTerm ht (fun _ => trivial)
        · have hv := hlink.resolve_left hc
          have ht := hr.operator (logical_token link) (by simpa using hc) hv
          exact hv ▸ afterPlugin_of_atTerm ht hc
      · rw [hprev] at hop
        cases hop
      · rw [hc] at hprev
        cases hprev
      · obtain rfl := hlink.resolve_right (by simp [hv])
        rcases hr.colon rfl with he | ⟨hv',-⟩
        · exact .inr ⟨rest,rfl,he⟩
        · rw [hv] at hv'
          cases hv'
    · have hr := (ih hrest).mark rfl rfl
      refine ⟨fun _ hf => absurd hopen (not_opensProcess_of_find hf),
        fun _ _ _ => atTerm_of_afterMark hr,fun _ => .inr ⟨hv,atTerm_of_afterMark hr⟩,
        fun _ hv' => ?_⟩
      rw [hv] at hv'
      cases hv'
    · have hr := (ih hrest).plugin plugin hf
      refine ⟨fun _ hf' => absurd hopen (not_opensProcess_of_find hf'),fun _ _ hv => ?_,
        fun hc => .inl (atEffect_of_afterPlugin hf (hcolon hc) hr),fun _ hv => ?_⟩
      · exact atTerm_of_afterPlugin (exist_of_find hf) (by simpa [hv] using hr)
      · exact .inl ⟨str,rest,rfl,exist_of_find hf,by
          simpa [hv,isEffect_of_find hf] using hr⟩

end Parsing

section Scanning

variable {pm : PluginManager} {s : Scan} {rest : List String}

theorem validateLoop_link {link : Link} (hprev : isLogicalOperator s.prev = false)
    (hlink : link = .colon ∨ s.validateUncut = true) :
    validateLoop pm (link.token :: rest) s = validateLoop pm rest ⟨link.token,s.validateUncut⟩ := by
  rcases hlink with rfl | hv
  · rw [validateLoop,logical_token]
    simp [hprev]
  · simp [validateLoop,hprev,hv]

theorem validateLoop_uncut (hopen : OpensProcess s.prev) (hv : s.validateUncut = true) :
    validateLoop pm (oviOpUncut :: rest) s = validateLoop pm rest ⟨oviOpUncut,false⟩ := by
  rcases hopen with h | h | h <;> simp [validateLoop,not_logical_uncut,h,hv]

theorem validateLoop_uid {uid : String} {plugin : Plugin} (hf : pm.find uid = some plugin)
    (hopen : OpensProcess s.prev) (hc : s.prev = oviOpColon → isEffectType plugin = true) :
    validateLoop pm (uid :: rest) s =
      validateLoop pm rest ⟨uid,s.validateUncut || isEffectType plugin⟩ := by
  have hl := not_logical_of_find hf
  have hu := ne_uncut_of_find hf
  have hskip : (s.prev == oviOpColon && !isEffectType plugin) = false := by
    by_cases h : s.prev = oviOpColon
    · simp [hc h]
    · simp [h]
  rcases hopen with h | h | h <;> simp [validateLoop,hl,hu,hf,h] <;> simp_all

theorem validateLoop_effects {effects : List String} {prev : String} {validateUncut : Bool}
    (hprev : isLogicalOperator prev = false) (he : ∀ effect ∈ effects, pm.isEffect effect = true) :
    validateLoop pm (effectTokens effects ++ rest) ⟨prev,validateUncut⟩ =
      validateLoop pm rest ⟨effects.getLastD prev,validateUncut || !effects.isEmpty⟩ := by
  induction effects generalizing prev validateUncut with
  | nil => simp [effectTokens]
  | cons effect effects ih =>
    obtain ⟨plugin,hf,ht⟩ := exists_find_of_isEffect (he effect (by simp))
    have hstep : validateLoop pm (effectTokens effects ++ rest) ⟨effect,true⟩ =
        validateLoop pm rest ⟨effects.getLastD effect,true || !effects.isEmpty⟩ :=
      ih (not_logical_of_find hf) (fun x hx => he x (List.mem_cons_of_mem _ hx))
    change validateLoop pm (Link.colon.token :: effect :: (effectTokens effects ++ rest)) _ = _
    rw [validateLoop_link hprev (.inl rfl),validateLoop_uid hf (.inr (.inl rfl)) (fun _ => ht),ht,
      Bool.or_true,hstep,List.getLastD_cons]
    simp

def LooseTerm.last (t : LooseTerm) : String := t.effects.getLastD t.plugin

theorem LooseTerm.exist_last {t : LooseTerm} (ht : t.WellFormed pm) : pm.exist t.last = true := by
  rcases List.getLastD_mem_cons (l := t.effects) (a := t.plugin) |> List.mem_cons.mp with h | h
  · rw [LooseTerm.last,h]
    exact ht.plugin_loaded
  · obtain ⟨plugin,hf,-⟩ := exists_find_of_isEffect (ht.effects_loaded _ h)
    exact exist_of_find hf

theorem validateLoop_head {t : LooseTerm} (ht : t.WellFormed pm) (hopen : OpensProcess s.prev)
    (hv : s.validateUncut = true) (hc : s.prev = oviOpColon → t.mark ≠ .cut) :
    validateLoop pm (t.mark.tokens ++ t.plugin :: rest) s =
      validateLoop pm rest ⟨t.plugin,t.mark == .cut || pm.isEffect t.plugin⟩ := by
  obtain ⟨plugin,hf⟩ := exists_find_of_exist ht.plugin_loaded
  have he := isEffect_of_find hf
  cases hm : t.mark with
  | cut =>
    have hne : s.prev ≠ oviOpColon := fun h => hc h hm
    have hstep : validateLoop pm (t.plugin :: rest) s =
        validateLoop pm rest ⟨t.plugin,s.validateUncut || isEffectType plugin⟩ :=
      validateLoop_uid hf hopen (fun h => absurd h hne)
    simpa [Mark.tokens,hv] using hstep
  | uncut =>
    change validateLoop pm (oviOpUncut :: t.plugin :: rest) s = _
    rw [validateLoop_uncut hopen hv,
      validateLoop_uid hf (.inr (.inr rfl)) (fun h => absurd h (by decide)),he]
    rfl
  | uncutColon =>
    have ht' : isEffectType plugin = true := he ▸ ht.colon_head hm
    change validateLoop pm (oviOpUncut :: Link.colon.token :: t.plugin :: rest) s = _
    rw [validateLoop_uncut hopen hv,validateLoop_link (by decide) (.inl rfl),
      validateLoop_uid hf (.inr (.inl rfl)) (fun _ => ht'),he]
    rfl

theorem validateLoop_term {t : LooseTerm} (ht : t.WellFormed pm) (hopen : OpensProcess s.prev)
    (hv : s.validateUncut = true) (hc : s.prev = oviOpColon → t.mark ≠ .cut) :
    validateLoop pm (t.tokens ++ rest) s = validateLoop pm rest ⟨t.last,true⟩ := by
  obtain ⟨plugin,hf⟩ := exists_find_of_exist ht.plugin_loaded
  have hcut : (t.mark == .cut || pm.isEffect t.plugin || !t.effects.isEmpty) = true := by
    by_cases hm : t.mark = .cut
    · simp [hm]
    · obtain ⟨uid,hu,he⟩ := ht.mark_has_effect hm
      rcases List.mem_cons.mp hu with rfl | hu
      · simp [he]
      · simp [List.ne_nil_of_mem hu]
  unfold LooseTerm.tokens
  rw [List.append_assoc,List.cons_append,validateLoop_head ht hopen hv hc,
    validateLoop_effects (not_logical_of_find hf) ht.effects_loaded,hcut]
  rfl

theorem validateLoop_tail {tail : List (Link × LooseTerm)} {prev : String}
    (hprev : isLogicalOperator prev = false) (ht : ∀ p ∈ tail, LinkedTerm pm p) :
    validateLoop pm (tailTokens tail) ⟨prev,true⟩ = some true := by
  induction tail generalizing prev with
  | nil => rfl
  | cons p tail ih =>
    obtain ⟨link,t⟩ := p
    obtain ⟨hterm,hmark⟩ := ht (link,t) (by simp)
    obtain ⟨plugin,hf⟩ := exists_find_of_exist (LooseTerm.exist_last hterm)
    change validateLoop pm (link.token :: (t.tokens ++ tailTokens tail)) _ = _
    rw [validateLoop_link hprev (.inr rfl),
      validateLoop_term hterm (.inr (.inl (logical_token link))) rfl
        (fun h => hmark ((token_eq_colon link).mp h))]
    exact ih (not_logical_of_find hf) (fun p hp => ht p (List.mem_cons_of_mem _ hp))

end Scanning

theorem validateLogic_iff {pm : PluginManager} {request : List String} :
    validateLogic pm request = true ↔ request ≠ [] ∧ request.length ≤ 1000 ∧
      isLogicalOperator (request.headD "") = false ∧ Ended (request.getLastD "") ∧
      validateLoop pm request ⟨"",true⟩ = some true := by
  cases request with
  | nil => simp [validateLogic]
  | cons str rest =>
    obtain ⟨last,hlast⟩ : ∃ last, (str :: rest).getLast? = some last :=
      ⟨_,List.getLast?_eq_some_getLast (List.cons_ne_nil str rest)⟩
    have hd : (str :: rest).getLastD "" = last := by simp [List.getLastD_eq_getLast?,hlast]
    rw [hd]
    simp only [validateLogic,List.head?_cons,hlast,List.headD_cons,gt_iff_lt]
    constructor
    · intro h
      split at h
      · cases h
      · split at h
        · cases h
        · split at h
          · cases h
          · rename_i hlen hfirst hend
            simp only [Bool.or_eq_true,beq_iff_eq,not_or,Bool.not_eq_true] at hend
            refine ⟨by simp,by omega,by simpa using hfirst,⟨hend.1,hend.2⟩,?_⟩
            cases hl : validateLoop pm (str :: rest) ⟨"",true⟩ with
            | none => simp [hl] at h
            | some b => simpa [hl] using h
    · rintro ⟨-,hlen,hfirst,⟨hl,hu⟩,hloop⟩
      rw [if_neg (by omega),if_neg (by simp [hfirst]),if_neg (by simp [hl,hu]),hloop]
      rfl

theorem getLastD_append {α : Type} (xs ys : List α) (a : α) :
    (xs ++ ys).getLastD a = ys.getLastD (xs.getLastD a) := by
  induction xs generalizing a with
  | nil => rfl
  | cons x xs ih => rw [List.cons_append,List.getLastD_cons,List.getLastD_cons,ih]

theorem LooseTerm.getLastD_tokens (t : LooseTerm) (prev : String) :
    t.tokens.getLastD prev = t.last := by
  have heffects (effects : List String) (uid : String) :
      (effectTokens effects).getLastD uid = effects.getLastD uid := by
    induction effects generalizing uid with
    | nil => rfl
    | cons effect effects ih =>
      change (oviOpColon :: effect :: effectTokens effects).getLastD uid = _
      rw [List.getLastD_cons,List.getLastD_cons,List.getLastD_cons,ih]
  rw [LooseTerm.tokens,getLastD_append,List.getLastD_cons,heffects,LooseTerm.last]

theorem exist_getLastD_tail {pm : PluginManager} {tail : List (Link × LooseTerm)} {prev : String}
    (hprev : pm.exist prev = true) (ht : ∀ p ∈ tail, LinkedTerm pm p) :
    pm.exist ((tailTokens tail).getLastD prev) = true := by
  induction tail generalizing prev with
  | nil => exact hprev
  | cons p tail ih =>
    obtain ⟨link,t⟩ := p
    change pm.exist ((link.token :: (t.tokens ++ tailTokens tail)).getLastD prev) = true
    rw [List.getLastD_cons,getLastD_append,LooseTerm.getLastD_tokens]
    exact ih (LooseTerm.exist_last (ht (link,t) (by simp)).term)
      (fun p hp => ht p (List.mem_cons_of_mem _ hp))

theorem headD_tokens {pm : PluginManager} {t : LooseTerm} (ht : t.WellFormed pm)
    (rest : List String) : isLogicalOperator ((t.tokens ++ rest).headD "") = false := by
  obtain ⟨plugin,hf⟩ := exists_find_of_exist ht.plugin_loaded
  cases hm : t.mark with
  | cut => simpa [LooseTerm.tokens,hm,Mark.tokens] using not_logical_of_find hf
  | uncut => simpa [LooseTerm.tokens,hm,Mark.tokens] using not_logical_uncut
  | uncutColon => simpa [LooseTerm.tokens,hm,Mark.tokens] using not_logical_uncut

theorem validateLogic_iff_loose (pm : PluginManager) (request : List String) :
    validateLogic pm request = true ↔ LooseLanguage pm request := by
  rw [validateLogic_iff]
  constructor
  · rintro ⟨hne,hlen,hfirst,hend,hloop⟩
    obtain ⟨str,rest,rfl⟩ := List.exists_cons_of_ne_nil hne
    have hterm : AtTerm pm False (str :: rest) := by
      rcases accepts_cons (s := ⟨"",true⟩) ⟨hloop,hend⟩ with ⟨link,rfl,-⟩ | ⟨rfl,-,-,hrest⟩ |
        ⟨plugin,hf,-,-,hrest⟩
      · simp at hfirst
      · exact atTerm_of_afterMark ((accepts_remainder hrest).mark rfl rfl)
      · exact atTerm_of_afterPlugin (exist_of_find hf) ((accepts_remainder hrest).plugin plugin hf)
    obtain ⟨t,tail,htok,ht,-,htail⟩ := hterm
    exact ⟨by simp,hlen,t,tail,htok.symm,ht,htail⟩
  · rintro ⟨hpos,hlen,t,tail,rfl,ht,htail⟩
    obtain ⟨plugin,hf⟩ := exists_find_of_exist (LooseTerm.exist_last ht)
    have hloop : validateLoop pm (t.tokens ++ tailTokens tail) ⟨"",true⟩ = some true := by
      rw [validateLoop_term ht (.inl rfl) rfl (fun h => absurd h (by decide))]
      exact validateLoop_tail (not_logical_of_find hf) htail
    have hend : pm.exist ((t.tokens ++ tailTokens tail).getLastD "") = true := by
      rw [getLastD_append,LooseTerm.getLastD_tokens]
      exact exist_getLastD_tail (LooseTerm.exist_last ht) htail
    obtain ⟨last,hlast⟩ := exists_find_of_exist hend
    exact ⟨List.ne_nil_of_length_pos hpos,hlen,headD_tokens ht _,
      ⟨not_logical_of_find hlast,ne_uncut_of_find hlast⟩,hloop⟩

end Ovi
