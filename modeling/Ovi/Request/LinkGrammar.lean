import Ovi.Request.Acceptance

namespace Ovi
open BooleanChain

def Apart (a b : String) : Prop :=
  ¬ (a = oviOpUncut ∧ b = oviOpColon) ∧ ¬ (a = oviOpColon ∧ b = oviOpUncut)

def loosen (t : Term) : LooseTerm :=
  ⟨if t.uncut then .uncut else .cut,t.plugin,t.effects⟩

def link : Op → Link
  | .conj => .and
  | .disj => .or

def tighten (t : LooseTerm) : Term := ⟨t.mark != .cut,t.plugin,t.effects⟩

def operator : Link → Op
  | .or => .disj
  | _ => .conj

theorem loosen_tokens (t : Term) : (loosen t).tokens = t.tokens := by
  cases h : t.uncut <;> simp [loosen,LooseTerm.tokens,Term.tokens,Mark.tokens,h]

theorem link_token (op : Op) : (link op).token = linkOperator op := by
  cases op <;> rfl

theorem loosen_request_tokens (r : LinkRequest) :
    (loosen r.first).tokens ++ tailTokens (r.rest.map (fun p => (link p.1,loosen p.2))) =
      LinkRequest.tokens r := by
  simp only [LinkRequest.tokens,tailTokens,List.flatMap_map,loosen_tokens,link_token]

theorem tighten_tokens {t : LooseTerm} (h : t.mark ≠ .uncutColon) :
    (tighten t).tokens = t.tokens := by
  cases hm : t.mark with
  | uncutColon => exact absurd hm h
  | cut => simp [tighten,Term.tokens,LooseTerm.tokens,Mark.tokens,hm]
  | uncut => simp [tighten,Term.tokens,LooseTerm.tokens,Mark.tokens,hm]

theorem operator_token {l : Link} (h : l ≠ .colon) : linkOperator (operator l) = l.token := by
  cases l with
  | colon => exact absurd rfl h
  | and => rfl
  | or => rfl

section WellFormed

variable {pm : PluginManager}

theorem loosen_wellFormed {t : Term} (h : t.WellFormed pm) : (loosen t).WellFormed pm := by
  obtain ⟨hp,he,hu⟩ := h
  cases hm : t.uncut with
  | true => exact ⟨hp,he,fun _ => hu hm,by simp [loosen,hm]⟩
  | false => exact ⟨hp,he,fun h => absurd (by simp [loosen,hm]) h,by simp [loosen,hm]⟩

theorem tighten_wellFormed {t : LooseTerm} (h : t.WellFormed pm) : (tighten t).WellFormed pm :=
  ⟨h.plugin_loaded,h.effects_loaded,fun hu => h.mark_has_effect (by simpa [tighten] using hu)⟩

theorem chain_effects {effects rest : List String} {uid : String} (hu : pm.exist uid = true)
    (he : ∀ effect ∈ effects, pm.isEffect effect = true)
    (hrest : (effects.getLastD uid :: rest).IsChain Apart) :
    (uid :: (effectTokens effects ++ rest)).IsChain Apart := by
  induction effects generalizing uid with
  | nil => exact hrest
  | cons effect effects ih =>
    obtain ⟨plugin,hf⟩ := exists_find_of_exist hu
    obtain ⟨plugin',hf',-⟩ := exists_find_of_isEffect (he effect (by simp))
    have htail := ih (exist_of_find hf') (fun x hx => he x (List.mem_cons_of_mem _ hx))
      (by rwa [List.getLastD_cons] at hrest)
    change (uid :: oviOpColon :: effect :: (effectTokens effects ++ rest)).IsChain Apart
    refine List.isChain_cons_cons.mpr ⟨⟨?_,?_⟩,List.isChain_cons_cons.mpr ⟨⟨?_,?_⟩,htail⟩⟩
    · exact fun h => ne_uncut_of_find hf h.1
    · exact fun h => absurd h.2 (by decide)
    · exact fun h => absurd h.1 (by decide)
    · exact fun h => ne_uncut_of_find hf' h.2

theorem chain_term {t : LooseTerm} {rest : List String} (ht : t.WellFormed pm)
    (hm : t.mark ≠ .uncutColon) (hrest : (t.last :: rest).IsChain Apart) :
    (t.tokens ++ rest).IsChain Apart := by
  obtain ⟨plugin,hf⟩ := exists_find_of_exist ht.plugin_loaded
  have hbody := chain_effects ht.plugin_loaded ht.effects_loaded hrest
  cases h : t.mark with
  | uncutColon => exact absurd h hm
  | cut => simpa [LooseTerm.tokens,h,Mark.tokens] using hbody
  | uncut =>
    have hne : t.plugin ≠ oviOpColon := PluginManager.ne_of_no_dot hf (by decide)
    have hfirst : Apart oviOpUncut t.plugin :=
      ⟨fun h => hne h.2,fun h => absurd h.1 (by decide)⟩
    simpa [LooseTerm.tokens,h,Mark.tokens] using List.isChain_cons_cons.mpr ⟨hfirst,hbody⟩

theorem chain_tail {tail : List (Link × LooseTerm)} {uid : String} (hu : pm.exist uid = true)
    (ht : ∀ p ∈ tail, p.2.WellFormed pm ∧ p.1 ≠ .colon ∧ p.2.mark ≠ .uncutColon) :
    (uid :: tailTokens tail).IsChain Apart := by
  induction tail generalizing uid with
  | nil => exact .singleton uid
  | cons p tail ih =>
    obtain ⟨l,t⟩ := p
    obtain ⟨hterm,hcolon,hmark⟩ := ht (l,t) (by simp)
    obtain ⟨plugin,hf⟩ := exists_find_of_exist hu
    have hrest := chain_term hterm hmark
      (ih (LooseTerm.exist_last hterm) (fun p hp => ht p (List.mem_cons_of_mem _ hp)))
    have hlink : l.token ≠ oviOpColon := fun h => hcolon ((token_eq_colon l).mp h)
    change (uid :: l.token :: (t.tokens ++ tailTokens tail)).IsChain Apart
    refine List.isChain_cons_cons.mpr ⟨⟨fun h => ne_uncut_of_find hf h.1,fun h => ?_⟩,?_⟩
    · exact token_ne_uncut l h.2
    · refine List.isChain_cons.mpr ⟨fun b _ => ⟨fun h => token_ne_uncut l h.1,?_⟩,hrest⟩
      exact fun h => hlink h.1

end WellFormed

theorem not_uncutNextToColon_of_chain {tokens : List String} (h : tokens.IsChain Apart) :
    ¬ UncutNextToColon tokens := by
  rintro (hi | hi)
  · have hp := List.isChain_pair.mp <| List.IsChain.infix h hi
    exact hp.1 ⟨rfl,rfl⟩
  · have hp := List.isChain_pair.mp <| List.IsChain.infix h hi
    exact hp.2 ⟨rfl,rfl⟩

theorem linkLanguage_of_loose {pm : PluginManager} {request : List String}
    (h : LooseLanguage pm request) (hn : ¬ UncutNextToColon request) : LinkLanguage pm request := by
  obtain ⟨hpos,hlen,t,tail,rfl,ht,htail⟩ := h
  have hfirst : t.mark ≠ .uncutColon := by
    intro hm
    refine hn (.inl ⟨[],t.plugin :: effectTokens t.effects ++ tailTokens tail,?_⟩)
    simp [LooseTerm.tokens,hm,Mark.tokens]
  have hmark : ∀ p ∈ tail, p.2.mark ≠ .uncutColon := by
    intro p hp hm
    obtain ⟨pre,post,rfl⟩ := List.append_of_mem hp
    refine hn (.inl ⟨t.tokens ++ tailTokens pre ++ [p.1.token],
      p.2.plugin :: effectTokens p.2.effects ++ tailTokens post,?_⟩)
    simp [tailTokens,LooseTerm.tokens,hm,Mark.tokens]
  have hcolon : ∀ p ∈ tail, p.1 ≠ .colon := by
    intro p hp hc
    obtain ⟨pre,post,rfl⟩ := List.append_of_mem hp
    have hm : p.2.mark = .uncut := by
      cases h : p.2.mark with
      | cut => exact absurd h ((htail p hp).colon_marked hc)
      | uncut => rfl
      | uncutColon => exact absurd h (hmark p hp)
    refine hn (.inr ⟨t.tokens ++ tailTokens pre,
      p.2.plugin :: effectTokens p.2.effects ++ tailTokens post,?_⟩)
    simp [tailTokens,LooseTerm.tokens,hc,hm,Mark.tokens,Link.token]
  refine ⟨hpos,hlen,⟨tighten t,tail.map (fun p => (operator p.1,tighten p.2))⟩,?_,?_⟩
  · simp only [LinkRequest.tokens,tighten_tokens hfirst,List.flatMap_map]
    congr 1
    exact List.flatMap_congr fun p hp => by
      rw [operator_token (hcolon p hp),tighten_tokens (hmark p hp)]
  · intro u hu
    simp only [Chain.items,List.map_map,List.mem_cons,List.mem_map] at hu
    rcases hu with rfl | ⟨p,hp,rfl⟩
    · exact tighten_wellFormed ht
    · exact tighten_wellFormed (htail p hp).term

theorem loose_of_linkLanguage {pm : PluginManager} {request : List String}
    (h : LinkLanguage pm request) : LooseLanguage pm request ∧ ¬ UncutNextToColon request := by
  obtain ⟨hpos,hlen,r,rfl,hr⟩ := h
  have hfirst := loosen_wellFormed (hr r.first (by simp [Chain.items]))
  have hrest : ∀ p ∈ r.rest.map (fun p => (link p.1,loosen p.2)),
      p.2.WellFormed pm ∧ p.1 ≠ .colon ∧ p.2.mark ≠ .uncutColon := by
    intro p hp
    obtain ⟨q,hq,rfl⟩ := List.mem_map.mp hp
    refine ⟨loosen_wellFormed (hr q.2 ?_),by cases h : q.1 <;> simp [link],?_⟩
    · exact List.mem_cons_of_mem _ (List.mem_map_of_mem hq)
    · cases h : q.2.uncut <;> simp [loosen,h]
  refine ⟨⟨hpos,hlen,loosen r.first,_,loosen_request_tokens r,hfirst,?_⟩,?_⟩
  · exact fun p hp => ⟨(hrest p hp).1,fun hc => absurd hc (hrest p hp).2.1⟩
  · rw [← loosen_request_tokens]
    refine not_uncutNextToColon_of_chain (chain_term hfirst ?_ ?_)
    · cases h : r.first.uncut <;> simp [loosen,h]
    · exact chain_tail (LooseTerm.exist_last hfirst) hrest

theorem validateLogic_iff_linkLanguage_iff (pm : PluginManager) (request : List String) :
    (validateLogic pm request = true ↔ LinkLanguage pm request) ↔
      ¬ (LooseLanguage pm request ∧ UncutNextToColon request) := by
  have hlink : LinkLanguage pm request ↔ LooseLanguage pm request ∧ ¬ UncutNextToColon request :=
    ⟨loose_of_linkLanguage,fun h => linkLanguage_of_loose h.1 h.2⟩
  rw [validateLogic_iff_loose,hlink]
  tauto

def sampleEffect : PluginManager := PluginManager.empty.load 0 "VideoEffectMarker" ⟨.videoEffect⟩

theorem validateLogic_accepts_uncut_colon :
    ¬ (validateLogic sampleEffect ["~",":","VideoEffectMarker.1"] = true ↔
      LinkLanguage sampleEffect ["~",":","VideoEffectMarker.1"]) := by
  intro h
  have haccept : validateLogic sampleEffect ["~",":","VideoEffectMarker.1"] = true := by decide
  exact (loose_of_linkLanguage (h.mp haccept)).2 (.inl ⟨[],["VideoEffectMarker.1"],rfl⟩)

end Ovi
