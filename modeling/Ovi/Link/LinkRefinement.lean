import Ovi.Flow.Attachment
import Ovi.Link.LinkChecks

namespace Ovi
open BooleanChain

def LinkedPlugins.FormsAgree (pm : LinkedPlugins) (renderId detector effect : String) : Prop :=
  ∃ name form, (pm.data effect).attrs["name"]? = some name ∧
    (pm.data renderId).effectMetaForm name = .ok form ∧
    equalMetaForm (pm.data detector).metaForm form = true

-- the forms differ, or the render in front of the operator raises for an effect without a name
def LinkedPlugins.Fails (pm : LinkedPlugins) (renderId token effect : String) : Prop :=
  (LinkCheck.pair token effect).Differs pm renderId ∨ (LinkCheck.pair token effect).Raises pm

namespace LinkRequest

def Compared (r : LinkRequest) (pm : PluginManager) (token effect : String) : Prop :=
  .pair token effect ∈ r.linkChecks pm

def Attached (r : LinkRequest) (pm : PluginManager) (detector effect : String) : Prop :=
  (detector,effect) ∈ attachable pm.isEffect pm.isDetect r.plan

end LinkRequest

section Order

variable {pm : PluginManager} {u u' op x e : String} {rest tail : List String}

def JustBefore (pm : PluginManager) (tokens : List String) (x e : String) : Prop :=
  ∃ op, [x,op,e] <:+: tokens ∧ (op = oviOpColon ∨ op = oviOpAnd ∧ pm.isEffect e = true)

theorem not_justBefore_single : ¬ JustBefore pm [u] x e := by
  rintro ⟨op,hat,-⟩
  have hle := hat.length_le
  rw [List.length_singleton] at hle
  cases hle with
  | step hle => cases hle

theorem justBefore_cons (hu' : IsUid u') : JustBefore pm (u :: op :: u' :: tail) x e ↔
    (x = u ∧ e = u' ∧ (op = oviOpColon ∨ op = oviOpAnd ∧ pm.isEffect u' = true)) ∨
      JustBefore pm (u' :: tail) x e := by
  have hlogical := hu'.not_logical
  constructor
  · rintro ⟨op',hat,hop⟩
    rcases List.infix_cons_iff.mp hat with hhead | hat
    · obtain ⟨t,ht⟩ := hhead
      injection ht with h₁ ht
      injection ht with h₂ ht
      injection ht with h₃ _
      subst h₁
      subst h₂
      subst h₃
      exact .inl ⟨rfl,rfl,hop⟩
    · rcases List.infix_cons_iff.mp hat with hhead | hat
      · obtain ⟨t,ht⟩ := hhead
        injection ht with _ ht
        injection ht with h₂ _
        subst h₂
        rcases hop with rfl | ⟨rfl,-⟩ <;> cases hlogical
      · exact .inr ⟨op',hat,hop⟩
  · rintro (⟨rfl,rfl,hop⟩ | ⟨op',hat,hop⟩)
    · exact ⟨op,⟨[],tail,rfl⟩,hop⟩
    · exact ⟨op',List.infix_cons (List.infix_cons hat),hop⟩

theorem justBefore_effects {effects : List String} (he : ∀ effect ∈ effects, IsUid effect) :
    JustBefore pm (u :: (effectTokens effects ++ tail)) x e ↔
      .pair x e ∈ effectChecks u effects ∨ JustBefore pm (effects.getLastD u :: tail) x e := by
  induction effects generalizing u with
  | nil => exact (or_iff_right List.not_mem_nil).symm
  | cons effect effects ih =>
    change JustBefore pm (u :: oviOpColon :: effect :: (effectTokens effects ++ tail)) x e ↔ _
    rw [justBefore_cons (he effect List.mem_cons_self),
      ih fun y hy => he y (List.mem_cons_of_mem _ hy),effectChecks,List.mem_cons,← or_assoc,
      List.getLastD_cons]
    refine or_congr_left (or_congr_left ?_)
    constructor
    · rintro ⟨rfl,rfl,-⟩
      rfl
    · intro h
      cases h
      exact ⟨rfl,rfl,.inl rfl⟩

theorem justBefore_rest {links : List (Op × Term)} (ht : ∀ p ∈ links, p.2.Uids)
    (hcut : ∀ p ∈ links, p.2.uncut = false) :
    JustBefore pm (u :: links.flatMap fun p => linkOperator p.1 :: p.2.tokens) x e ↔
      .pair x e ∈ restChecks pm u links := by
  induction links generalizing u with
  | nil => exact iff_of_false not_justBefore_single List.not_mem_nil
  | cons p links ih =>
    obtain ⟨op,t⟩ := p
    have huids := ht (op,t) List.mem_cons_self
    have hplain : t.uncut = false := hcut (op,t) List.mem_cons_self
    have htokens : t.tokens = t.plugin :: effectTokens t.effects := by
      rw [Term.tokens,hplain]
      rfl
    rw [List.flatMap_cons,List.cons_append,htokens,List.cons_append,
      justBefore_cons huids.plugin,justBefore_effects huids.effects,restChecks,List.mem_append,
      List.mem_append]
    refine or_congr ?_ (or_congr_right ?_)
    · cases op with
      | disj =>
        refine iff_of_false ?_ List.not_mem_nil
        rintro ⟨-,-,h | ⟨h,-⟩⟩
        · exact absurd h (by decide : oviOpOr ≠ oviOpColon)
        · exact absurd h (by decide : oviOpOr ≠ oviOpAnd)
      | conj =>
        rw [joinChecks,if_neg (by rw [hplain]; exact Bool.false_ne_true)]
        split
        · rename_i heffect
          rw [List.mem_singleton]
          constructor
          · rintro ⟨rfl,rfl,-⟩
            rfl
          · intro h
            cases h
            exact ⟨rfl,rfl,.inr ⟨rfl,heffect⟩⟩
        · rename_i heffect
          refine iff_of_false ?_ List.not_mem_nil
          rintro ⟨-,-,h | ⟨-,h⟩⟩
          · exact absurd h (by decide : oviOpAnd ≠ oviOpColon)
          · exact heffect h
    · exact ih (fun q hq => ht q (List.mem_cons_of_mem _ hq))
        fun q hq => hcut q (List.mem_cons_of_mem _ hq)

theorem compared_iff {r : LinkRequest} (h : PlainRequest pm r) :
    r.Compared pm x e ↔ JustBefore pm r.tokens x e := by
  have hrest : ∀ p ∈ r.rest, p.2 ∈ r.items := fun p hp =>
    List.mem_cons_of_mem _ (List.mem_map_of_mem hp)
  have hfirst : r.first.tokens = r.first.plugin :: effectTokens r.first.effects := by
    rw [Term.tokens,h.cut r.first List.mem_cons_self]
    rfl
  have huids := (h.terms r.first List.mem_cons_self).uids
  rw [LinkRequest.Compared,LinkRequest.linkChecks,LinkRequest.tokens,hfirst,List.cons_append,
    justBefore_effects huids.effects,List.mem_append]
  exact or_congr_right (justBefore_rest (fun p hp => (h.terms p.2 (hrest p hp)).uids)
    fun p hp => h.cut p.2 (hrest p hp)).symm

end Order

section Plain

variable {pm : PluginManager} {r : LinkRequest} {request : List String}

theorem mem_tokens_of_item {t : Term} (ht : t ∈ r.items) {str : String} (h : str ∈ t.tokens) :
    str ∈ r.tokens := by
  rcases List.mem_cons.mp ht with rfl | ht
  · exact List.mem_append_left _ h
  · obtain ⟨p,hp,rfl⟩ := List.mem_map.mp ht
    refine List.mem_append_right _ (List.mem_flatMap.mpr ⟨p,hp,List.mem_cons_of_mem _ h⟩)

theorem mem_tokens_of_uid {t : Term} {uid : String} (h : uid ∈ t.plugin :: t.effects) :
    uid ∈ t.tokens := by
  refine List.mem_append_right _ ?_
  rcases List.mem_cons.mp h with rfl | h
  · exact List.mem_cons_self
  · refine List.mem_cons_of_mem _ (List.mem_flatMap.mpr ⟨uid,h,?_⟩)
    exact List.mem_cons_of_mem _ List.mem_cons_self

theorem plain_of_accepted (hv : validateLogic pm request = true) (hu : oviOpUncut ∉ request) :
    ∃ r : LinkRequest, r.tokens = request ∧ PlainRequest pm r := by
  have hnext : ¬ UncutNextToColon request := by
    rintro (hi | hi)
    · exact hu (hi.subset List.mem_cons_self)
    · exact hu (hi.subset (List.mem_cons_of_mem _ List.mem_cons_self))
  obtain ⟨-,-,r,rfl,hterms⟩ :=
    linkLanguage_of_loose ((validateLogic_iff_loose pm request).mp hv) hnext
  refine ⟨r,rfl,hterms,fun t ht => ?_⟩
  cases hcut : t.uncut with
  | false => rfl
  | true =>
    have htoken : oviOpUncut ∈ t.tokens := by simp [Term.tokens,hcut]
    exact absurd (mem_tokens_of_item ht htoken) hu

theorem uncut_not_mem (h : PlainRequest pm r) : .uncut ∉ r.linkChecks pm := by
  have heffects : ∀ (uid : String) (effects : List String), .uncut ∉ effectChecks uid effects := by
    intro uid effects
    induction effects generalizing uid with
    | nil => exact List.not_mem_nil
    | cons effect effects ih =>
      intro hmem
      rcases List.mem_cons.mp hmem with hmem | hmem
      · cases hmem
      · exact ih effect hmem
  have hrest : ∀ (links : List (Op × Term)) (uid : String), (∀ p ∈ links, p.2.uncut = false) →
      .uncut ∉ restChecks pm uid links := by
    intro links
    induction links with
    | nil => exact fun _ _ => List.not_mem_nil
    | cons p links ih =>
      intro uid hcut hmem
      obtain ⟨op,t⟩ := p
      have ht := hcut (op,t) List.mem_cons_self
      rcases List.mem_append.mp hmem with hmem | hmem
      · cases op with
        | disj => cases hmem
        | conj =>
          rw [joinChecks,if_neg (by rw [ht]; exact Bool.false_ne_true)] at hmem
          split at hmem
          · cases List.mem_singleton.mp hmem
          · cases hmem
      · rcases List.mem_append.mp hmem with hmem | hmem
        · exact heffects _ _ hmem
        · exact ih _ (fun q hq => hcut q (List.mem_cons_of_mem _ hq)) hmem
  intro hmem
  rcases List.mem_append.mp hmem with hmem | hmem
  · exact heffects _ _ hmem
  · exact hrest _ _ (fun p hp => h.cut p.2 (List.mem_cons_of_mem _ (List.mem_map_of_mem hp))) hmem

theorem attached_typed (h : PlainRequest pm r) {detector effect : String}
    (ha : r.Attached pm detector effect) : pm.isDetect detector = true ∧
      pm.isEffect effect = true ∧ ∃ t ∈ r.items, effect ∈ t.plugin :: t.effects := by
  obtain ⟨-,a,as,hplan,-,-⟩ := plans r
  obtain ⟨v,hv⟩ := mem_attachable_iff.mp ha
  have hplain := h.plain
  have hitems : ∀ b ∈ r.plan, b.All (fun uid => ∃ t ∈ r.items, uid ∈ t.plugin :: t.effects) := by
    intro b hb n hn uid huid
    obtain ⟨t,ht,rfl⟩ := plan_node hb hn
    exact ⟨t,ht,huid⟩
  rw [hplan] at hv hplain hitems
  exact ((attaches_start hplain).mpr hv).typed (fun _ h => by cases h)
    (Cursor.start_all hitems)

end Plain

section Refines

variable {pm : LinkedPlugins} {renderId : String} {r : LinkRequest}

theorem formsAgree_iff (h : PlainRequest pm.toPluginManager r) (hr : pm.Renders renderId r)
    {detector effect : String} (ha : r.Attached pm.toPluginManager detector effect) :
    pm.FormsAgree renderId detector effect ↔ ¬ pm.Fails renderId detector effect := by
  obtain ⟨hd,he,t,ht,hmem⟩ := attached_typed h ha
  obtain ⟨name,form,hname,hform⟩ := hr.named t ht effect hmem he
  obtain ⟨⟨type⟩,hf,htype⟩ := exists_find_of_isDetect hd
  have hraises : ¬ (LinkCheck.pair detector effect).Raises pm := by
    rintro ⟨hrender,-⟩
    obtain rfl := Plugin.mk.inj (Option.some.inj (hf.symm.trans hrender))
    cases htype
  have hmeta : pm.getMetaForm detector "" = .ok (pm.data detector).metaForm := by
    rw [LinkedPlugins.getMetaForm,hf]
    cases type <;> first | rfl | cases htype
  constructor
  · rintro ⟨name',form',hname',hform',hagree⟩ (⟨name'',form'',effectForm,hd,hn,hf,hne⟩ | hr)
    · obtain rfl := Option.some.inj (hname'.symm.trans hn)
      obtain rfl := Except.ok.inj (hform'.symm.trans hf)
      obtain rfl := Except.ok.inj (hmeta.symm.trans hd)
      rw [hagree] at hne
      cases hne
    · exact hraises hr
  · intro hn
    refine ⟨name,form,hname,hform,?_⟩
    by_contra hagree
    exact hn (.inl ⟨name,_,form,hmeta,hname,hform,Bool.not_eq_true _ ▸ hagree⟩)

theorem validateLink_true_iff (h : PlainRequest pm.toPluginManager r)
    (hr : pm.Renders renderId r) : pm.validateLink renderId r.tokens = .ok true ↔
      ∀ token effect, r.Compared pm.toPluginManager token effect →
        ¬ pm.Fails renderId token effect := by
  rw [validateLink_eq_allM h.terms,Checks.allM_eq_true_iff]
  have hrun : ∀ c ∈ r.linkChecks pm.toPluginManager, c.run pm renderId = .ok true ↔
      ¬ (c.Differs pm renderId ∨ c.Raises pm) := by
    intro c hc
    have herror := run_error_iff h.terms hr hc
    have hfalse := run_false_iff h.terms hr hc
    rw [← herror,← hfalse]
    cases c.run pm renderId with
    | error fault => simp
    | ok b => cases b <;> simp
  constructor
  · exact fun hall token effect hc => (hrun _ hc).mp (hall _ hc)
  · intro hall c hc
    rw [hrun c hc]
    cases c with
    | uncut => exact absurd hc (uncut_not_mem h)
    | pair token effect => exact hall token effect hc

theorem validateLink_refines (h : PlainRequest pm.toPluginManager r)
    (hr : pm.Renders renderId r) : (pm.validateLink renderId r.tokens = .ok true ↔
      ∀ detector effect, CanAttach pm.toPluginManager r.tokens detector effect →
        pm.FormsAgree renderId detector effect) ↔
      ((∀ token effect, JustBefore pm.toPluginManager r.tokens token effect →
          ¬ pm.Fails renderId token effect) ↔
        ∀ detector effect, r.Attached pm.toPluginManager detector effect →
          ¬ pm.Fails renderId detector effect) := by
  refine iff_congr ?_ ?_
  · rw [validateLink_true_iff h hr]
    refine forall₂_congr fun token effect => ?_
    rw [compared_iff h]
  · refine forall₂_congr fun detector effect => ?_
    rw [canAttach_iff h,← mem_attachable_iff]
    exact forall_congr' fun ha => formsAgree_iff h hr ha

end Refines

section Forms

variable {pm : PluginManager} {renderId x y e e₁ : String} {form : MetaForm} {r : LinkRequest}

def tellApart (x e : String) (form : MetaForm) (uid : String) : PluginData :=
  ⟨if uid = x then .rect else .any,{("name",uid)},fun name =>
    .ok (if name = e then form else if uid = x ∧ name = "" then .rect else .any)⟩

theorem tellApart_name (uid : String) : (tellApart x e form uid).attrs["name"]? = some uid := by
  simp [tellApart]

theorem getMetaForm_tellApart {plugin : Plugin} (hf : pm.find y = some plugin) (he : e ≠ "") :
    LinkedPlugins.getMetaForm ⟨pm,tellApart x e form⟩ y "" =
      .ok (if plugin.type = .none then .none else if y = x then .rect else .any) := by
  obtain ⟨type⟩ := plugin
  cases type <;> simp [LinkedPlugins.getMetaForm,hf,tellApart,Except.mapError,he.symm]

theorem fails_tellApart {plugin : Plugin} (hf : pm.find y = some plugin) (he : e ≠ "")
    (he₁ : e₁ ≠ "") : LinkedPlugins.Fails ⟨pm,tellApart x e form⟩ renderId y e₁ ↔ e₁ = e ∧
      equalMetaForm (if plugin.type = .none then .none else if y = x then .rect else .any)
        form = false := by
  rw [LinkedPlugins.Fails,or_iff_left (by rintro ⟨-,err,herr⟩; cases herr),LinkCheck.Differs,
    getMetaForm_tellApart hf he]
  generalize (if plugin.type = .none then MetaForm.none else if y = x then .rect else .any) = own
  have hother : ∀ other : MetaForm, equalMetaForm other .any = true := fun other => by
    cases other <;> rfl
  constructor
  · rintro ⟨name,_,form',hown,hname,hform,hdiffer⟩
    cases hown
    obtain rfl := Option.some.inj ((tellApart_name e₁).symm.trans hname)
    change Except.ok (if e₁ = e then form else if renderId = x ∧ e₁ = "" then .rect else .any) =
      .ok form' at hform
    by_cases heq : e₁ = e
    · rw [if_pos heq] at hform
      cases hform
      exact ⟨heq,hdiffer⟩
    · rw [if_neg heq,if_neg fun h => he₁ h.2] at hform
      cases hform
      rw [hother] at hdiffer
      cases hdiffer
  · rintro ⟨rfl,hdiffer⟩
    exact ⟨e₁,own,form,rfl,tellApart_name e₁,congrArg Except.ok (if_pos rfl),hdiffer⟩

theorem fails_own {plugin : Plugin} (hf : pm.find x = some plugin) (he : e ≠ "")
    (hform : form = if plugin.type = .none then .rect else .none) :
    LinkedPlugins.Fails ⟨pm,tellApart x e form⟩ renderId x e := by
  refine (fails_tellApart hf he he).mpr ⟨rfl,?_⟩
  rw [hform,if_pos rfl]
  split <;> rfl

theorem fails_only {plugin : Plugin} (hf : pm.find y = some plugin) (he : e ≠ "") (he₁ : e₁ ≠ "")
    (hform : plugin.type = .none → form = .none)
    (h : LinkedPlugins.Fails ⟨pm,tellApart x e form⟩ renderId y e₁) : y = x ∧ e₁ = e := by
  obtain ⟨rfl,hdiffer⟩ := (fails_tellApart hf he he₁).mp h
  refine ⟨?_,rfl⟩
  by_contra hne
  rw [if_neg hne] at hdiffer
  split at hdiffer
  · rename_i hnone
    rw [hform hnone] at hdiffer
    cases hdiffer
  · cases form <;> cases hdiffer

theorem tellApart_named (uid : String) :
    LinkedPlugins.NamedEffect ⟨pm,tellApart x e form⟩ renderId uid :=
  ⟨uid,_,tellApart_name uid,rfl⟩

theorem validateLink_refines_iff {request : List String}
    (hv : validateLogic pm request = true) (hu : oviOpUncut ∉ request)
    (hrender : pm.find renderId = some ⟨.render⟩) :
    ∃ r : LinkRequest, r.tokens = request ∧
      ((∀ data, (∀ uid ∈ request, pm.isEffect uid = true →
            LinkedPlugins.NamedEffect ⟨pm,data⟩ renderId uid) →
          (LinkedPlugins.validateLink ⟨pm,data⟩ renderId request = .ok true ↔
            ∀ detector effect, CanAttach pm request detector effect →
              LinkedPlugins.FormsAgree ⟨pm,data⟩ renderId detector effect)) ↔
        ∀ token effect, JustBefore pm request token effect ↔ r.Attached pm token effect) := by
  obtain ⟨r,rfl,hplain⟩ := plain_of_accepted hv hu
  have hrefines : ∀ data, (∀ uid ∈ r.tokens, pm.isEffect uid = true →
      LinkedPlugins.NamedEffect ⟨pm,data⟩ renderId uid) → _ := fun data hnamed =>
    @validateLink_refines ⟨pm,data⟩ renderId r hplain
      ⟨hrender,fun t ht uid hmem => hnamed uid (mem_tokens_of_item ht (mem_tokens_of_uid hmem))⟩
  refine ⟨r,rfl,?_⟩
  constructor
  · intro hall x e
    have hloaded : ∀ {y e₁}, JustBefore pm r.tokens y e₁ →
        (∃ plugin, pm.find y = some plugin) ∧ e₁ ≠ "" := by
      intro y e₁ hc
      obtain ⟨t,-,hy,he₁,-⟩ := @linkChecks_of ⟨pm,tellApart x e .any⟩ r _
        hplain.terms ((compared_iff hplain).mpr hc)
      obtain ⟨effect,hf,-⟩ := exists_find_of_isEffect he₁
      exact ⟨exists_find_of_exist hy,ne_empty_of_find hf⟩
    have hdetects : ∀ {y e₁}, r.Attached pm y e₁ →
        (∃ plugin, pm.find y = some plugin ∧ plugin.type ≠ .none) ∧ e₁ ≠ "" := by
      intro y e₁ ha
      obtain ⟨hy,he₁,-⟩ := attached_typed hplain ha
      obtain ⟨effect,hf,-⟩ := exists_find_of_isEffect he₁
      obtain ⟨⟨type⟩,hfind,hd⟩ := exists_find_of_isDetect hy
      exact ⟨⟨⟨type⟩,hfind,fun hnone => by cases hnone; cases hd⟩,ne_empty_of_find hf⟩
    constructor
    · intro hc
      obtain ⟨⟨plugin,hf⟩,he⟩ := hloaded hc
      have hclaim := (hrefines (tellApart x e (if plugin.type = .none then .rect else .none))
        fun uid _ _ => tellApart_named uid).mp (hall _ fun uid _ _ => tellApart_named uid)
      by_contra hnot
      refine hclaim.mpr (fun y e₁ ha hfails => ?_) x e hc (fails_own hf he rfl)
      obtain ⟨⟨other,hother,hne⟩,he₁⟩ := hdetects ha
      obtain ⟨rfl,rfl⟩ := fails_only hother he he₁ (fun hnone => absurd hnone hne) hfails
      exact hnot ha
    · intro ha
      obtain ⟨⟨plugin,hf,hne⟩,he⟩ := hdetects ha
      have hclaim := (hrefines (tellApart x e .none) fun uid _ _ => tellApart_named uid).mp
        (hall _ fun uid _ _ => tellApart_named uid)
      by_contra hnot
      refine hclaim.mp (fun y e₁ hc hfails => ?_) x e ha (fails_own hf he (if_neg hne).symm)
      obtain ⟨⟨other,hother⟩,he₁⟩ := hloaded hc
      obtain ⟨rfl,rfl⟩ := fails_only hother he he₁ (fun _ => rfl) hfails
      exact hnot hc
  · intro hsame data hnamed
    rw [hrefines data hnamed]
    exact forall₂_congr fun token effect => by rw [hsame]

end Forms

section Sample

-- the markers themselves take no metadata, the blur they stand for takes rectangles
def markedTwice : LinkedPlugins where
  toPluginManager := (((PluginManager.empty.load 0 "FaceDetect" ⟨.videoDetect⟩).load 1
    "VideoEffectMarker" ⟨.videoEffect⟩).load 2 "VideoEffectMarker" ⟨.videoEffect⟩).load 3
    "FFmpegRender" ⟨.render⟩
  data := fun uid => ⟨if uid == "FaceDetect.1" then .rect else .none,{("name","boxblur")},
    fun name => if name == "boxblur" then .ok .rect else .error (.ovi 0)⟩

def chained : LinkRequest :=
  ⟨⟨false,"FaceDetect.1",["VideoEffectMarker.2","VideoEffectMarker.3"]⟩,[]⟩

theorem chained_plain : PlainRequest markedTwice.toPluginManager chained := by
  have ht : chained.first.WellFormed markedTwice.toPluginManager := by constructor <;> decide
  constructor
  · intro t hm
    exact List.mem_singleton.mp hm ▸ ht
  · intro t hm
    exact List.mem_singleton.mp hm ▸ rfl

theorem chained_named (uid : String) : markedTwice.NamedEffect "FFmpegRender.4" uid :=
  ⟨"boxblur",.rect,(by decide : ({("name","boxblur")} : AttrMap)["name"]? = some "boxblur"),rfl⟩

theorem validateLink_refines_iff_chained :
    ∃ r : LinkRequest, r.tokens = chained.tokens ∧
      ((∀ data, (∀ uid ∈ chained.tokens, markedTwice.isEffect uid = true →
            LinkedPlugins.NamedEffect ⟨markedTwice.toPluginManager,data⟩ "FFmpegRender.4" uid) →
          (LinkedPlugins.validateLink ⟨markedTwice.toPluginManager,data⟩ "FFmpegRender.4"
              chained.tokens = .ok true ↔
            ∀ detector effect,
              CanAttach markedTwice.toPluginManager chained.tokens detector effect →
                LinkedPlugins.FormsAgree ⟨markedTwice.toPluginManager,data⟩ "FFmpegRender.4"
                  detector effect)) ↔
        ∀ token effect, JustBefore markedTwice.toPluginManager chained.tokens token effect ↔
          r.Attached markedTwice.toPluginManager token effect) :=
  validateLink_refines_iff (by decide) (by decide) (by decide)

theorem chained_refused :
    validateLogic markedTwice.toPluginManager chained.tokens = true ∧
      oviOpUncut ∉ chained.tokens ∧ markedTwice.find "FFmpegRender.4" = some ⟨.render⟩ ∧
      (∀ uid ∈ chained.tokens, markedTwice.isEffect uid = true →
        markedTwice.NamedEffect "FFmpegRender.4" uid) ∧
      markedTwice.validateLink "FFmpegRender.4" chained.tokens = .ok false ∧
      ∀ detector effect,
        CanAttach markedTwice.toPluginManager chained.tokens detector effect →
          markedTwice.FormsAgree "FFmpegRender.4" detector effect := by
  refine ⟨by decide,by decide,by decide,fun uid _ _ => chained_named uid,by decide,?_⟩
  intro detector effect hattach
  rw [canAttach_iff chained_plain,← mem_attachable_iff] at hattach
  have hpairs : attachable markedTwice.isEffect markedTwice.isDetect chained.plan =
      [("FaceDetect.1","VideoEffectMarker.2"),("FaceDetect.1","VideoEffectMarker.3")] := by
    decide
  rw [hpairs,List.mem_pair] at hattach
  have hname : ({("name","boxblur")} : AttrMap)["name"]? = some "boxblur" := by decide
  rcases hattach with h | h
  · cases h
    exact ⟨"boxblur",.rect,hname,rfl,by decide⟩
  · cases h
    exact ⟨"boxblur",.rect,hname,rfl,by decide⟩

end Sample

end Ovi
