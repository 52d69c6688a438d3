import Ovi.Link.ValidateLink
import Ovi.Library.Checks
import Ovi.Logic.Verdict

namespace Ovi
open BooleanChain

inductive LinkCheck where
  | pair (detect effect : String)
  | uncut
deriving DecidableEq, Repr

def Term.lastUid (t : Term) : String := t.effects.getLastD t.plugin

def effectChecks : String → List String → List LinkCheck
  | _, [] => []
  | uid, effect :: effects => .pair uid effect :: effectChecks effect effects

def joinChecks (pm : PluginManager) (uid : String) : Op × Term → List LinkCheck
  | (.disj,_) => []
  | (.conj,t) =>
    if t.uncut then [.uncut] else if pm.isEffect t.plugin then [.pair uid t.plugin] else []

def restChecks (pm : PluginManager) : String → List (Op × Term) → List LinkCheck
  | _, [] => []
  | uid, p :: rest =>
    joinChecks pm uid p ++ (effectChecks p.2.plugin p.2.effects ++
      restChecks pm p.2.lastUid rest)

def LinkRequest.linkChecks (r : LinkRequest) (pm : PluginManager) : List LinkCheck :=
  effectChecks r.first.plugin r.first.effects ++ restChecks pm r.first.lastUid r.rest

def LinkCheck.run (pm : LinkedPlugins) (renderId : String) : LinkCheck → Except Fault Bool
  | .pair detect effect => pm.linkAgrees renderId detect effect
  | .uncut => .error (.raised (.ovi oviErrorInvalidParameter))

def tokenChecks (pm : PluginManager) : List String → String → String → List LinkCheck
  | [], _, _ => []
  | str :: rest, prev, detect =>
    if isLogicalOperator str then tokenChecks pm rest str prev
    else if prev == oviOpColon then .pair detect str :: tokenChecks pm rest str detect
    else if prev == oviOpAnd then
      if !pm.exist str then .uncut :: tokenChecks pm rest str detect
      else if pm.isEffect str then .pair detect str :: tokenChecks pm rest str detect
      else tokenChecks pm rest str detect
    else tokenChecks pm rest str detect

section Loop

variable {pm : LinkedPlugins} {renderId str prev detect uid : String} {rest : List String}
  {cs : List LinkCheck}

theorem loop_operator (h : isLogicalOperator str = true) :
    pm.validateLinkLoop renderId (str :: rest) prev detect =
      pm.validateLinkLoop renderId rest str prev := by
  rw [LinkedPlugins.validateLinkLoop,if_pos h]

theorem loop_plain (h : isLogicalOperator str = false)
    (hf : pm.effectFollows prev str = .ok false) :
    pm.validateLinkLoop renderId (str :: rest) prev detect =
      pm.validateLinkLoop renderId rest str detect := by
  rw [LinkedPlugins.validateLinkLoop,if_neg (by rw [h]; exact Bool.false_ne_true),hf]

theorem loop_checked (h : isLogicalOperator str = false)
    (hf : pm.effectFollows prev str = .ok true)
    (hrest : pm.validateLinkLoop renderId rest str detect = cs.allM (LinkCheck.run pm renderId)) :
    pm.validateLinkLoop renderId (str :: rest) prev detect =
      (LinkCheck.pair detect str :: cs).allM (LinkCheck.run pm renderId) := by
  rw [LinkedPlugins.validateLinkLoop,if_neg (by rw [h]; exact Bool.false_ne_true),hf,
    Checks.allM_cons,← hrest,LinkCheck.run]
  cases pm.linkAgrees renderId detect str with
  | error fault => rfl
  | ok agrees => cases agrees <;> rfl

theorem loop_unknown (h : isLogicalOperator str = false) {fault : Fault}
    (hf : pm.effectFollows prev str = .error fault) :
    pm.validateLinkLoop renderId (str :: rest) prev detect = .error fault := by
  rw [LinkedPlugins.validateLinkLoop,if_neg (by rw [h]; exact Bool.false_ne_true),hf]

theorem run_uncut : LinkCheck.run pm renderId .uncut =
    .error (.raised (.ovi oviErrorInvalidParameter)) := rfl

theorem find_uncut : pm.find oviOpUncut = none := by
  cases hf : pm.find oviOpUncut with
  | none => rfl
  | some plugin => exact absurd rfl (ne_uncut_of_find hf)

theorem follows_and : pm.effectFollows oviOpAnd str =
    match pm.find str with
    | none => .error (.raised (.ovi oviErrorInvalidParameter))
    | some plugin => .ok (isEffectType plugin) := rfl

theorem loop_effects {effects : List String} (he : ∀ effect ∈ effects, IsUid effect)
    (hrest : ∀ detect, pm.validateLinkLoop renderId rest (effects.getLastD uid) detect =
      cs.allM (LinkCheck.run pm renderId)) (detect : String) :
    pm.validateLinkLoop renderId (effectTokens effects ++ rest) uid detect =
      (effectChecks uid effects ++ cs).allM (LinkCheck.run pm renderId) := by
  induction effects generalizing uid detect with
  | nil => exact hrest detect
  | cons effect effects ih =>
    have htail : ∀ detect, pm.validateLinkLoop renderId (effectTokens effects ++ rest) effect
        detect = (effectChecks effect effects ++ cs).allM (LinkCheck.run pm renderId) :=
      ih (fun x hx => he x (List.mem_cons_of_mem _ hx))
        (by simpa only [List.getLastD_cons] using hrest)
    change pm.validateLinkLoop renderId
      (oviOpColon :: effect :: (effectTokens effects ++ rest)) uid detect = _
    rw [loop_operator rfl,effectChecks,List.cons_append]
    exact loop_checked (he effect List.mem_cons_self).not_logical rfl (htail uid)

theorem loop_term {t : Term} (ht : t.Uids)
    (hrest : ∀ detect, pm.validateLinkLoop renderId rest t.lastUid detect =
      cs.allM (LinkCheck.run pm renderId))
    (hprev : ∀ str, pm.effectFollows prev str = .ok false) (detect : String) :
    pm.validateLinkLoop renderId (t.tokens ++ rest) prev detect =
      (effectChecks t.plugin t.effects ++ cs).allM (LinkCheck.run pm renderId) := by
  have htail := loop_effects ht.effects hrest detect
  have hu : isLogicalOperator oviOpUncut = false := by decide
  rw [Term.tokens]
  cases t.uncut with
  | false => exact (loop_plain ht.plugin.not_logical (hprev _)).trans htail
  | true =>
    exact (loop_plain hu (hprev _)).trans
      ((loop_plain ht.plugin.not_logical rfl).trans htail)

theorem loop_link {p : Op × Term} (ht : p.2.WellFormed pm.toPluginManager)
    (hrest : ∀ detect, pm.validateLinkLoop renderId rest p.2.lastUid detect =
      cs.allM (LinkCheck.run pm renderId)) (detect : String) :
    pm.validateLinkLoop renderId (linkOperator p.1 :: (p.2.tokens ++ rest)) uid detect =
      (joinChecks pm.toPluginManager uid p ++ (effectChecks p.2.plugin p.2.effects ++ cs)).allM
        (LinkCheck.run pm renderId) := by
  obtain ⟨op,t⟩ := p
  have hu := ht.uids
  cases op with
  | disj =>
    exact (loop_operator rfl).trans (loop_term hu hrest (fun _ => rfl) uid)
  | conj =>
    obtain ⟨plugin,hf⟩ := exists_find_of_exist ht.plugin_loaded
    have htail := loop_effects hu.effects hrest uid
    rw [linkOperator,loop_operator rfl,joinChecks,Term.tokens]
    cases t.uncut with
    | true =>
      have hfault : pm.effectFollows oviOpAnd oviOpUncut =
          .error (.raised (.ovi oviErrorInvalidParameter)) := by
        rw [follows_and,find_uncut]
      exact (loop_unknown (by decide) hfault).trans (Checks.allM_cons_error run_uncut).symm
    | false =>
      have hfollows : pm.effectFollows oviOpAnd t.plugin = .ok (pm.isEffect t.plugin) := by
        rw [follows_and,hf,isEffect_of_find hf]
      cases he : pm.isEffect t.plugin with
      | true =>
        rw [he] at hfollows
        exact loop_checked hu.plugin.not_logical hfollows htail
      | false =>
        rw [he] at hfollows
        exact (loop_plain hu.plugin.not_logical hfollows).trans htail

theorem loop_rest {links : List (Op × Term)}
    (ht : ∀ p ∈ links, p.2.WellFormed pm.toPluginManager) (detect : String) :
    pm.validateLinkLoop renderId (links.flatMap (fun p => linkOperator p.1 :: p.2.tokens))
      uid detect = (restChecks pm.toPluginManager uid links).allM (LinkCheck.run pm renderId) := by
  induction links generalizing uid detect with
  | nil => rfl
  | cons p links ih =>
    have hlinks := fun (q : Op × Term) hq => ht q (List.mem_cons_of_mem _ hq)
    rw [List.flatMap_cons,List.cons_append]
    exact loop_link (ht p List.mem_cons_self) (ih hlinks) detect

theorem validateLink_eq_allM {r : LinkRequest}
    (ht : ∀ t ∈ r.items, t.WellFormed pm.toPluginManager) :
    pm.validateLink renderId r.tokens =
      (r.linkChecks pm.toPluginManager).allM (LinkCheck.run pm renderId) := by
  have hfirst := ht r.first List.mem_cons_self
  have hrest := fun (p : Op × Term) hp => ht p.2 (List.mem_cons_of_mem _ (List.mem_map_of_mem hp))
  exact loop_term hfirst.uids (loop_rest hrest) (fun _ => rfl) ""

theorem validateLinkLoop_eq_allM (tokens : List String) (prev detect : String) :
    pm.validateLinkLoop renderId tokens prev detect =
      (tokenChecks pm.toPluginManager tokens prev detect).allM (LinkCheck.run pm renderId) := by
  induction tokens generalizing prev detect with
  | nil => rfl
  | cons str tokens ih =>
    rw [tokenChecks]
    cases hop : isLogicalOperator str with
    | true => exact (loop_operator hop).trans (ih str prev)
    | false =>
      rw [if_neg Bool.false_ne_true]
      by_cases hcolon : prev = oviOpColon
      · subst hcolon
        exact loop_checked hop rfl (ih str detect)
      by_cases hand : prev = oviOpAnd
      · subst hand
        have hfollows : pm.effectFollows oviOpAnd str = _ := follows_and
        cases hf : pm.find str with
        | none =>
          rw [hf] at hfollows
          have hexist : pm.exist str = false := by
            rw [← pm.find_isSome,hf]
            rfl
          rw [hexist]
          exact (loop_unknown hop hfollows).trans (Checks.allM_cons_error run_uncut).symm
        | some plugin =>
          rw [hf] at hfollows
          rw [exist_of_find hf,isEffect_of_find hf]
          dsimp only at hfollows
          cases he : isEffectType plugin with
          | true =>
            rw [he] at hfollows
            exact loop_checked hop hfollows (ih str detect)
          | false =>
            rw [he] at hfollows
            exact (loop_plain hop hfollows).trans (ih str detect)
      · have hfollows : pm.effectFollows prev str = .ok false := by
          simp [LinkedPlugins.effectFollows,hcolon,hand]
        rw [if_neg (by simpa using hcolon),if_neg (by simpa using hand)]
        exact (loop_plain hop hfollows).trans (ih str detect)

end Loop

section Returns

variable {pm : LinkedPlugins} {renderId : String} {r : LinkRequest} {c : LinkCheck}

def LinkedPlugins.NamedEffect (pm : LinkedPlugins) (renderId uid : String) : Prop :=
  ∃ name form, (pm.data uid).attrs["name"]? = some name ∧
    (pm.data renderId).effectMetaForm name = .ok form

structure LinkedPlugins.Renders (pm : LinkedPlugins) (renderId : String) (r : LinkRequest) :
    Prop where
  render : pm.find renderId = some ⟨.render⟩
  named : ∀ t ∈ r.items, ∀ uid ∈ t.plugin :: t.effects, pm.isEffect uid = true →
    pm.NamedEffect renderId uid

def LinkCheck.Raises (pm : LinkedPlugins) : LinkCheck → Prop
  | .pair detect _ => pm.find detect = some ⟨.render⟩ ∧
    ∃ e, (pm.data detect).effectMetaForm "" = .error e
  | .uncut => True

def LinkCheck.Differs (pm : LinkedPlugins) (renderId : String) : LinkCheck → Prop
  | .pair detect effect => ∃ name form effectForm, pm.getMetaForm detect "" = .ok form ∧
    (pm.data effect).attrs["name"]? = some name ∧
    (pm.data renderId).effectMetaForm name = .ok effectForm ∧
    equalMetaForm form effectForm = false
  | .uncut => False

def LinkCheck.Of (pm : PluginManager) (t : Term) : LinkCheck → Prop
  | .pair detect effect => pm.exist detect = true ∧ pm.isEffect effect = true ∧
    effect ∈ t.plugin :: t.effects
  | .uncut => True

theorem effectChecks_of {t : Term} (ht : t.WellFormed pm.toPluginManager) {uid : String}
    {effects : List String} (hu : pm.exist uid = true) (he : ∀ x ∈ effects, x ∈ t.effects)
    (hc : c ∈ effectChecks uid effects) : c.Of pm.toPluginManager t := by
  induction effects generalizing uid with
  | nil => cases hc
  | cons effect effects ih =>
    have heffect := ht.effects_loaded effect (he effect List.mem_cons_self)
    rcases List.mem_cons.mp hc with rfl | hc
    · exact ⟨hu,heffect,List.mem_cons_of_mem _ (he effect List.mem_cons_self)⟩
    · obtain ⟨plugin,hf,-⟩ := exists_find_of_isEffect heffect
      exact ih (exist_of_find hf) (fun x hx => he x (List.mem_cons_of_mem _ hx)) hc

theorem lastUid_loaded {t : Term} (ht : t.WellFormed pm.toPluginManager) :
    pm.exist t.lastUid = true := by
  have hlast : t.lastUid ∈ t.plugin :: t.effects := List.getLastD_mem_cons
  rcases List.mem_cons.mp hlast with hlast | hlast
  · exact hlast ▸ ht.plugin_loaded
  · obtain ⟨plugin,hf,-⟩ := exists_find_of_isEffect (ht.effects_loaded _ hlast)
    exact exist_of_find hf

theorem restChecks_of {links : List (Op × Term)} {uid : String} (hu : pm.exist uid = true)
    (ht : ∀ p ∈ links, p.2.WellFormed pm.toPluginManager)
    (hc : c ∈ restChecks pm.toPluginManager uid links) :
    ∃ p ∈ links, c.Of pm.toPluginManager p.2 := by
  induction links generalizing uid with
  | nil => cases hc
  | cons p links ih =>
    have hp := ht p List.mem_cons_self
    rcases List.mem_append.mp hc with hc | hc
    · refine ⟨p,List.mem_cons_self,?_⟩
      obtain ⟨op,t⟩ := p
      cases op with
      | disj => cases hc
      | conj =>
        rw [joinChecks] at hc
        split at hc
        · exact List.mem_singleton.mp hc ▸ trivial
        · split at hc
          · exact List.mem_singleton.mp hc ▸ ⟨hu,‹_›,List.mem_cons_self⟩
          · cases hc
    · rcases List.mem_append.mp hc with hc | hc
      · exact ⟨p,List.mem_cons_self,effectChecks_of hp hp.plugin_loaded (fun _ h => h) hc⟩
      · obtain ⟨q,hq,hof⟩ := ih (lastUid_loaded hp)
          (fun q hq => ht q (List.mem_cons_of_mem _ hq)) hc
        exact ⟨q,List.mem_cons_of_mem _ hq,hof⟩

theorem linkChecks_of (ht : ∀ t ∈ r.items, t.WellFormed pm.toPluginManager)
    (hc : c ∈ r.linkChecks pm.toPluginManager) : ∃ t ∈ r.items, c.Of pm.toPluginManager t := by
  have hfirst := ht r.first List.mem_cons_self
  rcases List.mem_append.mp hc with hc | hc
  · exact ⟨r.first,List.mem_cons_self,
      effectChecks_of hfirst hfirst.plugin_loaded (fun _ h => h) hc⟩
  · obtain ⟨p,hp,hof⟩ := restChecks_of (lastUid_loaded hfirst)
      (fun p hp => ht p.2 (List.mem_cons_of_mem _ (List.mem_map_of_mem hp))) hc
    exact ⟨p.2,List.mem_cons_of_mem _ (List.mem_map_of_mem hp),hof⟩

theorem getMetaForm_render {name : String} {form : MetaForm}
    (hr : pm.find renderId = some ⟨.render⟩)
    (hf : (pm.data renderId).effectMetaForm name = .ok form) :
    pm.getMetaForm renderId name = .ok form := by
  simp only [LinkedPlugins.getMetaForm,hr,hf]
  rfl

theorem getAttr_of_find {uid key value : String} (hu : pm.exist uid = true)
    (hv : (pm.data uid).attrs[key]? = some value) : pm.getAttr uid key = .ok value := by
  obtain ⟨plugin,hf⟩ := exists_find_of_exist hu
  rw [LinkedPlugins.getAttr,hf]
  simp only [hv]

theorem getMetaForm_error_iff {uid name : String} (hu : pm.exist uid = true) :
    (∃ fault, pm.getMetaForm uid name = .error fault) ↔
      pm.find uid = some ⟨.render⟩ ∧ ∃ e, (pm.data uid).effectMetaForm name = .error e := by
  obtain ⟨⟨type⟩,hf⟩ := exists_find_of_exist hu
  cases type with
  | render =>
    cases he : (pm.data uid).effectMetaForm name <;>
      simp [LinkedPlugins.getMetaForm,hf,he,Except.mapError]
  | _ => simp [LinkedPlugins.getMetaForm,hf]

theorem linkAgrees_eq {t : Term} (hr : pm.Renders renderId r) (ht : t ∈ r.items)
    {detect effect : String} (hof : (LinkCheck.pair detect effect).Of pm.toPluginManager t) :
    ∃ name effectForm, (pm.data effect).attrs["name"]? = some name ∧
      (pm.data renderId).effectMetaForm name = .ok effectForm ∧
      pm.linkAgrees renderId detect effect =
        (pm.getMetaForm detect "").map (equalMetaForm · effectForm) := by
  obtain ⟨-,he,hmem⟩ := hof
  obtain ⟨name,form,hname,hform⟩ := hr.named t ht effect hmem he
  obtain ⟨plugin,hf,-⟩ := exists_find_of_isEffect he
  refine ⟨name,form,hname,hform,?_⟩
  rw [LinkedPlugins.linkAgrees,getAttr_of_find (exist_of_find hf) hname]
  cases hd : pm.getMetaForm detect "" with
  | error fault => rfl
  | ok detectForm =>
    change (pm.getMetaForm renderId name >>= fun effectMetaForm =>
      Except.ok (equalMetaForm detectForm effectMetaForm)) = _
    rw [getMetaForm_render hr.render hform]
    rfl

theorem run_error_iff (ht : ∀ t ∈ r.items, t.WellFormed pm.toPluginManager)
    (hr : pm.Renders renderId r) (hc : c ∈ r.linkChecks pm.toPluginManager) :
    (∃ fault, c.run pm renderId = .error fault) ↔ c.Raises pm := by
  obtain ⟨t,hm,hof⟩ := linkChecks_of ht hc
  cases c with
  | uncut => exact iff_of_true ⟨_,rfl⟩ trivial
  | pair detect effect =>
    obtain ⟨name,form,-,-,heq⟩ := linkAgrees_eq hr hm hof
    rw [LinkCheck.run,heq,LinkCheck.Raises,← getMetaForm_error_iff hof.1]
    cases pm.getMetaForm detect "" <;> simp [Except.map]

theorem run_false_iff (ht : ∀ t ∈ r.items, t.WellFormed pm.toPluginManager)
    (hr : pm.Renders renderId r) (hc : c ∈ r.linkChecks pm.toPluginManager) :
    c.run pm renderId = .ok false ↔ c.Differs pm renderId := by
  obtain ⟨t,hm,hof⟩ := linkChecks_of ht hc
  cases c with
  | uncut => exact iff_of_false (fun h => by cases h) id
  | pair detect effect =>
    obtain ⟨name,effectForm,hname,hform,heq⟩ := linkAgrees_eq hr hm hof
    rw [LinkCheck.run,heq]
    constructor
    · intro h
      cases hd : pm.getMetaForm detect "" with
      | error fault =>
        rw [hd] at h
        cases h
      | ok form =>
        rw [hd] at h
        exact ⟨name,form,effectForm,hd,hname,hform,Except.ok.inj h⟩
    · rintro ⟨name',form,effectForm',hd,hname',hform',hne⟩
      obtain rfl := Option.some_inj.mp (hname'.symm.trans hname)
      obtain rfl := Except.ok.inj (hform'.symm.trans hform)
      rw [hd]
      exact congrArg Except.ok hne

theorem validateLink_returns_iff (ht : ∀ t ∈ r.items, t.WellFormed pm.toPluginManager)
    (hr : pm.Renders renderId r) :
    (∃ b, pm.validateLink renderId r.tokens = .ok b) ↔
      ∀ pre c post, r.linkChecks pm.toPluginManager = pre ++ c :: post → c.Raises pm →
        ∃ x ∈ pre, x.Differs pm renderId := by
  rw [validateLink_eq_allM ht,Checks.allM_returns_iff]
  constructor
  · intro h pre c post he hraises
    have hmem : ∀ x ∈ pre ++ c :: post, x ∈ r.linkChecks pm.toPluginManager := fun x hx => he ▸ hx
    have hc := hmem c (List.mem_append_right _ List.mem_cons_self)
    obtain ⟨x,hx,hfalse⟩ := h pre c post he ((run_error_iff ht hr hc).mpr hraises)
    exact ⟨x,hx,(run_false_iff ht hr (hmem x (List.mem_append_left _ hx))).mp hfalse⟩
  · intro h pre c post he herror
    have hmem : ∀ x ∈ pre ++ c :: post, x ∈ r.linkChecks pm.toPluginManager := fun x hx => he ▸ hx
    have hc := hmem c (List.mem_append_right _ List.mem_cons_self)
    obtain ⟨x,hx,hdiffers⟩ := h pre c post he ((run_error_iff ht hr hc).mp herror)
    exact ⟨x,hx,(run_false_iff ht hr (hmem x (List.mem_append_left _ hx))).mpr hdiffers⟩

end Returns

section Sample

def videoRender : LinkedPlugins where
  toPluginManager := ((PluginManager.empty.load 0 "FaceDetect" ⟨.videoDetect⟩).load 1
    "VideoEffectMarker" ⟨.videoEffect⟩).load 2 "FFmpegRender" ⟨.render⟩
  data := fun _ => ⟨.rect,{("name","boxblur")},
    fun name => if name == "boxblur" then .ok .rect else .error (.ovi 0)⟩

def twoUncut : LinkRequest :=
  ⟨⟨true,"FaceDetect.1",["VideoEffectMarker.2"]⟩,
    [(.conj,⟨true,"FaceDetect.1",["VideoEffectMarker.2"]⟩)]⟩

theorem twoUncut_wellFormed : ∀ t ∈ twoUncut.items, t.WellFormed videoRender.toPluginManager := by
  have ht : (⟨true,"FaceDetect.1",["VideoEffectMarker.2"]⟩ : Term).WellFormed
      videoRender.toPluginManager := by
    constructor <;> decide
  intro t hm
  simp only [twoUncut,Chain.items,List.map_cons,List.map_nil,List.mem_cons,List.not_mem_nil,
    or_false,or_self] at hm
  exact hm ▸ ht

theorem twoUncut_renders : videoRender.Renders "FFmpegRender.3" twoUncut :=
  ⟨by decide,fun _ _ _ _ _ => ⟨"boxblur",.rect,
    (by decide : ({("name","boxblur")} : AttrMap)["name"]? = some "boxblur"),rfl⟩⟩

theorem validateLink_returns_iff_twoUncut :
    (∃ b, videoRender.validateLink "FFmpegRender.3" twoUncut.tokens = .ok b) ↔
      ∀ pre c post, twoUncut.linkChecks videoRender.toPluginManager = pre ++ c :: post →
        c.Raises videoRender → ∃ x ∈ pre, x.Differs videoRender "FFmpegRender.3" :=
  validateLink_returns_iff twoUncut_wellFormed twoUncut_renders

theorem validateLink_raises_twoUncut :
    LinkLanguage videoRender.toPluginManager twoUncut.tokens ∧
      validateLogic videoRender.toPluginManager twoUncut.tokens = true ∧
      videoRender.Renders "FFmpegRender.3" twoUncut ∧
      videoRender.validateLink "FFmpegRender.3" twoUncut.tokens =
        .error (.raised (.ovi oviErrorInvalidParameter)) :=
  ⟨⟨by decide,by decide,twoUncut,rfl,twoUncut_wellFormed⟩,by decide,twoUncut_renders,by decide⟩

end Sample

end Ovi
