import Ovi.Render.FFmpegEffect
import Ovi.Library.Checks

namespace Ovi

namespace AttributeValidator

structure Separate (l : List AttributeSpec) : Prop where
  distinct : (l.map AttributeSpec.name).Nodup
  unnamed : ∀ spec ∈ l, spec.name ≠ "name"

def Answers (host : Host) (l : List AttributeSpec) : Prop :=
  ∀ spec ∈ l, ∀ f, spec.validateFunc = some f → ∀ value, ∃ b, f host value = .ok b

structure Passes (host : Host) (attrs : AttrMap) (spec : AttributeSpec) : Prop where
  present : spec.mandatory = true → spec.name ∈ attrs
  accepted : ∀ f value, spec.validateFunc = some f → attrs[spec.name]? = some value →
    f host value = .ok true

structure Accepts (host : Host) (attrs : AttrMap) (effectName : String)
    (l : List AttributeSpec) : Prop where
  named : attrs["name"]? = some effectName
  passes : ∀ spec ∈ l, Passes host attrs spec
  handled : ∀ key ∈ attrs, key = "name" ∨ ∃ spec ∈ l, spec.name = key

section Verdict

variable (host : Host) (specs : AttributesSpecMap) (attrs : AttrMap)

inductive Refused : ErrorCode → Prop
  | nameless (hname : attrs["name"]? = none) : Refused oviErrorInvalidOperation
  | unknown {effectName : String} (hname : attrs["name"]? = some effectName)
    (hl : specs.lookup effectName = none) : Refused oviErrorNotSupportedEffect
  | missing {effectName : String} {pre post : List AttributeSpec} {spec : AttributeSpec}
    (hname : attrs["name"]? = some effectName)
    (hl : specs.lookup effectName = some (pre ++ spec :: post))
    (hpre : ∀ s ∈ pre, Passes host attrs s) (hmandatory : spec.mandatory = true)
    (habsent : spec.name ∉ attrs) : Refused oviErrorInvalidOperation
  | rejected {effectName value : String} {pre post : List AttributeSpec} {spec : AttributeSpec}
    {f : Host → String → Except Exn Bool} (hname : attrs["name"]? = some effectName)
    (hl : specs.lookup effectName = some (pre ++ spec :: post))
    (hpre : ∀ s ∈ pre, Passes host attrs s) (hf : spec.validateFunc = some f)
    (hvalue : attrs[spec.name]? = some value) (hno : f host value = .ok false) :
    Refused oviErrorInvalidEffectAttrValue
  | unhandled {effectName key : String} {l : List AttributeSpec}
    (hname : attrs["name"]? = some effectName) (hl : specs.lookup effectName = some l)
    (hpass : ∀ spec ∈ l, Passes host attrs spec) (hkey : key ∈ attrs) (hne : key ≠ "name")
    (hno : ∀ spec ∈ l, spec.name ≠ key) : Refused oviErrorNotSupportedEffectAttr

-- the verdict on one attribute, against the map as the caller gave it
def judge (spec : AttributeSpec) : Except Exn Unit :=
  (validateAttribute host attrs spec).map (fun _ => ())

end Verdict

variable {host : Host} {specs : AttributesSpecMap} {attrs attrs' : AttrMap}
variable {spec : AttributeSpec} {l : List AttributeSpec} {key : String}

theorem judge_congr (h : attrs[spec.name]? = attrs'[spec.name]?) :
    judge host attrs spec = judge host attrs' spec := by
  simp only [judge,validateAttribute,← h]
  cases attrs[spec.name]? with
  | none => cases spec.mandatory <;> rfl
  | some value =>
    cases spec.validateFunc with
    | none => rfl
    | some f =>
      cases hv : f host value with
      | error e => simp only [hv]
      | ok b =>
        simp only [hv]
        cases b <;> rfl

theorem getElem?_of_validateAttribute (h : validateAttribute host attrs spec = .ok attrs')
    (key : String) : attrs'[key]? = if spec.name = key then none else attrs[key]? := by
  rcases validateAttribute_ok h with rfl | ⟨hnone,-,rfl⟩
  · rw [Std.TreeMap.getElem?_erase]
    by_cases hkey : spec.name = key
    · rw [if_pos hkey,if_pos (by simpa using hkey)]
    · rw [if_neg hkey,if_neg (by simpa using hkey)]
  · by_cases hkey : spec.name = key
    · rw [if_pos hkey,← hkey,hnone]
    · rw [if_neg hkey]

theorem getElem?_of_validateEffectAttributes
    (h : validateEffectAttributes host l attrs = .ok attrs') (key : String) :
    attrs'[key]? = if key ∈ l.map AttributeSpec.name then none else attrs[key]? := by
  induction l generalizing attrs with
  | nil =>
    cases h
    rfl
  | cons spec l ih =>
    rw [validateEffectAttributes] at h
    split at h
    · cases h
    · rename_i attrs₁ h₁
      rw [ih h,getElem?_of_validateAttribute h₁,List.map_cons]
      by_cases hkey : spec.name = key
      · have hin : key ∈ spec.name :: l.map AttributeSpec.name := hkey ▸ List.mem_cons_self
        rw [if_pos hkey,if_pos hin,ite_self]
      · have hiff : key ∈ spec.name :: l.map AttributeSpec.name ↔
            key ∈ l.map AttributeSpec.name := by
          rw [List.mem_cons,or_iff_right (Ne.symm hkey)]
        rw [if_neg hkey]
        simp only [hiff]

theorem validateEffectAttributes_judged (hnames : (l.map AttributeSpec.name).Nodup) :
    (validateEffectAttributes host l attrs).map (fun _ => ()) = l.forM (judge host attrs) := by
  induction l generalizing attrs with
  | nil => rfl
  | cons spec l ih =>
    obtain ⟨hfirst,hrest⟩ := List.nodup_cons.mp hnames
    rw [validateEffectAttributes]
    cases h₁ : validateAttribute host attrs spec with
    | error e =>
      have hjudge : judge host attrs spec = .error e := by rw [judge,h₁]; rfl
      rw [Checks.forM_cons_error hjudge]
      rfl
    | ok attrs₁ =>
      have hjudge : judge host attrs spec = .ok () := by rw [judge,h₁]; rfl
      rw [Checks.forM_cons_ok hjudge,ih hrest]
      refine Checks.forM_congr fun s hs => judge_congr ?_
      have hne : spec.name ≠ s.name := fun he => hfirst (he ▸ List.mem_map_of_mem hs)
      rw [getElem?_of_validateAttribute h₁,if_neg hne]

theorem judge_ok_iff : judge host attrs spec = .ok () ↔ Passes host attrs spec := by
  rw [judge,validateAttribute]
  cases hvalue : attrs[spec.name]? with
  | none =>
    have habsent : spec.name ∉ attrs := by
      rw [← Std.TreeMap.isSome_getElem?_iff_mem,hvalue]
      exact Bool.false_ne_true
    cases hm : spec.mandatory with
    | true =>
      refine iff_of_false (fun h => ?_) fun h => habsent (h.present hm)
      cases h
    | false =>
      refine iff_of_true rfl ⟨fun h => ?_,fun f value _ h => ?_⟩
      · rw [hm] at h
        cases h
      · rw [hvalue] at h
        cases h
  | some value =>
    have hpresent : spec.name ∈ attrs := by
      rw [← Std.TreeMap.isSome_getElem?_iff_mem,hvalue]
      rfl
    have hpasses : Passes host attrs spec ↔
        ∀ f, spec.validateFunc = some f → f host value = .ok true := by
      refine ⟨fun h f hf => h.accepted f value hf hvalue,fun h => ⟨fun _ => hpresent,?_⟩⟩
      intro f value' hf hvalue'
      rw [← Option.some.inj (hvalue.symm.trans hvalue')]
      exact h f hf
    rw [hpasses]
    cases hf : spec.validateFunc with
    | none =>
      refine iff_of_true rfl fun f h => ?_
      cases h
    | some f =>
      have hone : (∀ g, some f = some g → g host value = .ok true) ↔ f host value = .ok true :=
        ⟨fun h => h f rfl,fun h g hg => Option.some.inj hg ▸ h⟩
      rw [hone]
      cases hv : f host value with
      | error e => simp [hv,Except.map]
      | ok b => cases b <;> simp [hv,Except.map]

theorem judge_error (hl : Answers host l) (hs : spec ∈ l) {e : Exn}
    (h : judge host attrs spec = .error e) :
    (e = .ovi oviErrorInvalidOperation ∧ spec.mandatory = true ∧ spec.name ∉ attrs) ∨
      ∃ f value, e = .ovi oviErrorInvalidEffectAttrValue ∧ spec.validateFunc = some f ∧
        attrs[spec.name]? = some value ∧ f host value = .ok false := by
  rw [judge,validateAttribute] at h
  cases hvalue : attrs[spec.name]? with
  | none =>
    rw [hvalue] at h
    have habsent : spec.name ∉ attrs := by
      rw [← Std.TreeMap.isSome_getElem?_iff_mem,hvalue]
      exact Bool.false_ne_true
    cases hm : spec.mandatory with
    | true =>
      rw [hm] at h
      exact .inl ⟨(Except.error.inj h).symm,rfl,habsent⟩
    | false =>
      rw [hm] at h
      cases h
  | some value =>
    rw [hvalue] at h
    cases hf : spec.validateFunc with
    | none =>
      rw [hf] at h
      cases h
    | some f =>
      obtain ⟨b,hb⟩ := hl spec hs f hf value
      simp only [hf,hb] at h
      cases b with
      | true => cases h
      | false => exact .inr ⟨f,value,(Except.error.inj h).symm,rfl,rfl,hb⟩

theorem judge_missing (hmandatory : spec.mandatory = true) (habsent : spec.name ∉ attrs) :
    judge host attrs spec = .error (.ovi oviErrorInvalidOperation) := by
  rw [judge,validateAttribute,Std.TreeMap.getElem?_eq_none habsent,hmandatory]
  rfl

theorem judge_rejected {f : Host → String → Except Exn Bool} {value : String}
    (hf : spec.validateFunc = some f) (hvalue : attrs[spec.name]? = some value)
    (hno : f host value = .ok false) :
    judge host attrs spec = .error (.ovi oviErrorInvalidEffectAttrValue) := by
  simp only [judge,validateAttribute,hvalue,hf,hno]
  rfl

theorem validate_nameless (hname : attrs["name"]? = none) :
    validate host specs attrs = .error (.ovi oviErrorInvalidOperation) := by
  simp only [validate,parseEffectName,hname]
  rfl

section Known

variable {effectName : String}

theorem validate_unknown (hname : attrs["name"]? = some effectName)
    (hl : specs.lookup effectName = none) :
    validate host specs attrs = .error (.ovi oviErrorNotSupportedEffect) := by
  simp only [validate,parseEffectName,hname,hl]
  rfl

theorem validate_known (hname : attrs["name"]? = some effectName)
    (hl : specs.lookup effectName = some l) :
    validate host specs attrs =
      validateEffectAttributes host l (attrs.erase "name") >>= checkUnhandled := by
  simp only [validate,parseEffectName,hname,hl,Option.isSome_some,if_true]
  change validateEffectAttributes host ((specs.lookup effectName).getD []) _ >>= _ = _
  rw [hl]
  rfl

theorem judged_known (hsep : Separate l) :
    (validateEffectAttributes host l (attrs.erase "name")).map (fun _ => ()) =
      l.forM (judge host attrs) := by
  rw [validateEffectAttributes_judged hsep.distinct]
  refine Checks.forM_congr fun s hs => judge_congr ?_
  rw [Std.TreeMap.getElem?_erase,if_neg (by simpa using Ne.symm (hsep.unnamed s hs))]

theorem validate_offended (hsep : Separate l) (hname : attrs["name"]? = some effectName)
    (hl : specs.lookup effectName = some l) {e : Exn} (h : l.forM (judge host attrs) = .error e) :
    validate host specs attrs = .error e := by
  rw [validate_known hname hl]
  rw [← judged_known hsep] at h
  cases hv : validateEffectAttributes host l (attrs.erase "name") with
  | error e' =>
    rw [hv] at h
    exact congrArg Except.error (Except.error.inj h)
  | ok rest =>
    rw [hv] at h
    cases h

theorem validate_passed (hsep : Separate l) (hname : attrs["name"]? = some effectName)
    (hl : specs.lookup effectName = some l) (hpass : ∀ spec ∈ l, Passes host attrs spec) :
    ∃ rest, validate host specs attrs = checkUnhandled rest ∧
      ∀ key, key ∈ rest ↔ key ∈ attrs ∧ key ≠ "name" ∧ ∀ spec ∈ l, spec.name ≠ key := by
  have hjudged : (validateEffectAttributes host l (attrs.erase "name")).map (fun _ => ()) =
    l.forM (judge host attrs) := judged_known hsep
  rw [Checks.forM_ok_iff.mpr fun s hs => judge_ok_iff.mpr (hpass s hs)] at hjudged
  cases hv : validateEffectAttributes host l (attrs.erase "name") with
  | error e =>
    rw [hv] at hjudged
    cases hjudged
  | ok rest =>
    refine ⟨rest,?_,fun key => ?_⟩
    · rw [validate_known hname hl,hv]
      rfl
    · rw [← Std.TreeMap.isSome_getElem?_iff_mem,getElem?_of_validateEffectAttributes hv,
        Std.TreeMap.getElem?_erase,← Std.TreeMap.isSome_getElem?_iff_mem]
      by_cases hin : key ∈ l.map AttributeSpec.name
      · obtain ⟨spec,hs,hkey⟩ := List.mem_map.mp hin
        rw [if_pos hin]
        exact iff_of_false Bool.false_ne_true fun h => h.2.2 spec hs hkey
      · have hno : ∀ spec ∈ l, spec.name ≠ key :=
          fun spec hs hkey => hin (List.mem_map.mpr ⟨spec,hs,hkey⟩)
        rw [if_neg hin]
        by_cases hn : key = "name"
        · rw [if_pos (by simpa using hn.symm)]
          exact iff_of_false Bool.false_ne_true fun h => h.2.1 hn
        · rw [if_neg (by simpa using Ne.symm hn)]
          exact ⟨fun h => ⟨h,hn,hno⟩,fun h => h.1⟩

theorem checkUnhandled_ok_iff : checkUnhandled attrs = .ok () ↔ ∀ key, key ∉ attrs := by
  rw [checkUnhandled,← Std.TreeMap.isEmpty_iff_forall_not_mem]
  cases attrs.isEmpty <;> simp

theorem checkUnhandled_error (hkey : key ∈ attrs) :
    checkUnhandled attrs = .error (.ovi oviErrorNotSupportedEffectAttr) := by
  rw [checkUnhandled,if_neg]
  intro hempty
  exact Std.TreeMap.isEmpty_iff_forall_not_mem.mp hempty key hkey

end Known

theorem validate_refused (hspecs : ∀ effectName l, specs.lookup effectName = some l → Separate l)
    {code : ErrorCode} (h : Refused host specs attrs code) :
    validate host specs attrs = .error (.ovi code) := by
  cases h with
  | nameless hname => exact validate_nameless hname
  | unknown hname hl => exact validate_unknown hname hl
  | missing hname hl hpre hmandatory habsent =>
    apply validate_offended (hspecs _ _ hl) hname hl
    exact Checks.forM_first_iff.mpr ⟨_,_,_,rfl,fun s hs => judge_ok_iff.mpr (hpre s hs),
      judge_missing hmandatory habsent⟩
  | rejected hname hl hpre hf hvalue hno =>
    apply validate_offended (hspecs _ _ hl) hname hl
    exact Checks.forM_first_iff.mpr ⟨_,_,_,rfl,fun s hs => judge_ok_iff.mpr (hpre s hs),
      judge_rejected hf hvalue hno⟩
  | unhandled hname hl hpass hkey hne hno =>
    obtain ⟨rest,hrest,hleft⟩ := validate_passed (hspecs _ _ hl) hname hl hpass
    rw [hrest]
    exact checkUnhandled_error ((hleft _).mpr ⟨hkey,hne,hno⟩)

theorem validate_settled (hspecs : ∀ effectName l, specs.lookup effectName = some l →
      Separate l ∧ Answers host l) (attrs : AttrMap) :
    (validate host specs attrs = .ok () ∧
      ∃ effectName l, specs.lookup effectName = some l ∧ Accepts host attrs effectName l) ∨
    ∃ code, Refused host specs attrs code := by
  cases hname : attrs["name"]? with
  | none => exact .inr ⟨_,.nameless hname⟩
  | some effectName =>
    cases hl : specs.lookup effectName with
    | none => exact .inr ⟨_,.unknown hname hl⟩
    | some l =>
      obtain ⟨hsep,hanswers⟩ := hspecs effectName l hl
      cases hjudged : l.forM (judge host attrs) with
      | error e =>
        obtain ⟨pre,spec,post,rfl,hpre,he⟩ := Checks.forM_first_iff.mp hjudged
        have hpass : ∀ s ∈ pre, Passes host attrs s := fun s hs => judge_ok_iff.mp (hpre s hs)
        rcases judge_error hanswers (by simp) he with ⟨-,hm,ha⟩ | ⟨f,value,-,hf,hvalue,hno⟩
        · exact .inr ⟨_,.missing hname hl hpass hm ha⟩
        · exact .inr ⟨_,.rejected hname hl hpass hf hvalue hno⟩
      | ok u =>
        have hpass : ∀ spec ∈ l, Passes host attrs spec :=
          fun s hs => judge_ok_iff.mp (Checks.forM_ok_iff.mp hjudged s hs)
        obtain ⟨rest,hrest,hleft⟩ := validate_passed hsep hname hl hpass
        by_cases hempty : ∀ key, key ∉ rest
        · refine .inl ⟨hrest.trans (checkUnhandled_ok_iff.mpr hempty),effectName,l,hl,hname,
            hpass,?_⟩
          intro key hkey
          by_contra hno
          obtain ⟨hne,hno⟩ := not_or.mp hno
          exact hempty key ((hleft key).mpr ⟨hkey,hne,fun s hs he => hno ⟨s,hs,he⟩⟩)
        · obtain ⟨key,hkey⟩ := not_forall_not.mp hempty
          obtain ⟨hin,hne,hno⟩ := (hleft key).mp hkey
          exact .inr ⟨_,.unhandled hname hl hpass hin hne hno⟩

theorem validate_accepted (hsep : Separate l) {effectName : String}
    (hl : specs.lookup effectName = some l) (h : Accepts host attrs effectName l) :
    validate host specs attrs = .ok () := by
  obtain ⟨rest,hrest,hleft⟩ := validate_passed hsep h.named hl h.passes
  rw [hrest]
  refine checkUnhandled_ok_iff.mpr fun key hkey => ?_
  obtain ⟨hin,hne,hno⟩ := (hleft key).mp hkey
  rcases h.handled key hin with hn | ⟨spec,hs,he⟩
  · exact hne hn
  · exact hno spec hs he

theorem validate_verdict (hspecs : ∀ effectName l, specs.lookup effectName = some l →
      Separate l ∧ Answers host l) (attrs : AttrMap) :
    (validate host specs attrs = .ok () ↔
      ∃ effectName l, specs.lookup effectName = some l ∧ Accepts host attrs effectName l) ∧
    ∀ e, validate host specs attrs = .error e ↔
      ∃ code, e = .ovi code ∧ Refused host specs attrs code := by
  have hsep : ∀ effectName l, specs.lookup effectName = some l → Separate l :=
    fun effectName l hl => (hspecs effectName l hl).1
  constructor
  · constructor
    · intro h
      rcases validate_settled hspecs attrs with ⟨-,hok⟩ | ⟨code,hcode⟩
      · exact hok
      · rw [validate_refused hsep hcode] at h
        cases h
    · rintro ⟨effectName,l,hl,h⟩
      exact validate_accepted (hsep effectName l hl) hl h
  · intro e
    constructor
    · intro h
      rcases validate_settled hspecs attrs with ⟨hok,-⟩ | ⟨code,hcode⟩
      · rw [hok] at h
        cases h
      · have hrefused := validate_refused hsep hcode
        exact ⟨code,Except.error.inj (h.symm.trans hrefused),hcode⟩
    · rintro ⟨code,rfl,hcode⟩
      exact validate_refused hsep hcode

section Sample

def drawn : AttributesSpecMap :=
  FFmpegEffectSpec.attributes.filter (fun p => p.1 == "drawtext" || p.1 == "sticker")

theorem drawn_separate {effectName : String} {l : List AttributeSpec}
    (hl : drawn.lookup effectName = some l) (host : Host) : Separate l ∧ Answers host l := by
  obtain ⟨before,after,heq,-⟩ := List.lookup_eq_some_iff.mp hl
  have hmem : (effectName,l) ∈ drawn := by
    rw [heq]
    exact List.mem_append_right _ List.mem_cons_self
  have hall : ∀ p ∈ drawn, Separate p.2 ∧ ∀ spec ∈ p.2, spec.validateFunc = none ∨
      spec.validateFunc = some (fun host s => .ok (host.readable s)) := by
    have hdrawn : drawn = [("drawtext",[⟨"fontcolor",false,"black",none⟩,
        ⟨"fontsize",false,"16",none⟩,⟨"x",false,"0",none⟩,⟨"y",false,"0",none⟩]),
        ("sticker",[⟨"path",true,"",some (fun host s => .ok (host.readable s))⟩])] := rfl
    intro p hp
    rw [hdrawn] at hp
    rcases List.mem_pair.mp hp with rfl | rfl
    · refine ⟨⟨?_,?_⟩,?_⟩ <;> simp
    · refine ⟨⟨?_,?_⟩,?_⟩ <;> simp
  obtain ⟨hsep,hfunc⟩ := hall _ hmem
  refine ⟨hsep,fun spec hs f hf value => ?_⟩
  rcases hfunc spec hs with h | h
  · rw [hf] at h
    cases h
  · obtain rfl := Option.some.inj (hf.symm.trans h)
    exact ⟨host.readable value,rfl⟩

theorem drawn_verdict :
    validate ⟨fun _ => .error .other,fun _ => true⟩ drawn
      {("name","sticker"),("colour","red")} = .error (.ovi oviErrorInvalidOperation) := by
  refine ((validate_verdict (fun _ _ hl => drawn_separate hl _) _).2 _).mpr
    ⟨oviErrorInvalidOperation,rfl,?_⟩
  exact @Refused.missing _ _ _ "sticker" [] [] _ (by decide) rfl (List.forall_mem_nil _) rfl
    (by decide)

end Sample

end AttributeValidator

end Ovi
