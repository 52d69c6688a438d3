import Ovi.Link.ValidateLink
import Mathlib.Data.Rat.Defs
import Mathlib.Tactic.Tauto
import Mathlib.Algebra.Order.Ring.Unbundled.Rat

namespace Ovi

def oviErrorNotSupportedEffect : ErrorCode := -7
def oviErrorNotSupportedEffectAttr : ErrorCode := -8
def oviErrorInvalidEffectAttrValue : ErrorCode := -9

inductive CFloat where
  | number (value : ℚ)
  | infinite (negative : Bool)
  | nan
deriving DecidableEq, Repr

def CFloat.within (low high : ℚ) : CFloat → Bool
  | .number value => low ≤ value && value ≤ high
  | _ => false

-- `std::stof`, and whether a path is there and readable
structure Host where
  stof : String → Except Exn CFloat
  readable : String → Bool

def isSpace (c : Char) : Bool := c == ' ' || ('\t' ≤ c && c ≤ '\r')

def signOf : List Char → Bool × List Char
  | '-' :: cs => (true,cs)
  | '+' :: cs => (false,cs)
  | cs => (false,cs)

def decimal (digits : List Char) : Nat :=
  digits.foldl (fun n c => 10 * n + (c.toNat - '0'.toNat)) 0

-- `std::stoi` in base ten; it throws without a digit and outside of `int`
def stoi (s : String) : Except Exn Int :=
  let (negative,cs) := signOf (s.toList.dropWhile isSpace)
  let digits := cs.takeWhile Char.isDigit
  let value : Int := if negative then -decimal digits else decimal digits
  if digits.isEmpty then .error .other
  else if -2147483648 ≤ value && value ≤ 2147483647 then .ok value
  else .error .other

structure AttributeSpec where
  name : String
  mandatory : Bool
  defaultValue : String
  validateFunc : Option (Host → String → Except Exn Bool)

def inRange (low high : ℚ) (host : Host) (s : String) : Except Exn Bool :=
  (host.stof s).map (CFloat.within low high)

abbrev AttributesSpecMap := List (String × List AttributeSpec)

namespace AttributeValidator

def parseEffectName (specs : AttributesSpecMap) (attrs : AttrMap) :
    Except Exn (String × AttrMap) :=
  match attrs["name"]? with
  | none => .error (.ovi oviErrorInvalidOperation)
  | some effectName =>
    if (specs.lookup effectName).isSome then .ok (effectName,attrs.erase "name")
    else .error (.ovi oviErrorNotSupportedEffect)

def validateAttribute (host : Host) (attrs : AttrMap) (spec : AttributeSpec) :
    Except Exn AttrMap :=
  match attrs[spec.name]? with
  | none => if spec.mandatory then .error (.ovi oviErrorInvalidOperation) else .ok attrs
  | some value =>
    match spec.validateFunc with
    | none => .ok (attrs.erase spec.name)
    | some validate =>
      match validate host value with
      | .error e => .error e
      | .ok false => .error (.ovi oviErrorInvalidEffectAttrValue)
      | .ok true => .ok (attrs.erase spec.name)

def validateEffectAttributes (host : Host) : List AttributeSpec → AttrMap → Except Exn AttrMap
  | [], attrs => .ok attrs
  | spec :: specs, attrs =>
    match validateAttribute host attrs spec with
    | .error e => .error e
    | .ok attrs => validateEffectAttributes host specs attrs

def checkUnhandled (attrs : AttrMap) : Except Exn Unit :=
  if attrs.isEmpty then .ok () else .error (.ovi oviErrorNotSupportedEffectAttr)

def validate (host : Host) (specs : AttributesSpecMap) (attrs : AttrMap) : Except Exn Unit := do
  let (effectName,attrs) ← parseEffectName specs attrs
  let attrs ← validateEffectAttributes host ((specs.lookup effectName).getD []) attrs
  checkUnhandled attrs

variable {host : Host} {specs : AttributesSpecMap} {attrs attrs' : AttrMap}

theorem validateAttribute_ok {spec : AttributeSpec}
    (h : validateAttribute host attrs spec = .ok attrs') : attrs' = attrs.erase spec.name ∨
      (attrs[spec.name]? = none ∧ spec.mandatory = false ∧ attrs' = attrs) := by
  unfold validateAttribute at h
  split at h
  · rename_i hnone
    split at h
    · cases h
    · cases h
      exact .inr ⟨hnone,Bool.eq_false_iff.mpr ‹_›,rfl⟩
  · split at h
    · exact .inl (Except.ok.inj h).symm
    · split at h
      · cases h
      · cases h
      · exact .inl (Except.ok.inj h).symm

theorem validateEffectAttributes_mem {l : List AttributeSpec} {key : String}
    (h : validateEffectAttributes host l attrs = .ok attrs') (hk : key ∈ attrs) :
    key ∈ attrs' ∨ ∃ spec ∈ l, spec.name = key := by
  induction l generalizing attrs with
  | nil =>
    cases h
    exact .inl hk
  | cons spec l ih =>
    rw [validateEffectAttributes] at h
    split at h
    · cases h
    · rename_i attrs₁ h₁
      by_cases hkey : spec.name = key
      · exact .inr ⟨spec,List.mem_cons_self,hkey⟩
      · have hk₁ : key ∈ attrs₁ := by
          rcases validateAttribute_ok h₁ with rfl | ⟨-,-,rfl⟩
          · exact Std.TreeMap.mem_erase.mpr ⟨by simpa using hkey,hk⟩
          · exact hk
        rcases ih h hk₁ with hin | ⟨spec',hs,hkey'⟩
        · exact .inl hin
        · exact .inr ⟨spec',List.mem_cons_of_mem _ hs,hkey'⟩

theorem validateAttribute_accepts {spec : AttributeSpec} {f : Host → String → Except Exn Bool}
    {value : String} (h : validateAttribute host attrs spec = .ok attrs')
    (hf : spec.validateFunc = some f) (hvalue : attrs[spec.name]? = some value) :
    f host value = .ok true := by
  simp only [validateAttribute,hvalue,hf] at h
  split at h
  · cases h
  · cases h
  · assumption

theorem validateEffectAttributes_accepts {l : List AttributeSpec} {spec : AttributeSpec}
    {f : Host → String → Except Exn Bool} {value : String}
    (h : validateEffectAttributes host l attrs = .ok attrs')
    (hnames : (l.map AttributeSpec.name).Nodup) (hs : spec ∈ l)
    (hf : spec.validateFunc = some f) (hvalue : attrs[spec.name]? = some value) :
    f host value = .ok true := by
  induction l generalizing attrs with
  | nil => cases hs
  | cons first l ih =>
    obtain ⟨hfirst,hrest⟩ := List.nodup_cons.mp hnames
    rw [validateEffectAttributes] at h
    split at h
    · cases h
    · rename_i attrs₁ h₁
      cases hs with
      | head => exact validateAttribute_accepts h₁ hf hvalue
      | tail _ hs =>
        have hne : first.name ≠ spec.name :=
          fun he => hfirst (he ▸ List.mem_map_of_mem hs)
        apply ih h hrest hs
        rcases validateAttribute_ok h₁ with rfl | ⟨-,-,rfl⟩
        · rw [Std.TreeMap.getElem?_erase,if_neg (by simpa using hne)]
          exact hvalue
        · exact hvalue

theorem validate_ok (h : validate host specs attrs = .ok ()) :
    ∃ effectName l rest, attrs["name"]? = some effectName ∧ specs.lookup effectName = some l ∧
      validateEffectAttributes host l (attrs.erase "name") = .ok rest ∧ rest.isEmpty = true := by
  cases hname : attrs["name"]? with
  | none =>
    rw [validate,parseEffectName,hname] at h
    cases h
  | some effectName =>
    cases hl : specs.lookup effectName with
    | none =>
      simp only [validate,parseEffectName,hname,hl] at h
      cases h
    | some l =>
      have hparse : parseEffectName specs attrs = .ok (effectName,attrs.erase "name") := by
        simp only [parseEffectName,hname,hl,Option.isSome_some,if_true]
      cases hv : validateEffectAttributes host l (attrs.erase "name") with
      | error e =>
        simp only [validate,hparse,bind,Except.bind,hl,Option.getD_some,hv] at h
        cases h
      | ok rest =>
        simp only [validate,hparse,bind,Except.bind,hl,Option.getD_some,hv,checkUnhandled] at h
        split at h
        · exact ⟨effectName,l,rest,rfl,hl,hv,‹_›⟩
        · cases h

theorem validate_keys (h : validate host specs attrs = .ok ()) :
    ∃ effectName l, attrs["name"]? = some effectName ∧ specs.lookup effectName = some l ∧
      ∀ key ∈ attrs, key = "name" ∨ ∃ spec ∈ l, spec.name = key := by
  obtain ⟨effectName,l,rest,hname,hl,hv,hempty⟩ := validate_ok h
  refine ⟨effectName,l,hname,hl,fun key hkey => ?_⟩
  by_cases hn : key = "name"
  · exact .inl hn
  · have hleft : key ∈ attrs.erase "name" :=
      Std.TreeMap.mem_erase.mpr ⟨by simpa using Ne.symm hn,hkey⟩
    rcases validateEffectAttributes_mem hv hleft with hin | hin
    · exact absurd hin (Std.TreeMap.not_mem_of_isEmpty hempty)
    · exact .inr hin

theorem validate_accepts (h : validate host specs attrs = .ok ()) :
    ∃ effectName l, attrs["name"]? = some effectName ∧ specs.lookup effectName = some l ∧
      ((l.map AttributeSpec.name).Nodup → ∀ spec ∈ l, spec.name ≠ "name" →
        ∀ f value, spec.validateFunc = some f → attrs[spec.name]? = some value →
          f host value = .ok true) := by
  obtain ⟨effectName,l,rest,hname,hl,hv,-⟩ := validate_ok h
  refine ⟨effectName,l,hname,hl,?_⟩
  intro hnames spec hs hne f value hf hvalue
  apply validateEffectAttributes_accepts hv hnames hs hf
  rw [Std.TreeMap.getElem?_erase,if_neg (by simpa using Ne.symm hne)]
  exact hvalue

theorem erased_value {key key' value : String} (h : (attrs.erase key)[key']? = some value) :
    attrs[key']? = some value := by
  rw [Std.TreeMap.getElem?_erase] at h
  split at h
  · cases h
  · exact h

def RaisedBy (host : Host) (l : List AttributeSpec) (attrs : AttrMap) (e : Exn) : Prop :=
  ∃ spec ∈ l, ∃ validate value, spec.validateFunc = some validate ∧
    attrs[spec.name]? = some value ∧ validate host value = .error e

theorem validateAttribute_error {spec : AttributeSpec} {e : Exn}
    (h : validateAttribute host attrs spec = .error e) :
    e ∈ [.ovi oviErrorInvalidOperation,.ovi oviErrorInvalidEffectAttrValue] ∨
      RaisedBy host [spec] attrs e := by
  unfold validateAttribute at h
  split at h
  · split at h
    · exact .inl (Except.error.inj h ▸ List.mem_cons_self)
    · cases h
  · rename_i value hvalue
    split at h
    · cases h
    · rename_i validate hvalidate
      split at h
      · rename_i e' he
        obtain rfl := Except.error.inj h
        exact .inr ⟨spec,List.mem_singleton_self spec,validate,value,hvalidate,hvalue,he⟩
      · exact .inl (Except.error.inj h ▸ List.mem_cons_of_mem _ (List.mem_singleton_self _))
      · cases h

theorem validateEffectAttributes_error {l : List AttributeSpec} {e : Exn}
    (h : validateEffectAttributes host l attrs = .error e) :
    e ∈ [.ovi oviErrorInvalidOperation,.ovi oviErrorInvalidEffectAttrValue] ∨
      RaisedBy host l attrs e := by
  induction l generalizing attrs with
  | nil => cases h
  | cons spec l ih =>
    rw [validateEffectAttributes] at h
    split at h
    · rename_i e' he
      obtain rfl := Except.error.inj h
      refine (validateAttribute_error he).imp_right ?_
      rintro ⟨spec',hs,hraised⟩
      exact ⟨spec',List.mem_singleton.mp hs ▸ List.mem_cons_self,hraised⟩
    · rename_i attrs₁ h₁
      refine (ih h).imp_right ?_
      rintro ⟨spec',hs,validate,value,hvalidate,hvalue,he⟩
      refine ⟨spec',List.mem_cons_of_mem _ hs,validate,value,hvalidate,?_,he⟩
      rcases validateAttribute_ok h₁ with rfl | ⟨-,-,rfl⟩
      · exact erased_value hvalue
      · exact hvalue

theorem validate_error {e : Exn} (h : validate host specs attrs = .error e) :
    e ∈ [.ovi oviErrorInvalidOperation,.ovi oviErrorInvalidEffectAttrValue,
        .ovi oviErrorNotSupportedEffect,.ovi oviErrorNotSupportedEffectAttr] ∨
      ∃ effectName l, specs.lookup effectName = some l ∧ RaisedBy host l attrs e := by
  cases hname : attrs["name"]? with
  | none =>
    simp only [validate,parseEffectName,hname] at h
    exact .inl (Except.error.inj h ▸ List.mem_cons_self)
  | some effectName =>
    cases hl : specs.lookup effectName with
    | none =>
      simp only [validate,parseEffectName,hname,hl] at h
      left
      rw [← Except.error.inj h]
      simp
    | some l =>
      have hparse : parseEffectName specs attrs = .ok (effectName,attrs.erase "name") := by
        simp only [parseEffectName,hname,hl,Option.isSome_some,if_true]
      cases hv : validateEffectAttributes host l (attrs.erase "name") with
      | error e' =>
        simp only [validate,hparse,bind,Except.bind,hl,Option.getD_some,hv] at h
        obtain rfl := Except.error.inj h
        rcases validateEffectAttributes_error hv with he | hraised
        · left
          simp only [List.mem_cons,List.not_mem_nil,or_false] at he ⊢
          tauto
        · refine .inr ⟨effectName,l,hl,?_⟩
          obtain ⟨spec,hs,validate,value,hvalidate,hvalue,he⟩ := hraised
          exact ⟨spec,hs,validate,value,hvalidate,erased_value hvalue,he⟩
      | ok rest =>
        simp only [validate,hparse,bind,Except.bind,hl,Option.getD_some,hv,checkUnhandled] at h
        split at h
        · cases h
        · left
          rw [← Except.error.inj h]
          simp

end AttributeValidator

end Ovi
