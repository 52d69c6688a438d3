import Ovi.Render.EffectMetadata
import Ovi.Render.WholeNumber

namespace Ovi
open FFmpegEffect RenderTask

inductive Conversion where
  | stoi
  | stof
deriving DecidableEq, Repr

def CFloat.ofInt (n : Int) : CFloat := .number n

def Conversion.read (host : Host) : Conversion → String → Except Exn CFloat
  | .stoi,s => (Ovi.stoi s).map CFloat.ofInt
  | .stof,s => host.stof s

def EffectCommand.numbers : EffectCommand → List CFloat
  | .blur _ intensity _ => [.ofInt intensity]
  | .box _ thickness _ => [.ofInt thickness]
  | .eq _ effectValue _ => [effectValue]
  | .text _ _ x y _ => [.ofInt x,.ofInt y]
  | .volume value _ => [value]
  | .sticker .. => []
  | .unsupported => []

namespace FFmpegEffect

def conversions (effectName : String) : List (String × Conversion) :=
  if effectName == "boxblur" || effectName == "avgblur" then [("intensity",.stoi)]
  else if effectName == "drawbox" then [("thickness",.stoi)]
  else if effectName == "brightness" then [("value",.stof)]
  else if effectName == "contrast" then [("value",.stof)]
  else if effectName == "saturation" then [("value",.stof)]
  else if effectName == "drawtext" then [("x",.stoi),("y",.stoi)]
  else if effectName == "sticker" then []
  else if effectName == "volume" then [("volume",.stof)]
  else []

def popped (host : Host) (effectName : String) (metadata : AnyDictionary)
    (c : String × Conversion) : Except Exn CFloat :=
  c.2.read host (pop effectName metadata c.1).1

def attributeNumbers (host : Host) (effectName : String) (metadata : AnyDictionary) :
    Except Exn (List CFloat) :=
  (conversions effectName).mapM (popped host effectName metadata)

end FFmpegEffect

section Trace

variable {host : Host} {effectName : String} {metadata : AnyDictionary} {rate : ℚ}

theorem pop_erased {key key' : String} (h : key' ≠ key) :
    (pop effectName (metadata.erase key) key').1 = (pop effectName metadata key').1 := by
  simp only [pop,popItem,erased_other h]

structure Follows (front : List CFloat) (numbers : Except Exn (List CFloat))
    (outcome : Except Exn EffectCommand) : Prop where
  raises : ∀ e, numbers = .error e → outcome = .error e
  uses : ∀ l command, numbers = .ok l → outcome = .ok command → command.numbers = front ++ l

variable {α β : Type} {front : List CFloat} {f : β → Except Exn CFloat}

theorem Follows.nil {decoded : Except Exn α} {toCommand : α → EffectCommand}
    (h : ∀ a, (toCommand a).numbers = front) :
    Follows front ([].mapM f) (decoded >>= fun a => .ok (toCommand a)) := by
  constructor
  · intro e he
    cases he
  · intro l command hl hcommand
    cases hl
    cases decoded with
    | error e => cases hcommand
    | ok a =>
      cases hcommand
      exact (h a).trans (List.append_nil front).symm

theorem Follows.cons (toNumber : α → CFloat) {read : Except Exn α}
    {rest : α → Except Exn EffectCommand} {c : β} {l : List β} (hread : f c = read.map toNumber)
    (h : ∀ n, Follows (front ++ [toNumber n]) (l.mapM f) (rest n)) :
    Follows front ((c :: l).mapM f) (read >>= rest) := by
  rw [List.mapM_cons,hread]
  cases read with
  | error e =>
    constructor
    · intro e' he
      cases he
      rfl
    · intro numbers command hl
      cases hl
  | ok n =>
    cases hl : l.mapM f with
    | error e =>
      constructor
      · intro e' he
        cases he
        exact (h n).raises e hl
      · intro numbers command hnumbers
        cases hnumbers
    | ok more =>
      constructor
      · intro e he
        cases he
      · intro numbers command hnumbers hcommand
        cases hnumbers
        rw [(h n).uses more command hl hcommand,List.append_assoc]
        rfl

theorem applyBlur_follows :
    Follows [] ([("intensity",Conversion.stoi)].mapM (popped host effectName metadata))
      (applyBlur host effectName metadata rate) := by
  change Follows [] _ (stoi (pop effectName metadata "intensity").1 >>= fun intensity =>
    getCoordInfo host (metadata.erase "intensity") rate >>= fun coordInfo =>
      .ok (.blur effectName intensity coordInfo))
  exact .cons CFloat.ofInt rfl (fun _ => .nil (fun _ => rfl))

theorem applyBox_follows :
    Follows [] ([("thickness",Conversion.stoi)].mapM (popped host effectName metadata))
      (applyBox host effectName metadata rate) := by
  change Follows [] _ (stoi (pop effectName (metadata.erase "color") "thickness").1 >>=
    fun thickness => getCoordInfo host _ rate >>= fun coordInfo =>
      .ok (.box (pop effectName metadata "color").1 thickness coordInfo))
  rw [pop_erased (by decide)]
  exact .cons CFloat.ofInt rfl (fun _ => .nil (fun _ => rfl))

theorem stof_read (s : String) : Conversion.stof.read host s = (host.stof s).map id := by
  cases hs : host.stof s <;> simp [Conversion.read,hs,Except.map]

theorem applyEq_follows :
    Follows [] ([("value",Conversion.stof)].mapM (popped host effectName metadata))
      (applyEq host effectName metadata rate) := by
  change Follows [] _ (host.stof (pop effectName metadata "value").1 >>= fun value =>
    getTimeline host (metadata.erase "value") rate >>= fun timeInfo =>
      .ok (.eq effectName value timeInfo))
  exact .cons id (stof_read _) (fun _ => .nil (fun _ => rfl))

theorem applyText_follows :
    Follows [] ([("x",Conversion.stoi),("y",Conversion.stoi)].mapM
        (popped host effectName metadata))
      (applyText host effectName metadata rate) := by
  change Follows [] _
    (stoi (pop effectName ((metadata.erase "fontcolor").erase "fontsize") "x").1 >>= fun x =>
      stoi (pop effectName (((metadata.erase "fontcolor").erase "fontsize").erase "x") "y").1 >>=
        fun y => getConvertedStringInfo host _ rate >>= fun strInfo =>
          .ok (.text (pop effectName metadata "fontcolor").1
            (pop effectName (metadata.erase "fontcolor") "fontsize").1 x y strInfo))
  simp only [pop_erased,ne_eq,String.reduceEq,not_false_eq_true]
  exact .cons CFloat.ofInt rfl (fun _ => .cons CFloat.ofInt rfl (fun _ => .nil (fun _ => rfl)))

theorem applySticker_follows :
    Follows [] ([].mapM (popped host effectName metadata))
      (applySticker host effectName metadata rate) := by
  change Follows [] _ (getCoordInfo host (metadata.erase "path") rate >>= fun coordInfo =>
    .ok (.sticker (pop effectName metadata "path").1 coordInfo))
  exact .nil (fun _ => rfl)

theorem applyVolume_follows :
    Follows [] ([("volume",Conversion.stof)].mapM (popped host effectName metadata))
      (applyVolume host effectName metadata rate) := by
  change Follows [] _ (host.stof (pop effectName metadata "volume").1 >>= fun volume =>
    getTimeline host (metadata.erase "volume") rate >>= fun timeInfo =>
      .ok (.volume volume timeInfo))
  exact .cons id (stof_read _) (fun _ => .nil (fun _ => rfl))

theorem unsupported_follows :
    Follows [] ([].mapM (popped host effectName metadata)) (.ok .unsupported) := by
  change Follows [] _ ((Except.ok ()) >>= fun _ => .ok .unsupported)
  exact .nil (fun _ => rfl)

theorem applyEffect_follows : Follows [] (attributeNumbers host effectName metadata)
    (applyEffect host effectName metadata rate) := by
  unfold attributeNumbers conversions applyEffect
  split_ifs
  · exact applyBlur_follows
  · exact applyBox_follows
  · exact applyEq_follows
  · exact applyEq_follows
  · exact applyEq_follows
  · exact applyText_follows
  · exact applySticker_follows
  · exact applyVolume_follows
  · exact unsupported_follows

end Trace

section Table

variable {p : String × List AttributeSpec} {spec : AttributeSpec} {c : String × Conversion}
  {key : String}

def numericAttributes : List (String × Conversion) :=
  [("intensity",.stoi),("value",.stof),("thickness",.stoi),("x",.stoi),("y",.stoi),
    ("volume",.stof)]

def unrangedAttributes : List String := ["thickness","x","y","volume"]

theorem specs_nodup (hp : p ∈ FFmpegEffectSpec.attributes) :
    (p.2.map AttributeSpec.name).Nodup := by
  revert p
  decide

theorem conversions_numeric (hp : p ∈ FFmpegEffectSpec.attributes) (hc : c ∈ conversions p.1) :
    c ∈ numericAttributes ∧ c.1 ∈ p.2.map AttributeSpec.name := by
  revert hc
  revert c
  revert p
  decide

theorem numeric_converted (hp : p ∈ FFmpegEffectSpec.attributes) (hc : c ∈ numericAttributes)
    (hdeclared : c.1 ∈ p.2.map AttributeSpec.name) : c ∈ conversions p.1 := by
  revert hdeclared
  revert c
  revert p
  decide

theorem ranged_spec (hp : p ∈ FFmpegEffectSpec.attributes)
    (hkey : key ∈ ["intensity","value"]) (hdeclared : key ∈ p.2.map AttributeSpec.name) :
    ∃ spec ∈ p.2, spec.name = key ∧ ∃ low high, spec.validateFunc = some (inRange low high) := by
  obtain ⟨spec,hs,rfl⟩ := List.mem_map.mp hdeclared
  refine ⟨spec,hs,rfl,?_⟩
  have hall : ∀ p ∈ FFmpegEffectSpec.attributes, ∀ spec ∈ p.2,
      spec.name ∈ ["intensity","value"] →
        ∃ low high, spec.validateFunc = some (inRange low high) := by
    simp [FFmpegEffectSpec.attributes,FFmpegEffectSpec.blurAttributes]
  exact hall p hp spec hs hkey

theorem intensity_spec (hp : p ∈ FFmpegEffectSpec.attributes)
    (hdeclared : "intensity" ∈ p.2.map AttributeSpec.name) :
    ∃ spec ∈ p.2, spec.name = "intensity" ∧ spec.validateFunc = some (inRange 0 19) := by
  revert hdeclared
  revert p
  simp [FFmpegEffectSpec.attributes,FFmpegEffectSpec.blurAttributes]

theorem unranged_spec (hp : p ∈ FFmpegEffectSpec.attributes) (hs : spec ∈ p.2)
    (hkey : spec.name ∈ unrangedAttributes) : spec.validateFunc = none := by
  have hall : ∀ p ∈ FFmpegEffectSpec.attributes, ∀ spec ∈ p.2,
      spec.name ∈ unrangedAttributes → spec.validateFunc = none := by
    simp [FFmpegEffectSpec.attributes,FFmpegEffectSpec.blurAttributes,unrangedAttributes]
  exact hall p hp spec hs hkey

theorem default_conversion (hp : p ∈ FFmpegEffectSpec.attributes) (hc : c ∈ conversions p.1) :
    (c.2 = .stoi ∧ (stoi (FFmpegEffectSpec.effectAttrDefaultValue p.1 c.1)).isOk = true) ∨
      (c.2 = .stof ∧ FFmpegEffectSpec.effectAttrDefaultValue p.1 c.1 ∈ ["1.0","0.0"]) := by
  revert hc
  revert c
  revert p
  decide

end Table

section Uses

variable {host : Host} {rate : ℚ} {attrs : AttrMap} {details : List Detected}
  {effectName key : String} {l : List AttributeSpec}

theorem stof_defaults : stof "1.0" = .ok (.number 1) ∧ stof "0.0" = .ok (.number 0) := by
  decide +kernel

def HasRange (effectName key : String) (low high : ℚ) : Prop :=
  ∃ l, FFmpegEffectSpec.attributes.lookup effectName = some l ∧
    ∃ spec ∈ l, spec.name = key ∧ spec.validateFunc = some (inRange low high)

def RangeChecked (host : Host) (attrs : AttrMap) (key : String) (x : CFloat) : Prop :=
  ∃ low high value, HasRange (attrs.getD "name" "") key low high ∧
    attrs[key]? = some value ∧ host.stof value = .ok x ∧ x.within low high = true

def Ranged (attrs : AttrMap) (key : String) : Prop :=
  ∃ low high, HasRange (attrs.getD "name" "") key low high

def Effect.Uses (host : Host) (rate : ℚ) (attrs : AttrMap) (checked : String → CFloat → Prop)
    (effect : Effect) : Prop :=
  ∃ numbers, attributeNumbers host effect.effectName effect.metadata = .ok numbers ∧
    (∀ command, applyEffect host effect.effectName effect.metadata rate = .ok command →
      command.numbers = numbers) ∧
    List.Forall₂ (fun c x => c.1 ∈ attrs → checked c.1 x) (conversions effect.effectName) numbers

def UsesChecked (host : Host) (rate : ℚ) (attrs : AttrMap) (details : List Detected) : Prop :=
  (makeEffect attrs details).Uses host rate attrs (RangeChecked host attrs)

def UsesRanged (host : Host) (rate : ℚ) (attrs : AttrMap) (details : List Detected) : Prop :=
  (makeEffect attrs details).Uses host rate attrs
    (fun key x => Ranged attrs key → RangeChecked host attrs key x)

structure NumbersAgree (attrs : AttrMap) : Prop where
  intensity : ∀ value, attrs["intensity"]? = some value → WholeNumber value
  whole : ∀ key ∈ ["thickness","x","y"], ∀ value, attrs[key]? = some value →
    ∃ n, stoi value = .ok n
  volume : ∀ value, attrs["volume"]? = some value → ∃ x, stof value = .ok x

def ReadsAs (host : Host) (attrs : AttrMap) (checked : String → CFloat → Prop)
    (c : String × Conversion) : Prop :=
  ∀ value, attrs[c.1]? = some value → ∃ x, c.2.read host value = .ok x ∧ checked c.1 x

structure Accepted (host : Host) (attrs : AttrMap) (l : List AttributeSpec) : Prop where
  known : (attrs.getD "name" "",l) ∈ FFmpegEffectSpec.attributes
  lookup : FFmpegEffectSpec.attributes.lookup (attrs.getD "name" "") = some l
  keys : ∀ key ∈ attrs, key = "name" ∨ key ∈ l.map AttributeSpec.name
  values : ∀ spec ∈ l, spec.name ≠ "name" → ∀ f value, spec.validateFunc = some f →
    attrs[spec.name]? = some value → f host value = .ok true

theorem accepted_of_validate (h : FFmpegRender.validateEffectAttrs host attrs = .ok ()) :
    ∃ l, Accepted host attrs l := by
  obtain ⟨l,hl,hkeys⟩ := accepted_keys h
  have hknown : (attrs.getD "name" "",l) ∈ FFmpegEffectSpec.attributes := by
    obtain ⟨before,after,heq,-⟩ := List.lookup_eq_some_iff.mp hl
    rw [heq]
    exact List.mem_append_right _ List.mem_cons_self
  obtain ⟨effectName,l',hname,hl',hvalues⟩ := AttributeValidator.validate_accepts h
  have heffect : attrs.getD "name" "" = effectName := by
    rw [Std.TreeMap.getD_eq_getD_getElem?,hname]
    rfl
  rw [heffect] at hl
  obtain rfl := Option.some_inj.mp (hl.symm.trans hl')
  exact ⟨l,hknown,heffect ▸ hl,hkeys,hvalues (specs_nodup hknown)⟩

theorem mem_of_value {value : String} (h : attrs[key]? = some value) : key ∈ attrs :=
  Std.TreeMap.mem_iff_isSome_getElem?.mpr (by rw [h]; rfl)

theorem Accepted.declared (h : Accepted host attrs l) (hkey : key ∈ attrs) (hne : key ≠ "name") :
    key ∈ l.map AttributeSpec.name :=
  (h.keys key hkey).resolve_left hne

theorem inRange_accepts {low high : ℚ} {value : String}
    (h : inRange low high host value = .ok true) :
    ∃ x, host.stof value = .ok x ∧ x.within low high = true := by
  rw [inRange] at h
  cases hx : host.stof value with
  | error e =>
    rw [hx] at h
    cases h
  | ok x =>
    rw [hx] at h
    exact ⟨x,rfl,Except.ok.inj h⟩

theorem Accepted.rangeChecked (h : Accepted host attrs l) (hkey : key ∈ ["intensity","value"])
    {value : String} (hvalue : attrs[key]? = some value) :
    ∃ x, host.stof value = .ok x ∧ RangeChecked host attrs key x := by
  have hne : key ≠ "name" := by
    rintro rfl
    revert hkey
    decide
  obtain ⟨spec,hs,rfl,low,high,hrange⟩ :=
    ranged_spec h.known hkey (h.declared (mem_of_value hvalue) hne)
  obtain ⟨x,hx,hwithin⟩ := inRange_accepts (h.values spec hs hne _ value hrange hvalue)
  exact ⟨x,hx,low,high,value,⟨l,h.lookup,spec,hs,rfl,hrange⟩,hvalue,hx,hwithin⟩

theorem Accepted.not_ranged (h : Accepted host attrs l) (hkey : key ∈ unrangedAttributes) :
    ¬ Ranged attrs key := by
  rintro ⟨low,high,l',hl,spec,hs,rfl,hrange⟩
  obtain rfl := Option.some_inj.mp (h.lookup.symm.trans hl)
  rw [unranged_spec h.known hs hkey] at hrange
  cases hrange

theorem RangeChecked.stof {x : CFloat} {value : String} (h : RangeChecked host attrs key x)
    (hvalue : attrs[key]? = some value) : host.stof value = .ok x := by
  obtain ⟨low,high,value',-,hvalue',hx,-⟩ := h
  obtain rfl := Option.some_inj.mp (hvalue.symm.trans hvalue')
  exact hx

theorem RangeChecked.ranged {x : CFloat} (h : RangeChecked host attrs key x) :
    Ranged attrs key := by
  obtain ⟨low,high,value,hrange,-⟩ := h
  exact ⟨low,high,hrange⟩

theorem Accepted.popped_effect (h : Accepted host attrs l) {c : String × Conversion}
    (hc : c ∈ conversions (attrs.getD "name" "")) :
    popped host (attrs.getD "name" "") (makeEffect attrs details).metadata c =
      c.2.read host (setOrDefault (attrs.getD "name" "") attrs c.1) := by
  have hall : ∀ c ∈ numericAttributes, '.' ∉ c.1.toList ∧ c.1 ≠ "name" := by decide
  obtain ⟨hdot,hne⟩ := hall c (conversions_numeric h.known hc).1
  rw [popped,pop_effect _ hdot hne rfl]

theorem Accepted.reads_default (h : Accepted host attrs l) (hs : host.stof = stof)
    {c : String × Conversion} (hc : c ∈ conversions (attrs.getD "name" "")) :
    ∃ x, c.2.read host
      (FFmpegEffectSpec.effectAttrDefaultValue (attrs.getD "name" "") c.1) = .ok x := by
  rcases default_conversion h.known hc with ⟨hconversion,hok⟩ | ⟨hconversion,hdefault⟩
  · rw [hconversion,Conversion.read]
    cases hn : stoi (FFmpegEffectSpec.effectAttrDefaultValue (attrs.getD "name" "") c.1) with
    | error e =>
      rw [hn] at hok
      cases hok
    | ok n => exact ⟨.ofInt n,rfl⟩
  · rw [hconversion,Conversion.read]
    simp only [List.mem_cons,List.not_mem_nil,or_false] at hdefault
    rw [hs]
    rcases hdefault with he | he
    · exact ⟨_,he ▸ stof_defaults.1⟩
    · exact ⟨_,he ▸ stof_defaults.2⟩

theorem Accepted.read_iff (h : Accepted host attrs l) (hs : host.stof = stof)
    (details : List Detected) {checked : String → CFloat → Prop} {c : String × Conversion}
    (hc : c ∈ conversions (attrs.getD "name" "")) :
    (∃ x, popped host (attrs.getD "name" "") (makeEffect attrs details).metadata c = .ok x ∧
      (c.1 ∈ attrs → checked c.1 x)) ↔ ReadsAs host attrs checked c := by
  rw [h.popped_effect hc,setOrDefault,Std.TreeMap.getD_eq_getD_getElem?,ReadsAs]
  cases hvalue : attrs[c.1]? with
  | none =>
    obtain ⟨x,hx⟩ := h.reads_default hs hc
    refine iff_of_true ⟨x,hx,fun hin => ?_⟩ ?_
    · rw [Std.TreeMap.mem_iff_isSome_getElem?,hvalue] at hin
      cases hin
    · intro value he
      cases he
  | some value =>
    have hin := mem_of_value hvalue
    constructor
    · rintro ⟨x,hx,hchecked⟩ value' he
      obtain rfl := Option.some_inj.mp he
      exact ⟨x,hx,hchecked hin⟩
    · intro hall
      obtain ⟨x,hx,hchecked⟩ := hall value rfl
      exact ⟨x,hx,fun _ => hchecked⟩

theorem Accepted.uses_iff (h : Accepted host attrs l) (hs : host.stof = stof) (rate : ℚ)
    (details : List Detected) {checked : String → CFloat → Prop} :
    (makeEffect attrs details).Uses host rate attrs checked ↔
      ∀ c ∈ conversions (attrs.getD "name" ""), ReadsAs host attrs checked c := by
  have heffect : (makeEffect attrs details).effectName = attrs.getD "name" "" := rfl
  have hreads : (∀ c ∈ conversions (attrs.getD "name" ""), ReadsAs host attrs checked c) ↔
      ∃ numbers, attributeNumbers host (attrs.getD "name" "")
          (makeEffect attrs details).metadata = .ok numbers ∧
        List.Forall₂ (fun c x => c.1 ∈ attrs → checked c.1 x)
          (conversions (attrs.getD "name" "")) numbers := by
    rw [attributeNumbers,Checks.exists_mapM_iff]
    exact forall₂_congr (fun c hc => (h.read_iff hs details hc).symm)
  rw [Effect.Uses,heffect,hreads]
  constructor
  · rintro ⟨numbers,hnumbers,-,hall⟩
    exact ⟨numbers,hnumbers,hall⟩
  · rintro ⟨numbers,hnumbers,hall⟩
    exact ⟨numbers,hnumbers,fun command => applyEffect_follows.uses numbers command hnumbers,hall⟩

theorem readsStoi_iff {checked : String → CFloat → Prop} :
    ReadsAs host attrs checked (key,.stoi) ↔ ∀ value, attrs[key]? = some value →
      ∃ n, stoi value = .ok n ∧ checked key (.ofInt n) := by
  refine forall₂_congr (fun value hvalue => ?_)
  rw [Conversion.read]
  constructor
  · rintro ⟨x,hx,hchecked⟩
    cases hn : stoi value with
    | error e =>
      rw [hn] at hx
      cases hx
    | ok n =>
      rw [hn] at hx
      obtain rfl := Except.ok.inj hx
      exact ⟨n,rfl,hchecked⟩
  · rintro ⟨n,hn,hchecked⟩
    exact ⟨.ofInt n,by rw [hn]; rfl,hchecked⟩

theorem Accepted.converted (h : Accepted host attrs l) {c : String × Conversion}
    (hc : c ∈ numericAttributes) {value : String} (hvalue : attrs[c.1]? = some value) :
    c ∈ conversions (attrs.getD "name" "") := by
  have hall : ∀ c ∈ numericAttributes, c.1 ≠ "name" := by decide
  exact numeric_converted h.known hc (h.declared (mem_of_value hvalue) (hall c hc))

theorem Accepted.intensity_within (h : Accepted host attrs l) {value : String}
    (hvalue : attrs["intensity"]? = some value) :
    ∃ x, host.stof value = .ok x ∧ x.within 0 19 = true := by
  obtain ⟨spec,hs,hname,hrange⟩ :=
    intensity_spec h.known (h.declared (mem_of_value hvalue) (by decide))
  have hne : spec.name ≠ "name" := by
    rw [hname]
    decide
  exact inRange_accepts (h.values spec hs hne _ value hrange (hname ▸ hvalue))

theorem Accepted.readsRanged_iff (h : Accepted host attrs l) (hs : host.stof = stof) :
    (∀ c ∈ conversions (attrs.getD "name" ""),
      ReadsAs host attrs (fun key x => Ranged attrs key → RangeChecked host attrs key x) c) ↔
      NumbersAgree attrs := by
  constructor
  · intro hall
    constructor
    · intro value hvalue
      have hreads := readsStoi_iff.mp
        (hall ("intensity",.stoi) (h.converted (by decide) hvalue))
      obtain ⟨n,hn,hchecked⟩ := hreads value hvalue
      obtain ⟨x,hx,hwithin⟩ := h.intensity_within hvalue
      obtain ⟨y,-,hrange⟩ := h.rangeChecked (by decide) hvalue
      have hread := (hchecked hrange.ranged).stof hvalue
      rw [hs] at hx
      exact (reads_alike_iff hx hwithin).mp
        ⟨n,hn,Except.ok.inj (hx.symm.trans (hs ▸ hread))⟩
    · intro key hkey value hvalue
      have hnumeric : ∀ key ∈ ["thickness","x","y"],
          (key,Conversion.stoi) ∈ numericAttributes := by decide
      have hreads := readsStoi_iff.mp (hall _ (h.converted (hnumeric key hkey) hvalue))
      obtain ⟨n,hn,-⟩ := hreads value hvalue
      exact ⟨n,hn⟩
    · intro value hvalue
      obtain ⟨x,hx,-⟩ := hall ("volume",.stof) (h.converted (by decide) hvalue) value hvalue
      rw [Conversion.read,hs] at hx
      exact ⟨x,hx⟩
  · intro hagree c hc
    have hwhole : ∀ key ∈ ["thickness","x","y"], key ∈ unrangedAttributes → ReadsAs host attrs
        (fun key x => Ranged attrs key → RangeChecked host attrs key x) (key,.stoi) := by
      intro key hkey hunranged
      rw [readsStoi_iff]
      intro value hvalue
      obtain ⟨n,hn⟩ := hagree.whole key hkey value hvalue
      exact ⟨n,hn,fun hranged => absurd hranged (h.not_ranged hunranged)⟩
    have hnumeric := (conversions_numeric h.known hc).1
    simp only [numericAttributes,List.mem_cons,List.not_mem_nil,or_false] at hnumeric
    rcases hnumeric with rfl | rfl | rfl | rfl | rfl | rfl
    · rw [readsStoi_iff]
      intro value hvalue
      obtain ⟨x,hx,hchecked⟩ := h.rangeChecked (by decide) hvalue
      obtain ⟨y,hy,hwithin⟩ := h.intensity_within hvalue
      obtain rfl := Except.ok.inj (hx.symm.trans hy)
      rw [hs] at hx
      obtain ⟨n,hn,rfl⟩ := (reads_alike_iff hx hwithin).mpr (hagree.intensity value hvalue)
      exact ⟨n,hn,fun _ => hchecked⟩
    · intro value hvalue
      obtain ⟨x,hx,hchecked⟩ := h.rangeChecked (by decide) hvalue
      exact ⟨x,hx,fun _ => hchecked⟩
    · exact hwhole _ (by decide) (by decide)
    · exact hwhole _ (by decide) (by decide)
    · exact hwhole _ (by decide) (by decide)
    · intro value hvalue
      obtain ⟨x,hx⟩ := hagree.volume value hvalue
      refine ⟨x,?_,fun hranged => absurd hranged (h.not_ranged (by decide))⟩
      rw [Conversion.read,hs]
      exact hx

theorem Accepted.readsChecked_iff (h : Accepted host attrs l) (hs : host.stof = stof) :
    (∀ c ∈ conversions (attrs.getD "name" ""), ReadsAs host attrs (RangeChecked host attrs) c) ↔
      NumbersAgree attrs ∧ ∀ key ∈ unrangedAttributes, key ∉ attrs := by
  rw [← h.readsRanged_iff hs]
  constructor
  · intro hall
    constructor
    · intro c hc value hvalue
      obtain ⟨x,hx,hchecked⟩ := hall c hc value hvalue
      exact ⟨x,hx,fun _ => hchecked⟩
    · intro key hkey hin
      have hnumeric : ∀ key ∈ unrangedAttributes, ∃ c ∈ numericAttributes, c.1 = key := by decide
      obtain ⟨c,hc,rfl⟩ := hnumeric key hkey
      obtain ⟨value,hvalue⟩ :=
        Option.isSome_iff_exists.mp (Std.TreeMap.mem_iff_isSome_getElem?.mp hin)
      obtain ⟨x,-,hchecked⟩ := hall c (h.converted hc hvalue) value hvalue
      exact h.not_ranged hkey hchecked.ranged
  · rintro ⟨hall,hnone⟩ c hc value hvalue
    obtain ⟨x,hx,hchecked⟩ := hall c hc value hvalue
    have hsplit : ∀ c ∈ numericAttributes,
        c.1 ∈ ["intensity","value"] ∨ c.1 ∈ unrangedAttributes := by decide
    rcases hsplit c (conversions_numeric h.known hc).1 with hkey | hkey
    · obtain ⟨y,-,hrange⟩ := h.rangeChecked hkey hvalue
      exact ⟨x,hx,hchecked hrange.ranged⟩
    · exact absurd (mem_of_value hvalue) (hnone c.1 hkey)

def stofHost (readable : String → Bool) : Host := ⟨stof,readable⟩

theorem uses_checked_iff (readable : String → Bool)
    (h : FFmpegRender.validateEffectAttrs (stofHost readable) attrs = .ok ()) (rate : ℚ)
    (details : List Detected) :
    (UsesRanged (stofHost readable) rate attrs details ↔ NumbersAgree attrs) ∧
      (UsesChecked (stofHost readable) rate attrs details ↔
        NumbersAgree attrs ∧ ∀ key ∈ unrangedAttributes, key ∉ attrs) := by
  obtain ⟨l,hl⟩ := accepted_of_validate h
  constructor
  · rw [UsesRanged,hl.uses_iff rfl,hl.readsRanged_iff rfl]
  · rw [UsesChecked,hl.uses_iff rfl,hl.readsChecked_iff rfl]

end Uses

section Sample

example : ∀ n ∈ List.range 20, stoi (toString n) = .ok n ∧
    stof (toString n) = .ok (.ofInt n) := by decide +kernel

def noFiles : String → Bool := fun _ => false

def blurred (intensity : String) : AttrMap := {("name","boxblur"),("intensity",intensity)}

theorem uses_checked_iff_blurred :
    (UsesRanged (stofHost noFiles) 30 (blurred "12") [] ↔ NumbersAgree (blurred "12")) ∧
      (UsesChecked (stofHost noFiles) 30 (blurred "12") [] ↔
        NumbersAgree (blurred "12") ∧ ∀ key ∈ unrangedAttributes, key ∉ blurred "12") :=
  uses_checked_iff noFiles (by decide +kernel) 30 []

-- the validator reads 1/2 and 10 where `std::stoi` finds no digit and reads 1
theorem blurred_disagrees :
    FFmpegRender.validateEffectAttrs (stofHost noFiles) (blurred ".5") = .ok () ∧
      applyEffect (stofHost noFiles) "boxblur" (makeEffect (blurred ".5") []).metadata 30 =
        .error .other ∧
      ¬ UsesRanged (stofHost noFiles) 30 (blurred ".5") [] ∧
      FFmpegRender.validateEffectAttrs (stofHost noFiles) (blurred "1e1") = .ok () ∧
      stof "1e1" = .ok (.number 10) ∧
      applyEffect (stofHost noFiles) "boxblur" (makeEffect (blurred "1e1") []).metadata 30 =
        .ok (.blur "boxblur" 1 []) := by
  refine ⟨by decide +kernel,by decide +kernel,?_,by decide +kernel,by decide +kernel,
    by decide +kernel⟩
  rintro ⟨numbers,hnumbers,-⟩
  have hraises : attributeNumbers (stofHost noFiles) "boxblur"
      (makeEffect (blurred ".5") []).metadata = .error .other := by decide +kernel
  cases hraises.symm.trans hnumbers

end Sample

end Ovi
