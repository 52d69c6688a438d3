import Ovi.Library.Checks
import Ovi.Render.FFmpegEffect
import Mathlib.Data.List.Nodup

namespace Ovi
open FFmpegEffect RenderTask

section Keys

theorem dot_mem_frameKey (frameNumber : Int) : '.' ∈ (frameKey frameNumber).toList := by
  simp [frameKey]

theorem frameKey_ne {key : String} (h : '.' ∉ key.toList) (frameNumber : Int) :
    frameKey frameNumber ≠ key := fun he => h (he ▸ dot_mem_frameKey frameNumber)

end Keys

section Frames

variable {details : List Detected} {dic : AnyDictionary} {key : String}

theorem addFrames_other (h : ∀ d ∈ details, frameKey d.frameNumber ≠ key) :
    (details.foldl addFrame dic)[key]? = dic[key]? := by
  induction details generalizing dic with
  | nil => rfl
  | cons d details ih =>
    rw [List.foldl_cons,ih (fun x hx => h x (List.mem_cons_of_mem _ hx)),addFrame,
      Std.TreeMap.getElem?_insert,if_neg]
    simpa using h d List.mem_cons_self

theorem addFrames_frame (hd : (details.map (fun d => frameKey d.frameNumber)).Nodup)
    {d : Detected} (h : d ∈ details) :
    (details.foldl addFrame dic)[frameKey d.frameNumber]? =
      some (.vector (fillFrameEffect d.list)) := by
  induction details generalizing dic with
  | nil => cases h
  | cons x details ih =>
    obtain ⟨hx,hrest⟩ := List.nodup_cons.mp hd
    rw [List.foldl_cons]
    rcases List.mem_cons.mp h with rfl | h
    · have hother : ∀ y ∈ details, frameKey y.frameNumber ≠ frameKey d.frameNumber :=
        fun y hy he => hx (List.mem_map.mpr ⟨y,hy,he⟩)
      rw [addFrames_other hother,addFrame,Std.TreeMap.getElem?_insert_self]
    · exact ih hrest h

def frameEntry (d : Detected) : String × DictionaryItem :=
  (frameKey d.frameNumber,.vector (fillFrameEffect d.list))

structure FrameEntries (details : List Detected) (dic : AnyDictionary) : Prop where
  frame : ∀ d ∈ details, dic[frameKey d.frameNumber]? = some (frameEntry d).2
  other : ∀ key, (∀ d ∈ details, frameKey d.frameNumber ≠ key) → dic[key]? = none

theorem FrameEntries.perm (h : FrameEntries details dic)
    (hd : (details.map (fun d => frameKey d.frameNumber)).Nodup) :
    dic.toList.Perm (details.map frameEntry) := by
  have hdic : dic.toList.Nodup := by
    refine Std.TreeMap.distinct_keys_toList.imp ?_
    rintro a b hne rfl
    exact hne Std.ReflCmp.compare_self
  have hentries : (details.map frameEntry).Nodup := by
    refine List.Nodup.of_map Prod.fst ?_
    rwa [List.map_map]
  rw [List.perm_ext_iff_of_nodup hdic hentries]
  rintro ⟨key,value⟩
  rw [Std.TreeMap.mem_toList_iff_getElem?_eq_some,List.mem_map]
  constructor
  · intro hv
    by_cases hkey : ∃ d ∈ details, frameKey d.frameNumber = key
    · obtain ⟨d,hm,rfl⟩ := hkey
      rw [h.frame d hm] at hv
      exact ⟨d,hm,Prod.ext rfl (Option.some_inj.mp hv)⟩
    · rw [h.other key (fun d hm he => hkey ⟨d,hm,he⟩)] at hv
      cases hv
  · rintro ⟨d,hm,he⟩
    obtain ⟨rfl,rfl⟩ := Prod.mk.inj he
    exact h.frame d hm

end Frames

section Decode

variable {host : Host} {rate : ℚ} {details : List Detected} {dic : AnyDictionary}

def window (rate : ℚ) (frameNumber : Int) : Timeline :=
  ⟨.number (frameNumber / rate),.number ((frameNumber + 1) / rate)⟩

def DetailsItem.isRect : DetailsItem → Bool
  | .rect .. => true
  | _ => false

def DetailsItem.coordinates (time : Timeline) : DetailsItem → Option CoordinateInfo
  | .rect x y width height => some ⟨x,y,width,height,time⟩
  | _ => none

def frameCoordinates (rate : ℚ) (d : Detected) : List CoordinateInfo :=
  d.list.filterMap (DetailsItem.coordinates (window rate d.frameNumber))

def recordedCoords (rate : ℚ) (details : List Detected) : List CoordinateInfo :=
  details.flatMap (frameCoordinates rate)

structure RectFrames (details : List Detected) : Prop where
  distinct : (details.map Detected.frameNumber).Nodup
  short : ∀ d ∈ details, d.frameNumber.natAbs < 2 ^ 24
  rects : ∀ d ∈ details, ∀ item ∈ d.list, item.isRect = true

def Host.StofExact (host : Host) (details : List Detected) : Prop :=
  ∀ d ∈ details, host.stof (frameKey d.frameNumber) = .ok (.number d.frameNumber)

theorem frameKeys_nodup (hs : host.StofExact details) (hd : RectFrames details) :
    (details.map (fun d => frameKey d.frameNumber)).Nodup := by
  rw [List.nodup_map_iff_inj_on (List.Nodup.of_map _ hd.distinct)]
  intro x hx y hy he
  have hstof := (hs x hx).symm.trans (he ▸ hs y hy)
  have hnumber : x.frameNumber = y.frameNumber := by simpa using hstof
  exact List.inj_on_of_nodup_map hd.distinct hx hy hnumber

theorem castDouble_of {rect : Std.TreeMap String AnyValue} {key : String} {value : ℚ}
    (h : rect[key]? = some (.double value)) : castDouble rect key = .ok value := by
  rw [castDouble,h]

theorem coordinate_rect {item : DetailsItem} (h : item.isRect = true) (time : Timeline) :
    ∃ c, item.coordinates time = some c ∧ coordinate time (visitorAddItem item) = .ok c := by
  cases item with
  | rect x y width height =>
    have hx : castDouble (visitorAddItem (.rect x y width height)) "x" = .ok x :=
      castDouble_of (by simp [visitorAddItem])
    have hy : castDouble (visitorAddItem (.rect x y width height)) "y" = .ok y :=
      castDouble_of (by simp [visitorAddItem,Std.TreeMap.getElem_insert])
    have hw : castDouble (visitorAddItem (.rect x y width height)) "width" = .ok width :=
      castDouble_of (by simp [visitorAddItem,Std.TreeMap.getElem_insert])
    have hh : castDouble (visitorAddItem (.rect x y width height)) "height" = .ok height :=
      castDouble_of (by simp [visitorAddItem,Std.TreeMap.getElem_insert])
    refine ⟨⟨x,y,width,height,time⟩,rfl,?_⟩
    rw [coordinate,hx,hy,hw,hh]
    rfl
  | _ => cases h

theorem mapM_coordinate {list : Details} (h : ∀ item ∈ list, item.isRect = true)
    (time : Timeline) : (fillFrameEffect list).mapM (coordinate time) =
      .ok (list.filterMap (DetailsItem.coordinates time)) := by
  induction list with
  | nil => rfl
  | cons item list ih =>
    obtain ⟨c,hc,hcoordinate⟩ := coordinate_rect (h item List.mem_cons_self) time
    have hrest := ih (fun x hx => h x (List.mem_cons_of_mem _ hx))
    rw [fillFrameEffect] at hrest ⊢
    rw [List.map_cons,List.mapM_cons,hcoordinate,List.filterMap_cons_some hc]
    simp only [bind,Except.bind,hrest]
    rfl

theorem timeLine_frame {d : Detected}
    (hs : host.stof (frameKey d.frameNumber) = .ok (.number d.frameNumber))
    (hshort : d.frameNumber.natAbs < 2 ^ 24) :
    timeLine host rate (frameEntry d).1 = .ok (window rate d.frameNumber) := by
  have hcast : (d.frameNumber : ℚ) + 1 = ((d.frameNumber + 1 : ℤ) : ℚ) := by push_cast; rfl
  have hnext : addOne (.number d.frameNumber) = .number (d.frameNumber + 1) := by
    rw [addOne,hcast,roundTo_int (by omega)]
  rw [timeLine,frameEntry,hs]
  change Except.ok (⟨_,toSeconds rate (addOne (.number d.frameNumber))⟩ : Timeline) = _
  rw [hnext]
  rfl

theorem coordEntry_frame {d : Detected} (hs : host.stof (frameKey d.frameNumber) =
      .ok (.number d.frameNumber)) (hshort : d.frameNumber.natAbs < 2 ^ 24)
    (hd : ∀ item ∈ d.list, item.isRect = true) :
    coordEntry host rate (frameEntry d) = .ok (frameCoordinates rate d) := by
  have htime : timeLine host rate (frameKey d.frameNumber) = .ok (window rate d.frameNumber) :=
    timeLine_frame hs hshort
  have hrects := mapM_coordinate hd (window rate d.frameNumber)
  simp only [coordEntry,frameEntry,htime,bind,Except.bind,castVector,hrects]
  rfl

theorem getCoordInfo_frames (rate : ℚ) (hs : host.StofExact details) (hd : RectFrames details)
    (h : FrameEntries details dic) :
    ∃ coords, getCoordInfo host dic rate = .ok coords ∧
      coords.Perm (recordedCoords rate details) := by
  have hperm := h.perm (frameKeys_nodup hs hd)
  have hentry : ∀ d ∈ details,
      coordEntry host rate (frameEntry d) = .ok (frameCoordinates rate d) :=
    fun d hm => coordEntry_frame (hs d hm) (hd.short d hm) (hd.rects d hm)
  let decoded := fun entry => (coordEntry host rate entry).toOption.getD []
  have hdecoded : ∀ d ∈ details, decoded (frameEntry d) = frameCoordinates rate d := by
    intro d hm
    simp only [decoded,hentry d hm]
    rfl
  have hall : dic.toList.mapM (coordEntry host rate) = .ok (dic.toList.map decoded) := by
    refine Checks.mapM_ok (fun entry hm => ?_)
    obtain ⟨d,hd,rfl⟩ := List.mem_map.mp (hperm.mem_iff.mp hm)
    rw [hdecoded d hd,hentry d hd]
  refine ⟨dic.toList.flatMap decoded,?_,?_⟩
  · rw [getCoordInfo,hall,List.flatMap]
    rfl
  · have hframes : (details.map frameEntry).flatMap decoded = recordedCoords rate details := by
      rw [List.flatMap_map,recordedCoords]
      exact List.flatMap_congr hdecoded
    rw [← hframes]
    exact hperm.flatMap_right _

end Decode

section Pop

variable {attrs : AttrMap} {details : List Detected} {dic : AnyDictionary} {key : String}

theorem effect_frame (hd : (details.map (fun d => frameKey d.frameNumber)).Nodup) {d : Detected}
    (h : d ∈ details) :
    (makeEffect attrs details).metadata[frameKey d.frameNumber]? = some (frameEntry d).2 :=
  addFrames_frame hd h

theorem effect_attribute (hdot : '.' ∉ key.toList) (hname : key ≠ "name") :
    (makeEffect attrs details).metadata[key]? = attrs[key]?.map DictionaryItem.string := by
  have hother : ∀ d ∈ details, frameKey d.frameNumber ≠ key :=
    fun d _ => frameKey_ne hdot d.frameNumber
  have hne : ¬ compare "name" key = .eq := by simpa using Ne.symm hname
  rw [makeEffect,addFrames_other hother,initializeEffect,Std.TreeMap.getElem?_erase,if_neg hne,
    Std.TreeMap.getElem?_map]

theorem effect_other (h : ∀ d ∈ details, frameKey d.frameNumber ≠ key)
    (hkey : key ∈ attrs → key = "name") : (makeEffect attrs details).metadata[key]? = none := by
  rw [makeEffect,addFrames_other h,initializeEffect,Std.TreeMap.getElem?_erase]
  split
  · rfl
  · rename_i hne
    have hnone : attrs[key]? = none :=
      Std.TreeMap.getElem?_eq_none (fun hin => hne (by simp [hkey hin]))
    rw [Std.TreeMap.getElem?_map,hnone]
    rfl

theorem popItem_value (defaultValue : String)
    (h : dic[key]? = attrs[key]?.map DictionaryItem.string) :
    (popItem dic key defaultValue).1 = attrs.getD key defaultValue := by
  rw [Std.TreeMap.getD_eq_getD_getElem?]
  simp only [popItem,h]
  cases attrs[key]? <;> rfl

theorem erased_other {k : String} (h : k ≠ key) : (dic.erase key)[k]? = dic[k]? := by
  rw [Std.TreeMap.getElem?_erase,if_neg]
  simpa using Ne.symm h

theorem popped_frames {keys : List String} (hdot : ∀ key ∈ keys, '.' ∉ key.toList)
    (hattrs : ∀ key ∈ attrs, key = "name" ∨ key ∈ keys)
    (hd : (details.map (fun d => frameKey d.frameNumber)).Nodup) :
    FrameEntries details (keys.foldl (fun dic key => dic.erase key)
      (makeEffect attrs details).metadata) := by
  have herase : ∀ (keys : List String) (dic : AnyDictionary) (k : String),
      (keys.foldl (fun dic key => dic.erase key) dic)[k]? =
        if k ∈ keys then none else dic[k]? := by
    intro keys
    induction keys with
    | nil => exact fun dic k => rfl
    | cons key keys ih =>
      intro dic k
      rw [List.foldl_cons,ih]
      by_cases hk : k = key
      · subst hk
        simp
      · simp only [List.mem_cons,hk,false_or]
        rw [erased_other hk]
  constructor
  · intro d hm
    rw [herase,if_neg (fun hin => hdot _ hin (dot_mem_frameKey _))]
    exact effect_frame hd hm
  · intro key hkey
    rw [herase]
    split
    · rfl
    · rename_i hnot
      exact effect_other hkey (fun hin => (hattrs key hin).resolve_right hnot)

end Pop

section Effects

variable {host : Host} {rate : ℚ} {attrs : AttrMap} {effectName : String}
  {details : List Detected}

def setOrDefault (effectName : String) (attrs : AttrMap) (key : String) : String :=
  attrs.getD key (FFmpegEffectSpec.effectAttrDefaultValue effectName key)

def EffectCommand.Reads (attr : String → String) (coords : List CoordinateInfo) :
    EffectCommand → Prop
  | .blur _ intensity coordInfo => stoi (attr "intensity") = .ok intensity ∧ coordInfo.Perm coords
  | .box color thickness coordInfo =>
    color = attr "color" ∧ stoi (attr "thickness") = .ok thickness ∧ coordInfo.Perm coords
  | .sticker imgPath coordInfo => imgPath = attr "path" ∧ coordInfo.Perm coords
  | _ => False

def Effect.Decodes (host : Host) (rate : ℚ) (attrs : AttrMap) (details : List Detected)
    (effect : Effect) : Prop :=
  ∃ command, applyEffect host effect.effectName effect.metadata rate = .ok command ∧
    command.Reads (setOrDefault effect.effectName attrs) (recordedCoords rate details)

def integerAttributes (effectName : String) : List String :=
  if effectName == "boxblur" || effectName == "avgblur" then ["intensity"]
  else if effectName == "drawbox" then ["thickness"] else []

def IntegersParse (attrs : AttrMap) : Prop :=
  ∀ key ∈ integerAttributes (attrs.getD "name" ""), ∀ value, attrs[key]? = some value →
    ∃ n, stoi value = .ok n

structure RectEffect (host : Host) (attrs : AttrMap) : Prop where
  rect : FFmpegEffectSpec.inputMetaForm (attrs.getD "name" "") = .ok .rect
  accepted : FFmpegRender.validateEffectAttrs host attrs = .ok ()

theorem rect_effects (h : FFmpegEffectSpec.inputMetaForm effectName = .ok .rect) :
    effectName = "boxblur" ∨ effectName = "avgblur" ∨ effectName = "drawbox" ∨
      effectName = "sticker" := by
  unfold FFmpegEffectSpec.inputMetaForm at h
  split at h
  · rename_i metaForm hl
    obtain rfl := Except.ok.inj h
    obtain ⟨before,after,heq,-⟩ := List.lookup_eq_some_iff.mp hl
    have hmem : (effectName,MetaForm.rect) ∈ FFmpegEffectSpec.metaForms := by
      rw [heq]
      exact List.mem_append_right _ List.mem_cons_self
    simpa [FFmpegEffectSpec.metaForms] using hmem
  · cases h

theorem stoi_setOrDefault {key : String} {n : Int}
    (hdefault : stoi (FFmpegEffectSpec.effectAttrDefaultValue effectName key) = .ok n) :
    (∃ m, stoi (setOrDefault effectName attrs key) = .ok m) ↔
      ∀ value, attrs[key]? = some value → ∃ m, stoi value = .ok m := by
  rw [setOrDefault,Std.TreeMap.getD_eq_getD_getElem?]
  cases h : attrs[key]? with
  | none =>
    refine iff_of_true ⟨n,hdefault⟩ ?_
    intro value he
    cases he
  | some value =>
    refine ⟨fun hm value' he => ?_,fun hall => hall value rfl⟩
    obtain rfl := Option.some_inj.mp he
    exact hm

theorem accepted_keys (h : FFmpegRender.validateEffectAttrs host attrs = .ok ()) :
    ∃ l, FFmpegEffectSpec.attributes.lookup (attrs.getD "name" "") = some l ∧
      ∀ key ∈ attrs, key = "name" ∨ key ∈ l.map AttributeSpec.name := by
  obtain ⟨effectName,l,hname,hl,hkeys⟩ := AttributeValidator.validate_keys h
  refine ⟨l,?_,fun key hkey => (hkeys key hkey).imp_right List.mem_map.mpr⟩
  rw [Std.TreeMap.getD_eq_getD_getElem?,hname]
  exact hl

theorem pop_effect (effectName : String) {key : String} {dic : AnyDictionary}
    (hdot : '.' ∉ key.toList) (hname : key ≠ "name")
    (h : dic[key]? = (makeEffect attrs details).metadata[key]?) :
    pop effectName dic key = (setOrDefault effectName attrs key,dic.erase key) :=
  Prod.ext (popItem_value _ (h.trans (effect_attribute hdot hname))) rfl

section Accepted

variable {dic : AnyDictionary} {coords : List CoordinateInfo}

theorem blur_decodes_iff
    (hpop : pop effectName (makeEffect attrs details).metadata "intensity" =
      (setOrDefault effectName attrs "intensity",dic))
    (hcoords : getCoordInfo host dic rate = .ok coords)
    (hperm : coords.Perm (recordedCoords rate details)) :
    (∃ command, applyBlur host effectName (makeEffect attrs details).metadata rate = .ok command ∧
      command.Reads (setOrDefault effectName attrs) (recordedCoords rate details)) ↔
      ∃ n, stoi (setOrDefault effectName attrs "intensity") = .ok n := by
  rw [applyBlur,hpop]
  simp only [bind,Except.bind]
  cases hn : stoi (setOrDefault effectName attrs "intensity") with
  | error e => simp
  | ok n =>
    simp only [hcoords]
    exact iff_of_true ⟨_,rfl,hn,hperm⟩ ⟨n,rfl⟩

theorem box_decodes_iff {dic₁ : AnyDictionary}
    (hcolor : pop effectName (makeEffect attrs details).metadata "color" =
      (setOrDefault effectName attrs "color",dic₁))
    (hthickness : pop effectName dic₁ "thickness" =
      (setOrDefault effectName attrs "thickness",dic))
    (hcoords : getCoordInfo host dic rate = .ok coords)
    (hperm : coords.Perm (recordedCoords rate details)) :
    (∃ command, applyBox host effectName (makeEffect attrs details).metadata rate = .ok command ∧
      command.Reads (setOrDefault effectName attrs) (recordedCoords rate details)) ↔
      ∃ n, stoi (setOrDefault effectName attrs "thickness") = .ok n := by
  rw [applyBox,hcolor]
  simp only [bind,Except.bind,hthickness]
  cases hn : stoi (setOrDefault effectName attrs "thickness") with
  | error e => simp
  | ok n =>
    simp only [hcoords]
    exact iff_of_true ⟨_,rfl,rfl,hn,hperm⟩ ⟨n,rfl⟩

theorem sticker_decodes
    (hpop : pop effectName (makeEffect attrs details).metadata "path" =
      (setOrDefault effectName attrs "path",dic))
    (hcoords : getCoordInfo host dic rate = .ok coords)
    (hperm : coords.Perm (recordedCoords rate details)) :
    ∃ command, applySticker host effectName (makeEffect attrs details).metadata rate =
        .ok command ∧
      command.Reads (setOrDefault effectName attrs) (recordedCoords rate details) := by
  rw [applySticker,hpop]
  simp only [bind,Except.bind,hcoords]
  exact ⟨_,rfl,rfl,hperm⟩

theorem integersParse_iff {key : String} {n : Int}
    (hname : integerAttributes (attrs.getD "name" "") = [key])
    (hdefault : stoi (FFmpegEffectSpec.effectAttrDefaultValue effectName key) = .ok n) :
    (∃ m, stoi (setOrDefault effectName attrs key) = .ok m) ↔ IntegersParse attrs := by
  rw [stoi_setOrDefault hdefault,IntegersParse,hname,List.forall_mem_singleton]

theorem blur_effect_decodes_iff (he : effectName = "boxblur" ∨ effectName = "avgblur")
    (hname : attrs.getD "name" "" = effectName)
    (hkeys : ∀ key ∈ attrs, key = "name" ∨ key ∈ ["intensity"]) (hs : host.StofExact details)
    (hd : RectFrames details) :
    (makeEffect attrs details).Decodes host rate attrs details ↔ IntegersParse attrs := by
  have hframes := popped_frames (by decide) hkeys (frameKeys_nodup hs hd)
  obtain ⟨coords,hcoords,hperm⟩ := getCoordInfo_frames rate hs hd hframes
  have hpop := pop_effect effectName (by decide) (by decide)
    (Eq.refl ((makeEffect attrs details).metadata["intensity"]?))
  have happly : applyEffect host effectName = applyBlur host effectName := by
    rcases he with rfl | rfl <;> rfl
  have hdefault : stoi (FFmpegEffectSpec.effectAttrDefaultValue effectName "intensity") =
      .ok 10 := by
    rcases he with rfl | rfl <;> decide
  have hinteger : integerAttributes (attrs.getD "name" "") = ["intensity"] := by
    rw [hname]
    rcases he with rfl | rfl <;> decide
  have heffect : (makeEffect attrs details).effectName = effectName := hname
  rw [Effect.Decodes,heffect,happly,blur_decodes_iff hpop hcoords hperm,
    integersParse_iff hinteger hdefault]

theorem box_effect_decodes_iff (hname : attrs.getD "name" "" = "drawbox")
    (hkeys : ∀ key ∈ attrs, key = "name" ∨ key ∈ ["color","thickness"])
    (hs : host.StofExact details) (hd : RectFrames details) :
    (makeEffect attrs details).Decodes host rate attrs details ↔ IntegersParse attrs := by
  have hframes := popped_frames (by decide) hkeys (frameKeys_nodup hs hd)
  obtain ⟨coords,hcoords,hperm⟩ := getCoordInfo_frames rate hs hd hframes
  have hcolor := pop_effect "drawbox" (by decide) (by decide)
    (Eq.refl ((makeEffect attrs details).metadata["color"]?))
  have hthickness : pop "drawbox" ((makeEffect attrs details).metadata.erase "color") "thickness" =
      (setOrDefault "drawbox" attrs "thickness",_) :=
    pop_effect "drawbox" (by decide) (by decide) (erased_other (by decide))
  have happly : applyEffect host "drawbox" = applyBox host "drawbox" := rfl
  have hinteger : integerAttributes (attrs.getD "name" "") = ["thickness"] := by
    rw [hname]
    decide
  have heffect : (makeEffect attrs details).effectName = "drawbox" := hname
  rw [Effect.Decodes,heffect,happly,box_decodes_iff hcolor hthickness hcoords hperm,
    integersParse_iff (n := 3) hinteger (by decide)]

theorem sticker_effect_decodes_iff (hname : attrs.getD "name" "" = "sticker")
    (hkeys : ∀ key ∈ attrs, key = "name" ∨ key ∈ ["path"]) (hs : host.StofExact details)
    (hd : RectFrames details) :
    (makeEffect attrs details).Decodes host rate attrs details ↔ IntegersParse attrs := by
  have hframes := popped_frames (by decide) hkeys (frameKeys_nodup hs hd)
  obtain ⟨coords,hcoords,hperm⟩ := getCoordInfo_frames rate hs hd hframes
  have hpop := pop_effect "sticker" (by decide) (by decide)
    (Eq.refl ((makeEffect attrs details).metadata["path"]?))
  have happly : applyEffect host "sticker" = applySticker host "sticker" := rfl
  have heffect : (makeEffect attrs details).effectName = "sticker" := hname
  have hinteger : integerAttributes (attrs.getD "name" "") = [] := by
    rw [hname]
    decide
  refine iff_of_true ?_ ?_
  · rw [Effect.Decodes,heffect,happly]
    exact sticker_decodes hpop hcoords hperm
  · rw [IntegersParse,hinteger]
    exact List.forall_mem_nil _

theorem effect_decodes_iff (hr : RectEffect host attrs) (hs : host.StofExact details)
    (hd : RectFrames details) :
    (makeEffect attrs details).Decodes host rate attrs details ↔ IntegersParse attrs := by
  obtain ⟨l,hl,hkeys⟩ := accepted_keys hr.accepted
  rcases rect_effects hr.rect with he | he | he | he
  · rw [he] at hl
    obtain rfl := Option.some_inj.mp hl
    exact blur_effect_decodes_iff (.inl rfl) he hkeys hs hd
  · rw [he] at hl
    obtain rfl := Option.some_inj.mp hl
    exact blur_effect_decodes_iff (.inr rfl) he hkeys hs hd
  · rw [he] at hl
    obtain rfl := Option.some_inj.mp hl
    exact box_effect_decodes_iff he hkeys hs hd
  · rw [he] at hl
    obtain rfl := Option.some_inj.mp hl
    exact sticker_effect_decodes_iff he hkeys hs hd

end Accepted

end Effects

section Collection

variable {host : Host} {rate : ℚ} {pm : PluginManager} {effectInfo : String → AttrMap}
  {collection : SortedCollection}

structure RectCollection (host : Host) (pm : PluginManager) (effectInfo : String → AttrMap)
    (collection : SortedCollection) : Prop where
  loaded : ∀ item ∈ collection.toList, pm.isEffect item.1 = true
  effects : ∀ item ∈ collection.toList, RectEffect host (effectInfo item.1)
  frames : ∀ item ∈ collection.toList, RectFrames item.2
  stof : ∀ item ∈ collection.toList, host.StofExact item.2

def MetadataDecodes (host : Host) (rate : ℚ) (pm : PluginManager)
    (effectInfo : String → AttrMap) (collection : SortedCollection) : Prop :=
  ∃ effects, makeEffectList pm (fun uid => .ok (effectInfo uid)) collection = .ok effects ∧
    List.Forall₂ (fun item effect => effect.Decodes host rate (effectInfo item.1) item.2)
      collection.toList effects

theorem makeEffectList_eq (h : RectCollection host pm effectInfo collection) :
    makeEffectList pm (fun uid => .ok (effectInfo uid)) collection =
      .ok (collection.toList.map (fun item => makeEffect (effectInfo item.1) item.2)) := by
  refine Checks.mapM_ok (fun item hm => ?_)
  obtain ⟨plugin,hf,he⟩ := exists_find_of_isEffect (h.loaded item hm)
  simp only [effectOf,hf,he,if_true]

theorem metadataDecodes_iff_effects (rate : ℚ)
    (h : RectCollection host pm effectInfo collection) :
    MetadataDecodes host rate pm effectInfo collection ↔ ∀ item ∈ collection.toList,
      (makeEffect (effectInfo item.1) item.2).Decodes host rate (effectInfo item.1) item.2 := by
  rw [MetadataDecodes,makeEffectList_eq h]
  constructor
  · rintro ⟨effects,he,hall⟩
    obtain rfl := Except.ok.inj he
    rwa [List.forall₂_map_right_iff,List.forall₂_same] at hall
  · intro hall
    refine ⟨_,rfl,?_⟩
    rwa [List.forall₂_map_right_iff,List.forall₂_same]

theorem metadata_decodes_iff (rate : ℚ) (h : RectCollection host pm effectInfo collection) :
    MetadataDecodes host rate pm effectInfo collection ↔
      ∀ item ∈ collection.toList, IntegersParse (effectInfo item.1) := by
  rw [metadataDecodes_iff_effects rate h]
  refine forall₂_congr (fun item hm => ?_)
  exact effect_decodes_iff (h.effects item hm) (h.stof item hm) (h.frames item hm)

end Collection

section Sample

def sampleHost : Host where
  stof := fun s =>
    if s == "5.000000" then .ok (.number 5)
    else if s == "12.000000" then .ok (.number 12) else .error .other
  readable := fun _ => false

def markerPlugins : PluginManager := PluginManager.empty.load 0 "VideoEffectMarker" ⟨.videoEffect⟩

def boxedFaces : SortedCollection :=
  {("VideoEffectMarker.1",[⟨5,[.rect 10 20 30 40]⟩,⟨12,[.rect 1 2 3 4,.rect 5 6 7 8]⟩])}

def drawbox (thickness : String) : AttrMap := {("name","drawbox"),("thickness",thickness)}

theorem boxedFaces_toList : boxedFaces.toList =
    [("VideoEffectMarker.1",[⟨5,[.rect 10 20 30 40]⟩,⟨12,[.rect 1 2 3 4,.rect 5 6 7 8]⟩])] := rfl

theorem boxedFaces_collection {thickness : String}
    (hr : RectEffect sampleHost (drawbox thickness)) :
    RectCollection sampleHost markerPlugins (fun _ => drawbox thickness) boxedFaces := by
  constructor
  · rw [boxedFaces_toList,List.forall_mem_singleton]
    decide
  · exact fun _ _ => hr
  · rw [boxedFaces_toList,List.forall_mem_singleton]
    constructor <;> decide
  · rw [boxedFaces_toList,List.forall_mem_singleton]
    intro d hd
    simp only [List.mem_cons,List.not_mem_nil,or_false] at hd
    rcases hd with rfl | rfl <;> rfl

theorem drawbox_accepted : RectEffect sampleHost (drawbox "7") := by
  constructor <;> decide

theorem metadata_decodes_iff_boxedFaces :
    MetadataDecodes sampleHost 30 markerPlugins (fun _ => drawbox "7") boxedFaces ↔
      ∀ item ∈ boxedFaces.toList, IntegersParse (drawbox "7") :=
  metadata_decodes_iff 30 (boxedFaces_collection drawbox_accepted)

theorem wordThickness_accepted : RectEffect sampleHost (drawbox "abc") := by
  constructor <;> decide

theorem wordThickness_lost :
    RectCollection sampleHost markerPlugins (fun _ => drawbox "abc") boxedFaces ∧
      ¬ MetadataDecodes sampleHost 30 markerPlugins (fun _ => drawbox "abc") boxedFaces := by
  have hc := boxedFaces_collection wordThickness_accepted
  refine ⟨hc,fun h => ?_⟩
  rw [metadataDecodes_iff_effects 30 hc,boxedFaces_toList,List.forall_mem_singleton] at h
  obtain ⟨command,hcommand,-⟩ := h
  have hraises : applyEffect sampleHost "drawbox"
      (makeEffect (drawbox "abc")
        [⟨5,[.rect 10 20 30 40]⟩,⟨12,[.rect 1 2 3 4,.rect 5 6 7 8]⟩]).metadata 30 =
      .error .other := rfl
  cases hraises.symm.trans hcommand

end Sample

end Ovi
