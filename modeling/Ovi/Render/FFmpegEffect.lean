import Ovi.Render.RoundTo
import Ovi.Range.DataAnalyzer

namespace Ovi

namespace FFmpegEffectSpec

def blurAttributes : List AttributeSpec := [⟨"intensity",false,"10",some (inRange 0 19)⟩]

def attributes : AttributesSpecMap :=
  [("boxblur",blurAttributes),
    ("avgblur",blurAttributes),
    ("drawbox",[⟨"color",false,"green",none⟩,⟨"thickness",false,"3",none⟩]),
    ("contrast",[⟨"value",false,"1.0",some (inRange (-1000) 1000)⟩]),
    ("brightness",[⟨"value",false,"0.0",some (inRange (-1) 1)⟩]),
    ("saturation",[⟨"value",false,"1.0",some (inRange 0 3)⟩]),
    ("drawtext",[⟨"fontcolor",false,"black",none⟩,⟨"fontsize",false,"16",none⟩,
      ⟨"x",false,"0",none⟩,⟨"y",false,"0",none⟩]),
    ("sticker",[⟨"path",true,"",some (fun host s => .ok (host.readable s))⟩]),
    ("volume",[⟨"volume",false,"1.0",none⟩])]

def effectAttrDefaultValue (effectName attrName : String) : String :=
  match attributes.lookup effectName with
  | none => ""
  | some attrs =>
    match attrs.find? (fun attr => attr.name == attrName) with
    | none => ""
    | some found => found.defaultValue

def metaForms : List (String × MetaForm) :=
  [("boxblur",.rect),("avgblur",.rect),("drawbox",.rect),("drawtext",.any),("sticker",.rect),
    ("brightness",.none),("contrast",.none),("saturation",.none),("volume",.double)]

-- the code of the exception is `METAFORM_NONE`
def inputMetaForm (effectName : String) : Except Exn MetaForm :=
  match metaForms.lookup effectName with
  | some metaForm => .ok metaForm
  | none => .error (.ovi 0)

end FFmpegEffectSpec

def FFmpegRender.validateEffectAttrs (host : Host) (attrs : AttrMap) : Except Exn Unit :=
  AttributeValidator.validate host FFmpegEffectSpec.attributes attrs

theorem attributes_validate {effectName : String} {l : List AttributeSpec} {spec : AttributeSpec}
    {validate : Host → String → Except Exn Bool} {host : Host} {value : String} {e : Exn}
    (hl : FFmpegEffectSpec.attributes.lookup effectName = some l) (hs : spec ∈ l)
    (hvalidate : spec.validateFunc = some validate) (he : validate host value = .error e) :
    host.stof value = .error e := by
  have hrange : ∀ low high, inRange low high host value = .error e →
      host.stof value = .error e := by
    intro low high h
    unfold inRange at h
    cases hf : host.stof value with
    | error e' =>
      rw [hf] at h
      exact congrArg Except.error (Except.error.inj h)
    | ok number =>
      rw [hf] at h
      cases h
  obtain ⟨before,after,heq,-⟩ := List.lookup_eq_some_iff.mp hl
  have hmem : (effectName,l) ∈ FFmpegEffectSpec.attributes := by
    rw [heq]
    exact List.mem_append_right _ List.mem_cons_self
  have hall : ∀ p ∈ FFmpegEffectSpec.attributes, ∀ spec ∈ p.2,
      spec.validateFunc = none ∨ (∃ low high, spec.validateFunc = some (inRange low high)) ∨
        spec.validateFunc = some (fun host s => .ok (host.readable s)) := by
    simp [FFmpegEffectSpec.attributes,FFmpegEffectSpec.blurAttributes]
  rcases hall _ hmem spec hs with h | ⟨low,high,h⟩ | h
  · rw [hvalidate] at h
    cases h
  · obtain rfl := Option.some_inj.mp (hvalidate.symm.trans h)
    exact hrange low high he
  · obtain rfl := Option.some_inj.mp (hvalidate.symm.trans h)
    cases he

theorem validateEffectAttrs_error {host : Host} {attrs : AttrMap} {e : Exn}
    (h : FFmpegRender.validateEffectAttrs host attrs = .error e) :
    (∃ error, e = .ovi error ∧ error ≠ oviErrorNone) ∨
      ∃ key value : String, attrs[key]? = some value ∧ host.stof value = .error e := by
  rcases AttributeValidator.validate_error h with he | ⟨effectName,l,hl,hraised⟩
  · left
    simp only [List.mem_cons,List.not_mem_nil,or_false] at he
    rcases he with rfl | rfl | rfl | rfl <;> exact ⟨_,rfl,by decide⟩
  · obtain ⟨spec,hs,validate,value,hvalidate,hvalue,he⟩ := hraised
    exact .inr ⟨spec.name,value,hvalue,attributes_validate hl hs hvalidate he⟩

inductive AnyValue where
  | string (value : String)
  | double (value : ℚ)
deriving DecidableEq, Repr

abbrev AnyVector := List (Std.TreeMap String AnyValue)

inductive DictionaryItem where
  | string (value : String)
  | vector (value : AnyVector)

abbrev AnyDictionary := Std.TreeMap String DictionaryItem

structure Effect where
  effectName : String
  metadata : AnyDictionary

-- `std::to_string` of a `double` that is an integer
def frameKey (frameNumber : Int) : String := toString frameNumber ++ ".000000"

-- a `bool` is visited as the `double` it converts to
def visitorAddItem : DetailsItem → Std.TreeMap String AnyValue
  | .rect x y width height =>
    {("x",.double x),("y",.double y),("width",.double width),("height",.double height)}
  | .rectTag x y width height tag =>
    {("x",.double x),("y",.double y),("width",.double width),("height",.double height),
      ("tag",.string tag)}
  | .double value => {("value",.double value)}
  | .bool value => {("value",.double (if value then 1 else 0))}

namespace RenderTask

def fillFrameEffect (list : Details) : AnyVector := list.map visitorAddItem

def initializeEffect (infoList : AttrMap) : Effect where
  effectName := infoList.getD "name" ""
  metadata := (infoList.map (fun _ value => DictionaryItem.string value)).erase "name"

def addFrame (dic : AnyDictionary) (detected : Detected) : AnyDictionary :=
  dic.insert (frameKey detected.frameNumber) (.vector (fillFrameEffect detected.list))

def makeEffect (infoList : AttrMap) (details : List Detected) : Effect :=
  { initializeEffect infoList with
    metadata := details.foldl addFrame (initializeEffect infoList).metadata }

-- only an effect plugin is an `IPluginEffect`, so the assertion fails for every other type
def effectOf (pm : PluginManager) (effectInfo : String → Except Exn AttrMap)
    (item : String × List Detected) : Except Fault Effect :=
  match pm.find item.1 with
  | none => .error (.raised (.ovi oviErrorInvalidParameter))
  | some plugin =>
    if isEffectType plugin then
      match effectInfo item.1 with
      | .error e => .error (.raised e)
      | .ok infoList => .ok (makeEffect infoList item.2)
    else .error .undefined

def makeEffectList (pm : PluginManager) (effectInfo : String → Except Exn AttrMap)
    (collection : SortedCollection) : Except Fault (List Effect) :=
  collection.toList.mapM (effectOf pm effectInfo)

end RenderTask

structure Timeline where
  startSec : CFloat
  endSec : CFloat
deriving DecidableEq, Repr

structure CoordinateInfo where
  x : ℚ
  y : ℚ
  w : ℚ
  h : ℚ
  time : Timeline
deriving DecidableEq, Repr

-- before `__strConverter` prints it
structure StringInfo where
  value : Option AnyValue
  time : Timeline
deriving DecidableEq, Repr

inductive EffectCommand where
  | blur (blurName : String) (intensity : Int) (coordInfo : List CoordinateInfo)
  | box (color : String) (thickness : Int) (coordInfo : List CoordinateInfo)
  | eq (effectName : String) (effectValue : CFloat) (timeInfo : List Timeline)
  | text (fontColor fontSize : String) (x y : Int) (strInfo : List StringInfo)
  | sticker (imgPath : String) (coordInfo : List CoordinateInfo)
  | volume (volume : CFloat) (timeInfo : List Timeline)
  | unsupported
deriving DecidableEq, Repr

namespace FFmpegEffect

def popItem (metadata : AnyDictionary) (key defaultValue : String) : String × AnyDictionary :=
  let value := match metadata[key]? with
    | some (.string value) => value
    | _ => defaultValue
  (value,metadata.erase key)

-- `RationalTime(value, rate).to_seconds()`, before the quotient is rounded to a `double`
def toSeconds (rate : ℚ) : CFloat → CFloat
  | .number value => .number (value / rate)
  | other => other

-- the sum of a `float` and an `int` is a `float`
def addOne : CFloat → CFloat
  | .number value => .number (roundTo .binary32 (value + 1))
  | other => other

def timeLine (host : Host) (rate : ℚ) (key : String) : Except Exn Timeline := do
  let frame ← host.stof key
  .ok ⟨toSeconds rate frame,toSeconds rate (addOne frame)⟩

-- `bad_any_cast` is no `ovi::Exception`
def castVector : DictionaryItem → Except Exn AnyVector
  | .vector value => .ok value
  | .string _ => .error .other

def castDouble (rect : Std.TreeMap String AnyValue) (key : String) : Except Exn ℚ :=
  match rect[key]? with
  | some (.double value) => .ok value
  | _ => .error .other

def coordinate (time : Timeline) (rect : Std.TreeMap String AnyValue) :
    Except Exn CoordinateInfo := do
  let x ← castDouble rect "x"
  let y ← castDouble rect "y"
  let width ← castDouble rect "width"
  let height ← castDouble rect "height"
  .ok ⟨x,y,width,height,time⟩

def coordEntry (host : Host) (rate : ℚ) (entry : String × DictionaryItem) :
    Except Exn (List CoordinateInfo) := do
  let time ← timeLine host rate entry.1
  let rects ← castVector entry.2
  rects.mapM (coordinate time)

def getCoordInfo (host : Host) (metadata : AnyDictionary) (rate : ℚ) :
    Except Exn (List CoordinateInfo) :=
  (metadata.toList.mapM (coordEntry host rate)).map List.flatten

def stringEntry (host : Host) (rate : ℚ) (entry : String × DictionaryItem) :
    Except Exn (List StringInfo) := do
  let time ← timeLine host rate entry.1
  let values ← castVector entry.2
  .ok (values.map (fun value => ⟨value["value"]?,time⟩))

def getConvertedStringInfo (host : Host) (metadata : AnyDictionary) (rate : ℚ) :
    Except Exn (List StringInfo) :=
  (metadata.toList.mapM (stringEntry host rate)).map List.flatten

def getTimeline (host : Host) (metadata : AnyDictionary) (rate : ℚ) :
    Except Exn (List Timeline) :=
  metadata.toList.mapM (fun entry => timeLine host rate entry.1)

def pop (effectName : String) (metadata : AnyDictionary) (key : String) :
    String × AnyDictionary :=
  popItem metadata key (FFmpegEffectSpec.effectAttrDefaultValue effectName key)

def applyBlur (host : Host) (effectName : String) (metadata : AnyDictionary) (rate : ℚ) :
    Except Exn EffectCommand := do
  let (intensity,metadata) := pop effectName metadata "intensity"
  let intensity ← stoi intensity
  let coordInfo ← getCoordInfo host metadata rate
  .ok (.blur effectName intensity coordInfo)

def applyEq (host : Host) (effectName : String) (metadata : AnyDictionary) (rate : ℚ) :
    Except Exn EffectCommand := do
  let (value,metadata) := pop effectName metadata "value"
  let value ← host.stof value
  let timeInfo ← getTimeline host metadata rate
  .ok (.eq effectName value timeInfo)

def applyBox (host : Host) (effectName : String) (metadata : AnyDictionary) (rate : ℚ) :
    Except Exn EffectCommand := do
  let (color,metadata) := pop effectName metadata "color"
  let (thickness,metadata) := pop effectName metadata "thickness"
  let thickness ← stoi thickness
  let coordInfo ← getCoordInfo host metadata rate
  .ok (.box color thickness coordInfo)

def applyText (host : Host) (effectName : String) (metadata : AnyDictionary) (rate : ℚ) :
    Except Exn EffectCommand := do
  let (fontcolor,metadata) := pop effectName metadata "fontcolor"
  let (fontsize,metadata) := pop effectName metadata "fontsize"
  let (x,metadata) := pop effectName metadata "x"
  let x ← stoi x
  let (y,metadata) := pop effectName metadata "y"
  let y ← stoi y
  let strInfo ← getConvertedStringInfo host metadata rate
  .ok (.text fontcolor fontsize x y strInfo)

def applySticker (host : Host) (effectName : String) (metadata : AnyDictionary) (rate : ℚ) :
    Except Exn EffectCommand := do
  let (imgPath,metadata) := pop effectName metadata "path"
  let coordInfo ← getCoordInfo host metadata rate
  .ok (.sticker imgPath coordInfo)

def applyVolume (host : Host) (effectName : String) (metadata : AnyDictionary) (rate : ℚ) :
    Except Exn EffectCommand := do
  let (volume,metadata) := pop effectName metadata "volume"
  let volume ← host.stof volume
  let timeInfo ← getTimeline host metadata rate
  .ok (.volume volume timeInfo)

def applyEffect (host : Host) (effectName : String) (metadata : AnyDictionary) (rate : ℚ) :
    Except Exn EffectCommand :=
  if effectName == "boxblur" || effectName == "avgblur" then
    applyBlur host effectName metadata rate
  else if effectName == "drawbox" then applyBox host effectName metadata rate
  else if effectName == "brightness" then applyEq host effectName metadata rate
  else if effectName == "contrast" then applyEq host effectName metadata rate
  else if effectName == "saturation" then applyEq host effectName metadata rate
  else if effectName == "drawtext" then applyText host effectName metadata rate
  else if effectName == "sticker" then applySticker host effectName metadata rate
  else if effectName == "volume" then applyVolume host effectName metadata rate
  else .ok .unsupported

end FFmpegEffect

end Ovi
