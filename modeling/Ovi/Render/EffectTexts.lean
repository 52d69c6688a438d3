import Mathlib.Data.Bool.AllAny
import Ovi.Library.QuotedFields
import Ovi.Render.CmdGenerator

namespace Ovi

namespace CmdGenerator

def between (time : Timeline) : String :=
  "between(t," ++ formatDouble time.startSec ++ "," ++ formatDouble time.endSec ++ ")"

def writeChain {α : Type} (segment : α → String) (size : Nat) : Nat → List α → String
  | _,[] => ""
  | i,item :: items => snprintf 256 (segment item) ++ (if i ≠ size - 1 then "," else "") ++
      writeChain segment size (i + 1) items

def writeTimes : Nat → List Timeline → String
  | _,[] => ""
  | i,time :: timeInfo =>
    snprintf 256 (if i = 0 then between time else "+" ++ between time) ++
      writeTimes (i + 1) timeInfo

def boxSegment (color : String) (thickness : Int) (c : CoordinateInfo) : String :=
  "drawbox=x=" ++ formatDouble (.number c.x) ++ ":y=" ++ formatDouble (.number c.y) ++
    ":w=" ++ formatDouble (.number c.w) ++ ":h=" ++ formatDouble (.number c.h) ++ ":enable='" ++
    between c.time ++ "':c=" ++ color ++ ":t=" ++ toString thickness

def boxText (color : String) (thickness : Int) (coordInfo : List CoordinateInfo) : String :=
  writeChain (boxSegment color thickness) coordInfo.length 0 coordInfo

def eqText (effectName : String) (effectValue : CFloat) (timeInfo : List Timeline) : String :=
  "eq=" ++ snprintf 256 (effectName ++ "=" ++ formatDouble effectValue ++ ":") ++ "enable='" ++
    writeTimes 0 timeInfo ++ "'"

-- `__strConverter`; what is not there is of no type it knows
def strConverter : Option AnyValue → String
  | none => ""
  | some (.string value) => value
  | some (.double value) => formatDouble (.number value)

def textSegment (fontColor fontSize : String) (x y : Int) (s : StringInfo) : String :=
  "drawtext=text=" ++ strConverter s.value ++ ":enable='" ++ between s.time ++
    "':fontcolor=" ++ fontColor ++ ":fontsize=" ++ fontSize ++ ":x=" ++ toString x ++ ":y=" ++
    toString y

def textText (fontColor fontSize : String) (x y : Int) (strInfo : List StringInfo) : String :=
  writeChain (textSegment fontColor fontSize x y) strInfo.length 0 strInfo

def volumeText (volume : CFloat) (timeInfo : List Timeline) : String :=
  "volume=" ++ snprintf 256 ("volume=" ++ formatDouble volume ++ ":") ++ "enable='" ++
    writeTimes 0 timeInfo ++ "'"

end CmdGenerator

open CmdGenerator QuotedFields

namespace EffectCommand

def boxFilter (color : String) (thickness : Int) (c : CoordinateInfo) : Filter where
  name := "drawbox"
  settings := [("x",.plain (formatDouble (.number c.x))),("y",.plain (formatDouble (.number c.y))),
    ("w",.plain (formatDouble (.number c.w))),("h",.plain (formatDouble (.number c.h))),
    ("enable",.quoted (between c.time)),("c",.plain color),("t",.plain (toString thickness))]

def textFilter (fontColor fontSize : String) (x y : Int) (s : StringInfo) : Filter where
  name := "drawtext"
  settings := [("text",.plain (strConverter s.value)),("enable",.quoted (between s.time)),
    ("fontcolor",.plain fontColor),("fontsize",.plain fontSize),("x",.plain (toString x)),
    ("y",.plain (toString y))]

def enabled (timeInfo : List Timeline) : String :=
  String.ofList (joined '+' (timeInfo.map fun time => (between time).toList))

def switched (name key : String) (value : CFloat) (timeInfo : List Timeline) : Filter where
  name := name
  settings := [(key,.plain (formatDouble value)),("enable",.quoted (enabled timeInfo))]

def filters : EffectCommand → List Filter
  | .box color thickness coordInfo => coordInfo.map (boxFilter color thickness)
  | .eq effectName effectValue timeInfo => [switched "eq" effectName effectValue timeInfo]
  | .text fontColor fontSize x y strInfo => strInfo.map (textFilter fontColor fontSize x y)
  | .volume level timeInfo => [switched "volume" "volume" level timeInfo]
  | _ => []

def filterText : EffectCommand → String
  | .box color thickness coordInfo => boxText color thickness coordInfo
  | .eq effectName effectValue timeInfo => eqText effectName effectValue timeInfo
  | .text fontColor fontSize x y strInfo => textText fontColor fontSize x y strInfo
  | .volume level timeInfo => volumeText level timeInfo
  | _ => ""

def readBetween (part : List Char) : Option (String × String) :=
  if "between(t,".toList.isPrefixOf part then
    match split ',' false (part.drop 10) with
    | [startSec,endSec] =>
      if endSec.getLast? = some ')' then
        some (String.ofList startSec,String.ofList endSec.dropLast)
      else none
    | _ => none
  else none

def readTimes (s : String) : Option (List (String × String)) :=
  (split '+' false s.toList).mapM readBetween

def timed (f : String × List (String × String)) :
    Option (String × List (String × String) × List (String × String)) := do
  let enable ← f.2.lookup "enable"
  let times ← readTimes enable
  some (f.1,f.2.filter (fun setting => setting.1 ≠ "enable"),times)

def readTimed (s : String) :
    Option (List (String × List (String × String) × List (String × String))) := do
  let filters ← readChain s
  filters.mapM timed

def shown (timeInfo : List Timeline) : List (String × String) :=
  timeInfo.map fun time => (formatDouble time.startSec,formatDouble time.endSec)

def asked : EffectCommand → List (String × List (String × String) × List (String × String))
  | .box color thickness coordInfo => coordInfo.map fun c =>
    ("drawbox",[("x",formatDouble (.number c.x)),("y",formatDouble (.number c.y)),
      ("w",formatDouble (.number c.w)),("h",formatDouble (.number c.h)),("c",color),
      ("t",toString thickness)],shown [c.time])
  | .eq effectName effectValue timeInfo =>
    [("eq",[(effectName,formatDouble effectValue)],shown timeInfo)]
  | .text fontColor fontSize x y strInfo => strInfo.map fun s =>
    ("drawtext",[("text",strConverter s.value),("fontcolor",fontColor),("fontsize",fontSize),
      ("x",toString x),("y",toString y)],shown [s.time])
  | .volume level timeInfo => [("volume",[("volume",formatDouble level)],shown timeInfo)]
  | _ => []

-- what the shell reads in double quotes, and where a C string ends
def shellSpecial : List Char := ['"','$','\\',Char.ofNat 96,Char.ofNat 0]

def Clean (text : String) : Prop :=
  (Value.plain text).Fine ∧ Free shellSpecial text.toList

instance (text : String) : Decidable (Clean text) :=
  inferInstanceAs (Decidable ((Value.plain text).Fine ∧ Free shellSpecial text.toList))

def Fine : EffectCommand → Prop
  | .box color thickness coordInfo => coordInfo ≠ [] ∧ Clean color ∧
    ∀ c ∈ coordInfo, byteLength (boxSegment color thickness c) < 256
  | .eq effectName effectValue timeInfo => timeInfo ≠ [] ∧
    (Word effectName ∧ effectName ≠ "enable") ∧
    byteLength (effectName ++ "=" ++ formatDouble effectValue ++ ":") < 256 ∧
    ∀ time ∈ timeInfo, byteLength (between time) < 255
  | .text fontColor fontSize x y strInfo => strInfo ≠ [] ∧ (Clean fontColor ∧ Clean fontSize) ∧
    ∀ s ∈ strInfo, Clean (strConverter s.value) ∧
      byteLength (textSegment fontColor fontSize x y s) < 256
  | .volume level timeInfo => timeInfo ≠ [] ∧
    byteLength ("volume=" ++ formatDouble level ++ ":") < 256 ∧
    ∀ time ∈ timeInfo, byteLength (between time) < 255
  | _ => False

end EffectCommand

section Written

open EffectCommand

theorem between_single (time : Timeline) : enabled [time] = between time := String.ofList_toList

theorem writeChain_written {α : Type} {segment : α → String} {filter : α → Filter}
    {items : List α} {size i : Nat} (hsize : i + items.length = size)
    (hfit : ∀ item ∈ items, byteLength (segment item) < 256)
    (hwritten : ∀ item ∈ items, (segment item).toList = (filter item).written) :
    (writeChain segment size i items).toList = chainWritten (items.map filter) := by
  induction items generalizing i with
  | nil => rfl
  | cons item items ih =>
    obtain ⟨hfirst,hfits⟩ := List.forall_mem_cons.mp hfit
    obtain ⟨htext,htexts⟩ := List.forall_mem_cons.mp hwritten
    rw [List.length_cons] at hsize
    have hrest := ih (by omega : i + 1 + items.length = size) hfits htexts
    rw [writeChain,snprintf_fits hfirst,String.toList_append,String.toList_append,htext,hrest]
    cases items with
    | nil =>
      rw [if_neg (by rw [List.length_nil] at hsize; omega)]
      exact (List.append_nil _).trans (List.append_nil _)
    | cons next items =>
      rw [if_pos (by rw [List.length_cons] at hsize; omega),List.append_assoc]
      rfl

theorem writeTimes_later {times : List Timeline} {i : Nat}
    (hfit : ∀ time ∈ times, byteLength (between time) < 255) :
    (writeTimes (i + 1) times).toList =
      (times.map fun time => (between time).toList).flatMap (List.cons '+') := by
  induction times generalizing i with
  | nil => rfl
  | cons time times ih =>
    obtain ⟨hfirst,hfits⟩ := List.forall_mem_cons.mp hfit
    have hlength : byteLength ("+" ++ between time) < 256 := by
      rw [byteLength_append]
      have : byteLength "+" = 1 := by decide
      omega
    rw [writeTimes,if_neg (Nat.succ_ne_zero i),snprintf_fits hlength,String.toList_append,ih hfits,
      String.toList_append]
    rfl

theorem writeTimes_enabled {times : List Timeline}
    (hfit : ∀ time ∈ times, byteLength (between time) < 255) :
    (writeTimes 0 times).toList = (enabled times).toList := by
  rw [enabled,String.toList_ofList]
  cases times with
  | nil => rfl
  | cons time times =>
    obtain ⟨hfirst,hfits⟩ := List.forall_mem_cons.mp hfit
    rw [writeTimes,if_pos rfl,snprintf_fits (by omega),String.toList_append,
      writeTimes_later hfits,List.map_cons,joined_flatMap]

theorem between_toList (time : Timeline) : (between time).toList = "between(t,".toList ++
    ((formatDouble time.startSec).toList ++
      ',' :: ((formatDouble time.endSec).toList ++ [')'])) := by
  simp only [between,String.toList_append,List.append_assoc]
  rfl

theorem mem_between {time : Timeline} {c : Char} (hc : c ∈ (between time).toList) :
    c.isAlphanum = true ∨ c ∈ ['.','-','(',')',','] := by
  have hnumber : ∀ x : CFloat, c ∈ (formatDouble x).toList →
      c.isAlphanum = true ∨ c ∈ ['.','-','(',')',','] := by
    intro x hx
    refine (numeric_formatDouble x c hx).imp_right fun h => ?_
    simp only [List.mem_cons,List.not_mem_nil,or_false] at h
    rcases h with rfl | rfl <;> decide
  rw [between_toList,List.mem_append,List.mem_append,List.mem_cons,List.mem_append] at hc
  rcases hc with hc | hc | rfl | hc | hc
  · have hopens : ∀ c ∈ "between(t,".toList,
        c.isAlphanum = true ∨ c ∈ ['.','-','(',')',','] :=
      List.all_iff_forall_prop.mp (by decide)
    exact hopens c hc
  · exact hnumber _ hc
  · decide
  · exact hnumber _ hc
  · obtain rfl := List.mem_singleton.mp hc
    decide

theorem mem_enabled {times : List Timeline} {c : Char} (hc : c ∈ (enabled times).toList) :
    c.isAlphanum = true ∨ c ∈ ['+','.','-','(',')',','] := by
  rw [enabled,String.toList_ofList] at hc
  refine joined_forall (P := fun c => c.isAlphanum = true ∨ c ∈ ['+','.','-','(',')',','])
    (by decide) (fun part hpart c hc => ?_) c hc
  obtain ⟨time,_,rfl⟩ := List.mem_map.mp hpart
  exact (mem_between hc).imp_right (List.mem_cons_of_mem _)

theorem box_written (x y w h enable color thickness : String) :
    ("drawbox=x=" ++ x ++ ":y=" ++ y ++ ":w=" ++ w ++ ":h=" ++ h ++ ":enable='" ++ enable ++
      "':c=" ++ color ++ ":t=" ++ thickness).toList =
    Filter.written ⟨"drawbox",[("x",.plain x),("y",.plain y),("w",.plain w),("h",.plain h),
      ("enable",.quoted enable),("c",.plain color),("t",.plain thickness)]⟩ := by
  simp only [Filter.written,settingWritten,Value.written,List.map_cons,List.map_nil,joined,
    String.toList_append,List.append_assoc,List.cons_append,List.nil_append]
  rfl

theorem text_written (text enable fontColor fontSize x y : String) :
    ("drawtext=text=" ++ text ++ ":enable='" ++ enable ++ "':fontcolor=" ++ fontColor ++
      ":fontsize=" ++ fontSize ++ ":x=" ++ x ++ ":y=" ++ y).toList =
    Filter.written ⟨"drawtext",[("text",.plain text),("enable",.quoted enable),
      ("fontcolor",.plain fontColor),("fontsize",.plain fontSize),("x",.plain x),
      ("y",.plain y)]⟩ := by
  simp only [Filter.written,settingWritten,Value.written,List.map_cons,List.map_nil,joined,
    String.toList_append,List.append_assoc,List.cons_append,List.nil_append]
  rfl

theorem switched_written (name key value enable : String) :
    (name ++ "=" ++ (key ++ "=" ++ value ++ ":") ++ "enable='" ++ enable ++ "'").toList =
    Filter.written ⟨name,[(key,.plain value),("enable",.quoted enable)]⟩ := by
  simp only [Filter.written,settingWritten,Value.written,List.map_cons,List.map_nil,joined,
    String.toList_append,List.append_assoc,List.cons_append]
  rfl

theorem numeric_clean {s : String} (h : Numeric s) : Clean s :=
  ⟨⟨fun c hc => avoids (h c hc) (by decide),trim_plain fun c hc => avoids (h c hc) (by decide)⟩,
    fun c hc => avoids (h c hc) (by decide)⟩

theorem clean_double (x : CFloat) : Clean (formatDouble x) := numeric_clean (numeric_formatDouble x)

theorem clean_int (n : Int) : Clean (toString n) := numeric_clean (numeric_int n)

def Shielded (v : Value) : Prop := v.Fine ∧ Free shellSpecial v.content.toList

theorem shielded_enabled (timeInfo : List Timeline) : Shielded (.quoted (enabled timeInfo)) :=
  ⟨fun _ hc => avoids (mem_enabled hc) (by decide),fun _ hc => avoids (mem_enabled hc) (by decide)⟩

theorem shielded_between (time : Timeline) : Shielded (.quoted (between time)) := by
  rw [← between_single]
  exact shielded_enabled [time]

theorem EffectCommand.Fine.shielded {cmd : EffectCommand} (h : cmd.Fine) :
    ∀ f ∈ cmd.filters, ∀ setting ∈ f.settings, Shielded setting.2 := by
  cases cmd with
  | blur blurName intensity coordInfo => exact absurd h not_false
  | sticker imgPath coordInfo => exact absurd h not_false
  | unsupported => exact absurd h not_false
  | box color thickness coordInfo =>
    obtain ⟨_,hcolor,_⟩ := h
    intro f hf
    obtain ⟨c,_,rfl⟩ := List.mem_map.mp hf
    simp only [boxFilter,List.forall_mem_cons]
    exact ⟨clean_double _,clean_double _,clean_double _,clean_double _,shielded_between _,hcolor,
      clean_int thickness,List.forall_mem_nil _⟩
  | text fontColor fontSize x y strInfo =>
    obtain ⟨_,⟨hcolor,hsize⟩,hfit⟩ := h
    intro f hf
    obtain ⟨s,hs,rfl⟩ := List.mem_map.mp hf
    simp only [textFilter,List.forall_mem_cons]
    exact ⟨(hfit s hs).1,shielded_between _,hcolor,hsize,clean_int x,clean_int y,
      List.forall_mem_nil _⟩
  | eq effectName effectValue timeInfo | volume level timeInfo =>
    intro f hf
    rw [List.mem_singleton.mp hf]
    simp only [switched,List.forall_mem_cons]
    exact ⟨clean_double _,shielded_enabled timeInfo,List.forall_mem_nil _⟩

theorem EffectCommand.Fine.filters {cmd : EffectCommand} (h : cmd.Fine) :
    ∀ f ∈ cmd.filters, f.Fine := by
  have hvalues := h.shielded
  cases cmd with
  | blur blurName intensity coordInfo => exact absurd h not_false
  | sticker imgPath coordInfo => exact absurd h not_false
  | unsupported => exact absurd h not_false
  | box color thickness coordInfo =>
    intro f hf
    have hshielded := hvalues f hf
    obtain ⟨c,_,rfl⟩ := List.mem_map.mp hf
    refine ⟨(by decide : Word "drawbox"),List.cons_ne_nil _ _,?_,fun s hs => (hshielded s hs).1⟩
    simp only [boxFilter,List.forall_mem_cons]
    exact ⟨by decide,by decide,by decide,by decide,by decide,by decide,by decide,
      List.forall_mem_nil _⟩
  | text fontColor fontSize x y strInfo =>
    intro f hf
    have hshielded := hvalues f hf
    obtain ⟨s,_,rfl⟩ := List.mem_map.mp hf
    refine ⟨(by decide : Word "drawtext"),List.cons_ne_nil _ _,?_,fun s hs => (hshielded s hs).1⟩
    simp only [textFilter,List.forall_mem_cons]
    exact ⟨by decide,by decide,by decide,by decide,by decide,by decide,List.forall_mem_nil _⟩
  | eq effectName effectValue timeInfo =>
    obtain ⟨_,⟨hname,_⟩,_⟩ := h
    intro f hf
    have hshielded := hvalues f hf
    rw [List.mem_singleton.mp hf] at hshielded ⊢
    refine ⟨(by decide : Word "eq"),List.cons_ne_nil _ _,?_,fun s hs => (hshielded s hs).1⟩
    simp only [switched,List.forall_mem_cons]
    exact ⟨hname,by decide,List.forall_mem_nil _⟩
  | volume level timeInfo =>
    intro f hf
    have hshielded := hvalues f hf
    rw [List.mem_singleton.mp hf] at hshielded ⊢
    refine ⟨(by decide : Word "volume"),List.cons_ne_nil _ _,?_,fun s hs => (hshielded s hs).1⟩
    simp only [switched,List.forall_mem_cons]
    exact ⟨by decide,by decide,List.forall_mem_nil _⟩

theorem boxSegment_written (color : String) (thickness : Int) (c : CoordinateInfo) :
    (boxSegment color thickness c).toList = (boxFilter color thickness c).written :=
  box_written _ _ _ _ _ _ _

theorem textSegment_written (fontColor fontSize : String) (x y : Int) (s : StringInfo) :
    (textSegment fontColor fontSize x y s).toList =
      (textFilter fontColor fontSize x y s).written :=
  text_written _ _ _ _ _ _

theorem switchedText_written (name key : String) {value : CFloat} {times : List Timeline}
    (hvalue : byteLength (key ++ "=" ++ formatDouble value ++ ":") < 256)
    (htimes : ∀ time ∈ times, byteLength (between time) < 255) :
    (name ++ "=" ++ snprintf 256 (key ++ "=" ++ formatDouble value ++ ":") ++ "enable='" ++
      writeTimes 0 times ++ "'").toList = chainWritten [switched name key value times] := by
  rw [snprintf_fits hvalue,String.toList_inj.mp (writeTimes_enabled htimes),switched_written]
  rfl

theorem EffectCommand.Fine.written {cmd : EffectCommand} (h : cmd.Fine) :
    cmd.filters ≠ [] ∧ cmd.filterText.toList = chainWritten cmd.filters := by
  cases cmd with
  | blur blurName intensity coordInfo => exact absurd h not_false
  | sticker imgPath coordInfo => exact absurd h not_false
  | unsupported => exact absurd h not_false
  | box color thickness coordInfo =>
    obtain ⟨hne,_,hfit⟩ := h
    exact ⟨by simpa [EffectCommand.filters] using hne,writeChain_written (Nat.zero_add _) hfit
      fun c _ => boxSegment_written color thickness c⟩
  | text fontColor fontSize x y strInfo =>
    obtain ⟨hne,_,hfit⟩ := h
    exact ⟨by simpa [EffectCommand.filters] using hne,writeChain_written (Nat.zero_add _)
      (fun s hs => (hfit s hs).2) fun s _ => textSegment_written fontColor fontSize x y s⟩
  | eq effectName effectValue timeInfo =>
    obtain ⟨_,_,hvalue,htimes⟩ := h
    exact ⟨List.cons_ne_nil _ _,switchedText_written "eq" _ hvalue htimes⟩
  | volume level timeInfo =>
    obtain ⟨_,hvalue,htimes⟩ := h
    exact ⟨List.cons_ne_nil _ _,switchedText_written "volume" "volume" hvalue htimes⟩

theorem readBetween_between (time : Timeline) : readBetween (between time).toList =
    some (formatDouble time.startSec,formatDouble time.endSec) := by
  have hcomma : ∀ x : CFloat, Covered ',' false (formatDouble x).toList := by
    intro x
    refine covered_plain fun c hc => ?_
    have hout : c ∉ ['\'',','] := avoids (numeric_formatDouble x c hc) (by decide)
    simpa using hout
  have hend : Covered ',' false ((formatDouble time.endSec).toList ++ [')']) :=
    (hcomma _).append (.shown (by decide) (by decide) .nil)
  have hdrop : (between time).toList.drop 10 = (formatDouble time.startSec).toList ++
      ',' :: ((formatDouble time.endSec).toList ++ [')']) := by
    rw [between_toList]
    exact List.drop_left' rfl
  have hstart : "between(t,".toList.isPrefixOf (between time).toList = true := by
    rw [between_toList]
    exact List.isPrefixOf_iff_prefix.mpr (List.prefix_append _ _)
  rw [readBetween,if_pos hstart,hdrop,split_next (hcomma _) (by decide),split_covered hend]
  simp

theorem readTimes_enabled {times : List Timeline} (hne : times ≠ []) :
    readTimes (enabled times) = some (shown times) := by
  have hcovered : ∀ part ∈ times.map (fun time => (between time).toList),
      Covered '+' false part := by
    intro part hpart
    obtain ⟨time,_,rfl⟩ := List.mem_map.mp hpart
    refine covered_plain fun c hc => ?_
    have hout : c ∉ ['\'','+'] := avoids (mem_between hc) (by decide)
    simpa using hout
  rw [readTimes,enabled,String.toList_ofList,split_joined (by decide) (by simpa using hne) hcovered]
  exact mapM_written fun time _ => readBetween_between time

theorem readTimes_between (time : Timeline) : readTimes (between time) = some (shown [time]) := by
  rw [← between_single]
  exact readTimes_enabled (List.cons_ne_nil _ _)

theorem timed_box (x y w h color thickness : String) (time : Timeline) :
    timed ("drawbox",[("x",x),("y",y),("w",w),("h",h),("enable",between time),("c",color),
      ("t",thickness)]) = some ("drawbox",[("x",x),("y",y),("w",w),("h",h),("c",color),
        ("t",thickness)],shown [time]) := by
  simp [timed,List.lookup_cons,readTimes_between]

theorem timed_text (text fontColor fontSize x y : String) (time : Timeline) :
    timed ("drawtext",[("text",text),("enable",between time),("fontcolor",fontColor),
      ("fontsize",fontSize),("x",x),("y",y)]) = some ("drawtext",[("text",text),
        ("fontcolor",fontColor),("fontsize",fontSize),("x",x),("y",y)],shown [time]) := by
  simp [timed,List.lookup_cons,readTimes_between]

theorem timed_switched {times : List Timeline} (hne : times ≠ []) (name value : String)
    {key : String} (hkey : key ≠ "enable") :
    timed (name,[(key,value),("enable",enabled times)]) =
      some (name,[(key,value)],shown times) := by
  have henable : ("enable" == key) = false := beq_eq_false_iff_ne.mpr (Ne.symm hkey)
  simp [timed,List.lookup_cons,readTimes_enabled hne,hkey,henable]

theorem timed_single {f : String × List (String × String)}
    {g : String × List (String × String) × List (String × String)} (h : timed f = some g) :
    [f].mapM timed = some [g] := by
  rw [List.mapM_cons,h]
  rfl

theorem EffectCommand.Fine.timed {cmd : EffectCommand} (h : cmd.Fine) :
    (cmd.filters.map Filter.content).mapM timed = some cmd.asked := by
  cases cmd with
  | blur blurName intensity coordInfo => exact absurd h not_false
  | sticker imgPath coordInfo => exact absurd h not_false
  | unsupported => exact absurd h not_false
  | box color thickness coordInfo =>
    rw [EffectCommand.filters,List.map_map]
    exact mapM_written fun c _ => timed_box _ _ _ _ _ _ c.time
  | text fontColor fontSize x y strInfo =>
    rw [EffectCommand.filters,List.map_map]
    exact mapM_written fun s _ => timed_text _ _ _ _ _ s.time
  | eq effectName effectValue timeInfo =>
    obtain ⟨hne,⟨_,henable⟩,_⟩ := h
    exact timed_single (timed_switched hne "eq" _ henable)
  | volume level timeInfo =>
    obtain ⟨hne,_⟩ := h
    exact timed_single (timed_switched hne "volume" _ (by decide : "volume" ≠ "enable"))

theorem EffectCommand.Fine.read {cmd : EffectCommand} (h : cmd.Fine) :
    readTimed cmd.filterText = some cmd.asked := by
  obtain ⟨hne,hwritten⟩ := h.written
  rw [readTimed,← String.ofList_toList (s := cmd.filterText),hwritten,
    readChain_written hne h.filters,← h.timed]
  rfl

end Written

end Ovi
