import Ovi.Render.NumericAttributes
import Ovi.Render.PrintedNumbers

namespace Ovi
open FFmpegEffect RenderTask

section Frames

variable {host : Host} {rate : ℚ} {details : List Detected} {dic : AnyDictionary}

def DetailsItem.string (time : Timeline) (item : DetailsItem) : StringInfo :=
  ⟨(visitorAddItem item)["value"]?,time⟩

def frameStrings (rate : ℚ) (d : Detected) : List StringInfo :=
  d.list.map (DetailsItem.string (window rate d.frameNumber))

def recordedStrings (rate : ℚ) (details : List Detected) : List StringInfo :=
  details.flatMap (frameStrings rate)

def recordedTimes (rate : ℚ) (details : List Detected) : List Timeline :=
  details.map (fun d => window rate d.frameNumber)

-- the frames are other frames, and short enough for a `float` to tell them apart
structure ShortFrames (details : List Detected) : Prop where
  distinct : (details.map Detected.frameNumber).Nodup
  short : ∀ d ∈ details, d.frameNumber.natAbs < 2 ^ 24

theorem decoded_frames {β : Type} {entry : String × DictionaryItem → Except Exn β}
    {frame : Detected → β} (h : dic.toList.Perm (details.map frameEntry))
    (hentry : ∀ d ∈ details, entry (frameEntry d) = .ok (frame d)) :
    ∃ out, dic.toList.mapM entry = .ok out ∧ out.Perm (details.map frame) := by
  refine Checks.mapM_perm h ?_
  rw [List.mapM_map]
  exact Checks.mapM_ok hentry

theorem stringEntry_frame {d : Detected}
    (hs : host.stof (frameKey d.frameNumber) = .ok (.number d.frameNumber))
    (hshort : d.frameNumber.natAbs < 2 ^ 24) :
    stringEntry host rate (frameEntry d) = .ok (frameStrings rate d) := by
  have hstrings : (fillFrameEffect d.list).map
      (fun value => (⟨value["value"]?,window rate d.frameNumber⟩ : StringInfo)) =
        frameStrings rate d := List.map_map
  rw [stringEntry,timeLine_frame hs hshort]
  exact congrArg Except.ok hstrings

theorem getTimeline_frames (rate : ℚ) (hs : host.StofExact details) (hd : ShortFrames details)
    (h : dic.toList.Perm (details.map frameEntry)) : ∃ timeInfo,
      getTimeline host dic rate = .ok timeInfo ∧ timeInfo.Perm (recordedTimes rate details) :=
  decoded_frames h fun d hm => timeLine_frame (hs d hm) (hd.short d hm)

theorem getConvertedStringInfo_frames (rate : ℚ) (hs : host.StofExact details)
    (hd : ShortFrames details) (h : dic.toList.Perm (details.map frameEntry)) : ∃ strInfo,
      getConvertedStringInfo host dic rate = .ok strInfo ∧
        strInfo.Perm (recordedStrings rate details) := by
  have hentry : ∀ d ∈ details,
      stringEntry host rate (frameEntry d) = .ok (frameStrings rate d) :=
    fun d hm => stringEntry_frame (hs d hm) (hd.short d hm)
  obtain ⟨out,hout,hperm⟩ := decoded_frames h hentry
  refine ⟨out.flatten,?_,?_⟩
  · rw [getConvertedStringInfo,hout]
    rfl
  · rw [recordedStrings,List.flatMap_def]
    exact hperm.flatten

theorem ShortFrames.keys (h : ShortFrames details) :
    (details.map (fun d => frameKey d.frameNumber)).Nodup := by
  rw [List.nodup_map_iff_inj_on (List.Nodup.of_map _ h.distinct)]
  intro x hx y hy he
  have hstof := (stof_frameKey (h.short x hx)).symm.trans (he ▸ stof_frameKey (h.short y hy))
  have hnumber : x.frameNumber = y.frameNumber := by simpa using hstof
  exact List.inj_on_of_nodup_map h.distinct hx hy hnumber

end Frames

section Applied

variable {host : Host} {rate : ℚ} {details : List Detected} {attrs : AttrMap}
  {effectName : String}

def EffectCommand.Plays (rate : ℚ) (details : List Detected) : EffectCommand → Prop
  | .blur _ _ coordInfo => coordInfo.Perm (recordedCoords rate details)
  | .box _ _ coordInfo => coordInfo.Perm (recordedCoords rate details)
  | .sticker _ coordInfo => coordInfo.Perm (recordedCoords rate details)
  | .text _ _ _ _ strInfo => strInfo.Perm (recordedStrings rate details)
  | .eq _ _ timeInfo => timeInfo.Perm (recordedTimes rate details)
  | .volume _ timeInfo => timeInfo.Perm (recordedTimes rate details)
  | .unsupported => False

def Applied (rate : ℚ) (details : List Detected) (numbers : Except Exn (List CFloat))
    (outcome : Except Exn EffectCommand) : Prop :=
  (∃ command, outcome = .ok command ∧ command.Plays rate details) ↔ ∃ l, numbers = .ok l

variable {α β : Type} {f : β → Except Exn CFloat}

theorem Applied.nil {decoded : Except Exn α} {toCommand : α → EffectCommand}
    (h : ∃ a, decoded = .ok a ∧ (toCommand a).Plays rate details) :
    Applied rate details ([].mapM f) (decoded >>= fun a => .ok (toCommand a)) := by
  obtain ⟨a,rfl,hplays⟩ := h
  exact iff_of_true ⟨_,rfl,hplays⟩ ⟨[],rfl⟩

theorem Applied.cons (toNumber : α → CFloat) {read : Except Exn α}
    {rest : α → Except Exn EffectCommand} {c : β} {l : List β} (hread : f c = read.map toNumber)
    (h : ∀ n, Applied rate details (l.mapM f) (rest n)) :
    Applied rate details ((c :: l).mapM f) (read >>= rest) := by
  rw [List.mapM_cons,hread]
  cases read with
  | error e =>
    refine iff_of_false ?_ ?_
    · rintro ⟨command,he,-⟩
      cases he
    · rintro ⟨numbers,he⟩
      cases he
  | ok n =>
    refine (h n).trans ?_
    cases l.mapM f with
    | error e =>
      refine iff_of_false ?_ ?_
      · rintro ⟨numbers,he⟩
        cases he
      · rintro ⟨numbers,he⟩
        cases he
    | ok numbers => exact iff_of_true ⟨numbers,rfl⟩ ⟨toNumber n :: numbers,rfl⟩

variable {metadata : AnyDictionary}

theorem applyBlur_applied
    (h : ∃ coordInfo, getCoordInfo host (metadata.erase "intensity") rate = .ok coordInfo ∧
      coordInfo.Perm (recordedCoords rate details)) :
    Applied rate details ([("intensity",Conversion.stoi)].mapM (popped host effectName metadata))
      (applyBlur host effectName metadata rate) := by
  change Applied rate details _ (stoi (pop effectName metadata "intensity").1 >>= fun intensity =>
    getCoordInfo host (metadata.erase "intensity") rate >>= fun coordInfo =>
      .ok (.blur effectName intensity coordInfo))
  exact .cons CFloat.ofInt rfl (fun _ => .nil h)

theorem applyBox_applied
    (h : ∃ coordInfo, getCoordInfo host ((metadata.erase "color").erase "thickness") rate =
      .ok coordInfo ∧ coordInfo.Perm (recordedCoords rate details)) :
    Applied rate details ([("thickness",Conversion.stoi)].mapM (popped host effectName metadata))
      (applyBox host effectName metadata rate) := by
  change Applied rate details _ (stoi (pop effectName (metadata.erase "color") "thickness").1 >>=
    fun thickness => getCoordInfo host _ rate >>= fun coordInfo =>
      .ok (.box (pop effectName metadata "color").1 thickness coordInfo))
  rw [pop_erased (by decide)]
  exact .cons CFloat.ofInt rfl (fun _ => .nil h)

theorem applyEq_applied
    (h : ∃ timeInfo, getTimeline host (metadata.erase "value") rate = .ok timeInfo ∧
      timeInfo.Perm (recordedTimes rate details)) :
    Applied rate details ([("value",Conversion.stof)].mapM (popped host effectName metadata))
      (applyEq host effectName metadata rate) := by
  change Applied rate details _ (host.stof (pop effectName metadata "value").1 >>= fun value =>
    getTimeline host (metadata.erase "value") rate >>= fun timeInfo =>
      .ok (.eq effectName value timeInfo))
  exact .cons id (stof_read _) (fun _ => .nil h)

theorem applyText_applied
    (h : ∃ strInfo, getConvertedStringInfo host
        ((((metadata.erase "fontcolor").erase "fontsize").erase "x").erase "y") rate =
        .ok strInfo ∧ strInfo.Perm (recordedStrings rate details)) :
    Applied rate details ([("x",Conversion.stoi),("y",Conversion.stoi)].mapM
        (popped host effectName metadata))
      (applyText host effectName metadata rate) := by
  change Applied rate details _
    (stoi (pop effectName ((metadata.erase "fontcolor").erase "fontsize") "x").1 >>= fun x =>
      stoi (pop effectName (((metadata.erase "fontcolor").erase "fontsize").erase "x") "y").1 >>=
        fun y => getConvertedStringInfo host _ rate >>= fun strInfo =>
          .ok (.text (pop effectName metadata "fontcolor").1
            (pop effectName (metadata.erase "fontcolor") "fontsize").1 x y strInfo))
  simp only [pop_erased,ne_eq,String.reduceEq,not_false_eq_true]
  exact .cons CFloat.ofInt rfl (fun _ => .cons CFloat.ofInt rfl (fun _ => .nil h))

theorem applySticker_applied
    (h : ∃ coordInfo, getCoordInfo host (metadata.erase "path") rate = .ok coordInfo ∧
      coordInfo.Perm (recordedCoords rate details)) :
    Applied rate details ([].mapM (popped host effectName metadata))
      (applySticker host effectName metadata rate) := by
  change Applied rate details _ (getCoordInfo host (metadata.erase "path") rate >>=
    fun coordInfo => .ok (.sticker (pop effectName metadata "path").1 coordInfo))
  exact .nil h

theorem applyVolume_applied
    (h : ∃ timeInfo, getTimeline host (metadata.erase "volume") rate = .ok timeInfo ∧
      timeInfo.Perm (recordedTimes rate details)) :
    Applied rate details ([("volume",Conversion.stof)].mapM (popped host effectName metadata))
      (applyVolume host effectName metadata rate) := by
  change Applied rate details _ (host.stof (pop effectName metadata "volume").1 >>= fun volume =>
    getTimeline host (metadata.erase "volume") rate >>= fun timeInfo =>
      .ok (.volume volume timeInfo))
  exact .cons id (stof_read _) (fun _ => .nil h)

end Applied

section Played

variable {readable : String → Bool} {attrs : AttrMap} {details : List Detected}

def RectsFor (effectName : String) (details : List Detected) : Prop :=
  FFmpegEffectSpec.inputMetaForm effectName = .ok .rect →
    ∀ d ∈ details, ∀ item ∈ d.list, item.isRect = true

theorem coords_popped {keys : List String} (rate : ℚ) (hd : ShortFrames details)
    (hrects : ∀ d ∈ details, ∀ item ∈ d.list, item.isRect = true)
    (h : FrameEntries details (keys.foldl (fun dic key => dic.erase key)
      (makeEffect attrs details).metadata)) :
    ∃ coordInfo, getCoordInfo (stofHost readable) (keys.foldl (fun dic key => dic.erase key)
      (makeEffect attrs details).metadata) rate = .ok coordInfo ∧
        coordInfo.Perm (recordedCoords rate details) :=
  getCoordInfo_frames rate (frameKeys_exact readable details hd.short)
    ⟨hd.distinct,hd.short,hrects⟩ h

theorem effect_applied (rate : ℚ) {l : List AttributeSpec}
    (ha : Accepted (stofHost readable) attrs l) (hd : ShortFrames details)
    (hrects : RectsFor (attrs.getD "name" "") details) :
    Applied rate details
      (attributeNumbers (stofHost readable) (attrs.getD "name" "")
        (makeEffect attrs details).metadata)
      (applyEffect (stofHost readable) (attrs.getD "name" "")
        (makeEffect attrs details).metadata rate) := by
  have hexact : (stofHost readable).StofExact details := frameKeys_exact readable details hd.short
  have hperm : ∀ keys : List String, (∀ key ∈ keys, '.' ∉ key.toList) →
      (∀ key ∈ l.map AttributeSpec.name, key ∈ keys) →
      FrameEntries details (keys.foldl (fun dic key => dic.erase key)
        (makeEffect attrs details).metadata) := fun keys hdot hall =>
    popped_frames hdot (fun key hkey => (ha.keys key hkey).imp_right (hall key)) hd.keys
  have hknown := ha.known
  simp only [FFmpegEffectSpec.attributes,List.mem_cons,List.not_mem_nil,or_false,Prod.mk.injEq]
    at hknown
  rcases hknown with ⟨he,rfl⟩ | ⟨he,rfl⟩ | ⟨he,rfl⟩ | ⟨he,rfl⟩ | ⟨he,rfl⟩ | ⟨he,rfl⟩ | ⟨he,rfl⟩ |
    ⟨he,rfl⟩ | ⟨he,rfl⟩
  all_goals rw [he]
  · exact applyBlur_applied (coords_popped rate hd (hrects (he ▸ rfl))
      (hperm ["intensity"] (by decide) (by decide)))
  · exact applyBlur_applied (coords_popped rate hd (hrects (he ▸ rfl))
      (hperm ["intensity"] (by decide) (by decide)))
  · exact applyBox_applied (coords_popped rate hd (hrects (he ▸ rfl))
      (hperm ["color","thickness"] (by decide) (by decide)))
  · exact applyEq_applied (getTimeline_frames rate hexact hd
      ((hperm ["value"] (by decide) (by decide)).perm hd.keys))
  · exact applyEq_applied (getTimeline_frames rate hexact hd
      ((hperm ["value"] (by decide) (by decide)).perm hd.keys))
  · exact applyEq_applied (getTimeline_frames rate hexact hd
      ((hperm ["value"] (by decide) (by decide)).perm hd.keys))
  · exact applyText_applied (getConvertedStringInfo_frames rate hexact hd
      ((hperm ["fontcolor","fontsize","x","y"] (by decide) (by decide)).perm hd.keys))
  · exact applySticker_applied (coords_popped rate hd (hrects (he ▸ rfl))
      (hperm ["path"] (by decide) (by decide)))
  · exact applyVolume_applied (getTimeline_frames rate hexact hd
      ((hperm ["volume"] (by decide) (by decide)).perm hd.keys))

def NumbersParse (host : Host) (attrs : AttrMap) : Prop :=
  ∀ c ∈ conversions (attrs.getD "name" ""), ∀ value, attrs[c.1]? = some value →
    ∃ x, c.2.read host value = .ok x

theorem numbers_read_iff {l : List AttributeSpec} (ha : Accepted (stofHost readable) attrs l)
    (details : List Detected) :
    (∃ numbers, attributeNumbers (stofHost readable) (attrs.getD "name" "")
      (makeEffect attrs details).metadata = .ok numbers) ↔
      NumbersParse (stofHost readable) attrs := by
  rw [attributeNumbers,Checks.mapM_all_iff]
  refine forall₂_congr fun c hc => ?_
  let any : String → CFloat → Prop := fun _ _ => True
  have hread : (∃ x, popped (stofHost readable) (attrs.getD "name" "")
      (makeEffect attrs details).metadata c = .ok x ∧ (c.1 ∈ attrs → any c.1 x)) ↔
      ReadsAs (stofHost readable) attrs any c := ha.read_iff rfl details hc
  simpa only [ReadsAs,any,and_true,implies_true] using hread

theorem effect_played (readable : String → Bool) (rate : ℚ)
    (ha : FFmpegRender.validateEffectAttrs (stofHost readable) attrs = .ok ())
    (hd : ShortFrames details) (hrects : RectsFor (attrs.getD "name" "") details) :
    (∃ command, applyEffect (stofHost readable) (makeEffect attrs details).effectName
      (makeEffect attrs details).metadata rate = .ok command ∧ command.Plays rate details) ↔
      NumbersParse (stofHost readable) attrs := by
  obtain ⟨l,hl⟩ := accepted_of_validate ha
  exact (effect_applied rate hl hd hrects).trans (numbers_read_iff hl details)

end Played

section Sample

def captions : AttrMap := {("name","drawtext"),("x","40")}

def scores : List Detected := [⟨12,[.double (1 / 2),.double (3 / 4)]⟩,⟨7,[]⟩,⟨9,[.bool true]⟩]

theorem scores_short : ShortFrames scores := by
  constructor <;> decide

theorem effect_played_captions :
    (∃ command, applyEffect (stofHost noFiles) (makeEffect captions scores).effectName
      (makeEffect captions scores).metadata 30 = .ok command ∧ command.Plays 30 scores) ↔
      NumbersParse (stofHost noFiles) captions :=
  effect_played noFiles 30 (by decide) scores_short (fun h => by cases h)

end Sample

end Ovi
