import Ovi.Flow.AnalysedMedia
import Ovi.Flow.Soundness
import Ovi.Render.TaskOutput

namespace Ovi

open FFmpegRender GapClosing

variable {σ C : Type} {d : DataFlow σ} {m : Media} {r : LinkRequest} {st : σ}
  {groups : List (Bool × DetectedData)} {accumulated : List RawData} {c g : Nat} {framerate : ℚ}

def Media.Kept (d : DataFlow σ) (m : Media) (r : LinkRequest) (st : σ) (i : Int) : Prop :=
  ∃ k < m.video.length / d.groupSize,
    r.value (verdictOf (d.answer (m.group d.groupSize k) st)) = true ∧
      (k * d.groupSize : Nat) < i ∧ i ≤ ((k + 1) * d.groupSize : Nat)

section Recorded

theorem recorded_consecutive (g : Nat) (groups : List (Bool × DetectedData)) :
    Consecutive 1 (recorded g groups) := by
  intro i x hx
  have hi := (List.getElem?_eq_some_iff.mp hx).1
  have hlength := congrArg List.length (recorded_numbers g groups)
  rw [List.length_map,firstFrames_length] at hlength
  have hnumber := congrArg (·[i]?) (recorded_numbers g groups)
  simp only [List.getElem?_map,hx,Option.map_some,firstFrames,
    List.getElem?_range (hlength ▸ hi),Option.some_inj] at hnumber
  omega

theorem recorded_length (g : Nat) (groups : List (Bool × DetectedData)) :
    (recorded g groups).length = groups.length * g := by
  have hlength := congrArg List.length (recorded_numbers g groups)
  rwa [List.length_map,firstFrames_length] at hlength

theorem mem_recorded {x : RawData} : x ∈ recorded g groups ↔
    ∃ k e, groups[k]? = some e ∧ x ∈ groupData g k e := by
  rw [recorded,List.mem_flatMap]
  constructor
  · rintro ⟨⟨e,k⟩,hk,hx⟩
    exact ⟨k,e,List.mem_zipIdx_iff_getElem?.mp hk,hx⟩
  · rintro ⟨k,e,hk,hx⟩
    exact ⟨(e,k),List.mem_zipIdx_iff_getElem?.mpr hk,hx⟩

theorem mem_groupData {k : Nat} {e : Bool × DetectedData} {x : RawData} :
    x ∈ groupData g k e ↔ (x.included = e.1 ∧ x.detected = e.2) ∧
      (k * g : Nat) < x.frameNumber ∧ x.frameNumber ≤ ((k + 1) * g : Nat) := by
  obtain ⟨number,included,detected⟩ := x
  have hsucc : (k + 1) * g = k * g + g := Nat.succ_mul k g
  rw [hsucc,groupData,List.mem_map]
  simp only [List.mem_range,RawData.mk.injEq]
  constructor
  · rintro ⟨i,hi,rfl,rfl,rfl⟩
    exact ⟨⟨rfl,rfl⟩,by omega,by omega⟩
  · rintro ⟨⟨rfl,rfl⟩,hlow,hhigh⟩
    exact ⟨(number - 1 - (k * g : Nat)).toNat,by omega,by omega,rfl,rfl⟩

theorem recorded_included {i : Int} : frameIncluded (recorded g groups) i ↔
    ∃ k e, groups[k]? = some e ∧ e.1 = true ∧ (k * g : Nat) < i ∧ i ≤ ((k + 1) * g : Nat) := by
  constructor
  · rintro ⟨x,hx,hincluded,rfl⟩
    obtain ⟨k,e,hk,hdata⟩ := mem_recorded.mp hx
    obtain ⟨⟨hsame,-⟩,hnumber⟩ := mem_groupData.mp hdata
    exact ⟨k,e,hk,hsame.symm.trans hincluded,hnumber⟩
  · rintro ⟨k,e,hk,he,hnumber⟩
    exact ⟨⟨i,e.1,e.2⟩,mem_recorded.mpr ⟨k,e,hk,mem_groupData.mpr ⟨⟨rfl,rfl⟩,hnumber⟩⟩,he,rfl⟩

theorem Judged.plain {outcome : String → Outcome} {e : Bool × DetectedData}
    (h : Judged r outcome e) (hplain : r.DetectorsOnly) :
    e.1 = r.value (verdictOf outcome) ∧ e.2.isEmpty = true := by
  refine ⟨h.included.trans (visit_eq_value hplain _),?_⟩
  rw [Std.TreeMap.isEmpty_iff_forall_not_mem]
  intro uid huid
  obtain ⟨list,hlist⟩ := Option.isSome_iff_exists.mp
    (Std.TreeMap.isSome_getElem?_iff_mem.mpr huid)
  obtain ⟨⟨t,ht,heffect⟩,-⟩ := h.detected.sound uid list hlist
  rw [(hplain t ht).1] at heffect
  cases heffect

variable {w : Worker σ}

theorem Analysed.included (h : Analysed d m r (fun k => d.answer (m.group d.groupSize k) st) w)
    (hplain : r.DetectorsOnly) :
    frameIncluded w.accumulator.rawdata = m.Kept d r st := by
  obtain ⟨groups,hlength,hraw,hall⟩ := h.recorded
  funext i
  rw [hraw]
  refine propext (recorded_included.trans ⟨?_,?_⟩)
  · rintro ⟨k,e,hk,he,hnumber⟩
    have hlt := (List.getElem?_eq_some_iff.mp hk).1
    exact ⟨k,hlength ▸ hlt,((hall k e hk).plain hplain).1.symm.trans he,hnumber⟩
  · rintro ⟨k,hlt,hvalue,hnumber⟩
    have hk : groups[k]? = some groups[k] := List.getElem?_eq_getElem (hlength ▸ hlt)
    exact ⟨k,_,hk,((hall k _ hk).plain hplain).1.trans hvalue,hnumber⟩

theorem Analysed.undetected {outcome : Nat → String → Outcome} (h : Analysed d m r outcome w)
    (hplain : r.DetectorsOnly) : ∀ x ∈ w.accumulator.rawdata, x.detected.isEmpty = true := by
  obtain ⟨groups,-,hraw,hall⟩ := h.recorded
  intro x hx
  rw [hraw] at hx
  obtain ⟨k,e,hk,hdata⟩ := mem_recorded.mp hx
  rw [(mem_groupData.mp hdata).1.2]
  exact ((hall k e hk).plain hplain).2

end Recorded

section Plain

theorem makeTimeRange_plain (hc : Consecutive 1 accumulated)
    (hempty : ∀ x ∈ accumulated, x.detected.isEmpty = true) :
    ∀ tr ∈ RenderTask.makeTimeRange accumulated framerate, tr.collection = ∅ := by
  intro tr htr
  rw [RenderTask.makeTimeRange,analyzeRawData_result hc (by decide) rfl] at htr
  obtain ⟨group,hgroup,rfl⟩ := List.mem_map.mp htr
  have hkept : kept ⌈framerate⌉.toNat accumulated group = [] := by
    rw [kept,List.filter_eq_nil_iff]
    intro x hx
    have hin := List.mem_of_mem_filter (mem_of_groups hgroup hx)
    rw [hempty x hin]
    simp
  rw [rangeOf,hkept]
  rfl

theorem makeClips_plain {t : FFmpegTask} (hc : Consecutive 1 t.accumulated)
    (hempty : ∀ x ∈ t.accumulated, x.detected.isEmpty = true) :
    ∃ clips, t.makeClips t.plugins = .ok clips ∧ ∀ clip ∈ clips, clip.effects = [] := by
  have hclip : ∀ tr ∈ (RenderTask.makeTimeRange t.accumulated t.framerate).zipIdx,
      RenderTask.makeClip t.plugins tr = .ok ⟨tr.1.timeRange,[]⟩ := by
    intro tr htr
    have hin := List.fst_mem_of_mem_zipIdx htr
    rw [RenderTask.makeClip,makeTimeRange_plain hc hempty tr.1 hin]
    rfl
  refine ⟨_,Checks.mapM_ok hclip,fun clip hclip => ?_⟩
  obtain ⟨tr,-,rfl⟩ := List.mem_map.mp hclip
  rfl

theorem commands_plain {t : FFmpegTask} {clips : List Clip} {host : Host}
    (h : ∀ clip ∈ clips, clip.effects = []) :
    (clips.map t.renderClip).mapM (RenderClip.commands host) = .ok (clips.map fun _ => []) := by
  rw [List.mapM_map]
  refine Checks.mapM_ok fun clip hclip => ?_
  have heffects : (t.renderClip clip).effects = [] := h clip hclip
  rw [Function.comp_apply,RenderClip.commands,heffects]
  rfl

end Plain

section Film

def FFmpegTask.on (t : FFmpegTask) (accumulated : List RawData) : FFmpegTask :=
  { t with accumulated := accumulated }

structure Filmed (t : FFmpegTask) (f : Ffmpeg C) (disk : Disk C) (dump : Option C) (media : C)
    (videoFrames c : Nat) (kept : Int → Prop) (clips : List Clip) (ranges : List (Int × Int)) :
    Prop where
  made : t.makeClips t.plugins = .ok clips
  closed : Closed kept c ranges
  nothing : ranges = [] → renderActions t.host t.outputPath t.fileNum
    (findClips (t.timelineHelper (some .video) videoFrames clips).timeline) = .ok []
  -- the numbers of the parts have two digits in the command that joins them
  written : ranges ≠ [] → ranges.length ≤ 100 → ∃ actions,
    renderActions t.host t.outputPath t.fileNum
      (findClips (t.timelineHelper (some .video) videoFrames clips).timeline) = .ok actions ∧
      ((disk.dumped t.outputPath dump).after f.tool actions).files t.outputPath =
        f.joined (ranges.map (f.window t.framerate media))

theorem filmed_plain {t : FFmpegTask} (f : Ffmpeg C) {disk : Disk C} (dump : Option C)
    {media : C} (videoFrames : Nat) {kept : Int → Prop} (hc : Consecutive 1 t.accumulated)
    (hplain : ∀ x ∈ t.accumulated, x.detected.isEmpty = true)
    (hincluded : frameIncluded t.accumulated = kept)
    (hrate : ⌈t.framerate⌉ = c) (hpos : 0 < t.framerate)
    (hlong : (t.accumulated.length + 1 : ℚ) ≤ 359999 * t.framerate)
    (hmedia : disk.files t.mediaPath = some media)
    (hurl : t.mediaPath ∉ effectFiles ∪ tempPaths ∪ {t.outputPath ++ ".otio"})
    (hempty : t.outputPath ≠ "") (hout : t.outputPath ∉ effectFiles ∪ tempPaths) :
    ∃ clips ranges, Filmed t f disk dump media videoFrames c kept clips ranges := by
  obtain ⟨clips,hclips,heffects⟩ := makeClips_plain hc hplain
  have hclosed := makeClips_closed hc (by decide) hrate hclips
  have hflat : (clips.map fun _ => ([] : List EffectCommand)).flatten = [] := by
    rw [List.flatten_eq_nil_iff]
    intro cmds hcmds
    obtain ⟨-,-,rfl⟩ := List.mem_map.mp hcmds
    rfl
  refine ⟨clips,clips.map fun clip => clip.timeRange.ends,hclips,hincluded ▸ hclosed,?_,?_⟩
  · intro hnone
    obtain rfl := List.map_eq_nil_iff.mp hnone
    rw [FFmpegTask.findClips_timeline,renderActions,if_neg fun he => hempty ((isEmpty_iff _).mp he)]
    rfl
  · intro hsome hfew
    have hlong' : (((1 : Int) : ℚ) + t.accumulated.length) ≤ 359999 * t.framerate := by
      rw [Int.cast_one,add_comm]
      exact hlong
    obtain ⟨actions,hactions,hfile⟩ := written_ranges (some .video) videoFrames f dump hc
      (by decide) hpos (fun h => hsome (List.map_eq_nil_iff.mpr h))
      (by rwa [List.length_map] at hfew) hclosed hlong' hmedia hurl hempty hout
      (commands_plain heffects) (by rw [hflat]; exact List.forall_mem_nil _)
    rw [hflat] at hfile
    exact ⟨actions,hactions,hfile⟩

theorem film_written (h : Calm d) (hm : Memoryless d) (hrun : ∀ n, d.run n = true)
    (hr : DetectorRequest d.pluginManager r) (hplain : r.DetectorsOnly) (m : Media) (st : σ)
    (t : FFmpegTask) (f : Ffmpeg C) (disk : Disk C) (dump : Option C) (media : C)
    (hrate : ⌈t.framerate⌉ = c) (hpos : 0 < t.framerate)
    (hlong : (m.video.length + 1 : ℚ) ≤ 359999 * t.framerate)
    (hmedia : disk.files t.mediaPath = some media)
    (hurl : t.mediaPath ∉ effectFiles ∪ tempPaths ∪ {t.outputPath ++ ".otio"})
    (hempty : t.outputPath ≠ "") (hout : t.outputPath ∉ effectFiles ∪ tempPaths) :
    ∃ A₀, LogicAnalyzer.make r.tokens = some A₀ ∧ ∀ A, Used A₀ A → ∃ n, ∀ fuel ≥ n, ∃ w,
      d.worker fuel (Worker.initial A (AvSynchronizer.make m.extractor) st) = some (.ok w) ∧
        w.completed = [oviErrorNone] ∧ ∃ clips ranges,
          Filmed (t.on w.accumulator.rawdata) f disk dump media m.video.length c (m.Kept d r st)
            clips ranges := by
  obtain ⟨A₀,hmake,hshows⟩ := make_shows hr.uids
  refine ⟨A₀,hmake,fun A hused => ?_⟩
  have hA : A.Shows r.plan := by
    rw [LogicAnalyzer.Shows,hused.skeleton]
    exact hshows
  have hnodup : (r.items.flatMap Term.effects).Nodup := by
    have hnone : r.items.flatMap Term.effects = [] :=
      List.flatMap_eq_nil_iff.mpr fun t ht => (hplain t ht).1
    rw [hnone]
    exact List.nodup_nil
  obtain ⟨n,hn⟩ := judged_by_itself h hrun hr hnodup
    (fun k (_ : k < m.video.length / d.groupSize) =>
      answers_of_memoryless h hm (m.group d.groupSize k) st) hA st
  refine ⟨n,fun fuel hf => ?_⟩
  obtain ⟨w,hworker,hanalysed⟩ := hn fuel hf
  obtain ⟨groups,hlength,hraw,-⟩ := hanalysed.recorded
  have hframes : w.accumulator.rawdata.length ≤ m.video.length := by
    rw [hraw,recorded_length,hlength]
    exact Nat.div_mul_le_self _ _
  refine ⟨w,hworker,hanalysed.completed,?_⟩
  refine @filmed_plain _ c (t.on w.accumulator.rawdata) f disk dump media _ _ ?_
    (hanalysed.undetected hplain) (hanalysed.included hplain) hrate hpos ?_ hmedia hurl hempty
    hout
  · change Consecutive 1 w.accumulator.rawdata
    rw [hraw]
    exact recorded_consecutive _ _
  · refine le_trans ?_ hlong
    have hcast : (w.accumulator.rawdata.length : ℚ) ≤ m.video.length := by exact_mod_cast hframes
    exact add_le_add_left hcast 1

end Film

section Sample

def faceOnlyRequest : LinkRequest := ⟨⟨false,"FaceDetect.1",[]⟩,[]⟩

theorem faceOnlyRequest_request : DetectorRequest samplePlugins faceOnlyRequest := by
  constructor <;> decide

theorem faceOnlyRequest_plain : faceOnlyRequest.DetectorsOnly := by
  unfold LinkRequest.DetectorsOnly
  decide

theorem film_written_blinking :
    ∃ A₀, LogicAnalyzer.make faceOnlyRequest.tokens = some A₀ ∧ ∀ A, Used A₀ A →
      ∃ n, ∀ fuel ≥ n, ∃ w,
        blinking.worker fuel (Worker.initial A (AvSynchronizer.make threeFrames.extractor) ()) =
          some (.ok w) ∧
        w.completed = [oviErrorNone] ∧ ∃ clips ranges,
          Filmed (twoScenes.on w.accumulator.rawdata) counting ⟨0,fun _ => some (0,[])⟩ none (0,[])
            3 2 (threeFrames.Kept blinking faceOnlyRequest ()) clips ranges := by
  have hin : "in.mp4" ∉ effectFiles ∧ "in.mp4" ∉ tempPaths :=
    @ordinary_path _ 'i' rfl (by decide) (by decide)
  have hout : "out.mp4" ∉ effectFiles ∧ "out.mp4" ∉ tempPaths :=
    @ordinary_path _ 'o' rfl (by decide) (by decide)
  refine film_written blinking_calm blinking_memoryless (fun _ => rfl) faceOnlyRequest_request
    faceOnlyRequest_plain threeFrames () twoScenes counting ⟨0,fun _ => some (0,[])⟩ none (0,[])
    (by norm_num [twoScenes,Int.ceil_eq_iff]) (by norm_num [twoScenes])
    (by norm_num [twoScenes,threeFrames]) rfl ?_ (by decide) ?_
  · rintro ((h | h) | h)
    · exact hin.1 h
    · exact hin.2 h
    · exact absurd h (by simp [twoScenes])
  · rintro (h | h)
    · exact hout.1 h
    · exact hout.2 h

end Sample

end Ovi
