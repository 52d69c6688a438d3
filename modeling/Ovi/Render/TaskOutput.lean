import Ovi.Render.RenderedOutput
import Ovi.Render.TimelineHelper

namespace Ovi

open FFmpegRender TimelineHelper

-- a clip with its media reference, as `find_clips` hands it to the plugin
def TrackChild.renderClip : TrackChild → Option RenderClip
  | .gap _ _ => none
  | .clip _ ref range effects =>
    some ⟨⟨toSeconds range.startFrameNum ref.rate,
      toSeconds (range.startFrameNum + range.duration) ref.rate,ref.targetUrl⟩,ref.rate,effects⟩

def findClips (tracks : List Track) : List RenderClip :=
  tracks.flatMap fun track => track.children.filterMap TrackChild.renderClip

namespace FFmpegTask

def timelineCalls (t : FFmpegTask) (type : Option MediaType) (videoFrames : Nat)
    (clips : List Clip) : List TimelineCall :=
  [.appendTrack "Track-001" type [],.makeMediaRef t.mediaPath t.framerate videoFrames] ++
    clips.map (fun clip => .appendClip "Track-001" "" clip.timeRange t.mediaPath clip.effects) ++
      [.getTimeline]

def timelineHelper (t : FFmpegTask) (type : Option MediaType) (videoFrames : Nat)
    (clips : List Clip) : TimelineHelper :=
  after t.framerate (t.timelineCalls type videoFrames clips).reverse

section Timeline

open TimelineCall

variable {t : FFmpegTask} {type : Option MediaType} {videoFrames : Nat} {clips : List Clip}

def opening (t : FFmpegTask) (type : Option MediaType) (videoFrames : Nat) : List TimelineCall :=
  [.makeMediaRef t.mediaPath t.framerate videoFrames,.appendTrack "Track-001" type []]

def appended (t : FFmpegTask) (type : Option MediaType) (videoFrames : Nat)
    (clips : List Clip) : List TimelineCall :=
  (clips.map fun clip =>
    .appendClip "Track-001" "" clip.timeRange t.mediaPath clip.effects).reverse ++
      t.opening type videoFrames

theorem timelineCalls_reverse : (t.timelineCalls type videoFrames clips).reverse =
    .getTimeline :: t.appended type videoFrames clips := by
  rw [timelineCalls,List.reverse_append,List.reverse_append]
  rfl

theorem appended_concat (clip : Clip) : t.appended type videoFrames (clips ++ [clip]) =
    .appendClip "Track-001" "" clip.timeRange t.mediaPath clip.effects ::
      t.appended type videoFrames clips := by
  rw [appended,List.map_append,List.reverse_append]
  rfl

structure Appended (t : FFmpegTask) (type : Option MediaType) (videoFrames : Nat)
    (clips : List Clip) (calls : List TimelineCall) : Prop where
  names : names calls = ["Track-001"]
  ref : refs calls t.mediaPath = some ⟨t.mediaPath,t.framerate,videoFrames⟩
  clips : children t.framerate "Track-001" calls = clips.map fun clip =>
    .clip "" ⟨t.mediaPath,t.framerate,videoFrames⟩ clip.timeRange clip.effects
  tracks : ∀ calls', tracksOf t.framerate calls' calls =
    [⟨"Track-001",.ofType type,[],children t.framerate "Track-001" calls'⟩]
  delivered : delivered calls = none

theorem appended_calls (clips : List Clip) :
    Appended t type videoFrames clips (t.appended type videoFrames clips) := by
  induction clips using List.reverseRecOn with
  | nil => exact ⟨rfl,if_pos (beq_self_eq_true _),rfl,fun _ => rfl,rfl⟩
  | append_singleton clips clip ih =>
    rw [appended_concat]
    refine ⟨ih.names,ih.ref,?_,ih.tracks,ih.delivered⟩
    have hname : "Track-001" ∈ names (t.appended type videoFrames clips) := by
      rw [ih.names]
      exact List.mem_singleton_self _
    rw [children_cons hname,ih.clips,child,if_pos (beq_self_eq_true _),ih.ref,List.map_append]
    rfl

theorem filterMap_renderClip (ref : MediaRef) (clips : List Clip) :
    (clips.map fun clip => TrackChild.clip "" ref clip.timeRange clip.effects).filterMap
      TrackChild.renderClip = clips.map fun clip =>
        ⟨⟨toSeconds clip.timeRange.startFrameNum ref.rate,
          toSeconds (clip.timeRange.startFrameNum + clip.timeRange.duration) ref.rate,
          ref.targetUrl⟩,ref.rate,clip.effects⟩ := by
  induction clips with
  | nil => rfl
  | cons clip clips ih => exact congrArg (List.cons _) ih

theorem findClips_timeline (t : FFmpegTask) (type : Option MediaType) (videoFrames : Nat)
    (clips : List Clip) :
    findClips (t.timelineHelper type videoFrames clips).timeline = clips.map t.renderClip := by
  have happended := @appended_calls t type videoFrames clips
  have hkeeps := keeps_after t.framerate (t.timelineCalls type videoFrames clips).reverse
  rw [timelineCalls_reverse] at hkeeps
  have hattached : attachedTo (.getTimeline :: t.appended type videoFrames clips) = 1 := by
    rw [attachedTo,delivered,happended.delivered,Option.none_or,happended.names,
      if_neg (List.cons_ne_nil _ _)]
    exact congrArg List.length happended.names
  have htracks : tracksOf t.framerate (.getTimeline :: t.appended type videoFrames clips)
      (.getTimeline :: t.appended type videoFrames clips) =
      [⟨"Track-001",.ofType type,[],children t.framerate "Track-001"
        (.getTimeline :: t.appended type videoFrames clips)⟩] :=
    happended.tracks _
  have hname : "Track-001" ∈ names (t.appended type videoFrames clips) := by
    rw [happended.names]
    exact List.mem_singleton_self _
  have hchild : child t.framerate "Track-001" (t.appended type videoFrames clips) .getTimeline =
      none := rfl
  rw [timelineHelper,timelineCalls_reverse,timeline,hkeeps.tracks,hkeeps.attached,
    length_rangesOf,hattached,
    htracks,children_cons hname,hchild,Option.toList_none,List.append_nil,happended.clips]
  exact (List.append_nil _).trans (filterMap_renderClip _ clips)

end Timeline

end FFmpegTask

section Output

open GapClosing

variable {C : Type} {task : RenderTask} {p : RenderPlugins} {clips : List Clip}
  {first : Int} {c : Nat} {framerate : ℚ} {accumulated : List RawData}

theorem makeClip_range {tr : TimeRangeWithMetadata × Nat} {clip : Clip}
    (h : RenderTask.makeClip p tr = .ok clip) : clip.timeRange = tr.1.timeRange := by
  rw [RenderTask.makeClip] at h
  cases heffects : RenderTask.makeEffectList p.pluginManager (p.effectInfo tr.2)
      tr.1.collection with
  | error fault =>
    rw [heffects] at h
    cases h
  | ok effects =>
    rw [heffects] at h
    rw [← Except.ok.inj h]

theorem mapM_ranges {trs : List (TimeRangeWithMetadata × Nat)}
    (h : trs.mapM (RenderTask.makeClip p) = .ok clips) :
    clips.map Clip.timeRange = trs.map fun tr => tr.1.timeRange := by
  induction trs generalizing clips with
  | nil =>
    obtain rfl : clips = [] := (Except.ok.inj h).symm
    rfl
  | cons tr trs ih =>
    obtain ⟨clip,clips,rfl,hclip,hclips⟩ := Checks.mapM_cons_ok_iff.mp h
    rw [List.map_cons,List.map_cons,ih hclips,makeClip_range hclip]

theorem makeClips_ranges (h : task.makeClips p = .ok clips) : clips.map Clip.timeRange =
    (RenderTask.makeTimeRange task.accumulated task.framerate).map fun tr => tr.timeRange := by
  have hzip := List.zipIdx_map_fst 0 (RenderTask.makeTimeRange task.accumulated task.framerate)
  rw [mapM_ranges h]
  conv_rhs => rw [← hzip,List.map_map]
  rfl

theorem makeTimeRange_closed (hc : Consecutive first accumulated) (hfirst : 0 ≤ first)
    (hrate : ⌈framerate⌉ = c) : Closed (frameIncluded accumulated) c
      ((RenderTask.makeTimeRange accumulated framerate).map fun tr => tr.timeRange.ends) := by
  have hmarked : frameIncluded accumulated =
      fun k => ∃ x ∈ includedFrames accumulated, x.frameNumber = k :=
    funext fun k => propext frameIncluded_iff
  rw [RenderTask.makeTimeRange,result_ends hc hfirst (by rw [hrate,Int.toNat_natCast]),hmarked]
  exact closed_groups (included_sorted hc)

theorem frameIncluded_bounds (hc : Consecutive first accumulated) {k : Int}
    (h : frameIncluded accumulated k) : first ≤ k ∧ k < first + accumulated.length := by
  obtain ⟨x,hx,-,rfl⟩ := h
  obtain ⟨i,hi⟩ := List.mem_iff_getElem?.mp hx
  have hlt := (List.getElem?_eq_some_iff.mp hi).1
  have := hc i x hi
  omega

-- the part the code cuts for a range, from the time of its first number to that of the number
-- behind its last; the frame of number `k` is shown from `k - 1` frames on
def Ffmpeg.window (f : Ffmpeg C) (framerate : ℚ) (c : C) (r : Int × Int) : C :=
  f.part (milliseconds (toSeconds r.1 framerate)).toNat
    (milliseconds (toSeconds (r.2 + 1) framerate)).toNat c

theorem piece_window (t : FFmpegTask) (f : Ffmpeg C) (c : C) (clip : Clip) :
    f.piece c (t.renderClip clip).clip = f.window t.framerate c clip.timeRange.ends := by
  have hend : clip.timeRange.startFrameNum + clip.timeRange.duration - 1 + 1 =
      clip.timeRange.startFrameNum + clip.timeRange.duration := by omega
  rw [Ffmpeg.piece,Ffmpeg.window,TimeRange.ends,hend]
  rfl

theorem renderClip_short {t : FFmpegTask} {ranges : List (Int × Int)} {clip : Clip}
    (hclosed : Closed (frameIncluded t.accumulated) c ranges)
    (hconsecutive : Consecutive first t.accumulated) (hfirst : 0 ≤ first)
    (hpos : 0 < t.framerate)
    (hlong : (first + t.accumulated.length : ℚ) ≤ 359999 * t.framerate)
    (hmem : clip.timeRange.ends ∈ ranges) : (t.renderClip clip).clip.Short := by
  obtain ⟨hle,hlow,hhigh⟩ := hclosed.ends _ hmem
  have hlow' := (frameIncluded_bounds hconsecutive hlow).1
  have hhigh' := (frameIncluded_bounds hconsecutive hhigh).2
  simp only [TimeRange.ends] at hle hlow' hhigh'
  have hshort : ∀ value : Int, 0 ≤ value → value ≤ first + t.accumulated.length →
      0 ≤ toSeconds value t.framerate ∧ toSeconds value t.framerate ≤ 359999 := by
    intro value hvalue hle
    have hcast : (value : ℚ) ≤ first + t.accumulated.length := by exact_mod_cast hle
    exact toSeconds_le (w := 359999) hvalue hpos ((div_le_iff₀ hpos).mpr (hcast.trans hlong))
      (by norm_num)
  exact ⟨hshort _ (by omega) (by omega),hshort _ (by omega) (by omega)⟩

theorem written_ranges {t : FFmpegTask} (type : Option MediaType) (videoFrames : Nat)
    (f : Ffmpeg C) {d : Disk C} (dump : Option C) {media : C} {cmds : List (List EffectCommand)}
    (hconsecutive : Consecutive first t.accumulated) (hfirst : 0 ≤ first)
    (hpos : 0 < t.framerate) (hne : clips ≠ []) (hfew : clips.length ≤ 100)
    (hclosed : Closed (frameIncluded t.accumulated) c
      (clips.map fun clip => clip.timeRange.ends))
    (hlong : (first + t.accumulated.length : ℚ) ≤ 359999 * t.framerate)
    (hmedia : d.files t.mediaPath = some media)
    (hurl : t.mediaPath ∉ effectFiles ∪ tempPaths ∪ {t.outputPath ++ ".otio"})
    (hempty : t.outputPath ≠ "") (hout : t.outputPath ∉ effectFiles ∪ tempPaths)
    (hcmds : (clips.map t.renderClip).mapM (RenderClip.commands t.host) = .ok cmds)
    (hsupported : ∀ cmd ∈ cmds.flatten, cmd ≠ .unsupported) :
    ∃ actions, renderActions t.host t.outputPath t.fileNum
        (findClips (t.timelineHelper type videoFrames clips).timeline) = .ok actions ∧
      ((d.dumped t.outputPath dump).after f.tool actions).files t.outputPath =
        f.joined ((clips.map fun clip => clip.timeRange.ends).map
          (f.window t.framerate (f.effects cmds.flatten media))) := by
  have hshort : ∀ clip ∈ clips.map t.renderClip, clip.clip.Short := by
    intro renderClip hmem
    obtain ⟨clip,hclip,rfl⟩ := List.mem_map.mp hmem
    exact renderClip_short hclosed hconsecutive hfirst hpos hlong (List.mem_map_of_mem hclip)
  obtain ⟨actions,hactions,hfile⟩ := render_writes f d dump t.host t.outputPath t.fileNum
    (clips.map t.renderClip) t.mediaPath media cmds (fun h => hne (List.map_eq_nil_iff.mp h))
    (by rw [List.length_map]; exact hfew) hshort
    (fun renderClip hmem => by obtain ⟨clip,-,rfl⟩ := List.mem_map.mp hmem; rfl) hmedia hurl
    hempty hout hcmds hsupported
  refine ⟨actions,?_,hfile.trans ?_⟩
  · rw [FFmpegTask.findClips_timeline]
    exact hactions
  · rw [List.map_map,List.map_map]
    exact congrArg f.joined (List.map_congr_left fun clip _ => piece_window t f _ clip)

theorem makeClips_closed {t : FFmpegTask} (hconsecutive : Consecutive first t.accumulated)
    (hfirst : 0 ≤ first) (hrate : ⌈t.framerate⌉ = c) (hclips : t.makeClips t.plugins = .ok clips) :
    Closed (frameIncluded t.accumulated) c (clips.map fun clip => clip.timeRange.ends) := by
  have hends : clips.map (fun clip => clip.timeRange.ends) =
      (RenderTask.makeTimeRange t.accumulated t.framerate).map fun tr => tr.timeRange.ends := by
    have := congrArg (List.map TimeRange.ends) (makeClips_ranges hclips)
    rwa [List.map_map,List.map_map] at this
  rw [hends]
  exact makeTimeRange_closed hconsecutive hfirst hrate

end Output

section Sample

def counting : Ffmpeg (Nat × List (Nat × Nat)) where
  effect := fun _ c => (c.1 + 1,c.2)
  part := fun startMs endMs c => (c.1,[(startMs,endMs)])
  concat := fun cs => ((cs.map Prod.fst).foldl Nat.add 0,cs.flatMap Prod.snd)

def twoScenes : FFmpegTask where
  renderId := "FFmpegRender.1"
  framerate := 2
  accumulated := numbered 1 [(true,∅),(false,∅),(false,∅),(false,∅),(true,∅)]
  outputPath := "out.mp4"
  mediaPath := "in.mp4"
  host := plainHost
  waitStatus := fun _ => 0
  fileNum := 0
  pluginManager := PluginManager.empty.load 0 "FFmpegRender" ⟨.render⟩
  effectInfo := fun _ _ => .ok ∅

end Sample

end Ovi
