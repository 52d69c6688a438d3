import Ovi.Flow.AvSynchronizer
import Ovi.Render.RenderRun

namespace Ovi

structure MediaRef where
  targetUrl : String
  rate : ℚ
  duration : ℚ

inductive TrackChild where
  | gap (range : TimeRange) (rate : ℚ)
  | clip (clipName : String) (ref : MediaRef) (range : TimeRange) (effects : List Effect)

inductive TrackKind where
  | video
  | audio
deriving DecidableEq, Repr

-- no type stands for `MEDIA_TYPE_NONE`
def TrackKind.ofType (type : Option MediaType) : TrackKind :=
  if type = some .audio then .audio else .video

structure Track where
  name : String
  kind : TrackKind
  effects : List Effect
  children : List TrackChild

-- the timeline holds as many of the tracks as have a source range, and shares them; a range is
-- given by the children it was made from
structure TimelineHelper where
  globalFramerate : ℚ
  tracks : List Track
  mediaRefs : List MediaRef
  sourceRanges : List (List TrackChild)

inductive TimelineCall where
  | makeMediaRef (mediaPath : String) (framerate duration : ℚ)
  | appendTrack (name : String) (type : Option MediaType) (effectList : List Effect)
  | appendGap (trackName : String) (range : TimeRange)
  | appendClip (trackName clipName : String) (range : TimeRange) (mediaPath : String)
      (effectList : List Effect)
  | getTimeline

namespace TimelineHelper

def make (framerate : ℚ) : TimelineHelper := ⟨framerate,[],[],[]⟩

def findRef (th : TimelineHelper) (path : String) : Option MediaRef :=
  th.mediaRefs.find? (fun ref => ref.targetUrl == path)

def appendChild (name : String) (child : TrackChild) : List Track → Option (List Track)
  | [] => none
  | track :: tracks =>
    if track.name == name then
      some ({ track with children := track.children ++ [child] } :: tracks)
    else (appendChild name child tracks).map (List.cons track)

def append (th : TimelineHelper) (name : String) (child : TrackChild) :
    TimelineHelper × Except ErrorCode Unit :=
  match appendChild name child th.tracks with
  | none => (th,.error oviErrorInvalidParameter)
  | some tracks => ({ th with tracks := tracks },.ok ())

-- a track that has a parent is refused by `append_child`, and `trimmed_range` has given it the
-- source range it had
def call (th : TimelineHelper) : TimelineCall → TimelineHelper × Except ErrorCode Unit
  | .makeMediaRef mediaPath framerate duration =>
    match th.findRef mediaPath with
    | some _ => (th,.ok ())
    | none => ({ th with mediaRefs := th.mediaRefs ++ [⟨mediaPath,framerate,duration⟩] },.ok ())
  | .appendTrack name type effectList =>
    ({ th with tracks := th.tracks ++ [⟨name,.ofType type,effectList,[]⟩] },.ok ())
  | .appendGap trackName range => th.append trackName (.gap range th.globalFramerate)
  | .appendClip trackName clipName range mediaPath effectList =>
    match th.findRef mediaPath with
    | none => (th,.error oviErrorInvalidParameter)
    | some ref => th.append trackName (.clip clipName ref range effectList)
  | .getTimeline =>
    if th.sourceRanges.isEmpty then
      ({ th with sourceRanges := th.tracks.map Track.children },.ok ())
    else (th,.error oviErrorInvalidOperation)

def timeline (th : TimelineHelper) : List Track := th.tracks.take th.sourceRanges.length

-- the state after some calls, the latest of them first
def after (framerate : ℚ) : List TimelineCall → TimelineHelper
  | [] => make framerate
  | c :: past => ((after framerate past).call c).1

end TimelineHelper

namespace TimelineCall

def refs : List TimelineCall → String → Option MediaRef
  | [],_ => none
  | .makeMediaRef mediaPath framerate duration :: past,path =>
    (refs past path).or (if mediaPath == path then some ⟨mediaPath,framerate,duration⟩ else none)
  | _ :: past,path => refs past path

def names : List TimelineCall → List String
  | [] => []
  | .appendTrack name _ _ :: past => names past ++ [name]
  | _ :: past => names past

def child (framerate : ℚ) (name : String) (past : List TimelineCall) :
    TimelineCall → Option TrackChild
  | .appendGap trackName range =>
    if trackName == name then some (.gap range framerate) else none
  | .appendClip trackName clipName range mediaPath effectList =>
    if trackName == name then
      (refs past mediaPath).map fun ref => .clip clipName ref range effectList
    else none
  | _ => none

def children (framerate : ℚ) (name : String) : List TimelineCall → List TrackChild
  | [] => []
  | c :: past =>
    if name ∈ names past then children framerate name past ++ (child framerate name past c).toList
    else []

def tracksOf (framerate : ℚ) (calls : List TimelineCall) : List TimelineCall → List Track
  | [] => []
  | .appendTrack name type effectList :: past => tracksOf framerate calls past ++
      [⟨name,.ofType type,effectList,
        if name ∈ names past then [] else children framerate name calls⟩]
  | _ :: past => tracksOf framerate calls past

-- the calls before the tracks were attached
def delivered : List TimelineCall → Option (List TimelineCall)
  | [] => none
  | .getTimeline :: past => (delivered past).or (if names past = [] then none else some past)
  | _ :: past => delivered past

def attachedTo (calls : List TimelineCall) : Nat := (delivered calls).elim 0 fun past =>
  (names past).length

def rangesOf (framerate : ℚ) (calls : List TimelineCall) : List (List TrackChild) :=
  (delivered calls).elim [] fun past => (tracksOf framerate past past).map Track.children

def Accepted (past : List TimelineCall) : TimelineCall → Prop
  | .makeMediaRef _ _ _ => True
  | .appendTrack _ _ _ => True
  | .appendGap trackName _ => trackName ∈ names past
  | .appendClip trackName _ _ mediaPath _ => trackName ∈ names past ∧ (refs past mediaPath).isSome
  | .getTimeline => delivered past = none

end TimelineCall

section History

open TimelineHelper TimelineCall

variable {framerate : ℚ} {name : String} {new : TrackChild} {past calls : List TimelineCall}

theorem appendChild_concat (track : Track) (tracks : List Track) :
    appendChild name new (tracks ++ [track]) =
      ((appendChild name new tracks).map (· ++ [track])).or
        (if track.name == name then
          some (tracks ++ [{ track with children := track.children ++ [new] }]) else none) := by
  induction tracks with
  | nil => simp only [List.nil_append,appendChild,Option.map_none,Option.none_or]
  | cons first tracks ih =>
    rw [List.cons_append,appendChild,appendChild,ih]
    split
    · rfl
    · cases appendChild name new tracks with
      | some tracks' => rfl
      | none =>
        simp only [Option.map_none,Option.none_or]
        split <;> rfl

theorem names_tracksOf (calls past : List TimelineCall) :
    (tracksOf framerate calls past).map Track.name = names past := by
  induction past with
  | nil => rfl
  | cons c past ih =>
    cases c with
    | appendTrack name type effectList =>
      rw [tracksOf,names,List.map_append,ih]
      rfl
    | makeMediaRef mediaPath framerate duration => exact ih
    | appendGap trackName range => exact ih
    | appendClip trackName clipName range mediaPath effectList => exact ih
    | getTimeline => exact ih

theorem length_rangesOf (calls : List TimelineCall) :
    (rangesOf framerate calls).length = attachedTo calls := by
  rw [rangesOf,attachedTo]
  cases delivered calls with
  | none => rfl
  | some past =>
    rw [Option.elim_some,Option.elim_some,List.length_map,← @names_tracksOf framerate past past,
      List.length_map]

theorem children_cons (h : name ∈ names past) (c : TimelineCall) :
    children framerate name (c :: past) =
      children framerate name past ++ (child framerate name past c).toList := if_pos h

theorem tracksOf_frame {c : TimelineCall} (hsub : ∀ n ∈ names calls, n ∈ names past)
    (h : ∀ n ∈ names calls, child framerate n past c = none) :
    tracksOf framerate (c :: past) calls = tracksOf framerate past calls := by
  induction calls with
  | nil => rfl
  | cons call calls ih =>
    cases call with
    | appendTrack name type effectList =>
      have hin : ∀ n ∈ names calls, n ∈ names (.appendTrack name type effectList :: calls) :=
        fun n hn => List.mem_append_left _ hn
      have hname : name ∈ names (.appendTrack name type effectList :: calls) :=
        List.mem_append_right _ List.mem_cons_self
      rw [tracksOf,tracksOf,ih (fun n hn => hsub n (hin n hn)) fun n hn => h n (hin n hn),
        children_cons (hsub name hname),h name hname,Option.toList_none,List.append_nil]
    | makeMediaRef mediaPath framerate duration => exact ih hsub h
    | appendGap trackName range => exact ih hsub h
    | appendClip trackName clipName range mediaPath effectList => exact ih hsub h
    | getTimeline => exact ih hsub h

theorem appendChild_tracksOf {c : TimelineCall} (hsub : ∀ n ∈ names calls, n ∈ names past)
    (hnew : child framerate name past c = some new)
    (hother : ∀ n, n ≠ name → child framerate n past c = none) :
    appendChild name new (tracksOf framerate past calls) =
      if name ∈ names calls then some (tracksOf framerate (c :: past) calls) else none := by
  induction calls with
  | nil => rfl
  | cons call calls ih =>
    cases call with
    | appendTrack n type effectList =>
      have hin : ∀ m ∈ names calls, m ∈ names (.appendTrack n type effectList :: calls) :=
        fun m hm => List.mem_append_left _ hm
      have hn : n ∈ names past := hsub n (List.mem_append_right _ List.mem_cons_self)
      rw [tracksOf,tracksOf,appendChild_concat,ih fun m hm => hsub m (hin m hm),names]
      by_cases hname : name ∈ names calls
      · rw [if_pos hname,if_pos (List.mem_append_left _ hname),Option.map_some,Option.some_or]
        by_cases hdup : n ∈ names calls
        · rw [if_pos hdup,if_pos hdup]
        · have hne : n ≠ name := fun he => hdup (he ▸ hname)
          rw [children_cons hn,hother n hne,Option.toList_none,List.append_nil]
      · rw [if_neg hname,Option.map_none,Option.none_or]
        by_cases heq : n = name
        · subst heq
          rw [if_pos (beq_self_eq_true n),
            if_pos (List.mem_append_right _ List.mem_cons_self),if_neg hname,if_neg hname,
            children_cons hn,hnew,tracksOf_frame (fun m hm => hsub m (hin m hm))
              fun m hm => hother m fun he => hname (he ▸ hm)]
          rfl
        · rw [if_neg (by simpa using heq),if_neg]
          rw [List.mem_append,List.mem_singleton]
          exact fun h => h.elim hname fun he => heq he.symm
    | makeMediaRef mediaPath framerate duration => exact ih hsub
    | appendGap trackName range => exact ih hsub
    | appendClip trackName clipName range mediaPath effectList => exact ih hsub
    | getTimeline => exact ih hsub

structure Keeps (framerate : ℚ) (calls : List TimelineCall) (th : TimelineHelper) : Prop where
  rate : th.globalFramerate = framerate
  tracks : th.tracks = tracksOf framerate calls calls
  refs : ∀ path, th.findRef path = refs calls path
  nodup : (th.mediaRefs.map MediaRef.targetUrl).Nodup
  attached : th.sourceRanges = rangesOf framerate calls

variable {th : TimelineHelper}

theorem Keeps.makeMediaRef (h : Keeps framerate past th) (mediaPath : String)
    (rate duration : ℚ) : Keeps framerate (.makeMediaRef mediaPath rate duration :: past)
      (th.call (.makeMediaRef mediaPath rate duration)).1 ∧
    (th.call (.makeMediaRef mediaPath rate duration)).2 = .ok () := by
  have htracks : th.tracks = tracksOf framerate (.makeMediaRef mediaPath rate duration :: past)
      (.makeMediaRef mediaPath rate duration :: past) :=
    h.tracks.trans (tracksOf_frame (fun _ hn => hn) fun _ _ => rfl).symm
  cases hfind : th.findRef mediaPath with
  | some ref =>
    have hcall : th.call (.makeMediaRef mediaPath rate duration) = (th,.ok ()) := by
      rw [call,hfind]
    rw [hcall]
    refine ⟨⟨h.rate,htracks,fun path => ?_,h.nodup,h.attached⟩,rfl⟩
    rw [TimelineCall.refs,← h.refs path]
    split
    · rename_i hpath
      rw [← beq_iff_eq.mp hpath,hfind]
      rfl
    · rw [Option.or_none]
  | none =>
    have hcall : th.call (.makeMediaRef mediaPath rate duration) =
        ({ th with mediaRefs := th.mediaRefs ++ [⟨mediaPath,rate,duration⟩] },.ok ()) := by
      rw [call,hfind]
    rw [hcall]
    refine ⟨⟨h.rate,htracks,fun path => ?_,?_,h.attached⟩,rfl⟩
    · rw [TimelineCall.refs,← h.refs path,findRef,List.find?_append,findRef,List.find?_singleton]
    · rw [List.map_append,List.nodup_append]
      refine ⟨h.nodup,List.nodup_singleton _,fun url hurl path hpath => ?_⟩
      obtain ⟨ref,hmem,rfl⟩ := List.mem_map.mp hurl
      rw [List.mem_singleton.mp hpath]
      intro he
      rw [findRef,List.find?_eq_none] at hfind
      exact hfind ref hmem (beq_iff_eq.mpr he)

theorem Keeps.appendTrack (h : Keeps framerate past th) (name : String)
    (type : Option MediaType) (effectList : List Effect) :
    Keeps framerate (.appendTrack name type effectList :: past)
      (th.call (.appendTrack name type effectList)).1 := by
  refine ⟨h.rate,?_,h.refs,h.nodup,h.attached⟩
  have hframe := @tracksOf_frame framerate past past (.appendTrack name type effectList)
    (fun n hn => hn) fun _ _ => rfl
  rw [tracksOf,hframe,← h.tracks]
  refine congrArg
    (fun children => th.tracks ++ [Track.mk name (.ofType type) effectList children]) ?_
  split
  · rfl
  · rename_i hname
    exact (if_neg hname).symm

theorem Keeps.append {c : TimelineCall} (h : Keeps framerate past th)
    (hnew : child framerate name past c = some new)
    (hother : ∀ n, n ≠ name → child framerate n past c = none)
    (hcalls : tracksOf framerate (c :: past) (c :: past) = tracksOf framerate (c :: past) past)
    (hrefs : TimelineCall.refs (c :: past) = TimelineCall.refs past)
    (hattached : rangesOf framerate (c :: past) = rangesOf framerate past) :
    Keeps framerate (c :: past) (th.append name new).1 ∧
      ((th.append name new).2 = .ok () ↔ name ∈ names past) ∧
      (name ∉ names past → (th.append name new).1 = th) := by
  have happend := appendChild_tracksOf (fun n hn => hn) hnew hother
  rw [← h.tracks] at happend
  by_cases hname : name ∈ names past
  · rw [if_pos hname] at happend
    rw [TimelineHelper.append,happend]
    refine ⟨⟨h.rate,hcalls.symm,fun path => ?_,h.nodup,h.attached.trans hattached.symm⟩,
      iff_of_true rfl hname,fun hn => absurd hname hn⟩
    rw [hrefs]
    exact h.refs path
  · rw [if_neg hname] at happend
    rw [TimelineHelper.append,happend]
    have hframe := tracksOf_frame (fun n hn => hn) fun n (hn : n ∈ names past) =>
      hother n fun he => hname (he ▸ hn)
    refine ⟨⟨h.rate,h.tracks.trans (hcalls.trans hframe).symm,fun path => ?_,h.nodup,
      h.attached.trans hattached.symm⟩,iff_of_false (fun he => by cases he) hname,fun _ => rfl⟩
    rw [hrefs]
    exact h.refs path

theorem Keeps.appendGap (h : Keeps framerate past th) (trackName : String) (range : TimeRange) :
    Keeps framerate (.appendGap trackName range :: past)
      (th.call (.appendGap trackName range)).1 ∧
    ((th.call (.appendGap trackName range)).2 = .ok () ↔ trackName ∈ names past) ∧
    (trackName ∉ names past → (th.call (.appendGap trackName range)).1 = th) := by
  rw [call,h.rate]
  refine h.append ?_ (fun n hn => if_neg ?_) rfl rfl rfl
  · exact if_pos (beq_self_eq_true trackName)
  · simpa using fun he => hn he.symm

theorem Keeps.appendClip (h : Keeps framerate past th) (trackName clipName : String)
    (range : TimeRange) (mediaPath : String) (effectList : List Effect) :
    Keeps framerate (.appendClip trackName clipName range mediaPath effectList :: past)
      (th.call (.appendClip trackName clipName range mediaPath effectList)).1 ∧
    ((th.call (.appendClip trackName clipName range mediaPath effectList)).2 = .ok () ↔
      trackName ∈ names past ∧ (TimelineCall.refs past mediaPath).isSome) ∧
    (¬ (trackName ∈ names past ∧ (TimelineCall.refs past mediaPath).isSome) →
      (th.call (.appendClip trackName clipName range mediaPath effectList)).1 = th) := by
  have hchild : ∀ n, child framerate n past
      (.appendClip trackName clipName range mediaPath effectList) =
      if trackName == n then (th.findRef mediaPath).map
        fun ref => .clip clipName ref range effectList else none := by
    intro n
    rw [h.refs]
    rfl
  rw [call,← h.refs]
  cases hfind : th.findRef mediaPath with
  | none =>
    have hframe := tracksOf_frame (fun n hn => hn) fun n (_ : n ∈ names past) => by
      rw [hchild n,hfind,Option.map_none]
      exact ite_self none
    exact ⟨⟨h.rate,h.tracks.trans hframe.symm,h.refs,h.nodup,h.attached⟩,
      iff_of_false (fun he => (by cases he)) fun he => (by cases he.2),fun _ => rfl⟩
  | some ref =>
    have happend := @Keeps.append framerate trackName (.clip clipName ref range effectList) past th
      (.appendClip trackName clipName range mediaPath effectList) h
      (by rw [hchild,hfind,if_pos (beq_self_eq_true trackName)]; rfl)
      (fun n hn => by rw [hchild,if_neg (by simpa using fun he => hn he.symm)]) rfl rfl rfl
    simpa only [Option.isSome_some,and_true] using happend

theorem delivered_names {earlier : List TimelineCall} (h : delivered calls = some earlier) :
    names earlier ≠ [] := by
  induction calls with
  | nil => cases h
  | cons c calls ih =>
    cases c with
    | getTimeline =>
      rw [delivered] at h
      cases hd : delivered calls with
      | some e =>
        rw [hd] at h
        exact ih (hd.trans h)
      | none =>
        rw [hd,Option.none_or] at h
        split at h
        · cases h
        · rename_i hne
          obtain rfl := Option.some.inj h
          exact hne
    | makeMediaRef mediaPath framerate duration => exact ih h
    | appendTrack name type effectList => exact ih h
    | appendGap trackName range => exact ih h
    | appendClip trackName clipName range mediaPath effectList => exact ih h

theorem Keeps.getTimeline (h : Keeps framerate past th) :
    Keeps framerate (.getTimeline :: past) (th.call .getTimeline).1 ∧
    ((th.call .getTimeline).2 = .ok () ↔ delivered past = none) ∧
    (delivered past ≠ none → (th.call .getTimeline).1 = th) := by
  have hframe := @tracksOf_frame framerate past past .getTimeline (fun n hn => hn) fun _ _ => rfl
  have htracks : th.tracks = tracksOf framerate (.getTimeline :: past) (.getTimeline :: past) :=
    h.tracks.trans hframe.symm
  have hattached := h.attached
  rw [rangesOf] at hattached
  cases hd : delivered past with
  | none =>
    rw [hd] at hattached
    have hcall : th.call .getTimeline =
        ({ th with sourceRanges := th.tracks.map Track.children },.ok ()) := by
      rw [call,hattached]
      rfl
    rw [hcall]
    refine ⟨⟨h.rate,htracks,h.refs,h.nodup,?_⟩,iff_of_true rfl rfl,fun hne => absurd rfl hne⟩
    rw [rangesOf,delivered,hd,Option.none_or,h.tracks]
    split
    · rename_i hempty
      rw [List.map_eq_nil_iff.mp ((names_tracksOf past past).trans hempty)]
      rfl
    · rfl
  | some earlier =>
    rw [hd,Option.elim_some] at hattached
    have hne : th.sourceRanges.isEmpty = false := by
      rw [hattached,List.isEmpty_eq_false_iff,Ne,List.map_eq_nil_iff]
      intro hempty
      refine delivered_names hd ?_
      rw [← @names_tracksOf framerate earlier earlier,hempty]
      rfl
    have hcall : th.call .getTimeline = (th,.error oviErrorInvalidOperation) := by
      rw [call,hne]
      rfl
    rw [hcall]
    refine ⟨⟨h.rate,htracks,h.refs,h.nodup,?_⟩,
      iff_of_false (fun he => (by cases he)) fun he => (by cases he),fun _ => rfl⟩
    rw [rangesOf,delivered,hd]
    exact hattached

theorem keeps_call (h : Keeps framerate past th) (c : TimelineCall) :
    Keeps framerate (c :: past) (th.call c).1 ∧
      ((th.call c).2 = .ok () ↔ TimelineCall.Accepted past c) ∧
      (¬ TimelineCall.Accepted past c → (th.call c).1 = th) := by
  cases c with
  | makeMediaRef mediaPath rate duration =>
    obtain ⟨hkeeps,hok⟩ := h.makeMediaRef mediaPath rate duration
    exact ⟨hkeeps,iff_of_true hok trivial,fun hn => absurd trivial hn⟩
  | appendTrack name type effectList =>
    exact ⟨h.appendTrack name type effectList,iff_of_true rfl trivial,fun hn => absurd trivial hn⟩
  | appendGap trackName range => exact h.appendGap trackName range
  | appendClip trackName clipName range mediaPath effectList =>
    exact h.appendClip trackName clipName range mediaPath effectList
  | getTimeline => exact h.getTimeline

theorem keeps_after (framerate : ℚ) (calls : List TimelineCall) :
    Keeps framerate calls (after framerate calls) := by
  induction calls with
  | nil => exact ⟨rfl,rfl,fun _ => rfl,List.nodup_nil,rfl⟩
  | cons c calls ih => exact (keeps_call ih c).1

theorem timeline_history (framerate : ℚ) (calls : List TimelineCall) :
    (after framerate calls).timeline =
        (tracksOf framerate calls calls).take (attachedTo calls) ∧
      (after framerate calls).sourceRanges = rangesOf framerate calls ∧
      (∀ path, (after framerate calls).findRef path = TimelineCall.refs calls path) ∧
      ((after framerate calls).mediaRefs.map MediaRef.targetUrl).Nodup ∧
      ∀ c, (((after framerate calls).call c).2 = .ok () ↔ TimelineCall.Accepted calls c) ∧
        (¬ TimelineCall.Accepted calls c →
          ((after framerate calls).call c).1 = after framerate calls) := by
  have h := keeps_after framerate calls
  refine ⟨?_,h.attached,h.refs,h.nodup,fun c => (keeps_call h c).2⟩
  rw [timeline,h.tracks,h.attached,length_rangesOf]

end History

end Ovi
