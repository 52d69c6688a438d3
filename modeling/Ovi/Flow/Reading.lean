import Ovi.Flow.DataFlow
import Mathlib.Data.List.TakeWhile

namespace Ovi

structure Reading where
  hasVideo : Bool
  hasAudio : Bool
  video : List FramePack
  audio : List FramePack
  videoEOF : Bool
  audioEOF : Bool
  pts : ℚ

def batch (pts : ℚ) : List FramePack → List FramePack × List FramePack × Bool
  | [] => ([],[],true)
  | a :: audio =>
    if pts = noPts ∨ a.pts > pts then ([a],audio,false)
    else (a :: (batch pts audio).1,(batch pts audio).2)

namespace Reading

def start (hasVideo hasAudio : Bool) (video audio : List FramePack) : Reading :=
  ⟨hasVideo,hasAudio,video,audio,!hasVideo,!hasAudio,noPts⟩

def synchronizer (r : Reading) : AvSynchronizer :=
  ⟨⟨r.hasVideo,r.hasAudio,r.video.map .ok,r.audio.map .ok⟩,r.videoEOF,r.audioEOF,r.pts⟩

def nextVideo (r : Reading) : Option FramePack × Reading :=
  if r.videoEOF then (none,r)
  else
    match r.video with
    | [] => (none,{ r with videoEOF := true })
    | frame :: video => (some frame,{ r with video := video, pts := frame.pts })

def nextAudio (r : Reading) : List FramePack × Reading :=
  if r.audioEOF || (r.videoEOF && r.hasVideo) then ([],r)
  else
    ((batch r.pts r.audio).1,{ r with
      audio := (batch r.pts r.audio).2.1
      audioEOF := (batch r.pts r.audio).2.2 })

def both (r : Reading) : Frames × Reading :=
  ((r.nextVideo.1,r.nextVideo.2.nextAudio.1),r.nextVideo.2.nextAudio.2)

def group : Nat → Reading → Frames → Frames × Reading
  | 0, r, frames => (frames,r)
  | steps + 1, r, _ =>
    if r.both.1.1.isNone && r.both.1.2.isEmpty then r.both
    else group steps r.both.2 r.both.1

end Reading

section Refines

theorem synchronizer_make (hasVideo hasAudio : Bool) (video audio : List FramePack) :
    AvSynchronizer.make ⟨hasVideo,hasAudio,video.map .ok,audio.map .ok⟩ =
      (Reading.start hasVideo hasAudio video audio).synchronizer := rfl

theorem getNextVideo_synchronizer (r : Reading) :
    r.synchronizer.getNextVideo = .ok (r.nextVideo.1,r.nextVideo.2.synchronizer) := by
  obtain ⟨hasVideo,hasAudio,video,audio,videoEOF,audioEOF,pts⟩ := r
  cases videoEOF with
  | true => rfl
  | false => cases video <;> rfl

theorem getNext_audio {r : Reading} {a : FramePack} {audio : List FramePack}
    (h : r.audio = a :: audio) : r.synchronizer.getNext .audio =
      .ok (some a,({ r with audio := audio } : Reading).synchronizer) := by
  obtain ⟨hasVideo,hasAudio,video,_,videoEOF,audioEOF,pts⟩ := r
  obtain rfl := h
  rfl

theorem getNextAudioLoop_synchronizer (r : Reading) {steps : Nat} (frames : List FramePack)
    (he : r.audioEOF = false) (hs : steps ≥ r.audio.length + 1) :
    r.synchronizer.getNextAudioLoop steps frames =
      .ok (frames ++ (batch r.pts r.audio).1,({ r with
        audio := (batch r.pts r.audio).2.1
        audioEOF := (batch r.pts r.audio).2.2 } : Reading).synchronizer) := by
  induction h : r.audio generalizing r steps frames with
  | nil =>
    obtain ⟨steps,rfl⟩ : ∃ k, steps = k + 1 := ⟨steps - 1,by omega⟩
    obtain ⟨hasVideo,hasAudio,video,_,videoEOF,_,pts⟩ := r
    obtain rfl := h
    obtain rfl := he
    rw [batch,List.append_nil]
    rfl
  | cons a audio ih =>
    rw [h,List.length_cons] at hs
    obtain ⟨steps,rfl⟩ : ∃ k, steps = k + 1 := ⟨steps - 1,by omega⟩
    have hrest := ih { r with audio := audio } (frames ++ [a]) he (Nat.le_of_succ_le_succ hs) rfl
    have heof : r.synchronizer.audioEOF = false := he
    have hpts : ({ r with audio := audio } : Reading).synchronizer.pts = r.pts := rfl
    rw [AvSynchronizer.getNextAudioLoop,heof,getNext_audio h,batch]
    simp only [Bool.false_eq_true,if_false,bind,Except.bind,hpts,Bool.or_eq_true,beq_iff_eq,
      decide_eq_true_eq]
    split
    · rw [he]
    · rw [hrest]
      simp

theorem getNextAudio_synchronizer (r : Reading) :
    r.synchronizer.getNextAudio = .ok (r.nextAudio.1,r.nextAudio.2.synchronizer) := by
  cases he : r.audioEOF with
  | true =>
    have heof : r.synchronizer.audioEOF = true := he
    rw [AvSynchronizer.getNextAudio,heof,Reading.nextAudio,he]
    rfl
  | false =>
    have heof : r.synchronizer.audioEOF = false := he
    rw [AvSynchronizer.getNextAudio,heof,Reading.nextAudio,he]
    cases hv : r.videoEOF && r.hasVideo with
    | true =>
      have hv' : (r.synchronizer.videoEOF && r.synchronizer.frameExtractor.hasVideo) = true := hv
      rw [hv']
      rfl
    | false =>
      have hv' : (r.synchronizer.videoEOF && r.synchronizer.frameExtractor.hasVideo) = false := hv
      have hlen : r.synchronizer.frameExtractor.audio.length = r.audio.length := List.length_map _
      rw [hv',hlen]
      exact getNextAudioLoop_synchronizer r [] he (le_refl _)

theorem readGroup_synchronizer (steps : Nat) (r : Reading) (frames : Frames) :
    DataFlow.readGroup steps r.synchronizer frames =
      .ok ((r.group steps frames).1,(r.group steps frames).2.synchronizer) := by
  induction steps generalizing r frames with
  | zero => rfl
  | succ steps ih =>
    rw [DataFlow.readGroup,getNextVideo_synchronizer]
    simp only [bind,Except.bind,getNextAudio_synchronizer]
    change (if (r.both.1.1.isNone && r.both.1.2.isEmpty) = true then
        Except.ok (r.both.1,r.both.2.synchronizer)
      else DataFlow.readGroup steps r.both.2.synchronizer r.both.1) = _
    rw [Reading.group]
    split
    · rfl
    · exact ih r.both.2 r.both.1

end Refines

end Ovi
