import Ovi.Types
import Mathlib.Data.Rat.Defs
import Mathlib.Tactic.Common

namespace Ovi

inductive MediaType where
  | video
  | audio
deriving DecidableEq, Repr

-- what `nextVideo` and `nextAudio` will return or raise, then `nullptr` for ever
structure FrameExtractor where
  hasVideo : Bool
  hasAudio : Bool
  video : List (Except Exn FramePack)
  audio : List (Except Exn FramePack)

namespace FrameExtractor

def nextVideo (e : FrameExtractor) : Except Exn (Option FramePack × FrameExtractor) :=
  match e.video with
  | [] => .ok (none,e)
  | frame :: video => frame.map (fun frame => (some frame,{ e with video := video }))

def nextAudio (e : FrameExtractor) : Except Exn (Option FramePack × FrameExtractor) :=
  match e.audio with
  | [] => .ok (none,e)
  | frame :: audio => frame.map (fun frame => (some frame,{ e with audio := audio }))

end FrameExtractor

def noPts : ℚ := -1

structure AvSynchronizer where
  frameExtractor : FrameExtractor
  videoEOF : Bool
  audioEOF : Bool
  pts : ℚ

namespace AvSynchronizer

def make (e : FrameExtractor) : AvSynchronizer := ⟨e,!e.hasVideo,!e.hasAudio,noPts⟩

-- the audio `pts` is the caller's local variable, so only the video one is kept here
def getNext (s : AvSynchronizer) : MediaType → Except Exn (Option FramePack × AvSynchronizer)
  | .video => do
    let (frame,e) ← s.frameExtractor.nextVideo
    let s := { s with frameExtractor := e }
    match frame with
    | some frame => .ok (some frame,{ s with pts := frame.pts })
    | none => .ok (none,{ s with videoEOF := true })
  | .audio => do
    let (frame,e) ← s.frameExtractor.nextAudio
    let s := { s with frameExtractor := e }
    match frame with
    | some frame => .ok (some frame,s)
    | none => .ok (none,{ s with audioEOF := true })

def getNextVideo (s : AvSynchronizer) : Except Exn (Option FramePack × AvSynchronizer) :=
  if s.videoEOF then .ok (none,s) else s.getNext .video

def getNextAudioLoop : Nat → AvSynchronizer → List FramePack →
    Except Exn (List FramePack × AvSynchronizer)
  | 0, s, frames => .ok (frames,s)
  | steps + 1, s, frames =>
    if s.audioEOF then .ok (frames,s)
    else do
      let (frame,s) ← s.getNext .audio
      match frame with
      | none => .ok (frames,s)
      | some frame =>
        let frames := frames ++ [frame]
        if s.pts == noPts || frame.pts > s.pts then .ok (frames,s)
        else getNextAudioLoop steps s frames

-- every turn takes a frame or sets `audioEOF`, so the frames left bound the turns
def getNextAudio (s : AvSynchronizer) : Except Exn (List FramePack × AvSynchronizer) :=
  if s.audioEOF then .ok ([],s)
  else if s.videoEOF && s.frameExtractor.hasVideo then .ok ([],s)
  else getNextAudioLoop (s.frameExtractor.audio.length + 1) s []

end AvSynchronizer

end Ovi
