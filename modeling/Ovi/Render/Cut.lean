import Ovi.Render.Printf
import Ovi.Render.RoundTo

namespace Ovi
open FilterGraph

-- a clip of the timeline; its media is an external reference, as the code asserts
structure TimelineClip where
  startSec : ℚ
  endSec : ℚ
  targetUrl : String
deriving DecidableEq, Repr

inductive CutAction where
  | system (cmd : String)
  | rename (source target : String)
  | remove (path : String)
deriving DecidableEq, Repr

namespace FFmpegRender

def roundDouble (x : ℚ) : ℚ := roundTo .binary64 x

-- `RationalTime::to_seconds`
def toSeconds (value : Int) (rate : ℚ) : ℚ := roundDouble (value / rate)

def truncated (x : ℚ) : Int := x.num.tdiv x.den

def paddedInt (precision : Nat) (n : Int) : String :=
  (if n < 0 then "-" else "") ++ zeroPadded precision n.natAbs

def toTimeString (time : ℚ) : String :=
  let ms := truncated (roundDouble (time * 1000))
  let h := ms.tdiv (1000 * 60 * 60)
  let ms := ms - h * (1000 * 60 * 60)
  let m := ms.tdiv (1000 * 60)
  let ms := ms - m * (1000 * 60)
  let s := ms.tdiv 1000
  let ms := ms - s * 1000
  snprintf 20 (paddedInt 2 (h.tmod 100) ++ ":" ++ paddedInt 2 (m.tmod 100) ++ ":" ++
    paddedInt 2 (s.tmod 100) ++ "." ++ paddedInt 3 (ms.tmod 1000))

def tempFile (i : Nat) : String := snprintf 30 ("tmp_" ++ zeroPadded 3 i ++ ".mp4")

def cutCommand (effectOutputPath : String) (clip : TimelineClip) (i : Nat) : String :=
  "/usr/bin/ffmpeg -y -ss " ++ toTimeString clip.startSec ++ " -to " ++ toTimeString clip.endSec ++
    " -i " ++ (if effectOutputPath.isEmpty then clip.targetUrl else effectOutputPath) ++
    " -c copy " ++ tempFile i

-- the first loop: the clip behind `len` others is cut into file `len + 1`
def cutClips (effectOutputPath : String) : Nat → List TimelineClip → List CutAction
  | _,[] => []
  | len,clip :: clips =>
    .system (cutCommand effectOutputPath clip (len + 1)) ::
      cutClips effectOutputPath (len + 1) clips

def writeInputs : Nat → Nat → String
  | _,0 => ""
  | i,k + 1 => " -i " ++ tempFile i ++ writeInputs (i + 1) k

def writePads : Nat → Nat → String
  | _,0 => ""
  | i,k + 1 =>
    snprintf 30 (pad (toString (i % 100) ++ ":v") ++ " " ++ pad (toString (i % 100) ++ ":a") ++
      " ") ++ writePads (i + 1) k

def concatGraph (len : Nat) : String :=
  writePads 0 len ++ "concat=n=" ++ toString len ++ ":v=1:a=1 [vv] [aa]"

def concatCommand (outputPath : String) (len : Nat) : String :=
  "/usr/bin/ffmpeg -y" ++ writeInputs 1 len ++ " -filter_complex \"" ++ concatGraph len ++
    "\" -map \"[vv]\" -map \"[aa]\" " ++ outputPath

def cut (outputPath effectOutputPath : String) (clips : List TimelineClip) : List CutAction :=
  if clips.isEmpty then []
  else if clips.length = 1 then
    cutClips effectOutputPath 0 clips ++ [.rename (tempFile clips.length) outputPath]
  else
    cutClips effectOutputPath 0 clips ++ [.system (concatCommand outputPath clips.length)] ++
      (List.range' 1 clips.length).map (fun i => .remove (tempFile i))

end FFmpegRender

end Ovi
