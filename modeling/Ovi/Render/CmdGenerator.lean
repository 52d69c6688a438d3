import Ovi.Render.FFmpegEffect
import Ovi.Render.Printf

namespace Ovi
open FilterGraph

namespace CmdGenerator

def cropLabel (i : Nat) : String := "crop" ++ toString i
def ovrLabel (i : Nat) : String := "ovr" ++ toString i
def scaleLabel (i : Nat) : String := "s" ++ toString i

def overlay (c : CoordinateInfo) : String :=
  "overlay=" ++ formatDouble (.number c.x) ++ ":" ++ formatDouble (.number c.y) ++ ":enable=" ++
    ("'" ++ ("between(t," ++ formatDouble c.time.startSec ++ "," ++
      formatDouble c.time.endSec ++ ")") ++ "'") ++ " "

def writeSegments (segment after : Nat → CoordinateInfo → String) :
    Nat → List CoordinateInfo → String
  | _,[] => ""
  | i,c :: coordInfo =>
    snprintf 256 (segment i c) ++ after i c ++ writeSegments segment after (i + 1) coordInfo

def cropSegment (blurName : String) (intensity : Int) (i : Nat) (c : CoordinateInfo) : String :=
  pad "0:v" ++ "crop=" ++ formatDouble (.number c.w) ++ ":" ++ formatDouble (.number c.h) ++ ":" ++
    formatDouble (.number c.x) ++ ":" ++ formatDouble (.number c.y) ++ "," ++ blurName ++ "=" ++
    toString intensity ++ pad (cropLabel (i + 1)) ++ "; "

def blurSegment (size i : Nat) (c : CoordinateInfo) : String :=
  if size = 1 then pad "0:v" ++ pad (cropLabel (i + 1)) ++ overlay c
  else if i = 0 then
    pad "0:v" ++ pad (cropLabel (i + 1)) ++ overlay c ++ pad (ovrLabel (i + 1)) ++ "; "
  else if i = size - 1 then pad (ovrLabel i) ++ pad (cropLabel (i + 1)) ++ overlay c
  else pad (ovrLabel i) ++ pad (cropLabel (i + 1)) ++ overlay c ++ pad (ovrLabel (i + 1)) ++ "; "

def blurGraph (blurName : String) (intensity : Int) (coordInfo : List CoordinateInfo) : String :=
  writeSegments (cropSegment blurName intensity) (fun _ _ => "") 0 coordInfo ++
    writeSegments (blurSegment coordInfo.length) (fun _ _ => "") 0 coordInfo

def makeVideoBlurEffectCmd (inputPath outputPath blurName : String) (intensity : Int)
    (coordInfo : List CoordinateInfo) : String :=
  "/usr/bin/ffmpeg -y -i " ++ inputPath ++ " -filter_complex \"" ++
    blurGraph blurName intensity coordInfo ++ "\" -movflags +faststart " ++ outputPath

def scaleFilter (i : Nat) (c : CoordinateInfo) : String :=
  let scaleSize := if c.w > c.h then c.w else c.h
  pad "1:v" ++ "scale=" ++ formatDouble (.number scaleSize) ++ ":" ++
    formatDouble (.number scaleSize) ++ pad (scaleLabel (i + 1)) ++ ", "

def stickerSegment (size i : Nat) (c : CoordinateInfo) : String :=
  if i = 0 then
    scaleFilter i c ++ pad "0:v" ++ pad (scaleLabel (i + 1)) ++ overlay c ++
      pad (ovrLabel (i + 1)) ++ " "
  else if i = size - 1 then
    scaleFilter i c ++ pad (ovrLabel i) ++ pad (scaleLabel (i + 1)) ++ overlay c
  else
    scaleFilter i c ++ pad (ovrLabel i) ++ pad (scaleLabel (i + 1)) ++ overlay c ++
      pad (ovrLabel (i + 1)) ++ " "

def stickerGraph (coordInfo : List CoordinateInfo) : String :=
  writeSegments (stickerSegment coordInfo.length)
    (fun i _ => if i ≠ coordInfo.length - 1 then ";" else "") 0 coordInfo

def makeVideoStickerEffectCmd (inputPath outputPath imgPath : String)
    (coordInfo : List CoordinateInfo) : String :=
  "/usr/bin/ffmpeg -y -i " ++ inputPath ++ " -i " ++ imgPath ++ " -filter_complex \"" ++
    stickerGraph coordInfo ++ "\" " ++ outputPath

end CmdGenerator

end Ovi
