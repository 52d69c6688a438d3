import Mathlib.Data.Rat.Defs
import Std.Data.TreeMap

namespace Ovi

def oviOpAnd : String := "&"
def oviOpOr : String := "|"
def oviOpColon : String := ":"
def oviOpUncut : String := "~"

abbrev ErrorCode := Int

def oviErrorNone : ErrorCode := 0
def oviErrorInvalidParameter : ErrorCode := -1
def oviErrorInvalidOperation : ErrorCode := -2
def oviErrorInvalidState : ErrorCode := -4

inductive Exn where
  | ovi (error : ErrorCode)
  | other
deriving DecidableEq, Repr

inductive PluginType where
  | none
  | videoDetect
  | videoEffect
  | audioDetect
  | audioEffect
  | render
deriving DecidableEq, Repr

inductive DetailsItem where
  | rect (x y width height : ℚ)
  | rectTag (x y width height : ℚ) (tag : String)
  | double (value : ℚ)
  | bool (value : Bool)
deriving DecidableEq, Repr

abbrev Details := List DetailsItem

structure Outcome where
  detect : Bool
  list : Details
deriving DecidableEq, Repr

-- `std::map<std::string, std::string>`
abbrev AttrMap := Std.TreeMap String String

abbrev DetectedData := Std.TreeMap String Details

structure FramePack where
  frameNum : Int
  pts : ℚ
  duration : Int
deriving DecidableEq, Repr

end Ovi
