import Ovi.Flow.OutcomeCache
import Mathlib.Data.Rat.Floor

namespace Ovi

structure Detected where
  frameNumber : Int
  list : Details
deriving DecidableEq, Repr

abbrev SortedCollection := Std.TreeMap String (List Detected)

structure TimeRange where
  startFrameNum : Int
  duration : Int
deriving DecidableEq, Repr

structure TimeRangeWithMetadata where
  timeRange : TimeRange
  collection : SortedCollection

structure DataAnalyzer where
  frameCount : Int
  timeRange : List TimeRangeWithMetadata

structure RangeScan where
  before : Bool
  start : Int
  duration : Int
  temp : List RawData
  timeRange : List TimeRangeWithMetadata

namespace DataAnalyzer

def make : DataAnalyzer := ⟨0,[]⟩

def setCorrectionValue (da : DataAnalyzer) (framerate : ℚ) : DataAnalyzer :=
  { da with frameCount := ⌈framerate⌉ }

def sortFrame (tmp : SortedCollection) (data : RawData) : SortedCollection :=
  data.detected.toList.foldl (fun tmp item =>
    tmp.insert item.1 (tmp.getD item.1 [] ++ [⟨data.frameNumber,item.2⟩])) tmp

def sort (input : List RawData) : SortedCollection := input.foldl sortFrame ∅

variable (da : DataAnalyzer) (inputData : List RawData)

def includedAt (i : Nat) : Bool := inputData[i]?.any RawData.included

def canSkip (i : Nat) : Option Nat :=
  let len := da.frameCount.toNat
  let len := if i + len ≥ inputData.length then inputData.length - i else len
  (List.range' 1 (len - 1)).find? (fun j => includedAt inputData (i + j))

def collect (temp : List RawData) (data : RawData) : List RawData :=
  if !data.detected.isEmpty then temp ++ [data] else temp

def analyzeFrame (i : Nat) (data : RawData) (s : RangeScan) : Nat × RangeScan :=
  if !s.before && data.included then
    (i,{ s with start := data.frameNumber, before := data.included, temp := collect s.temp data })
  else if s.before && data.included then
    (i,{ s with duration := s.duration + 1, temp := collect s.temp data })
  else if s.before && !data.included then
    match da.canSkip inputData i with
    | some skip => (i + skip,{ s with duration := s.duration + (skip + 1) })
    | none => (i,⟨false,-1,1,[],s.timeRange ++ [⟨⟨s.start,s.duration⟩,sort s.temp⟩]⟩)
  else (i,s)

-- every turn moves `i` forward, so the list's length bounds the turns
def analyzeLoop : Nat → Nat → RangeScan → RangeScan
  | 0, _, s => s
  | turns + 1, i, s =>
    match inputData[i]? with
    | none => s
    | some data =>
      let (i,s) := da.analyzeFrame inputData i data s
      analyzeLoop turns (i + 1) s

def analyzeRawData : DataAnalyzer :=
  let s := da.analyzeLoop inputData inputData.length 0 ⟨false,-1,1,[],da.timeRange⟩
  { da with
    timeRange :=
      if s.start ≥ 0 then s.timeRange ++ [⟨⟨s.start,s.duration⟩,sort s.temp⟩] else s.timeRange }

def result : List TimeRangeWithMetadata := da.timeRange

end DataAnalyzer

end Ovi
