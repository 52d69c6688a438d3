import Ovi.Range.Scan
import Mathlib.Tactic.NormNum

namespace Ovi

open GapClosing

variable {f₀ : Int} {c : Nat} {framerate : ℚ} {input : List RawData} {k : Int}

def frameIncluded (input : List RawData) (k : Int) : Prop :=
  ∃ d ∈ input, d.included = true ∧ d.frameNumber = k

def TimeRange.ends (r : TimeRange) : Int × Int :=
  (r.startFrameNum,r.startFrameNum + r.duration - 1)

def numbered (f₀ : Int) (verdicts : List (Bool × DetectedData)) : List RawData :=
  verdicts.zipIdx.map (fun p => ⟨f₀ + p.2,p.1.1,p.1.2⟩)

theorem numbered_consecutive (f₀ : Int) (verdicts : List (Bool × DetectedData)) :
    Consecutive f₀ (numbered f₀ verdicts) := by
  intro i d h
  simp only [numbered,List.getElem?_map,List.getElem?_zipIdx,Option.map_map,
    Option.map_eq_some_iff] at h
  obtain ⟨v,-,rfl⟩ := h
  simp

theorem frameIncluded_iff :
    frameIncluded input k ↔ ∃ d ∈ includedFrames input, d.frameNumber = k := by
  simp [frameIncluded,includedFrames,and_assoc]

theorem included_sorted (hc : Consecutive f₀ input) :
    (includedFrames input).Pairwise (fun a b => a.frameNumber < b.frameNumber) := by
  have h := seen_sorted hc input.length
  rwa [seen,List.take_length] at h

theorem rangeOf_ends (g : List RawData) :
    (rangeOf c input g).timeRange.ends = span RawData.frameNumber g := by
  refine Prod.ext rfl ?_
  simp only [rangeOf,TimeRange.ends]
  omega

theorem result_ends (hc : Consecutive f₀ input) (h₀ : 0 ≤ f₀) (hf : ⌈framerate⌉.toNat = c) :
    ((DataAnalyzer.make.setCorrectionValue framerate).analyzeRawData input).result.map
        (fun r => r.timeRange.ends) =
      (groups RawData.frameNumber c (includedFrames input)).map (span RawData.frameNumber) := by
  rw [analyzeRawData_result hc h₀ hf,List.map_map]
  exact List.map_congr_left fun g _ => rangeOf_ends g

theorem analyzeRawData_closed (hc : Consecutive f₀ input) (h₀ : 0 ≤ f₀) (hf : ⌈framerate⌉ = c) :
    Closed (frameIncluded input) c
      (((DataAnalyzer.make.setCorrectionValue framerate).analyzeRawData input).result.map
        (fun r => r.timeRange.ends)) := by
  have hmarked : frameIncluded input = fun k => ∃ d ∈ includedFrames input, d.frameNumber = k :=
    funext fun k => propext frameIncluded_iff
  rw [result_ends hc h₀ (by rw [hf,Int.toNat_natCast]),hmarked]
  exact closed_groups (included_sorted hc)

def flicker : List RawData :=
  numbered 0 [(true,∅),(false,∅),(true,∅),(false,∅),(false,∅),(true,∅)]

theorem analyzeRawData_closed_flicker : Closed (frameIncluded flicker) 2
    (((DataAnalyzer.make.setCorrectionValue (3 / 2)).analyzeRawData flicker).result.map
      (fun r => r.timeRange.ends)) :=
  analyzeRawData_closed (numbered_consecutive 0 _) (le_refl 0)
    (by norm_num [Int.ceil_eq_iff])

end Ovi
