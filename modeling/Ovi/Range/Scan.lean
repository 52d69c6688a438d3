import Ovi.Range.DataAnalyzer
import Ovi.Library.GapClosing

namespace Ovi

open GapClosing

def Consecutive (f₀ : Int) (input : List RawData) : Prop :=
  ∀ (i : Nat) d, input[i]? = some d → d.frameNumber = f₀ + i

def includedFrames (input : List RawData) : List RawData := input.filter RawData.included

def EndsGap (c : Nat) (input : List RawData) (x : RawData) : Prop :=
  ∃ p ∈ input, p.included = true ∧ p.frameNumber + 1 < x.frameNumber ∧
    x.frameNumber ≤ p.frameNumber + c ∧
      ∀ d ∈ input, p.frameNumber < d.frameNumber → d.frameNumber < x.frameNumber →
        d.included = false

instance (c : Nat) (input : List RawData) (x : RawData) : Decidable (EndsGap c input x) :=
  inferInstanceAs (Decidable (∃ p ∈ input, _))

def kept (c : Nat) (input g : List RawData) : List RawData :=
  g.filter (fun x => !decide (EndsGap c input x) && !x.detected.isEmpty)

def rangeOf (c : Nat) (input g : List RawData) : TimeRangeWithMetadata :=
  ⟨⟨(span RawData.frameNumber g).1,
    (span RawData.frameNumber g).2 - (span RawData.frameNumber g).1 + 1⟩,
    DataAnalyzer.sort (kept c input g)⟩

section CanSkip

variable {da : DataAnalyzer} {c i j : Nat} {input : List RawData}

theorem includedAt_iff : DataAnalyzer.includedAt input i = true ↔
    ∃ d, input[i]? = some d ∧ d.included = true := by
  simp [DataAnalyzer.includedAt,Option.any_eq_true]

theorem canSkip_some (hc : da.frameCount.toNat = c) (h : da.canSkip input i = some j) :
    0 < j ∧ j < c ∧ DataAnalyzer.includedAt input (i + j) = true ∧
      ∀ k, 0 < k → k < j → DataAnalyzer.includedAt input (i + k) = false := by
  simp only [DataAnalyzer.canSkip,hc,List.find?_range'_eq_some,
    List.mem_range'_1] at h
  obtain ⟨hin,⟨hpos,hlt⟩,hclear⟩ := h
  refine ⟨hpos,?_,hin,fun k h₁ h₂ => by simpa using hclear k h₁ h₂⟩
  split at hlt <;> omega

theorem canSkip_none (hc : da.frameCount.toNat = c) (h : da.canSkip input i = none) :
    ∀ k, 0 < k → k < c → DataAnalyzer.includedAt input (i + k) = false := by
  intro k hpos hlt
  simp only [DataAnalyzer.canSkip,hc,List.find?_range'_eq_none] at h
  by_cases hend : input.length ≤ i + k
  · simp [DataAnalyzer.includedAt,List.getElem?_eq_none hend]
  · simpa using h k hpos (by split <;> omega)

end CanSkip

section Seen

variable {c i n : Nat} {f₀ : Int} {input g : List RawData} {x data : RawData}

def seen (input : List RawData) (i : Nat) : List RawData := includedFrames (input.take i)

theorem seen_included (hd : input[i]? = some data) (hin : data.included = true) :
    seen input (i + 1) = seen input i ++ [data] := by
  simp [seen,includedFrames,List.take_add_one,hd,hin]

theorem seen_excluded (h : DataAnalyzer.includedAt input i = false) :
    seen input (i + 1) = seen input i := by
  cases hd : input[i]? with
  | none => simp [seen,includedFrames,List.take_add_one,hd]
  | some d =>
    have hout : d.included = false := by simpa [DataAnalyzer.includedAt,hd] using h
    simp [seen,includedFrames,List.take_add_one,hd,hout]

theorem seen_clear (h : ∀ k, k < n → DataAnalyzer.includedAt input (i + k) = false) :
    seen input (i + n) = seen input i := by
  induction n with
  | zero => rfl
  | succ n ih =>
    rw [← Nat.add_assoc,seen_excluded (h n (Nat.lt_succ_self n))]
    exact ih (fun k hk => h k (Nat.lt_succ_of_lt hk))

theorem mem_seen : x ∈ seen input i ↔ x.included = true ∧ ∃ k, k < i ∧ input[k]? = some x := by
  rw [seen,includedFrames,List.mem_filter,List.mem_iff_getElem?]
  simp only [List.getElem?_take]
  constructor
  · rintro ⟨⟨k,hk⟩,hin⟩
    split at hk
    · exact ⟨hin,k,by assumption,hk⟩
    · cases hk
  · rintro ⟨hin,k,hlt,hk⟩
    exact ⟨⟨k,by rwa [if_pos hlt]⟩,hin⟩

theorem seen_sorted (hc : Consecutive f₀ input) (i : Nat) :
    (seen input i).Pairwise (fun a b => a.frameNumber < b.frameNumber) := by
  refine List.Pairwise.filter _ (List.Pairwise.sublist (List.take_sublist i input) ?_)
  rw [List.pairwise_iff_getElem]
  intro k l hk hl hlt
  rw [hc k _ (List.getElem?_eq_getElem hk),hc l _ (List.getElem?_eq_getElem hl)]
  omega

theorem Consecutive.index (hc : Consecutive f₀ input) {j : Nat} {y : RawData}
    (hx : input[i]? = some x) (hy : input[j]? = some y)
    (he : x.frameNumber < y.frameNumber) : i < j := by
  have h₁ := hc i x hx
  have h₂ := hc j y hy
  omega

theorem span_append (hx : g.getLast? = some x) :
    span RawData.frameNumber (g ++ [data]) =
      ((span RawData.frameNumber g).1,data.frameNumber) := by
  cases g with
  | nil => cases hx
  | cons a g =>
    rw [span,List.getLast?_concat]
    rfl

theorem span_last (hx : g.getLast? = some x) : (span RawData.frameNumber g).2 = x.frameNumber := by
  simp [span,hx]

theorem kept_append (g : List RawData) (h : ¬ EndsGap c input data) :
    kept c input (g ++ [data]) = DataAnalyzer.collect (kept c input g) data := by
  cases he : data.detected.isEmpty <;> simp [kept,DataAnalyzer.collect,h,he]

theorem kept_append_endsGap (g : List RawData) (h : EndsGap c input data) :
    kept c input (g ++ [data]) = kept c input g := by
  simp [kept,h]

end Seen

section Step

variable {da : DataAnalyzer} {c i : Nat} {f₀ : Int} {input : List RawData} {s : RangeScan}
  {data : RawData}

inductive Scanned (c : Nat) (input : List RawData) (i : Nat) : RangeScan → Prop
  | between (h : ∀ x ∈ seen input i, ∀ y ∈ input.drop i, y.included = true →
      x.frameNumber + (max c 1 : Nat) < y.frameNumber) :
      Scanned c input i ⟨false,-1,1,[],
        (groups RawData.frameNumber c (seen input i)).map (rangeOf c input)⟩
  | within {done : List (List RawData)} {g : List RawData} {x : RawData} (hi : 0 < i)
      (he : groups RawData.frameNumber c (seen input i) = done ++ [g])
      (hx : g.getLast? = some x) (hlast : input[i - 1]? = some x) :
      Scanned c input i ⟨true,(span RawData.frameNumber g).1,
        (span RawData.frameNumber g).2 - (span RawData.frameNumber g).1 + 1,
        kept c input g,done.map (rangeOf c input)⟩

theorem scanned_start (hc : Consecutive f₀ input) (hd : input[i]? = some data)
    (hin : data.included = true)
    (h : ∀ x ∈ seen input i, ∀ y ∈ input.drop i, y.included = true →
      x.frameNumber + (max c 1 : Nat) < y.frameNumber) :
    Scanned c input (i + 1) ⟨true,data.frameNumber,1,DataAnalyzer.collect [] data,
      (groups RawData.frameNumber c (seen input i)).map (rangeOf c input)⟩ := by
  have hdrop : data ∈ input.drop i := List.mem_iff_getElem?.mpr ⟨0,by simpa using hd⟩
  have hfar := fun x hx => h x hx data hdrop hin
  have hgap : ¬ EndsGap c input data := by
    rintro ⟨p,hp,hpin,hlt,hle,-⟩
    obtain ⟨k,hk⟩ := List.mem_iff_getElem?.mp hp
    have hki := hc.index hk hd (by omega)
    have := hfar p (mem_seen.mpr ⟨hpin,k,hki,hk⟩)
    omega
  have he : groups RawData.frameNumber c (seen input (i + 1)) =
      groups RawData.frameNumber c (seen input i) ++ [[data]] := by
    rw [seen_included hd hin]
    exact groups_append_far fun x hx => hfar x (List.mem_of_getLast? hx)
  have hkept : kept c input [data] = DataAnalyzer.collect [] data := kept_append [] hgap
  have hscan := Scanned.within (c := c) (Nat.succ_pos i) he rfl hd
  simpa [hkept,span] using hscan

theorem scanned_consecutive {done : List (List RawData)} {g : List RawData} {x : RawData}
    (hc : Consecutive f₀ input) (hd : input[i]? = some data) (hin : data.included = true)
    (hi : 0 < i) (he : groups RawData.frameNumber c (seen input i) = done ++ [g])
    (hx : g.getLast? = some x) (hlast : input[i - 1]? = some x) :
    Scanned c input (i + 1) ⟨true,(span RawData.frameNumber g).1,
      (span RawData.frameNumber g).2 - (span RawData.frameNumber g).1 + 1 + 1,
      DataAnalyzer.collect (kept c input g) data,done.map (rangeOf c input)⟩ := by
  have hxn := hc _ x hlast
  have hdn := hc _ data hd
  have hxin : x.included = true := by
    have hxs : x ∈ seen input i :=
      mem_of_groups (he ▸ List.mem_append_right done (List.mem_singleton_self g))
        (List.mem_of_getLast? hx)
    exact (mem_seen.mp hxs).1
  have hgap : ¬ EndsGap c input data := by
    rintro ⟨p,hp,hpin,hlt,hle,hclear⟩
    have := hclear x (List.mem_of_getElem? hlast) (by omega) (by omega)
    simp [hxin] at this
  have he' := groups_append_near (y := data) he hx (by omega)
  rw [← seen_included hd hin] at he'
  have hscan := Scanned.within (c := c) (Nat.succ_pos i) he' (List.getLast?_concat ..) hd
  rw [span_append hx,kept_append g hgap] at hscan
  rw [span_last hx]
  convert hscan using 2
  omega

theorem scanned_bridge {done : List (List RawData)} {g : List RawData} {x : RawData} {j : Nat}
    (hc : Consecutive f₀ input) (hfc : da.frameCount.toNat = c) (hd : input[i]? = some data)
    (hout : data.included = false) (hskip : da.canSkip input i = some j) (hi : 0 < i)
    (he : groups RawData.frameNumber c (seen input i) = done ++ [g])
    (hx : g.getLast? = some x) (hlast : input[i - 1]? = some x) :
    Scanned c input (i + j + 1) ⟨true,(span RawData.frameNumber g).1,
      (span RawData.frameNumber g).2 - (span RawData.frameNumber g).1 + 1 + (j + 1),
      kept c input g,done.map (rangeOf c input)⟩ := by
  obtain ⟨hpos,hjc,hland,hclear⟩ := canSkip_some hfc hskip
  obtain ⟨y,hy,hyin⟩ := includedAt_iff.mp hland
  have hxn := hc _ x hlast
  have hyn := hc _ y hy
  have hxs : x ∈ seen input i :=
    mem_of_groups (he ▸ List.mem_append_right done (List.mem_singleton_self g))
      (List.mem_of_getLast? hx)
  have hclear' : ∀ k, k < j → DataAnalyzer.includedAt input (i + k) = false := by
    intro k hk
    rcases Nat.eq_zero_or_pos k with rfl | hk₀
    · simp [DataAnalyzer.includedAt,hd,hout]
    · exact hclear k hk₀ hk
  have hgap : EndsGap c input y := by
    refine ⟨x,List.mem_of_getElem? hlast,(mem_seen.mp hxs).1,by omega,by omega,?_⟩
    intro d hdm hxd hdy
    obtain ⟨k,hk⟩ := List.mem_iff_getElem?.mp hdm
    have hkn := hc k d hk
    have hk' : i + (k - i) = k := by omega
    have := hclear' (k - i) (by omega)
    simpa [hk',DataAnalyzer.includedAt,hk] using this
  have he' := groups_append_near (y := y) he hx (by omega)
  rw [← seen_clear hclear',← seen_included hy hyin] at he'
  have hscan := Scanned.within (c := c) (Nat.succ_pos (i + j)) he' (List.getLast?_concat ..) hy
  rw [span_append hx,kept_append_endsGap g hgap] at hscan
  rw [span_last hx]
  convert hscan using 2
  omega

theorem scanned_close {done : List (List RawData)} {g : List RawData}
    (hc : Consecutive f₀ input) (hfc : da.frameCount.toNat = c) (hd : input[i]? = some data)
    (hout : data.included = false) (hskip : da.canSkip input i = none)
    (he : groups RawData.frameNumber c (seen input i) = done ++ [g]) :
    Scanned c input (i + 1) ⟨false,-1,1,[],
      done.map (rangeOf c input) ++ [rangeOf c input g]⟩ := by
  have hclear := canSkip_none hfc hskip
  have hseen : seen input (i + 1) = seen input i :=
    seen_excluded (by simp [DataAnalyzer.includedAt,hd,hout])
  have hmap : done.map (rangeOf c input) ++ [rangeOf c input g] =
      (groups RawData.frameNumber c (seen input (i + 1))).map (rangeOf c input) := by
    rw [hseen,he,List.map_append,List.map_singleton]
  rw [hmap]
  refine .between ?_
  intro p hp y hy hyin
  rw [hseen] at hp
  obtain ⟨-,k,hk,hkp⟩ := mem_seen.mp hp
  obtain ⟨l,hl⟩ := List.mem_iff_getElem?.mp hy
  rw [List.getElem?_drop] at hl
  have hpn := hc k p hkp
  have hyn := hc _ y hl
  by_cases hlc : 1 + l < c
  · have hno := hclear (1 + l) (by omega) hlc
    rw [← Nat.add_assoc,DataAnalyzer.includedAt,hl] at hno
    simp [hyin] at hno
  · omega

theorem scanned_step (hc : Consecutive f₀ input) (hfc : da.frameCount.toNat = c)
    (hd : input[i]? = some data) (hs : Scanned c input i s) :
    i ≤ (da.analyzeFrame input i data s).1 ∧
      Scanned c input ((da.analyzeFrame input i data s).1 + 1)
        (da.analyzeFrame input i data s).2 := by
  cases hs with
  | between h =>
    cases hin : data.included with
    | true =>
      simp only [DataAnalyzer.analyzeFrame,hin]
      exact ⟨le_refl i,scanned_start hc hd hin h⟩
    | false =>
      simp only [DataAnalyzer.analyzeFrame,hin]
      refine ⟨le_refl i,?_⟩
      have hseen : seen input (i + 1) = seen input i :=
        seen_excluded (by simp [DataAnalyzer.includedAt,hd,hin])
      simp only [← hseen]
      refine .between fun x hx y hy => h x (hseen ▸ hx) y ?_
      rw [← List.drop_drop] at hy
      exact List.mem_of_mem_drop hy
  | @within done g x hi he hx hlast =>
    cases hin : data.included with
    | true =>
      simp only [DataAnalyzer.analyzeFrame,hin]
      exact ⟨le_refl i,scanned_consecutive hc hd hin hi he hx hlast⟩
    | false =>
      simp only [DataAnalyzer.analyzeFrame,hin]
      cases hskip : da.canSkip input i with
      | some j =>
        exact ⟨Nat.le_add_right i j,scanned_bridge hc hfc hd hin hskip hi he hx hlast⟩
      | none => exact ⟨le_refl i,scanned_close hc hfc hd hin hskip he⟩

theorem scanned_loop (hc : Consecutive f₀ input) (hfc : da.frameCount.toNat = c) {turns : Nat}
    (hturns : input.length ≤ i + turns) (hs : Scanned c input i s) :
    ∃ k, input.length ≤ k ∧ Scanned c input k (da.analyzeLoop input turns i s) := by
  induction turns generalizing i s with
  | zero => exact ⟨i,hturns,hs⟩
  | succ turns ih =>
    rw [DataAnalyzer.analyzeLoop]
    cases hd : input[i]? with
    | none => exact ⟨i,List.getElem?_eq_none_iff.mp hd,hs⟩
    | some data =>
      obtain ⟨hle,hstep⟩ := scanned_step hc hfc hd hs
      have hnext : input.length ≤ (da.analyzeFrame input i data s).1 + 1 + turns := by omega
      exact ih hnext hstep

end Step

def finished (s : RangeScan) : List TimeRangeWithMetadata :=
  if s.start ≥ 0 then s.timeRange ++ [⟨⟨s.start,s.duration⟩,DataAnalyzer.sort s.temp⟩]
  else s.timeRange

theorem result_analyzeRawData (da : DataAnalyzer) (input : List RawData) :
    (da.analyzeRawData input).result =
      finished (da.analyzeLoop input input.length 0 ⟨false,-1,1,[],da.timeRange⟩) := rfl

variable {f₀ : Int} {c k : Nat} {input : List RawData} {s : RangeScan}

theorem scanned_finished (hc : Consecutive f₀ input) (h₀ : 0 ≤ f₀) (hk : input.length ≤ k)
    (hs : Scanned c input k s) :
    finished s = (groups RawData.frameNumber c (includedFrames input)).map (rangeOf c input) := by
  have hseen : seen input k = includedFrames input := by rw [seen,List.take_of_length_le hk]
  rw [← hseen]
  cases hs with
  | between _ => rfl
  | @within done g x _ he hx _ =>
    have hg : g ∈ groups RawData.frameNumber c (seen input k) := he ▸ by simp
    obtain ⟨a,ha,hfirst⟩ := exists_at_first RawData.frameNumber (group_ne_nil hg)
    obtain ⟨-,j,-,hj⟩ := mem_seen.mp (mem_of_groups hg ha)
    have hstart : (span RawData.frameNumber g).1 ≥ 0 := by
      have hn := hc j a hj
      omega
    rw [he,finished,if_pos hstart,List.map_append,List.map_singleton]
    rfl

theorem analyzeRawData_result (hc : Consecutive f₀ input) (h₀ : 0 ≤ f₀) {framerate : ℚ}
    (hf : ⌈framerate⌉.toNat = c) :
    ((DataAnalyzer.make.setCorrectionValue framerate).analyzeRawData input).result =
      (groups RawData.frameNumber c (includedFrames input)).map (rangeOf c input) := by
  let da := DataAnalyzer.make.setCorrectionValue framerate
  have hend : ∃ k, input.length ≤ k ∧
      Scanned c input k (da.analyzeLoop input input.length 0 ⟨false,-1,1,[],[]⟩) :=
    scanned_loop hc hf (by omega) (.between nofun)
  obtain ⟨k,hk,hend⟩ := hend
  rw [result_analyzeRawData]
  exact scanned_finished hc h₀ hk hend

end Ovi
