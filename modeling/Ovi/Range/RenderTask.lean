import Ovi.Range.Ranges
import Ovi.Flow.GroupAnswers
import Mathlib.Data.List.Sort

namespace Ovi

open GapClosing

namespace RenderTask

def makeTimeRange (accumulated : List RawData) (framerate : ℚ) : List TimeRangeWithMetadata :=
  ((DataAnalyzer.make.setCorrectionValue framerate).analyzeRawData accumulated).result

-- the ranges handed to `appendClip`
def clips (accumulated : List RawData) (framerate : ℚ) : List TimeRange :=
  (makeTimeRange accumulated framerate).map (fun tr => tr.timeRange)

-- the range handed to `makeMediaRef`
def availableRange (videoFrames : Nat) : TimeRange := ⟨0,videoFrames⟩

end RenderTask

def TimeRange.Within (clip media : TimeRange) : Prop :=
  media.startFrameNum ≤ clip.startFrameNum ∧
    clip.startFrameNum + clip.duration ≤ media.startFrameNum + media.duration

structure ClipsFit {σ : Type} (d : DataFlow σ) (m : Media) (accumulated : List RawData)
    (framerate : ℚ) : Prop where
  inside : ∀ clip ∈ RenderTask.clips accumulated framerate,
    clip.Within (RenderTask.availableRange m.video.length)
  whole : d.skipFrames = 0 → (∀ n ∈ firstFrames m.video.length, frameIncluded accumulated n) →
    RenderTask.clips accumulated framerate = [RenderTask.availableRange m.video.length]

def indexIncluded (input : List RawData) (k : Int) : Prop :=
  ∃ i : Nat, (i : Int) = k ∧ DataAnalyzer.includedAt input i = true

def Overruns (input : List RawData) (c n : Nat) : Prop :=
  ∃ (a : Nat) (x : RawData), input[a]? = some x ∧
    x.frameNumber + (input.length - a : Nat) = n + 1 ∧
    (∀ i : Nat, a ≤ i → i < input.length → Bridged (indexIncluded input) c i) ∧
    ¬ Bridged (indexIncluded input) c ((a : Int) - 1)

section Renumber

variable {input : List RawData} {da : DataAnalyzer}

-- the analyser's loop reads frame numbers only to start a range
def renumbered (input : List RawData) : List RawData :=
  input.zipIdx.map (fun p => { p.1 with frameNumber := p.2 })

def NumberAt (input : List RawData) (k n : Int) : Prop :=
  ∃ (i : Nat) (x : RawData), input[i]? = some x ∧ k = i ∧ n = x.frameNumber

structure Renumbers (input : List RawData) (s t : RangeScan) : Prop where
  before : t.before = s.before
  duration : t.duration = s.duration
  started : s.before = true → NumberAt input t.start s.start
  idle : s.before = false → s.start = -1 ∧ t.start = -1
  timeRange : List.Forall₂ (fun r r' => NumberAt input r'.timeRange.startFrameNum
    r.timeRange.startFrameNum ∧ r'.timeRange.duration = r.timeRange.duration)
    s.timeRange t.timeRange

theorem renumbered_getElem? (input : List RawData) (i : Nat) :
    (renumbered input)[i]? = input[i]?.map (fun x => { x with frameNumber := (i : Int) }) := by
  simp only [renumbered,List.getElem?_map,List.getElem?_zipIdx,Option.map_map]
  cases input[i]? <;> simp

theorem renumbered_length (input : List RawData) : (renumbered input).length = input.length := by
  simp [renumbered]

theorem renumbered_consecutive (input : List RawData) : Consecutive 0 (renumbered input) := by
  intro i d h
  rw [renumbered_getElem?] at h
  obtain ⟨x,-,rfl⟩ := Option.map_eq_some_iff.mp h
  simp

theorem includedAt_renumbered (i : Nat) :
    DataAnalyzer.includedAt (renumbered input) i = DataAnalyzer.includedAt input i := by
  rw [DataAnalyzer.includedAt,renumbered_getElem?,DataAnalyzer.includedAt]
  cases input[i]? <;> rfl

theorem canSkip_renumbered (i : Nat) : da.canSkip (renumbered input) i = da.canSkip input i := by
  simp only [DataAnalyzer.canSkip,renumbered_length,includedAt_renumbered]

theorem frameIncluded_renumbered : frameIncluded (renumbered input) = indexIncluded input := by
  funext k
  apply propext
  constructor
  · rintro ⟨d,hd,hin,rfl⟩
    obtain ⟨i,hi⟩ := List.mem_iff_getElem?.mp hd
    have hn := renumbered_consecutive input i d hi
    refine ⟨i,by omega,?_⟩
    rw [← includedAt_renumbered]
    exact includedAt_iff.mpr ⟨d,hi,hin⟩
  · rintro ⟨i,rfl,hin⟩
    rw [← includedAt_renumbered] at hin
    obtain ⟨d,hd,hin⟩ := includedAt_iff.mp hin
    have hn := renumbered_consecutive input i d hd
    exact ⟨d,List.mem_of_getElem? hd,hin,by omega⟩

theorem renumbers_step (da : DataAnalyzer) {s t : RangeScan} {i : Nat} {data : RawData}
    (hd : input[i]? = some data) (h : Renumbers input s t) :
    (da.analyzeFrame (renumbered input) i { data with frameNumber := i } t).1 =
        (da.analyzeFrame input i data s).1 ∧
      Renumbers input (da.analyzeFrame input i data s).2
        (da.analyzeFrame (renumbered input) i { data with frameNumber := i } t).2 := by
  obtain ⟨hbefore,hduration,hstarted,hidle,hranges⟩ := h
  obtain ⟨before,start,duration,temp,ranges⟩ := s
  obtain ⟨before',start',duration',temp',ranges'⟩ := t
  obtain rfl : before' = before := hbefore
  obtain rfl : duration' = duration := hduration
  have hhere : NumberAt input i data.frameNumber := ⟨i,data,hd,rfl,rfl⟩
  cases hb : before' with
  | false =>
    subst hb
    cases hin : data.included with
    | true =>
      simp only [DataAnalyzer.analyzeFrame,hin]
      exact ⟨rfl,⟨rfl,rfl,fun _ => hhere,Bool.noConfusion,hranges⟩⟩
    | false =>
      simp only [DataAnalyzer.analyzeFrame,hin]
      exact ⟨rfl,⟨rfl,rfl,Bool.noConfusion,hidle,hranges⟩⟩
  | true =>
    subst hb
    cases hin : data.included with
    | true =>
      simp only [DataAnalyzer.analyzeFrame,hin]
      exact ⟨rfl,⟨rfl,rfl,hstarted,Bool.noConfusion,hranges⟩⟩
    | false =>
      simp only [DataAnalyzer.analyzeFrame,hin,canSkip_renumbered]
      cases da.canSkip input i with
      | some j => exact ⟨rfl,⟨rfl,rfl,hstarted,Bool.noConfusion,hranges⟩⟩
      | none =>
        refine ⟨rfl,⟨rfl,rfl,Bool.noConfusion,fun _ => ⟨rfl,rfl⟩,?_⟩⟩
        exact List.rel_append hranges (.cons ⟨hstarted rfl,rfl⟩ .nil)

theorem renumbers_loop {s t : RangeScan} {turns i : Nat} (h : Renumbers input s t) :
    Renumbers input (da.analyzeLoop input turns i s)
      (da.analyzeLoop (renumbered input) turns i t) := by
  induction turns generalizing i s t with
  | zero => exact h
  | succ turns ih =>
    rw [DataAnalyzer.analyzeLoop,DataAnalyzer.analyzeLoop,renumbered_getElem?]
    cases hd : input[i]? with
    | none => exact h
    | some data =>
      obtain ⟨hi,hstep⟩ := renumbers_step da hd h
      simp only [Option.map_some]
      rw [hi]
      exact ih hstep

theorem renumbers_finished {s t : RangeScan} (hn : ∀ x ∈ input, 0 ≤ x.frameNumber)
    (h : Renumbers input s t) :
    List.Forall₂ (fun r r' => NumberAt input r'.timeRange.startFrameNum
      r.timeRange.startFrameNum ∧ r'.timeRange.duration = r.timeRange.duration)
      (finished s) (finished t) := by
  cases hb : s.before with
  | false =>
    obtain ⟨hs,ht⟩ := h.idle hb
    simpa [finished,hs,ht] using h.timeRange
  | true =>
    have hstarted := h.started hb
    obtain ⟨i,x,hx,ht,hs⟩ := hstarted
    have hnonneg := hn x (List.mem_of_getElem? hx)
    rw [finished,if_pos (by omega),finished,if_pos (by omega)]
    exact List.rel_append h.timeRange (.cons ⟨h.started hb,h.duration⟩ .nil)

theorem renumbers_result {framerate : ℚ} (hn : ∀ x ∈ input, 0 ≤ x.frameNumber) :
    List.Forall₂ (fun r r' => NumberAt input r'.timeRange.startFrameNum
      r.timeRange.startFrameNum ∧ r'.timeRange.duration = r.timeRange.duration)
      ((DataAnalyzer.make.setCorrectionValue framerate).analyzeRawData input).result
      ((DataAnalyzer.make.setCorrectionValue framerate).analyzeRawData
        (renumbered input)).result := by
  rw [result_analyzeRawData,result_analyzeRawData,renumbered_length]
  exact renumbers_finished hn (renumbers_loop ⟨rfl,rfl,Bool.noConfusion,fun _ => ⟨rfl,rfl⟩,.nil⟩)

end Renumber

section Clips

variable {input : List RawData} {n c : Nat} {framerate : ℚ}

def indexGroups (c : Nat) (input : List RawData) : List (List RawData) :=
  groups RawData.frameNumber c (includedFrames (renumbered input))

theorem indexIncluded_iff : (fun k => ∃ x ∈ includedFrames (renumbered input), x.frameNumber = k) =
    indexIncluded input := by
  rw [← frameIncluded_renumbered]
  exact funext fun k => propext frameIncluded_iff.symm

theorem index_sorted (input : List RawData) : (includedFrames (renumbered input)).Pairwise
    (fun a b => a.frameNumber < b.frameNumber) := included_sorted (renumbered_consecutive input)

theorem clips_renumbered (framerate : ℚ) (h : ∀ x ∈ input, 0 ≤ x.frameNumber) :
    List.Forall₂ (fun clip r => NumberAt input r.1 clip.startFrameNum ∧
        clip.duration = r.2 - r.1 + 1)
      (RenderTask.clips input framerate)
      ((indexGroups ⌈framerate⌉.toNat input).map (span RawData.frameNumber)) := by
  rw [indexGroups,← result_ends (renumbered_consecutive input) (le_refl 0) rfl,RenderTask.clips]
  refine List.forall₂_map_left_iff.mpr (List.forall₂_map_right_iff.mpr ?_)
  refine (renumbers_result h).imp ?_
  rintro r r' ⟨hat,hduration⟩
  refine ⟨hat,?_⟩
  simp only [TimeRange.ends]
  omega

theorem Ascending.spread (h : Ascending n input) {i j : Nat} {x y : RawData}
    (hx : input[i]? = some x) (hy : input[j]? = some y) (hij : i ≤ j) :
    x.frameNumber + (j - i : Nat) ≤ y.frameNumber := by
  obtain ⟨k,rfl⟩ := Nat.exists_eq_add_of_le hij
  induction k generalizing y with
  | zero =>
    obtain rfl := Option.some.inj (hx ▸ hy)
    simp
  | succ k ih =>
    obtain ⟨hlt,hy'⟩ := List.getElem?_eq_some_iff.mp hy
    have hprev := ih (List.getElem?_eq_getElem (by omega)) (Nat.le_add_right i k)
    have hstep := (List.pairwise_iff_getElem.mp h.increasing) (i + k) (i + (k + 1)) (by omega)
      hlt (by omega)
    rw [hy'] at hstep
    omega

theorem Ascending.inj (h : Ascending n input) {x y : RawData} (hx : x ∈ input) (hy : y ∈ input)
    (he : x.frameNumber = y.frameNumber) : x = y := by
  obtain ⟨i,hi⟩ := List.mem_iff_getElem?.mp hx
  obtain ⟨j,hj⟩ := List.mem_iff_getElem?.mp hy
  have hij : i = j := by
    rcases Nat.le_total i j with hle | hle
    · have hs := h.spread hi hj hle
      omega
    · have hs := h.spread hj hi hle
      omega
  subst hij
  exact Option.some.inj (hi ▸ hj)

theorem clip_of_group {g : List RawData} (hg : g ∈ indexGroups c input) :
    ∃ (i j : Nat) (x y : RawData), input[i]? = some x ∧ input[j]? = some y ∧ i ≤ j ∧
      span RawData.frameNumber g = ((i : Int),(j : Int)) := by
  have hmem : ∀ z ∈ g, ∃ (i : Nat) (x : RawData), input[i]? = some x ∧ z.frameNumber = i := by
    intro z hz
    obtain ⟨i,hi⟩ := List.mem_iff_getElem?.mp (List.mem_filter.mp (mem_of_groups hg hz)).1
    have hn := renumbered_consecutive input i z hi
    rw [renumbered_getElem?] at hi
    obtain ⟨x,hx,-⟩ := Option.map_eq_some_iff.mp hi
    exact ⟨i,x,hx,by omega⟩
  obtain ⟨a,ha,hfirst⟩ := exists_at_first RawData.frameNumber (group_ne_nil hg)
  obtain ⟨b,hb,hlast⟩ := exists_at_last RawData.frameNumber (group_ne_nil hg)
  obtain ⟨i,x,hx,hi⟩ := hmem a ha
  obtain ⟨j,y,hy,hj⟩ := hmem b hb
  have hord := span_ordered (index_sorted input) hg
  exact ⟨i,j,x,y,hx,hy,by omega,Prod.ext (by omega) (by omega)⟩

theorem overruns_of_clip (h : Ascending n input) {g : List RawData} {x : RawData} {i j : Nat}
    (hg : g ∈ indexGroups c input) (hspan : span RawData.frameNumber g = ((i : Int),(j : Int)))
    (hx : input[i]? = some x) {y : RawData} (hy : input[j]? = some y) (hij : i ≤ j)
    (hover : (n : Int) < x.frameNumber + (j - i + 1)) : Overruns input c n := by
  have hspread := h.spread hx hy hij
  have hyn := (h.bounds y (List.mem_of_getElem? hy)).2
  have hlast : j + 1 = input.length := by
    have hlt := (List.getElem?_eq_some_iff.mp hy).1
    by_contra hne
    have hlen : input.length - 1 < input.length := by omega
    have hend := h.spread hy (List.getElem?_eq_getElem hlen) (by omega)
    have hbound := (h.bounds _ (List.getElem_mem hlen)).2
    omega
  refine ⟨i,x,hx,by omega,fun k h₁ h₂ => ?_,?_⟩
  · rw [← indexIncluded_iff]
    exact bridged_of_span (index_sorted input) hg (by rw [hspan]; simp only; omega)
      (by rw [hspan]; simp only; omega)
  · have hbefore := not_bridged_before (index_sorted input) hg
    rwa [hspan,indexIncluded_iff] at hbefore

theorem clip_of_overruns (ho : Overruns input c n) :
    ∃ g ∈ indexGroups c input, ∃ (i j : Nat) (x : RawData), input[i]? = some x ∧ i ≤ j ∧
      span RawData.frameNumber g = ((i : Int),(j : Int)) ∧
      (n : Int) < x.frameNumber + (j - i + 1) := by
  obtain ⟨a,x,hx,hnumber,hcovered,hopen⟩ := ho
  have hlt := (List.getElem?_eq_some_iff.mp hx).1
  have ha := hcovered a (le_refl a) hlt
  rw [← indexIncluded_iff] at ha hcovered hopen
  obtain ⟨g,hg,h₁,h₂⟩ := span_of_bridged (index_sorted input) ha
  obtain ⟨i,j,x',y,hx',hy,hij,hspan⟩ := clip_of_group hg
  have hjlt := (List.getElem?_eq_some_iff.mp hy).1
  have hi : i = a := by
    by_contra hne
    refine hopen (bridged_of_span (index_sorted input) hg ?_ ?_)
    · rw [hspan] at h₁ ⊢
      simp only at h₁ ⊢
      omega
    · omega
  have hj : j + 1 = input.length := by
    by_contra hne
    have hnext := hcovered (j + 1) (by omega) (by omega)
    have hafter := not_bridged_after (index_sorted input) hg
    rw [hspan] at hafter
    exact hafter (by simpa using hnext)
  subst hi
  refine ⟨g,hg,i,j,x,hx,hij,hspan,?_⟩
  omega

theorem clips_within_iff (h : Ascending n input) :
    (∀ clip ∈ RenderTask.clips input framerate, clip.Within (RenderTask.availableRange n)) ↔
      ¬ Overruns input ⌈framerate⌉.toNat n := by
  have hclips := clips_renumbered framerate (fun x hx => (h.bounds x hx).1.le)
  constructor
  · intro hwithin ho
    obtain ⟨g,hg,i,j,x,hx,hij,hspan,hover⟩ := clip_of_overruns ho
    obtain ⟨clip,hclip,⟨i',x',hx',hi,hstart⟩,hduration⟩ :=
      exists_of_mem_forall₂ hclips.flip (List.mem_map_of_mem hg)
    rw [hspan] at hi hduration
    obtain rfl : i' = i := by simpa using hi.symm
    obtain rfl := Option.some.inj (hx' ▸ hx)
    have hend := (hwithin clip hclip).2
    simp only [RenderTask.availableRange] at hend hduration
    omega
  · intro hno clip hclip
    obtain ⟨r,hr,⟨i',x',hx',hi,hstart⟩,hduration⟩ := exists_of_mem_forall₂ hclips hclip
    obtain ⟨g,hg,rfl⟩ := List.mem_map.mp hr
    obtain ⟨i,j,x,y,hx,hy,hij,hspan⟩ := clip_of_group hg
    rw [hspan] at hi hduration
    obtain rfl : i' = i := by simpa using hi.symm
    obtain rfl := Option.some.inj (hx' ▸ hx)
    have hb := h.bounds x' (List.mem_of_getElem? hx')
    constructor
    · simp only [RenderTask.availableRange]
      omega
    · by_contra hlt
      simp only [RenderTask.availableRange] at hlt hduration
      exact hno (overruns_of_clip h hg hspan hx' hy hij (by omega))

theorem overruns_of_all (h : Ascending n input) (hn : 0 < n)
    (hall : ∀ k ∈ firstFrames n, frameIncluded input k) : Overruns input c n := by
  have hnumbers : input.map RawData.frameNumber = firstFrames n := by
    have hfirst : (firstFrames n).Pairwise (· < ·) :=
      List.pairwise_map.mpr (List.pairwise_lt_range.imp fun hij => by omega)
    have hinput : (input.map RawData.frameNumber).Pairwise (· < ·) :=
      List.pairwise_map.mpr h.increasing
    refine hinput.eq_of_mem_iff hfirst fun k => ?_
    constructor
    · intro hk
      obtain ⟨x,hx,rfl⟩ := List.mem_map.mp hk
      have hb := h.bounds x hx
      exact List.mem_map.mpr ⟨(x.frameNumber - 1).toNat,List.mem_range.mpr (by omega),by omega⟩
    · intro hk
      obtain ⟨x,hx,-,rfl⟩ := hall k hk
      exact List.mem_map_of_mem hx
  have hlen : input.length = n := by
    rw [← List.length_map RawData.frameNumber,hnumbers,firstFrames_length]
  have hincluded : ∀ (i : Nat) (x : RawData), input[i]? = some x → x.included = true := by
    intro i x hx
    have hm : x.frameNumber ∈ firstFrames n :=
      hnumbers ▸ List.mem_map_of_mem (List.mem_of_getElem? hx)
    obtain ⟨y,hy,hin,he⟩ := hall x.frameNumber hm
    rwa [← h.inj hy (List.mem_of_getElem? hx) he]
  obtain ⟨x,hx⟩ : ∃ x, input[0]? = some x := ⟨_,List.getElem?_eq_getElem (by omega)⟩
  have hx₁ : x.frameNumber = 1 := by
    have hmap := congrArg (·[0]?) hnumbers
    simp only [List.getElem?_map,hx,firstFrames,List.getElem?_range hn,Option.map_some] at hmap
    simpa using hmap
  refine ⟨0,x,hx,by omega,fun i _ hi => ?_,?_⟩
  · have hmark : indexIncluded input i :=
      ⟨i,rfl,includedAt_iff.mpr ⟨_,List.getElem?_eq_getElem hi,
        hincluded i _ (List.getElem?_eq_getElem hi)⟩⟩
    exact ⟨i,i,le_refl _,le_refl _,hmark,hmark,fun k h₁ h₂ => by omega,by omega⟩
  · rintro ⟨p,q,hp,-,⟨i,hi,-⟩,-⟩
    omega

end Clips

section Last

def KeptAt (marks : List Bool) (k : Int) : Prop := ∃ i : Nat, (i : Int) = k ∧ marks[i]? = some true

structure KeptLast (g c : Nat) (answers : List GroupAnswer) : Prop where
  last : ∃ a, answers.getLast? = some a ∧ a.list = none ∧ a.kept = true
  apart : g * sinceList answers < (marks g answers).length →
    ∃ k, (marks g answers).length ≤ k + 1 + g * sinceList answers ∧
      k < (marks g answers).length ∧ ¬ Bridged (KeptAt (marks g answers)) c k

variable {g c n : Nat} {answers : List GroupAnswer} {rawdata : List RawData}

theorem Marked.keptAt (h : Marked g answers rawdata) :
    indexIncluded rawdata = KeptAt (marks g answers) := by
  funext k
  refine propext (exists_congr fun i => and_congr_right fun _ => ?_)
  rw [← h.included,List.getElem?_map,includedAt_iff,Option.map_eq_some_iff]

theorem Marked.length (h : Marked g answers rawdata) :
    rawdata.length = (marks g answers).length := by
  rw [← h.included,List.length_map]

theorem keptAt_last_iff (hg : 0 < g) (answers : List GroupAnswer) {a : GroupAnswer}
    (ha : a.list = none) : KeptAt (marks g (answers ++ [a]))
      (((marks g (answers ++ [a])).length - 1 : Nat) : Int) ↔ a.kept = true := by
  rw [marks_concat,markAnswer,ha]
  have hlast : (marks g answers ++ List.replicate g a.kept)[
      (marks g answers ++ List.replicate g a.kept).length - 1]? = some a.kept := by
    rw [List.getElem?_append_right (by rw [List.length_append,List.length_replicate]; omega),
      List.length_append,List.length_replicate,List.getElem?_replicate,if_pos (by omega)]
  constructor
  · rintro ⟨i,hi,hmark⟩
    obtain rfl : i = _ := Int.ofNat_inj.mp hi
    exact Option.some.inj (hlast.symm.trans hmark)
  · intro hkept
    exact ⟨_,rfl,hlast.trans (congrArg some hkept)⟩

theorem Marked.keptLast (h : Marked g answers rawdata) (hlen : answers.length = n / g)
    (ho : Overruns rawdata c n) : g ∣ n ∧ KeptLast g c answers := by
  obtain ⟨a,x,hx,hnumber,hcovered,hopen⟩ := ho
  have hlt := (List.getElem?_eq_some_iff.mp hx).1
  have hle : g * answers.length ≤ n := hlen ▸ Nat.mul_div_le n g
  have hlate : rawdata.length ≤ a + g * sinceList answers := by
    by_contra hearly
    have hbound := h.early a x hx (by omega)
    omega
  have hall := h.late a x hx hlate
  refine ⟨⟨answers.length,by omega⟩,?_,fun hbefore => ⟨a - 1,?_,?_,?_⟩⟩
  · have hpos : 0 < g * sinceList answers := by omega
    obtain ⟨_,q,-,hq,-,⟨j,rfl,hin⟩,-,-⟩ := hcovered (rawdata.length - 1) (by omega) (by omega)
    obtain ⟨y,hy,-⟩ := includedAt_iff.mp hin
    have hjlt := (List.getElem?_eq_some_iff.mp hy).1
    have hmark : indexIncluded rawdata ((rawdata.length - 1 : Nat) : Int) := ⟨j,by omega,hin⟩
    rw [h.keptAt,h.length] at hmark
    rcases List.eq_nil_or_concat answers with rfl | ⟨before,last,rfl⟩
    · cases hpos
    · rw [List.concat_eq_append] at hmark hpos ⊢
      rw [sinceList_concat] at hpos
      cases hlist : last.list with
      | some detected =>
        rw [hlist] at hpos
        cases hpos
      | none =>
        refine ⟨last,List.getLast?_concat,hlist,?_⟩
        exact (keptAt_last_iff (Nat.pos_of_mul_pos_right hpos) before hlist).mp hmark
  · rw [← h.length]
    omega
  · rw [← h.length]
    omega
  · rw [← h.length] at hbefore
    rw [← h.keptAt,Nat.cast_sub (by omega),Nat.cast_one]
    exact hopen

theorem Marked.overruns (h : Marked g answers rawdata) (hasc : Ascending n rawdata)
    (hlen : answers.length = n / g) (hdvd : g ∣ n) (hk : KeptLast g c answers) :
    Overruns rawdata c n := by
  obtain ⟨last,hlast,hlist,hkept⟩ := hk.last
  obtain ⟨before,rfl⟩ := List.getLast?_eq_some_iff.mp hlast
  have hg : 0 < g := Nat.pos_of_ne_zero fun hzero => by
    rw [hzero,Nat.div_zero,List.length_append] at hlen
    cases hlen
  have hmark := (keptAt_last_iff hg before hlist).mpr hkept
  obtain ⟨j,hj,hin⟩ := h.keptAt ▸ hmark
  have hbridged : Bridged (indexIncluded rawdata) c j :=
    ⟨j,j,le_refl _,le_refl _,⟨j,rfl,hin⟩,⟨j,rfl,hin⟩,fun k h₁ h₂ => by omega,by omega⟩
  rw [← indexIncluded_iff] at hbridged
  obtain ⟨grp,hgrp,h₁,h₂⟩ := span_of_bridged (index_sorted rawdata) hbridged
  obtain ⟨i,j',x,y,hx,hy,hij,hspan⟩ := clip_of_group hgrp
  have hjlt := (List.getElem?_eq_some_iff.mp hy).1
  have hlength := h.length
  rw [hspan] at h₁ h₂
  simp only at h₁ h₂
  have hlate : rawdata.length ≤ i + g * sinceList (before ++ [last]) := by
    by_contra hearly
    obtain ⟨k,hk₁,hk₂,hopen⟩ := hk.apart (by omega)
    rw [← h.keptAt,← indexIncluded_iff] at hopen
    refine hopen (bridged_of_span (index_sorted rawdata) hgrp ?_ ?_)
    · rw [hspan]
      simp only
      omega
    · rw [hspan]
      simp only
      omega
  have hnumber := h.late i x hx hlate
  rw [hlen,Nat.mul_div_cancel' hdvd] at hnumber
  exact overruns_of_clip hasc hgrp hspan hx hy hij (by omega)

theorem keptLast_iff (hnone : ∀ a ∈ answers, a.list = none) : KeptLast g c answers ↔
    ∃ a, answers.getLast? = some a ∧ a.kept = true := by
  constructor
  · rintro ⟨⟨a,hlast,-,hkept⟩,-⟩
    exact ⟨a,hlast,hkept⟩
  · rintro ⟨a,hlast,hkept⟩
    refine ⟨⟨a,hlast,hnone a (List.mem_of_getLast? hlast),hkept⟩,fun hlt => absurd hlt ?_⟩
    rw [sinceList_of_none hnone]
    exact (marks_length_le g answers).not_gt

end Last

section Run

variable {σ : Type} {d : DataFlow σ} {m : Media}

theorem clipsFit_iff {rawdata : List RawData} (h : Ascending m.video.length rawdata)
    (framerate : ℚ) : ClipsFit d m rawdata framerate ↔
      ¬ Overruns rawdata ⌈framerate⌉.toNat m.video.length ∧
        ¬ (d.skipFrames = 0 ∧ m.video = []) := by
  constructor
  · intro hfit
    refine ⟨(clips_within_iff h).mp hfit.inside,?_⟩
    rintro ⟨hskip,hempty⟩
    have hnone : rawdata = [] := List.eq_nil_iff_forall_not_mem.mpr fun x hx => by
      have hb := h.bounds x hx
      simp only [hempty,List.length_nil] at hb
      omega
    have hclips := hfit.whole hskip (by simp [hempty,firstFrames])
    rw [hnone] at hclips
    cases hclips
  · rintro ⟨hno,hempty⟩
    refine ⟨(clips_within_iff h).mpr hno,fun hskip hall => ?_⟩
    have hpos : 0 < m.video.length :=
      List.length_pos_of_ne_nil fun hnil => hempty ⟨hskip,hnil⟩
    exact absurd (overruns_of_all h hpos hall) hno

theorem clips_fit_iff (hrun : ∀ n, d.run n = true) {A : LogicAnalyzer} {st : σ} {fuel : Nat}
    {w : Worker σ} (framerate : ℚ)
    (herr : ErrorFree d fuel
      (d.startWorker (Worker.initial A (AvSynchronizer.make m.extractor) st)))
    (hw : d.worker fuel (Worker.initial A (AvSynchronizer.make m.extractor) st) = some (.ok w)) :
    ∃ answers, (∀ answers', m.Answered d A st answers' ↔ answers' = answers) ∧
      (ClipsFit d m w.accumulator.rawdata framerate ↔
        ¬ (d.groupSize ∣ m.video.length ∧ KeptLast d.groupSize ⌈framerate⌉.toNat answers) ∧
          ¬ (d.skipFrames = 0 ∧ m.video = [])) := by
  obtain ⟨answers,⟨A',st',hanswered⟩,hlen,hmarked⟩ := worker_answering hrun herr hw
  have hasc := worker_ascending hrun hw
  refine ⟨answers,fun answers' => ?_,?_⟩
  · constructor
    · rintro ⟨A'',st'',h⟩
      exact h.unique hanswered
    · rintro rfl
      exact ⟨A',st',hanswered⟩
  · rw [clipsFit_iff hasc]
    refine and_congr_left fun _ => not_congr ?_
    constructor
    · exact hmarked.keptLast hlen
    · rintro ⟨hdvd,hk⟩
      exact hmarked.overruns hasc hlen hdvd hk

theorem clips_fit_iff_oneFrame : ∃ w,
    sampleFlow.worker 4
      (Worker.initial faceAnalyzer (AvSynchronizer.make oneFrame.extractor) ()) = some (.ok w) ∧
    ∃ answers, (∀ answers', oneFrame.Answered sampleFlow faceAnalyzer () answers' ↔
        answers' = answers) ∧
      (ClipsFit sampleFlow oneFrame w.accumulator.rawdata 30 ↔
        ¬ (sampleFlow.groupSize ∣ oneFrame.video.length ∧
            KeptLast sampleFlow.groupSize ⌈(30 : ℚ)⌉.toNat answers) ∧
          ¬ (sampleFlow.skipFrames = 0 ∧ oneFrame.video = [])) := by
  obtain ⟨w,hw⟩ : ∃ w, sampleFlow.worker 4
      (Worker.initial faceAnalyzer (AvSynchronizer.make oneFrame.extractor) ()) = some (.ok w) :=
    ⟨_,rfl⟩
  have hcalm : Calm sampleFlow := ⟨fun uid _ st _ => ⟨⟨uid == "FaceDetect.1",[]⟩,st,rfl,rfl⟩⟩
  exact ⟨w,hw,clips_fit_iff (fun _ => rfl) 30 (hcalm.errorFree (fun _ => rfl) _) hw⟩

theorem clip_overruns_oneFrame : ∃ w,
    sampleFlow.worker 4
      (Worker.initial faceAnalyzer (AvSynchronizer.make oneFrame.extractor) ()) = some (.ok w) ∧
    w.completed = [oviErrorNone] ∧ ¬ ClipsFit sampleFlow oneFrame w.accumulator.rawdata 30 := by
  obtain ⟨w,hw,hdone,hraw⟩ : ∃ w, sampleFlow.worker 4
      (Worker.initial faceAnalyzer (AvSynchronizer.make oneFrame.extractor) ()) = some (.ok w) ∧
      w.completed = [oviErrorNone] ∧ w.accumulator.rawdata = [⟨1,true,∅⟩] := ⟨_,rfl,rfl,rfl⟩
  refine ⟨w,hw,hdone,fun h => ?_⟩
  have hclips : RenderTask.clips [⟨1,true,∅⟩] 30 = [⟨1,1⟩] := by decide +kernel
  have hinside := h.inside
  rw [hraw,hclips] at hinside
  have hend := (hinside ⟨1,1⟩ (List.mem_singleton_self _)).2
  simp [RenderTask.availableRange,oneFrame] at hend

end Run

end Ovi
