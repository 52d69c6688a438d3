import Ovi.Flow.Coverage

namespace Ovi

variable {σ : Type} {d : DataFlow σ} {m : Media}

structure Ascending (n : Nat) (rawdata : List RawData) : Prop where
  increasing : rawdata.Pairwise (fun x y => x.frameNumber < y.frameNumber)
  bounds : ∀ x ∈ rawdata, 0 < x.frameNumber ∧ x.frameNumber ≤ n

structure Progress (d : DataFlow σ) (m : Media) (w : Worker σ) (k : Nat) : Prop where
  reading : ∃ r : Reading, w.avSynchronizer = r.synchronizer ∧
    Decoding r (m.video.drop (k * d.groupSize))
  length_le : k * d.groupSize ≤ m.video.length
  ascending : Ascending (k * d.groupSize) w.accumulator.rawdata

section Record

theorem updateFrom_numbers (detected : Details) (i : Nat) (rawdata : List RawData) :
    (Accumulator.updateFrom detected i rawdata).1.map RawData.frameNumber =
      rawdata.map RawData.frameNumber := by
  induction rawdata generalizing i with
  | nil => rfl
  | cons item rawdata ih =>
    rw [Accumulator.updateFrom]
    split
    · rfl
    · simp [ih]
    · rfl

theorem updateFrom_included {detected : Details} {i : Nat} {rawdata : List RawData}
    (h : (Accumulator.updateFrom detected i rawdata).2 = none) {j : Nat} {e : RawData}
    (he : (Accumulator.updateFrom detected i rawdata).1[j]? = some e) :
    detected[i + j]? = some (.bool e.included) := by
  induction rawdata generalizing i j with
  | nil => cases he
  | cons item rawdata ih =>
    rw [Accumulator.updateFrom] at h he
    split at h
    · cases h
    · rename_i value hvalue
      rw [hvalue] at he
      cases j with
      | zero =>
        obtain rfl := Option.some.inj he
        exact hvalue
      | succ j =>
        rw [Nat.add_comm j 1,← Nat.add_assoc]
        exact ih h he
    · cases h

theorem update_length {a : Accumulator} {detected : Details} :
    (a.update detected).1.rawdata.length = a.rawdata.length := by
  have hnumbers := congrArg List.length (updateFrom_numbers detected 0 a.rawdata)
  rwa [List.length_map,List.length_map] at hnumbers

theorem Ascending.congr {n : Nat} {rawdata rawdata' : List RawData} (h : Ascending n rawdata)
    (he : rawdata'.map RawData.frameNumber = rawdata.map RawData.frameNumber) :
    Ascending n rawdata' := by
  constructor
  · have hp := List.pairwise_map.mpr h.increasing
    rw [← he] at hp
    exact List.pairwise_map.mp hp
  · intro x hx
    have hm := List.mem_map_of_mem (f := RawData.frameNumber) hx
    rw [he] at hm
    obtain ⟨y,hy,hn⟩ := List.mem_map.mp hm
    exact hn ▸ h.bounds y hy

theorem Ascending.append {k g : Nat} {rawdata : List RawData} (h : Ascending (k * g) rawdata)
    (e : Bool × DetectedData) : Ascending ((k + 1) * g) (rawdata ++ groupData g k e) := by
  have hsucc : (k + 1) * g = k * g + g := Nat.succ_mul k g
  have hgroup : ∀ x ∈ groupData g k e, ((k * g : Nat) : Int) < x.frameNumber ∧
      x.frameNumber ≤ ((k * g + g : Nat) : Int) := by
    intro x hx
    obtain ⟨i,hi,rfl⟩ := List.mem_map.mp hx
    have hlt := List.mem_range.mp hi
    exact ⟨by simp only; omega,by simp only; omega⟩
  constructor
  · refine List.pairwise_append.mpr ⟨h.increasing,?_,fun x hx y hy => ?_⟩
    · refine List.pairwise_map.mpr (List.pairwise_lt_range.imp fun {i j} hij => ?_)
      simp only
      omega
    · exact (h.bounds x hx).2.trans_lt (hgroup y hy).1
  · intro x hx
    rw [hsucc]
    rcases List.mem_append.mp hx with hx | hx
    · have hb := h.bounds x hx
      omega
    · have hb := hgroup x hx
      omega

theorem Ascending.next {k g : Nat} {rawdata : List RawData} (h : Ascending (k * g) rawdata) :
    Ascending ((k + 1) * g) rawdata := by
  have hsucc : (k + 1) * g = k * g + g := Nat.succ_mul k g
  refine ⟨h.increasing,fun x hx => ?_⟩
  have hb := h.bounds x hx
  omega

theorem endFrame_ascending {w w' : Worker σ} {r : Reading} {k : Nat} {vFrame : FramePack}
    {aFrames : List FramePack} (hread : GroupRead d m r k vFrame aFrames)
    (h : Ascending (k * d.groupSize) w.accumulator.rawdata)
    (he : d.endFrame w (some vFrame,aFrames) = .ok w') :
    w'.avSynchronizer = w.avSynchronizer ∧
      Ascending ((k + 1) * d.groupSize) w'.accumulator.rawdata := by
  unfold DataFlow.endFrame at he
  split at he
  · split at he
    · cases he
    · split at he
      · cases he
      · rename_i detected _ _ accumulator hu
        cases he
        refine ⟨rfl,Ascending.next (h.congr ?_)⟩
        rw [← updateFrom_numbers detected 0 w.accumulator.rawdata]
        exact congrArg (fun a => a.rawdata.map RawData.frameNumber) (Prod.mk.inj hu).1.symm
  · cases he
    refine ⟨rfl,?_⟩
    rw [appendResult_group hread.length_le hread.pos hread.last]
    exact h.append (w.logicAnalyzer.included,w.outcomeCache.detected)

end Record

section Run

variable {w w' : Worker σ}

theorem Progress.congr {k : Nat} (h : Progress d m w k) (hw : SameStreams w w') :
    Progress d m w' k :=
  ⟨hw.avSynchronizer ▸ h.reading,h.length_le,hw.accumulator ▸ h.ascending⟩

theorem Progress.next {k fuel : Nat} {w₁ w₂ : Worker σ} {r : Reading} {vFrame : FramePack}
    {aFrames : List FramePack} {eop : Bool} (h : Progress d m w k)
    (hread : GroupRead d m r k vFrame aFrames)
    (hframe : d.frameLoop (some vFrame,aFrames) fuel (DataFlow.startFrame
      { w with loads := w.loads + 1 } (r.group d.groupSize (none,[])).2.synchronizer) =
        some (.ok (eop,w₁)))
    (hend : (if eop then d.endFrame w₁ (some vFrame,aFrames) else .ok w₁) = .ok w₂) :
    Progress d m (d.reportFrame w₂ (some vFrame,aFrames)) (k + 1) := by
  have hsame := frameLoop_streams hframe
  have hasc : Ascending (k * d.groupSize) w₁.accumulator.rawdata := by
    rw [hsame.accumulator]
    exact h.ascending
  have hstep : w₂.avSynchronizer = w₁.avSynchronizer ∧
      Ascending ((k + 1) * d.groupSize) w₂.accumulator.rawdata := by
    cases eop with
    | true =>
      rw [if_pos rfl] at hend
      exact endFrame_ascending hread hasc hend
    | false =>
      rw [if_neg Bool.false_ne_true] at hend
      obtain rfl := Except.ok.inj hend
      exact ⟨rfl,hasc.next⟩
  have hnext : Progress d m w₂ (k + 1) :=
    ⟨⟨_,hstep.1.trans hsame.avSynchronizer,hread.decoding⟩,hread.length_le,hstep.2⟩
  exact hnext.congr (reportFrame_streams w₂ _)

theorem workerLoop_progress (hrun : ∀ n, d.run n = true) {fuel k : Nat} (h : Progress d m w k)
    (hloop : d.workerLoop fuel w = some (.ok w')) :
    ∃ k', k' * d.groupSize ≤ m.video.length ∧
      Ascending (k' * d.groupSize) w'.accumulator.rawdata := by
  induction fuel generalizing w k with
  | zero => cases hloop
  | succ fuel ih =>
    obtain ⟨r,hw,hr⟩ := h.reading
    rw [workerLoop_group hrun hw] at hloop
    rcases hr.groupRead h.length_le with ⟨hnone,-⟩ | ⟨vFrame,aFrames,hread⟩
    · simp only [hnone,Option.isNone_none,List.isEmpty_nil,Bool.and_self,if_true] at hloop
      cases hloop
      exact ⟨k,h.length_le,h.ascending⟩
    · simp only [hread.frames,Option.isNone_some,Bool.false_and,Bool.false_eq_true,
        if_false] at hloop
      split at hloop
      · cases hloop
      · cases hloop
      · rename_i hframe
        split at hloop
        · cases hloop
        · rename_i hend
          exact ih (h.next hread hframe hend) hloop

theorem worker_ascending (hrun : ∀ n, d.run n = true) {A : LogicAnalyzer} {st : σ} {fuel : Nat}
    (hw : d.worker fuel (Worker.initial A (AvSynchronizer.make m.extractor) st) = some (.ok w)) :
    Ascending m.video.length w.accumulator.rawdata := by
  unfold DataFlow.worker at hw
  split at hw
  · rename_i w₁ hloop
    have hinitial := covered_initial d m A st
    have hprogress : Progress d m
        (d.startWorker (Worker.initial A (AvSynchronizer.make m.extractor) st)) 0 :=
      ⟨hinitial.reading,hinitial.length_le,by rw [hinitial.rawdata]; exact ⟨.nil,nofun⟩⟩
    obtain ⟨k,hk,hasc⟩ := workerLoop_progress hrun hprogress hloop
    have hsame := invokeProgressCb_streams (d := d) w₁ "Finish Analysis..."
    cases hw
    refine ⟨hsame.accumulator ▸ hasc.increasing,fun x hx => ?_⟩
    have hb := hasc.bounds x (hsame.accumulator ▸ hx)
    omega
  · rename_i hnot
    exact absurd hw (hnot w)

end Run

end Ovi
