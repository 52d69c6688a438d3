import Ovi.Flow.Consultation
import Ovi.Flow.MultiFrame

namespace Ovi

structure GroupAnswer where
  kept : Bool
  list : Option Details

section Answers

variable {σ : Type}

structure GroupAnswered (d : DataFlow σ) (A : LogicAnalyzer) (frames : Frames) (st : σ)
    (a : GroupAnswer) (A' : LogicAnalyzer) (st' : σ) : Prop where
  consulted : ∃ o uids, Consulted d A frames st o uids A' st' ∧
    ∀ detected, a.list = some detected ↔ Lists d.pluginManager o uids detected
  kept : a.kept = A'.included

inductive GroupsAnswered (d : DataFlow σ) :
    LogicAnalyzer → σ → List Frames → List GroupAnswer → LogicAnalyzer → σ → Prop
  | nil {A : LogicAnalyzer} {st : σ} : GroupsAnswered d A st [] [] A st
  | cons {A A₁ A' : LogicAnalyzer} {st st₁ st' : σ} {frames : Frames} {more : List Frames}
    {a : GroupAnswer} {answers : List GroupAnswer} (h : GroupAnswered d A frames st a A₁ st₁)
    (rest : GroupsAnswered d A₁ st₁ more answers A' st') :
    GroupsAnswered d A st (frames :: more) (a :: answers) A' st'

def Media.groups (m : Media) (g : Nat) : List Frames :=
  (List.range (m.video.length / g)).map (m.group g)

theorem GroupsAnswered.concat {d : DataFlow σ} {A A₁ A' : LogicAnalyzer} {st st₁ st' : σ}
    {groups : List Frames} {frames : Frames} {answers : List GroupAnswer} {a : GroupAnswer}
    (h : GroupsAnswered d A st groups answers A₁ st₁)
    (hlast : GroupAnswered d A₁ frames st₁ a A' st') :
    GroupsAnswered d A st (groups ++ [frames]) (answers ++ [a]) A' st' := by
  induction h with
  | nil => exact .cons hlast .nil
  | cons h _ ih => exact .cons h (ih hlast)

theorem GroupAnswered.unique {d : DataFlow σ} {A A' A'' : LogicAnalyzer} {st st' st'' : σ}
    {frames : Frames} {a b : GroupAnswer} (h : GroupAnswered d A frames st a A' st')
    (h' : GroupAnswered d A frames st b A'' st'') : a = b ∧ A' = A'' ∧ st' = st'' := by
  obtain ⟨⟨o,uids,hc,hlist⟩,hkept⟩ := h
  obtain ⟨⟨o',uids',hc',hlist'⟩,hkept'⟩ := h'
  obtain ⟨rfl,rfl,rfl,hsame⟩ := emits_unique hc.named hc'.named (List.forall_mem_nil _)
    hc.answered hc'.answered
  refine ⟨?_,rfl,rfl⟩
  obtain ⟨kept,list⟩ := a
  obtain ⟨kept',list'⟩ := b
  obtain rfl : kept = kept' := hkept.trans hkept'.symm
  have hlists : list = list' := Option.ext fun detected => by
    rw [hlist detected,hlist' detected]
    exact ⟨fun h => h.congr hsame,fun h => h.congr fun uid huid he => (hsame uid huid he).symm⟩
  rw [hlists]

theorem GroupsAnswered.unique {d : DataFlow σ} {A A' A'' : LogicAnalyzer} {st st' st'' : σ}
    {groups : List Frames} {answers answers' : List GroupAnswer}
    (h : GroupsAnswered d A st groups answers A' st')
    (h' : GroupsAnswered d A st groups answers' A'' st'') : answers = answers' := by
  induction h generalizing answers' with
  | nil =>
    cases h'
    rfl
  | cons h _ ih =>
    cases h' with
    | cons h' rest =>
      obtain ⟨rfl,rfl,rfl⟩ := h.unique h'
      rw [ih rest]

def Media.Answered (m : Media) (d : DataFlow σ) (A : LogicAnalyzer) (st : σ)
    (answers : List GroupAnswer) : Prop :=
  ∃ A' st', GroupsAnswered d A st (m.groups d.groupSize) answers A' st'

def ErrorFree (d : DataFlow σ) (fuel : Nat) (w₀ : Worker σ) : Prop :=
  ∀ k w frames s eop w₁ w₂, d.afterGroups fuel k w₀ = some (.ok (true,w)) →
    GroupTurn d fuel w frames s eop w₁ w₂ → eop = true

end Answers

section Flags

def markAnswer (g : Nat) (marks : List Bool) (a : GroupAnswer) : List Bool :=
  match a.list with
  | none => marks ++ List.replicate g a.kept
  | some detected => (List.range marks.length).map fun i => detected[i]? == some (.bool true)

def marks (g : Nat) (answers : List GroupAnswer) : List Bool := answers.foldl (markAnswer g) []

def sinceList (answers : List GroupAnswer) : Nat :=
  (answers.reverse.takeWhile fun a => a.list.isNone).length

variable {g : Nat} {answers : List GroupAnswer} {a : GroupAnswer}

theorem marks_concat (g : Nat) (answers : List GroupAnswer) (a : GroupAnswer) :
    marks g (answers ++ [a]) = markAnswer g (marks g answers) a := by
  rw [marks,List.foldl_append]
  rfl

theorem sinceList_concat (answers : List GroupAnswer) (a : GroupAnswer) :
    sinceList (answers ++ [a]) = if a.list.isNone then sinceList answers + 1 else 0 := by
  rw [sinceList,List.reverse_append,List.reverse_singleton,List.singleton_append,
    List.takeWhile_cons]
  split <;> rfl

theorem marks_length_le (g : Nat) (answers : List GroupAnswer) :
    (marks g answers).length ≤ g * answers.length := by
  induction answers using List.reverseRecOn with
  | nil => exact Nat.zero_le _
  | append_singleton answers a ih =>
    have hmore : g * (answers.length + 1) = g * answers.length + g := Nat.mul_succ _ _
    rw [marks_concat,markAnswer,List.length_append,List.length_singleton,hmore]
    split
    · rw [List.length_append,List.length_replicate]
      exact Nat.add_le_add_right ih g
    · rw [List.length_map,List.length_range]
      exact ih.trans (Nat.le_add_right _ _)

theorem sinceList_of_none (h : ∀ a ∈ answers, a.list = none) :
    sinceList answers = answers.length := by
  rw [sinceList,List.takeWhile_eq_self_iff.mpr,List.length_reverse]
  intro a ha
  rw [h a (List.mem_reverse.mp ha)]
  rfl

structure Marked (g : Nat) (answers : List GroupAnswer) (rawdata : List RawData) : Prop where
  included : rawdata.map RawData.included = marks g answers
  since : g * sinceList answers ≤ rawdata.length
  late : ∀ (i : Nat) (x : RawData), rawdata[i]? = some x →
    rawdata.length ≤ i + g * sinceList answers →
      x.frameNumber + (rawdata.length - i : Nat) = ((g * answers.length : Nat) : Int) + 1
  early : ∀ (i : Nat) (x : RawData), rawdata[i]? = some x →
    i + g * sinceList answers < rawdata.length →
      x.frameNumber + (rawdata.length - i : Nat) < ((g * answers.length : Nat) : Int) + 1

variable {rawdata : List RawData}

theorem marked_nil (g : Nat) : Marked g [] [] :=
  ⟨rfl,Nat.le_refl _,fun _ _ h => (by cases h),fun _ _ h => (by cases h)⟩

theorem Marked.append (h : Marked g answers rawdata) (kept : Bool) (detected : DetectedData) :
    Marked g (answers ++ [⟨kept,none⟩])
      (rawdata ++ groupData g answers.length (kept,detected)) := by
  have hsince : sinceList (answers ++ [⟨kept,none⟩]) = sinceList answers + 1 :=
    sinceList_concat answers ⟨kept,none⟩
  have hlength : (groupData g answers.length (kept,detected)).length = g := by
    rw [groupData,List.length_map,List.length_range]
  have hle := h.since
  have hmul : g * (sinceList answers + 1) = g * sinceList answers + g := Nat.mul_succ _ _
  have hmore : g * (answers.length + 1) = g * answers.length + g := Nat.mul_succ _ _
  have hnew : ∀ (i : Nat) (x : RawData), rawdata.length ≤ i →
      (rawdata ++ groupData g answers.length (kept,detected))[i]? = some x →
        x.frameNumber = ((g * answers.length : Nat) : Int) + (i - rawdata.length : Nat) + 1 ∧
          i < rawdata.length + g := by
    intro i x hi hx
    rw [List.getElem?_append_right hi,groupData,List.getElem?_map] at hx
    obtain ⟨j,hj,rfl⟩ := Option.map_eq_some_iff.mp hx
    obtain ⟨hlt,rfl⟩ := List.getElem?_eq_some_iff.mp hj
    rw [List.length_range] at hlt
    rw [List.getElem_range,Nat.mul_comm g]
    refine ⟨?_,by omega⟩
    push_cast
    ring
  refine ⟨?_,?_,fun i x hx hi => ?_,fun i x hx hi => ?_⟩
  · rw [List.map_append,h.included,marks_concat,markAnswer,groupData,List.map_map]
    refine congrArg (marks g answers ++ ·) ?_
    refine Eq.trans ?_ (congrArg (List.replicate · kept) List.length_range)
    exact List.map_const'
  · rw [List.length_append,hlength,hsince,hmul]
    omega
  · rw [List.length_append,hlength,hsince,hmul] at hi
    rw [List.length_append,List.length_append,hlength,List.length_singleton,hmore]
    rcases Nat.lt_or_ge i rawdata.length with hlt | hge
    · rw [List.getElem?_append_left hlt] at hx
      have hold := h.late i x hx (by omega)
      omega
    · have hold := hnew i x hge hx
      omega
  · rw [List.length_append,hlength,hsince,hmul] at hi
    rw [List.length_append,List.length_append,hlength,List.length_singleton,hmore]
    have hlt : i < rawdata.length := by omega
    rw [List.getElem?_append_left hlt] at hx
    have hold := h.early i x hx (by omega)
    omega

theorem Marked.update (h : Marked g answers rawdata) (hg : 0 < g) {detected : Details}
    (hdone : ((⟨rawdata⟩ : Accumulator).update detected).2 = none) (kept : Bool) :
    Marked g (answers ++ [⟨kept,some detected⟩])
      ((⟨rawdata⟩ : Accumulator).update detected).1.rawdata := by
  have hsince : sinceList (answers ++ [⟨kept,some detected⟩]) = 0 :=
    sinceList_concat answers ⟨kept,some detected⟩
  have hlength : ((⟨rawdata⟩ : Accumulator).update detected).1.rawdata.length = rawdata.length :=
    update_length
  have hnumbers := updateFrom_numbers detected 0 rawdata
  have hmore : g * (answers.length + 1) = g * answers.length + g := Nat.mul_succ _ _
  have hmarks : rawdata.length = (marks g answers).length := by
    rw [← h.included,List.length_map]
  refine ⟨?_,by rw [hsince,Nat.mul_zero]; exact Nat.zero_le _,fun i x hx hi => ?_,
    fun i x hx hi => ?_⟩
  · rw [marks_concat,markAnswer]
    refine List.ext_getElem? fun i => ?_
    rw [List.getElem?_map,List.getElem?_map]
    cases hx : ((⟨rawdata⟩ : Accumulator).update detected).1.rawdata[i]? with
    | none =>
      have hge := List.getElem?_eq_none_iff.mp hx
      rw [List.getElem?_eq_none (by rw [List.length_range]; omega)]
      rfl
    | some x =>
      have hlt := (List.getElem?_eq_some_iff.mp hx).1
      have hvalue := updateFrom_included hdone hx
      rw [Nat.zero_add] at hvalue
      rw [List.getElem?_range (by omega),Option.map_some,Option.map_some,hvalue]
      cases x.included <;> rfl
  · rw [hsince,Nat.mul_zero] at hi
    have hlt := (List.getElem?_eq_some_iff.mp hx).1
    omega
  · have hlt := (List.getElem?_eq_some_iff.mp hx).1
    rw [hlength] at hlt ⊢
    have hold := List.getElem?_eq_getElem hlt
    have hnumber : x.frameNumber = rawdata[i].frameNumber := by
      have hsame : ((Accumulator.updateFrom detected 0 rawdata).1.map RawData.frameNumber)[i]? =
          (rawdata.map RawData.frameNumber)[i]? := by rw [hnumbers]
      have hx' : (Accumulator.updateFrom detected 0 rawdata).1[i]? = some x := hx
      rw [List.getElem?_map,List.getElem?_map,hold,hx'] at hsame
      exact Option.some.inj hsame
    have hbound : rawdata[i].frameNumber + (rawdata.length - i : Nat) ≤
        ((g * answers.length : Nat) : Int) + 1 := by
      rcases Nat.lt_or_ge (i + g * sinceList answers) rawdata.length with hearly | hlate
      · exact (h.early i _ hold hearly).le
      · exact (h.late i _ hold hlate).le
    rw [hnumber,List.length_append,List.length_singleton,hmore]
    omega

end Flags

section Run

variable {σ : Type} {d : DataFlow σ} {m : Media} {answers : List GroupAnswer} {fuel k : Nat}
  {w w' : Worker σ}

theorem endFrame_marked {r : Reading} {vFrame : FramePack} {aFrames : List FramePack}
    (hread : GroupRead d m r answers.length vFrame aFrames)
    (h : Marked d.groupSize answers w.accumulator.rawdata)
    (he : d.endFrame w (some vFrame,aFrames) = .ok w') :
    w'.avSynchronizer = w.avSynchronizer ∧ ∃ list : Option Details,
      (∀ detected, list = some detected ↔ w.outcomeCache.getMultiFrameResult = .ok detected) ∧
        Marked d.groupSize (answers ++ [⟨w.logicAnalyzer.included,list⟩])
          w'.accumulator.rawdata := by
  rw [DataFlow.endFrame] at he
  split at he
  · split at he
    · cases he
    · rename_i detected hlist
      split at he
      · cases he
      · rename_i accumulator hu
        cases he
        refine ⟨rfl,some detected,fun detected' => ?_,?_⟩
        · rw [hlist,Option.some.injEq,Except.ok.injEq]
        · have hmarked := h.update hread.pos (congrArg Prod.snd hu) w.logicAnalyzer.included
          rwa [congrArg Prod.fst hu] at hmarked
  · rename_i hfound
    cases he
    refine ⟨rfl,none,fun detected => ?_,?_⟩
    · refine iff_of_false (by rintro ⟨⟩) fun hlist => hfound ?_
      exact findMultiFrameResult_iff.mpr ⟨detected,hlist⟩
    · dsimp only
      rw [appendResult_group hread.length_le hread.pos hread.last]
      exact h.append w.logicAnalyzer.included w.outcomeCache.detected

structure Answering (d : DataFlow σ) (m : Media) (A : LogicAnalyzer) (st : σ)
    (answers : List GroupAnswer) (w : Worker σ) : Prop where
  answered : GroupsAnswered d A st ((List.range answers.length).map (m.group d.groupSize)) answers
    w.logicAnalyzer w.plugins
  marked : Marked d.groupSize answers w.accumulator.rawdata
  reading : w.avSynchronizer = (m.reading d.groupSize answers.length).synchronizer
  length_le : answers.length * d.groupSize ≤ m.video.length
  pos : 0 < answers.length → 0 < d.groupSize

theorem Answering.next {A : LogicAnalyzer} {st : σ} {frames : Frames} {s : AvSynchronizer}
    {w₁ w₂ : Worker σ} (h : Answering d m A st answers w)
    (hturn : GroupTurn d fuel w frames s true w₁ w₂) :
    ∃ a, Answering d m A st (answers ++ [a]) (d.reportFrame w₂ frames) := by
  have hread := hturn.read
  rw [h.reading,readGroup_synchronizer,Except.ok.injEq] at hread
  obtain ⟨hframes,rfl⟩ := Prod.mk.inj hread
  rcases (reading_decoding d m h.length_le).groupRead h.length_le with
    ⟨hnone,-⟩ | ⟨vFrame,aFrames,hg⟩
  · have hmedia := hturn.media
    rw [DataFlow.groupSize] at hnone
    rw [← hframes,DataFlow.groupSize,hnone] at hmedia
    cases hmedia
  · obtain rfl : frames = (some vFrame,aFrames) := hframes.symm.trans hg.frames
    have hsame := frameLoop_streams hturn.frame
    have hended := hturn.ended
    rw [if_pos rfl] at hended
    have hmarked : Marked d.groupSize answers w₁.accumulator.rawdata := by
      rw [hsame.accumulator]
      exact h.marked
    obtain ⟨hs,list,hlist,hnext⟩ := endFrame_marked hg hmarked hended
    obtain ⟨o,uids,hconsulted,hlists⟩ := frameLoop_consulted hturn.frame
    refine ⟨⟨w₁.logicAnalyzer.included,list⟩,?_,?_,?_,?_,fun _ => hg.pos⟩
    · rw [reportFrame_analyzer,reportFrame_plugins,endFrame_analyzer hended,
        endFrame_plugins hended,List.length_append,List.length_singleton,List.range_succ,
        List.map_append,List.map_singleton]
      refine h.answered.concat ⟨⟨o,uids,?_,
        fun detected => (hlist detected).trans (hlists detected)⟩,
        rfl⟩
      rw [Media.group,hg.frames]
      exact hconsulted
    · rw [(reportFrame_streams w₂ _).accumulator]
      exact hnext
    · rw [(reportFrame_streams w₂ _).avSynchronizer,hs,hsame.avSynchronizer,List.length_append]
      rfl
    · rw [List.length_append]
      exact hg.length_le

theorem initial_answering (d : DataFlow σ) (m : Media) (A : LogicAnalyzer) (st : σ) :
    Answering d m A st []
      (d.startWorker (Worker.initial A (AvSynchronizer.make m.extractor) st)) := by
  have hle : 0 * d.groupSize ≤ m.video.length := by
    rw [Nat.zero_mul]
    exact Nat.zero_le _
  rw [DataFlow.startWorker,DataFlow.invokeProgressCb]
  split <;> exact ⟨.nil,marked_nil _,rfl,hle,fun h => absurd h (Nat.lt_irrefl 0)⟩

theorem afterGroups_answering {A : LogicAnalyzer} {st : σ} {w₀ : Worker σ}
    (herr : ErrorFree d fuel w₀) (h : Answering d m A st [] w₀)
    (hafter : d.afterGroups fuel k w₀ = some (.ok (true,w))) :
    ∃ answers, answers.length = k ∧ Answering d m A st answers w := by
  induction k generalizing w with
  | zero =>
    cases hafter
    exact ⟨[],rfl,h⟩
  | succ k ih =>
    obtain ⟨w₁,hbefore,hlast⟩ := afterGroups_succ.mp hafter
    obtain ⟨answers,hlen,hans⟩ := ih hbefore
    obtain ⟨frames,s,eop,w₂,w₃,hturn,rfl⟩ := groupTurn_go hlast
    obtain rfl := herr k w₁ frames s eop w₂ w₃ hbefore hturn
    obtain ⟨a,hnext⟩ := hans.next hturn
    exact ⟨answers ++ [a],by rw [List.length_append,hlen]; rfl,hnext⟩

theorem Calm.errorFree (h : Calm d) (hrun : ∀ n, d.run n = true) (w₀ : Worker σ) :
    ErrorFree d fuel w₀ :=
  fun _ _ _ _ _ _ _ _ hturn => (frameLoop_done h hrun SingleFrame.clear hturn.frame).1

theorem Answering.complete (hrun : ∀ n, d.run n = true) {A : LogicAnalyzer} {st : σ}
    (h : Answering d m A st answers w)
    (hend : d.groupTurn fuel w = some (.ok (false,w'))) :
    answers.length = m.video.length / d.groupSize := by
  have hsucc : (answers.length + 1) * d.groupSize = answers.length * d.groupSize + d.groupSize :=
    Nat.succ_mul _ _
  rcases (reading_decoding d m h.length_le).groupRead h.length_le with
    ⟨-,hshort⟩ | ⟨vFrame,aFrames,hg⟩
  · rcases Nat.eq_zero_or_pos d.groupSize with hzero | hpos
    · rw [hzero,Nat.div_zero]
      refine Nat.eq_zero_of_not_pos fun hlen => ?_
      exact absurd (h.pos hlen) (by rw [hzero]; exact Nat.lt_irrefl 0)
    · refine (Nat.div_eq_of_lt_le h.length_le ?_).symm
      rcases hshort with hzero | hlt
      · rw [hzero] at hpos
        exact absurd hpos (Nat.lt_irrefl 0)
      · exact hlt
  · have hopens : Opens d w (some vFrame,aFrames)
        ((m.reading d.groupSize answers.length).group d.groupSize (none,[])).2.synchronizer := by
      refine ⟨hrun _,?_,rfl⟩
      rw [h.reading]
      refine (readGroup_synchronizer d.groupSize _ _).trans ?_
      rw [hg.frames]
    rw [groupTurn_opens hopens] at hend
    split at hend
    · cases hend
    · cases hend
    · split at hend <;> cases hend

theorem worker_answering (hrun : ∀ n, d.run n = true) {A : LogicAnalyzer} {st : σ}
    (herr : ErrorFree d fuel
      (d.startWorker (Worker.initial A (AvSynchronizer.make m.extractor) st)))
    (hw : d.worker fuel (Worker.initial A (AvSynchronizer.make m.extractor) st) =
      some (.ok w')) :
    ∃ answers, m.Answered d A st answers ∧ answers.length = m.video.length / d.groupSize ∧
      Marked d.groupSize answers w'.accumulator.rawdata := by
  rw [DataFlow.worker] at hw
  split at hw
  · rename_i w₂ hloop
    obtain ⟨k,w₁,hafter,hlast⟩ := workerLoop_turns hloop
    obtain ⟨answers,rfl,h⟩ := afterGroups_answering herr (initial_answering d m A st) hafter
    have hlen := h.complete hrun hlast
    have hraw : w'.accumulator = w₁.accumulator := by
      cases hw
      rw [← groupTurn_stop hlast]
      exact (invokeProgressCb_streams _ _).accumulator
    refine ⟨answers,⟨w₁.logicAnalyzer,w₁.plugins,?_⟩,hlen,hraw ▸ h.marked⟩
    rw [Media.groups,← hlen]
    exact h.answered
  · rename_i hnot
    exact absurd hw (hnot w')

end Run

end Ovi
