import Ovi.Flow.Consultation

namespace Ovi

def DataFlow.entryCalls {σ : Type} (d : DataFlow (σ × List DetectorCall)) (fuel : Nat) :
    Nat → Worker (σ × List DetectorCall) → List (List DetectorCall)
  | 0, _ => []
  | k + 1, w =>
    match d.groupTurn fuel w with
    | some (.ok (true,w')) =>
      List.replicate (w'.accumulator.rawdata.length - w.accumulator.rawdata.length)
        (w'.plugins.2.drop w.plugins.2.length) ++ entryCalls d fuel k w'
    | _ => []

def RecordedSoundly (calls : List (List DetectorCall)) (rawdata : List RawData) : Prop :=
  ∀ (i : Nat) (e : RawData), rawdata[i]? = some e → e.included = true →
    ∃ made, calls[i]? = some made ∧ ∃ c ∈ made, c.detect = true

def DataFlow.frameNumbers {σ : Type} (d : DataFlow σ) (frames : Frames) : List Int :=
  match frames.1 with
  | some vFrame => (skipCounts d.skipFrames).map (vFrame.frameNum - ·)
  | none => frames.2.map FramePack.frameNum

abbrev TurnInput (σ : Type) := Frames × σ

def DataFlow.groupRead {σ : Type} (d : DataFlow σ) (w : Worker σ) : Frames :=
  match readGroup (d.skipFrames + 1).toNat w.avSynchronizer (none,[]) with
  | .ok (frames,_) => frames
  | .error _ => (none,[])

def DataFlow.entryTurns {σ : Type} (d : DataFlow σ) (fuel : Nat) :
    Nat → Worker σ → List (TurnInput σ)
  | 0, _ => []
  | k + 1, w =>
    match d.groupTurn fuel w with
    | some (.ok (true,w')) =>
      List.replicate (w'.accumulator.rawdata.length - w.accumulator.rawdata.length)
        (d.groupRead w,w.plugins) ++ entryTurns d fuel k w'
    | _ => []

inductive Misleads {σ : Type} (d : DataFlow σ) (r : LinkRequest) (turns : List (TurnInput σ))
    (turn : TurnInput σ) : Prop
  | blind (hlist : ¬∃ detected, GivesList d r turn.1 turn.2 detected)
    (hblind : Blind d r turn.1 turn.2)
    (hskip : turn.1.1.isSome = true → DataFlow.skipCounts d.skipFrames ≠ [])
  | overwritten {detected : Details} {i : Nat} {earlier : TurnInput σ}
    (hlist : GivesList d r turn.1 turn.2 detected) (hbool : detected[i]? = some (.bool true))
    (hearlier : turns[i]? = some earlier) (hsilent : DetectsNone d r earlier.1 earlier.2)

section Turn

variable {σ : Type} {d : DataFlow σ} {frames : Frames} {fuel : Nat} {w w₁ w₂ : Worker σ}
  {s : AvSynchronizer}

inductive TurnRecords (d : DataFlow σ) (frames : Frames) (w w₁ w₂ : Worker σ) : Prop
  | appended (hfound : w₁.outcomeCache.findMultiFrameResult = false)
    (happ : w₂.accumulator.rawdata = w.accumulator.rawdata ++ (d.frameNumbers frames).map
      (⟨·,w₁.logicAnalyzer.included,w₁.outcomeCache.detected⟩))
  | overwritten {detected : Details} (hfound : w₁.outcomeCache.findMultiFrameResult = true)
    (hlist : w₁.outcomeCache.getMultiFrameResult = .ok detected)
    (hdone : (w.accumulator.update detected).2 = none)
    (hover : w₂.accumulator = (w.accumulator.update detected).1)

theorem GroupTurn.records (h : GroupTurn d fuel w frames s true w₁ w₂) :
    TurnRecords d frames w w₁ w₂ := by
  have hsame : w₁.accumulator = w.accumulator := (frameLoop_streams h.frame).accumulator
  have hended := h.ended
  rw [if_pos rfl,DataFlow.endFrame] at hended
  split at hended
  · rename_i hfound
    split at hended
    · cases hended
    · rename_i detected hlist
      rw [hsame] at hended
      cases hu : w.accumulator.update detected with
      | mk accumulator fault =>
        rw [hu] at hended
        cases fault with
        | some fault => cases hended
        | none =>
          cases hended
          exact .overwritten hfound hlist (congrArg Prod.snd hu) (congrArg Prod.fst hu).symm
  · rename_i hfound
    obtain rfl := Except.ok.inj hended
    refine .appended (Bool.not_eq_true _ ▸ hfound) ?_
    rw [← hsame]
    exact foldl_append_rawdata _ _ _ _

end Turn

section Sound

theorem forall₂_getElem? {α β : Type} {R : α → β → Prop} {xs : List α} {ys : List β}
    (h : List.Forall₂ R xs ys) {i : Nat} {x : α} (hx : xs[i]? = some x) :
    ∃ y, ys[i]? = some y ∧ R x y := by
  induction h generalizing i with
  | nil => cases hx
  | @cons a b _ _ hab _ ih =>
    cases i with
    | zero =>
      obtain rfl := Option.some.inj hx
      exact ⟨b,rfl,hab⟩
    | succ i => exact ih hx

variable {calls : List (List DetectorCall)} {made : List DetectorCall} {rawdata : List RawData}

theorem forall₂_replicate {α β : Type} {R : α → β → Prop} {n : Nat} {x : α} {y : β}
    (h : 0 < n → R x y) : List.Forall₂ R (List.replicate n x) (List.replicate n y) := by
  induction n with
  | zero => exact .nil
  | succ n ih =>
    have hxy := h n.succ_pos
    exact .cons hxy (ih fun _ => hxy)

theorem soundly_append_iff (h : RecordedSoundly calls rawdata)
    (hlen : calls.length = rawdata.length) (numbers : List Int) (b : Bool)
    (detected : DetectedData) :
    RecordedSoundly (calls ++ List.replicate numbers.length made)
        (rawdata ++ numbers.map (⟨·,b,detected⟩)) ↔
      (numbers ≠ [] → b = true → ∃ c ∈ made, c.detect = true) := by
  constructor
  · intro hnew hne hb
    obtain ⟨number,rest,rfl⟩ := List.exists_cons_of_ne_nil hne
    obtain ⟨made',hmade,hdetect⟩ := hnew rawdata.length ⟨number,b,detected⟩ (by
      rw [List.getElem?_append_right (Nat.le_refl _),Nat.sub_self]
      rfl) hb
    rw [← hlen,List.getElem?_append_right (Nat.le_refl _),Nat.sub_self] at hmade
    cases hmade
    exact hdetect
  · intro hnew i e he hinc
    by_cases hi : i < rawdata.length
    · rw [List.getElem?_append_left hi] at he
      rw [List.getElem?_append_left (hlen ▸ hi)]
      exact h i e he hinc
    · have hle := Nat.le_of_not_lt hi
      rw [List.getElem?_append_right hle,List.getElem?_map] at he
      rw [List.getElem?_append_right (hlen ▸ hle),hlen,List.getElem?_replicate]
      obtain ⟨number,hnumber,rfl⟩ := Option.map_eq_some_iff.mp he
      have hlt := (List.getElem?_eq_some_iff.mp hnumber).1
      refine ⟨made,if_pos hlt,?_⟩
      exact hnew (List.ne_nil_of_mem (List.mem_of_getElem? hnumber)) hinc

theorem soundly_update_iff {a : Accumulator} {detected : Details}
    (hlen : calls.length = a.rawdata.length) (hdone : (a.update detected).2 = none) :
    RecordedSoundly calls (a.update detected).1.rawdata ↔
      ∀ (i : Nat) (made : List DetectorCall), detected[i]? = some (.bool true) →
        calls[i]? = some made → ∃ c ∈ made, c.detect = true := by
  constructor
  · intro h i made hbool hmade
    have hi : i < (a.update detected).1.rawdata.length := by
      rw [update_length,← hlen]
      exact (List.getElem?_eq_some_iff.mp hmade).1
    have he := List.getElem?_eq_getElem hi
    have hvalue := updateFrom_included hdone he
    rw [Nat.zero_add,hbool] at hvalue
    cases hinc : ((a.update detected).1.rawdata[i]).included with
    | false =>
      rw [hinc] at hvalue
      cases hvalue
    | true =>
      obtain ⟨made',hmade',hdetect⟩ := h i _ he hinc
      obtain rfl := Option.some.inj (hmade.symm.trans hmade')
      exact hdetect
  · intro h i e he hinc
    have hvalue := updateFrom_included hdone he
    rw [Nat.zero_add,hinc] at hvalue
    have hi : i < calls.length := by
      rw [hlen,← update_length]
      exact (List.getElem?_eq_some_iff.mp he).1
    have hmade := List.getElem?_eq_getElem hi
    exact ⟨_,hmade,h i _ hvalue hmade⟩

end Sound

section Run

variable {σ : Type} {d : DataFlow (σ × List DetectorCall)} {fuel k : Nat}
  {w w' w'' : Worker (σ × List DetectorCall)}

theorem entryCalls_go (h : d.groupTurn fuel w = some (.ok (true,w'))) :
    d.entryCalls fuel (k + 1) w =
      List.replicate (w'.accumulator.rawdata.length - w.accumulator.rawdata.length)
        (w'.plugins.2.drop w.plugins.2.length) ++ d.entryCalls fuel k w' := by
  rw [DataFlow.entryCalls,h]

theorem entryCalls_succ (h : d.afterGroups fuel k w = some (.ok (true,w')))
    (hturn : d.groupTurn fuel w' = some (.ok (true,w''))) :
    d.entryCalls fuel (k + 1) w = d.entryCalls fuel k w ++
      List.replicate (w''.accumulator.rawdata.length - w'.accumulator.rawdata.length)
        (w''.plugins.2.drop w'.plugins.2.length) := by
  induction k generalizing w with
  | zero =>
    cases h
    rw [entryCalls_go hturn]
    exact List.append_nil _
  | succ k ih =>
    obtain ⟨w₁,hfirst,hafter⟩ := afterGroups_first h
    rw [entryCalls_go hfirst,ih hafter,entryCalls_go hfirst,List.append_assoc]

theorem groupTurn_length_le {τ : Type} {d : DataFlow τ} {w w' : Worker τ}
    (h : d.groupTurn fuel w = some (.ok (true,w'))) :
    w.accumulator.rawdata.length ≤ w'.accumulator.rawdata.length := by
  obtain ⟨frames,s,eop,w₁,w₂,hturn,rfl⟩ := groupTurn_go h
  rw [(reportFrame_streams w₂ frames).accumulator]
  cases eop with
  | false =>
    obtain rfl := Except.ok.inj hturn.ended
    rw [(frameLoop_streams hturn.frame).accumulator]
    exact Nat.le_refl _
  | true =>
    cases hturn.records with
    | appended _ happ =>
      rw [happ,List.length_append]
      exact Nat.le_add_right _ _
    | overwritten _ _ _ hover =>
      rw [hover,update_length]

theorem entryCalls_length (h : d.afterGroups fuel k w = some (.ok (true,w'))) :
    w.accumulator.rawdata.length + (d.entryCalls fuel k w).length =
      w'.accumulator.rawdata.length := by
  induction k generalizing w with
  | zero =>
    cases h
    rfl
  | succ k ih =>
    obtain ⟨w₁,hturn,hafter⟩ := afterGroups_first h
    have hle := groupTurn_length_le hturn
    have hrest := ih hafter
    rw [entryCalls_go hturn,List.length_append,List.length_replicate]
    omega

end Run

section Recorded

variable {σ : Type} {d : DataFlow σ} {r : LinkRequest} {frames : Frames} {fuel k : Nat}
  {w w₁ w₂ : Worker (σ × List DetectorCall)} {s : AvSynchronizer} {A : LogicAnalyzer}
  {calls : List (List DetectorCall)}

theorem frameNumbers_ne_nil_iff {τ : Type} {d : DataFlow τ}
    (hmedia : (frames.1.isNone && frames.2.isEmpty) = false) : d.frameNumbers frames ≠ [] ↔
      (frames.1.isSome = true → DataFlow.skipCounts d.skipFrames ≠ []) := by
  obtain ⟨vFrame,aFrames⟩ := frames
  cases vFrame with
  | some vFrame =>
    rw [DataFlow.frameNumbers,ne_eq,List.map_eq_nil_iff]
    exact ⟨fun h _ => h,fun h => h rfl⟩
  | none =>
    rw [DataFlow.frameNumbers,ne_eq,List.map_eq_nil_iff]
    refine iff_of_true (fun hnil => ?_) fun hsome => absurd hsome Bool.false_ne_true
    rw [hnil] at hmedia
    cases hmedia

theorem groupRead_eq {τ : Type} {d : DataFlow τ} {w w₁ w₂ : Worker τ} {eop : Bool}
    (h : GroupTurn d fuel w frames s eop w₁ w₂) : d.groupRead w = frames := by
  rw [DataFlow.groupRead,h.read]

def Denies (d : DataFlow σ) (r : LinkRequest) (made : List DetectorCall)
    (turn : TurnInput (σ × List DetectorCall)) : Prop :=
  (¬∃ c ∈ made, c.detect = true) ↔ DetectsNone d.logged r turn.1 turn.2

theorem turn_soundly_iff (hr : DetectorRequest d.pluginManager r) (hplain : r.DetectorsOnly)
    (hw : w.logicAnalyzer.Shows r.plan) (h : RecordedSoundly calls w.accumulator.rawdata)
    (hlen : calls.length = w.accumulator.rawdata.length)
    {turns : List (TurnInput (σ × List DetectorCall))}
    (hturns : List.Forall₂ (Denies d r) calls turns)
    (hturn : GroupTurn d.logged fuel w frames s true w₁ w₂) :
    RecordedSoundly (calls ++
        List.replicate (w₂.accumulator.rawdata.length - w.accumulator.rawdata.length)
          (w₂.plugins.2.drop w.plugins.2.length)) w₂.accumulator.rawdata ↔
      ¬Misleads d.logged r turns (frames,w.plugins) := by
  have hlists := givesList_iff (d := d.logged) (w := { w with loads := w.loads + 1 }) hr hw
    hturn.frame
  have hfind := findList_iff (d := d.logged) (w := { w with loads := w.loads + 1 }) hr hw
    hturn.frame
  cases hturn.records with
  | appended hfound happ =>
    have hblind := blind_iff hr hplain hw hturn.frame
    have hplugins : w₂.plugins = w₁.plugins := endFrame_plugins hturn.ended
    have hnumbers := frameNumbers_ne_nil_iff (d := d.logged) hturn.media
    have hnolist : ¬∃ detected, GivesList d.logged r frames w.plugins detected := by
      rw [← hfind,hfound]
      exact Bool.false_ne_true
    rw [happ,List.length_append,Nat.add_sub_cancel_left,List.length_map,
      soundly_append_iff h hlen,hplugins,hnumbers]
    constructor
    · intro hnew hmis
      cases hmis with
      | blind _ hb hskip =>
        obtain ⟨hinc,hnone⟩ := hblind.mpr hb
        exact hnone (hnew hskip hinc)
      | overwritten hlist _ _ _ => exact hnolist ⟨_,hlist⟩
    · intro hnot hskip hinc
      by_contra hnone
      exact hnot (.blind hnolist (hblind.mp ⟨hinc,hnone⟩) hskip)
  | @overwritten detected hfound hlist hdone hover =>
    have hgives := (hlists detected).mp hlist
    rw [hover,update_length,Nat.sub_self,List.replicate_zero,List.append_nil,
      soundly_update_iff hlen hdone]
    constructor
    · intro hall hmis
      cases hmis with
      | blind hnot _ _ => exact hnot ⟨_,hgives⟩
      | @overwritten detected' i earlier hlist' hbool hearlier hsilent =>
        obtain rfl := Except.ok.inj (hlist.symm.trans ((hlists detected').mpr hlist'))
        obtain ⟨made,hmade,hdenies⟩ := forall₂_getElem? hturns.flip hearlier
        exact hdenies.mpr hsilent (hall i made hbool hmade)
    · intro hnot i made hbool hmade
      by_contra hnone
      obtain ⟨earlier,hearlier,hdenies⟩ := forall₂_getElem? hturns hmade
      exact hnot (.overwritten hgives hbool hearlier (hdenies.mp hnone))

theorem groupTurn_shows {τ : Type} {d : DataFlow τ} {w w' : Worker τ} {plan : List Alternative}
    (hw : w.logicAnalyzer.Shows plan) (h : d.groupTurn fuel w = some (.ok (true,w'))) :
    w'.logicAnalyzer.Shows plan := by
  rw [LogicAnalyzer.Shows,groupTurn_skeleton h]
  exact hw

theorem entryTurns_denies (hr : DetectorRequest d.pluginManager r) (hplain : r.DetectorsOnly)
    (hw : w.logicAnalyzer.Shows r.plan) (k : Nat) :
    List.Forall₂ (Denies d r) (d.logged.entryCalls fuel k w) (d.logged.entryTurns fuel k w) := by
  induction k generalizing w with
  | zero => exact .nil
  | succ k ih =>
    rw [DataFlow.entryCalls,DataFlow.entryTurns]
    cases hgo : d.logged.groupTurn fuel w with
    | none => exact .nil
    | some result =>
      cases result with
      | error fault => exact .nil
      | ok result =>
        obtain ⟨go,w'⟩ := result
        cases go with
        | false => exact .nil
        | true =>
          refine List.rel_append ?_ (ih (groupTurn_shows hw hgo))
          obtain ⟨frames,s,eop,w₁,w₂,hturn,rfl⟩ := groupTurn_go hgo
          rw [(reportFrame_streams w₂ frames).accumulator,reportFrame_plugins,
            groupRead_eq hturn]
          refine forall₂_replicate fun hpos => ?_
          cases eop with
          | false =>
            obtain rfl := Except.ok.inj hturn.ended
            rw [(frameLoop_streams hturn.frame).accumulator] at hpos
            exact absurd hpos (Nat.sub_self w.accumulator.rawdata.length).not_gt
          | true =>
            rw [endFrame_plugins hturn.ended]
            exact (follows_detectsNone hr hplain hw hturn.frame).1

def DataFlow.loggedStart (d : DataFlow σ) (A : LogicAnalyzer) (extractor : FrameExtractor)
    (st : σ) : Worker (σ × List DetectorCall) :=
  d.logged.startWorker (Worker.initial A (AvSynchronizer.make extractor) (st,[]))

theorem loggedStart_rawdata (d : DataFlow σ) (A : LogicAnalyzer) (extractor : FrameExtractor)
    (st : σ) : (d.loggedStart A extractor st).accumulator.rawdata = [] :=
  congrArg Accumulator.rawdata (invokeProgressCb_streams _ _).accumulator

theorem loggedStart_shows (hr : DetectorRequest d.pluginManager r)
    (hA : LogicAnalyzer.make r.tokens = some A) (extractor : FrameExtractor) (st : σ) :
    (d.loggedStart A extractor st).logicAnalyzer.Shows r.plan := by
  obtain ⟨A₀,hmake,hshows⟩ := make_shows hr.uids
  obtain rfl := Option.some.inj (hA.symm.trans hmake)
  exact startWorker_shows hshows _ _

theorem afterGroups_shows (hr : DetectorRequest d.pluginManager r)
    (hA : LogicAnalyzer.make r.tokens = some A) {extractor : FrameExtractor} {st : σ}
    (hafter : d.logged.afterGroups fuel k (d.loggedStart A extractor st) = some (.ok (true,w))) :
    w.logicAnalyzer.Shows r.plan := by
  rw [LogicAnalyzer.Shows,afterGroups_skeleton hafter]
  exact loggedStart_shows hr hA extractor st

def RunsSoundly (d : DataFlow (σ × List DetectorCall)) (fuel : Nat)
    (w₀ : Worker (σ × List DetectorCall)) : Prop :=
  ∀ k w, d.afterGroups fuel k w₀ = some (.ok (true,w)) →
    RecordedSoundly (d.entryCalls fuel k w₀) w.accumulator.rawdata

def RunMisleads (d : DataFlow σ) (r : LinkRequest) (fuel : Nat)
    (w₀ : Worker (σ × List DetectorCall)) : Prop :=
  ∃ k w frames s w₁ w₂, d.logged.afterGroups fuel k w₀ = some (.ok (true,w)) ∧
    GroupTurn d.logged fuel w frames s true w₁ w₂ ∧
      Misleads d.logged r (d.logged.entryTurns fuel k w₀) (frames,w.plugins)

theorem recorded_detects (hr : DetectorRequest d.pluginManager r) (hplain : r.DetectorsOnly)
    (hA : LogicAnalyzer.make r.tokens = some A) {extractor : FrameExtractor} {st : σ}
    (hrun : ¬RunMisleads d r fuel (d.loggedStart A extractor st)) :
    RunsSoundly d.logged fuel (d.loggedStart A extractor st) := by
  intro k
  induction k with
  | zero =>
    intro w hafter i e he
    cases hafter
    rw [loggedStart_rawdata] at he
    cases he
  | succ k ih =>
    intro w hafter
    obtain ⟨w',hbefore,hlast⟩ := afterGroups_succ.mp hafter
    have hsound := ih w' hbefore
    obtain ⟨frames,s,eop,w₁,w₂,hturn,rfl⟩ := groupTurn_go hlast
    rw [entryCalls_succ hbefore hlast,(reportFrame_streams w₂ frames).accumulator,
      reportFrame_plugins]
    cases eop with
    | false =>
      obtain rfl := Except.ok.inj hturn.ended
      have hsame : w₁.accumulator = w'.accumulator := (frameLoop_streams hturn.frame).accumulator
      rw [hsame,Nat.sub_self,List.replicate_zero,List.append_nil]
      exact hsound
    | true =>
      refine (turn_soundly_iff hr hplain (afterGroups_shows hr hA hbefore) hsound ?_
        (entryTurns_denies hr hplain (loggedStart_shows hr hA extractor st) k) hturn).mpr ?_
      · have hlen := entryCalls_length hbefore
        rwa [loggedStart_rawdata,List.length_nil,Nat.zero_add] at hlen
      · exact fun hmis => hrun ⟨k,w',frames,s,w₁,w₂,hbefore,hturn,hmis⟩

theorem recorded_detects_iff (hr : DetectorRequest d.pluginManager r) (hplain : r.DetectorsOnly)
    (hA : LogicAnalyzer.make r.tokens = some A) (extractor : FrameExtractor) (st : σ)
    (fuel : Nat) : RunsSoundly d.logged fuel (d.loggedStart A extractor st) ↔
      ¬RunMisleads d r fuel (d.loggedStart A extractor st) := by
  refine ⟨?_,recorded_detects hr hplain hA⟩
  rintro hall ⟨k,w,frames,s,w₁,w₂,hafter,hturn,hmis⟩
  have hnext := hall (k + 1) _ (afterGroups_succ.mpr ⟨w,hafter,hturn.go⟩)
  rw [entryCalls_succ hafter hturn.go,(reportFrame_streams w₂ frames).accumulator,
    reportFrame_plugins] at hnext
  refine (turn_soundly_iff hr hplain (afterGroups_shows hr hA hafter) (hall k w hafter) ?_
    (entryTurns_denies hr hplain (loggedStart_shows hr hA extractor st) k) hturn).mp hnext hmis
  have hlen := entryCalls_length hafter
  rwa [loggedStart_rawdata,List.length_nil,Nat.zero_add] at hlen

theorem worker_recorded (hr : DetectorRequest d.pluginManager r) (hplain : r.DetectorsOnly)
    (hA : LogicAnalyzer.make r.tokens = some A) {extractor : FrameExtractor} {st : σ}
    (hrun : ¬RunMisleads d r fuel (d.loggedStart A extractor st))
    (h : d.logged.worker fuel (Worker.initial A (AvSynchronizer.make extractor) (st,[])) =
      some (.ok w)) :
    ∃ k, RecordedSoundly (d.logged.entryCalls fuel k (d.loggedStart A extractor st))
      w.accumulator.rawdata := by
  obtain ⟨k,w',hafter,hsame⟩ := worker_turns h
  refine ⟨k,?_⟩
  rw [hsame]
  exact recorded_detects hr hplain hA hrun k w' hafter

end Recorded

section Sample

def audioRequest : LinkRequest := ⟨⟨false,"AudioDetect.2",[]⟩,[]⟩

def audioAnalyzer : LogicAnalyzer :=
  ⟨["AudioDetect.2"],[⟨["AudioDetect.2"],0,true,true⟩],[⟨[0],0,false⟩],0,false⟩

theorem audioRequest_detector : DetectorRequest samplePlugins audioRequest := by
  constructor <;> decide

theorem audioAnalyzer_made : LogicAnalyzer.make audioRequest.tokens = some audioAnalyzer := by
  decide

def film (audio : List (Except Exn FramePack)) : FrameExtractor := ⟨true,true,[.ok ⟨1,0,1⟩],audio⟩

theorem recorded_detects_iff_film :
    RunsSoundly sampleFlow.logged 9
        (sampleFlow.loggedStart audioAnalyzer (film [.ok ⟨1,0,1⟩]) ()) ↔
      ¬RunMisleads sampleFlow audioRequest 9
        (sampleFlow.loggedStart audioAnalyzer (film [.ok ⟨1,0,1⟩]) ()) :=
  recorded_detects_iff audioRequest_detector (show ∀ t ∈ audioRequest.items, _ by decide)
    audioAnalyzer_made (film [.ok ⟨1,0,1⟩]) () 9

-- the sound track is over at once: the picture is included, and no detector was ever called
theorem recorded_without_call : ∃ w,
    sampleFlow.logged.worker 9
      (Worker.initial audioAnalyzer (AvSynchronizer.make (film [])) ((),[])) = some (.ok w) ∧
      w.accumulator.rawdata.map (fun e => (e.frameNumber,e.included)) = [(1,true)] ∧
      w.plugins.2 = [] :=
  ⟨_,rfl,rfl,rfl⟩

end Sample

end Ovi
