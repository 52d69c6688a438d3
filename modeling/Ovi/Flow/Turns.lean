import Ovi.Flow.DataFlow

namespace Ovi

namespace DataFlow

variable {σ : Type} (d : DataFlow σ)

def groupTurn (fuel : Nat) (w : Worker σ) : Option (Except Fault (Bool × Worker σ)) :=
  let (running,w) := d.load w
  if !running then some (.ok (false,w))
  else
    match readGroup (d.skipFrames + 1).toNat w.avSynchronizer (none,[]) with
    | .error (.ovi error) => some (.ok (false,{ w with ret := error }))
    | .error .other => some (.error (.raised .other))
    | .ok (frames,s) =>
      if frames.1.isNone && frames.2.isEmpty then some (.ok (false,{ w with avSynchronizer := s }))
      else
        match d.frameLoop frames fuel (startFrame w s) with
        | none => none
        | some (.error fault) => some (.error fault)
        | some (.ok (eop,w)) =>
          match if eop then d.endFrame w frames else .ok w with
          | .error fault => some (.error fault)
          | .ok w => some (.ok (true,d.reportFrame w frames))

def afterGroups (fuel : Nat) : Nat → Worker σ → Option (Except Fault (Bool × Worker σ))
  | 0, w => some (.ok (true,w))
  | k + 1, w =>
    match d.groupTurn fuel w with
    | some (.ok (true,w)) => afterGroups fuel k w
    | result => result

end DataFlow

variable {σ : Type} {d : DataFlow σ} {w w' : Worker σ} {fuel : Nat}

structure Opens (d : DataFlow σ) (w : Worker σ) (frames : Frames) (s : AvSynchronizer) : Prop where
  running : d.run w.loads = true
  read : DataFlow.readGroup (d.skipFrames + 1).toNat w.avSynchronizer (none,[]) = .ok (frames,s)
  media : (frames.1.isNone && frames.2.isEmpty) = false

def Worker.opened (w : Worker σ) (s : AvSynchronizer) : Worker σ :=
  DataFlow.startFrame { w with loads := w.loads + 1 } s

structure GroupTurn (d : DataFlow σ) (fuel : Nat) (w : Worker σ) (frames : Frames)
    (s : AvSynchronizer) (eop : Bool) (w₁ w₂ : Worker σ) : Prop where
  running : d.run w.loads = true
  read : DataFlow.readGroup (d.skipFrames + 1).toNat w.avSynchronizer (none,[]) = .ok (frames,s)
  media : (frames.1.isNone && frames.2.isEmpty) = false
  frame : d.frameLoop frames fuel (DataFlow.startFrame { w with loads := w.loads + 1 } s) =
    some (.ok (eop,w₁))
  ended : (if eop then d.endFrame w₁ frames else .ok w₁) = .ok w₂

theorem workerLoop_turn (fuel : Nat) (w : Worker σ) : d.workerLoop (fuel + 1) w =
    match d.groupTurn fuel w with
    | none => none
    | some (.error fault) => some (.error fault)
    | some (.ok (false,w)) => some (.ok w)
    | some (.ok (true,w)) => d.workerLoop fuel w := by
  rw [DataFlow.workerLoop,DataFlow.groupTurn]
  dsimp only [DataFlow.load]
  cases d.run w.loads with
  | false => rfl
  | true =>
    rw [Bool.not_true,if_neg Bool.false_ne_true,if_neg Bool.false_ne_true]
    cases DataFlow.readGroup (d.skipFrames + 1).toNat w.avSynchronizer (none,[]) with
    | error e => cases e <;> rfl
    | ok r =>
      obtain ⟨frames,s⟩ := r
      dsimp only
      cases frames.1.isNone && frames.2.isEmpty with
      | true => rfl
      | false =>
        rw [if_neg Bool.false_ne_true,if_neg Bool.false_ne_true]
        cases d.frameLoop frames fuel
          (DataFlow.startFrame { w with loads := w.loads + 1 } s) with
        | none => rfl
        | some r =>
          cases r with
          | error fault => rfl
          | ok r =>
            obtain ⟨eop,w₁⟩ := r
            dsimp only
            cases (if eop then d.endFrame w₁ frames else .ok w₁) <;> rfl

theorem groupTurn_opens {frames : Frames} {s : AvSynchronizer} (h : Opens d w frames s)
    (fuel : Nat) : d.groupTurn fuel w =
    match d.frameLoop frames fuel (w.opened s) with
    | none => none
    | some (.error fault) => some (.error fault)
    | some (.ok (eop,w)) =>
      match if eop then d.endFrame w frames else .ok w with
      | .error fault => some (.error fault)
      | .ok w => some (.ok (true,d.reportFrame w frames)) := by
  rw [DataFlow.groupTurn,DataFlow.load]
  dsimp only
  rw [h.running,h.read,Bool.not_true,if_neg Bool.false_ne_true]
  dsimp only
  rw [h.media,if_neg Bool.false_ne_true]
  rfl

inductive GroupStart (d : DataFlow σ) (w : Worker σ) : Prop
  | closed {result : Except Fault (Worker σ)}
    (heq : ∀ fuel, d.groupTurn fuel w = some (result.map (false,·)))
    (hsame : ∀ w', result = .ok w' → w'.accumulator = w.accumulator)
  | opens {frames : Frames} {s : AvSynchronizer} (h : Opens d w frames s)

theorem groupStart (d : DataFlow σ) (w : Worker σ) : GroupStart d w := by
  cases hrun : d.run w.loads with
  | false =>
    refine @GroupStart.closed _ d w (.ok { w with loads := w.loads + 1 }) (fun fuel => ?_) ?_
    · simp [DataFlow.groupTurn,DataFlow.load,hrun,Except.map]
    · rintro w' ⟨⟩
      rfl
  | true =>
    cases hread : DataFlow.readGroup (d.skipFrames + 1).toNat w.avSynchronizer (none,[]) with
    | error e =>
      cases e with
      | ovi error =>
        refine @GroupStart.closed _ d w (.ok { w with loads := w.loads + 1, ret := error })
          (fun fuel => ?_) ?_
        · simp only [DataFlow.groupTurn,DataFlow.load,hrun,hread,Bool.not_true,
            Bool.false_eq_true,if_false]
          rfl
        · rintro w' ⟨⟩
          rfl
      | other =>
        refine @GroupStart.closed _ d w (.error (.raised .other)) (fun fuel => ?_) ?_
        · simp only [DataFlow.groupTurn,DataFlow.load,hrun,hread,Bool.not_true,
            Bool.false_eq_true,if_false]
          rfl
        · rintro w' ⟨⟩
    | ok r =>
      obtain ⟨frames,s⟩ := r
      cases hmedia : frames.1.isNone && frames.2.isEmpty with
      | false => exact .opens ⟨hrun,hread,hmedia⟩
      | true =>
        refine @GroupStart.closed _ d w
          (.ok { w with loads := w.loads + 1, avSynchronizer := s }) (fun fuel => ?_) ?_
        · simp only [DataFlow.groupTurn,DataFlow.load,hrun,hread,hmedia,Bool.not_true,
            Bool.false_eq_true,if_false,if_true]
          rfl
        · rintro w' ⟨⟩
          rfl

theorem groupTurn_go (h : d.groupTurn fuel w = some (.ok (true,w'))) :
    ∃ frames s eop w₁ w₂, GroupTurn d fuel w frames s eop w₁ w₂ ∧ w' = d.reportFrame w₂ frames := by
  cases groupStart d w with
  | @closed result heq _ =>
    rw [heq] at h
    cases result <;> cases h
  | @opens frames s hopens =>
    rw [groupTurn_opens hopens] at h
    cases hframe : d.frameLoop frames fuel (w.opened s) with
    | none =>
      rw [hframe] at h
      cases h
    | some r =>
      rw [hframe] at h
      cases r with
      | error fault => cases h
      | ok r =>
        obtain ⟨eop,w₁⟩ := r
        dsimp only at h
        cases hend : (if eop then d.endFrame w₁ frames else .ok w₁) with
        | error fault =>
          rw [hend] at h
          cases h
        | ok w₂ =>
          rw [hend] at h
          cases h
          exact ⟨frames,s,eop,w₁,w₂,
            ⟨hopens.running,hopens.read,hopens.media,hframe,hend⟩,rfl⟩

theorem GroupTurn.go {frames : Frames} {s : AvSynchronizer} {eop : Bool} {w₁ w₂ : Worker σ}
    (h : GroupTurn d fuel w frames s eop w₁ w₂) :
    d.groupTurn fuel w = some (.ok (true,d.reportFrame w₂ frames)) := by
  rw [groupTurn_opens ⟨h.running,h.read,h.media⟩,Worker.opened,h.frame]
  dsimp only
  rw [h.ended]

theorem groupTurn_stop (h : d.groupTurn fuel w = some (.ok (false,w'))) :
    w'.accumulator = w.accumulator := by
  cases groupStart d w with
  | @closed result heq hsame =>
    rw [heq] at h
    cases result with
    | error fault => cases h
    | ok w₁ =>
      cases h
      exact hsame _ rfl
  | opens hopens =>
    rw [groupTurn_opens hopens] at h
    split at h
    · cases h
    · cases h
    · split at h <;> cases h

theorem frameLoop_mono {frames : Frames} {fuel' : Nat} {result : Except Fault (Bool × Worker σ)}
    (h : d.frameLoop frames fuel w = some result) (hle : fuel ≤ fuel') :
    d.frameLoop frames fuel' w = some result := by
  induction fuel generalizing w fuel' with
  | zero => cases h
  | succ fuel ih =>
    cases fuel' with
    | zero => cases hle
    | succ fuel' =>
      have hle' := Nat.le_of_succ_le_succ hle
      cases turn d frames w with
      | stopped heq => rwa [heq] at h ⊢
      | fault heq => rwa [heq] at h ⊢
      | eop heq => rwa [heq] at h ⊢
      | raised hp heq => rwa [heq] at h ⊢
      | hit heq =>
        rw [heq] at h ⊢
        exact ih h hle'
      | handled hp heq =>
        rw [heq] at h ⊢
        exact ih h hle'

theorem groupTurn_mono {fuel' : Nat} {result : Except Fault (Bool × Worker σ)}
    (h : d.groupTurn fuel w = some result) (hle : fuel ≤ fuel') :
    d.groupTurn fuel' w = some result := by
  cases groupStart d w with
  | closed heq _ => rwa [heq] at h ⊢
  | @opens frames s hopens =>
    rw [groupTurn_opens hopens] at h ⊢
    cases hframe : d.frameLoop frames fuel (w.opened s) with
    | none =>
      rw [hframe] at h
      cases h
    | some r =>
      rw [hframe] at h
      rwa [frameLoop_mono hframe hle]

theorem workerLoop_mono {fuel' : Nat} {result : Except Fault (Worker σ)}
    (h : d.workerLoop fuel w = some result) (hle : fuel ≤ fuel') :
    d.workerLoop fuel' w = some result := by
  induction fuel generalizing w fuel' with
  | zero => cases h
  | succ fuel ih =>
    cases fuel' with
    | zero => cases hle
    | succ fuel' =>
      have hle' := Nat.le_of_succ_le_succ hle
      rw [workerLoop_turn] at h ⊢
      cases hturn : d.groupTurn fuel w with
      | none =>
        rw [hturn] at h
        cases h
      | some r =>
        rw [hturn] at h
        rw [groupTurn_mono hturn hle']
        cases r with
        | error fault => exact h
        | ok r =>
          obtain ⟨go,w₁⟩ := r
          cases go with
          | false => exact h
          | true => exact ih h hle'

theorem afterGroups_go {k : Nat} {w₁ : Worker σ} (h : d.groupTurn fuel w = some (.ok (true,w₁))) :
    d.afterGroups fuel (k + 1) w = d.afterGroups fuel k w₁ := by
  rw [DataFlow.afterGroups,h]

theorem afterGroups_first {k : Nat} (h : d.afterGroups fuel (k + 1) w = some (.ok (true,w'))) :
    ∃ w₁, d.groupTurn fuel w = some (.ok (true,w₁)) ∧
      d.afterGroups fuel k w₁ = some (.ok (true,w')) := by
  rw [DataFlow.afterGroups] at h
  split at h
  · rename_i w₁ hturn
    exact ⟨w₁,hturn,h⟩
  · rename_i hnot
    exact absurd h (hnot w')

theorem afterGroups_succ {k : Nat} : d.afterGroups fuel (k + 1) w = some (.ok (true,w')) ↔
    ∃ w₁, d.afterGroups fuel k w = some (.ok (true,w₁)) ∧
      d.groupTurn fuel w₁ = some (.ok (true,w')) := by
  induction k generalizing w with
  | zero =>
    constructor
    · intro h
      obtain ⟨w₁,hturn,hafter⟩ := afterGroups_first h
      cases hafter
      exact ⟨w,rfl,hturn⟩
    · rintro ⟨w₁,hafter,hturn⟩
      cases hafter
      exact afterGroups_go hturn
  | succ k ih =>
    constructor
    · intro h
      obtain ⟨w₁,hturn,hafter⟩ := afterGroups_first h
      obtain ⟨w₂,hbefore,hlast⟩ := ih.mp hafter
      exact ⟨w₂,(afterGroups_go hturn).trans hbefore,hlast⟩
    · rintro ⟨w₂,hafter,hlast⟩
      obtain ⟨w₁,hturn,hbefore⟩ := afterGroups_first hafter
      rw [afterGroups_go hturn]
      exact ih.mpr ⟨w₂,hbefore,hlast⟩

theorem afterGroups_mono {fuel' k : Nat} (h : d.afterGroups fuel k w = some (.ok (true,w')))
    (hle : fuel ≤ fuel') : d.afterGroups fuel' k w = some (.ok (true,w')) := by
  induction k generalizing w with
  | zero => exact h
  | succ k ih =>
    obtain ⟨w₁,hturn,hafter⟩ := afterGroups_first h
    rw [afterGroups_go (groupTurn_mono hturn hle)]
    exact ih hafter

theorem workerLoop_turns {result : Except Fault (Worker σ)}
    (h : d.workerLoop fuel w = some result) :
    ∃ k w₁, d.afterGroups fuel k w = some (.ok (true,w₁)) ∧
      d.groupTurn fuel w₁ = some (result.map (false,·)) := by
  induction fuel generalizing w with
  | zero => cases h
  | succ fuel ih =>
    rw [workerLoop_turn] at h
    cases hturn : d.groupTurn fuel w with
    | none =>
      rw [hturn] at h
      cases h
    | some r =>
      rw [hturn] at h
      have hmono := groupTurn_mono hturn (Nat.le_succ fuel)
      cases r with
      | error fault =>
        cases h
        exact ⟨0,w,rfl,hmono⟩
      | ok r =>
        obtain ⟨go,w₁⟩ := r
        cases go with
        | false =>
          cases h
          exact ⟨0,w,rfl,hmono⟩
        | true =>
          obtain ⟨k,w₂,hafter,hlast⟩ := ih h
          refine ⟨k + 1,w₂,?_,groupTurn_mono hlast (Nat.le_succ fuel)⟩
          rw [afterGroups_go hmono]
          exact afterGroups_mono hafter (Nat.le_succ fuel)

theorem worker_turns (h : d.worker fuel w = some (.ok w')) :
    ∃ k w₁, d.afterGroups fuel k (d.startWorker w) = some (.ok (true,w₁)) ∧
      w'.accumulator = w₁.accumulator := by
  rw [DataFlow.worker] at h
  cases hloop : d.workerLoop fuel (d.startWorker w) with
  | none =>
    rw [hloop] at h
    cases h
  | some r =>
    rw [hloop] at h
    cases r with
    | error fault => cases h
    | ok w₂ =>
      obtain ⟨k,w₁,hafter,hlast⟩ := workerLoop_turns hloop
      cases h
      refine ⟨k,w₁,hafter,?_⟩
      rw [← groupTurn_stop hlast]
      exact (invokeProgressCb_streams _ _).accumulator

inductive Exit (d : DataFlow σ) (frames : Frames) (P : Worker σ → Prop) : Bool → Worker σ → Prop
  | eop {w : Worker σ} (h : P w) : Exit d frames P true w
  | stopped {w : Worker σ} (h : P w) : Exit d frames P false { w with loads := w.loads + 1 }
  | raised {w w₁ : Worker σ} {uid : String} {plugin : Plugin} (h : P w)
    (hp : d.handlePlugin w frames uid plugin = .ok (false,w₁)) : Exit d frames P false w₁

theorem Exit.of_eop {frames : Frames} {P : Worker σ → Prop} (h : Exit d frames P true w) : P w := by
  cases h with
  | eop h => exact h

theorem frameLoop_exit {frames : Frames} {P : Worker σ → Prop} {eop : Bool}
    (hadvance : ∀ w uid A, P w →
      w.logicAnalyzer.nextPlugin w.outcomeCache.result.1.detect = some (uid,A) → P (w.advance A))
    (hhit : ∀ (w : Worker σ) uid, P w → w.outcomeCache.hit uid = true →
      P { w with outcomeCache := w.outcomeCache.setResultUid uid })
    (hhandled : ∀ w uid plugin w₁, P w → w.outcomeCache.hit uid = false →
      d.pluginManager.find uid = some plugin →
      d.handlePlugin w frames uid plugin = .ok (true,w₁) → P w₁)
    (hw : P w) (h : d.frameLoop frames fuel w = some (.ok (eop,w'))) : Exit d frames P eop w' := by
  induction fuel generalizing w with
  | zero => cases h
  | succ fuel ih =>
    cases hrun : d.run w.loads with
    | false =>
      rw [frameLoop_stopped hrun] at h
      cases h
      exact .stopped hw
    | true =>
      cases hn : w.logicAnalyzer.nextPlugin w.outcomeCache.result.1.detect with
      | none =>
        rw [frameLoop_undefined hrun hn] at h
        cases h
      | some r =>
        obtain ⟨uid,A⟩ := r
        have hadv := hadvance w uid A hw hn
        by_cases hne : uid = oviEop
        · subst hne
          rw [frameLoop_eop hrun hn] at h
          cases h
          exact .eop hadv
        · cases hcache : w.outcomeCache.result.2.hit uid with
          | true =>
            rw [frameLoop_hit hrun hn hne hcache] at h
            exact ih (hhit (w.advance A) uid hadv hcache) h
          | false =>
            cases hf : d.pluginManager.find uid with
            | none =>
              rw [frameLoop_unknown hrun hn hne hcache hf] at h
              cases h
            | some plugin =>
              cases hp : d.handlePlugin (w.advance A) frames uid plugin with
              | error fault =>
                rw [frameLoop_fault hrun hn hne hcache hf hp] at h
                cases h
              | ok r =>
                obtain ⟨go,w₁⟩ := r
                cases go with
                | false =>
                  rw [frameLoop_raised hrun hn hne hcache hf hp] at h
                  cases h
                  exact .raised hadv hp
                | true =>
                  rw [frameLoop_handled hrun hn hne hcache hf hp] at h
                  exact ih (hhandled (w.advance A) uid plugin w₁ hadv hcache hf hp) h

theorem endFrame_plugins {frames : Frames} (h : d.endFrame w frames = .ok w') :
    w'.plugins = w.plugins := by
  unfold DataFlow.endFrame at h
  split at h
  · split at h
    · cases h
    · split at h
      · cases h
      · cases h
        rfl
  · cases h
    rfl

theorem reportFrame_plugins (w : Worker σ) (frames : Frames) :
    (d.reportFrame w frames).plugins = w.plugins := by
  unfold DataFlow.reportFrame DataFlow.invokeProgressCb
  split
  · split <;> rfl
  · split <;> rfl
  · rfl

theorem endFrame_analyzer {frames : Frames} (h : d.endFrame w frames = .ok w') :
    w'.logicAnalyzer = w.logicAnalyzer := by
  unfold DataFlow.endFrame at h
  split at h
  · split at h
    · cases h
    · split at h
      · cases h
      · cases h
        rfl
  · cases h
    rfl

theorem reportFrame_analyzer (w : Worker σ) (frames : Frames) :
    (d.reportFrame w frames).logicAnalyzer = w.logicAnalyzer := by
  unfold DataFlow.reportFrame DataFlow.invokeProgressCb
  split
  · split <;> rfl
  · split <;> rfl
  · rfl

theorem handlePlugin_analyzer {frames : Frames} {uid : String} {plugin : Plugin} {go : Bool}
    (h : d.handlePlugin w frames uid plugin = .ok (go,w')) :
    w'.logicAnalyzer = w.logicAnalyzer := by
  unfold DataFlow.handlePlugin at h
  split at h
  · cases h
    rfl
  · split at h <;> cases h <;> rfl

end Ovi
