import Ovi.Flow.Completion
import Mathlib.Logic.Relation

namespace Ovi

inductive Event where
  | frame
  | call (a : Answer)

def Event.raised : Event → Option ErrorCode
  | .frame => none
  | .call a => a.code

def firstFailure : List Event → Option (ErrorCode × List Event)
  | [] => none
  | event :: events =>
    match event.raised with
    | some error => some (error,events)
    | none => firstFailure events

def AvSynchronizer.holdsFrame (s : AvSynchronizer) : Bool :=
  match s.getNextVideo with
  | .error _ => false
  | .ok (some _,_) => true
  | .ok (none,s) =>
    !s.audioEOF && !(s.videoEOF && s.frameExtractor.hasVideo) &&
      match s.frameExtractor.audio with
      | .ok _ :: _ => true
      | _ => false

variable {σ : Type}

namespace DataFlow

variable (d : DataFlow σ) (w : Worker σ)

-- the first pair of a group decides, since a group without media ends there
def takesFrame : Bool :=
  d.run w.loads && (d.skipFrames + 1).toNat != 0 && w.avSynchronizer.holdsFrame

def frameEvents : List Event := if d.takesFrame w then [.frame] else []

def closing : Except Fault (Worker σ) :=
  if !d.run w.loads then .ok { w with loads := w.loads + 1 }
  else
    match readGroup (d.skipFrames + 1).toNat w.avSynchronizer (none,[]) with
    | .error (.ovi error) => .ok { w with loads := w.loads + 1, ret := error }
    | .error .other => .error (.raised .other)
    | .ok (_,s) => .ok { w with loads := w.loads + 1, avSynchronizer := s }

end DataFlow

inductive Handles (d : DataFlow σ) : Worker σ → List Answer → Worker σ → Prop
  | group {w w₁ w₂ : Worker σ} {frames : Frames} {s : AvSynchronizer} {eop : Bool}
    {answers : List Answer} (h : Opens d w frames s)
    (hframe : FrameRun d frames (w.opened s) answers (.ok (eop,w₁)))
    (hend : (if eop then d.endFrame w₁ frames else .ok w₁) = .ok w₂) :
    Handles d w answers (d.reportFrame w₂ frames)

inductive LoopTrace (d : DataFlow σ) : Worker σ → List Event → Except Fault (Worker σ) → Prop
  | closes {w : Worker σ} (h : ∀ frames s, ¬ Opens d w frames s) :
    LoopTrace d w (d.frameEvents w) (d.closing w)
  | fault {w : Worker σ} {frames : Frames} {s : AvSynchronizer} {answers : List Answer}
    {fault : Fault} (h : Opens d w frames s)
    (hframe : FrameRun d frames (w.opened s) answers (.error fault)) :
    LoopTrace d w (d.frameEvents w ++ answers.map .call) (.error fault)
  | endFault {w w₁ : Worker σ} {frames : Frames} {s : AvSynchronizer} {answers : List Answer}
    {fault : Fault} (h : Opens d w frames s)
    (hframe : FrameRun d frames (w.opened s) answers (.ok (true,w₁)))
    (hend : d.endFrame w₁ frames = .error fault) :
    LoopTrace d w (d.frameEvents w ++ answers.map .call) (.error fault)
  | group {w w' : Worker σ} {answers : List Answer} {events : List Event}
    {result : Except Fault (Worker σ)} (h : Handles d w answers w')
    (rest : LoopTrace d w' events result) :
    LoopTrace d w (d.frameEvents w ++ answers.map .call ++ events) result

variable {d : DataFlow σ} {frames : Frames} {w w' w₁ w₂ : Worker σ} {s s' : AvSynchronizer}
  {answers : List Answer} {result : Except Fault (Worker σ)} {events post : List Event}
  {error : ErrorCode}

section Reading

theorem getNextVideo_of_holds (h : s.holdsFrame = false) {vFrame : Option FramePack}
    (hv : s.getNextVideo = .ok (vFrame,s')) : vFrame = none ∧
      (s'.audioEOF = true ∨ (s'.videoEOF && s'.frameExtractor.hasVideo) = true ∨
        ∀ frame audio, s'.frameExtractor.audio ≠ .ok frame :: audio) := by
  rw [AvSynchronizer.holdsFrame,hv] at h
  cases vFrame with
  | some frame => cases h
  | none =>
    refine ⟨rfl,?_⟩
    rcases Bool.and_eq_false_iff.mp h with hclosed | haudio
    · rcases Bool.and_eq_false_iff.mp hclosed with heof | hvideo
      · exact .inl (by simpa using heof)
      · exact .inr (.inl (by simpa using hvideo))
    · refine .inr (.inr fun frame audio heq => ?_)
      rw [heq] at haudio
      cases haudio

theorem getNextAudio_of_holds (h : s'.audioEOF = true ∨
      (s'.videoEOF && s'.frameExtractor.hasVideo) = true ∨
        ∀ frame audio, s'.frameExtractor.audio ≠ .ok frame :: audio) {aFrames : List FramePack}
    {s'' : AvSynchronizer} (ha : s'.getNextAudio = .ok (aFrames,s'')) : aFrames = [] := by
  rw [AvSynchronizer.getNextAudio] at ha
  split at ha
  · cases ha
    rfl
  · rename_i heof
    split at ha
    · cases ha
      rfl
    · rename_i hvideo
      have haudio := (h.resolve_left heof).resolve_left hvideo
      rw [AvSynchronizer.getNextAudioLoop,if_neg heof] at ha
      obtain ⟨⟨hasVideo,hasAudio,video,audio⟩,videoEOF,audioEOF,pts⟩ := s'
      cases audio with
      | nil =>
        cases ha
        rfl
      | cons entry audio =>
        cases entry with
        | error e => cases ha
        | ok frame => exact absurd rfl (haudio frame audio)

theorem holdsFrame_of_readGroup {steps : Nat} {frames₀ : Frames}
    (h : DataFlow.readGroup (steps + 1) s frames₀ = .ok (frames,s'))
    (hmedia : (frames.1.isNone && frames.2.isEmpty) = false) : s.holdsFrame = true := by
  by_contra hholds
  rw [Bool.not_eq_true] at hholds
  rw [DataFlow.readGroup] at h
  cases hv : s.getNextVideo with
  | error e =>
    rw [hv] at h
    cases h
  | ok r =>
    obtain ⟨vFrame,s₁⟩ := r
    obtain ⟨rfl,hclosed⟩ := getNextVideo_of_holds hholds hv
    rw [hv] at h
    change (s₁.getNextAudio >>= _) = _ at h
    cases ha : s₁.getNextAudio with
    | error e =>
      rw [ha] at h
      cases h
    | ok r =>
      obtain ⟨aFrames,s₂⟩ := r
      obtain rfl := getNextAudio_of_holds hclosed ha
      rw [ha] at h
      cases h
      cases hmedia

theorem frameEvents_of_opens (h : Opens d w frames s) : d.frameEvents w = [.frame] := by
  have hread := h.read
  cases hsteps : (d.skipFrames + 1).toNat with
  | zero =>
    rw [hsteps] at hread
    cases hread
    cases h.media
  | succ steps =>
    rw [hsteps] at hread
    have hholds := holdsFrame_of_readGroup hread h.media
    simp [DataFlow.frameEvents,DataFlow.takesFrame,h.running,hsteps,hholds]

end Reading

section Runs

theorem closing_loopRun (h : ∀ frames s, ¬ Opens d w frames s) :
    ∃ answers, LoopRun d w answers (d.closing w) := by
  rw [DataFlow.closing]
  cases hrun : d.run w.loads with
  | false => exact ⟨[],.stopped hrun⟩
  | true =>
    rw [Bool.not_true,if_neg Bool.false_ne_true]
    cases hread : DataFlow.readGroup (d.skipFrames + 1).toNat w.avSynchronizer (none,[]) with
    | error e =>
      cases e with
      | ovi error => exact ⟨_,.raised hrun hread⟩
      | other => exact ⟨_,.escaped hrun hread⟩
    | ok r =>
      obtain ⟨frames,s⟩ := r
      refine ⟨[],.finished hrun hread ?_⟩
      rw [← Bool.not_eq_false]
      exact fun hmedia => h frames s ⟨hrun,hread,hmedia⟩

theorem LoopTrace.run (h : LoopTrace d w events result) :
    ∃ answers, LoopRun d w answers result := by
  induction h with
  | closes h => exact closing_loopRun h
  | fault h hframe => exact ⟨_,.fault h hframe⟩
  | endFault h hframe hend => exact ⟨_,.endFault h hframe hend⟩
  | group h _ ih =>
    obtain ⟨answers',hrest⟩ := ih
    cases h with
    | group h hframe hend => exact ⟨_,.group h hframe hend hrest⟩

theorem LoopRun.traced (h : LoopRun d w answers result) :
    ∃ events, LoopTrace d w events result := by
  induction h with
  | @stopped w hrun =>
    have hclosed : ∀ frames s, ¬ Opens d w frames s := by
      intro frames s h
      cases hrun.symm.trans h.running
    have htrace := LoopTrace.closes hclosed
    rw [DataFlow.closing,hrun] at htrace
    exact ⟨_,htrace⟩
  | @raised w error hrun hread =>
    have hclosed : ∀ frames s, ¬ Opens d w frames s := by
      intro frames s h
      cases hread.symm.trans h.read
    have htrace := LoopTrace.closes hclosed
    rw [DataFlow.closing,hrun,hread] at htrace
    exact ⟨_,htrace⟩
  | @escaped w hrun hread =>
    have hclosed : ∀ frames s, ¬ Opens d w frames s := by
      intro frames s h
      cases hread.symm.trans h.read
    have htrace := LoopTrace.closes hclosed
    rw [DataFlow.closing,hrun,hread] at htrace
    exact ⟨_,htrace⟩
  | @finished w frames s hrun hread hmedia =>
    have hclosed : ∀ frames s, ¬ Opens d w frames s := by
      intro frames' s' h
      cases hread.symm.trans h.read
      cases hmedia.symm.trans h.media
    have htrace := LoopTrace.closes hclosed
    rw [DataFlow.closing,hrun,hread] at htrace
    exact ⟨_,htrace⟩
  | fault h hframe => exact ⟨_,.fault h hframe⟩
  | endFault h hframe hend => exact ⟨_,.endFault h hframe hend⟩
  | group h hframe hend _ ih =>
    obtain ⟨events,hrest⟩ := ih
    exact ⟨_,.group (.group h hframe hend) hrest⟩

end Runs

section Failing

def NoneRaised (answers : List Answer) : Prop := ∀ a ∈ answers, a.code = none

def Raises (answers : List Answer) (error : ErrorCode) : Prop :=
  ∃ before a, answers = before ++ [a] ∧ NoneRaised before ∧ a.code = some error

theorem noneRaised_append {answers' : List Answer} (h : NoneRaised answers)
    (h' : NoneRaised answers') :
    NoneRaised (answers ++ answers') := List.forall_mem_append.mpr ⟨h,h'⟩

theorem Raises.append {before : List Answer} (h : Raises answers error) (hb : NoneRaised before) :
    Raises (before ++ answers) error := by
  obtain ⟨before',a,rfl,hb',ha⟩ := h
  exact ⟨before ++ before',a,(List.append_assoc _ _ _).symm,noneRaised_append hb hb',ha⟩

theorem not_raises_of_noneRaised (h : NoneRaised answers) : ¬ Raises answers error := by
  rintro ⟨before,a,rfl,-,ha⟩
  have hnone := h a (by simp)
  rw [ha] at hnone
  cases hnone

theorem handlePlugin_go {uid : String} {plugin : Plugin}
    (h : d.handlePlugin w frames uid plugin = .ok (true,w₁)) :
    NoneRaised (d.called w frames uid plugin) := by
  rw [DataFlow.handlePlugin] at h
  rw [DataFlow.called]
  split at h
  · rename_i he
    rw [if_pos he]
    exact List.forall_mem_nil _
  · rename_i he
    rw [if_neg he]
    intro a ha
    obtain rfl := List.mem_singleton.mp ha
    split at h
    · rename_i outcome st hp
      rw [hp]
      rfl
    · cases h
    · cases h

theorem handlePlugin_raised {uid : String} {plugin : Plugin}
    (h : d.handlePlugin w frames uid plugin = .ok (false,w₁)) :
    Raises (d.called w frames uid plugin) w₁.ret := by
  rw [DataFlow.handlePlugin] at h
  rw [DataFlow.called]
  split at h
  · cases h
  · rename_i he
    rw [if_neg he]
    refine ⟨[],_,rfl,List.forall_mem_nil _,?_⟩
    split at h
    · cases h
    · rename_i error st hp
      cases h
      rw [hp]
      rfl
    · cases h

theorem handlePlugin_escaped {uid : String} {plugin : Plugin} {fault : Fault}
    (h : d.handlePlugin w frames uid plugin = .error fault) :
    NoneRaised (d.called w frames uid plugin) := by
  rw [DataFlow.handlePlugin] at h
  rw [DataFlow.called]
  split at h
  · cases h
  · rename_i he
    rw [if_neg he]
    intro a ha
    obtain rfl := List.mem_singleton.mp ha
    split at h
    · cases h
    · cases h
    · rename_i fault' st hnot hp
      rw [hp]
      cases fault' with
      | undefined => rfl
      | raised e =>
        cases e with
        | ovi error => exact absurd rfl (hnot error)
        | other => rfl

def Ending (answers : List Answer) : Except Fault (Bool × Worker σ) → Prop
  | .ok (eop,w) => NoneRaised answers ∨ (eop = false ∧ Raises answers w.ret)
  | .error _ => NoneRaised answers

theorem Ending.append {before : List Answer} {ending : Except Fault (Bool × Worker σ)}
    (h : Ending answers ending) (hb : NoneRaised before) : Ending (before ++ answers) ending := by
  cases ending with
  | error fault => exact noneRaised_append hb h
  | ok r => exact h.imp (noneRaised_append hb) fun h => ⟨h.1,h.2.append hb⟩

theorem FrameRun.ending {ending : Except Fault (Bool × Worker σ)}
    (h : FrameRun d frames w answers ending) : Ending answers ending := by
  induction h with
  | stopped _ => exact .inl (List.forall_mem_nil _)
  | eop _ _ => exact .inl (List.forall_mem_nil _)
  | hit _ _ _ _ _ ih => exact ih
  | handled _ hp _ ih =>
    have hnone := handlePlugin_go hp
    exact ih.append hnone
  | raised _ hp =>
    have hraises := handlePlugin_raised hp
    exact .inr ⟨rfl,hraises⟩
  | fault _ hp =>
    have hnone := handlePlugin_escaped hp
    exact hnone

theorem reportFrame_ret (w : Worker σ) (frames : Frames) : (d.reportFrame w frames).ret = w.ret :=
  (reportFrame_recorded w frames).ret

theorem Handles.ending (h : Handles d w answers w') :
    NoneRaised answers ∨ Raises answers w'.ret := by
  cases h with
  | group _ hframe hend =>
    rcases hframe.ending with hnone | ⟨rfl,hraises⟩
    · exact .inl hnone
    · cases hend
      rw [reportFrame_ret]
      exact .inr hraises

theorem firstFailure_append {before : List Event} (h : ∀ event ∈ before, event.raised = none)
    (events : List Event) : firstFailure (before ++ events) = firstFailure events := by
  induction before with
  | nil => rfl
  | cons event before ih =>
    rw [List.cons_append,firstFailure,h event List.mem_cons_self]
    exact ih fun x hx => h x (List.mem_cons_of_mem _ hx)

theorem frameEvents_raised : ∀ event ∈ d.frameEvents w, event.raised = none := by
  intro event hevent
  rw [DataFlow.frameEvents] at hevent
  split at hevent
  · obtain rfl := List.mem_singleton.mp hevent
    rfl
  · cases hevent

theorem calls_raised (h : NoneRaised answers) :
    ∀ event ∈ answers.map Event.call, event.raised = none := by
  intro event hevent
  obtain ⟨a,ha,rfl⟩ := List.mem_map.mp hevent
  exact h a ha

theorem firstFailure_noneRaised (h : NoneRaised answers) (events : List Event) :
    firstFailure (d.frameEvents w ++ answers.map .call ++ events) = firstFailure events := by
  rw [List.append_assoc,firstFailure_append frameEvents_raised,firstFailure_append (calls_raised h)]

theorem firstFailure_raises (h : Raises answers error) (events : List Event) :
    firstFailure (d.frameEvents w ++ answers.map .call ++ events) = some (error,events) := by
  obtain ⟨before,a,rfl,hb,ha⟩ := h
  have hraised : (Event.call a).raised = some error := ha
  rw [List.map_append,List.append_assoc,List.append_assoc,firstFailure_append frameEvents_raised,
    firstFailure_append (calls_raised hb)]
  change firstFailure (Event.call a :: events) = _
  rw [firstFailure,hraised]

end Failing

section First

def Quiet (d : DataFlow σ) : Worker σ → Worker σ → Prop :=
  Relation.ReflTransGen fun w w' => ∃ answers, Handles d w answers w' ∧ NoneRaised answers

structure Fails (d : DataFlow σ) (w : Worker σ) (error : ErrorCode) (w' : Worker σ) : Prop where
  turn : ∃ w₁ answers, Quiet d w w₁ ∧ Handles d w₁ answers w' ∧ Raises answers error

inductive Over (d : DataFlow σ) (w : Worker σ) (error : ErrorCode) : Prop
  | stopped (hrun : d.run w.loads = false)
  | ended (hframe : d.takesFrame w = false) {frames : Frames} {s : AvSynchronizer}
    (hread : DataFlow.readGroup (d.skipFrames + 1).toNat w.avSynchronizer (none,[]) =
      .ok (frames,s))
  | raised (hframe : d.takesFrame w = false)
    (hread : DataFlow.readGroup (d.skipFrames + 1).toNat w.avSynchronizer (none,[]) =
      .error (.ovi error))

def DataFlow.CompletesWith (d : DataFlow σ) (w : Worker σ) (error : ErrorCode) : Prop :=
  ∃ n, ∀ fuel ≥ n, ∃ w', d.worker fuel w = some (.ok w') ∧ w'.completed = w.completed ++ [error]

def DataFlow.HeedsFirst (d : DataFlow σ) (w : Worker σ) : Prop :=
  ∀ events result, LoopTrace d (d.startWorker w) events result →
    ∀ error post, firstFailure events = some (error,post) → post = [] ∧ d.CompletesWith w error

theorem firstFailure_frame : firstFailure (d.frameEvents w) = none := by
  have happend := firstFailure_append (frameEvents_raised (d := d) (w := w)) []
  rw [List.append_nil] at happend
  exact happend

theorem firstFailure_turn (h : NoneRaised answers) :
    firstFailure (d.frameEvents w ++ answers.map .call) = none := by
  have happend := firstFailure_noneRaised (d := d) (w := w) h []
  rw [List.append_nil] at happend
  exact happend

theorem LoopTrace.fails (h : LoopTrace d w events result)
    (hf : firstFailure events = some (error,post)) :
    ∃ w', Fails d w error w' ∧ w'.ret = error ∧ LoopTrace d w' post result := by
  induction h with
  | closes _ =>
    rw [firstFailure_frame] at hf
    cases hf
  | fault _ hframe =>
    rw [firstFailure_turn hframe.ending] at hf
    cases hf
  | endFault _ hframe _ =>
    rcases hframe.ending with hnone | ⟨heop,-⟩
    · rw [firstFailure_turn hnone] at hf
      cases hf
    · cases heop
  | @group w w' answers events result hturn hrest ih =>
    rcases hturn.ending with hnone | hraises
    · rw [firstFailure_noneRaised hnone] at hf
      obtain ⟨w'',⟨w₁,answers',hquiet,hfail,hraises⟩,hret,hpost⟩ := ih hf
      exact ⟨w'',⟨w₁,answers',.head ⟨answers,hturn,hnone⟩ hquiet,hfail,hraises⟩,hret,hpost⟩
    · rw [firstFailure_raises hraises] at hf
      cases hf
      exact ⟨w',⟨w,answers,.refl,hturn,hraises⟩,rfl,hrest⟩

theorem Fails.trace (h : Fails d w error w') (hrest : LoopTrace d w' post result) :
    ∃ events, LoopTrace d w events result ∧ firstFailure events = some (error,post) := by
  obtain ⟨w₁,answers,hquiet,hfail,hraises⟩ := h
  induction hquiet using Relation.ReflTransGen.head_induction_on with
  | refl => exact ⟨_,.group hfail hrest,firstFailure_raises hraises post⟩
  | head hturn _ ih =>
    obtain ⟨answers',hturn,hnone⟩ := hturn
    obtain ⟨events,htrace,hf⟩ := ih
    exact ⟨_,.group hturn htrace,(firstFailure_noneRaised hnone events).trans hf⟩

theorem over_iff (hret : w.ret = error) :
    Over d w error ↔ d.frameEvents w = [] ∧ ∃ w', d.closing w = .ok w' ∧ w'.ret = error := by
  have hevents : d.frameEvents w = [] ↔ d.takesFrame w = false := by
    rw [DataFlow.frameEvents]
    cases d.takesFrame w <;> simp
  rw [hevents,DataFlow.closing]
  constructor
  · intro h
    cases h with
    | stopped hrun =>
      rw [hrun]
      exact ⟨by rw [DataFlow.takesFrame,hrun]; rfl,_,rfl,hret⟩
    | ended hframe hread =>
      refine ⟨hframe,?_⟩
      rw [hread]
      cases d.run w.loads with
      | false => exact ⟨_,rfl,hret⟩
      | true => exact ⟨_,rfl,hret⟩
    | raised hframe hread =>
      refine ⟨hframe,?_⟩
      rw [hread]
      cases d.run w.loads with
      | false => exact ⟨_,rfl,hret⟩
      | true => exact ⟨_,rfl,rfl⟩
  · rintro ⟨hframe,w',hclosing,hlast⟩
    cases hrun : d.run w.loads with
    | false => exact .stopped hrun
    | true =>
      rw [hrun,Bool.not_true,if_neg Bool.false_ne_true] at hclosing
      cases hread : DataFlow.readGroup (d.skipFrames + 1).toNat w.avSynchronizer (none,[]) with
      | ok r => exact .ended hframe hread
      | error e =>
        rw [hread] at hclosing
        cases e with
        | other => cases hclosing
        | ovi error' =>
          cases hclosing
          exact .raised hframe (hlast ▸ hread)

theorem Over.closed (h : Over d w error) : ∀ frames s, ¬ Opens d w frames s := by
  intro frames s hopens
  have hevents := frameEvents_of_opens hopens
  rw [DataFlow.frameEvents] at hevents
  cases h with
  | stopped hrun => cases hrun.symm.trans hopens.running
  | ended hframe _ =>
    rw [hframe] at hevents
    cases hevents
  | raised hframe _ =>
    rw [hframe] at hevents
    cases hevents

theorem LoopTrace.over_iff (h : LoopTrace d w events result) (hret : w.ret = error) :
    Over d w error ↔ events = [] ∧ ∃ w', result = .ok w' ∧ w'.ret = error := by
  have hopened : ∀ {frames : Frames} {s : AvSynchronizer} {more : List Event},
      Opens d w frames s → (Over d w error ↔ d.frameEvents w ++ more = [] ∧
        ∃ w', result = .ok w' ∧ w'.ret = error) := by
    intro frames s more hopens
    refine iff_of_false (fun hover => hover.closed frames s hopens) ?_
    rintro ⟨hevents,-⟩
    rw [frameEvents_of_opens hopens] at hevents
    cases hevents
  cases h with
  | closes _ => exact Ovi.over_iff hret
  | fault h _ => exact hopened h
  | endFault h _ _ => exact hopened h
  | group h _ =>
    rw [List.append_assoc]
    cases h with
    | group h _ _ => exact hopened h

theorem completesWith_iff (h : LoopTrace d (d.startWorker w) events result) :
    d.CompletesWith w error ↔ ∃ w', result = .ok w' ∧ w'.ret = error := by
  obtain ⟨answers,hrun⟩ := h.run
  obtain ⟨n,hloop⟩ := hrun.workerLoop
  have hexplains := hrun.explains
  cases result with
  | error fault =>
    refine iff_of_false ?_ (by rintro ⟨w',heq,-⟩; cases heq)
    rintro ⟨m,hcompletes⟩
    obtain ⟨w',hw',-⟩ := hcompletes (n + m) (Nat.le_add_left _ _)
    rw [DataFlow.worker,workerLoop_mono hloop (Nat.le_add_right n m)] at hw'
    cases hw'
  | ok w₁ =>
    have hdone : w₁.completed = w.completed :=
      hexplains.completed.trans (startWorker_same w).2.1
    constructor
    · rintro ⟨m,hcompletes⟩
      obtain ⟨w',hw',hcompleted⟩ := hcompletes (n + m) (Nat.le_add_left _ _)
      obtain ⟨w'',hw'',hlist⟩ := worker_finish (workerLoop_mono hloop (Nat.le_add_right n m))
      cases hw'.symm.trans hw''
      rw [hcompleted,hdone] at hlist
      exact ⟨w₁,rfl,(List.singleton_inj.mp (List.append_cancel_left hlist)).symm⟩
    · rintro ⟨w',heq,hret⟩
      cases heq
      refine ⟨n,fun fuel hf => ?_⟩
      obtain ⟨w'',hw'',hlist⟩ := worker_finish (workerLoop_mono hloop hf)
      exact ⟨w'',hw'',by rw [hlist,hdone,hret]⟩

theorem Handles.skeleton (h : Handles d w answers w') :
    w'.logicAnalyzer.skeleton = w.logicAnalyzer.skeleton := by
  cases h with
  | group _ hframe hend => exact group_skeleton hframe hend

theorem Fails.skeleton (h : Fails d w error w') :
    w'.logicAnalyzer.skeleton = w.logicAnalyzer.skeleton := by
  obtain ⟨w₁,answers,hquiet,hfail,-⟩ := h
  refine hfail.skeleton.trans ?_
  clear hfail
  induction hquiet with
  | refl => rfl
  | tail _ hturn ih =>
    obtain ⟨answers',hturn,-⟩ := hturn
    exact hturn.skeleton.trans ih

theorem Fails.ret (h : Fails d w error w') : w'.ret = error := by
  obtain ⟨w₁,answers,-,hfail,hraises⟩ := h
  rcases hfail.ending with hnone | hraises'
  · exact absurd hraises (not_raises_of_noneRaised hnone)
  · obtain ⟨before,a,rfl,-,ha⟩ := hraises
    obtain ⟨before',a',heq,-,ha'⟩ := hraises'
    obtain ⟨-,hlast⟩ := List.append_inj' heq rfl
    obtain rfl := List.singleton_inj.mp hlast
    exact Option.some.inj (ha'.symm.trans ha)

variable {request : List String} {A₀ : LogicAnalyzer}

theorem heedsFirst_of_over
    (h : ∀ error w', Fails d (d.startWorker w) error w' → Over d w' error) : d.HeedsFirst w := by
  intro events result htrace error post hf
  obtain ⟨w',hfails,hret,hpost⟩ := htrace.fails hf
  obtain ⟨hempty,hresult⟩ := (hpost.over_iff hret).mp (h error w' hfails)
  exact ⟨hempty,(completesWith_iff htrace).mpr hresult⟩

theorem over_of_heedsFirst (hv : validateLogic d.pluginManager request = true)
    (hA₀ : LogicAnalyzer.make request = some A₀) (hA : Used A₀ w.logicAnalyzer)
    (h : d.HeedsFirst w) (hfails : Fails d (d.startWorker w) error w') : Over d w' error := by
  obtain ⟨a,as,hshows,hall⟩ := make_sound hv hA₀
  have hw' : w'.logicAnalyzer.Shows (a :: as) := by
    rw [LogicAnalyzer.Shows,hfails.skeleton,(startWorker_same w).2.2,hA.skeleton]
    exact hshows
  obtain ⟨answers,result,hrun⟩ := loopRun_exists d
    (fun x hx n hn uid hu => (hall x hx n hn uid hu).2) hw'
  obtain ⟨post,hpost⟩ := hrun.traced
  obtain ⟨events,htrace,hf⟩ := hfails.trace hpost
  obtain ⟨hempty,hcompletes⟩ := h events result htrace error post hf
  exact (hpost.over_iff hfails.ret).mpr ⟨hempty,(completesWith_iff htrace).mp hcompletes⟩

theorem heedsFirst_iff (hv : validateLogic d.pluginManager request = true)
    (hA₀ : LogicAnalyzer.make request = some A₀) (hA : Used A₀ w.logicAnalyzer) :
    (∃ events result, LoopTrace d (d.startWorker w) events result) ∧
      (d.HeedsFirst w ↔ ∀ error w', Fails d (d.startWorker w) error w' → Over d w' error) := by
  obtain ⟨answers,result,hrun⟩ := worker_runs hv hA₀ hA
  obtain ⟨events,htrace⟩ := hrun.traced
  refine ⟨⟨events,result,htrace⟩,?_,heedsFirst_of_over⟩
  exact fun h error w' hfails => over_of_heedsFirst hv hA₀ hA h hfails

end First

section Sample

def failingFlow : DataFlow Nat where
  pluginManager := samplePlugins
  plugins := ⟨fun _ frame => .ok frame,fun _ _ calls =>
    (.error (.ovi (if calls = 0 then oviErrorInvalidOperation else oviErrorInvalidParameter)),
      calls + 1)⟩
  skipFrames := 0
  progressCallback := false
  run := fun _ => true

def twoFrames : AvSynchronizer :=
  AvSynchronizer.make ⟨true,false,[.ok ⟨0,0,2⟩,.ok ⟨1,1,2⟩],[]⟩

theorem heedsFirst_iff_failingFlow :
    (∃ events result, LoopTrace failingFlow
      (failingFlow.startWorker (Worker.initial faceAnalyzer twoFrames 0)) events result) ∧
      (failingFlow.HeedsFirst (Worker.initial faceAnalyzer twoFrames 0) ↔ ∀ error w',
        Fails failingFlow (failingFlow.startWorker (Worker.initial faceAnalyzer twoFrames 0))
          error w' → Over failingFlow w' error) := by
  have hvalid : validateLogic failingFlow.pluginManager ["FaceDetect.1"] = true := by decide
  exact heedsFirst_iff hvalid faceAnalyzer_made .made

theorem failingFlow_overwrites :
    validateLogic failingFlow.pluginManager ["FaceDetect.1"] = true ∧
      LogicAnalyzer.make ["FaceDetect.1"] = some faceAnalyzer ∧
      ¬ failingFlow.HeedsFirst (Worker.initial faceAnalyzer twoFrames 0) := by
  have hvalid : validateLogic failingFlow.pluginManager ["FaceDetect.1"] = true := by decide
  refine ⟨hvalid,faceAnalyzer_made,fun h => ?_⟩
  let w := failingFlow.startWorker (Worker.initial faceAnalyzer twoFrames 0)
  have hturn : ∃ w' frames s, Opens failingFlow w' frames s ∧ Handles failingFlow w
      [.process "FaceDetect.1" (.error (.raised (.ovi oviErrorInvalidOperation)))] w' := by
    have hopens : Opens failingFlow w (some ⟨0,0,2⟩,[]) _ := ⟨rfl,rfl,rfl⟩
    have hcall : ∀ s, Calling failingFlow (w.opened s) "FaceDetect.1"
        ⟨["FaceDetect.1"],[⟨["FaceDetect.1"],1,true,true⟩],[⟨[0],0,false⟩],0,true⟩
        ⟨.videoDetect⟩ := fun _ => ⟨rfl,rfl,by decide,rfl,rfl⟩
    exact ⟨_,(some ⟨1,1,2⟩,[]),_,⟨rfl,rfl,rfl⟩,.group hopens (.raised (hcall _) rfl) rfl⟩
  obtain ⟨w',frames,s,hopens,hturn⟩ := hturn
  have hraises : Raises
      [.process "FaceDetect.1" (.error (.raised (.ovi oviErrorInvalidOperation)))]
      oviErrorInvalidOperation := ⟨[],_,rfl,List.forall_mem_nil _,rfl⟩
  have hover := over_of_heedsFirst hvalid faceAnalyzer_made .made h ⟨w,_,.refl,hturn,hraises⟩
  exact hover.closed frames s hopens

end Sample

end Ovi
