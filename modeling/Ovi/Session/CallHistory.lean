import Ovi.Session.Setters

namespace Ovi

inductive SessionCall where
  | setMediaPath (mediaPath : String) (canonical : Canonical)
  | setErrorCb (callback : Option Nat) (userData : Nat)
  | unsetErrorCb
  | setProgressCb (callback : Option Nat) (userData : Nat)
  | unsetProgressCb
  | setStateChangedCb (callback : Option Nat) (userData : Nat)
  | unsetStateChangedCb
  | start (frameExtractor : String → Except Exn MediaInfo) (thread : Except Exn Unit)
  | stop
  | setRender (uid outputPath : String)
  | registerPlugin (request : List String)
  | appendPlugin (name : String) (sNum : Nat) (loaded : Except Exn LoadedPlugin)
  | setPluginAttrs (uid : String) (attrs : AttrMap)
  | setSkipVideoFrames (frames : Nat)
  -- the end of a task, which the client does not call
  | completeCb (error : ErrorCode)

def SessionObject.step (s : SessionObject) : SessionCall → SessionReply
  | .setMediaPath mediaPath canonical => s.setMediaPath mediaPath canonical
  | .setErrorCb callback userData => s.setErrorCb callback userData
  | .unsetErrorCb => s.unsetErrorCb
  | .setProgressCb callback userData => s.setProgressCb callback userData
  | .unsetProgressCb => s.unsetProgressCb
  | .setStateChangedCb callback userData => s.setStateChangedCb callback userData
  | .unsetStateChangedCb => s.unsetStateChangedCb
  | .start frameExtractor thread => s.start frameExtractor thread
  | .stop => s.stop
  | .setRender uid outputPath => s.setRender uid outputPath
  | .registerPlugin request => s.registerPlugin request
  | .appendPlugin name sNum loaded => s.appendPlugin name sNum loaded
  | .setPluginAttrs uid attrs => s.setPluginAttrs uid attrs
  | .setSkipVideoFrames frames => s.setSkipVideoFrames frames
  | .completeCb error => (.ok (),s.completeCb error)

-- the session after a history, the most recent call first
def after : List SessionCall → SessionObject
  | [] => .initial
  | call :: earlier => ((after earlier).step call).2

inductive Setter where
  | mediaPath
  | render
  | request
deriving DecidableEq, Repr

namespace SessionCall

def setter : SessionCall → Option Setter
  | .setMediaPath .. => some .mediaPath
  | .setRender .. => some .render
  | .registerPlugin .. => some .request
  | _ => none

structure Frame (call : SessionCall) (c c' : SessionConfig) : Prop where
  mediaPath : call.setter ≠ some .mediaPath → c'.mediaPath = c.mediaPath
  render : call.setter ≠ some .render →
    c'.renderUid = c.renderUid ∧ c'.outputFilePath = c.outputFilePath
  request : call.setter ≠ some .request → c'.logicAnalyzer = c.logicAnalyzer

def Sets : SessionCall → SessionConfig → Prop
  | .setMediaPath _ canonical, c => canonical.err ≠ eInval ∧ canonical.err ≠ eNoEnt ∧
    c.mediaPath = canonical.string
  | .setRender _ _, c => c.renderUid ≠ "" ∧ c.outputFilePath ≠ ""
  | .registerPlugin _, c => c.logicAnalyzer.isSome = true
  | _, _ => True

inductive Replied (s : SessionObject) (call : SessionCall) : SessionReply → Prop
  | raised (fault : Fault) {s' : SessionObject} (hstate : s'.state = s.state)
    (hconfig : s'.config = s.config) : Replied s call (.error fault,s')
  | set {config : SessionConfig} (hframe : call.Frame s.config config)
    (hsets : call.Sets config) : Replied s call (s.set config)
  | moved {s' : SessionObject} (hconfig : s'.config = s.config) (hsetter : call.setter = none) :
    Replied s call (.ok (),s')

section Replies

variable {s : SessionObject} {call : SessionCall}

theorem replied_raise (error : ErrorCode) : Replied s call (s.raise error) := .raised _ rfl rfl

theorem replied_guard {p : Prop} [Decidable p] {error : ErrorCode} {reply : SessionReply}
    (h : ¬ p → Replied s call reply) : Replied s call (if p then s.raise error else reply) := by
  split
  · exact replied_raise error
  · exact h ‹_›

theorem replied_setCb {callback : Option Nat} {userData : Nat}
    {put : UserCallback → SessionConfig} (hput : ∀ cb, Replied s call (s.set (put cb))) :
    Replied s call (s.setCb callback userData put) := by
  refine replied_guard fun _ => ?_
  cases callback with
  | none => exact replied_raise _
  | some callback => exact hput _

theorem replied_launch (c : StartConfig) (hsetter : call.setter = none) :
    Replied s call (s.launch c) := by
  have hlaunched := s.launched c
  generalize s.launch c = reply at hlaunched
  cases hlaunched with
  | refused hprepare hstate hconfig => exact .raised _ hstate hconfig
  | launched hprepare hstate hconfig => exact .moved hconfig hsetter

theorem replied_setMediaPath (mediaPath : String) (canonical : Canonical) :
    Replied s (.setMediaPath mediaPath canonical) (s.setMediaPath mediaPath canonical) := by
  refine replied_guard fun _ => replied_guard fun _ => replied_guard fun hinval =>
    replied_guard fun hnoent => .set ⟨fun h => absurd rfl h,fun _ => ⟨rfl,rfl⟩,fun _ => rfl⟩ ?_
  exact ⟨by simpa using hinval,by simpa using hnoent,rfl⟩

theorem replied_setRender (uid outputPath : String) :
    Replied s (.setRender uid outputPath) (s.setRender uid outputPath) := by
  refine replied_guard fun _ => replied_guard fun huid => replied_guard fun houtput => ?_
  have huid' : uid ≠ "" := by simpa using huid
  have houtput' : outputPath ≠ "" := by simpa using houtput
  split
  · exact replied_raise _
  · split
    · exact .set ⟨fun _ => rfl,fun h => absurd rfl h,fun _ => rfl⟩ ⟨huid',houtput'⟩
    · exact replied_raise _

theorem replied_registerPlugin (request : List String) :
    Replied s (.registerPlugin request) (s.registerPlugin request) := by
  refine replied_guard fun _ => replied_guard fun _ => ?_
  split
  · split
    · exact .raised _ rfl rfl
    · exact .set ⟨fun _ => rfl,fun _ => ⟨rfl,rfl⟩,fun h => absurd rfl h⟩ rfl
  · exact replied_raise _

theorem completeCb_config (error : ErrorCode) : (s.completeCb error).config = s.config := by
  rw [SessionObject.completeCb]
  split
  · rfl
  · cases s.state <;> rfl

theorem replied (s : SessionObject) (call : SessionCall) : Replied s call (s.step call) := by
  cases call with
  | setMediaPath mediaPath canonical => exact replied_setMediaPath mediaPath canonical
  | setErrorCb callback userData =>
    rw [SessionObject.step,SessionObject.setErrorCb]
    exact replied_setCb fun _ =>
      .set ⟨fun _ => rfl,fun _ => ⟨rfl,rfl⟩,fun _ => rfl⟩ trivial
  | setProgressCb callback userData =>
    rw [SessionObject.step,SessionObject.setProgressCb]
    exact replied_setCb fun _ =>
      .set ⟨fun _ => rfl,fun _ => ⟨rfl,rfl⟩,fun _ => rfl⟩ trivial
  | setStateChangedCb callback userData =>
    rw [SessionObject.step,SessionObject.setStateChangedCb]
    exact replied_setCb fun _ =>
      .set ⟨fun _ => rfl,fun _ => ⟨rfl,rfl⟩,fun _ => rfl⟩ trivial
  | unsetErrorCb | unsetProgressCb | unsetStateChangedCb =>
    exact replied_guard fun _ => replied_guard fun _ =>
      .set ⟨fun _ => rfl,fun _ => ⟨rfl,rfl⟩,fun _ => rfl⟩ trivial
  | start frameExtractor thread => exact replied_guard fun _ => replied_launch _ rfl
  | stop => exact replied_guard fun _ => replied_guard fun _ => .moved rfl rfl
  | setRender uid outputPath => exact replied_setRender uid outputPath
  | registerPlugin request => exact replied_registerPlugin request
  | appendPlugin name sNum loaded =>
    refine replied_guard fun _ => replied_guard fun _ => ?_
    cases loaded with
    | error e => exact .raised _ rfl rfl
    | ok p => exact .set ⟨fun _ => rfl,fun _ => ⟨rfl,rfl⟩,fun _ => rfl⟩ trivial
  | setPluginAttrs uid attrs =>
    exact replied_guard fun _ => replied_guard fun _ => replied_guard fun _ =>
      .set ⟨fun _ => rfl,fun _ => ⟨rfl,rfl⟩,fun _ => rfl⟩ trivial
  | setSkipVideoFrames frames =>
    exact replied_guard fun _ => .set ⟨fun _ => rfl,fun _ => ⟨rfl,rfl⟩,fun _ => rfl⟩ trivial
  | completeCb error => exact .moved (completeCb_config error) rfl

variable {reply : SessionReply}

theorem Replied.kept (h : Replied s call reply) {fault : Fault} (he : reply.1 = .error fault) :
    reply.2.state = s.state ∧ reply.2.config = s.config := by
  cases h with
  | raised fault' hstate hconfig => exact ⟨hstate,hconfig⟩
  | set | moved => cases he

theorem Replied.frame (h : Replied s call reply) : call.Frame s.config reply.2.config := by
  have hrefl : call.Frame s.config s.config := ⟨fun _ => rfl,fun _ => ⟨rfl,rfl⟩,fun _ => rfl⟩
  cases h with
  | raised fault hstate hconfig => exact hconfig ▸ hrefl
  | set hframe hsets => exact hframe
  | moved hconfig hsetter => exact hconfig ▸ hrefl

theorem Replied.sets (h : Replied s call reply) {k : Setter} (hk : call.setter = some k)
    (hok : reply.1 = .ok ()) : call.Sets reply.2.config := by
  cases h with
  | raised => cases hok
  | set hframe hsets => exact hsets
  | moved hconfig hsetter => cases hk.symm.trans hsetter

theorem Sets.frame {latest : SessionCall} {c c' : SessionConfig} {k : Setter}
    (h : call.Sets c) (hk : call.setter = some k) (hlatest : latest.setter ≠ some k)
    (hframe : latest.Frame c c') : call.Sets c' := by
  cases call with
  | setMediaPath mediaPath canonical =>
    cases hk
    exact ⟨h.1,h.2.1,(hframe.mediaPath hlatest).trans h.2.2⟩
  | setRender uid outputPath =>
    cases hk
    obtain ⟨hrender,houtput⟩ := hframe.render hlatest
    exact ⟨hrender ▸ h.1,houtput ▸ h.2⟩
  | registerPlugin request =>
    cases hk
    exact (congrArg Option.isSome (hframe.request hlatest)).trans h
  | _ => cases hk

end Replies

end SessionCall

section History

open SessionCall

variable {s : SessionObject} {call : SessionCall} {history : List SessionCall} {k : Setter}

def lastOf (k : Setter) : List SessionCall → Option (SessionCall × Except Fault Unit)
  | [] => none
  | call :: earlier =>
    if call.setter = some k then some (call,((after earlier).step call).1) else lastOf k earlier

def Succeeded (k : Setter) (history : List SessionCall) : Prop :=
  ∃ call, lastOf k history = some (call,.ok ())

structure SettersSuffice (history : List SessionCall) : Prop where
  starts : (∀ k, Succeeded k history) → ∀ frameExtractor thread,
    let c := (after history).config.startConfig frameExtractor thread
    c.fieldChecks.forM (StartCheck.run c) = .ok ()
  kept : ∀ call fault, ((after history).step call).1 = .error fault →
    ((after history).step call).2.config = (after history).config

def Resolved (history : List SessionCall) : Prop :=
  ∀ mediaPath canonical result,
    lastOf .mediaPath history = some (.setMediaPath mediaPath canonical,result) →
      canonical.err = 0 ∨ canonical.err = eInval ∨ canonical.err = eNoEnt

theorem succeeded_sets (h : lastOf k history = some (call,.ok ())) :
    call.setter = some k ∧ call.Sets (after history).config := by
  induction history with
  | nil => cases h
  | cons latest earlier ih =>
    rw [lastOf] at h
    by_cases hk : latest.setter = some k
    · rw [if_pos hk] at h
      obtain ⟨rfl,hok⟩ := Prod.mk.inj (Option.some.inj h)
      exact ⟨hk,(replied _ _).sets hk hok⟩
    · rw [if_neg hk] at h
      obtain ⟨hcall,hsets⟩ := ih h
      exact ⟨hcall,hsets.frame hcall hk (replied _ _).frame⟩

theorem fieldChecks_ok_iff (c : StartConfig) :
    c.fieldChecks.forM (StartCheck.run c) = .ok () ↔
      c.expression.isSome = true ∧ c.mediaPath ≠ "" ∧ c.renderUid ≠ "" ∧
        c.outputFilePath ≠ "" := by
  have hrefuse : ∀ passes, StartConfig.refuse passes = .ok () ↔ passes = true := by
    intro passes
    cases passes with
    | true => exact iff_of_true rfl rfl
    | false => exact iff_of_false (fun h => by cases h) Bool.false_ne_true
  rw [Checks.forM_ok_iff,StartConfig.fieldChecks]
  simp only [List.forall_mem_cons,StartCheck.run,hrefuse,bne_iff_ne]
  simp

theorem Canonical.err_eq_zero_iff (c : Canonical) : c.err = 0 ↔ c.string ≠ "" := by
  cases c with
  | path name hname => exact iff_of_true rfl hname
  | failed err herr => exact iff_of_false herr (fun h => h rfl)

theorem setter_mediaPath (h : call.setter = some .mediaPath) :
    ∃ mediaPath canonical, call = .setMediaPath mediaPath canonical := by
  cases call with
  | setMediaPath mediaPath canonical => exact ⟨mediaPath,canonical,rfl⟩
  | _ => cases h

theorem setter_render (h : call.setter = some .render) :
    ∃ uid outputPath, call = .setRender uid outputPath := by
  cases call with
  | setRender uid outputPath => exact ⟨uid,outputPath,rfl⟩
  | _ => cases h

theorem setter_request (h : call.setter = some .request) :
    ∃ request, call = .registerPlugin request := by
  cases call with
  | registerPlugin request => exact ⟨request,rfl⟩
  | _ => cases h

theorem setters_suffice_iff (history : List SessionCall) :
    SettersSuffice history ↔ ((∀ k, Succeeded k history) → Resolved history) := by
  constructor
  · rintro ⟨hstarts,-⟩ hall mediaPath canonical result hlast
    obtain ⟨call,hcall⟩ := hall .mediaPath
    obtain ⟨rfl,-⟩ := Prod.mk.inj (Option.some.inj (hcall.symm.trans hlast))
    obtain ⟨-,-,hstring⟩ := (succeeded_sets hcall).2
    have hpass := hstarts hall (fun _ => .error .other) (.ok ())
    obtain ⟨-,hmedia,-⟩ := (fieldChecks_ok_iff _).mp hpass
    exact .inl (canonical.err_eq_zero_iff.mpr (hstring ▸ hmedia))
  · intro hresolved
    refine ⟨fun hall frameExtractor thread => ?_,fun call fault he => ((replied _ _).kept he).2⟩
    have hmedia : (after history).config.mediaPath ≠ "" := by
      obtain ⟨call,hcall⟩ := hall .mediaPath
      obtain ⟨hsetter,hsets⟩ := succeeded_sets hcall
      obtain ⟨mediaPath,canonical,rfl⟩ := setter_mediaPath hsetter
      obtain ⟨hinval,hnoent,hstring⟩ := hsets
      rcases hresolved hall mediaPath canonical _ hcall with hzero | hinval' | hnoent'
      · exact hstring ▸ canonical.err_eq_zero_iff.mp hzero
      · exact absurd hinval' hinval
      · exact absurd hnoent' hnoent
    have hrender : (after history).config.renderUid ≠ "" ∧
        (after history).config.outputFilePath ≠ "" := by
      obtain ⟨call,hcall⟩ := hall .render
      obtain ⟨hsetter,hsets⟩ := succeeded_sets hcall
      obtain ⟨uid,outputPath,rfl⟩ := setter_render hsetter
      exact hsets
    have hlogic : (after history).config.logicAnalyzer.isSome = true := by
      obtain ⟨call,hcall⟩ := hall .request
      obtain ⟨hsetter,hsets⟩ := succeeded_sets hcall
      obtain ⟨request,rfl⟩ := setter_request hsetter
      exact hsets
    refine (fieldChecks_ok_iff _).mpr ⟨?_,hmedia,hrender⟩
    exact Option.isSome_map.trans hlogic

end History

section Sample

def faceDetect : LoadedPlugin :=
  ⟨⟨.videoDetect⟩,.rect,fun _ => .error .other,fun _ => .ok (),fun _ => .ok ()⟩

def ffmpegRender : LoadedPlugin :=
  ⟨⟨.render⟩,.none,fun _ => .error .other,fun _ => .ok (),fun _ => .ok ()⟩

def preparedSession : List SessionCall :=
  [.setRender "FFmpegRender.2" "output.mp4",.registerPlugin ["FaceDetect.1"],
    .appendPlugin "FFmpegRender" 1 (.ok ffmpegRender),
    .appendPlugin "FaceDetect" 0 (.ok faceDetect)]

-- `canonical` answers EACCES, which is 13, for a directory that may not be searched
def unreadableMedia : List SessionCall :=
  .setMediaPath "private/input.mp4" (.failed 13 (by decide)) :: preparedSession

theorem unreadableMedia_not_started : ¬ SettersSuffice unreadableMedia := by
  rintro ⟨hstarts,-⟩
  have hall : ∀ k, Succeeded k unreadableMedia := by
    intro k
    cases k with
    | mediaPath => exact ⟨_,rfl⟩
    | render => exact ⟨_,rfl⟩
    | request => exact ⟨_,rfl⟩
  have hpass := hstarts hall (fun _ => .ok ⟨true,false⟩) (.ok ())
  cases hpass

end Sample

end Ovi
