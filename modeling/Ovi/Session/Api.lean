import Ovi.Session.CallHistory

namespace Ovi

abbrev ApiReply := Except Fault ErrorCode × Option SessionObject

namespace SessionObject

variable (s : SessionObject)

def destroy : SessionReply :=
  if !s.dataFlow then (.ok (),s)
  else if s.state == .idle then (.ok (),s)
  else s.stop

-- the destructor logs what `destroy` raises and goes on
def delete : SessionReply :=
  match s.destroy with
  | (.error (.raised (.ovi _)),s) => (.ok (),s)
  | reply => reply

end SessionObject

-- `catch (const Exception& e) { return e.error(); }`
def caught : SessionReply → ApiReply
  | (.ok _,s) => (.ok oviErrorNone,some s)
  | (.error (.raised (.ovi error)),s) => (.ok error,some s)
  | (.error fault,s) => (.error fault,some s)

def uncaught : SessionReply → ApiReply
  | (.ok _,s) => (.ok oviErrorNone,some s)
  | (.error fault,s) => (.error fault,some s)

def invalidParameter (session : Option SessionObject) : ApiReply :=
  (.ok oviErrorInvalidParameter,session)

def withSession (session : Option SessionObject) (body : SessionObject → ApiReply) : ApiReply :=
  match session with
  | none => invalidParameter none
  | some s => body s

def withPointer {α : Type} (session : Option SessionObject) (pointer : Option α)
    (body : α → ApiReply) : ApiReply :=
  match pointer with
  | none => invalidParameter session
  | some a => body a

-- the pairs of a list of odd length end behind it
def insertPairs (attrs : AttrMap) : List String → Option AttrMap
  | [] => some attrs
  | [_] => none
  | key :: value :: input => insertPairs (attrs.insertIfNew key value) input

section Functions

variable (session : Option SessionObject)

def oviSessionCreate : ApiReply := (.ok oviErrorNone,some .initial)

def oviSessionSetErrorCb (callback : Option Nat) (userData : Nat) : ApiReply :=
  withSession session fun s => caught (s.setErrorCb callback userData)

def oviSessionUnsetErrorCb : ApiReply := withSession session fun s => caught s.unsetErrorCb

def oviSessionSetProgressCb (callback : Option Nat) (userData : Nat) : ApiReply :=
  withSession session fun s => caught (s.setProgressCb callback userData)

def oviSessionUnsetProgressCb : ApiReply := withSession session fun s => caught s.unsetProgressCb

def oviSessionSetStateChangedCb (callback : Option Nat) (userData : Nat) : ApiReply :=
  withSession session fun s => caught (s.setStateChangedCb callback userData)

def oviSessionUnsetStateChangedCb : ApiReply :=
  withSession session fun s => caught s.unsetStateChangedCb

def oviSessionAddPlugin (name : Option String) (sNum : Nat)
    (loaded : Except Exn LoadedPlugin) : ApiReply :=
  withSession session fun s =>
    withPointer session name fun name => caught (s.appendPlugin name sNum loaded)

-- `input` is what stands before the null pointer that ends the arguments
def oviSessionSetPluginAttribute (uid : Option String) (input : List String) : ApiReply :=
  withPointer session uid fun uid =>
    withSession session fun s =>
      match insertPairs ∅ input with
      | none => (.error .undefined,session)
      | some attrs => caught (s.setPluginAttrs uid attrs)

def oviSessionLinkPlugins (uid : Option String) (input : List String) : ApiReply :=
  withSession session fun s =>
    withPointer session uid fun uid => caught (s.registerPlugin (uid :: input))

-- a string is not made of a null pointer
def oviSessionLinkPluginsWithList (items : List (Option String)) : ApiReply :=
  withSession session fun s =>
    if items.isEmpty then invalidParameter session
    else
      match items.mapM id with
      | none => (.error .undefined,session)
      | some input => caught (s.registerPlugin input)

def oviSessionSetRender (uid outputPath : Option String) : ApiReply :=
  withSession session fun s =>
    withPointer session uid fun uid =>
      withPointer session outputPath fun outputPath => caught (s.setRender uid outputPath)

def oviSessionSetMediaPath (mediaPath : Option String) (canonical : Canonical) : ApiReply :=
  withSession session fun s =>
    match mediaPath with
    | none => (.error .undefined,session)
    | some mediaPath => caught (s.setMediaPath mediaPath canonical)

def oviSessionGetState (state : Option Unit) : ApiReply :=
  withSession session fun s => withPointer session state fun _ => (.ok oviErrorNone,some s)

def oviSessionStart (frameExtractor : String → Except Exn MediaInfo)
    (thread : Except Exn Unit) : ApiReply :=
  withSession session fun s => caught (s.start frameExtractor thread)

def oviSessionStop : ApiReply := withSession session fun s => caught s.stop

def oviSessionDestroy : ApiReply :=
  withSession session fun s =>
    match s.delete with
    | (.ok _,_) => (.ok oviErrorNone,none)
    | (.error fault,_) => (.error fault,none)

def oviSessionSetSkipVideoFrames (skipFrames : Nat) : ApiReply :=
  withSession session fun s => uncaught (s.setSkipVideoFrames skipFrames)

end Functions

inductive OviCall where
  | create
  | setErrorCb (callback : Option Nat) (userData : Nat)
  | unsetErrorCb
  | setProgressCb (callback : Option Nat) (userData : Nat)
  | unsetProgressCb
  | setStateChangedCb (callback : Option Nat) (userData : Nat)
  | unsetStateChangedCb
  | addPlugin (name : Option String) (sNum : Nat) (loaded : Except Exn LoadedPlugin)
  | setPluginAttribute (uid : Option String) (input : List String)
  | linkPlugins (uid : Option String) (input : List String)
  | linkPluginsWithList (items : List (Option String))
  | setRender (uid outputPath : Option String)
  | setMediaPath (mediaPath : Option String) (canonical : Canonical)
  | getState (state : Option Unit)
  | start (frameExtractor : String → Except Exn MediaInfo) (thread : Except Exn Unit)
  | stop
  | destroy
  | setSkipVideoFrames (skipFrames : Nat)

namespace OviCall

def invoke (session : Option SessionObject) : OviCall → ApiReply
  | .create => (oviSessionCreate.1,session)
  | .setErrorCb callback userData => oviSessionSetErrorCb session callback userData
  | .unsetErrorCb => oviSessionUnsetErrorCb session
  | .setProgressCb callback userData => oviSessionSetProgressCb session callback userData
  | .unsetProgressCb => oviSessionUnsetProgressCb session
  | .setStateChangedCb callback userData => oviSessionSetStateChangedCb session callback userData
  | .unsetStateChangedCb => oviSessionUnsetStateChangedCb session
  | .addPlugin name sNum loaded => oviSessionAddPlugin session name sNum loaded
  | .setPluginAttribute uid input => oviSessionSetPluginAttribute session uid input
  | .linkPlugins uid input => oviSessionLinkPlugins session uid input
  | .linkPluginsWithList items => oviSessionLinkPluginsWithList session items
  | .setRender uid outputPath => oviSessionSetRender session uid outputPath
  | .setMediaPath mediaPath canonical => oviSessionSetMediaPath session mediaPath canonical
  | .getState state => oviSessionGetState session state
  | .start frameExtractor thread => oviSessionStart session frameExtractor thread
  | .stop => oviSessionStop session
  | .destroy => oviSessionDestroy session
  | .setSkipVideoFrames skipFrames => oviSessionSetSkipVideoFrames session skipFrames

def sessionCall : OviCall → Option SessionCall
  | .setErrorCb callback userData => some (.setErrorCb callback userData)
  | .unsetErrorCb => some .unsetErrorCb
  | .setProgressCb callback userData => some (.setProgressCb callback userData)
  | .unsetProgressCb => some .unsetProgressCb
  | .setStateChangedCb callback userData => some (.setStateChangedCb callback userData)
  | .unsetStateChangedCb => some .unsetStateChangedCb
  | .addPlugin name sNum loaded => name.map fun name => .appendPlugin name sNum loaded
  | .setPluginAttribute uid input =>
    uid.bind fun uid => (insertPairs ∅ input).map fun attrs => .setPluginAttrs uid attrs
  | .linkPlugins uid input => uid.map fun uid => .registerPlugin (uid :: input)
  | .linkPluginsWithList items =>
    if items.isEmpty then none else (items.mapM id).map fun input => .registerPlugin input
  | .setRender uid outputPath =>
    uid.bind fun uid => outputPath.map fun outputPath => .setRender uid outputPath
  | .setMediaPath mediaPath canonical =>
    mediaPath.map fun mediaPath => .setMediaPath mediaPath canonical
  | .start frameExtractor thread => some (.start frameExtractor thread)
  | .stop => some .stop
  | .setSkipVideoFrames skipFrames => some (.setSkipVideoFrames skipFrames)
  | .create | .getState _ | .destroy => none

def destroys : OviCall → Bool
  | .destroy => true
  | _ => false

def skips : OviCall → Bool
  | .setSkipVideoFrames _ => true
  | _ => false

def sessionReply (s : SessionObject) (c : OviCall) : Option SessionReply :=
  if c.destroys then some s.delete else c.sessionCall.map s.step

end OviCall

section Translation

variable {s : SessionObject} {c : OviCall} {call : SessionCall}

def Translates (s : SessionObject) (c : OviCall) : Prop :=
  ∀ reply error, c.sessionReply s = some reply → reply.1 = .error (.raised (.ovi error)) →
    ∃ s', c.invoke (some s) = (.ok error,some s') ∧ s'.state = s.state ∧ s'.config = s.config

theorem caught_raised {reply : SessionReply} {error : ErrorCode}
    (h : reply.1 = .error (.raised (.ovi error))) : caught reply = (.ok error,some reply.2) := by
  obtain ⟨result,s⟩ := reply
  obtain rfl := h
  rfl

theorem delete_not_raised (s : SessionObject) (error : ErrorCode) :
    s.delete.1 ≠ .error (.raised (.ovi error)) := by
  rw [SessionObject.delete]
  intro h
  split at h
  · cases h
  · rename_i hreply
    exact hreply error s.destroy.2 (Prod.ext h rfl)

theorem invoke_caught (hc : c.sessionCall = some call) (hskips : c.skips = false) :
    c.invoke (some s) = caught (s.step call) := by
  cases c with
  | create | getState | destroy => cases hc
  | setSkipVideoFrames => cases hskips
  | setErrorCb | unsetErrorCb | setProgressCb | unsetProgressCb | setStateChangedCb
  | unsetStateChangedCb | start | stop =>
    obtain rfl := Option.some.inj hc
    rfl
  | addPlugin name sNum loaded =>
    obtain ⟨name,rfl,rfl⟩ := Option.map_eq_some_iff.mp hc
    rfl
  | linkPlugins uid input =>
    obtain ⟨uid,rfl,rfl⟩ := Option.map_eq_some_iff.mp hc
    rfl
  | setMediaPath mediaPath canonical =>
    obtain ⟨mediaPath,rfl,rfl⟩ := Option.map_eq_some_iff.mp hc
    rfl
  | setRender uid outputPath =>
    obtain ⟨uid,rfl,hc⟩ := Option.bind_eq_some_iff.mp hc
    obtain ⟨outputPath,rfl,rfl⟩ := Option.map_eq_some_iff.mp hc
    rfl
  | setPluginAttribute uid input =>
    obtain ⟨uid,rfl,hc⟩ := Option.bind_eq_some_iff.mp hc
    obtain ⟨attrs,hattrs,rfl⟩ := Option.map_eq_some_iff.mp hc
    simp only [OviCall.invoke,oviSessionSetPluginAttribute,withPointer,withSession,hattrs]
    rfl
  | linkPluginsWithList items =>
    rw [OviCall.sessionCall] at hc
    split at hc
    · cases hc
    · rename_i hne
      obtain ⟨input,hinput,rfl⟩ := Option.map_eq_some_iff.mp hc
      rw [OviCall.invoke,oviSessionLinkPluginsWithList,withSession,if_neg hne]
      simp only [hinput]
      rfl

theorem invoke_skips (skipFrames : Nat) :
    (OviCall.setSkipVideoFrames skipFrames).invoke (some s) =
      uncaught (s.setSkipVideoFrames skipFrames) := rfl

theorem sessionReply_some {reply : SessionReply} (h : c.sessionReply s = some reply) :
    reply = s.delete ∨ ∃ call, c.sessionCall = some call ∧ reply = s.step call := by
  rw [OviCall.sessionReply] at h
  split at h
  · exact .inl (Option.some.inj h).symm
  · obtain ⟨call,hcall,rfl⟩ := Option.map_eq_some_iff.mp h
    exact .inr ⟨call,hcall,rfl⟩

theorem translates_of_caught (hskips : c.skips = false) : Translates s c := by
  intro reply error hreply herror
  rcases sessionReply_some hreply with rfl | ⟨call,hcall,rfl⟩
  · exact absurd herror (delete_not_raised s error)
  · obtain ⟨hstate,hconfig⟩ := (SessionCall.replied s call).kept herror
    exact ⟨_,(invoke_caught hcall hskips).trans (caught_raised herror),hstate,hconfig⟩

theorem translates_skips_iff (skipFrames : Nat) :
    Translates s (.setSkipVideoFrames skipFrames) ↔ s.state = .idle := by
  by_cases hidle : s.state = .idle
  · refine iff_of_true (fun reply error hreply herror => ?_) hidle
    obtain rfl := Option.some.inj hreply
    rw [SessionObject.step,SessionObject.setSkipVideoFrames,hidle] at herror
    cases herror
  · have hraised : s.setSkipVideoFrames skipFrames = s.raise oviErrorInvalidState := by
      rw [SessionObject.setSkipVideoFrames,if_pos (by simpa using hidle)]
    refine iff_of_false (fun h => ?_) hidle
    obtain ⟨s',hinvoke,-⟩ := h _ oviErrorInvalidState rfl (congrArg Prod.fst hraised)
    rw [invoke_skips,hraised] at hinvoke
    cases hinvoke

theorem caught_session (reply : SessionReply) : (caught reply).2 = some reply.2 := by
  obtain ⟨result,s⟩ := reply
  cases result with
  | ok u => rfl
  | error fault =>
    cases fault with
    | undefined => rfl
    | raised e => cases e <;> rfl

theorem uncaught_session (reply : SessionReply) : (uncaught reply).2 = some reply.2 := by
  obtain ⟨result,s⟩ := reply
  cases result <;> rfl

theorem invoke_destroy : (OviCall.destroy.invoke (some s)).2 = none := by
  rw [OviCall.invoke,oviSessionDestroy,withSession]
  split <;> rfl

theorem invoke_called (hc : c.sessionCall = some call) :
    (c.invoke (some s)).2 = some (s.step call).2 := by
  cases hskips : c.skips with
  | false => rw [invoke_caught hc hskips,caught_session]
  | true =>
    cases c with
    | setSkipVideoFrames skipFrames =>
      obtain rfl := Option.some.inj hc
      exact uncaught_session _
    | _ => cases hskips

theorem invoke_uncalled (hc : c.sessionCall = none) (hdestroys : c.destroys = false) :
    (c.invoke (some s)).2 = some s := by
  cases c with
  | destroy => cases hdestroys
  | create => rfl
  | getState state => cases state <;> rfl
  | setErrorCb | unsetErrorCb | setProgressCb | unsetProgressCb | setStateChangedCb
  | unsetStateChangedCb | start | stop | setSkipVideoFrames => cases hc
  | addPlugin name sNum loaded =>
    obtain rfl := Option.map_eq_none_iff.mp hc
    rfl
  | linkPlugins uid input =>
    obtain rfl := Option.map_eq_none_iff.mp hc
    rfl
  | setMediaPath mediaPath canonical =>
    obtain rfl := Option.map_eq_none_iff.mp hc
    rfl
  | setRender uid outputPath =>
    cases uid with
    | none => rfl
    | some uid =>
      obtain rfl := Option.map_eq_none_iff.mp hc
      rfl
  | setPluginAttribute uid input =>
    cases uid with
    | none => rfl
    | some uid =>
      have hattrs : insertPairs ∅ input = none := Option.map_eq_none_iff.mp hc
      simp only [OviCall.invoke,oviSessionSetPluginAttribute,withPointer,withSession,hattrs]
  | linkPluginsWithList items =>
    rw [OviCall.sessionCall] at hc
    rw [OviCall.invoke,oviSessionLinkPluginsWithList,withSession]
    split
    · rfl
    · rename_i hne
      rw [if_neg hne] at hc
      simp only [Option.map_eq_none_iff.mp hc]

theorem invoke_reached {history : List SessionCall} {s' : SessionObject}
    (h : (c.invoke (some (after history))).2 = some s') :
    s' = after history ∨ ∃ call, c.sessionCall = some call ∧ s' = after (call :: history) := by
  cases hc : c.sessionCall with
  | some call =>
    rw [invoke_called hc] at h
    exact .inr ⟨call,rfl,(Option.some.inj h).symm⟩
  | none =>
    cases hdestroys : c.destroys with
    | false =>
      rw [invoke_uncalled hc hdestroys] at h
      exact .inl (Option.some.inj h).symm
    | true =>
      cases c with
      | destroy =>
        rw [invoke_destroy] at h
        cases h
      | _ => cases hdestroys

theorem translates_iff (history : List SessionCall) (c : OviCall) :
    Translates (after history) c ↔ (c.skips = true → (after history).state = .idle) := by
  cases hskips : c.skips with
  | false => exact iff_of_true (translates_of_caught hskips) (fun h => by cases h)
  | true =>
    cases c with
    | setSkipVideoFrames skipFrames =>
      rw [translates_skips_iff]
      exact ⟨fun h _ => h,fun h => h rfl⟩
    | _ => cases hskips

def analysing : List SessionCall :=
  .start (fun _ => .ok ⟨true,false⟩) (.ok ()) ::
    .setMediaPath "input.mp4" (.path "/media/input.mp4" (by decide)) :: preparedSession

theorem analysing_skips_not_translated :
    ¬ Translates (after analysing) (.setSkipVideoFrames 2) := by
  intro h
  obtain ⟨s',hinvoke,-⟩ := h _ oviErrorInvalidState rfl rfl
  cases hinvoke

end Translation

end Ovi
