import Ovi.Library.Programs
import Ovi.Session.Api
import Ovi.Session.PluginUids
import Ovi.Tools.CmdParser

namespace Ovi
open Programs

structure ToolArgs where
  inputPath : String
  skipVideoFrames : Int
  render : PluginInfo
  linkedPlugins : List PluginInfo

-- the loop of `main` ends when `stopFlag` is set, by the state callback or at the terminal, behind
-- the tasks that have completed; or the process dies of a task's exception; or it never ends
inductive Waiting where
  | stopped (completions : List ErrorCode)
  | terminated
  | endless

-- what the tool meets outside of it; no exception carries the code of success
structure ToolHost where
  canonical : String → Canonical
  load : String → Except Exn LoadedPlugin
  loadError : ∀ name, load name ≠ .error (.ovi oviErrorNone)
  frameExtractor : String → Except Exn MediaInfo
  thread : Except Exn Unit
  waiting : Waiting

inductive ToolFault where
  | error (what : String)
  -- what the client interface lets through
  | escaped (e : Exn)
  | undefined
  -- `std::terminate`
  | terminated
  -- no fault of the tool, but no end of it either
  | endless
deriving DecidableEq, Repr

-- the stack is unwound for an exception only
def ToolFault.unwinds : ToolFault → Bool
  | .error _ | .escaped _ => true
  | .undefined | .terminated | .endless => false

abbrev OviAnswer := Except Fault ErrorCode

structure ToolRun where
  session : Option SessionObject
  sNum : Nat
  calls : List (OviCall × OviAnswer)

abbrev ToolProgram := EStateM ToolFault ToolRun

namespace SessionManager

def created : OviCall × OviAnswer := (.create,oviSessionCreate.1)

def create : ToolProgram Unit := fun run =>
  .ok () { run with session := oviSessionCreate.2,calls := run.calls ++ [created] }

def answered (c : OviCall) (run : ToolRun) : ToolRun :=
  { run with
    session := (c.invoke run.session).2
    calls := run.calls ++ [(c,(c.invoke run.session).1)] }

-- `THROW_IF_FAILED`
def perform (c : OviCall) (what : String) : ToolProgram Unit := fun run =>
  let answer := (c.invoke run.session).1
  let run := answered c run
  match answer with
  | .ok error => if error == oviErrorNone then .ok () run else .error (.error what) run
  | .error (.raised e) => .error (.escaped e) run
  | .error .undefined => .error .undefined run

def raise {α : Type} (what : String) : ToolProgram α := throw (.error what)

def raiseIf (p : Bool) (what : String) : ToolProgram Unit := if p then raise what else pure ()

-- the uid that comes with the answer; the number of a failed load is not needed, since the run ends
def addPlugin (host : ToolHost) (name : String) : ToolProgram String := do
  let run ← get
  perform (.addPlugin (some name) run.sNum (host.load name)) "failed to ovi_session_add_plugin()"
  modify fun run => { run with sNum := run.sNum + 1 }
  pure (makeId name (run.sNum + 1))

def outputPathOf (attrs : AttrMap) : ToolProgram String :=
  attrs.toList.foldlM (fun _ entry =>
    if entry.1 != "path" then raise "Unsupported parameter" else pure entry.2) ""

def setRender (host : ToolHost) (plugin : PluginInfo) : ToolProgram Unit := do
  raiseIf plugin.name.isEmpty "No render"
  let outputPath ← outputPathOf plugin.attrs
  raiseIf outputPath.isEmpty "No output path of render"
  let uid ← addPlugin host plugin.name
  perform (.setRender (some uid) (some outputPath)) "failed to ovi_session_set_render()"

def setSkipVideoFrames (skipVideoFrames : Int) : ToolProgram Unit :=
  if skipVideoFrames > 0 then
    perform (.setSkipVideoFrames skipVideoFrames.toNat)
      "failed to ovi_session_set_skip_video_frames()"
  else pure ()

def operatorMap : List (String × String) :=
  [("&",oviOpAnd),("|",oviOpOr),(":",oviOpColon),("~",oviOpUncut)]

def setAttribute (uid : String) (entry : String × String) : ToolProgram Unit :=
  perform (.setPluginAttribute (some uid) [entry.1,entry.2])
    "failed to ovi_session_set_plugin_attribute()"

def addLinked (host : ToolHost) (plugin : PluginInfo) : ToolProgram String :=
  match operatorMap.lookup plugin.name with
  | some operator => pure operator
  | none => do
    let uid ← addPlugin host plugin.name
    plugin.attrs.toList.forM (setAttribute uid)
    pure uid

def addPlugins (host : ToolHost) (linkedPlugins : List PluginInfo) : ToolProgram (List String) :=
  linkedPlugins.mapM (addLinked host)

def linkPlugins (pluginsToLink : List String) : ToolProgram Unit :=
  perform (.linkPluginsWithList (pluginsToLink.map some))
    "failed to ovi_session_link_plugins_with_list()"

def setup (host : ToolHost) (parser : ToolArgs) : ToolProgram Unit := do
  create
  perform (.setErrorCb (some 0) 0) "failed to ovi_session_set_error_cb()"
  perform (.setProgressCb (some 1) 0) "failed to ovi_session_set_progress_cb()"
  perform (.setStateChangedCb (some 2) 0) "failed to ovi_session_set_state_changed_cb()"
  raiseIf parser.inputPath.isEmpty "No input media path"
  perform (.setMediaPath (some parser.inputPath) (host.canonical parser.inputPath))
    "failed to ovi_session_set_media_path()"
  setRender host parser.render
  setSkipVideoFrames parser.skipVideoFrames
  raiseIf parser.linkedPlugins.isEmpty "No plugin to run"
  let pluginsToLink ← addPlugins host parser.linkedPlugins
  linkPlugins pluginsToLink

-- the answer of `ovi_session_destroy` is not looked at
def destroy : ToolProgram Unit := fun run => .ok () (answered .destroy run)

def start (host : ToolHost) : ToolProgram Unit :=
  perform (.start host.frameExtractor host.thread) "failed to ovi_session_start()"

end SessionManager

namespace OviCall

def configures : OviCall → Bool
  | .setErrorCb .. | .setProgressCb .. | .setStateChangedCb .. => true
  | .addPlugin .. | .setPluginAttribute .. | .linkPluginsWithList _ => true
  | .setRender .. | .setMediaPath .. | .setSkipVideoFrames _ => true
  | _ => false

end OviCall

section Calls

open SessionManager

variable {host : ToolHost} {parser : ToolArgs} {run run' : ToolRun} {c : OviCall} {what : String}
  {calls : List (OviCall × OviAnswer)}

def Configured (calls : List (OviCall × OviAnswer)) : Prop :=
  ∃ body, calls = created :: body ∧
    ∀ entry ∈ body, entry.1.configures = true ∧ entry.2 = .ok oviErrorNone

structure Configuring (run : ToolRun) : Prop where
  session : run.session.isSome = true
  calls : Configured run.calls

structure Stopped (run : ToolRun) : Prop where
  session : run.session.isSome = true
  calls : ∃ before last, Configured before ∧ last.length ≤ 1 ∧
    (∀ entry ∈ last, entry.1.configures = true ∧ entry.2 ≠ .ok oviErrorNone) ∧
    run.calls = before ++ last

def Called (fault : ToolFault) : Prop := fault = .undefined ∨ fault.unwinds = true

theorem Configuring.stopped (h : Configuring run) : Stopped run :=
  ⟨h.session,run.calls,[],h.calls,by decide,List.forall_mem_nil _,(List.append_nil _).symm⟩

theorem wp_perform {Q : Unit → ToolRun → Prop} {E : ToolFault → ToolRun → Prop}
    (hok : (c.invoke run.session).1 = .ok oviErrorNone → Q () (answered c run))
    (herror : (c.invoke run.session).1 ≠ .ok oviErrorNone → ∀ fault, Called fault →
      E fault (answered c run)) :
    wp (perform c what) Q E run := by
  rw [wp,perform]
  cases hanswer : (c.invoke run.session).1 with
  | ok error =>
    by_cases hnone : error = oviErrorNone
    · subst hnone
      exact hok hanswer
    · simp only [beq_iff_eq,if_neg hnone]
      exact herror (fun he => hnone (Except.ok.inj (hanswer.symm.trans he))) _ (.inr rfl)
  | error fault =>
    have hne : (c.invoke run.session).1 ≠ .ok oviErrorNone := fun he => by
      cases hanswer.symm.trans he
    cases fault with
    | raised e => exact herror hne _ (.inr rfl)
    | undefined => exact herror hne _ (.inl rfl)

def destroyed : OviCall × OviAnswer := (.destroy,.ok oviErrorNone)

def ToolHost.startCall (host : ToolHost) : OviCall := .start host.frameExtractor host.thread

structure GaveBack (host : ToolHost) (run : ToolRun) : Prop where
  session : run.session = none
  calls : ∃ before last, Configured before ∧ last.length ≤ 1 ∧
    (∀ entry ∈ last, (entry.1.configures = true ∨ entry.1 = host.startCall) ∧
      entry.2 ≠ .ok oviErrorNone) ∧ run.calls = before ++ last ++ [destroyed]

structure Waits (host : ToolHost) (fault : ToolFault) (run : ToolRun) : Prop where
  waiting : host.waiting = .terminated ∧ fault = .terminated ∨
    host.waiting = .endless ∧ fault = .endless
  session : run.session.isSome = true
  calls : ∃ before, Configured before ∧
    run.calls = before ++ [(host.startCall,.ok oviErrorNone)]

def Failed (host : ToolHost) (fault : ToolFault) (run : ToolRun) : Prop :=
  fault = .undefined ∨ fault.unwinds = true ∧ GaveBack host run ∨ Waits host fault run

end Calls

end Ovi
