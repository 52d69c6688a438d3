import Ovi.Library.RequestQueue
import Ovi.Plugins.PluginLoader
import Ovi.Python.PyManager

namespace Ovi

-- `std::variant<PluginInfo, Outcome, bool>`
inductive PyResponse where
  | info (i : PluginLoader.PluginInfo)
  | data (r : ResponseData)
deriving DecidableEq, Repr

inductive PyCall where
  | getPluginInfo (moduleName : String)
  | create (moduleName : String)
  | remove (key : Nat)
  | setAttributes (key : Nat) (attrs : AttrMap)
  | process (key : Nat) (frame : FramePack)

-- the key is drawn and the request is queued under one lock
def PyCall.enter (key : Nat) : PyCall → Nat × QueueData
  | .getPluginInfo moduleName => (key,.info moduleName)
  | .create moduleName => (key + 1,.create (key + 1) moduleName)
  | .remove key' => (key,.remove key')
  | .setAttributes key' attrs => (key,.attrs key' attrs)
  | .process key' frame => (key,.proc key' frame)

-- `create` and `remove` carry no promise
def QueueData.awaited : QueueData → Bool
  | .info _ | .attrs _ _ | .proc _ _ => true
  | .create _ _ | .remove _ => false

-- what the worker thread alone touches
structure PyInterpreter (G : Type) where
  modules : Nat → Option String
  globals : String → G

namespace PyInterpreter

variable {G : Type} (host : PluginHost) (python : String → PyModule G)

def manager (i : PyInterpreter G) (served : List QueueData) : PyManager G where
  key := 0
  req := []
  modules := i.modules
  globals := i.globals
  responses := []
  served := served

def serve (i : PyInterpreter G) (data : QueueData) : PyInterpreter G × Option PyResponse :=
  let m := (i.manager []).serve python data
  (⟨m.modules,m.globals⟩,
    match data with
    | .info moduleName => some (.info (host.pyGetPluginInfo moduleName))
    | .create _ _ | .remove _ | .attrs _ _ | .proc _ _ => m.responses.head?.map .data)

def imported : PyInterpreter G := ⟨fun _ => none,fun name => (python name).imported⟩

theorem serve_awaited (i : PyInterpreter G) (data : QueueData) :
    (i.serve host python data).2.isSome = data.awaited := by
  cases data with
  | info moduleName => rfl
  | create key moduleName =>
    rw [serve,PyManager.serve,PyManager.pyCreate]
    cases (i.manager []).modules key <;> rfl
  | remove key => rfl
  | attrs key attrs =>
    simp only [serve,PyManager.serve,PyManager.pySetAttrs_responses]
    rfl
  | proc key frame =>
    simp only [serve,PyManager.serve,PyManager.pyProcess_responses]
    rfl

end PyInterpreter

def pyService {G : Type} (host : PluginHost) (python : String → PyModule G) :
    RequestQueue.Service Nat PyCall QueueData (PyInterpreter G) PyResponse where
  enter := PyCall.enter
  serve := PyInterpreter.serve host python
  awaited := QueueData.awaited
  answered := PyInterpreter.serve_awaited host python

abbrev PyThreads (T G : Type) := RequestQueue.State T Nat QueueData (PyInterpreter G) PyResponse

def PyThreads.make {T G : Type} (python : String → PyModule G) : PyThreads T G where
  front := 0
  server := PyInterpreter.imported python
  req := []
  callers := fun _ => .free

section Answers

variable {T G : Type} [DecidableEq T] {host : PluginHost} {python : String → PyModule G}
  {x y z : PyThreads T G} {t : T} {c : PyCall} {r : PyResponse} {served : List QueueData}

open PyInterpreter

abbrev PyLabel (T : Type) := RequestQueue.Label T PyCall PyResponse

def asked (as : List (PyLabel T)) : List QueueData :=
  (RequestQueue.State.entered PyCall.enter 0 as).reverse

abbrev PyThreads.step (host : PluginHost) (python : String → PyModule G) :
    PyThreads T G → PyLabel T → Option (PyThreads T G) :=
  RequestQueue.State.step (pyService host python)

abbrev PyThreads.atomicStep (host : PluginHost) (python : String → PyModule G) :
    PyThreads T G → PyLabel T → Option (PyThreads T G) :=
  RequestQueue.State.atomicStep (pyService host python)

theorem tidy_make : RequestQueue.State.Tidy (pyService host python)
    (PyThreads.make (T := T) python) := fun _ => rfl

theorem threads_atomic (T : Type) [DecidableEq T] (host : PluginHost)
    (python : String → PyModule G) :
    RequestQueue.State.Traces (PyThreads.step host python) (PyThreads.make (T := T) python) =
      RequestQueue.State.Traces (PyThreads.atomicStep host python) (PyThreads.make python) :=
  RequestQueue.State.traces_eq _ tidy_make rfl

theorem answer_in_time {before after : List (PyLabel T)}
    (hbefore : before.foldlM (PyThreads.step host python) (PyThreads.make python) = some x)
    (ht : x.callers t = .blocked)
    (hafter : after.foldlM (PyThreads.step host python) x = some z)
    (hothers : ∀ a ∈ after, a.by ≠ some t)
    (hturns : x.req.length ≤ RequestQueue.State.works after) : ∃ r, z.callers t = .answered r :=
  RequestQueue.State.answered_in_time _ (RequestQueue.State.tidy_run _ tidy_make hbefore) ht
    hafter hothers hturns

end Answers

structure PyPlugins where
  key : Nat
  alive : Nat → Option String

namespace PyPlugins

def initial : PyPlugins := ⟨0,fun _ => none⟩

def use (p : PyPlugins) : PyCall → Option PyPlugins
  | .getPluginInfo _ => some p
  | .create moduleName =>
    some ⟨p.key + 1,Function.update p.alive (p.key + 1) (some moduleName)⟩
  | .remove key =>
    if (p.alive key).isSome then some { p with alive := Function.update p.alive key none } else none
  | .setAttributes key _ => if (p.alive key).isSome then some p else none
  | .process key _ => if (p.alive key).isSome then some p else none

def uses {T : Type} (p : PyPlugins) : List (PyLabel T) → Option PyPlugins
  | [] => some p
  | .call _ c :: as => (p.use c).bind fun p => uses p as
  | .answer _ _ :: as => uses p as
  | .work :: as => uses p as

variable {T : Type} {p p' : PyPlugins} {served : List QueueData} {c : PyCall}

end PyPlugins

section Objects

variable {T G : Type} [DecidableEq T] {host : PluginHost} {python : String → PyModule G}
  {x y z : PyThreads T G} {t : T} {p : PyPlugins} {r : PyResponse} {key : Nat} {name : String}

end Objects

section Detector

def detectorHost : PluginHost := ⟨fun _ => none,fun _ => none⟩

def detectorModule (_ : String) : PyModule AudioDetector := audioDetect (fun _ => 10) fun _ => 50

def setterFirst : List (PyLabel Bool) :=
  [.call true (.setAttributes 1 {("threshold","10")}),.call false (.create "audioDetect")]

def twoTurns : List (PyLabel Bool) := [.call false (.create "audioDetect"),.work,.work]

theorem setter_answered : ∃ x y r,
    setterFirst.foldlM (PyThreads.step detectorHost detectorModule)
      (PyThreads.make detectorModule) = some x ∧
    twoTurns.foldlM (PyThreads.step detectorHost detectorModule) x = some y ∧
    y.callers true = .answered r := by
  obtain ⟨r,hr⟩ := answer_in_time (t := true)
    (rfl : setterFirst.foldlM (PyThreads.step detectorHost detectorModule)
      (PyThreads.make detectorModule) = some _) rfl
    (rfl : twoTurns.foldlM (PyThreads.step detectorHost detectorModule) _ = some _)
    (by decide) (by decide)
  exact ⟨_,_,r,rfl,rfl,hr⟩

end Detector

end Ovi
