import Ovi.Types
import Mathlib.Logic.Function.Basic

namespace Ovi

inductive PyItem where
  | tuple (x y w h : Int)
  | bool (b : Bool)
  | other

-- for an audio frame the tuple ends in a level
inductive PyValue where
  | detections (detect : Int) (list : List PyItem)
  | level (detect : Int) (db : ℚ)
  | other

def PyItem.details : PyItem → Option DetailsItem
  | .tuple x y w h => some (.rect x y w h)
  | .bool b => some (.bool b)
  | .other => none

def PyValue.outcome : PyValue → Outcome
  | .detections detect list => ⟨detect != 0,list.filterMap PyItem.details⟩
  | .level detect db => ⟨detect != 0,[.double db]⟩
  | .other => ⟨false,[]⟩

-- a plugin module keeps its attributes in its globals, and `setAttrs` sets all of them; the number
-- it answers is given as the `int` it is cast to. Either function may be missing. A module that
-- cannot be imported and a call that raises are left out: `PyObject_CallObject` gives a null
-- pointer then, and the process ends on it
structure PyModule (G : Type) where
  imported : G
  setAttrs : Option (AttrMap → Int × G)
  process : Option (G → FramePack → PyValue)

structure AudioDetector where
  threshold : ℚ
  inverse : Bool
deriving DecidableEq, Repr

def audioDetect (float : String → ℚ) (toDecibel : FramePack → ℚ) : PyModule AudioDetector where
  imported := ⟨60,false⟩
  setAttrs := some fun attrs =>
    (0,⟨float (attrs.getD "threshold" "60.0"),attrs.getD "inverse" "0" == "1"⟩)
  process := some fun ad frame =>
    let db := toDecibel frame
    let res := decide (ad.threshold < db)
    .level (if ad.inverse then !res else res).toInt db

inductive QueueData where
  | info (moduleName : String)
  | create (key : Nat) (moduleName : String)
  | remove (key : Nat)
  | attrs (key : Nat) (attrs : AttrMap)
  | proc (key : Nat) (frame : FramePack)

inductive ResponseData where
  | outcome (o : Outcome)
  | bool (b : Bool)
deriving DecidableEq, Repr

structure PyManager (G : Type) where
  key : Nat
  req : List QueueData
  modules : Nat → Option String
  globals : String → G
  responses : List ResponseData
  -- the requests taken from the queue, the last one first
  served : List QueueData

inductive PyAction where
  | getPluginInfo (moduleName : String)
  | create (moduleName : String)
  | remove (key : Nat)
  | setAttributes (key : Nat) (attrs : AttrMap)
  | process (key : Nat) (frame : FramePack)
  | work

namespace PyManager

variable {G : Type} (python : String → PyModule G)

def make : PyManager G where
  key := 0
  req := []
  modules := fun _ => none
  globals := fun name => (python name).imported
  responses := []
  served := []

def push (m : PyManager G) (data : QueueData) : PyManager G := { m with req := m.req ++ [data] }

def respond (m : PyManager G) (response : ResponseData) : PyManager G :=
  { m with responses := m.responses ++ [response] }

def create (m : PyManager G) (moduleName : String) : Nat × PyManager G :=
  (m.key + 1,{ m with key := m.key + 1 }.push (.create (m.key + 1) moduleName))

-- `std::map::insert` leaves a key that is there as it is
def pyCreate (m : PyManager G) (key : Nat) (moduleName : String) : PyManager G :=
  match m.modules key with
  | some _ => m
  | none => { m with modules := Function.update m.modules key (some moduleName) }

def pyDelete (m : PyManager G) (key : Nat) : PyManager G :=
  { m with modules := Function.update m.modules key none }

def pySetAttrs (m : PyManager G) (key : Nat) (attrs : AttrMap) : PyManager G :=
  match m.modules key with
  | none => m.respond (.bool false)
  | some name =>
    match (python name).setAttrs with
    | none => m.respond (.bool false)
    | some setAttrs =>
      let (res,g) := setAttrs attrs
      { m with globals := Function.update m.globals name g }.respond (.bool (res == 0))

def pyProcess (m : PyManager G) (key : Nat) (frame : FramePack) : PyManager G :=
  match m.modules key with
  | none => m.respond (.outcome ⟨false,[]⟩)
  | some name =>
    match (python name).process with
    | none => m.respond (.outcome ⟨false,[]⟩)
    | some process => m.respond (.outcome (process (m.globals name) frame).outcome)

def serve (m : PyManager G) : QueueData → PyManager G
  | .info _ => m
  | .create key moduleName => m.pyCreate key moduleName
  | .remove key => m.pyDelete key
  | .attrs key attrs => m.pySetAttrs python key attrs
  | .proc key frame => m.pyProcess python key frame

def took (m : PyManager G) (data : QueueData) : PyManager G :=
  { m with served := data :: m.served }

def work (m : PyManager G) : PyManager G :=
  match m.req with
  | [] => m
  | data :: req => ({ m with req := req }.took data).serve python data

def step (m : PyManager G) : PyAction → PyManager G
  | .getPluginInfo moduleName => m.push (.info moduleName)
  | .create moduleName => (m.create moduleName).2
  | .remove key => m.push (.remove key)
  | .setAttributes key attrs => m.push (.attrs key attrs)
  | .process key frame => m.push (.proc key frame)
  | .work => m.work python

def run (actions : List PyAction) : PyManager G := actions.foldl (step python) (make python)

end PyManager

def boundModule : List QueueData → Nat → Option String
  | [], _ => none
  | .create key moduleName :: served, k =>
    if k = key then (boundModule served k).or (some moduleName) else boundModule served k
  | .remove key :: served, k => if k = key then none else boundModule served k
  | _ :: served, k => boundModule served k

def lastAttrs (sel : Nat → String → Bool) : List QueueData → Option AttrMap
  | [] => none
  | .attrs key attrs :: served =>
    if (boundModule served key).any (sel key) then some attrs else lastAttrs sel served
  | _ :: served => lastAttrs sel served

def lastSetOn (k : Nat) : List QueueData → Option AttrMap := lastAttrs fun key _ => key == k

def lastSetOnModule (name : String) : List QueueData → Option AttrMap :=
  lastAttrs fun _ moduleName => moduleName == name

namespace PyModule

variable {G : Type}

def setting (p : PyModule G) : Option AttrMap → G
  | none => p.imported
  | some attrs => p.setAttrs.elim p.imported fun setAttrs => (setAttrs attrs).2

def accepts (p : PyModule G) (attrs : AttrMap) : Bool :=
  p.setAttrs.any fun setAttrs => (setAttrs attrs).1 == 0

def outcome (p : PyModule G) (g : G) (frame : FramePack) : Outcome :=
  p.process.elim ⟨false,[]⟩ fun process => (process g frame).outcome

theorem setting_missing {p : PyModule G} (h : p.setAttrs = none) (last : Option AttrMap) :
    p.setting last = p.imported := by
  cases last with
  | none => rfl
  | some attrs => rw [setting,h,Option.elim_none]

end PyModule

namespace PyManager

variable {G : Type} {python : String → PyModule G} {m m' : PyManager G}

def AttributesInForce (python : String → PyModule G) (m : PyManager G) : Prop :=
  ∀ k frame req name, m.req = .proc k frame :: req → m.modules k = some name →
    m.globals name = (python name).setting (lastSetOn k m.served)

def SameSettings (python : String → PyModule G) (m : PyManager G) : Prop :=
  ∀ k frame req name, m.req = .proc k frame :: req → boundModule m.served k = some name →
    (python name).setting (lastSetOnModule name m.served) =
      (python name).setting (lastSetOn k m.served)

structure Kept (python : String → PyModule G) (m : PyManager G) : Prop where
  modules : m.modules = boundModule m.served
  globals : ∀ name, m.globals name = (python name).setting (lastSetOnModule name m.served)

theorem kept_make : Kept python (make python) := ⟨rfl,fun _ => rfl⟩

theorem pyCreate_some {key : Nat} {name : String} (h : m.modules key = some name)
    (moduleName : String) : m.pyCreate key moduleName = m := by
  rw [pyCreate,h]

theorem pyCreate_none {key : Nat} (h : m.modules key = none) (moduleName : String) :
    m.pyCreate key moduleName =
      { m with modules := Function.update m.modules key (some moduleName) } := by
  rw [pyCreate,h]

theorem pySetAttrs_none {key : Nat} (h : m.modules key = none) (attrs : AttrMap) :
    m.pySetAttrs python key attrs = m.respond (.bool false) := by
  rw [pySetAttrs,h]

theorem pySetAttrs_some {key : Nat} {name : String} (h : m.modules key = some name)
    (hglobals : ∃ last, m.globals name = (python name).setting last) (attrs : AttrMap) :
    m.pySetAttrs python key attrs =
      { m with
        globals := Function.update m.globals name ((python name).setting (some attrs)) }.respond
          (.bool ((python name).accepts attrs)) := by
  obtain ⟨last,hlast⟩ := hglobals
  rw [pySetAttrs,h]
  cases hset : (python name).setAttrs with
  | none =>
    rw [PyModule.setting_missing hset] at hlast
    simp only [hset,PyModule.accepts,PyModule.setting_missing hset,Option.any_none,← hlast,
      Function.update_eq_self]
  | some setAttrs =>
    simp only [hset,PyModule.accepts,PyModule.setting,Option.any_some,Option.elim_some]

theorem pyProcess_none {key : Nat} (h : m.modules key = none) (frame : FramePack) :
    m.pyProcess python key frame = m.respond (.outcome ⟨false,[]⟩) := by
  rw [pyProcess,h]

theorem pyProcess_some {key : Nat} {name : String} (h : m.modules key = some name)
    (frame : FramePack) : m.pyProcess python key frame =
      m.respond (.outcome ((python name).outcome (m.globals name) frame)) := by
  rw [pyProcess,h]
  cases hprocess : (python name).process with
  | none => simp only [hprocess,PyModule.outcome,Option.elim_none]
  | some process => simp only [hprocess,PyModule.outcome,Option.elim_some]

theorem pySetAttrs_responses (m : PyManager G) (key : Nat) (attrs : AttrMap) :
    (m.pySetAttrs python key attrs).responses = m.responses ++
      [.bool ((m.modules key).any fun name => (python name).accepts attrs)] := by
  rw [pySetAttrs]
  cases m.modules key with
  | none => rfl
  | some name =>
    rw [Option.any_some,PyModule.accepts]
    cases hset : (python name).setAttrs with
    | none => simp only [hset,respond,Option.any_none]
    | some setAttrs => simp only [hset,respond,Option.any_some]

theorem pyProcess_responses (m : PyManager G) (key : Nat) (frame : FramePack) :
    (m.pyProcess python key frame).responses = m.responses ++
      [.outcome ((m.modules key).elim ⟨false,[]⟩ fun name =>
        (python name).outcome (m.globals name) frame)] := by
  cases hkey : m.modules key with
  | none =>
    rw [pyProcess_none hkey]
    rfl
  | some name =>
    rw [pyProcess_some hkey]
    rfl

theorem boundModule_create {served : List QueueData} (key : Nat) (moduleName : String) :
    boundModule (.create key moduleName :: served) = Function.update (boundModule served) key
      ((boundModule served key).or (some moduleName)) := by
  funext k
  rw [boundModule,Function.update_apply]
  split
  · rename_i hk
    rw [hk]
  · rfl

theorem boundModule_remove {served : List QueueData} (key : Nat) :
    boundModule (.remove key :: served) = Function.update (boundModule served) key none := by
  funext k
  rw [boundModule,Function.update_apply]

theorem lastSetOnModule_unbound {served : List QueueData} {key : Nat}
    (h : boundModule served key = none) (name : String) (attrs : AttrMap) :
    lastSetOnModule name (.attrs key attrs :: served) = lastSetOnModule name served := by
  rw [lastSetOnModule,lastAttrs,h]
  rfl

theorem lastSetOnModule_bound {served : List QueueData} {key : Nat} {moduleName : String}
    (h : boundModule served key = some moduleName) (name : String) (attrs : AttrMap) :
    lastSetOnModule name (.attrs key attrs :: served) =
      if moduleName = name then some attrs else lastSetOnModule name served := by
  rw [lastSetOnModule,lastAttrs,h]
  simp only [Option.any_some,beq_iff_eq]

theorem kept_create (h : Kept python m) (key : Nat) (moduleName : String) :
    Kept python ((m.took (.create key moduleName)).pyCreate key moduleName) := by
  cases hkey : m.modules key with
  | some name =>
    rw [pyCreate_some (m := m.took _) hkey]
    refine ⟨?_,h.globals⟩
    change m.modules = boundModule (.create key moduleName :: m.served)
    rw [boundModule_create,← h.modules,hkey,Option.some_or,← hkey,Function.update_eq_self]
  | none =>
    rw [pyCreate_none (m := m.took _) hkey]
    refine ⟨?_,h.globals⟩
    change Function.update m.modules key _ = boundModule (.create key moduleName :: m.served)
    rw [boundModule_create,← h.modules,hkey,Option.none_or]

theorem kept_remove (h : Kept python m) (key : Nat) :
    Kept python ((m.took (.remove key)).pyDelete key) := by
  refine ⟨?_,h.globals⟩
  change Function.update m.modules key none = boundModule (.remove key :: m.served)
  rw [boundModule_remove,← h.modules]

theorem kept_attrs (h : Kept python m) (key : Nat) (attrs : AttrMap) :
    Kept python ((m.took (.attrs key attrs)).pySetAttrs python key attrs) := by
  have hbound : boundModule m.served key = m.modules key := by rw [h.modules]
  cases hkey : m.modules key with
  | none =>
    rw [hkey] at hbound
    rw [pySetAttrs_none (m := m.took _) hkey]
    refine ⟨h.modules,fun name => ?_⟩
    change m.globals name =
      (python name).setting (lastSetOnModule name (.attrs key attrs :: m.served))
    rw [lastSetOnModule_unbound hbound,h.globals]
  | some moduleName =>
    rw [hkey] at hbound
    rw [pySetAttrs_some (m := m.took _) hkey ⟨_,h.globals moduleName⟩]
    refine ⟨h.modules,fun name => ?_⟩
    change Function.update m.globals moduleName _ name =
      (python name).setting (lastSetOnModule name (.attrs key attrs :: m.served))
    rw [lastSetOnModule_bound hbound,Function.update_apply,h.globals]
    by_cases hname : moduleName = name
    · subst hname
      rw [if_pos rfl,if_pos rfl]
    · rw [if_neg hname,if_neg (Ne.symm hname)]

theorem kept_proc (h : Kept python m) (key : Nat) (frame : FramePack) :
    Kept python ((m.took (.proc key frame)).pyProcess python key frame) := by
  cases hkey : m.modules key with
  | none =>
    rw [pyProcess_none (m := m.took _) hkey]
    exact ⟨h.modules,h.globals⟩
  | some name =>
    rw [pyProcess_some (m := m.took _) hkey]
    exact ⟨h.modules,h.globals⟩

theorem kept_work (h : Kept python m) : Kept python (m.work python) := by
  rw [work]
  cases m.req with
  | nil => exact h
  | cons data req =>
    have hreq : Kept python { m with req := req } := ⟨h.modules,h.globals⟩
    cases data with
    | info moduleName => exact ⟨h.modules,h.globals⟩
    | create key moduleName => exact kept_create hreq key moduleName
    | remove key => exact kept_remove hreq key
    | attrs key attrs => exact kept_attrs hreq key attrs
    | proc key frame => exact kept_proc hreq key frame

theorem kept_step (h : Kept python m) (a : PyAction) : Kept python (m.step python a) := by
  cases a with
  | work => exact kept_work h
  | getPluginInfo | create | remove | setAttributes | process => exact ⟨h.modules,h.globals⟩

theorem kept_run (actions : List PyAction) : Kept python (run python actions) :=
  List.foldlRecOn actions (step python) kept_make fun _ h a _ => kept_step h a

theorem attributes_in_force_iff (python : String → PyModule G) (actions : List PyAction) :
    AttributesInForce python (run python actions) ↔ SameSettings python (run python actions) := by
  have hkept : Kept python (run python actions) := kept_run actions
  refine forall₅_congr fun k frame req name hreq => ?_
  rw [hkept.modules,hkept.globals name]

-- the second detector sets its threshold before the first one sees its frame
def twoDetectors : List PyAction :=
  [.create "audioDetect",.create "audioDetect",.setAttributes 1 {("threshold","10")},
    .setAttributes 2 {("threshold","90")},.process 1 ⟨0,0,1⟩,.work,.work,.work,.work]

theorem attributes_shared : ¬∀ (python : String → PyModule AudioDetector)
    (actions : List PyAction), AttributesInForce python (run python actions) := by
  intro h
  have h1 := h (fun _ => audioDetect (fun s => if s = "90" then 90 else 10) fun _ => 50)
    twoDetectors 1 ⟨0,0,1⟩ [] "audioDetect" (by rfl) (by rfl)
  revert h1
  decide

end PyManager

end Ovi
