import Ovi.Types
import Std.Data.TreeMap.Lemmas
import Mathlib.Tactic.Common

namespace Ovi

-- `undefined` is an index out of range or a failed assertion, `raised` leaves the function
inductive Fault where
  | undefined
  | raised (e : Exn)
deriving DecidableEq, Repr

structure RawData where
  frameNumber : Int
  included : Bool
  detected : DetectedData

structure Accumulator where
  rawdata : List RawData

namespace Accumulator

def append (a : Accumulator) (frameNumber : Int) (include? : Bool) (detected : DetectedData) :
    Accumulator := ⟨a.rawdata ++ [⟨frameNumber,include?,detected⟩]⟩

def updateFrom (detected : Details) : Nat → List RawData → List RawData × Option Fault
  | _, [] => ([],none)
  | i, item :: rawdata =>
    match detected[i]? with
    | none => (item :: rawdata,some .undefined)
    | some (.bool value) =>
      let (rest,fault) := updateFrom detected (i + 1) rawdata
      ({ item with included := value } :: rest,fault)
    | some _ => (item :: rawdata,some (.raised .other))

def update (a : Accumulator) (detected : Details) : Accumulator × Option Fault :=
  let (rawdata,fault) := updateFrom detected 0 a.rawdata
  (⟨rawdata⟩,fault)

end Accumulator

structure OutcomeCache where
  storage : Std.TreeMap String Outcome
  detected : DetectedData
  resultUid : String

def defaultOutcome : Outcome := ⟨true,[]⟩

def Outcome.multiFrame (o : Outcome) : Bool :=
  match o.list with
  | .bool _ :: _ => true
  | _ => false

namespace OutcomeCache

def clear : OutcomeCache := ⟨∅,∅,""⟩

def hit (c : OutcomeCache) (uid : String) : Bool := c.storage.contains uid

def setResultUid (c : OutcomeCache) (uid : String) : OutcomeCache := { c with resultUid := uid }

def write (c : OutcomeCache) (uid : String) (outcome : Outcome) : OutcomeCache :=
  ({ c with storage := c.storage.insert uid outcome } : OutcomeCache).setResultUid uid

def empty (c : OutcomeCache) : Bool := c.storage.isEmpty || c.resultUid == ""

-- `_storage[_resultUid]` of a missing key inserts a value-initialised outcome
def result (c : OutcomeCache) : Outcome × OutcomeCache :=
  if c.empty then (defaultOutcome,c)
  else
    match c.storage[c.resultUid]? with
    | some outcome => (outcome,c)
    | none => (⟨false,[]⟩,{ c with storage := c.storage.insert c.resultUid ⟨false,[]⟩ })

def setDetected (c : OutcomeCache) (uid : String) : OutcomeCache :=
  { c.result.2 with detected := c.result.2.detected.insert uid c.result.1.list }

def findMultiFrameResult (c : OutcomeCache) : Bool :=
  c.storage.toList.any (fun item => item.2.multiFrame)

def getMultiFrameResult (c : OutcomeCache) : Except Exn Details :=
  match c.storage.toList.find? (fun item => item.2.multiFrame) with
  | some item => .ok item.2.list
  | none => .error (.ovi oviErrorInvalidOperation)

variable {c : OutcomeCache} {uid : String} {outcome : Outcome}

structure Current (c : OutcomeCache) (uid : String) (outcome : Outcome) : Prop where
  resultUid : c.resultUid = uid
  stored : c.storage[uid]? = some outcome
  genuine : uid ≠ ""

theorem Current.result (h : Current c uid outcome) : c.result = (outcome,c) := by
  have hne : c.storage.isEmpty = false := by
    rw [Std.TreeMap.isEmpty_eq_false_iff_exists_mem]
    exact ⟨uid,Std.TreeMap.isSome_getElem?_iff_mem.mp (Option.isSome_of_eq_some h.stored)⟩
  simp [OutcomeCache.result,empty,hne,h.resultUid,h.genuine,h.stored]

theorem Current.setDetected (h : Current c uid outcome) (effect : String) :
    c.setDetected effect = { c with detected := c.detected.insert effect outcome.list } := by
  simp [OutcomeCache.setDetected,h.result]

theorem current_write (hu : uid ≠ "") : Current (c.write uid outcome) uid outcome :=
  ⟨rfl,by simp [write,setResultUid],hu⟩

theorem current_setResultUid (hs : c.storage[uid]? = some outcome) (hu : uid ≠ "") :
    Current (c.setResultUid uid) uid outcome := ⟨rfl,hs,hu⟩

theorem hit_iff : c.hit uid = true ↔ ∃ outcome, c.storage[uid]? = some outcome := by
  rw [hit,← Option.isSome_iff_exists,Std.TreeMap.isSome_getElem?_eq_contains]

theorem storage_write (uid' : String) : (c.write uid outcome).storage[uid']? =
    if uid = uid' then some outcome else c.storage[uid']? := by
  simp [write,setResultUid,Std.TreeMap.getElem?_insert]

theorem stored_result (hs : c.storage[uid]? = some outcome) :
    c.result.2.storage[uid]? = some outcome := by
  unfold result
  split
  · exact hs
  · cases hr : c.storage[c.resultUid]? with
    | some other => exact hs
    | none =>
      have hne : c.resultUid ≠ uid := fun he => by
        rw [he,hs] at hr
        cases hr
      simp only [Std.TreeMap.getElem?_insert]
      rw [if_neg (by simpa using hne)]
      exact hs

theorem findMultiFrameResult_eq_false
    (h : ∀ (uid : String) (outcome : Outcome), c.storage[uid]? = some outcome →
      outcome.multiFrame = false) :
    c.findMultiFrameResult = false := by
  rw [findMultiFrameResult,List.any_eq_false]
  rintro ⟨uid,outcome⟩ hmem
  have hs := Std.TreeMap.mem_toList_iff_getElem?_eq_some.mp hmem
  simp [h uid outcome hs]

end OutcomeCache

end Ovi
