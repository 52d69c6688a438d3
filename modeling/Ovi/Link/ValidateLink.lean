import Ovi.Request.ValidateLogic
import Ovi.Flow.OutcomeCache

namespace Ovi

inductive MetaForm where
  | none
  | any
  | double
  | string
  | rect
  | rectString
deriving DecidableEq, Repr

def equalMetaForm (a b : MetaForm) : Bool := a == b || a == .any || b == .any

-- the rest of a loaded `Plugin`; a render answers `effectMetaForm` for each effect name
structure PluginData where
  metaForm : MetaForm
  attrs : AttrMap
  effectMetaForm : String → Except Exn MetaForm

structure LinkedPlugins extends PluginManager where
  data : String → PluginData

namespace LinkedPlugins

variable (pm : LinkedPlugins)

def getAttr (uid key : String) : Except Fault String :=
  match pm.find uid with
  | none => .error (.raised (.ovi oviErrorInvalidParameter))
  | some _ =>
    match (pm.data uid).attrs[key]? with
    | some value => .ok value
    | none => .error (.raised .other)

-- `iter->second` of a missing uid is undefined behaviour
def getMetaForm (uid effectName : String) : Except Fault MetaForm :=
  match pm.find uid with
  | none => .error .undefined
  | some plugin =>
    match plugin.type with
    | .videoDetect | .videoEffect | .audioDetect | .audioEffect => .ok (pm.data uid).metaForm
    | .render => ((pm.data uid).effectMetaForm effectName).mapError .raised
    | .none => .ok .none

def effectFollows (prev str : String) : Except Fault Bool :=
  if prev == oviOpColon then .ok true
  else if prev == oviOpAnd then
    match pm.find str with
    | none => .error (.raised (.ovi oviErrorInvalidParameter))
    | some plugin => .ok (isEffectType plugin)
  else .ok false

def linkAgrees (renderId detect str : String) : Except Fault Bool := do
  let effectName ← pm.getAttr str "name"
  let detectMetaForm ← pm.getMetaForm detect ""
  let effectMetaForm ← pm.getMetaForm renderId effectName
  .ok (equalMetaForm detectMetaForm effectMetaForm)

def validateLinkLoop (renderId : String) : List String → String → String → Except Fault Bool
  | [], _, _ => .ok true
  | str :: rest, prev, detect =>
    if isLogicalOperator str then validateLinkLoop renderId rest str prev
    else
      match pm.effectFollows prev str with
      | .error fault => .error fault
      | .ok false => validateLinkLoop renderId rest str detect
      | .ok true =>
        match pm.linkAgrees renderId detect str with
        | .error fault => .error fault
        | .ok false => .ok false
        | .ok true => validateLinkLoop renderId rest str detect

def validateLink (renderId : String) (expression : List String) : Except Fault Bool :=
  pm.validateLinkLoop renderId expression "" ""

end LinkedPlugins

end Ovi
