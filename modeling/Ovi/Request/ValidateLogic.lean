import Ovi.Request.LinkLanguage

namespace Ovi

def isLogicalOperator (str : String) : Bool :=
  str == oviOpAnd || str == oviOpOr || str == oviOpColon

structure Scan where
  prev : String
  validateUncut : Bool
deriving DecidableEq, Repr

-- `none` is a `return false` inside the loop; `break` hands `validateUncut` to the final test
def validateLoop (pm : PluginManager) : List String → Scan → Option Bool
  | [], s => some s.validateUncut
  | str :: rest, s =>
    if isLogicalOperator str then
      if isLogicalOperator s.prev then none
      else if !s.validateUncut && str != oviOpColon then some s.validateUncut
      else validateLoop pm rest { s with prev := str }
    else if !s.prev.isEmpty && !isLogicalOperator s.prev && s.prev != oviOpUncut then none
    else if str == oviOpUncut then
      if !s.validateUncut then some s.validateUncut
      else validateLoop pm rest { prev := str, validateUncut := false }
    else
      match pm.find str with
      | none => none
      | some plugin =>
        if s.prev == oviOpColon && !isEffectType plugin then none
        else validateLoop pm rest
          { prev := str, validateUncut := s.validateUncut || isEffectType plugin }

def validateLogic (pm : PluginManager) (request : List String) : Bool :=
  match request.head?, request.getLast? with
  | some first, some last =>
    if request.length > 1000 then false
    else if isLogicalOperator first then false
    else if isLogicalOperator last || last == oviOpUncut then false
    else (validateLoop pm request { prev := "", validateUncut := true }).getD false
  | _, _ => false

end Ovi
