import Ovi.Library.BooleanChain
import Ovi.PluginManager

namespace Ovi
open BooleanChain

structure Term where
  uncut : Bool
  plugin : String
  effects : List String
deriving DecidableEq, Repr

abbrev LinkRequest := Chain Term

def linkOperator : Op → String
  | .conj => oviOpAnd
  | .disj => oviOpOr

def effectTokens (effects : List String) : List String :=
  effects.flatMap (fun effect => [oviOpColon,effect])

def Term.tokens (t : Term) : List String :=
  (if t.uncut then [oviOpUncut] else []) ++ t.plugin :: effectTokens t.effects

def LinkRequest.tokens (r : LinkRequest) : List String :=
  r.first.tokens ++ r.rest.flatMap (fun p => linkOperator p.1 :: p.2.tokens)

def PluginManager.isEffect (pm : PluginManager) (uid : String) : Bool :=
  match pm.find uid with
  | some plugin => isEffectType plugin
  | none => false

def PluginManager.isDetect (pm : PluginManager) (uid : String) : Bool :=
  match pm.find uid with
  | some plugin => isDetectType plugin
  | none => false

structure Term.WellFormed (pm : PluginManager) (t : Term) : Prop where
  plugin_loaded : pm.exist t.plugin = true
  effects_loaded : ∀ effect ∈ t.effects, pm.isEffect effect = true
  uncut_has_effect : t.uncut = true → ∃ uid ∈ t.plugin :: t.effects, pm.isEffect uid = true

def LinkLanguage (pm : PluginManager) (request : List String) : Prop :=
  1 ≤ request.length ∧ request.length ≤ 1000 ∧
    ∃ r : LinkRequest, LinkRequest.tokens r = request ∧ ∀ t ∈ r.items, t.WellFormed pm

theorem exists_find_of_exist {pm : PluginManager} {uid : String} (h : pm.exist uid = true) :
    ∃ plugin, pm.find uid = some plugin :=
  Option.isSome_iff_exists.mp (pm.find_isSome ▸ h)

theorem exist_of_find {pm : PluginManager} {uid : String} {plugin : Plugin}
    (h : pm.find uid = some plugin) : pm.exist uid = true := by
  rw [← pm.find_isSome,h]
  rfl

theorem exists_find_of_isEffect {pm : PluginManager} {uid : String} (h : pm.isEffect uid = true) :
    ∃ plugin, pm.find uid = some plugin ∧ isEffectType plugin = true := by
  unfold PluginManager.isEffect at h
  split at h
  · exact ⟨_,‹_›,h⟩
  · cases h

theorem exists_find_of_isDetect {pm : PluginManager} {uid : String} (h : pm.isDetect uid = true) :
    ∃ plugin, pm.find uid = some plugin ∧ isDetectType plugin = true := by
  unfold PluginManager.isDetect at h
  split at h
  · exact ⟨_,‹_›,h⟩
  · cases h

theorem isEffect_of_find {pm : PluginManager} {uid : String} {plugin : Plugin}
    (h : pm.find uid = some plugin) : pm.isEffect uid = isEffectType plugin := by
  simp [PluginManager.isEffect,h]

theorem not_isEffect_of_isDetect {pm : PluginManager} {uid : String} (h : pm.isDetect uid = true) :
    pm.isEffect uid = false := by
  obtain ⟨plugin,hf,hd⟩ := exists_find_of_isDetect h
  rw [isEffect_of_find hf]
  revert hd
  cases plugin with
  | mk type => cases type <;> decide

end Ovi
