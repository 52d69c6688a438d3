import Ovi.Types
import Std.Data.TreeMap.Lemmas

namespace Ovi

structure Plugin where
  type : PluginType
deriving DecidableEq, Repr

def makeId (name : String) (num : Nat) : String := name ++ "." ++ toString num

structure PluginManager where
  loadedPlugins : Std.TreeMap String Plugin
  made : ∀ uid ∈ loadedPlugins, ∃ name num, uid = makeId name num

def isEffectType (plugin : Plugin) : Bool :=
  plugin.type == .videoEffect || plugin.type == .audioEffect

def isDetectType (plugin : Plugin) : Bool :=
  plugin.type == .videoDetect || plugin.type == .audioDetect

namespace PluginManager

def empty : PluginManager where
  loadedPlugins := ∅
  made := by simp

def load (pm : PluginManager) (sNum : Nat) (name : String) (plugin : Plugin) : PluginManager where
  loadedPlugins := pm.loadedPlugins.insertIfNew (makeId name (sNum + 1)) plugin
  made := by
    intro uid huid
    rcases Std.TreeMap.mem_insertIfNew.mp huid with h | h
    · exact ⟨name,sNum + 1,(Std.LawfulEqCmp.eq_of_compare h).symm⟩
    · exact pm.made uid h

def find (pm : PluginManager) (uid : String) : Option Plugin := pm.loadedPlugins[uid]?

def exist (pm : PluginManager) (uid : String) : Bool := pm.loadedPlugins.contains uid

variable {pm : PluginManager} {uid : String}

theorem find_isSome : (pm.find uid).isSome = pm.exist uid := by
  simp [find,exist]

end PluginManager

theorem dot_mem_makeId (name : String) (num : Nat) : '.' ∈ (makeId name num).toList := by
  simp [makeId]

theorem PluginManager.ne_of_no_dot {pm : PluginManager} {uid s : String} {plugin : Plugin}
    (h : pm.find uid = some plugin) (hs : '.' ∉ s.toList) : uid ≠ s := by
  rintro rfl
  have hmem : uid ∈ pm.loadedPlugins := by
    rw [← Std.TreeMap.isSome_getElem?_iff_mem]
    exact Option.isSome_of_eq_some h
  obtain ⟨name,num,rfl⟩ := pm.made uid hmem
  exact hs (dot_mem_makeId name num)

end Ovi
