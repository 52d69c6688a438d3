import Ovi.Logic.LogicAnalyzer
import Ovi.Render.Printf
import Mathlib.Algebra.Group.Nat.Defs
import Mathlib.Logic.Function.Basic

namespace Ovi

def intMax : Nat := 2147483647

structure Managers where
  sNum : Nat
  managers : Nat → PluginManager

-- `loaded` is what `PluginLoader` gives for the name
structure LoadCall where
  manager : Nat
  name : String
  loaded : Except Exn Plugin

def reservedUids : List String :=
  ["",oviOpAnd,oviOpOr,oviOpColon,oviOpUncut,oviEop,oviEopp]

namespace Managers

def initial : Managers := ⟨0,fun _ => PluginManager.empty⟩

-- one more than the largest `int` is undefined
def makeUid (ms : Managers) (name : String) : Option (String × Managers) :=
  if ms.sNum < intMax then some (makeId name (ms.sNum + 1),{ ms with sNum := ms.sNum + 1 })
  else none

def insert (ms : Managers) (c : LoadCall) (plugin : Plugin) : Managers where
  sNum := ms.sNum + 1
  managers := Function.update ms.managers c.manager
    ((ms.managers c.manager).load ms.sNum c.name plugin)

-- the uid that is made comes with what the caller gets, and a failed load keeps the number
def load (ms : Managers) (c : LoadCall) : Option (String × Except Exn String × Managers) :=
  (ms.makeUid c.name).map fun (uid,ms') =>
    match c.loaded with
    | .error e => (uid,.error e,ms')
    | .ok plugin => (uid,.ok uid,ms.insert c plugin)

def loads (ms : Managers) : List LoadCall → Option (List String × Managers)
  | [] => some ([],ms)
  | c :: calls =>
    match ms.load c with
    | none => none
    | some (uid,_,ms') => (ms'.loads calls).map fun (uids,ms'') => (uid :: uids,ms'')

def find (ms : Managers) (m : Nat) (uid : String) : Option Plugin := (ms.managers m).find uid

end Managers

section Labels

variable {name name' uid : String} {num num' : Nat}

theorem suffix_inj {α : Type} {d : α} {xs ys a b : List α} (ha : d ∉ a) (hb : d ∉ b)
    (h : xs ++ d :: a = ys ++ d :: b) : a = b := by
  rcases List.append_eq_append_iff.mp h with ⟨c,-,hc⟩ | ⟨c,-,hc⟩
  · cases c with
    | nil => exact (List.cons.inj hc).2
    | cons x c => exact absurd ((List.cons.inj hc).2 ▸ by simp) ha
  · cases c with
    | nil => exact (List.cons.inj hc).2.symm
    | cons x c => exact absurd ((List.cons.inj hc).2 ▸ by simp) hb

theorem dot_not_mem_toString (num : Nat) : '.' ∉ (toString num).toList := by
  intro h
  rw [toList_nat] at h
  exact absurd (Nat.isDigit_of_mem_toDigits (by decide) (by decide) h) (by decide)

theorem makeId_inj (h : makeId name num = makeId name' num') : num = num' := by
  have hlist : name.toList ++ '.' :: (toString num).toList =
      name'.toList ++ '.' :: (toString num').toList := by
    have := congrArg String.toList h
    simpa [makeId] using this
  apply toString_inj
  rw [← String.toList_inj]
  exact suffix_inj (dot_not_mem_toString num) (dot_not_mem_toString num') hlist

theorem makeId_not_reserved (name : String) (num : Nat) : makeId name num ∉ reservedUids := by
  intro h
  have hdot : ∀ s ∈ reservedUids, '.' ∉ s.toList := by decide
  exact hdot _ h (dot_mem_makeId name num)

end Labels

section Steps

variable {ms ms' : Managers} {c : LoadCall} {uid : String} {r : Except Exn String}

def Managers.Issued (ms : Managers) : Prop :=
  ∀ m uid, (ms.find m uid).isSome = true → ∃ name, ∃ num ≤ ms.sNum, uid = makeId name num

theorem load_defined (h : ms.sNum < intMax) : ∃ r ms', ms.load c =
    some (makeId c.name (ms.sNum + 1),r,ms') ∧ ms'.sNum = ms.sNum + 1 := by
  rw [Managers.load,Managers.makeUid,if_pos h]
  cases c.loaded with
  | error e => exact ⟨_,_,rfl,rfl⟩
  | ok plugin => exact ⟨_,_,rfl,rfl⟩

theorem load_loaded {plugin : Plugin} (h : ms.sNum < intMax) (hp : c.loaded = .ok plugin) :
    ms.load c = some (makeId c.name (ms.sNum + 1),.ok (makeId c.name (ms.sNum + 1)),
      ms.insert c plugin) := by
  rw [Managers.load,Managers.makeUid,if_pos h,hp]
  rfl

theorem load_failed {e : Exn} (h : ms.sNum < intMax) (he : c.loaded = .error e) :
    ms.load c = some (makeId c.name (ms.sNum + 1),.error e,{ ms with sNum := ms.sNum + 1 }) := by
  rw [Managers.load,Managers.makeUid,if_pos h,he]
  rfl

theorem find_load (pm : PluginManager) (sNum : Nat) (name uid : String) (plugin : Plugin)
    (hnew : pm.find (makeId name (sNum + 1)) = none) :
    (pm.load sNum name plugin).find uid =
      if uid = makeId name (sNum + 1) then some plugin else pm.find uid := by
  have habsent : makeId name (sNum + 1) ∉ pm.loadedPlugins := by
    rw [← Std.TreeMap.isSome_getElem?_iff_mem]
    exact fun h => Bool.noConfusion ((congrArg Option.isSome hnew).symm.trans h)
  rw [PluginManager.find,PluginManager.load,Std.TreeMap.getElem?_insertIfNew]
  by_cases huid : uid = makeId name (sNum + 1)
  · rw [if_pos huid,if_pos ⟨by simpa using huid.symm,habsent⟩]
  · rw [if_neg huid,if_neg]
    · rfl
    · rintro ⟨h,-⟩
      exact huid (by simpa using h : makeId name (sNum + 1) = uid).symm

theorem Managers.Issued.fresh (h : ms.Issued) (name : String) (m : Nat) :
    ms.find m (makeId name (ms.sNum + 1)) = none := by
  rw [← Option.not_isSome_iff_eq_none]
  intro hsome
  obtain ⟨name',num,hle,he⟩ := h m _ hsome
  have := makeId_inj he
  omega

theorem managers_insert (plugin : Plugin) : (ms.insert c plugin).managers =
    Function.update ms.managers c.manager
      ((ms.managers c.manager).load ms.sNum c.name plugin) := rfl

theorem find_insert (plugin : Plugin) (hi : ms.Issued) (m : Nat) (uid : String) :
    (ms.insert c plugin).find m uid =
      if m = c.manager ∧ uid = makeId c.name (ms.sNum + 1) then some plugin
      else ms.find m uid := by
  rw [Managers.find,managers_insert]
  by_cases hm : m = c.manager
  · rw [hm,Function.update_self,find_load _ _ _ _ _ (hi.fresh c.name c.manager)]
    by_cases huid : uid = makeId c.name (ms.sNum + 1)
    · rw [if_pos huid,if_pos ⟨rfl,huid⟩]
    · rw [if_neg huid,if_neg fun h => huid h.2]
      rfl
  · rw [Function.update_of_ne hm,if_neg fun h => hm h.1]
    rfl

theorem load_lt (h : ms.load c = some (uid,r,ms')) : ms.sNum < intMax := by
  by_contra hno
  rw [Managers.load,Managers.makeUid,if_neg hno] at h
  cases h

theorem load_uid (h : ms.load c = some (uid,r,ms')) :
    uid = makeId c.name (ms.sNum + 1) ∧ ms'.sNum = ms.sNum + 1 := by
  obtain ⟨r₁,ms₁,h₁,hnum⟩ := load_defined (c := c) (load_lt h)
  obtain ⟨huid,hrest⟩ := Prod.mk.inj (Option.some.inj (h.symm.trans h₁))
  exact ⟨huid,(congrArg Managers.sNum (Prod.mk.inj hrest).2).trans hnum⟩

theorem load_issued (hi : ms.Issued) (h : ms.load c = some (uid,r,ms')) : ms'.Issued := by
  have hlt := load_lt h
  have hnum := (load_uid h).2
  have hkept : ∀ m uid', (ms.find m uid').isSome = true →
      ∃ name, ∃ num ≤ ms'.sNum, uid' = makeId name num := by
    intro m uid' hsome
    obtain ⟨name,num,hle,he⟩ := hi m uid' hsome
    exact ⟨name,num,by omega,he⟩
  cases hc : c.loaded with
  | error e =>
    obtain ⟨-,hrest⟩ := Prod.mk.inj (Option.some.inj ((load_failed hlt hc).symm.trans h))
    obtain rfl := (Prod.mk.inj hrest).2
    exact hkept
  | ok plugin =>
    obtain ⟨-,hrest⟩ := Prod.mk.inj (Option.some.inj ((load_loaded hlt hc).symm.trans h))
    obtain rfl := (Prod.mk.inj hrest).2
    intro m uid' hsome
    rw [find_insert plugin hi] at hsome
    by_cases hnew : m = c.manager ∧ uid' = makeId c.name (ms.sNum + 1)
    · exact ⟨c.name,ms.sNum + 1,hnum.ge,hnew.2⟩
    · rw [if_neg hnew] at hsome
      exact hkept m uid' hsome

end Steps

section Runs

variable {ms ms' : Managers} {calls : List LoadCall} {uids : List String}

theorem initial_issued : Managers.initial.Issued := by
  intro m uid h
  have hnone : Managers.initial.find m uid = none := Std.TreeMap.getElem?_emptyc
  rw [hnone] at h
  cases h

theorem loads_issued (hi : ms.Issued) (h : ms.loads calls = some (uids,ms')) : ms'.Issued := by
  induction calls generalizing ms uids with
  | nil =>
    obtain ⟨-,rfl⟩ := Prod.mk.inj (Option.some.inj h)
    exact hi
  | cons c calls ih =>
    rw [Managers.loads] at h
    split at h
    · cases h
    · rename_i uid r ms₁ h₁
      obtain ⟨⟨uids₂,ms₂⟩,h₂,he⟩ := Option.map_eq_some_iff.mp h
      obtain ⟨-,rfl⟩ := Prod.mk.inj he
      exact ih (load_issued hi h₁) h₂

theorem loads_defined (h : ms.sNum + calls.length ≤ intMax) : ∃ uids ms',
    ms.loads calls = some (uids,ms') ∧ ms'.sNum = ms.sNum + calls.length ∧
      uids.length = calls.length ∧ uids.Nodup ∧
      ∀ uid ∈ uids, ∃ name, ∃ num > ms.sNum, uid = makeId name num := by
  induction calls generalizing ms with
  | nil => exact ⟨[],ms,rfl,rfl,rfl,List.nodup_nil,List.forall_mem_nil _⟩
  | cons c calls ih =>
    rw [List.length_cons] at h
    obtain ⟨r,ms₁,h₁,hnum⟩ := load_defined (c := c) (by omega : ms.sNum < intMax)
    obtain ⟨uids,ms₂,h₂,hnum₂,hlen,hnodup,hlabels⟩ := @ih ms₁ (by omega)
    refine ⟨makeId c.name (ms.sNum + 1) :: uids,ms₂,?_,?_,?_,?_,?_⟩
    · rw [Managers.loads,h₁]
      simp only [h₂,Option.map_some]
    · rw [hnum₂,hnum,List.length_cons]
      omega
    · rw [List.length_cons,hlen,List.length_cons]
    · refine List.nodup_cons.mpr ⟨fun hmem => ?_,hnodup⟩
      obtain ⟨name,num,hgt,he⟩ := hlabels _ hmem
      have := makeId_inj he
      omega
    · intro uid huid
      rcases List.mem_cons.mp huid with rfl | huid
      · exact ⟨c.name,ms.sNum + 1,Nat.lt_succ_self _,rfl⟩
      · obtain ⟨name,num,hgt,he⟩ := hlabels uid huid
        exact ⟨name,num,by omega,he⟩

structure Entered (ms : Managers) (c : LoadCall) (plugin : Plugin) (uid : String)
    (ms' : Managers) : Prop where
  fresh : ∀ m, ms.find m uid = none
  found : ms'.find c.manager uid = some plugin
  other : ∀ m uid', (m,uid') ≠ (c.manager,uid) → ms'.find m uid' = ms.find m uid'

theorem load_entered {c : LoadCall} {plugin : Plugin} (hi : ms.Issued) (h : ms.sNum < intMax)
    (hp : c.loaded = .ok plugin) : ∃ uid ms', ms.load c = some (uid,.ok uid,ms') ∧
      Entered ms c plugin uid ms' := by
  refine ⟨_,_,load_loaded h hp,hi.fresh c.name,?_,?_⟩
  · rw [find_insert plugin hi,if_pos ⟨rfl,rfl⟩]
  · intro m uid' hne
    rw [find_insert plugin hi,if_neg]
    rintro ⟨rfl,rfl⟩
    exact hne rfl

theorem loads_distinct (h : calls.length < 2 ^ 31) : ∃ uids ms,
    Managers.initial.loads calls = some (uids,ms) ∧ uids.length = calls.length ∧ uids.Nodup ∧
      (∀ uid ∈ uids, uid ∉ reservedUids) ∧
      ∀ pre c post plugin, calls = pre ++ c :: post → c.loaded = .ok plugin →
        ∃ uids₁ ms₁ uid ms₂, Managers.initial.loads pre = some (uids₁,ms₁) ∧
          ms₁.load c = some (uid,.ok uid,ms₂) ∧ Entered ms₁ c plugin uid ms₂ := by
  have hmax : 2 ^ 31 = intMax + 1 := rfl
  have hsum : Managers.initial.sNum + calls.length ≤ intMax := by
    change 0 + calls.length ≤ intMax
    omega
  obtain ⟨uids,ms,hrun,-,hlen,hnodup,hlabels⟩ := loads_defined hsum
  refine ⟨uids,ms,hrun,hlen,hnodup,fun uid huid => ?_,?_⟩
  · obtain ⟨name,num,-,rfl⟩ := hlabels uid huid
    exact makeId_not_reserved name num
  · rintro pre c post plugin rfl hp
    rw [List.length_append,List.length_cons] at hsum
    obtain ⟨uids₁,ms₁,hrun₁,hnum₁,-⟩ :=
      loads_defined (by omega : Managers.initial.sNum + pre.length ≤ intMax)
    obtain ⟨uid,ms₂,hload,hentered⟩ :=
      load_entered (loads_issued initial_issued hrun₁) (by omega) hp
    exact ⟨uids₁,ms₁,uid,ms₂,hrun₁,hload,hentered⟩

def manyLoads : List LoadCall :=
  [⟨0,"Marker",.ok ⟨.videoEffect⟩⟩,⟨1,"Marker.1",.error (.ovi oviErrorInvalidOperation)⟩,
    ⟨1,"Marker",.ok ⟨.videoEffect⟩⟩,⟨0,"Marker.1",.ok ⟨.audioEffect⟩⟩]

theorem manyLoads_distinct :
    ["Marker.1","Marker.1.2","Marker.3","Marker.1.4"].Nodup ∧ ∃ uids₁ ms₁ uid ms₂,
      Managers.initial.loads (manyLoads.take 3) = some (uids₁,ms₁) ∧
        ms₁.load ⟨0,"Marker.1",.ok ⟨.audioEffect⟩⟩ = some (uid,.ok uid,ms₂) ∧
        Entered ms₁ ⟨0,"Marker.1",.ok ⟨.audioEffect⟩⟩ ⟨.audioEffect⟩ uid ms₂ := by
  obtain ⟨uids,ms,hrun,-,hnodup,-,hlast⟩ := loads_distinct (by decide : manyLoads.length < 2 ^ 31)
  obtain ⟨rfl,-⟩ := Prod.mk.inj (Option.some.inj hrun)
  exact ⟨hnodup,hlast _ _ [] _ rfl rfl⟩

end Runs

end Ovi
