import Ovi.Plugins.PluginLoader
import Mathlib.Data.List.Induction

namespace Ovi

structure LoadedPlugins where
  loader : PluginLoader
  -- each object with the manager that holds it
  objects : List (Nat × PluginObject)

inductive ManagerAction where
  | load (manager : Nat) (name : String) (now : CreateAnswers)
  | unloadAll (manager : Nat)

namespace LoadedPlugins

def step (s : LoadedPlugins) : ManagerAction → LoadedPlugins
  | .load manager name now =>
    match s.loader.load now name with
    | (.ok object,l) => ⟨l,s.objects ++ [(manager,object)]⟩
    | (.error _,l) => ⟨l,s.objects⟩
  | .unloadAll manager =>
    ⟨(s.objects.filter fun p => p.1 == manager).foldl (fun l p => l.unload p.2) s.loader,
      s.objects.filter fun p => !(p.1 == manager)⟩

def run (l : PluginLoader) (actions : List ManagerAction) : LoadedPlugins :=
  actions.foldl step ⟨l,[]⟩

def holding (path : String) (objects : List (Nat × PluginObject)) : Nat :=
  objects.countP fun p => p.2.dlHandle == some path

-- `create` leaves a library open whose `createPlugin` is missing or throws
def leaves (l : PluginLoader) (path : String) : ManagerAction → Bool
  | .load _ name now => (l.named name).any fun info => info.lang == .c &&
      info.libraryPath == path && now.opened && now.exn.isSome
  | .unloadAll _ => false

variable {l : PluginLoader} {s : LoadedPlugins} {path : String}

theorem handles_dlopen (path' : String) : (l.dlopen path').handles path =
    l.handles path + if path' = path then 1 else 0 := by
  change Function.update l.handles path' (l.handles path' + 1) path = _
  rw [Function.update_apply]
  by_cases hpath : path' = path
  · rw [if_pos hpath,if_pos hpath.symm,hpath]
  · rw [if_neg hpath,if_neg (Ne.symm hpath),Nat.add_zero]

theorem handles_dlclose (path' : String) : (l.dlclose path').handles path =
    l.handles path - if path' = path then 1 else 0 := by
  change Function.update l.handles path' (l.handles path' - 1) path = _
  rw [Function.update_apply]
  by_cases hpath : path' = path
  · rw [if_pos hpath,if_pos hpath.symm,hpath]
  · rw [if_neg hpath,if_neg (Ne.symm hpath),Nat.sub_zero]

theorem holding_cons (p : Nat × PluginObject) (objects : List (Nat × PluginObject)) :
    holding path (p :: objects) =
      (if p.2.dlHandle = some path then 1 else 0) + holding path objects := by
  rw [holding,List.countP_cons,Nat.add_comm]
  simp only [beq_iff_eq]
  rfl

theorem handles_unload (object : PluginObject) : (l.unload object).handles path =
    l.handles path - if object.dlHandle = some path then 1 else 0 := by
  rw [PluginLoader.unload]
  cases object.dlHandle with
  | none => rfl
  | some path' =>
    simp only [Option.some.injEq]
    exact handles_dlclose path'

theorem handles_unloadAll (objects : List (Nat × PluginObject)) (l : PluginLoader) :
    (objects.foldl (fun l p => l.unload p.2) l).handles path =
      l.handles path - holding path objects := by
  induction objects generalizing l with
  | nil => rfl
  | cons p objects ih => rw [List.foldl_cons,ih,handles_unload,holding_cons,Nat.sub_sub]

theorem available_unload (objects : List (Nat × PluginObject)) (l : PluginLoader) :
    (objects.foldl (fun l p => l.unload p.2) l).availablePlugins = l.availablePlugins := by
  induction objects generalizing l with
  | nil => rfl
  | cons p objects ih =>
    rw [List.foldl_cons,ih,PluginLoader.unload]
    cases p.2.dlHandle <;> rfl

structure Opened (path : String) (l l' : PluginLoader) (a : ManagerAction)
    (handle : Option String) : Prop where
  available : l'.availablePlugins = l.availablePlugins
  handles : l'.handles path = l.handles path + (if handle = some path then 1 else 0) +
    (leaves l path a).toNat

theorem load_opened (manager : Nat) (name : String) (now : CreateAnswers) :
    Opened path l (l.load now name).2 (.load manager name now)
      ((l.load now name).1.toOption.bind PluginObject.dlHandle) := by
  cases hname : l.named name with
  | none =>
    rw [PluginLoader.load_none hname]
    exact ⟨rfl,by rw [leaves,hname]; rfl⟩
  | some info =>
    have hleaves : leaves l path (.load manager name now) = (info.lang == .c &&
        info.libraryPath == path && now.opened && now.exn.isSome) := by
      rw [leaves,hname,Option.any_some]
    rw [PluginLoader.load_some hname]
    cases hlang : info.lang with
    | python =>
      rw [hlang] at hleaves
      have hobject : (PluginLoader.objectOf info).dlHandle = none := by
        rw [PluginLoader.objectOf,hlang]
        rfl
      rw [PluginLoader.create_python hlang]
      exact ⟨rfl,by simp [hleaves,hobject,Except.toOption]⟩
    | c =>
      rw [hlang] at hleaves
      have hobject : (PluginLoader.objectOf info).dlHandle = some info.libraryPath := by
        rw [PluginLoader.objectOf,hlang]
        rfl
      rw [PluginLoader.create_c hlang]
      cases hopened : now.opened with
      | false =>
        have hexn : now.exn = some (.ovi oviErrorInvalidOperation) := by
          rw [CreateAnswers.exn,hopened]
          rfl
        exact ⟨rfl,by simp [hleaves,hopened,hexn,Except.toOption]⟩
      | true =>
        refine ⟨by simp [PluginLoader.dlopen],?_⟩
        cases hexn : now.exn with
        | none => simp [hleaves,hopened,hexn,handles_dlopen,hobject,Except.toOption]
        | some e =>
          by_cases hpath : info.libraryPath = path
          · simp [hleaves,hopened,hexn,handles_dlopen,hpath,Except.toOption]
          · simp [hleaves,hopened,hexn,handles_dlopen,hpath,Except.toOption]

def Balanced (l : PluginLoader) (path : String) (actions : List ManagerAction)
    (s : LoadedPlugins) : Prop :=
  s.loader.availablePlugins = l.availablePlugins ∧
    s.loader.handles path =
      l.handles path + holding path s.objects + actions.countP (leaves l path)

theorem leaves_congr {l' : PluginLoader} (h : l'.availablePlugins = l.availablePlugins)
    (a : ManagerAction) : leaves l' path a = leaves l path a := by
  cases a with
  | load manager name now => rw [leaves,leaves,PluginLoader.named,PluginLoader.named,h]
  | unloadAll manager => rfl

theorem balanced_load {actions : List ManagerAction} (h : Balanced l path actions s)
    (manager : Nat) (name : String) (now : CreateAnswers) :
    Balanced l path (actions ++ [.load manager name now]) (s.step (.load manager name now)) := by
  have hload := @load_opened s.loader path manager name now
  have hleaves := @leaves_congr _ path _ h.1 (.load manager name now)
  have hcount : (actions ++ [ManagerAction.load manager name now]).countP (leaves l path) =
      actions.countP (leaves l path) + (leaves l path (.load manager name now)).toNat := by
    rw [List.countP_append,List.countP_singleton]
    cases leaves l path (.load manager name now) <;> rfl
  rw [step,Balanced,hcount,← hleaves]
  revert hload
  cases s.loader.load now name with
  | mk result l' =>
    intro hload
    cases result with
    | error e =>
      refine ⟨hload.available.trans h.1,hload.handles.trans ?_⟩
      rw [h.2]
      change l.handles path + holding path s.objects + _ + 0 + _ =
        l.handles path + holding path s.objects + (_ + _)
      rw [Nat.add_zero,Nat.add_assoc]
    | ok object =>
      refine ⟨hload.available.trans h.1,hload.handles.trans ?_⟩
      have hheld : holding path (s.objects ++ [(manager,object)]) =
          holding path s.objects + if object.dlHandle = some path then 1 else 0 := by
        rw [holding,List.countP_append]
        exact congrArg (_ + ·) (holding_cons (manager,object) [])
      change s.loader.handles path + (if object.dlHandle = some path then 1 else 0) + _ =
        l.handles path + holding path (s.objects ++ [(manager,object)]) + _
      rw [h.2,hheld]
      omega

theorem balanced_unloadAll {actions : List ManagerAction} (h : Balanced l path actions s)
    (manager : Nat) :
    Balanced l path (actions ++ [.unloadAll manager]) (s.step (.unloadAll manager)) := by
  have hcount : (actions ++ [ManagerAction.unloadAll manager]).countP (leaves l path) =
      actions.countP (leaves l path) := by
    rw [List.countP_append]
    rfl
  have hsplit : holding path s.objects =
      holding path (s.objects.filter fun p => p.1 == manager) +
        holding path (s.objects.filter fun p => !(p.1 == manager)) :=
    List.countP_eq_countP_filter_add _ _ _
  refine ⟨(available_unload _ _).trans h.1,(handles_unloadAll _ _).trans ?_⟩
  rw [hcount,h.2,hsplit]
  change _ = l.handles path + holding path (s.objects.filter fun p => !(p.1 == manager)) + _
  omega

theorem balanced_run (l : PluginLoader) (path : String) (actions : List ManagerAction) :
    Balanced l path actions (run l actions) := by
  induction actions using List.reverseRecOn with
  | nil => exact ⟨rfl,rfl⟩
  | append_singleton actions a ih =>
    rw [run,List.foldl_append]
    cases a with
    | load manager name now => exact balanced_load ih manager name now
    | unloadAll manager => exact balanced_unloadAll ih manager

theorem handles_run {host : PluginHost} {pyintf : Bool} {entries : List DirectoryEntry}
    (h : PluginLoader.construct host pyintf entries = .ok l) (actions : List ManagerAction)
    (path : String) : (run l actions).loader.handles path =
      holding path (run l actions).objects + actions.countP (leaves l path) := by
  obtain ⟨lists,_,rfl⟩ := PluginLoader.construct_ok.mp h
  refine (balanced_run _ path actions).2.trans ?_
  rw [Nat.zero_add]

end LoadedPlugins

theorem handle_left_open : (LoadedPlugins.run ⟨false,[faceInfo],fun _ => 0⟩
    [.load 1 "faceDetect" noModel,.unloadAll 1]).loader.handles "libfaceDetect.so" = 1 :=
  (LoadedPlugins.handles_run faceHost_construct _ _).trans (by decide)

end Ovi
