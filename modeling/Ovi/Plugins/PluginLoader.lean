import Ovi.Library.Checks
import Ovi.Link.ValidateLink
import Mathlib.Logic.Function.Basic

namespace Ovi

structure Attribute where
  key : String
  type : String
  description : String
deriving DecidableEq, Repr

inductive Language where
  | c
  | python
deriving DecidableEq, Repr

structure PluginLoader.PluginInfo where
  lang : Language
  name : String
  type : PluginType
  formats : List Int
  metaForm : MetaForm
  description : String
  libraryPath : String
  attrs : List Attribute
deriving DecidableEq, Repr

-- `PluginInfo {}`
def PluginLoader.PluginInfo.empty : PluginLoader.PluginInfo := ⟨.c,"",.none,[],.none,"","",[]⟩

structure SharedLibrary where
  name : Option String
  type : Option PluginType
  supportFormat : Option (List Int)
  supportMetaForm : Option MetaForm
  description : Option String
  attributeList : Option (List Attribute)
deriving DecidableEq, Repr

structure PyPluginModule where
  pluginName : String
  pluginType : PluginType
  pluginFormat : List Int
  pluginMetaForm : MetaForm
  pluginDescription : String
  pluginAttributeList : List Attribute
deriving DecidableEq, Repr

structure DirectoryEntry where
  path : String
  regular : Bool
  extension : String
  stem : String
  named : stem ≠ ""
deriving Repr

-- no library where `dlopen` fails, no module where the import fails
structure PluginHost where
  libraries : String → Option SharedLibrary
  pyModules : String → Option PyPluginModule

def PluginHost.pyGetPluginInfo (host : PluginHost) (moduleName : String) :
    PluginLoader.PluginInfo :=
  match host.pyModules moduleName with
  | none => PluginLoader.PluginInfo.empty
  | some m => ⟨.python,m.pluginName,m.pluginType,m.pluginFormat,m.pluginMetaForm,
      m.pluginDescription,moduleName,m.pluginAttributeList⟩

-- a load opens the library again: whether `dlopen` succeeds, and what `createPlugin` answers
structure CreateAnswers where
  opened : Bool
  createPlugin : Option (Except Exn Unit)

def CreateAnswers.exn (now : CreateAnswers) : Option Exn :=
  if now.opened then
    match now.createPlugin with
    | none => some (.ovi oviErrorInvalidOperation)
    | some (.error e) => some e
    | some (.ok ()) => none
  else some (.ovi oviErrorInvalidOperation)

structure PluginObject where
  type : PluginType
  formats : List Int
  metaForm : MetaForm
  dlHandle : Option String
deriving DecidableEq, Repr

structure PluginLoader where
  pyintf : Bool
  availablePlugins : List PluginLoader.PluginInfo
  handles : String → Nat

def dlsym {α : Type} : Option α → Except Exn α
  | some symbol => .ok symbol
  | none => .error (.ovi oviErrorInvalidOperation)

def SharedLibrary.pluginInfo (lib : SharedLibrary) (pluginPath : String) :
    Except Exn PluginLoader.PluginInfo := do
  let name ← dlsym lib.name
  let type ← dlsym lib.type
  let formats ← dlsym lib.supportFormat
  let metaForm ← dlsym lib.supportMetaForm
  let description ← dlsym lib.description
  let attrs ← dlsym lib.attributeList
  .ok ⟨.c,name,type,formats,metaForm,description,pluginPath,attrs⟩

namespace PluginLoader

variable (host : PluginHost)

def dlopen (l : PluginLoader) (path : String) : PluginLoader :=
  { l with handles := Function.update l.handles path (l.handles path + 1) }

def dlclose (l : PluginLoader) (path : String) : PluginLoader :=
  { l with handles := Function.update l.handles path (l.handles path - 1) }

def addPluginInfo (l : PluginLoader) (pluginPath : String) : Except Exn Unit × PluginLoader :=
  match host.libraries pluginPath with
  | none => (.error (.ovi oviErrorInvalidParameter),l)
  | some lib =>
    let l := l.dlopen pluginPath
    match lib.pluginInfo pluginPath with
    | .error e => (.error e,l.dlclose pluginPath)
    | .ok info =>
      (.ok (),{ l with availablePlugins := l.availablePlugins ++ [info] }.dlclose pluginPath)

def addPluginInfoForPy (l : PluginLoader) (moduleName : String) : PluginLoader :=
  let info := host.pyGetPluginInfo moduleName
  if info.libraryPath == moduleName then
    { l with availablePlugins := l.availablePlugins ++ [info] }
  else l

def addEntry (l : PluginLoader) (entry : DirectoryEntry) : Except Exn Unit × PluginLoader :=
  if entry.regular then
    if entry.extension == ".so" then l.addPluginInfo host entry.path
    else if !l.pyintf && entry.extension == ".py" && entry.stem != "__init__" then
      (.ok (),l.addPluginInfoForPy host entry.stem)
    else (.ok (),l)
  else (.ok (),l)

-- an exception leaves the loop, and with it the constructor
def getSharedPathList (l : PluginLoader) : List DirectoryEntry → Except Exn Unit × PluginLoader
  | [] => (.ok (),l)
  | entry :: entries =>
    match l.addEntry host entry with
    | (.error e,l) => (.error e,l)
    | (.ok (),l) => l.getSharedPathList entries

def create (now : CreateAnswers) (l : PluginLoader) (info : PluginLoader.PluginInfo) :
    Except Exn PluginObject × PluginLoader :=
  match info.lang with
  | .c =>
    if now.opened then
      -- the handle stays open where `createPlugin` is missing or throws
      let l := l.dlopen info.libraryPath
      match now.createPlugin with
      | none => (.error (.ovi oviErrorInvalidOperation),l)
      | some (.error e) => (.error e,l)
      | some (.ok ()) => (.ok ⟨info.type,info.formats,info.metaForm,some info.libraryPath⟩,l)
    else (.error (.ovi oviErrorInvalidOperation),l)
  | .python => (.ok ⟨info.type,info.formats,info.metaForm,none⟩,l)

def load (now : CreateAnswers) (l : PluginLoader) (name : String) :
    Except Exn PluginObject × PluginLoader :=
  match l.availablePlugins.find? fun item => item.name == name with
  | some item => l.create now item
  | none => (.error (.ovi oviErrorInvalidOperation),l)

def unload (l : PluginLoader) (pluginObj : PluginObject) : PluginLoader :=
  match pluginObj.dlHandle with
  | some path => l.dlclose path
  | none => l

def getPluginAttrs (l : PluginLoader) (name : String) : Except Exn (List Attribute) :=
  match l.availablePlugins.find? fun plugin => plugin.name == name with
  | some plugin => .ok plugin.attrs
  | none => .error (.ovi oviErrorInvalidOperation)

def construct (pyintf : Bool) (entries : List DirectoryEntry) : Except Exn PluginLoader :=
  match getSharedPathList host ⟨pyintf,[],fun _ => 0⟩ entries with
  | (.error e,_) => .error e
  | (.ok (),l) => .ok l

end PluginLoader

def DirectoryEntry.offers (host : PluginHost) (pyintf : Bool) (entry : DirectoryEntry) :
    Except Exn (List PluginLoader.PluginInfo) :=
  if entry.regular then
    if entry.extension == ".so" then
      match host.libraries entry.path with
      | none => .error (.ovi oviErrorInvalidParameter)
      | some lib => (lib.pluginInfo entry.path).map fun info => [info]
    else if !pyintf && entry.extension == ".py" && entry.stem != "__init__" then
      .ok ((host.pyModules entry.stem).map fun _ => host.pyGetPluginInfo entry.stem).toList
    else .ok []
  else .ok []

namespace PluginLoader

variable {host : PluginHost} {l l' : PluginLoader} {pyintf : Bool} {entry : DirectoryEntry}
  {entries : List DirectoryEntry} {info : PluginLoader.PluginInfo} {name path : String}
  {now : CreateAnswers}

def add (l : PluginLoader) (infos : List PluginLoader.PluginInfo) : PluginLoader :=
  { l with availablePlugins := l.availablePlugins ++ infos }

theorem add_nil : l.add [] = l := by
  rw [add,List.append_nil]

theorem dlclose_dlopen : (l.dlopen path).dlclose path = l := by
  cases l
  simp only [dlopen,dlclose,Function.update_self,Function.update_idem,Nat.add_sub_cancel,
    Function.update_eq_self]

theorem addPluginInfo_eq (pluginPath : String) : l.addPluginInfo host pluginPath =
    match host.libraries pluginPath with
    | none => (.error (.ovi oviErrorInvalidParameter),l)
    | some lib =>
      match lib.pluginInfo pluginPath with
      | .error e => (.error e,l)
      | .ok info => (.ok (),l.add [info]) := by
  rw [addPluginInfo]
  cases host.libraries pluginPath with
  | none => rfl
  | some lib =>
    dsimp only
    cases lib.pluginInfo pluginPath with
    | error e => exact congrArg (Prod.mk _) dlclose_dlopen
    | ok info => exact congrArg (Prod.mk _) (dlclose_dlopen (l := l.add [info]))

theorem addPluginInfoForPy_eq (hstem : name ≠ "") : l.addPluginInfoForPy host name =
    l.add ((host.pyModules name).map fun _ => host.pyGetPluginInfo name).toList := by
  rw [addPluginInfoForPy,PluginHost.pyGetPluginInfo]
  cases host.pyModules name with
  | none =>
    have hname : (PluginLoader.PluginInfo.empty.libraryPath == name) = false := by
      simpa [PluginLoader.PluginInfo.empty] using hstem.symm
    dsimp only
    rw [hname]
    exact add_nil.symm
  | some m =>
    dsimp only
    rw [beq_self_eq_true,if_pos rfl]
    rfl

theorem addEntry_eq : l.addEntry host entry =
    match entry.offers host l.pyintf with
    | .error e => (.error e,l)
    | .ok infos => (.ok (),l.add infos) := by
  rw [addEntry,DirectoryEntry.offers]
  cases entry.regular with
  | false => exact congrArg (Prod.mk _) add_nil.symm
  | true =>
    rw [if_pos rfl,if_pos rfl]
    cases entry.extension == ".so" with
    | true =>
      rw [if_pos rfl,if_pos rfl,addPluginInfo_eq]
      cases host.libraries entry.path with
      | none => rfl
      | some lib =>
        dsimp only
        cases lib.pluginInfo entry.path <;> rfl
    | false =>
      rw [if_neg Bool.false_ne_true,if_neg Bool.false_ne_true]
      cases !l.pyintf && entry.extension == ".py" && entry.stem != "__init__" with
      | true =>
        rw [if_pos rfl,if_pos rfl]
        exact congrArg (Prod.mk _) (addPluginInfoForPy_eq entry.named)
      | false =>
        rw [if_neg Bool.false_ne_true,if_neg Bool.false_ne_true]
        exact congrArg (Prod.mk _) add_nil.symm

theorem getSharedPathList_error {e : Exn}
    (h : entries.mapM (DirectoryEntry.offers host l.pyintf) = .error e) :
    (l.getSharedPathList host entries).1 = .error e := by
  induction entries generalizing l with
  | nil => cases h
  | cons entry entries ih =>
    rw [List.mapM_cons] at h
    rw [getSharedPathList,addEntry_eq]
    cases hentry : entry.offers host l.pyintf with
    | error e' =>
      rw [hentry] at h
      cases h
      rfl
    | ok infos =>
      apply ih (l := l.add infos)
      change entries.mapM (DirectoryEntry.offers host l.pyintf) = .error e
      rw [hentry] at h
      cases hmap : entries.mapM (DirectoryEntry.offers host l.pyintf) with
      | error e' =>
        rw [hmap] at h
        cases h
        rfl
      | ok lists =>
        rw [hmap] at h
        cases h

theorem getSharedPathList_ok {lists : List (List PluginLoader.PluginInfo)}
    (h : entries.mapM (DirectoryEntry.offers host l.pyintf) = .ok lists) :
    l.getSharedPathList host entries = (.ok (),l.add lists.flatten) := by
  induction entries generalizing l lists with
  | nil =>
    cases h
    exact congrArg (Prod.mk _) add_nil.symm
  | cons entry entries ih =>
    obtain ⟨infos,lists,rfl,hentry,hmap⟩ := Checks.mapM_cons_ok_iff.mp h
    rw [getSharedPathList,addEntry_eq,hentry]
    refine (ih (l := l.add infos) hmap).trans (congrArg (Prod.mk _) ?_)
    simp only [add,List.flatten_cons,List.append_assoc]

theorem construct_eq : construct host pyintf entries =
    (entries.mapM (DirectoryEntry.offers host pyintf)).map fun infos =>
      ⟨pyintf,infos.flatten,fun _ => 0⟩ := by
  rw [construct]
  cases hmap : entries.mapM (DirectoryEntry.offers host pyintf) with
  | error e =>
    have hlist := getSharedPathList_error (l := ⟨pyintf,[],fun _ => 0⟩) hmap
    split
    · rename_i e' l hl
      rw [hl] at hlist
      exact congrArg Except.error (Except.error.inj hlist)
    · rename_i l hl
      rw [hl] at hlist
      cases hlist
  | ok infos =>
    rw [getSharedPathList_ok (l := ⟨pyintf,[],fun _ => 0⟩) hmap]
    rfl

theorem construct_ok : construct host pyintf entries = .ok l ↔
    ∃ lists, entries.mapM (DirectoryEntry.offers host pyintf) = .ok lists ∧
      l = ⟨pyintf,lists.flatten,fun _ => 0⟩ := by
  rw [construct_eq]
  cases entries.mapM (DirectoryEntry.offers host pyintf) with
  | error e => simp [Except.map]
  | ok lists => simp [Except.map,eq_comm]

theorem offered_of_mem {lists : List (List PluginLoader.PluginInfo)}
    (h : entries.mapM (DirectoryEntry.offers host pyintf) = .ok lists)
    (hmem : info ∈ lists.flatten) :
    ∃ entry ∈ entries, ∃ infos, entry.offers host pyintf = .ok infos ∧ info ∈ infos := by
  induction entries generalizing lists with
  | nil =>
    cases h
    cases hmem
  | cons entry entries ih =>
    obtain ⟨infos,lists,rfl,hentry,hrest⟩ := Checks.mapM_cons_ok_iff.mp h
    rw [List.flatten_cons,List.mem_append] at hmem
    cases hmem with
    | inl hfirst => exact ⟨entry,List.mem_cons_self,infos,hentry,hfirst⟩
    | inr hlater =>
      obtain ⟨entry',hmem',hoffers⟩ := ih hrest hlater
      exact ⟨entry',List.mem_cons_of_mem _ hmem',hoffers⟩

theorem pluginInfo_path {lib : SharedLibrary} (h : lib.pluginInfo path = .ok info) :
    info.lang = .c ∧ info.libraryPath = path := by
  rw [SharedLibrary.pluginInfo] at h
  obtain ⟨_,_,h⟩ := Checks.bind_ok h
  obtain ⟨_,_,h⟩ := Checks.bind_ok h
  obtain ⟨_,_,h⟩ := Checks.bind_ok h
  obtain ⟨_,_,h⟩ := Checks.bind_ok h
  obtain ⟨_,_,h⟩ := Checks.bind_ok h
  obtain ⟨_,_,h⟩ := Checks.bind_ok h
  cases h
  exact ⟨rfl,rfl⟩

def Probed (host : PluginHost) (info : PluginLoader.PluginInfo) : Prop :=
  match info.lang with
  | .c => ∃ lib, host.libraries info.libraryPath = some lib ∧
      lib.pluginInfo info.libraryPath = .ok info
  | .python => ∃ m, host.pyModules info.libraryPath = some m ∧
      info = host.pyGetPluginInfo info.libraryPath

theorem probed_offers {infos : List PluginLoader.PluginInfo}
    (h : entry.offers host pyintf = .ok infos) (hmem : info ∈ infos) : Probed host info := by
  rw [DirectoryEntry.offers] at h
  split at h
  · split at h
    · split at h
      · cases h
      · rename_i lib hlib
        cases hinfo : lib.pluginInfo entry.path with
        | error e =>
          rw [hinfo] at h
          cases h
        | ok info' =>
          rw [hinfo] at h
          cases h
          obtain rfl := List.mem_singleton.mp hmem
          obtain ⟨hlang,hpath⟩ := pluginInfo_path hinfo
          rw [Probed,hlang,hpath]
          exact ⟨lib,hlib,hinfo⟩
    · split at h
      · cases h
        obtain ⟨m,hm,rfl⟩ := Option.map_eq_some_iff.mp (Option.mem_toList.mp hmem)
        have hinfo : host.pyGetPluginInfo entry.stem = ⟨.python,m.pluginName,m.pluginType,
            m.pluginFormat,m.pluginMetaForm,m.pluginDescription,entry.stem,
            m.pluginAttributeList⟩ := by
          rw [PluginHost.pyGetPluginInfo,hm]
        rw [Probed,hinfo]
        exact ⟨m,hm,hinfo.symm⟩
      · cases h
        cases hmem
  · cases h
    cases hmem

theorem construct_probed (h : construct host pyintf entries = .ok l)
    (hmem : info ∈ l.availablePlugins) : Probed host info := by
  obtain ⟨lists,hmap,rfl⟩ := construct_ok.mp h
  obtain ⟨entry,_,infos,hoffers,hinfo⟩ := offered_of_mem hmap hmem
  exact probed_offers hoffers hinfo

def named (l : PluginLoader) (name : String) : Option PluginLoader.PluginInfo :=
  l.availablePlugins.find? fun info => info.name == name

def objectOf (info : PluginLoader.PluginInfo) : PluginObject :=
  ⟨info.type,info.formats,info.metaForm,if info.lang = .c then some info.libraryPath else none⟩

structure LoadAnswers (host : PluginHost) (now : CreateAnswers) (l : PluginLoader)
    (name : String) : Prop where
  fails : ∀ e, (l.load now name).1 = .error e ↔
    l.named name = none ∧ e = .ovi oviErrorInvalidOperation ∨
      ∃ info, l.named name = some info ∧ info.lang = .c ∧ now.exn = some e
  made : ∀ object, (l.load now name).1 = .ok object →
    ∃ info, l.named name = some info ∧ Probed host info ∧ object = objectOf info

theorem load_none (hname : l.named name = none) :
    l.load now name = (.error (.ovi oviErrorInvalidOperation),l) := by
  rw [named] at hname
  rw [load,hname]

theorem load_some (hname : l.named name = some info) :
    l.load now name = l.create now info := by
  rw [named] at hname
  rw [load,hname]

theorem create_python (hlang : info.lang = .python) :
    l.create now info = (.ok (objectOf info),l) := by
  rw [create,objectOf,hlang]
  rfl

theorem create_c (hlang : info.lang = .c) : l.create now info =
    (match now.exn with | none => .ok (objectOf info) | some e => .error e,
      if now.opened then l.dlopen info.libraryPath else l) := by
  rw [create,CreateAnswers.exn,objectOf,hlang]
  obtain ⟨opened,created⟩ := now
  cases opened with
  | false => rfl
  | true =>
    cases created with
    | none => rfl
    | some answer => cases answer <;> rfl

theorem load_answers (h : construct host pyintf entries = .ok l) (now : CreateAnswers)
    (name : String) : LoadAnswers host now l name := by
  cases hname : l.named name with
  | none =>
    constructor
    · intro e
      rw [load_none hname,hname]
      constructor
      · intro he
        cases he
        exact .inl ⟨rfl,rfl⟩
      · rintro (⟨-,rfl⟩ | ⟨info,hsome,-⟩)
        · rfl
        · cases hsome
    · intro object hobject
      rw [load_none hname] at hobject
      cases hobject
  | some info =>
    have hprobed := construct_probed h (List.mem_of_find?_eq_some hname)
    cases hlang : info.lang with
    | python =>
      have hload : l.load now name = _ := (load_some hname).trans (create_python hlang)
      constructor
      · intro e
        rw [hload,hname]
        refine iff_of_false (by intro he; cases he) ?_
        rintro (⟨hnone,-⟩ | ⟨info',hsome,hc,-⟩)
        · cases hnone
        · cases hsome
          cases hlang.symm.trans hc
      · intro object hobject
        rw [hload] at hobject
        exact ⟨info,hname,hprobed,(Except.ok.inj hobject).symm⟩
    | c =>
      have hload : l.load now name = _ := (load_some hname).trans (create_c hlang)
      constructor
      · intro e
        rw [hload,hname]
        cases hexn : now.exn with
        | none =>
          refine iff_of_false (by intro he; cases he) ?_
          rintro (⟨hnone,-⟩ | ⟨_,-,-,hsome⟩)
          · cases hnone
          · cases hsome
        | some e' =>
          constructor
          · intro he
            exact .inr ⟨info,rfl,hlang,congrArg some (Except.error.inj he)⟩
          · rintro (⟨hnone,-⟩ | ⟨_,-,-,hsome⟩)
            · cases hnone
            · exact congrArg Except.error (Option.some.inj hsome)
      · intro object hobject
        rw [hload] at hobject
        cases hexn : now.exn with
        | none =>
          rw [hexn] at hobject
          exact ⟨info,hname,hprobed,(Except.ok.inj hobject).symm⟩
        | some e =>
          rw [hexn] at hobject
          cases hobject

end PluginLoader

def faceLibrary : SharedLibrary :=
  ⟨some "faceDetect",some .videoDetect,some [],some .rect,some "",some []⟩

def faceHost : PluginHost :=
  ⟨fun path => if path = "libfaceDetect.so" then some faceLibrary else none,fun _ => none⟩

def faceInfo : PluginLoader.PluginInfo :=
  ⟨.c,"faceDetect",.videoDetect,[],.rect,"","libfaceDetect.so",[]⟩

-- the model file of the face detector is missing
def noModel : CreateAnswers := ⟨true,some (.error (.ovi oviErrorInvalidOperation))⟩

theorem faceHost_construct :
    PluginLoader.construct faceHost false
      [⟨"libfaceDetect.so",true,".so","libfaceDetect",by decide⟩] =
        .ok ⟨false,[faceInfo],fun _ => 0⟩ :=
  PluginLoader.construct_ok.mpr ⟨[[faceInfo]],by decide,rfl⟩

theorem load_answers_noModel :
    PluginLoader.LoadAnswers faceHost noModel ⟨false,[faceInfo],fun _ => 0⟩ "faceDetect" :=
  PluginLoader.load_answers faceHost_construct noModel "faceDetect"

end Ovi
