import Ovi.Plugins.PluginLoader

namespace Ovi

section Foreach

variable {S : Type}

def foreachAttribute (callback : S → Attribute → Bool × S) : List Attribute → S → S
  | [], s => s
  | attrInfo :: attrs, s =>
    match callback s attrInfo with
    | (true,s) => foreachAttribute callback attrs s
    | (false,s) => s

def oviAvailablePluginForeachAttribute (loader : Except Exn PluginLoader) (name : Option String)
    (callback : S → Attribute → Bool × S) (s : S) : Except Fault ErrorCode × S :=
  match name with
  | none => (.ok oviErrorInvalidParameter,s)
  | some name =>
    match loader.bind fun l => l.getPluginAttrs name with
    | .ok attrs => (.ok oviErrorNone,foreachAttribute callback attrs s)
    | .error (.ovi error) => (.ok error,s)
    | .error e => (.error (.raised e),s)

end Foreach

section Enumeration

variable {host : PluginHost} {l : PluginLoader} {pyintf : Bool} {entries : List DirectoryEntry}
  {S : Type}

def PluginLoader.PluginInfo.shown (info : PluginLoader.PluginInfo) : String × PluginType × String :=
  (info.name,info.type,info.description)

variable {goOn : List (String × PluginType × String) → Bool}
  {seen : List (String × PluginType × String)}

end Enumeration

end Ovi
