import Ovi.Logic.LogicAnalyzer
import Ovi.Session.Start
import Mathlib.Logic.Function.Basic

namespace Ovi

def oviErrorNoSuchFile : ErrorCode := -5

def eNoEnt : Int := 2
def eInval : Int := 22

-- the answer of `std::filesystem::canonical`
inductive Canonical where
  | path (name : String) (hname : name ≠ "")
  | failed (err : Int) (herr : err ≠ 0)
deriving DecidableEq, Repr

def Canonical.err : Canonical → Int
  | .path _ _ => 0
  | .failed err _ => err

def Canonical.string : Canonical → String
  | .path name _ => name
  | .failed _ _ => ""

structure UserCallback where
  callback : Nat
  userData : Nat
deriving DecidableEq, Repr

structure LoadedPlugin where
  plugin : Plugin
  metaForm : MetaForm
  effectMetaForm : String → Except Exn MetaForm
  validateEffectAttrs : AttrMap → Except Exn Unit
  setAttrs : AttrMap → Except Exn Unit

namespace SessionPlugins

def loadPlugin (pm : SessionPlugins) (sNum : Nat) (name : String) (p : LoadedPlugin) :
    SessionPlugins :=
  let uid := makeId name (sNum + 1)
  if pm.exist uid then pm
  else
    { toPluginManager := pm.toPluginManager.load sNum name p.plugin
      data := Function.update pm.data uid ⟨p.metaForm,∅,p.effectMetaForm⟩
      validateEffectAttrs := Function.update pm.validateEffectAttrs uid p.validateEffectAttrs
      setAttrs := Function.update pm.setAttrs uid p.setAttrs }

def assignAttrs (pm : SessionPlugins) (uid : String) (attrs : AttrMap) : SessionPlugins :=
  { pm with data := Function.update pm.data uid { pm.data uid with
      attrs := attrs.foldl (fun old key value => old.insert key value) (pm.data uid).attrs } }

end SessionPlugins

section Kept

variable {pm pm' : PluginManager} {uid : String} {plugin : Plugin}

theorem PluginManager.find_load_kept (sNum : Nat) (name : String) (new : Plugin)
    (h : pm.find uid = some plugin) : (pm.load sNum name new).find uid = some plugin := by
  have hmem : uid ∈ pm.loadedPlugins := by
    rw [← Std.TreeMap.isSome_getElem?_iff_mem]
    exact Option.isSome_of_eq_some h
  rw [PluginManager.find,PluginManager.load,Std.TreeMap.getElem?_insertIfNew,if_neg]
  · exact h
  · rintro ⟨heq,hnew⟩
    have huid : makeId name (sNum + 1) = uid := by simpa using heq
    exact hnew (huid ▸ hmem)

theorem SessionPlugins.find_loadPlugin {pm : SessionPlugins} (sNum : Nat) (name : String)
    (p : LoadedPlugin) (h : pm.find uid = some plugin) :
    (pm.loadPlugin sNum name p).find uid = some plugin := by
  rw [loadPlugin]
  split
  · exact h
  · exact PluginManager.find_load_kept sNum name p.plugin h

theorem validateLoop_kept (hkept : ∀ uid plugin, pm.find uid = some plugin →
      pm'.find uid = some plugin) {request : List String} {s : Scan}
    (h : validateLoop pm request s = some true) : validateLoop pm' request s = some true := by
  induction request generalizing s with
  | nil => exact h
  | cons str rest ih =>
    rw [validateLoop] at h ⊢
    split at h
    · rw [if_pos ‹_›]
      split at h
      · cases h
      · rw [if_neg ‹_›]
        split at h
        · rw [if_pos ‹_›]
          exact h
        · rw [if_neg ‹_›]
          exact ih h
    · rw [if_neg ‹_›]
      split at h
      · cases h
      · rw [if_neg ‹_›]
        split at h
        · rw [if_pos ‹_›]
          split at h
          · rw [if_pos ‹_›]
            exact h
          · rw [if_neg ‹_›]
            exact ih h
        · rw [if_neg ‹_›]
          cases hf : pm.find str with
          | none =>
            simp only [hf] at h
            cases h
          | some plugin =>
            simp only [hf] at h
            simp only [hkept str plugin hf]
            split at h
            · cases h
            · rw [if_neg ‹_›]
              exact ih h

theorem validateLogic_kept (hkept : ∀ uid plugin, pm.find uid = some plugin →
      pm'.find uid = some plugin) {request : List String}
    (h : validateLogic pm request = true) : validateLogic pm' request = true := by
  have hscan : (validateLoop pm request ⟨"",true⟩).getD false = true →
      (validateLoop pm' request ⟨"",true⟩).getD false = true := by
    intro hs
    cases hloop : validateLoop pm request ⟨"",true⟩ with
    | none =>
      rw [hloop] at hs
      cases hs
    | some validateUncut =>
      rw [hloop] at hs
      obtain rfl : validateUncut = true := hs
      rw [validateLoop_kept hkept hloop]
      rfl
  cases hfirst : request.head? with
  | none =>
    simp only [validateLogic,hfirst] at h
    cases h
  | some first =>
    cases hlast : request.getLast? with
    | none =>
      simp only [validateLogic,hfirst,hlast] at h
      cases h
    | some last =>
      simp only [validateLogic,hfirst,hlast] at h ⊢
      split at h
      · cases h
      · rw [if_neg ‹_›]
        split at h
        · cases h
        · rw [if_neg ‹_›]
          split at h
          · cases h
          · rw [if_neg ‹_›]
            exact hscan h

end Kept

theorem make_expression {request : List String} {A : LogicAnalyzer}
    (h : LogicAnalyzer.make request = some A) : A.expression = request := by
  obtain ⟨b,-,he⟩ := Option.bind_eq_some_iff.mp h
  cases he
  rfl

structure SessionConfig where
  plugins : SessionPlugins
  logicAnalyzer : Option LogicAnalyzer
  mediaPath : String
  renderUid : String
  outputFilePath : String
  skipFrames : Nat
  errorCb : Option UserCallback
  progressCb : Option UserCallback
  stateChangedCb : Option UserCallback
  accepted : ∀ A, logicAnalyzer = some A →
    validateLogic plugins.toPluginManager A.expression = true
  render : renderUid ≠ "" → plugins.find renderUid = some ⟨.render⟩

namespace SessionConfig

variable (c : SessionConfig)

def initial : SessionConfig where
  plugins := ⟨⟨.empty,fun _ => ⟨.none,∅,fun _ => .error .other⟩⟩,fun _ _ => .ok (),
    fun _ _ => .ok ()⟩
  logicAnalyzer := none
  mediaPath := ""
  renderUid := ""
  outputFilePath := ""
  skipFrames := 0
  errorCb := none
  progressCb := none
  stateChangedCb := none
  accepted := fun _ h => by cases h
  render := fun h => absurd rfl h

def startConfig (frameExtractor : String → Except Exn MediaInfo) (thread : Except Exn Unit) :
    StartConfig where
  plugins := c.plugins
  expression := c.logicAnalyzer.map LogicAnalyzer.expression
  mediaPath := c.mediaPath
  renderUid := c.renderUid
  outputFilePath := c.outputFilePath
  frameExtractor := frameExtractor
  thread := thread
  accepted := by
    intro request h
    obtain ⟨A,hA,rfl⟩ := Option.map_eq_some_iff.mp h
    exact c.accepted A hA
  render := c.render

def withRender (uid outputPath : String) (h : c.plugins.find uid = some ⟨.render⟩) :
    SessionConfig :=
  { c with
    renderUid := uid
    outputFilePath := outputPath
    render := fun _ => h }

def withLogic (A : LogicAnalyzer)
    (h : validateLogic c.plugins.toPluginManager A.expression = true) : SessionConfig :=
  { c with
    logicAnalyzer := some A
    accepted := fun _ hA => Option.some.inj hA ▸ h }

def withPlugin (sNum : Nat) (name : String) (p : LoadedPlugin) : SessionConfig :=
  { c with
    plugins := c.plugins.loadPlugin sNum name p
    accepted := fun A hA => validateLogic_kept
      (fun _ _ => SessionPlugins.find_loadPlugin sNum name p) (c.accepted A hA)
    render := fun h => SessionPlugins.find_loadPlugin sNum name p (c.render h) }

def withAttrs (uid : String) (attrs : AttrMap) : SessionConfig :=
  { c with plugins := c.plugins.assignAttrs uid attrs }

end SessionConfig

structure SessionObject where
  state : OviState
  config : SessionConfig
  -- whether `_dataFlow` is set
  dataFlow : Bool
  mediaInfo : Option MediaInfo

abbrev SessionReply := Except Fault Unit × SessionObject

namespace StartConfig

variable (c : StartConfig)

def openMedia : Except Fault MediaInfo := do
  refuse c.expression.isSome
  refuse (c.mediaPath != "")
  refuse (c.renderUid != "")
  refuse (c.outputFilePath != "")
  let linked ← c.plugins.validateLink c.renderUid (c.expression.getD [])
  refuse linked
  (c.frameExtractor c.mediaPath).mapError .raised

def preparePlugins (mediaInfo : MediaInfo) : Except Fault Unit := do
  c.plugins.validate mediaInfo
  c.plugins.validateAttrs c.renderUid
  c.plugins.setAllAttrs

theorem prepare_eq : c.prepare = (do
    let mediaInfo ← c.openMedia
    c.preparePlugins mediaInfo
    c.thread.mapError .raised) := by
  simp only [prepare,openMedia,preparePlugins,bind_assoc]

end StartConfig

namespace SessionObject

variable (s : SessionObject)

def initial : SessionObject := ⟨.idle,.initial,false,none⟩

def raise (error : ErrorCode) : SessionReply := (.error (.raised (.ovi error)),s)

def set (config : SessionConfig) : SessionReply := (.ok (),{ s with config := config })

def setMediaPath (mediaPath : String) (canonical : Canonical) : SessionReply :=
  if s.state != .idle then s.raise oviErrorInvalidState
  else if mediaPath.isEmpty then s.raise oviErrorInvalidParameter
  else if canonical.err == eInval then s.raise oviErrorInvalidParameter
  else if canonical.err == eNoEnt then s.raise oviErrorNoSuchFile
  else s.set { s.config with mediaPath := canonical.string }

def setCb (callback : Option Nat) (userData : Nat) (put : UserCallback → SessionConfig) :
    SessionReply :=
  if s.state != .idle then s.raise oviErrorInvalidState
  else
    match callback with
    | none => s.raise oviErrorInvalidParameter
    | some callback => s.set (put ⟨callback,userData⟩)

def unsetCb (current : Option UserCallback) (config : SessionConfig) : SessionReply :=
  if s.state != .idle then s.raise oviErrorInvalidState
  else if current.isNone then s.raise oviErrorInvalidOperation
  else s.set config

def setErrorCb (callback : Option Nat) (userData : Nat) : SessionReply :=
  s.setCb callback userData fun cb => { s.config with errorCb := some cb }

def unsetErrorCb : SessionReply := s.unsetCb s.config.errorCb { s.config with errorCb := none }

def setProgressCb (callback : Option Nat) (userData : Nat) : SessionReply :=
  s.setCb callback userData fun cb => { s.config with progressCb := some cb }

def unsetProgressCb : SessionReply :=
  s.unsetCb s.config.progressCb { s.config with progressCb := none }

def setStateChangedCb (callback : Option Nat) (userData : Nat) : SessionReply :=
  s.setCb callback userData fun cb => { s.config with stateChangedCb := some cb }

def unsetStateChangedCb : SessionReply :=
  s.unsetCb s.config.stateChangedCb { s.config with stateChangedCb := none }

def launch (c : StartConfig) : SessionReply :=
  match c.openMedia with
  | .error fault => (.error fault,s)
  | .ok mediaInfo =>
    let s := { s with mediaInfo := some mediaInfo }
    match c.preparePlugins mediaInfo with
    | .error fault => (.error fault,s)
    | .ok _ =>
      let s := { s with dataFlow := true }
      match c.thread with
      | .error e => (.error (.raised e),s)
      | .ok _ => (.ok (),{ s with state := .analysis })

def start (frameExtractor : String → Except Exn MediaInfo) (thread : Except Exn Unit) :
    SessionReply :=
  if s.state != .idle then s.raise oviErrorInvalidState
  else s.launch (s.config.startConfig frameExtractor thread)

inductive Launched (s : SessionObject) (c : StartConfig) : SessionReply → Prop
  | refused {fault : Fault} {s' : SessionObject} (hprepare : c.prepare = .error fault)
    (hstate : s'.state = s.state) (hconfig : s'.config = s.config) :
    Launched s c (.error fault,s')
  | launched {s' : SessionObject} (hprepare : c.prepare = .ok ()) (hstate : s'.state = .analysis)
    (hconfig : s'.config = s.config) : Launched s c (.ok (),s')

theorem launched (c : StartConfig) : Launched s c (s.launch c) := by
  have hprepare := c.prepare_eq
  rw [launch]
  cases hmedia : c.openMedia with
  | error fault =>
    rw [hmedia] at hprepare
    exact .refused hprepare rfl rfl
  | ok mediaInfo =>
    rw [hmedia] at hprepare
    change c.prepare = (c.preparePlugins mediaInfo >>= fun _ => c.thread.mapError .raised)
      at hprepare
    cases hplugins : c.preparePlugins mediaInfo with
    | error fault =>
      rw [hplugins] at hprepare
      simp only [hplugins]
      exact .refused hprepare rfl rfl
    | ok u =>
      rw [hplugins] at hprepare
      simp only [hplugins]
      cases hthread : c.thread with
      | error e =>
        rw [hthread] at hprepare
        exact .refused hprepare rfl rfl
      | ok u =>
        rw [hthread] at hprepare
        exact .launched hprepare rfl rfl

theorem start_agrees (frameExtractor : String → Except Exn MediaInfo)
    (thread : Except Exn Unit) :
    (s.start frameExtractor thread).1 =
        ((s.config.startConfig frameExtractor thread).start ⟨s.state,false⟩).1 ∧
      (s.start frameExtractor thread).2.state =
        ((s.config.startConfig frameExtractor thread).start ⟨s.state,false⟩).2.state := by
  rw [start,StartConfig.start]
  by_cases hidle : (s.state != .idle) = true
  · rw [if_pos hidle,if_pos hidle]
    exact ⟨rfl,rfl⟩
  · rw [if_neg hidle,if_neg hidle]
    have hlaunched := s.launched (s.config.startConfig frameExtractor thread)
    generalize s.launch (s.config.startConfig frameExtractor thread) = reply at hlaunched
    cases hlaunched with
    | refused hprepare hstate =>
      rw [hprepare]
      exact ⟨rfl,hstate⟩
    | launched hprepare hstate =>
      rw [hprepare]
      exact ⟨rfl,hstate⟩

def stop : SessionReply :=
  if s.state != .analysis then s.raise oviErrorInvalidState
  else if !s.dataFlow then s.raise oviErrorInvalidOperation
  else (.ok (),{ s with state := .idle })

def setRender (uid outputPath : String) : SessionReply :=
  if s.state != .idle then s.raise oviErrorInvalidState
  else if uid.isEmpty then s.raise oviErrorInvalidParameter
  else if outputPath.isEmpty then s.raise oviErrorInvalidParameter
  else
    match hfind : s.config.plugins.find uid with
    | none => s.raise oviErrorInvalidParameter
    | some plugin =>
      if htype : plugin.type = .render then
        s.set (s.config.withRender uid outputPath
          (hfind.trans (congrArg (fun type => some (Plugin.mk type)) htype)))
      else s.raise oviErrorInvalidParameter

def registerPlugin (request : List String) : SessionReply :=
  if s.state != .idle then s.raise oviErrorInvalidState
  else if request.isEmpty then s.raise oviErrorInvalidParameter
  else if h : validateLogic s.config.plugins.toPluginManager request = true then
    match hA : LogicAnalyzer.make request with
    | none => (.error .undefined,s)
    | some A => s.set (s.config.withLogic A (make_expression hA ▸ h))
  else s.raise oviErrorInvalidParameter

-- `sNum` is the counter of the process, and `loaded` what `PluginLoader` gives for the name
def appendPlugin (name : String) (sNum : Nat) (loaded : Except Exn LoadedPlugin) :
    SessionReply :=
  if s.state != .idle then s.raise oviErrorInvalidState
  else if name.isEmpty then s.raise oviErrorInvalidParameter
  else
    match loaded with
    | .error e => (.error (.raised e),s)
    | .ok p => s.set (s.config.withPlugin sNum name p)

def setPluginAttrs (uid : String) (attrs : AttrMap) : SessionReply :=
  if s.state != .idle then s.raise oviErrorInvalidState
  else if uid.isEmpty then s.raise oviErrorInvalidParameter
  else if !s.config.plugins.exist uid then s.raise oviErrorInvalidParameter
  else s.set (s.config.withAttrs uid attrs)

def setSkipVideoFrames (frames : Nat) : SessionReply :=
  if s.state != .idle then s.raise oviErrorInvalidState
  else s.set { s.config with skipFrames := frames }

def completeCb (error : ErrorCode) : SessionObject :=
  if error != oviErrorNone then { s with state := .idle }
  else
    match s.state with
    | .analysis => { s with state := .render }
    | .render => { s with state := .idle }
    | .idle => s

end SessionObject

end Ovi
