import Ovi.Link.LinkChecks
import Ovi.Render.FFmpegEffect
import Ovi.Session.Session

namespace Ovi

structure MediaInfo where
  hasVideo : Bool
  hasAudio : Bool
deriving DecidableEq, Repr

structure SessionPlugins extends LinkedPlugins where
  -- `IPluginRender::validateEffectAttrs` of a render, and `IPlugin::setAttrs`
  validateEffectAttrs : String → AttrMap → Except Exn Unit
  setAttrs : String → AttrMap → Except Exn Unit

namespace SessionPlugins

variable (pm : SessionPlugins)

def uids : List String := pm.loadedPlugins.keys

def validateType (info : MediaInfo) (uid : String) : Except Fault Unit :=
  match (pm.find uid).map Plugin.type with
  | some .videoDetect | some .videoEffect =>
    if info.hasVideo then .ok () else .error (.raised (.ovi oviErrorInvalidOperation))
  | some .audioDetect | some .audioEffect =>
    if info.hasAudio then .ok () else .error (.raised (.ovi oviErrorInvalidOperation))
  | _ => .ok ()

def validate (info : MediaInfo) : Except Fault Unit := pm.uids.forM (pm.validateType info)

def validateAttrsOf (renderUid uid : String) : Except Fault Unit :=
  if pm.isEffect uid then
    if (pm.data uid).attrs.isEmpty then .error (.raised (.ovi oviErrorInvalidOperation))
    else (pm.validateEffectAttrs renderUid (pm.data uid).attrs).mapError .raised
  else .ok ()

-- the assertion on the cast to `IPluginRender` fails for every other plugin
def requireRender (renderUid : String) : Except Fault Unit :=
  match pm.find renderUid with
  | none => .error (.raised (.ovi oviErrorInvalidParameter))
  | some plugin => if plugin.type == .render then .ok () else .error .undefined

def validateAttrs (renderUid : String) : Except Fault Unit := do
  pm.requireRender renderUid
  pm.uids.forM (pm.validateAttrsOf renderUid)

def setAttrsOf (uid : String) : Except Fault Unit :=
  if (pm.data uid).attrs.isEmpty then .ok ()
  else (pm.setAttrs uid (pm.data uid).attrs).mapError .raised

def setAllAttrs : Except Fault Unit := pm.uids.forM pm.setAttrsOf

end SessionPlugins

-- what the session holds; `registerPlugin` and `setRender` check it when they set it
structure StartConfig where
  plugins : SessionPlugins
  expression : Option (List String)
  mediaPath : String
  renderUid : String
  outputFilePath : String
  -- `FrameExtractorFactory::create` with its `mediaInfo`
  frameExtractor : String → Except Exn MediaInfo
  -- the thread that `DataFlow::start` makes
  thread : Except Exn Unit
  accepted : ∀ request, expression = some request →
    validateLogic plugins.toPluginManager request = true
  render : renderUid ≠ "" → plugins.find renderUid = some ⟨.render⟩

structure StartState where
  state : OviState
  launched : Bool
deriving DecidableEq, Repr

namespace StartConfig

def refuse (passes : Bool) : Except Fault Unit :=
  if passes then .ok () else .error (.raised (.ovi oviErrorInvalidOperation))

variable (c : StartConfig)

def prepare : Except Fault Unit := do
  refuse c.expression.isSome
  refuse (c.mediaPath != "")
  refuse (c.renderUid != "")
  refuse (c.outputFilePath != "")
  let linked ← c.plugins.validateLink c.renderUid (c.expression.getD [])
  refuse linked
  let mediaInfo ← (c.frameExtractor c.mediaPath).mapError .raised
  c.plugins.validate mediaInfo
  c.plugins.validateAttrs c.renderUid
  c.plugins.setAllAttrs
  c.thread.mapError .raised

def start (s : StartState) : Except Fault Unit × StartState :=
  if s.state != .idle then (.error (.raised (.ovi oviErrorInvalidState)),s)
  else
    match c.prepare with
    | .error fault => (.error fault,s)
    | .ok _ => (.ok (),⟨.analysis,true⟩)

-- only an `ovi::Exception` is caught
def oviSessionStart (s : StartState) : Except Fault ErrorCode × StartState :=
  match c.start s with
  | (.ok _,s) => (.ok oviErrorNone,s)
  | (.error (.raised (.ovi error)),s) => (.ok error,s)
  | (.error fault,s) => (.error fault,s)

end StartConfig

def Fault.Reported (fault : Fault) : Prop :=
  ∃ error, fault = .raised (.ovi error) ∧ error ≠ oviErrorNone

structure StartReports (c : StartConfig) : Prop where
  reports : ∃ code s, c.oviSessionStart ⟨.idle,false⟩ = (.ok code,s) ∧
    (code = oviErrorNone ↔ s = ⟨.analysis,true⟩) ∧ (code ≠ oviErrorNone → s = ⟨.idle,false⟩)

inductive StartCheck where
  | field (isSet : Bool)
  | link (check : LinkCheck)
  | media
  | type (uid : String)
  | render
  | effectAttrs (uid : String)
  | attrs (uid : String)
  | thread
deriving DecidableEq, Repr

def StartCheck.run (c : StartConfig) : StartCheck → Except Fault Unit
  | .field isSet => StartConfig.refuse isSet
  | .link check => Checks.demand (.raised (.ovi oviErrorInvalidOperation))
    (check.run c.plugins.toLinkedPlugins c.renderUid)
  | .media => ((c.frameExtractor c.mediaPath).mapError .raised).map (fun _ => ())
  | .type uid =>
    match c.frameExtractor c.mediaPath with
    | .error _ => .ok ()
    | .ok mediaInfo => c.plugins.validateType mediaInfo uid
  | .render => c.plugins.requireRender c.renderUid
  | .effectAttrs uid => c.plugins.validateAttrsOf c.renderUid uid
  | .attrs uid => c.plugins.setAttrsOf uid
  | .thread => c.thread.mapError .raised

namespace StartConfig

variable (c : StartConfig)

def fieldChecks : List StartCheck :=
  [.field c.expression.isSome,.field (c.mediaPath != ""),.field (c.renderUid != ""),
    .field (c.outputFilePath != "")]

def linkChecks : List StartCheck :=
  (tokenChecks c.plugins.toPluginManager (c.expression.getD []) "" "").map .link

def pluginChecks : List StartCheck :=
  c.plugins.uids.map .type ++ (.render :: (c.plugins.uids.map .effectAttrs ++
    (c.plugins.uids.map .attrs ++ [.thread])))

def checks : List StartCheck := c.fieldChecks ++ (c.linkChecks ++ .media :: c.pluginChecks)

theorem linkChecks_forM : c.linkChecks.forM (StartCheck.run c) =
    (c.plugins.validateLink c.renderUid (c.expression.getD []) >>= refuse) := by
  rw [linkChecks,Checks.forM_map,LinkedPlugins.validateLink,validateLinkLoop_eq_allM]
  refine (Checks.demand_allM (Fault.raised (.ovi oviErrorInvalidOperation))).symm.trans ?_
  cases List.allM (LinkCheck.run c.plugins.toLinkedPlugins c.renderUid)
    (tokenChecks c.plugins.toPluginManager (c.expression.getD []) "" "") with
  | error fault => rfl
  | ok linked => cases linked <;> rfl

theorem pluginChecks_forM {mediaInfo : MediaInfo}
    (h : c.frameExtractor c.mediaPath = .ok mediaInfo) :
    c.pluginChecks.forM (StartCheck.run c) = (do
      c.plugins.validate mediaInfo
      c.plugins.validateAttrs c.renderUid
      c.plugins.setAllAttrs
      c.thread.mapError .raised) := by
  have htype : (fun uid => StartCheck.run c (.type uid)) = c.plugins.validateType mediaInfo := by
    funext uid
    rw [StartCheck.run,h]
  have hlast : [StartCheck.thread].forM (StartCheck.run c) = c.thread.mapError .raised := by
    change (c.thread.mapError Fault.raised >>= fun _ => pure ()) = _
    cases c.thread <;> rfl
  rw [pluginChecks,Checks.forM_append,Checks.forM_map,htype,Checks.forM_cons,Checks.forM_append,
    Checks.forM_map,Checks.forM_append,Checks.forM_map,hlast,SessionPlugins.validateAttrs]
  simp only [bind_assoc]
  rfl

theorem prepare_eq_forM : c.prepare = c.checks.forM (StartCheck.run c) := by
  have hrest : (StartCheck.media :: c.pluginChecks).forM (StartCheck.run c) = (do
      let mediaInfo ← (c.frameExtractor c.mediaPath).mapError .raised
      c.plugins.validate mediaInfo
      c.plugins.validateAttrs c.renderUid
      c.plugins.setAllAttrs
      c.thread.mapError .raised) := by
    rw [Checks.forM_cons,StartCheck.run]
    cases h : c.frameExtractor c.mediaPath with
    | error e => rfl
    | ok mediaInfo => exact c.pluginChecks_forM h
  rw [checks,Checks.forM_append,Checks.forM_append,linkChecks_forM,hrest,prepare]
  simp only [fieldChecks,Checks.forM_cons,StartCheck.run,bind_assoc]
  rfl

theorem startReports_iff_prepare :
    StartReports c ↔ ∀ fault, c.prepare = .error fault → fault.Reported := by
  have hstart : c.start ⟨.idle,false⟩ = match c.prepare with
    | .error fault => (.error fault,⟨.idle,false⟩)
    | .ok _ => (.ok (),⟨.analysis,true⟩) := rfl
  cases hp : c.prepare with
  | ok u =>
    refine iff_of_true ⟨oviErrorNone,⟨.analysis,true⟩,?_,by simp,fun h => absurd rfl h⟩ ?_
    · rw [oviSessionStart,hstart,hp]
    · intro fault h
      cases h
  | error fault =>
    have hidle : (⟨.idle,false⟩ : StartState) ≠ ⟨.analysis,true⟩ := by decide
    constructor
    · rintro ⟨code,s,hs,hnone,-⟩ fault' he
      obtain rfl := Except.error.inj he
      rw [oviSessionStart,hstart,hp] at hs
      cases fault with
      | undefined => cases hs
      | raised e =>
        cases e with
        | other => cases hs
        | ovi error =>
          cases hs
          exact ⟨code,rfl,fun h0 => hidle (hnone.mp h0)⟩
    · intro h
      obtain ⟨error,rfl,hne⟩ := h fault rfl
      refine ⟨error,⟨.idle,false⟩,?_,?_,fun _ => rfl⟩
      · rw [oviSessionStart,hstart,hp]
      · exact iff_of_false hne hidle

end StartConfig

section Reports

variable {c : StartConfig}

def Unreported {α : Type} (result : Except Fault α) : Prop :=
  ∃ fault, result = .error fault ∧ ¬ fault.Reported

def Reports {α : Type} (result : Except Fault α) : Prop :=
  ∃ fault, result = .error fault ∧ fault.Reported

def LinkCheck.Escapes (c : StartConfig) : LinkCheck → Prop
  | .pair detect effect => c.plugins.exist effect = true ∧
    ((c.plugins.data effect).attrs["name"]? = none ∨
      ∃ name, (c.plugins.data effect).attrs["name"]? = some name ∧
        (Unreported (c.plugins.getMetaForm detect "") ∨
          (∃ form, c.plugins.getMetaForm detect "" = .ok form) ∧
            Unreported (c.plugins.getMetaForm c.renderUid name)))
  | .uncut => False

def StartCheck.Escapes (c : StartConfig) : StartCheck → Prop
  | .link check => check.Escapes c
  | .media => Unreported ((c.frameExtractor c.mediaPath).mapError .raised)
  | .effectAttrs uid => c.plugins.isEffect uid = true ∧
    (c.plugins.data uid).attrs.isEmpty = false ∧
    Unreported ((c.plugins.validateEffectAttrs c.renderUid (c.plugins.data uid).attrs).mapError
      .raised)
  | .attrs uid => (c.plugins.data uid).attrs.isEmpty = false ∧
    Unreported ((c.plugins.setAttrs uid (c.plugins.data uid).attrs).mapError .raised)
  | .thread => Unreported (c.thread.mapError .raised)
  | .field _ | .type _ | .render => False

def LinkCheck.Refuses (c : StartConfig) : LinkCheck → Prop
  | .pair detect effect => c.plugins.exist effect = false ∨
    ∃ name, (c.plugins.exist effect = true ∧
      (c.plugins.data effect).attrs["name"]? = some name) ∧
      (Reports (c.plugins.getMetaForm detect "") ∨
        ∃ form, c.plugins.getMetaForm detect "" = .ok form ∧
          (Reports (c.plugins.getMetaForm c.renderUid name) ∨
            ∃ effectForm, c.plugins.getMetaForm c.renderUid name = .ok effectForm ∧
              equalMetaForm form effectForm = false))
  | .uncut => True

-- every refusal of `start`'s own is OVI_ERROR_INVALID_OPERATION or OVI_ERROR_INVALID_PARAMETER
def StartCheck.Refuses (c : StartConfig) : StartCheck → Prop
  | .field isSet => isSet = false
  | .link check => check.Refuses c
  | .media => Reports ((c.frameExtractor c.mediaPath).mapError .raised)
  | .type uid => ∃ mediaInfo, c.frameExtractor c.mediaPath = .ok mediaInfo ∧
    ∃ type, (c.plugins.find uid).map Plugin.type = some type ∧
      (type ∈ [.videoDetect,.videoEffect] ∧ mediaInfo.hasVideo = false ∨
        type ∈ [.audioDetect,.audioEffect] ∧ mediaInfo.hasAudio = false)
  | .render => c.renderUid = ""
  | .effectAttrs uid => c.plugins.isEffect uid = true ∧
    ((c.plugins.data uid).attrs.isEmpty = true ∨ (c.plugins.data uid).attrs.isEmpty = false ∧
      Reports ((c.plugins.validateEffectAttrs c.renderUid (c.plugins.data uid).attrs).mapError
        .raised))
  | .attrs uid => (c.plugins.data uid).attrs.isEmpty = false ∧
    Reports ((c.plugins.setAttrs uid (c.plugins.data uid).attrs).mapError .raised)
  | .thread => Reports (c.thread.mapError .raised)

theorem reported_refusal {error : ErrorCode} (h : error ≠ oviErrorNone) :
    (Fault.raised (.ovi error)).Reported := ⟨error,rfl,h⟩

theorem ok_no_error {α : Type} {P : Fault → Prop} (a : α) :
    ¬ ∃ fault, (.ok a : Except Fault α) = .error fault ∧ P fault := by
  rintro ⟨fault,h,-⟩
  cases h

theorem not_unreported_ok {α : Type} (a : α) : ¬ Unreported (.ok a) := ok_no_error a

theorem not_unreported_error {α : Type} {fault : Fault} (h : fault.Reported) :
    ¬ Unreported (.error fault : Except Fault α) := by
  rintro ⟨fault',he,hn⟩
  obtain rfl := Except.error.inj he
  exact hn h

theorem unreported_demand {result : Except Fault Bool} :
    Unreported (Checks.demand (.raised (.ovi oviErrorInvalidOperation)) result) ↔
      Unreported result := by
  cases result with
  | error fault => exact ⟨fun ⟨_,h,hn⟩ => ⟨fault,rfl,Except.error.inj h ▸ hn⟩,
      fun ⟨_,h,hn⟩ => ⟨fault,rfl,Except.error.inj h ▸ hn⟩⟩
  | ok b =>
    refine iff_of_false ?_ (not_unreported_ok b)
    cases b with
    | true => exact not_unreported_ok ()
    | false => exact not_unreported_error (reported_refusal (by decide))

theorem error_bind {α β : Type} {P : Fault → Prop} {result : Except Fault α}
    {next : α → Except Fault β} : (∃ fault, result >>= next = .error fault ∧ P fault) ↔
      (∃ fault, result = .error fault ∧ P fault) ∨
        ∃ a, result = .ok a ∧ ∃ fault, next a = .error fault ∧ P fault := by
  cases result with
  | error fault =>
    constructor
    · rintro ⟨fault',h,hn⟩
      exact .inl ⟨fault,rfl,Except.error.inj h ▸ hn⟩
    · rintro (⟨fault',h,hn⟩ | ⟨a,h,-⟩)
      · exact ⟨fault,rfl,Except.error.inj h ▸ hn⟩
      · cases h
  | ok a =>
    constructor
    · exact fun h => .inr ⟨a,rfl,h⟩
    · rintro (⟨fault,h,-⟩ | ⟨a',h,hn⟩)
      · cases h
      · exact Except.ok.inj h ▸ hn

theorem unreported_bind {α β : Type} {result : Except Fault α} {next : α → Except Fault β} :
    Unreported (result >>= next) ↔
      Unreported result ∨ ∃ a, result = .ok a ∧ Unreported (next a) := error_bind

theorem reports_bind {α β : Type} {result : Except Fault α} {next : α → Except Fault β} :
    Reports (result >>= next) ↔ Reports result ∨ ∃ a, result = .ok a ∧ Reports (next a) :=
  error_bind

theorem unreported_getAttr {uid key : String} : Unreported (c.plugins.getAttr uid key) ↔
    c.plugins.exist uid = true ∧ (c.plugins.data uid).attrs[key]? = none := by
  rw [← c.plugins.find_isSome,LinkedPlugins.getAttr]
  cases c.plugins.find uid with
  | none => exact iff_of_false (not_unreported_error (reported_refusal (by decide))) (by simp)
  | some plugin =>
    cases (c.plugins.data uid).attrs[key]? with
    | some value => exact iff_of_false (not_unreported_ok value) (by simp)
    | none =>
      refine iff_of_true ⟨.raised .other,rfl,?_⟩ ⟨rfl,rfl⟩
      rintro ⟨error,h,-⟩
      cases h

theorem getAttr_ok_iff {uid key value : String} : c.plugins.getAttr uid key = .ok value ↔
    c.plugins.exist uid = true ∧ (c.plugins.data uid).attrs[key]? = some value := by
  rw [← c.plugins.find_isSome,LinkedPlugins.getAttr]
  cases c.plugins.find uid with
  | none => simp
  | some plugin => cases (c.plugins.data uid).attrs[key]? <;> simp

theorem linkCheck_escapes (check : LinkCheck) :
    Unreported (check.run c.plugins.toLinkedPlugins c.renderUid) ↔ check.Escapes c := by
  cases check with
  | uncut => exact iff_of_false (not_unreported_error (reported_refusal (by decide))) id
  | pair detect effect =>
    have hlast : ∀ form effectForm,
        ¬ Unreported (.ok (equalMetaForm form effectForm) : Except Fault Bool) :=
      fun _ _ => not_unreported_ok _
    rw [LinkCheck.run,LinkedPlugins.linkAgrees,LinkCheck.Escapes]
    simp only [unreported_bind,unreported_getAttr,getAttr_ok_iff,hlast,and_false,exists_false,
      or_false]
    constructor
    · rintro (⟨he,hn⟩ | ⟨name,⟨he,hname⟩,h | ⟨form,hform,h⟩⟩)
      · exact ⟨he,.inl hn⟩
      · exact ⟨he,.inr ⟨name,hname,.inl h⟩⟩
      · exact ⟨he,.inr ⟨name,hname,.inr ⟨⟨form,hform⟩,h⟩⟩⟩
    · rintro ⟨he,hn | ⟨name,hname,h | ⟨⟨form,hform⟩,h⟩⟩⟩
      · exact .inl ⟨he,hn⟩
      · exact .inr ⟨name,⟨he,hname⟩,.inl h⟩
      · exact .inr ⟨name,⟨he,hname⟩,.inr ⟨form,hform,h⟩⟩

theorem not_unreported_refuse (passes : Bool) : ¬ Unreported (StartConfig.refuse passes) := by
  cases passes with
  | true => exact not_unreported_ok ()
  | false => exact not_unreported_error (reported_refusal (by decide))

theorem not_unreported_validateType (mediaInfo : MediaInfo) (uid : String) :
    ¬ Unreported (c.plugins.validateType mediaInfo uid) := by
  unfold SessionPlugins.validateType
  split
  · exact not_unreported_refuse mediaInfo.hasVideo
  · exact not_unreported_refuse mediaInfo.hasVideo
  · exact not_unreported_refuse mediaInfo.hasAudio
  · exact not_unreported_refuse mediaInfo.hasAudio
  · exact not_unreported_ok ()

theorem not_unreported_requireRender :
    ¬ Unreported (c.plugins.requireRender c.renderUid) := by
  unfold SessionPlugins.requireRender
  by_cases hempty : c.renderUid = ""
  · cases hf : c.plugins.find c.renderUid with
    | none => exact not_unreported_error (reported_refusal (by decide))
    | some plugin => exact absurd hempty (ne_empty_of_find hf)
  · rw [c.render hempty]
    exact not_unreported_ok ()

theorem startCheck_escapes (k : StartCheck) : Unreported (k.run c) ↔ k.Escapes c := by
  cases k with
  | field isSet => exact iff_of_false (not_unreported_refuse isSet) id
  | link check => exact unreported_demand.trans (linkCheck_escapes check)
  | media =>
    rw [StartCheck.run,StartCheck.Escapes]
    cases c.frameExtractor c.mediaPath with
    | ok mediaInfo => exact iff_of_false (not_unreported_ok ()) (not_unreported_ok mediaInfo)
    | error e => exact ⟨fun ⟨_,h,hn⟩ => ⟨_,rfl,Except.error.inj h ▸ hn⟩,
        fun ⟨_,h,hn⟩ => ⟨_,rfl,Except.error.inj h ▸ hn⟩⟩
  | type uid =>
    refine iff_of_false ?_ id
    rw [StartCheck.run]
    split
    · exact not_unreported_ok ()
    · exact not_unreported_validateType _ uid
  | render => exact iff_of_false not_unreported_requireRender id
  | effectAttrs uid =>
    rw [StartCheck.run,StartCheck.Escapes,SessionPlugins.validateAttrsOf]
    cases c.plugins.isEffect uid with
    | false => exact iff_of_false (not_unreported_ok ()) (fun h => Bool.noConfusion h.1)
    | true =>
      cases (c.plugins.data uid).attrs.isEmpty with
      | true =>
        exact iff_of_false (not_unreported_error (reported_refusal (by decide)))
          (fun h => Bool.noConfusion h.2.1)
      | false => exact ⟨fun h => ⟨rfl,rfl,h⟩,fun h => h.2.2⟩
  | attrs uid =>
    rw [StartCheck.run,StartCheck.Escapes,SessionPlugins.setAttrsOf]
    cases (c.plugins.data uid).attrs.isEmpty with
    | true => exact iff_of_false (not_unreported_ok ()) (fun h => Bool.noConfusion h.1)
    | false => exact ⟨fun h => ⟨rfl,h⟩,fun h => h.2⟩
  | thread => exact Iff.rfl

theorem not_reports_ok {α : Type} (a : α) : ¬ Reports (.ok a) := ok_no_error a

theorem reports_error {α : Type} {error : ErrorCode} (h : error ≠ oviErrorNone) :
    Reports (.error (.raised (.ovi error)) : Except Fault α) := ⟨_,rfl,reported_refusal h⟩

theorem reports_refuse (passes : Bool) :
    Reports (StartConfig.refuse passes) ↔ passes = false := by
  cases passes with
  | true => exact iff_of_false (not_reports_ok ()) Bool.noConfusion
  | false => exact iff_of_true (reports_error (by decide)) rfl

theorem reports_demand {result : Except Fault Bool} :
    Reports (Checks.demand (.raised (.ovi oviErrorInvalidOperation)) result) ↔
      Reports result ∨ result = .ok false := by
  cases result with
  | error fault =>
    constructor
    · rintro ⟨_,h,hn⟩
      exact .inl ⟨fault,rfl,Except.error.inj h ▸ hn⟩
    · rintro (⟨_,h,hn⟩ | h)
      · exact ⟨fault,rfl,Except.error.inj h ▸ hn⟩
      · cases h
  | ok b =>
    cases b with
    | true =>
      refine iff_of_false (not_reports_ok ()) ?_
      rintro (h | h)
      · exact not_reports_ok true h
      · cases h
    | false => exact iff_of_true (reports_error (by decide)) (.inr rfl)

theorem reports_getAttr {uid key : String} : Reports (c.plugins.getAttr uid key) ↔
    c.plugins.exist uid = false := by
  rw [← c.plugins.find_isSome,LinkedPlugins.getAttr]
  cases c.plugins.find uid with
  | none => exact iff_of_true (reports_error (by decide)) rfl
  | some plugin =>
    refine iff_of_false ?_ Bool.noConfusion
    cases (c.plugins.data uid).attrs[key]? with
    | some value => exact not_reports_ok value
    | none =>
      rintro ⟨fault,h,error,rfl,-⟩
      cases h

theorem refuses_bind {α : Type} {result : Except Fault α} {next : α → Except Fault Bool} :
    Reports (result >>= next) ∨ result >>= next = .ok false ↔
      Reports result ∨ ∃ a, result = .ok a ∧ (Reports (next a) ∨ next a = .ok false) := by
  rw [reports_bind]
  cases result with
  | error fault =>
    have herror : (.error fault >>= next : Except Fault Bool) ≠ .ok false := fun h => by cases h
    simp [herror]
  | ok a =>
    have hok : (.ok a >>= next : Except Fault Bool) = next a := rfl
    simp [hok,not_reports_ok]

theorem linkCheck_refuses (check : LinkCheck) :
    Reports (check.run c.plugins.toLinkedPlugins c.renderUid) ∨
        check.run c.plugins.toLinkedPlugins c.renderUid = .ok false ↔ check.Refuses c := by
  cases check with
  | uncut => exact iff_of_true (.inl (reports_error (by decide))) trivial
  | pair detect effect =>
    have hlast : ∀ form effectForm,
        (Reports (.ok (equalMetaForm form effectForm) : Except Fault Bool) ∨
          (.ok (equalMetaForm form effectForm) : Except Fault Bool) = .ok false) ↔
          equalMetaForm form effectForm = false :=
      fun form effectForm => ⟨fun h => h.elim (fun h => absurd h (not_reports_ok _)) Except.ok.inj,
        fun h => .inr (congrArg Except.ok h)⟩
    rw [LinkCheck.run,LinkedPlugins.linkAgrees,LinkCheck.Refuses]
    simp only [refuses_bind,reports_getAttr,getAttr_ok_iff,hlast]

theorem reports_validateType (mediaInfo : MediaInfo) (uid : String) :
    Reports (c.plugins.validateType mediaInfo uid) ↔
      ∃ type, (c.plugins.find uid).map Plugin.type = some type ∧
        (type ∈ [.videoDetect,.videoEffect] ∧ mediaInfo.hasVideo = false ∨
          type ∈ [.audioDetect,.audioEffect] ∧ mediaInfo.hasAudio = false) := by
  rw [SessionPlugins.validateType]
  cases (c.plugins.find uid).map Plugin.type with
  | none => exact iff_of_false (not_reports_ok ()) (fun ⟨_,h,_⟩ => by cases h)
  | some type =>
    cases type with
    | videoDetect | videoEffect => exact (reports_refuse mediaInfo.hasVideo).trans (by simp)
    | audioDetect | audioEffect => exact (reports_refuse mediaInfo.hasAudio).trans (by simp)
    | render | none => simpa using not_reports_ok ()

theorem reports_requireRender :
    Reports (c.plugins.requireRender c.renderUid) ↔ c.renderUid = "" := by
  rw [SessionPlugins.requireRender]
  by_cases hempty : c.renderUid = ""
  · refine iff_of_true ?_ hempty
    cases hf : c.plugins.find c.renderUid with
    | none => exact reports_error (by decide)
    | some plugin => exact absurd hempty (ne_empty_of_find hf)
  · rw [c.render hempty]
    exact iff_of_false (not_reports_ok ()) hempty

theorem startCheck_refuses (k : StartCheck) : Reports (k.run c) ↔ k.Refuses c := by
  cases k with
  | field isSet => exact reports_refuse isSet
  | link check => exact reports_demand.trans (linkCheck_refuses check)
  | media =>
    rw [StartCheck.run,StartCheck.Refuses]
    cases c.frameExtractor c.mediaPath with
    | ok mediaInfo => exact iff_of_false (not_reports_ok ()) (not_reports_ok mediaInfo)
    | error e => exact ⟨fun ⟨_,h,hn⟩ => ⟨_,rfl,Except.error.inj h ▸ hn⟩,
        fun ⟨_,h,hn⟩ => ⟨_,rfl,Except.error.inj h ▸ hn⟩⟩
  | type uid =>
    rw [StartCheck.run,StartCheck.Refuses]
    cases c.frameExtractor c.mediaPath with
    | error e => exact iff_of_false (not_reports_ok ()) (fun ⟨_,h,_⟩ => by cases h)
    | ok mediaInfo =>
      refine (reports_validateType mediaInfo uid).trans ?_
      exact ⟨fun h => ⟨mediaInfo,rfl,h⟩,fun ⟨_,h,hrefused⟩ => Except.ok.inj h ▸ hrefused⟩
  | render => exact reports_requireRender
  | effectAttrs uid =>
    rw [StartCheck.run,StartCheck.Refuses,SessionPlugins.validateAttrsOf]
    cases c.plugins.isEffect uid with
    | false => exact iff_of_false (not_reports_ok ()) (fun h => Bool.noConfusion h.1)
    | true =>
      cases (c.plugins.data uid).attrs.isEmpty with
      | true => exact iff_of_true (reports_error (by decide)) ⟨rfl,.inl rfl⟩
      | false => exact ⟨fun h => ⟨rfl,.inr ⟨rfl,h⟩⟩,fun h => h.2.elim Bool.noConfusion And.right⟩
  | attrs uid =>
    rw [StartCheck.run,StartCheck.Refuses,SessionPlugins.setAttrsOf]
    cases (c.plugins.data uid).attrs.isEmpty with
    | true => exact iff_of_false (not_reports_ok ()) (fun h => Bool.noConfusion h.1)
    | false => exact ⟨fun h => ⟨rfl,h⟩,fun h => h.2⟩
  | thread => exact Iff.rfl

theorem start_reports_iff (c : StartConfig) : StartReports c ↔
    ∀ pre k post, c.checks = pre ++ k :: post → k.Escapes c → ∃ x ∈ pre, x.Refuses c := by
  rw [c.startReports_iff_prepare,c.prepare_eq_forM,Checks.forM_error_iff]
  refine forall_congr' (fun pre => forall₂_congr (fun k post => ?_))
  simp only [← startCheck_escapes,← startCheck_refuses]
  exact Iff.rfl

theorem effectAttrs_escapes_ffmpeg {host : Host} {uid : String}
    (hr : ∀ attrs, c.plugins.validateEffectAttrs c.renderUid attrs =
      FFmpegRender.validateEffectAttrs host attrs)
    (h : (StartCheck.effectAttrs uid).Escapes c) :
    ∃ (key value : String) (e : Exn), (c.plugins.data uid).attrs[key]? = some value ∧
      host.stof value = .error e := by
  obtain ⟨-,-,fault,hfault,hn⟩ := h
  rw [hr] at hfault
  cases he : FFmpegRender.validateEffectAttrs host (c.plugins.data uid).attrs with
  | ok u =>
    rw [he] at hfault
    cases hfault
  | error e =>
    rw [he] at hfault
    rcases validateEffectAttrs_error he with ⟨error,rfl,hne⟩ | ⟨key,value,hvalue,hstof⟩
    · exact absurd (Except.error.inj hfault ▸ reported_refusal hne) hn
    · exact ⟨key,value,e,hvalue,hstof⟩

end Reports

section Sample

def sepia : SessionPlugins where
  toPluginManager := videoRender.toPluginManager
  data := fun uid => {
    metaForm := if uid == "FaceDetect.1" then .rect else .none
    attrs := if uid == "VideoEffectMarker.2" then {("name","sepia")} else ∅
    effectMetaForm := FFmpegEffectSpec.inputMetaForm }
  validateEffectAttrs := fun _ =>
    FFmpegRender.validateEffectAttrs ⟨fun _ => .error .other,fun _ => false⟩
  setAttrs := fun _ _ => .ok ()

def sepiaConfig : StartConfig where
  plugins := sepia
  expression := some ["FaceDetect.1",":","VideoEffectMarker.2"]
  mediaPath := "input.mp4"
  renderUid := "FFmpegRender.3"
  outputFilePath := "output.mp4"
  frameExtractor := fun _ => .ok ⟨true,false⟩
  thread := .ok ()
  accepted := by
    intro request h
    obtain rfl := Option.some_inj.mp h
    decide
  render := fun _ => by decide

theorem sepia_not_reported : ¬ StartReports sepiaConfig := by
  rintro ⟨code,s,hs,hnone,-⟩
  have hstart : sepiaConfig.oviSessionStart ⟨.idle,false⟩ = (.ok oviErrorNone,⟨.idle,false⟩) := by
    rfl
  rw [hstart] at hs
  cases hs
  exact absurd (hnone.mp rfl) (by decide)

end Sample

end Ovi
