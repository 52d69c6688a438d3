import Ovi.Render.Cut
import Ovi.Render.TaskRun

namespace Ovi

structure RenderClip where
  clip : TimelineClip
  rate : ℚ
  effects : List Effect

inductive ShellCommand where
  | effect (inputPath outputPath : String) (cmd : EffectCommand)
  | ffmpeg (cmd : String)
deriving DecidableEq, Repr

inductive FileAction where
  | rename (source target : String)
  | remove (path : String)
deriving DecidableEq, Repr

structure Shell where
  commands : List (ShellCommand × Int)
  printed : List Int
  files : List FileAction

namespace Shell

def start : Shell := ⟨[],[],[]⟩

def system (waitStatus : Nat → Int) (sh : Shell) (cmd : ShellCommand) : Shell :=
  let ret := waitStatus sh.commands.length
  let sh := { sh with commands := sh.commands ++ [(cmd,ret)] }
  if ret = 127 ∨ ret = -1 then { sh with printed := sh.printed ++ [ret] } else sh

def file (sh : Shell) (a : FileAction) : Shell := { sh with files := sh.files ++ [a] }

def perform (waitStatus : Nat → Int) (sh : Shell) : CutAction → Shell
  | .system cmd => sh.system waitStatus (.ffmpeg cmd)
  | .rename source target => sh.file (.rename source target)
  | .remove path => sh.file (.remove path)

end Shell

-- `WIFEXITED`, and `WEXITSTATUS` is zero
def exitedZero (status : Int) : Bool := status % 128 == 0 && status / 256 % 256 == 0

namespace FFmpegEffect

structure EffectRun where
  inputPath : String
  outputPath : String
  fileNum : Nat
  shell : Shell

variable (host : Host) (waitStatus : Nat → Int)

def setOutputPath (fileNum : Nat) (effectName : String) : String :=
  "./effect_" ++ effectName ++ "_" ++ toString fileNum ++ ".mp4"

def applyNext (clip : RenderClip) (r : EffectRun) (effect : Effect) :
    Except (Exn × Shell) EffectRun :=
  let inputPath := if r.outputPath.isEmpty then r.inputPath else r.outputPath
  let outputPath := setOutputPath r.fileNum effect.effectName
  match applyEffect host effect.effectName effect.metadata clip.rate with
  | .error e => .error (e,r.shell)
  | .ok cmd =>
    let shell := if cmd = .unsupported then r.shell
      else r.shell.system waitStatus (.effect inputPath outputPath cmd)
    let shell := if inputPath = clip.clip.targetUrl then shell
      else shell.file (.remove inputPath)
    .ok ⟨inputPath,outputPath,r.fileNum + 1,shell⟩

def applyClip (r : EffectRun) (clip : RenderClip) : Except (Exn × Shell) EffectRun :=
  if clip.effects.isEmpty then .ok r
  else
    let inputPath := if r.inputPath.isEmpty then clip.clip.targetUrl else r.inputPath
    clip.effects.foldlM (applyNext host waitStatus clip) { r with inputPath := inputPath }

-- the constructor, where `fileNum` is the static counter of the files
def construct (fileNum : Nat) (clips : List RenderClip) : Except (Exn × Shell) EffectRun :=
  clips.foldlM (applyClip host waitStatus) ⟨"","",fileNum,.start⟩

end FFmpegEffect

namespace FFmpegRender

def render (host : Host) (waitStatus : Nat → Int) (outputPath : String) (fileNum : Nat)
    (clips : List RenderClip) : Except (Exn × Shell) Shell :=
  if outputPath.isEmpty then .error (.ovi oviErrorInvalidParameter,.start)
  else
    match FFmpegEffect.construct host waitStatus fileNum clips with
    | .error e => .error e
    | .ok r =>
      let shell := (cut outputPath r.outputPath (clips.map RenderClip.clip)).foldl
        (Shell.perform waitStatus) r.shell
      .ok (if r.outputPath.isEmpty then shell else shell.file (.remove r.outputPath))

end FFmpegRender

def supportedEffects : List String :=
  ["boxblur","avgblur","drawbox","brightness","contrast","saturation","drawtext","sticker","volume"]

def Effect.supported (effect : Effect) : Bool := supportedEffects.contains effect.effectName

def cutCommands : Nat → Nat
  | 0 => 0
  | 1 => 1
  | n + 2 => n + 3

def commandCount (clips : List RenderClip) : Nat :=
  (clips.map (fun clip => clip.effects.countP Effect.supported)).sum + cutCommands clips.length

def Effect.Converts (host : Host) (rate : ℚ) (effect : Effect) : Prop :=
  ∃ cmd, FFmpegEffect.applyEffect host effect.effectName effect.metadata rate = .ok cmd

section Commands

variable {host : Host} {waitStatus : Nat → Int} {sh : Shell}

structure Shell.Logged (waitStatus : Nat → Int) (sh : Shell) : Prop where
  statuses : sh.commands.map Prod.snd = (List.range sh.commands.length).map waitStatus

theorem commands_system (cmd : ShellCommand) : (sh.system waitStatus cmd).commands =
    sh.commands ++ [(cmd,waitStatus sh.commands.length)] := by
  rw [Shell.system]
  split <;> rfl

theorem length_system (cmd : ShellCommand) :
    (sh.system waitStatus cmd).commands.length = sh.commands.length + 1 := by
  rw [commands_system,List.length_append,List.length_singleton]

theorem Shell.Logged.system (h : sh.Logged waitStatus) (cmd : ShellCommand) :
    (sh.system waitStatus cmd).Logged waitStatus := by
  constructor
  rw [length_system,commands_system,List.map_append,h.statuses,List.range_succ,List.map_append]
  rfl

theorem Shell.Logged.file (h : sh.Logged waitStatus) (a : FileAction) :
    (sh.file a).Logged waitStatus := ⟨h.statuses⟩

theorem Shell.Logged.exits_iff (h : sh.Logged waitStatus) :
    (∀ c ∈ sh.commands, exitedZero c.2 = true) ↔
      ∀ k < sh.commands.length, exitedZero (waitStatus k) = true := by
  have hmap : (∀ c ∈ sh.commands, exitedZero c.2 = true) ↔
      ∀ status ∈ sh.commands.map Prod.snd, exitedZero status = true := by
    rw [List.forall_mem_map]
  rw [hmap,h.statuses,List.forall_mem_map]
  simp only [List.mem_range]

def CutAction.commands : CutAction → Nat
  | .system _ => 1
  | _ => 0

theorem perform_length (a : CutAction) :
    (sh.perform waitStatus a).commands.length = sh.commands.length + a.commands := by
  cases a with
  | system cmd => exact length_system _
  | rename source target => rfl
  | remove path => rfl

theorem Shell.Logged.perform (h : sh.Logged waitStatus) (a : CutAction) :
    (sh.perform waitStatus a).Logged waitStatus := by
  cases a with
  | system cmd => exact h.system _
  | rename source target => exact h.file _
  | remove path => exact h.file _

theorem perform_all (actions : List CutAction) (h : sh.Logged waitStatus) :
    (actions.foldl (Shell.perform waitStatus) sh).Logged waitStatus ∧
      (actions.foldl (Shell.perform waitStatus) sh).commands.length =
        sh.commands.length + (actions.map CutAction.commands).sum := by
  induction actions generalizing sh with
  | nil => exact ⟨h,rfl⟩
  | cons a actions ih =>
    obtain ⟨hlogged,hlength⟩ := ih (h.perform a)
    refine ⟨hlogged,?_⟩
    rw [List.foldl_cons,hlength,perform_length,List.map_cons,List.sum_cons,Nat.add_assoc]

theorem sum_cutClips (path : String) (len : Nat) (clips : List TimelineClip) :
    ((FFmpegRender.cutClips path len clips).map CutAction.commands).sum = clips.length := by
  induction clips generalizing len with
  | nil => rfl
  | cons clip clips ih =>
    rw [FFmpegRender.cutClips,List.map_cons,List.sum_cons,ih,List.length_cons]
    exact Nat.add_comm _ _

theorem sum_removes (l : List Nat) : ((l.map fun i =>
    CutAction.remove (FFmpegRender.tempFile i)).map CutAction.commands).sum = 0 := by
  induction l with
  | nil => rfl
  | cons i l ih =>
    rw [List.map_cons,List.map_cons,List.sum_cons,ih]
    rfl

theorem sum_cut (outputPath path : String) (clips : List TimelineClip) :
    ((FFmpegRender.cut outputPath path clips).map CutAction.commands).sum =
      cutCommands clips.length := by
  rw [FFmpegRender.cut]
  cases clips with
  | nil => rfl
  | cons clip clips =>
    cases clips with
    | nil => rfl
    | cons clip' clips =>
      have hmany : (clip :: clip' :: clips).length ≠ 1 := by simp
      rw [if_neg (by simp),if_neg hmany,List.map_append,List.sum_append,List.map_append,
        List.sum_append,sum_cutClips,sum_removes]
      rfl

end Commands

section Effects

open FFmpegEffect

variable {host : Host} {waitStatus : Nat → Int} {effectName : String} {metadata : AnyDictionary}
variable {rate : ℚ} {cmd : EffectCommand}

theorem applyBlur_ne (h : applyBlur host effectName metadata rate = .ok cmd) :
    cmd ≠ .unsupported := by
  obtain ⟨intensity,-,h⟩ := Checks.bind_ok h
  obtain ⟨coordInfo,-,h⟩ := Checks.bind_ok h
  rw [← Except.ok.inj h]
  exact fun he => by cases he

theorem applyEq_ne (h : applyEq host effectName metadata rate = .ok cmd) :
    cmd ≠ .unsupported := by
  obtain ⟨value,-,h⟩ := Checks.bind_ok h
  obtain ⟨timeInfo,-,h⟩ := Checks.bind_ok h
  rw [← Except.ok.inj h]
  exact fun he => by cases he

theorem applyBox_ne (h : applyBox host effectName metadata rate = .ok cmd) :
    cmd ≠ .unsupported := by
  obtain ⟨thickness,-,h⟩ := Checks.bind_ok h
  obtain ⟨coordInfo,-,h⟩ := Checks.bind_ok h
  rw [← Except.ok.inj h]
  exact fun he => by cases he

theorem applyText_ne (h : applyText host effectName metadata rate = .ok cmd) :
    cmd ≠ .unsupported := by
  obtain ⟨x,-,h⟩ := Checks.bind_ok h
  obtain ⟨y,-,h⟩ := Checks.bind_ok h
  obtain ⟨strInfo,-,h⟩ := Checks.bind_ok h
  rw [← Except.ok.inj h]
  exact fun he => by cases he

theorem applySticker_ne (h : applySticker host effectName metadata rate = .ok cmd) :
    cmd ≠ .unsupported := by
  obtain ⟨coordInfo,-,h⟩ := Checks.bind_ok h
  rw [← Except.ok.inj h]
  exact fun he => by cases he

theorem applyVolume_ne (h : applyVolume host effectName metadata rate = .ok cmd) :
    cmd ≠ .unsupported := by
  obtain ⟨volume,-,h⟩ := Checks.bind_ok h
  obtain ⟨timeInfo,-,h⟩ := Checks.bind_ok h
  rw [← Except.ok.inj h]
  exact fun he => by cases he

theorem applyEffect_unsupported_iff
    (h : applyEffect host effectName metadata rate = .ok cmd) :
    cmd = .unsupported ↔ supportedEffects.contains effectName = false := by
  cases hin : supportedEffects.contains effectName with
  | true =>
    have hne : cmd ≠ .unsupported := by
      have hmem := List.contains_iff_mem.mp hin
      simp only [supportedEffects,List.mem_cons,List.not_mem_nil,or_false] at hmem
      rcases hmem with rfl | rfl | rfl | rfl | rfl | rfl | rfl | rfl | rfl
      · exact applyBlur_ne h
      · exact applyBlur_ne h
      · exact applyBox_ne h
      · exact applyEq_ne h
      · exact applyEq_ne h
      · exact applyEq_ne h
      · exact applyText_ne h
      · exact applySticker_ne h
      · exact applyVolume_ne h
    exact iff_of_false hne (fun h => by cases h)
  | false =>
    refine iff_of_true ?_ rfl
    simp only [supportedEffects,List.contains_cons,List.contains_nil,Bool.or_eq_false_iff] at hin
    obtain ⟨h₁,h₂,h₃,h₄,h₅,h₆,h₇,h₈,h₉,-⟩ := hin
    simp only [applyEffect,h₁,h₂,h₃,h₄,h₅,h₆,h₇,h₈,h₉,Bool.or_self,Bool.false_eq_true,if_false]
      at h
    exact (Except.ok.inj h).symm

theorem applyNext_ok {clip : RenderClip} {r r' : EffectRun} {effect : Effect}
    (h : applyNext host waitStatus clip r effect = .ok r') :
    (r.shell.Logged waitStatus → r'.shell.Logged waitStatus) ∧
      r'.shell.commands.length =
        r.shell.commands.length + if effect.supported then 1 else 0 := by
  rw [applyNext] at h
  cases hcmd : applyEffect host effect.effectName effect.metadata clip.rate with
  | error e =>
    simp only [hcmd] at h
    cases h
  | ok cmd =>
    have hiff := applyEffect_unsupported_iff hcmd
    simp only [hcmd] at h
    rw [← Except.ok.inj h]
    have hfile : ∀ (sh : Shell) (p : Prop) [Decidable p] (a : FileAction),
        (if p then sh else sh.file a).commands = sh.commands := by
      intro sh p _ a
      split <;> rfl
    have hlogged : ∀ (sh : Shell) (p : Prop) [Decidable p] (a : FileAction),
        sh.Logged waitStatus → (if p then sh else sh.file a).Logged waitStatus := by
      intro sh p _ a hsh
      split
      · exact hsh
      · exact hsh.file a
    rw [hfile]
    by_cases hun : cmd = .unsupported
    · rw [if_pos hun,Effect.supported,hiff.mp hun]
      exact ⟨hlogged _ _ _,rfl⟩
    · rw [if_neg hun,Effect.supported,Bool.eq_true_of_not_eq_false (fun hf => hun (hiff.mpr hf)),
        length_system]
      exact ⟨fun hsh => hlogged _ _ _ (hsh.system _),rfl⟩

theorem applyNext_fails_iff (clip : RenderClip) (r : EffectRun) (effect : Effect) :
    (∃ e, applyNext host waitStatus clip r effect = .error e) ↔
      ¬ effect.Converts host clip.rate := by
  rw [applyNext,Effect.Converts]
  cases hcmd : applyEffect host effect.effectName effect.metadata clip.rate with
  | error e =>
    refine iff_of_true ⟨_,rfl⟩ ?_
    rintro ⟨cmd,h⟩
    cases h
  | ok cmd =>
    refine iff_of_false ?_ (not_not_intro ⟨cmd,rfl⟩)
    rintro ⟨e,h⟩
    cases h

theorem sum_supported (effects : List Effect) :
    (effects.map (fun effect => if effect.supported then 1 else 0)).sum =
      effects.countP Effect.supported := by
  induction effects with
  | nil => rfl
  | cons effect effects ih =>
    rw [List.map_cons,List.sum_cons,ih,List.countP_cons]
    exact Nat.add_comm _ _

theorem applyClip_ok {clip : RenderClip} {r r' : EffectRun}
    (h : applyClip host waitStatus r clip = .ok r') :
    (r.shell.Logged waitStatus → r'.shell.Logged waitStatus) ∧
      r'.shell.commands.length =
        r.shell.commands.length + clip.effects.countP Effect.supported := by
  rw [applyClip] at h
  split at h
  · rename_i hempty
    obtain rfl := Except.ok.inj h
    rw [List.isEmpty_iff.mp hempty]
    exact ⟨id,rfl⟩
  · constructor
    · exact fun hlogged => Checks.foldlM_invariant (P := fun r => r.shell.Logged waitStatus)
        (fun _ _ _ hr hstep => (applyNext_ok hstep).1 hr) hlogged h
    · rw [← sum_supported]
      exact Checks.foldlM_sum (fun r => r.shell.commands.length)
        (fun _ _ _ hstep => (applyNext_ok hstep).2) h

theorem applyClip_fails_iff (r : EffectRun) (clip : RenderClip) :
    (∃ e, applyClip host waitStatus r clip = .error e) ↔
      ∃ effect ∈ clip.effects, ¬ effect.Converts host clip.rate := by
  rw [applyClip]
  split
  · rename_i hempty
    rw [List.isEmpty_iff.mp hempty]
    refine iff_of_false ?_ ?_
    · rintro ⟨e,h⟩
      cases h
    · rintro ⟨effect,h,-⟩
      cases h
  · exact Checks.foldlM_fails_iff (applyNext_fails_iff clip) _

theorem construct_ok {fileNum : Nat} {clips : List RenderClip} {r : EffectRun}
    (h : construct host waitStatus fileNum clips = .ok r) : r.shell.Logged waitStatus ∧
      r.shell.commands.length =
        (clips.map (fun clip => clip.effects.countP Effect.supported)).sum := by
  constructor
  · exact Checks.foldlM_invariant (P := fun r => r.shell.Logged waitStatus)
      (fun _ _ _ hr hstep => (applyClip_ok hstep).1 hr) ⟨rfl⟩ h
  · have hsum := Checks.foldlM_sum (fun r => r.shell.commands.length)
      (fun _ _ _ hstep => (applyClip_ok hstep).2) h
    exact hsum.trans (Nat.zero_add _)

theorem construct_fails_iff (fileNum : Nat) (clips : List RenderClip) :
    (∃ e, construct host waitStatus fileNum clips = .error e) ↔
      ∃ clip ∈ clips, ∃ effect ∈ clip.effects, ¬ effect.Converts host clip.rate :=
  Checks.foldlM_fails_iff applyClip_fails_iff _

end Effects

section Render

variable {host : Host} {waitStatus : Nat → Int} {outputPath : String} {fileNum : Nat}
variable {clips : List RenderClip} {sh : Shell}

def RaisesAnyway (host : Host) (outputPath : String) (clips : List RenderClip) : Prop :=
  outputPath = "" ∨
    ∃ clip ∈ clips, ∃ effect ∈ clip.effects, ¬ effect.Converts host clip.rate

def CommandsExit (waitStatus : Nat → Int) (n : Nat) : Prop :=
  ∀ k < n, exitedZero (waitStatus k) = true

def ReportsFailures (host : Host) (waitStatus : Nat → Int) (outputPath : String) (fileNum : Nat)
    (clips : List RenderClip) : Prop :=
  ∀ sh, FFmpegRender.render host waitStatus outputPath fileNum clips = .ok sh →
    ∀ c ∈ sh.commands, exitedZero c.2 = true

theorem render_fails_iff :
    (∃ e, FFmpegRender.render host waitStatus outputPath fileNum clips = .error e) ↔
      RaisesAnyway host outputPath clips := by
  rw [RaisesAnyway,← @construct_fails_iff host waitStatus fileNum clips,FFmpegRender.render]
  by_cases hempty : outputPath = ""
  · subst hempty
    exact iff_of_true ⟨_,rfl⟩ (.inl rfl)
  · rw [if_neg (by simpa using hempty),or_iff_right hempty]
    cases FFmpegEffect.construct host waitStatus fileNum clips with
    | error e => exact iff_of_true ⟨_,rfl⟩ ⟨_,rfl⟩
    | ok r =>
      refine iff_of_false ?_ ?_
      · rintro ⟨e,h⟩
        cases h
      · rintro ⟨e,h⟩
        cases h

theorem render_ok (h : FFmpegRender.render host waitStatus outputPath fileNum clips = .ok sh) :
    sh.Logged waitStatus ∧ sh.commands.length = commandCount clips := by
  rw [FFmpegRender.render] at h
  split at h
  · cases h
  · cases hr : FFmpegEffect.construct host waitStatus fileNum clips with
    | error e =>
      rw [hr] at h
      cases h
    | ok r =>
      obtain ⟨hlogged,hlength⟩ := construct_ok hr
      let actions := FFmpegRender.cut outputPath r.outputPath (clips.map RenderClip.clip)
      obtain ⟨hlogged',hlength'⟩ := perform_all actions hlogged
      rw [sum_cut,List.length_map,hlength] at hlength'
      rw [hr] at h
      obtain rfl := Except.ok.inj h
      split
      · exact ⟨hlogged',hlength'⟩
      · exact ⟨hlogged'.file _,hlength'⟩

theorem ReportsFailures.exits (h : ReportsFailures host waitStatus outputPath fileNum clips) :
    RaisesAnyway host outputPath clips ∨ CommandsExit waitStatus (commandCount clips) := by
  cases hr : FFmpegRender.render host waitStatus outputPath fileNum clips with
  | error e => exact .inl (render_fails_iff.mp ⟨e,hr⟩)
  | ok sh =>
    obtain ⟨hlogged,hlength⟩ := render_ok hr
    rw [← hlength]
    exact .inr (hlogged.exits_iff.mp (h sh hr))

theorem reportsFailures_of (h : RaisesAnyway host outputPath clips ∨
      CommandsExit waitStatus (commandCount clips)) :
    ReportsFailures host waitStatus outputPath fileNum clips := by
  intro sh hr
  obtain ⟨hlogged,hlength⟩ := render_ok hr
  rcases h with h | h
  · obtain ⟨e,he⟩ := render_fails_iff.mpr h
    rw [hr] at he
    cases he
  · rw [← hlength] at h
    exact hlogged.exits_iff.mpr h

end Render

structure FFmpegTask extends RenderTask where
  mediaPath : String
  host : Host
  waitStatus : Nat → Int
  fileNum : Nat
  pluginManager : PluginManager
  effectInfo : Nat → String → Except Exn AttrMap

namespace FFmpegTask

def renderClip (t : FFmpegTask) (clip : Clip) : RenderClip where
  clip :=
    { startSec := FFmpegRender.toSeconds clip.timeRange.startFrameNum t.framerate
      endSec := FFmpegRender.toSeconds (clip.timeRange.startFrameNum + clip.timeRange.duration)
        t.framerate
      targetUrl := t.mediaPath }
  rate := t.framerate
  effects := clip.effects

def render (t : FFmpegTask) (clips : List Clip) : Except (Exn × Shell) Shell :=
  FFmpegRender.render t.host t.waitStatus t.outputPath t.fileNum (clips.map t.renderClip)

def plugins (t : FFmpegTask) : RenderPlugins where
  pluginManager := t.pluginManager
  effectInfo := t.effectInfo
  setAttrs := fun _ => .ok ()
  render := fun clips =>
    match t.render clips with
    | .ok _ => .ok ()
    | .error (e,_) => .error e

def ReportsFailures (t : FFmpegTask) : Prop :=
  t.worker t.plugins = .ok [oviErrorNone] → ∀ clips, t.makeClips t.plugins = .ok clips →
    ∀ sh, t.render clips = .ok sh → ∀ c ∈ sh.commands, exitedZero c.2 = true

def Loaded (t : FFmpegTask) : Prop :=
  ∃ plugin, t.pluginManager.find t.renderId = some plugin ∧ plugin.type = .render

variable {t : FFmpegTask} {clips : List Clip}

theorem worker_none {sh : Shell} (hl : t.Loaded) (hclips : t.makeClips t.plugins = .ok clips)
    (hr : t.render clips = .ok sh) : t.worker t.plugins = .ok [oviErrorNone] := by
  obtain ⟨plugin,hf,htype⟩ := hl
  have hbody : t.renderClips t.plugins = .ok () := by
    have hrender : t.plugins.render clips = .ok () := by
      simp only [plugins,hr]
    rw [RenderTask.renderClips,hclips]
    change (RenderTask.raise (t.plugins.render clips)) = _
    rw [hrender]
    rfl
  have hfind : t.plugins.pluginManager.find t.renderId = some plugin := hf
  rw [RenderTask.worker,hfind]
  simp only [htype,if_true,hbody]

theorem ReportsFailures.exits (h : t.ReportsFailures) (hl : t.Loaded)
    (hclips : t.makeClips t.plugins = .ok clips) :
    RaisesAnyway t.host t.outputPath (clips.map t.renderClip) ∨
      CommandsExit t.waitStatus (commandCount (clips.map t.renderClip)) := by
  have hrender : Ovi.ReportsFailures t.host t.waitStatus t.outputPath t.fileNum
      (clips.map t.renderClip) :=
    fun sh hr => h (worker_none hl hclips hr) clips hclips sh hr
  exact hrender.exits

theorem loaded_of_none (h : t.worker t.plugins = .ok [oviErrorNone]) : t.Loaded := by
  rw [RenderTask.worker] at h
  split at h
  · cases h
  · rename_i plugin hf
    split at h
    · rename_i htype
      exact ⟨plugin,hf,htype⟩
    · cases h

end FFmpegTask

theorem render_reports_iff (host : Host) (waitStatus : Nat → Int) (outputPath : String)
    (fileNum : Nat) (clips : List RenderClip) (t : FFmpegTask) :
    (ReportsFailures host waitStatus outputPath fileNum clips ↔
      RaisesAnyway host outputPath clips ∨ CommandsExit waitStatus (commandCount clips)) ∧
    (t.ReportsFailures ↔ (t.Loaded → ∀ clips, t.makeClips t.plugins = .ok clips →
      RaisesAnyway t.host t.outputPath (clips.map t.renderClip) ∨
        CommandsExit t.waitStatus (commandCount (clips.map t.renderClip)))) := by
  constructor
  · exact ⟨ReportsFailures.exits,reportsFailures_of⟩
  · constructor
    · exact fun h hl clips hclips => h.exits hl hclips
    · intro h hnone clips hclips
      exact reportsFailures_of (h (FFmpegTask.loaded_of_none hnone) clips hclips)

section Sample

def unfound : FFmpegTask where
  renderId := "FFmpegRender.1"
  framerate := 30
  accumulated := [⟨1,true,∅⟩]
  outputPath := "output.mp4"
  mediaPath := "input.mp4"
  host := ⟨fun _ => .error .other,fun _ => false⟩
  waitStatus := fun _ => 32512
  fileNum := 0
  pluginManager := PluginManager.empty.load 0 "FFmpegRender" ⟨.render⟩
  effectInfo := fun _ _ => .ok ∅

theorem unfound_clip : ∃ clip : Clip, clip.effects = [] ∧
    unfound.makeClips unfound.plugins = .ok [clip] := by
  have h : (unfound.makeClips unfound.plugins).map (List.map fun c => c.effects.isEmpty) =
      .ok [true] := by decide
  cases hclips : unfound.makeClips unfound.plugins with
  | error fault =>
    rw [hclips] at h
    cases h
  | ok clips =>
    rw [hclips] at h
    obtain ⟨clip,rfl,hempty⟩ := List.map_eq_singleton_iff.mp (Except.ok.inj h)
    exact ⟨clip,List.isEmpty_iff.mp hempty,rfl⟩

theorem unfound_not_exits {clip : RenderClip} (h : clip.effects = []) :
    ¬ (RaisesAnyway unfound.host unfound.outputPath [clip] ∨
      CommandsExit unfound.waitStatus (commandCount [clip])) := by
  have hcount : commandCount [clip] = 1 := by simp [commandCount,h,cutCommands]
  rw [hcount]
  rintro ((hpath | ⟨clip',hclip,effect,heffect,-⟩) | hexit)
  · exact absurd hpath (by decide)
  · rw [List.mem_singleton.mp hclip,h] at heffect
    cases heffect
  · exact absurd (hexit 0 Nat.zero_lt_one) (by decide)

theorem unfound_reports_none :
    ¬ ReportsFailures unfound.host unfound.waitStatus "output.mp4" 0
        [⟨⟨0,1,"input.mp4"⟩,30,[]⟩] ∧
      ¬ unfound.ReportsFailures := by
  constructor
  · exact fun h => unfound_not_exits rfl h.exits
  · intro h
    obtain ⟨clip,heffects,hclips⟩ := unfound_clip
    have hl : unfound.Loaded := ⟨⟨.render⟩,by decide,rfl⟩
    exact unfound_not_exits heffects (h.exits hl hclips)

end Sample

end Ovi
