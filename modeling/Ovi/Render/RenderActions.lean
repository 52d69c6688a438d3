import Ovi.Render.RenderRun

namespace Ovi

inductive RenderAction where
  | effect (inputPath outputPath : String) (cmd : EffectCommand)
  | part (startTime endTime inputPath outputPath : String)
  | concat (len : Nat) (outputPath : String)
  | rename (source target : String)
  | remove (path : String)
deriving DecidableEq, Repr

namespace RenderAction

def perform (waitStatus : Nat → Int) (sh : Shell) : RenderAction → Shell
  | .effect inputPath outputPath cmd => sh.system waitStatus (.effect inputPath outputPath cmd)
  | .part startTime endTime inputPath outputPath =>
    sh.system waitStatus (.ffmpeg ("/usr/bin/ffmpeg -y -ss " ++ startTime ++ " -to " ++ endTime ++
      " -i " ++ inputPath ++ " -c copy " ++ outputPath))
  | .concat len outputPath =>
    sh.system waitStatus (.ffmpeg (FFmpegRender.concatCommand outputPath len))
  | .rename source target => sh.file (.rename source target)
  | .remove path => sh.file (.remove path)

end RenderAction

namespace FFmpegEffect

structure EffectChain where
  inputPath : String
  outputPath : String
  fileNum : Nat
  actions : List RenderAction

def issues (inputPath outputPath : String) (cmd : EffectCommand) : List RenderAction :=
  if cmd = .unsupported then [] else [.effect inputPath outputPath cmd]

def removes (inputPath targetUrl : String) : List RenderAction :=
  if inputPath = targetUrl then [] else [.remove inputPath]

variable (host : Host)

def chainNext (clip : RenderClip) (r : EffectChain) (effect : Effect) :
    Except (Exn × List RenderAction) EffectChain :=
  let inputPath := if r.outputPath.isEmpty then r.inputPath else r.outputPath
  let outputPath := setOutputPath r.fileNum effect.effectName
  match applyEffect host effect.effectName effect.metadata clip.rate with
  | .error e => .error (e,r.actions)
  | .ok cmd =>
    .ok ⟨inputPath,outputPath,r.fileNum + 1,r.actions ++
      (issues inputPath outputPath cmd ++ removes inputPath clip.clip.targetUrl)⟩

def chainClip (r : EffectChain) (clip : RenderClip) :
    Except (Exn × List RenderAction) EffectChain :=
  if clip.effects.isEmpty then .ok r
  else
    let inputPath := if r.inputPath.isEmpty then clip.clip.targetUrl else r.inputPath
    clip.effects.foldlM (chainNext host clip) { r with inputPath := inputPath }

def chain (fileNum : Nat) (clips : List RenderClip) :
    Except (Exn × List RenderAction) EffectChain :=
  clips.foldlM (chainClip host) ⟨"","",fileNum,[]⟩

end FFmpegEffect

namespace FFmpegRender

def partOf (path : String) (clip : TimelineClip) (i : Nat) : RenderAction :=
  .part (toTimeString clip.startSec) (toTimeString clip.endSec)
    (if path.isEmpty then clip.targetUrl else path) (tempFile i)

def parts (path : String) : Nat → List TimelineClip → List RenderAction
  | _,[] => []
  | len,clip :: clips => partOf path clip (len + 1) :: parts path (len + 1) clips

def cutActions (outputPath path : String) (clips : List TimelineClip) : List RenderAction :=
  if clips.isEmpty then []
  else if clips.length = 1 then
    parts path 0 clips ++ [.rename (tempFile clips.length) outputPath]
  else
    parts path 0 clips ++ [.concat clips.length outputPath] ++
      (List.range' 1 clips.length).map (fun i => .remove (tempFile i))

def renderActions (host : Host) (outputPath : String) (fileNum : Nat) (clips : List RenderClip) :
    Except (Exn × List RenderAction) (List RenderAction) :=
  if outputPath.isEmpty then .error (.ovi oviErrorInvalidParameter,[])
  else
    match FFmpegEffect.chain host fileNum clips with
    | .error e => .error e
    | .ok r =>
      .ok (r.actions ++ cutActions outputPath r.outputPath (clips.map RenderClip.clip) ++
        if r.outputPath.isEmpty then [] else [.remove r.outputPath])

end FFmpegRender

section Performed

open FFmpegEffect FFmpegRender

variable {host : Host} {waitStatus : Nat → Int}

def performed (waitStatus : Nat → Int) (actions : List RenderAction) : Shell :=
  actions.foldl (RenderAction.perform waitStatus) .start

def FFmpegEffect.EffectChain.run (waitStatus : Nat → Int) (r : EffectChain) : EffectRun :=
  ⟨r.inputPath,r.outputPath,r.fileNum,performed waitStatus r.actions⟩

def raised (waitStatus : Nat → Int) (e : Exn × List RenderAction) : Exn × Shell :=
  (e.1,performed waitStatus e.2)

theorem performed_append (actions actions' : List RenderAction) :
    performed waitStatus (actions ++ actions') =
      actions'.foldl (RenderAction.perform waitStatus) (performed waitStatus actions) := by
  rw [performed,performed,List.foldl_append]

theorem removes_performed (inputPath targetUrl : String) (sh : Shell) :
    (removes inputPath targetUrl).foldl (RenderAction.perform waitStatus) sh =
      if inputPath = targetUrl then sh else sh.file (.remove inputPath) := by
  rw [removes]
  split <;> rfl

theorem issues_performed (inputPath outputPath : String) (cmd : EffectCommand) (sh : Shell) :
    (issues inputPath outputPath cmd).foldl (RenderAction.perform waitStatus) sh =
      if cmd = .unsupported then sh
      else sh.system waitStatus (.effect inputPath outputPath cmd) := by
  rw [issues]
  split <;> rfl

theorem applyNext_run (clip : RenderClip) (r : EffectChain) (effect : Effect) :
    applyNext host waitStatus clip (r.run waitStatus) effect =
      ((chainNext host clip r effect).map (EffectChain.run waitStatus)).mapError
        (raised waitStatus) := by
  rw [applyNext,chainNext]
  dsimp only [EffectChain.run]
  cases applyEffect host effect.effectName effect.metadata clip.rate with
  | error e => rfl
  | ok cmd =>
    have hshell : ∀ inputPath outputPath, performed waitStatus (r.actions ++
        (issues inputPath outputPath cmd ++ removes inputPath clip.clip.targetUrl)) =
        let shell := if cmd = .unsupported then performed waitStatus r.actions
          else (performed waitStatus r.actions).system waitStatus
            (.effect inputPath outputPath cmd)
        if inputPath = clip.clip.targetUrl then shell else shell.file (.remove inputPath) := by
      intro inputPath outputPath
      rw [performed_append,List.foldl_append,removes_performed,issues_performed]
    exact congrArg (fun shell => Except.ok (EffectRun.mk _ _ _ shell)) (hshell _ _).symm

theorem applyClip_run (r : EffectChain) (clip : RenderClip) :
    applyClip host waitStatus (r.run waitStatus) clip =
      ((chainClip host r clip).map (EffectChain.run waitStatus)).mapError (raised waitStatus) := by
  rw [applyClip,chainClip]
  cases clip.effects.isEmpty with
  | true => rfl
  | false =>
    rw [if_neg Bool.false_ne_true,if_neg Bool.false_ne_true]
    exact Checks.foldlM_map (applyNext_run clip) clip.effects
      { r with inputPath := if r.inputPath.isEmpty then clip.clip.targetUrl else r.inputPath }

theorem construct_run (fileNum : Nat) (clips : List RenderClip) :
    construct host waitStatus fileNum clips =
      ((chain host fileNum clips).map (EffectChain.run waitStatus)).mapError
        (raised waitStatus) :=
  Checks.foldlM_map applyClip_run clips ⟨"","",fileNum,[]⟩

theorem parts_performed (path : String) (len : Nat) (clips : List TimelineClip) (sh : Shell) :
    (cutClips path len clips).foldl (Shell.perform waitStatus) sh =
      (parts path len clips).foldl (RenderAction.perform waitStatus) sh := by
  induction clips generalizing len sh with
  | nil => rfl
  | cons clip clips ih => exact ih (len + 1) _

theorem cut_performed (outputPath path : String) (clips : List TimelineClip) (sh : Shell) :
    (cut outputPath path clips).foldl (Shell.perform waitStatus) sh =
      (cutActions outputPath path clips).foldl (RenderAction.perform waitStatus) sh := by
  rw [cut,cutActions]
  split
  · rfl
  · split
    · rw [List.foldl_append,List.foldl_append,parts_performed]
      rfl
    · rw [List.foldl_append,List.foldl_append,List.foldl_append,List.foldl_append,parts_performed,
        List.foldl_map,List.foldl_map]
      rfl

theorem render_performed (outputPath : String) (fileNum : Nat) (clips : List RenderClip) :
    render host waitStatus outputPath fileNum clips =
      ((renderActions host outputPath fileNum clips).map (performed waitStatus)).mapError
        (raised waitStatus) := by
  rw [render,renderActions]
  cases outputPath.isEmpty with
  | true => rfl
  | false =>
    rw [if_neg Bool.false_ne_true,if_neg Bool.false_ne_true,construct_run]
    cases chain host fileNum clips with
    | error e => rfl
    | ok r =>
      simp only [Except.map,Except.mapError,EffectChain.run,cut_performed,performed_append]
      split <;> rfl

end Performed

end Ovi
