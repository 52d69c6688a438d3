import Ovi.Library.Files
import Ovi.Render.RenderActions
import Mathlib.Data.Set.Insert

namespace Ovi

-- what happens in the step with this number: what a command leaves at its output, whether it
-- succeeds or not, and whether `rename` or `remove` does anything
structure Tool (C : Type) where
  leaves : Nat → RenderAction → (String → Option C) → Option C
  works : Nat → RenderAction → Bool

structure Disk (C : Type) where
  steps : Nat
  files : String → Option C

namespace Disk

variable {C : Type} (tool : Tool C)

def command (d : Disk C) (a : RenderAction) (outputPath : String) : Disk C :=
  ⟨d.steps + 1,Function.update d.files outputPath (tool.leaves d.steps a d.files)⟩

def file (d : Disk C) (a : RenderAction) (files : String → Option C) : Disk C :=
  ⟨d.steps + 1,if tool.works d.steps a then files else d.files⟩

def act (d : Disk C) (a : RenderAction) : Disk C :=
  match a with
  | .effect _ outputPath _ => d.command tool a outputPath
  | .part _ _ _ outputPath => d.command tool a outputPath
  | .concat _ outputPath => d.command tool a outputPath
  | .rename source target => d.file tool a (Files.rename d.files source target)
  | .remove path => d.file tool a (Files.remove d.files path)

def after (d : Disk C) (actions : List RenderAction) : Disk C := actions.foldl (act tool) d

-- `to_json_file` for debugging, before the first command
def dumped (d : Disk C) (outputPath : String) (dump : Option C) : Disk C :=
  if outputPath.isEmpty then d
  else { d with files := Function.update d.files (outputPath ++ ".otio") dump }

theorem dumped_other {d : Disk C} {outputPath p : String} {dump : Option C}
    (h : p ≠ outputPath ++ ".otio") : (d.dumped outputPath dump).files p = d.files p := by
  rw [dumped]
  split
  · rfl
  · exact Function.update_of_ne h _ _

end Disk

def RenderAction.temporaries : RenderAction → List String
  | .effect _ outputPath _ => [outputPath]
  | .part _ _ _ outputPath => [outputPath]
  | .concat _ _ => []
  | .rename source _ => [source]
  | .remove path => [path]

def temporaries (actions : List RenderAction) : List String :=
  actions.flatMap RenderAction.temporaries

def RenderAction.results : RenderAction → List String
  | .concat _ outputPath => [outputPath]
  | .rename _ target => [target]
  | _ => []

def results (actions : List RenderAction) : List String := actions.flatMap RenderAction.results

def RenderAction.takesAway : RenderAction → Option String
  | .rename source _ => some source
  | .remove path => some path
  | _ => none

-- a `rename` or a `remove` of the file has failed, and nobody looks at its result
def TakeFails {C : Type} (tool : Tool C) : Disk C → List RenderAction → String → Prop
  | _,[],_ => False
  | d,a :: actions,p =>
    a.takesAway = some p ∧ tool.works d.steps a = false ∨ TakeFails tool (d.act tool a) actions p

def effectFiles : Set String :=
  { p | ∃ fileNum effectName, p = FFmpegEffect.setOutputPath fileNum effectName }

section Frame

variable {C : Type} {tool : Tool C} {d : Disk C} {actions actions' : List RenderAction}

theorem after_append (d : Disk C) (actions actions' : List RenderAction) :
    d.after tool (actions ++ actions') = (d.after tool actions).after tool actions' :=
  List.foldl_append

theorem act_rename {source target : String}
    (hs : ¬TakeFails tool d [.rename source target] source) :
    (d.act tool (.rename source target)).files = Files.rename d.files source target := by
  change (if tool.works d.steps (.rename source target) then _ else d.files) = _
  cases hw : tool.works d.steps (.rename source target) with
  | true => exact if_pos rfl
  | false => exact absurd (.inl ⟨rfl,hw⟩) hs

theorem file_agree {changed : Set String} (a : RenderAction) {files : String → Option C}
    (h : Files.Agree changed d.files files) :
    Files.Agree changed d.files (d.file tool a files).files := by
  rw [Disk.file]
  dsimp only
  split
  · exact h
  · exact Files.Agree.refl _ _

theorem act_agree (a : RenderAction) : Files.Agree { p | p ∈ a.temporaries ∨ p ∈ a.results }
    d.files (d.act tool a).files := by
  cases a with
  | effect inputPath outputPath cmd => exact Files.agree_update (.inl List.mem_cons_self) _
  | part startTime endTime inputPath outputPath =>
    exact Files.agree_update (.inl List.mem_cons_self) _
  | concat len outputPath => exact Files.agree_update (.inr List.mem_cons_self) _
  | rename source target =>
    exact file_agree _ (Files.agree_rename (.inl List.mem_cons_self) (.inr List.mem_cons_self))
  | remove path => exact file_agree _ (Files.agree_remove (.inl List.mem_cons_self))

theorem after_agree (d : Disk C) (actions : List RenderAction) :
    Files.Agree { p | p ∈ temporaries actions ∨ p ∈ results actions } d.files
      (d.after tool actions).files := by
  induction actions generalizing d with
  | nil => exact Files.Agree.refl _ _
  | cons a actions ih =>
    refine ((act_agree a).mono fun p hp => ?_).trans ((ih (d.act tool a)).mono fun p hp => ?_)
    · exact hp.imp (List.mem_append_left _) (List.mem_append_left _)
    · exact hp.imp (List.mem_append_right _) (List.mem_append_right _)

end Frame

section Chain

open FFmpegEffect

variable {C : Type} {host : Host} {tool : Tool C} {d : Disk C} {clip : RenderClip}
  {r r' : EffectChain} {effect : Effect}

theorem setOutputPath_ne (fileNum : Nat) (effectName : String) :
    setOutputPath fileNum effectName ≠ "" := by
  intro h
  have hlist := congrArg String.toList h
  simp [setOutputPath] at hlist

theorem effectFile_ne {p : String} (h : p ∈ effectFiles) : p ≠ "" := by
  obtain ⟨fileNum,effectName,rfl⟩ := h
  exact setOutputPath_ne fileNum effectName

theorem isEmpty_iff (s : String) : s.isEmpty = true ↔ s = "" := by
  simp

def nextInput (r : EffectChain) : String :=
  if r.outputPath.isEmpty then r.inputPath else r.outputPath

end Chain

def tempPaths : Set String := { p | ∃ i, p = FFmpegRender.tempFile i }

section Cleanup

open FFmpegRender

variable {C : Type} {host : Host} {tool : Tool C} {d : Disk C} {outputPath path : String}
  {clips : List TimelineClip}

theorem temporaries_parts (len : Nat) (clips : List TimelineClip) :
    temporaries (parts path len clips) = (List.range' (len + 1) clips.length).map tempFile := by
  induction clips generalizing len with
  | nil => rfl
  | cons clip clips ih => exact congrArg (List.cons _) (ih (len + 1))

theorem results_parts (len : Nat) (clips : List TimelineClip) :
    results (parts path len clips) = [] := by
  induction clips generalizing len with
  | nil => rfl
  | cons clip clips ih => exact ih (len + 1)

theorem temporaries_removed (paths : List String) :
    temporaries (paths.map RenderAction.remove) = paths := by
  induction paths with
  | nil => rfl
  | cons path paths ih => exact congrArg (List.cons _) ih

theorem results_removed (paths : List String) : results (paths.map RenderAction.remove) = [] := by
  induction paths with
  | nil => rfl
  | cons path paths ih => exact ih

theorem cutActions_one (outputPath path : String) (clip : TimelineClip) :
    cutActions outputPath path [clip] =
      [partOf path clip 1,.rename (tempFile 1) outputPath] := rfl

theorem cutActions_many (outputPath path : String) {clips : List TimelineClip}
    (h : 2 ≤ clips.length) : cutActions outputPath path clips =
      parts path 0 clips ++ ([.concat clips.length outputPath] ++
        ((List.range' 1 clips.length).map tempFile).map RenderAction.remove) := by
  have hne : clips.isEmpty = false := by
    cases clips with
    | nil => cases h
    | cons clip clips => rfl
  rw [cutActions,hne,if_neg Bool.false_ne_true,if_neg (by omega),List.append_assoc,List.map_map]
  rfl

theorem clips_cases (clips : List TimelineClip) :
    clips = [] ∨ (∃ clip, clips = [clip]) ∨ 2 ≤ clips.length := by
  cases clips with
  | nil => exact .inl rfl
  | cons clip clips =>
    cases clips with
    | nil => exact .inr (.inl ⟨clip,rfl⟩)
    | cons clip' clips => exact .inr (.inr (Nat.le_add_left 2 _))

def lastRemoved (path : String) : List RenderAction := if path.isEmpty then [] else [.remove path]

theorem mem_lastRemoved {p : String} (h : p ∈ temporaries (lastRemoved path)) :
    p = path ∧ path ≠ "" := by
  rw [lastRemoved] at h
  split at h
  · cases h
  · rename_i hne
    exact ⟨List.mem_singleton.mp h,fun he => hne ((isEmpty_iff _).mpr he)⟩

theorem results_lastRemoved : results (lastRemoved path) = [] := by
  rw [lastRemoved]
  split <;> rfl

theorem effectFile_head {p : String} (h : p ∈ effectFiles) : p.toList.head? = some '.' := by
  obtain ⟨fileNum,effectName,rfl⟩ := h
  simp [FFmpegEffect.setOutputPath]

theorem tempPath_head {p : String} (h : p ∈ tempPaths) : p.toList.head? = some 't' := by
  obtain ⟨i,rfl⟩ := h
  rw [tempFile,snprintf,String.toList_ofList,String.toList_append,String.toList_append]
  rfl

theorem ordinary_path {p : String} {c : Char} (hp : p.toList.head? = some c) (hdot : c ≠ '.')
    (ht : c ≠ 't') : p ∉ effectFiles ∧ p ∉ tempPaths := by
  constructor
  · intro h
    rw [effectFile_head h] at hp
    exact hdot (Option.some.inj hp).symm
  · intro h
    rw [tempPath_head h] at hp
    exact ht (Option.some.inj hp).symm

def plainHost : Host := ⟨fun _ => .error .other,fun _ => false⟩

end Cleanup

end Ovi
