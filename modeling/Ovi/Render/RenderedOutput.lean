import Ovi.Render.RenderedFiles
import Ovi.Render.TimeString
import Ovi.Session.PluginUids

namespace Ovi

structure Ffmpeg (C : Type) where
  effect : EffectCommand → C → C
  part : Nat → Nat → C → C
  concat : List C → C

namespace Ffmpeg

variable {C : Type} (f : Ffmpeg C)

-- a command that misses an input leaves no output, nor does one whose pads are printed twice
def leaves : RenderAction → (String → Option C) → Option C
  | .effect inputPath _ cmd,files => (files inputPath).map (f.effect cmd)
  | .part startTime endTime inputPath _,files => do
    let startMs ← readTime startTime
    let endMs ← readTime endTime
    (files inputPath).map (f.part startMs endMs)
  | .concat len _,files =>
    if len ≤ 100 then (((List.range' 1 len).map FFmpegRender.tempFile).mapM files).map f.concat
    else none
  | .rename _ _,_ => none
  | .remove _,_ => none

-- on a disk where `rename` and `remove` succeed
def tool : Tool C := ⟨fun _ => f.leaves,fun _ _ => true⟩

def effects (cmds : List EffectCommand) (c : C) : C := cmds.foldl (fun c cmd => f.effect cmd c) c

def piece (c : C) (clip : TimelineClip) : C :=
  f.part (milliseconds clip.startSec).toNat (milliseconds clip.endSec).toNat c

def joined : List C → Option C
  | [] => none
  | [c] => some c
  | cs => some (f.concat cs)

end Ffmpeg

def RenderClip.commands (host : Host) (clip : RenderClip) : Except Exn (List EffectCommand) :=
  clip.effects.mapM fun effect =>
    FFmpegEffect.applyEffect host effect.effectName effect.metadata clip.rate

section Effects

open FFmpegEffect

variable {C : Type} {f : Ffmpeg C} {host : Host} {d : Disk C} {clip : RenderClip} {url : String}
  {r : EffectChain} {effect : Effect} {cmd : EffectCommand} {cmds : List EffectCommand}

theorem setOutputPath_inj {m n : Nat} {s t : String}
    (h : setOutputPath m s = setOutputPath n t) : m = n := by
  have hlist : ("./effect_" ++ s).toList ++ '_' :: (toString m ++ ".mp4").toList =
      ("./effect_" ++ t).toList ++ '_' :: (toString n ++ ".mp4").toList := by
    have := congrArg String.toList h
    simpa [setOutputPath] using this
  have hnumber : ∀ k : Nat, '_' ∉ (toString k ++ ".mp4").toList := by
    intro k hk
    rw [String.toList_append,List.mem_append,toList_nat] at hk
    rcases hk with hk | hk
    · exact absurd (Nat.isDigit_of_mem_toDigits (by decide) (by decide) hk) (by decide)
    · exact absurd hk (by decide)
  have hsame := suffix_inj (hnumber m) (hnumber n) hlist
  rw [String.toList_append,String.toList_append] at hsame
  exact toString_inj (String.toList_inj.mp (List.append_cancel_right hsame))

inductive Carries (f : Ffmpeg C) (d : Disk C) (url : String) (r : EffectChain) :
    List EffectCommand → Prop
  | nothing : r.outputPath = "" → r.actions = [] → Carries f d url r []
  | output (cmds : List EffectCommand) (fileNum : Nat) (effectName : String) :
      r.outputPath = setOutputPath fileNum effectName → fileNum < r.fileNum →
      (d.after f.tool r.actions).files r.outputPath = (d.files url).map (f.effects cmds) →
      Carries f d url r cmds

theorem not_stuck (f : Ffmpeg C) (d : Disk C) (actions : List RenderAction) (p : String) :
    ¬TakeFails f.tool d actions p := by
  induction actions generalizing d with
  | nil => exact id
  | cons a actions ih =>
    rintro (⟨-,hfails⟩ | hlater)
    · cases hfails
    · exact ih _ hlater

theorem next_output {inputPath outputPath targetUrl : String} (d : Disk C)
    (hout : outputPath ≠ inputPath) (hsupported : cmd ≠ .unsupported) :
    (d.after f.tool (issues inputPath outputPath cmd ++ removes inputPath targetUrl)).files
      outputPath = (d.files inputPath).map (f.effect cmd) := by
  rw [after_append,issues,if_neg hsupported,removes]
  split
  · exact Function.update_self _ _ _
  · exact (Files.remove_other hout).trans (Function.update_self _ _ _)

theorem carries_next (hurl : clip.clip.targetUrl = url) (hown : url ∉ effectFiles)
    (h : Carries f d url r cmds) (hinput : r.outputPath = "" → r.inputPath = url)
    (hcmd : applyEffect host effect.effectName effect.metadata clip.rate = .ok cmd)
    (hsupported : cmd ≠ .unsupported) :
    ∃ r', chainNext host clip r effect = .ok r' ∧ r'.outputPath ≠ "" ∧
      Carries f d url r' (cmds ++ [cmd]) := by
  subst hurl
  have hnext : chainNext host clip r effect = .ok ⟨nextInput r,
      setOutputPath r.fileNum effect.effectName,r.fileNum + 1,r.actions ++
        (issues (nextInput r) (setOutputPath r.fileNum effect.effectName) cmd ++
          removes (nextInput r) clip.clip.targetUrl)⟩ := by
    rw [chainNext,hcmd]
    rfl
  -- the input holds what the effects so far have made, and it is not the new file
  have hin : (d.after f.tool r.actions).files (nextInput r) =
      (d.files clip.clip.targetUrl).map (f.effects cmds) ∧
      setOutputPath r.fileNum effect.effectName ≠ nextInput r := by
    rw [nextInput]
    cases h with
    | nothing hempty hactions =>
      rw [if_pos ((isEmpty_iff _).mpr hempty),hinput hempty,hactions]
      refine ⟨?_,fun he => hown ⟨_,_,he.symm⟩⟩
      cases hfile : d.files clip.clip.targetUrl <;> exact hfile
    | output cmds fileNum effectName hpath hlt hfile =>
      have hne : r.outputPath ≠ "" := by
        rw [hpath]
        exact setOutputPath_ne _ _
      rw [if_neg fun he => hne ((isEmpty_iff _).mp he)]
      refine ⟨hfile,fun he => ?_⟩
      rw [hpath] at he
      have := setOutputPath_inj he
      omega
  refine ⟨_,hnext,setOutputPath_ne _ _,.output _ r.fileNum effect.effectName rfl
    (Nat.lt_succ_self _) ?_⟩
  rw [after_append,next_output _ hin.2 hsupported,hin.1,Option.map_map]
  refine congrArg (fun g => (d.files clip.clip.targetUrl).map g) (funext fun c => ?_)
  rw [Ffmpeg.effects,List.foldl_append]
  rfl

theorem carries_effects {effects : List Effect} {more : List EffectCommand}
    (hurl : clip.clip.targetUrl = url) (hown : url ∉ effectFiles) (h : Carries f d url r cmds)
    (hinput : r.outputPath = "" → r.inputPath = url)
    (hcmds : effects.mapM (fun effect =>
      applyEffect host effect.effectName effect.metadata clip.rate) = .ok more)
    (hsupported : ∀ cmd ∈ more, cmd ≠ .unsupported) :
    ∃ r', effects.foldlM (chainNext host clip) r = .ok r' ∧
      (effects ≠ [] → r'.outputPath ≠ "") ∧ Carries f d url r' (cmds ++ more) := by
  induction effects generalizing r cmds more with
  | nil =>
    obtain rfl : more = [] := (Except.ok.inj hcmds).symm
    rw [List.append_nil]
    exact ⟨r,rfl,fun hne => absurd rfl hne,h⟩
  | cons effect effects ih =>
    obtain ⟨cmd,more,rfl,hcmd,hmore⟩ := Checks.mapM_cons_ok_iff.mp hcmds
    obtain ⟨r₁,hr₁,hne₁,hcarries⟩ := carries_next hurl hown h hinput hcmd
      (hsupported cmd List.mem_cons_self)
    obtain ⟨r',hr',hlater,hcarries'⟩ := ih hcarries (fun hempty => absurd hempty hne₁) hmore
      (fun cmd hcmd => hsupported cmd (List.mem_cons_of_mem _ hcmd))
    rw [List.append_assoc] at hcarries'
    refine ⟨r',by rw [Checks.foldlM_cons_ok hr₁,hr'],fun _ => ?_,hcarries'⟩
    cases effects with
    | nil =>
      obtain rfl := Except.ok.inj hr'
      exact hne₁
    | cons effect effects => exact hlater (by simp)

theorem carries_clip {more : List EffectCommand} (hurl : clip.clip.targetUrl = url)
    (hown : url ∉ effectFiles) (h : Carries f d url r cmds)
    (hinput : r.outputPath = "" → r.inputPath = "") (hcmds : clip.commands host = .ok more)
    (hsupported : ∀ cmd ∈ more, cmd ≠ .unsupported) :
    ∃ r', chainClip host r clip = .ok r' ∧ (r'.outputPath = "" → r'.inputPath = "") ∧
      Carries f d url r' (cmds ++ more) := by
  rw [chainClip]
  cases heffects : clip.effects with
  | nil =>
    rw [RenderClip.commands,heffects] at hcmds
    obtain rfl : more = [] := (Except.ok.inj hcmds).symm
    rw [List.append_nil]
    exact ⟨r,rfl,hinput,h⟩
  | cons effect effects =>
    rw [RenderClip.commands,heffects] at hcmds
    rw [if_neg (by simp)]
    have hfirst : Carries f d url { r with
        inputPath := if r.inputPath.isEmpty then clip.clip.targetUrl else r.inputPath } cmds := by
      cases h with
      | nothing hempty hactions => exact .nothing hempty hactions
      | output cmds fileNum effectName hpath hlt hfile =>
        exact .output cmds fileNum effectName hpath hlt hfile
    obtain ⟨r',hr',hne,hcarries⟩ := carries_effects hurl hown hfirst
      (fun hempty => (if_pos ((isEmpty_iff _).mpr (hinput hempty))).trans hurl) hcmds hsupported
    exact ⟨r',hr',fun hempty => absurd hempty (hne (by simp)),hcarries⟩

theorem carries_chain {clips : List RenderClip} {more : List (List EffectCommand)}
    (hurls : ∀ clip ∈ clips, clip.clip.targetUrl = url) (hown : url ∉ effectFiles)
    (h : Carries f d url r cmds) (hinput : r.outputPath = "" → r.inputPath = "")
    (hcmds : clips.mapM (RenderClip.commands host) = .ok more)
    (hsupported : ∀ cmd ∈ more.flatten, cmd ≠ .unsupported) :
    ∃ r', clips.foldlM (chainClip host) r = .ok r' ∧ Carries f d url r' (cmds ++ more.flatten) := by
  induction clips generalizing r cmds more with
  | nil =>
    obtain rfl : more = [] := (Except.ok.inj hcmds).symm
    rw [List.flatten_nil,List.append_nil]
    exact ⟨r,rfl,h⟩
  | cons clip clips ih =>
    obtain ⟨first,more,rfl,hfirst,hmore⟩ := Checks.mapM_cons_ok_iff.mp hcmds
    rw [List.flatten_cons] at hsupported ⊢
    obtain ⟨r₁,hr₁,hinput₁,hcarries⟩ := carries_clip (hurls clip List.mem_cons_self) hown h hinput
      hfirst (fun cmd hcmd => hsupported cmd (List.mem_append_left _ hcmd))
    obtain ⟨r',hr',hcarries'⟩ := ih (fun clip hclip => hurls clip (List.mem_cons_of_mem _ hclip))
      hcarries hinput₁ hmore (fun cmd hcmd => hsupported cmd (List.mem_append_right _ hcmd))
    rw [List.append_assoc] at hcarries'
    exact ⟨r',by rw [Checks.foldlM_cons_ok hr₁,hr'],hcarries'⟩

end Effects

section Pieces

open FFmpegRender

variable {C : Type} {f : Ffmpeg C} {d : Disk C} {outputPath path source : String} {c : C}
  {clip : TimelineClip} {clips : List TimelineClip}

def TimelineClip.Short (clip : TimelineClip) : Prop :=
  (0 ≤ clip.startSec ∧ clip.startSec ≤ 359999) ∧ 0 ≤ clip.endSec ∧ clip.endSec ≤ 359999

theorem after_cons (tool : Tool C) (d : Disk C) (a : RenderAction)
    (actions : List RenderAction) :
    d.after tool (a :: actions) = (d.act tool a).after tool actions := rfl

theorem after_nil (tool : Tool C) (d : Disk C) : d.after tool [] = d := rfl

theorem act_part (tool : Tool C) (d : Disk C) (startTime endTime inputPath outputPath : String) :
    (d.act tool (.part startTime endTime inputPath outputPath)).files =
      Function.update d.files outputPath
        (tool.leaves d.steps (.part startTime endTime inputPath outputPath) d.files) := rfl

theorem act_concat (tool : Tool C) (d : Disk C) (len : Nat) (outputPath : String) :
    (d.act tool (.concat len outputPath)).files = Function.update d.files outputPath
      (tool.leaves d.steps (.concat len outputPath) d.files) := rfl

theorem leaves_tool (k : Nat) (a : RenderAction) (files : String → Option C) :
    f.tool.leaves k a files = f.leaves a files := rfl

theorem leaves_part {startMs endMs : Nat} {startTime endTime inputPath outputPath : String}
    {files : String → Option C} (hstart : readTime startTime = some startMs)
    (hend : readTime endTime = some endMs) (hfile : files inputPath = some c) :
    f.leaves (.part startTime endTime inputPath outputPath) files =
      some (f.part startMs endMs c) := by
  simp only [Ffmpeg.leaves,hstart,hend,hfile]
  rfl

theorem part_written (hshort : clip.Short) (hfile : d.files source = some c)
    (hsource : (if path.isEmpty then clip.targetUrl else path) = source) (i : Nat) :
    (d.act f.tool (partOf path clip i)).files (tempFile i) = some (f.piece c clip) := by
  obtain ⟨⟨hstart,hstart'⟩,hend,hend'⟩ := hshort
  rw [← hsource] at hfile
  rw [partOf,act_part,Function.update_self,leaves_tool]
  exact leaves_part (readTime_short hstart hstart') (readTime_short hend hend') hfile

theorem parts_written {len : Nat} (hshort : ∀ clip ∈ clips, clip.Short)
    (hfile : d.files source = some c) (hown : source ∉ tempPaths)
    (hsource : ∀ clip ∈ clips, (if path.isEmpty then clip.targetUrl else path) = source)
    (hfew : len + clips.length < 1000) :
    ((List.range' (len + 1) clips.length).map tempFile).mapM
      (d.after f.tool (parts path len clips)).files = some (clips.map (f.piece c)) := by
  induction clips generalizing d len with
  | nil => rfl
  | cons clip clips ih =>
    have hwritten := part_written (f := f) (hshort clip List.mem_cons_self) hfile
      (hsource clip List.mem_cons_self) (len + 1)
    have hkept : (d.act f.tool (partOf path clip (len + 1))).files source = some c := by
      rw [partOf,act_part,Function.update_of_ne fun he => hown ⟨_,he⟩]
      exact hfile
    rw [List.length_cons] at hfew
    have hlater := ih (fun clip h => hshort clip (List.mem_cons_of_mem _ h)) hkept
      (fun clip h => hsource clip (List.mem_cons_of_mem _ h))
      (by omega : len + 1 + clips.length < 1000)
    -- the later parts go to other files
    have hfirst : (d.after f.tool (parts path len (clip :: clips))).files (tempFile (len + 1)) =
        some (f.piece c clip) := by
      rw [parts,after_cons]
      refine (after_agree _ _ _ fun hp => ?_).trans hwritten
      rw [Set.mem_ofPred_eq,results_parts,temporaries_parts] at hp
      obtain ⟨i,hi,he⟩ := List.mem_map.mp (hp.resolve_right List.not_mem_nil)
      obtain ⟨hlow,hhigh⟩ := List.mem_range'_1.mp hi
      have hi' : i < 1000 := by omega
      have := tempFile_inj hi' (by omega) he
      omega
    rw [List.length_cons,List.range'_succ,List.map_cons,List.mapM_cons,hfirst]
    rw [parts,after_cons,hlater]
    rfl

theorem cut_written (hclips : clips ≠ []) (hfew : clips.length ≤ 100)
    (hshort : ∀ clip ∈ clips, clip.Short) (hfile : d.files source = some c)
    (hown : source ∉ tempPaths) (hout : outputPath ∉ tempPaths)
    (hsource : ∀ clip ∈ clips, (if path.isEmpty then clip.targetUrl else path) = source) :
    (d.after f.tool (cutActions outputPath path clips)).files outputPath =
      f.joined (clips.map (f.piece c)) := by
  have hparts := parts_written (f := f) hshort hfile hown hsource
    (by omega : 0 + clips.length < 1000)
  rcases clips_cases clips with rfl | ⟨clip,rfl⟩ | hmany
  · exact absurd rfl hclips
  · have hwritten := part_written (f := f) (hshort clip List.mem_cons_self) hfile
      (hsource clip List.mem_cons_self) 1
    rw [cutActions_one,after_cons,after_cons,after_nil,act_rename (not_stuck f _ _ _)]
    exact Files.rename_target hwritten
  · have hconcat : f.leaves (.concat clips.length outputPath)
        (d.after f.tool (parts path 0 clips)).files =
          some (f.concat (clips.map (f.piece c))) := by
      rw [Ffmpeg.leaves,if_pos hfew,hparts]
      rfl
    have hdone : ((d.after f.tool (parts path 0 clips)).after f.tool
        [.concat clips.length outputPath]).files outputPath =
        f.joined (clips.map (f.piece c)) := by
      rw [after_cons,after_nil,act_concat,Function.update_self,leaves_tool,hconcat]
      cases clips with
      | nil => cases hmany
      | cons clip clips =>
        cases clips with
        | nil => exact absurd hmany (Nat.not_le_of_lt Nat.one_lt_two)
        | cons clip' clips => rfl
    rw [cutActions_many outputPath path hmany,after_append,after_append,← hdone]
    refine after_agree _ _ outputPath fun hp => ?_
    rw [Set.mem_ofPred_eq,results_removed,temporaries_removed] at hp
    obtain ⟨i,_,he⟩ := List.mem_map.mp (hp.resolve_right List.not_mem_nil)
    exact hout ⟨i,he.symm⟩

end Pieces

section Whole

open FFmpegEffect FFmpegRender

variable {C : Type}

theorem carried_file {f : Ffmpeg C} {d : Disk C} {r : EffectChain} {url : String} {media : C}
    {cmds : List EffectCommand} (h : Carries f d url r cmds) (hmedia : d.files url = some media)
    (clip : TimelineClip) (hurl : clip.targetUrl = url) :
    (d.after f.tool r.actions).files
      (if r.outputPath.isEmpty then clip.targetUrl else r.outputPath) =
        some (f.effects cmds media) := by
  cases h with
  | nothing hempty hactions =>
    rw [if_pos ((isEmpty_iff _).mpr hempty),hactions,hurl]
    exact hmedia
  | output cmds fileNum effectName hpath hlt hfile =>
    have hne : r.outputPath ≠ "" := by
      rw [hpath]
      exact setOutputPath_ne _ _
    rw [if_neg fun he => hne ((isEmpty_iff _).mp he),hfile,hmedia]
    rfl

theorem carried_path {f : Ffmpeg C} {d : Disk C} {r : EffectChain} {url : String}
    {cmds : List EffectCommand} (h : Carries f d url r cmds) :
    r.outputPath = "" ∨ r.outputPath ∈ effectFiles := by
  cases h with
  | nothing hempty hactions => exact .inl hempty
  | output cmds fileNum effectName hpath hlt hfile => exact .inr ⟨_,_,hpath⟩

theorem render_writes (f : Ffmpeg C) (d : Disk C) (dump : Option C) (host : Host)
    (outputPath : String) (fileNum : Nat) (clips : List RenderClip) (url : String) (media : C)
    (cmds : List (List EffectCommand)) (hclips : clips ≠ []) (hfew : clips.length ≤ 100)
    (hshort : ∀ clip ∈ clips, clip.clip.Short)
    (hurls : ∀ clip ∈ clips, clip.clip.targetUrl = url) (hmedia : d.files url = some media)
    (hurl : url ∉ effectFiles ∪ tempPaths ∪ {outputPath ++ ".otio"}) (hempty : outputPath ≠ "")
    (hout : outputPath ∉ effectFiles ∪ tempPaths)
    (hcmds : clips.mapM (RenderClip.commands host) = .ok cmds)
    (hsupported : ∀ cmd ∈ cmds.flatten, cmd ≠ .unsupported) :
    ∃ actions, renderActions host outputPath fileNum clips = .ok actions ∧
      ((d.dumped outputPath dump).after f.tool actions).files outputPath =
        f.joined (clips.map fun clip => f.piece (f.effects cmds.flatten media) clip.clip) := by
  have hurleffect : url ∉ effectFiles := fun h => hurl (.inl (.inl h))
  have hmedia' : (d.dumped outputPath dump).files url = some media :=
    (Disk.dumped_other fun h => hurl (.inr h)).trans hmedia
  obtain ⟨r,hr,hcarries⟩ := carries_chain (f := f) (d := d.dumped outputPath dump)
    (r := ⟨"","",fileNum,[]⟩) hurls hurleffect (.nothing rfl rfl) (fun _ => rfl) hcmds hsupported
  have hchain : chain host fileNum clips = .ok r := hr
  -- the file that the parts are cut from
  let source := if r.outputPath.isEmpty then url else r.outputPath
  have hsource : ∀ clip ∈ clips.map RenderClip.clip,
      (if r.outputPath.isEmpty then clip.targetUrl else r.outputPath) = source := by
    intro clip hclip
    obtain ⟨renderClip,hmem,rfl⟩ := List.mem_map.mp hclip
    rw [hurls renderClip hmem]
  have hfile : ((d.dumped outputPath dump).after f.tool r.actions).files source =
      some (f.effects cmds.flatten media) := carried_file hcarries hmedia' ⟨0,0,url⟩ rfl
  have hown : source ∉ tempPaths := by
    intro htemp
    rcases carried_path hcarries with hpath | hpath
    · have hsame : source = url := if_pos ((isEmpty_iff _).mpr hpath)
      exact hurl (.inl (.inr (hsame ▸ htemp)))
    · have hsame : source = r.outputPath :=
        if_neg fun he => effectFile_ne hpath ((isEmpty_iff _).mp he)
      rw [hsame] at htemp
      have hhead := (effectFile_head hpath).symm.trans (tempPath_head htemp)
      exact absurd hhead (by decide)
  have hshort' : ∀ clip ∈ clips.map RenderClip.clip, clip.Short := by
    intro clip hclip
    obtain ⟨renderClip,hmem,rfl⟩ := List.mem_map.mp hclip
    exact hshort renderClip hmem
  have hcut : (((d.dumped outputPath dump).after f.tool r.actions).after f.tool
      (cutActions outputPath r.outputPath (clips.map RenderClip.clip))).files outputPath =
        f.joined ((clips.map RenderClip.clip).map (f.piece (f.effects cmds.flatten media))) :=
    cut_written (fun h => hclips (List.map_eq_nil_iff.mp h)) (by rwa [List.length_map]) hshort'
      hfile hown (fun h => hout (.inr h)) hsource
  refine ⟨r.actions ++ (cutActions outputPath r.outputPath (clips.map RenderClip.clip) ++
    lastRemoved r.outputPath),?_,?_⟩
  · rw [renderActions,if_neg fun he => hempty ((isEmpty_iff _).mp he),hchain]
    exact congrArg Except.ok (List.append_assoc _ _ _)
  · rw [after_append,after_append]
    refine (after_agree _ _ outputPath fun hp => ?_).trans (hcut.trans ?_)
    · rw [Set.mem_ofPred_eq,results_lastRemoved] at hp
      obtain ⟨rfl,hne⟩ := mem_lastRemoved (hp.resolve_right List.not_mem_nil)
      exact hout (.inl ((carried_path hcarries).resolve_left hne))
    · rw [List.map_map]
      rfl

end Whole

end Ovi
