import Ovi.Render.Cut

namespace Ovi
open FFmpegRender FilterGraph

structure Pad where
  file : Nat
  audio : Bool
deriving DecidableEq, Repr

def Pad.label (p : Pad) : String := toString p.file ++ if p.audio then ":a" else ":v"

structure Concat where
  inputs : List String
  pads : List Pad
  count : Nat
deriving DecidableEq, Repr

namespace Concat

def padsText (pads : List Pad) : String := String.join (pads.map (fun p => pad p.label ++ " "))

def graph (c : Concat) : String :=
  padsText c.pads ++ "concat=n=" ++ toString c.count ++ ":v=1:a=1 [vv] [aa]"

def command (c : Concat) (outputPath : String) : String :=
  "/usr/bin/ffmpeg -y" ++ String.join (c.inputs.map (fun file => " -i " ++ file)) ++
    " -filter_complex \"" ++ c.graph ++ "\" -map \"[vv]\" -map \"[aa]\" " ++ outputPath

def joined (c : Concat) (audio : Bool) : List (Option String) :=
  (c.pads.filter (fun p => p.audio == audio)).map (fun p => c.inputs[p.file]?)

variable {c c' : Concat} {pads : List Pad} {done : List (Stage String)} {f : Stage String}

theorem label_ne (m n : Nat) : toString m ++ ":v" ≠ toString n ++ ":a" := by
  intro h
  have hlist : (toString m).toList ++ [':','v'] = (toString n).toList ++ [':','a'] := by
    simpa using congrArg String.toList h
  have htail := List.append_inj_right' hlist rfl
  revert htail
  decide

theorem label_injective : Function.Injective Pad.label := by
  rintro ⟨m,a⟩ ⟨n,b⟩ h
  cases a with
  | false =>
    cases b with
    | false =>
      obtain rfl := toString_inj ((String.append_left_inj ":v").mp h)
      rfl
    | true => exact absurd h (label_ne m n)
  | true =>
    cases b with
    | false => exact absurd h.symm (label_ne n m)
    | true =>
      obtain rfl := toString_inj ((String.append_left_inj ":a").mp h)
      rfl

theorem closing_label (p : Pad) : ']' ∉ p.label.toList := by
  have hstream : PlainText (if p.audio then ":a" else ":v") := by cases p.audio <;> decide
  exact ((numeric_nat p.file).plain.append hstream).closing

theorem scan_pads : scan ⟨done,f,.inputs⟩ (padsText pads) =
    ⟨done,⟨f.inputs ++ pads.map Pad.label,f.outputs⟩,.inputs⟩ := by
  induction pads generalizing f with
  | nil =>
    rw [List.map_nil,List.append_nil]
    rfl
  | cons p pads ih =>
    have hspace : ∀ f, scan ⟨done,f,.inputs⟩ " " = ⟨done,f,.inputs⟩ := fun _ => rfl
    rw [padsText,List.map_cons,String.join_cons,scan_append,scan_append,
      scan_input (closing_label p),hspace,← padsText,ih,List.map_cons,List.append_assoc]
    rfl

theorem read_graph (c : Concat) :
    FilterGraph.read c.graph = some [⟨c.pads.map Pad.label,["vv","aa"]⟩] := by
  apply Ends.read
  intro done
  have hname : ∀ f, scan ⟨done,f,.inputs⟩ "concat=n=" = ⟨done,f,.text⟩ := fun _ => rfl
  have hcount : PlainText (toString c.count) := (numeric_nat c.count).plain
  have houtputs : ∀ f, scan ⟨done,f,.text⟩ ":v=1:a=1 [vv] [aa]" =
      ⟨done,⟨f.inputs,f.outputs ++ ["vv"] ++ ["aa"]⟩,.outputs⟩ := by
    intro f
    simp [scan,Scanner.step]
  rw [graph,scan_append,scan_append,scan_append,scan_pads,hname,scan_plain hcount,houtputs]
  rfl

theorem pads_of_command {outputPath : String} (h : c.command outputPath = c'.command outputPath)
    (hinputs : c.inputs = c'.inputs) : c.pads = c'.pads := by
  have hgraph : c.graph = c'.graph := by
    have htail := (String.append_left_inj _).mp ((String.append_left_inj outputPath).mp h)
    rw [hinputs] at htail
    exact (String.append_right_inj _).mp htail
  have hread := (read_graph c).symm.trans (hgraph ▸ read_graph c')
  have hlabels : c.pads.map Pad.label = c'.pads.map Pad.label := by simpa using hread
  exact label_injective.list_map hlabels

end Concat

section Order

variable {outputPath effectOutputPath : String} {clips : List TimelineClip} {n : Nat}

def tempFiles (n : Nat) : List String := (List.range' 1 n).map tempFile

def padsOf (n : Nat) : List Pad := (List.range n).flatMap (fun i => [⟨i,false⟩,⟨i,true⟩])

def ConcatenatesAll (outputPath effectOutputPath : String) (clips : List TimelineClip) : Prop :=
  ∃ concat removals, cut outputPath effectOutputPath clips =
      (clips.zipIdx 1).map (fun c => .system (cutCommand effectOutputPath c.1 c.2)) ++
        [.system (Concat.command concat outputPath)] ++ removals ∧
    concat.inputs = tempFiles clips.length ∧ concat.pads = padsOf clips.length ∧
    concat.count = clips.length ∧
    ∀ audio, concat.joined audio = (tempFiles clips.length).map some

def printedPads (n : Nat) : List Pad :=
  (List.range n).flatMap (fun i => [⟨i % 100,false⟩,⟨i % 100,true⟩])

theorem writeInputs_join (i k : Nat) : writeInputs i k =
    String.join (((List.range' i k).map tempFile).map (fun file => " -i " ++ file)) := by
  induction k generalizing i with
  | zero => rfl
  | succ k ih =>
    rw [writeInputs,ih,List.range'_succ,List.map_cons,List.map_cons,String.join_cons]

theorem short_number {i : Nat} (h : i < 100) : (toString i).length ≤ 2 := by
  revert i
  decide

theorem writePads_join (i k : Nat) : writePads i k = Concat.padsText
    ((List.range' i k).flatMap (fun i => [⟨i % 100,false⟩,⟨i % 100,true⟩])) := by
  induction k generalizing i with
  | zero => rfl
  | succ k ih =>
    have hfit : (pad (toString (i % 100) ++ ":v") ++ " " ++ pad (toString (i % 100) ++ ":a") ++
        " ").length < 30 := by
      have hshort := short_number (Nat.mod_lt i (by decide))
      have hbrackets : "[".length = 1 ∧ "]".length = 1 ∧ " ".length = 1 := by decide
      have hstreams : ":v".length = 2 ∧ ":a".length = 2 := by decide
      simp only [pad,String.length_append]
      omega
    have hnumber : Ascii (toString (i % 100)) := (numeric_nat _).ascii
    have hascii : Ascii (pad (toString (i % 100) ++ ":v") ++ " " ++
        pad (toString (i % 100) ++ ":a") ++ " ") := by
      simp only [pad,ascii_append,hnumber,true_and]
      decide
    rw [writePads,hascii.snprintf hfit,ih,List.range'_succ,List.flatMap_cons]
    simp only [Concat.padsText,List.cons_append,List.nil_append,List.map_cons,String.join_cons,
      Pad.label,Bool.false_eq_true,if_false,if_true,String.append_assoc]

theorem concatGraph_eq (n : Nat) :
    concatGraph n = Concat.graph ⟨tempFiles n,printedPads n,n⟩ := by
  have hpads : writePads 0 n = Concat.padsText (printedPads n) := by
    rw [writePads_join,printedPads,List.range_eq_range']
  exact congrArg (fun text => text ++ "concat=n=" ++ toString n ++ ":v=1:a=1 [vv] [aa]") hpads

theorem concatCommand_eq (outputPath : String) (n : Nat) : concatCommand outputPath n =
    Concat.command ⟨tempFiles n,printedPads n,n⟩ outputPath :=
  congrArg₂ (fun files text => "/usr/bin/ffmpeg -y" ++ files ++ " -filter_complex \"" ++ text ++
    "\" -map \"[vv]\" -map \"[aa]\" " ++ outputPath) (writeInputs_join 1 n) (concatGraph_eq n)

theorem stream_files (l : List Nat) (file : Nat → Nat) (audio : Bool) :
    ((l.flatMap (fun i => [⟨file i,false⟩,⟨file i,true⟩])).filter
      (fun p : Pad => p.audio == audio)).map Pad.file = l.map file := by
  induction l with
  | nil => rfl
  | cons i l ih =>
    rw [List.flatMap_cons,List.filter_append,List.map_append,ih]
    cases audio <;> rfl

theorem printedPads_eq_iff (n : Nat) : printedPads n = padsOf n ↔ n ≤ 100 := by
  constructor
  · intro h
    by_contra hmany
    have hfiles := congrArg
      (fun pads : List Pad => (pads.filter (fun p => p.audio == false)).map Pad.file) h
    simp only [printedPads,padsOf,stream_files] at hfiles
    have hentry := congrArg (fun l : List Nat => l[100]?) hfiles
    rw [List.getElem?_map,List.getElem?_map,List.getElem?_range (by omega)] at hentry
    revert hentry
    decide
  · intro h
    refine List.flatMap_congr (fun i hi => ?_)
    rw [Nat.mod_eq_of_lt (by have := List.mem_range.mp hi; omega)]

theorem cutClips_eq (len : Nat) : cutClips effectOutputPath len clips =
    (clips.zipIdx (len + 1)).map
      (fun c => .system (cutCommand effectOutputPath c.1 c.2)) := by
  induction clips generalizing len with
  | nil => rfl
  | cons clip clips ih =>
    rw [cutClips,ih,List.zipIdx_cons,List.map_cons]

theorem cut_eq (h : 2 ≤ clips.length) : cut outputPath effectOutputPath clips =
    (clips.zipIdx 1).map (fun c => .system (cutCommand effectOutputPath c.1 c.2)) ++
      [.system (concatCommand outputPath clips.length)] ++
      (tempFiles clips.length).map CutAction.remove := by
  have hne : clips.isEmpty = false := by
    cases clips with
    | nil => cases h
    | cons => rfl
  rw [cut,if_neg (by simp [hne]),if_neg (by omega),cutClips_eq,tempFiles,List.map_map]
  rfl

theorem joined_all (n : Nat) (audio : Bool) :
    Concat.joined ⟨tempFiles n,padsOf n,n⟩ audio = (tempFiles n).map some := by
  have hfiles : ((padsOf n).filter (fun p => p.audio == audio)).map Pad.file = List.range n :=
    (stream_files (List.range n) id audio).trans (List.map_id _)
  have hlookup := congrArg (List.map (fun i => (tempFiles n)[i]?)) hfiles
  rw [List.map_map] at hlookup
  have hentry : ∀ i ∈ List.range n, (tempFiles n)[i]? = some (tempFile (1 + i)) := by
    intro i hi
    rw [tempFiles,List.getElem?_map,List.getElem?_range' (List.mem_range.mp hi),Nat.one_mul]
    rfl
  have hall : (tempFiles n).map some = (List.range n).map (fun i => some (tempFile (1 + i))) := by
    rw [tempFiles,List.range'_eq_map_range,List.map_map,List.map_map]
    rfl
  rw [hall,← List.map_congr_left hentry]
  exact hlookup

theorem ConcatenatesAll.pads (h : ConcatenatesAll outputPath effectOutputPath clips)
    (hmany : 2 ≤ clips.length) : printedPads clips.length = padsOf clips.length := by
  obtain ⟨concat,removals,hcut,hinputs,hpads,-⟩ := h
  rw [cut_eq hmany,concatCommand_eq,List.append_assoc,List.append_assoc] at hcut
  have hcommand := List.append_cancel_left hcut
  have hsame : Concat.command ⟨tempFiles clips.length,printedPads clips.length,clips.length⟩
      outputPath = concat.command outputPath := by
    injection hcommand with hhead
    injection hhead
  rw [← hpads]
  exact Concat.pads_of_command hsame hinputs.symm

theorem concatenates_all_iff (outputPath effectOutputPath : String) (h : 2 ≤ clips.length) :
    ConcatenatesAll outputPath effectOutputPath clips ↔ clips.length ≤ 100 := by
  rw [← printedPads_eq_iff]
  constructor
  · exact fun hall => hall.pads h
  · intro hpads
    rw [ConcatenatesAll,cut_eq h,concatCommand_eq,hpads]
    exact ⟨⟨tempFiles clips.length,padsOf clips.length,clips.length⟩,_,rfl,rfl,rfl,rfl,
      joined_all clips.length⟩

end Order

section Sample

def halfSecond (i : Nat) : TimelineClip := ⟨i,i + 1/2,"in.mp4"⟩

theorem concatenates_all_iff_two :
    ConcatenatesAll "out.mp4" "" [halfSecond 0,halfSecond 1] ↔
      [halfSecond 0,halfSecond 1].length ≤ 100 :=
  concatenates_all_iff "out.mp4" "" (by decide)

-- the last pads of the command are those of the first file again
theorem hundred_and_one_clips :
    (printedPads 101).drop 200 = [⟨0,false⟩,⟨0,true⟩] ∧
      ¬ ConcatenatesAll "out.mp4" "" ((List.range 101).map halfSecond) := by
  refine ⟨by decide +kernel,fun h => ?_⟩
  have hlength : ((List.range 101).map halfSecond).length = 101 := by
    rw [List.length_map,List.length_range]
  have hpads := h.pads (by rw [hlength]; decide)
  rw [hlength,printedPads_eq_iff] at hpads
  exact absurd hpads (by decide)

end Sample

end Ovi
