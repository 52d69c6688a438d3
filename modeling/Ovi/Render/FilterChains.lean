import Ovi.Render.CmdGenerator

namespace Ovi
open CmdGenerator FilterGraph

section Segments

variable {s : String} {graph : List (Stage String)} {f : Stage String}

theorem closing_label {name : String} (h : PlainText name) (i : Nat) :
    ']' ∉ (name ++ toString i).toList := (h.append (numeric_nat i).plain).closing

theorem closing_cropLabel (i : Nat) : ']' ∉ (cropLabel i).toList := closing_label (by decide) i

theorem closing_ovrLabel (i : Nat) : ']' ∉ (ovrLabel i).toList := closing_label (by decide) i

theorem closing_scaleLabel (i : Nat) : ']' ∉ (scaleLabel i).toList := closing_label (by decide) i

theorem plain_double (x : CFloat) : PlainText (formatDouble x) := (numeric_formatDouble x).plain

theorem scan_overlay (done : List (Stage String)) (f : Stage String) (c : CoordinateInfo) :
    scan ⟨done,f,.inputs⟩ (overlay c) = ⟨done,f,.text⟩ := by
  have hname : scan ⟨done,f,.inputs⟩ "overlay=" = ⟨done,f,.text⟩ := rfl
  have hhead : scan ⟨done,f,.inputs⟩ ("overlay=" ++ formatDouble (.number c.x) ++ ":" ++
      formatDouble (.number c.y) ++ ":enable=") = ⟨done,f,.text⟩ := by
    rw [scan_append,scan_append,scan_append,scan_append,hname,scan_plain (plain_double _),
      scan_plain (by decide),scan_plain (plain_double _),scan_plain (by decide)]
  have hquoted : '\'' ∉ ("between(t," ++ formatDouble c.time.startSec ++ "," ++
      formatDouble c.time.endSec ++ ")").toList := by
    simp only [String.toList_append,List.mem_append,not_or]
    exact ⟨⟨⟨⟨by decide,(plain_double _).quote⟩,by decide⟩,(plain_double _).quote⟩,by decide⟩
  rw [overlay,scan_append,scan_append,hhead,scan_quote hquoted]
  rfl

theorem cropSegment_reads {blurName : String} (hname : blurName ∈ ["boxblur","avgblur"])
    (intensity : Int) (i : Nat) (c : CoordinateInfo) :
    Reads (cropSegment blurName intensity i c) [⟨["0:v"],[cropLabel (i + 1)]⟩] blank .inputs := by
  have hcrop : Reads (pad "0:v" ++ "crop=") [] ⟨["0:v"],[]⟩ .text :=
    (Reads.pad (by decide)).append (fun _ => rfl)
  have hwidth := (hcrop.plain (plain_double (.number c.w))).plain (by decide : PlainText ":")
  have hsize := (hwidth.plain (plain_double (.number c.h))).plain (by decide : PlainText ":")
  have hrect := ((hsize.plain (plain_double (.number c.x))).plain (by decide : PlainText ":")).plain
    (plain_double (.number c.y))
  have hcomma : Reads (_ ++ ",") [] ⟨["0:v"],[]⟩ .inputs := hrect.append (fun _ => rfl)
  have hblur : ∀ done, scan ⟨done,⟨["0:v"],[]⟩,.inputs⟩ blurName = ⟨done,⟨["0:v"],[]⟩,.text⟩ := by
    intro done
    simp only [List.mem_cons,List.not_mem_nil,or_false] at hname
    rcases hname with rfl | rfl <;> rfl
  have hintensity := ((hcomma.append hblur).plain (by decide : PlainText "=")).plain
    (numeric_int intensity).plain
  exact (hintensity.output (closing_cropLabel (i + 1))).finish (fun _ => rfl)

def background (i : Nat) : String := if i = 0 then "0:v" else ovrLabel i

def overlayFilter (label : Nat → String) (i : Nat) (outputs : List String) : Stage String :=
  ⟨[background i,label (i + 1)],outputs⟩

theorem closing_background (i : Nat) : ']' ∉ (background i).toList := by
  unfold background
  split
  · decide
  · exact closing_ovrLabel i

theorem overlay_reads (h : Reads s graph blank .inputs) {label : Nat → String}
    (hlabel : ∀ i, ']' ∉ (label i).toList) (i : Nat) (c : CoordinateInfo) :
    Reads (s ++ pad (background i) ++ pad (label (i + 1)) ++ overlay c) graph
      (overlayFilter label i []) .text :=
  ((h.input (closing_background i)).input (hlabel (i + 1))).append
    (fun done => scan_overlay done _ c)

theorem blurSegment_reads {size i : Nat} (h : i + 1 < size) (c : CoordinateInfo) :
    Reads (blurSegment size i c) [overlayFilter cropLabel i [ovrLabel (i + 1)]] blank .inputs := by
  have hsegment : blurSegment size i c = "" ++ pad (background i) ++ pad (cropLabel (i + 1)) ++
      overlay c ++ pad (ovrLabel (i + 1)) ++ "; " := by
    unfold blurSegment background
    rw [String.empty_append]
    split_ifs <;> first | omega | rfl
  rw [hsegment]
  exact ((overlay_reads .nil closing_cropLabel i c).output (closing_ovrLabel (i + 1))).finish
    (fun _ => rfl)

theorem blurSegment_ends {size i : Nat} (h : i + 1 = size) (c : CoordinateInfo) :
    Ends (blurSegment size i c) [overlayFilter cropLabel i []] := by
  have hsegment : blurSegment size i c =
      "" ++ pad (background i) ++ pad (cropLabel (i + 1)) ++ overlay c := by
    unfold blurSegment background
    rw [String.empty_append]
    split_ifs <;> first | omega | rfl
  rw [hsegment]
  exact (overlay_reads .nil closing_cropLabel i c).ends_text

theorem scaleFilter_reads (i : Nat) (c : CoordinateInfo) :
    Reads (scaleFilter i c) [⟨["1:v"],[scaleLabel (i + 1)]⟩] blank .inputs := by
  have hscale : Reads (pad "1:v" ++ "scale=") [] ⟨["1:v"],[]⟩ .text :=
    (Reads.pad (by decide)).append (fun _ => rfl)
  have hsize := ((hscale.plain (plain_double (.number (if c.w > c.h then c.w else c.h)))).plain
    (by decide : PlainText ":")).plain (plain_double (.number (if c.w > c.h then c.w else c.h)))
  exact (hsize.output (closing_scaleLabel (i + 1))).finish (fun _ => rfl)

def scaledOverlay (i : Nat) (outputs : List String) : List (Stage String) :=
  [⟨["1:v"],[scaleLabel (i + 1)]⟩,overlayFilter scaleLabel i outputs]

theorem stickerSegment_reads {size i : Nat} (h : i + 1 < size) (c : CoordinateInfo) :
    Reads (stickerSegment size i c ++ ";") (scaledOverlay i [ovrLabel (i + 1)]) blank
      .inputs := by
  have hsegment : stickerSegment size i c = scaleFilter i c ++ pad (background i) ++
      pad (scaleLabel (i + 1)) ++ overlay c ++ pad (ovrLabel (i + 1)) ++ " " := by
    unfold stickerSegment background
    split_ifs <;> first | omega | rfl
  have hoverlay := overlay_reads (scaleFilter_reads i c) closing_scaleLabel i c
  have hspace := (hoverlay.output (closing_ovrLabel (i + 1))).append
    (t := " ") (fun _ => rfl)
  rw [hsegment]
  exact hspace.finish (fun _ => rfl)

theorem stickerSegment_ends {size i : Nat} (h : i + 1 = size) (c : CoordinateInfo) :
    Ends (stickerSegment size i c)
      (scaledOverlay i (if i = 0 then [ovrLabel (i + 1)] else [])) := by
  have hoverlay := overlay_reads (scaleFilter_reads i c) closing_scaleLabel i c
  split_ifs with hi
  · have hsegment : stickerSegment size i c = scaleFilter i c ++ pad (background i) ++
        pad (scaleLabel (i + 1)) ++ overlay c ++ pad (ovrLabel (i + 1)) ++ " " := by
      simp only [stickerSegment,background,hi,if_true]
    rw [hsegment]
    exact ((hoverlay.output (closing_ovrLabel (i + 1))).append (t := " ")
      (fun _ => rfl)).ends_outputs
  · have hsegment : stickerSegment size i c = scaleFilter i c ++ pad (background i) ++
        pad (scaleLabel (i + 1)) ++ overlay c := by
      have hlast : i = size - 1 := by omega
      simp only [stickerSegment,background,hi,← hlast,if_false,if_true]
    rw [hsegment]
    exact hoverlay.ends_text

end Segments

section Loops

variable {segment after : Nat → CoordinateInfo → String} {filters : Nat → List (Stage String)}
  {coordInfo : List CoordinateInfo} {i : Nat}

def written (segment after : Nat → CoordinateInfo → String) (i : Nat) (c : CoordinateInfo) :
    String :=
  snprintf 256 (segment i c) ++ after i c

theorem writeSegments_reads
    (h : ∀ j c, coordInfo[j]? = some c →
      Reads (written segment after (i + j) c) (filters (i + j)) blank .inputs) :
    Reads (writeSegments segment after i coordInfo)
      ((List.range' i coordInfo.length).flatMap filters) blank .inputs := by
  induction coordInfo generalizing i with
  | nil => exact Reads.nil
  | cons c coordInfo ih =>
    rw [writeSegments,List.length_cons,List.range'_succ,List.flatMap_cons]
    apply Reads.trans (h 0 c rfl)
    apply ih
    intro j c' hc
    have hshift : i + 1 + j = i + (j + 1) := by omega
    rw [hshift]
    exact h (j + 1) c' hc

theorem writeSegments_ends (hne : coordInfo ≠ [])
    (h : ∀ j c, coordInfo[j]? = some c → j + 1 < coordInfo.length →
      Reads (written segment after (i + j) c) (filters (i + j)) blank .inputs)
    (hlast : ∀ j c, coordInfo[j]? = some c → j + 1 = coordInfo.length →
      Ends (written segment after (i + j) c) (filters (i + j))) :
    Ends (writeSegments segment after i coordInfo)
      ((List.range' i coordInfo.length).flatMap filters) := by
  induction coordInfo generalizing i with
  | nil => exact absurd rfl hne
  | cons c coordInfo ih =>
    rw [writeSegments,List.length_cons,List.range'_succ,List.flatMap_cons]
    cases coordInfo with
    | nil =>
      have hend := hlast 0 c rfl rfl
      intro done
      rw [writeSegments,String.append_empty,List.length_nil,List.range'_zero,List.flatMap_nil,
        List.append_nil]
      exact hend done
    | cons c' coordInfo =>
      apply Reads.ends (h 0 c rfl (by simp))
      have hshift : ∀ j, i + 1 + j = i + (j + 1) := by omega
      apply ih (List.cons_ne_nil _ _)
      · intro j d hd hj
        rw [hshift]
        exact h (j + 1) d hd (by simpa using hj)
      · intro j d hd hj
        rw [hshift]
        exact hlast (j + 1) d hd (by simpa using hj)

end Loops

section Labels

variable {i j : Nat}

theorem label_inj {name : String} (h : name ++ toString i = name ++ toString j) : i = j :=
  toString_inj ((String.append_right_inj name).mp h)

theorem cropLabel_ne_ovrLabel (i j : Nat) : cropLabel i ≠ ovrLabel j := by
  intro h
  have hl := congrArg String.toList h
  simp [cropLabel,ovrLabel] at hl

theorem scaleLabel_ne_ovrLabel (i j : Nat) : scaleLabel i ≠ ovrLabel j := by
  intro h
  have hl := congrArg String.toList h
  simp [scaleLabel,ovrLabel] at hl

def filePads : List String := ["0:v","1:v"]

theorem cropLabel_no_file (i : Nat) : cropLabel i ∉ filePads := by
  simp [filePads,cropLabel,String.ext_iff]

theorem ovrLabel_no_file (i : Nat) : ovrLabel i ∉ filePads := by
  simp [filePads,ovrLabel,String.ext_iff]

theorem scaleLabel_no_file (i : Nat) : scaleLabel i ∉ filePads := by
  simp [filePads,scaleLabel,String.ext_iff]

end Labels

section Chains

variable {i n k : Nat} {opens : List String} {graph : List (Stage String)}

def carried (i : Nat) : List String := if i = 0 then [] else [ovrLabel i]

def laid (n i : Nat) : List String := if i + 1 < n then [ovrLabel (i + 1)] else []

theorem overlay_inputs {label : Nat → String} (hlabel : ∀ i, label i ∉ filePads)
    (i : Nat) (outputs : List String) :
    (overlayFilter label i outputs).inputs.filter (fun l => l ∉ filePads) =
      carried i ++ [label (i + 1)] := by
  have hrest : [label (i + 1)].filter (fun l => l ∉ filePads) = [label (i + 1)] := by
    simp [hlabel]
  have hbackground : [background i].filter (fun l => l ∉ filePads) = carried i := by
    unfold background carried
    split
    · rfl
    · simp [ovrLabel_no_file]
  have happend : (overlayFilter label i outputs).inputs = [background i] ++ [label (i + 1)] := rfl
  rw [happend,List.filter_append,hbackground,hrest]

def cropFilters (i k : Nat) : List (Stage String) :=
  (List.range' i k).flatMap (fun j => [⟨["0:v"],[cropLabel (j + 1)]⟩])

def blurOverlays (n i k : Nat) : List (Stage String) :=
  (List.range' i k).flatMap (fun j => [overlayFilter cropLabel j (laid n j)])

def stickerFilters (n i k : Nat) : List (Stage String) :=
  (List.range' i k).flatMap (fun j => scaledOverlay j (laid n j))

theorem crops_feed
    (h : Feeds filePads (opens ++ (List.range' i k).map (fun j => cropLabel (j + 1))) graph) :
    Feeds filePads opens (cropFilters i k ++ graph) := by
  induction k generalizing i opens with
  | zero => simpa [cropFilters] using h
  | succ k ih =>
    rw [List.range'_succ,List.map_cons] at h
    rw [cropFilters,List.range'_succ,List.flatMap_cons]
    have hin : ((Stage.inputs ⟨["0:v"],[cropLabel (i + 1)]⟩).filter (fun l => l ∉ filePads) ++
        opens).Perm opens := List.Perm.refl opens
    apply Feeds.step (List.cons_ne_nil _ _) hin
    apply ih
    rw [List.append_assoc]
    exact h

theorem carried_succ (i : Nat) : carried (i + 1) = [ovrLabel (i + 1)] := if_neg (by omega)

theorem blurOverlays_feed (hn : i + (k + 1) = n)
    (hopens : (carried i ++ (List.range' i (k + 1)).map (fun j => cropLabel (j + 1))).Perm opens) :
    Feeds filePads opens (blurOverlays n i (k + 1)) := by
  induction k generalizing i opens with
  | zero =>
    have hlaid : laid n i = [] := if_neg (by omega)
    apply Feeds.last hlaid
    rw [overlay_inputs cropLabel_no_file]
    exact hopens
  | succ k ih =>
    have hlaid : laid n i = [ovrLabel (i + 1)] := if_pos (by omega)
    rw [blurOverlays,List.range'_succ,List.flatMap_cons]
    apply Feeds.step
    · exact hlaid ▸ List.cons_ne_nil _ _
    · rw [overlay_inputs cropLabel_no_file,List.append_assoc]
      rw [List.range'_succ,List.map_cons] at hopens
      exact hopens
    · apply ih (by omega)
      rw [carried_succ,← hlaid]
      exact List.perm_append_comm

theorem stickerFilters_feed (hn : i + (k + 1) = n) :
    Feeds filePads (carried i) (stickerFilters n i (k + 1)) := by
  have hscale : ∀ i, ((Stage.inputs ⟨["1:v"],[scaleLabel (i + 1)]⟩).filter
      (fun l => l ∉ filePads) ++ carried i).Perm (carried i) := fun i => List.Perm.refl _
  induction k generalizing i with
  | zero =>
    have hlaid : laid n i = [] := if_neg (by omega)
    apply Feeds.step (List.cons_ne_nil _ _) (hscale i)
    apply Feeds.last hlaid
    rw [overlay_inputs scaleLabel_no_file]
  | succ k ih =>
    have hlaid : laid n i = [ovrLabel (i + 1)] := if_pos (by omega)
    rw [stickerFilters,List.range'_succ,List.flatMap_cons]
    apply Feeds.step (List.cons_ne_nil _ _) (hscale i)
    apply Feeds.step
    · exact hlaid ▸ List.cons_ne_nil _ _
    · rw [overlay_inputs scaleLabel_no_file]
      exact List.Perm.of_eq (List.append_nil _)
    · have hnext : [] ++ (overlayFilter scaleLabel i (laid n i)).outputs = carried (i + 1) := by
        rw [carried_succ,← hlaid]
        rfl
      rw [hnext]
      exact ih (by omega)

theorem nodup_indexed {outputs : Nat → List String} (hn : ∀ i, (outputs i).Nodup)
    (hdistinct : ∀ i j label, label ∈ outputs i → label ∈ outputs j → i = j) (i k : Nat) :
    ((List.range' i k).flatMap outputs).Nodup := by
  rw [List.nodup_flatMap]
  refine ⟨fun i _ => hn i,(List.nodup_range' 1).imp ?_⟩
  intro i j hne label hi hj
  exact hne (hdistinct i j label hi hj)

theorem eq_of_mem_laid {label : String} (h : label ∈ laid n i) : label = ovrLabel (i + 1) := by
  unfold laid at h
  split at h
  · exact List.mem_singleton.mp h
  · cases h

theorem laid_nodup (n i : Nat) : (laid n i).Nodup := by
  unfold laid
  split
  · exact List.nodup_singleton _
  · exact List.nodup_nil

theorem laid_distinct (i j : Nat) (label : String) (hi : label ∈ laid n i)
    (hj : label ∈ laid n j) : i = j :=
  Nat.succ_injective (label_inj ((eq_of_mem_laid hi).symm.trans (eq_of_mem_laid hj)))

theorem cropFilters_outputs (i k : Nat) : (cropFilters i k).flatMap Stage.outputs =
    (List.range' i k).flatMap (fun j => [cropLabel (j + 1)]) := by
  rw [cropFilters,List.flatMap_assoc]
  rfl

theorem blurOverlays_outputs (n i k : Nat) : (blurOverlays n i k).flatMap Stage.outputs =
    (List.range' i k).flatMap (laid n) := by
  rw [blurOverlays,List.flatMap_assoc]
  refine List.flatMap_congr (fun j _ => ?_)
  exact List.append_nil _

theorem stickerFilters_outputs (n i k : Nat) : (stickerFilters n i k).flatMap Stage.outputs =
    (List.range' i k).flatMap (fun j => scaleLabel (j + 1) :: laid n j) := by
  rw [stickerFilters,List.flatMap_assoc]
  refine List.flatMap_congr (fun j _ => ?_)
  exact congrArg _ (List.append_nil _)

theorem blurFilters_closed (k : Nat) :
    Closed filePads (cropFilters 0 (k + 1) ++ blurOverlays (k + 1) 0 (k + 1)) := by
  apply Feeds.closed
  · apply crops_feed
    exact blurOverlays_feed (Nat.zero_add _) (List.Perm.refl _)
  · rw [List.flatMap_append,cropFilters_outputs,blurOverlays_outputs,List.nodup_append']
    refine ⟨nodup_indexed (fun i => List.nodup_singleton _) ?_ _ _,
      nodup_indexed (laid_nodup _) laid_distinct _ _,?_⟩
    · intro i j label hi hj
      rw [List.mem_singleton] at hi hj
      exact Nat.succ_injective (label_inj (hi.symm.trans hj))
    · intro label hcrop hlaid
      obtain ⟨i,-,hi⟩ := List.mem_flatMap.mp hcrop
      obtain ⟨j,-,hj⟩ := List.mem_flatMap.mp hlaid
      exact cropLabel_ne_ovrLabel _ _ ((List.mem_singleton.mp hi).symm.trans (eq_of_mem_laid hj))
  · intro label hl
    rw [List.flatMap_append,cropFilters_outputs,blurOverlays_outputs] at hl
    rcases List.mem_append.mp hl with hl | hl
    · obtain ⟨i,-,hi⟩ := List.mem_flatMap.mp hl
      exact List.mem_singleton.mp hi ▸ cropLabel_no_file _
    · obtain ⟨i,-,hi⟩ := List.mem_flatMap.mp hl
      exact eq_of_mem_laid hi ▸ ovrLabel_no_file _

theorem stickerFilters_closed (k : Nat) : Closed filePads (stickerFilters (k + 1) 0 (k + 1)) := by
  apply Feeds.closed
  · exact stickerFilters_feed (Nat.zero_add _)
  · rw [stickerFilters_outputs]
    apply nodup_indexed
    · intro i
      refine List.nodup_cons.mpr ⟨fun hin => ?_,laid_nodup _ i⟩
      exact scaleLabel_ne_ovrLabel _ _ (eq_of_mem_laid hin)
    · intro i j label hi hj
      rcases List.mem_cons.mp hi with rfl | hi
      · rcases List.mem_cons.mp hj with he | hj
        · exact Nat.succ_injective (label_inj he)
        · exact absurd (eq_of_mem_laid hj) (scaleLabel_ne_ovrLabel _ _)
      · rcases List.mem_cons.mp hj with rfl | hj
        · exact absurd (eq_of_mem_laid hi) (scaleLabel_ne_ovrLabel _ _)
        · exact laid_distinct i j label hi hj
  · intro label hl
    rw [stickerFilters_outputs] at hl
    obtain ⟨i,-,hi⟩ := List.mem_flatMap.mp hl
    rcases List.mem_cons.mp hi with rfl | hi
    · exact scaleLabel_no_file _
    · exact eq_of_mem_laid hi ▸ ovrLabel_no_file _

end Chains

section Commands

variable {blurName : String} {intensity : Int} {coordInfo : List CoordinateInfo}

structure SegmentsFit (blurName : String) (intensity : Int) (coordInfo : List CoordinateInfo) :
    Prop where
  crop : ∀ i c, coordInfo[i]? = some c → (cropSegment blurName intensity i c).length < 256
  blur : ∀ i c, coordInfo[i]? = some c → (blurSegment coordInfo.length i c).length < 256
  sticker : ∀ i c, coordInfo[i]? = some c → (stickerSegment coordInfo.length i c).length < 256

theorem ascii_label {s : String} (h : Ascii s) : Ascii (pad s) :=
  ascii_append.mpr ⟨ascii_append.mpr ⟨by decide,h⟩,by decide⟩

theorem ascii_numbered (name : String) (h : Ascii name) (i : Nat) : Ascii (name ++ toString i) :=
  ascii_append.mpr ⟨h,(numeric_nat i).ascii⟩

theorem ascii_overlay (c : CoordinateInfo) : Ascii (overlay c) := by
  have hnumber : ∀ x : CFloat, Ascii (formatDouble x) := fun x => (numeric_formatDouble x).ascii
  simp only [overlay,ascii_append,hnumber,and_true]
  decide

theorem ascii_scaleFilter (i : Nat) (c : CoordinateInfo) : Ascii (scaleFilter i c) := by
  have hnumber : ∀ x : CFloat, Ascii (formatDouble x) := fun x => (numeric_formatDouble x).ascii
  simp only [scaleFilter,scaleLabel,ascii_append,hnumber,and_true,
    ascii_label (ascii_numbered "s" (by decide) (i + 1))]
  decide

theorem ascii_cropSegment (hname : blurName ∈ ["boxblur","avgblur"]) (i : Nat)
    (c : CoordinateInfo) : Ascii (cropSegment blurName intensity i c) := by
  have hnumber : ∀ x : CFloat, Ascii (formatDouble x) := fun x => (numeric_formatDouble x).ascii
  have hblur : Ascii blurName := by
    simp only [List.mem_cons,List.not_mem_nil,or_false] at hname
    rcases hname with rfl | rfl <;> decide
  simp only [cropSegment,cropLabel,ascii_append,hnumber,hblur,(numeric_int intensity).ascii,
    and_true,ascii_label (ascii_numbered "crop" (by decide) (i + 1))]
  decide

theorem ascii_blurSegment (size i : Nat) (c : CoordinateInfo) :
    Ascii (blurSegment size i c) := by
  have hlabel : ∀ (name : String) (i : Nat), Ascii name → Ascii (pad (name ++ toString i)) :=
    fun name i h => ascii_label (ascii_numbered name h i)
  have hmarks : Ascii (pad "0:v") ∧ Ascii "; " := by decide
  rw [blurSegment]
  simp only [cropLabel,ovrLabel]
  split_ifs
  all_goals
    simp only [ascii_append,ascii_overlay,hlabel "crop" _ (by decide),hlabel "ovr" _ (by decide),
      hmarks,and_true]

theorem ascii_stickerSegment (size i : Nat) (c : CoordinateInfo) :
    Ascii (stickerSegment size i c) := by
  have hlabel : ∀ (name : String) (i : Nat), Ascii name → Ascii (pad (name ++ toString i)) :=
    fun name i h => ascii_label (ascii_numbered name h i)
  have hmarks : Ascii (pad "0:v") ∧ Ascii " " := by decide
  rw [stickerSegment]
  simp only [scaleLabel,ovrLabel]
  split_ifs
  all_goals
    simp only [ascii_append,ascii_overlay,ascii_scaleFilter,hlabel "s" _ (by decide),
      hlabel "ovr" _ (by decide),hmarks,and_true]

def ClosedGraph (text : String) : Prop :=
  ∃ graph, FilterGraph.read text = some graph ∧ Closed filePads graph

theorem blurGraph_reads (hname : blurName ∈ ["boxblur","avgblur"]) (hne : coordInfo ≠ [])
    (hfit : SegmentsFit blurName intensity coordInfo) :
    FilterGraph.read (blurGraph blurName intensity coordInfo) =
      some (cropFilters 0 coordInfo.length ++
        blurOverlays coordInfo.length 0 coordInfo.length) := by
  have hwritten : ∀ {segment : Nat → CoordinateInfo → String} {i : Nat} {c : CoordinateInfo},
      Ascii (segment i c) → (segment i c).length < 256 →
        written segment (fun _ _ => "") i c = segment i c := by
    intro segment i c hascii h
    rw [written,hascii.snprintf h,String.append_empty]
  apply Ends.read
  apply Reads.ends
  · apply writeSegments_reads
    intro i c hc
    rw [Nat.zero_add,hwritten (ascii_cropSegment hname i c) (hfit.crop i c hc)]
    exact cropSegment_reads hname intensity i c
  · apply writeSegments_ends hne
    · intro i c hc hi
      have hlaid : laid coordInfo.length i = [ovrLabel (i + 1)] := if_pos hi
      rw [Nat.zero_add,hwritten (ascii_blurSegment _ i c) (hfit.blur i c hc),hlaid]
      exact blurSegment_reads hi c
    · intro i c hc hi
      have hlaid : laid coordInfo.length i = [] := if_neg (by omega)
      rw [Nat.zero_add,hwritten (ascii_blurSegment _ i c) (hfit.blur i c hc),hlaid]
      exact blurSegment_ends hi c

-- the first overlay of a sticker is labelled also where it is the only one
def stuck (n i : Nat) : List String := if i + 1 < n ∨ i = 0 then [ovrLabel (i + 1)] else []

theorem stickerGraph_reads (hne : coordInfo ≠ [])
    (hfit : SegmentsFit blurName intensity coordInfo) :
    FilterGraph.read (stickerGraph coordInfo) =
      some ((List.range' 0 coordInfo.length).flatMap
        (fun i => scaledOverlay i (stuck coordInfo.length i))) := by
  apply Ends.read
  apply writeSegments_ends hne
  · intro i c hc hi
    have hstuck : stuck coordInfo.length i = [ovrLabel (i + 1)] := if_pos (.inl hi)
    rw [Nat.zero_add,written,(ascii_stickerSegment _ i c).snprintf (hfit.sticker i c hc),
      if_pos (by omega),hstuck]
    exact stickerSegment_reads hi c
  · intro i c hc hi
    have hstuck : stuck coordInfo.length i = if i = 0 then [ovrLabel (i + 1)] else [] := by
      have hlt : ¬ i + 1 < coordInfo.length := by omega
      simp only [stuck,hlt,false_or]
    rw [Nat.zero_add,written,(ascii_stickerSegment _ i c).snprintf (hfit.sticker i c hc),
      if_neg (by omega),hstuck,String.append_empty]
    exact stickerSegment_ends hi c

theorem blurGraph_closed (hname : blurName ∈ ["boxblur","avgblur"]) (hne : coordInfo ≠ [])
    (hfit : SegmentsFit blurName intensity coordInfo) :
    ClosedGraph (blurGraph blurName intensity coordInfo) := by
  refine ⟨_,blurGraph_reads hname hne hfit,?_⟩
  obtain ⟨k,hk⟩ := Nat.exists_eq_succ_of_ne_zero (List.length_pos_iff.mpr hne).ne'
  rw [hk]
  exact blurFilters_closed k

theorem stickerGraph_closed_iff (hne : coordInfo ≠ [])
    (hfit : SegmentsFit blurName intensity coordInfo) :
    ClosedGraph (stickerGraph coordInfo) ↔ coordInfo.length ≠ 1 := by
  have hread := stickerGraph_reads hne hfit
  constructor
  · rintro ⟨graph,hgraph,hclosed⟩ hone
    obtain rfl := Option.some_inj.mp (hread.symm.trans hgraph)
    rw [hone] at hclosed
    obtain ⟨front,f,heq,hout,-⟩ := hclosed.last
    have hlast : (front ++ [f]).getLast? = some f := List.getLast?_concat
    rw [← heq] at hlast
    obtain rfl := Option.some_inj.mp hlast
    cases hout
  · intro hlength
    obtain ⟨k,hk⟩ := Nat.exists_eq_succ_of_ne_zero (List.length_pos_iff.mpr hne).ne'
    refine ⟨_,hread,?_⟩
    have hlaid : ∀ i ∈ List.range' 0 coordInfo.length,
        scaledOverlay i (stuck coordInfo.length i) = scaledOverlay i (laid coordInfo.length i) := by
      intro i hi
      have hcondition : (i + 1 < coordInfo.length ∨ i = 0) ↔ i + 1 < coordInfo.length := by omega
      simp only [stuck,laid,hcondition]
    rw [List.flatMap_congr hlaid,hk]
    exact stickerFilters_closed k

def ClosedCommand (before after command : String) : Prop :=
  ∃ text, command = before ++ text ++ after ∧ ClosedGraph text

theorem closedCommand_iff (before text options outputPath : String) :
    ClosedCommand before (options ++ outputPath) (before ++ text ++ options ++ outputPath) ↔
      ClosedGraph text := by
  rw [ClosedCommand,String.append_assoc]
  constructor
  · rintro ⟨text',he,hclosed⟩
    have htext := (String.append_right_inj before).mp
      ((String.append_left_inj (options ++ outputPath)).mp he)
    exact htext ▸ hclosed
  · exact fun hclosed => ⟨text,rfl,hclosed⟩

theorem blurCommand_closed_iff (inputPath outputPath : String) :
    ClosedCommand ("/usr/bin/ffmpeg -y -i " ++ inputPath ++ " -filter_complex \"")
      ("\" -movflags +faststart " ++ outputPath)
      (makeVideoBlurEffectCmd inputPath outputPath blurName intensity coordInfo) ↔
      ClosedGraph (blurGraph blurName intensity coordInfo) :=
  closedCommand_iff ("/usr/bin/ffmpeg -y -i " ++ inputPath ++ " -filter_complex \"")
    (blurGraph blurName intensity coordInfo) "\" -movflags +faststart " outputPath

theorem stickerCommand_closed_iff (inputPath outputPath imgPath : String) :
    ClosedCommand ("/usr/bin/ffmpeg -y -i " ++ inputPath ++ " -i " ++ imgPath ++
        " -filter_complex \"") ("\" " ++ outputPath)
      (makeVideoStickerEffectCmd inputPath outputPath imgPath coordInfo) ↔
      ClosedGraph (stickerGraph coordInfo) :=
  closedCommand_iff ("/usr/bin/ffmpeg -y -i " ++ inputPath ++ " -i " ++ imgPath ++
    " -filter_complex \"") (stickerGraph coordInfo) "\" " outputPath

theorem filter_graphs_closed_iff (inputPath outputPath imgPath : String)
    (hname : blurName ∈ ["boxblur","avgblur"]) (hne : coordInfo ≠ [])
    (hfit : SegmentsFit blurName intensity coordInfo) :
    (ClosedCommand ("/usr/bin/ffmpeg -y -i " ++ inputPath ++ " -filter_complex \"")
        ("\" -movflags +faststart " ++ outputPath)
        (makeVideoBlurEffectCmd inputPath outputPath blurName intensity coordInfo) ∧
      ClosedCommand ("/usr/bin/ffmpeg -y -i " ++ inputPath ++ " -i " ++ imgPath ++
          " -filter_complex \"") ("\" " ++ outputPath)
        (makeVideoStickerEffectCmd inputPath outputPath imgPath coordInfo)) ↔
      coordInfo.length ≠ 1 := by
  have hblur := (blurCommand_closed_iff inputPath outputPath).mpr
    (blurGraph_closed hname hne hfit)
  have hsticker := (stickerCommand_closed_iff inputPath outputPath imgPath).trans
    (stickerGraph_closed_iff hne hfit)
  exact ⟨fun h => hsticker.mp h.2,fun h => ⟨hblur,hsticker.mpr h⟩⟩

end Commands

section Sample

def rectangle : CoordinateInfo := ⟨10,20,30,40,⟨.number 0,.number 1⟩⟩

theorem rectangles_fit : SegmentsFit "boxblur" 10 [rectangle,rectangle] := by
  constructor
  all_goals
    intro i c hc
    match i with
    | 0 =>
      cases hc
      decide +kernel
    | 1 =>
      cases hc
      decide +kernel
    | i + 2 => cases hc

theorem filter_graphs_closed_iff_two :
    (ClosedCommand ("/usr/bin/ffmpeg -y -i " ++ "in.mp4" ++ " -filter_complex \"")
        ("\" -movflags +faststart " ++ "out.mp4")
        (makeVideoBlurEffectCmd "in.mp4" "out.mp4" "boxblur" 10 [rectangle,rectangle]) ∧
      ClosedCommand ("/usr/bin/ffmpeg -y -i " ++ "in.mp4" ++ " -i " ++ "a.png" ++
          " -filter_complex \"") ("\" " ++ "out.mp4")
        (makeVideoStickerEffectCmd "in.mp4" "out.mp4" "a.png" [rectangle,rectangle])) ↔
      [rectangle,rectangle].length ≠ 1 :=
  filter_graphs_closed_iff "in.mp4" "out.mp4" "a.png" (by decide) (by decide) rectangles_fit

theorem rectangle_fits : SegmentsFit "boxblur" 10 [rectangle] := by
  constructor
  all_goals
    intro i c hc
    match i with
    | 0 =>
      cases hc
      decide +kernel
    | i + 1 => cases hc

-- the only overlay writes the label `ovr1` that no filter reads
theorem one_sticker_open :
    SegmentsFit "boxblur" 10 [rectangle] ∧
      FilterGraph.read (stickerGraph [rectangle]) =
        some [⟨["1:v"],["s1"]⟩,⟨["0:v","s1"],["ovr1"]⟩] ∧
      ¬ ClosedCommand ("/usr/bin/ffmpeg -y -i " ++ "in.mp4" ++ " -i " ++ "a.png" ++
          " -filter_complex \"") ("\" " ++ "out.mp4")
        (makeVideoStickerEffectCmd "in.mp4" "out.mp4" "a.png" [rectangle]) := by
  have hne := List.cons_ne_nil rectangle []
  refine ⟨rectangle_fits,(stickerGraph_reads hne rectangle_fits).trans (by decide),?_⟩
  intro h
  have hclosed := (stickerCommand_closed_iff "in.mp4" "out.mp4" "a.png").mp h
  exact (stickerGraph_closed_iff hne rectangle_fits).mp hclosed rfl

end Sample

end Ovi
