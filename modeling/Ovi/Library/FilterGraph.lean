import Mathlib.Data.List.Count
import Mathlib.Data.List.Nodup
import Mathlib.Data.List.Perm.Basic

namespace FilterGraph

structure Stage (α : Type) where
  inputs : List α
  outputs : List α
deriving DecidableEq, Repr

section Closed

variable {α : Type} [DecidableEq α] {files opens : List α} {pre post graph : List (Stage α)}
  {f : Stage α} {label : α}

structure Closed (files : List α) (graph : List (Stage α)) : Prop where
  consumed : ∀ pre f post, graph = pre ++ f :: post → ∀ label ∈ f.outputs,
    (post.flatMap Stage.inputs).count label = 1
  produced : ∀ pre f post, graph = pre ++ f :: post → ∀ label ∈ f.inputs, label ∉ files →
    label ∈ pre.flatMap Stage.outputs
  last : ∃ front f, graph = front ++ [f] ∧ f.outputs = [] ∧ ∀ g ∈ front, g.outputs ≠ []

-- `opens` are the labels that were written and are still to be read
inductive Feeds (files : List α) : List α → List (Stage α) → Prop
  | last {opens : List α} {f : Stage α} : f.outputs = [] →
    (f.inputs.filter (fun l => l ∉ files)).Perm opens → Feeds files opens [f]
  | step {opens rest : List α} {f : Stage α} {graph : List (Stage α)} : f.outputs ≠ [] →
    (f.inputs.filter (fun l => l ∉ files) ++ rest).Perm opens →
    Feeds files (rest ++ f.outputs) graph → Feeds files opens (f :: graph)

theorem count_inputs (h : label ∉ files) :
    (f.inputs.filter (fun l => l ∉ files)).count label = f.inputs.count label :=
  List.count_filter (by simpa using h)

theorem Feeds.count (h : Feeds files opens graph) (hl : label ∉ files) :
    (graph.flatMap Stage.inputs).count label =
      opens.count label + (graph.flatMap Stage.outputs).count label := by
  induction h with
  | @last opens f hout hin =>
    have hopens := hin.count_eq label
    rw [count_inputs hl] at hopens
    simp only [List.flatMap_cons,List.flatMap_nil,List.append_nil,hout,List.count_nil]
    omega
  | @step opens rest f graph hout hin _ ih =>
    have hopens := hin.count_eq label
    rw [List.count_append,count_inputs hl] at hopens
    simp only [List.flatMap_cons,List.count_append] at ih ⊢
    omega

theorem Feeds.nodup_step {rest : List α}
    (hin : (f.inputs.filter (fun l => l ∉ files) ++ rest).Perm opens)
    (hn : (opens ++ (f :: graph).flatMap Stage.outputs).Nodup) :
    (rest ++ f.outputs ++ graph.flatMap Stage.outputs).Nodup := by
  have hrest : (rest ++ (f :: graph).flatMap Stage.outputs).Sublist
      (f.inputs.filter (fun l => l ∉ files) ++ rest ++ (f :: graph).flatMap Stage.outputs) := by
    rw [List.append_assoc]
    exact List.sublist_append_right _ _
  have hsplit := hrest.nodup ((hin.append_right _).nodup_iff.mpr hn)
  rwa [List.flatMap_cons,← List.append_assoc] at hsplit

theorem Feeds.tail (h : Feeds files opens (f :: graph)) (hg : graph ≠ []) :
    f.outputs ≠ [] ∧ ∃ rest, (f.inputs.filter (fun l => l ∉ files) ++ rest).Perm opens ∧
      Feeds files (rest ++ f.outputs) graph := by
  cases h with
  | last => exact absurd rfl hg
  | @step _ rest _ _ hout hin hgraph => exact ⟨hout,rest,hin,hgraph⟩

theorem Feeds.inputs_open (h : Feeds files opens (f :: graph)) (hl : label ∈ f.inputs)
    (hfile : label ∉ files) : label ∈ opens := by
  have hin : label ∈ f.inputs.filter (fun l => l ∉ files) :=
    List.mem_filter.mpr ⟨hl,by simpa using hfile⟩
  cases h with
  | last _ hperm => exact hperm.mem_iff.mp hin
  | step _ hperm _ => exact hperm.mem_iff.mp (List.mem_append_left _ hin)

theorem Feeds.consumed (h : Feeds files opens (pre ++ f :: post))
    (hn : (opens ++ (pre ++ f :: post).flatMap Stage.outputs).Nodup)
    (hl : label ∈ f.outputs) (hfile : label ∉ files) :
    (post.flatMap Stage.inputs).count label = 1 := by
  induction pre generalizing opens with
  | nil =>
    cases h with
    | last hout => simp [hout] at hl
    | @step _ rest _ _ hout hin hpost =>
      have hnodup := Feeds.nodup_step hin hn
      rw [hpost.count hfile,← List.count_append]
      exact List.count_eq_one_of_mem hnodup
        (List.mem_append_left _ (List.mem_append_right _ hl))
  | cons g pre ih =>
    obtain ⟨-,rest,hin,hrest⟩ := h.tail (by simp)
    exact ih hrest (Feeds.nodup_step hin hn)

theorem Feeds.produced (h : Feeds files opens (pre ++ f :: post)) (hl : label ∈ f.inputs)
    (hfile : label ∉ files) : label ∈ opens ∨ label ∈ pre.flatMap Stage.outputs := by
  induction pre generalizing opens with
  | nil => exact .inl (h.inputs_open hl hfile)
  | cons g pre ih =>
    obtain ⟨-,rest,hin,hrest⟩ := h.tail (by simp)
    rw [List.flatMap_cons,List.mem_append]
    rcases ih hrest with hopen | hlater
    · rcases List.mem_append.mp hopen with hopen | hout
      · exact .inl (hin.mem_iff.mp (List.mem_append_right _ hopen))
      · exact .inr (.inl hout)
    · exact .inr (.inr hlater)

theorem Feeds.last_unlabelled (h : Feeds files opens graph) :
    ∃ front f, graph = front ++ [f] ∧ f.outputs = [] ∧ ∀ g ∈ front, g.outputs ≠ [] := by
  induction h with
  | @last _ f hout => exact ⟨[],f,rfl,hout,List.forall_mem_nil _⟩
  | @step _ _ f graph hout _ _ ih =>
    obtain ⟨front,g,rfl,hg,hfront⟩ := ih
    exact ⟨f :: front,g,rfl,hg,List.forall_mem_cons.mpr ⟨hout,hfront⟩⟩

theorem Feeds.closed (h : Feeds files [] graph) (hn : (graph.flatMap Stage.outputs).Nodup)
    (hfiles : ∀ label ∈ graph.flatMap Stage.outputs, label ∉ files) : Closed files graph := by
  constructor
  · rintro pre f post rfl label hl
    apply h.consumed hn hl
    apply hfiles
    rw [List.flatMap_append,List.flatMap_cons]
    exact List.mem_append_right _ (List.mem_append_left _ hl)
  · rintro pre f post rfl label hl hfile
    exact (h.produced hl hfile).resolve_left List.not_mem_nil
  · exact h.last_unlabelled

end Closed

section Syntax

inductive Mode where
  | inputs
  | inputLabel (label : List Char)
  | text
  | quoted
  | outputs
  | outputLabel (label : List Char)
  | malformed
deriving DecidableEq, Repr

structure Scanner where
  done : List (Stage String)
  current : Stage String
  mode : Mode
deriving DecidableEq, Repr

def blank : Stage String := ⟨[],[]⟩

def Scanner.finish (r : Scanner) : Scanner := ⟨r.done ++ [r.current],blank,.inputs⟩

-- a comma links an output without a label to the next filter: the two count as one
def Scanner.step (r : Scanner) (c : Char) : Scanner :=
  match r.mode with
  | .inputs =>
    if c == '[' then { r with mode := .inputLabel [] }
    else if c == ' ' then r
    else if c == '\'' then { r with mode := .quoted }
    else if c == ']' || c == ',' || c == ';' then { r with mode := .malformed }
    else { r with mode := .text }
  | .inputLabel label =>
    if c == ']' then
      { r with current.inputs := r.current.inputs ++ [String.ofList label], mode := .inputs }
    else { r with mode := .inputLabel (label ++ [c]) }
  | .text =>
    if c == '[' then { r with mode := .outputLabel [] }
    else if c == '\'' then { r with mode := .quoted }
    else if c == ',' then { r with mode := .inputs }
    else if c == ';' then r.finish
    else if c == ']' then { r with mode := .malformed }
    else r
  | .quoted => if c == '\'' then { r with mode := .text } else r
  | .outputs =>
    if c == '[' then { r with mode := .outputLabel [] }
    else if c == ' ' then r
    else if c == ',' || c == ';' then r.finish
    else { r with mode := .malformed }
  | .outputLabel label =>
    if c == ']' then
      { r with current.outputs := r.current.outputs ++ [String.ofList label], mode := .outputs }
    else { r with mode := .outputLabel (label ++ [c]) }
  | .malformed => r

def scan (r : Scanner) (s : String) : Scanner := s.toList.foldl Scanner.step r

def Scanner.graph (r : Scanner) : Option (List (Stage String)) :=
  match r.mode with
  | .text | .outputs => some (r.done ++ [r.current])
  | _ => none

def read (s : String) : Option (List (Stage String)) := (scan ⟨[],blank,.inputs⟩ s).graph

def pad (label : String) : String := "[" ++ label ++ "]"

def PlainText (s : String) : Prop := ∀ c ∈ s.toList, c ∉ ['[',']',',',';','\'']

-- not by inference, which with a finite `Char` runs through every character
instance (s : String) : Decidable (PlainText s) := List.decidableBAll _ _

variable {r : Scanner} {s t label : String} {done : List (Stage String)} {f : Stage String}

theorem scan_append : scan r (s ++ t) = scan (scan r s) t := by
  rw [scan,String.toList_append,List.foldl_append]
  rfl

theorem PlainText.append (hs : PlainText s) (ht : PlainText t) : PlainText (s ++ t) := by
  intro c hc
  rw [String.toList_append,List.mem_append] at hc
  exact hc.elim (hs c) (ht c)

theorem PlainText.closing (h : PlainText s) : ']' ∉ s.toList := fun hin => h _ hin (by decide)

theorem PlainText.quote (h : PlainText s) : '\'' ∉ s.toList := fun hin => h _ hin (by decide)

theorem foldl_stays {l : List Char} (h : ∀ c ∈ l, r.step c = r) : l.foldl Scanner.step r = r := by
  induction l with
  | nil => rfl
  | cons c l ih =>
    rw [List.foldl_cons,h c List.mem_cons_self]
    exact ih (fun c hc => h c (List.mem_cons_of_mem _ hc))

theorem scan_plain (h : PlainText s) : scan ⟨done,f,.text⟩ s = ⟨done,f,.text⟩ := by
  apply foldl_stays
  intro c hc
  have hplain := h c hc
  simp only [List.mem_cons,List.not_mem_nil,or_false,not_or] at hplain
  simp [Scanner.step,hplain]

theorem scan_quoted (h : '\'' ∉ s.toList) : scan ⟨done,f,.quoted⟩ s = ⟨done,f,.quoted⟩ := by
  apply foldl_stays
  intro c hc
  have hne : c ≠ '\'' := fun he => h (he ▸ hc)
  simp [Scanner.step,hne]

theorem scan_quote (h : '\'' ∉ s.toList) :
    scan ⟨done,f,.text⟩ ("'" ++ s ++ "'") = ⟨done,f,.text⟩ := by
  rw [scan_append,scan_append]
  have hopen : scan ⟨done,f,.text⟩ "'" = ⟨done,f,.quoted⟩ := rfl
  rw [hopen,scan_quoted h]
  rfl

theorem foldl_label {mode : List Char → Mode} {l l' : List Char}
    (hmode : ∀ l c, c ≠ ']' → Scanner.step ⟨done,f,mode l⟩ c = ⟨done,f,mode (l ++ [c])⟩)
    (h : ']' ∉ l) : l.foldl Scanner.step ⟨done,f,mode l'⟩ = ⟨done,f,mode (l' ++ l)⟩ := by
  induction l generalizing l' with
  | nil => rw [List.foldl_nil,List.append_nil]
  | cons c l ih =>
    simp only [List.mem_cons,not_or] at h
    rw [List.foldl_cons,hmode l' c (Ne.symm h.1),ih h.2,List.append_assoc]
    rfl

theorem scan_inputLabel (h : ']' ∉ s.toList) :
    scan ⟨done,f,.inputLabel []⟩ s = ⟨done,f,.inputLabel s.toList⟩ := by
  apply foldl_label (fun l c hc => ?_) h
  simp [Scanner.step,hc]

theorem scan_outputLabel (h : ']' ∉ s.toList) :
    scan ⟨done,f,.outputLabel []⟩ s = ⟨done,f,.outputLabel s.toList⟩ := by
  apply foldl_label (fun l c hc => ?_) h
  simp [Scanner.step,hc]

theorem scan_input (h : ']' ∉ label.toList) : scan ⟨done,f,.inputs⟩ (pad label) =
    ⟨done,⟨f.inputs ++ [label],f.outputs⟩,.inputs⟩ := by
  rw [pad,scan_append,scan_append]
  have hopen : scan ⟨done,f,.inputs⟩ "[" = ⟨done,f,.inputLabel []⟩ := rfl
  have hclose : scan ⟨done,f,.inputLabel label.toList⟩ "]" =
      ⟨done,⟨f.inputs ++ [String.ofList label.toList],f.outputs⟩,.inputs⟩ := rfl
  rw [hopen,scan_inputLabel h,hclose,String.ofList_toList]

theorem scan_output (h : ']' ∉ label.toList) : scan ⟨done,f,.text⟩ (pad label) =
    ⟨done,⟨f.inputs,f.outputs ++ [label]⟩,.outputs⟩ := by
  rw [pad,scan_append,scan_append]
  have hopen : scan ⟨done,f,.text⟩ "[" = ⟨done,f,.outputLabel []⟩ := rfl
  have hclose : scan ⟨done,f,.outputLabel label.toList⟩ "]" =
      ⟨done,⟨f.inputs,f.outputs ++ [String.ofList label.toList]⟩,.outputs⟩ := rfl
  rw [hopen,scan_outputLabel h,hclose,String.ofList_toList]

variable {graph graph' : List (Stage String)} {f' : Stage String} {mode mode' : Mode}

def Reads (s : String) (graph : List (Stage String)) (f : Stage String) (mode : Mode) : Prop :=
  ∀ done, scan ⟨done,blank,.inputs⟩ s = ⟨done ++ graph,f,mode⟩

def Ends (s : String) (graph : List (Stage String)) : Prop :=
  ∀ done, (scan ⟨done,blank,.inputs⟩ s).graph = some (done ++ graph)

theorem Reads.nil : Reads "" [] blank .inputs := by
  intro done
  rw [List.append_nil]
  rfl

theorem Reads.trans (hs : Reads s graph blank .inputs) (ht : Reads t graph' f mode) :
    Reads (s ++ t) (graph ++ graph') f mode := by
  intro done
  rw [scan_append,hs,ht,List.append_assoc]

theorem Reads.append (h : Reads s graph f mode)
    (ht : ∀ done, scan ⟨done,f,mode⟩ t = ⟨done,f',mode'⟩) : Reads (s ++ t) graph f' mode' := by
  intro done
  rw [scan_append,h,ht]

theorem Reads.pad (hl : ']' ∉ label.toList) :
    Reads (pad label) [] ⟨[label],[]⟩ .inputs := by
  intro done
  rw [scan_input hl,List.append_nil]
  rfl

theorem Reads.input (h : Reads s graph f .inputs) (hl : ']' ∉ label.toList) :
    Reads (s ++ FilterGraph.pad label) graph ⟨f.inputs ++ [label],f.outputs⟩ .inputs :=
  h.append (fun _ => scan_input hl)

theorem Reads.output (h : Reads s graph f .text) (hl : ']' ∉ label.toList) :
    Reads (s ++ FilterGraph.pad label) graph ⟨f.inputs,f.outputs ++ [label]⟩ .outputs :=
  h.append (fun _ => scan_output hl)

theorem Reads.plain (h : Reads s graph f .text) (ht : PlainText t) : Reads (s ++ t) graph f .text :=
  h.append (fun _ => scan_plain ht)

theorem Reads.finish (h : Reads s graph f mode)
    (ht : ∀ done, scan ⟨done,f,mode⟩ t = ⟨done ++ [f],blank,.inputs⟩) :
    Reads (s ++ t) (graph ++ [f]) blank .inputs := by
  intro done
  rw [scan_append,h,ht,List.append_assoc]

theorem Reads.ends_text (h : Reads s graph f .text) : Ends s (graph ++ [f]) := by
  intro done
  rw [h,← List.append_assoc]
  rfl

theorem Reads.ends_outputs (h : Reads s graph f .outputs) : Ends s (graph ++ [f]) := by
  intro done
  rw [h,← List.append_assoc]
  rfl

theorem Reads.ends (hs : Reads s graph blank .inputs) (ht : Ends t graph') :
    Ends (s ++ t) (graph ++ graph') := by
  intro done
  rw [scan_append,hs,ht,List.append_assoc]

theorem Ends.read (h : Ends s graph) : read s = some graph := h []

end Syntax

end FilterGraph
