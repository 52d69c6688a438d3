import Mathlib.Data.List.DropRight

namespace QuotedFields

-- the parts between separators, where a quote hides them up to the next quote
def split (sep : Char) : Bool → List Char → List (List Char)
  | _,[] => [[]]
  | hidden,c :: cs =>
    if c = '\'' then (split sep (!hidden) cs).modifyHead (List.cons c)
    else if c = sep ∧ hidden = false then [] :: split sep hidden cs
    else (split sep hidden cs).modifyHead (List.cons c)

def unquote (part : List Char) : List Char := part.filter (fun c => c ≠ '\'')

def blank : List Char := [' ','\t','\n','\r']

def trim (part : List Char) : List Char :=
  (part.dropWhile fun c => c ∈ blank).rdropWhile fun c => c ∈ blank

def assignment (part : List Char) : Option (List Char × List Char) :=
  match part.dropWhile (fun c => c ≠ '=') with
  | [] => none
  | _ :: value => some (part.takeWhile (fun c => c ≠ '='),value)

inductive Covered (sep : Char) : Bool → List Char → Prop
  | nil : Covered sep false []
  | quote {hidden : Bool} {cs : List Char} : Covered sep (!hidden) cs →
      Covered sep hidden ('\'' :: cs)
  | hidden {c : Char} {cs : List Char} : c ≠ '\'' → Covered sep true cs →
      Covered sep true (c :: cs)
  | shown {c : Char} {cs : List Char} : c ≠ '\'' → c ≠ sep → Covered sep false cs →
      Covered sep false (c :: cs)

section Split

variable {sep : Char} {hidden : Bool} {part part' : List Char}

theorem Covered.append (h : Covered sep hidden part) (h' : Covered sep false part') :
    Covered sep hidden (part ++ part') := by
  induction h with
  | nil => exact h'
  | quote _ ih => exact .quote ih
  | hidden hc _ ih => exact .hidden hc ih
  | shown hc hsep _ ih => exact .shown hc hsep ih

theorem covered_plain (h : ∀ c ∈ part, c ≠ '\'' ∧ c ≠ sep) : Covered sep false part := by
  induction part with
  | nil => exact .nil
  | cons c part ih =>
    obtain ⟨hc,hpart⟩ := List.forall_mem_cons.mp h
    exact .shown hc.1 hc.2 (ih hpart)

theorem covered_quoted (h : ∀ c ∈ part, c ≠ '\'') :
    Covered sep false ('\'' :: (part ++ ['\''])) := by
  refine .quote ?_
  induction part with
  | nil => exact .quote .nil
  | cons c part ih =>
    obtain ⟨hc,hpart⟩ := List.forall_mem_cons.mp h
    exact .hidden hc (ih hpart)

theorem split_covered (h : Covered sep hidden part) : split sep hidden part = [part] := by
  induction h with
  | nil => rfl
  | quote _ ih =>
    rw [split,if_pos rfl,ih]
    rfl
  | hidden hc _ ih =>
    rw [split,if_neg hc,if_neg (by simp),ih]
    rfl
  | shown hc hsep _ ih =>
    rw [split,if_neg hc,if_neg (fun he => hsep he.1),ih]
    rfl

theorem split_next (h : Covered sep hidden part) (hsep : sep ≠ '\'') (rest : List Char) :
    split sep hidden (part ++ sep :: rest) = part :: split sep false rest := by
  induction h with
  | nil => rw [List.nil_append,split,if_neg hsep,if_pos ⟨rfl,rfl⟩]
  | quote _ ih =>
    rw [List.cons_append,split,if_pos rfl,ih]
    rfl
  | hidden hc _ ih =>
    rw [List.cons_append,split,if_neg hc,if_neg (by simp),ih]
    rfl
  | shown hc hne _ ih =>
    rw [List.cons_append,split,if_neg hc,if_neg (fun he => hne he.1),ih]
    rfl

def joined (sep : Char) : List (List Char) → List Char
  | [] => []
  | [part] => part
  | part :: parts => part ++ sep :: joined sep parts

theorem joined_next (part next : List Char) (parts : List (List Char)) :
    joined sep (part :: next :: parts) = part ++ sep :: joined sep (next :: parts) := rfl

theorem joined_flatMap (part : List Char) (parts : List (List Char)) :
    joined sep (part :: parts) = part ++ parts.flatMap (List.cons sep) := by
  induction parts generalizing part with
  | nil => exact (List.append_nil part).symm
  | cons next parts ih =>
    rw [joined_next,ih,List.flatMap_cons]
    rfl

theorem split_joined {parts : List (List Char)} (hsep : sep ≠ '\'') (hne : parts ≠ [])
    (h : ∀ part ∈ parts, Covered sep false part) : split sep false (joined sep parts) = parts := by
  induction parts with
  | nil => exact absurd rfl hne
  | cons part parts ih =>
    obtain ⟨hpart,hparts⟩ := List.forall_mem_cons.mp h
    cases parts with
    | nil => exact split_covered hpart
    | cons next parts => rw [joined_next,split_next hpart hsep,ih (List.cons_ne_nil _ _) hparts]

theorem covered_joined {sep' : Char} {parts : List (List Char)} (hsep : sep ≠ sep')
    (hquote : sep' ≠ '\'') (h : ∀ part ∈ parts, Covered sep false part) :
    Covered sep false (joined sep' parts) := by
  induction parts with
  | nil => exact .nil
  | cons part parts ih =>
    obtain ⟨hpart,hparts⟩ := List.forall_mem_cons.mp h
    cases parts with
    | nil => exact hpart
    | cons next parts => exact hpart.append (.shown hquote (Ne.symm hsep) (ih hparts))

end Split

section Assignment

variable {key value : List Char}

theorem assignment_append (h : '=' ∉ key) :
    assignment (key ++ '=' :: value) = some (key,value) := by
  have hkey : ∀ c ∈ key, decide (c ≠ '=') = true := by
    intro c hc
    exact decide_eq_true fun he : c = '=' => h (he ▸ hc)
  rw [assignment,List.dropWhile_append_of_pos hkey,List.takeWhile_append_of_pos hkey,
    List.dropWhile_cons_of_neg (by simp),List.takeWhile_cons_of_neg (by simp),List.append_nil]

theorem trim_plain {part : List Char} (h : ∀ c ∈ part, c ∉ blank) : trim part = part := by
  have hfront : part.dropWhile (fun c => c ∈ blank) = part := by
    rw [List.dropWhile_eq_self_iff]
    intro hl hblank
    exact h _ (List.getElem_mem hl) (by simpa using hblank)
  rw [trim,hfront,List.rdropWhile_eq_self_iff]
  intro hne hblank
  exact h _ (List.getLast_mem hne) (by simpa using hblank)

theorem trim_quoted (value : List Char) :
    trim ('\'' :: (value ++ ['\''])) = '\'' :: (value ++ ['\'']) := by
  rw [trim,List.dropWhile_cons_of_neg (by decide),← List.cons_append,
    List.rdropWhile_concat_neg _ _ _ (by decide)]

theorem unquote_plain (h : '\'' ∉ value) : unquote value = value :=
  List.filter_eq_self.mpr fun _ hc => decide_eq_true fun he => h (he ▸ hc)

theorem unquote_quoted (h : '\'' ∉ value) : unquote ('\'' :: (value ++ ['\''])) = value := by
  have hclose : unquote ['\''] = [] := rfl
  rw [unquote,List.filter_cons_of_neg (by simp),List.filter_append]
  change unquote value ++ unquote ['\''] = value
  rw [unquote_plain h,hclose,List.append_nil]

end Assignment

inductive Value where
  | plain (text : String)
  | quoted (text : String)

structure Filter where
  name : String
  settings : List (String × Value)

def Value.content : Value → String
  | .plain text => text
  | .quoted text => text

def Value.written : Value → List Char
  | .plain text => text.toList
  | .quoted text => '\'' :: (text.toList ++ ['\''])

def settingWritten (setting : String × Value) : List Char :=
  setting.1.toList ++ '=' :: setting.2.written

def Filter.written (f : Filter) : List Char :=
  f.name.toList ++ '=' :: joined ':' (f.settings.map settingWritten)

def chainWritten (filters : List Filter) : List Char := joined ',' (filters.map Filter.written)

def Filter.content (f : Filter) : String × List (String × String) :=
  (f.name,f.settings.map fun setting => (setting.1,setting.2.content))

def readSetting (part : List Char) : Option (String × String) :=
  (assignment part).map fun kv => (String.ofList kv.1,String.ofList (unquote (trim kv.2)))

def readFilter (part : List Char) : Option (String × List (String × String)) := do
  let (name,settings) ← assignment part
  let settings ← (split ':' false settings).mapM readSetting
  some (String.ofList name,settings)

-- escapes, labels and further chains are not read
def special : List Char := ['\\','[',']',';']

def Free (barred cs : List Char) : Prop := ∀ c ∈ cs, c ∉ barred

instance (barred cs : List Char) : Decidable (Free barred cs) := List.decidableBAll _ _

def readChain (s : String) : Option (List (String × List (String × String))) :=
  if Free special s.toList then (split ',' false s.toList).mapM readFilter else none

def Word (s : String) : Prop := s ≠ "" ∧ ∀ c ∈ s.toList, c.isAlphanum = true ∨ c = '_'

instance (s : String) : Decidable (Word s) := @instDecidableAnd _ _ _ (List.decidableBAll _ _)

def Value.Fine : Value → Prop
  | .plain text => Free (['\'',',',':'] ++ special) text.toList ∧ trim text.toList = text.toList
  | .quoted text => Free ('\'' :: special) text.toList

instance : (v : Value) → Decidable v.Fine
  | .plain text => inferInstanceAs (Decidable
      (Free (['\'',',',':'] ++ special) text.toList ∧ trim text.toList = text.toList))
  | .quoted text => inferInstanceAs (Decidable (Free ('\'' :: special) text.toList))

structure Filter.Fine (f : Filter) : Prop where
  name : Word f.name
  settings : f.settings ≠ []
  keys : ∀ setting ∈ f.settings, Word setting.1
  values : ∀ setting ∈ f.settings, setting.2.Fine

section RoundTrip

variable {f : Filter} {v : Value} {setting : String × Value} {s : String}

theorem Word.ne {c d : Char} (h : Word s) (hc : c ∈ s.toList)
    (hd : d.isAlphanum = false ∧ d ≠ '_') : c ≠ d := by
  rintro rfl
  rcases h.2 c hc with hletter | hline
  · rw [hd.1] at hletter
    cases hletter
  · exact hd.2 hline

theorem Word.covered {sep : Char} (h : Word s) (hsep : sep ∈ [',',':']) :
    Covered sep false s.toList := by
  refine covered_plain fun c hc => ⟨h.ne hc (by decide),h.ne hc ?_⟩
  simp only [List.mem_cons,List.not_mem_nil,or_false] at hsep
  rcases hsep with rfl | rfl <;> decide

theorem Value.Fine.covered {sep : Char} (h : v.Fine) (hsep : sep ∈ [',',':']) :
    Covered sep false v.written := by
  cases v with
  | plain text =>
    refine covered_plain fun c hc => ⟨fun he => h.1 c hc (by simp [he]),fun he => h.1 c hc ?_⟩
    rw [he]
    simp only [List.mem_cons,List.not_mem_nil,or_false] at hsep
    rcases hsep with rfl | rfl <;> simp
  | quoted text => exact covered_quoted fun c hc he => h c hc (by simp [he])

theorem Value.Fine.unquote (h : v.Fine) : unquote (trim v.written) = v.content.toList := by
  cases v with
  | plain text =>
    rw [Value.written,h.2]
    exact unquote_plain fun hin => h.1 _ hin (by decide)
  | quoted text =>
    rw [Value.written,trim_quoted]
    exact unquote_quoted fun hin => h _ hin (by decide)

theorem covered_setting {sep : Char} (hkey : Word setting.1) (hvalue : setting.2.Fine)
    (hsep : sep ∈ [',',':']) : Covered sep false (settingWritten setting) := by
  refine (hkey.covered hsep).append (.shown (by decide) ?_ (hvalue.covered hsep))
  rintro rfl
  simp at hsep

theorem readSetting_written (hkey : Word setting.1) (hvalue : setting.2.Fine) :
    readSetting (settingWritten setting) = some (setting.1,setting.2.content) := by
  have hequals : '=' ∉ setting.1.toList := fun hin => hkey.ne hin (by decide) rfl
  rw [readSetting,settingWritten,assignment_append hequals,Option.map_some,hvalue.unquote,
    String.ofList_toList,String.ofList_toList]

theorem mapM_written {α β γ : Type} {write : α → γ} {read : γ → Option β} {content : α → β}
    {l : List α} (h : ∀ a ∈ l, read (write a) = some (content a)) :
    (l.map write).mapM read = some (l.map content) := by
  induction l with
  | nil => rfl
  | cons a l ih =>
    obtain ⟨ha,hl⟩ := List.forall_mem_cons.mp h
    rw [List.map_cons,List.mapM_cons,ha,ih hl]
    rfl

theorem readFilter_written (h : f.Fine) : readFilter f.written = some f.content := by
  have hcovered : ∀ part ∈ f.settings.map settingWritten, Covered ':' false part := by
    intro part hpart
    obtain ⟨setting,hmem,rfl⟩ := List.mem_map.mp hpart
    exact covered_setting (h.keys setting hmem) (h.values setting hmem) (by simp)
  have hsettings := mapM_written fun setting hmem =>
    readSetting_written (h.keys setting hmem) (h.values setting hmem)
  have hequals : '=' ∉ f.name.toList := fun hin => h.name.ne hin (by decide) rfl
  rw [readFilter,Filter.written,assignment_append hequals]
  simp only [Option.bind_eq_bind,Option.bind_some]
  rw [split_joined (by decide) (by simpa using h.settings) hcovered,hsettings]
  simp only [Option.bind_some,String.ofList_toList]
  rfl

theorem covered_filter (h : f.Fine) : Covered ',' false f.written := by
  refine (h.name.covered (by simp)).append (.shown (by decide) (by decide) ?_)
  refine covered_joined (by decide) (by decide) fun part hpart => ?_
  obtain ⟨setting,hmem,rfl⟩ := List.mem_map.mp hpart
  exact covered_setting (h.keys setting hmem) (h.values setting hmem) (by simp)

theorem joined_forall {P : Char → Prop} {sep : Char} {parts : List (List Char)} (hsep : P sep)
    (h : ∀ part ∈ parts, ∀ c ∈ part, P c) : ∀ c ∈ joined sep parts, P c := by
  cases parts with
  | nil => exact List.forall_mem_nil _
  | cons part parts =>
    obtain ⟨hpart,hparts⟩ := List.forall_mem_cons.mp h
    rw [joined_flatMap,List.forall_mem_append]
    refine ⟨hpart,fun c hc => ?_⟩
    obtain ⟨later,hlater,hin⟩ := List.mem_flatMap.mp hc
    rcases List.mem_cons.mp hin with rfl | hin
    · exact hsep
    · exact hparts later hlater c hin

theorem chainWritten_forall {P : Char → Prop} {filters : List Filter}
    (hmarks : P ',' ∧ P ':' ∧ P '=' ∧ P '\'')
    (hword : ∀ c : Char, c.isAlphanum = true ∨ c = '_' → P c) (h : ∀ f ∈ filters, f.Fine)
    (hvalues : ∀ f ∈ filters, ∀ setting ∈ f.settings, ∀ c ∈ setting.2.content.toList, P c) :
    ∀ c ∈ chainWritten filters, P c := by
  obtain ⟨hcomma,hcolon,hequals,hquote⟩ := hmarks
  refine joined_forall hcomma fun part hpart => ?_
  obtain ⟨f,hf,rfl⟩ := List.mem_map.mp hpart
  rw [Filter.written,List.forall_mem_append,List.forall_mem_cons]
  refine ⟨fun c hc => hword c ((h f hf).name.2 c hc),hequals,?_⟩
  refine joined_forall hcolon fun part hpart => ?_
  obtain ⟨setting,hsetting,rfl⟩ := List.mem_map.mp hpart
  have hvalue := hvalues f hf setting hsetting
  rw [settingWritten,List.forall_mem_append,List.forall_mem_cons]
  refine ⟨fun c hc => hword c (((h f hf).keys setting hsetting).2 c hc),hequals,?_⟩
  cases hwritten : setting.2 with
  | plain text =>
    rw [hwritten] at hvalue
    exact hvalue
  | quoted text =>
    rw [hwritten] at hvalue
    rw [Value.written,List.forall_mem_cons,List.forall_mem_append]
    exact ⟨hquote,hvalue,List.forall_mem_singleton.mpr hquote⟩

theorem Value.Fine.special (h : v.Fine) : Free special v.content.toList := by
  intro c hc hin
  cases v with
  | plain text => exact h.1 c hc (List.mem_append_right _ hin)
  | quoted text => exact h c hc (List.mem_cons_of_mem _ hin)

theorem word_special {c : Char} (h : c.isAlphanum = true ∨ c = '_') : c ∉ special := by
  intro hin
  simp only [QuotedFields.special,List.mem_cons,List.not_mem_nil,or_false] at hin
  rcases hin with rfl | rfl | rfl | rfl <;> revert h <;> decide

theorem readChain_written {filters : List Filter} (hne : filters ≠ [])
    (h : ∀ f ∈ filters, f.Fine) :
    readChain (String.ofList (chainWritten filters)) = some (filters.map Filter.content) := by
  have hcovered : ∀ part ∈ filters.map Filter.written, Covered ',' false part := by
    intro part hpart
    obtain ⟨f,hmem,rfl⟩ := List.mem_map.mp hpart
    exact covered_filter (h f hmem)
  have hfilters := mapM_written fun f hmem => readFilter_written (h f hmem)
  have hspecial : Free special (chainWritten filters) :=
    chainWritten_forall (by decide) (fun _ => word_special) h fun f hf setting hsetting =>
      ((h f hf).values setting hsetting).special
  rw [readChain,String.toList_ofList,if_pos hspecial,chainWritten,
    split_joined (by decide) (by simpa using hne) hcovered,hfilters]

end RoundTrip

end QuotedFields
