import Ovi.Types
import Ovi.Library.Tokens
import Std.Data.TreeMap.Lemmas

namespace Ovi

open Tokens

structure PluginInfo where
  name : String
  attrs : AttrMap

-- `noName` is the assertion on the name, `pastEnd` the index behind the last piece
inductive ParseFault where
  | noName
  | pastEnd
deriving DecidableEq, Repr

namespace CmdParser

def pluginDelimiter (c : Char) : Bool := c == '(' || c == ')'

def attrDelimiter (c : Char) : Bool := c == '=' || c == ','

-- what `strdup` takes of a string
def cString (s : String) : List Char := s.toList.takeWhile (fun c => c != '\x00')

def pairAttrs : List String → AttrMap → Except ParseFault AttrMap
  | [], attrs => .ok attrs
  | [_], _ => .error .pastEnd
  | key :: value :: attrPair, attrs => pairAttrs attrPair (attrs.insert key value)

def parsePluginInfo (pluginStr : String) : Except ParseFault PluginInfo :=
  match next pluginDelimiter (cString pluginStr) with
  | none => .error .noName
  | some (pluginName,rest) =>
    match next pluginDelimiter rest with
    | none => .ok ⟨String.ofList pluginName,∅⟩
    | some (attrs,_) =>
      (pairAttrs ((tokens attrDelimiter attrs).map String.ofList) ∅).map
        (PluginInfo.mk (String.ofList pluginName))

def parsePlugin (linkedPlugins : String) : Except ParseFault (List PluginInfo) :=
  ((tokens (fun c => c == ' ') (cString linkedPlugins)).map String.ofList).mapM parsePluginInfo

def attrText (pluginStr : String) : List Char :=
  (((cString pluginStr).dropWhile pluginDelimiter).dropWhile (fun c => !pluginDelimiter c)
    |>.dropWhile pluginDelimiter).takeWhile (fun c => !pluginDelimiter c)

section Bounds

variable {pluginStr : String}

theorem pairAttrs_pastEnd_iff (attrPair : List String) (attrs : AttrMap) :
    pairAttrs attrPair attrs = .error .pastEnd ↔ attrPair.length % 2 = 1 := by
  induction attrPair, attrs using pairAttrs.induct with
  | case1 attrs => exact iff_of_false (fun h => by cases h) (by simp)
  | case2 key attrs => exact iff_of_true rfl rfl
  | case3 key value attrPair attrs ih =>
    rw [pairAttrs,ih,List.length_cons,List.length_cons]
    omega

theorem pastEnd_iff : parsePluginInfo pluginStr = .error .pastEnd ↔
    runs attrDelimiter (attrText pluginStr) % 2 = 1 := by
  have hempty : attrText pluginStr = [] → ¬ runs attrDelimiter (attrText pluginStr) % 2 = 1 := by
    intro h
    rw [h]
    exact (by decide : ¬ 0 % 2 = 1)
  rw [parsePluginInfo]
  rcases next_cases pluginDelimiter (cString pluginStr) with
    ⟨hnone,hall⟩ | ⟨lead,name,after,hs,hlead,hname,hafter,hnext⟩
  · rw [hnone]
    refine iff_of_false (fun h => by cases h) (hempty ?_)
    rw [attrText,List.dropWhile_eq_nil_iff.mpr hall]
    rfl
  · rw [hnext]
    have htext : attrText pluginStr =
        (after.tail.dropWhile pluginDelimiter).takeWhile (fun c => !pluginDelimiter c) := by
      rw [attrText,hs,List.append_assoc,List.dropWhile_append_of_pos hlead,hname.dropWhile,
        dropWhile_plain hname.2 hafter,dropWhile_tail hafter]
    rcases next_cases pluginDelimiter after.tail with
      ⟨hnone,hall⟩ | ⟨lead',attrs,after',hs',hlead',hattrs,hafter',hnext'⟩
    · simp only [hnone]
      refine iff_of_false (fun h => by cases h) (hempty ?_)
      rw [htext,List.dropWhile_eq_nil_iff.mpr hall]
      rfl
    · rw [hs',List.append_assoc,List.dropWhile_append_of_pos hlead',hattrs.dropWhile,
        takeWhile_plain hattrs.2 hafter'] at htext
      simp only [hnext']
      rw [htext,← length_tokens,← List.length_map (f := String.ofList),
        ← pairAttrs_pastEnd_iff _ ∅]
      cases pairAttrs ((tokens attrDelimiter attrs).map String.ofList) ∅ with
      | error e => exact ⟨fun h => congrArg Except.error (Except.error.inj h),
          fun h => congrArg Except.error (Except.error.inj h)⟩
      | ok attrs => exact iff_of_false (fun h => by cases h) (fun h => by cases h)

end Bounds

section RoundTrip

variable {name : String} {entries : List (String × String)}

def printAttr (entry : String × String) : String := entry.1 ++ "=" ++ entry.2

def printPluginInfo (name : String) (entries : List (String × String)) : String :=
  name ++ "(" ++ ",".intercalate (entries.map printAttr) ++ ")"

def Clean (s : String) : Prop :=
  s ≠ "" ∧ ∀ c ∈ s.toList, pluginDelimiter c = false ∧ attrDelimiter c = false

instance (s : String) : Decidable (Clean s) := @instDecidableAnd _ _ _ (List.decidableBAll _ _)

def attrBody : List (String × String) → List Char
  | [] => []
  | [entry] => entry.1.toList ++ '=' :: entry.2.toList
  | entry :: next :: entries =>
    entry.1.toList ++ '=' :: (entry.2.toList ++ ',' :: attrBody (next :: entries))

theorem toList_attrs (entries : List (String × String)) :
    (",".intercalate (entries.map printAttr)).toList = attrBody entries := by
  rw [String.toList_intercalate,List.map_map]
  induction entries using attrBody.induct with
  | case1 => rfl
  | case2 entry => simp [attrBody,printAttr]
  | case3 entry next entries ih =>
    rw [List.map_cons] at ih
    rw [List.map_cons,List.map_cons,List.intercalate_cons_cons,ih,attrBody]
    simp [printAttr]

theorem toList_printPluginInfo (name : String) (entries : List (String × String)) :
    (printPluginInfo name entries).toList =
      name.toList ++ '(' :: (attrBody entries ++ [')']) := by
  rw [printPluginInfo,String.toList_append,String.toList_append,String.toList_append,toList_attrs]
  simp

theorem Clean.attr {s : String} (h : Clean s) : Tokens.Plain attrDelimiter s.toList :=
  ⟨fun he => h.1 (String.toList_eq_nil_iff.mp he),fun c hc => (h.2 c hc).2⟩

theorem Clean.plugin {s : String} (h : Clean s) : Tokens.Plain pluginDelimiter s.toList :=
  ⟨fun he => h.1 (String.toList_eq_nil_iff.mp he),fun c hc => (h.2 c hc).1⟩

theorem tokens_attrBody (h : ∀ entry ∈ entries, Clean entry.1 ∧ Clean entry.2) :
    tokens attrDelimiter (attrBody entries) =
      entries.flatMap (fun entry => [entry.1.toList,entry.2.toList]) := by
  induction entries using attrBody.induct with
  | case1 => exact tokens_nil
  | case2 entry =>
    obtain ⟨hkey,hvalue⟩ := h entry List.mem_cons_self
    rw [attrBody,tokens_plain_cons hkey.attr rfl,tokens_plain hvalue.attr]
    rfl
  | case3 entry next entries ih =>
    obtain ⟨⟨hkey,hvalue⟩,hrest⟩ := List.forall_mem_cons.mp h
    rw [attrBody,tokens_plain_cons hkey.attr rfl,tokens_plain_cons hvalue.attr rfl,ih hrest]
    rfl

def enter (attrs : AttrMap) (entry : String × String) : AttrMap := attrs.insert entry.1 entry.2

theorem pairAttrs_pairs (entries : List (String × String)) (attrs : AttrMap) :
    pairAttrs (entries.flatMap (fun entry => [entry.1,entry.2])) attrs =
      .ok (entries.foldl enter attrs) := by
  induction entries generalizing attrs with
  | nil => rfl
  | cons entry entries ih => exact ih (attrs.insert entry.1 entry.2)

section Entered

variable {attrs : AttrMap} {key value : String}

theorem enter_other (h : ∀ entry ∈ entries, entry.1 ≠ key) :
    (entries.foldl enter attrs)[key]? = attrs[key]? := by
  induction entries generalizing attrs with
  | nil => rfl
  | cons entry entries ih =>
    obtain ⟨hne,hrest⟩ := List.forall_mem_cons.mp h
    rw [List.foldl_cons,ih hrest,enter,Std.TreeMap.getElem?_insert,if_neg (by simpa using hne)]

theorem enter_own (hkeys : (entries.map Prod.fst).Nodup) (h : (key,value) ∈ entries) :
    (entries.foldl enter attrs)[key]? = some value := by
  induction entries generalizing attrs with
  | nil => cases h
  | cons entry entries ih =>
    obtain ⟨hfirst,hrest⟩ := List.nodup_cons.mp hkeys
    rw [List.foldl_cons]
    rcases List.mem_cons.mp h with rfl | h
    · rw [enter_other fun entry he hkey => hfirst (List.mem_map.mpr ⟨entry,he,hkey⟩),enter,
        Std.TreeMap.getElem?_insert_self]
    · exact ih hrest h

theorem enter_listed (h : entries.Perm attrs.toList) (key : String) :
    (entries.foldl enter ∅)[key]? = attrs[key]? := by
  have hkeys : (entries.map Prod.fst).Nodup := by
    rw [(h.map Prod.fst).nodup_iff,Std.TreeMap.map_fst_toList_eq_keys]
    exact Std.TreeMap.nodup_keys
  have hmem : ∀ value, (key,value) ∈ entries ↔ attrs[key]? = some value := fun value =>
    h.mem_iff.trans Std.TreeMap.mem_toList_iff_getElem?_eq_some
  cases hvalue : attrs[key]? with
  | some value => exact enter_own hkeys ((hmem value).mpr hvalue)
  | none =>
    refine (enter_other fun entry he hkey => ?_).trans Std.TreeMap.getElem?_emptyc
    have hsome := (hmem entry.2).mp (hkey ▸ he)
    rw [hvalue] at hsome
    cases hsome

end Entered

theorem cString_of_noNul {s : String} (h : '\x00' ∉ s.toList) : cString s = s.toList := by
  refine List.takeWhile_eq_self_iff.mpr fun c hc => ?_
  simpa using fun he : c = '\x00' => h (he ▸ hc)

theorem attrBody_mem {c : Char} (hc : c ∈ attrBody entries) : c = '=' ∨ c = ',' ∨
    ∃ entry ∈ entries, c ∈ entry.1.toList ++ entry.2.toList := by
  induction entries using attrBody.induct with
  | case1 => cases hc
  | case2 entry =>
    rcases List.mem_append.mp hc with hc | hc
    · exact .inr (.inr ⟨entry,List.mem_cons_self,List.mem_append_left _ hc⟩)
    · rcases List.mem_cons.mp hc with rfl | hc
      · exact .inl rfl
      · exact .inr (.inr ⟨entry,List.mem_cons_self,List.mem_append_right _ hc⟩)
  | case3 entry next entries ih =>
    rcases List.mem_append.mp hc with hc | hc
    · exact .inr (.inr ⟨entry,List.mem_cons_self,List.mem_append_left _ hc⟩)
    · rcases List.mem_cons.mp hc with rfl | hc
      · exact .inl rfl
      · rcases List.mem_append.mp hc with hc | hc
        · exact .inr (.inr ⟨entry,List.mem_cons_self,List.mem_append_right _ hc⟩)
        · rcases List.mem_cons.mp hc with rfl | hc
          · exact .inr (.inl rfl)
          · refine (ih hc).imp_right fun h => h.imp_right ?_
            rintro ⟨entry',he,hc⟩
            exact ⟨entry',List.mem_cons_of_mem _ he,hc⟩

theorem attrBody_plain (h : ∀ entry ∈ entries, Clean entry.1 ∧ Clean entry.2) :
    ∀ c ∈ attrBody entries, pluginDelimiter c = false := by
  intro c hc
  rcases attrBody_mem hc with rfl | rfl | ⟨entry,he,hc⟩
  · rfl
  · rfl
  · rcases List.mem_append.mp hc with hc | hc
    · exact (h entry he).1.plugin.2 c hc
    · exact (h entry he).2.plugin.2 c hc

theorem attrBody_ne_nil (h : entries ≠ []) : attrBody entries ≠ [] := by
  cases entries with
  | nil => exact absurd rfl h
  | cons entry entries => cases entries <;> simp [attrBody]

theorem parse_printed (hname : Clean name)
    (h : ∀ entry ∈ entries, Clean entry.1 ∧ Clean entry.2)
    (hnul : '\x00' ∉ (printPluginInfo name entries).toList) :
    parsePluginInfo (printPluginInfo name entries) = .ok ⟨name,entries.foldl enter ∅⟩ := by
  have hfirst : next pluginDelimiter (cString (printPluginInfo name entries)) =
      some (name.toList,attrBody entries ++ [')']) := by
    rw [cString_of_noNul hnul,toList_printPluginInfo]
    exact next_plain hname.plugin rfl
  rw [parsePluginInfo,hfirst]
  simp only [String.ofList_toList]
  by_cases hnil : entries = []
  · subst hnil
    rfl
  · have hsecond : next pluginDelimiter (attrBody entries ++ [')']) =
        some (attrBody entries,[]) :=
      next_plain ⟨attrBody_ne_nil hnil,attrBody_plain h⟩ rfl
    have hpieces : (tokens attrDelimiter (attrBody entries)).map String.ofList =
        entries.flatMap (fun entry => [entry.1,entry.2]) := by
      rw [tokens_attrBody h,List.map_flatMap]
      simp only [List.map_cons,List.map_nil,String.ofList_toList]
    simp only [hsecond,hpieces,pairAttrs_pairs]
    rfl

end RoundTrip

section Characters

variable {pluginStr : String} {info : PluginInfo}

theorem pairAttrs_mem {attrPair : List String} {attrs attrs' : AttrMap} {key value : String}
    (h : pairAttrs attrPair attrs = .ok attrs') (hkey : attrs'[key]? = some value) :
    attrs[key]? = some value ∨ (key ∈ attrPair ∧ value ∈ attrPair) := by
  induction attrPair, attrs using pairAttrs.induct with
  | case1 attrs =>
    obtain rfl := Except.ok.inj h
    exact .inl hkey
  | case2 k attrs => cases h
  | case3 k v attrPair attrs ih =>
    rcases ih h with hin | ⟨hk,hv⟩
    · rw [Std.TreeMap.getElem?_insert] at hin
      split at hin
      · rename_i heq
        obtain rfl : k = key := by simpa using heq
        obtain rfl := Option.some.inj hin
        exact .inr ⟨by simp,by simp⟩
      · exact .inl hin
    · exact .inr ⟨by simp [hk],by simp [hv]⟩

theorem next_mem {delim : Char → Bool} {s token rest : List Char}
    (h : next delim s = some (token,rest)) : (∀ c ∈ token, c ∈ s) ∧ ∀ c ∈ rest, c ∈ s := by
  rcases next_cases delim s with ⟨hnone,-⟩ | ⟨lead,token',after,rfl,-,-,-,hnext⟩
  · rw [hnone] at h
    cases h
  · obtain ⟨rfl,rfl⟩ := Prod.mk.inj (Option.some.inj (hnext.symm.trans h))
    refine ⟨fun c hc => by simp [hc],fun c hc => ?_⟩
    exact List.mem_append_right _ (List.mem_of_mem_tail hc)

theorem parsePluginInfo_mem (h : parsePluginInfo pluginStr = .ok info) :
    (∀ c ∈ info.name.toList, c ∈ cString pluginStr) ∧
      ∀ key value : String, info.attrs[key]? = some value →
        ∀ c ∈ key.toList ++ value.toList, c ∈ cString pluginStr := by
  rw [parsePluginInfo] at h
  split at h
  · cases h
  · rename_i name rest hname
    obtain ⟨hfirst,hrest⟩ := next_mem hname
    split at h
    · obtain rfl := Except.ok.inj h
      refine ⟨fun c hc => hfirst c (by simpa using hc),fun key value hkey => ?_⟩
      cases Std.TreeMap.getElem?_emptyc.symm.trans hkey
    · rename_i text rest' htext
      cases hpairs : pairAttrs ((tokens attrDelimiter text).map String.ofList) ∅ with
      | error e =>
        rw [hpairs] at h
        cases h
      | ok attrs =>
        rw [hpairs] at h
        obtain rfl := Except.ok.inj h
        refine ⟨fun c hc => hfirst c (by simpa using hc),fun key value hkey c hc => ?_⟩
        have hpiece : ∀ s ∈ (tokens attrDelimiter text).map String.ofList,
            ∀ c ∈ s.toList, c ∈ cString pluginStr := by
          intro s hs c hc
          obtain ⟨t,ht,rfl⟩ := List.mem_map.mp hs
          rw [String.toList_ofList] at hc
          exact hrest c ((next_mem htext).1 c (mem_tokens ht c hc))
        rcases pairAttrs_mem hpairs hkey with hnone | ⟨hk,hv⟩
        · cases Std.TreeMap.getElem?_emptyc.symm.trans hnone
        · rcases List.mem_append.mp hc with hc | hc
          · exact hpiece key hk c hc
          · exact hpiece value hv c hc

theorem noNul_of_mem {c : Char} (h : c ∈ cString pluginStr) : c ≠ '\x00' := by
  have := List.mem_takeWhile_imp h
  simpa using this

end Characters

section Verdict

def Parsed (pluginStr name : String) (attrs : AttrMap) : Prop :=
  ∃ info, parsePluginInfo pluginStr = .ok info ∧ info.name = name ∧
    ∀ key : String, info.attrs[key]? = attrs[key]?

variable {name : String} {attrs : AttrMap} {entries : List (String × String)}

theorem parsed_iff (h : entries.Perm attrs.toList) (hname : Clean name)
    (hclean : ∀ entry ∈ entries, Clean entry.1 ∧ Clean entry.2) :
    Parsed (printPluginInfo name entries) name attrs ↔
      '\x00' ∉ (printPluginInfo name entries).toList := by
  constructor
  · rintro ⟨info,hparse,rfl,hattrs⟩ hnul
    obtain ⟨hin,hattr⟩ := parsePluginInfo_mem hparse
    rw [toList_printPluginInfo] at hnul
    rcases List.mem_append.mp hnul with hc | hc
    · exact noNul_of_mem (hin _ hc) rfl
    · rcases List.mem_cons.mp hc with hc | hc
      · exact absurd hc (by decide)
      · rcases List.mem_append.mp hc with hc | hc
        · rcases attrBody_mem hc with hc | hc | ⟨⟨key,value⟩,he,hc⟩
          · exact absurd hc (by decide)
          · exact absurd hc (by decide)
          · have hvalue := Std.TreeMap.mem_toList_iff_getElem?_eq_some.mp (h.mem_iff.mp he)
            exact noNul_of_mem (hattr key value ((hattrs key).trans hvalue) _ hc) rfl
        · exact absurd hc (by decide)
  · intro hnul
    exact ⟨_,parse_printed hname hclean hnul,rfl,enter_listed h⟩

theorem parsePluginInfo_verdict (pluginStr : String) :
    (parsePluginInfo pluginStr ≠ .error .pastEnd ↔
      runs attrDelimiter (attrText pluginStr) % 2 = 0) ∧
    ∀ (name : String) (attrs : AttrMap) (entries : List (String × String)),
      entries.Perm attrs.toList → Clean name →
      (∀ entry ∈ entries, Clean entry.1 ∧ Clean entry.2) →
        (Parsed (printPluginInfo name entries) name attrs ↔
          '\x00' ∉ (printPluginInfo name entries).toList) := by
  constructor
  · rw [ne_eq,pastEnd_iff]
    omega
  · intro name attrs entries h hname hclean
    exact parsed_iff h hname hclean

theorem sticker_parsed : Parsed "VideoEffectMarker(name=sticker,path=logo.png)"
    "VideoEffectMarker" {("path","logo.png"),("name","sticker")} :=
  ((parsePluginInfo_verdict "VideoEffectMarker(name=sticker,path=logo.png)").2
    "VideoEffectMarker" {("path","logo.png"),("name","sticker")}
    [("name","sticker"),("path","logo.png")] (by decide) (by decide) (by decide)).mpr (by decide)

theorem value_missing : parsePluginInfo "VideoEffectMarker(name=sticker,path)" =
    .error .pastEnd := pastEnd_iff.mpr (by decide)

end Verdict

theorem mem_intercalate {α : Type} {c d : α} {ws : List (List α)} (hc : c ∈ [d].intercalate ws) :
    c = d ∨ ∃ w ∈ ws, c ∈ w := by
  induction ws with
  | nil => cases hc
  | cons w ws ih =>
    cases ws with
    | nil =>
      rw [List.intercalate_singleton] at hc
      exact .inr ⟨w,List.mem_cons_self,hc⟩
    | cons w' ws =>
      rw [List.intercalate_cons_cons] at hc
      rcases List.mem_append.mp hc with hc | hc
      · rcases List.mem_append.mp hc with hc | hc
        · exact .inr ⟨w,List.mem_cons_self,hc⟩
        · exact .inl (List.mem_singleton.mp hc)
      · refine (ih hc).imp_right ?_
        rintro ⟨w'',hw,hc⟩
        exact ⟨w'',List.mem_cons_of_mem _ hw,hc⟩

theorem parsePlugin_pieces {texts : List String}
    (h : ∀ text ∈ texts,
      Tokens.Plain (fun c => c == ' ') text.toList ∧ '\x00' ∉ text.toList) :
    parsePlugin (" ".intercalate texts) = texts.mapM parsePluginInfo := by
  have hlist : (" ".intercalate texts).toList = [' '].intercalate (texts.map String.toList) := by
    rw [String.toList_intercalate]
    rfl
  have hplain : ∀ w ∈ texts.map String.toList, Tokens.Plain (fun c => c == ' ') w := by
    intro w hw
    obtain ⟨text,ht,rfl⟩ := List.mem_map.mp hw
    exact (h text ht).1
  have hnul : '\x00' ∉ (" ".intercalate texts).toList := by
    rw [hlist]
    intro hc
    rcases mem_intercalate hc with hc | ⟨w,hw,hc⟩
    · exact absurd hc (by decide)
    · obtain ⟨text,ht,rfl⟩ := List.mem_map.mp hw
      exact (h text ht).2 hc
  rw [parsePlugin,cString_of_noNul hnul,hlist,tokens_intercalate rfl hplain,List.map_map]
  have hid : String.ofList ∘ String.toList = id := funext fun s => String.ofList_toList
  rw [hid,List.map_id]

end CmdParser

end Ovi
