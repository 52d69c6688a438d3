import Ovi.Range.Ranges

namespace Ovi

open GapClosing

variable {f₀ : Int} {c : Nat} {framerate : ℚ} {input : List RawData} {x : RawData}
  {uid : String} {details : Details}

def TimeRange.contains (r : TimeRange) (k : Int) : Bool :=
  r.startFrameNum ≤ k && k < r.startFrameNum + r.duration

def SortedCollection.entries (s : SortedCollection) (uid : String) : List Detected :=
  s.getD uid []

structure MetadataKept (input : List RawData) (out : List TimeRangeWithMetadata) : Prop where
  kept : ∀ x ∈ input, x.included = true → ∀ uid details, x.detected[uid]? = some details →
    ∃ r, out.filter (fun r => r.timeRange.contains x.frameNumber) = [r] ∧
      (SortedCollection.entries r.collection uid).filter
        (fun e => e.frameNumber = x.frameNumber) = [⟨x.frameNumber,details⟩]
  genuine : ∀ r ∈ out, ∀ uid, ∀ e ∈ SortedCollection.entries r.collection uid,
    ∃ x ∈ input, x.included = true ∧ x.frameNumber = e.frameNumber ∧
      x.detected[uid]? = some e.list

section Entries

theorem filter_eq_singleton {α : Type} {p : α → Bool} {l : List α} {a : α}
    (h : l.Pairwise (fun a b => ¬ (p a = true ∧ p b = true))) (ha : a ∈ l) (hp : p a = true) :
    l.filter p = [a] := by
  induction l with
  | nil => cases ha
  | cons b l ih =>
    obtain ⟨hb,htail⟩ := List.pairwise_cons.mp h
    rcases List.mem_cons.mp ha with rfl | ha
    · have hnone : l.filter p = [] :=
        List.filter_eq_nil_iff.mpr fun d hd hpd => hb d hd ⟨hp,hpd⟩
      rw [List.filter_cons_of_pos hp,hnone]
    · rw [List.filter_cons_of_neg fun hpb => hb a ha ⟨hpb,hp⟩]
      exact ih htail ha

theorem filter_key (t : DetectedData) (uid : String) :
    t.toList.filter (fun item => item.1 = uid) = t[uid]?.toList.map (Prod.mk uid) := by
  cases h : t[uid]? with
  | none =>
    refine List.filter_eq_nil_iff.mpr fun item hitem => ?_
    have hsome := Std.TreeMap.mem_toList_iff_getElem?_eq_some.mp hitem
    simpa using fun he => by simp [← he,hsome] at h
  | some d =>
    refine filter_eq_singleton ?_ (Std.TreeMap.mem_toList_iff_getElem?_eq_some.mpr h) (by simp)
    refine Std.TreeMap.distinct_keys_toList.imp fun hne he => hne ?_
    simp only [decide_eq_true_eq] at he
    simp [he.1,he.2]

theorem sortFrame_entries (tmp : SortedCollection) (x : RawData) (uid : String) :
    (DataAnalyzer.sortFrame tmp x).entries uid = tmp.entries uid ++
      (x.detected[uid]?.map (Detected.mk x.frameNumber)).toList := by
  have hfold : ∀ (items : List (String × Details)) (tmp : SortedCollection),
      SortedCollection.entries (items.foldl (fun tmp item =>
        tmp.insert item.1 (tmp.getD item.1 [] ++ [⟨x.frameNumber,item.2⟩])) tmp) uid =
      tmp.entries uid ++ (items.filter (fun item => item.1 = uid)).map
        (fun item => ⟨x.frameNumber,item.2⟩) := by
    intro items
    induction items with
    | nil => simp
    | cons item items ih =>
      intro tmp
      rw [List.foldl_cons,ih]
      simp only [SortedCollection.entries,Std.TreeMap.getD_insert]
      by_cases he : item.1 = uid
      · simp [he]
      · simp [he]
  rw [DataAnalyzer.sortFrame,hfold,filter_key]
  cases x.detected[uid]? <;> rfl

theorem sort_entries (input : List RawData) (uid : String) :
    (DataAnalyzer.sort input).entries uid = input.filterMap
      (fun x => x.detected[uid]?.map (Detected.mk x.frameNumber)) := by
  have hfold : ∀ (input : List RawData) (tmp : SortedCollection),
      SortedCollection.entries (input.foldl DataAnalyzer.sortFrame tmp) uid =
        tmp.entries uid ++ input.filterMap
          (fun x => x.detected[uid]?.map (Detected.mk x.frameNumber)) := by
    intro input
    induction input with
    | nil => simp
    | cons x input ih =>
      intro tmp
      rw [List.foldl_cons,ih,sortFrame_entries,List.append_assoc]
      cases h : x.detected[uid]? <;> simp [h]
  rw [DataAnalyzer.sort,hfold]
  rfl

end Entries

section Kept

theorem mem_kept {g : List RawData} :
    x ∈ kept c input g ↔ x ∈ g ∧ ¬ EndsGap c input x ∧ x.detected.isEmpty = false := by
  simp [kept]

theorem mem_group {g : List RawData}
    (hg : g ∈ groups RawData.frameNumber c (includedFrames input)) (hx : x ∈ g) :
    x ∈ input ∧ x.included = true := List.mem_filter.mp (mem_of_groups hg hx)

theorem contains_iff (r : TimeRange) (k : Int) :
    r.contains k = true ↔ r.startFrameNum ≤ k ∧ k < r.startFrameNum + r.duration := by
  simp [TimeRange.contains]

theorem contains_rangeOf (hc : Consecutive f₀ input) {g : List RawData}
    (hg : g ∈ groups RawData.frameNumber c (includedFrames input))
    (hx : x ∈ includedFrames input) :
    (rangeOf c input g).timeRange.contains x.frameNumber = true ↔ x ∈ g := by
  have hs := included_sorted hc
  rw [contains_iff]
  simp only [rangeOf]
  constructor
  · rintro ⟨h₁,h₂⟩
    exact mem_group_of_span hs hg hx h₁ (by omega)
  · intro hxg
    have hfirst := span_first_le (group_sorted hs hg) hxg
    have hlast := span_le_last (group_sorted hs hg) hxg
    exact ⟨hfirst,by omega⟩

theorem entries_rangeOf (g : List RawData) (uid : String) :
    SortedCollection.entries (rangeOf c input g).collection uid = (kept c input g).filterMap
      (fun x => x.detected[uid]?.map (Detected.mk x.frameNumber)) :=
  sort_entries (kept c input g) uid

theorem eq_of_frameNumber (hc : Consecutive f₀ input) {y : RawData} (hx : x ∈ input)
    (hy : y ∈ input) (he : x.frameNumber = y.frameNumber) : x = y := by
  obtain ⟨i,hi⟩ := List.mem_iff_getElem?.mp hx
  obtain ⟨j,hj⟩ := List.mem_iff_getElem?.mp hy
  have hin := hc i x hi
  have hjn := hc j y hj
  obtain rfl : i = j := by omega
  exact Option.some.inj (hi ▸ hj)

theorem entries_genuine {g : List RawData} {e : Detected}
    (he : e ∈ SortedCollection.entries (rangeOf c input g).collection uid) :
    ∃ x ∈ kept c input g, x.frameNumber = e.frameNumber ∧ x.detected[uid]? = some e.list := by
  rw [entries_rangeOf] at he
  obtain ⟨x,hx,hd⟩ := List.mem_filterMap.mp he
  obtain ⟨d,hfound,rfl⟩ := Option.map_eq_some_iff.mp hd
  exact ⟨x,hx,rfl,hfound⟩

theorem entries_of_kept (hc : Consecutive f₀ input) {g : List RawData}
    (hg : g ∈ groups RawData.frameNumber c (includedFrames input)) (hx : x ∈ kept c input g)
    (hd : x.detected[uid]? = some details) :
    (SortedCollection.entries (rangeOf c input g).collection uid).filter
      (fun e => e.frameNumber = x.frameNumber) = [⟨x.frameNumber,details⟩] := by
  have hsorted : (kept c input g).Pairwise (fun a b => a.frameNumber < b.frameNumber) :=
    (group_sorted (included_sorted hc) hg).filter _
  have hfilter : (kept c input g).filter (fun y => y.frameNumber = x.frameNumber) = [x] := by
    refine filter_eq_singleton (hsorted.imp fun hlt he => ?_) hx (by simp)
    simp only [decide_eq_true_eq] at he
    omega
  calc (SortedCollection.entries (rangeOf c input g).collection uid).filter
        (fun e => e.frameNumber = x.frameNumber)
      = ((kept c input g).filter (fun y => y.frameNumber = x.frameNumber)).filterMap
          (fun y => y.detected[uid]?.map (Detected.mk y.frameNumber)) := by
        rw [entries_rangeOf,List.filter_filterMap,List.filterMap_filter]
        refine List.filterMap_congr fun y _ => ?_
        cases y.detected[uid]? <;> by_cases he : y.frameNumber = x.frameNumber <;> simp [he]
    _ = [⟨x.frameNumber,details⟩] := by simp [hfilter,hd]

theorem filter_ranges (hc : Consecutive f₀ input) {g : List RawData}
    (hg : g ∈ groups RawData.frameNumber c (includedFrames input)) (hx : x ∈ g) :
    ((groups RawData.frameNumber c (includedFrames input)).map (rangeOf c input)).filter
      (fun r => r.timeRange.contains x.frameNumber) = [rangeOf c input g] := by
  have hs := included_sorted hc
  have hxin := mem_of_groups hg hx
  refine filter_eq_singleton ?_ (List.mem_map_of_mem hg) ((contains_rangeOf hc hg hxin).mpr hx)
  refine List.pairwise_map.mpr ((groups_separated (c := c) hs).imp ?_)
  rintro a b hapart ⟨ha,hb⟩
  rw [contains_iff] at ha hb
  simp only [rangeOf] at ha hb
  omega

end Kept

section Result

theorem metadataKept_iff (hc : Consecutive f₀ input) (h₀ : 0 ≤ f₀) (hf : ⌈framerate⌉ = c) :
    MetadataKept input
        ((DataAnalyzer.make.setCorrectionValue framerate).analyzeRawData input).result ↔
      ∀ x ∈ input, x.included = true → EndsGap c input x → x.detected.isEmpty = true := by
  rw [analyzeRawData_result hc h₀ (by rw [hf,Int.toNat_natCast])]
  constructor
  · intro h x hx hin hgap
    by_contra hne
    obtain ⟨uid,hmem⟩ := Std.TreeMap.isEmpty_eq_false_iff_exists_mem.mp (Bool.not_eq_true _ ▸ hne)
    have hd := Std.TreeMap.getElem?_eq_some_getElem hmem
    obtain ⟨r,hr,hentries⟩ := h.kept x hx hin uid _ hd
    have he : (⟨x.frameNumber,x.detected[uid]⟩ : Detected) ∈
        SortedCollection.entries r.collection uid :=
      List.mem_of_mem_filter (hentries ▸ List.mem_singleton_self _)
    have hrm := List.mem_of_mem_filter (hr ▸ List.mem_singleton_self r)
    obtain ⟨g,hg,rfl⟩ := List.mem_map.mp hrm
    obtain ⟨y,hy,hyn,-⟩ := entries_genuine he
    obtain ⟨hyg,hno,-⟩ := mem_kept.mp hy
    obtain rfl := eq_of_frameNumber hc (mem_group hg hyg).1 hx hyn
    exact hno hgap
  · intro h
    constructor
    · intro x hx hin uid details hd
      have hxin : x ∈ includedFrames input := List.mem_filter.mpr ⟨hx,hin⟩
      obtain ⟨g,hg,hxg⟩ := exists_group RawData.frameNumber c hxin
      have hfull : x.detected.isEmpty = false :=
        Std.TreeMap.isEmpty_eq_false_iff_exists_mem.mpr
          ⟨uid,Std.TreeMap.mem_iff_isSome_getElem?.mpr (by simp [hd])⟩
      have hxk : x ∈ kept c input g :=
        mem_kept.mpr ⟨hxg,fun hgap => by simp [h x hx hin hgap] at hfull,hfull⟩
      exact ⟨rangeOf c input g,filter_ranges hc hg hxg,entries_of_kept hc hg hxk hd⟩
    · intro r hr uid e he
      obtain ⟨g,hg,rfl⟩ := List.mem_map.mp hr
      obtain ⟨x,hx,hn,hd⟩ := entries_genuine he
      obtain ⟨hxg,-,-⟩ := mem_kept.mp hx
      exact ⟨x,(mem_group hg hxg).1,(mem_group hg hxg).2,hn,hd⟩

def faceBox : DetectedData := .ofList [("FaceDetect.1",[DetailsItem.rect 0 0 1 1])]

def faceAfterGap : List RawData := numbered 0 [(true,∅),(false,∅),(true,faceBox)]

theorem metadataKept_iff_faceAfterGap :
    MetadataKept faceAfterGap
        ((DataAnalyzer.make.setCorrectionValue 2).analyzeRawData faceAfterGap).result ↔
      ∀ x ∈ faceAfterGap, x.included = true → EndsGap 2 faceAfterGap x →
        x.detected.isEmpty = true :=
  metadataKept_iff (numbered_consecutive 0 _) (le_refl 0) (by norm_num)

theorem metadata_lost_faceAfterGap : ¬ MetadataKept faceAfterGap
    ((DataAnalyzer.make.setCorrectionValue 2).analyzeRawData faceAfterGap).result := by
  intro h
  obtain ⟨r,hr,he⟩ := h.kept ⟨2,true,faceBox⟩ (by simp [faceAfterGap,numbered]) rfl
    "FaceDetect.1" [.rect 0 0 1 1] (by decide)
  have hout : ((DataAnalyzer.make.setCorrectionValue 2).analyzeRawData faceAfterGap).result.map
      (fun r => SortedCollection.entries r.collection "FaceDetect.1") = [[]] := by
    decide +kernel
  have hmem := List.mem_of_mem_filter (hr ▸ List.mem_singleton_self r)
  have hempty : SortedCollection.entries r.collection "FaceDetect.1" = [] :=
    List.mem_singleton.mp (hout ▸ List.mem_map_of_mem hmem)
  simp [hempty] at he

end Result

end Ovi
