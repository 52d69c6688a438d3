import Ovi.Flow.OutcomeCache

namespace Ovi

def DetailsItem.flag? : DetailsItem → Option Bool
  | .bool value => some value
  | _ => none

namespace Accumulator

structure Updated (detected : Details) (rawdata rawdata' : List RawData) : Prop where
  length : rawdata'.length = rawdata.length
  entry : ∀ (k : Nat) (item : RawData), rawdata[k]? = some item → ∃ value,
    detected[k]? = some (DetailsItem.bool value) ∧
      rawdata'[k]? = some { item with included := value }

def UpdatesOrKeeps (a : Accumulator) (detected : Details) : Prop :=
  ((a.update detected).2 = none ∧ Updated detected a.rawdata (a.update detected).1.rawdata) ∨
    ∃ e, (a.update detected).2 = some (.raised e) ∧ (a.update detected).1 = a

def AllFlags (a : Accumulator) (detected : Details) : Prop :=
  ∀ k < a.rawdata.length, ∃ value, detected[k]? = some (.bool value)

-- the first item that is no bool comes before any flag has changed
def StopsInTime (a : Accumulator) (detected : Details) : Prop :=
  ∃ j < a.rawdata.length, (∃ item, detected[j]? = some item ∧ item.flag? = none) ∧
    ∀ k < j, detected[k]? = a.rawdata[k]?.map (fun item => .bool item.included)

section Loop

variable {detected : Details} {i : Nat} {item : RawData} {rawdata : List RawData}

theorem updateFrom_end (h : detected[i]? = none) :
    updateFrom detected i (item :: rawdata) = (item :: rawdata,some .undefined) := by
  rw [updateFrom,h]

theorem updateFrom_bool {value : Bool} (h : detected[i]? = some (.bool value)) :
    updateFrom detected i (item :: rawdata) =
      ({ item with included := value } :: (updateFrom detected (i + 1) rawdata).1,
        (updateFrom detected (i + 1) rawdata).2) := by
  rw [updateFrom,h]

theorem updateFrom_other {x : DetailsItem} (h : detected[i]? = some x) (hx : x.flag? = none) :
    updateFrom detected i (item :: rawdata) = (item :: rawdata,some (.raised .other)) := by
  rw [updateFrom,h]
  cases x with
  | bool value => cases hx
  | _ => rfl

theorem lookup_cases (detected : Details) (i : Nat) : detected[i]? = none ∨
    (∃ value, detected[i]? = some (.bool value)) ∨
      ∃ x, detected[i]? = some x ∧ x.flag? = none := by
  cases h : detected[i]? with
  | none => exact .inl rfl
  | some x =>
    cases x with
    | bool value => exact .inr (.inl ⟨value,rfl⟩)
    | _ => exact .inr (.inr ⟨_,rfl,rfl⟩)

theorem updateFrom_ends_iff : (updateFrom detected i rawdata).2 = none ↔
    ∀ k < rawdata.length, ∃ value, detected[i + k]? = some (.bool value) := by
  induction rawdata generalizing i with
  | nil => exact iff_of_true rfl fun k hk => absurd hk (Nat.not_lt_zero k)
  | cons item rawdata ih =>
    have hstuck : detected[i]? = none ∨ (∃ x, detected[i]? = some x ∧ x.flag? = none) →
        ¬ ∀ k < (item :: rawdata).length, ∃ value, detected[i + k]? = some (.bool value) := by
      intro h hall
      obtain ⟨value,hvalue⟩ := hall 0 (Nat.zero_lt_succ _)
      rw [Nat.add_zero] at hvalue
      rcases h with h | ⟨x,h,hx⟩
      · rw [h] at hvalue
        cases hvalue
      · rw [h] at hvalue
        rw [Option.some.inj hvalue] at hx
        cases hx
    rcases lookup_cases detected i with h | ⟨value,h⟩ | ⟨x,h,hx⟩
    · rw [updateFrom_end h]
      exact iff_of_false (fun h => by cases h) (hstuck (.inl h))
    · rw [updateFrom_bool h,ih]
      constructor
      · intro hall k hk
        cases k with
        | zero => exact ⟨value,h⟩
        | succ k =>
          rw [← Nat.succ_add_eq_add_succ]
          exact hall k (Nat.lt_of_succ_lt_succ hk)
      · intro hall k hk
        rw [Nat.succ_add_eq_add_succ]
        exact hall (k + 1) (Nat.succ_lt_succ hk)
    · rw [updateFrom_other h hx]
      exact iff_of_false (fun h => by cases h) (hstuck (.inr ⟨x,h,hx⟩))

theorem updateFrom_length : (updateFrom detected i rawdata).1.length = rawdata.length := by
  induction rawdata generalizing i with
  | nil => rfl
  | cons item rawdata ih =>
    rcases lookup_cases detected i with h | ⟨value,h⟩ | ⟨x,h,hx⟩
    · rw [updateFrom_end h]
    · rw [updateFrom_bool h]
      exact congrArg Nat.succ ih
    · rw [updateFrom_other h hx]

theorem updateFrom_entry (hends : (updateFrom detected i rawdata).2 = none) {k : Nat}
    (hk : rawdata[k]? = some item) : ∃ value, detected[i + k]? = some (.bool value) ∧
      (updateFrom detected i rawdata).1[k]? = some { item with included := value } := by
  induction rawdata generalizing i k with
  | nil => cases hk
  | cons first rawdata ih =>
    obtain ⟨value,h⟩ := updateFrom_ends_iff.mp hends 0 (Nat.zero_lt_succ _)
    rw [Nat.add_zero] at h
    rw [updateFrom_bool h] at hends ⊢
    cases k with
    | zero =>
      obtain rfl := Option.some.inj hk
      exact ⟨value,h,rfl⟩
    | succ k =>
      rw [← Nat.succ_add_eq_add_succ]
      exact ih hends hk

def StopsFrom (detected : Details) (i : Nat) (rawdata : List RawData) : Prop :=
  ∃ j < rawdata.length, (∃ x, detected[i + j]? = some x ∧ x.flag? = none) ∧
    ∀ k < j, detected[i + k]? = rawdata[k]?.map (fun item => .bool item.included)

theorem not_stopsFrom_nil : ¬ StopsFrom detected i [] := by
  rintro ⟨j,hj,-⟩
  exact Nat.not_lt_zero j hj

theorem not_stopsFrom_end (h : detected[i]? = none) :
    ¬ StopsFrom detected i (item :: rawdata) := by
  rintro ⟨j,-,⟨x,hx,-⟩,hbefore⟩
  cases j with
  | zero =>
    rw [Nat.add_zero,h] at hx
    cases hx
  | succ j =>
    have hfirst := hbefore 0 (Nat.zero_lt_succ j)
    rw [Nat.add_zero,h] at hfirst
    cases hfirst

theorem stopsFrom_other {x : DetailsItem} (h : detected[i]? = some x) (hx : x.flag? = none) :
    StopsFrom detected i (item :: rawdata) :=
  ⟨0,Nat.zero_lt_succ _,⟨x,h,hx⟩,fun k hk => absurd hk (Nat.not_lt_zero k)⟩

theorem stopsFrom_bool {value : Bool} (h : detected[i]? = some (.bool value)) :
    StopsFrom detected i (item :: rawdata) ↔
      value = item.included ∧ StopsFrom detected (i + 1) rawdata := by
  constructor
  · rintro ⟨j,hj,⟨x,hx,hflag⟩,hbefore⟩
    cases j with
    | zero =>
      rw [Nat.add_zero,h] at hx
      rw [← Option.some.inj hx] at hflag
      cases hflag
    | succ j =>
      have hfirst := hbefore 0 (Nat.zero_lt_succ j)
      rw [Nat.add_zero,h] at hfirst
      rw [← Nat.succ_add_eq_add_succ] at hx
      refine ⟨by simpa using hfirst,j,Nat.lt_of_succ_lt_succ hj,⟨x,hx,hflag⟩,fun k hk => ?_⟩
      rw [Nat.succ_add_eq_add_succ]
      exact hbefore (k + 1) (Nat.succ_lt_succ hk)
  · rintro ⟨rfl,j,hj,⟨x,hx,hflag⟩,hbefore⟩
    rw [Nat.succ_add_eq_add_succ] at hx
    refine ⟨j + 1,Nat.succ_lt_succ hj,⟨x,hx,hflag⟩,fun k hk => ?_⟩
    cases k with
    | zero => exact h
    | succ k =>
      rw [← Nat.succ_add_eq_add_succ]
      exact hbefore k (Nat.lt_of_succ_lt_succ hk)

theorem updateFrom_keeps_iff :
    ((∃ e, (updateFrom detected i rawdata).2 = some (.raised e)) ∧
      (updateFrom detected i rawdata).1 = rawdata) ↔ StopsFrom detected i rawdata := by
  induction rawdata generalizing i with
  | nil =>
    refine iff_of_false ?_ not_stopsFrom_nil
    rintro ⟨⟨e,h⟩,-⟩
    cases h
  | cons item rawdata ih =>
    rcases lookup_cases detected i with h | ⟨value,h⟩ | ⟨x,h,hx⟩
    · rw [updateFrom_end h]
      refine iff_of_false ?_ (not_stopsFrom_end h)
      rintro ⟨⟨e,h⟩,-⟩
      cases h
    · rw [updateFrom_bool h,stopsFrom_bool h,← ih]
      constructor
      · rintro ⟨hraised,hsame⟩
        obtain ⟨hitem,hrest⟩ := List.cons.inj hsame
        exact ⟨congrArg RawData.included hitem,hraised,hrest⟩
      · rintro ⟨rfl,hraised,hrest⟩
        exact ⟨hraised,congrArg (item :: ·) hrest⟩
    · rw [updateFrom_other h hx]
      exact iff_of_true ⟨⟨.other,rfl⟩,rfl⟩ (stopsFrom_other h hx)

end Loop

variable {a : Accumulator} {detected : Details}

theorem update_ends_iff : (a.update detected).2 = none ↔ AllFlags a detected := by
  have h : (updateFrom detected 0 a.rawdata).2 = none ↔ _ := updateFrom_ends_iff
  simp only [Nat.zero_add] at h
  exact h

theorem update_updated (hends : (a.update detected).2 = none) :
    Updated detected a.rawdata (a.update detected).1.rawdata := by
  refine ⟨updateFrom_length,fun k item hk => ?_⟩
  have h := updateFrom_entry hends hk
  simp only [Nat.zero_add] at h
  exact h

theorem update_keeps_iff :
    (∃ e, (a.update detected).2 = some (.raised e) ∧ (a.update detected).1 = a) ↔
      StopsInTime a detected := by
  have h : (∃ e, (updateFrom detected 0 a.rawdata).2 = some (.raised e)) ∧
    (updateFrom detected 0 a.rawdata).1 = a.rawdata ↔ _ := updateFrom_keeps_iff
  simp only [StopsFrom,Nat.zero_add] at h
  rw [StopsInTime,← h,exists_and_right]
  refine and_congr_right fun _ => ?_
  constructor
  · exact fun h => congrArg Accumulator.rawdata h
  · exact fun h => congrArg Accumulator.mk h

theorem UpdatesOrKeeps.flags (h : UpdatesOrKeeps a detected) :
    AllFlags a detected ∨ StopsInTime a detected :=
  h.imp (fun h => update_ends_iff.mp h.1) update_keeps_iff.mp

theorem AllFlags.updates (h : AllFlags a detected) : UpdatesOrKeeps a detected :=
  .inl ⟨update_ends_iff.mpr h,update_updated (update_ends_iff.mpr h)⟩

theorem StopsInTime.keeps (h : StopsInTime a detected) : UpdatesOrKeeps a detected :=
  .inr (update_keeps_iff.mpr h)

theorem updates_or_keeps_iff (a : Accumulator) (detected : Details) :
    UpdatesOrKeeps a detected ↔ AllFlags a detected ∨ StopsInTime a detected := by
  constructor
  · exact UpdatesOrKeeps.flags
  · rintro (h | h)
    · exact h.updates
    · exact h.keeps

section Sample

def shown : RawData := ⟨1,true,∅⟩

-- the first frame is already excluded when the second item raises, and a third one is not there
theorem mixed_list_not_kept :
    ¬ UpdatesOrKeeps ⟨[shown,shown]⟩ [.bool false,.rect 0 0 1 1] ∧
      ¬ UpdatesOrKeeps ⟨[shown,shown]⟩ [.bool false] := by
  have hshown : (⟨[{ shown with included := false },shown]⟩ : Accumulator) ≠
      ⟨[shown,shown]⟩ := by
    intro h
    have hflag := congrArg (fun a => a.rawdata.map RawData.included) h
    exact absurd hflag (by decide)
  constructor
  · rintro (⟨h,-⟩ | ⟨e,-,h⟩)
    · cases h
    · exact hshown h
  · rintro (⟨h,-⟩ | ⟨e,h,-⟩)
    · cases h
    · cases h

end Sample

end Accumulator

theorem multiFrame_suffices_iff (a : Accumulator) :
    (∀ o : Outcome, o.multiFrame = true → a.UpdatesOrKeeps o.list) ↔ a.rawdata.length ≤ 1 := by
  constructor
  · intro h
    by_contra hlong
    rcases (h ⟨true,[.bool true]⟩ rfl).flags with hall | ⟨j,hj,⟨x,hx,hflag⟩,hbefore⟩
    · obtain ⟨value,hvalue⟩ := hall 1 (by omega)
      cases hvalue
    · cases j with
      | zero =>
        rw [← Option.some.inj hx] at hflag
        cases hflag
      | succ j => cases hx
  · intro hone o ho
    refine Accumulator.AllFlags.updates fun k hk => ?_
    obtain rfl : k = 0 := by omega
    unfold Outcome.multiFrame at ho
    split at ho
    · rename_i value rest heq
      exact ⟨value,by rw [heq]; rfl⟩
    · cases ho

end Ovi
