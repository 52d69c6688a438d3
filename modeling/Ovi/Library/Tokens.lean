import Mathlib.Data.List.TakeWhile
import Mathlib.Tactic.Common

namespace Tokens

variable {α : Type} {delim : α → Bool} {d : α} {s w : List α}

def next (delim : α → Bool) (s : List α) : Option (List α × List α) :=
  match s.dropWhile delim with
  | [] => none
  | c :: cs => some (c :: cs.takeWhile (fun x => !delim x),
      (cs.dropWhile (fun x => !delim x)).tail)

theorem length_next {token rest : List α} (h : next delim s = some (token,rest)) :
    rest.length < s.length := by
  unfold next at h
  split at h
  · cases h
  · rename_i c cs hs
    obtain ⟨-,rfl⟩ := Prod.mk.inj (Option.some.inj h)
    have hdrop := congrArg List.length (List.takeWhile_append_dropWhile (p := delim) (l := s))
    have hword := congrArg List.length
      (List.takeWhile_append_dropWhile (p := fun x => !delim x) (l := cs))
    simp only [hs,List.length_append,List.length_cons,List.length_tail] at hdrop hword ⊢
    omega

def tokens (delim : α → Bool) (s : List α) : List (List α) :=
  match h : next delim s with
  | none => []
  | some (token,rest) =>
    have := length_next h
    token :: tokens delim rest
termination_by s.length

def runs (delim : α → Bool) : List α → Nat
  | [] => 0
  | c :: s => (if !delim c && s.head?.all delim then 1 else 0) + runs delim s

def Plain (delim : α → Bool) (w : List α) : Prop := w ≠ [] ∧ ∀ c ∈ w, delim c = false

instance [DecidableEq α] (delim : α → Bool) (w : List α) : Decidable (Plain delim w) :=
  @instDecidableAnd _ _ _ (List.decidableBAll _ _)

theorem next_none (h : ∀ c ∈ s, delim c = true) : next delim s = none := by
  rw [next,List.dropWhile_eq_nil_iff.mpr h]

theorem next_delim (hd : delim d = true) : next delim (d :: s) = next delim s := by
  rw [next,List.dropWhile_cons_of_pos hd,next]

theorem takeWhile_plain (hw : ∀ c ∈ w, delim c = false) (hs : s.head?.all delim = true) :
    (w ++ s).takeWhile (fun x => !delim x) = w := by
  rw [List.takeWhile_append_of_pos fun x hx => by rw [hw x hx]; rfl]
  cases s with
  | nil => exact List.append_nil w
  | cons d s => rw [List.takeWhile_cons_of_neg (by simpa using hs),List.append_nil]

theorem dropWhile_plain (hw : ∀ c ∈ w, delim c = false) (hs : s.head?.all delim = true) :
    (w ++ s).dropWhile (fun x => !delim x) = s := by
  rw [List.dropWhile_append_of_pos fun x hx => by rw [hw x hx]; rfl]
  cases s with
  | nil => rfl
  | cons d s => exact List.dropWhile_cons_of_neg (by simpa using hs)

theorem dropWhile_tail (hs : s.head?.all delim = true) :
    s.tail.dropWhile delim = s.dropWhile delim := by
  cases s with
  | nil => rfl
  | cons d s =>
    have hd : delim d = true := hs
    exact (List.dropWhile_cons_of_pos hd).symm

theorem Plain.dropWhile (hw : Plain delim w) (s : List α) :
    (w ++ s).dropWhile delim = w ++ s := by
  obtain ⟨hne,hplain⟩ := hw
  cases w with
  | nil => exact absurd rfl hne
  | cons c w => exact List.dropWhile_cons_of_neg (by simp [hplain c List.mem_cons_self])

theorem next_plain (hw : Plain delim w) (hs : s.head?.all delim = true) :
    next delim (w ++ s) = some (w,s.tail) := by
  cases w with
  | nil => exact absurd rfl hw.1
  | cons c w =>
    have hrest := (List.forall_mem_cons.mp hw.2).2
    rw [next,hw.dropWhile,List.cons_append]
    simp only [takeWhile_plain hrest hs,dropWhile_plain hrest hs]

theorem next_cases (delim : α → Bool) (s : List α) :
    (next delim s = none ∧ ∀ c ∈ s, delim c = true) ∨
      ∃ lead token after, s = lead ++ token ++ after ∧ (∀ c ∈ lead, delim c = true) ∧
        Plain delim token ∧ after.head?.all delim = true ∧
        next delim s = some (token,after.tail) := by
  induction s with
  | nil => exact .inl ⟨rfl,List.forall_mem_nil _⟩
  | cons c s ih =>
    cases hc : delim c with
    | true =>
      rw [next_delim hc]
      rcases ih with ⟨hnone,hall⟩ | ⟨lead,token,after,rfl,hlead,htoken,hafter,hnext⟩
      · exact .inl ⟨hnone,List.forall_mem_cons.mpr ⟨hc,hall⟩⟩
      · exact .inr ⟨c :: lead,token,after,rfl,List.forall_mem_cons.mpr ⟨hc,hlead⟩,htoken,hafter,
          hnext⟩
    | false =>
      let keep := fun x => !delim x
      have hsplit : c :: s = (c :: s.takeWhile keep) ++ s.dropWhile keep := by
        rw [List.cons_append,List.takeWhile_append_dropWhile]
      have htoken : Plain delim (c :: s.takeWhile keep) := by
        refine ⟨List.cons_ne_nil _ _,List.forall_mem_cons.mpr ⟨hc,fun x hx => ?_⟩⟩
        have hx : keep x = true := List.mem_takeWhile_imp hx
        simpa [keep] using hx
      have hafter : (s.dropWhile keep).head?.all delim = true := by
        cases hdrop : s.dropWhile keep with
        | nil => rfl
        | cons d after =>
          have hne : s.dropWhile keep ≠ [] := by rw [hdrop]; exact List.cons_ne_nil _ _
          have hd := List.head_dropWhile_not keep hne
          simp only [hdrop,List.head_cons] at hd
          simpa [keep] using hd
      refine .inr ⟨[],_,_,hsplit,List.forall_mem_nil _,htoken,hafter,?_⟩
      conv_lhs => rw [hsplit]
      exact next_plain htoken hafter

theorem tokens_none (h : next delim s = none) : tokens delim s = [] := by
  rw [tokens]
  split
  · rfl
  · rename_i hnext
    rw [h] at hnext
    cases hnext

theorem tokens_some {token rest : List α} (h : next delim s = some (token,rest)) :
    tokens delim s = token :: tokens delim rest := by
  rw [tokens]
  split
  · rename_i hnext
    rw [h] at hnext
    cases hnext
  · rename_i hnext
    obtain ⟨rfl,rfl⟩ := Prod.mk.inj (Option.some.inj (h.symm.trans hnext))
    rfl

theorem tokens_nil : tokens delim [] = [] := tokens_none rfl

theorem tokens_plain (hw : Plain delim w) : tokens delim w = [w] := by
  have hnext := next_plain (s := []) hw rfl
  rw [List.append_nil] at hnext
  rw [tokens_some hnext,List.tail_nil,tokens_nil]

theorem tokens_plain_cons (hw : Plain delim w) (hd : delim d = true) :
    tokens delim (w ++ d :: s) = w :: tokens delim s := tokens_some (next_plain hw hd)

theorem tokens_intercalate {ws : List (List α)} (hd : delim d = true)
    (h : ∀ w ∈ ws, Plain delim w) : tokens delim ([d].intercalate ws) = ws := by
  induction ws with
  | nil => exact tokens_nil
  | cons w ws ih =>
    obtain ⟨hw,hrest⟩ := List.forall_mem_cons.mp h
    cases ws with
    | nil =>
      rw [List.intercalate_singleton]
      exact tokens_plain hw
    | cons w' ws =>
      rw [List.intercalate_cons_cons,List.append_assoc,List.singleton_append,
        tokens_plain_cons hw hd,ih hrest]

theorem runs_delims {lead : List α} (h : ∀ c ∈ lead, delim c = true) :
    runs delim (lead ++ s) = runs delim s := by
  induction lead with
  | nil => rfl
  | cons c lead ih =>
    obtain ⟨hc,hrest⟩ := List.forall_mem_cons.mp h
    rw [List.cons_append,runs,ih hrest,hc]
    exact Nat.zero_add _

theorem runs_plain (hw : Plain delim w) (hs : s.head?.all delim = true) :
    runs delim (w ++ s) = runs delim s + 1 := by
  obtain ⟨hne,hplain⟩ := hw
  induction w with
  | nil => exact absurd rfl hne
  | cons c w ih =>
    obtain ⟨hc,hrest⟩ := List.forall_mem_cons.mp hplain
    cases w with
    | nil =>
      rw [List.cons_append,runs,List.nil_append,hc,hs]
      exact Nat.add_comm _ _
    | cons c' w =>
      have hc' : delim c' = false := hrest c' List.mem_cons_self
      have hinside : (((c' :: w) ++ s).head?.all delim) = false := hc'
      rw [List.cons_append,runs,ih (List.cons_ne_nil _ _) hrest,hinside,Bool.and_false]
      exact Nat.zero_add _

theorem runs_tail (hs : s.head?.all delim = true) : runs delim s.tail = runs delim s := by
  cases s with
  | nil => rfl
  | cons d s =>
    have hd : delim d = true := hs
    rw [runs,hd]
    exact (Nat.zero_add _).symm

theorem token_induction {P : List α → Prop} (delim : α → Bool)
    (delims : ∀ s, (∀ c ∈ s, delim c = true) → P s)
    (piece : ∀ lead token after, (∀ c ∈ lead, delim c = true) → Plain delim token →
      after.head?.all delim = true → tokens delim (lead ++ token ++ after) =
        token :: tokens delim after.tail → P after.tail → P (lead ++ token ++ after))
    (s : List α) : P s := by
  induction h : s.length using Nat.strong_induction_on generalizing s with
  | _ n ih =>
    subst h
    rcases next_cases delim s with ⟨-,hall⟩ | ⟨lead,token,after,rfl,hlead,htoken,hafter,hnext⟩
    · exact delims s hall
    · exact piece lead token after hlead htoken hafter (tokens_some hnext)
        (ih _ (length_next hnext) _ rfl)

theorem length_tokens (delim : α → Bool) (s : List α) :
    (tokens delim s).length = runs delim s := by
  induction s using token_induction delim with
  | delims s h =>
    have hruns := runs_delims (s := []) h
    rw [List.append_nil] at hruns
    rw [tokens_none (next_none h),hruns]
    rfl
  | piece lead token after hlead htoken hafter htokens ih =>
    rw [htokens,List.length_cons,ih,List.append_assoc,runs_delims hlead,
      runs_plain htoken hafter,runs_tail hafter]

theorem mem_tokens {t : List α} (h : t ∈ tokens delim s) : ∀ c ∈ t, c ∈ s := by
  induction s using token_induction delim with
  | delims s hall =>
    rw [tokens_none (next_none hall)] at h
    cases h
  | piece lead token after hlead htoken hafter htokens ih =>
    rw [htokens] at h
    intro c hc
    rcases List.mem_cons.mp h with rfl | h
    · simp [hc]
    · exact List.mem_append_right _ (List.mem_of_mem_tail (ih h c hc))

end Tokens
