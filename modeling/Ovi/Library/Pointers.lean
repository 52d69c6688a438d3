import Ovi.Library.Programs
import Mathlib.Logic.Function.Basic

namespace Pointers
open Programs

inductive Pointer where
  | null
  | held
  -- what it points to was freed, and the variable was not set back
  | freed
deriving DecidableEq, Repr

-- `lost` counts the allocations that no variable holds any more
structure Memory (κ : Type) where
  pointer : κ → Pointer
  lost : Nat

abbrev Program (κ ε α : Type) := EStateM ε (Memory κ) α

section Operations

variable {κ ε α : Type}

def Memory.fresh : Memory κ := ⟨fun _ => .null,0⟩

def refuseIf (p : Bool) (e : ε) : Program κ ε Unit := if p then throw e else pure ()

structure Tidy (m : Memory κ) : Prop where
  lost : m.lost = 0
  pointer : ∀ k, m.pointer k ≠ .freed

structure Released (m : Memory κ) : Prop where
  lost : m.lost = 0
  pointer : ∀ k, m.pointer k ≠ .held

theorem fresh_tidy : Tidy (Memory.fresh : Memory κ) := ⟨rfl,fun _ h => by cases h⟩

theorem wp_refuseIf {p : Bool} {e : ε} {Q : Unit → Memory κ → Prop} {E : ε → Memory κ → Prop}
    {m : Memory κ} (hthrow : p = true → E e m) (hgo : p = false → Q () m) :
    wp (refuseIf p e) Q E m := by
  cases p with
  | true => exact hthrow rfl
  | false => exact hgo rfl

variable [DecidableEq κ]

def Memory.put (m : Memory κ) (k : κ) (p : Pointer) : Memory κ :=
  { m with pointer := Function.update m.pointer k p }

def Memory.set (m : Memory κ) (k : κ) (p : Pointer) : Memory κ :=
  if m.pointer k = .held then { m.put k p with lost := m.lost + 1 } else m.put k p

def acquire (k : κ) : Program κ ε Unit := modify fun m => m.set k .held

def alloc (k : κ) (success : Bool) (e : ε) : Program κ ε Unit :=
  if success then acquire k else throw e

-- a second `free` of the same is undefined
def free (undefined : ε) (k : κ) : Program κ ε Unit := fun m =>
  match m.pointer k with
  | .null => .ok () m
  | .held => .ok () (m.put k .freed)
  | .freed => .error undefined m

def freep (undefined : ε) (k : κ) : Program κ ε Unit := do
  free undefined k
  modify fun m => m.set k .null

-- `if (p) freep(&p)`
def freeHeld (undefined : ε) (k : κ) : Program κ ε Unit := fun m =>
  if m.pointer k = .null then .ok () m else freep undefined k m

def releasing (caught : ε → Bool) (undefined : ε) (keys : List κ) (body : Program κ ε α) :
    Program κ ε α := fun m =>
  match body m with
  | .ok a m => .ok a m
  | .error e m =>
    if caught e then (keys.forM (freeHeld undefined) >>= fun _ => throw e : Program κ ε α) m
    else .error e m

end Operations

section Rules

variable {κ ε α : Type} [DecidableEq κ] {Q : Unit → Memory κ → Prop} {E : ε → Memory κ → Prop}
  {m : Memory κ} {k k' : κ} {p p' : Pointer} {undefined : ε}

@[simp] theorem put_self : (m.put k p).pointer k = p := Function.update_self ..

@[simp] theorem put_other (h : k' ≠ k) : (m.put k p).pointer k' = m.pointer k' :=
  Function.update_of_ne h ..

theorem put_put : (m.put k p').put k p = m.put k p := by
  rw [Memory.put,Memory.put,Memory.put,Function.update_idem]

theorem put_same (h : m.pointer k = p) : m.put k p = m := by
  rw [Memory.put,Function.update_eq_self_iff.mpr h.symm]

theorem Tidy.put (h : Tidy m) (hp : p ≠ .freed) (k : κ) : Tidy (m.put k p) := by
  refine ⟨h.lost,fun k' => ?_⟩
  by_cases hk : k' = k
  · rwa [hk,put_self]
  · rw [put_other hk]
    exact h.pointer k'

theorem wp_acquire (hk : m.pointer k = .null) (hgo : Q () (m.put k .held)) :
    wp (acquire k) Q E m := by
  have hset : m.set k .held = m.put k .held := if_neg (by rw [hk]; exact Pointer.noConfusion)
  change Q () (m.set k .held)
  rwa [hset]

theorem wp_alloc {success : Bool} {e : ε} (hk : m.pointer k = .null)
    (hthrow : success = false → E e m) (hgo : success = true → Q () (m.put k .held)) :
    wp (alloc k success e) Q E m := by
  cases success with
  | true => exact wp_acquire hk (hgo rfl)
  | false => exact hthrow rfl

theorem wp_free (hk : m.pointer k = .held) (hgo : Q () (m.put k .freed)) :
    wp (free undefined k) Q E m := by
  rw [wp,free,hk]
  exact hgo

theorem wp_freep (hk : m.pointer k = .held) (hgo : Q () (m.put k .null)) :
    wp (freep undefined k) Q E m := by
  have hset : (m.put k .freed).set k .null = m.put k .null := by
    rw [Memory.set,put_self,if_neg Pointer.noConfusion,put_put]
  refine wp_bind.mpr (wp_free hk ?_)
  change Q () ((m.put k .freed).set k .null)
  rwa [hset]

theorem wp_freeHeld (hm : Tidy m) (hgo : Q () (m.put k .null)) :
    wp (freeHeld undefined k) Q E m := by
  cases hk : m.pointer k with
  | null =>
    have hok : freeHeld undefined k m = .ok () m := if_pos hk
    rw [put_same hk] at hgo
    rw [wp,hok]
    exact hgo
  | held =>
    have hfreep : freeHeld undefined k m = freep undefined k m :=
      if_neg (by rw [hk]; exact Pointer.noConfusion)
    rw [wp,hfreep]
    exact wp_freep hk hgo
  | freed => exact absurd hk (hm.pointer k)

structure Leaked (m : Memory κ) : Prop where
  lost : m.lost = 0
  pointer : ∀ k, m.pointer k = .held

theorem wp_releasing {caught : ε → Bool} {keys : List κ} {body : Program κ ε α} {G : α → Prop}
    {F : ε → Prop} {U : ε → Memory κ → Prop} (hkeys : ∀ k, k ∈ keys)
    (h : wp body (fun a m => Released m ∧ G a)
      (fun e m => caught e = true ∧ Tidy m ∧ F e ∨ caught e = false ∧ U e m) m) :
    wp (releasing caught undefined keys body) (fun a m => Released m ∧ G a)
      (fun e m => Released m ∧ F e ∨ caught e = false ∧ U e m) m := by
  rw [wp] at h
  cases hbody : body m with
  | ok a m' =>
    have hok : releasing caught undefined keys body m = .ok a m' := by
      rw [releasing,hbody]
    rw [hbody] at h
    rw [wp,hok]
    exact h
  | error e m' =>
    rw [hbody] at h
    rcases h with ⟨hcaught,htidy,hF⟩ | ⟨hpast,hU⟩
    case inr =>
      have hraised : releasing caught undefined keys body m = .error e m' := by
        rw [releasing,hbody]
        exact if_neg (by rw [hpast]; exact Bool.false_ne_true)
      rw [wp,hraised]
      exact .inr ⟨hpast,hU⟩
    have hhandler : releasing caught undefined keys body m =
        (keys.forM (freeHeld undefined) >>= fun _ => throw e : Program κ ε α) m' := by
      rw [releasing,hbody]
      exact if_pos hcaught
    have hfreed : wp (keys.forM (freeHeld undefined))
        (fun _ m => Tidy m ∧ ∀ k ∈ keys, m.pointer k = .null) (fun _ _ => False) m' := by
      refine wp_forM (fun done m => Tidy m ∧ ∀ k ∈ done, m.pointer k = .null) ?_
        ⟨htidy,List.forall_mem_nil _⟩
      rintro done k m _ ⟨hm,hdone⟩
      refine wp_freeHeld hm ⟨hm.put Pointer.noConfusion k,?_⟩
      rw [List.forall_mem_append,List.forall_mem_singleton]
      refine ⟨fun k' hk' => ?_,put_self⟩
      by_cases hsame : k' = k
      · rw [hsame,put_self]
      · rw [put_other hsame]
        exact hdone k' hk'
    rw [wp,hhandler]
    refine wp_bind.mpr (wp_mono hfreed ?_ (fun _ _ he => he.elim))
    rintro _ m'' ⟨htidy',hnull⟩
    exact .inl ⟨⟨htidy'.lost,fun k hk => by cases hk.symm.trans (hnull k (hkeys k))⟩,hF⟩

end Rules

end Pointers
