import Mathlib.Data.Int.Log
import Mathlib.Data.Nat.Log
import Mathlib.Data.Rat.Floor
import Mathlib.Algebra.Order.Field.Rat
import Mathlib.Tactic.FieldSimp
import Mathlib.Tactic.Linarith
import Mathlib.Tactic.Positivity

namespace Rounding
open Float.Model Float.Model.UnpackedFloat

section Mantissa

variable {em : ExtendedMantissa} {x : ℚ}

structure Locates (em : ExtendedMantissa) (x : ℚ) : Prop where
  lower : (em.mantissa : ℚ) ≤ x
  upper : x < em.mantissa + 1
  roundBit : em.roundBit = true ↔ (em.mantissa : ℚ) + 1 / 2 ≤ x
  stickyBit : em.stickyBit = true ↔ x ≠ em.mantissa ∧ x ≠ em.mantissa + 1 / 2

theorem Locates.inexact (h : Locates em x) :
    (em.roundBit || em.stickyBit) = true ↔ x ≠ em.mantissa := by
  rw [Bool.or_eq_true,h.roundBit,h.stickyBit]
  constructor
  · rintro (hround | hsticky) he
    · linarith
    · exact hsticky.1 he
  · intro hne
    by_cases he : x = em.mantissa + 1 / 2
    · exact .inl he.ge
    · exact .inr ⟨hne,he⟩

theorem Locates.shiftRightOne (h : Locates em x) : Locates em.shiftRightOne (x / 2) := by
  have hlower := h.lower
  have hupper := h.upper
  have hinexact := h.inexact
  obtain ⟨j,hj | hj⟩ := Nat.even_or_odd' em.mantissa
  · have hhalf : em.mantissa / 2 = j := by omega
    have hbit : (em.mantissa % 2 != 0) = false := by
      rw [hj,Nat.mul_mod_right]
      rfl
    have hcast : (em.mantissa : ℚ) = 2 * j := by
      rw [hj]
      push_cast
      rfl
    rw [hcast] at hlower hupper hinexact
    constructor
    · rw [ExtendedMantissa.shiftRightOne,hhalf]
      linarith
    · rw [ExtendedMantissa.shiftRightOne,hhalf]
      linarith
    · rw [ExtendedMantissa.shiftRightOne,hhalf,hbit]
      refine iff_of_false Bool.false_ne_true ?_
      linarith
    · rw [ExtendedMantissa.shiftRightOne,hhalf,hinexact]
      constructor
      · intro hne
        exact ⟨fun he => hne (by linarith),fun he => by linarith⟩
      · rintro ⟨hne,-⟩ he
        exact hne (by linarith)
  · have hhalf : em.mantissa / 2 = j := by omega
    have hbit : (em.mantissa % 2 != 0) = true := by
      rw [hj,Nat.mul_add_mod]
      rfl
    have hcast : (em.mantissa : ℚ) = 2 * j + 1 := by
      rw [hj]
      push_cast
      rfl
    rw [hcast] at hlower hupper hinexact
    constructor
    · rw [ExtendedMantissa.shiftRightOne,hhalf]
      linarith
    · rw [ExtendedMantissa.shiftRightOne,hhalf]
      linarith
    · rw [ExtendedMantissa.shiftRightOne,hhalf,hbit]
      refine iff_of_true rfl ?_
      linarith
    · rw [ExtendedMantissa.shiftRightOne,hhalf,hinexact]
      constructor
      · intro hne
        exact ⟨fun he => by linarith,fun he => hne (by linarith)⟩
      · rintro ⟨-,hne⟩ he
        exact hne (by linarith)

theorem Locates.shiftRight (h : Locates em x) (k : ℕ) : Locates (em >>> k) (x / 2 ^ k) := by
  change Locates (k.repeat ExtendedMantissa.shiftRightOne em) _
  induction k with
  | zero =>
    rw [pow_zero,div_one]
    exact h
  | succ k ih =>
    rw [pow_succ,← div_div]
    exact ih.shiftRightOne

theorem locates_exact (m : ℕ) :
    Locates (ExtendedMantissa.ofMantissaAndAccuracy m .exact) m := by
  constructor <;> simp [ExtendedMantissa.ofMantissaAndAccuracy]

theorem locates_quotient (a : ℕ) {b : ℕ} (hb : 0 < b) :
    Locates (ExtendedMantissa.ofMantissaAndAccuracy (a / b) (accuracyOfFraction (a % b) b))
      (a / b) := by
  have hpos : (0 : ℚ) < b := Nat.cast_pos.mpr hb
  have hdivision : (a : ℚ) = b * (a / b : ℕ) + (a % b : ℕ) := by
    exact_mod_cast (Nat.div_add_mod a b).symm
  have hlt : ((a % b : ℕ) : ℚ) < b := Nat.cast_lt.mpr (Nat.mod_lt a hb)
  have hquotient : (a : ℚ) / b = (a / b : ℕ) + (a % b : ℕ) / b := by
    rw [hdivision]
    field_simp
  rw [hquotient]
  generalize a / b = n at *
  generalize a % b = r at *
  have hfraction : (r : ℚ) / b < 1 := (div_lt_one hpos).mpr hlt
  have hnonneg : (0 : ℚ) ≤ (r : ℚ) / b := by positivity
  rw [accuracyOfFraction]
  by_cases hr : r = 0
  · rw [if_pos hr,hr]
    simpa using locates_exact n
  · rw [if_neg hr]
    have hrpos : (0 : ℚ) < (r : ℚ) / b := by
      have : (0 : ℚ) < r := Nat.cast_pos.mpr (Nat.pos_of_ne_zero hr)
      positivity
    cases hc : compare (2 * r) b with
    | lt =>
      have hlow : (r : ℚ) / b < 1 / 2 := by
        rw [div_lt_div_iff₀ hpos two_pos]
        exact_mod_cast (by have := Nat.compare_eq_lt.mp hc; omega : r * 2 < 1 * b)
      constructor <;> simp only [ExtendedMantissa.ofMantissaAndAccuracy]
      · linarith
      · linarith
      · exact iff_of_false Bool.false_ne_true (by linarith)
      · exact iff_of_true trivial ⟨by linarith,by linarith⟩
    | eq =>
      have hhalf : (r : ℚ) / b = 1 / 2 := by
        rw [div_eq_div_iff hpos.ne' two_ne_zero]
        exact_mod_cast (by have := Nat.compare_eq_eq.mp hc; omega : r * 2 = 1 * b)
      constructor <;> simp only [ExtendedMantissa.ofMantissaAndAccuracy]
      · linarith
      · linarith
      · exact iff_of_true trivial (by linarith)
      · exact iff_of_false Bool.false_ne_true fun h => h.2 (by linarith)
    | gt =>
      have hhigh : 1 / 2 < (r : ℚ) / b := by
        rw [div_lt_div_iff₀ two_pos hpos]
        exact_mod_cast (by have := Nat.compare_eq_gt.mp hc; omega : 1 * b < r * 2)
      constructor <;> simp only [ExtendedMantissa.ofMantissaAndAccuracy]
      · linarith
      · linarith
      · exact iff_of_true trivial (by linarith)
      · exact iff_of_true trivial ⟨by linarith,by linarith⟩

-- to the nearest integer, and to the even one of two
structure Nearest (n : ℕ) (x : ℚ) : Prop where
  within : |(n : ℚ) - x| ≤ 1 / 2
  even : ∀ k : ℕ, k % 2 = 0 → |(k : ℚ) - x| ≤ 1 / 2 → n = k

theorem nearest_of_lt {m : ℕ} (hlower : (m : ℚ) ≤ x) (hlow : x < m + 1 / 2) : Nearest m x := by
  constructor
  · rw [abs_le]
    constructor <;> linarith
  · rintro k - hk
    obtain ⟨hk₁,hk₂⟩ := abs_le.mp hk
    have hlt : (k : ℚ) < m + 1 := by linarith
    have hgt : (m : ℚ) < k + 1 := by linarith
    have hkm : k < m + 1 := by exact_mod_cast hlt
    have hmk : m < k + 1 := by exact_mod_cast hgt
    omega

theorem nearest_of_gt {m : ℕ} (hhigh : (m : ℚ) + 1 / 2 < x) (hupper : x < m + 1) :
    Nearest (m + 1) x := by
  constructor
  · rw [abs_le]
    push_cast
    constructor <;> linarith
  · rintro k - hk
    obtain ⟨hk₁,hk₂⟩ := abs_le.mp hk
    have hlt : (k : ℚ) < m + 2 := by linarith
    have hgt : (m : ℚ) < k := by linarith
    have hkm : k < m + 2 := by exact_mod_cast hlt
    have hmk : m < k := by exact_mod_cast hgt
    omega

theorem nearest_of_eq {m : ℕ} (he : x = m + 1 / 2) : Nearest (m + m % 2) x := by
  have hbit : m % 2 = 0 ∨ m % 2 = 1 := by omega
  constructor
  · rw [abs_le,he]
    rcases hbit with hbit | hbit <;> rw [hbit] <;> push_cast <;> constructor <;> linarith
  · intro k hk hclose
    obtain ⟨hk₁,hk₂⟩ := abs_le.mp hclose
    have hlt : (k : ℚ) ≤ m + 1 := by linarith
    have hgt : (m : ℚ) ≤ k := by linarith
    have hkm : k ≤ m + 1 := by exact_mod_cast hlt
    have hmk : m ≤ k := by exact_mod_cast hgt
    omega

theorem Locates.nearest (h : Locates em x) : Nearest em.roundedMantissa x := by
  obtain ⟨m,round,sticky⟩ := em
  have hlower : (m : ℚ) ≤ x := h.lower
  have hupper : x < m + 1 := h.upper
  have hround : round = true ↔ (m : ℚ) + 1 / 2 ≤ x := h.roundBit
  have hsticky : sticky = true ↔ x ≠ m ∧ x ≠ m + 1 / 2 := h.stickyBit
  cases round with
  | false =>
    have hlow : x < m + 1 / 2 := not_le.mp (fun hle => Bool.false_ne_true (hround.mpr hle))
    have hm : ExtendedMantissa.roundedMantissa ⟨m,false,sticky⟩ = m := by cases sticky <;> rfl
    rw [hm]
    exact nearest_of_lt hlower hlow
  | true =>
    have hhigh : (m : ℚ) + 1 / 2 ≤ x := hround.mp rfl
    cases sticky with
    | true =>
      have hne := (hsticky.mp rfl).2
      exact nearest_of_gt (lt_of_le_of_ne hhigh hne.symm) hupper
    | false => 
      have he : x = m + 1 / 2 := by
        by_contra hne
        exact Bool.false_ne_true (hsticky.mpr ⟨fun he => by linarith,hne⟩)
      exact nearest_of_eq he

end Mantissa

section Rounded

variable {spec : Format} {s : Sign} {m : ℕ} {e u : ℤ} {accuracy : Accuracy} {q : ℚ}

def ulpExponent (spec : Format) (q : ℚ) : ℤ := spec.targetExponent (Int.log 2 q + 1)

def magnitude : UnpackedFloat → Option ℚ
  | .zero _ => some 0
  | .finite _ n k _ => some ((n : ℚ) * 2 ^ k)
  | .infinity _ => none
  | .notANumber => none

def RoundsTo (spec : Format) (q r : ℚ) : Prop :=
  ∃ n : ℕ, Nearest n (q / 2 ^ ulpExponent spec q) ∧ r = n * 2 ^ ulpExponent spec q

def Rounded (spec : Format) (q : ℚ) (x : UnpackedFloat) : Prop :=
  ∃ r, magnitude x = some r ∧ RoundsTo spec q r

theorem log_eq (hlower : (2 : ℚ) ^ u ≤ q) (hupper : q < 2 ^ (u + 1)) : Int.log 2 q = u := by
  have hq : 0 < q := (zpow_pos two_pos u).trans_le hlower
  have hle := (Int.zpow_le_iff_le_log Nat.one_lt_two hq).mp (by exact_mod_cast hlower)
  have hlt := (Int.lt_zpow_iff_log_lt Nat.one_lt_two hq).mp (by exact_mod_cast hupper)
  omega

theorem log_located (hm : m ≠ 0) (hlower : (m : ℚ) ≤ q / 2 ^ e) (hupper : q / 2 ^ e < m + 1) :
    Int.log 2 q = m.log2 + e := by
  have htwo : (0 : ℚ) < 2 ^ e := zpow_pos two_pos e
  have hlow : (2 : ℚ) ^ m.log2 ≤ m := by exact_mod_cast Nat.log2_self_le hm
  have hhigh : (m : ℚ) + 1 ≤ 2 ^ (m.log2 + 1) := by exact_mod_cast Nat.lt_log2_self
  apply log_eq
  · rw [zpow_add₀ two_ne_zero,zpow_natCast]
    exact (mul_le_mul_of_nonneg_right hlow htwo.le).trans ((le_div_iff₀ htwo).mp hlower)
  · rw [add_right_comm,zpow_add₀ two_ne_zero,← Nat.cast_add_one,zpow_natCast]
    exact ((div_lt_iff₀ htwo).mp hupper).trans_le (mul_le_mul_of_nonneg_right hhigh htwo.le)

theorem mantissa_ofAccuracy (m : ℕ) (accuracy : Accuracy) :
    (ExtendedMantissa.ofMantissaAndAccuracy m accuracy).mantissa = m := by
  cases accuracy with
  | exact => rfl
  | inexact o => cases o <;> rfl

theorem mantissaBits_pos (spec : Format) : 1 < spec.mantissaBits := by
  have := spec.hm
  change 1 < 1 + spec.mantissaBitsWithoutImplicit
  omega

theorem target_eq (hq : 0 < q)
    (hl : Locates (ExtendedMantissa.ofMantissaAndAccuracy m accuracy) (q / 2 ^ e))
    (he : e ≤ ulpExponent spec q) :
    spec.targetExponent (totalExponent m e) = ulpExponent spec q := by
  have hlower := hl.lower
  have hupper := hl.upper
  rw [mantissa_ofAccuracy] at hlower hupper
  by_cases hm : m = 0
  · have hlt : q < 2 ^ e := by
      rw [hm,Nat.cast_zero,zero_add] at hupper
      exact (div_lt_one (zpow_pos two_pos e)).mp hupper
    have hlog := (Int.lt_zpow_iff_log_lt Nat.one_lt_two hq).mp (by exact_mod_cast hlt)
    have hbits := mantissaBits_pos spec
    simp only [ulpExponent,Format.targetExponent,totalExponent,hm,Nat.log2_zero] at he ⊢
    omega
  · rw [ulpExponent,log_located hm hlower hupper,totalExponent,add_right_comm]

theorem Nearest.le {n k : ℕ} {x : ℚ} (h : Nearest n x) (hx : x ≤ k) : n ≤ k := by
  have hlt : (n : ℚ) < k + 1 := by linarith [(abs_le.mp h.within).2]
  exact Nat.lt_succ_iff.mp (by exact_mod_cast hlt)

theorem Nearest.ge {n k : ℕ} {x : ℚ} (h : Nearest n x) (hx : k ≤ x) : k ≤ n := by
  have hlt : (k : ℚ) < n + 1 := by linarith [(abs_le.mp h.within).1]
  exact Nat.lt_succ_iff.mp (by exact_mod_cast hlt)

theorem units_lt (q : ℚ) : q / 2 ^ ulpExponent spec q < 2 ^ spec.mantissaBits := by
  rw [div_lt_iff₀ (zpow_pos two_pos _),← zpow_natCast,← zpow_add₀ two_ne_zero]
  have hlog : q < ((2 : ℕ) : ℚ) ^ (Int.log 2 q + 1) := Int.lt_zpow_succ_log_self Nat.one_lt_two q
  refine hlog.trans_le (zpow_le_zpow_right₀ one_le_two ?_)
  rw [ulpExponent,Format.targetExponent]
  omega

theorem settle {n : ℕ} (hn : n ≤ 2 ^ spec.mantissaBits) (hu : spec.minExponent ≤ u) :
    ∃ em k, shiftToTargetExponent spec n u .exact = (em,k) ∧
      (em.mantissa : ℚ) * 2 ^ k = n * 2 ^ u := by
  have hbits := mantissaBits_pos spec
  rcases hn.lt_or_eq with hlt | rfl
  · have hlog : n.log2 < spec.mantissaBits := by
      by_cases hzero : n = 0
      · rw [hzero,Nat.log2_zero]
        omega
      · exact (Nat.log2_lt hzero).mpr hlt
    have hshift : (spec.targetExponent (totalExponent n u) - u).toNat = 0 := by
      rw [Format.targetExponent,totalExponent]
      omega
    refine ⟨ExtendedMantissa.ofMantissaAndAccuracy n .exact,u,?_,rfl⟩
    rw [shiftToTargetExponent,shiftToExponent,hshift,Nat.cast_zero,add_zero]
    rfl
  · have hshift : (spec.targetExponent (totalExponent (2 ^ spec.mantissaBits) u) - u).toNat =
        1 := by
      rw [Format.targetExponent,totalExponent,Nat.log2_two_pow]
      omega
    obtain ⟨k,hk⟩ : ∃ k, spec.mantissaBits = k + 1 := ⟨spec.mantissaBits - 1,by omega⟩
    have hhalf : 2 ^ spec.mantissaBits / 2 = 2 ^ k := by
      rw [hk,pow_succ]
      exact Nat.mul_div_cancel _ two_pos
    let em := ExtendedMantissa.ofMantissaAndAccuracy (2 ^ spec.mantissaBits) .exact
    refine ⟨em.shiftRightOne,u + 1,?_,?_⟩
    · rw [shiftToTargetExponent,shiftToExponent,hshift]
      rfl
    · change ((2 ^ spec.mantissaBits / 2 : ℕ) : ℚ) * 2 ^ (u + 1) = _
      rw [hhalf,zpow_add_one₀ two_ne_zero,hk]
      push_cast
      rw [pow_succ]
      ring

theorem roundWithAccuracy_rounded (hq : 0 < q)
    (hl : Locates (ExtendedMantissa.ofMantissaAndAccuracy m accuracy) (q / 2 ^ e))
    (he : e ≤ ulpExponent spec q) :
    Rounded spec q (roundWithAccuracy spec s m e accuracy) := by
  obtain ⟨k,hk⟩ := Int.eq_ofNat_of_zero_le (sub_nonneg.mpr he)
  have hlast : e + k = ulpExponent spec q := by omega
  have hfirst : shiftToTargetExponent spec m e accuracy =
      (ExtendedMantissa.ofMantissaAndAccuracy m accuracy >>> k,ulpExponent spec q) := by
    rw [shiftToTargetExponent,shiftToExponent,target_eq hq hl he,hk,← hlast]
    rfl
  have hlocated := hl.shiftRight k
  rw [div_div,← zpow_natCast,← zpow_add₀ two_ne_zero,hlast] at hlocated
  have hnearest := hlocated.nearest
  refine ⟨_,?_,_,hnearest,rfl⟩
  have hmin : spec.minExponent ≤ ulpExponent spec q := le_max_right _ _
  have hfew : _ ≤ 2 ^ spec.mantissaBits := hnearest.le (by exact_mod_cast (units_lt q).le)
  obtain ⟨em,u,hsettle,hvalue⟩ := settle hfew hmin
  rw [roundWithAccuracy,hfirst]
  dsimp only
  rw [hsettle]
  by_cases hzero : em.mantissa = 0
  · have hnone : (0 : ℚ) = (em.mantissa : ℚ) * 2 ^ u := by rw [hzero,Nat.cast_zero,zero_mul]
    exact (congrArg magnitude (dif_pos hzero)).trans (congrArg some (hnone.trans hvalue))
  · exact (congrArg magnitude (dif_neg hzero)).trans (congrArg some hvalue)

theorem targetExponent_mono {a b : ℤ} (h : a ≤ b) :
    spec.targetExponent a ≤ spec.targetExponent b :=
  max_le_max_right _ (sub_le_sub_right h _)

theorem div_rounded {s' : Sign} {a b : ℕ} (ha : 0 < a) (hb : 0 < b) :
    Rounded spec (a / b) (div spec (.finite s a 0 ha) (.finite s' b 0 hb)) := by
  have haq : (0 : ℚ) < a := Nat.cast_pos.mpr ha
  have hbq : (0 : ℚ) < b := Nat.cast_pos.mpr hb
  have hq : (0 : ℚ) < a / b := div_pos haq hbq
  let d := totalExponent a 0 - totalExponent b 0
  have hd : d ≤ Int.log 2 ((a : ℚ) / b) + 1 := by
    have hlow : (2 : ℚ) ^ a.log2 ≤ a := by exact_mod_cast Nat.log2_self_le ha.ne'
    have hhigh : (b : ℚ) ≤ 2 ^ (b.log2 + 1) := by exact_mod_cast Nat.lt_log2_self.le
    have hle : (2 : ℚ) ^ (d - 1) ≤ a / b := by
      have hexp : d - 1 = a.log2 - (b.log2 + 1 : ℕ) := by
        simp only [d,totalExponent]
        push_cast
        ring
      rw [hexp,zpow_sub₀ two_ne_zero,zpow_natCast,zpow_natCast]
      exact div_le_div₀ haq.le hlow hbq hhigh
    have := (Int.zpow_le_iff_le_log Nat.one_lt_two hq).mp (by exact_mod_cast hle)
    omega
  obtain ⟨k,hk⟩ := Int.eq_ofNat_of_zero_le
    (sub_nonneg.mpr (min_le_left (0 - 0) (spec.targetExponent d)))
  have hstart : min (0 - 0) (spec.targetExponent d) = -k := by omega
  have hcore : divCore spec a 0 b 0 =
      (a * 2 ^ k / b,-(k : ℤ),accuracyOfFraction (a * 2 ^ k % b) b) := by
    rw [divCore,hstart,sub_zero,zero_sub,neg_neg,Int.toNat_natCast,Nat.shiftLeft_eq]
  have hlocated := locates_quotient (a * 2 ^ k) hb
  have hscale : ((a * 2 ^ k : ℕ) : ℚ) / b = a / b / 2 ^ (-(k : ℤ)) := by
    rw [zpow_neg,zpow_natCast,div_inv_eq_mul,div_mul_eq_mul_div]
    push_cast
    rfl
  rw [hscale] at hlocated
  have hdiv : div spec (.finite s a 0 ha) (.finite s' b 0 hb) = roundWithAccuracy spec (s / s')
      (divCore spec a 0 b 0).1 (divCore spec a 0 b 0).2.1 (divCore spec a 0 b 0).2.2 := rfl
  rw [hdiv,hcore]
  refine roundWithAccuracy_rounded hq hlocated ?_
  rw [← hstart]
  exact (min_le_right _ _).trans (targetExponent_mono hd)

theorem exact_rounded (hm : 0 < m) (he : e ≤ ulpExponent spec (m * 2 ^ e)) :
    Rounded spec (m * 2 ^ e) (roundWithAccuracy spec s m e .exact) := by
  have htwo : (0 : ℚ) < 2 ^ e := zpow_pos two_pos e
  refine roundWithAccuracy_rounded (mul_pos (Nat.cast_pos.mpr hm) htwo) ?_ he
  rw [mul_div_cancel_right₀ _ htwo.ne']
  exact locates_exact m

theorem round_zero : magnitude (UnpackedFloat.round spec s 0 e) = some 0 := by
  let t := spec.targetExponent (totalExponent 0 e)
  let e' := e - (e - t).toNat
  let t' := spec.targetExponent (totalExponent 0 e')
  have hlocated := (locates_exact 0).shiftRight (t' - e').toNat
  rw [Nat.cast_zero,zero_div] at hlocated
  have hzero := hlocated.nearest.even 0 rfl (by norm_num)
  have hmin : spec.minExponent ≤ e' + (t' - e').toNat := by
    have hle : spec.minExponent ≤ t' := le_max_right _ _
    omega
  obtain ⟨em,u,hsettle,hvalue⟩ := settle (Nat.zero_le (2 ^ spec.mantissaBits)) hmin
  have hfirst : shiftToTargetExponent spec 0 e' .exact =
      (ExtendedMantissa.ofMantissaAndAccuracy 0 .exact >>> (t' - e').toNat,
        e' + (t' - e').toNat) := rfl
  have hdecrease : decreaseExponent 0 e t = (0,e') := by rw [decreaseExponent,Nat.zero_shiftLeft]
  rw [UnpackedFloat.round]
  dsimp only
  rw [hdecrease]
  dsimp only
  rw [roundWithAccuracy,hfirst]
  dsimp only
  rw [hzero,hsettle]
  by_cases hnone : em.mantissa = 0
  · exact congrArg magnitude (dif_pos hnone)
  · rw [Nat.cast_zero,zero_mul] at hvalue
    exact (congrArg magnitude (dif_neg hnone)).trans (congrArg some hvalue)

theorem ofScientific_rounded (spec : Format) (hm : m ≠ 0) (e : ℤ) :
    ofScientific spec m e = .infinity .positive ∨ ofScientific spec m e = .zero .positive ∨
      Rounded spec (m * 10 ^ e) (ofScientific spec m e) := by
  have hmpos := Nat.pos_of_ne_zero hm
  rw [UnpackedFloat.ofScientific,dif_neg hm]
  by_cases hlarge : e > 2 ^ spec.exponentBits
  · rw [if_pos hlarge]
    exact .inl rfl
  rw [if_neg hlarge]
  by_cases hsmall : e < -((2 ^ spec.exponentBits : ℤ) + m.log2)
  · rw [if_pos hsmall]
    exact .inr (.inl rfl)
  rw [if_neg hsmall]
  refine .inr (.inr ?_)
  by_cases hint : 0 ≤ e
  · rw [if_pos hint]
    obtain ⟨k,rfl⟩ := Int.eq_ofNat_of_zero_le hint
    have hvalue : (m : ℚ) * 10 ^ (k : ℤ) =
        (m <<< spec.mantissaBits * 10 ^ k : ℕ) * 2 ^ (-(spec.mantissaBits : ℤ) + 0) := by
      rw [Nat.shiftLeft_eq,add_zero,zpow_neg,zpow_natCast,zpow_natCast]
      push_cast
      field_simp
    have hone : (1 : ℚ) ≤ m * 10 ^ (k : ℤ) := by
      rw [zpow_natCast]
      exact_mod_cast Nat.mul_pos hmpos (Nat.pow_pos (by decide))
    have hlog : 0 ≤ Int.log 2 ((m : ℚ) * 10 ^ (k : ℤ)) :=
      (Int.zpow_le_iff_le_log Nat.one_lt_two (one_pos.trans_le hone)).mp (by simpa using hone)
    rw [hvalue]
    refine exact_rounded ?_ ?_
    · rw [Nat.shiftLeft_eq]
      positivity
    · rw [← hvalue,ulpExponent,Format.targetExponent]
      omega
  · rw [if_neg hint]
    have hvalue : (m : ℚ) * 10 ^ e = m / (10 ^ (-e).toNat : ℕ) := by
      have he : e = -((-e).toNat : ℤ) := by omega
      rw [he,zpow_neg,zpow_natCast,div_eq_mul_inv,← he]
      push_cast
      rfl
    rw [hvalue]
    exact div_rounded _ _

end Rounded

section Whole

variable {spec : Format} {q r : ℚ} {w : ℕ}

theorem ulp_normal (hmin : spec.minExponent ≤ 1 - spec.mantissaBits) (hq : 1 ≤ q) :
    ulpExponent spec q = Int.log 2 q + 1 - spec.mantissaBits := by
  have hlog : 0 ≤ Int.log 2 q :=
    (Int.zpow_le_iff_le_log Nat.one_lt_two (one_pos.trans_le hq)).mp (by simpa using hq)
  rw [ulpExponent,Format.targetExponent]
  omega

theorem ulp_le (hmin : spec.minExponent ≤ 1 - spec.mantissaBits) (hq : 0 < q) :
    (2 : ℚ) ^ ulpExponent spec q ≤ max q 1 / 2 := by
  have hbits := mantissaBits_pos spec
  have hhalf : (2 : ℚ) ^ (-1 : ℤ) = 1 / 2 := by rw [zpow_neg_one,one_div]
  rcases le_total 1 q with hone | hone
  · have hlog : ((2 : ℕ) : ℚ) ^ Int.log 2 q ≤ q := Int.zpow_log_le_self Nat.one_lt_two hq
    have hle : (2 : ℚ) ^ ulpExponent spec q ≤ 2 ^ (Int.log 2 q + -1) := by
      refine zpow_le_zpow_right₀ one_le_two ?_
      rw [ulp_normal hmin hone]
      omega
    rw [zpow_add₀ two_ne_zero,hhalf] at hle
    rw [max_eq_left hone]
    push_cast at hlog
    linarith
  · have hlog : Int.log 2 q ≤ 0 := by
      have hlt : q < ((2 : ℕ) : ℚ) ^ (1 : ℤ) := by
        norm_num
        linarith
      have := (Int.lt_zpow_iff_log_lt Nat.one_lt_two hq).mp hlt
      omega
    have hle : (2 : ℚ) ^ ulpExponent spec q ≤ 2 ^ (-1 : ℤ) := by
      refine zpow_le_zpow_right₀ one_le_two ?_
      rw [ulpExponent,Format.targetExponent]
      omega
    rw [max_eq_right hone,← hhalf]
    exact hle

theorem RoundsTo.within (h : RoundsTo spec q r) : |r - q| ≤ 2 ^ ulpExponent spec q / 2 := by
  obtain ⟨n,hn,rfl⟩ := h
  have hpos : (0 : ℚ) < 2 ^ ulpExponent spec q := zpow_pos two_pos _
  have hscaled := mul_le_mul_of_nonneg_right hn.within hpos.le
  have habs : |(n : ℚ) * 2 ^ ulpExponent spec q - q| =
      |(n : ℚ) - q / 2 ^ ulpExponent spec q| * 2 ^ ulpExponent spec q := by
    rw [← abs_of_pos hpos,← abs_mul,abs_of_pos hpos,sub_mul,div_mul_cancel₀ _ hpos.ne']
  rw [habs]
  linarith

theorem RoundsTo.pow_le (h : RoundsTo spec q r) (hmin : spec.minExponent ≤ 1 - spec.mantissaBits)
    {j : ℕ} (hq : 2 ^ j ≤ q) : 2 ^ j ≤ r := by
  have hone : 1 ≤ q := (one_le_pow₀ one_le_two).trans hq
  have hpos : 0 < q := one_pos.trans_le hone
  have hbits := mantissaBits_pos spec
  have hlog : (j : ℤ) ≤ Int.log 2 q :=
    (Int.zpow_le_iff_le_log Nat.one_lt_two hpos).mp (by exact_mod_cast hq)
  have hulp := ulp_normal hmin hone
  obtain ⟨n,hn,rfl⟩ := h
  have hscale : ((2 ^ (spec.mantissaBits - 1) : ℕ) : ℚ) * 2 ^ ulpExponent spec q =
      ((2 : ℕ) : ℚ) ^ Int.log 2 q := by
    have hsum : Int.log 2 q = (spec.mantissaBits - 1 : ℕ) + ulpExponent spec q := by omega
    rw [hsum,zpow_add₀ (by norm_num),zpow_natCast]
    push_cast
    rfl
  have hpow : (0 : ℚ) < 2 ^ ulpExponent spec q := zpow_pos two_pos _
  have hn' : 2 ^ (spec.mantissaBits - 1) ≤ n := by
    refine hn.ge ?_
    rw [le_div_iff₀ hpow,hscale]
    exact Int.zpow_log_le_self Nat.one_lt_two hpos
  calc (2 : ℚ) ^ j ≤ ((2 : ℕ) : ℚ) ^ Int.log 2 q := by
        rw [← zpow_natCast,Nat.cast_ofNat]
        exact zpow_le_zpow_right₀ one_le_two hlog
    _ = ((2 ^ (spec.mantissaBits - 1) : ℕ) : ℚ) * 2 ^ ulpExponent spec q := hscale.symm
    _ ≤ n * 2 ^ ulpExponent spec q :=
        mul_le_mul_of_nonneg_right (Nat.cast_le.mpr hn') hpow.le

theorem RoundsTo.far (h : RoundsTo spec q r) (hmin : spec.minExponent ≤ 1 - spec.mantissaBits)
    (hq : 0 < q) (hw : 0 < w) (hfar : 5 * q ≤ w) : r ≠ w := by
  rintro rfl
  have hone : (1 : ℚ) ≤ w := Nat.one_le_cast.mpr hw
  have hclose := (abs_le.mp h.within).2
  have hulp := ulp_le hmin hq
  rcases max_choice q 1 with hmax | hmax <;> rw [hmax] at hulp <;> linarith

theorem RoundsTo.eq_whole (h : RoundsTo spec q r)
    (hmin : spec.minExponent ≤ 1 - spec.mantissaBits) (hw : 0 < w)
    (hfew : w.log2 + 1 < spec.mantissaBits) (hle : w ≤ q)
    (hclose : (q - w) * 2 ^ spec.mantissaBits ≤ 2 ^ w.log2) : r = w := by
  have hlow : (2 : ℚ) ^ w.log2 ≤ w := by exact_mod_cast Nat.log2_self_le hw.ne'
  have hhigh : (w : ℚ) + 1 ≤ 2 ^ (w.log2 + 1) := by exact_mod_cast Nat.lt_log2_self
  have hone : (1 : ℚ) ≤ q := (Nat.one_le_cast.mpr hw).trans hle
  obtain ⟨d,hd⟩ : ∃ d, spec.mantissaBits = w.log2 + (d + 1 + 1) :=
    ⟨spec.mantissaBits - w.log2 - 2,by omega⟩
  have hpow : (0 : ℚ) < 2 ^ w.log2 := by positivity
  have hhalf : (q - w) * 2 ^ (d + 1) ≤ 1 / 2 := by
    rw [hd,pow_add,pow_succ] at hclose
    refine le_of_mul_le_mul_right ?_ hpow
    linarith
  have hunit : q - w < 1 := by
    have hbig : (1 : ℚ) ≤ 2 ^ (d + 1) := one_le_pow₀ one_le_two
    nlinarith
  have hlog : Int.log 2 q = w.log2 := by
    apply log_eq
    · rw [zpow_natCast]
      exact hlow.trans hle
    · rw [← Nat.cast_add_one,zpow_natCast]
      linarith
  have hulp : ulpExponent spec q = -((d + 1 : ℕ) : ℤ) := by
    rw [ulp_normal hmin hone,hlog]
    omega
  obtain ⟨n,hn,rfl⟩ := h
  have hscale : q / 2 ^ ulpExponent spec q = q * 2 ^ (d + 1) := by
    rw [hulp,zpow_neg,zpow_natCast,div_inv_eq_mul]
  obtain rfl : n = w * 2 ^ (d + 1) := by
    refine hn.even _ ?_ ?_
    · rw [pow_succ,← mul_assoc,Nat.mul_mod_left]
    · rw [hscale]
      push_cast
      rw [← sub_mul,abs_mul,abs_of_nonpos (sub_nonpos.mpr hle),neg_sub,
        abs_of_pos (by positivity)]
      exact hhalf
  rw [hulp,zpow_neg,zpow_natCast]
  push_cast
  exact mul_inv_cancel_right₀ (by positivity) _

theorem RoundsTo.le_half (h : RoundsTo spec q w)
    (hmin : spec.minExponent ≤ 1 - spec.mantissaBits) (hw : 0 < w) (hle : w ≤ q) :
    (q - w) * 2 ^ spec.mantissaBits ≤ 2 ^ w.log2 := by
  have hone : (1 : ℚ) ≤ q := (Nat.one_le_cast.mpr hw).trans hle
  have hhigh : (w : ℚ) < 2 ^ (w.log2 + 1) := by exact_mod_cast Nat.lt_log2_self
  have hlt : q < ((2 : ℕ) : ℚ) ^ ((w.log2 + 1 : ℕ) : ℤ) := by
    rw [zpow_natCast]
    refine lt_of_not_ge fun hge => ?_
    exact hhigh.not_ge (h.pow_le hmin (by exact_mod_cast hge))
  have hlog := (Int.lt_zpow_iff_log_lt Nat.one_lt_two (one_pos.trans_le hone)).mp hlt
  have hwithin := h.within
  have hulp : (2 : ℚ) ^ ulpExponent spec q / 2 * 2 ^ spec.mantissaBits ≤ 2 ^ w.log2 := by
    rw [ulp_normal hmin hone,zpow_sub₀ two_ne_zero,zpow_add_one₀ two_ne_zero,zpow_natCast]
    have hcancel : (2 : ℚ) ^ Int.log 2 q * 2 / 2 ^ spec.mantissaBits / 2 *
        2 ^ spec.mantissaBits = 2 ^ Int.log 2 q := by field_simp
    rw [hcancel,← zpow_natCast]
    exact zpow_le_zpow_right₀ one_le_two (by omega)
  have hpos : (0 : ℚ) < 2 ^ spec.mantissaBits := by positivity
  have hbelow := (abs_le.mp hwithin).1
  exact (mul_le_mul_of_nonneg_right (by linarith) hpos.le).trans hulp

end Whole

section Order

variable {spec : Format} {q q' r r' : ℚ}

theorem Nearest.mono {n n' : ℕ} {x x' : ℚ} (h : Nearest n x) (h' : Nearest n' x')
    (hle : x ≤ x') : n ≤ n' := by
  by_contra hlt
  have hup := (abs_le.mp h.within).2
  have hdown := (abs_le.mp h'.within).1
  have hgap : (n' : ℚ) + 1 ≤ n := by exact_mod_cast not_le.mp hlt
  have hnext : (n : ℚ) = n' + 1 := by linarith
  have hparity : n % 2 = 0 ∨ n' % 2 = 0 := by
    have : n = n' + 1 := by exact_mod_cast hnext
    omega
  -- both are next to the same half, so the even one is both
  rcases hparity with heven | heven
  · have : n' = n := h'.even n heven (abs_le.mpr (by constructor <;> linarith))
    omega
  · have : n = n' := h.even n' heven (abs_le.mpr (by constructor <;> linarith))
    omega

theorem ulp_mono (spec : Format) (hq : 0 < q) (hle : q ≤ q') :
    ulpExponent spec q ≤ ulpExponent spec q' :=
  targetExponent_mono (Int.add_le_add_right (Int.log_mono_right hq hle) 1)

theorem RoundsTo.mono (h : RoundsTo spec q r) (h' : RoundsTo spec q' r') (hq : 0 < q)
    (hle : q ≤ q') : r ≤ r' := by
  have hq' : 0 < q' := hq.trans_le hle
  obtain ⟨n,hn,rfl⟩ := h
  obtain ⟨n',hn',rfl⟩ := h'
  rcases (ulp_mono spec hq hle).lt_or_eq with hlt | heq
  · -- the power of two below `q'` lies between them
    have hlog : ulpExponent spec q' + (spec.mantissaBits - 1 : ℕ) = Int.log 2 q' := by
      have hbits := mantissaBits_pos spec
      have hmin : spec.minExponent ≤ ulpExponent spec q := le_max_right _ _
      have hmax := hmin.trans_lt hlt
      rw [ulpExponent,Format.targetExponent] at hmax ⊢
      omega
    have hbits := mantissaBits_pos spec
    have hpow : (0 : ℚ) < 2 ^ ulpExponent spec q' := zpow_pos two_pos _
    have hlow : n ≤ 2 ^ spec.mantissaBits := hn.le (by exact_mod_cast (units_lt q).le)
    have hhigh : 2 ^ (spec.mantissaBits - 1) ≤ n' := by
      refine hn'.ge ?_
      rw [le_div_iff₀ hpow]
      push_cast
      rw [← zpow_natCast,← zpow_add₀ two_ne_zero,add_comm,hlog]
      exact Int.zpow_log_le_self Nat.one_lt_two hq'
    calc (n : ℚ) * 2 ^ ulpExponent spec q
        ≤ 2 ^ spec.mantissaBits * 2 ^ ulpExponent spec q :=
          mul_le_mul_of_nonneg_right (by exact_mod_cast hlow) (zpow_pos two_pos _).le
      _ ≤ 2 ^ (spec.mantissaBits - 1) * 2 ^ ulpExponent spec q' := by
          rw [← zpow_natCast,← zpow_natCast,← zpow_add₀ two_ne_zero,← zpow_add₀ two_ne_zero]
          refine zpow_le_zpow_right₀ one_le_two ?_
          omega
      _ ≤ n' * 2 ^ ulpExponent spec q' :=
          mul_le_mul_of_nonneg_right (by exact_mod_cast hhigh) hpow.le
  · rw [heq] at hn ⊢
    have hpow : (0 : ℚ) < 2 ^ ulpExponent spec q' := zpow_pos two_pos _
    refine mul_le_mul_of_nonneg_right (Nat.cast_le.mpr ?_) hpow.le
    exact hn.mono hn' ((div_le_div_iff_of_pos_right hpow).mpr hle)

theorem RoundsTo.eq_exact {w : ℕ} (h : RoundsTo spec w r) (hulp : ulpExponent spec w ≤ 0) :
    r = w := by
  obtain ⟨k,hk⟩ := Int.eq_ofNat_of_zero_le (neg_nonneg.mpr hulp)
  have hu : ulpExponent spec w = -(k : ℤ) := by omega
  obtain ⟨n,hn,rfl⟩ := h
  have hscale : (w : ℚ) / 2 ^ ulpExponent spec w = (w * 2 ^ k : ℕ) := by
    rw [hu,zpow_neg,zpow_natCast,div_inv_eq_mul]
    push_cast
    rfl
  rw [hscale] at hn
  have hsame : n = w * 2 ^ k := le_antisymm (hn.le le_rfl) (hn.ge le_rfl)
  rw [hsame,hu,zpow_neg,zpow_natCast]
  push_cast
  exact mul_inv_cancel_right₀ (by positivity) _

end Order

end Rounding
