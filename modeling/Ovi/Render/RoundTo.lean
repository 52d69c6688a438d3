import Ovi.Render.Stof

namespace Ovi
open Float.Model

section Scaled

theorem scaled_eq (base m : Nat) (e : Int) :
    scaled base m e = m * (base : ℚ) ^ e := by
  unfold scaled
  split_ifs with he
  · obtain ⟨k,rfl⟩ := Int.eq_ofNat_of_zero_le he
    rw [zpow_natCast]
    exact_mod_cast rfl
  · obtain ⟨k,hk⟩ := Int.eq_ofNat_of_zero_le (neg_nonneg.mpr (not_le.mp he).le)
    obtain rfl : e = -k := by omega
    rw [neg_neg,Int.toNat_natCast,Rat.mkRat_eq_div,zpow_neg,zpow_natCast,div_eq_mul_inv]
    push_cast
    rfl

theorem scaled_nonneg (base m : Nat) (e : Int) : 0 ≤ scaled base m e := by
  rw [scaled_eq]
  exact mul_nonneg (Nat.cast_nonneg m) (zpow_nonneg (Nat.cast_nonneg base) e)

theorem scaled_two (n : Nat) (k : Int) : scaled 2 n k = n * 2 ^ k := by
  rw [scaled_eq,Nat.cast_two]

end Scaled

def roundTo (spec : Format) (x : ℚ) : ℚ :=
  if h : 0 < x.num.natAbs then
    match UnpackedFloat.div spec (.finite .positive x.num.natAbs 0 h)
      (.finite .positive x.den 0 x.den_pos) with
    | .finite _ n k _ => if x < 0 then -scaled 2 n k else scaled 2 n k
    | _ => 0
  else 0

section Nearest

variable {spec : Format} {x y : ℚ} {w : ℕ}

theorem roundTo_rounds (h : 0 < x) : Rounding.RoundsTo spec x (roundTo spec x) := by
  have hnum : 0 < x.num := Rat.num_pos.mpr h
  have hpos : 0 < x.num.natAbs := Int.natAbs_pos.mpr hnum.ne'
  have hx : ((x.num.natAbs : ℕ) : ℚ) / x.den = x := by
    have hcast : ((x.num.natAbs : ℕ) : ℚ) = x.num := by
      rw [Nat.cast_natAbs,abs_of_pos hnum]
    rw [hcast,Rat.num_div_den]
  have hround := @Rounding.div_rounded spec .positive .positive _ _ hpos x.den_pos
  rw [hx] at hround
  obtain ⟨r,hr,hrounds⟩ := hround
  have hsame : roundTo spec x = r := by
    rw [roundTo,dif_pos hpos]
    revert hr
    cases UnpackedFloat.div spec (.finite .positive x.num.natAbs 0 hpos)
        (.finite .positive x.den 0 x.den_pos) with
    | infinity sign => exact fun hr => by cases hr
    | notANumber => exact fun hr => by cases hr
    | zero sign => exact fun hr => Option.some.inj hr
    | finite sign n k hn =>
      intro hr
      exact (if_neg h.le.not_gt).trans ((scaled_two n k).trans (Option.some.inj hr))
  rw [hsame]
  exact hrounds

theorem roundTo_zero : roundTo spec 0 = 0 := rfl

theorem roundTo_nonneg (h : 0 ≤ x) : 0 ≤ roundTo spec x := by
  rcases h.lt_or_eq with hx | rfl
  · obtain ⟨n,-,he⟩ := roundTo_rounds hx
    rw [he]
    exact mul_nonneg (Nat.cast_nonneg n) (zpow_pos two_pos _).le
  · exact roundTo_zero.ge

theorem roundTo_mono (hx : 0 ≤ x) (h : x ≤ y) : roundTo spec x ≤ roundTo spec y := by
  rcases hx.lt_or_eq with hpos | rfl
  · exact (roundTo_rounds hpos).mono (roundTo_rounds (hpos.trans_le h)) hpos h
  · exact roundTo_zero.le.trans (roundTo_nonneg h)

theorem roundTo_neg (h : 0 < x) : roundTo spec (-x) = -roundTo spec x := by
  have hpos : 0 < x.num.natAbs := Int.natAbs_pos.mpr (Rat.num_pos.mpr h).ne'
  have hneg : 0 < (-x).num.natAbs := by rwa [Rat.num_neg_eq_neg_num,Int.natAbs_neg]
  have hfinite : ∀ {m n : ℕ} (hm : 0 < m) (hn : 0 < n), m = n →
      UnpackedFloat.finite .positive m 0 hm = .finite .positive n 0 hn := by
    rintro m _ _ _ rfl
    rfl
  have hnum : (-x).num.natAbs = x.num.natAbs := by rw [Rat.num_neg_eq_neg_num,Int.natAbs_neg]
  rw [roundTo,roundTo,dif_pos hneg,dif_pos hpos,hfinite hneg hpos hnum,
    hfinite _ x.den_pos (Rat.den_neg_eq_den x)]
  cases UnpackedFloat.div spec (.finite .positive x.num.natAbs 0 hpos)
      (.finite .positive x.den 0 x.den_pos) with
  | infinity sign | notANumber | zero sign => exact neg_zero.symm
  | finite sign n k hn =>
    exact (if_pos (by linarith)).trans (congrArg Neg.neg (if_neg h.le.not_gt).symm)

end Nearest

section SmallNumbers

theorem ulp_small {w : ℕ} (hpos : 0 < w) (hsmall : w < 2 ^ 24) :
    Rounding.ulpExponent .binary32 w ≤ 0 := by
  have hone : (1 : ℚ) ≤ w := Nat.one_le_cast.mpr hpos
  have hlog : Int.log 2 (w : ℚ) < 24 :=
    (Int.lt_zpow_iff_log_lt Nat.one_lt_two (one_pos.trans_le hone)).mp (by exact_mod_cast hsmall)
  rw [Rounding.ulp_normal (by decide) hone]
  have hbits : Format.mantissaBits .binary32 = 24 := rfl
  omega

theorem roundTo_whole {w : ℕ} (h : w ≤ 2 ^ 24) : roundTo .binary32 w = w := by
  rcases Nat.eq_zero_or_pos w with rfl | hpos
  · exact roundTo_zero
  · rcases h.lt_or_eq with hlt | rfl
    · exact (roundTo_rounds (Nat.cast_pos.mpr hpos)).eq_exact (ulp_small hpos hlt)
    · decide +kernel

theorem roundTo_int {n : ℤ} (h : n.natAbs ≤ 2 ^ 24) : roundTo .binary32 n = n := by
  obtain ⟨w,rfl | rfl⟩ := n.eq_nat_or_neg
  · exact roundTo_whole (by simpa using h)
  · have hw : w ≤ 2 ^ 24 := by simpa using h
    rcases Nat.eq_zero_or_pos w with rfl | hpos
    · exact roundTo_zero
    · have hcast : ((-(w : ℤ) : ℤ) : ℚ) = -(w : ℚ) := by push_cast; rfl
      rw [hcast,roundTo_neg (Nat.cast_pos.mpr hpos),roundTo_whole hw]

end SmallNumbers

end Ovi
