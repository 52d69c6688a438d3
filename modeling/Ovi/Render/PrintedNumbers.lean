import Ovi.Render.EffectMetadata
import Ovi.Render.TimeString

namespace Ovi
open Float.Model

section Shape

variable {s : String} {minus : Bool} {whole fraction : List Char}

structure PointText (s : String) (minus : Bool) (whole fraction : List Char) : Prop where
  text : s.toList = (if minus then ['-'] else []) ++ (whole ++ '.' :: fraction)
  opens : whole ≠ []
  whole : ∀ c ∈ whole, c.isDigit = true
  fraction : ∀ c ∈ fraction, c.isDigit = true

theorem digit_facts {c : Char} (h : c.isDigit = true) :
    isSpace c = false ∧ c ≠ '-' ∧ c ≠ '+' ∧ c ≠ 'x' ∧ c ≠ 'i' ∧ c ≠ 'n' ∧ c ≠ '.' := by
  obtain ⟨hlow,hhigh⟩ := Char.isDigit_iff_toNat.mp h
  have hne : ∀ d : Char, d.toNat < 48 ∨ 57 < d.toNat → c ≠ d := by
    rintro d hd rfl
    rcases hd with hd | hd
    · exact absurd hlow (not_le.mpr hd)
    · exact absurd hhigh (not_le.mpr hd)
  refine ⟨?_,hne _ (by decide),hne _ (by decide),hne _ (by decide),hne _ (by decide),
    hne _ (by decide),hne _ (by decide)⟩
  have hblank : c ≠ ' ' := hne _ (by decide)
  have hreturn : ¬ c ≤ '\r' := fun hle => absurd (hlow.trans hle) (by decide)
  simp [isSpace,hblank,hreturn]

theorem signOf_digit {c : Char} (h : c.isDigit = true) (cs : List Char) :
    signOf (c :: cs) = (false,c :: cs) := by
  obtain ⟨-,hminus,hplus,-⟩ := digit_facts h
  unfold signOf
  split
  · rename_i he
    exact absurd (List.cons.inj he).1 hminus
  · rename_i he
    exact absurd (List.cons.inj he).1 hplus
  · rfl

theorem PointText.sign (h : PointText s minus whole fraction) :
    signOf (s.toList.dropWhile isSpace) = (minus,whole ++ '.' :: fraction) := by
  obtain ⟨htext,hopens,hwhole,-⟩ := h
  obtain ⟨c,rest,rfl⟩ := List.exists_cons_of_ne_nil hopens
  have hdigit := hwhole c List.mem_cons_self
  rw [htext]
  cases minus with
  | false =>
    have hdrop : ([] ++ (c :: rest ++ '.' :: fraction)).dropWhile isSpace =
        c :: (rest ++ '.' :: fraction) :=
      List.dropWhile_cons_of_neg (by rw [(digit_facts hdigit).1]; exact Bool.false_ne_true)
    rw [if_neg Bool.false_ne_true,hdrop,signOf_digit hdigit]
    rfl
  | true => rfl

theorem PointText.negative (h : PointText s minus whole fraction) : negative s = minus :=
  congrArg Prod.fst h.sign

theorem PointText.lower (h : PointText s minus whole fraction) :
    (whole ++ '.' :: fraction).map Char.toLower = whole ++ '.' :: fraction := by
  have hdigits : ∀ cs : List Char, (∀ c ∈ cs, c.isDigit = true) → cs.map Char.toLower = cs :=
    fun cs hcs => (List.map_congr_left fun c hc => toLower_of_isDigit (hcs c hc)).trans
      (List.map_id' cs)
  rw [List.map_append,List.map_cons,hdigits _ h.whole,hdigits _ h.fraction]
  rfl

theorem significand_point (hwhole : ∀ c ∈ whole, c.isDigit = true)
    (hfraction : ∀ c ∈ fraction, c.isDigit = true) :
    significand Char.isDigit (whole ++ '.' :: fraction) = (whole,fraction,[]) := by
  have hdrop : (whole ++ '.' :: fraction).dropWhile Char.isDigit = '.' :: fraction := by
    rw [List.dropWhile_append_of_pos hwhole]
    rfl
  have htake : (whole ++ '.' :: fraction).takeWhile Char.isDigit = whole := by
    rw [List.takeWhile_append_of_pos hwhole]
    exact List.append_nil _
  have hall : fraction.takeWhile Char.isDigit = fraction := List.takeWhile_eq_self_iff.mpr hfraction
  have hnone : fraction.dropWhile Char.isDigit = [] := List.dropWhile_eq_nil_iff.mpr hfraction
  rw [significand,hdrop]
  simp only [htake,hall,hnone]

theorem PointText.no_hex (h : PointText s minus whole fraction) (rest : List Char) :
    whole ++ '.' :: fraction ≠ '0' :: 'x' :: rest := by
  obtain ⟨-,hopens,hwhole,-⟩ := h
  intro he
  cases whole with
  | nil => exact hopens rfl
  | cons c whole =>
    have htail : whole ++ '.' :: fraction = 'x' :: rest := (List.cons.inj he).2
    cases whole with
    | nil => exact absurd (List.cons.inj htail).1 (by decide)
    | cons d whole =>
      have hd := hwhole d (List.mem_cons_of_mem _ List.mem_cons_self)
      exact (digit_facts hd).2.2.2.1 (List.cons.inj htail).1

theorem PointText.denoted (h : PointText s minus whole fraction) :
    denoted (whole ++ '.' :: fraction) =
      (decimal (whole ++ fraction) : ℚ) / 10 ^ fraction.length := by
  unfold Ovi.denoted
  split
  · rename_i rest he
    exact absurd he (h.no_hex rest)
  · rw [significand_point h.whole h.fraction]
    simp only [exponentPart]
    rw [scaled_eq,zero_sub,zpow_neg,zpow_natCast]
    push_cast
    exact (div_eq_mul_inv _ _).symm

end Shape

def millionths (x : ℚ) : ℕ := roundHalfEven (x.num.natAbs * 1000000) x.den

section Format

theorem toDigits_digits (n : ℕ) : ∀ c ∈ Nat.toDigits 10 n, c.isDigit = true :=
  fun _ hc => Nat.isDigit_of_mem_toDigits (by decide) (by decide) hc

end Format

section Frames

open Float.Model.UnpackedFloat

theorem frameKey_point (n : Int) : PointText (frameKey n) (decide (n < 0))
    (Nat.toDigits 10 n.natAbs) "000000".toList where
  text := by
    rw [frameKey,String.toList_append]
    cases n with
    | ofNat n =>
      rw [if_neg (by simp)]
      change (toString n).toList ++ _ = _
      rw [toList_nat]
      rfl
    | negSucc n =>
      rw [if_pos (by simp)]
      change ("-" ++ toString (n + 1)).toList ++ _ = _
      rw [String.toList_append,toList_nat]
      rfl
  opens := fun h => by
    have := Nat.length_toDigits_pos (b := 10) (n := n.natAbs)
    rw [h] at this
    cases this
  whole := toDigits_digits _
  fraction := List.all_eq_true.mp rfl

theorem rounded_small {w : ℕ} (hpos : 0 < w) (hsmall : w < 2 ^ 24) {x : UnpackedFloat}
    (hx : Rounding.Rounded .binary32 w x) : inFloatRange 10 (w * 1000000) (-6) x =
      .ok (.number w) := by
  obtain ⟨r,hr,hrounds⟩ := hx
  have hone : (1 : ℚ) ≤ w := Nat.one_le_cast.mpr hpos
  have hlog : Int.log 2 (w : ℚ) < 24 :=
    (Int.lt_zpow_iff_log_lt Nat.one_lt_two (one_pos.trans_le hone)).mp (by exact_mod_cast hsmall)
  obtain rfl := hrounds.eq_exact (ulp_small hpos hsmall)
  cases x with
  | infinity sign => cases hr
  | notANumber => cases hr
  | zero sign =>
    have : (0 : ℚ) = w := Option.some.inj hr
    linarith
  | finite sign n k hn =>
    have hvalue : (n : ℚ) * 2 ^ k = w := Option.some.inj hr
    -- the exponent is that of the whole number
    have htwo : (0 : ℚ) < 2 ^ k := zpow_pos two_pos k
    have htotal : Int.log 2 (w : ℚ) = n.log2 + k := by
      have hexact : (w : ℚ) / 2 ^ k = n := by rw [← hvalue,mul_div_cancel_right₀ _ htwo.ne']
      exact Rounding.log_located hn.ne' hexact.ge (by rw [hexact]; linarith)
    have hlow : 0 ≤ Int.log 2 (w : ℚ) :=
      (Int.zpow_le_iff_le_log Nat.one_lt_two (one_pos.trans_le hone)).mp (by simpa using hone)
    have hexponent : totalExponent n k = Int.log 2 (w : ℚ) + 1 := by
      rw [htotal,totalExponent]
      ring
    have hsame : scaled 10 (w * 1000000) (-6) = w := by
      rw [scaled_eq]
      push_cast
      rw [zpow_neg,mul_assoc]
      norm_num
    have htiny : tinyFloat < 1 := by decide
    refine (if_neg (by omega)).trans ((if_neg ?_).trans ?_)
    · rw [hsame,Bool.and_eq_true,decide_eq_true_eq]
      exact fun h => absurd h.1 (not_lt.mpr (htiny.le.trans hone))
    · rw [scaled_two,hvalue]

theorem decimalFloat_frame (w : ℕ) (hsmall : w < 2 ^ 24) :
    decimalFloat (Nat.toDigits 10 w ++ '.' :: "000000".toList) = .ok (.number w) := by
  have hlength : "000000".toList.length = 6 := rfl
  have hzeros : decimal "000000".toList = 0 := rfl
  have hm : decimal (Nat.toDigits 10 w ++ "000000".toList) = w * 1000000 := by
    rw [decimal_append,decimal_toDigits,hlength,hzeros]
    norm_num
  rw [decimalFloat,significand_point (toDigits_digits w) (List.all_eq_true.mp rfl)]
  simp only [exponentPart,hm,hlength]
  rw [if_neg (by simp)]
  rcases Nat.eq_zero_or_pos w with rfl | hpos
  · rw [Nat.zero_mul]
    rfl
  · refine rounded_small hpos hsmall ?_
    have hne : w * 1000000 ≠ 0 := by omega
    have hquotient : ((w * 1000000 : ℕ) : ℚ) / (10 ^ 6 : ℕ) = w := by
      push_cast
      exact mul_div_cancel_right₀ _ (by norm_num)
    have hdiv := @Rounding.div_rounded .binary32 .positive .positive (w * 1000000) (10 ^ 6)
      (Nat.pos_of_ne_zero hne) (by decide)
    rw [hquotient] at hdiv
    rw [UnpackedFloat.ofScientific,dif_neg hne,if_neg (by decide),if_neg (by
      have hbits : Format.exponentBits .binary32 = 8 := rfl
      rw [hbits]
      omega),if_neg (by decide)]
    exact hdiv

theorem stof_frameKey {n : Int} (h : n.natAbs < 2 ^ 24) :
    stof (frameKey n) = .ok (.number n) := by
  have hpoint := frameKey_point n
  have hmagnitude : magnitude (Nat.toDigits 10 n.natAbs ++ '.' :: "000000".toList) =
      .ok (.number n.natAbs) := by
    rw [← decimalFloat_frame n.natAbs h]
    obtain ⟨c,rest,hdigits⟩ := List.exists_cons_of_ne_nil hpoint.opens
    have hc := digit_facts (hpoint.whole c (by rw [hdigits]; exact List.mem_cons_self))
    unfold magnitude
    split
    · rename_i he
      rw [hdigits] at he
      exact absurd (List.cons.inj he).1 hc.2.2.2.2.1
    · rename_i he
      rw [hdigits] at he
      exact absurd (List.cons.inj he).1 hc.2.2.2.2.2.1
    · rename_i he
      exact absurd he (hpoint.no_hex _)
    · rfl
  rw [stof,hpoint.sign]
  simp only [hpoint.lower,hmagnitude]
  refine congrArg Except.ok ?_
  by_cases hn : n < 0
  · have habs : ((n.natAbs : ℕ) : ℚ) = -n := by
      rw [Nat.cast_natAbs,abs_of_neg hn]
      push_cast
      rfl
    refine (if_pos (decide_eq_true hn)).trans ?_
    rw [CFloat.negate,habs,neg_neg]
  · have habs : ((n.natAbs : ℕ) : ℚ) = n := by
      rw [Nat.cast_natAbs,abs_of_nonneg (not_lt.mp hn)]
    refine (if_neg (by simpa using hn)).trans ?_
    rw [habs]

theorem frameKeys_exact (readable : String → Bool) (details : List Detected)
    (h : ∀ d ∈ details, d.frameNumber.natAbs < 2 ^ 24) :
    Host.StofExact ⟨stof,readable⟩ details :=
  fun d hd => stof_frameKey (h d hd)

end Frames

end Ovi
