import Ovi.Render.RoundTo
import Mathlib.Data.List.TakeWhile

namespace Ovi
open Float.Model

section Digits

theorem decimal_foldl (digits : List Char) (n : Nat) :
    digits.foldl (fun n c => 10 * n + (c.toNat - '0'.toNat)) n =
      n * 10 ^ digits.length + decimal digits := by
  induction digits generalizing n with
  | nil => simp [decimal]
  | cons c digits ih =>
    rw [decimal,List.foldl_cons,List.foldl_cons,ih,ih (10 * 0 + _),List.length_cons,pow_succ]
    ring

theorem decimal_append (digits more : List Char) :
    decimal (digits ++ more) = decimal digits * 10 ^ more.length + decimal more := by
  rw [decimal,List.foldl_append]
  exact decimal_foldl more (decimal digits)

theorem decimal_lt {digits : List Char} (h : ∀ c ∈ digits, c.isDigit = true) :
    decimal digits < 10 ^ digits.length := by
  induction digits with
  | nil => decide
  | cons c digits ih =>
    obtain ⟨hc,hrest⟩ := List.forall_mem_cons.mp h
    have hdigit : c.toNat - '0'.toNat ≤ 9 := by
      have hnine := (Char.isDigit_iff_toNat.mp hc).2
      exact (Nat.sub_le_sub_right hnine _).trans (by decide)
    have hlt := ih hrest
    rw [decimal,List.foldl_cons,decimal_foldl,List.length_cons,pow_succ]
    nlinarith

theorem toLower_isDigit (c : Char) : c.toLower.isDigit = c.isDigit := by
  by_cases h : c.val ≥ 'A'.val ∧ c.val ≤ 'Z'.val
  · have hletter : 'A'.toNat ≤ c.toNat ∧ c.toNat ≤ 'Z'.toNat := h
    have hval : c.toLower.val = c.val + ('a'.val - 'A'.val) := congrArg Char.val (dif_pos h)
    have hlower : c.toLower.toNat = c.toNat + 32 := by
      have hsum := congrArg UInt32.toNat hval
      rw [UInt32.toNat_add] at hsum
      have hz : c.toNat ≤ 90 := hletter.2
      exact hsum.trans (Nat.mod_eq_of_lt (by change c.toNat + 32 < _; omega))
    have hnot : ∀ c : Char, '9'.toNat < c.toNat → c.isDigit = false := fun c hc =>
      Bool.eq_false_iff.mpr fun hdigit => hc.not_ge (Char.isDigit_iff_toNat.mp hdigit).2
    have hnine : '9'.toNat < c.toNat := lt_of_lt_of_le (by decide) hletter.1
    rw [hnot c hnine,hnot _ (hlower ▸ Nat.lt_add_right 32 hnine)]
  · exact congrArg Char.isDigit (dif_neg h)

theorem toLower_of_isDigit {c : Char} (h : c.isDigit = true) : c.toLower = c := by
  have hnine := (Char.isDigit_iff_toNat.mp h).2
  refine dif_neg fun hupper => ?_
  have hletter : 'A'.toNat ≤ c.toNat := hupper.1
  exact absurd (hletter.trans hnine) (by decide)

theorem takeWhile_toLower (cs : List Char) :
    (cs.map Char.toLower).takeWhile Char.isDigit = cs.takeWhile Char.isDigit := by
  induction cs with
  | nil => rfl
  | cons c cs ih =>
    rw [List.map_cons,List.takeWhile_cons,List.takeWhile_cons,toLower_isDigit,ih]
    split
    · rename_i h
      rw [toLower_of_isDigit h]
    · rfl

end Digits

section Denoted

variable {cs : List Char}

def unsignedText (s : String) : List Char := (signOf (s.toList.dropWhile isSpace)).2

def denoted : List Char → ℚ
  | '0' :: 'x' :: cs =>
    let (whole,fraction,rest) := significand isHexDigit cs
    scaled 2 (hexadecimal (whole ++ fraction)) (exponentPart 'p' rest - 4 * fraction.length)
  | cs =>
    let (whole,fraction,rest) := significand Char.isDigit cs
    scaled 10 (decimal (whole ++ fraction)) (exponentPart 'e' rest - fraction.length)

theorem denoted_nonneg (cs : List Char) : 0 ≤ denoted cs := by
  unfold denoted
  split <;> exact scaled_nonneg _ _ _

def NextTo (n : Nat) (number : ℚ) : Prop :=
  n ≤ number ∧ (number - n) * 2 ^ 24 ≤ if n = 0 then 0 else 2 ^ n.log2

def WholeNumber (s : String) : Prop :=
  (unsignedText s).takeWhile Char.isDigit ≠ [] ∧
    NextTo (decimal ((unsignedText s).takeWhile Char.isDigit))
      (denoted ((unsignedText s).map Char.toLower))

theorem nextTo_zero {number : ℚ} (h : 0 ≤ number) : NextTo 0 number ↔ number = 0 := by
  rw [NextTo,if_pos rfl,Nat.cast_zero,sub_zero]
  constructor
  · rintro ⟨-,hle⟩
    linarith
  · rintro rfl
    exact ⟨le_rfl,by norm_num⟩

theorem inFloatRange_ok {base m : Nat} {e : Int} {x : UnpackedFloat} {r : ℚ}
    (h : inFloatRange base m e x = .ok (.number r)) :
    (m = 0 ∧ r = 0) ∨ (0 < r ∧ Rounding.magnitude x = some r) := by
  cases x with
  | infinity sign => cases h
  | notANumber => cases h
  | zero sign =>
    change (if m == 0 then (.ok (.number 0) : Except Exn CFloat) else .error .other) = _ at h
    split_ifs at h with hm
    cases h
    exact .inl ⟨beq_iff_eq.mp hm,rfl⟩
  | finite sign n k hn =>
    change (if 128 < totalExponent n k then (.error .other : Except Exn CFloat)
      else if scaled base m e < tinyFloat && scaled 2 n k != scaled base m e then .error .other
      else .ok (.number (scaled 2 n k))) = _ at h
    split_ifs at h
    cases h
    have hpos : (0 : ℚ) < n * 2 ^ k := mul_pos (Nat.cast_pos.mpr hn) (zpow_pos two_pos k)
    exact .inr ⟨(scaled_two n k).symm ▸ hpos,congrArg some (scaled_two n k).symm⟩

theorem hexFloat_whole {cs : List Char} {r : ℚ} (h : hexFloat cs = .ok (.number r)) :
    r = 0 ↔ denoted ('0' :: 'x' :: cs) = 0 := by
  rw [denoted]
  unfold hexFloat at h
  simp only at h ⊢
  split_ifs at h with hempty
  · cases h
    rw [List.isEmpty_iff.mp hempty,hexadecimal,scaled_eq]
    simp
  · have hscaled : ∀ m e, scaled 2 m e = 0 ↔ m = 0 := by
      intro m e
      rw [scaled_eq,mul_eq_zero_iff_right (zpow_ne_zero _ (by norm_num)),Nat.cast_eq_zero]
    rw [hscaled]
    rcases inFloatRange_ok h with ⟨hm,rfl⟩ | ⟨hr,hvalue⟩
    · exact iff_of_true rfl hm
    · refine iff_of_false hr.ne' fun hm => ?_
      rw [hm,Rounding.round_zero] at hvalue
      cases hvalue
      exact hr.ne' rfl

theorem significand_whole (digit : Char → Bool) (cs : List Char) :
    (significand digit cs).1 = cs.takeWhile digit := by
  unfold significand
  split <;> rfl

theorem significand_fraction {digit : Char → Bool} {c : Char}
    (h : c ∈ (significand digit cs).2.1) : digit c = true := by
  unfold significand at h
  split at h
  · exact List.mem_takeWhile_imp h
  · cases h

structure OpensWith (w : Nat) (number : ℚ) : Prop where
  nonneg : 0 ≤ number
  zero : number = 0 → w = 0
  far : w ≤ number ∨ 0 < w ∧ 5 * number ≤ w

theorem opens_decimal (whole : List Char) {fraction : List Char}
    (hf : ∀ c ∈ fraction, c.isDigit = true) (e : Int) :
    OpensWith (decimal whole) (scaled 10 (decimal (whole ++ fraction)) (e - fraction.length)) := by
  have hlt : (decimal fraction : ℚ) < 10 ^ fraction.length := by exact_mod_cast decimal_lt hf
  have hpos : (0 : ℚ) < 10 ^ fraction.length := by positivity
  have hnumber : scaled 10 (decimal (whole ++ fraction)) (e - fraction.length) =
      (decimal whole + decimal fraction / 10 ^ fraction.length) * 10 ^ e := by
    rw [scaled_eq,decimal_append,zpow_sub₀ (by norm_num),zpow_natCast]
    push_cast
    field_simp
  have hbelow : (decimal fraction : ℚ) / 10 ^ fraction.length < 1 := (div_lt_one hpos).mpr hlt
  have hnonneg : (0 : ℚ) ≤ decimal fraction / 10 ^ fraction.length := by positivity
  rw [hnumber]
  generalize (decimal fraction : ℚ) / 10 ^ fraction.length = f at *
  generalize decimal whole = w
  have hw : (0 : ℚ) ≤ w := Nat.cast_nonneg w
  have hten : (0 : ℚ) < 10 ^ e := zpow_pos (by norm_num) e
  constructor
  · positivity
  · intro hzero
    rcases mul_eq_zero.mp hzero with hsum | hzero
    · exact_mod_cast (by linarith : (w : ℚ) = 0)
    · exact absurd hzero hten.ne'
  · rcases Nat.eq_zero_or_pos w with rfl | hwpos
    · left
      rw [Nat.cast_zero]
      positivity
    · rcases le_or_gt 0 e with he | he
      · left
        have hone : (1 : ℚ) ≤ 10 ^ e := one_le_zpow₀ (by norm_num) he
        nlinarith
      · right
        refine ⟨hwpos,?_⟩
        have hone : (1 : ℚ) ≤ w := Nat.one_le_cast.mpr hwpos
        have htenth : (10 : ℚ) ^ e ≤ 1 / 10 := by
          have hle : (10 : ℚ) ^ e ≤ 10 ^ (-1 : Int) := zpow_le_zpow_right₀ (by norm_num) (by omega)
          rwa [zpow_neg_one,← one_div] at hle
        nlinarith

theorem rounded_whole_iff {w m : Nat} {e : Int} {r : ℚ} (ho : OpensWith w (scaled 10 m e))
    (h : inFloatRange 10 m e (.ofScientific .binary32 m e) = .ok (.number r)) (hr : r ≤ 19) :
    r = w ↔ NextTo w (scaled 10 m e) := by
  have hmin : Format.binary32.minExponent ≤ 1 - Format.binary32.mantissaBits := by decide
  rw [scaled_eq] at *
  rcases inFloatRange_ok h with ⟨rfl,rfl⟩ | ⟨hpos,hvalue⟩
  · have hzero : ((0 : Nat) : ℚ) * ((10 : Nat) : ℚ) ^ e = 0 := by simp
    rw [hzero,ho.zero hzero]
    exact iff_of_true Nat.cast_zero.symm ((nextTo_zero le_rfl).mpr rfl)
  have hm : m ≠ 0 := by
    rintro rfl
    cases hvalue
    exact hpos.ne' rfl
  have hrounds : Rounding.RoundsTo .binary32 ((m : ℚ) * 10 ^ e) r := by
    rcases Rounding.ofScientific_rounded .binary32 hm e with hi | hz | hround
    · rw [hi] at hvalue
      cases hvalue
    · rw [hz] at hvalue
      cases hvalue
      exact absurd rfl hpos.ne'
    · obtain ⟨r',hvalue',hrounds⟩ := hround
      obtain rfl := Option.some_inj.mp (hvalue.symm.trans hvalue')
      exact hrounds
  have hq : (0 : ℚ) < m * ((10 : Nat) : ℚ) ^ e :=
    mul_pos (Nat.cast_pos.mpr (Nat.pos_of_ne_zero hm)) (zpow_pos (by norm_num) e)
  rw [← Nat.cast_ofNat (R := ℚ)] at hrounds
  generalize (m : ℚ) * ((10 : Nat) : ℚ) ^ e = q at *
  rcases Nat.eq_zero_or_pos w with rfl | hw
  · rw [nextTo_zero hq.le,Nat.cast_zero]
    exact iff_of_false hpos.ne' hq.ne'
  rcases ho.far with hle | ⟨-,hfar⟩
  · rw [NextTo,if_neg hw.ne']
    constructor
    · rintro rfl
      exact ⟨hle,hrounds.le_half hmin hw hle⟩
    · rintro ⟨-,hclose⟩
      refine hrounds.eq_whole hmin hw ?_ hle hclose
      by_contra hmany
      have hbits : Format.binary32.mantissaBits = 24 := rfl
      have hlog : 2 ^ 23 ≤ 2 ^ w.log2 := Nat.pow_le_pow_right two_pos (by omega)
      have hlarge : (2 : ℚ) ^ 23 ≤ q :=
        (Nat.cast_le.mpr (hlog.trans (Nat.log2_self_le hw.ne'))).trans hle
      have := hrounds.pow_le hmin hlarge
      norm_num at this
      linarith
  · refine iff_of_false (hrounds.far hmin hq hw hfar) fun hnext => ?_
    have hle := hnext.1
    linarith

theorem decimalFloat_whole {r : ℚ} (h : decimalFloat cs = .ok (.number r)) (hr : r ≤ 19)
    (hhex : ∀ rest, cs ≠ '0' :: 'x' :: rest) (hd : cs.takeWhile Char.isDigit ≠ []) :
    r = decimal (cs.takeWhile Char.isDigit) ↔
      NextTo (decimal (cs.takeWhile Char.isDigit)) (denoted cs) := by
  have hdenoted : denoted cs =
      scaled 10 (decimal ((significand Char.isDigit cs).1 ++ (significand Char.isDigit cs).2.1))
        (exponentPart 'e' (significand Char.isDigit cs).2.2 -
          (significand Char.isDigit cs).2.1.length) := by
    unfold denoted
    split
    · exact absurd rfl (hhex _)
    · rfl
  have hfraction : ∀ c ∈ (significand Char.isDigit cs).2.1, c.isDigit = true :=
    fun _ => significand_fraction
  have hopens := opens_decimal (significand Char.isDigit cs).1 hfraction
    (exponentPart 'e' (significand Char.isDigit cs).2.2)
  unfold decimalFloat at h
  simp only at h
  rw [hdenoted,← significand_whole]
  rw [← significand_whole] at hd
  rw [if_neg (by simp [hd])] at h
  exact rounded_whole_iff hopens h hr

theorem magnitude_number {l : List Char} {r : ℚ} (h : magnitude l = .ok (.number r)) :
    (∃ rest, l = '0' :: 'x' :: rest ∧ hexFloat rest = .ok (.number r)) ∨
      ((∀ rest, l ≠ '0' :: 'x' :: rest) ∧ decimalFloat l = .ok (.number r)) := by
  unfold magnitude at h
  split at h
  · cases h
  · cases h
  · exact .inl ⟨_,rfl,h⟩
  · rename_i hhex
    exact .inr ⟨hhex,h⟩

theorem magnitude_whole {r : ℚ} (h : magnitude (cs.map Char.toLower) = .ok (.number r))
    (hr : r ≤ 19) (hd : cs.takeWhile Char.isDigit ≠ []) :
    r = decimal (cs.takeWhile Char.isDigit) ↔
      NextTo (decimal (cs.takeWhile Char.isDigit)) (denoted (cs.map Char.toLower)) := by
  rw [← takeWhile_toLower] at hd ⊢
  rcases magnitude_number h with ⟨rest,hl,hhex⟩ | ⟨hhex,hdecimal⟩
  · have hwhole : decimal (('0' :: 'x' :: rest).takeWhile Char.isDigit) = 0 := rfl
    rw [hl,hwhole,nextTo_zero (denoted_nonneg _),Nat.cast_zero]
    exact hexFloat_whole hhex
  · exact decimalFloat_whole hdecimal hr hhex hd

theorem magnitude_nonneg {l : List Char} {r : ℚ} (h : magnitude l = .ok (.number r)) :
    0 ≤ r := by
  have hrange : ∀ {base m e x}, inFloatRange base m e x = .ok (.number r) → 0 ≤ r := by
    intro base m e x hx
    rcases inFloatRange_ok hx with ⟨-,rfl⟩ | ⟨hpos,-⟩
    · exact le_rfl
    · exact hpos.le
  rcases magnitude_number h with ⟨rest,-,hhex⟩ | ⟨-,hdecimal⟩
  · unfold hexFloat at hhex
    simp only at hhex
    split_ifs at hhex
    · cases hhex
      exact le_rfl
    · exact hrange hhex
  · unfold decimalFloat at hdecimal
    simp only at hdecimal
    split_ifs at hdecimal
    exact hrange hdecimal

variable {s : String}

def negative (s : String) : Bool := (signOf (s.toList.dropWhile isSpace)).1

theorem within_number {low high v : ℚ} :
    (CFloat.number v).within low high = true ↔ low ≤ v ∧ v ≤ high := by
  rw [CFloat.within,Bool.and_eq_true,decide_eq_true_eq,decide_eq_true_eq]

theorem stof_number {x : CFloat} (h : stof s = .ok x) (hx : x.within 0 19 = true) :
    ∃ r, x = .number r ∧ r ≤ 19 ∧
      magnitude ((unsignedText s).map Char.toLower) = .ok (.number r) ∧
      (negative s = true → r = 0) := by
  change (magnitude ((unsignedText s).map Char.toLower)).map
    (fun x => if negative s then x.negate else x) = .ok x at h
  cases hm : magnitude ((unsignedText s).map Char.toLower) with
  | error e =>
    rw [hm] at h
    cases h
  | ok y =>
    rw [hm] at h
    obtain rfl : (if negative s then y.negate else y) = x := Except.ok.inj h
    cases y with
    | infinite sign => split at hx <;> cases hx
    | nan => split at hx <;> cases hx
    | number r =>
      have hr := magnitude_nonneg hm
      cases hsign : negative s with
      | false =>
        rw [hsign] at hx
        exact ⟨r,rfl,(within_number.mp hx).2,rfl,fun hfalse => absurd hfalse Bool.false_ne_true⟩
      | true =>
        rw [hsign] at hx
        have hlow : 0 ≤ -r := (within_number.mp hx).1
        obtain rfl : r = 0 := by linarith
        exact ⟨0,congrArg CFloat.number neg_zero,by norm_num,rfl,fun _ => rfl⟩

theorem stoi_eq (s : String) : stoi s =
    let digits := (unsignedText s).takeWhile Char.isDigit
    let value : Int := if negative s then -decimal digits else decimal digits
    if digits.isEmpty then .error .other
    else if -2147483648 ≤ value && value ≤ 2147483647 then .ok value
    else .error .other := rfl

theorem reads_alike_iff {x : CFloat} (h : stof s = .ok x) (hx : x.within 0 19 = true) :
    (∃ n : Int, stoi s = .ok n ∧ x = .number n) ↔ WholeNumber s := by
  obtain ⟨r,rfl,hr,hmagnitude,hsign⟩ := stof_number h hx
  have hwhole := magnitude_whole hmagnitude hr
  rw [WholeNumber,stoi_eq]
  generalize (unsignedText s).takeWhile Char.isDigit = digits at *
  simp only [CFloat.number.injEq]
  constructor
  · rintro ⟨n,hn,rfl⟩
    split_ifs at hn with hempty hnegative hrange hrange
    · obtain rfl := Except.ok.inj hn
      have hd : digits ≠ [] := by simpa using hempty
      have hzero := hsign hnegative
      refine ⟨hd,(hwhole hd).mp ?_⟩
      push_cast at hzero ⊢
      linarith
    · obtain rfl := Except.ok.inj hn
      have hd : digits ≠ [] := by simpa using hempty
      exact ⟨hd,(hwhole hd).mp (by push_cast; rfl)⟩
  · rintro ⟨hd,hnext⟩
    obtain rfl := (hwhole hd).mpr hnext
    have hfew : decimal digits ≤ 19 := by exact_mod_cast hr
    rw [if_neg (by simpa using hd)]
    cases hnegative : negative s with
    | false =>
      refine ⟨decimal digits,?_,by push_cast; rfl⟩
      rw [if_neg Bool.false_ne_true,if_pos (by simp; omega)]
    | true =>
      have hzero : decimal digits = 0 := by exact_mod_cast hsign hnegative
      refine ⟨0,?_,by rw [hzero]; rfl⟩
      rw [hzero]
      rfl

end Denoted

end Ovi
