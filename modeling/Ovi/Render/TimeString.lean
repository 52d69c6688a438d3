import Ovi.Library.Rounding
import Ovi.Render.Cut
import Ovi.Render.WholeNumber

namespace Ovi
open FFmpegRender

section Padded

variable {precision n : Nat}

theorem decimal_zeros (k : Nat) (digits : List Char) :
    decimal (List.replicate k '0' ++ digits) = decimal digits := by
  induction k with
  | zero => rfl
  | succ k ih => exact ih

theorem toList_zeroPadded (precision n : Nat) : (zeroPadded precision n).toList =
    List.replicate (precision - (toString n).length) '0' ++ Nat.toDigits 10 n := by
  rw [zeroPadded,String.toList_append,String.toList_ofList,toList_nat]

theorem decimal_zeroPadded (precision n : Nat) : decimal (zeroPadded precision n).toList = n := by
  rw [toList_zeroPadded,decimal_zeros,decimal_toDigits]

theorem zeroPadded_digits (precision n : Nat) :
    ∀ c ∈ (zeroPadded precision n).toList, c.isDigit = true := by
  intro c hc
  rw [toList_zeroPadded,List.mem_append] at hc
  rcases hc with hc | hc
  · obtain ⟨-,rfl⟩ := List.mem_replicate.mp hc
    rfl
  · exact Nat.isDigit_of_mem_toDigits (by decide) (by decide) hc

theorem length_zeroPadded (hp : 0 < precision) (hn : n < 10 ^ precision) :
    (zeroPadded precision n).toList.length = precision := by
  have hlength : (Nat.toDigits 10 n).length ≤ precision :=
    (Nat.length_toDigits_le_iff (by decide) hp).mpr hn
  rw [toList_zeroPadded,List.length_append,List.length_replicate,← String.length_toList,toList_nat]
  omega

theorem tempFile_inj {i j : Nat} (hi : i < 1000) (hj : j < 1000)
    (h : tempFile i = tempFile j) : i = j := by
  have hfit : ∀ k < 1000, tempFile k = "tmp_" ++ zeroPadded 3 k ++ ".mp4" := by
    intro k hk
    have hascii : Ascii ("tmp_" ++ zeroPadded 3 k ++ ".mp4") := by
      simp only [ascii_append,(numeric_zeroPadded 3 k).ascii,and_true]
      decide
    refine hascii.snprintf ?_
    have hnumber : (zeroPadded 3 k).length = 3 := by
      rw [← String.length_toList]
      exact length_zeroPadded (by decide) hk
    have hends : "tmp_".length = 4 ∧ ".mp4".length = 4 := by decide
    simp only [String.length_append]
    omega
  rw [hfit i hi,hfit j hj] at h
  have hlist := congrArg String.toList h
  simp only [String.toList_append,List.append_assoc] at hlist
  have hnumber := List.append_cancel_right (List.append_cancel_left hlist)
  rw [← decimal_zeroPadded 3 i,hnumber,decimal_zeroPadded]

end Padded

def readTime (s : String) : Option Nat :=
  match s.toList with
  | [h₁,h₂,c₁,m₁,m₂,c₂,s₁,s₂,c₃,f₁,f₂,f₃] =>
    if [c₁,c₂,c₃] = [':',':','.'] ∧ [h₁,h₂,m₁,m₂,s₁,s₂,f₁,f₂,f₃].all Char.isDigit then
      some (((decimal [h₁,h₂] * 60 + decimal [m₁,m₂]) * 60 + decimal [s₁,s₂]) * 1000 +
        decimal [f₁,f₂,f₃])
    else none
  | _ => none

section Read

theorem two_digits {n : Nat} (h : n < 100) : ∃ a b, (zeroPadded 2 n).toList = [a,b] :=
  List.length_eq_two.mp (length_zeroPadded (by decide) h)

theorem three_digits {n : Nat} (h : n < 1000) : ∃ a b c, (zeroPadded 3 n).toList = [a,b,c] :=
  List.length_eq_three.mp (length_zeroPadded (by decide) h)

def timeText (h m s f : Nat) : String :=
  zeroPadded 2 h ++ ":" ++ zeroPadded 2 m ++ ":" ++ zeroPadded 2 s ++ "." ++ zeroPadded 3 f

theorem read_timeText {h m s f : Nat} (hh : h < 100) (hm : m < 100) (hs : s < 100)
    (hf : f < 1000) : (timeText h m s f).length = 12 ∧
      readTime (timeText h m s f) = some (((h * 60 + m) * 60 + s) * 1000 + f) := by
  have hread := decimal_zeroPadded 2 h
  have mread := decimal_zeroPadded 2 m
  have sread := decimal_zeroPadded 2 s
  have fread := decimal_zeroPadded 3 f
  have hdigit := zeroPadded_digits 2 h
  have mdigit := zeroPadded_digits 2 m
  have sdigit := zeroPadded_digits 2 s
  have fdigit := zeroPadded_digits 3 f
  obtain ⟨h₁,h₂,hlist⟩ := two_digits hh
  obtain ⟨m₁,m₂,mlist⟩ := two_digits hm
  obtain ⟨s₁,s₂,slist⟩ := two_digits hs
  obtain ⟨f₁,f₂,f₃,flist⟩ := three_digits hf
  rw [hlist] at hread hdigit
  rw [mlist] at mread mdigit
  rw [slist] at sread sdigit
  rw [flist] at fread fdigit
  have htext : (timeText h m s f).toList =
      [h₁,h₂,':',m₁,m₂,':',s₁,s₂,'.',f₁,f₂,f₃] := by
    simp only [timeText,String.toList_append,hlist,mlist,slist,flist]
    rfl
  have hdigits : ∀ c ∈ [h₁,h₂] ++ [m₁,m₂] ++ [s₁,s₂] ++ [f₁,f₂,f₃], c.isDigit = true := by
    intro c hc
    simp only [List.mem_append] at hc
    rcases hc with ((hc | hc) | hc) | hc
    · exact hdigit c hc
    · exact mdigit c hc
    · exact sdigit c hc
    · exact fdigit c hc
  refine ⟨by rw [← String.length_toList,htext]; rfl,?_⟩
  rw [readTime,htext]
  exact (if_pos ⟨rfl,List.all_eq_true.mpr hdigits⟩).trans (by rw [hread,mread,sread,fread])

theorem ascii_timeText (h m s f : Nat) : Ascii (timeText h m s f) := by
  have hnumber : ∀ precision n : Nat, Ascii (zeroPadded precision n) :=
    fun precision n => (numeric_zeroPadded precision n).ascii
  simp only [timeText,ascii_append,hnumber,and_true,true_and]
  decide

-- the whole milliseconds of a time, as the code converts them to `int`
def milliseconds (time : ℚ) : Int := truncated (roundDouble (time * 1000))

theorem paddedInt_nat (precision n : Nat) : paddedInt precision n = zeroPadded precision n := by
  rw [paddedInt,if_neg (by omega),String.empty_append,Int.natAbs_natCast]

theorem toTimeString_nat {time : ℚ} {ms : Nat} (h : milliseconds time = ms) :
    toTimeString time = snprintf 20 (timeText (ms / 3600000 % 100) (ms / 60000 % 60)
      (ms / 1000 % 60) (ms % 1000)) := by
  have hh : (ms : Int).tdiv (1000 * 60 * 60) = (ms / 3600000 : Nat) := rfl
  have hrest : (ms : Int) - (ms / 3600000 : Nat) * (1000 * 60 * 60) =
      (ms % 3600000 : Nat) := by omega
  have hm : ((ms % 3600000 : Nat) : Int).tdiv (1000 * 60) = (ms / 60000 % 60 : Nat) := by
    rw [Int.tdiv_eq_ediv_of_nonneg (Int.natCast_nonneg _)]
    omega
  have hrest' : ((ms % 3600000 : Nat) : Int) - (ms / 60000 % 60 : Nat) * (1000 * 60) =
      (ms % 60000 : Nat) := by omega
  have hs : ((ms % 60000 : Nat) : Int).tdiv 1000 = (ms / 1000 % 60 : Nat) := by
    rw [Int.tdiv_eq_ediv_of_nonneg (Int.natCast_nonneg _)]
    omega
  have hrest'' : ((ms % 60000 : Nat) : Int) - (ms / 1000 % 60 : Nat) * 1000 =
      (ms % 1000 : Nat) := by omega
  have hmod : ∀ n k : Nat, (n : Int).tmod k = (n % k : Nat) := fun n k => rfl
  have hmod60 : ∀ n : Nat, n % 60 % 100 = n % 60 := fun n => by omega
  unfold toTimeString
  rw [milliseconds] at h
  simp only [h,hh,hrest,hm,hrest',hs,hrest'']
  have hhundred : (100 : Int) = (100 : Nat) := rfl
  have hthousand : (1000 : Int) = (1000 : Nat) := rfl
  rw [hhundred,hthousand,hmod,hmod,hmod,hmod,hmod60,hmod60,Nat.mod_mod,paddedInt_nat,
    paddedInt_nat,paddedInt_nat,paddedInt_nat]
  rfl

theorem readTime_toTimeString {time : ℚ} {ms : Nat} (h : milliseconds time = ms) :
    readTime (toTimeString time) = some (ms % 360000000) := by
  have hread := read_timeText (Nat.mod_lt (ms / 3600000) (by decide : 0 < 100))
    ((Nat.mod_lt (ms / 60000) (by decide : 0 < 60)).trans (by decide))
    ((Nat.mod_lt (ms / 1000) (by decide : 0 < 60)).trans (by decide))
    (Nat.mod_lt ms (by decide : 0 < 1000))
  rw [toTimeString_nat h,(ascii_timeText _ _ _ _).snprintf (by rw [hread.1]; decide),hread.2]
  congr 1
  omega

end Read

section Milliseconds

variable {s t x y : ℚ}

theorem roundDouble_rounds (h : 0 < x) :
    Rounding.RoundsTo .binary64 x (roundDouble x) := roundTo_rounds h

theorem truncated_floor (h : 0 ≤ x) : truncated x = ⌊x⌋ := by
  rw [truncated,Int.tdiv_eq_ediv_of_nonneg (Rat.num_nonneg.mpr h)]
  exact Rat.floor_def'.symm

theorem roundDouble_nonneg (h : 0 ≤ x) : 0 ≤ roundDouble x := roundTo_nonneg h

theorem roundDouble_mono (hx : 0 ≤ x) (h : x ≤ y) : roundDouble x ≤ roundDouble y :=
  roundTo_mono hx h

theorem roundDouble_whole {w : ℕ} (hw : w < 2 ^ 52) : roundDouble w = w := by
  rcases Nat.eq_zero_or_pos w with rfl | hpos
  · rfl
  · have hfew : w.log2 < 52 := (Nat.log2_lt hpos.ne').mpr hw
    refine (roundDouble_rounds (Nat.cast_pos.mpr hpos)).eq_whole (by decide) hpos ?_ le_rfl ?_
    · have hbits : Float.Model.Format.mantissaBits .binary64 = 53 := rfl
      omega
    · rw [sub_self,zero_mul]
      positivity

theorem milliseconds_floor (h : 0 ≤ t) : milliseconds t = ⌊roundDouble (t * 1000)⌋ :=
  truncated_floor (roundDouble_nonneg (by linarith))

theorem milliseconds_close (ht : 0 ≤ t) (hsmall : t ≤ 2 ^ 31) :
    |(milliseconds t : ℚ) - t * 1000| < 1 := by
  have hq : 0 ≤ t * 1000 := by linarith
  have hsmall' : t * 1000 < 2 ^ 51 := by
    have : (2 : ℚ) ^ 31 * 1000 < 2 ^ 51 := by norm_num
    linarith
  -- the whole numbers next to the product stay what they are
  have hbelow : ((⌊t * 1000⌋₊ : ℕ) : ℚ) ≤ t * 1000 := Nat.floor_le hq
  have habove : t * 1000 ≤ (⌈t * 1000⌉₊ : ℕ) := Nat.le_ceil _
  have hnext : ((⌈t * 1000⌉₊ : ℕ) : ℚ) < t * 1000 + 1 := Nat.ceil_lt_add_one hq
  have hfloor : ⌊t * 1000⌋₊ < 2 ^ 52 := by
    have : ((⌊t * 1000⌋₊ : ℕ) : ℚ) < 2 ^ 52 := by linarith
    exact_mod_cast this
  have hceil : ⌈t * 1000⌉₊ < 2 ^ 52 := by
    have : ((⌈t * 1000⌉₊ : ℕ) : ℚ) < 2 ^ 52 := by linarith
    exact_mod_cast this
  have hlow := roundDouble_mono (Nat.cast_nonneg _) hbelow
  have hhigh := roundDouble_mono hq habove
  rw [roundDouble_whole hfloor] at hlow
  rw [roundDouble_whole hceil] at hhigh
  have hge : ((⌊t * 1000⌋₊ : ℕ) : ℤ) ≤ milliseconds t := by
    rw [milliseconds_floor ht]
    exact Int.le_floor.mpr (by exact_mod_cast hlow)
  have hle : (milliseconds t : ℚ) ≤ roundDouble (t * 1000) := by
    rw [milliseconds_floor ht]
    exact Int.floor_le _
  have hge' : ((⌊t * 1000⌋₊ : ℕ) : ℚ) ≤ milliseconds t := by exact_mod_cast hge
  have hprev : t * 1000 < (⌊t * 1000⌋₊ : ℕ) + 1 := Nat.lt_floor_add_one _
  rw [abs_lt]
  constructor <;> linarith

theorem milliseconds_nat (ht : 0 ≤ t) (hsmall : t ≤ 2 ^ 31) :
    ∃ ms : ℕ, milliseconds t = ms ∧ |(ms : ℚ) - t * 1000| < 1 := by
  have hnonneg : 0 ≤ milliseconds t := by
    rw [milliseconds_floor ht]
    exact Int.floor_nonneg.mpr (roundDouble_nonneg (by linarith))
  obtain ⟨ms,hms⟩ := Int.eq_ofNat_of_zero_le hnonneg
  have hclose := milliseconds_close ht hsmall
  rw [hms] at hclose
  exact ⟨ms,hms,by exact_mod_cast hclose⟩

theorem readTime_short (ht : 0 ≤ t) (hshort : t ≤ 359999) :
    readTime (toTimeString t) = some (milliseconds t).toNat := by
  obtain ⟨ms,hms,hclose⟩ := milliseconds_nat ht (hshort.trans (by norm_num))
  have hlt : ms < 360000000 := by
    have hup := (abs_lt.mp hclose).2
    have : (ms : ℚ) < 360000000 := by linarith
    exact_mod_cast this
  rw [readTime_toTimeString hms,Nat.mod_eq_of_lt hlt,hms,Int.toNat_natCast]

end Milliseconds

section Seconds

variable {value first last : Int} {rate : ℚ}

theorem toSeconds_le {w : ℕ} (hvalue : 0 ≤ value) (hrate : 0 < rate) (hle : value / rate ≤ w)
    (hw : w < 2 ^ 52) : 0 ≤ toSeconds value rate ∧ toSeconds value rate ≤ w := by
  have hnonneg : 0 ≤ (value : ℚ) / rate := div_nonneg (by exact_mod_cast hvalue) hrate.le
  refine ⟨roundDouble_nonneg hnonneg,?_⟩
  rw [← roundDouble_whole hw]
  exact roundDouble_mono hnonneg hle

-- 201 frames at 25 a second are 8.04 seconds
example : readTime (toTimeString (toSeconds 201 25)) = some 8039 := by decide +kernel

end Seconds

end Ovi
