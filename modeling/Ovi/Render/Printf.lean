import Mathlib.Data.String.Basic
import Ovi.Library.FilterGraph
import Ovi.Render.AttributeValidator

namespace Ovi

-- what `strlen` counts
def byteLength (text : String) : Nat := String.utf8Len text.toList

def fitting : Nat → List Char → List Char
  | _,[] => []
  | room,c :: cs => if c.utf8Size ≤ room then c :: fitting (room - c.utf8Size) cs else []

-- `size` counts the terminator; of a character that is cut through nothing is kept
def snprintf (size : Nat) (text : String) : String :=
  String.ofList (fitting (size - 1) text.toList)

theorem byteLength_append (s t : String) : byteLength (s ++ t) = byteLength s + byteLength t := by
  rw [byteLength,String.toList_append,String.utf8Len_append]
  rfl

theorem fitting_all {room : Nat} {cs : List Char} (h : String.utf8Len cs ≤ room) :
    fitting room cs = cs := by
  induction cs generalizing room with
  | nil => rfl
  | cons c cs ih =>
    rw [String.utf8Len_cons] at h
    rw [fitting,if_pos (by omega),ih (by omega)]

theorem snprintf_fits {size : Nat} {text : String} (h : byteLength text < size) :
    snprintf size text = text := by
  rw [byteLength] at h
  rw [snprintf,fitting_all (by omega),String.ofList_toList]

-- `%.<precision>d`
def zeroPadded (precision n : Nat) : String :=
  String.ofList (List.replicate (precision - (toString n).length) '0') ++ toString n

def roundHalfEven (n d : Nat) : Nat :=
  if 2 * (n % d) < d then n / d
  else if d < 2 * (n % d) then n / d + 1
  else n / d + n / d % 2

-- `%f`
def formatDouble : CFloat → String
  | .number x =>
    let millionths := roundHalfEven (x.num.natAbs * 1000000) x.den
    (if x < 0 then "-" else "") ++ toString (millionths / 1000000) ++ "." ++
      zeroPadded 6 (millionths % 1000000)
  | .infinite negative => if negative then "-inf" else "inf"
  | .nan => "nan"

section Characters

def Numeric (s : String) : Prop := ∀ c ∈ s.toList, c.isAlphanum = true ∨ c ∈ ['.','-']

instance (s : String) : Decidable (Numeric s) := List.decidableBAll _ _

theorem toList_nat (n : Nat) : (toString n).toList = Nat.toDigits 10 n := String.toList_ofList

theorem decimal_concat (l : List Char) (c : Char) :
    decimal (l ++ [c]) = 10 * decimal l + (c.toNat - '0'.toNat) := by
  rw [decimal,List.foldl_append]
  rfl

theorem decimal_toDigits (n : Nat) : decimal (Nat.toDigits 10 n) = n := by
  induction n using Nat.strong_induction_on with
  | _ n ih =>
    rw [Nat.toDigits_eq_if (by decide)]
    split
    · rename_i hlt
      exact (Nat.zero_add _).trans (Nat.toNat_digitChar_sub_48_of_lt_ten hlt)
    · have hdigit : (n % 10).digitChar.toNat - '0'.toNat = n % 10 :=
        Nat.toNat_digitChar_sub_48_of_lt_ten (by omega)
      rw [decimal_concat,ih (n / 10) (by omega),hdigit]
      omega

theorem toString_inj {m n : Nat} (h : toString m = toString n) : m = n := by
  have hdigits := congrArg (fun s => decimal s.toList) h
  simpa only [toList_nat,decimal_toDigits] using hdigits

variable {s t : String}

theorem Numeric.append (hs : Numeric s) (ht : Numeric t) : Numeric (s ++ t) := by
  intro c hc
  rw [String.toList_append,List.mem_append] at hc
  exact hc.elim (hs c) (ht c)

theorem numeric_nat (n : Nat) : Numeric (toString n) := by
  intro c hc
  left
  rw [toList_nat] at hc
  have hdigit := Nat.isDigit_of_mem_toDigits (by decide) (by decide) hc
  rw [Char.isAlphanum,hdigit,Bool.or_true]

theorem numeric_int (n : Int) : Numeric (toString n) := by
  cases n with
  | ofNat n => exact numeric_nat n
  | negSucc n => exact Numeric.append (by decide : Numeric "-") (numeric_nat (n + 1))

theorem numeric_zeroPadded (precision n : Nat) : Numeric (zeroPadded precision n) := by
  refine Numeric.append ?_ (numeric_nat n)
  intro c hc
  rw [String.toList_ofList] at hc
  obtain ⟨-,rfl⟩ := List.mem_replicate.mp hc
  exact .inl rfl

theorem numeric_formatDouble (x : CFloat) : Numeric (formatDouble x) := by
  cases x with
  | number x =>
    refine Numeric.append (Numeric.append (Numeric.append ?_ (numeric_nat _)) ?_)
      (numeric_zeroPadded 6 _)
    · split <;> decide
    · decide
  | infinite negative => cases negative <;> decide
  | nan => decide

def Ascii (s : String) : Prop := ∀ c ∈ s.toList, c.utf8Size = 1

instance (s : String) : Decidable (Ascii s) := List.decidableBAll _ _

theorem ascii_append : Ascii (s ++ t) ↔ Ascii s ∧ Ascii t := by
  simp only [Ascii,String.toList_append,List.forall_mem_append]

theorem utf8Len_ascii {cs : List Char} (h : ∀ c ∈ cs, c.utf8Size = 1) :
    String.utf8Len cs = cs.length := by
  induction cs with
  | nil => rfl
  | cons c cs ih =>
    obtain ⟨hc,hcs⟩ := List.forall_mem_cons.mp h
    rw [String.utf8Len_cons,hc,ih hcs,List.length_cons]

theorem Ascii.byteLength (h : Ascii s) : byteLength s = s.length := by
  rw [Ovi.byteLength,utf8Len_ascii h,String.length_toList]

theorem Ascii.snprintf {size : Nat} (h : Ascii s) (hlength : s.length < size) :
    Ovi.snprintf size s = s := snprintf_fits (h.byteLength.trans_lt hlength)

theorem avoids {allowed barred : List Char} {c : Char} (h : c.isAlphanum = true ∨ c ∈ allowed)
    (hbarred : (barred.all fun d => !d.isAlphanum && !allowed.contains d) = true) :
    c ∉ barred := by
  intro hc
  obtain ⟨hletter,hmark⟩ : c.isAlphanum = false ∧ c ∉ allowed := by
    simpa using List.all_eq_true.mp hbarred c hc
  rcases h with h | h
  · rw [hletter] at h
    cases h
  · exact hmark h

theorem Numeric.ascii (h : Numeric s) : Ascii s := by
  intro c hc
  rw [Char.utf8Size_eq_one_iff]
  rcases h c hc with hletter | hmark
  · have hranges : (decide (65 ≤ c.val ∧ c.val ≤ 90) ||
        (decide (97 ≤ c.val) && decide (c.val ≤ 122)) ||
        (decide (48 ≤ c.val) && decide (c.val ≤ 57))) = true := hletter
    simp only [Bool.or_eq_true,Bool.and_eq_true,decide_eq_true_eq] at hranges
    have hlower : (90 : UInt32) ≤ 127 ∧ (122 : UInt32) ≤ 127 ∧ (57 : UInt32) ≤ 127 := by decide
    rcases hranges with (⟨_,h⟩ | ⟨_,h⟩) | ⟨_,h⟩
    · exact UInt32.le_trans h hlower.1
    · exact UInt32.le_trans h hlower.2.1
    · exact UInt32.le_trans h hlower.2.2
  · simp only [List.mem_cons,List.not_mem_nil,or_false] at hmark
    rcases hmark with rfl | rfl <;> decide

theorem Numeric.plain (h : Numeric s) : FilterGraph.PlainText s :=
  fun c hc => avoids (h c hc) (by decide)

end Characters

end Ovi
