import Ovi.Library.Rounding
import Ovi.Render.AttributeValidator

namespace Ovi
open Float.Model

-- the letters of a number are read in either case: they arrive here in lower case
def isHexDigit (c : Char) : Bool := c.isDigit || ('a' ≤ c && c ≤ 'f')

def hexValue (c : Char) : Nat :=
  if c.isDigit then c.toNat - '0'.toNat else c.toNat - 'a'.toNat + 10

def hexadecimal (digits : List Char) : Nat := digits.foldl (fun n c => 16 * n + hexValue c) 0

def significand (digit : Char → Bool) (cs : List Char) : List Char × List Char × List Char :=
  match cs.dropWhile digit with
  | '.' :: rest => (cs.takeWhile digit,rest.takeWhile digit,rest.dropWhile digit)
  | rest => (cs.takeWhile digit,[],rest)

def exponentPart (mark : Char) : List Char → Int
  | [] => 0
  | c :: cs =>
    let (negative,digits) := signOf cs
    let value : Int := decimal (digits.takeWhile Char.isDigit)
    if c == mark then if negative then -value else value else 0

def scaled (base m : Nat) (e : Int) : ℚ :=
  if 0 ≤ e then (m * base ^ e.toNat : Nat) else mkRat m (base ^ (-e).toNat)

-- below this a number stays under `FLT_MIN` when it is rounded to 24 bits of any exponent
def tinyFloat : ℚ := scaled 2 (2 ^ 25 - 1) (-151)

-- `ERANGE`: the number is too large, or it is tiny and the subnormal is not `m * base ^ e` itself
def inFloatRange (base m : Nat) (e : Int) : UnpackedFloat → Except Exn CFloat
  | .finite _ n k _ =>
    if 128 < totalExponent n k then .error .other
    else if scaled base m e < tinyFloat && scaled 2 n k != scaled base m e then .error .other
    else .ok (.number (scaled 2 n k))
  | .zero _ => if m == 0 then .ok (.number 0) else .error .other
  | _ => .error .other

def decimalFloat (cs : List Char) : Except Exn CFloat :=
  let (whole,fraction,rest) := significand Char.isDigit cs
  let m := decimal (whole ++ fraction)
  let e := exponentPart 'e' rest - fraction.length
  if (whole ++ fraction).isEmpty then .error .other
  else inFloatRange 10 m e (.ofScientific .binary32 m e)

-- `0x` without a digit after it is the number `0`
def hexFloat (cs : List Char) : Except Exn CFloat :=
  let (whole,fraction,rest) := significand isHexDigit cs
  let m := hexadecimal (whole ++ fraction)
  let e := exponentPart 'p' rest - 4 * fraction.length
  if (whole ++ fraction).isEmpty then .ok (.number 0)
  else inFloatRange 2 m e (.round .binary32 .positive m e)

def magnitude : List Char → Except Exn CFloat
  | 'i' :: 'n' :: 'f' :: _ => .ok (.infinite false)
  | 'n' :: 'a' :: 'n' :: _ => .ok .nan
  | '0' :: 'x' :: cs => hexFloat cs
  | cs => decimalFloat cs

def CFloat.negate : CFloat → CFloat
  | .number value => .number (-value)
  | .infinite negative => .infinite !negative
  | .nan => .nan

-- `std::stof`; it throws without a number and where `std::strtof` sets `ERANGE`
def stof (s : String) : Except Exn CFloat :=
  let (negative,cs) := signOf (s.toList.dropWhile isSpace)
  (magnitude (cs.map Char.toLower)).map (fun x => if negative then x.negate else x)

end Ovi
