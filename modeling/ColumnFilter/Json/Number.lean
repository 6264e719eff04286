import ColumnFilter.Json.Lexeme

/-!
# The value of a numeral

Whole numbers that fit 64 bits are exact.  Any other numeral is a float: its first
digits, as many as fit 64 bits, times or divided by a power of ten.
-/

namespace ColumnFilter.Json

/-- Digits read into a significand of 64 bits, and those that found no room. -/
def gather (significand : Nat) : List Nat → Nat × List Nat
  | [] => (significand, [])
  | digit :: rest =>
      if 10 * significand + digit < UInt64.size then gather (10 * significand + digit) rest
      else (significand, digit :: rest)

/-- The float nearest to a power of ten. -/
def powerOfTen (exponent : Nat) : Float := Float.ofScientific 1 false exponent

/-- A significand divided by a power of ten, in steps that are floats themselves. -/
def shrink (x : Float) (exponent : Nat) : Float :=
  if exponent ≤ 308 then x / powerOfTen exponent
  else if exponent ≤ 616 then x / powerOfTen 308 / powerOfTen (exponent - 308)
  else 0

/-- A significand times a power of ten, unless that is beyond the floats. -/
def magnify? (x : Float) (exponent : Nat) : Option Float :=
  if exponent ≤ 308 then
    let product := x * powerOfTen exponent
    if product.isInf then none else some product
  else if x == 0 then some x
  else none

/-- A significand of 64 bits and a decimal exponent as a float. -/
def floatOfParts? (negative : Bool) (significand : Nat) (exponent : Int) : Option Json :=
  let x := (UInt64.ofNat significand).toFloat
  let magnitude := match exponent with
    | .ofNat up => magnify? x up
    | .negSucc down => some (shrink x (down + 1))
  magnitude.map fun y => .float (if negative then -y else y)

def ofDigits (digits : List Nat) : Nat := digits.foldl (fun n digit => 10 * n + digit) 0

def clamp (low high n : Int) : Int := if n < low then low else if high < n then high else n

/-- The value of a numeral, unless it is out of range.  An exponent of more than 32
bits makes the number zero or too large. -/
def Numeral.toJson? (numeral : Numeral) : Option Json :=
  let (whole, left) := gather 0 numeral.whole
  let (significand, exponent) : Nat × Int := match numeral.fraction with
    | none => (whole, left.length)
    | some fraction =>
        let (significand, unread) := gather whole fraction
        (significand, left.length - (fraction.length - unread.length))
  match numeral.exponent with
  | some (down, digits) =>
      let shift := ofDigits digits
      if 0x80000000 ≤ shift then
        if significand ≠ 0 && !down then none
        else some (.float (if numeral.negative then -0.0 else 0.0))
      else
        let total := if down then exponent - shift else exponent + shift
        floatOfParts? numeral.negative significand (clamp (-0x80000000) 0x7fffffff total)
  | none =>
      if numeral.fraction.isNone && left.isEmpty then
        if !numeral.negative then some (.natural (UInt64.ofNat significand))
        else if significand = 0 ∨ 0x8000000000000000 < significand then
          some (.float (-(UInt64.ofNat significand).toFloat))
        else some (.negative (Int64.ofInt (-(significand : Int))))
      else floatOfParts? numeral.negative significand exponent

end ColumnFilter.Json
