/-!
# Decimals

Exact decimal numbers of any size: an integer and the number of its digits that
stand after the point.  `Decimal.read?` reads the written forms, `Decimal.toText`
writes them, and equality of value is equality of the normal forms.
-/

namespace ColumnFilter

/-- The number `digits * 10 ^ (-scale)`.  Trailing zeros are kept: `1.50` has
digits 150 and scale 2. -/
structure Decimal where
  digits : Int
  scale : Int
  deriving DecidableEq, Repr

namespace Decimal

/-- The first number that does not fit 64 bits with a sign. -/
def limit64 : Int := 0x8000000000000000

/-- The first number that does not fit 128 bits with a sign. -/
def limit128 : Int := 0x80000000000000000000000000000000

/-- The value of an ASCII digit. -/
def digitValue? (c : Char) : Option Nat :=
  if '0' ≤ c ∧ c ≤ '9' then some (c.toNat - '0'.toNat) else none

/-- The digits of a numeral, most significant first, onto a number already read;
underscores between them are skipped. -/
def readDigits? (skipUnderscore : Bool) (acc : Nat) : List Char → Option Nat
  | [] => some acc
  | c :: rest =>
      if skipUnderscore && c == '_' then readDigits? skipUnderscore acc rest
      else
        match digitValue? c with
        | some digit => readDigits? skipUnderscore (10 * acc + digit) rest
        | none => none

/-- A numeral without minus sign: at most one plus sign, then digits; an
underscore may stand anywhere but first. -/
def readMagnitude? (text : List Char) : Option Nat :=
  let unsigned :=
    match text with
    | '+' :: '+' :: _ => text
    | '+' :: rest => rest
    | _ => text
  match unsigned with
  | [] => none
  | '_' :: _ => none
  | _ => readDigits? true 0 unsigned

/-- An integer: a minus sign or at most one plus sign, then digits. -/
def readInteger? (text : List Char) : Option Int :=
  match text with
  | '-' :: '+' :: _ => none
  | '-' :: rest => (readMagnitude? rest).map fun n => -(n : Int)
  | _ => (readMagnitude? text).map fun n => (n : Int)

/-- An exponent: an optional sign, then digits only.  It has to fit 128 bits. -/
def readExponent? (text : List Char) : Option Int :=
  let (negative, unsigned) :=
    match text with
    | '-' :: rest => (true, rest)
    | '+' :: rest => (false, rest)
    | _ => (false, text)
  if unsigned.isEmpty then none
  else
    match readDigits? false 0 unsigned with
    | none => none
    | some n =>
        let value : Int := if negative then -(n : Int) else n
        if -limit128 ≤ value ∧ value < limit128 then some value else none

def isExponentMark (c : Char) : Bool := c == 'e' || c == 'E'

/-- A number without exponent: its integer once the first point is taken out, and
how many characters other than underscores stood behind that point. -/
def readBase? (text : List Char) : Option (Int × Nat) :=
  let whole := text.takeWhile (· != '.')
  let fraction := (text.dropWhile (· != '.')).drop 1
  match readInteger? (whole ++ fraction) with
  | some digits => some (digits, (fraction.filter (· != '_')).length)
  | none => none

/-- Reads a decimal.  The scale has to fit 64 bits. -/
def read? (text : List Char) : Option Decimal :=
  let base := text.takeWhile (!isExponentMark ·)
  let tail := text.dropWhile (!isExponentMark ·)
  let exponent := match tail with
    | [] => some 0
    | _ :: rest => readExponent? rest
  match exponent, readBase? base with
  | some exponent, some (digits, places) =>
      let scale := places - exponent
      if -limit64 ≤ scale ∧ scale < limit64 then some ⟨digits, scale⟩ else none
  | _, _ => none

def natDigits (n : Nat) : List Char := Nat.toDigits 10 n

/-- A number with its sign, also when it is positive. -/
def signed (n : Int) : List Char :=
  (if n < 0 then '-' else '+') :: natDigits n.natAbs

/-- Digits with a point in front of the last `places`, and a zero in front of the
point when nothing else is there. -/
def pointed (digits : List Char) (places : Nat) : List Char :=
  if places = 0 then digits
  else if digits.length ≤ places then
    '0' :: '.' :: List.replicate (places - digits.length) '0' ++ digits
  else
    digits.take (digits.length - places) ++ '.' :: digits.drop (digits.length - places)

/-- One digit, a point, the others, and the exponent. -/
def scientific (digits : List Char) (scale : Int) : List Char :=
  let mantissa := match digits with
    | [] => []
    | [digit] => [digit]
    | digit :: rest => digit :: '.' :: rest
  mantissa ++ 'E' :: signed (digits.length - 1 - scale)

/-- The written form without sign: scientific when more than five zeros would
follow the point, an exponent behind the digits when more than fifteen zeros
would have to be added, and plain otherwise. -/
def magnitudeText (digits : List Char) (scale : Int) : List Char :=
  if scale > digits.length + 5 then scientific digits scale
  else if -scale > 15 then digits ++ 'e' :: signed (-scale)
  else if scale < 0 then digits ++ List.replicate (-scale).toNat '0'
  else pointed digits scale.toNat

/-- The written form.  Zero is written without its scale. -/
def toText (number : Decimal) : String :=
  let scale := if number.digits = 0 then 0 else number.scale
  let text := magnitudeText (natDigits number.digits.natAbs) scale
  String.ofList (if number.digits < 0 then '-' :: text else text)

/-- Takes trailing zeros off a number, counting them; `fuel` bounds their count. -/
def stripZeros : (fuel : Nat) → Nat → Nat → Nat × Nat
  | 0, n, count => (n, count)
  | fuel + 1, n, count =>
      if n % 10 = 0 then stripZeros fuel (n / 10) (count + 1) else (n, count)

/-- The same number with no trailing zero among its digits; zero has scale 0. -/
def normal (number : Decimal) : Decimal :=
  if number.digits = 0 then ⟨0, 0⟩
  else
    let magnitude := number.digits.natAbs
    let (kept, zeros) := stripZeros (natDigits magnitude).length magnitude 0
    ⟨if number.digits < 0 then -(kept : Int) else kept, number.scale - zeros⟩

/-- Do two decimals stand for the same number? -/
def sameNumber (left right : Decimal) : Bool := left.normal == right.normal

end Decimal

end ColumnFilter
