/-!
# Shortest decimal text of a float

The fewest digits that read back as the same float, and among those the nearest.  A
float stands for the interval of real numbers that round to it; its ends belong
to it exactly when its significand is even.
-/

namespace ColumnFilter.Shortest

/-- A positive float `significand * 2 ^ exponent`. -/
structure Binary where
  significand : Nat
  exponent : Int
  /-- Is the next smaller float only half as far away as the next larger one? -/
  narrowBelow : Bool
  deriving DecidableEq, Repr

/-- The parts of a finite float that is not zero, from its bits without the sign. -/
def Binary.ofBits (bits : Nat) : Binary :=
  let biased : Nat := bits / 0x10000000000000 % 0x800
  let fraction : Nat := bits % 0x10000000000000
  if biased = 0 then ⟨fraction, -1074, false⟩
  else ⟨0x10000000000000 + fraction, (biased : Int) - 1075, fraction == 0 && biased > 1⟩

structure Fraction where
  numerator : Nat
  denominator : Nat

def Fraction.le (left right : Fraction) : Bool :=
  left.numerator * right.denominator ≤ right.numerator * left.denominator

def Fraction.lt (left right : Fraction) : Bool :=
  left.numerator * right.denominator < right.numerator * left.denominator

/-- The fraction `n * base ^ exponent`. -/
def scaled (n base : Nat) (exponent : Int) : Fraction :=
  if exponent < 0 then ⟨n, base.pow exponent.natAbs⟩ else ⟨n * base.pow exponent.natAbs, 1⟩

namespace Binary

def value (binary : Binary) : Fraction :=
  scaled (4 * binary.significand) 2 (binary.exponent - 2)

/-- The lower end of the interval that rounds to the float. -/
def lower (binary : Binary) : Fraction :=
  let gap := if binary.narrowBelow then 1 else 2
  scaled (4 * binary.significand - gap) 2 (binary.exponent - 2)

/-- The upper end of the interval that rounds to the float. -/
def upper (binary : Binary) : Fraction :=
  scaled (4 * binary.significand + 2) 2 (binary.exponent - 2)

/-- Does a number round to the float? -/
def covers (binary : Binary) (number : Fraction) : Bool :=
  if binary.significand % 2 = 0 then binary.lower.le number && number.le binary.upper
  else binary.lower.lt number && number.lt binary.upper

end Binary

/-- The place of the first digit of a positive fraction: `10 ^ place` is at most the
fraction, and ten times as much is more. -/
def leadingPlace (number : Fraction) : Int :=
  if number.denominator ≤ number.numerator then
    (Nat.toDigits 10 (number.numerator / number.denominator)).length - 1
  else
    match (List.range 400).find? fun place =>
        number.denominator ≤ number.numerator * Nat.pow 10 place with
    | some place => -(place : Int)
    | none => 0

/-- Digits and the place of the last of them. -/
structure Digits where
  digits : Nat
  place : Int
  deriving DecidableEq, Repr

/-- The number with digits of a given last place that rounds to the float, if there is
one; the nearer one of two. -/
def onGrid? (binary : Binary) (place : Int) : Option Digits :=
  let number := binary.value
  let unit := scaled 1 10 place
  let below :=
    number.numerator * unit.denominator / (number.denominator * unit.numerator)
  let candidate (digits : Nat) : Fraction := scaled digits 10 place
  let fitsBelow := below ≠ 0 && binary.covers (candidate below)
  let fitsAbove := binary.covers (candidate (below + 1))
  let middle : Fraction :=
    ⟨(2 * below + 1) * unit.numerator, 2 * unit.denominator⟩
  if fitsBelow && fitsAbove then
    let nearBelow := number.lt middle || (number.le middle && below % 2 == 0)
    some ⟨if nearBelow then below else below + 1, place⟩
  else if fitsBelow then some ⟨below, place⟩
  else if fitsAbove then some ⟨below + 1, place⟩
  else none

/-- The fewest digits that read back; seventeen always do. -/
def ofBinary (binary : Binary) : Digits :=
  let first := leadingPlace binary.value
  match (List.range 17).findSome? fun (count : Nat) => onGrid? binary (first - count) with
  | some digits => digits
  | none => ⟨0, 0⟩

/-- A positive float as text: positional from five zeros behind the point up to
sixteen digits before it, and with an exponent otherwise. -/
def magnitudeText (digits : List Char) (place : Int) : List Char :=
  let exponent := digits.length - 1 + place
  if -5 ≤ exponent ∧ exponent ≤ 15 then
    if 0 ≤ place then digits ++ List.replicate place.toNat '0' ++ ['.', '0']
    else if 0 ≤ exponent then
      digits.take (exponent + 1).toNat ++ '.' :: digits.drop (exponent + 1).toNat
    else '0' :: '.' :: List.replicate (-1 - exponent).toNat '0' ++ digits
  else
    let mantissa := match digits with
      | first :: second :: rest => first :: '.' :: second :: rest
      | _ => digits
    let sign := if exponent < 0 then '-' else '+'
    mantissa ++ 'e' :: sign :: Nat.toDigits 10 exponent.natAbs

/-- Digits without zeros at the end, and the place of the last of them. -/
def withoutZeros (digits : List Char) (place : Int) : List Char × Int :=
  let kept := (digits.reverse.dropWhile (· == '0')).reverse
  (kept, place + (digits.length - kept.length))

def ofFloat (x : Float) : String :=
  let bits := x.toBits.toNat
  let sign := if bits ≥ 0x8000000000000000 then ['-'] else []
  let magnitude := bits % 0x8000000000000000
  if magnitude = 0 then String.ofList (sign ++ ['0', '.', '0'])
  else
    let digits := ofBinary (.ofBits magnitude)
    let (kept, place) := withoutZeros (Nat.toDigits 10 digits.digits) digits.place
    String.ofList (sign ++ magnitudeText kept place)

end ColumnFilter.Shortest
