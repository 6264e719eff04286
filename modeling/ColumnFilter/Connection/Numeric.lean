import ColumnFilter.Decimal

/-!
# Numbers of 96 bits

Decimals with at most 28 places whose digits fit 96 bits.  They are read in two ways: a
plain numeral is rounded where there is no room for its digits, and a number with an
exponent is such a numeral whose point is moved.
-/

namespace ColumnFilter

/-- The first number that does not fit 96 bits. -/
def Numeric.limit : Nat := 0x1000000000000000000000000

/-- The number `magnitude * 10 ^ (-places)` or its negative. -/
structure Numeric where
  negative : Bool
  magnitude : Nat
  places : Nat
  magnitude_lt : magnitude < Numeric.limit
  places_le : places ≤ 28

/-- Why a text is no number of 96 bits. -/
inductive NumericError where
  | malformed
  | tooManyDigits
  | tooManyPlaces (places : Nat)
  | tooLarge
  deriving DecidableEq, Repr

namespace NumericError

def message : NumericError → String
  | .malformed => "Failed to parse"
  | .tooManyDigits => "Invalid decimal: overflow from too many digits"
  | .tooManyPlaces places =>
      "Scale exceeds the maximum precision allowed: " ++ toString places ++ " > 28"
  | .tooLarge => "Number exceeds maximum value that can be represented."

end NumericError

namespace Numeric

/-- The number of 96 bits with these parts, if there is one. -/
def ofParts? (negative : Bool) (magnitude places : Nat) : Option Numeric :=
  if fits : magnitude < limit ∧ places ≤ 28 then
    some ⟨negative, magnitude, places, fits.1, fits.2⟩
  else none

/-- `ofParts?`, where a failure is an error of the text. -/
def ofParts (negative : Bool) (magnitude places : Nat) : Except NumericError Numeric :=
  match ofParts? negative magnitude places with
  | some number => .ok number
  | none => .error .malformed

/-- Rounds at a digit for which there is no room: a half goes away from zero.  If the
digits overflow by that, one more place is given up.  Behind the digit there may only be
others. -/
def roundAt (negative : Bool) (magnitude places : Nat) (next : Char) (rest : List Char) :
    Except NumericError Numeric :=
  match Decimal.digitValue? next with
  | none => .error .malformed
  | some digit =>
      if !rest.all Char.isDigit then .error .malformed
      else if digit < 5 then ofParts negative magnitude places
      else if magnitude + 1 < limit then ofParts negative (magnitude + 1) places
      else if places = 0 then .error .tooManyDigits
      else ofParts negative ((magnitude + 5) / 10) (places - 1)

/-- Reads digits onto a number; `pointed` is set behind the point. -/
def readFrom (negative pointed : Bool) (magnitude places : Nat) :
    List Char → Except NumericError Numeric
  | [] => ofParts negative magnitude places
  | c :: rest =>
      if pointed ∧ 28 ≤ places then roundAt negative magnitude places c rest
      else if c = '.' ∧ !pointed then readFrom negative true magnitude places rest
      else
        match Decimal.digitValue? c with
        | none => .error .malformed
        | some digit =>
            let next := 10 * magnitude + digit
            if next < limit then
              readFrom negative pointed next (if pointed then places + 1 else places) rest
            else if pointed then roundAt negative magnitude places c rest
            else .error .tooManyDigits

def ofPlain? (text : List Char) : Except NumericError Numeric :=
  match text with
  | [] => .error .malformed
  | '-' :: digits => readFrom true false 0 0 digits
  | digits => readFrom false false 0 0 digits

/-- The number divided by a power of ten.  Digits for which there are no places are
rounded away. -/
def shiftDown (number : Numeric) (exponent : Nat) : Except NumericError Numeric :=
  if 28 < exponent then .error (.tooManyPlaces exponent)
  else if number.places + exponent ≤ 28 then
    ofParts number.negative number.magnitude (number.places + exponent)
  else
    let unit := Nat.pow 10 (number.places + exponent - 28)
    ofParts number.negative ((number.magnitude + unit / 2) / unit) 28

def shiftUp (number : Numeric) (exponent : Nat) : Except NumericError Numeric :=
  if exponent ≤ number.places then
    ofParts number.negative number.magnitude (number.places - exponent)
  else if 28 < exponent then .error (.tooManyPlaces exponent)
  else
    match ofParts? number.negative (number.magnitude * Nat.pow 10 exponent) number.places with
    | some product => .ok product
    | none => .error .tooLarge

/-- Reads an exponent of 32 bits. -/
def readExponent? (digits : List Char) : Option Nat :=
  if digits.isEmpty then none
  else (Decimal.readDigits? false 0 digits).filter (· < UInt32.size)

def ofScientific? (text : List Char) : Except NumericError Numeric :=
  match text.dropWhile (!Decimal.isExponentMark ·) with
  | [] => .error .malformed
  | _ :: tail =>
      match ofPlain? (text.takeWhile (!Decimal.isExponentMark ·)) with
      | .error error => .error error
      | .ok base =>
          let (down, digits) :=
            match tail with
            | '-' :: digits => (true, digits)
            | '+' :: digits => (false, digits)
            | digits => (false, digits)
          match readExponent? digits with
          | none => .error .malformed
          | some exponent => if down then base.shiftDown exponent else base.shiftUp exponent

/-- The written form, with all places. -/
def toText (number : Numeric) : String :=
  let text := Decimal.pointed (Decimal.natDigits number.magnitude) number.places
  String.ofList (if number.negative && number.magnitude != 0 then '-' :: text else text)

end Numeric

/-- The two ways of reading a number of 96 bits. -/
structure NumericReader where
  plain? : List Char → Except NumericError Numeric
  scientific? : List Char → Except NumericError Numeric

namespace NumericReader

def standard : NumericReader := ⟨Numeric.ofPlain?, Numeric.ofScientific?⟩

/-- Reads a number in either way.  If both fail, the second failure counts. -/
def read? (reader : NumericReader) (text : String) : Except NumericError Numeric :=
  match reader.plain? text.toList with
  | .ok number => .ok number
  | .error _ => reader.scientific? text.toList

end NumericReader

end ColumnFilter
