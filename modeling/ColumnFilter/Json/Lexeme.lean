import ColumnFilter.Json.Basic
import ColumnFilter.Text.Scan

/-!
# Lexemes of JSON

A text is cut into lexemes up to the first place that no lexeme fits.  What goes
wrong there is part of the last lexeme, so that a reader who has to refuse the
text earlier can still do so.
-/

namespace ColumnFilter.Json

open Text (Scan)

/-- Why a text is no JSON: it is wrong somewhere, or it ends too early. -/
inductive Fault where
  | malformed
  | truncated
  deriving DecidableEq, Repr

/-- A part of a string: a character, or a code unit written in hexadecimal. -/
inductive StringPart where
  | char (c : Char)
  | unit (code : Nat)
  deriving DecidableEq, Repr

/-- A number as it is written. -/
structure Numeral where
  negative : Bool
  whole : List Nat
  /-- The digits behind the point, if there is one. -/
  fraction : Option (List Nat)
  /-- The exponent, if there is one: is it negative, and its digits. -/
  exponent : Option (Bool × List Nat)
  deriving DecidableEq, Repr

/-- A word of the grammar. -/
inductive Lexeme where
  | openBrace
  | closeBrace
  | openBracket
  | closeBracket
  | comma
  | colon
  | null
  | bool (value : Bool)
  /-- A string; a fault stands in place of the closing quote. -/
  | string (parts : List StringPart) (fault : Option Fault)
  /-- A number; a fault stands in place of a digit that has to follow. -/
  | number (numeral : Numeral) (fault : Option Fault)
  /-- Letters that are the start of a word, but not all of it. -/
  | brokenWord (fault : Fault)
  /-- A character that no lexeme starts with. -/
  | stray
  deriving DecidableEq, Repr

def digit? (c : Char) : Option Nat :=
  if '0' ≤ c ∧ c ≤ '9' then some (c.toNat - '0'.toNat) else none

def hexDigit? (c : Char) : Option Nat :=
  if '0' ≤ c ∧ c ≤ '9' then some (c.toNat - '0'.toNat)
  else if 'a' ≤ c ∧ c ≤ 'f' then some (c.toNat - 'a'.toNat + 10)
  else if 'A' ≤ c ∧ c ≤ 'F' then some (c.toNat - 'A'.toNat + 10)
  else none

/-- The code unit of four hexadecimal digits. -/
def codeUnit? (a b c d : Char) : Option Nat :=
  match hexDigit? a, hexDigit? b, hexDigit? c, hexDigit? d with
  | some a, some b, some c, some d => some (((a * 16 + b) * 16 + c) * 16 + d)
  | _, _, _, _ => none

/-- The character that a letter after a backslash stands for. -/
def escaped? : Char → Option Char
  | '"' => some '"'
  | '\\' => some '\\'
  | '/' => some '/'
  | 'b' => some '\x08'
  | 'f' => some '\x0c'
  | 'n' => some '\n'
  | 'r' => some '\r'
  | 't' => some '\t'
  | _ => none

/-- The bytes that a text takes. -/
def byteCount (text : List Char) : Nat := text.foldl (fun count c => count + c.utf8Size) 0

/-- What is scanned of a string: its parts, and the fault that ends it. -/
abbrev StringScan (input : List Char) := Scan (List StringPart × Option Fault) input

/-- Puts a part in front of what is scanned of a longer text's rest. -/
def StringScan.cons {input longer : List Char} (part : StringPart) (scan : StringScan input)
    (shorter : input.length ≤ longer.length) : StringScan longer :=
  ⟨(part :: scan.value.1, scan.value.2), scan.rest, Nat.le_trans scan.bounded shorter⟩

/-- A string that ends here. -/
def StringScan.stop {input : List Char} (fault : Fault) : StringScan input :=
  ⟨([], some fault), [], Nat.zero_le _⟩

/-- The rest of a string behind its opening quote. -/
def scanString : (input : List Char) → StringScan input
  | [] => .stop .truncated
  | c :: rest =>
      if c = '"' then ⟨([], none), rest, by simp⟩
      else if c.toNat < 0x20 then .stop .malformed
      else if c = '\\' then
        match rest with
        | [] => .stop .truncated
        | letter :: after =>
            if letter = 'u' then
              match after with
              | h1 :: h2 :: h3 :: h4 :: more =>
                  match codeUnit? h1 h2 h3 h4 with
                  | some code =>
                      (scanString more).cons (.unit code) (by simp only [List.length_cons]; omega)
                  | none => .stop .malformed
              | short => if byteCount short < 4 then .stop .truncated else .stop .malformed
            else
              match escaped? letter with
              | some c => (scanString after).cons (.char c) (by simp only [List.length_cons]; omega)
              | none => .stop .malformed
      else (scanString rest).cons (.char c) (by simp)

def scanDigits : (input : List Char) → Scan (List Nat) input
  | [] => ⟨[], [], Nat.le_refl _⟩
  | c :: rest =>
      match digit? c with
      | some digit =>
          let scan := scanDigits rest
          ⟨digit :: scan.value, scan.rest,
            Nat.le_trans scan.bounded (by simp)⟩
      | none => ⟨[], c :: rest, Nat.le_refl _⟩

/-- The fault of a digit that is not there. -/
def missingDigit (rest : List Char) : Fault :=
  if rest.isEmpty then .truncated else .malformed

/-- Is there a minus sign in front of an exponent? -/
def scanSign (input : List Char) : Scan Bool input :=
  match input with
  | '-' :: _ => .first true
  | '+' :: _ => .first false
  | other => .stay false other

/-- The exponent of a number, if there is one. -/
def scanExponent (input : List Char) :
    Scan (Option (Bool × List Nat) × Option Fault) input :=
  match input with
  | [] => .stay (none, none) []
  | c :: rest =>
      if c = 'e' ∨ c = 'E' then
        let sign := scanSign rest
        let digits := ((scanDigits sign.rest).behind sign.bounded).past
        digits.map fun exponent =>
          if exponent.isEmpty then (none, some (missingDigit digits.rest))
          else (some (sign.value, exponent), none)
      else .stay (none, none) (c :: rest)

/-- The fraction and the exponent of a number, as far as they are there. -/
def scanTail (negative : Bool) (whole : List Nat) (input : List Char) :
    Scan (Numeral × Option Fault) input :=
  match input with
  | '.' :: rest =>
      let digits := scanDigits rest
      have shorter := digits.bounded
      if digits.value.isEmpty then
        ⟨(⟨negative, whole, none, none⟩, some (missingDigit digits.rest)), digits.rest, by
          simp only [List.length_cons]
          omega⟩
      else
        let exponent := scanExponent digits.rest
        have bounded := exponent.bounded
        ⟨(⟨negative, whole, some digits.value, exponent.value.1⟩, exponent.value.2),
          exponent.rest, by
            simp only [List.length_cons]
            omega⟩
  | other =>
      let exponent := scanExponent other
      ⟨(⟨negative, whole, none, exponent.value.1⟩, exponent.value.2), exponent.rest,
        exponent.bounded⟩

/-- A number behind its sign.  A leading zero is the whole of the digits before the
point. -/
def scanNumber (negative : Bool) (input : List Char) : Scan (Numeral × Option Fault) input :=
  let digits := scanDigits input
  let numeral : Numeral := ⟨negative, digits.value, none, none⟩
  match digits.value with
  | [] => ⟨(numeral, some (missingDigit input)), digits.rest, digits.bounded⟩
  | 0 :: _ :: _ => ⟨(numeral, some .malformed), digits.rest, digits.bounded⟩
  | whole =>
      let tail := scanTail negative whole digits.rest
      ⟨tail.value, tail.rest, Nat.le_trans tail.bounded digits.bounded⟩

/-- Does the text start with the letters?  A text that ends among them is cut short. -/
def scanWord (letters : List Char) (input : List Char) : Scan (Option Fault) input :=
  match letters, input with
  | [], rest => ⟨none, rest, Nat.le_refl _⟩
  | _ :: _, [] => ⟨some .truncated, [], Nat.le_refl _⟩
  | letter :: letters, c :: rest =>
      if c = letter then
        let scan := scanWord letters rest
        ⟨scan.value, scan.rest, Nat.le_trans scan.bounded (by simp)⟩
      else ⟨some .malformed, [], Nat.zero_le _⟩

/-- White space between lexemes. -/
def isBlank (c : Char) : Bool := c == ' ' || c == '\n' || c == '\t' || c == '\r'

/-- The marks that stand for themselves. -/
def mark? : Char → Option Lexeme
  | '\x7b' => some .openBrace
  | '\x7d' => some .closeBrace
  | '[' => some .openBracket
  | ']' => some .closeBracket
  | ',' => some .comma
  | ':' => some .colon
  | _ => none

/-- The words of the grammar: the letters behind their first one. -/
def word? : Char → Option (Lexeme × List Char)
  | 'n' => some (.null, ['u', 'l', 'l'])
  | 't' => some (.bool true, ['r', 'u', 'e'])
  | 'f' => some (.bool false, ['a', 'l', 's', 'e'])
  | _ => none

/-- The lexemes of a text, up to the first fault. -/
def lexemes : List Char → List Lexeme
  | [] => []
  | c :: rest =>
      if isBlank c then lexemes rest
      else
        match mark? c with
        | some mark => mark :: lexemes rest
        | none =>
            match word? c with
            | some (word, letters) =>
                have := (scanWord letters rest).bounded
                let scan := scanWord letters rest
                match scan.value with
                | none => word :: lexemes scan.rest
                | some fault => [.brokenWord fault]
            | none =>
                if c = '"' then
                  have := (scanString rest).bounded
                  let scan := scanString rest
                  match scan.value with
                  | (parts, none) => .string parts none :: lexemes scan.rest
                  | (parts, some fault) => [.string parts (some fault)]
                else if c = '-' ∨ (digit? c).isSome then
                  let scan : Scan (Numeral × Option Fault) (c :: rest) :=
                    if c = '-' then
                      let tail := scanNumber true rest
                      ⟨tail.value, tail.rest, Nat.le_succ_of_le tail.bounded⟩
                    else scanNumber false (c :: rest)
                  match scan.value with
                  | (numeral, none) =>
                      if scan.rest.length < (c :: rest).length then
                        .number numeral none :: lexemes scan.rest
                      else [.stray]
                  | (numeral, some fault) => [.number numeral (some fault)]
                else [.stray]
termination_by input => input.length
decreasing_by
  all_goals simp only [List.length_cons] at *
  all_goals omega

end ColumnFilter.Json
