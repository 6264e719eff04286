import ColumnFilter.Json.Number
import ColumnFilter.Json.Problem

/-!
# Reading JSON in text order

Readers take what they need from the front of a list of lexemes, and stop at the
first problem.  Since they know what they expect, a value of the wrong shape is
noticed where it starts, before anything that may be wrong behind it.
-/

namespace ColumnFilter.Json

/-- A value read from the front of a list of lexemes. -/
structure Reading (α : Type) (input : List Lexeme) where
  value : α
  rest : List Lexeme
  shorter : rest.length < input.length

/-- What reads a value. -/
abbrev Reader (α : Type) := (input : List Lexeme) → Except Problem (Reading α input)

def truncated {α : Type} : Except Problem α := .error (.fault .truncated)

def malformed {α : Type} : Except Problem α := .error (.fault .malformed)

namespace Reading

def map {α β : Type} {input : List Lexeme} (f : α → β) (reading : Reading α input) :
    Reading β input :=
  ⟨f reading.value, reading.rest, reading.shorter⟩

/-- A reading of the rest is a reading of the whole. -/
def behind {α : Type} {rest input : List Lexeme} (reading : Reading α rest)
    (tail : rest.length ≤ input.length) : Reading α input :=
  ⟨reading.value, reading.rest, Nat.lt_of_lt_of_le reading.shorter tail⟩

end Reading

namespace Reader

def map {α β : Type} (f : α → β) (reader : Reader α) : Reader β :=
  fun input => (reader input).map (Reading.map f)

end Reader

/-- How deep values may be nested: one level less than this. -/
def depthLimit : Nat := 128

/-- The text of a string.  Code units of a surrogate pair stand for one character, and
a unit of a pair without the other is an error. -/
def decodeString (fault : Option Fault) : List StringPart → Except Problem (List Char)
  | [] =>
      match fault with
      | none => .ok []
      | some fault => .error (.fault fault)
  | .char c :: rest => (decodeString fault rest).map (c :: ·)
  | .unit code :: rest =>
      if 0xDC00 ≤ code ∧ code ≤ 0xDFFF then malformed
      else if 0xD800 ≤ code ∧ code ≤ 0xDBFF then
        match rest with
        | .unit low :: rest =>
            if 0xDC00 ≤ low ∧ low ≤ 0xDFFF then
              let c := Char.ofNat (0x10000 + (code - 0xD800) * 0x400 + (low - 0xDC00))
              (decodeString fault rest).map (c :: ·)
            else malformed
        | .char _ :: _ => malformed
        | [] => .error (.fault (fault.getD .malformed))
      else (decodeString fault rest).map (Char.ofNat code :: ·)

def stringValue (parts : List StringPart) (fault : Option Fault) : Except Problem String :=
  (decodeString fault parts).map String.ofList

def numberValue (numeral : Numeral) (fault : Option Fault) : Except Problem Json :=
  match fault with
  | some fault => .error (.fault fault)
  | none =>
      match numeral.toJson? with
      | some value => .ok value
      | none => malformed

/-- What a value is called where another shape was expected. -/
def found : Json → Found
  | .null => .null
  | .bool value => .bool value
  | .natural n => .integer n.toNat
  | .negative n => .integer n.toInt
  | .float x => .float x
  | .string text => .string text
  | .array _ => .sequence
  | .object _ => .map

/-- The problem with a lexeme where a value of another shape was expected. -/
def mismatch {α : Type} (lexeme : Lexeme) (expected : String) : Except Problem α :=
  let wrong (found : Found) : Except Problem α :=
    .error (.shape (.wrongType found expected))
  match lexeme with
  | .null => wrong .null
  | .bool value => wrong (.bool value)
  | .string parts fault =>
      match stringValue parts fault with
      | .ok text => wrong (.string text)
      | .error problem => .error problem
  | .number numeral fault =>
      match numberValue numeral fault with
      | .ok value => wrong value.found
      | .error problem => .error problem
  | .openBracket => wrong .sequence
  | .openBrace => wrong .map
  | .brokenWord fault => .error (.fault fault)
  | .closeBracket | .closeBrace | .comma | .colon | .stray => malformed

def readString : Reader String
  | [] => truncated
  | .string parts fault :: rest =>
      (stringValue parts fault).map fun text => ⟨text, rest, by simp⟩
  | lexeme :: _ => mismatch lexeme "a string"

def readBool : Reader Bool
  | [] => truncated
  | .bool value :: rest => .ok ⟨value, rest, by simp⟩
  | lexeme :: _ => mismatch lexeme "a boolean"

/-- Reads a whole number of 64 bits with a sign. -/
def readInt : Reader Int64
  | [] => truncated
  | .number numeral fault :: rest =>
      match numberValue numeral fault with
      | .error problem => .error problem
      | .ok (.natural n) =>
          if n < 0x8000000000000000 then .ok ⟨n.toInt64, rest, by simp⟩
          else .error (.shape (.wrongValue (.integer n.toNat) "i64"))
      | .ok (.negative n) => .ok ⟨n, rest, by simp⟩
      | .ok value => .error (.shape (.wrongType value.found "i64"))
  | lexeme :: _ => mismatch lexeme "i64"

def readOptional {α : Type} (reader : Reader α) : Reader (Option α)
  | .null :: rest => .ok ⟨none, rest, by simp⟩
  | input => reader.map some input

/-- What is around the place that skipping has come to. -/
inductive Frame where
  | array
  | object
  deriving DecidableEq, Repr

/-- What may come next while skipping. -/
inductive Awaited where
  /-- The first item or key, or the end. -/
  | first
  /-- A comma or the end. -/
  | comma
  | item
  | key
  | colon
  deriving DecidableEq, Repr

/-- A rest no longer than the input. -/
abbrev Rest (input : List Lexeme) := { rest : List Lexeme // rest.length ≤ input.length }

/-- A lexeme that is a whole value, with whatever may be wrong with it.  Skipped
numbers are malformed however they break off. -/
def scalar? : Lexeme → Option (Option Fault)
  | .null => some none
  | .bool _ => some none
  | .string _ fault => some fault
  | .number _ fault => some (fault.map fun _ => .malformed)
  | .brokenWord fault => some (some fault)
  | _ => none

/-- Skips to the end of the outermost of the open frames. -/
def skipOpen (frame : Frame) (outer : List Frame) (awaited : Awaited) :
    (input : List Lexeme) → Except Problem (Rest input)
  | [] => truncated
  | lexeme :: rest =>
      let wide (result : Except Problem (Rest rest)) : Except Problem (Rest (lexeme :: rest)) :=
        result.map fun tail => ⟨tail.1, Nat.le_succ_of_le tail.2⟩
      let close : Except Problem (Rest (lexeme :: rest)) :=
        match outer with
        | [] => .ok ⟨rest, by simp⟩
        | next :: others => wide (skipOpen next others .comma rest)
      let item : Except Problem (Rest (lexeme :: rest)) :=
        match scalar? lexeme with
        | some none => wide (skipOpen frame outer .comma rest)
        | some (some fault) => .error (.fault fault)
        | none =>
            match lexeme with
            | .openBracket => wide (skipOpen .array (frame :: outer) .first rest)
            | .openBrace => wide (skipOpen .object (frame :: outer) .first rest)
            | _ => malformed
      let key : Except Problem (Rest (lexeme :: rest)) :=
        match lexeme with
        | .string _ none => wide (skipOpen frame outer .colon rest)
        | .string _ (some fault) => .error (.fault fault)
        | _ => malformed
      match awaited, frame, lexeme with
      | .first, .array, .closeBracket => close
      | .first, .object, .closeBrace => close
      | .first, .array, _ => item
      | .first, .object, _ => key
      | .comma, .array, .closeBracket => close
      | .comma, .object, .closeBrace => close
      | .comma, .array, .comma => wide (skipOpen frame outer .item rest)
      | .comma, .object, .comma => wide (skipOpen frame outer .key rest)
      | .comma, _, _ => malformed
      | .item, _, _ => item
      | .key, _, _ => key
      | .colon, _, .colon => wide (skipOpen frame outer .item rest)
      | .colon, _, _ => malformed

/-- Skips a value of any shape and any depth. -/
def skipValue : Reader Unit
  | [] => truncated
  | .openBracket :: rest =>
      (skipOpen .array [] .first rest).map fun tail => ⟨(), tail.1, Nat.lt_succ_of_le tail.2⟩
  | .openBrace :: rest =>
      (skipOpen .object [] .first rest).map fun tail => ⟨(), tail.1, Nat.lt_succ_of_le tail.2⟩
  | lexeme :: rest =>
      match scalar? lexeme with
      | some none => .ok ⟨(), rest, by simp⟩
      | some (some fault) => .error (.fault fault)
      | none => malformed

/-- Reads a key, its colon and its value.  The key decides how the value is read, and
may be refused before its colon is. -/
def readField {σ : Type} (step : σ → String → Except Problem (Reader σ)) (state : σ) : Reader σ
  | [] => truncated
  | .string parts fault :: rest =>
      match stringValue parts fault with
      | .error problem => .error problem
      | .ok key =>
          match step state key with
          | .error problem => .error problem
          | .ok reader =>
              match rest with
              | [] => truncated
              | .colon :: rest =>
                  (reader rest).map fun reading => reading.behind (by simp; omega)
              | _ => malformed
  | _ => malformed

/-- Reads the fields of an object behind its opening brace. -/
def readFields {σ : Type} (step : σ → String → Except Problem (Reader σ)) (first : Bool)
    (state : σ) (input : List Lexeme) : Except Problem (Reading σ input) :=
  match input with
  | [] => truncated
  | .closeBrace :: rest => .ok ⟨state, rest, by simp⟩
  | lexeme :: rest =>
      let field : Except Problem (Reading σ (lexeme :: rest)) :=
        if first then readField step state (lexeme :: rest)
        else
          match lexeme with
          | .comma =>
              (readField step state rest).map fun reading => reading.behind (by simp)
          | _ => malformed
      match field with
      | .error problem => .error problem
      | .ok reading =>
          have shorter := reading.shorter
          (readFields step false reading.value reading.rest).map fun tail =>
            tail.behind (Nat.le_of_lt shorter)
termination_by input.length
decreasing_by exact shorter

/-- Reads the items of an array behind its opening bracket. -/
def readItems {α : Type} (reader : Reader α) (first : Bool) (input : List Lexeme) :
    Except Problem (Reading (List α) input) :=
  match input with
  | [] => truncated
  | .closeBracket :: rest => .ok ⟨[], rest, by simp⟩
  | lexeme :: rest =>
      let item : Except Problem (Reading α (lexeme :: rest)) :=
        if first then reader (lexeme :: rest)
        else
          match lexeme with
          | .comma => (reader rest).map fun reading => reading.behind (by simp)
          | _ => malformed
      match item with
      | .error problem => .error problem
      | .ok reading =>
          have shorter := reading.shorter
          (readItems reader false reading.rest).map fun tail =>
            (tail.map (reading.value :: ·)).behind (Nat.le_of_lt shorter)
termination_by input.length
decreasing_by exact shorter

/-- Reads an object with the given reader for its values; `put` adds an entry. -/
def readMap {α : Type} (put : List (String × α) → String → α → List (String × α))
    (depth : Nat) (reader : Nat → Reader α) : Reader (List (String × α))
  | [] => truncated
  | .openBrace :: rest =>
      if depth ≤ 1 then malformed
      else
        let step (entries : List (String × α)) (key : String) :
            Except Problem (Reader (List (String × α))) :=
          .ok ((reader (depth - 1)).map (put entries key))
        (readFields step true [] rest).map fun reading => reading.behind (by simp)
  | lexeme :: _ => mismatch lexeme "a map"

/-- Reads a value of any shape; the keys of its objects are sorted. -/
def readValue : (depth : Nat) → Reader Json
  | 0, _ => malformed
  | _ + 1, [] => truncated
  | _ + 1, .null :: rest => .ok ⟨.null, rest, by simp⟩
  | _ + 1, .bool value :: rest => .ok ⟨.bool value, rest, by simp⟩
  | _ + 1, .string parts fault :: rest =>
      (stringValue parts fault).map fun text => ⟨.string text, rest, by simp⟩
  | _ + 1, .number numeral fault :: rest =>
      (numberValue numeral fault).map fun value => ⟨value, rest, by simp⟩
  | depth + 1, .openBracket :: rest =>
      if depth = 0 then malformed
      else
        (readItems (readValue depth) true rest).map fun reading =>
          (reading.map Json.array).behind (by simp)
  | depth + 1, .openBrace :: rest =>
      if depth = 0 then malformed
      else
        let step (entries : List (String × Json)) (key : String) :
            Except Problem (Reader (List (String × Json))) :=
          .ok ((readValue depth).map (assignSorted entries key))
        (readFields step true [] rest).map fun reading =>
          (reading.map Json.object).behind (by simp)
  | _ + 1, .brokenWord fault :: _ => .error (.fault fault)
  | _ + 1, _ :: _ => malformed

/-- A field of a record, and how its value changes the record. -/
structure Field (σ : Type) where
  name : String
  /-- Has the field to be there? -/
  required : Bool
  read : (depth : Nat) → σ → Reader σ

/-- The fields of a record, in the order in which they are declared. -/
structure Schema (σ : Type) where
  name : String
  fields : List (Field σ)

namespace Schema

/-- The words for the record where something else was found. -/
def expected {σ : Type} (schema : Schema σ) : String := "struct " ++ schema.name

/-- How a key of an object changes the record, and which keys were seen.  A key that
is no field is skipped, and a field may come only once. -/
def step {σ : Type} (schema : Schema σ) (depth : Nat) (state : σ × List String) (key : String) :
    Except Problem (Reader (σ × List String)) :=
  match schema.fields.find? fun field => field.name == key with
  | none => .ok (skipValue.map fun _ => state)
  | some field =>
      if state.2.contains key then .error (.shape (.duplicateField key))
      else .ok ((field.read depth state.1).map fun record => (record, key :: state.2))

/-- Reads the values of the fields as a list, behind its opening bracket.  The list may
stop early, unless a field that has to be there is left. -/
def readPositions {σ : Type} (schema : Schema σ) (depth : Nat) :
    (fields : List (Field σ)) → (position : Nat) → σ → Reader σ
  | [], _, record, input =>
      match input with
      | [] => truncated
      | .closeBracket :: rest => .ok ⟨record, rest, by simp⟩
      | _ => malformed
  | field :: fields, position, record, input =>
      match input with
      | [] => truncated
      | .closeBracket :: rest =>
          if field.required then
            .error (.shape (.tooShort position
              (schema.expected ++ " with " ++ toString schema.fields.length ++ " elements")))
          else schema.readPositions depth fields (position + 1) record (.closeBracket :: rest)
      | lexeme :: rest =>
          let item : Except Problem (Reading σ (lexeme :: rest)) :=
            if position = 0 then field.read depth record (lexeme :: rest)
            else
              match lexeme, rest with
              | .comma, .closeBracket :: _ => malformed
              | .comma, rest =>
                  (field.read depth record rest).map fun reading => reading.behind (by simp)
              | _, _ => malformed
          match item with
          | .error problem => .error problem
          | .ok reading =>
              (schema.readPositions depth fields (position + 1) reading.value reading.rest).map
                fun tail => tail.behind (Nat.le_of_lt reading.shorter)

/-- Reads a record from an object or from a list. -/
def read {σ : Type} (schema : Schema σ) (depth : Nat) (record : σ) : Reader σ
  | [] => truncated
  | .openBracket :: rest =>
      if depth ≤ 1 then malformed
      else
        (schema.readPositions (depth - 1) schema.fields 0 record rest).map fun reading =>
          reading.behind (by simp)
  | .openBrace :: rest =>
      if depth ≤ 1 then malformed
      else
        match readFields (schema.step (depth - 1)) true (record, []) rest with
        | .error problem => .error problem
        | .ok reading =>
            match schema.fields.find? fun field =>
                field.required && !reading.value.2.contains field.name with
            | some field => .error (.shape (.missingField field.name))
            | none => .ok ((reading.map Prod.fst).behind (by simp))
  | lexeme :: _ => mismatch lexeme schema.expected

end Schema

def readText {α : Type} (reader : Reader α) (text : String) : Except Problem α :=
  match reader (lexemes text.toList) with
  | .error problem => .error problem
  | .ok reading => if reading.rest.isEmpty then .ok reading.value else malformed

end ColumnFilter.Json
