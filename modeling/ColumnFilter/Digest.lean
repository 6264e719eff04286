/-!
# Fingerprints

The MD5 digest of a byte string, as thirty-two hexadecimal digits.  Parameter
names are built from it, so that one text always has one name.
-/

namespace ColumnFilter.Digest

/-- The four words that a digest works on. -/
structure State where
  a : UInt32
  b : UInt32
  c : UInt32
  d : UInt32
  deriving DecidableEq, Repr

def State.initial : State :=
  ⟨0x67452301, 0xefcdab89, 0x98badcfe, 0x10325476⟩

/-- The additive constants: the first thirty-two binary places of `|sin (i + 1)|`. -/
def constants : List UInt32 :=
  [0xd76aa478, 0xe8c7b756, 0x242070db, 0xc1bdceee, 0xf57c0faf, 0x4787c62a, 0xa8304613,
    0xfd469501, 0x698098d8, 0x8b44f7af, 0xffff5bb1, 0x895cd7be, 0x6b901122, 0xfd987193,
    0xa679438e, 0x49b40821, 0xf61e2562, 0xc040b340, 0x265e5a51, 0xe9b6c7aa, 0xd62f105d,
    0x02441453, 0xd8a1e681, 0xe7d3fbc8, 0x21e1cde6, 0xc33707d6, 0xf4d50d87, 0x455a14ed,
    0xa9e3e905, 0xfcefa3f8, 0x676f02d9, 0x8d2a4c8a, 0xfffa3942, 0x8771f681, 0x6d9d6122,
    0xfde5380c, 0xa4beea44, 0x4bdecfa9, 0xf6bb4b60, 0xbebfbc70, 0x289b7ec6, 0xeaa127fa,
    0xd4ef3085, 0x04881d05, 0xd9d4d039, 0xe6db99e5, 0x1fa27cf8, 0xc4ac5665, 0xf4292244,
    0x432aff97, 0xab9423a7, 0xfc93a039, 0x655b59c3, 0x8f0ccc92, 0xffeff47d, 0x85845dd1,
    0x6fa87e4f, 0xfe2ce6e0, 0xa3014314, 0x4e0811a1, 0xf7537e82, 0xbd3af235, 0x2ad7d2bb,
    0xeb86d391]

/-- The rotation of a step: each round repeats its own four amounts. -/
def rotation (step : Nat) : UInt32 :=
  let amounts : List UInt32 :=
    match step / 16 with
    | 0 => [7, 12, 17, 22]
    | 1 => [5, 9, 14, 20]
    | 2 => [4, 11, 16, 23]
    | _ => [6, 10, 15, 21]
  amounts.getD (step % 4) 0

/-- The round function of a step and the index of the word that it reads. -/
def mix (step : Nat) (state : State) : UInt32 × Nat :=
  let ⟨_, b, c, d⟩ := state
  match step / 16 with
  | 0 => ((b &&& c) ||| (~~~b &&& d), step)
  | 1 => ((d &&& b) ||| (~~~d &&& c), (5 * step + 1) % 16)
  | 2 => (b ^^^ c ^^^ d, (3 * step + 5) % 16)
  | _ => (c ^^^ (b ||| ~~~d), (7 * step) % 16)

/-- A word turned left by a number of bits between one and thirty-one. -/
def rotateLeft (word amount : UInt32) : UInt32 :=
  (word <<< amount) ||| (word >>> (32 - amount))

/-- One of the sixty-four steps over a block of sixteen words. -/
def advance (block : List UInt32) (state : State) (step : Nat × UInt32) : State :=
  let (mixed, word) := mix step.1 state
  let sum := mixed + state.a + step.2 + block.getD word 0
  ⟨state.d, state.b + rotateLeft sum (rotation step.1), state.b, state.c⟩

/-- All steps over one block, added to the state they started from. -/
def absorb (state : State) (block : List UInt32) : State :=
  let final := ((List.range 64).zip constants).foldl (advance block) state
  ⟨state.a + final.a, state.b + final.b, state.c + final.c, state.d + final.d⟩

/-- Bytes as words, least significant byte first. -/
def words : List UInt8 → List UInt32
  | b0 :: b1 :: b2 :: b3 :: rest =>
      (b0.toUInt32 ||| (b1.toUInt32 <<< 8) ||| (b2.toUInt32 <<< 16) ||| (b3.toUInt32 <<< 24)) ::
        words rest
  | _ => []

/-- The `count` low bytes of a number, least significant first. -/
def lowBytes : (count : Nat) → Nat → List UInt8
  | 0, _ => []
  | count + 1, n => UInt8.ofNat n :: lowBytes count (n / 256)

/-- A message closed by a one bit, zeros, and its length in bits. -/
def padded (message : List UInt8) : List UInt8 :=
  let zeros := (119 - message.length % 64) % 64
  message ++ [0x80] ++ List.replicate zeros 0 ++ lowBytes 8 (8 * message.length)

/-- The state after all blocks of sixteen words; an incomplete last block is not read. -/
def absorbAll (state : State) (message : List UInt32) : State :=
  if _ : message.length < 16 then state
  else absorbAll (absorb state (message.take 16)) (message.drop 16)
termination_by message.length
decreasing_by
  simp only [List.length_drop]
  omega

def hexByte (byte : UInt8) : List Char :=
  let digit (n : Nat) : Char := "0123456789abcdef".toList.getD n '0'
  [digit (byte.toNat / 16), digit (byte.toNat % 16)]

/-- The digest of a text, in lowercase hexadecimal. -/
def ofString (text : String) : String :=
  let ⟨a, b, c, d⟩ := absorbAll State.initial (words (padded text.toUTF8.toList))
  String.ofList <|
    [a, b, c, d].flatMap fun word => (lowBytes 4 word.toNat).flatMap hexByte

end ColumnFilter.Digest
