import DsigRegistry.Digest.Word

/-!
# MD5

The 128-bit digest of RFC 1321.
-/

namespace DsigRegistry.Digest.Md5

/-- The chaining value, and the working variables of a step. -/
structure State where
  a : UInt32
  b : UInt32
  c : UInt32
  d : UInt32

namespace State

/-- The chaining value before the first block. -/
def start : State := ⟨0x67452301, 0xEFCDAB89, 0x98BADCFE, 0x10325476⟩

/-- Word by word sum. -/
def add (s t : State) : State := ⟨s.a + t.a, s.b + t.b, s.c + t.c, s.d + t.d⟩

/-- The digest that the chaining value spells. -/
def octets (s : State) : Octets :=
  [s.a, s.b, s.c, s.d].flatMap octets32LE

end State

/-- One constant for each of the 64 steps. -/
def constants : List UInt32 :=
  [0xD76AA478, 0xE8C7B756, 0x242070DB, 0xC1BDCEEE, 0xF57C0FAF, 0x4787C62A,
   0xA8304613, 0xFD469501, 0x698098D8, 0x8B44F7AF, 0xFFFF5BB1, 0x895CD7BE,
   0x6B901122, 0xFD987193, 0xA679438E, 0x49B40821, 0xF61E2562, 0xC040B340,
   0x265E5A51, 0xE9B6C7AA, 0xD62F105D, 0x02441453, 0xD8A1E681, 0xE7D3FBC8,
   0x21E1CDE6, 0xC33707D6, 0xF4D50D87, 0x455A14ED, 0xA9E3E905, 0xFCEFA3F8,
   0x676F02D9, 0x8D2A4C8A, 0xFFFA3942, 0x8771F681, 0x6D9D6122, 0xFDE5380C,
   0xA4BEEA44, 0x4BDECFA9, 0xF6BB4B60, 0xBEBFBC70, 0x289B7EC6, 0xEAA127FA,
   0xD4EF3085, 0x04881D05, 0xD9D4D039, 0xE6DB99E5, 0x1FA27CF8, 0xC4AC5665,
   0xF4292244, 0x432AFF97, 0xAB9423A7, 0xFC93A039, 0x655B59C3, 0x8F0CCC92,
   0xFFEFF47D, 0x85845DD1, 0x6FA87E4F, 0xFE2CE6E0, 0xA3014314, 0x4E0811A1,
   0xF7537E82, 0xBD3AF235, 0x2AD7D2BB, 0xEB86D391]

/-- The rotation of step `t`. -/
def shift (t : Nat) : UInt32 :=
  ([[7, 12, 17, 22], [5, 9, 14, 20], [4, 11, 16, 23], [6, 10, 15, 21]].getD (t / 16) []).getD
    (t % 4) 0

/-- The word of the block that step `t` uses. -/
def wordIndex (t : Nat) : Nat :=
  if t < 16 then t
  else if t < 32 then (5 * t + 1) % 16
  else if t < 48 then (3 * t + 5) % 16
  else 7 * t % 16

/-- The function of step `t`. -/
def mix (t : Nat) (s : State) : UInt32 :=
  if t < 16 then s.b &&& s.c ||| ~~~s.b &&& s.d
  else if t < 32 then s.d &&& s.b ||| ~~~s.d &&& s.c
  else if t < 48 then s.b ^^^ s.c ^^^ s.d
  else s.c ^^^ (s.b ||| ~~~s.d)

/-- One step over a block with its constant and number. -/
def step (block : List UInt32) (s : State) (k : UInt32 × Nat) : State :=
  let sum := s.a + mix k.2 s + k.1 + block.getD (wordIndex k.2) 0
  ⟨s.d, s.b + rotl32 sum (shift k.2), s.b, s.c⟩

/-- The chaining value after a block. -/
def compress (s : State) (block : List UInt32) : State :=
  s.add (constants.zipIdx.foldl (step block) s)

/-- The digest of the message. -/
def digest (message : Octets) : Octets :=
  ((allBlocks (words32LE (padded 64 (octets64LE (bitLength message)) message))).foldl compress
    .start).octets

/-- A digest has 16 octets. -/
theorem length_digest (message : Octets) : (digest message).length = 16 := rfl

end DsigRegistry.Digest.Md5
