import DsigRegistry.Digest.Word

/-!
# RIPEMD-160

The 160-bit digest with two parallel lines of eighty steps.
-/

namespace DsigRegistry.Digest.Ripemd160

/-- The chaining value, and the working variables of a step. -/
structure State where
  a : UInt32
  b : UInt32
  c : UInt32
  d : UInt32
  e : UInt32

namespace State

/-- The chaining value before the first block. -/
def start : State := ⟨0x67452301, 0xEFCDAB89, 0x98BADCFE, 0x10325476, 0xC3D2E1F0⟩

/-- The digest that the chaining value spells. -/
def octets (s : State) : Octets :=
  [s.a, s.b, s.c, s.d, s.e].flatMap octets32LE

end State

/-- One of the two lines: for each of its eighty steps the word of the block and the rotation,
and for each sixteen steps the function and the constant. -/
structure Line where
  wordIndices : List Nat
  shifts : List UInt32
  mixes : List Nat
  constants : List UInt32

/-- The left line. -/
def left : Line where
  wordIndices :=
  [0, 1, 2, 3, 4, 5, 6, 7, 8, 9, 10, 11, 12, 13, 14, 15,
   7, 4, 13, 1, 10, 6, 15, 3, 12, 0, 9, 5, 2, 14, 11, 8,
   3, 10, 14, 4, 9, 15, 8, 1, 2, 7, 0, 6, 13, 11, 5, 12,
   1, 9, 11, 10, 0, 8, 12, 4, 13, 3, 7, 15, 14, 5, 6, 2,
   4, 0, 5, 9, 7, 12, 2, 10, 14, 1, 3, 8, 11, 6, 15, 13]
  shifts :=
  [11, 14, 15, 12, 5, 8, 7, 9, 11, 13, 14, 15, 6, 7, 9, 8,
   7, 6, 8, 13, 11, 9, 7, 15, 7, 12, 15, 9, 11, 7, 13, 12,
   11, 13, 6, 7, 14, 9, 13, 15, 14, 8, 13, 6, 5, 12, 7, 5,
   11, 12, 14, 15, 14, 15, 9, 8, 9, 14, 5, 6, 8, 6, 5, 12,
   9, 15, 5, 11, 6, 8, 13, 12, 5, 12, 13, 14, 11, 8, 5, 6]
  mixes := [0, 1, 2, 3, 4]
  constants := [0x00000000, 0x5A827999, 0x6ED9EBA1, 0x8F1BBCDC, 0xA953FD4E]

/-- The right line. -/
def right : Line where
  wordIndices :=
  [5, 14, 7, 0, 9, 2, 11, 4, 13, 6, 15, 8, 1, 10, 3, 12,
   6, 11, 3, 7, 0, 13, 5, 10, 14, 15, 8, 12, 4, 9, 1, 2,
   15, 5, 1, 3, 7, 14, 6, 9, 11, 8, 12, 2, 10, 0, 4, 13,
   8, 6, 4, 1, 3, 11, 15, 0, 5, 12, 2, 13, 9, 7, 10, 14,
   12, 15, 10, 4, 1, 5, 8, 7, 6, 2, 13, 14, 0, 3, 9, 11]
  shifts :=
  [8, 9, 9, 11, 13, 15, 15, 5, 7, 7, 8, 11, 14, 14, 12, 6,
   9, 13, 15, 7, 12, 8, 9, 11, 7, 7, 12, 7, 6, 15, 13, 11,
   9, 7, 15, 11, 8, 6, 6, 14, 12, 13, 5, 14, 13, 13, 7, 5,
   15, 5, 8, 11, 14, 14, 6, 14, 6, 9, 12, 9, 12, 5, 15, 8,
   8, 5, 12, 9, 12, 5, 14, 6, 8, 13, 6, 5, 15, 13, 11, 11]
  mixes := [4, 3, 2, 1, 0]
  constants := [0x50A28BE6, 0x5C4DD124, 0x6D703EF3, 0x7A6D76E9, 0x00000000]

/-- The five functions of the steps. -/
def mix (i : Nat) (x y z : UInt32) : UInt32 :=
  match i with
  | 0 => x ^^^ y ^^^ z
  | 1 => x &&& y ||| ~~~x &&& z
  | 2 => (x ||| ~~~y) ^^^ z
  | 3 => x &&& z ||| y &&& ~~~z
  | _ => x ^^^ (y ||| ~~~z)

/-- Step `t` of a line over a block. -/
def step (line : Line) (block : List UInt32) (s : State) (t : Nat) : State :=
  let sum := s.a + mix (line.mixes.getD (t / 16) 0) s.b s.c s.d
    + block.getD (line.wordIndices.getD t 0) 0 + line.constants.getD (t / 16) 0
  ⟨s.e, rotl32 sum (line.shifts.getD t 0) + s.e, s.b, rotl32 s.c 10, s.d⟩

/-- The chaining value after a block: both lines start from the old one and are added to it
crosswise. -/
def compress (s : State) (block : List UInt32) : State :=
  let l := (List.range 80).foldl (step left block) s
  let r := (List.range 80).foldl (step right block) s
  ⟨s.b + l.c + r.d, s.c + l.d + r.e, s.d + l.e + r.a, s.e + l.a + r.b, s.a + l.b + r.c⟩

/-- The digest of the message. -/
def digest (message : Octets) : Octets :=
  ((allBlocks (words32LE (padded 64 (octets64LE (bitLength message)) message))).foldl compress
    .start).octets

/-- A digest has 20 octets. -/
theorem length_digest (message : Octets) : (digest message).length = 20 := rfl

end DsigRegistry.Digest.Ripemd160
