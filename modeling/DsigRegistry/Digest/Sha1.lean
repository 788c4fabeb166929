import DsigRegistry.Digest.Word

/-!
# SHA-1

The 160-bit digest of FIPS 180-4.
-/

namespace DsigRegistry.Digest.Sha1

/-- The chaining value, and the working variables of a round. -/
structure State where
  a : UInt32
  b : UInt32
  c : UInt32
  d : UInt32
  e : UInt32

namespace State

/-- The chaining value before the first block. -/
def start : State := ⟨0x67452301, 0xEFCDAB89, 0x98BADCFE, 0x10325476, 0xC3D2E1F0⟩

/-- Word by word sum. -/
def add (s t : State) : State := ⟨s.a + t.a, s.b + t.b, s.c + t.c, s.d + t.d, s.e + t.e⟩

/-- The digest that the chaining value spells. -/
def octets (s : State) : Octets :=
  [s.a, s.b, s.c, s.d, s.e].flatMap octets32BE

end State

/-- Prepend `n` further words to a message schedule whose latest word comes first. -/
def extend : Nat → List UInt32 → List UInt32
  | 0, ws => ws
  | n + 1, ws =>
    extend n (rotl32 (ws.getD 2 0 ^^^ ws.getD 7 0 ^^^ ws.getD 13 0 ^^^ ws.getD 15 0) 1 :: ws)

/-- The eighty words of the message schedule of a block. -/
def schedule (block : List UInt32) : List UInt32 :=
  (extend 64 block.reverse).reverse

/-- The function and the constant of round `t`. -/
def mix (t : Nat) (s : State) : UInt32 :=
  if t < 20 then (s.b &&& s.c ||| ~~~s.b &&& s.d) + 0x5A827999
  else if t < 40 then (s.b ^^^ s.c ^^^ s.d) + 0x6ED9EBA1
  else if t < 60 then (s.b &&& s.c ||| s.b &&& s.d ||| s.c &&& s.d) + 0x8F1BBCDC
  else (s.b ^^^ s.c ^^^ s.d) + 0xCA62C1D6

/-- One round with its number and schedule word. -/
def round (s : State) (w : UInt32 × Nat) : State :=
  ⟨rotl32 s.a 5 + mix w.2 s + s.e + w.1, s.a, rotl32 s.b 30, s.c, s.d⟩

/-- The chaining value after a block. -/
def compress (s : State) (block : List UInt32) : State :=
  s.add ((schedule block).zipIdx.foldl round s)

/-- The digest of the message. -/
def digest (message : Octets) : Octets :=
  ((allBlocks (words32BE (padded 64 (octets64BE (bitLength message)) message))).foldl compress
    .start).octets

/-- A digest has 20 octets. -/
theorem length_digest (message : Octets) : (digest message).length = 20 := rfl

end DsigRegistry.Digest.Sha1
