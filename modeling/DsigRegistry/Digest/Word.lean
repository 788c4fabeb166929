import DsigRegistry.Text.Utf8

/-!
# Words and blocks

What the digests of this library have in common: octets are padded with a one bit, zeros and the
length, read as words, and taken in blocks of sixteen words.
-/

namespace DsigRegistry.Digest

/-! ### Octets as words -/

/-- The 32-bit words that the octets spell, the most significant octet first. -/
def words32BE : Octets → List UInt32
  | a :: b :: c :: d :: rest =>
    (a.toUInt32 <<< 24 ||| b.toUInt32 <<< 16 ||| c.toUInt32 <<< 8 ||| d.toUInt32) ::
      words32BE rest
  | _ => []

/-- The 32-bit words that the octets spell, the least significant octet first. -/
def words32LE : Octets → List UInt32
  | a :: b :: c :: d :: rest =>
    (d.toUInt32 <<< 24 ||| c.toUInt32 <<< 16 ||| b.toUInt32 <<< 8 ||| a.toUInt32) ::
      words32LE rest
  | _ => []

/-- The 64-bit words that the octets spell, the most significant octet first. -/
def words64BE : Octets → List UInt64
  | a :: b :: c :: d :: e :: f :: g :: h :: rest =>
    (a.toUInt64 <<< 56 ||| b.toUInt64 <<< 48 ||| c.toUInt64 <<< 40 ||| d.toUInt64 <<< 32 |||
      e.toUInt64 <<< 24 ||| f.toUInt64 <<< 16 ||| g.toUInt64 <<< 8 ||| h.toUInt64) ::
      words64BE rest
  | _ => []

/-- The octets of a 32-bit word, the most significant first. -/
def octets32BE (w : UInt32) : Octets :=
  [(w >>> 24).toUInt8, (w >>> 16).toUInt8, (w >>> 8).toUInt8, w.toUInt8]

/-- The octets of a 32-bit word, the least significant first. -/
def octets32LE (w : UInt32) : Octets :=
  [w.toUInt8, (w >>> 8).toUInt8, (w >>> 16).toUInt8, (w >>> 24).toUInt8]

/-- The octets of a 64-bit word, the most significant first. -/
def octets64BE (w : UInt64) : Octets :=
  octets32BE (w >>> 32).toUInt32 ++ octets32BE w.toUInt32

/-- The octets of a 64-bit word, the least significant first. -/
def octets64LE (w : UInt64) : Octets :=
  octets32LE w.toUInt32 ++ octets32LE (w >>> 32).toUInt32

/-! ### Rotations -/

/-- The word rotated to the left. -/
def rotl32 (w : UInt32) (n : UInt32) : UInt32 := w <<< n ||| w >>> (32 - n)

/-- The word rotated to the right. -/
def rotr32 (w : UInt32) (n : UInt32) : UInt32 := w >>> n ||| w <<< (32 - n)

/-- The word rotated to the right. -/
def rotr64 (w : UInt64) (n : UInt64) : UInt64 := w >>> n ||| w <<< (64 - n)

/-! ### Padding and blocks -/

/-- The message with a one bit, as many zeros as make whole blocks, and the encoded length. -/
def padded (blockLength : Nat) (lengthField : Octets) (message : Octets) : Octets :=
  let used := message.length + 1 + lengthField.length
  message ++ 0x80 :: List.replicate ((blockLength - used % blockLength) % blockLength) 0
    ++ lengthField

/-- The length of the message in bits. -/
def bitLength (message : Octets) : UInt64 :=
  UInt64.ofNat (8 * message.length)

/-- The first `n` blocks of sixteen words. -/
def blocks {ω : Type} : Nat → List ω → List (List ω)
  | 0, _ => []
  | n + 1, ws => ws.take 16 :: blocks n (ws.drop 16)

/-- All blocks of sixteen words. -/
def allBlocks {ω : Type} (ws : List ω) : List (List ω) :=
  blocks (ws.length / 16) ws

@[simp] theorem length_octets32BE (w : UInt32) : (octets32BE w).length = 4 := rfl

@[simp] theorem length_octets32LE (w : UInt32) : (octets32LE w).length = 4 := rfl

@[simp] theorem length_octets64BE (w : UInt64) : (octets64BE w).length = 8 := rfl

end DsigRegistry.Digest
