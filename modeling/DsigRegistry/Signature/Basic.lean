import DsigRegistry.Digest
import DsigRegistry.Error
import DsigRegistry.Key.Basic

/-!
# Signature algorithms

The interface of signature algorithms, and the ones that are built in: the keyed message
authentication code of RFC 2104 over any of the hash functions. Verification accepts a truncated
code, but none shorter than half a digest or 80 bits.
-/

namespace DsigRegistry

/-- A signature or message authentication algorithm with its URI. -/
structure SignatureAlgorithm where
  uri : String
  sign : (key : Key) → (data : Octets) → Except Error Octets
  verify : (key : Key) → (data signature : Octets) → Except Error Bool

namespace Hmac

/-- The key brought to the block length of the hash function: a longer key is hashed first, and
zeros fill up the rest. -/
def blockKey (hash : Hash) (key : Octets) : Octets :=
  let short := if key.length > hash.blockLength then hash.digest key else key
  short ++ List.replicate (hash.blockLength - short.length) 0

/-- The authentication code of the message. -/
def mac (hash : Hash) (key message : Octets) : Octets :=
  let k := blockKey hash key
  let inner := hash.digest (k.map (· ^^^ 0x36) ++ message)
  hash.digest (k.map (· ^^^ 0x5C) ++ inner)

/-- A code is as long as a digest. -/
theorem length_mac (hash : Hash) (key message : Octets) :
    (mac hash key message).length = hash.outputLength :=
  hash.length_digest _

/-- The number of octets that a truncated code has to have at least. -/
def minimumLength (hash : Hash) : Nat :=
  max (hash.outputLength / 2) 10

/-- Compare a code with the leading octets of the expected one. All octets are compared, whether
earlier ones differ or not. -/
def agrees (expected signature : Octets) : Bool :=
  signature.length ≤ expected.length &&
    (expected.zip signature).foldl (fun acc (x, y) => acc ||| (x ^^^ y)) 0 == 0

/-- The secret octets of a key, without which there is no code. -/
def secretOf (key : Key) : Except Error Octets :=
  match key.secret? with
  | some secret => .ok secret
  | none => .error (.key "HMAC key required")

/-- The code of the data under a key. -/
def sign (hash : Hash) (key : Key) (data : Octets) : Except Error Octets := do
  let secret ← secretOf key
  return mac hash secret data

/-- Check a code, which may be truncated. -/
def verify (hash : Hash) (key : Key) (data signature : Octets) : Except Error Bool := do
  let secret ← secretOf key
  if signature.length < minimumLength hash then
    throw (.crypto ("HMAC output length " ++ toString (signature.length * 8)
      ++ " bits is below the minimum of " ++ toString (minimumLength hash * 8) ++ " bits"))
  return agrees (mac hash secret data) signature

/-- The message authentication algorithm over a hash function. -/
def algorithm (hash : Hash) : SignatureAlgorithm where
  uri := hash.hmacUri
  sign := sign hash
  verify := verify hash

end Hmac

end DsigRegistry
