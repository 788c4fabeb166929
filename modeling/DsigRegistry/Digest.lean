import DsigRegistry.Algorithm
import DsigRegistry.Digest.Md5
import DsigRegistry.Digest.Ripemd160
import DsigRegistry.Digest.Sha1
import DsigRegistry.Digest.Sha2

/-!
# Digests

The hash functions that message authentication codes are built on.
-/

namespace DsigRegistry

/-- A hash function. -/
inductive Hash where
  | sha1
  | sha224
  | sha256
  | sha384
  | sha512
  | md5
  | ripemd160
deriving DecidableEq

namespace Hash

/-- The hash functions that every build provides. -/
def standard : List Hash := [.sha1, .sha224, .sha256, .sha384, .sha512]

/-- The hash functions that only a build with legacy algorithms provides. -/
def legacy : List Hash := [.md5, .ripemd160]

/-- The hash functions of a build, with or without legacy algorithms. -/
def provided (withLegacy : Bool) : List Hash :=
  if withLegacy then standard ++ legacy else standard

/-- The digest of the message. -/
def digest : Hash → Octets → Octets
  | .sha1 => Digest.Sha1.digest
  | .sha224 => Digest.Sha2.sha224
  | .sha256 => Digest.Sha2.sha256
  | .sha384 => Digest.Sha2.sha384
  | .sha512 => Digest.Sha2.sha512
  | .md5 => Digest.Md5.digest
  | .ripemd160 => Digest.Ripemd160.digest

/-- The number of octets of a digest. -/
def outputLength : Hash → Nat
  | .sha1 => 20
  | .sha224 => 28
  | .sha256 => 32
  | .sha384 => 48
  | .sha512 => 64
  | .md5 => 16
  | .ripemd160 => 20

/-- The number of octets that the compression function takes at a time. -/
def blockLength : Hash → Nat
  | .sha384 | .sha512 => 128
  | .sha1 | .sha224 | .sha256 | .md5 | .ripemd160 => 64

/-- The URI of the message authentication code over the hash function. -/
def hmacUri : Hash → String
  | .sha1 => Algorithm.hmacSha1
  | .sha224 => Algorithm.hmacSha224
  | .sha256 => Algorithm.hmacSha256
  | .sha384 => Algorithm.hmacSha384
  | .sha512 => Algorithm.hmacSha512
  | .md5 => Algorithm.hmacMd5
  | .ripemd160 => Algorithm.hmacRipemd160

/-- A digest has the length that the hash function promises. -/
theorem length_digest (h : Hash) (message : Octets) :
    (h.digest message).length = h.outputLength := by
  cases h with
  | sha1 => exact Digest.Sha1.length_digest message
  | sha224 => simp [digest, Digest.Sha2.sha224, Digest.Sha2.length_digest32, outputLength]
  | sha256 => exact Digest.Sha2.length_digest32 _ message
  | sha384 => simp [digest, Digest.Sha2.sha384, Digest.Sha2.length_digest64, outputLength]
  | sha512 => exact Digest.Sha2.length_digest64 _ message
  | md5 => exact Digest.Md5.length_digest message
  | ripemd160 => exact Digest.Ripemd160.length_digest message

end Hash

end DsigRegistry
