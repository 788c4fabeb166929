import DsigRegistry.Text.Utf8

/-!
# Base64

The standard alphabet with canonical padding. Decoding is strict: the padding has to be there,
the bits that it leaves over have to be zero, and the first fault is reported with its offset.
-/

namespace DsigRegistry.Base64

/-- The padding character `=`. -/
def pad : UInt8 := 61

/-- The symbol of a value below 64. -/
def symbol (v : Nat) : UInt8 :=
  if v < 26 then UInt8.ofNat (v + 65)
  else if v < 52 then UInt8.ofNat (v + 71)
  else if v < 62 then UInt8.ofNat (v - 4)
  else if v = 62 then 43
  else 47

/-- The value of a symbol of the alphabet. -/
def value? (b : UInt8) : Option Nat :=
  if 65 ≤ b && b ≤ 90 then some (b.toNat - 65)
  else if 97 ≤ b && b ≤ 122 then some (b.toNat - 71)
  else if 48 ≤ b && b ≤ 57 then some (b.toNat + 4)
  else if b = 43 then some 62
  else if b = 47 then some 63
  else none

/-- The encoding of the octets: four symbols for three octets, the last group padded. -/
def encode : Octets → Octets
  | [] => []
  | [a] => [symbol (a.toNat / 4), symbol (a.toNat % 4 * 16), pad, pad]
  | [a, b] =>
    [symbol (a.toNat / 4), symbol (a.toNat % 4 * 16 + b.toNat / 16), symbol (b.toNat % 16 * 4),
     pad]
  | a :: b :: c :: rest =>
    symbol (a.toNat / 4) :: symbol (a.toNat % 4 * 16 + b.toNat / 16) ::
      symbol (b.toNat % 16 * 4 + c.toNat / 64) :: symbol (c.toNat % 64) :: encode rest

/-- Why octets are not the encoding of anything. -/
inductive Fault where
  /-- An octet that may not stand at the offset. -/
  | invalidSymbol (octet : UInt8) (offset : Nat)
  /-- The last symbol stands for bits that the padding says are not there. -/
  | invalidLastSymbol (octet : UInt8) (offset : Nat)
  | invalidLength (length : Nat)
  | invalidPadding
deriving DecidableEq

/-- The fault in words. -/
def Fault.message : Fault → String
  | .invalidSymbol octet offset =>
    "Invalid symbol " ++ toString octet.toNat ++ ", offset " ++ toString offset ++ "."
  | .invalidLastSymbol octet offset =>
    "Invalid last symbol " ++ toString octet.toNat ++ ", offset " ++ toString offset ++ "."
  | .invalidLength length => "Invalid input length: " ++ toString length
  | .invalidPadding => "Invalid padding"

/-- The values of symbols that start at the offset. -/
def values (offset : Nat) : Octets → Except Fault (List Nat)
  | [] => .ok []
  | b :: bs =>
    match value? b with
    | none => .error (.invalidSymbol b offset)
    | some v => (values (offset + 1) bs).map (v :: ·)

/-- The octets that up to four values spell. -/
def octets : List Nat → Octets
  | [a, b] => [UInt8.ofNat (a * 4 + b / 16)]
  | [a, b, c] => [UInt8.ofNat (a * 4 + b / 16), UInt8.ofNat (b % 16 * 16 + c / 4)]
  | [a, b, c, d] =>
    [UInt8.ofNat (a * 4 + b / 16), UInt8.ofNat (b % 16 * 16 + c / 4),
     UInt8.ofNat (c % 4 * 64 + d)]
  | _ => []

/-- The low bits of the last of two or three values, which belong to no octet. -/
def leftover : List Nat → Nat
  | [_, b] => b % 16
  | [_, _, c] => c % 4
  | _ => 0

/-- Decode the last group of one to four octets, which starts at the offset. -/
def decodeLast (offset : Nat) (group : Octets) : Except Fault Octets := do
  let symbols := group.takeWhile (· != pad)
  let rest := group.dropWhile (· != pad)
  let vs ← values offset symbols
  if !rest.isEmpty && (symbols.length < 2 || rest.any (· != pad)) then
    throw (.invalidSymbol pad (offset + symbols.length))
  if symbols.length < 2 then
    throw (.invalidLength (offset + symbols.length))
  if (symbols.length + rest.length) % 4 ≠ 0 then
    throw .invalidPadding
  if leftover vs ≠ 0 then
    throw (.invalidLastSymbol (symbols.getLastD pad) (offset + symbols.length - 1))
  return octets vs

/-- Decode the groups from the offset on. -/
def decodeFrom (offset : Nat) : Octets → Except Fault Octets
  | [] => .ok []
  | a :: b :: c :: d :: e :: rest => do
    let vs ← values offset [a, b, c, d]
    let tail ← decodeFrom (offset + 4) (e :: rest)
    return octets vs ++ tail
  | group => decodeLast offset group

/-- A single octet behind complete groups that no group can hold. -/
def strayOctet? (bs : Octets) : Option Fault :=
  match bs.getLast? with
  | some b =>
    if bs.length % 4 = 1 && b != pad && (value? b).isNone then
      some (.invalidSymbol b (bs.length - 1))
    else none
  | none => none

/-- The octets whose encoding is given. -/
def decode (bs : Octets) : Except Fault Octets :=
  match strayOctet? bs with
  | some fault => .error fault
  | none => decodeFrom 0 bs

end DsigRegistry.Base64
