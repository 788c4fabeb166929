import DsigRegistry.Text.Utf8

/-!
# Percent encoding

In a URL an octet can be written as a percent sign and two hexadecimal digits. Controls and
everything outside ASCII are always written so; which of the other characters are depends on the
part of the URL.
-/

namespace DsigRegistry.Url.Percent

/-- The characters that are escaped in a fragment. -/
def fragmentSet : List Char := [' ', '"', '<', '>', '\x60']

/-- The characters that are escaped in a query. -/
def querySet : List Char := [' ', '"', '#', '<', '>']

/-- The characters that are escaped in the query of a special scheme. -/
def specialQuerySet : List Char := '\'' :: querySet

/-- The characters that are escaped in a path. -/
def pathSet : List Char := ['#', '?', '\x7b', '\x7d'] ++ fragmentSet

/-- The characters that are escaped in a user name or password. -/
def userInfoSet : List Char :=
  ['/', ':', ';', '=', '@', '[', '\\', ']', '^', '|'] ++ pathSet

/-- The characters that are escaped in the name of a file, so that it stays one segment and its
percent signs stand for themselves. -/
def fileNameSet : List Char := ['/', '%', '\\'] ++ pathSet

/-- The octet has to be escaped where the given characters are. -/
def isEscaped (set : List Char) (b : UInt8) : Bool :=
  b < 0x20 || 0x7F ≤ b || set.contains (Char.ofNat b.toNat)

/-- The hexadecimal digit of a number below 16, in upper case. -/
def hexDigit (n : Nat) : Char :=
  Char.ofNat (if n < 10 then 48 + n else 55 + n)

/-- The value of a hexadecimal digit of either case. -/
def hexValue? (c : Char) : Option Nat :=
  if '0' ≤ c ∧ c ≤ '9' then some (c.toNat - 48)
  else if 'A' ≤ c ∧ c ≤ 'F' then some (c.toNat - 55)
  else if 'a' ≤ c ∧ c ≤ 'f' then some (c.toNat - 87)
  else none

/-- The escape for an octet. -/
def escape (b : UInt8) : List Char :=
  ['%', hexDigit (b.toNat / 16), hexDigit (b.toNat % 16)]

/-- The octets with those escaped that have to be. -/
def encode (set : List Char) (bs : Octets) : List Char :=
  bs.flatMap fun b => if isEscaped set b then escape b else [Char.ofNat b.toNat]

/-- The text with the octets of its UTF-8 form escaped that have to be. -/
def encodeText (set : List Char) (cs : List Char) : List Char :=
  encode set (Text.Utf8.encodeChars cs)

/-- The octet that two hexadecimal digits spell. -/
def octet? (high low : Char) : Option UInt8 := do
  let h ← hexValue? high
  let l ← hexValue? low
  return UInt8.ofNat (h * 16 + l)

/-- The octets of the UTF-8 form with the escapes resolved; a percent sign that starts no escape
stands for itself. -/
def decode : List Char → Octets
  | [] => []
  | '%' :: high :: low :: cs =>
    match octet? high low with
    | some b => b :: decode cs
    | none => 0x25 :: decode (high :: low :: cs)
  | c :: cs => String.utf8EncodeChar c ++ decode cs

end DsigRegistry.Url.Percent
