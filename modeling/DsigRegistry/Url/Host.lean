import DsigRegistry.Text.Quoted
import DsigRegistry.Url.DomainName
import DsigRegistry.Url.Percent

/-!
# Hosts

The host of a URL is a domain name, an IPv4 address or an IPv6 address. The hosts of special
schemes are domain names in ASCII, and those that end in a number are IPv4 addresses; other
schemes take the name as it stands.
-/

namespace DsigRegistry.Url

/-- Why a text is not a URL. -/
inductive Fault where
  | emptyHost
  | invalidDomain
  | invalidPort
  | invalidIpv4
  | invalidIpv6
  | invalidHostCharacter
  /-- The text has no scheme and there is no base. -/
  | noBase
  /-- The text has no scheme and the base has no hierarchical path. -/
  | opaqueBase
deriving DecidableEq

/-- The fault in words. -/
def Fault.message : Fault → String
  | .emptyHost => "empty host"
  | .invalidDomain => "invalid international domain name"
  | .invalidPort => "invalid port number"
  | .invalidIpv4 => "invalid IPv4 address"
  | .invalidIpv6 => "invalid IPv6 address"
  | .invalidHostCharacter => "invalid domain character"
  | .noBase => "relative URL without a base"
  | .opaqueBase => "relative URL with a cannot-be-a-base base"

/-- A host that is not empty. -/
inductive Host where
  | domain (name : List Char)
  | ipv4 (address : Nat)
  /-- The eight groups of 16 bits. -/
  | ipv6 (groups : List Nat)
deriving DecidableEq

/-! ### IPv4 addresses -/

namespace Ipv4

/-- The value of a numeral, most significant digit first. -/
def numeralValue (base : Nat) (digits : List Nat) : Nat :=
  digits.foldl (fun value d => value * base + d) 0

/-- The value of a number in one of the three notations: hexadecimal behind `0x`, octal behind
another `0`, decimal otherwise. No digits behind `0x` stand for zero. -/
def number? (text : List Char) : Option Nat :=
  let read (base : Nat) (digits : List Char) : Option Nat := do
    let values ← digits.mapM Percent.hexValue?
    guard (values.all (· < base))
    return numeralValue base values
  match text with
  | [] => none
  | ['0'] => some 0
  | '0' :: 'x' :: digits | '0' :: 'X' :: digits => read 16 digits
  | '0' :: digits => read 8 digits
  | digits => read 10 digits

/-- The dot-separated parts of a name, without an empty one at the end. -/
def parts (name : List Char) : List (List Char) :=
  let all := splitWhere (· == '.') name
  if all.getLast? = some [] then all.dropLast else all

/-- The last part of the name is a number, so that the name has to be an address. -/
def endsInNumber (name : List Char) : Bool :=
  match (parts name).getLast? with
  | none => false
  | some last => (!last.isEmpty && last.all Char.isDigit) || (number? last).isSome

/-- The address with the numbers: each is an octet but the last, which fills up the rest. -/
def ofNumbers? : List Nat → Option Nat
  | [] => none
  | numbers@(_ :: _) => do
    let leading := numbers.dropLast
    let last := numbers.getLastD 0
    guard (numbers.length ≤ 4)
    guard (leading.all (· < 256))
    guard (last < Nat.pow 256 (4 - leading.length))
    return numeralValue 256 leading * Nat.pow 256 (4 - leading.length) + last

/-- The address that a name spells. -/
def parse? (name : List Char) : Option Nat := do
  ofNumbers? (← (parts name).mapM number?)

/-- The address in dotted decimal notation. -/
def text (address : Nat) : String :=
  ".".intercalate ([16777216, 65536, 256, 1].map fun unit => toString (address / unit % 256))

/-- The value of a decimal octet without leading zeros. -/
def octet? (text : List Char) : Option Nat := do
  guard (text.all Char.isDigit ∧ 0 < text.length ∧ text.length ≤ 3)
  guard (text.head? ≠ some '0' ∨ text.length = 1)
  let value := numeralValue 10 (text.map fun c => c.toNat - 48)
  guard (value < 256)
  return value

end Ipv4

/-! ### IPv6 addresses -/

namespace Ipv6

/-- The value of a group of one to four hexadecimal digits. -/
def group? (text : List Char) : Option Nat := do
  guard (0 < text.length ∧ text.length ≤ 4)
  return Ipv4.numeralValue 16 (← text.mapM Percent.hexValue?)

/-- The two groups that an address in dotted decimal notation stands for. -/
def dottedGroups? (text : List Char) : Option (List Nat) := do
  match ← (splitWhere (· == '.') text).mapM Ipv4.octet? with
  | [a, b, c, d] => return [a * 256 + b, c * 256 + d]
  | _ => none

/-- The values of groups, the last of which may be in dotted decimal notation if `dotted`. -/
def groups? (dotted : Bool) : List (List Char) → Option (List Nat)
  | [] => some []
  | [last] =>
    if dotted && last.contains '.' then dottedGroups? last else (group? last).map ([·])
  | group :: rest => do
    let value ← group? group
    let values ← groups? dotted rest
    return value :: values

/-- The groups in front of the first `::` and those behind it. -/
def splitAtGap? : List Char → Option (List Char × List Char)
  | [] => none
  | ':' :: ':' :: rest => some ([], rest)
  | c :: rest => (splitAtGap? rest).map fun (before, after) => (c :: before, after)

/-- The values of the groups of one side of the gap. -/
def sideGroups? (dotted : Bool) (text : List Char) : Option (List Nat) :=
  if text.isEmpty then some [] else groups? dotted (splitWhere (· == ':') text)

/-- The groups of the address that a text spells; `::` stands for as many zero groups as are
missing, and at least for one. -/
def parse? (text : List Char) : Option (List Nat) :=
  match splitAtGap? text with
  | none => do
    let groups ← groups? true (splitWhere (· == ':') text)
    guard (groups.length = 8)
    return groups
  | some (before, after) => do
    let left ← sideGroups? false before
    let right ← sideGroups? true after
    guard (left.length + right.length < 8)
    return left ++ List.replicate (8 - (left.length + right.length)) 0 ++ right

/-- The number of zero groups at the start. -/
def leadingZeros (groups : List Nat) : Nat :=
  (groups.takeWhile (· == 0)).length

/-- The length of the longest run of zero groups. -/
def longestGap : List Nat → Nat
  | [] => 0
  | group :: groups => max (leadingZeros (group :: groups)) (longestGap groups)

/-- The groups with the first run of `gap` zero groups replaced by `::`; the groups in front of
it follow `written`. -/
def compressed (gap : Nat) (written : List String) : List Nat → String
  | [] => ":".intercalate written
  | group :: groups =>
    if leadingZeros (group :: groups) = gap then
      ":".intercalate written ++ "::"
        ++ ":".intercalate ((groups.drop (gap - 1)).map Text.hexText)
    else compressed gap (written ++ [Text.hexText group]) groups

/-- The address in the shortest notation; one zero group alone is written out. -/
def text (groups : List Nat) : String :=
  if longestGap groups < 2 then ":".intercalate (groups.map Text.hexText)
  else compressed (longestGap groups) [] groups

end Ipv6

/-! ### Hosts as they are read and written -/

namespace Host

/-- The host in a URL. -/
def text : Host → String
  | .domain name => String.ofList name
  | .ipv4 address => Ipv4.text address
  | .ipv6 groups => "[" ++ Ipv6.text groups ++ "]"

/-- The text between the brackets of an address. -/
def bracketed? : List Char → Option (Option (List Char))
  | '[' :: rest => some (if rest.getLast? = some ']' then some rest.dropLast else none)
  | _ => none

/-- The address in brackets, if the text starts with one. -/
def address? (text : List Char) : Option (Except Fault Host) :=
  (bracketed? text).map fun inner =>
    match inner.bind Ipv6.parse? with
    | some groups => .ok (.ipv6 groups)
    | none => .error .invalidIpv6

/-- The domain name that a text with escapes spells. -/
def domainName? (text : List Char) : Option (List Char) :=
  (Text.Utf8.decodeChars (Percent.decode text)).toOption.bind DomainName.toAscii?

/-- The host of a special scheme. -/
def parse (text : List Char) : Except Fault Host :=
  match address? text with
  | some result => result
  | none =>
    match domainName? text with
    | none => .error .invalidDomain
    | some name =>
      if name.isEmpty then .error .emptyHost
      else if Ipv4.endsInNumber name then
        match Ipv4.parse? name with
        | some address => .ok (.ipv4 address)
        | none => .error .invalidIpv4
      else .ok (.domain name)

/-- The characters that stand in no host. -/
def forbidden : List Char :=
  ['\x00', '\t', '\n', '\r', ' ', '#', '/', ':', '<', '>', '?', '@', '[', '\\', ']', '^', '|']

/-- The host of another scheme; nothing stands for the empty host. -/
def parseOpaque? (text : List Char) : Except Fault (Option Host) :=
  match address? text with
  | some result => result.map some
  | none =>
    if text.any forbidden.contains then .error .invalidHostCharacter
    else if text.isEmpty then .ok none
    else .ok (some (.domain (Percent.encodeText [] text)))

end Host

end DsigRegistry.Url
