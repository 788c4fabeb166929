import DsigRegistry.Text.Split
import DsigRegistry.Unicode.Direction
import DsigRegistry.Unicode.Joining
import DsigRegistry.Unicode.Normalization
import DsigRegistry.Url.DomainMapping
import DsigRegistry.Url.Punycode

/-!
# Domain names

A domain name is a list of labels between dots. Names are written in ASCII: a label with other
characters is written in Punycode behind `xn--`. Such a label has to stand for characters in
normal form that a name may hold, and it must not be a disguise for ASCII. All labels of a name
with letters written from right to left have to keep to one direction each.
-/

namespace DsigRegistry.Url.DomainName

/-- The character is ASCII. -/
def isAscii (c : Char) : Bool := c.toNat < 0x80

/-- The characters that no domain name contains. -/
def isForbidden (c : Char) : Bool :=
  c.toNat ≤ 0x20 || c.toNat = 0x7F
    || ['%', '#', '/', ':', '<', '>', '?', '@', '[', '\\', ']', '^', '|'].contains c

/-! ### Labels in Punycode -/

/-- What a label in Punycode starts with. -/
def acePrefix : List Char := ['x', 'n', '-', '-']

/-- The longest text in Punycode that is read. -/
def maxCodeLength : Nat := 2000

/-- The characters that the Punycode of a label stands for: not ASCII alone, each of them one that
a name may hold, and in normal form. -/
def decodeLabel? (code : List Char) : Option (List Char) := do
  guard (code.length ≤ maxCodeLength)
  guard (code.getLast?.any (· ≠ '-'))
  let chars ← Punycode.decode? code
  guard (chars.all DomainMapping.isStable && Unicode.normalize chars = chars)
  return chars

/-- The characters that a label stands for. -/
def meaning? (label : List Char) : Option (List Char) :=
  if acePrefix.isPrefixOf label then decodeLabel? (label.drop acePrefix.length) else some label

/-- The label in ASCII. -/
def asciiLabel (label : List Char) : List Char :=
  if label.all isAscii then label else acePrefix ++ Punycode.encode label

/-! ### Joiners -/

/-- The character that keeps its neighbours apart. -/
def nonJoiner : Char := Char.ofNat 0x200C

/-- The character that joins its neighbours. -/
def joiner : Char := Char.ofNat 0x200D

/-- The first character that is not transparent satisfies `p`. -/
def nextLetter (p : Char → Bool) (cs : List Char) : Bool :=
  (cs.dropWhile Unicode.isTransparent).head?.any p

/-- The character may stand between the two texts, the first of which is given from its end:
joiners have to follow a virama, or else keep two letters apart that would join. -/
def fitsBetween (before : List Char) (c : Char) (after : List Char) : Bool :=
  if c = nonJoiner then
    before.head?.any Unicode.isVirama
      || (nextLetter Unicode.joinsNext before && nextLetter Unicode.joinsPrevious after)
  else if c = joiner then before.head?.any Unicode.isVirama
  else true

/-- Each joiner of the text fits; what stands before the text is given from its end. -/
def joinersFit (before : List Char) : List Char → Bool
  | [] => true
  | c :: cs => fitsBetween before c cs && joinersFit (c :: before) cs

/-! ### Well-formed labels -/

/-- The longest label beyond ASCII, in characters. -/
def maxLength : Nat := 1000

/-- The characters form a label: they do not start with a mark, and joiners fit. -/
def isLabel (chars : List Char) : Bool :=
  !chars.head?.any Unicode.isMark && joinersFit [] chars
    && (chars.all isAscii || chars.length ≤ maxLength)

/-- The directions of a label end, up to nonspacing marks, with one of the given ones. -/
def endsWith (last ds : List Unicode.Direction) : Bool :=
  (ds.reverse.dropWhile (· = .nonspacing)).head?.any last.contains

/-- The label keeps to one direction. Its first character decides which; numbers of both kinds do
not go together. -/
def keepsDirection (chars : List Char) : Bool :=
  let ds := chars.map Unicode.direction
  match ds.head? with
  | none => true
  | some .leftToRight =>
    ds.all [.leftToRight, .europeanNumber, .neutral, .nonspacing].contains
      && endsWith [.leftToRight, .europeanNumber] ds
  | some .rightToLeft =>
    ds.all (· ≠ .leftToRight) && endsWith [.rightToLeft, .europeanNumber, .arabicNumber] ds
      && !(ds.contains .europeanNumber && ds.contains .arabicNumber)
  | some _ => false

/-- The character makes the direction of labels matter. -/
def isRightToLeft (c : Char) : Bool :=
  let d := Unicode.direction c
  d = .rightToLeft || d = .arabicNumber

/-! ### Names -/

/-- The name that a text stands for, in ASCII, if it is one. -/
def toAscii? (text : List Char) : Option (List Char) := do
  let name := Unicode.normalize (← text.mapM DomainMapping.mapChar?).flatten
  guard (!name.any isForbidden)
  let labels := splitWhere (· == '.') name
  let meanings ← labels.mapM meaning?
  guard (meanings.all isLabel)
  guard (!meanings.any (·.any isRightToLeft) || meanings.all keepsDirection)
  return ['.'].intercalate (labels.map asciiLabel)

end DsigRegistry.Url.DomainName
