import DsigRegistry.Unicode.Mark

/-!
# Characters, references and normalization

The character classes of XML 1.0 say what may stand in a document at all, what is white space, and
what may stand in names. Character data and attribute values hold references to characters, and
their white space is normalized: line ends become line feeds in character data, and every white
space character becomes a space in attribute values. What a reference stands for is left as it is.
-/

namespace DsigRegistry.Xml

/-! ### Characters -/

/-- White space of XML, which is less than white space of Unicode. -/
def isSpace (c : Char) : Bool :=
  c = ' ' || c = '\t' || c = '\n' || c = '\r'

/-- The character may stand in a document. -/
def isXmlChar (c : Char) : Bool :=
  if c.toNat < 0x20 then isSpace c else c.toNat != 0xFFFE && c.toNat != 0xFFFF

/-- Ranges of the characters beyond ASCII that may start a name. -/
def nameStartRanges : List (Nat × Nat) :=
  [(0xC0, 0xD6), (0xD8, 0xF6), (0xF8, 0x2FF), (0x370, 0x37D), (0x37F, 0x1FFF), (0x200C, 0x200D),
   (0x2070, 0x218F), (0x2C00, 0x2FEF), (0x3001, 0xD7FF), (0xF900, 0xFDCF), (0xFDF0, 0xFFFD),
   (0x10000, 0xEFFFF)]

/-- The character may start a name. -/
def isNameStart (c : Char) : Bool :=
  c.isAlpha || c = '_' || c = ':' || Unicode.inRanges nameStartRanges c.toNat

/-- The character may stand in a name. -/
def isNameChar (c : Char) : Bool :=
  isNameStart c || c.isDigit || c = '-' || c = '.'
    || Unicode.inRanges [(0xB7, 0xB7), (0x300, 0x36F), (0x203F, 0x2040)] c.toNat

/-! ### References -/

/-- The value of a digit in the base. -/
def digitValue? (base : Nat) (c : Char) : Option Nat :=
  let n := c.toNat
  let v :=
    if 48 ≤ n && n ≤ 57 then n - 48
    else if 97 ≤ n && n ≤ 102 then n - 87
    else if 65 ≤ n && n ≤ 70 then n - 55
    else base
  if v < base then some v else none

/-- The number that digits of the base spell. -/
def numberOf (base : Nat) (digits : List Char) : Nat :=
  digits.foldl (fun acc c => acc * base + (digitValue? base c).getD 0) 0

/-- The character with the code point, or U+FFFD where there is none. -/
def scalarOrReplacement (n : Nat) : Char :=
  if n < 0xD800 ∨ (0xDFFF < n ∧ n < 0x110000) then Char.ofNat n else '\uFFFD'

/-- The character that a numeric reference stands for. Code points of more than 32 bits are
refused, and so are characters that may not stand in a document. -/
def numericReference? (base : Nat) (digits : List Char) : Option Char :=
  let n := numberOf base digits
  let c := scalarOrReplacement n
  if digits.isEmpty || Nat.pow 2 32 ≤ n || !isXmlChar c then none else some c

/-- The characters of the predefined entities. -/
def entities : List (List Char × Char) :=
  [(['q', 'u', 'o', 't'], '"'), (['a', 'm', 'p'], '&'), (['a', 'p', 'o', 's'], '\''),
   (['l', 't'], '<'), (['g', 't'], '>')]

/-- Read a reference whose `&` has been read; the semicolon ends it. -/
def reference? (input : List Char) : Option (Char × List Char) :=
  let body := input.takeWhile (· != ';')
  match input.dropWhile (· != ';') with
  | [] => none
  | _ :: rest =>
    let target :=
      match body with
      | '#' :: 'x' :: digits =>
        if digits.all fun c => (digitValue? 16 c).isSome then numericReference? 16 digits else none
      | '#' :: digits =>
        if digits.all fun c => (digitValue? 10 c).isSome then numericReference? 10 digits else none
      | name => entities.lookup name
    target.map fun c => (c, rest)

/-- Resolve the references in a text. Its other characters are passed on with the character
behind them to `plain`, which normalizes them. Each step takes one character off the budget. -/
def expandReferences (plain : Char → Option Char → List Char) :
    (budget : List Char) → List Char → Option (List Char)
  | _, [] => some []
  | [], _ => none
  | _ :: budget, c :: rest =>
    if c = '&' then
      match reference? rest with
      | none => none
      | some (d, rest) => (expandReferences plain budget rest).map (d :: ·)
    else (expandReferences plain budget rest).map (plain c rest.head? ++ ·)

/-- In character data a carriage return is a line feed, and none is left before one. -/
def normalizeText (c : Char) (next : Option Char) : List Char :=
  if c = '\r' then (if next = some '\n' then [] else ['\n']) else [c]

/-- In attribute values white space is a space, one for a carriage return and a line feed. -/
def normalizeAttribute (c : Char) (next : Option Char) : List Char :=
  if c = '\r' && next = some '\n' then []
  else if c = '\r' || c = '\n' || c = '\t' then [' ']
  else [c]

/-- The character data that a written text stands for. -/
def textValue? (written : List Char) : Option String :=
  (expandReferences normalizeText written written).map String.ofList

/-- The value that a written attribute value stands for. -/
def attributeValue? (written : List Char) : Option String :=
  (expandReferences normalizeAttribute written written).map String.ofList

/-- The character data of a section without references. -/
def normalizeLines : List Char → List Char
  | [] => []
  | c :: rest => normalizeText c rest.head? ++ normalizeLines rest

end DsigRegistry.Xml
