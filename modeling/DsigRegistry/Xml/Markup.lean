import DsigRegistry.Xml.Document
import DsigRegistry.Xml.Reference

/-!
# Reading markup

A document is read into a tree whose names are still as written. Each reader takes the rest of
the input and gives back what it read and what is left; `none` says that the document is not
well formed. Document type declarations are not accepted, so the only entities are the
predefined ones. Readers that call themselves take one character off a budget for each step;
a budget longer than the input is never used up.
-/

namespace DsigRegistry.Xml

/-! ### Small readers -/

/-- What follows the literal text. -/
def afterLiteral? : List Char → List Char → Option (List Char)
  | [], input => some input
  | _ :: _, [] => none
  | l :: ls, c :: cs => if l = c then afterLiteral? ls cs else none

/-- The text before the first occurrence of the mark, and what follows the mark. -/
def breakAt? (mark : List Char) : List Char → Option (List Char × List Char)
  | [] => none
  | c :: cs =>
    match afterLiteral? mark (c :: cs) with
    | some rest => some ([], rest)
    | none => (breakAt? mark cs).map fun (before, rest) => (c :: before, rest)

/-- What follows white space. -/
def skipSpace (input : List Char) : List Char :=
  input.dropWhile isSpace

/-- The literal occurs in the text. -/
def occursIn (literal text : List Char) : Bool :=
  (breakAt? literal text).isSome

/-- Read a name with an optional prefix. -/
def writtenName? (input : List Char) : Option (WrittenName × List Char) :=
  let part (cs : List Char) := cs.takeWhile fun c => isNameChar c && c != ':'
  let rest (cs : List Char) := cs.dropWhile fun c => isNameChar c && c != ':'
  let startsName (cs : List Char) := cs.head?.any isNameStart
  let first := part input
  match rest input with
  | ':' :: more =>
    let second := part more
    if (first.isEmpty || startsName first) && startsName second then
      some (⟨String.ofList first, String.ofList second⟩, rest more)
    else none
  | more => if startsName first then some (⟨"", String.ofList first⟩, more) else none

/-- Read an equals sign with optional white space around it. -/
def equals? (input : List Char) : Option (List Char) :=
  (afterLiteral? ['='] (skipSpace input)).map skipSpace

/-- Read an attribute value as written, without its quotes. -/
def quotedValue? : List Char → Option (List Char × List Char)
  | q :: input =>
    if q = '"' || q = '\'' then
      match breakAt? [q] input with
      | some (value, rest) =>
        if value.all fun c => isXmlChar c && c != '<' then some (value, rest) else none
      | none => none
    else none
  | [] => none

/-- Read an attribute as written. -/
def writtenAttribute? (input : List Char) :
    Option ((WrittenName × List Char) × List Char) := do
  let (name, rest) ← writtenName? input
  let rest ← equals? rest
  let (value, rest) ← quotedValue? rest
  return ((name, value), rest)

/-- How a start tag ends. -/
inductive TagEnd where
  /-- With content to come. -/
  | opening
  /-- As an element without content. -/
  | closed
deriving DecidableEq

/-- Read the attributes of a start tag and its end; each attribute follows white space. -/
def tagRest? : (budget : List Char) → List Char →
    Option (List (WrittenName × String) × TagEnd × List Char)
  | [], _ => none
  | _ :: budget, input =>
    match skipSpace input with
    | '/' :: '>' :: rest => some ([], .closed, rest)
    | '>' :: rest => some ([], .opening, rest)
    | rest =>
      if input.head?.any isSpace then do
        let ((name, written), rest) ← writtenAttribute? rest
        let value ← attributeValue? written
        let (attributes, tagEnd, rest) ← tagRest? budget rest
        return ((name, value) :: attributes, tagEnd, rest)
      else none

/-- Read a comment whose opening mark has been read. -/
def comment? (input : List Char) : Option (Node WrittenName × List Char) := do
  let (value, rest) ← breakAt? ['-', '-', '>'] input
  if value.all isXmlChar && !occursIn ['-', '-'] value && value.getLast? != some '-' then
    return (.comment (String.ofList value), rest)
  else none

/-- Read a processing instruction whose opening mark has been read. The XML declaration is none. -/
def instruction? (input : List Char) : Option (Node WrittenName × List Char) := do
  guard (afterLiteral? ['x', 'm', 'l', ' '] input).isNone
  let target := input.takeWhile isNameChar
  guard (target.head?.any isNameStart)
  let (value, rest) ← breakAt? ['?', '>'] (skipSpace (input.dropWhile isNameChar))
  guard (value.all isXmlChar)
  return (.instruction (String.ofList target) (String.ofList value), rest)

/-- Read a section of character data whose opening mark has been read. -/
def cdata? (input : List Char) : Option (Node WrittenName × List Char) := do
  let (value, rest) ← breakAt? [']', ']', '>'] input
  guard (value.all isXmlChar)
  return (.cdata (String.ofList (normalizeLines value)), rest)

/-- Read character data up to the next markup. -/
def text? (input : List Char) : Option (Node WrittenName × List Char) := do
  let written := input.takeWhile (· != '<')
  guard (written.all isXmlChar && !occursIn [']', ']', '>'] written)
  let value ← textValue? written
  return (.text value, input.dropWhile (· != '<'))

/-! ### Elements -/

mutual

/-- Read an element whose opening `<` has been read. -/
def element? : (budget : List Char) → List Char → Option (Node WrittenName × List Char)
  | [], _ => none
  | _ :: budget, input => do
    let source (rest : List Char) :=
      String.ofList ('<' :: input.take (input.length - rest.length))
    let (name, rest) ← writtenName? input
    let (attributes, tagEnd, rest) ← tagRest? input rest
    match tagEnd with
    | .closed => return (.element name attributes [] (source rest), rest)
    | .opening =>
      let (children, rest) ← content? budget rest
      let rest ← afterLiteral? ['<', '/'] rest
      let (closing, rest) ← writtenName? rest
      guard (closing = name)
      let rest ← afterLiteral? ['>'] (skipSpace rest)
      return (.element name attributes children (source rest), rest)

/-- Read the content of an element, up to its end tag. -/
def content? : (budget : List Char) → List Char →
    Option (List (Node WrittenName) × List Char)
  | [], _ => none
  | _ :: budget, input =>
    match input with
    | [] => some ([], [])
    | '<' :: '/' :: _ => some ([], input)
    | _ => do
      let (node, rest) ←
        match input with
        | '<' :: '!' :: '-' :: '-' :: rest => comment? rest
        | '<' :: '!' :: rest =>
          match afterLiteral? ['[', 'C', 'D', 'A', 'T', 'A', '['] rest with
          | some rest => cdata? rest
          | none => none
        | '<' :: '?' :: rest => instruction? rest
        | '<' :: rest => element? budget rest
        | _ => text? input
      let (nodes, rest) ← content? budget rest
      return (node :: nodes, rest)

end

/-! ### Documents -/

/-- White space, or the end of the declaration, has to follow. -/
def declarationGap? (input : List Char) : Option (List Char) :=
  if input.head?.any isSpace then some (skipSpace input)
  else if input.isEmpty || (afterLiteral? ['?', '>'] input).isSome then some input
  else none

/-- Read the XML declaration behind its opening mark. Its version is required; neither that nor
the encoding makes a difference. -/
def declaration? (input : List Char) : Option (List Char) := do
  let rest ← declarationGap? input
  let _ ← afterLiteral? ['v', 'e', 'r', 's', 'i', 'o', 'n'] rest
  let (_, rest) ← writtenAttribute? rest
  let rest ← declarationGap? rest
  let rest ←
    if (afterLiteral? ['e', 'n', 'c', 'o', 'd', 'i', 'n', 'g'] rest).isSome then do
      let (_, rest) ← writtenAttribute? rest
      declarationGap? rest
    else some rest
  let rest ←
    if (afterLiteral? ['s', 't', 'a', 'n', 'd', 'a', 'l', 'o', 'n', 'e'] rest).isSome then do
      let (_, rest) ← writtenAttribute? rest
      some rest
    else some rest
  afterLiteral? ['?', '>'] (skipSpace rest)

/-- Skip comments, processing instructions and white space around the root element. -/
def skipMisc? : (budget : List Char) → List Char → Option (List Char)
  | [], _ => none
  | _ :: budget, input =>
    match skipSpace input with
    | '<' :: '!' :: '-' :: '-' :: rest => do
      let (_, rest) ← comment? rest
      skipMisc? budget rest
    | '<' :: '?' :: rest => do
      let (_, rest) ← instruction? rest
      skipMisc? budget rest
    | rest => some rest

/-- The characters of a document behind a byte order mark. -/
def withoutMark : List Char → List Char
  | '\uFEFF' :: rest => rest
  | input => input

/-- Read a document: an optional declaration, and one element with comments and processing
instructions around it. -/
def markup? (document : List Char) : Option (Node WrittenName) := do
  let input := withoutMark document
  let rest ←
    match afterLiteral? ['<', '?', 'x', 'm', 'l', ' '] input with
    | some _ => declaration? (input.drop 5)
    | none => some input
  let start ← skipMisc? ('\n' :: rest) rest
  let rest ← afterLiteral? ['<'] start
  let (root, rest) ← element? start rest
  let rest ← skipMisc? ('\n' :: rest) rest
  guard rest.isEmpty
  return root

end DsigRegistry.Xml
