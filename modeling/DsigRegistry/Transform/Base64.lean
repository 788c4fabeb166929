import DsigRegistry.Base64
import DsigRegistry.Transform.Basic
import DsigRegistry.Xml.Scope

/-!
# The Base64 transform

Decodes the character data of a document, or octets that are UTF-8. White space is ignored
wherever it stands.
-/

namespace DsigRegistry.Transform

/-- The text that is to be decoded. Where a document is malformed, the words of the XML reader for
what is wrong are left out of the error. -/
def encodedText : TransformData → Except Error String
  | .octets data =>
    match Text.Utf8.decode data with
    | .ok text => .ok text
    | .error fault => .error (.transform ("base64 input not UTF-8: " ++ fault.message))
  | .xml document =>
    match Xml.parse? document with
    | some root => .ok root.characterData
    | none => .error (.transform "base64 input is not well-formed XML")

/-- Decode a text, whose white space is ignored. -/
def decodeText (text : String) : Except Error Octets :=
  match Base64.decode (Text.Utf8.encodeChars (text.toList.filter fun c => !Text.isBlank c)) with
  | .ok data => .ok data
  | .error fault => .error (.base64 ("decode error: " ++ fault.message))

/-- The transform that decodes Base64. -/
def base64Decode : Transform :=
  .pure fun data _ => do
    let text ← encodedText data
    let octets ← decodeText text
    return .octets octets

end DsigRegistry.Transform
