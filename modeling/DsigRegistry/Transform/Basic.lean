import DsigRegistry.Algorithm
import DsigRegistry.Registry
import DsigRegistry.Text.Blank
import DsigRegistry.Text.Utf8

/-!
# Transforms

What flows through a chain of transforms, what a transform is given, and the two interfaces that
implementations provide: transforms and canonicalizers.
-/

namespace DsigRegistry

/-- Data between transforms. -/
inductive TransformData where
  /-- The text of a document. -/
  | xml (document : String)
  | octets (data : Octets)
deriving DecidableEq

/-- The named parameters of one step. -/
structure Params where
  values : Dictionary String

namespace Params

/-- No parameters. -/
def empty : Params := ⟨.empty⟩

/-- Parameters in the order given; later ones replace earlier ones of the same name. -/
def ofList (values : List (String × String)) : Params := ⟨.ofList values⟩

/-- The name of the parameter that lists prefixes. -/
def prefixList : String := "PrefixList"

/-- The value of a parameter. -/
def get? (p : Params) (name : String) : Option String := p.values.get? name

/-- There are no parameters. -/
def isEmpty (p : Params) : Bool := p.values.isEmpty

/-- The prefixes to treat inclusively: the words of the prefix list. -/
def inclusivePrefixes (p : Params) : List String :=
  match p.get? prefixList with
  | some list => Text.words list
  | none => []

end Params

/-- Writes a document in canonical form. Of its modes only the exclusive ones consult the
prefixes. -/
structure Canonicalizer where
  canonicalize : (document : String) → (inclusivePrefixes : List String) → Except Error Octets

namespace TransformData

/-- The data as text; octets have to be UTF-8. -/
def asText : TransformData → Except Error String
  | .xml document => .ok document
  | .octets data =>
    match Text.Utf8.decode data with
    | .ok text => .ok text
    | .error fault => .error (.transform ("invalid UTF-8: " ++ fault.message))

/-- The data as octets; a document is written by the canonicalizer for Canonical XML 1.0. -/
def toOctets (canonicalizers : Registry Canonicalizer) :
    TransformData → Traced (Except Error Octets)
  | .octets data => return .ok data
  | .xml document => do
    match ← canonicalizers.create Algorithm.c14n with
    | .error e => return .error e
    | .ok canonicalizer =>
      Traced.record (.canonicalized Algorithm.c14n)
      return canonicalizer.canonicalize document []

end TransformData

/-- One step in the processing of a reference. -/
structure Transform where
  execute : TransformData → Params → Registry Canonicalizer → Traced (Except Error TransformData)

namespace Transform

/-- The transform that only computes. -/
def pure (f : TransformData → Params → Except Error TransformData) : Transform :=
  ⟨fun data params _ => return f data params⟩

/-- The transform that changes nothing. -/
def identity : Transform :=
  .pure fun data _ => .ok data

end Transform

end DsigRegistry
