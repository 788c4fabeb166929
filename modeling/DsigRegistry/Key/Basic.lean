import DsigRegistry.Text.Utf8
import DsigRegistry.Text.Quoted

/-!
# Keys

Key material, the descriptions of keys that a signature carries, and the named keys that are
available to one operation. Diagnostics show no secret octets.
-/

namespace DsigRegistry

/-- Key material. The keys of a pair stay in their encoding, with the URI of their type. -/
inductive Key where
  /-- A shared secret. -/
  | secret (octets : Octets)
  | publicKey (type : String) (der : Octets)
  | privateKey (type : String) (der : Octets)
deriving DecidableEq

namespace Key

/-- The octets of a shared secret. -/
def secret? : Key → Option Octets
  | .secret octets => some octets
  | .publicKey .. | .privateKey .. => none

/-- The type of a key of a pair. -/
def type? : Key → Option String
  | .secret _ => none
  | .publicKey type _ | .privateKey type _ => some type

/-- The key as diagnostics show it. -/
def text : Key → String
  | .secret octets => "Secret(" ++ toString octets.length ++ " bytes)"
  | .publicKey type der =>
    Text.record "Public" [("key_type", Text.quote type), ("len", toString der.length)]
  | .privateKey type _ => Text.partialRecord "Private" [("key_type", Text.quote type)]

end Key

/-- A description of a key in a signature. -/
inductive KeyInfo where
  | keyName (name : String)
  /-- The key itself, with the URI of its type. -/
  | keyValue (type : String) (der : Octets)
  | x509Certificate (der : Octets)
  | retrievalMethod (uri : String)
deriving DecidableEq

/-- The description as diagnostics show it. -/
def KeyInfo.text : KeyInfo → String
  | .keyName name => "KeyName(" ++ Text.quote name ++ ")"
  | .keyValue type der =>
    Text.record "KeyValue"
      [("key_type", Text.quote type), ("der", Text.bracketed (der.map fun b => toString b.toNat))]
  | .x509Certificate der =>
    "X509Certificate(" ++ Text.bracketed (der.map fun b => toString b.toNat) ++ ")"
  | .retrievalMethod uri => "RetrievalMethod(" ++ Text.quote uri ++ ")"

/-- Named keys, the latest first. -/
structure KeyStore where
  keys : List (String × Key)
deriving DecidableEq

namespace KeyStore

/-- No keys. -/
def empty : KeyStore := ⟨[]⟩

/-- Add a key, which shadows the earlier ones of its name. -/
def add (s : KeyStore) (name : String) (key : Key) : KeyStore :=
  ⟨(name, key) :: s.keys⟩

/-- The store after adding the keys in order. -/
def ofList (keys : List (String × Key)) : KeyStore :=
  keys.foldl (fun s (name, key) => s.add name key) empty

/-- The latest key of the name. -/
def find? (s : KeyStore) (name : String) : Option Key :=
  (s.keys.find? fun k => k.1 == name).map (·.2)

/-- The number of keys, the shadowed ones included. -/
def size (s : KeyStore) : Nat := s.keys.length

/-- The store has no keys. -/
def isEmpty (s : KeyStore) : Bool := s.keys.isEmpty

/-- The store as diagnostics show it. -/
def text (s : KeyStore) : String :=
  Text.record "KeyStore"
    [("keys", Text.bracketed (s.keys.map fun (name, key) =>
      "(" ++ Text.quote name ++ ", " ++ key.text ++ ")"))]

end KeyStore

end DsigRegistry
