import DsigRegistry.Error
import DsigRegistry.Key.Basic

/-!
# Key resolvers

A key resolver claims the descriptions it can handle and turns them into keys.
-/

namespace DsigRegistry

/-- Turns descriptions of keys into keys. -/
structure KeyResolver where
  claims : KeyInfo → Bool
  resolve : KeyInfo → KeyStore → Except Error Key

namespace KeyResolver

/-- The resolver that looks names up in the key store. -/
def keyName : KeyResolver where
  claims
    | .keyName _ => true
    | _ => false
  resolve
    | .keyName name, keys =>
      match keys.find? name with
      | some key => .ok key
      | none => .error (.keyNotFound name)
    | _, _ => .error (.key "KeyName required")

/-- The resolver that takes the public key out of the description. -/
def keyValue : KeyResolver where
  claims
    | .keyValue _ _ => true
    | _ => false
  resolve
    | .keyValue type der, _ =>
      if der.isEmpty then .error (.key "empty KeyValue") else .ok (.publicKey type der)
    | _, _ => .error (.key "KeyValue required")

end KeyResolver

end DsigRegistry
