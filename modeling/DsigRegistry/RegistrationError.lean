import DsigRegistry.Category
import DsigRegistry.Error

/-!
# Registration errors

Why one entry could not be registered. Such a failure concerns that entry only; its siblings are
registered all the same.
-/

namespace DsigRegistry

/-- Why an implementation could not be had. -/
inductive Unresolved where
  /-- The catalog does not know the identifier. -/
  | notFound
  /-- The implementation is known but needs something that is not there. -/
  | missingDependency (dependency : String)
  /-- The constructor failed. -/
  | construction (cause : Error)
deriving DecidableEq

/-- The reason in words. -/
def Unresolved.message : Unresolved → String
  | .notFound => "no such implementation"
  | .missingDependency dependency => "missing dependency: " ++ dependency
  | .construction cause => "construction failed: " ++ cause.message

/-- An entry that could not be registered under `id`. -/
inductive RegistrationError where
  | unresolvable (category : Category) (id implementation : String) (reason : Unresolved)
  /-- The implementation belongs to another category. -/
  | capabilityMismatch (id implementation : String) (expected found : Category)
deriving DecidableEq

namespace RegistrationError

/-- The identifier that was to be registered. -/
def id : RegistrationError → String
  | .unresolvable _ id _ _ | .capabilityMismatch id _ _ _ => id

/-- The implementation that was asked for. -/
def implementation : RegistrationError → String
  | .unresolvable _ _ implementation _ | .capabilityMismatch _ implementation _ _ =>
    implementation

/-- The implementation is known, but something it needs is absent. -/
def isMissingDependency : RegistrationError → Bool
  | .unresolvable _ _ _ (.missingDependency _) => true
  | _ => false

/-- The error in words. -/
def message : RegistrationError → String
  | .unresolvable category id implementation reason =>
    "cannot resolve implementation '" ++ implementation ++ "' for " ++ category.label ++ " " ++ id
      ++ ": " ++ reason.message
  | .capabilityMismatch id implementation expected found =>
    "implementation '" ++ implementation ++ "' for " ++ id ++ " is a " ++ found.label
      ++ ", expected a " ++ expected.label

end RegistrationError

end DsigRegistry
