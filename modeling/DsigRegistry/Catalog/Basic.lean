import DsigRegistry.Implementation

/-!
# Catalogs

A catalog knows implementations by their identifiers. Some it can only name: they need something
that is not there. Providing an implementation or declaring one unavailable replaces whatever the
catalog knew under the identifier.
-/

namespace DsigRegistry

/-- What a catalog knows under an identifier. -/
inductive CatalogEntry where
  | available (implementation : Implementation)
  /-- The implementation needs something that is not there. -/
  | unavailable (category : Category) (dependency : String)

/-- The category of the implementation. -/
def CatalogEntry.category : CatalogEntry → Category
  | .available implementation => implementation.category
  | .unavailable category _ => category

/-- Implementations by identifier. -/
structure Catalog where
  entries : Dictionary CatalogEntry

namespace Catalog

/-- No implementations. -/
def empty : Catalog := ⟨.empty⟩

/-- The catalog with an implementation under the identifier. -/
def provide (k : Catalog) (id : String) (implementation : Implementation) : Catalog :=
  ⟨k.entries.insert id (.available implementation)⟩

/-- The catalog with the identifier as the name of an implementation that is not there. -/
def declareUnavailable (k : Catalog) (id : String) (category : Category) (dependency : String) :
    Catalog :=
  ⟨k.entries.insert id (.unavailable category dependency)⟩

/-- The catalog knows the identifier. -/
def contains (k : Catalog) (id : String) : Bool :=
  k.entries.contains id

/-- The catalog has the implementation. -/
def isAvailable (k : Catalog) (id : String) : Bool :=
  match k.entries.get? id with
  | some (.available _) => true
  | _ => false

/-- The category of the implementation. -/
def categoryOf? (k : Catalog) (id : String) : Option Category :=
  (k.entries.get? id).map CatalogEntry.category

/-- The identifiers in ascending order. -/
def ids (k : Catalog) : List String := k.entries.keys

/-- The constructor for an entry of the category that is to be registered under `id`. That the
implementation is of another category is found before that it is not there. -/
def resolve (k : Catalog) (category : Category) (id implementation : String) :
    Except RegistrationError (Factory category.Interface) :=
  match k.entries.get? implementation with
  | none => .error (.unresolvable category id implementation .notFound)
  | some (.unavailable found dependency) =>
    if found = category then
      .error (.unresolvable category id implementation (.missingDependency dependency))
    else .error (.capabilityMismatch id implementation category found)
  | some (.available i) =>
    match i.factoryFor? category with
    | some factory => .ok factory
    | none => .error (.capabilityMismatch id implementation category i.category)

end Catalog

end DsigRegistry
