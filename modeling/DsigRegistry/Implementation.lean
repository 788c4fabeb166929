import DsigRegistry.Key.Resolver
import DsigRegistry.Resource.Basic
import DsigRegistry.Signature.Basic
import DsigRegistry.Transform.Basic

/-!
# Implementations

Each category has an interface, the type of what it registers. An implementation is a constructor
together with the category whose interface its values have.
-/

namespace DsigRegistry

/-- The type of what is registered in a category. -/
abbrev Category.Interface : Category → Type
  | .canonicalizer => Canonicalizer
  | .transform => Transform
  | .signatureAlgorithm => SignatureAlgorithm
  | .resourceResolver => ResourceResolver
  | .keyResolver => KeyResolver

/-- A constructor for one of the categories. -/
structure Implementation where
  category : Category
  factory : Factory category.Interface

namespace Implementation

/-- The implementation that always gives the same value. -/
def const (id : FactoryId) (category : Category) (value : category.Interface) : Implementation :=
  ⟨category, .const id value⟩

/-- The constructor, if it is one for the category. -/
def factoryFor? (i : Implementation) (c : Category) : Option (Factory c.Interface) :=
  if h : i.category = c then some (h ▸ i.factory) else none

/-- The implementation whose constructor is restricted to `n` successes. -/
def failingAfter (i : Implementation) (n : Nat) (error : Error) : Implementation :=
  { i with factory := i.factory.failingAfter n error }

@[simp] theorem factoryFor?_self (i : Implementation) : i.factoryFor? i.category = some i.factory :=
  dif_pos rfl

/-- An implementation is of use to its own category only. -/
theorem isSome_factoryFor? (i : Implementation) (c : Category) :
    (i.factoryFor? c).isSome = (i.category = c) := by
  unfold factoryFor?
  split <;> simp_all

theorem category_of_factoryFor? {i : Implementation} {c : Category} {factory : Factory c.Interface}
    (h : i.factoryFor? c = some factory) : i.category = c := by
  have hsome := i.isSome_factoryFor? c
  rw [h] at hsome
  simpa using hsome

end Implementation

end DsigRegistry
