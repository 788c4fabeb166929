import DsigRegistry.Journal

/-!
# Registries

A registry binds identifiers to descriptors, and a descriptor knows how to construct an
implementation. Identifiers are listed in the order of their first registration; registering one
again replaces its descriptor in place. A constructor is tried once before its descriptor is
entered, and a failing one leaves the registry as it was.
-/

namespace DsigRegistry

variable {α : Type}

/-- A constructor. It may answer differently on each call: `build n` is its answer after `n`
earlier calls, counted over every copy of the factory. -/
structure Factory (α : Type) where
  id : FactoryId
  build : Nat → Except Error α

namespace Factory

/-- The constructor that always gives the same value. -/
def const (id : FactoryId) (value : α) : Factory α :=
  ⟨id, fun _ => .ok value⟩

/-- The constructor answers the same way on each call. -/
def Steady (f : Factory α) : Prop :=
  ∀ m n, f.build m = f.build n

/-- The constructor restricted to `n` successes; from then on it fails. -/
def failingAfter (f : Factory α) (n : Nat) (error : Error) : Factory α :=
  ⟨f.id, fun calls => if calls < n then f.build calls else .error error⟩

/-- Call the constructor. -/
def construct (f : Factory α) : Traced (Except Error α) := do
  let calls := (← get).constructions f.id
  Traced.record (.constructed f.id)
  return f.build calls

end Factory

/-- A handle to one implementation, good for any number of instances. -/
structure Descriptor (α : Type) where
  implementation : String
  description : Option String := none
  factory : Factory α

namespace Descriptor

/-- The descriptor with another description; an empty one counts as none. -/
def withDescription (d : Descriptor α) (description : String) : Descriptor α :=
  { d with description := if description = "" then none else some description }

/-- The handle to an implementation, with a description if there is one. -/
def described (implementation : String) (factory : Factory α) (description : Option String) :
    Descriptor α :=
  let plain : Descriptor α := ⟨implementation, none, factory⟩
  match description with
  | none => plain
  | some description => plain.withDescription description

/-- A new instance of the implementation. -/
def instantiate (d : Descriptor α) : Traced (Except Error α) :=
  d.factory.construct

/-- The descriptor as diagnostics show it. -/
def text (d : Descriptor α) : String :=
  Text.partialRecord "Descriptor"
    [("implementation", Text.quote d.implementation),
     ("description", Text.quoteOption d.description)]

end Descriptor

/-- Descriptors under identifiers, in the order of first registration. -/
structure Registry (α : Type) where
  category : Category
  entries : List (String × Descriptor α)

namespace Registry

/-- Nothing is registered. -/
def empty (category : Category) : Registry α := ⟨category, []⟩

/-- The descriptor registered under the identifier. -/
def lookup? (r : Registry α) (id : String) : Option (Descriptor α) :=
  (r.entries.find? fun e => e.1 == id).map (·.2)

/-- Something is registered under the identifier. -/
def contains (r : Registry α) (id : String) : Bool :=
  r.entries.any fun e => e.1 == id

/-- The identifiers in the order of their first registration. -/
def ids (r : Registry α) : List String :=
  r.entries.map (·.1)

/-- The number of identifiers. -/
def size (r : Registry α) : Nat :=
  r.entries.length

/-- Nothing is registered. -/
def isEmpty (r : Registry α) : Bool :=
  r.entries.isEmpty

/-- Enter a descriptor: in place of the one under the same identifier, or at the end. -/
def putEntry (id : String) (d : Descriptor α) :
    List (String × Descriptor α) → List (String × Descriptor α)
  | [] => [(id, d)]
  | e :: es => if e.1 = id then (id, d) :: es else e :: putEntry id d es

/-- The registry with the descriptor under the identifier. -/
def put (r : Registry α) (id : String) (d : Descriptor α) : Registry α :=
  { r with entries := putEntry id d r.entries }

/-- Register a descriptor whose constructor works. -/
def register (r : Registry α) (id : String) (d : Descriptor α) :
    Traced (Except RegistrationError (Registry α)) := do
  match ← d.instantiate with
  | .error cause =>
    return .error (.unresolvable r.category id d.implementation (.construction cause))
  | .ok _ =>
    Traced.report (.registered r.category id d.implementation (r.contains id))
    return .ok (r.put id d)

/-- A new instance of what is registered under the identifier. -/
def create (r : Registry α) (id : String) : Traced (Except Error α) :=
  match r.lookup? id with
  | some d => d.instantiate
  | none => return .error (.unsupportedAlgorithm (r.category.label ++ ": " ++ id))

/-- The registry as diagnostics show it. -/
def text (r : Registry α) : String :=
  Text.record "Registry"
    [("category", r.category.name), ("ids", Text.bracketed (r.ids.map Text.quote))]

/-! ### The effect of a registration on the entries -/

theorem find?_putEntry (id id' : String) (d : Descriptor α) (es : List (String × Descriptor α)) :
    (putEntry id d es).find? (fun e => e.1 == id') =
      if id = id' then some (id, d) else es.find? fun e => e.1 == id' := by
  induction es with
  | nil => by_cases h : id = id' <;> simp [putEntry, h]
  | cons e es ih =>
    simp only [putEntry]
    split
    next he => by_cases h : id = id' <;> simp_all
    next he =>
      by_cases h' : e.1 = id'
      · have : id ≠ id' := fun h => he (h'.trans h.symm)
        simp [h', this]
      · simp [h', ih]

/-- Only the identifier that is registered changes its descriptor. -/
theorem lookup?_put (r : Registry α) (id id' : String) (d : Descriptor α) :
    (r.put id d).lookup? id' = if id = id' then some d else r.lookup? id' := by
  simp only [lookup?, put, find?_putEntry]
  split <;> rfl

theorem map_putEntry (id : String) (d : Descriptor α) (es : List (String × Descriptor α)) :
    (putEntry id d es).map (·.1) =
      if id ∈ es.map (·.1) then es.map (·.1) else es.map (·.1) ++ [id] := by
  induction es with
  | nil => simp [putEntry]
  | cons e es ih =>
    simp only [putEntry]
    split
    next he => simp [he]
    next he =>
      rw [List.map_cons, List.map_cons, ih]
      by_cases h : id ∈ es.map (·.1)
      · rw [if_pos h, if_pos (List.mem_cons_of_mem _ h)]
      · rw [if_neg h, if_neg fun h' => (List.mem_cons.1 h').elim (fun h' => he h'.symm) h]
        rfl

/-- A new identifier goes to the end and a known one keeps its place. -/
theorem ids_put (r : Registry α) (id : String) (d : Descriptor α) :
    (r.put id d).ids = if id ∈ r.ids then r.ids else r.ids ++ [id] :=
  map_putEntry id d r.entries

end Registry

end DsigRegistry
