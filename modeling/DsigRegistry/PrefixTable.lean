import DsigRegistry.Dictionary

/-!
# Preferred prefixes

Which prefix to write for a namespace. A prefix belongs to one namespace at a time; a namespace
that is bound again gives up the prefix it had.
-/

namespace DsigRegistry

/-- The prefix is taken by another namespace than the one that asked for it. -/
structure PrefixConflict where
  label : String
  existing : String
  requested : String
deriving DecidableEq

/-- The conflict in words. -/
def PrefixConflict.message (c : PrefixConflict) : String :=
  "prefix '" ++ c.label ++ "' is already assigned to namespace " ++ c.existing

/-- Namespaces with their preferred prefixes. -/
structure PrefixTable where
  bindings : Dictionary String

namespace PrefixTable

/-- No namespace has a prefix. -/
def empty : PrefixTable := ⟨.empty⟩

/-- The first namespace, in ascending order, that has the prefix. -/
def namespaceFor? (t : PrefixTable) (label : String) : Option String :=
  (t.bindings.entries.find? fun b => b.2 == label).map (·.1)

/-- The prefix of a namespace. -/
def prefixFor? (t : PrefixTable) (uri : String) : Option String :=
  t.bindings.get? uri

/-- The first binding of the prefix to another namespace. -/
def conflict? (t : PrefixTable) (uri label : String) : Option PrefixConflict :=
  (t.bindings.entries.find? fun b => b.2 == label && b.1 != uri).map fun b =>
    ⟨label, b.1, uri⟩

/-- Bind the namespace to the prefix, unless another namespace has it. -/
def bind (t : PrefixTable) (uri label : String) : Except PrefixConflict PrefixTable :=
  match t.conflict? uri label with
  | some conflict => .error conflict
  | none => .ok ⟨t.bindings.insert uri label⟩

/-- Every namespace with its prefix, in ascending order of the namespaces. -/
def toList (t : PrefixTable) : List (String × String) :=
  t.bindings.entries

/-- The number of bindings. -/
def size (t : PrefixTable) : Nat :=
  t.bindings.size

/-- The table has no bindings. -/
def isEmpty (t : PrefixTable) : Bool :=
  t.bindings.isEmpty

end PrefixTable

end DsigRegistry
