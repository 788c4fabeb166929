/-!
# Dictionaries

Finite maps from text, kept in ascending order of their keys (by code point), so that two
dictionaries with the same bindings are equal and every listing is sorted.
-/

namespace DsigRegistry

variable {α : Type}

/-- Bindings in strictly ascending order of their keys. -/
structure Dictionary (α : Type) where
  entries : List (String × α)
  sorted : entries.Pairwise fun a b => a.1 < b.1

namespace Dictionary

/-- No bindings. -/
def empty : Dictionary α := ⟨[], .nil⟩

/-- Put a binding into its place, over the one that has the key. -/
def insertEntry (k : String) (v : α) : List (String × α) → List (String × α)
  | [] => [(k, v)]
  | e :: es =>
    if k < e.1 then (k, v) :: e :: es
    else if k = e.1 then (k, v) :: es
    else e :: insertEntry k v es

theorem mem_insertEntry {k : String} {v : α} {es : List (String × α)} {x : String × α}
    (h : x ∈ insertEntry k v es) : x = (k, v) ∨ x ∈ es := by
  induction es with
  | nil => simpa [insertEntry] using h
  | cons e es ih =>
    simp only [insertEntry] at h
    split at h
    · simpa using h
    · split at h
      · rcases List.mem_cons.1 h with h | h <;> simp [h]
      · rcases List.mem_cons.1 h with h | h
        · simp [h]
        · rcases ih h with h | h <;> simp [h]

theorem pairwise_insertEntry {k : String} {v : α} {es : List (String × α)}
    (h : es.Pairwise fun a b => a.1 < b.1) :
    (insertEntry k v es).Pairwise fun a b => a.1 < b.1 := by
  induction es with
  | nil => simp [insertEntry]
  | cons e es ih =>
    obtain ⟨he, hes⟩ := List.pairwise_cons.1 h
    simp only [insertEntry]
    split
    next hk =>
      refine List.pairwise_cons.2 ⟨fun x hx => ?_, h⟩
      rcases List.mem_cons.1 hx with rfl | hx
      · exact hk
      · exact String.lt_trans hk (he x hx)
    next hk =>
      split
      next hke => exact List.pairwise_cons.2 ⟨fun x hx => hke ▸ he x hx, hes⟩
      next hke =>
        refine List.pairwise_cons.2 ⟨fun x hx => ?_, ih hes⟩
        rcases mem_insertEntry hx with rfl | hx
        · exact Std.lt_of_le_of_ne (String.not_lt.1 hk) (Ne.symm hke)
        · exact he x hx

/-- Bind the key to the value, whatever it was bound to. -/
def insert (d : Dictionary α) (k : String) (v : α) : Dictionary α :=
  ⟨insertEntry k v d.entries, pairwise_insertEntry d.sorted⟩

/-- The value of a key. -/
def get? (d : Dictionary α) (k : String) : Option α :=
  (d.entries.find? fun e => e.1 == k).map (·.2)

/-- The key has a value. -/
def contains (d : Dictionary α) (k : String) : Bool :=
  (d.get? k).isSome

/-- The keys in ascending order. -/
def keys (d : Dictionary α) : List String :=
  d.entries.map (·.1)

/-- The number of bindings. -/
def size (d : Dictionary α) : Nat :=
  d.entries.length

/-- The dictionary has no bindings. -/
def isEmpty (d : Dictionary α) : Bool :=
  d.entries.isEmpty

/-- Bindings in the order given; later ones replace earlier ones of the same key. -/
def ofList (bindings : List (String × α)) : Dictionary α :=
  bindings.foldl (fun d (k, v) => d.insert k v) empty

@[simp] theorem get?_empty (k : String) : (empty : Dictionary α).get? k = none := rfl

theorem find?_insertEntry (k k' : String) (v : α) (es : List (String × α)) :
    (insertEntry k v es).find? (fun e => e.1 == k') =
      if k = k' then some (k, v) else es.find? fun e => e.1 == k' := by
  induction es with
  | nil => by_cases h : k = k' <;> simp [insertEntry, h]
  | cons e es ih =>
    simp only [insertEntry]
    split
    · by_cases h : k = k' <;> simp [h]
    · split
      next hk => by_cases h : k = k' <;> simp_all
      next hk =>
        by_cases he : e.1 = k'
        · have : k ≠ k' := fun h => hk (h.trans he.symm)
          simp [he, this]
        · simp [he, ih]

/-- Only the inserted key changes its value. -/
theorem get?_insert (d : Dictionary α) (k k' : String) (v : α) :
    (d.insert k v).get? k' = if k = k' then some v else d.get? k' := by
  simp only [get?, insert, find?_insertEntry]
  split <;> rfl

theorem get?_foldl_insert (bindings : List (String × α)) (d : Dictionary α) (k : String) :
    (bindings.foldl (fun d (k, v) => d.insert k v) d).get? k =
      ((bindings.reverse.find? fun b => b.1 == k).map (·.2)).or (d.get? k) := by
  induction bindings generalizing d with
  | nil => rfl
  | cons b bindings ih =>
    rw [List.foldl_cons, ih, get?_insert, List.reverse_cons, List.find?_append]
    cases bindings.reverse.find? fun b => b.1 == k with
    | some found => rfl
    | none => by_cases hb : b.1 = k <;> simp [hb]

/-- The last binding of a key is the one that counts. -/
theorem get?_ofList (bindings : List (String × α)) (k : String) :
    (ofList bindings).get? k = (bindings.reverse.find? fun b => b.1 == k).map (·.2) := by
  rw [ofList, get?_foldl_insert, get?_empty, Option.or_none]

theorem mem_of_get?_ofList {bindings : List (String × α)} {k : String} {v : α}
    (h : (ofList bindings).get? k = some v) : (k, v) ∈ bindings := by
  rw [get?_ofList] at h
  obtain ⟨b, hb, rfl⟩ := Option.map_eq_some_iff.1 h
  have hkey : b.1 = k := by simpa using List.find?_some hb
  exact hkey ▸ List.mem_reverse.1 (List.mem_of_find?_eq_some hb)

end Dictionary

end DsigRegistry
