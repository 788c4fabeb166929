import DsigRegistry.Proofs.Registration
import Mathlib.Data.List.Induction
import Mathlib.Data.List.Nodup

/-!
# Histories of registrations

A registry is what the attempts to register something have made of it. An attempt that fails
leaves no trace; of the others, the first one under an identifier settles its place and the last
one its descriptor. What a registry answers about its contents can be told from the list of these.
Main facts: `Registry.entries_ofHistory` and `Registry.contents_by_history`.
-/

namespace DsigRegistry

variable {α : Type}

/-- An attempt to register a descriptor, when what the journal lists has been done. -/
structure Attempt (α : Type) where
  id : String
  descriptor : Descriptor α
  journal : Journal

/-- The constructor works when it is tried. -/
def Attempt.succeeds (t : Attempt α) : Bool :=
  (t.descriptor.instantiate t.journal).1.isOk

namespace History

/-- The identifiers under which something was registered, in the order of the first time. -/
def ids (ts : List (Attempt α)) : List String :=
  ((ts.filter Attempt.succeeds).map (·.id)).eraseDups

/-- What was registered under the identifier the last time. -/
def latest? (ts : List (Attempt α)) (id : String) : Option (Descriptor α) :=
  ((ts.filter Attempt.succeeds).reverse.find? fun t => t.id == id).map (·.descriptor)

/-- The identifiers with what was registered under them the last time. -/
def current (ts : List (Attempt α)) : List (String × Descriptor α) :=
  (ids ts).filterMap fun id => (latest? ts id).map fun d => (id, d)

end History

/-- A value that is added goes to the end of the distinct ones unless it is one of them. -/
theorem eraseDups_concat {β : Type} [BEq β] [LawfulBEq β] (xs : List β) (x : β) :
    (xs ++ [x]).eraseDups = if x ∈ xs.eraseDups then xs.eraseDups else xs.eraseDups ++ [x] := by
  rw [List.eraseDups_append]
  split <;> simp_all [List.removeAll, List.eraseDups_cons]

namespace Registry

/-- The registry after an attempt. -/
def attempt (r : Registry α) (t : Attempt α) : Registry α :=
  match (r.register t.id t.descriptor t.journal).1 with
  | .ok r' => r'
  | .error _ => r

/-- The registry that attempts have made, the earliest first. -/
def ofHistory (c : Category) (ts : List (Attempt α)) : Registry α :=
  ts.foldl attempt (.empty c)

theorem attempt_eq (r : Registry α) (t : Attempt α) :
    r.attempt t = if t.succeeds then r.put t.id t.descriptor else r := by
  have hregister := r.register_apply t.id t.descriptor t.journal
  have hsucceeds : t.succeeds =
      (t.descriptor.factory.build (t.journal.constructions t.descriptor.factory.id)).isOk := rfl
  cases hb : t.descriptor.factory.build (t.journal.constructions t.descriptor.factory.id) with
  | error cause =>
    rw [hb] at hregister hsucceeds
    simp [attempt, hregister, hsucceeds, Except.isOk, Except.toBool]
  | ok x =>
    rw [hb] at hregister hsucceeds
    simp [attempt, hregister, hsucceeds, Except.isOk, Except.toBool]

theorem ofHistory_concat (c : Category) (ts : List (Attempt α)) (t : Attempt α) :
    ofHistory c (ts ++ [t]) = (ofHistory c ts).attempt t := by
  simp [ofHistory]

theorem ids_ofHistory (c : Category) (ts : List (Attempt α)) :
    (ofHistory c ts).ids = History.ids ts := by
  induction ts using List.reverseRecOn with
  | nil => rfl
  | append_singleton ts t ih =>
    rw [ofHistory_concat, attempt_eq]
    cases ht : t.succeeds with
    | false => simpa [History.ids, ht] using ih
    | true =>
      have hids : History.ids (ts ++ [t]) =
          if t.id ∈ History.ids ts then History.ids ts else History.ids ts ++ [t.id] := by
        have hkept : (ts ++ [t]).filter Attempt.succeeds = ts.filter Attempt.succeeds ++ [t] := by
          simp [ht]
        rw [History.ids, hkept, List.map_append, List.map_singleton, eraseDups_concat]
        rfl
      rw [if_pos rfl, ids_put, ih, hids]

theorem lookup?_ofHistory (c : Category) (ts : List (Attempt α)) (id : String) :
    (ofHistory c ts).lookup? id = History.latest? ts id := by
  induction ts using List.reverseRecOn with
  | nil => rfl
  | append_singleton ts t ih =>
    rw [ofHistory_concat, attempt_eq]
    cases ht : t.succeeds with
    | false => simpa [History.latest?, ht] using ih
    | true =>
      rw [if_pos rfl, lookup?_put, ih]
      by_cases hid : t.id = id <;> simp [History.latest?, ht, hid]

theorem nodup_ids_put {r : Registry α} (h : r.ids.Nodup) (id : String) (d : Descriptor α) :
    (r.put id d).ids.Nodup := by
  rw [ids_put]
  split
  next => exact h
  next hid =>
    refine List.nodup_append.2 ⟨h, List.nodup_singleton id, ?_⟩
    intro id' hid' id'' hid''
    obtain rfl := List.mem_singleton.1 hid''
    intro heq
    exact hid (heq ▸ hid')

theorem nodup_ids_ofHistory (c : Category) (ts : List (Attempt α)) :
    (ofHistory c ts).ids.Nodup := by
  induction ts using List.reverseRecOn with
  | nil => exact .nil
  | append_singleton ts t ih =>
    rw [ofHistory_concat, attempt_eq]
    split
    next => exact nodup_ids_put ih t.id t.descriptor
    next => exact ih

/-- Where no identifier occurs twice, each descriptor is found under its identifier. -/
theorem lookup?_of_mem {r : Registry α} (h : r.ids.Nodup) {e : String × Descriptor α}
    (he : e ∈ r.entries) : r.lookup? e.1 = some e.2 := by
  obtain ⟨before, after, hsplit⟩ := List.append_of_mem he
  have hbefore : ∀ x ∈ before, x.1 ≠ e.1 := by
    intro x hx hxe
    rw [ids, hsplit, List.map_append, List.map_cons, List.nodup_append] at h
    exact h.2.2 x.1 (List.mem_map_of_mem hx) e.1 List.mem_cons_self hxe
  have hfind : r.entries.find? (fun x => x.1 == e.1) = some e := by
    rw [List.find?_eq_some_iff_append]
    exact ⟨by simp, before, after, hsplit, by simpa using hbefore⟩
  rw [lookup?, hfind, Option.map_some]

theorem entries_eq_filterMap {r : Registry α} (h : r.ids.Nodup) :
    r.entries = r.ids.filterMap fun id => (r.lookup? id).map fun d => (id, d) := by
  rw [ids, List.filterMap_map]
  symm
  calc r.entries.filterMap _ = r.entries.filterMap some :=
        List.filterMap_congr fun e he => by simp [lookup?_of_mem h he]
    _ = r.entries := List.filterMap_some

/-- An attempt that fails leaves no trace; of the others, the first one under an identifier
settles its place and the last one its descriptor. -/
theorem entries_ofHistory (c : Category) (ts : List (Attempt α)) :
    (ofHistory c ts).entries = History.current ts := by
  rw [entries_eq_filterMap (nodup_ids_ofHistory c ts), ids_ofHistory]
  simp only [lookup?_ofHistory, History.current]

theorem category_ofHistory (c : Category) (ts : List (Attempt α)) :
    (ofHistory c ts).category = c := by
  induction ts using List.reverseRecOn with
  | nil => rfl
  | append_singleton ts t ih =>
    rw [ofHistory_concat, attempt_eq]
    split
    next => exact ih
    next => exact ih

/-! ### What a registry answers -/

variable {r : Registry α} {id : String} {d : Descriptor α}

theorem lookup?_eq_some_iff (h : r.ids.Nodup) : r.lookup? id = some d ↔ (id, d) ∈ r.entries :=
  ⟨mem_of_lookup?, fun he => lookup?_of_mem h he⟩

theorem lookup?_eq_none_iff : r.lookup? id = none ↔ id ∉ r.ids := by
  simp only [lookup?, Option.map_eq_none_iff, List.find?_eq_none, beq_iff_eq, ids, List.mem_map,
    not_exists, not_and]

/-- A registry refuses to construct what it does not know, and otherwise leaves it to the
constructor. -/
theorem create_eq_unsupported_iff {j : Journal} {what : String} :
    (r.create id j).1 = .error (.unsupportedAlgorithm what) ↔
      (id ∉ r.ids ∧ what = r.category.label ++ ": " ++ id) ∨
        ∃ d, r.lookup? id = some d ∧
          (d.instantiate j).1 = .error (.unsupportedAlgorithm what) := by
  unfold create
  cases h : r.lookup? id with
  | none => simp [lookup?_eq_none_iff.1 h, eq_comm]
  | some d =>
    have hid : id ∈ r.ids := by
      by_contra hid
      rw [lookup?_eq_none_iff.2 hid] at h
      contradiction
    simp [hid]

/-- The list has every identifier once, and all that the registry answers about its contents can
be told from the list. -/
structure Lists (r : Registry α) (es : List (String × Descriptor α)) : Prop where
  entries : r.entries = es
  ids : r.ids = es.map (·.1)
  nodup : (es.map (·.1)).Nodup
  size : r.size = es.length
  isEmpty : r.isEmpty = true ↔ es = []
  contains : ∀ id, r.contains id = true ↔ ∃ d, (id, d) ∈ es
  lookup? : ∀ id d, r.lookup? id = some d ↔ (id, d) ∈ es
  unsupported : ∀ id j what, (r.create id j).1 = .error (.unsupportedAlgorithm what) ↔
    ((∀ d, (id, d) ∉ es) ∧ what = r.category.label ++ ": " ++ id) ∨
      ∃ d, (id, d) ∈ es ∧ (d.instantiate j).1 = .error (.unsupportedAlgorithm what)

theorem lists_entries (h : r.ids.Nodup) : r.Lists r.entries where
  entries := rfl
  ids := rfl
  nodup := h
  size := rfl
  isEmpty := List.isEmpty_iff
  contains id := by
    rw [contains_eq_true_iff]
    simp [Registry.ids]
  lookup? id d := lookup?_eq_some_iff h
  unsupported id j what := by
    have hids : id ∈ r.ids ↔ ∃ d, (id, d) ∈ r.entries := by simp [Registry.ids]
    simp only [create_eq_unsupported_iff, hids, not_exists, lookup?_eq_some_iff h]

/-- After any sequence of attempts a registry lists what they have registered: each identifier
once, in the order of the first success under it, with the descriptor of the last one. An attempt
whose constructor fails is refused with an error that names it, and leaves the entries as they
were; any other one succeeds. -/
theorem contents_by_history (c : Category) (ts : List (Attempt α)) :
    (ofHistory c ts).Lists (History.current ts) ∧
    ∀ t : Attempt α,
      match (t.descriptor.instantiate t.journal).1 with
      | .error cause =>
        ((ofHistory c ts).register t.id t.descriptor t.journal).1 =
          .error (.unresolvable c t.id t.descriptor.implementation (.construction cause)) ∧
        (ofHistory c (ts ++ [t])).entries = (ofHistory c ts).entries
      | .ok _ =>
        ((ofHistory c ts).register t.id t.descriptor t.journal).1 =
          .ok (ofHistory c (ts ++ [t])) := by
  constructor
  · rw [← entries_ofHistory c ts]
    exact lists_entries (nodup_ids_ofHistory c ts)
  · intro t
    have hregister := (ofHistory c ts).register_apply t.id t.descriptor t.journal
    rw [category_ofHistory] at hregister
    rw [ofHistory_concat, attempt]
    change match t.descriptor.factory.build _ with | .error _ => _ | .ok _ => _
    cases hb : t.descriptor.factory.build (t.journal.constructions t.descriptor.factory.id) with
    | error cause =>
      rw [hb] at hregister
      rw [hregister]
      exact ⟨rfl, rfl⟩
    | ok x =>
      rw [hb] at hregister
      rw [hregister]

end Registry

end DsigRegistry
