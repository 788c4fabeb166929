import DsigRegistry.AlgorithmRegistry.Basic
import DsigRegistry.Proofs.Traced

/-!
# Registrations

What the calls that register something answer and add to the journal, and what they leave alone.
-/

namespace DsigRegistry

variable {α : Type}

namespace Registry

/-- Registering a descriptor calls its constructor once. The descriptor is entered if that works. -/
theorem register_apply (r : Registry α) (id : String) (d : Descriptor α) (j : Journal) :
    r.register id d j =
      match d.factory.build (j.constructions d.factory.id) with
      | .error cause =>
        (.error (.unresolvable r.category id d.implementation (.construction cause)),
          j ++ [.constructed d.factory.id])
      | .ok _ =>
        (.ok (r.put id d),
          j ++ [.constructed d.factory.id,
            .reported (.registered r.category id d.implementation (r.contains id))]) := by
  unfold register Descriptor.instantiate
  rw [Traced.bind_apply, Traced.construct_apply]
  cases d.factory.build (j.constructions d.factory.id) with
  | error cause => rfl
  | ok x => simp

theorem register_causal (r : Registry α) (id : String) (d : Descriptor α) :
    (r.register id d).Causal := by
  unfold register
  refine (Traced.Causal.construct d.factory).bind fun built => ?_
  cases built with
  | error cause => exact .pure _
  | ok x => exact (Traced.Causal.report _).bind fun _ => .pure _

/-- A registration that is made enters the descriptor. -/
theorem eq_put_of_register_ok {r r' : Registry α} {id : String} {d : Descriptor α} {j : Journal}
    (h : (r.register id d j).1 = .ok r') : r' = r.put id d := by
  rw [register_apply] at h
  split at h
  next => cases h
  next => exact (Except.ok.inj h).symm

@[simp] theorem category_put (r : Registry α) (id : String) (d : Descriptor α) :
    (r.put id d).category = r.category := rfl

theorem mem_of_lookup? {r : Registry α} {id : String} {d : Descriptor α}
    (h : r.lookup? id = some d) : (id, d) ∈ r.entries := by
  obtain ⟨e, he, rfl⟩ := Option.map_eq_some_iff.1 h
  have hid : e.1 = id := by simpa using List.find?_some he
  exact hid ▸ List.mem_of_find?_eq_some he

theorem contains_eq_true_iff {r : Registry α} {id : String} :
    r.contains id = true ↔ id ∈ r.ids := by
  simp [contains, ids]

theorem contains_eq_isSome_lookup? (r : Registry α) (id : String) :
    r.contains id = (r.lookup? id).isSome := by
  rw [lookup?, Option.isSome_map, List.isSome_find?, contains]

theorem contains_put (r : Registry α) (id id' : String) (d : Descriptor α) :
    (r.put id d).contains id' = (r.contains id' || id == id') := by
  rw [contains_eq_isSome_lookup?, contains_eq_isSome_lookup?, lookup?_put]
  split
  next hid => rw [hid, beq_self_eq_true, Bool.or_true, Option.isSome_some]
  next hid => rw [beq_false_of_ne hid, Bool.or_false]

end Registry

@[simp] theorem Descriptor.implementation_described (implementation : String) (factory : Factory α)
    (description : Option String) :
    (described implementation factory description).implementation = implementation := by
  cases description <;> rfl

@[simp] theorem Descriptor.factory_described (implementation : String) (factory : Factory α)
    (description : Option String) :
    (described implementation factory description).factory = factory := by
  cases description <;> rfl

theorem Descriptor.description_described {factory : Factory α} {implementation : String}
    {description : Option String} (h : description ≠ some "") :
    (described implementation factory description).description = description := by
  cases description with
  | none => rfl
  | some text =>
    have htext : text ≠ "" := fun htext => h (by rw [htext])
    simp [described, withDescription, htext]

/-- The catalog refuses an entry with an error that names it. -/
theorem Catalog.names_of_resolve_error {k : Catalog} {c : Category} {id implementation : String}
    {e : RegistrationError} (h : k.resolve c id implementation = .error e) :
    e.id = id ∧ e.implementation = implementation := by
  unfold resolve at h
  repeat' split at h
  all_goals cases h <;> exact ⟨rfl, rfl⟩

namespace AlgorithmRegistry

/-! ### The other parts of the registry -/

variable (a : AlgorithmRegistry) (c : Category) (r : Registry c.Interface)

@[simp] theorem catalog_withRegistry : (a.withRegistry c r).catalog = a.catalog := by
  cases c <;> rfl

@[simp] theorem prefixes_withRegistry : (a.withRegistry c r).prefixes = a.prefixes := by
  cases c <;> rfl

@[simp] theorem locale_withRegistry : (a.withRegistry c r).locale = a.locale := by
  cases c <;> rfl

@[simp] theorem providerMappings_withRegistry :
    (a.withRegistry c r).providerMappings = a.providerMappings := by
  cases c <;> rfl

@[simp] theorem report_withRegistry : (a.withRegistry c r).report = a.report := by
  cases c <;> rfl

/-! ### Registering from the catalog -/

variable (id implementation : String) (description : Option String)

/-- The registry with the descriptor of an implementation entered under the identifier. -/
def withDescribed (factory : Factory c.Interface) : AlgorithmRegistry :=
  a.withRegistry c ((a.registry c).put id (.described implementation factory description))

/-- An entry is refused by the catalog, before anything happens, or by its constructor, which is
called once; otherwise its descriptor is entered. -/
theorem registerDescribed_apply (j : Journal) :
    a.registerDescribed c id implementation description j =
      match a.catalog.resolve c id implementation with
      | .error e => (.error e, j)
      | .ok factory =>
        match factory.build (j.constructions factory.id) with
        | .error cause =>
          (.error (.unresolvable (a.registry c).category id implementation (.construction cause)),
            j ++ [.constructed factory.id])
        | .ok _ =>
          (.ok (a.withDescribed c id implementation description factory),
            j ++ [.constructed factory.id,
              .reported (.registered (a.registry c).category id implementation
                ((a.registry c).contains id))]) := by
  unfold registerDescribed
  cases a.catalog.resolve c id implementation with
  | error e => rfl
  | ok factory =>
    simp only [register, Traced.bind_apply, Registry.register_apply,
      Descriptor.implementation_described, Descriptor.factory_described]
    cases factory.build (j.constructions factory.id) with
    | error cause => rfl
    | ok x => rfl

/-- A request is registered, and its descriptor entered, or refused with an error that names it. -/
theorem registerDescribed_cases (j : Journal) :
    (∃ factory, (a.registerDescribed c id implementation description j).1 =
      .ok (a.withDescribed c id implementation description factory)) ∨
    ∃ e, (a.registerDescribed c id implementation description j).1 = .error e ∧
      e.id = id ∧ e.implementation = implementation := by
  rw [registerDescribed_apply]
  cases hr : a.catalog.resolve c id implementation with
  | error e => exact .inr ⟨e, rfl, Catalog.names_of_resolve_error hr⟩
  | ok factory =>
    dsimp only
    cases factory.build (j.constructions factory.id) with
    | error cause => exact .inr ⟨_, rfl, rfl, rfl⟩
    | ok x => exact .inl ⟨factory, rfl⟩

theorem registerDescribed_causal :
    (a.registerDescribed c id implementation description).Causal := by
  unfold registerDescribed
  cases a.catalog.resolve c id implementation with
  | error e => exact .pure _
  | ok factory =>
    refine (Registry.register_causal _ _ _).bind fun outcome => ?_
    cases outcome with
    | error e => exact .pure _
    | ok r => exact .pure _

theorem setPrefix_causal (uri label : String) : (a.setPrefix uri label).Causal := by
  unfold setPrefix
  cases a.prefixes.bind uri label with
  | error conflict => exact .pure _
  | ok prefixes => exact (Traced.Causal.report _).bind fun _ => .pure _

/-! ### Answers -/

variable {a c id implementation description} {j j' : Journal}

/-- What is registered is what the catalog has. -/
theorem exists_resolve_of_ok {b : AlgorithmRegistry}
    (h : a.registerDescribed c id implementation description j = (.ok b, j')) :
    ∃ factory, a.catalog.resolve c id implementation = .ok factory ∧
      b = a.withDescribed c id implementation description factory := by
  rw [registerDescribed_apply] at h
  cases hr : a.catalog.resolve c id implementation with
  | error e =>
    rw [hr] at h
    cases h
  | ok factory =>
    simp only [hr] at h
    split at h
    next => cases h
    next =>
      cases h
      exact ⟨factory, rfl, rfl⟩

theorem exists_factory_of_ok {b : AlgorithmRegistry}
    (h : a.registerDescribed c id implementation description j = (.ok b, j')) :
    ∃ factory, b = a.withDescribed c id implementation description factory :=
  (exists_resolve_of_ok h).imp fun _ => And.right

theorem names_of_error {e : RegistrationError}
    (h : a.registerDescribed c id implementation description j = (.error e, j')) :
    e.id = id ∧ e.implementation = implementation := by
  rcases a.registerDescribed_cases c id implementation description j with
    ⟨factory, hok⟩ | ⟨e', herror, hnames⟩
  · rw [h] at hok
    cases hok
  · rw [h] at herror
    cases herror
    exact hnames

theorem report_registerDescribed {b : AlgorithmRegistry}
    (h : a.registerDescribed c id implementation description j = (.ok b, j')) :
    b.report = a.report := by
  obtain ⟨factory, rfl⟩ := exists_factory_of_ok h
  exact report_withRegistry a c _

end AlgorithmRegistry

end DsigRegistry
