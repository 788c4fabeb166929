import DsigRegistry.Proofs.Application

/-!
# Prefix tables as bijections

A table is kept from namespaces to prefixes and searched from prefixes to namespaces as well. That
no two namespaces share a prefix is nowhere in its type; it holds because a prefix is bound only
where no other namespace has it. Main fact: `PrefixTable.bijective_after_bindings`.
-/

namespace DsigRegistry

/-- The binding of a key is the one entry with the key. -/
theorem Dictionary.get?_eq_some_iff {α : Type} {d : Dictionary α} {k : String} {v : α} :
    d.get? k = some v ↔ (k, v) ∈ d.entries := by
  constructor
  · intro h
    obtain ⟨e, he, rfl⟩ := Option.map_eq_some_iff.1 h
    have hkey : e.1 = k := by simpa using List.find?_some he
    exact hkey ▸ List.mem_of_find?_eq_some he
  · intro h
    obtain ⟨before, after, hsplit⟩ := List.append_of_mem h
    have hbefore : ∀ e ∈ before, e.1 ≠ k := by
      intro e he
      have hsorted := d.sorted
      rw [hsplit, List.pairwise_append] at hsorted
      exact Std.ne_of_lt (hsorted.2.2 e he (k, v) List.mem_cons_self)
    have hfind : d.entries.find? (fun e => e.1 == k) = some (k, v) := by
      rw [List.find?_eq_some_iff_append]
      exact ⟨by simp, before, after, hsplit, by simpa using hbefore⟩
    rw [get?, hfind, Option.map_some]

namespace PrefixTable

/-- No two namespaces have the same prefix. -/
def Injective (t : PrefixTable) : Prop :=
  ∀ uri uri' label, t.prefixFor? uri = some label → t.prefixFor? uri' = some label → uri = uri'

variable {t t' : PrefixTable} {uri label : String}

theorem prefixFor?_eq_some_iff : t.prefixFor? uri = some label ↔ (uri, label) ∈ t.toList :=
  Dictionary.get?_eq_some_iff

theorem injective_empty : empty.Injective := by
  intro uri uri' label h
  exact absurd h (by simp [prefixFor?, empty])

/-! ### Searching for a prefix -/

/-- Where no two namespaces share a prefix, the first namespace that has one is the only one. -/
theorem namespaceFor?_eq_some_iff (h : t.Injective) :
    t.namespaceFor? label = some uri ↔ t.prefixFor? uri = some label := by
  constructor
  · intro hfound
    obtain ⟨b, hb, rfl⟩ := Option.map_eq_some_iff.1 hfound
    have hlabel : b.2 = label := by simpa using List.find?_some hb
    exact prefixFor?_eq_some_iff.2 (hlabel ▸ List.mem_of_find?_eq_some hb)
  · intro hbound
    have hsome : (t.bindings.entries.find? fun b => b.2 == label).isSome = true := by
      rw [List.find?_isSome]
      exact ⟨(uri, label), prefixFor?_eq_some_iff.1 hbound, by simp⟩
    obtain ⟨b, hb⟩ := Option.isSome_iff_exists.1 hsome
    have hlabel : b.2 = label := by simpa using List.find?_some hb
    have hfirst : t.prefixFor? b.1 = some label :=
      prefixFor?_eq_some_iff.2 (hlabel ▸ List.mem_of_find?_eq_some hb)
    rw [namespaceFor?, hb, Option.map_some, h b.1 uri label hfirst hbound]

theorem conflict?_eq_none_iff :
    t.conflict? uri label = none ↔ ∀ other, t.prefixFor? other = some label → other = uri := by
  simp only [conflict?, Option.map_eq_none_iff, List.find?_eq_none, Bool.and_eq_true, beq_iff_eq,
    bne_iff_ne, not_and, Decidable.not_not, prefixFor?_eq_some_iff, toList]
  constructor
  · intro h other hother
    exact h (other, label) hother rfl
  · rintro h b hb rfl
    exact h b.1 hb

/-- The conflict names the namespace that has the prefix. -/
theorem conflict?_eq_some_iff (h : t.Injective) {c : PrefixConflict} :
    t.conflict? uri label = some c ↔
      ∃ other, other ≠ uri ∧ t.prefixFor? other = some label ∧ c = ⟨label, other, uri⟩ := by
  constructor
  · intro hc
    obtain ⟨b, hb, rfl⟩ := Option.map_eq_some_iff.1 hc
    obtain ⟨hlabel, hother⟩ : b.2 = label ∧ b.1 ≠ uri := by simpa using List.find?_some hb
    exact ⟨b.1, hother,
      prefixFor?_eq_some_iff.2 (hlabel ▸ List.mem_of_find?_eq_some hb), rfl⟩
  · rintro ⟨other, hother, hbound, rfl⟩
    cases hc : t.conflict? uri label with
    | none => exact absurd (conflict?_eq_none_iff.1 hc other hbound) hother
    | some c =>
      obtain ⟨b, hb, rfl⟩ := Option.map_eq_some_iff.1 hc
      have hlabel : b.2 = label := (by simpa using List.find?_some hb : b.2 = label ∧ _).1
      have hfirst : t.prefixFor? b.1 = some label :=
        prefixFor?_eq_some_iff.2 (hlabel ▸ List.mem_of_find?_eq_some hb)
      rw [h b.1 other label hfirst hbound]

/-! ### Binding a namespace -/

theorem bind_eq_error_iff (h : t.Injective) {c : PrefixConflict} :
    t.bind uri label = .error c ↔
      ∃ other, other ≠ uri ∧ t.prefixFor? other = some label ∧ c = ⟨label, other, uri⟩ := by
  rw [← conflict?_eq_some_iff h]
  constructor
  · intro hbind
    cases hc : t.conflict? uri label with
    | none => rw [bind_of_no_conflict hc] at hbind; contradiction
    | some c' => rw [bind_of_conflict hc] at hbind; rw [Except.error.inj hbind]
  · exact bind_of_conflict

/-- A namespace can be bound to a prefix if no other one has it. -/
theorem exists_bind_eq_ok (h : ∀ other, t.prefixFor? other = some label → other = uri) :
    ∃ t', t.bind uri label = .ok t' :=
  ⟨_, bind_of_no_conflict (conflict?_eq_none_iff.2 h)⟩

theorem unused_of_bind_eq_ok (hbind : t.bind uri label = .ok t') :
    ∀ other, t.prefixFor? other = some label → other = uri := by
  cases hc : t.conflict? uri label with
  | none => exact conflict?_eq_none_iff.1 hc
  | some c => rw [bind_of_conflict hc] at hbind; contradiction

/-- Only the namespace that is bound changes its prefix. -/
theorem prefixFor?_of_bind_eq_ok (hbind : t.bind uri label = .ok t') (other : String) :
    t'.prefixFor? other = if uri = other then some label else t.prefixFor? other := by
  have hc := conflict?_eq_none_iff.2 (unused_of_bind_eq_ok hbind)
  rw [bind_of_no_conflict hc] at hbind
  rw [← Except.ok.inj hbind]
  exact Dictionary.get?_insert t.bindings uri other label

theorem Injective.bind (h : t.Injective) (hbind : t.bind uri label = .ok t') : t'.Injective := by
  have hunused := unused_of_bind_eq_ok hbind
  intro first second shared hfirst hsecond
  rw [prefixFor?_of_bind_eq_ok hbind] at hfirst hsecond
  split at hfirst <;> split at hsecond
  next h₁ h₂ => exact h₁.symm.trans h₂
  next h₁ _ =>
    cases hfirst
    exact (h₁.symm.trans (hunused second hsecond).symm)
  next _ h₂ =>
    cases hsecond
    exact (hunused first hfirst).trans h₂
  next => exact h first second shared hfirst hsecond

theorem after_of_bind_eq_ok {m : PrefixMapping} (hbind : t.bind m.uri m.label = .ok t') :
    t.after m = t' := by
  rw [after, hbind]

theorem after_of_bind_eq_error {m : PrefixMapping} {c : PrefixConflict}
    (hbind : t.bind m.uri m.label = .error c) : t.after m = t := by
  rw [after, hbind]

theorem Injective.after (h : t.Injective) (m : PrefixMapping) : (t.after m).Injective := by
  cases hbind : t.bind m.uri m.label with
  | ok t' =>
    rw [after_of_bind_eq_ok hbind]
    exact h.bind hbind
  | error c =>
    rw [after_of_bind_eq_error hbind]
    exact h

theorem Injective.foldl (h : t.Injective) (ms : List PrefixMapping) :
    (ms.foldl PrefixTable.after t).Injective := by
  induction ms generalizing t with
  | nil => exact h
  | cons m ms ih => exact ih (h.after m)

/-- What it means that the namespace was bound to the prefix: it gives up the prefix that it had,
which any namespace may have now, and nothing else changes. -/
structure Rebinds (t t' : PrefixTable) (uri label : String) : Prop where
  bound : t'.prefixFor? uri = some label
  freed : ∀ old, t.prefixFor? uri = some old → old ≠ label →
    t'.namespaceFor? old = none ∧ ∀ other, ∃ taken, t'.bind other old = .ok taken
  others : ∀ other, other ≠ uri → t'.prefixFor? other = t.prefixFor? other
  searches : ∀ l, l ≠ label → t.prefixFor? uri ≠ some l → t'.namespaceFor? l = t.namespaceFor? l

theorem rebinds_of_bind_eq_ok (h : t.Injective) (hbind : t.bind uri label = .ok t') :
    t.Rebinds t' uri label where
  bound := by rw [prefixFor?_of_bind_eq_ok hbind, if_pos rfl]
  freed old hold hne := by
    have hnone : ∀ other, t'.prefixFor? other ≠ some old := by
      intro other hother
      rw [prefixFor?_of_bind_eq_ok hbind] at hother
      split at hother
      next => exact hne (Option.some.inj hother).symm
      next hother' => exact hother' (h uri other old hold hother)
    constructor
    · rw [Option.eq_none_iff_forall_ne_some]
      intro other hfound
      exact hnone other ((namespaceFor?_eq_some_iff (h.bind hbind)).1 hfound)
    · intro other
      exact exists_bind_eq_ok fun _ hother => absurd hother (hnone _)
  others other hne := by rw [prefixFor?_of_bind_eq_ok hbind, if_neg (Ne.symm hne)]
  searches l hne hold := by
    apply Option.ext
    intro other
    rw [namespaceFor?_eq_some_iff (h.bind hbind), namespaceFor?_eq_some_iff h,
      prefixFor?_of_bind_eq_ok hbind]
    split
    next heq =>
      subst heq
      simp [hold, Ne.symm hne]
    next => rfl

/-- Whatever namespaces have been bound to prefixes in order, successfully or not, the table is a
bijection, and each binding is found from either side. The next one is refused if and only if
another namespace has the prefix; then the conflict names that namespace, and the table stays as it
is. Otherwise the namespace gets the prefix and gives up the one that it had. -/
theorem bijective_after_bindings (ms : List PrefixMapping) :
    let t := ms.foldl after empty
    t.Injective ∧
    (∀ uri label, t.prefixFor? uri = some label ↔ t.namespaceFor? label = some uri) ∧
    (∀ uri label, t.prefixFor? uri = some label ↔ (uri, label) ∈ t.toList) ∧
    ∀ m : PrefixMapping,
      (∀ c, t.bind m.uri m.label = .error c ↔
        ∃ other, other ≠ m.uri ∧ t.prefixFor? other = some m.label ∧
          c = ⟨m.label, other, m.uri⟩) ∧
      (∀ c, t.bind m.uri m.label = .error c → (ms ++ [m]).foldl after empty = t) ∧
      ∀ t', t.bind m.uri m.label = .ok t' →
        (ms ++ [m]).foldl after empty = t' ∧ t.Rebinds t' m.uri m.label := by
  intro t
  have h : t.Injective := injective_empty.foldl ms
  have hnext (m : PrefixMapping) : (ms ++ [m]).foldl after empty = t.after m := by
    rw [List.foldl_append, List.foldl_cons, List.foldl_nil]
  refine ⟨h, fun _ _ => (namespaceFor?_eq_some_iff h).symm, fun _ _ => prefixFor?_eq_some_iff,
    fun m => ⟨fun c => bind_eq_error_iff h, fun c hbind => ?_, fun t' hbind => ⟨?_, ?_⟩⟩⟩
  · rw [hnext, after_of_bind_eq_error hbind]
  · rw [hnext, after_of_bind_eq_ok hbind]
  · exact rebinds_of_bind_eq_ok h hbind

end PrefixTable

end DsigRegistry
