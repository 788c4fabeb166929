import DsigRegistry.Registry

/-!
# Laws of traced computations

What a traced computation is applied to a journal, and three properties that most computations
of this library have. A *causal* computation only adds to the journal, and nothing in the journal
matters to it but how often each constructor has been called. A computation *yields* a value if it
answers it whatever has been done before. A computation *respects* a way in which journals are alike
if it cannot tell such journals apart and leaves them alike; an *indifferent* one takes no notice of
the constructors that have been called, and one that *ignores* a constructor none of that one.
-/

namespace DsigRegistry

variable {α β σ : Type}

/-- The constructor that an action calls. -/
def Action.factory? : Action → Option FactoryId
  | .constructed factory => some factory
  | _ => none

namespace Journal

/-- The constructors that were called, in order. -/
def factories (j : Journal) : List FactoryId :=
  j.filterMap Action.factory?

/-- What was done, but for the calls of constructors. -/
def work (j : Journal) : Journal :=
  j.filter fun action => action.factory?.isNone

@[simp] theorem work_append (j done : Journal) : (j ++ done).work = j.work ++ done.work :=
  List.filter_append ..

/-- What was done, but for the calls of one constructor. -/
def without (j : Journal) (factory : FactoryId) : Journal :=
  j.filter fun action => action ≠ .constructed factory

@[simp] theorem without_append (j done : Journal) (factory : FactoryId) :
    (j ++ done).without factory = j.without factory ++ done.without factory :=
  List.filter_append ..

/-- Journals that are alike remain so when the same is added to both. -/
def Lasting (Alike : Journal → Journal → Prop) : Prop :=
  ∀ ⦃j j' : Journal⦄, Alike j j' → ∀ done, Alike (j ++ done) (j' ++ done)

theorem lasting_work : Lasting fun j j' => j.work = j'.work := by
  intro j j' h done
  rw [work_append, work_append, h]

theorem lasting_without (factory : FactoryId) :
    Lasting fun j j' => j.without factory = j'.without factory := by
  intro j j' h done
  rw [without_append, without_append, h]

/-- Every constructor has been called as often in one journal as in the other. -/
def SameConstructions (j j' : Journal) : Prop :=
  ∀ factory, j.constructions factory = j'.constructions factory

theorem constructions_append (j done : Journal) (factory : FactoryId) :
    (j ++ done).constructions factory = j.constructions factory + done.constructions factory :=
  List.count_append

theorem SameConstructions.refl (j : Journal) : j.SameConstructions j :=
  fun _ => rfl

theorem SameConstructions.trans {j j' j'' : Journal} (h : j.SameConstructions j')
    (h' : j'.SameConstructions j'') : j.SameConstructions j'' :=
  fun factory => (h factory).trans (h' factory)

theorem SameConstructions.append {j j' : Journal} (h : j.SameConstructions j') (done : Journal) :
    (j ++ done).SameConstructions (j' ++ done) := by
  intro factory
  rw [constructions_append, constructions_append, h factory]

/-- Actions that are no calls of constructors make no difference. -/
theorem sameConstructions_append {done : Journal}
    (h : ∀ factory, Action.constructed factory ∉ done) (j : Journal) :
    j.SameConstructions (j ++ done) := by
  intro factory
  have hnone : done.constructions factory = 0 := List.count_eq_zero.2 (h factory)
  rw [constructions_append, hnone, Nat.add_zero]

theorem sameConstructions_reported (event : Event) (j : Journal) :
    j.SameConstructions (j ++ [.reported event]) :=
  sameConstructions_append (by simp) j

end Journal

namespace Traced

/-! ### Applied to a journal -/

@[simp] theorem pure_apply (x : α) (j : Journal) : (pure x : Traced α) j = (x, j) := rfl

@[simp] theorem bind_apply (m : Traced α) (f : α → Traced β) (j : Journal) :
    (m >>= f) j = f (m j).1 (m j).2 := rfl

@[simp] theorem map_apply (f : α → β) (m : Traced α) (j : Journal) :
    (f <$> m) j = (f (m j).1, (m j).2) := rfl

@[simp] theorem record_apply (action : Action) (j : Journal) :
    record action j = ((), j ++ [action]) := rfl

@[simp] theorem report_apply (event : Event) (j : Journal) :
    report event j = ((), j ++ [.reported event]) := rfl

@[simp] theorem construct_apply (f : Factory α) (j : Journal) :
    f.construct j = (f.build (j.constructions f.id), j ++ [.constructed f.id]) := rfl

@[simp] theorem forM_report_apply (events : List Event) (j : Journal) :
    (forM events report : Traced Unit) j = ((), j ++ events.map .reported) := by
  induction events generalizing j with
  | nil => simp
  | cons event events ih =>
    rw [List.forM_cons, bind_apply, report_apply, ih]
    simp

/-- What every step of a fold keeps of the state and the journal, the fold keeps. -/
theorem foldlM_keeps {P : σ → Journal → Prop} {f : σ → α → Traced σ} {xs : List α}
    (h : ∀ s, ∀ x ∈ xs, ∀ j, P s j → P (f s x j).1 (f s x j).2) {s : σ} {j : Journal}
    (hs : P s j) : P (xs.foldlM f s j).1 (xs.foldlM f s j).2 := by
  induction xs generalizing s j with
  | nil => exact hs
  | cons x xs ih =>
    rw [List.foldlM_cons, bind_apply]
    have hrest : ∀ s, ∀ y ∈ xs, ∀ j, P s j → P (f s y j).1 (f s y j).2 :=
      fun s y hy => h s y (List.mem_cons_of_mem x hy)
    exact ih hrest (h s x List.mem_cons_self j hs)

/-- What every step of a fold keeps of the state, the fold keeps. -/
theorem foldlM_induction {P : σ → Prop} {f : σ → α → Traced σ} {xs : List α}
    (h : ∀ s, ∀ x ∈ xs, ∀ j, P s → P (f s x j).1) {s : σ} (hs : P s) (j : Journal) :
    P (xs.foldlM f s j).1 :=
  foldlM_keeps (P := fun s _ => P s) h hs

/-! ### Causal computations -/

/-- The computation only adds to the journal, and what it adds and answers depends on nothing but
how often each constructor has been called. -/
def Causal (m : Traced α) : Prop :=
  ∀ j j' : Journal, j.SameConstructions j' →
    ∃ x done, m j = (x, j ++ done) ∧ m j' = (x, j' ++ done)

theorem Causal.pure (x : α) : Causal (Pure.pure x) :=
  fun j j' _ => ⟨x, [], by simp, by simp⟩

theorem Causal.record (action : Action) : Causal (record action) :=
  fun _ _ _ => ⟨(), [action], rfl, rfl⟩

theorem Causal.report (event : Event) : Causal (report event) :=
  .record _

theorem Causal.construct (f : Factory α) : Causal f.construct := by
  intro j j' h
  exact ⟨f.build (j.constructions f.id), [.constructed f.id], rfl, by rw [construct_apply, h f.id]⟩

theorem Causal.bind {m : Traced α} {f : α → Traced β} (hm : m.Causal) (hf : ∀ x, (f x).Causal) :
    (m >>= f).Causal := by
  intro j j' h
  obtain ⟨x, done, hj, hj'⟩ := hm j j' h
  obtain ⟨y, more, hk, hk'⟩ := hf x (j ++ done) (j' ++ done) (h.append done)
  refine ⟨y, done ++ more, ?_, ?_⟩
  · rw [bind_apply, hj, hk, List.append_assoc]
  · rw [bind_apply, hj', hk', List.append_assoc]

theorem Causal.forM {f : α → Traced Unit} (hf : ∀ x, (f x).Causal) (xs : List α) :
    Causal (xs.forM f) := by
  induction xs with
  | nil => exact .pure ()
  | cons x xs ih => exact (hf x).bind fun _ => ih

theorem Causal.foldlM {f : σ → α → Traced σ} (hf : ∀ s x, (f s x).Causal) (s : σ) (xs : List α) :
    Causal (xs.foldlM f s) := by
  induction xs generalizing s with
  | nil => exact .pure s
  | cons x xs ih => exact (hf s x).bind fun s' => ih s'

/-! ### Values that do not depend on the journal -/

/-- The computation answers the value whatever has been done before. -/
def Yields (m : Traced α) (x : α) : Prop :=
  ∀ j, (m j).1 = x

/-- The value of a computation before anything has been done. -/
def answer (m : Traced α) : α :=
  (m []).1

theorem Yields.answer_eq {m : Traced α} {x : α} (h : m.Yields x) : m.answer = x :=
  h []

theorem Yields.pure (x : α) : Yields (Pure.pure x) x :=
  fun _ => rfl

theorem Yields.bind {m : Traced α} {f : α → Traced β} {x : α} {y : β} (hm : m.Yields x)
    (hf : (f x).Yields y) : (m >>= f).Yields y := by
  intro j
  rw [bind_apply, hm j]
  exact hf (m j).2

theorem Yields.foldlM {f : σ → α → Traced σ} {g : σ → α → σ} (h : ∀ s x, (f s x).Yields (g s x))
    (s : σ) (xs : List α) : Yields (xs.foldlM f s) (xs.foldl g s) := by
  induction xs generalizing s with
  | nil => exact .pure s
  | cons x xs ih => exact (h s x).bind (ih (g s x))

/-! ### Computations that take no notice of something -/

/-- Journals that are alike make no difference: the computation answers the same after either of
them, and leaves them alike. -/
def Respects (Alike : Journal → Journal → Prop) (m : Traced α) : Prop :=
  ∀ j j' : Journal, Alike j j' → (m j).1 = (m j').1 ∧ Alike (m j).2 (m j').2

section Respects

variable {Alike : Journal → Journal → Prop}

theorem Respects.pure (x : α) : Respects Alike (Pure.pure x) :=
  fun _ _ h => ⟨rfl, h⟩

theorem Respects.bind {m : Traced α} {f : α → Traced β} (hm : m.Respects Alike)
    (hf : ∀ x, (f x).Respects Alike) : (m >>= f).Respects Alike := by
  intro j j' h
  obtain ⟨hanswer, halike⟩ := hm j j' h
  rw [bind_apply, bind_apply, hanswer]
  exact hf _ _ _ halike

variable (hadded : Journal.Lasting Alike)
include hadded

theorem Respects.record (action : Action) : Respects Alike (record action) :=
  fun _ _ h => ⟨rfl, hadded h _⟩

theorem Respects.report (event : Event) : Respects Alike (report event) :=
  .record hadded _

/-- Calling a constructor that answers the same way on each call. -/
theorem Respects.construct {f : Factory α} (hf : f.Steady) : Respects Alike f.construct :=
  fun _ _ h => ⟨hf _ _, hadded h _⟩

end Respects

/-- The calls of constructors that have been made make no difference to what the computation
answers, nor to what it does but for calling constructors itself. -/
def Indifferent (m : Traced α) : Prop :=
  ∀ j j' : Journal, j.work = j'.work → (m j).1 = (m j').1 ∧ (m j).2.work = (m j').2.work

/-- How often one constructor has been called makes no difference to what the computation answers,
nor to what it does but for calling that constructor itself. -/
def Ignores (factory : FactoryId) (m : Traced α) : Prop :=
  m.Respects fun j j' => j.without factory = j'.without factory

end Traced

end DsigRegistry
