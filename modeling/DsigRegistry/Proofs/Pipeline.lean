import DsigRegistry.Catalog.Builtin
import DsigRegistry.Proofs.Registration
import DsigRegistry.Stub
import DsigRegistry.Transform.Pipeline

/-!
# Execution of chains

A chain is executed in two passes, and the first one decides whether there is a second:
`executes_iff`. Where constructors answer the same way on each call, it makes no difference when
they are called, so a chain may be cut in two that are executed one after the other:
`execute_append`. Main fact: `execution_in_two_passes`.
-/

namespace DsigRegistry

/-! ### Constructors that answer the same way on each call -/

namespace Registry

variable {α : Type} {r : Registry α} {id : String} {d : Descriptor α} {j : Journal} {x : α}

/-- The constructor of every entry answers the same way on each call. -/
def Steady (r : Registry α) : Prop :=
  ∀ e ∈ r.entries, e.2.factory.Steady

/-- An instance is made by the constructor of an entry. -/
theorem exists_build_of_create (h : (r.create id j).1 = .ok x) :
    ∃ e ∈ r.entries, ∃ n, e.2.factory.build n = .ok x := by
  unfold create at h
  cases hd : r.lookup? id with
  | none =>
    rw [hd] at h
    cases h
  | some d =>
    rw [hd] at h
    exact ⟨(id, d), mem_of_lookup? hd, _, h⟩

theorem Steady.create_yields (h : r.Steady) (id : String) :
    (r.create id).Yields (r.create id).answer := by
  intro j
  unfold create
  cases hd : r.lookup? id with
  | none => rfl
  | some d => exact h (id, d) (mem_of_lookup? hd) _ _

/-- Calling a constructor makes no difference to journals that are alike. -/
theorem Steady.create_respects (h : r.Steady) {Alike : Journal → Journal → Prop}
    (hadded : Journal.Lasting Alike) (id : String) : (r.create id).Respects Alike := by
  unfold create
  cases hd : r.lookup? id with
  | none => exact .pure _
  | some d => exact .construct hadded (h (id, d) (mem_of_lookup? hd))

end Registry

/-- However often constructors have been called, the transform behaves alike, as long as the
constructors of the canonicalizers that it calls itself answer the same way on each call. -/
def Transform.Indifferent (t : Transform) : Prop :=
  ∀ data params (canonicalizers : Registry Canonicalizer), canonicalizers.Steady →
    (t.execute data params canonicalizers).Indifferent

namespace Transform

theorem c14n_respects (m : C14nMode) {Alike : Journal → Journal → Prop}
    (hadded : Journal.Lasting Alike) (data : TransformData) (params : Params)
    {canonicalizers : Registry Canonicalizer} (h : canonicalizers.Steady) :
    ((c14n m).execute data params canonicalizers).Respects Alike := by
  refine (h.create_respects hadded m.uri).bind fun answer => ?_
  cases answer with
  | error _ => exact .pure _
  | ok canonicalizer =>
    dsimp only
    cases data.asText with
    | error _ => exact .pure _
    | ok document => exact Traced.Respects.bind (.record hadded _) fun _ => .pure _

theorem pure_indifferent (f : TransformData → Params → Except Error TransformData) :
    (Transform.pure f).Indifferent :=
  fun _ _ _ _ => Traced.Respects.pure _

theorem c14n_indifferent (m : C14nMode) : (Transform.c14n m).Indifferent :=
  fun data params _ h => c14n_respects m Journal.lasting_work data params h

end Transform

/-- So it is with every transform of the built-in catalog. -/
theorem Catalog.transforms_indifferent {id : String} {i : Implementation}
    (hi : (id, .available i) ∈ Catalog.transforms) {factory : Factory Transform}
    (hfactory : i.factoryFor? .transform = some factory) :
    factory.Steady ∧ ∀ n t, factory.build n = .ok t → t.Indifferent := by
  have hvalue : ∃ value : Transform, value.Indifferent ∧
      ∃ id', i = .const id' .transform value := by
    simp only [Catalog.transforms, Catalog.missing, Catalog.builtinEntry, List.mem_append,
      List.mem_map, List.mem_cons, List.not_mem_nil, Prod.mk.injEq, or_false, and_false,
      exists_const, CatalogEntry.available.injEq, reduceCtorEq] at hi
    rcases hi with (⟨-, rfl⟩ | ⟨-, rfl⟩) | ⟨m, -, -, rfl⟩
    · exact ⟨_, Transform.pure_indifferent _, _, rfl⟩
    · exact ⟨_, Transform.pure_indifferent _, _, rfl⟩
    · exact ⟨_, Transform.c14n_indifferent m, _, rfl⟩
  obtain ⟨value, hvalue, id', rfl⟩ := hvalue
  obtain rfl : Factory.const id' value = factory :=
    Option.some.inj ((Implementation.factoryFor?_self _).symm.trans hfactory)
  refine ⟨fun _ _ => rfl, fun n t ht => ?_⟩
  cases ht
  exact hvalue

/-- With more steps before the chain, a failure is that many steps further on. -/
def PipelineError.behind (n : Nat) (e : PipelineError) : PipelineError :=
  { e with stepIndex := n + e.stepIndex }

namespace Pipeline

variable {p : Pipeline} {j j' : Journal} {step : Step} {chain before : Chain}
  {steps rest : List (Step × Transform)} {cause : Error} {data data' : TransformData}

/-! ### The first pass -/

/-- The calls of constructors for the steps: one for each that has an entry, in their order. -/
def calls (p : Pipeline) (chain : Chain) : Journal :=
  chain.filterMap fun step =>
    (p.transforms.lookup? step.uri).map fun d => .constructed d.factory.id

theorem calls_cons (p : Pipeline) (step : Step) (chain : Chain) :
    p.calls (step :: chain) = p.calls [step] ++ p.calls chain :=
  List.filterMap_append (l := [step])

theorem calls_append (p : Pipeline) (first second : Chain) :
    p.calls (first ++ second) = p.calls first ++ p.calls second :=
  List.filterMap_append

theorem work_calls (p : Pipeline) (chain : Chain) : (p.calls chain).work = [] := by
  refine List.filter_eq_nil_iff.2 fun action haction => ?_
  obtain ⟨step, -, hstep⟩ := List.mem_filterMap.1 haction
  obtain ⟨d, -, rfl⟩ := Option.map_eq_some_iff.1 hstep
  simp [Action.factory?]

theorem create_journal (p : Pipeline) (step : Step) (j : Journal) :
    (p.transforms.create step.uri j).2 = j ++ p.calls [step] := by
  unfold Registry.create calls
  cases hd : p.transforms.lookup? step.uri with
  | none => simp [hd]
  | some d => simp [hd, Descriptor.instantiate]

/-- The constructors for the steps succeed one after the other, with these transforms. -/
inductive Constructed (p : Pipeline) : Journal → Chain → List (Step × Transform) → Prop
  | nil {j : Journal} : p.Constructed j [] []
  | cons {j : Journal} {step : Step} {t : Transform} {chain : Chain}
      {steps : List (Step × Transform)} (h : (p.transforms.create step.uri j).1 = .ok t)
      (hs : p.Constructed (j ++ p.calls [step]) chain steps) :
      p.Constructed j (step :: chain) ((step, t) :: steps)

theorem Constructed.construct (h : p.Constructed j chain steps) (index : Nat) :
    p.construct index chain j = (.ok steps, j ++ p.calls chain) := by
  induction h generalizing index with
  | nil => simp [Pipeline.construct, calls]
  | @cons j step t chain steps h hs ih =>
    rw [Pipeline.construct, Traced.bind_apply, h, create_journal]
    dsimp only
    rw [Traced.bind_apply, ih, calls_cons p step chain, ← List.append_assoc]
    rfl

/-- The first constructor that fails ends the pass. -/
theorem Constructed.construct_of_error (h : p.Constructed j before steps)
    (hcause : (p.transforms.create step.uri (j ++ p.calls before)).1 = .error cause)
    (index : Nat) (after : Chain) :
    p.construct index (before ++ step :: after) j =
      (.error ⟨index + before.length, step.uri, cause⟩, j ++ p.calls (before ++ [step])) := by
  induction h generalizing index with
  | nil =>
    rw [calls, List.filterMap_nil, List.append_nil] at hcause
    rw [List.nil_append, Pipeline.construct, Traced.bind_apply, hcause, create_journal]
    rfl
  | @cons j first t before steps h hs ih =>
    rw [calls_cons, ← List.append_assoc] at hcause
    rw [List.cons_append, Pipeline.construct, Traced.bind_apply, h, create_journal]
    dsimp only
    rw [Traced.bind_apply, ih hcause, List.cons_append, calls_cons p first (before ++ [step]),
      ← List.append_assoc, List.length_cons, Nat.add_right_comm, Nat.add_assoc]
    rfl

theorem exists_constructed_or_error (p : Pipeline) (chain : Chain) (j : Journal) :
    (∃ steps, p.Constructed j chain steps) ∨
      ∃ before step after steps cause, chain = before ++ step :: after ∧
        p.Constructed j before steps ∧
        (p.transforms.create step.uri (j ++ p.calls before)).1 = .error cause := by
  induction chain generalizing j with
  | nil => exact .inl ⟨[], .nil⟩
  | cons step chain ih =>
    cases h : (p.transforms.create step.uri j).1 with
    | error cause => exact .inr ⟨[], step, chain, [], cause, rfl, .nil, by simpa [calls] using h⟩
    | ok t =>
      rcases ih (j ++ p.calls [step]) with ⟨steps, hs⟩ |
        ⟨before, step', after, steps, cause, rfl, hs, hcause⟩
      · exact .inl ⟨(step, t) :: steps, .cons h hs⟩
      · refine .inr ⟨step :: before, step', after, (step, t) :: steps, cause, rfl, .cons h hs, ?_⟩
        rwa [calls_cons, ← List.append_assoc]

theorem Constructed.map_fst (h : p.Constructed j chain steps) : steps.map (·.1) = chain := by
  induction h with
  | nil => rfl
  | cons _ _ ih => rw [List.map_cons, ih]

theorem Constructed.length_eq (h : p.Constructed j chain steps) : steps.length = chain.length := by
  rw [← h.map_fst, List.length_map]

/-! ### The second pass -/

/-- The steps run to their ends one after the other: the first on the data, and each of the
others on what the one before it left, with parameters of its own. -/
inductive Ran (canonicalizers : Registry Canonicalizer) :
    List (Step × Transform) → TransformData × Journal → TransformData × Journal → Prop
  | nil {s : TransformData × Journal} : Ran canonicalizers [] s s
  | cons {step : Step} {t : Transform} {steps : List (Step × Transform)}
      {data data' : TransformData} {j j' : Journal} {s : TransformData × Journal}
      (h : t.execute data step.params canonicalizers (j ++ [.executed step.uri]) = (.ok data', j'))
      (hs : Ran canonicalizers steps (data', j') s) :
      Ran canonicalizers ((step, t) :: steps) (data, j) s

theorem run_append (p : Pipeline) (index : Nat) (steps rest : List (Step × Transform))
    (data : TransformData) :
    p.run index (steps ++ rest) data = (do
      match ← p.run index steps data with
      | .error e => return .error e
      | .ok data => p.run (index + steps.length) rest data) := by
  induction steps generalizing index data with
  | nil => rfl
  | cons s steps ih =>
    funext j
    rw [List.cons_append, Pipeline.run, Pipeline.run]
    simp only [Traced.bind_apply]
    generalize s.2.execute data s.1.params p.canonicalizers _ = outcome
    obtain ⟨cause | data', j'⟩ := outcome
    · rfl
    · dsimp only
      rw [ih, List.length_cons, Nat.add_right_comm, Nat.add_assoc]
      rfl

theorem Ran.run {s s' : TransformData × Journal} (h : Ran p.canonicalizers steps s s')
    (index : Nat) : p.run index steps s.1 s.2 = (.ok s'.1, s'.2) := by
  induction h generalizing index with
  | nil => rfl
  | cons h hs ih =>
    rw [Pipeline.run, Traced.bind_apply, Traced.record_apply, Traced.bind_apply, h]
    exact ih (index + 1)

/-- The first transform that fails ends the pass. -/
theorem Ran.run_of_error {s : TransformData × Journal} {t : Transform}
    (h : Ran p.canonicalizers steps s (data, j))
    (hcause : t.execute data step.params p.canonicalizers (j ++ [.executed step.uri]) =
      (.error cause, j'))
    (index : Nat) (after : List (Step × Transform)) :
    p.run index (steps ++ (step, t) :: after) s.1 s.2 =
      (.error ⟨index + steps.length, step.uri, cause⟩,
        j' ++ [.reported (.transformFailed (index + steps.length) step.uri cause)]) := by
  rw [run_append, Traced.bind_apply, h.run index]
  dsimp only
  rw [Pipeline.run, Traced.bind_apply, Traced.record_apply, Traced.bind_apply, hcause]
  rfl

theorem exists_ran_or_error (canonicalizers : Registry Canonicalizer)
    (steps : List (Step × Transform)) (data : TransformData) (j : Journal) :
    (∃ s, Ran canonicalizers steps (data, j) s) ∨
      ∃ before step t after data' j' cause j'', steps = before ++ (step, t) :: after ∧
        Ran canonicalizers before (data, j) (data', j') ∧
        t.execute data' step.params canonicalizers (j' ++ [.executed step.uri]) =
          (.error cause, j'') := by
  induction steps generalizing data j with
  | nil => exact .inl ⟨(data, j), .nil⟩
  | cons s steps ih =>
    obtain ⟨step, t⟩ := s
    cases h : t.execute data step.params canonicalizers (j ++ [.executed step.uri]) with
    | mk answer j' =>
      cases answer with
      | error cause => exact .inr ⟨[], step, t, steps, data, j, cause, j', rfl, .nil, h⟩
      | ok data' =>
        rcases ih data' j' with ⟨s, hs⟩ |
          ⟨before, step', t', after, data'', j'', cause, j₃, rfl, hs, hcause⟩
        · exact .inl ⟨s, .cons h hs⟩
        · exact .inr ⟨(step, t) :: before, step', t', after, data'', j'', cause, j₃, rfl,
            .cons h hs, hcause⟩

/-! ### Both passes -/

/-- What a chain comes to and what has been done by then: the first constructor that fails ends
it before anything has run, and the first transform that fails after all have been constructed. -/
inductive Executes (p : Pipeline) (chain : Chain) (data : TransformData) (j : Journal) :
    Except PipelineError TransformData → Journal → Prop
  | refused {before after : Chain} {step : Step} {steps : List (Step × Transform)} {cause : Error}
      (hsplit : chain = before ++ step :: after) (hs : p.Constructed j before steps)
      (hcause : (p.transforms.create step.uri (j ++ p.calls before)).1 = .error cause) :
      p.Executes chain data j (.error ⟨before.length, step.uri, cause⟩)
        (j ++ p.calls (before ++ [step]))
  | failed {before after : List (Step × Transform)} {step : Step} {t : Transform}
      {data' : TransformData} {j' j'' : Journal} {cause : Error}
      (hs : p.Constructed j chain (before ++ (step, t) :: after))
      (hran : Ran p.canonicalizers before (data, j ++ p.calls chain) (data', j'))
      (hcause : t.execute data' step.params p.canonicalizers (j' ++ [.executed step.uri]) =
        (.error cause, j'')) :
      p.Executes chain data j (.error ⟨before.length, step.uri, cause⟩)
        (j'' ++ [.reported (.transformFailed before.length step.uri cause)])
  | finished {steps : List (Step × Transform)} {data' : TransformData} {j' : Journal}
      (hs : p.Constructed j chain steps)
      (hran : Ran p.canonicalizers steps (data, j ++ p.calls chain) (data', j')) :
      p.Executes chain data j (.ok data') j'

theorem Constructed.execute (h : p.Constructed j chain steps) (data : TransformData) :
    p.execute chain data j = p.run 0 steps data (j ++ p.calls chain) := by
  rw [Pipeline.execute, Traced.bind_apply, h.construct]

theorem Executes.execute {result : Except PipelineError TransformData}
    (h : p.Executes chain data j result j') : p.execute chain data j = (result, j') := by
  cases h with
  | @refused before after step steps cause hsplit hs hcause =>
    rw [hsplit, Pipeline.execute, Traced.bind_apply, hs.construct_of_error hcause, Nat.zero_add]
    rfl
  | failed hs hran hcause =>
    have hrun := hran.run_of_error hcause 0
    rw [hs.execute, hrun, Nat.zero_add]
  | finished hs hran => rw [hs.execute, hran.run 0]

theorem exists_executes (p : Pipeline) (chain : Chain) (data : TransformData) (j : Journal) :
    ∃ result j', p.Executes chain data j result j' := by
  rcases p.exists_constructed_or_error chain j with ⟨steps, hs⟩ |
    ⟨before, step, after, steps, cause, hsplit, hs, hcause⟩
  · rcases exists_ran_or_error p.canonicalizers steps data (j ++ p.calls chain) with ⟨s, hran⟩ |
      ⟨before, step, t, after, data', j', cause, j'', rfl, hran, hcause⟩
    · exact ⟨_, _, .finished hs hran⟩
    · exact ⟨_, _, .failed hs hran hcause⟩
  · exact ⟨_, _, .refused hsplit hs hcause⟩

theorem executes_iff (p : Pipeline) (chain : Chain) (data : TransformData) (j : Journal)
    (result : Except PipelineError TransformData) (j' : Journal) :
    p.execute chain data j = (result, j') ↔ p.Executes chain data j result j' := by
  constructor
  · intro h
    obtain ⟨result', j'', h'⟩ := p.exists_executes chain data j
    cases h.symm.trans h'.execute
    exact h'
  · exact Executes.execute

/-- A failure is that of a step of the chain. -/
theorem Executes.uri_eq {e : PipelineError} (h : p.Executes chain data j (.error e) j') :
    ∃ hindex : e.stepIndex < chain.length, chain[e.stepIndex].uri = e.uri := by
  cases h with
  | refused hsplit hs hcause =>
    subst hsplit
    exact ⟨by simp, by simp⟩
  | failed hs hran hcause =>
    have hchain := hs.map_fst
    subst hchain
    exact ⟨by simp, by simp⟩

/-! ### Chains that are executed one after the other -/

/-- Constructors answer the same way on each call: they succeed or fail alike, and the transforms
that they construct behave alike however often constructors have been called. -/
structure Steady (p : Pipeline) : Prop where
  transforms : p.transforms.Steady
  canonicalizers : p.canonicalizers.Steady
  indifferent : ∀ e ∈ p.transforms.entries, ∀ n t, e.2.factory.build n = .ok t → t.Indifferent

/-- Execute one chain, and then another on what it leaves. A failure of the second is counted
from the first step of the first. -/
def inTurn (p : Pipeline) (first second : Chain) (data : TransformData) :
    Traced (Except PipelineError TransformData) := do
  match ← p.execute first data with
  | .error e => return .error e
  | .ok data => return (← p.execute second data).mapError (.behind first.length)

/-- Where a chain starts to count its steps makes a difference to the numbers of failures only. -/
theorem run_behind (p : Pipeline) (n index : Nat) (steps : List (Step × Transform))
    (data : TransformData) (j : Journal) :
    (p.run (n + index) steps data j).1 =
      (p.run index steps data j).1.mapError (.behind n) := by
  induction steps generalizing index data j with
  | nil => rfl
  | cons s steps ih =>
    rw [Pipeline.run, Pipeline.run]
    simp only [Traced.bind_apply]
    generalize s.2.execute data s.1.params p.canonicalizers _ = outcome
    obtain ⟨cause | data', j'⟩ := outcome
    · rfl
    · exact ih (index + 1) data' j'

/-- If all steps make no difference to journals that are alike, a run of them makes none. -/
theorem run_respects {Alike : Journal → Journal → Prop} (hadded : Journal.Lasting Alike)
    (hsteps : ∀ s ∈ steps, ∀ data params,
      (s.2.execute data params p.canonicalizers).Respects Alike)
    (index : Nat) (data : TransformData) : (p.run index steps data).Respects Alike := by
  induction steps generalizing index data with
  | nil => exact .pure _
  | cons s steps ih =>
    obtain ⟨hs, hrest⟩ := List.forall_mem_cons.1 hsteps
    refine Traced.Respects.bind (.record hadded _) fun _ => ?_
    refine (hs data s.1.params).bind fun answer => ?_
    cases answer with
    | error cause => exact Traced.Respects.bind (.report hadded _) fun _ => .pure _
    | ok data' => exact ih hrest (index + 1) data'

theorem run_indifferent (hcanonicalizers : p.canonicalizers.Steady)
    (hsteps : ∀ s ∈ steps, s.2.Indifferent) (index : Nat) (data : TransformData) :
    (p.run index steps data).Indifferent :=
  run_respects Journal.lasting_work
    (fun s hs data params => hsteps s hs data params p.canonicalizers hcanonicalizers) index data

theorem Constructed.exists_build (h : p.Constructed j chain steps) :
    ∀ s ∈ steps, ∃ e ∈ p.transforms.entries, ∃ n, e.2.factory.build n = .ok s.2 := by
  induction h with
  | nil => simp
  | cons h _ ih => exact List.forall_mem_cons.2 ⟨Registry.exists_build_of_create h, ih⟩

theorem Steady.steps_indifferent (h : p.Steady) (hs : p.Constructed j chain steps) :
    ∀ s ∈ steps, s.2.Indifferent := by
  intro s hmem
  obtain ⟨e, he, n, hbuild⟩ := hs.exists_build s hmem
  exact h.indifferent e he n s.2 hbuild

/-- The same transforms are constructed whatever has been done before. -/
theorem Steady.exists_constructed (h : p.Steady)
    (hchain : ∀ step ∈ chain, ∃ t, (p.transforms.create step.uri).answer = .ok t) :
    ∃ steps, ∀ j, p.Constructed j chain steps := by
  induction chain with
  | nil => exact ⟨[], fun _ => .nil⟩
  | cons step chain ih =>
    obtain ⟨⟨t, ht⟩, hrest⟩ := List.forall_mem_cons.1 hchain
    obtain ⟨steps, hs⟩ := ih hrest
    refine ⟨(step, t) :: steps, fun j => .cons ?_ (hs _)⟩
    rw [h.transforms.create_yields step.uri j, ht]

theorem Constructed.append {first second : Chain} {steps rest : List (Step × Transform)}
    (hs : p.Constructed j first steps) (hr : p.Constructed (j ++ p.calls first) second rest) :
    p.Constructed j (first ++ second) (steps ++ rest) := by
  induction hs with
  | nil => simpa [calls] using hr
  | @cons j step t first steps h _ ih =>
    rw [calls_cons, ← List.append_assoc] at hr
    exact .cons h (ih hr)

theorem execute_append (h : p.Steady) {first second : Chain}
    (hchains : ∀ step ∈ first ++ second, ∃ t, (p.transforms.create step.uri).answer = .ok t)
    (data : TransformData) (j : Journal) :
    (p.execute (first ++ second) data j).1 = (p.inTurn first second data j).1 := by
  obtain ⟨hfirst, hsecond⟩ := List.forall_mem_append.1 hchains
  obtain ⟨steps, hs⟩ := h.exists_constructed hfirst
  obtain ⟨rest, hr⟩ := h.exists_constructed hsecond
  have hsteps : ∀ s ∈ steps, s.2.Indifferent := h.steps_indifferent (hs j)
  have hrest : ∀ s ∈ rest, s.2.Indifferent := h.steps_indifferent (hr j)
  -- The first chain runs after the constructors of both have been called, or of its own only.
  have hwork : (j ++ p.calls (first ++ second)).work = (j ++ p.calls first).work := by
    simp [work_calls]
  obtain ⟨hanswer, hdone⟩ := run_indifferent h.canonicalizers hsteps 0 data _ _ hwork
  rw [((hs j).append (hr _)).execute, run_append, inTurn, Traced.bind_apply, Traced.bind_apply,
    (hs j).execute, hanswer]
  cases (p.run 0 steps data (j ++ p.calls first)).1 with
  | error e => rfl
  | ok data' =>
    generalize (p.run 0 steps data (j ++ p.calls first)).2 = j₁ at hdone ⊢
    generalize (p.run 0 steps data (j ++ p.calls (first ++ second))).2 = j₂ at hdone ⊢
    have hwork' : j₂.work = (j₁ ++ p.calls second).work := by
      simp [work_calls, hdone]
    dsimp only
    rw [Traced.bind_apply, (hr j₁).execute, Nat.zero_add, (hs j).length_eq]
    calc (p.run first.length rest data' j₂).1
      _ = (p.run 0 rest data' j₂).1.mapError (.behind first.length) :=
        p.run_behind first.length 0 rest data' j₂
      _ = (p.run 0 rest data' (j₁ ++ p.calls second)).1.mapError (.behind first.length) := by
        rw [(run_indifferent h.canonicalizers hrest 0 data' _ _ hwork').1]

/-- A chain comes to what its two passes come to. Where constructors answer the same way on each
call, two chains whose steps can be constructed are executed as one like one after the other. A
failure is always that of a step of the chain. -/
theorem execution_in_two_passes (p : Pipeline) :
    (∀ chain data j result j',
      p.execute chain data j = (result, j') ↔ p.Executes chain data j result j') ∧
    (p.Steady → ∀ first second : Chain,
      (∀ step ∈ first ++ second, ∃ t, (p.transforms.create step.uri).answer = .ok t) →
      ∀ data j, (p.execute (first ++ second) data j).1 = (p.inTurn first second data j).1) ∧
    (∀ chain data j e, (p.execute chain data j).1 = .error e →
      ∃ hindex : e.stepIndex < chain.length, chain[e.stepIndex].uri = e.uri) := by
  refine ⟨p.executes_iff, fun h _ _ hchains => execute_append h hchains, ?_⟩
  intro chain data j e he
  have hexecutes : p.Executes chain data j (.error e) (p.execute chain data j).2 :=
    (p.executes_iff ..).1 (Prod.ext he rfl)
  exact hexecutes.uri_eq

/-- A pipeline that writes documents, marks octets and refuses to go on. -/
def refusing : Pipeline where
  transforms := ⟨.transform,
    [(Algorithm.c14n, ⟨"c14n", none, .const (.host 0) (.c14n .inclusive)⟩),
     ("urn:mark", ⟨"mark", none, .const (.host 1) (Stub.append [0x21])⟩),
     ("urn:refuse", ⟨"refuse", none, .const (.host 2) (Stub.failingTransform (.transform "no"))⟩)]⟩
  canonicalizers := ⟨.canonicalizer, [(Algorithm.c14n, ⟨"trim", none, .const (.host 3) Stub.trim⟩)]⟩

theorem steady_refusing : refusing.Steady where
  transforms e he := by
    simp only [refusing, List.mem_cons, List.not_mem_nil, or_false] at he
    rcases he with rfl | rfl | rfl <;> exact fun _ _ => rfl
  canonicalizers e he := by
    simp only [refusing, List.mem_cons, List.not_mem_nil, or_false] at he
    subst he
    exact fun _ _ => rfl
  indifferent e he n t ht := by
    simp only [refusing, List.mem_cons, List.not_mem_nil, or_false] at he
    rcases he with rfl | rfl | rfl <;> cases ht
    · exact Transform.c14n_indifferent .inclusive
    · exact Transform.pure_indifferent _
    · exact Transform.pure_indifferent _

/-- The second step of the second chain is the third of both. -/
theorem execution_in_two_passes_refusing :
    let first : Chain := [⟨Algorithm.c14n, .empty⟩]
    let second : Chain := [⟨"urn:mark", .empty⟩, ⟨"urn:refuse", .empty⟩]
    let e : PipelineError := ⟨2, "urn:refuse", .transform "no"⟩
    refusing.Steady ∧
    (∀ step ∈ first ++ second, ∃ t, (refusing.transforms.create step.uri).answer = .ok t) ∧
    (refusing.execute second (.octets [0x61]) []).1 = .error ⟨1, e.uri, e.cause⟩ ∧
    (refusing.execute (first ++ second) (.xml " a ") []).1 = .error e ∧
    ∃ hindex : e.stepIndex < (first ++ second).length,
      (first ++ second)[e.stepIndex].uri = e.uri := by
  intro first second e
  have hchains : ∀ step ∈ first ++ second,
      ∃ t, (refusing.transforms.create step.uri).answer = .ok t := by
    intro step hstep
    simp only [first, second, List.cons_append, List.nil_append, List.mem_cons, List.not_mem_nil,
      or_false] at hstep
    rcases hstep with rfl | rfl | rfl <;> exact ⟨_, rfl⟩
  have hinTurn : (refusing.inTurn first second (.xml " a ") []).1 = .error e := rfl
  obtain ⟨-, happend, hindex⟩ := execution_in_two_passes refusing
  have hexecute : (refusing.execute (first ++ second) (.xml " a ") []).1 = .error e :=
    (happend steady_refusing first second hchains _ _).trans hinTurn
  exact ⟨steady_refusing, hchains, rfl, hexecute, hindex _ _ _ e hexecute⟩

end Pipeline

end DsigRegistry
