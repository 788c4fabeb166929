import DsigRegistry.Proofs.History
import DsigRegistry.Proofs.Serialization

/-!
# Missing canonicalizers

That a canonicalizer is registered says that its constructor has worked once, and it may fail by
the time that a step calls it. The step reports the canonicalizer as missing in either case, and
the constructor's own error is lost; the conversion at the end of a chain tells the two apart.
Main fact: `missing_reported`.
-/

namespace DsigRegistry

/-! ### What is registered and what can be constructed -/

namespace History

variable {α : Type}

/-- What constructing comes to that which was registered under the identifier the last time, if
anything was. -/
def built? (ts : List (Attempt α)) (id : String) (j : Journal) : Option (Except Error α) :=
  (latest? ts id).map fun d => (d.instantiate j).1

theorem built?_eq_none_iff {c : Category} {ts : List (Attempt α)} {id : String} {j : Journal} :
    built? ts id j = none ↔ id ∉ (Registry.ofHistory c ts).ids := by
  rw [built?, Option.map_eq_none_iff, ← Registry.lookup?_ofHistory c, Registry.lookup?_eq_none_iff]

theorem exists_attempt_of_latest? {ts : List (Attempt α)} {id : String} {d : Descriptor α}
    (h : latest? ts id = some d) : ∃ t ∈ ts, t.succeeds = true ∧ t.descriptor = d := by
  obtain ⟨t, ht, rfl⟩ := Option.map_eq_some_iff.1 h
  obtain ⟨hmem, hsucceeds⟩ :=
    List.mem_filter.1 (List.mem_reverse.1 (List.mem_of_find?_eq_some ht))
  exact ⟨t, hmem, hsucceeds, rfl⟩

/-- A constructor that answers the same way on each call works as it did when its descriptor was
registered. -/
theorem built?_ne_error {ts : List (Attempt α)} (h : ∀ t ∈ ts, t.descriptor.factory.Steady)
    (id : String) (j : Journal) (cause : Error) : built? ts id j ≠ some (.error cause) := by
  intro hbuilt
  obtain ⟨d, hd, hcause⟩ := Option.map_eq_some_iff.1 hbuilt
  obtain ⟨t, ht, hsucceeds, rfl⟩ := exists_attempt_of_latest? hd
  have hsame : (t.descriptor.instantiate t.journal).1 = (t.descriptor.instantiate j).1 :=
    h t ht _ _
  rw [Attempt.succeeds, hsame, hcause] at hsucceeds
  contradiction

end History

theorem Registry.create_ofHistory {α : Type} (c : Category) (ts : List (Attempt α)) (id : String)
    (j : Journal) :
    ((ofHistory c ts).create id j).1 =
      match History.built? ts id j with
      | none => .error (.unsupportedAlgorithm (c.label ++ ": " ++ id))
      | some outcome => outcome := by
  rw [create, lookup?_ofHistory, category_ofHistory, History.built?]
  cases History.latest? ts id with
  | none => rfl
  | some d => rfl

/-! ### Steps at their place in a chain -/

namespace Pipeline

/-- The chain gets as far as a step: the transforms of all steps are constructed, and those before
the step run to their ends. The transform then finds the data and the journal. -/
structure Reaches (p : Pipeline) (chain : Chain) (data : TransformData) (j : Journal)
    (before : List (Step × Transform)) (step : Step) (t : Transform) (data' : TransformData)
    (j' : Journal) : Prop where
  constructed : ∃ after, p.Constructed j chain (before ++ (step, t) :: after)
  ran : ∃ k, Ran p.canonicalizers before (data, j ++ p.calls chain) (data', k) ∧
    j' = k ++ [.executed step.uri]

variable {p : Pipeline} {chain : Chain} {data data' : TransformData} {j j' : Journal}
  {before : List (Step × Transform)} {step : Step} {t : Transform}

/-- Steps fail with the numbers that are left for them. -/
theorem le_stepIndex_of_run_error {index : Nat} {steps : List (Step × Transform)}
    {e : PipelineError} (h : (p.run index steps data j).1 = .error e) : index ≤ e.stepIndex := by
  have hbehind := p.run_behind index 0 steps data j
  rw [Nat.add_zero, h] at hbehind
  cases hrun : (p.run 0 steps data j).1 with
  | ok data' =>
    rw [hrun] at hbehind
    cases hbehind
  | error e' =>
    rw [hrun] at hbehind
    cases hbehind
    exact Nat.le_add_right index e'.stepIndex

/-- A chain that gets as far as a step fails there exactly if the transform does, and with the
same cause. -/
theorem Reaches.execute_eq_error_iff (h : p.Reaches chain data j before step t data' j')
    (cause : Error) :
    (p.execute chain data j).1 = .error ⟨before.length, step.uri, cause⟩ ↔
      (t.execute data' step.params p.canonicalizers j').1 = .error cause := by
  obtain ⟨⟨after, hconstructed⟩, k, hran, rfl⟩ := h
  rw [hconstructed.execute, run_append, Traced.bind_apply, hran.run 0]
  dsimp only
  rw [Nat.zero_add, run, Traced.bind_apply, Traced.record_apply, Traced.bind_apply]
  cases (t.execute data' step.params p.canonicalizers (k ++ [.executed step.uri])).1 with
  | error cause' =>
    constructor
    · intro hcause
      cases hcause
      rfl
    · intro hcause
      cases hcause
      rfl
  | ok data'' =>
    constructor
    · intro herror
      have hbehind := le_stepIndex_of_run_error herror
      exact absurd hbehind (Nat.not_succ_le_self before.length)
    · intro hcause
      cases hcause

end Pipeline

/-! ### Canonicalization steps -/

/-- The error that reports the canonicalizer for the algorithm as missing. -/
def C14nMode.missing (m : C14nMode) : Error :=
  .canonicalization ("no canonicalizer registered for " ++ m.uri)

/-- Octets that are no text are another matter. -/
theorem TransformData.ne_missing_of_asText_error {data : TransformData} {m : C14nMode} {e : Error}
    (h : data.asText = .error e) : e ≠ m.missing := by
  rintro rfl
  unfold asText at h
  split at h
  next => contradiction
  next => split at h <;> cases h

namespace Transform

variable {m : C14nMode} {ts : List (Attempt Canonicalizer)} {j : Journal}

/-- What a canonicalization transform answers, by what the constructor answers. -/
theorem c14n_answer (m : C14nMode) (ts : List (Attempt Canonicalizer)) (data : TransformData)
    (params : Params) (j : Journal) :
    ((c14n m).execute data params (.ofHistory .canonicalizer ts) j).1 =
      match History.built? ts m.uri j with
      | some (.ok c) => data.asText.bind fun document =>
          (c.canonicalize document (m.prefixes params)).map .octets
      | _ => .error m.missing := by
  have hcreate := Registry.create_ofHistory .canonicalizer ts m.uri j
  rw [c14n]
  dsimp only
  rw [Traced.bind_apply, hcreate]
  cases History.built? ts m.uri j with
  | none => rfl
  | some outcome =>
    cases outcome with
    | error cause => rfl
    | ok c => cases data.asText <;> rfl

/-- The canonicalizer is reported as missing by the transform if there is none or its constructor
fails, and otherwise only if that is what it says itself. -/
theorem c14n_eq_missing_iff (data : TransformData) (params : Params) :
    ((c14n m).execute data params (.ofHistory .canonicalizer ts) j).1 = .error m.missing ↔
      History.built? ts m.uri j = none ∨
      (∃ cause, History.built? ts m.uri j = some (.error cause)) ∨
      ∃ c document, History.built? ts m.uri j = some (.ok c) ∧ data.asText = .ok document ∧
        c.canonicalize document (m.prefixes params) = .error m.missing := by
  rw [c14n_answer]
  cases History.built? ts m.uri j with
  | none => simp
  | some outcome =>
    cases outcome with
    | error cause => simp
    | ok c =>
      cases hdocument : data.asText with
      | error e =>
        have he : e ≠ m.missing := TransformData.ne_missing_of_asText_error hdocument
        simp [Except.bind, he]
      | ok document =>
        cases hwritten : c.canonicalize document (m.prefixes params) with
        | error e => simp [Except.bind, Except.map, hwritten]
        | ok octets => simp [Except.bind, Except.map, hwritten]

end Transform

/-- A document is converted by the canonicalizer that is registered for Canonical XML 1.0, and what
keeps that from being had is the error. -/
theorem TransformData.toOctets_of_create_error {canonicalizers : Registry Canonicalizer}
    {j : Journal} {cause : Error} (document : String)
    (h : (canonicalizers.create Algorithm.c14n j).1 = .error cause) :
    ((xml document).toOctets canonicalizers j).1 = .error cause := by
  rw [toOctets, Traced.bind_apply, h]
  rfl

namespace Pipeline

theorem executeToOctets_of_create_error {p : Pipeline} {chain : Chain} {data : TransformData}
    {j k : Journal} {document : String}
    (hexecute : p.execute chain data j = (.ok (.xml document), k)) {cause : Error}
    (h : (p.canonicalizers.create Algorithm.c14n k).1 = .error cause) :
    (p.executeToOctets chain data j).1 = .error ⟨chain.length, Algorithm.c14n, cause⟩ := by
  rw [executeToOctets_of_xml hexecute, TransformData.toOctets_of_create_error document h]
  rfl

/-- Whatever attempts have made the registry of canonicalizers, a canonicalization step that a chain
gets to fails with the error that the canonicalizer is missing if none is registered or if the
constructor of the registered one fails by then, and otherwise only if the canonicalizer answers
with that error itself. So the constructor's own error is not to be seen. The conversion at the end
of a chain has it, and another one if nothing is registered. Where constructors answer the same way
on each call, what is registered can be constructed. -/
theorem missing_reported (ts : List (Attempt Canonicalizer)) (transforms : Registry Transform)
    (chain : Chain) (data : TransformData) (j : Journal) :
    let p : Pipeline := ⟨transforms, .ofHistory .canonicalizer ts⟩
    (∀ m before step data' j', p.Reaches chain data j before step (.c14n m) data' j' →
      let built := History.built? ts m.uri j'
      let fails (cause : Error) : Prop :=
        (p.execute chain data j).1 = .error ⟨before.length, step.uri, cause⟩
      (fails m.missing ↔
        m.uri ∉ p.canonicalizers.ids ∨ (∃ cause, built = some (.error cause)) ∨
          ∃ c document, built = some (.ok c) ∧ data'.asText = .ok document ∧
            c.canonicalize document (m.prefixes step.params) = .error m.missing) ∧
      ∀ cause, built = some (.error cause) → ∀ cause', fails cause' ↔ cause' = m.missing) ∧
    (∀ document k, p.execute chain data j = (.ok (.xml document), k) →
      let fails (cause : Error) : Prop :=
        (p.executeToOctets chain data j).1 = .error ⟨chain.length, Algorithm.c14n, cause⟩
      (Algorithm.c14n ∉ p.canonicalizers.ids →
        fails (.unsupportedAlgorithm ("canonicalizer: " ++ Algorithm.c14n))) ∧
      ∀ cause, History.built? ts Algorithm.c14n k = some (.error cause) → fails cause) ∧
    ((∀ t ∈ ts, t.descriptor.factory.Steady) →
      ∀ id k cause, History.built? ts id k ≠ some (.error cause)) := by
  intro p
  refine ⟨fun m before step data' j' h => ?_, fun document k hexecute => ?_,
    fun h => History.built?_ne_error h⟩
  · intro built fails
    have hunregistered : m.uri ∉ p.canonicalizers.ids ↔ built = none :=
      History.built?_eq_none_iff.symm
    refine ⟨?_, fun cause hbuilt cause' => ?_⟩
    · rw [hunregistered]
      exact (h.execute_eq_error_iff m.missing).trans
        (Transform.c14n_eq_missing_iff data' step.params)
    · have hanswer := Transform.c14n_answer m ts data' step.params j'
      rw [show History.built? ts m.uri j' = some (.error cause) from hbuilt] at hanswer
      refine (h.execute_eq_error_iff cause').trans ?_
      rw [hanswer, Except.error.injEq, eq_comm]
  · intro fails
    have hcreate := Registry.create_ofHistory .canonicalizer ts Algorithm.c14n k
    refine ⟨fun hunregistered => ?_, fun cause hbuilt => ?_⟩
    · rw [History.built?_eq_none_iff.2 hunregistered] at hcreate
      exact executeToOctets_of_create_error hexecute hcreate
    · rw [hbuilt] at hcreate
      exact executeToOctets_of_create_error hexecute hcreate

/-- The registration of a canonicalizer whose constructor works once. -/
def spentAttempt : Attempt Canonicalizer where
  id := Algorithm.c14n
  descriptor :=
    ⟨"trim", none, (Factory.const (.host 2) Stub.trim).failingAfter 1 (.unavailable "spent")⟩
  journal := []

/-- A pipeline that marks octets and writes documents, where that canonicalizer is registered. -/
def spent : Pipeline where
  transforms := ⟨.transform,
    [("urn:mark", ⟨"mark", none, .const (.host 1) (Stub.append [0x21])⟩),
     (Algorithm.c14n, inclusiveC14n)]⟩
  canonicalizers := .ofHistory .canonicalizer [spentAttempt]

/-- The constructor has been called for the registration. -/
def spentJournal : Journal := [.constructed (.host 2)]

/-- The second step of the chain fails as if its canonicalizer were not there. -/
theorem missing_reported_spent :
    let mark : Step := ⟨"urn:mark", .empty⟩
    let write : Step := ⟨Algorithm.c14n, .empty⟩
    let data : TransformData := .octets [0x61]
    (∃ k, spent.Reaches [mark, write] data spentJournal [(mark, Stub.append [0x21])] write
      (.c14n .inclusive) (.octets [0x61, 0x21]) k ∧
      History.built? [spentAttempt] Algorithm.c14n k = some (.error (.unavailable "spent"))) ∧
    (spent.execute [mark, write] data spentJournal).1 =
      .error ⟨1, Algorithm.c14n, C14nMode.inclusive.missing⟩ := by
  intro mark write data
  have hreaches : spent.Reaches [mark, write] data spentJournal [(mark, Stub.append [0x21])] write
      (.c14n .inclusive) (.octets [0x61, 0x21])
      (spentJournal ++ [.constructed (.host 1), .constructed (.host 0), .executed "urn:mark",
        .executed Algorithm.c14n]) :=
    ⟨⟨[], .cons rfl (.cons rfl .nil)⟩, _, .cons rfl .nil, rfl⟩
  obtain ⟨hstep, -, -⟩ := missing_reported [spentAttempt] spent.transforms [mark, write] data
    spentJournal
  obtain ⟨-, hspent⟩ := hstep .inclusive _ write _ _ hreaches
  exact ⟨⟨_, hreaches, rfl⟩, (hspent (.unavailable "spent") rfl _).2 rfl⟩

/-- The canonicalizer is registered, and only its constructor fails when it is called again. The
conversion at the end of a chain says so, and the canonicalization step says that no canonicalizer
is registered. -/
theorem registered_but_reported_missing :
    Algorithm.c14n ∈ spent.canonicalizers.ids ∧
    (spent.canonicalizers.create Algorithm.c14n spentJournal).1 = .error (.unavailable "spent") ∧
    (spent.executeToOctets [] (.xml "<a/>") spentJournal).1 =
      .error ⟨0, Algorithm.c14n, .unavailable "spent"⟩ ∧
    (spent.execute [⟨Algorithm.c14n, .empty⟩] (.xml "<a/>") spentJournal).1 =
      .error ⟨0, Algorithm.c14n, .canonicalization
        ("no canonicalizer registered for " ++ Algorithm.c14n)⟩ :=
  ⟨List.mem_singleton_self _, rfl, rfl, rfl⟩

end Pipeline

end DsigRegistry
