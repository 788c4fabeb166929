import DsigRegistry.Proofs.Pipeline

/-!
# Documents at the end of a chain

What a chain leaves is converted to octets in the end, and if it is a document, the canonicalizer
for Canonical XML 1.0 writes it. It comes to the same if the chain has a last step of its own that
writes the document so. Main fact: `conversion_as_last_step`.
-/

namespace DsigRegistry

/-- How often the constructor has been called makes no difference to the transform, as long as the
constructors of the canonicalizers that it calls itself answer the same way on each call. -/
def Transform.Ignores (t : Transform) (factory : FactoryId) : Prop :=
  ∀ data params (canonicalizers : Registry Canonicalizer), canonicalizers.Steady →
    (t.execute data params canonicalizers).Ignores factory

theorem Transform.pure_ignores (f : TransformData → Params → Except Error TransformData)
    (factory : FactoryId) : (Transform.pure f).Ignores factory :=
  fun _ _ _ _ => Traced.Respects.pure _

theorem Transform.c14n_ignores (m : C14nMode) (factory : FactoryId) :
    (Transform.c14n m).Ignores factory :=
  fun data params _ h => c14n_respects m (Journal.lasting_without factory) data params h

/-! ### Documents that are written -/

section Written

variable {canonicalizers : Registry Canonicalizer} (h : canonicalizers.Steady)
include h

/-- A document is converted by the canonicalizer for Canonical XML 1.0, with no prefixes. -/
theorem TransformData.toOctets_yields (document : String) :
    ((xml document).toOctets canonicalizers).Yields
      ((canonicalizers.create Algorithm.c14n).answer.bind (·.canonicalize document [])) := by
  refine (h.create_yields Algorithm.c14n).bind ?_
  cases (canonicalizers.create Algorithm.c14n).answer with
  | error e => exact .pure _
  | ok canonicalizer => exact fun _ => rfl

/-- A canonicalization transform has an error of its own for a canonicalizer that cannot be
constructed. -/
theorem Transform.c14n_yields (m : C14nMode) (data : TransformData) (params : Params) :
    ((c14n m).execute data params canonicalizers).Yields
      (match (canonicalizers.create m.uri).answer with
      | .error _ => .error (.canonicalization ("no canonicalizer registered for " ++ m.uri))
      | .ok canonicalizer =>
        data.asText.bind fun document =>
          (canonicalizer.canonicalize document (m.prefixes params)).map .octets) := by
  refine (h.create_yields m.uri).bind ?_
  cases (canonicalizers.create m.uri).answer with
  | error e => exact .pure _
  | ok canonicalizer =>
    dsimp only
    cases data.asText with
    | error e => exact .pure _
    | ok document => exact fun _ => rfl

/-- The parameters of the step do not matter to Canonical XML 1.0. -/
theorem Transform.c14n_inclusive_yields (document : String) (params : Params) :
    ((c14n .inclusive).execute (.xml document) params canonicalizers).Yields
      (match (canonicalizers.create Algorithm.c14n).answer with
      | .error _ =>
        .error (.canonicalization ("no canonicalizer registered for " ++ Algorithm.c14n))
      | .ok canonicalizer => (canonicalizer.canonicalize document []).map .octets) :=
  c14n_yields h .inclusive (.xml document) params

end Written

namespace Pipeline

/-- The transform for Canonical XML 1.0 is under its own URI, the constructors of canonicalizers
answer the same way on each call, and how often the constructor of that one transform has been
called makes no difference to any of the others. -/
structure WritesDocuments (p : Pipeline) (d : Descriptor Transform) : Prop where
  bound : p.transforms.lookup? Algorithm.c14n = some d
  builds : ∀ n, d.factory.build n = .ok (.c14n .inclusive)
  canonicalizers : p.canonicalizers.Steady
  ignored : ∀ e ∈ p.transforms.entries, ∀ n t, e.2.factory.build n = .ok t →
    t.Ignores d.factory.id

variable {p : Pipeline} {chain : Chain} {data : TransformData} {j j' : Journal}

/-! ### Conversion of what a chain leaves -/

theorem executeToOctets_of_error {e : PipelineError}
    (h : p.execute chain data j = (.error e, j')) :
    p.executeToOctets chain data j = (.error e, j') := by
  rw [executeToOctets, Traced.bind_apply, h]
  rfl

theorem executeToOctets_of_octets {octets : Octets}
    (h : p.execute chain data j = (.ok (.octets octets), j')) :
    p.executeToOctets chain data j = (.ok octets, j') := by
  rw [executeToOctets, Traced.bind_apply, h]
  rfl

/-- A document that cannot be written is a failure behind the last step. -/
theorem executeToOctets_of_xml {document : String}
    (h : p.execute chain data j = (.ok (.xml document), j')) :
    (p.executeToOctets chain data j).1 =
      ((TransformData.xml document).toOctets p.canonicalizers j').1.mapError
        fun cause => ⟨chain.length, Algorithm.c14n, cause⟩ := by
  rw [executeToOctets, Traced.bind_apply, h]
  dsimp only
  rw [Traced.bind_apply]
  cases ((TransformData.xml document).toOctets p.canonicalizers j').1 with
  | error cause => rfl
  | ok octets => rfl

/-! ### One more step -/

/-- A chain whose last step can be constructed comes to what that step makes of what the others
leave. The constructor of the last step is called before they run, which they do not notice. -/
theorem WritesDocuments.execute_concat {d : Descriptor Transform} (h : p.WritesDocuments d)
    {document : String} (hexecute : p.execute chain data j = (.ok (.xml document), j'))
    (params : Params) :
    ∃ k, (p.execute (chain ++ [⟨Algorithm.c14n, params⟩]) data j).1 =
      (p.run chain.length [(⟨Algorithm.c14n, params⟩, .c14n .inclusive)] (.xml document) k).1 := by
  let last : Step := ⟨Algorithm.c14n, params⟩
  cases (p.executes_iff ..).1 hexecute with
  | @finished steps _ _ hsteps hran =>
    have hcreate : (p.transforms.create last.uri (j ++ p.calls chain)).1 =
        .ok (.c14n .inclusive) := by
      rw [Registry.create, h.bound]
      exact h.builds _
    have hconstructed : p.Constructed j (chain ++ [last]) (steps ++ [(last, .c14n .inclusive)]) :=
      hsteps.append (.cons hcreate .nil)
    have hcalls : p.calls [last] = [.constructed d.factory.id] := by
      simp [calls, last, h.bound]
    have hunnoticed : (j ++ p.calls (chain ++ [last])).without d.factory.id =
        (j ++ p.calls chain).without d.factory.id := by
      rw [calls_append, hcalls, ← List.append_assoc, Journal.without_append]
      simp [Journal.without]
    have hsame : ∀ s ∈ steps, ∀ data params,
        (s.2.execute data params p.canonicalizers).Ignores d.factory.id := by
      intro s hs data params
      obtain ⟨e, he, n, hbuild⟩ := hsteps.exists_build s hs
      exact h.ignored e he n s.2 hbuild data params p.canonicalizers h.canonicalizers
    obtain ⟨hanswer, -⟩ := run_respects (Journal.lasting_without d.factory.id) hsame 0 data
      _ _ hunnoticed
    rw [hran.run 0] at hanswer
    refine ⟨(p.run 0 steps data (j ++ p.calls (chain ++ [last]))).2, ?_⟩
    rw [hconstructed.execute, run_append, Traced.bind_apply, hanswer, Nat.zero_add,
      hsteps.length_eq]

/-- A single step answers what its transform does, and fails with its own number. -/
theorem run_singleton (p : Pipeline) (index : Nat) (step : Step) (t : Transform)
    (data : TransformData) (k : Journal) :
    (p.run index [(step, t)] data k).1 =
      (t.execute data step.params p.canonicalizers (k ++ [.executed step.uri])).1.mapError
        fun cause => ⟨index, step.uri, cause⟩ := by
  rw [run, Traced.bind_apply, Traced.record_apply, Traced.bind_apply]
  cases (t.execute data step.params p.canonicalizers (k ++ [.executed step.uri])).1 with
  | error cause => rfl
  | ok data' => rfl

/-- A chain that fails does so with or without conversion, and octets that it leaves are not
converted, whatever canonicalizers there are. If it leaves a document, conversion gives the octets
that one more step for Canonical XML 1.0 gives, whatever its parameters; where either fails both
do, as what comes behind the last step of the chain. -/
theorem conversion_as_last_step (p : Pipeline) (chain : Chain) (data : TransformData)
    (j : Journal) :
    (∀ e, (p.execute chain data j).1 = .error e →
      (p.executeToOctets chain data j).1 = .error e) ∧
    (∀ octets, (p.execute chain data j).1 = .ok (.octets octets) →
      p.executeToOctets chain data j = (.ok octets, (p.execute chain data j).2)) ∧
    (∀ d, p.WritesDocuments d → ∀ document, (p.execute chain data j).1 = .ok (.xml document) →
      ∀ params : Params,
        let converted := (p.executeToOctets chain data j).1
        let extended := (p.execute (chain ++ [⟨Algorithm.c14n, params⟩]) data j).1
        (∀ octets, converted = .ok octets ↔ extended = .ok (.octets octets)) ∧
        ((∃ octets, converted = .ok octets) ∨
          ∃ cause cause', converted = .error ⟨chain.length, Algorithm.c14n, cause⟩ ∧
            extended = .error ⟨chain.length, Algorithm.c14n, cause'⟩)) := by
  rcases hexecute : p.execute chain data j with ⟨result, j'⟩
  refine ⟨?_, ?_, ?_⟩
  · rintro e rfl
    rw [executeToOctets_of_error hexecute]
  · rintro octets rfl
    exact executeToOctets_of_octets hexecute
  · rintro d h document rfl params
    obtain ⟨k, hextended⟩ := h.execute_concat hexecute params
    dsimp only
    rw [hextended, run_singleton, Transform.c14n_inclusive_yields h.canonicalizers document params,
      executeToOctets_of_xml hexecute, TransformData.toOctets_yields h.canonicalizers document]
    cases (p.canonicalizers.create Algorithm.c14n).answer with
    | error e =>
      refine ⟨fun octets => ?_, .inr ⟨_, _, rfl, rfl⟩⟩
      constructor <;> intro h <;> cases h
    | ok canonicalizer =>
      dsimp only [Except.bind]
      cases canonicalizer.canonicalize document [] with
      | error cause =>
        refine ⟨fun octets => ?_, .inr ⟨_, _, rfl, rfl⟩⟩
        constructor <;> intro h <;> cases h
      | ok octets =>
        refine ⟨fun octets' => ?_, .inl ⟨_, rfl⟩⟩
        constructor <;> intro h <;> cases h <;> rfl

/-- The transform for Canonical XML 1.0, with a name. -/
def inclusiveC14n : Descriptor Transform where
  implementation := "c14n"
  factory := .const (.host 0) (.c14n .inclusive)

/-- A pipeline that takes octets for documents and writes documents without the blanks around
them. -/
def trimming : Pipeline where
  transforms := ⟨.transform,
    [("urn:xml", ⟨"xml", none, .const (.host 1) Stub.toXml⟩), (Algorithm.c14n, inclusiveC14n)]⟩
  canonicalizers := ⟨.canonicalizer, [(Algorithm.c14n, ⟨"trim", none, .const (.host 2) Stub.trim⟩)]⟩

theorem writesDocuments_trimming : trimming.WritesDocuments inclusiveC14n where
  bound := rfl
  builds _ := rfl
  canonicalizers e he := by
    obtain rfl := List.mem_singleton.1 he
    exact fun _ _ => rfl
  ignored e he n t ht := by
    simp only [trimming, List.mem_cons, List.not_mem_nil, or_false] at he
    rcases he with rfl | rfl <;> cases ht
    · exact Transform.pure_ignores _ _
    · exact Transform.c14n_ignores .inclusive _

/-- The chain takes the octets for a document, and conversion writes it; so does one more step. -/
theorem conversion_as_last_step_trimming :
    let chain : Chain := [⟨"urn:xml", .empty⟩]
    let data : TransformData := .octets [0x20, 0x61, 0x20]
    trimming.WritesDocuments inclusiveC14n ∧
    (trimming.execute chain data []).1 = .ok (.xml " a ") ∧
    (trimming.executeToOctets chain data []).1 = .ok [0x61] ∧
    ∀ params, (trimming.execute (chain ++ [⟨Algorithm.c14n, params⟩]) data []).1 =
      .ok (.octets [0x61]) := by
  intro chain data
  have hexecute : (trimming.execute chain data []).1 = .ok (.xml " a ") := rfl
  have hconverted : (trimming.executeToOctets chain data []).1 = .ok [0x61] := rfl
  refine ⟨writesDocuments_trimming, hexecute, hconverted, fun params => ?_⟩
  obtain ⟨-, -, hdocument⟩ := conversion_as_last_step trimming chain data []
  obtain ⟨hoctets, -⟩ := hdocument _ writesDocuments_trimming _ hexecute params
  exact (hoctets [0x61]).1 hconverted

end Pipeline

end DsigRegistry
