import DsigRegistry.Proofs.Blank
import DsigRegistry.Proofs.Serialization
import DsigRegistry.Proofs.Utf8
import DsigRegistry.Proofs.Words

/-!
# Canonicalization steps

What a canonicalization transform hands to its canonicalizer is the text of its input and, in the
exclusive modes only, the words of the prefix list; nothing else can be told from its answer. If
the canonicalizer reproduces what it has written, repeating the step changes nothing. Main facts:
`c14n_sees_text_and_prefixes` and `repetition_changes_nothing`.
-/

namespace DsigRegistry

/-! ### What the canonicalizer is handed -/

/-- The list of prefixes as it is written; a missing one counts as empty. -/
def Params.prefixText (p : Params) : String :=
  (p.get? prefixList).getD ""

theorem Params.inclusivePrefixes_eq (p : Params) :
    p.inclusivePrefixes = Text.words p.prefixText := by
  unfold inclusivePrefixes prefixText
  cases p.get? prefixList <;> rfl

/-- Of several bindings of the list the last one counts, whatever else is bound. -/
theorem Params.prefixText_ofList (before : List (String × String)) (list : String)
    {after : List (String × String)} (h : ∀ b ∈ after, b.1 ≠ prefixList) :
    (ofList (before ++ (prefixList, list) :: after)).prefixText = list := by
  have hafter : after.reverse.find? (fun b => b.1 == prefixList) = none := by
    simpa [List.find?_eq_none] using h
  simp [prefixText, get?, ofList, Dictionary.get?_ofList, List.find?_append, hafter]

theorem Params.inclusivePrefixes_congr {p q : Params} {words : List (List Char)}
    (hp : Text.Spaced p.prefixText.toList words) (hq : Text.Spaced q.prefixText.toList words) :
    p.inclusivePrefixes = q.inclusivePrefixes := by
  rw [inclusivePrefixes_eq, inclusivePrefixes_eq, Text.words_eq_map, Text.words_eq_map,
    hp.wordChars_eq, hq.wordChars_eq]

theorem TransformData.asText_encode (text : String) :
    (octets (Text.Utf8.encode text)).asText = .ok text := by
  rw [asText, Text.Utf8.decode_encode]

namespace Transform

variable {m : C14nMode} {data data' : TransformData} {p q : Params}
  {canonicalizers : Registry Canonicalizer}

/-- The transform only looks at the text of its input and at the prefixes for its mode. -/
theorem c14n_congr (hdata : data.asText = data'.asText) (hprefixes : m.prefixes p = m.prefixes q) :
    (c14n m).execute data p canonicalizers = (c14n m).execute data' q canonicalizers := by
  unfold c14n
  dsimp only
  rw [hdata, hprefixes]

/-- Whatever the constructor answers, a canonicalizer is not run on what is no text. -/
theorem c14n_of_no_text {e : Error} (h : data.asText = .error e) (params : Params) (j : Journal) :
    ∃ done, ((c14n m).execute data params canonicalizers j).2 = j ++ done ∧
      ∀ uri, Action.canonicalized uri ∉ done := by
  unfold c14n Registry.create
  dsimp only
  rw [h, Traced.bind_apply]
  cases canonicalizers.lookup? m.uri with
  | none => exact ⟨[], by simp, by simp⟩
  | some d =>
    refine ⟨[.constructed d.factory.id], ?_, by simp⟩
    dsimp only [Descriptor.instantiate]
    rw [Traced.construct_apply]
    cases d.factory.build (j.constructions d.factory.id) <;> rfl

/-- What the transform answers does not depend on earlier calls, and is the same for a document as
for its text in UTF-8. In the inclusive modes the parameters do not matter, and in the exclusive
ones nothing of them but the words of the prefix list. Octets that are no text are refused without
running the canonicalizer, once it is constructed. -/
theorem c14n_sees_text_and_prefixes (m : C14nMode) (canonicalizers : Registry Canonicalizer)
    (h : canonicalizers.Steady) :
    let execute := fun data params => (c14n m).execute data params canonicalizers
    (∀ data params, ∃ result, (execute data params).Yields result) ∧
    (∀ text params, execute (.xml text) params = execute (.octets (Text.Utf8.encode text)) params) ∧
    (m ≠ .exclusive → m ≠ .exclusiveWithComments → ∀ data p q, execute data p = execute data q) ∧
    (m = .exclusive ∨ m = .exclusiveWithComments → ∀ p q words,
      Text.Spaced p.prefixText.toList words → Text.Spaced q.prefixText.toList words →
      ∀ data, execute data p = execute data q) ∧
    (∀ octets, (¬ ∃ text, octets = Text.Utf8.encode text) →
      (∃ c, (canonicalizers.create m.uri).answer = .ok c) → ∀ params,
      (∃ cause, (execute (.octets octets) params).Yields (.error (.transform cause))) ∧
      ∀ j, ∃ done, (execute (.octets octets) params j).2 = j ++ done ∧
        ∀ uri, Action.canonicalized uri ∉ done) := by
  intro execute
  refine ⟨fun data params => ⟨_, c14n_yields h m data params⟩, ?_, ?_, ?_, ?_⟩
  · intro text params
    exact c14n_congr (TransformData.asText_encode text).symm rfl
  · intro hexclusive hcomments data p q
    have hinclusive : m.isExclusive = false := by cases m <;> trivial
    exact c14n_congr rfl (by simp [C14nMode.prefixes, hinclusive])
  · intro hexclusive p q words hp hq data
    refine c14n_congr rfl ?_
    rw [C14nMode.prefixes, C14nMode.prefixes, Params.inclusivePrefixes_congr hp hq]
  · intro octets hoctets hconstructed params
    obtain ⟨c, hc⟩ := hconstructed
    obtain ⟨fault, hfault⟩ := Text.Utf8.exists_fault_iff.2 hoctets
    have htext : (TransformData.octets octets).asText =
        .error (.transform ("invalid UTF-8: " ++ fault.message)) := by
      rw [TransformData.asText, hfault]
    refine ⟨⟨"invalid UTF-8: " ++ fault.message, ?_⟩, c14n_of_no_text htext params⟩
    have hyields := c14n_yields h m (.octets octets) params
    rw [hc, htext] at hyields
    exact hyields

/-- A registry with one canonicalizer, which shows what it is handed. -/
def showing : Registry Canonicalizer where
  category := .canonicalizer
  entries := [(Algorithm.excC14n, ⟨"tagged", none, .const (.host 0) (Stub.tagged "x")⟩)]

theorem steady_showing : showing.Steady := by
  intro e he
  obtain rfl := List.mem_singleton.1 he
  exact fun _ _ => rfl

/-- Neither another parameter nor an earlier list nor the blanks around the prefixes reach the
canonicalizer, and a document is handed to it like its octets. An octet that is no text is not. -/
theorem c14n_sees_text_and_prefixes_showing :
    let p := Params.ofList
      [(Params.prefixList, "xs"), ("Other", "1"), (Params.prefixList, " ds\t#default\n")]
    let q := Params.ofList [(Params.prefixList, "ds #default")]
    let execute := fun data params => (c14n .exclusive).execute data params showing
    showing.Steady ∧
    execute (.xml "<a/>") p = execute (.octets (Text.Utf8.encode "<a/>")) q ∧
    (execute (.xml "<a/>") q).answer = .ok (.octets (Text.Utf8.encode "x[ds,#default](<a/>)")) ∧
    ∃ cause, (execute (.octets [0xFF]) p).Yields (.error (.transform cause)) := by
  intro p q execute
  obtain ⟨-, htext, -, hprefixes, hoctets⟩ :=
    c14n_sees_text_and_prefixes .exclusive showing steady_showing
  have hp : p.prefixText = " ds\t#default\n" :=
    Params.prefixText_ofList [(Params.prefixList, "xs"), ("Other", "1")] _ (List.forall_mem_nil _)
  have hq : q.prefixText = "ds #default" :=
    Params.prefixText_ofList [] _ (List.forall_mem_nil _)
  have hpwords : Text.words p.prefixText = ["ds", "#default"] := by
    rw [hp]
    decide
  have hqwords : Text.words q.prefixText = ["ds", "#default"] := by
    rw [hq]
    decide
  refine ⟨steady_showing, ?_, by rfl, ?_⟩
  · calc execute (.xml "<a/>") p
      _ = execute (.xml "<a/>") q :=
        hprefixes (.inl rfl) p q _ (Text.words_eq_iff.1 hpwords) (Text.words_eq_iff.1 hqwords) _
      _ = execute (.octets (Text.Utf8.encode "<a/>")) q := htext "<a/>" q
  · have hinvalid : ¬ ∃ text, [0xFF] = Text.Utf8.encode text :=
      Text.Utf8.exists_fault_iff.1 ⟨.illFormed 1 0, rfl⟩
    exact (hoctets [0xFF] hinvalid ⟨Stub.tagged "x", rfl⟩ p).1

end Transform

/-! ### Steps that are repeated -/

/-- What has been written is a text, which is written in the same way again. -/
def Canonicalizer.Reproduces (c : Canonicalizer) : Prop :=
  ∀ document prefixes octets, c.canonicalize document prefixes = .ok octets →
    ∃ text, octets = Text.Utf8.encode text ∧ c.canonicalize text prefixes = .ok octets

namespace Pipeline

variable {p : Pipeline} {m : C14nMode} {data data' : TransformData}

/-- What a canonicalization transform leaves are octets, on which it does the same again if the
canonicalizer reproduces what it has written. -/
theorem c14n_again (h : p.canonicalizers.Steady)
    (hcontract : ∀ c, (p.canonicalizers.create m.uri).answer = .ok c → c.Reproduces)
    {params : Params} (hok : ((Transform.c14n m).execute data params p.canonicalizers).Yields
      (.ok data')) :
    (∃ octets, data' = .octets octets) ∧
      ((Transform.c14n m).execute data' params p.canonicalizers).Yields (.ok data') := by
  have hyields := Transform.c14n_yields h m
  have hanswer := (hyields data params).answer_eq.symm.trans hok.answer_eq
  cases hcreate : (p.canonicalizers.create m.uri).answer with
  | error e =>
    rw [hcreate] at hanswer
    cases hanswer
  | ok c =>
    rw [hcreate] at hanswer
    cases htext : data.asText with
    | error e =>
      rw [htext] at hanswer
      cases hanswer
    | ok document =>
      rw [htext] at hanswer
      cases hwritten : c.canonicalize document (m.prefixes params) with
      | error e =>
        simp only [Except.bind, hwritten] at hanswer
        cases hanswer
      | ok octets =>
        simp only [Except.bind, hwritten] at hanswer
        cases hanswer
        obtain ⟨text, rfl, hagain⟩ := hcontract c hcreate document _ octets hwritten
        have hyields' := hyields (.octets (Text.Utf8.encode text)) params
        rw [hcreate, TransformData.asText_encode] at hyields'
        simp only [Except.bind, hagain] at hyields'
        exact ⟨⟨_, rfl⟩, hyields'⟩

/-- A step that leaves the data as they are can be run any number of times. -/
theorem run_replicate_of_fixed {step : Step} {t : Transform}
    (h : (t.execute data step.params p.canonicalizers).Yields (.ok data)) (k index : Nat)
    (j : Journal) : (p.run index (List.replicate k (step, t)) data j).1 = .ok data := by
  induction k generalizing index j with
  | zero => rfl
  | succ k ih =>
    rw [List.replicate_succ, run, Traced.bind_apply, Traced.bind_apply, h]
    exact ih (index + 1) _

/-- Two endings of a chain are run on the same data, unless the chain fails before them. -/
theorem execute_append_cases (h : p.Steady) (chain : Chain) (data : TransformData) (j : Journal) :
    (∃ e, ∀ second rest, (∀ j, p.Constructed j second rest) →
      (p.execute (chain ++ second) data j).1 = .error e) ∨
    ∃ data', ∀ second rest, (∀ j, p.Constructed j second rest) →
      ∃ j', (p.execute (chain ++ second) data j).1 = (p.run chain.length rest data' j').1 := by
  rcases p.exists_constructed_or_error chain j with ⟨steps, hs⟩ |
    ⟨before, step, after, steps, cause, rfl, hs, hcause⟩
  · have hexecute : ∀ second rest, (∀ j, p.Constructed j second rest) →
        (p.execute (chain ++ second) data j).1 =
          (match p.run 0 steps data (j ++ p.calls (chain ++ second)) with
          | (.error e, _) => .error e
          | (.ok data', j') => (p.run chain.length rest data' j').1) := by
      intro second rest hrest
      rw [(hs.append (hrest _)).execute, run_append, Traced.bind_apply, Nat.zero_add, hs.length_eq]
      rcases p.run 0 steps data (j ++ p.calls (chain ++ second)) with ⟨_ | data', j'⟩ <;> rfl
    -- The constructors for the ending have been called by then, which the chain does not notice.
    have hanswer : ∀ second, (p.run 0 steps data (j ++ p.calls (chain ++ second))).1 =
        (p.run 0 steps data j).1 := by
      intro second
      refine (run_indifferent h.canonicalizers (h.steps_indifferent hs) 0 data _ _ ?_).1
      rw [Journal.work_append, work_calls, List.append_nil]
    cases hrun : (p.run 0 steps data j).1 with
    | error e =>
      refine .inl ⟨e, fun second rest hrest => ?_⟩
      have hfails := (hanswer second).trans hrun
      rw [hexecute second rest hrest]
      generalize p.run 0 steps data (j ++ p.calls (chain ++ second)) = outcome at hfails
      obtain ⟨result, j'⟩ := outcome
      subst hfails
      rfl
    | ok data' =>
      refine .inr ⟨data', fun second rest hrest => ?_⟩
      have hleaves := (hanswer second).trans hrun
      rw [hexecute second rest hrest]
      generalize p.run 0 steps data (j ++ p.calls (chain ++ second)) = outcome at hleaves
      obtain ⟨result, j'⟩ := outcome
      subst hleaves
      exact ⟨j', rfl⟩
  · refine .inl ⟨⟨before.length, step.uri, cause⟩, fun second rest _ => ?_⟩
    rw [List.append_assoc, List.cons_append, execute, Traced.bind_apply,
      hs.construct_of_error hcause, Nat.zero_add]
    rfl

theorem constructed_replicate (step : Step) {t : Transform}
    (h : (p.transforms.create step.uri).Yields (.ok t)) (k : Nat) (j : Journal) :
    p.Constructed j (List.replicate k step) (List.replicate k (step, t)) := by
  induction k generalizing j with
  | zero => exact .nil
  | succ k ih => exact .cons (h j) (ih _)

/-- Any number of steps for the mode, but at least one, comes to the same on the same data. -/
theorem exists_run_replicate (h : p.canonicalizers.Steady)
    (hcontract : ∀ c, (p.canonicalizers.create m.uri).answer = .ok c → c.Reproduces) (step : Step)
    (index : Nat) (data : TransformData) :
    ∃ result, (∀ k j,
        (p.run index (List.replicate (k + 1) (step, .c14n m)) data j).1 = result) ∧
      ∀ data', result = .ok data' → ∃ octets, data' = .octets octets := by
  have hyields := Transform.c14n_yields h m data step.params
  cases hanswer : ((Transform.c14n m).execute data step.params p.canonicalizers).answer with
  | error cause =>
    rw [← hyields.answer_eq, hanswer] at hyields
    refine ⟨.error ⟨index, step.uri, cause⟩, fun k j => ?_, nofun⟩
    rw [List.replicate_succ, run, Traced.bind_apply, Traced.bind_apply, hyields]
    rfl
  | ok data' =>
    rw [← hyields.answer_eq, hanswer] at hyields
    obtain ⟨hoctets, hagain⟩ := c14n_again h hcontract hyields
    refine ⟨.ok data', fun k j => ?_, fun _ hdata => Except.ok.inj hdata ▸ hoctets⟩
    rw [List.replicate_succ, run, Traced.bind_apply, Traced.bind_apply, hyields]
    exact run_replicate_of_fixed hagain k (index + 1) _

/-- Where the canonicalizer for a mode reproduces what it has written, a chain that ends in any
number of steps for the mode comes to what it comes to with one of them, with the same failures.
What it leaves then are octets, and conversion gives them as they are without doing anything. -/
theorem repetition_changes_nothing (p : Pipeline) (h : p.Steady) (m : C14nMode)
    (hbound : (p.transforms.create m.uri).Yields (.ok (.c14n m)))
    (hcontract : ∀ c, (p.canonicalizers.create m.uri).answer = .ok c → c.Reproduces)
    (chain : Chain) (data : TransformData) (params : Params) (k : Nat) (hk : 1 ≤ k)
    (j : Journal) :
    let step : Step := ⟨m.uri, params⟩
    let repeated := chain ++ List.replicate k step
    (p.execute repeated data j).1 = (p.execute (chain ++ [step]) data j).1 ∧
    (∀ e, (p.execute repeated data j).1 = .error e →
      (p.executeToOctets repeated data j).1 = .error e) ∧
    ∀ result, (p.execute repeated data j).1 = .ok result →
      ∃ octets, result = .octets octets ∧
        p.executeToOctets repeated data j = (.ok octets, (p.execute repeated data j).2) := by
  intro step repeated
  obtain ⟨k, rfl⟩ := Nat.exists_eq_add_of_le' hk
  have hrepeated := constructed_replicate step hbound (k + 1)
  have honce := constructed_replicate step hbound 1
  obtain ⟨hsame, hoctets⟩ :
      (p.execute repeated data j).1 = (p.execute (chain ++ [step]) data j).1 ∧
        ∀ result, (p.execute repeated data j).1 = .ok result →
          ∃ octets, result = .octets octets := by
    rcases execute_append_cases h chain data j with ⟨e, hfails⟩ | ⟨data', hleaves⟩
    · have hrepeatedFails : (p.execute repeated data j).1 = .error e := hfails _ _ hrepeated
      have honceFails : (p.execute (chain ++ [step]) data j).1 = .error e := hfails _ _ honce
      rw [hrepeatedFails, honceFails]
      exact ⟨rfl, nofun⟩
    · obtain ⟨result, hresult, hoctets⟩ :=
        exists_run_replicate h.canonicalizers hcontract step chain.length data'
      obtain ⟨j₁, hrun⟩ := hleaves _ _ hrepeated
      obtain ⟨j₂, hrun'⟩ := hleaves _ _ honce
      have hrepeatedResult : (p.execute repeated data j).1 = result := hrun.trans (hresult k j₁)
      have honceResult : (p.execute (chain ++ [step]) data j).1 = result :=
        hrun'.trans (hresult 0 j₂)
      rw [hrepeatedResult, honceResult]
      exact ⟨rfl, hoctets⟩
  refine ⟨hsame, fun e he => ?_, fun result hresult => ?_⟩
  · rw [executeToOctets_of_error (Prod.ext he rfl)]
  · obtain ⟨octets, rfl⟩ := hoctets result hresult
    exact ⟨octets, rfl, executeToOctets_of_octets (Prod.ext hresult rfl)⟩

/-- A pipeline that takes octets for documents and writes documents without the blanks around
them, as an exclusive mode of canonicalization. -/
def exclusiveTrimming : Pipeline where
  transforms := ⟨.transform,
    [("urn:xml", ⟨"xml", none, .const (.host 0) Stub.toXml⟩),
     (Algorithm.excC14n, ⟨"c14n", none, .const (.host 1) (.c14n .exclusive)⟩)]⟩
  canonicalizers := ⟨.canonicalizer,
    [(Algorithm.excC14n, ⟨"trim", none, .const (.host 2) Stub.trim⟩)]⟩

theorem steady_exclusiveTrimming : exclusiveTrimming.Steady where
  transforms e he := by
    simp only [exclusiveTrimming, List.mem_cons, List.not_mem_nil, or_false] at he
    rcases he with rfl | rfl <;> exact fun _ _ => rfl
  canonicalizers e he := by
    obtain rfl := List.mem_singleton.1 he
    exact fun _ _ => rfl
  indifferent e he n t ht := by
    simp only [exclusiveTrimming, List.mem_cons, List.not_mem_nil, or_false] at he
    rcases he with rfl | rfl <;> cases ht
    · exact Transform.pure_indifferent _
    · exact Transform.c14n_indifferent .exclusive

theorem reproduces_trim : Stub.trim.Reproduces := by
  intro document prefixes octets h
  have hoctets : Text.Utf8.encode (Text.trim document) = octets := Except.ok.inj h
  refine ⟨Text.trim document, hoctets.symm, ?_⟩
  rw [← hoctets]
  simp only [Stub.trim, Text.trim_trim]

/-- Three steps write the document that the first step reads as one does. -/
theorem repetition_changes_nothing_trimming :
    let p := exclusiveTrimming
    let chain : Chain := [⟨"urn:xml", .empty⟩]
    let step : Step := ⟨Algorithm.excC14n, .empty⟩
    let data : TransformData := .octets [0x20, 0x61, 0x20]
    p.Steady ∧ (p.transforms.create Algorithm.excC14n).Yields (.ok (.c14n .exclusive)) ∧
    Stub.trim.Reproduces ∧ 1 ≤ 3 ∧
    (p.execute (chain ++ [step]) data []).1 = .ok (.octets [0x61]) ∧
    (p.execute (chain ++ List.replicate 3 step) data []).1 = .ok (.octets [0x61]) ∧
    (p.executeToOctets (chain ++ List.replicate 3 step) data []).1 = .ok [0x61] := by
  intro p chain step data
  have hbound : (p.transforms.create Algorithm.excC14n).Yields (.ok (.c14n .exclusive)) :=
    fun _ => rfl
  have hcontract : ∀ c, (p.canonicalizers.create Algorithm.excC14n).answer = .ok c →
      c.Reproduces := by
    intro c hc
    have hcreate : (p.canonicalizers.create Algorithm.excC14n).answer = .ok Stub.trim := rfl
    obtain rfl := Except.ok.inj (hcreate.symm.trans hc)
    exact reproduces_trim
  have honce : (p.execute (chain ++ [step]) data []).1 = .ok (.octets [0x61]) := rfl
  obtain ⟨hsame, -, hoctets⟩ := repetition_changes_nothing p steady_exclusiveTrimming .exclusive
    hbound hcontract chain data .empty 3 (by decide) []
  have hrepeated : (p.execute (chain ++ List.replicate 3 step) data []).1 = .ok (.octets [0x61]) :=
    hsame.trans honce
  obtain ⟨octets, hresult, hconverted⟩ := hoctets _ hrepeated
  cases hresult
  exact ⟨steady_exclusiveTrimming, hbound, reproduces_trim, by decide, honce, hrepeated,
    congrArg Prod.fst hconverted⟩

end Pipeline

end DsigRegistry
