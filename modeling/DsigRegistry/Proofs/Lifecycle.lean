import DsigRegistry.Proofs.Call

/-!
# The lifecycle of a registry

A registry becomes ready once, by the first bootstrap that answers a report, and keeps that report
from then on. A bootstrap that fails under the strict policy leaves no trace but its events: what
comes after it goes as if it had not been tried.
-/

namespace DsigRegistry

namespace AlgorithmRegistry

theorem state_eq_ready_iff {a : AlgorithmRegistry} :
    a.state = .ready ↔ ∃ report, a.report = some report := by
  unfold state
  cases a.report <;> simp

theorem state_eq_uninitialized_iff {a : AlgorithmRegistry} :
    a.state = .uninitialized ↔ a.report = none := by
  unfold state
  cases a.report <;> simp

variable {a : AlgorithmRegistry}

/-! ### Runs -/

theorem report_run_of_ready {report : Report} (h : a.report = some report) (calls : List Call)
    (j : Journal) : (a.run calls j).1.1.report = some report := by
  induction calls generalizing a j with
  | nil => exact h
  | cons call calls ih => exact ih (perform_of_ready h call j).1 _

/-- The call, made after some others, made the registry ready with the report. -/
structure Wins (a : AlgorithmRegistry) (j : Journal) (before : List Call) (call : Call)
    (report : Report) : Prop where
  unready : (a.run before j).1.1.report = none
  answered : ((a.run before j).1.1.perform call (a.run before j).2).1.2 = .report report
  mode : call.mode? = some report.mode

/-- A run makes a registry ready exactly if one of its calls answers a report, and then one of
its calls wins. -/
theorem run_cases (h : a.report = none) (calls : List Call) (j : Journal) :
    ((a.run calls j).1.1.report = none ∧ ∀ report, .report report ∉ (a.run calls j).1.2) ∨
      ∃ report, (a.run calls j).1.1.report = some report ∧ .report report ∈ (a.run calls j).1.2 ∧
        ∃ before winner after, calls = before ++ winner :: after ∧
          a.Wins j before winner report := by
  induction calls generalizing a j with
  | nil => exact .inl ⟨h, fun _ => List.not_mem_nil⟩
  | cons call calls ih =>
    rw [run_cons]
    rcases perform_of_uninitialized h call j with ⟨report, hr, hanswer, hmode⟩ | ⟨hr, hanswer⟩
    · right
      exact ⟨report, report_run_of_ready hr calls _, by simp [hanswer],
        [], call, calls, rfl, h, hanswer, hmode⟩
    · rcases ih hr (a.perform call j).2 with ⟨hnone, hnot⟩ | ⟨report, hsome, hmem, hwin⟩
      · left
        refine ⟨hnone, fun report hmem => ?_⟩
        rcases List.mem_cons.1 hmem with heq | hmem
        · exact hanswer report heq.symm
        · exact hnot report hmem
      · right
        obtain ⟨before, winner, after, rfl, hunready, hanswered, hmode⟩ := hwin
        exact ⟨report, hsome, List.mem_cons_of_mem _ hmem,
          call :: before, winner, after, rfl, hunready, hanswered, hmode⟩

/-! ### Failures under the strict policy -/

/-- What a bootstrap does that fails under the strict policy. -/
def failing (p : Provider) (o : Options) (e : Error) : Journal :=
  p.fetching o.path ++ [.reported (.configurationUnloadable o.path e false)]

theorem init_of_strict {p : Provider} {o : Options} {e : Error} (h : a.report = none)
    (hread : p.sections? o.path = .error e) (hpolicy : o.failurePolicy = .strict) (j : Journal) :
    a.init p o j = ((a, .error e), j ++ failing p o e) :=
  once_of_error h (load_of_strict hread hpolicy j)

/-- Under the lenient policy the registry becomes ready with the error in its report, and nothing
else changes. -/
theorem init_of_lenient {p : Provider} {o : Options} {e : Error} (h : a.report = none)
    (hread : p.sections? o.path = .error e) (hpolicy : o.failurePolicy = .lenient) (j : Journal) :
    (a.init p o j).1 =
      ({ a with report := some (reportWithout o.path e) }, .ok (reportWithout o.path e)) :=
  congrArg Prod.fst (once_of_ok h (load_of_lenient hread hpolicy j))

theorem constructed_notMem_failing (p : Provider) (o : Options) (e : Error)
    (factory : FactoryId) : Action.constructed factory ∉ failing p o e := by
  simp [failing, Provider.fetching]

theorem perform_of_strict {p : Provider} {o : Options} {e : Error} (h : a.report = none)
    (hread : p.sections? o.path = .error e) (hpolicy : o.failurePolicy = .strict) (j : Journal) :
    a.perform (.init p o) j = ((a, .failure e), j ++ failing p o e) := by
  simp [perform, init_of_strict h hread hpolicy]

/-- Calls do and answer the same whether or not a bootstrap has failed before them. -/
theorem run_failing {p : Provider} {o : Options} {e : Error} (h : a.report = none)
    (hread : p.sections? o.path = .error e) (hpolicy : o.failurePolicy = .strict)
    (calls : List Call) (j : Journal) :
    ∃ b answers done, a.run calls j = ((b, answers), j ++ done) ∧
      a.run (.init p o :: calls) j =
        ((b, .failure e :: answers), j ++ failing p o e ++ done) := by
  have hsame : j.SameConstructions (j ++ failing p o e) :=
    Journal.sameConstructions_append (constructed_notMem_failing p o e) j
  obtain ⟨⟨b, answers⟩, done, hj, hj'⟩ := a.run_causal calls _ _ hsame
  refine ⟨b, answers, done, hj, ?_⟩
  rw [run_cons, perform_of_strict h hread hpolicy]
  simp only [hj']

end AlgorithmRegistry

/-! ### The lifecycle -/

open AlgorithmRegistry

/-- Where a run of calls has got to. -/
structure Stage where
  registry : AlgorithmRegistry
  answers : List Answer
  journal : Journal

/-- Where calls take a new registry over a catalog. -/
def Stage.after (k : Catalog) (j : Journal) (calls : List Call) : Stage :=
  let outcome := (ofCatalog k).run calls j
  ⟨outcome.1.1, outcome.1.2, outcome.2⟩

theorem Stage.after_append (k : Catalog) (j : Journal) (before after : List Call) :
    Stage.after k j (before ++ after) =
      let early := Stage.after k j before
      let late := early.registry.run after early.journal
      ⟨late.1.1, early.answers ++ late.1.2, late.2⟩ := by
  simp only [Stage.after, run_append]

/-- In every run of calls on a new registry, `late` being any later stage than `early`: the
registry is ready exactly if a bootstrap has answered a report, and remains so; the report is that
of the first such bootstrap, in its mode, and every later bootstrap answers it and does nothing at
all; and a bootstrap that fails under the strict policy answers the error of the document, changes
nothing, and makes no difference to what comes after it. -/
theorem bootstrap_lifecycle (k : Catalog) (j : Journal) (before after : List Call) :
    let early := Stage.after k j before
    let late := Stage.after k j (before ++ after)
    ((early.registry.state = .ready ↔ ∃ report, .report report ∈ early.answers) ∧
      (early.registry.state = .ready → late.registry.state = .ready)) ∧
    (∀ report, early.registry.report = some report →
      (∃ first winner rest, before = first ++ winner :: rest ∧
        (ofCatalog k).Wins j first winner report) ∧
      late.registry.report = some report ∧
      (∀ p o, late.registry.init p o late.journal = ((late.registry, .ok report), late.journal)) ∧
      late.registry.initDefaults late.journal = ((late.registry, report), late.journal)) ∧
    (∀ p o e, early.registry.state = .uninitialized → o.failurePolicy = .strict →
      p.sections? o.path = .error e →
      early.registry.init p o early.journal =
        ((early.registry, .error e), early.journal ++ failing p o e) ∧
      ∃ answers done,
        late = ⟨late.registry, early.answers ++ answers, early.journal ++ done⟩ ∧
        Stage.after k j (before ++ .init p o :: after) =
          ⟨late.registry, early.answers ++ .failure e :: answers,
            early.journal ++ failing p o e ++ done⟩) := by
  intro early late
  have hlate : ∀ b answers done,
      early.registry.run after early.journal = ((b, answers), early.journal ++ done) →
      late = ⟨b, early.answers ++ answers, early.journal ++ done⟩ := by
    intro b answers done h
    change Stage.after k j (before ++ after) = _
    rw [Stage.after_append]
    simp only [early, h]
  have hkeep : ∀ report, early.registry.report = some report →
      late.registry.report = some report := by
    intro report h
    change (Stage.after k j (before ++ after)).registry.report = _
    rw [Stage.after_append]
    exact report_run_of_ready h after early.journal
  have hcases := run_cases (a := ofCatalog k) rfl before j
  refine ⟨⟨?_, ?_⟩, ?_, ?_⟩
  · rw [state_eq_ready_iff]
    rcases hcases with ⟨hnone, hnot⟩ | ⟨report, hsome, hmem, -⟩
    · constructor
      · rintro ⟨report, h⟩
        exact absurd (h.symm.trans hnone) (by simp)
      · rintro ⟨report, h⟩
        exact absurd h (hnot report)
    · exact ⟨fun _ => ⟨report, hmem⟩, fun _ => ⟨report, hsome⟩⟩
  · rw [state_eq_ready_iff, state_eq_ready_iff]
    rintro ⟨report, h⟩
    exact ⟨report, hkeep report h⟩
  · intro report h
    refine ⟨?_, hkeep report h, fun p o => init_of_ready (hkeep report h) p o _,
      initDefaults_of_ready (hkeep report h) _⟩
    rcases hcases with ⟨hnone, -⟩ | ⟨report', hsome, -, first, winner, rest, hsplit, hwins⟩
    · exact absurd (h.symm.trans hnone) (by simp)
    · obtain rfl : report = report' := Option.some.inj (h.symm.trans hsome)
      exact ⟨first, winner, rest, hsplit, hwins⟩
  · intro p o e hstate hpolicy hread
    have hnone := state_eq_uninitialized_iff.1 hstate
    refine ⟨init_of_strict hnone hread hpolicy early.journal, ?_⟩
    obtain ⟨b, answers, done, hrun, hrun'⟩ := run_failing hnone hread hpolicy after early.journal
    refine ⟨answers, done, ?_, ?_⟩
    · rw [hlate b answers done hrun]
    · rw [Stage.after_append, hlate b answers done hrun]
      simp only [early] at hrun' ⊢
      rw [hrun']

end DsigRegistry
