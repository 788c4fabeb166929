import DsigRegistry.Proofs.Bootstrap

/-!
# Runs of calls

The calls that a host makes on a registry and on its catalog, in any order, and what one call can
do to a registry that is ready and to one that is not.
-/

namespace DsigRegistry

/-- A call on a registry or on its catalog. -/
inductive Call where
  | init (provider : Provider) (options : Options)
  | initDefaults
  | register (category : Category) (id implementation : String)
  | provide (id : String) (implementation : Implementation)
  | declareUnavailable (id : String) (category : Category) (dependency : String)

/-- The mode of the reports that a call makes, if it is a bootstrap. -/
def Call.mode? : Call → Option Mode
  | .init _ options => some (.configuration options.path)
  | .initDefaults => some .defaults
  | .register .. | .provide .. | .declareUnavailable .. => none

/-- What a call answers. -/
inductive Answer where
  | report (report : Report)
  | failure (error : Error)
  | registered
  | refused (error : RegistrationError)
  /-- The catalog has changed. -/
  | noted

namespace AlgorithmRegistry

/-- Make a call. -/
def perform (a : AlgorithmRegistry) : Call → Traced (AlgorithmRegistry × Answer)
  | .init provider options => do
    match ← a.init provider options with
    | (a, .ok report) => return (a, .report report)
    | (a, .error e) => return (a, .failure e)
  | .initDefaults => do
    let (a, report) ← a.initDefaults
    return (a, .report report)
  | .register category id implementation => do
    match ← a.registerImplementation category id implementation with
    | .ok a => return (a, .registered)
    | .error e => return (a, .refused e)
  | .provide id implementation =>
    return ({ a with catalog := a.catalog.provide id implementation }, .noted)
  | .declareUnavailable id category dependency =>
    return ({ a with catalog := a.catalog.declareUnavailable id category dependency }, .noted)

/-- Make calls in order. -/
def run (a : AlgorithmRegistry) : List Call → Traced (AlgorithmRegistry × List Answer)
  | [] => return (a, [])
  | call :: calls => do
    let (a, answer) ← a.perform call
    let (a, answers) ← a.run calls
    return (a, answer :: answers)

theorem run_cons (a : AlgorithmRegistry) (call : Call) (calls : List Call) (j : Journal) :
    a.run (call :: calls) j =
      let first := a.perform call j
      let rest := first.1.1.run calls first.2
      ((rest.1.1, first.1.2 :: rest.1.2), rest.2) := rfl

theorem run_append (a : AlgorithmRegistry) (before after : List Call) (j : Journal) :
    a.run (before ++ after) j =
      let early := a.run before j
      let late := early.1.1.run after early.2
      ((late.1.1, early.1.2 ++ late.1.2), late.2) := by
  induction before generalizing a j with
  | nil => rfl
  | cons call before ih =>
    simp only [List.cons_append, run_cons, ih]

theorem perform_causal (a : AlgorithmRegistry) (call : Call) : (a.perform call).Causal := by
  cases call with
  | init provider options =>
    refine (a.init_causal provider options).bind fun ⟨b, outcome⟩ => ?_
    cases outcome with
    | ok report => exact .pure _
    | error e => exact .pure _
  | initDefaults => exact a.initDefaults_causal.bind fun _ => .pure _
  | register category id implementation =>
    refine (a.registerDescribed_causal category id implementation none).bind fun outcome => ?_
    cases outcome with
    | ok b => exact .pure _
    | error e => exact .pure _
  | provide id implementation => exact .pure _
  | declareUnavailable id category dependency => exact .pure _

theorem run_causal (a : AlgorithmRegistry) (calls : List Call) : (a.run calls).Causal := by
  induction calls generalizing a with
  | nil => exact .pure _
  | cons call calls ih =>
    exact (a.perform_causal call).bind fun first => (ih first.1).bind fun _ => .pure _

/-! ### One call -/

theorem init_of_ready {a : AlgorithmRegistry} {report : Report} (h : a.report = some report)
    (provider : Provider) (options : Options) (j : Journal) :
    a.init provider options j = ((a, .ok report), j) :=
  once_of_ready h j

theorem initDefaults_of_ready {a : AlgorithmRegistry} {report : Report}
    (h : a.report = some report) (j : Journal) : a.initDefaults j = ((a, report), j) := by
  unfold initDefaults
  rw [Traced.bind_apply, once_of_ready h]
  rfl

theorem initDefaults_of_ok {a b : AlgorithmRegistry} {report : Report} {j j' : Journal}
    (h : a.report = none) (hload : a.loadDefaults j = ((b, .ok report), j')) :
    a.initDefaults j = (({ b with report := some report }, report), j') := by
  unfold initDefaults
  rw [Traced.bind_apply, once_of_ok h hload]
  rfl

/-- A registry that is ready keeps its report, and no call answers another one. -/
theorem perform_of_ready {a : AlgorithmRegistry} {report : Report} (h : a.report = some report)
    (call : Call) (j : Journal) :
    (a.perform call j).1.1.report = some report ∧
      ∀ other, (a.perform call j).1.2 = .report other → other = report := by
  cases call with
  | init provider options => simp [perform, init_of_ready h, h]
  | initDefaults => simp [perform, initDefaults_of_ready h, h]
  | register category id implementation =>
    rcases hr : a.registerImplementation category id implementation j with ⟨outcome, j'⟩
    cases outcome with
    | ok b => simp [perform, hr, report_registerDescribed hr, h]
    | error e => simp [perform, hr, h]
  | provide id implementation => simp [perform, h]
  | declareUnavailable id category dependency => simp [perform, h]

/-- A load either leaves the registry as it was or answers a report in its own mode. -/
theorem load_cases (a : AlgorithmRegistry) (provider : Provider) (options : Options)
    (j : Journal) :
    (∃ e j', a.load provider options j = ((a, .error e), j')) ∨
      ∃ b report j', a.load provider options j = ((b, .ok report), j') ∧
        report.mode = .configuration options.path := by
  cases hread : provider.sections? options.path with
  | error e =>
    cases hpolicy : options.failurePolicy with
    | strict => exact .inl ⟨e, _, load_of_strict hread hpolicy j⟩
    | lenient => exact .inr ⟨a, _, _, load_of_lenient hread hpolicy j, rfl⟩
  | ok sections =>
    refine .inr ⟨_, _, _, load_of_sections hread j, ?_⟩
    simp only [apply, Traced.bind_apply, Traced.pure_apply]
    rw [(Progress.bindPrefixes_sameOrigin _ _ _).mode, (Progress.enterAll_sameOrigin _ _ _).mode]

/-- The report of a load is not yet the report of the registry. -/
theorem report_load (a : AlgorithmRegistry) (provider : Provider) (options : Options)
    (j : Journal) : (a.load provider options j).1.1.report = a.report := by
  cases hread : provider.sections? options.path with
  | error e =>
    cases hpolicy : options.failurePolicy with
    | strict => rw [load_of_strict hread hpolicy]
    | lenient => rw [load_of_lenient hread hpolicy]
  | ok sections =>
    rw [load_of_sections hread]
    simp only [apply, Traced.bind_apply, Traced.pure_apply]
    rw [(Progress.bindPrefixes_sameOrigin _ _ _).report,
      (Progress.enterAll_sameOrigin _ _ _).report]

theorem loadDefaults_cases (a : AlgorithmRegistry) (j : Journal) :
    ∃ b report j', a.loadDefaults j = ((b, .ok report), j') ∧ report.mode = .defaults := by
  refine ⟨_, _, _, a.loadDefaults_apply j, ?_⟩
  simp only [applyDefaults, Traced.bind_apply]
  rw [(Progress.enterAll_sameOrigin _ _ _).mode, (Progress.bindPrefixes_sameOrigin _ _ _).mode]

/-- A call makes a registry ready exactly if it answers a report, which then is the registry's and
in the mode of the call. -/
theorem perform_of_uninitialized {a : AlgorithmRegistry} (h : a.report = none) (call : Call)
    (j : Journal) :
    (∃ report, (a.perform call j).1.1.report = some report ∧
        (a.perform call j).1.2 = .report report ∧ call.mode? = some report.mode) ∨
      (a.perform call j).1.1.report = none ∧ ∀ report, (a.perform call j).1.2 ≠ .report report := by
  cases call with
  | init provider options =>
    rcases a.load_cases provider options j with ⟨e, j', hload⟩ | ⟨b, report, j', hload, hmode⟩
    · right
      simp [perform, init, once_of_error h hload, h]
    · left
      exact ⟨report, by simp [perform, init, once_of_ok h hload],
        by simp [perform, init, once_of_ok h hload], by simp [Call.mode?, hmode]⟩
  | initDefaults =>
    obtain ⟨b, report, j', hload, hmode⟩ := a.loadDefaults_cases j
    left
    exact ⟨report, by simp [perform, initDefaults_of_ok h hload],
      by simp [perform, initDefaults_of_ok h hload], by simp [Call.mode?, hmode]⟩
  | register category id implementation =>
    right
    rcases hr : a.registerImplementation category id implementation j with ⟨outcome, j'⟩
    cases outcome with
    | ok b => simp [perform, hr, report_registerDescribed hr, h]
    | error e => simp [perform, hr, h]
  | provide id implementation => simp [perform, h]
  | declareUnavailable id category dependency => simp [perform, h]

end AlgorithmRegistry

end DsigRegistry
