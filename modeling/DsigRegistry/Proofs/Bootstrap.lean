import DsigRegistry.AlgorithmRegistry.Bootstrap
import DsigRegistry.Proofs.Registration

/-!
# Bootstraps

Every part of a bootstrap is causal. A registry that is ready is left alone. A load that fails
leaves the registry as it was and calls no constructor.
-/

namespace DsigRegistry

open Traced (Causal)

/-! ### Causality -/

theorem Progress.enter_causal (p : Progress) (q : Request) : (p.enter q).Causal := by
  unfold enter
  refine (AlgorithmRegistry.registerDescribed_causal _ _ _ _ _).bind fun outcome => ?_
  cases outcome with
  | ok registry => exact .pure _
  | error error => exact (Causal.report _).bind fun _ => .pure _

theorem Progress.bindPrefix_causal (p : Progress) (m : PrefixMapping) :
    (p.bindPrefix m).Causal := by
  unfold bindPrefix
  refine (AlgorithmRegistry.setPrefix_causal _ _ _).bind fun outcome => ?_
  cases outcome with
  | ok registry => exact .pure _
  | error conflict => exact (Causal.report _).bind fun _ => .pure _

theorem Provider.load_causal (p : Provider) (path : String) : (p.load path).Causal := by
  unfold load
  refine (Causal.record _).bind fun _ => Causal.bind ?_ fun _ => .pure _
  cases p.file? path with
  | none => exact .pure ()
  | some file => exact .report _

theorem Configuration.parse_causal (document : String) : (parse document).Causal := by
  unfold parse
  cases sections? document with
  | error e => exact .pure _
  | ok sections => exact (Causal.forM Causal.report _).bind fun _ => .pure _

namespace AlgorithmRegistry

theorem apply_causal (a : AlgorithmRegistry) (c : Configuration) (mode : Mode) :
    (a.apply c mode).Causal :=
  (Causal.foldlM Progress.enter_causal _ _).bind fun _ =>
    (Causal.foldlM Progress.bindPrefix_causal _ _).bind fun _ => .pure _

theorem complete_causal {ε : Type} (p : Progress) : (complete (ε := ε) p).Causal :=
  (Causal.report _).bind fun _ => .pure _

theorem readConfiguration_causal (provider : Provider) (path : String) :
    (readConfiguration provider path).Causal := by
  refine (Provider.load_causal provider path).bind fun loaded => ?_
  cases loaded with
  | error e => exact .pure _
  | ok document => exact Configuration.parse_causal document

theorem load_causal (a : AlgorithmRegistry) (provider : Provider) (options : Options) :
    (a.load provider options).Causal := by
  refine (readConfiguration_causal provider options.path).bind fun outcome => ?_
  cases outcome with
  | ok configuration => exact (apply_causal _ _ _).bind fun _ => complete_causal _
  | error e =>
    cases options.failurePolicy with
    | strict => exact (Causal.report _).bind fun _ => .pure _
    | lenient => exact (Causal.report _).bind fun _ => complete_causal _

theorem loadDefaults_causal (a : AlgorithmRegistry) : a.loadDefaults.Causal := by
  have hbound := Causal.foldlM Progress.bindPrefix_causal
    ⟨{ a with locale := some Defaults.locale }, { mode := .defaults }⟩ Defaults.prefixMappings
  exact (hbound.bind fun _ => Causal.foldlM Progress.enter_causal _ _).bind
    fun _ => complete_causal _

theorem once_causal {ε : Type} (a : AlgorithmRegistry)
    {load : Traced (AlgorithmRegistry × Except ε Report)} (h : load.Causal) :
    (a.once load).Causal := by
  unfold once
  cases a.report with
  | some report => exact .pure _
  | none =>
    refine h.bind fun ⟨populated, outcome⟩ => ?_
    cases outcome with
    | ok report => exact .pure _
    | error e => exact .pure _

theorem init_causal (a : AlgorithmRegistry) (provider : Provider) (options : Options) :
    (a.init provider options).Causal :=
  a.once_causal (a.load_causal provider options)

theorem initDefaults_causal (a : AlgorithmRegistry) : a.initDefaults.Causal := by
  refine (a.once_causal a.loadDefaults_causal).bind fun ⟨ready, outcome⟩ => ?_
  cases outcome with
  | ok report => exact .pure _
  | error never => exact never.elim

end AlgorithmRegistry

/-! ### Entries -/

namespace Progress

variable (p : Progress)

theorem enter_of_ok {q : Request} {j j' : Journal} {a : AlgorithmRegistry}
    (h : p.registry.registerDescribed q.category q.id q.implementation q.description j =
      (.ok a, j')) :
    p.enter q j =
      (⟨a, { p.report with
        registered := p.report.registered ++ [⟨q.category, q.id, q.implementation⟩] }⟩, j') := by
  simp [enter, h]

theorem enter_of_error {q : Request} {j j' : Journal} {e : RegistrationError}
    (h : p.registry.registerDescribed q.category q.id q.implementation q.description j =
      (.error e, j')) :
    p.enter q j =
      ({ p with report := { p.report with
          failures := p.report.failures ++ [⟨q.category, e⟩] } },
        j' ++ [.reported (.registrationFailed (EntryFailure.severity ⟨q.category, e⟩) q.category
          q.id q.implementation e)]) := by
  simp [enter, h]

theorem bindPrefix_of_ok {m : PrefixMapping} {t : PrefixTable}
    (h : p.registry.prefixes.bind m.uri m.label = .ok t) (j : Journal) :
    p.bindPrefix m j =
      ({ p with registry := { p.registry with prefixes := t } },
        j ++ [.reported (.prefixBound m.uri m.label)]) := by
  simp [bindPrefix, AlgorithmRegistry.setPrefix, h]

theorem bindPrefix_of_error {m : PrefixMapping} {c : PrefixConflict}
    (h : p.registry.prefixes.bind m.uri m.label = .error c) (j : Journal) :
    p.bindPrefix m j =
      ({ p with report := { p.report with
          prefixConflicts := p.report.prefixConflicts ++ [c] } },
        j ++ [.reported (.prefixIgnored c m.uri)]) := by
  simp [bindPrefix, AlgorithmRegistry.setPrefix, h]

/-- The report is in the same mode, and the registry has the same report of its own. -/
structure SameOrigin (p' : Progress) : Prop where
  mode : p'.report.mode = p.report.mode
  report : p'.registry.report = p.registry.report

theorem enter_sameOrigin (q : Request) (j : Journal) : p.SameOrigin (p.enter q j).1 := by
  rcases h : p.registry.registerDescribed q.category q.id q.implementation q.description j
    with ⟨outcome, j'⟩
  cases outcome with
  | ok a =>
    rw [enter_of_ok p h]
    exact ⟨rfl, AlgorithmRegistry.report_registerDescribed h⟩
  | error e =>
    rw [enter_of_error p h]
    exact ⟨rfl, rfl⟩

theorem bindPrefix_sameOrigin (m : PrefixMapping) (j : Journal) :
    p.SameOrigin (p.bindPrefix m j).1 := by
  cases h : p.registry.prefixes.bind m.uri m.label with
  | ok t =>
    rw [bindPrefix_of_ok p h]
    exact ⟨rfl, rfl⟩
  | error c =>
    rw [bindPrefix_of_error p h]
    exact ⟨rfl, rfl⟩

variable {p} in
theorem SameOrigin.trans {p' p'' : Progress} (h : p.SameOrigin p') (h' : p'.SameOrigin p'') :
    p.SameOrigin p'' :=
  ⟨h'.mode.trans h.mode, h'.report.trans h.report⟩

theorem enterAll_sameOrigin (requests : List Request) (j : Journal) :
    p.SameOrigin (p.enterAll requests j).1 :=
  Traced.foldlM_induction (P := p.SameOrigin)
    (fun p' q _ j hp' => hp'.trans (p'.enter_sameOrigin q j)) ⟨rfl, rfl⟩ j

theorem bindPrefixes_sameOrigin (mappings : List PrefixMapping) (j : Journal) :
    p.SameOrigin (p.bindPrefixes mappings j).1 :=
  Traced.foldlM_induction (P := p.SameOrigin)
    (fun p' m _ j hp' => hp'.trans (p'.bindPrefix_sameOrigin m j)) ⟨rfl, rfl⟩ j

end Progress

/-! ### Reading the document -/

/-- What fetching the document at a path does. -/
def Provider.fetching (p : Provider) (path : String) : Journal :=
  .loaded path :: (p.file? path).toList.map fun file => .reported (.configurationRead file)

theorem Provider.load_apply (p : Provider) (path : String) (j : Journal) :
    p.load path j = (p.document path, j ++ p.fetching path) := by
  unfold load fetching
  cases p.file? path with
  | none => rfl
  | some file =>
    change (p.document path, j ++ [.loaded path] ++ [.reported (.configurationRead file)]) = _
    rw [List.append_assoc]
    rfl

/-- The sections of the document that a provider has at a path. -/
def Provider.sections? (p : Provider) (path : String) :
    Except Error (List (Xml.Element Xml.Name)) :=
  p.document path >>= Configuration.sections?

namespace AlgorithmRegistry

theorem readConfiguration_of_error {p : Provider} {path : String} {e : Error}
    (h : p.sections? path = .error e) (j : Journal) :
    readConfiguration p path j = (.error e, j ++ p.fetching path) := by
  unfold Provider.sections? at h
  simp only [readConfiguration, Traced.bind_apply, Provider.load_apply]
  cases hd : p.document path with
  | error e' =>
    obtain rfl : e' = e := by simpa [hd, bind, Except.bind] using h
    rfl
  | ok document =>
    have hs : Configuration.sections? document = .error e := by
      simpa [hd, bind, Except.bind] using h
    simp [Configuration.parse, hs]

theorem readConfiguration_of_ok {p : Provider} {path : String}
    {sections : List (Xml.Element Xml.Name)} (h : p.sections? path = .ok sections) (j : Journal) :
    readConfiguration p path j =
      (.ok (.ofSections sections),
        j ++ p.fetching path ++ (sections.flatMap Configuration.sectionEvents).map .reported) := by
  unfold Provider.sections? at h
  simp only [readConfiguration, Traced.bind_apply, Provider.load_apply]
  cases hd : p.document path with
  | error e => simp [hd, bind, Except.bind] at h
  | ok document =>
    have hs : Configuration.sections? document = .ok sections := by
      simpa [hd, bind, Except.bind] using h
    simp [Configuration.parse, hs]

/-! ### Loading -/

section Load

variable {a : AlgorithmRegistry} {p : Provider} {o : Options} {e : Error}

/-- Under the strict policy a document that cannot be read changes nothing. -/
theorem load_of_strict (hread : p.sections? o.path = .error e) (hpolicy : o.failurePolicy = .strict)
    (j : Journal) :
    a.load p o j =
      ((a, .error e),
        j ++ (p.fetching o.path ++ [.reported (.configurationUnloadable o.path e false)])) := by
  simp [load, readConfiguration_of_error hread, hpolicy]

/-- The report of a bootstrap that went on without its document. -/
def reportWithout (path : String) (e : Error) : Report where
  mode := .configuration path
  documentError := some e

/-- Under the lenient policy a document that cannot be read is reported, and nothing else
changes. -/
theorem load_of_lenient (hread : p.sections? o.path = .error e)
    (hpolicy : o.failurePolicy = .lenient) (j : Journal) :
    a.load p o j =
      ((a, .ok (reportWithout o.path e)),
        j ++ (p.fetching o.path ++ [.reported (.configurationUnloadable o.path e true),
          .reported (reportWithout o.path e).readyEvent])) := by
  simp [load, readConfiguration_of_error hread, hpolicy, complete, reportWithout]

/-- A document that can be read is applied. -/
theorem load_of_sections {sections : List (Xml.Element Xml.Name)}
    (hread : p.sections? o.path = .ok sections) (j : Journal) :
    a.load p o j =
      let applied := a.apply (.ofSections sections) (.configuration o.path)
        (j ++ p.fetching o.path ++ (sections.flatMap Configuration.sectionEvents).map .reported)
      ((applied.1.registry, .ok applied.1.report),
        applied.2 ++ [.reported applied.1.report.readyEvent]) := by
  simp [load, readConfiguration_of_ok hread, complete]

end Load

theorem loadDefaults_apply (a : AlgorithmRegistry) (j : Journal) :
    a.loadDefaults j =
      let applied := a.applyDefaults j
      ((applied.1.registry, .ok applied.1.report),
        applied.2 ++ [.reported applied.1.report.readyEvent]) := by
  simp only [loadDefaults, complete, Traced.bind_apply, Traced.report_apply, Traced.pure_apply]

/-! ### Loading once -/

section Once

variable {ε : Type} {a : AlgorithmRegistry} {load : Traced (AlgorithmRegistry × Except ε Report)}
  {j : Journal}

/-- A registry that is ready is left alone, and so is the journal. -/
theorem once_of_ready {report : Report} (h : a.report = some report) (j : Journal) :
    a.once load j = ((a, .ok report), j) := by
  simp [once, h]

theorem once_of_ok (h : a.report = none) {populated : AlgorithmRegistry} {report : Report}
    {j' : Journal} (hload : load j = ((populated, .ok report), j')) :
    a.once load j = (({ populated with report := some report }, .ok report), j') := by
  simp [once, h, hload]

theorem once_of_error (h : a.report = none) {populated : AlgorithmRegistry} {e : ε} {j' : Journal}
    (hload : load j = ((populated, .error e), j')) :
    a.once load j = ((populated, .error e), j') := by
  simp [once, h, hload]

end Once

end AlgorithmRegistry

end DsigRegistry
