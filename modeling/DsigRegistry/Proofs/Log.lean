import DsigRegistry.Proofs.Lifecycle
import DsigRegistry.Proofs.Verdict

/-!
# The log of a bootstrap

The events that a bootstrap emits tell what its report says: there is one for each registration, for
each failure, for each entry that was skipped and for each prefix that was refused, in the order of
the report, and the last one counts them. Nothing is assumed of constructors, nor of what the
registries hold before. Main fact: `log_agrees`.
-/

namespace DsigRegistry

theorem Journal.events_append (j done : Journal) : (j ++ done).events = j.events ++ done.events :=
  List.filterMap_append ..

@[simp] theorem Journal.events_reported (events : List Event) :
    Journal.events (events.map .reported) = events := by
  simp [Journal.events, Function.comp_def, Action.event?]

/-! ### Notices -/

/-- What a bootstrap emits one event for each of. -/
inductive Notice where
  | registration
  | failure (severity : Severity)
  | skip
  | conflict
deriving DecidableEq

namespace Notice

/-- How important events are that give such a notice. -/
def level : Notice → Level
  | .registration => .debug
  | .failure .error => .error
  | .failure .warning | .skip | .conflict => .warn

/-- What events say that give such a notice. -/
def message : Notice → String
  | .registration => "registered"
  | .failure .error => "registration failed"
  | .failure .warning => "registration skipped"
  | .skip => "configuration entry lacks a required attribute"
  | .conflict => "prefix mapping ignored"

/-- The events that give such a notice, in order. -/
def among (n : Notice) (events : List Event) : List Event :=
  events.filter fun e => e.level = n.level ∧ e.message = n.message

end Notice

/-- The notice that an event gives. -/
def Event.notice? : Event → Option Notice
  | .registered .. => some .registration
  | .registrationFailed severity .. => some (.failure severity)
  | .configurationEntrySkipped .. => some .skip
  | .prefixIgnored .. => some .conflict
  | _ => none

/-- Notices are known by the levels and the messages of their events. -/
theorem Event.notice?_eq_some_iff {e : Event} {n : Notice} :
    e.notice? = some n ↔ e.level = n.level ∧ e.message = n.message := by
  rcases n with _ | (_ | _) | _ | _
  all_goals
    cases e with
    | registrationFailed severity =>
      cases severity <;> simp [notice?, level, message, Notice.level, Notice.message]
    | configurationUnloadable path error continuing =>
      cases continuing <;> simp [notice?, level, message, Notice.level, Notice.message]
    | _ => simp [notice?, level, message, Notice.level, Notice.message]

namespace Notice

variable {n : Notice} {events : List Event}

theorem among_eq_filter : n.among events = events.filter fun e => e.notice? = some n := by
  simp only [among, Event.notice?_eq_some_iff]

theorem among_append (events events' : List Event) :
    n.among (events ++ events') = n.among events ++ n.among events' :=
  List.filter_append ..

theorem among_singleton (e : Event) : n.among [e] = if e.notice? = some n then [e] else [] := by
  rw [among_eq_filter]
  split <;> simp [*]

theorem among_eq_nil (h : ∀ e ∈ events, e.notice? = none) : n.among events = [] := by
  rw [among_eq_filter]
  refine List.filter_eq_nil_iff.2 fun e he => ?_
  simp [h e he]

end Notice

/-- The event that tells of a failure. -/
def EntryFailure.event (f : EntryFailure) : Event :=
  .registrationFailed f.severity f.category f.error.id f.error.implementation f.error

/-- The event that tells of an entry that was skipped. -/
def SkippedEntry.event (e : SkippedEntry) : Event :=
  .configurationEntrySkipped e.sectionName e.element e.missing

/-- The event that tells of a prefix that was refused. -/
def PrefixConflict.event (c : PrefixConflict) : Event :=
  .prefixIgnored c c.requested

theorem PrefixTable.requested_of_bind_error {t : PrefixTable} {uri label : String}
    {c : PrefixConflict} (h : t.bind uri label = .error c) : c.requested = uri := by
  unfold bind conflict? at h
  cases hfound : t.bindings.entries.find? fun b => b.2 == label && b.1 != uri with
  | none => simp [hfound] at h
  | some b =>
    simp only [hfound, Option.map_some, Except.error.injEq] at h
    rw [← h]

namespace AlgorithmRegistry

/-! ### Categories -/

/-- Each of the five registries is one of its own category. -/
def Categorized (a : AlgorithmRegistry) : Prop :=
  ∀ c, (a.registry c).category = c

theorem categorized_ofCatalog (k : Catalog) : (ofCatalog k).Categorized := by
  intro c
  cases c <;> rfl

theorem Categorized.withRegistry {a : AlgorithmRegistry} (h : a.Categorized) {c : Category}
    {r : Registry c.Interface} (hr : r.category = c) : (a.withRegistry c r).Categorized := by
  intro c'
  by_cases hc : c' = c
  · subst hc
    rw [registry_withRegistry, hr]
  · rw [registry_withRegistry_of_ne a hc, h]

theorem Categorized.update {a : AlgorithmRegistry} (h : a.Categorized) (prefixes : PrefixTable)
    (catalog : Catalog) (locale : Option Locale) (providerMappings : Option String)
    (report : Option Report) :
    Categorized { a with prefixes, catalog, locale, providerMappings, report } := by
  intro c
  have hc := h c
  cases c <;> exact hc

/-- So it is in every run, whatever is called. -/
theorem categorized_kept : Kept .free Categorized where
  registered a c id d j r _ ha hr := by
    refine ha.withRegistry ?_
    rw [Registry.eq_put_of_register_ok hr, Registry.category_put, ha]
  others _ _ _ _ _ _ ha := ha.update _ _ _ _ _
  documented _ _ _ := trivial
  defaults _ _ := trivial

/-! ### What has been registered -/

variable {a : AlgorithmRegistry}

/-- The identifier is registered in the category once the registrations have been made. -/
def holdsAfter (a : AlgorithmRegistry) (made : List Registration) (c : Category) (id : String) :
    Bool :=
  (a.registry c).contains id || made.any fun r => r.category == c && r.id == id

/-- The events of registrations that are made in order after those in `made`. -/
def registeredEvents (a : AlgorithmRegistry) : List Registration → List Registration → List Event
  | _, [] => []
  | made, r :: rs =>
    .registered r.category r.id r.implementation (a.holdsAfter made r.category r.id) ::
      registeredEvents a (made ++ [r]) rs

/-- The events that have to tell of what a report on `a` says. -/
def notices (a : AlgorithmRegistry) (r : Report) : Notice → List Event
  | .registration => a.registeredEvents [] r.registered
  | .failure severity => (r.failuresOf severity).map EntryFailure.event
  | .skip => r.skipped.map SkippedEntry.event
  | .conflict => r.prefixConflicts.map PrefixConflict.event

theorem holdsAfter_concat (made : List Registration) (r : Registration) (c : Category)
    (id : String) :
    a.holdsAfter (made ++ [r]) c id =
      (a.holdsAfter made c id || r.category == c && r.id == id) := by
  simp [holdsAfter, Bool.or_assoc]

theorem registeredEvents_concat (made rs : List Registration) (r : Registration) :
    a.registeredEvents made (rs ++ [r]) =
      a.registeredEvents made rs ++
        [.registered r.category r.id r.implementation
          (a.holdsAfter (made ++ rs) r.category r.id)] := by
  induction rs generalizing made with
  | nil => simp [registeredEvents]
  | cons r' rs ih =>
    rw [List.cons_append, registeredEvents, registeredEvents, ih, List.append_assoc,
      List.singleton_append, List.cons_append]

/-- A registration that is made is there afterwards, along with what was there before. -/
theorem contains_withDescribed (c c' : Category) (id id' implementation : String)
    (description : Option String) (factory : Factory c.Interface) :
    ((a.withDescribed c id implementation description factory).registry c').contains id' =
      ((a.registry c').contains id' || c == c' && id == id') := by
  by_cases hc : c' = c
  · subst hc
    rw [withDescribed, registry_withRegistry, Registry.contains_put, beq_self_eq_true,
      Bool.true_and]
  · rw [withDescribed, registry_withRegistry_of_ne a hc, beq_false_of_ne (Ne.symm hc),
      Bool.false_and, Bool.or_false]

/-- A registration that is made emits one event, which tells what was there before, and one that
is refused emits none. -/
theorem registerDescribed_emits (c : Category) (id implementation : String)
    (description : Option String) (j : Journal) :
    (∃ factory done, a.registerDescribed c id implementation description j =
        (.ok (a.withDescribed c id implementation description factory), j ++ done) ∧
      done.events = [.registered (a.registry c).category id implementation
        ((a.registry c).contains id)]) ∨
    ∃ e done, a.registerDescribed c id implementation description j = (.error e, j ++ done) ∧
      done.events = [] := by
  rw [registerDescribed_apply]
  cases a.catalog.resolve c id implementation with
  | error e => exact .inr ⟨e, [], by rw [List.append_nil], rfl⟩
  | ok factory =>
    dsimp only
    cases factory.build (j.constructions factory.id) with
    | error cause => exact .inr ⟨_, _, rfl, rfl⟩
    | ok x => exact .inl ⟨factory, _, rfl, rfl⟩

end AlgorithmRegistry

/-! ### Events and reports -/

open AlgorithmRegistry

/-- The events since a bootstrap of `a` began tell how far it has come, and that the entries in
`noted` are skipped, which its report does not say yet. -/
structure Progress.Told (a : AlgorithmRegistry) (noted : List SkippedEntry) (p : Progress)
    (events : List Event) : Prop where
  categorized : p.registry.Categorized
  held : ∀ c id, (p.registry.registry c).contains id = a.holdsAfter p.report.registered c id
  notices : ∀ n : Notice, n.among events = a.notices { p.report with skipped := noted } n
  quiet : ∀ e ∈ events, e.level ≠ .info
  unsaid : p.report.skipped = []

namespace Progress.Told

variable {a : AlgorithmRegistry} {noted : List SkippedEntry} {p : Progress} {events : List Event}

/-- A registration that is made. -/
theorem concat_registered (h : Told a noted p events) (q : Request)
    (factory : Factory q.category.Interface) :
    Told a noted
      ⟨p.registry.withDescribed q.category q.id q.implementation q.description factory,
        { p.report with registered := p.report.registered ++ [q.registration] }⟩
      (events ++ [.registered (p.registry.registry q.category).category q.id q.implementation
        ((p.registry.registry q.category).contains q.id)]) where
  categorized := h.categorized.withRegistry ((Registry.category_put ..).trans (h.categorized _))
  held c id := by
    rw [contains_withDescribed, holdsAfter_concat, h.held]
    rfl
  notices n := by
    rw [Notice.among_append, Notice.among_singleton, h.notices]
    cases n with
    | registration =>
      simp only [AlgorithmRegistry.notices, registeredEvents_concat, h.categorized q.category,
        h.held]
      rfl
    | failure | skip | conflict => exact List.append_nil _
  quiet := List.forall_mem_append.2 ⟨h.quiet, by simp [Event.level]⟩
  unsaid := h.unsaid

/-- A registration that is refused. -/
theorem concat_failure (h : Told a noted p events) (f : EntryFailure) :
    Told a noted { p with report := { p.report with failures := p.report.failures ++ [f] } }
      (events ++ [f.event]) where
  categorized := h.categorized
  held := h.held
  notices n := by
    rw [Notice.among_append, Notice.among_singleton, h.notices]
    cases n with
    | failure severity =>
      simp only [AlgorithmRegistry.notices, Report.failuresOf, List.filter_append, List.map_append]
      by_cases hf : f.severity = severity <;> simp [Event.notice?, EntryFailure.event, hf]
    | registration | skip | conflict => exact List.append_nil _
  quiet := by
    refine List.forall_mem_append.2 ⟨h.quiet, ?_⟩
    cases hf : f.severity <;> simp [EntryFailure.event, Event.level, hf]
  unsaid := h.unsaid

/-- A prefix that is bound. -/
theorem concat_bound (h : Told a noted p events) (m : PrefixMapping) (t : PrefixTable) :
    Told a noted { p with registry := { p.registry with prefixes := t } }
      (events ++ [.prefixBound m.uri m.label]) where
  categorized := h.categorized.update _ _ _ _ _
  held c id := by
    rw [← h.held]
    cases c <;> rfl
  notices n := by
    rw [Notice.among_append, Notice.among_singleton, h.notices]
    exact List.append_nil _
  quiet := List.forall_mem_append.2 ⟨h.quiet, by simp [Event.level]⟩
  unsaid := h.unsaid

/-- A prefix that is refused. -/
theorem concat_conflict (h : Told a noted p events) (c : PrefixConflict) :
    Told a noted
      { p with report := { p.report with prefixConflicts := p.report.prefixConflicts ++ [c] } }
      (events ++ [c.event]) where
  categorized := h.categorized
  held := h.held
  notices n := by
    rw [Notice.among_append, Notice.among_singleton, h.notices]
    cases n with
    | conflict => simp [AlgorithmRegistry.notices, Event.notice?, PrefixConflict.event]
    | registration | failure | skip => exact List.append_nil _
  quiet := List.forall_mem_append.2 ⟨h.quiet, by simp [PrefixConflict.event, Event.level]⟩
  unsaid := h.unsaid

/-- What has been done since the journal was `j₀` tells how far a bootstrap has come. -/
def Since (a : AlgorithmRegistry) (noted : List SkippedEntry) (j₀ : Journal) (p : Progress)
    (j : Journal) : Prop :=
  ∃ done, j = j₀ ++ done ∧ Told a noted p done.events

variable {j₀ j : Journal}

theorem Since.enter (h : Since a noted j₀ p j) (q : Request) :
    Since a noted j₀ (p.enter q j).1 (p.enter q j).2 := by
  obtain ⟨done, rfl, htold⟩ := h
  rcases p.registry.registerDescribed_emits q.category q.id q.implementation q.description
    (j₀ ++ done) with ⟨factory, more, hok, hevents⟩ | ⟨e, more, herror, hevents⟩
  · rw [p.enter_of_ok hok]
    refine ⟨done ++ more, List.append_assoc .., ?_⟩
    rw [Journal.events_append, hevents]
    exact htold.concat_registered q factory
  · obtain ⟨hid, himplementation⟩ := names_of_error herror
    rw [p.enter_of_error herror]
    refine ⟨done ++ more ++ [.reported (EntryFailure.event ⟨q.category, e⟩)], ?_, ?_⟩
    · simp only [EntryFailure.event, hid, himplementation, List.append_assoc]
    · rw [Journal.events_append, Journal.events_append, hevents, List.append_nil]
      exact htold.concat_failure ⟨q.category, e⟩

theorem Since.bindPrefix (h : Since a noted j₀ p j) (m : PrefixMapping) :
    Since a noted j₀ (p.bindPrefix m j).1 (p.bindPrefix m j).2 := by
  obtain ⟨done, rfl, htold⟩ := h
  cases hbind : p.registry.prefixes.bind m.uri m.label with
  | ok t =>
    rw [p.bindPrefix_of_ok hbind]
    refine ⟨done ++ [.reported (.prefixBound m.uri m.label)], List.append_assoc .., ?_⟩
    rw [Journal.events_append]
    exact htold.concat_bound m t
  | error c =>
    rw [p.bindPrefix_of_error hbind, ← PrefixTable.requested_of_bind_error hbind]
    refine ⟨done ++ [.reported c.event], List.append_assoc .., ?_⟩
    rw [Journal.events_append]
    exact htold.concat_conflict c

theorem Since.enterAll (h : Since a noted j₀ p j) (qs : List Request) :
    Since a noted j₀ (p.enterAll qs j).1 (p.enterAll qs j).2 :=
  Traced.foldlM_keeps (P := Since a noted j₀) (fun _ q _ _ hp => hp.enter q) h

theorem Since.bindPrefixes (h : Since a noted j₀ p j) (ms : List PrefixMapping) :
    Since a noted j₀ (p.bindPrefixes ms j).1 (p.bindPrefixes ms j).2 :=
  Traced.foldlM_keeps (P := Since a noted j₀) (fun _ m _ _ hp => hp.bindPrefix m) h

/-- A bootstrap begins with events that tell of nothing but entries that have been skipped. -/
theorem start (ha : a.Categorized) (locale : Option Locale) (providerMappings : Option String)
    (mode : Mode) (documentError : Option Error)
    (hskipped : Notice.skip.among events = noted.map SkippedEntry.event)
    (hothers : ∀ n : Notice, n ≠ .skip → n.among events = [])
    (hquiet : ∀ e ∈ events, e.level ≠ .info) :
    Told a noted ⟨{ a with locale, providerMappings }, { mode, documentError }⟩ events where
  categorized := ha.update _ _ _ _ _
  held c id := by
    rw [holdsAfter, List.any_nil, Bool.or_false]
    cases c <;> rfl
  notices n := by
    cases n with
    | skip => exact hskipped
    | registration | failure | conflict => exact hothers _ nofun
  quiet := hquiet
  unsaid := rfl

end Progress.Told

/-! ### The events of a document -/

namespace Configuration

theorem outcomes_of_unknown {s : Xml.Element Xml.Name}
    (h : SectionKind.ofName s.name.localPart = .unknown) : outcomes s = [] := by
  simp [outcomes, entries, h, SectionKind.entryName?]

/-- A section gives rise to one event for each entry that is skipped, and to others only if it is
itself passed over. -/
theorem sectionEvents_cases (s : Xml.Element Xml.Name) :
    let noted := (outcomes s).filterMap Outcome.skipped?
    (noted = [] ∧ sectionEvents s = [.configurationSectionIgnored s.name.localPart]) ∨
      sectionEvents s = noted.map SkippedEntry.event := by
  by_cases hkind : SectionKind.ofName s.name.localPart = .unknown
  · left
    rw [sectionEvents, if_pos hkind, outcomes_of_unknown hkind]
    exact ⟨rfl, rfl⟩
  · right
    rw [sectionEvents, if_neg hkind, List.map_filterMap]
    rfl

theorem among_map_event (n : Notice) (es : List SkippedEntry) :
    n.among (es.map SkippedEntry.event) =
      if n = .skip then es.map SkippedEntry.event else [] := by
  rw [Notice.among_eq_filter]
  split
  next h =>
    refine List.filter_eq_self.2 fun e he => ?_
    obtain ⟨k, -, rfl⟩ := List.mem_map.1 he
    rw [h]
    rfl
  next h =>
    refine List.filter_eq_nil_iff.2 fun e he => ?_
    obtain ⟨k, -, rfl⟩ := List.mem_map.1 he
    simpa [SkippedEntry.event, Event.notice?] using Ne.symm h

theorem skipped_cons (s : Xml.Element Xml.Name) (ss : List (Xml.Element Xml.Name)) :
    (ofSections (s :: ss)).skipped =
      (outcomes s).filterMap Outcome.skipped? ++ (ofSections ss).skipped := by
  simp [ofSections]

theorem among_sectionEvents (n : Notice) (ss : List (Xml.Element Xml.Name)) :
    n.among (ss.flatMap sectionEvents) =
      if n = .skip then (ofSections ss).skipped.map SkippedEntry.event else [] := by
  induction ss with
  | nil => split <;> rfl
  | cons s ss ih =>
    rw [List.flatMap_cons, Notice.among_append, ih, skipped_cons, List.map_append]
    rcases sectionEvents_cases s with ⟨hnone, hevents⟩ | hevents
    · rw [hnone, hevents, Notice.among_eq_nil (by simp [Event.notice?])]
      rfl
    · rw [hevents, among_map_event]
      split <;> rfl

theorem level_of_mem_sectionEvents {ss : List (Xml.Element Xml.Name)} {e : Event}
    (h : e ∈ ss.flatMap sectionEvents) : e.level ≠ .info := by
  obtain ⟨s, -, he⟩ := List.mem_flatMap.1 h
  rcases sectionEvents_cases s with ⟨-, hevents⟩ | hevents
  · rw [hevents, List.mem_singleton] at he
    simp [he, Event.level]
  · rw [hevents] at he
    obtain ⟨k, -, rfl⟩ := List.mem_map.1 he
    simp [SkippedEntry.event, Event.level]

end Configuration

/-- Fetching a document may emit an event, but it is a minor one. -/
theorem Provider.events_fetching (p : Provider) (path : String) :
    ∀ e ∈ (p.fetching path).events, e.notice? = none ∧ e.level ≠ .info := by
  intro e he
  cases hfile : p.file? path with
  | none => simp [fetching, Journal.events, hfile, Action.event?] at he
  | some file =>
    simp only [fetching, Journal.events, hfile, Action.event?, Option.toList, List.map_cons,
      List.map_nil, List.filterMap_cons, List.filterMap_nil, List.mem_singleton] at he
    rw [he]
    exact ⟨rfl, by simp [Event.level]⟩

namespace AlgorithmRegistry

variable {a : AlgorithmRegistry}

/-! ### Bootstraps -/

/-- The report `r` on a bootstrap of `a`, the registries of `b` that it has left behind, and the
events that it has emitted agree. Nothing is ever taken out of a registry, so what it held when it
was told of a registration is what it held at first and what has been told of since. -/
structure Agrees (a b : AlgorithmRegistry) (r : Report) (events : List Event) : Prop where
  notices : ∀ n : Notice, n.among events = a.notices r n
  held : ∀ c id, (b.registry c).contains id = a.holdsAfter r.registered c id
  ready : ∃ before, (∀ e ∈ before, e.level ≠ .info) ∧
    events = before ++ [.ready r.mode r.registered.length r.errors.length r.warnings.length]

/-- The event at the end makes the account of a bootstrap complete. -/
theorem agrees_of_told {noted : List SkippedEntry} {p : Progress} {done : Journal}
    (h : p.Told a noted done.events) {r : Report} (hr : r = { p.report with skipped := noted }) :
    a.Agrees { p.registry with report := some r } r
      (Journal.events (done ++ [.reported r.readyEvent])) := by
  rw [Journal.events_append]
  exact {
    notices n := by
      change n.among (done.events ++ [r.readyEvent]) = _
      rw [Notice.among_append, Notice.among_singleton, h.notices, hr]
      exact List.append_nil _
    held c id := by
      have hregistered : r.registered = p.report.registered := by rw [hr]
      rw [hregistered, ← h.held]
      cases c <;> rfl
    ready := ⟨done.events, h.quiet, rfl⟩ }

/-- Reading a document tells which of its entries are skipped. -/
theorem told_read (ha : a.Categorized) (p : Provider) (path : String)
    (ss : List (Xml.Element Xml.Name)) (locale : Option Locale) (providerMappings : Option String)
    (mode : Mode) :
    Progress.Told a (Configuration.ofSections ss).skipped
      ⟨{ a with locale, providerMappings }, { mode }⟩
      ((p.fetching path).events ++ ss.flatMap Configuration.sectionEvents) := by
  have hfetching := p.events_fetching path
  have hamong : ∀ n : Notice,
      n.among ((p.fetching path).events ++ ss.flatMap Configuration.sectionEvents) =
        if n = .skip then (Configuration.ofSections ss).skipped.map SkippedEntry.event else [] := by
    intro n
    rw [Notice.among_append, Notice.among_eq_nil fun e he => (hfetching e he).1,
      Configuration.among_sectionEvents, List.nil_append]
  refine .start ha locale providerMappings mode none ?_ ?_ ?_
  · rw [hamong, if_pos rfl]
  · intro n hn
    rw [hamong, if_neg hn]
  · exact List.forall_mem_append.2
      ⟨fun e he => (hfetching e he).2, fun e he => Configuration.level_of_mem_sectionEvents he⟩

/-- What applying a document does tells what the report is going to say. -/
theorem apply_told (ha : a.Categorized) (p : Provider) (path : String)
    (ss : List (Xml.Element Xml.Name)) (mode : Mode) (j : Journal) :
    let c := Configuration.ofSections ss
    ∃ (bound : Progress) (done : Journal),
      a.apply c mode
          (j ++ p.fetching path ++ (ss.flatMap Configuration.sectionEvents).map .reported) =
        ({ bound with report := { bound.report with skipped := c.skipped } }, j ++ done) ∧
      bound.Told a c.skipped done.events := by
  intro c
  have hread := told_read ha p path ss (c.locale.or a.locale)
    (c.providerMappings.or a.providerMappings) mode
  have hsince : Progress.Told.Since a c.skipped j
      ⟨{ a with
        locale := c.locale.or a.locale
        providerMappings := c.providerMappings.or a.providerMappings }, { mode }⟩
      (j ++ p.fetching path ++ (ss.flatMap Configuration.sectionEvents).map .reported) := by
    refine ⟨_, List.append_assoc .., ?_⟩
    rwa [Journal.events_append, Journal.events_reported]
  obtain ⟨done, hdone, htold⟩ := (hsince.enterAll c.requests).bindPrefixes c.prefixMappings
  refine ⟨_, done, ?_, htold⟩
  rw [apply, Traced.bind_apply, Traced.bind_apply, Traced.pure_apply]
  exact Prod.ext rfl hdone

theorem applyDefaults_told (ha : a.Categorized) (j : Journal) :
    ∃ entered done, a.applyDefaults j = (entered, j ++ done) ∧ entered.Told a [] done.events := by
  unfold applyDefaults
  -- The tables do not matter, and nothing is to look into them.
  generalize Defaults.prefixMappings = ms
  generalize Defaults.requests = qs
  have hsince : Progress.Told.Since a [] j
      ⟨{ a with locale := some Defaults.locale }, { mode := .defaults }⟩ j :=
    ⟨[], (List.append_nil j).symm,
      .start ha (some Defaults.locale) a.providerMappings .defaults none rfl (fun _ _ => rfl)
        fun _ he => absurd he List.not_mem_nil⟩
  obtain ⟨done, hdone, htold⟩ := (hsince.bindPrefixes ms).enterAll qs
  refine ⟨_, done, ?_, htold⟩
  rw [Traced.bind_apply]
  exact Prod.ext rfl hdone

/-- Going on without a document tells of nothing. -/
theorem reportWithout_told (ha : a.Categorized) (p : Provider) (path : String) (e : Error) :
    Progress.Told a [] ⟨a, reportWithout path e⟩
      (Journal.events (p.fetching path ++ [.reported (.configurationUnloadable path e true)])) := by
  have hfetching := p.events_fetching path
  have hevents : Journal.events (p.fetching path ++
        [.reported (.configurationUnloadable path e true)]) =
      (p.fetching path).events ++ [.configurationUnloadable path e true] :=
    Journal.events_append ..
  rw [hevents]
  have hamong : ∀ n : Notice,
      n.among ((p.fetching path).events ++ [.configurationUnloadable path e true]) = [] := by
    intro n
    refine Notice.among_eq_nil (List.forall_mem_append.2 ⟨fun e he => (hfetching e he).1, ?_⟩)
    simp [Event.notice?]
  refine .start ha a.locale a.providerMappings _ (some e) (hamong .skip) (fun n _ => hamong n) ?_
  exact List.forall_mem_append.2 ⟨fun e he => (hfetching e he).2, by simp [Event.level]⟩

/-- What a bootstrap from a document has emitted: an account of its report or, if it fails, which it
does over a document that it is strict about, nothing of level `info`. -/
structure InitLog (a b : AlgorithmRegistry) (p : Provider) (o : Options)
    (outcome : Except Error Report) (events : List Event) : Prop where
  agrees : ∀ r, outcome = .ok r → a.Agrees b r events
  fails : ∀ e, outcome = .error e ↔ o.failurePolicy = .strict ∧ p.sections? o.path = .error e
  quiet : ∀ e, outcome = .error e → ∀ event ∈ events, event.level ≠ .info

theorem init_log (ha : a.Categorized) (hunready : a.report = none) (p : Provider) (o : Options)
    (j : Journal) :
    ∃ b outcome done, a.init p o j = ((b, outcome), j ++ done) ∧
      a.InitLog b p o outcome done.events := by
  cases hread : p.sections? o.path with
  | ok ss =>
    obtain ⟨bound, done, happly, htold⟩ := apply_told ha p o.path ss (.configuration o.path) j
    have hload := load_of_sections (a := a) hread j
    simp only [happly] at hload
    rw [List.append_assoc] at hload
    refine ⟨_, _, _, once_of_ok hunready hload, ?_, ?_, ?_⟩
    · rintro r ⟨⟩
      exact agrees_of_told htold rfl
    · simp [hread]
    · rintro e ⟨⟩
  | error e =>
    cases hpolicy : o.failurePolicy with
    | strict =>
      refine ⟨_, _, _, once_of_error hunready (load_of_strict hread hpolicy j), ?_, ?_, ?_⟩
      · rintro r ⟨⟩
      · simp [hread, hpolicy]
      · intro e' _
        rw [Journal.events_append]
        exact List.forall_mem_append.2 ⟨fun e he => (p.events_fetching o.path e he).2,
          by simp [Journal.events, Action.event?, Event.level]⟩
    | lenient =>
      have hagrees := agrees_of_told (reportWithout_told ha p o.path e) rfl
      rw [List.append_assoc] at hagrees
      refine ⟨_, _, _, once_of_ok hunready (load_of_lenient hread hpolicy j), ?_, ?_, ?_⟩
      · rintro r ⟨⟩
        exact hagrees
      · simp [hpolicy]
      · rintro e' ⟨⟩

theorem initDefaults_log (ha : a.Categorized) (hunready : a.report = none) (j : Journal) :
    ∃ b r done, a.initDefaults j = ((b, r), j ++ done) ∧ a.Agrees b r done.events := by
  obtain ⟨entered, done, happly, htold⟩ := applyDefaults_told ha j
  have hload := a.loadDefaults_apply j
  simp only [happly] at hload
  rw [List.append_assoc] at hload
  have hunsaid : entered.report = { entered.report with skipped := [] } := by rw [← htold.unsaid]
  exact ⟨_, _, _, initDefaults_of_ok hunready hload, agrees_of_told htold hunsaid⟩

/-- Whatever the registries hold, a bootstrap that completes a load leaves an account behind: the
events that it has emitted tell what its report says, in the same order, and end with the only event
of level `info`, which counts what they tell. A bootstrap fails if it is strict about a document
that cannot be read, and emits no such event then. One of a registry that is ready does nothing at
all. -/
theorem log_agrees (a : AlgorithmRegistry) (ha : a.Categorized) (j : Journal) :
    (∀ p o, ∃ b outcome done, a.init p o j = ((b, outcome), j ++ done) ∧
      (a.state = .ready → done = []) ∧
      (a.state = .uninitialized → a.InitLog b p o outcome done.events)) ∧
    ∃ b r done, a.initDefaults j = ((b, r), j ++ done) ∧
      (a.state = .ready → done = []) ∧
      (a.state = .uninitialized → a.Agrees b r done.events) := by
  cases hreport : a.report with
  | some report =>
    have hready : a.state = .ready := state_eq_ready_iff.2 ⟨report, hreport⟩
    rw [hready]
    refine ⟨fun p o => ⟨a, .ok report, [], ?_, fun _ => rfl, nofun⟩,
      a, report, [], ?_, fun _ => rfl, nofun⟩
    · rw [init_of_ready hreport, List.append_nil]
    · rw [initDefaults_of_ready hreport, List.append_nil]
  | none =>
    have hunready : a.state = .uninitialized := state_eq_uninitialized_iff.2 hreport
    rw [hunready]
    constructor
    · intro p o
      obtain ⟨b, outcome, done, hinit, hlog⟩ := init_log ha hreport p o j
      exact ⟨b, outcome, done, hinit, nofun, fun _ => hlog⟩
    · obtain ⟨b, r, done, hinit, hlog⟩ := initDefaults_log ha hreport j
      exact ⟨b, r, done, hinit, nofun, fun _ => hlog⟩

/-- Of two resolvers the catalog knows the first, which the host has registered before. -/
theorem log_agrees_registered_before :
    let resolver := Factory.const (.builtin "k") KeyResolver.keyName
    let k := Catalog.empty.provide "k" (.const (.builtin "k") .keyResolver .keyName)
    let a := (ofCatalog k).withDescribed .keyResolver "k" "k" none resolver
    let p := keyResolversProvider "<Resolver JAVACLASS=\"k\"/><Resolver JAVACLASS=\"m\"/>"
    ∃ b r done, a.init p {} [] = ((b, .ok r), done) ∧
      Notice.registration.among done.events = [.registered .keyResolver "k" "k" true] ∧
      Notice.among (.failure .warning) done.events =
        [.registrationFailed .warning .keyResolver "m" "m"
          (.unresolvable .keyResolver "m" "m" .notFound)] ∧
      ∃ before, done.events = before ++ [.ready r.mode 1 0 1] := by
  intro resolver k a p
  have ha : a.Categorized := (categorized_ofCatalog k).withRegistry rfl
  have hread : p.sections? Options.defaultPath = .ok [twoResolvers] := by cbv
  have hreport : (a.init p {} []).1.2 = .ok {
      mode := .configuration Options.defaultPath
      registered := [⟨.keyResolver, "k", "k"⟩]
      failures := [⟨.keyResolver, .unresolvable .keyResolver "m" "m" .notFound⟩] } := by
    have hunready : a.report = none := rfl
    have hload := load_of_sections (a := a) (o := {}) hread []
    rw [init, once_of_ok hunready hload]
    rfl
  obtain ⟨b, outcome, done, hinit, -, hlog⟩ := (log_agrees a ha []).1 p {}
  rw [hinit] at hreport
  have hagrees := (hlog rfl).agrees _ hreport
  obtain ⟨before, -, hready⟩ := hagrees.ready
  obtain rfl : outcome = .ok _ := hreport
  exact ⟨b, _, done, hinit, hagrees.notices .registration, hagrees.notices (.failure .warning),
    before, hready⟩

end AlgorithmRegistry

end DsigRegistry
