import DsigRegistry.Proofs.Application
import Mathlib

/-!
# Entries that come to nothing

An entry of a document that cannot be registered, whose prefix is taken, or that is skipped is
reported and does nothing else: without all such entries a document comes to the same, and to a
report without complaints. Which entries these are depends on the entries before them, since a
prefix may be taken at one place of a document and free at another. Main fact:
`Pruned.applied_eq`, from which the same follows for bootstraps.
-/

namespace DsigRegistry

open DsigRegistry.Configuration

/-- Why an entry comes to nothing. -/
inductive Trouble where
  | failure (f : EntryFailure)
  | conflict (c : PrefixConflict)
  | skipped (e : SkippedEntry)

namespace Trouble

/-- The failure, if it is one. -/
def failure? : Trouble → Option EntryFailure
  | .failure f => some f
  | .conflict _ | .skipped _ => none

/-- The conflict, if it is one. -/
def conflict? : Trouble → Option PrefixConflict
  | .conflict c => some c
  | .failure _ | .skipped _ => none

/-- What was skipped, if something was. -/
def skipped? : Trouble → Option SkippedEntry
  | .skipped e => some e
  | .failure _ | .conflict _ => none

end Trouble

/-- What a child element of a section amounts to, if it is an entry. -/
def Configuration.outcome? (s e : Xml.Element Xml.Name) : Option Outcome :=
  match (SectionKind.ofName s.name.localPart).entryName? with
  | none => none
  | some entryName =>
    if e.name = ⟨some Namespace.configuration, entryName⟩ then
      some (outcome (.ofName s.name.localPart) s.name.localPart e)
    else none

/-- The prefixes after an entry. -/
def PrefixTable.afterOutcome (t : PrefixTable) : Outcome → PrefixTable
  | .mapping m => t.after m
  | .request _ | .skipped _ => t

namespace AlgorithmRegistry

variable (a : AlgorithmRegistry)

/-- Why an entry comes to nothing, if it does, where the prefixes are those of the table. -/
def trouble? (t : PrefixTable) : Outcome → Option Trouble
  | .request q => (a.failure? q).map .failure
  | .mapping m => (t.conflict? m.uri m.label).map .conflict
  | .skipped e => some (.skipped e)

/-- All that comes of entries to nothing, in order. -/
def troubles : PrefixTable → List Outcome → List Trouble
  | _, [] => []
  | t, o :: os => (a.trouble? t o).toList ++ troubles (t.afterOutcome o) os

/-- The entries that come to something, in order. -/
def untroubled : PrefixTable → List Outcome → List Outcome
  | _, [] => []
  | t, o :: os =>
    if (a.trouble? t o).isSome then untroubled (t.afterOutcome o) os
    else o :: untroubled (t.afterOutcome o) os

/-- The child elements of a section without the entries that come to nothing. -/
def remaining (s : Xml.Element Xml.Name) :
    PrefixTable → List (Xml.Element Xml.Name) → List (Xml.Element Xml.Name)
  | _, [] => []
  | t, e :: es =>
    match outcome? s e with
    | none => e :: remaining s t es
    | some o =>
      if (a.trouble? t o).isSome then remaining s (t.afterOutcome o) es
      else e :: remaining s (t.afterOutcome o) es

/-- A section without the entries that come to nothing. How it is written matters only where it is
kept as it is written. -/
structure PrunedSection (t : PrefixTable) (s s' : Xml.Element Xml.Name) : Prop where
  name : s'.name = s.name
  attributes : s'.attributes = s.attributes
  elements : Xml.elements s'.children = a.remaining s t (Xml.elements s.children)
  source : SectionKind.ofName s.name.localPart = .providerMappings → s'.source = s.source

/-- Sections without the entries that come to nothing. -/
inductive Pruned : PrefixTable → List (Xml.Element Xml.Name) → List (Xml.Element Xml.Name) → Prop
  | nil (t : PrefixTable) : Pruned t [] []
  | cons {t : PrefixTable} {s s' : Xml.Element Xml.Name} {ss ss' : List (Xml.Element Xml.Name)}
      (head : a.PrunedSection t s s')
      (tail : Pruned ((outcomes s).foldl .afterOutcome t) ss ss') : Pruned t (s :: ss) (s' :: ss')

end AlgorithmRegistry

/-! ### Outcomes -/

theorem Configuration.outcomes_eq_filterMap (s : Xml.Element Xml.Name) :
    outcomes s = (Xml.elements s.children).filterMap (outcome? s) := by
  unfold outcomes entries outcome?
  cases (SectionKind.ofName s.name.localPart).entryName? with
  | none => simp
  | some entryName =>
    induction Xml.elements s.children with
    | nil => rfl
    | cons e es ih => by_cases h : e.name = ⟨some Namespace.configuration, entryName⟩ <;> simp_all

theorem Configuration.outcome?_congr {s s' : Xml.Element Xml.Name} (h : s'.name = s.name) :
    outcome? s' = outcome? s := by
  funext e
  simp only [outcome?, h]

/-- What is read off the last section of a kind is the same in documents whose sections have the
same names and agree in it one by one. -/
theorem Configuration.lastOfKind?_map {β : Type}
    {R : Xml.Element Xml.Name → Xml.Element Xml.Name → Prop} {ss ss' : List (Xml.Element Xml.Name)}
    (h : List.Forall₂ R ss ss') (kind : SectionKind) (f : Xml.Element Xml.Name → β)
    (hname : ∀ s s', R s s' → s'.name = s.name)
    (hf : ∀ s s', R s s' → SectionKind.ofName s.name.localPart = kind → f s' = f s) :
    (lastOfKind? ss' kind).map f = (lastOfKind? ss kind).map f := by
  have hfilter : (ss'.filter fun s => SectionKind.ofName s.name.localPart = kind).map f =
      (ss.filter fun s => SectionKind.ofName s.name.localPart = kind).map f := by
    induction h with
    | nil => rfl
    | @cons s s' ss ss' head tail ih =>
      by_cases hk : SectionKind.ofName s.name.localPart = kind
      · simp [hname s s' head, hk, ih, hf s s' head hk]
      · simp [hname s s' head, hk, ih]
  rw [lastOfKind?, lastOfKind?, ← List.getLast?_map, ← List.getLast?_map, hfilter]

namespace AlgorithmRegistry

variable {a : AlgorithmRegistry} {t : PrefixTable}

theorem untroubled_append (os os' : List Outcome) :
    a.untroubled t (os ++ os') =
      a.untroubled t os ++ a.untroubled (os.foldl .afterOutcome t) os' := by
  induction os generalizing t with
  | nil => rfl
  | cons o os ih =>
    simp only [List.cons_append, untroubled, ih, List.foldl_cons]
    split <;> rfl

theorem filterMap_outcome?_remaining (s : Xml.Element Xml.Name) (es : List (Xml.Element Xml.Name)) :
    (a.remaining s t es).filterMap (outcome? s) =
      a.untroubled t (es.filterMap (outcome? s)) := by
  induction es generalizing t with
  | nil => rfl
  | cons e es ih =>
    cases he : outcome? s e with
    | none => simp [remaining, he, ih]
    | some o =>
      simp only [remaining, he, List.filterMap_cons, untroubled]
      split
      next => exact ih
      next => simp [he, ih]

/-- What is read off the complaint about an entry, and does not depend on the prefixes, can be read
off the entry. -/
theorem filterMap_troubles {β : Type} {f : Trouble → Option β} {g : Outcome → Option β}
    (h : ∀ t o, (a.trouble? t o).bind f = g o) (os : List Outcome) :
    (a.troubles t os).filterMap f = os.filterMap g := by
  induction os generalizing t with
  | nil => rfl
  | cons o os ih =>
    rw [troubles, List.filterMap_append, ih, List.filterMap_cons, ← h t o]
    cases a.trouble? t o with
    | none => rfl
    | some trouble => cases hf : f trouble <;> simp [hf]

/-- The failures are those of the requests, in order. -/
theorem filterMap_failure?_troubles (os : List Outcome) :
    (a.troubles t os).filterMap Trouble.failure? =
      (os.filterMap Outcome.request?).filterMap a.failure? := by
  rw [List.filterMap_filterMap]
  refine filterMap_troubles (fun t o => ?_) os
  cases o <;> simp [trouble?, Option.bind_map, Function.comp_def, Outcome.request?,
    Trouble.failure?]

theorem filterMap_skipped?_troubles (os : List Outcome) :
    (a.troubles t os).filterMap Trouble.skipped? = os.filterMap Outcome.skipped? := by
  refine filterMap_troubles (fun t o => ?_) os
  cases o <;> simp [trouble?, Option.bind_map, Function.comp_def, Outcome.skipped?,
    Trouble.skipped?]

/-- The conflicts are those that come up when the namespaces are bound in order. -/
theorem filterMap_conflict?_troubles (os : List Outcome) :
    (a.troubles t os).filterMap Trouble.conflict? =
      t.conflicts (os.filterMap Outcome.mapping?) := by
  induction os generalizing t with
  | nil => rfl
  | cons o os ih =>
    cases o with
    | request q =>
      cases hq : a.failure? q <;>
        simp [List.filterMap_cons, troubles, trouble?, Outcome.mapping?, Trouble.conflict?,
          PrefixTable.afterOutcome, hq, ih]
    | mapping m =>
      cases hm : t.conflict? m.uri m.label <;>
        simp [troubles, trouble?, Outcome.mapping?, Trouble.conflict?, PrefixTable.afterOutcome,
          PrefixTable.conflicts, hm, ih]
    | skipped e =>
      simp [List.filterMap_cons, troubles, trouble?, Outcome.mapping?, Trouble.conflict?,
        PrefixTable.afterOutcome, ih]

/-- What is read off the entries that come to something can be read off all entries, if nothing is
read off the others. -/
theorem filterMap_untroubled {β : Type} {f g : Outcome → Option β}
    (hnone : ∀ t o, a.trouble? t o = none → f o = g o)
    (hsome : ∀ t o, (a.trouble? t o).isSome → g o = none) (os : List Outcome) :
    (a.untroubled t os).filterMap f = os.filterMap g := by
  induction os generalizing t with
  | nil => rfl
  | cons o os ih =>
    cases ho : a.trouble? t o with
    | none => simp [untroubled, ho, List.filterMap_cons, ih, hnone t o ho]
    | some trouble => simp [untroubled, ho, ih, hsome t o (by simp [ho])]

theorem filterMap_request?_untroubled (os : List Outcome) :
    (a.untroubled t os).filterMap Outcome.request? =
      (os.filterMap Outcome.request?).filter fun q => (a.failure? q).isNone := by
  rw [← List.filterMap_eq_filter, List.filterMap_filterMap]
  refine filterMap_untroubled (fun t o ho => ?_) (fun t o ho => ?_) os
  · cases o <;> simp_all [trouble?, Outcome.request?, Option.guard]
  · cases o <;> simp_all [trouble?, Outcome.request?, Option.guard, Option.isSome_iff_ne_none]

theorem filterMap_skipped?_untroubled (os : List Outcome) :
    (a.untroubled t os).filterMap Outcome.skipped? = [] := by
  have hnone : (a.untroubled t os).filterMap Outcome.skipped? =
      os.filterMap fun _ => (none : Option SkippedEntry) := by
    refine filterMap_untroubled (fun t o ho => ?_) (fun _ _ _ => rfl) os
    cases o <;> simp_all [trouble?, Outcome.skipped?]
  simp [hnone]

/-- The mappings that are in conflict change no prefix, and the others still find their prefixes
free without them. -/
theorem mappings_untroubled (os : List Outcome) :
    ((a.untroubled t os).filterMap Outcome.mapping?).foldl .after t =
        (os.filterMap Outcome.mapping?).foldl .after t ∧
      t.conflicts ((a.untroubled t os).filterMap Outcome.mapping?) = [] := by
  induction os generalizing t with
  | nil => exact ⟨rfl, rfl⟩
  | cons o os ih =>
    cases o with
    | request q =>
      cases hq : a.failure? q <;>
        simpa [List.filterMap_cons, untroubled, trouble?, Outcome.mapping?,
          PrefixTable.afterOutcome, hq] using ih
    | mapping m =>
      cases hm : t.conflict? m.uri m.label with
      | none =>
        simpa [List.filterMap_cons, untroubled, trouble?, Outcome.mapping?,
          PrefixTable.afterOutcome, PrefixTable.conflicts, hm] using ih
      | some c =>
        simpa [List.filterMap_cons, untroubled, trouble?, Outcome.mapping?,
          PrefixTable.afterOutcome, PrefixTable.after_of_conflict hm, hm] using ih
    | skipped e =>
      simpa [List.filterMap_cons, untroubled, trouble?, Outcome.mapping?,
        PrefixTable.afterOutcome] using ih

/-! ### Documents -/

section Pruned

variable {s s' : Xml.Element Xml.Name} {ss ss' : List (Xml.Element Xml.Name)}

theorem PrunedSection.outcomes_eq (h : a.PrunedSection t s s') :
    outcomes s' = a.untroubled t (outcomes s) := by
  rw [outcomes_eq_filterMap, outcomes_eq_filterMap, outcome?_congr h.name, h.elements,
    filterMap_outcome?_remaining]

theorem Pruned.outcomes_eq (h : a.Pruned t ss ss') :
    ss'.flatMap outcomes = a.untroubled t (ss.flatMap outcomes) := by
  induction h with
  | nil t => rfl
  | cons head tail ih =>
    rw [List.flatMap_cons, List.flatMap_cons, untroubled_append, head.outcomes_eq, ih]

/-- Every document can do without the entries that come to nothing. -/
theorem exists_pruned (a : AlgorithmRegistry) (t : PrefixTable)
    (ss : List (Xml.Element Xml.Name)) : ∃ ss', a.Pruned t ss ss' := by
  induction ss generalizing t with
  | nil => exact ⟨[], .nil t⟩
  | cons s ss ih =>
    obtain ⟨ss', htail⟩ := ih ((outcomes s).foldl .afterOutcome t)
    let node (e : Xml.Element Xml.Name) : Xml.Node Xml.Name :=
      .element e.name e.attributes e.children e.source
    have helements : ∀ es, Xml.elements (es.map node) = es := by
      intro es
      simp [Xml.elements, node, Xml.Node.element?, Function.comp_def]
    exact ⟨{ s with children := (a.remaining s t (Xml.elements s.children)).map node } :: ss',
      .cons ⟨rfl, rfl, helements _, fun _ => rfl⟩ htail⟩

/-- What is read off the last section of a kind, and is the same in a section without the entries
that come to nothing, is the same in the document without them. -/
theorem Pruned.lastOfKind?_map {β : Type} (h : a.Pruned t ss ss') (kind : SectionKind)
    (f : Xml.Element Xml.Name → β)
    (hf : ∀ t s s', a.PrunedSection t s s' → SectionKind.ofName s.name.localPart = kind →
      f s' = f s) :
    (lastOfKind? ss' kind).map f = (lastOfKind? ss kind).map f := by
  have hpairs : List.Forall₂ (fun s s' => ∃ t, a.PrunedSection t s s') ss ss' := by
    induction h with
    | nil t => exact .nil
    | @cons t s s' ss ss' head tail ih => exact .cons ⟨t, head⟩ ih
  exact Configuration.lastOfKind?_map hpairs kind f (fun _ _ ⟨_, hs⟩ => hs.name)
    fun s s' ⟨t, hs⟩ => hf t s s' hs

theorem Pruned.locale_eq (h : a.Pruned t ss ss') :
    (ofSections ss').locale = (ofSections ss).locale :=
  h.lastOfKind?_map .locale _ fun t s s' hs _ => by
    simp only [Xml.Element.attribute?, hs.attributes]

theorem Pruned.providerMappings_eq (h : a.Pruned t ss ss') :
    (ofSections ss').providerMappings = (ofSections ss).providerMappings :=
  h.lastOfKind?_map .providerMappings _ fun _ _ _ hs hkind => hs.source hkind

/-- A document without the entries that come to nothing comes to the same. -/
theorem Pruned.applied_eq (h : a.Pruned a.prefixes ss ss') (mode mode' : Mode) :
    a.applied (ofSections ss') mode' =
      { a.applied (ofSections ss) mode with
        report := {
          mode := mode'
          registered := (a.applied (ofSections ss) mode).report.registered } } := by
  obtain ⟨hprefixes, hconflicts⟩ := mappings_untroubled (a := a) (t := a.prefixes)
    (ss.flatMap outcomes)
  have hrequests : (ofSections ss').requests =
      (ofSections ss).requests.filter fun q => (a.failure? q).isNone := by
    simp only [ofSections, h.outcomes_eq, filterMap_request?_untroubled]
  have hmappings : (ofSections ss').prefixMappings =
      (a.untroubled a.prefixes (ss.flatMap outcomes)).filterMap Outcome.mapping? := by
    simp only [ofSections, h.outcomes_eq]
  have hskipped : (ofSections ss').skipped = [] := by
    simp only [ofSections, h.outcomes_eq, filterMap_skipped?_untroubled]
  have hfailures : ((ofSections ss).requests.filter fun q => (a.failure? q).isNone).filterMap
      a.failure? = [] := by
    simp
  simp only [applied, h.locale_eq, h.providerMappings_eq, hfailures, hskipped, hmappings,
    hprefixes, hconflicts, hrequests, List.filter_filter, Bool.and_self]
  rfl

end Pruned

/-! ### Bootstraps -/

/-- With steady constructors, a document that can be read is applied, and its report makes the
registry ready. -/
theorem init_of_sections (ha : a.report = none) (hsteady : a.catalog.Steady) {p : Provider}
    {o : Options} (hread : p.sections? o.path = .ok ss) (j : Journal) :
    let applied := a.applied (ofSections ss) (.configuration o.path)
    ∃ j', a.init p o j =
      (({ applied.registry with report := some applied.report }, .ok applied.report), j') := by
  have happly := apply_yields hsteady (ofSections ss) (.configuration o.path)
    (j ++ p.fetching o.path ++ (ss.flatMap sectionEvents).map .reported)
  have hload := load_of_sections (a := a) hread j
  simp only [happly] at hload
  exact ⟨_, once_of_ok ha hload⟩

/-- A document without the entries that come to nothing, that is to say, without those that the
report on the document complains of, brings a registry into the same state with steady
constructors, and its own report complains of nothing. -/
theorem init_isolated (a : AlgorithmRegistry) (ha : a.report = none) (hsteady : a.catalog.Steady)
    (p p' : Provider) (o o' : Options) (ss ss' : List (Xml.Element Xml.Name))
    (hread : p.sections? o.path = .ok ss) (hread' : p'.sections? o'.path = .ok ss')
    (hpruned : a.Pruned a.prefixes ss ss') (j j' : Journal) :
    ∃ b b' r r' k k',
      a.init p o j = ((b, .ok r), k) ∧ a.init p' o' j' = ((b', .ok r'), k') ∧
      b' = { b with report := some r' } ∧
      r'.registered = r.registered ∧
      r'.failures = [] ∧ r'.prefixConflicts = [] ∧ r'.skipped = [] ∧
      let dropped := a.troubles a.prefixes (ss.flatMap outcomes)
      r.failures = dropped.filterMap Trouble.failure? ∧
      r.prefixConflicts = dropped.filterMap Trouble.conflict? ∧
      r.skipped = dropped.filterMap Trouble.skipped? := by
  obtain ⟨k, hinit⟩ := init_of_sections ha hsteady hread j
  obtain ⟨k', hinit'⟩ := init_of_sections ha hsteady hread' j'
  have heq := hpruned.applied_eq (.configuration o.path) (.configuration o'.path)
  refine ⟨_, _, _, _, _, _, hinit, hinit', ?_⟩
  rw [heq]
  exact ⟨rfl, rfl, rfl, rfl, rfl, (filterMap_failure?_troubles _).symm,
    (filterMap_conflict?_troubles _).symm, (filterMap_skipped?_troubles _).symm⟩

/-- The provider of a document with entries for key resolvers. -/
def keyResolversProvider (entries : String) : Provider where
  document _ := .ok ("<Configuration xmlns=\"http://www.xmlsecurity.org/NS/#configuration\">" ++
    "<KeyResolver>" ++ entries ++ "</KeyResolver></Configuration>")

/-- The entry for a resolver, as it is read and as it is written. -/
def resolverEntry (id source : String) : Xml.Node Xml.Name :=
  .element ⟨some Namespace.configuration, "Resolver"⟩ [(⟨none, "JAVACLASS"⟩, id)] [] source

/-- The section with the entries for two key resolvers. -/
def twoResolvers : Xml.Element Xml.Name where
  name := ⟨some Namespace.configuration, "KeyResolver"⟩
  attributes := []
  children :=
    [resolverEntry "k" "<Resolver JAVACLASS=\"k\"/>",
      resolverEntry "m" "<Resolver JAVACLASS=\"m\"/>"]
  source := "<KeyResolver><Resolver JAVACLASS=\"k\"/><Resolver JAVACLASS=\"m\"/></KeyResolver>"

/-- The section with the entry for the first of them. -/
def oneResolver : Xml.Element Xml.Name where
  name := ⟨some Namespace.configuration, "KeyResolver"⟩
  attributes := []
  children := [resolverEntry "k" "<Resolver JAVACLASS=\"k\"/>"]
  source := "<KeyResolver><Resolver JAVACLASS=\"k\"/></KeyResolver>"

/-- Of two resolvers the catalog knows the first, which is found with either document. -/
theorem init_isolated_unknown_resolver :
    let a := ofCatalog (Catalog.empty.provide "k" (.const (.builtin "k") .keyResolver .keyName))
    let p := keyResolversProvider "<Resolver JAVACLASS=\"k\"/><Resolver JAVACLASS=\"m\"/>"
    let p' := keyResolversProvider "<Resolver JAVACLASS=\"k\"/>"
    ∃ b b' r r' k k', a.init p {} [] = ((b, .ok r), k) ∧ a.init p' {} [] = ((b', .ok r'), k') ∧
      b' = { b with report := some r' } ∧ r'.registered = r.registered ∧ r'.failures = [] ∧
      r.failures.length = 1 ∧ (b.registry .keyResolver).ids = ["k"] ∧
      (b.registry .keyResolver).lookup? "k" =
        some (.described "k" (.const (.builtin "k") KeyResolver.keyName) none) := by
  intro a p p'
  have hsteady : a.catalog.Steady := Catalog.steady_empty.provide "k" (Factory.steady_const _ _)
  have hread : p.sections? Options.defaultPath = .ok [twoResolvers] := by cbv
  have hread' : p'.sections? Options.defaultPath = .ok [oneResolver] := by cbv
  have helements : Xml.elements oneResolver.children =
      a.remaining twoResolvers a.prefixes (Xml.elements twoResolvers.children) := by
    cbv
  have hpruned : a.Pruned a.prefixes [twoResolvers] [oneResolver] :=
    .cons ⟨rfl, rfl, helements, by decide⟩ (.nil _)
  obtain ⟨b, b', r, r', k, k', hinit, hinit', hb, hregistered, hfailures, -⟩ :=
    init_isolated a rfl hsteady p p' {} {} _ _ hread hread' hpruned [] []
  obtain ⟨_, hstate⟩ := init_of_sections (a := a) (o := {}) rfl hsteady hread []
  cases congrArg Prod.fst (hstate.symm.trans hinit)
  exact ⟨_, b', _, r', k, k', hinit, hinit', hb, hregistered, hfailures, rfl, rfl, rfl⟩

end AlgorithmRegistry

end DsigRegistry
