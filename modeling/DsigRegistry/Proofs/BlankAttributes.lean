import DsigRegistry.Proofs.Accounting

/-!
# Blank attributes of entries

What is read from a document does not change if attributes of its entries that are blank are left
out, with one exception: the usual attribute for the implementation, where it is present, keeps the
alternative one from being read, even if it is blank. Main fact: `parse_cleared_iff`.
-/

namespace DsigRegistry

namespace Xml

/-! ### Names of attributes -/

variable {scope : Scope}

/-- The attributes of an element have different names. -/
theorem nodup_of_resolveAttributes? {written : List (WrittenName × String)}
    {attributes : List (Name × String)}
    (h : resolveAttributes? scope written = some attributes) : (attributes.map (·.1)).Nodup := by
  induction written generalizing attributes with
  | nil =>
    cases h
    exact .nil
  | cons a written ih =>
    obtain ⟨later, hlater, h⟩ := Option.bind_eq_some_iff.1 h
    split at h
    next =>
      cases h
      exact ih hlater
    next =>
      obtain ⟨name, -, h⟩ := Option.bind_eq_some_iff.1 h
      by_cases hnew : (later.all fun b => b.1 ≠ name) = true
      · simp only [hnew, guard, if_true] at h
        cases h
        refine List.nodup_cons.2 ⟨fun hmem => ?_, ih hlater⟩
        obtain ⟨b, hb, rfl⟩ := List.mem_map.1 hmem
        simpa using List.all_eq_true.1 hnew b hb
      · simp only [hnew, guard] at h
        cases h

/-- The node is one of a document whose names have been resolved. -/
def Node.Resolved (node : Node Name) : Prop :=
  ∃ scope written, resolve? scope written = some node

theorem resolved_of_mem_resolveList? {written : List (Node WrittenName)} {nodes : List (Node Name)}
    (h : resolveList? scope written = some nodes) : ∀ node ∈ nodes, node.Resolved := by
  induction written generalizing nodes with
  | nil =>
    cases h
    simp
  | cons first written ih =>
    obtain ⟨node, hnode, h⟩ := Option.bind_eq_some_iff.1 h
    obtain ⟨rest, hrest, h⟩ := Option.bind_eq_some_iff.1 h
    cases h
    exact List.forall_mem_cons.2 ⟨⟨scope, first, hnode⟩, ih hrest⟩

theorem Node.Resolved.element {name : Name} {attributes : List (Name × String)}
    {children : List (Node Name)} {source : String}
    (h : (Node.element name attributes children source).Resolved) :
    (attributes.map (·.1)).Nodup ∧ ∀ child ∈ children, child.Resolved := by
  obtain ⟨scope, written, h⟩ := h
  cases written with
  | element =>
    obtain ⟨declared, -, h⟩ := Option.bind_eq_some_iff.1 h
    obtain ⟨name, -, h⟩ := Option.bind_eq_some_iff.1 h
    obtain ⟨attributes, hattributes, h⟩ := Option.bind_eq_some_iff.1 h
    obtain ⟨children, hchildren, h⟩ := Option.bind_eq_some_iff.1 h
    cases h
    exact ⟨nodup_of_resolveAttributes? hattributes, resolved_of_mem_resolveList? hchildren⟩
  | text => cases h
  | cdata => cases h
  | comment => cases h
  | instruction => cases h

theorem resolved_of_parse? {document : String} {root : Element Name}
    (h : parse? document = some root) : ∀ child ∈ root.children, child.Resolved := by
  obtain ⟨written, -, h⟩ := Option.bind_eq_some_iff.1 h
  obtain ⟨node, hnode, h⟩ := Option.bind_eq_some_iff.1 h
  cases node with
  | element =>
    cases h
    exact (Node.Resolved.element ⟨[], written, hnode⟩).2
  | text => cases h
  | cdata => cases h
  | comment => cases h
  | instruction => cases h

end Xml

namespace Configuration

/-! ### Attributes that are left out -/

/-- The attributes that entries are read by. -/
def entryAttributes : List String :=
  ["URI", "JAVACLASS", "Implementation", "DESCRIPTION", "namespace", "prefix"]

/-- Attributes, and what is left of them without some of those that entries are read by and that
are blank. -/
inductive Cleared : List (Xml.Name × String) → List (Xml.Name × String) → Prop
  | nil : Cleared [] []
  | keep {as as' : List (Xml.Name × String)} (a : Xml.Name × String) (h : Cleared as as') :
      Cleared (a :: as) (a :: as')
  | drop {as as' : List (Xml.Name × String)} {name value : String}
      (hname : name ∈ entryAttributes) (hblank : Text.isBlankText value = true)
      (h : Cleared as as') : Cleared ((⟨none, name⟩, value) :: as) as'

/-- An entry, and the same without some of its blank attributes. -/
structure ClearedEntry (e e' : Xml.Element Xml.Name) : Prop where
  name : e'.name = e.name
  attributes : Cleared e.attributes e'.attributes
  children : e'.children = e.children

theorem Cleared.sublist {as as' : List (Xml.Name × String)} (h : Cleared as as') :
    as'.Sublist as := by
  induction h with
  | nil => exact .slnil
  | keep a _ ih => exact ih.cons_cons a
  | drop _ _ _ ih => exact ih.cons _

/-- An attribute that is looked up is there as before, or it was blank and is gone. -/
theorem Cleared.find?_cases {as as' : List (Xml.Name × String)} (h : Cleared as as')
    (hnodup : (as.map (·.1)).Nodup) (name : Xml.Name) :
    as'.find? (fun a => a.1 = name) = as.find? (fun a => a.1 = name) ∨
      as'.find? (fun a => a.1 = name) = none ∧
        ∃ value, as.find? (fun a => a.1 = name) = some (name, value) ∧
          Text.isBlankText value = true := by
  induction h with
  | nil => exact .inl rfl
  | @keep as as' a h ih =>
    by_cases ha : a.1 = name
    · exact .inl (by simp [ha])
    · simpa [ha] using ih (List.nodup_cons.1 hnodup).2
  | @drop as as' dropped value hname hblank h ih =>
    obtain ⟨hnew, hnodup⟩ := List.nodup_cons.1 hnodup
    by_cases hdropped : (⟨none, dropped⟩ : Xml.Name) = name
    · -- The name does not occur again, so nothing is found without the attribute.
      subst hdropped
      refine .inr ⟨List.find?_eq_none.2 fun a ha => ?_, value, by simp, hblank⟩
      have hmem : a.1 ∈ as.map (·.1) := List.mem_map_of_mem (h.sublist.subset ha)
      have hne : a.1 ≠ ⟨none, dropped⟩ := fun heq => hnew (heq ▸ hmem :)
      simpa using hne
    · simpa [hdropped] using ih hnodup

section ClearedEntry

variable {e e' : Xml.Element Xml.Name} (h : ClearedEntry e e')
  (hnodup : (e.attributes.map (·.1)).Nodup)
include h hnodup

theorem ClearedEntry.attribute?_cases (name : String) :
    e'.attribute? name = e.attribute? name ∨
      e'.attribute? name = none ∧
        ∃ value, e.attribute? name = some value ∧ Text.isBlankText value = true := by
  unfold Xml.Element.attribute?
  rcases h.attributes.find?_cases hnodup ⟨none, name⟩ with hsame | ⟨hnone, value, hsome, hblank⟩
  · exact .inl (by rw [hsame])
  · exact .inr ⟨by rw [hnone]; rfl, value, by rw [hsome]; rfl, hblank⟩

/-- No value that counts is lost. -/
theorem ClearedEntry.attribute?_eq (name : String) : attribute? e' name = attribute? e name := by
  unfold attribute?
  rcases h.attribute?_cases hnodup name with hsame | ⟨hnone, value, hsome, hblank⟩
  · rw [hsame]
  · have hlost : Text.nonBlank? (some value) = none := Text.nonBlank?_eq_none_iff.2 <| by
      rintro _ ⟨⟩
      exact hblank
    rw [hnone, hsome, hlost]
    rfl

/-- Without the usual attribute the alternative one is read. -/
theorem ClearedEntry.implementation?_of_gone (hpresent : (e.attribute? "JAVACLASS").isSome = true)
    (hgone : e'.attribute? "JAVACLASS" = none) :
    implementation? e = none ∧ implementation? e' = attribute? e "Implementation" := by
  have hspelling : implementationSpelling e = "JAVACLASS" := by
    simp [implementationSpelling, hpresent]
  have hspelling' : implementationSpelling e' = "Implementation" := by
    simp [implementationSpelling, hgone]
  rw [implementation?_eq, implementation?_eq, hspelling, hspelling', h.attribute?_eq hnodup,
    ← h.attribute?_eq hnodup "JAVACLASS"]
  refine ⟨?_, rfl⟩
  rw [attribute?, hgone]
  rfl

theorem ClearedEntry.implementation?_of_kept
    (hkept : e'.attribute? "JAVACLASS" = e.attribute? "JAVACLASS") :
    implementation? e' = implementation? e := by
  have hspelling : implementationSpelling e' = implementationSpelling e := by
    rw [implementationSpelling, implementationSpelling, hkept]
  rw [implementation?_eq, implementation?_eq, hspelling, h.attribute?_eq hnodup]

end ClearedEntry

/-- The entry has all that is asked of it before its implementation. -/
def Purpose.AsksForImplementation (e : Xml.Element Xml.Name) : Purpose → Prop
  | .algorithm _ => ∃ id, Holds e "URI" id
  | .resolver _ => True
  | .prefixMapping => False

/-- The usual attribute for the implementation is left out, so that the entry comes to be read with
the alternative one. -/
structure Uncovers (purpose : Purpose) (e e' : Xml.Element Xml.Name) : Prop where
  present : (e.attribute? "JAVACLASS").isSome = true
  gone : e'.attribute? "JAVACLASS" = none
  filled : ∃ implementation, Holds e "Implementation" implementation
  asked : purpose.AsksForImplementation e

section Outcome

variable {e e' : Xml.Element Xml.Name} {purpose : Purpose} (h : ClearedEntry e e')
  (hnodup : (e.attributes.map (·.1)).Nodup) (entryName sectionName : String)
include h hnodup

theorem ClearedEntry.outcome_of_uncovers (huncovers : Uncovers purpose e e') :
    outcome (purpose.kind entryName) sectionName e =
        .skipped ⟨sectionName, e.name.localPart, "JAVACLASS"⟩ ∧
      ∃ q, outcome (purpose.kind entryName) sectionName e' = .request q := by
  obtain ⟨hnone, hsome⟩ := h.implementation?_of_gone hnodup huncovers.present huncovers.gone
  obtain ⟨implementation, hfilled⟩ := huncovers.filled
  rw [attribute?_eq_some_iff.2 hfilled] at hsome
  have hasked := huncovers.asked
  cases purpose with
  | algorithm category =>
    obtain ⟨id, hid⟩ := hasked
    have hid : attribute? e "URI" = some id := attribute?_eq_some_iff.2 hid
    have hid' : attribute? e' "URI" = some id := (h.attribute?_eq hnodup "URI").trans hid
    simp only [Purpose.kind, outcome, hid, hid', hnone, hsome]
    exact ⟨rfl, _, rfl⟩
  | resolver category =>
    simp only [Purpose.kind, outcome, hnone, hsome]
    exact ⟨rfl, _, rfl⟩
  | prefixMapping => exact hasked.elim

theorem ClearedEntry.outcome_of_not_uncovers (hnot : ¬ Uncovers purpose e e') :
    outcome (purpose.kind entryName) sectionName e' =
      outcome (purpose.kind entryName) sectionName e := by
  have hattribute := h.attribute?_eq hnodup
  have himplementation : purpose.AsksForImplementation e →
      implementation? e' = implementation? e := by
    intro hasked
    rcases h.attribute?_cases hnodup "JAVACLASS" with hkept | ⟨hgone, value, hvalue, -⟩
    · exact h.implementation?_of_kept hnodup hkept
    · have hpresent : (e.attribute? "JAVACLASS").isSome = true := by rw [hvalue]; rfl
      obtain ⟨hnone, hsome⟩ := h.implementation?_of_gone hnodup hpresent hgone
      rw [hnone, hsome]
      refine Option.eq_none_iff_forall_ne_some.2 fun implementation hfilled => hnot ?_
      exact ⟨hpresent, hgone, ⟨implementation, attribute?_eq_some_iff.1 hfilled⟩, hasked⟩
  cases purpose with
  | algorithm category =>
    simp only [Purpose.kind, outcome, hattribute, h.name]
    cases hid : attribute? e "URI" with
    | none => rfl
    | some id =>
      dsimp only
      rw [himplementation ⟨id, attribute?_eq_some_iff.1 hid⟩]
  | resolver category =>
    simp only [Purpose.kind, outcome, hattribute, himplementation trivial, h.name]
  | prefixMapping => simp only [Purpose.kind, outcome, hattribute, h.name]

end Outcome

/-! ### Documents that are revised -/

/-- A node as it was and as it is: an element may have been changed in some way, and any other node
is as it was. -/
inductive RevisedNode (R : Xml.Element Xml.Name → Xml.Element Xml.Name → Prop) :
    Xml.Node Xml.Name → Xml.Node Xml.Name → Prop
  | same (node : Xml.Node Xml.Name) : RevisedNode R node node
  | element {e e' : Xml.Element Xml.Name} (h : R e e') : RevisedNode R (nodeOf e) (nodeOf e')

/-- A section as it was and as it is: its entries may have been changed in some way, which depends
on what they are for. -/
structure RevisedSection (R : Purpose → Xml.Element Xml.Name → Xml.Element Xml.Name → Prop)
    (s s' : Xml.Element Xml.Name) : Prop where
  name : s'.name = s.name
  attributes : s'.attributes = s.attributes
  hasEntries : (sectionTable.lookup s.name.localPart).isSome = true
  children : List.Forall₂ (RevisedNode fun e e' =>
    ∃ purpose, purpose? s.name.localPart e.name = some purpose ∧ R purpose e e')
    s.children s'.children

/-- A document, by its root, as it was and as it is: its entries may have been changed in some way,
and how it is written with them. -/
structure Revised (R : Purpose → Xml.Element Xml.Name → Xml.Element Xml.Name → Prop)
    (root root' : Xml.Element Xml.Name) : Prop where
  name : root'.name = root.name
  attributes : root'.attributes = root.attributes
  children : List.Forall₂ (RevisedNode (RevisedSection R)) root.children root'.children

/-- An entry from which nothing is left out that keeps an implementation from being read. -/
def ClearedSafely (purpose : Purpose) (e e' : Xml.Element Xml.Name) : Prop :=
  ClearedEntry e e' ∧ ¬ Uncovers purpose e e'

theorem element?_nodeOf (e : Xml.Element Xml.Name) : (nodeOf e).element? = some e := rfl

theorem Outcome.skipped?_eq_some_iff {o : Outcome} {e : SkippedEntry} :
    o.skipped? = some e ↔ o = .skipped e := by
  cases o <;> simp [skipped?]

theorem outcome?_of_purpose {s e : Xml.Element Xml.Name} {purpose : Purpose}
    (h : purpose? s.name.localPart e.name = some purpose) :
    outcome? s e = some (outcome (purpose.kind e.name.localPart) s.name.localPart e) := by
  rw [outcome?_eq_map, h, ← Entry.outcome_eq ⟨s, e, purpose, h⟩]
  rfl

/-- The skipped entry that a child of a section amounts to, if it does. -/
def skippedAmong (s : Xml.Element Xml.Name) (node : Xml.Node Xml.Name) : List SkippedEntry :=
  ((node.element?.bind (outcome? s)).bind Outcome.skipped?).toList

/-- The skipped entries in a section, if the node is one. -/
def skippedIn (node : Xml.Node Xml.Name) : List SkippedEntry :=
  (node.element?.map fun s => (outcomes s).filterMap Outcome.skipped?).getD []

theorem outcomes_eq_filterMap_children (s : Xml.Element Xml.Name) :
    outcomes s = s.children.filterMap fun node => node.element?.bind (outcome? s) := by
  rw [outcomes_eq_filterMap, Xml.elements, List.filterMap_filterMap]

theorem filterMap_skipped?_outcomes (s : Xml.Element Xml.Name) :
    (outcomes s).filterMap Outcome.skipped? = s.children.flatMap (skippedAmong s) := by
  rw [outcomes_eq_filterMap_children, List.filterMap_filterMap, List.filterMap_eq_flatMap_toList]
  rfl

theorem skipped_ofSections (nodes : List (Xml.Node Xml.Name)) :
    (ofSections (Xml.elements nodes)).skipped = nodes.flatMap skippedIn := by
  change ((Xml.elements nodes).flatMap outcomes).filterMap Outcome.skipped? = _
  induction nodes with
  | nil => rfl
  | cons node nodes ih =>
    rw [List.flatMap_cons, ← ih, skippedIn, Xml.elements, List.filterMap_cons]
    cases node.element? with
    | none => rfl
    | some s =>
      rw [List.flatMap_cons, List.filterMap_append]
      rfl

/-! ### What is skipped less -/

/-- If no pair of elements has more in the second list than in the first, and a pair with as much
is related, lists with as much in all are related. -/
theorem forall₂_of_length_le {α β : Type} {R Q : α → α → Prop} {f g : α → List β} {xs ys : List α}
    (h : List.Forall₂ R xs ys)
    (hle : ∀ x ∈ xs, ∀ y, R x y →
      (g y).length ≤ (f x).length ∧ ((g y).length = (f x).length → Q x y)) :
    (ys.flatMap g).length ≤ (xs.flatMap f).length ∧
      ((ys.flatMap g).length = (xs.flatMap f).length → List.Forall₂ Q xs ys) := by
  induction h with
  | nil => exact ⟨le_rfl, fun _ => .nil⟩
  | @cons x y xs ys hxy _ ih =>
    obtain ⟨hhead, htail⟩ := List.forall_mem_cons.1 hle
    obtain ⟨hle, hrelated⟩ := ih htail
    obtain ⟨hle', hrelated'⟩ := hhead y hxy
    simp only [List.flatMap_cons, List.length_append]
    refine ⟨Nat.add_le_add hle' hle, fun heq => .cons (hrelated' ?_) (hrelated ?_)⟩
    all_goals omega

section Cleared

variable {s s' : Xml.Element Xml.Name}

theorem skippedAmong_cleared {node node' : Xml.Node Xml.Name} (hresolved : node.Resolved)
    (h : RevisedNode (fun e e' => ∃ purpose, purpose? s.name.localPart e.name = some purpose ∧
      ClearedEntry e e') node node') :
    (skippedAmong s node').length ≤ (skippedAmong s node).length ∧
      ((skippedAmong s node').length = (skippedAmong s node).length →
        RevisedNode (fun e e' => ∃ purpose, purpose? s.name.localPart e.name = some purpose ∧
          ClearedSafely purpose e e') node node') := by
  cases h with
  | same => exact ⟨le_rfl, fun _ => .same node⟩
  | @element e e' h =>
    obtain ⟨purpose, hpurpose, hcleared⟩ := h
    have hpurpose' : purpose? s.name.localPart e'.name = some purpose := hcleared.name ▸ hpurpose
    have houtcome : outcome? s e' =
        some (outcome (purpose.kind e.name.localPart) s.name.localPart e') :=
      hcleared.name ▸ outcome?_of_purpose hpurpose'
    have hnodup := hresolved.element.1
    simp only [skippedAmong, element?_nodeOf, Option.bind_some, houtcome,
      outcome?_of_purpose hpurpose]
    by_cases huncovers : Uncovers purpose e e'
    · obtain ⟨hskipped, q, hrequest⟩ :=
        hcleared.outcome_of_uncovers hnodup e.name.localPart s.name.localPart huncovers
      rw [hskipped, hrequest]
      exact ⟨Nat.zero_le _, nofun⟩
    · rw [hcleared.outcome_of_not_uncovers hnodup _ _ huncovers]
      exact ⟨le_rfl, fun _ => .element ⟨purpose, hpurpose, hcleared, huncovers⟩⟩

theorem skippedIn_cleared {node node' : Xml.Node Xml.Name} (hresolved : node.Resolved)
    (h : RevisedNode (RevisedSection fun _ => ClearedEntry) node node') :
    (skippedIn node').length ≤ (skippedIn node).length ∧
      ((skippedIn node').length = (skippedIn node).length →
        RevisedNode (RevisedSection ClearedSafely) node node') := by
  cases h with
  | same => exact ⟨le_rfl, fun _ => .same node⟩
  | @element s s' h =>
    obtain ⟨hle, hsafely⟩ := forall₂_of_length_le h.children fun child hchild child' =>
      skippedAmong_cleared (hresolved.element.2 child hchild)
    simp only [skippedIn, element?_nodeOf, Option.map_some, Option.getD_some,
      filterMap_skipped?_outcomes]
    have hsame : skippedAmong s' = skippedAmong s := by
      unfold skippedAmong
      rw [outcome?_congr h.name]
    rw [hsame]
    exact ⟨hle, fun heq => .element ⟨h.name, h.attributes, h.hasEntries, hsafely heq⟩⟩

/-- If as much is skipped as before, nothing has been left out that keeps an implementation from
being read. -/
theorem Revised.safely {root root' : Xml.Element Xml.Name}
    (h : Revised (fun _ => ClearedEntry) root root')
    (hresolved : ∀ child ∈ root.children, child.Resolved)
    (hskipped : (ofSections (Xml.elements root'.children)).skipped.length =
      (ofSections (Xml.elements root.children)).skipped.length) :
    Revised ClearedSafely root root' := by
  rw [skipped_ofSections, skipped_ofSections] at hskipped
  exact ⟨h.name, h.attributes, (forall₂_of_length_le h.children fun child hchild child' =>
    skippedIn_cleared (hresolved child hchild)).2 hskipped⟩

end Cleared

/-! ### What is read as before -/

/-- A section as far as it is read. -/
structure ReadAlike (s s' : Xml.Element Xml.Name) : Prop where
  name : s'.name = s.name
  attributes : s'.attributes = s.attributes
  outcomes : outcomes s' = outcomes s
  source : SectionKind.ofName s.name.localPart = .providerMappings → s'.source = s.source

theorem filterMap_eq_of_forall₂ {α β : Type} {R : α → α → Prop} {f g : α → Option β}
    {xs ys : List α} (h : List.Forall₂ R xs ys) (hfg : ∀ x ∈ xs, ∀ y, R x y → g y = f x) :
    ys.filterMap g = xs.filterMap f := by
  induction h with
  | nil => rfl
  | cons hxy _ ih =>
    obtain ⟨hhead, htail⟩ := List.forall_mem_cons.1 hfg
    rw [List.filterMap_cons, List.filterMap_cons, hhead _ hxy, ih htail]

theorem RevisedSection.readAlike {s s' : Xml.Element Xml.Name} (hresolved : (nodeOf s).Resolved)
    (h : RevisedSection ClearedSafely s s') : ReadAlike s s' where
  name := h.name
  attributes := h.attributes
  outcomes := by
    rw [outcomes_eq_filterMap_children, outcomes_eq_filterMap_children, outcome?_congr h.name]
    refine filterMap_eq_of_forall₂ h.children fun child hchild child' hchild' => ?_
    cases hchild' with
    | same => rfl
    | @element e e' he =>
      obtain ⟨purpose, hpurpose, hcleared, hnot⟩ := he
      have hpurpose' : purpose? s.name.localPart e'.name = some purpose := hcleared.name ▸ hpurpose
      have hnodup := (hresolved.element.2 _ hchild).element.1
      rw [element?_nodeOf, element?_nodeOf, Option.bind_some, Option.bind_some,
        outcome?_of_purpose hpurpose, outcome?_of_purpose hpurpose', hcleared.name,
        hcleared.outcome_of_not_uncovers hnodup _ _ hnot]
  source hkind := by
    have hentries := h.hasEntries
    rw [lookup_sectionTable, hkind] at hentries
    cases hentries

theorem Revised.readAlike {root root' : Xml.Element Xml.Name} (h : Revised ClearedSafely root root')
    (hresolved : ∀ child ∈ root.children, child.Resolved) :
    List.Forall₂ ReadAlike (Xml.elements root.children) (Xml.elements root'.children) := by
  have hchildren := h.children
  generalize root.children = nodes at hchildren hresolved
  generalize root'.children = nodes' at hchildren
  induction hchildren with
  | nil => exact .nil
  | @cons node node' nodes nodes' hnode _ ih =>
    obtain ⟨hhead, htail⟩ := List.forall_mem_cons.1 hresolved
    have hrest := ih htail
    cases hnode with
    | same =>
      simp only [Xml.elements, List.filterMap_cons]
      cases node.element? with
      | none => exact hrest
      | some s => exact .cons ⟨rfl, rfl, rfl, fun _ => rfl⟩ hrest
    | @element s s' hs =>
      simp only [Xml.elements, List.filterMap_cons, element?_nodeOf]
      exact .cons (hs.readAlike hhead) hrest

theorem ReadAlike.sectionEvents_eq {s s' : Xml.Element Xml.Name} (h : ReadAlike s s') :
    sectionEvents s' = sectionEvents s := by
  unfold sectionEvents
  rw [h.name, h.outcomes]

theorem flatMap_eq_of_forall₂ {α β : Type} {R : α → α → Prop} {f : α → List β} {xs ys : List α}
    (h : List.Forall₂ R xs ys) (hf : ∀ x y, R x y → f y = f x) : ys.flatMap f = xs.flatMap f := by
  induction h with
  | nil => rfl
  | cons hxy _ ih => rw [List.flatMap_cons, List.flatMap_cons, hf _ _ hxy, ih]

theorem ofSections_eq_of_readAlike {ss ss' : List (Xml.Element Xml.Name)}
    (h : List.Forall₂ ReadAlike ss ss') : ofSections ss' = ofSections ss := by
  have houtcomes := flatMap_eq_of_forall₂ h fun _ _ hs => hs.outcomes
  have hname : ∀ s s', ReadAlike s s' → s'.name = s.name := fun _ _ hs => hs.name
  have hlocale := lastOfKind?_map h .locale
    (fun s => (⟨s.attribute? "defaultLanguageCode", s.attribute? "defaultCountryCode"⟩ : Locale))
    hname fun s s' hs _ => by simp only [Xml.Element.attribute?, hs.attributes]
  have hmappings := lastOfKind?_map h .providerMappings (·.source) hname
    fun s s' hs hkind => hs.source hkind
  simp only [ofSections, houtcomes, hlocale, hmappings]

section Documents

variable {document document' : String} {root root' : Xml.Element Xml.Name}

theorem parse_eq_of_readAlike (hparse : Xml.parse? document = some root)
    (hparse' : Xml.parse? document' = some root') (hname : root'.name = root.name)
    (h : List.Forall₂ ReadAlike (Xml.elements root.children) (Xml.elements root'.children)) :
    parse document' = parse document := by
  have hevents := flatMap_eq_of_forall₂ h fun _ _ hs => hs.sectionEvents_eq
  simp only [parse, sections?, hparse, hparse', hname]
  by_cases hroot : root.name.localPart = "Configuration"
  · simp only [hroot, if_true, hevents, ofSections_eq_of_readAlike h]
  · simp only [hroot, if_false]

/-- An entry is skipped for lack of an implementation if the usual attribute is blank, or if it is
absent and the alternative one is blank or absent too. -/
theorem Amounts.lacks_implementation {t : Entry} {e : SkippedEntry} (h : Amounts t (.skipped e))
    (hmissing : e.missing = "JAVACLASS") :
    e.sectionName = t.parent.name.localPart ∧ e.element = t.element.name.localPart ∧
      Lacks t.element "JAVACLASS" ∧
      ((t.element.attribute? "JAVACLASS").isSome = true ∨ Lacks t.element "Implementation") := by
  cases h with
  | @skipped s e purpose hentry before after missing hrequired hbefore hlacks =>
    have hmem : missing ∈ required e purpose := hrequired ▸ List.mem_append_right _ (.head _)
    have hspelling : missing.2 = implementationSpelling e := by
      have hrow : missing = ("JAVACLASS", implementationSpelling e) := by
        cases purpose <;>
          simp only [required, List.mem_cons, List.not_mem_nil, or_false] at hmem <;>
          rcases hmem with rfl | rfl <;> simp_all
      rw [hrow]
    rw [hspelling] at hlacks
    refine ⟨rfl, rfl, ?_⟩
    cases hpresent : (e.attribute? "JAVACLASS").isSome with
    | true =>
      rw [implementationSpelling, if_pos hpresent] at hlacks
      exact ⟨hlacks, .inl rfl⟩
    | false =>
      rw [implementationSpelling, if_neg (by simp [hpresent])] at hlacks
      refine ⟨fun written hwritten => ?_, .inr hlacks⟩
      rw [hwritten] at hpresent
      cases hpresent

/-- Leaving out blank attributes of entries makes no difference to what is read from a document,
except where the usual attribute for an implementation is left out of an entry that has nothing
else to be skipped for, and that names an implementation by the alternative attribute. An entry is
skipped for lack of an implementation only if the usual attribute is blank or absent, and, where it
is absent, the alternative one is so too. -/
theorem parse_cleared_iff (document document' : String) (root root' : Xml.Element Xml.Name)
    (hparse : Xml.parse? document = some root) (hparse' : Xml.parse? document' = some root')
    (hroot : root.name.localPart = "Configuration")
    (hcleared : Revised (fun _ => ClearedEntry) root root') :
    (parse document' = parse document ↔ Revised ClearedSafely root root') ∧
    ∃ c, (∀ j, (parse document j).1 = .ok c) ∧ ∀ e ∈ c.skipped, e.missing = "JAVACLASS" →
      ∃ t ∈ entriesBelow root.children,
        e.sectionName = t.parent.name.localPart ∧ e.element = t.element.name.localPart ∧
        Lacks t.element "JAVACLASS" ∧
        ((t.element.attribute? "JAVACLASS").isSome = true ∨ Lacks t.element "Implementation") := by
  have hresolved := Xml.resolved_of_parse? hparse
  have hread := parse_of_root hparse hroot
  refine ⟨⟨fun heq => ?_, fun hsafely => ?_⟩, _, hread, fun e he hmissing => ?_⟩
  · have hroot' : root'.name.localPart = "Configuration" := hcleared.name ▸ hroot
    have hread' := parse_of_root hparse' hroot' []
    rw [heq, hread] at hread'
    have hsections := Except.ok.inj hread'
    exact hcleared.safely hresolved (by rw [hsections])
  · exact parse_eq_of_readAlike hparse hparse' hcleared.name (hsafely.readAlike hresolved)
  · obtain ⟨o, ho, hskipped⟩ := List.mem_filterMap.1 he
    rw [← map_outcome_entriesBelow] at ho
    obtain ⟨t, ht, rfl⟩ := List.mem_map.1 ho
    have hamounts := amounts_outcome t
    rw [Outcome.skipped?_eq_some_iff.1 hskipped] at hamounts
    exact ⟨t, ht, hamounts.lacks_implementation hmissing⟩

end Documents

/-! ### A document with one resolver -/

/-- The element for a resolver with the attributes. -/
def resolverWith (attributes : List (Xml.Name × String)) (written : String) :
    Xml.Element Xml.Name where
  name := ⟨some Namespace.configuration, "Resolver"⟩
  attributes := attributes
  children := []
  source := written

/-- The section with a resolver. -/
def sectionWith (resolver : Xml.Element Xml.Name) : Xml.Element Xml.Name where
  name := ⟨some Namespace.configuration, "KeyResolver"⟩
  attributes := []
  children := [nodeOf resolver]
  source := "<KeyResolver>" ++ resolver.source ++ "</KeyResolver>"

/-- The root of a document with that section. -/
def rootWith (resolver : Xml.Element Xml.Name) : Xml.Element Xml.Name where
  name := ⟨some Namespace.configuration, "Configuration"⟩
  attributes := []
  children := [nodeOf (sectionWith resolver)]
  source := "<Configuration xmlns=\"http://www.xmlsecurity.org/NS/#configuration\"><KeyResolver>" ++
    resolver.source ++ "</KeyResolver></Configuration>"

theorem revised_rootWith {R : Purpose → Xml.Element Xml.Name → Xml.Element Xml.Name → Prop}
    {e e' : Xml.Element Xml.Name} (hname : e.name = ⟨some Namespace.configuration, "Resolver"⟩)
    (h : R (.resolver .keyResolver) e e') : Revised R (rootWith e) (rootWith e') where
  name := rfl
  attributes := rfl
  children := .cons (.element {
    name := rfl
    attributes := rfl
    hasEntries := rfl
    children := .cons (.element ⟨_, by rw [hname]; rfl, h⟩) .nil }) .nil

/-- A resolver that is named by the alternative attribute. -/
def plainResolver : Xml.Element Xml.Name :=
  resolverWith [(⟨none, "Implementation"⟩, "k")] "<Resolver Implementation=\"k\"/>"

/-- The same with a blank description. -/
def describedResolver : Xml.Element Xml.Name :=
  resolverWith [(⟨none, "Implementation"⟩, "k"), (⟨none, "DESCRIPTION"⟩, " ")]
    "<Resolver Implementation=\"k\" DESCRIPTION=\" \"/>"

/-- The same with a blank name in the usual attribute. -/
def hiddenResolver : Xml.Element Xml.Name :=
  resolverWith [(⟨none, "JAVACLASS"⟩, ""), (⟨none, "Implementation"⟩, "k")]
    "<Resolver JAVACLASS=\"\" Implementation=\"k\"/>"

theorem parse?_plainResolver :
    Xml.parse? (rootWith plainResolver).source = some (rootWith plainResolver) := by
  cbv

theorem parse?_describedResolver :
    Xml.parse? (rootWith describedResolver).source = some (rootWith describedResolver) := by
  cbv

theorem parse?_hiddenResolver :
    Xml.parse? (rootWith hiddenResolver).source = some (rootWith hiddenResolver) := by
  cbv

/-- A blank description may be left out. -/
theorem parse_cleared_iff_described :
    Revised (fun _ => ClearedEntry) (rootWith describedResolver) (rootWith plainResolver) ∧
    parse (rootWith plainResolver).source = parse (rootWith describedResolver).source := by
  have hcleared : ClearedEntry describedResolver plainResolver :=
    ⟨rfl, .keep _ (.drop (by decide) (by decide) .nil), rfl⟩
  have hrevised : Revised (fun _ => ClearedEntry) (rootWith describedResolver)
      (rootWith plainResolver) := revised_rootWith rfl hcleared
  have hsafely : Revised ClearedSafely (rootWith describedResolver) (rootWith plainResolver) :=
    revised_rootWith rfl ⟨hcleared, fun h => absurd h.present (by decide)⟩
  exact ⟨hrevised, (parse_cleared_iff _ _ _ _ parse?_describedResolver parse?_plainResolver rfl
    hrevised).1.2 hsafely⟩

/-- A blank attribute keeps the alternative one, which is filled, from being read. Where it is left
out, the entry is no longer skipped. -/
theorem blank_attribute_hides_implementation :
    Xml.parse? (rootWith hiddenResolver).source = some (rootWith hiddenResolver) ∧
    Xml.parse? (rootWith plainResolver).source = some (rootWith plainResolver) ∧
    Revised (fun _ => ClearedEntry) (rootWith hiddenResolver) (rootWith plainResolver) ∧
    Holds hiddenResolver "Implementation" "k" ∧
    (∃ c, (parse (rootWith hiddenResolver).source []).1 = .ok c ∧
      c.requests = [] ∧ c.skipped = [⟨"KeyResolver", "Resolver", "JAVACLASS"⟩]) ∧
    ∃ c, (parse (rootWith plainResolver).source []).1 = .ok c ∧
      c.requests = [⟨.keyResolver, "k", "k", none⟩] ∧ c.skipped = [] := by
  refine ⟨parse?_hiddenResolver, parse?_plainResolver, ?_, attribute?_eq_some_iff.1 rfl,
    ⟨_, parse_of_root parse?_hiddenResolver rfl [], rfl, rfl⟩,
    _, parse_of_root parse?_plainResolver rfl [], rfl, rfl⟩
  exact revised_rootWith rfl ⟨rfl, .drop (by decide) (by decide) (.keep _ .nil), rfl⟩

end Configuration

end DsigRegistry
