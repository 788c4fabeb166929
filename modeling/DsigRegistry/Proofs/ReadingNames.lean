import DsigRegistry.Proofs.ReadingMarkup
import Mathlib.Data.List.Nodup

/-!
# Resolving names

The names of a written tree stand for something if its prefixes are declared, and the tree under
those names has the character data that it was written with. Main fact: `exists_resolve?_element`.
-/

namespace DsigRegistry.Xml.Written

variable {s s' t t' scope : Scope} {label localPart uri : String}

/-! ### Scopes -/

/-- Two scopes give the same namespaces to the prefixes that are looked up in them. -/
def Agree (s t : Scope) : Prop :=
  ∀ label, label ≠ "" → label ≠ "xml" →
    s.find? (fun d => d.1 == label) = t.find? (fun d => d.1 == label)

theorem Agree.refl (s : Scope) : Agree s s := fun _ _ _ => rfl

theorem Agree.append (h : Agree s t) (h' : Agree s' t') : Agree (s ++ s') (t ++ t') :=
  fun label hne hxml => by
    rw [List.find?_append, List.find?_append, h label hne hxml, h' label hne hxml]

theorem Agree.cons (h : Agree s t) (d : String × String) : Agree (d :: s) (d :: t) :=
  (refl [d]).append h

/-- What is bound to no prefix, or to that of XML itself, makes no difference. -/
theorem Agree.cons_left {d : String × String} (h : Agree s t) (hd : d.1 = "" ∨ d.1 = "xml") :
    Agree (d :: s) t := fun label hne hxml => by
  rw [List.find?_cons_of_neg, h label hne hxml]
  obtain hd | hd := hd <;> simp [hd, hne.symm, hxml.symm]

theorem Agree.cons_right {d : String × String} (h : Agree s t) (hd : d.1 = "" ∨ d.1 = "xml") :
    Agree s (d :: t) := fun label hne hxml => by
  rw [List.find?_cons_of_neg, h label hne hxml]
  obtain hd | hd := hd <;> simp [hd, hne.symm, hxml.symm]

theorem Agree.namespaceOf? (h : Agree s t) (hne : label ≠ "") (hxml : label ≠ "xml") :
    s.namespaceOf? label = t.namespaceOf? label := by
  rw [Scope.namespaceOf?, Scope.namespaceOf?, h label hne hxml]

theorem Agree.attributeName? (h : Agree s t) (name : WrittenName) :
    attributeName? s name = attributeName? t name := by
  unfold Xml.attributeName?
  split
  next => rfl
  next hxml =>
    split
    next => rfl
    next hne => rw [h.namespaceOf? hne hxml]

/-! ### Attributes -/

variable {attributes : List (WrittenName × String)} {later : Scope}

theorem declarations?_xml (h : declarations? attributes = some later) :
    declarations? ((⟨"xmlns", "xml"⟩, xmlUri) :: attributes) = some later := by
  have hne : xmlUri ≠ xmlnsUri := by decide
  simp [declarations?, h, guard, hne]

theorem declarations?_label (h : declarations? attributes = some later) (hxmlns : uri ≠ xmlnsUri)
    (hxml : localPart ≠ "xml" ∧ uri ≠ xmlUri)
    (hnew : (later.all fun d => d.1 != localPart) = true) :
    declarations? ((⟨"xmlns", localPart⟩, uri) :: attributes) =
      some ((localPart, uri) :: later) := by
  simp only [declarations?, h, hxmlns, hxml.1, hxml.2, hnew, guard, if_true, if_false, ne_eq,
    not_false_eq_true, bind, Option.bind, pure]

theorem declarations?_default (h : declarations? attributes = some later)
    (hlabel : label ≠ "xmlns") (huri : uri ≠ xmlUri ∧ uri ≠ xmlnsUri) :
    declarations? ((⟨label, "xmlns"⟩, uri) :: attributes) = some (("", uri) :: later) := by
  simp only [declarations?, h, hlabel, huri, guard, if_true, if_false, ne_eq, not_false_eq_true,
    and_self, bind, Option.bind, pure]

theorem declarations?_other (h : declarations? attributes = some later)
    (hlabel : label ≠ "xmlns") (hlocal : localPart ≠ "xmlns") :
    declarations? ((⟨label, localPart⟩, uri) :: attributes) = some later := by
  simp only [declarations?, h, hlabel, hlocal, if_false, bind, Option.bind, pure]

/-- Declarations are read if they declare nothing reserved and nothing twice. -/
theorem exists_declarations?
    (hreserved : ∀ a ∈ attributes, a.1.label = "xmlns" ∨ a.1.localPart = "xmlns" →
      a.2 ≠ xmlnsUri ∧ (a.2 = xmlUri ↔ a.1 = ⟨"xmlns", "xml"⟩))
    (hlocal : ∀ a ∈ attributes, a.1.localPart ≠ "")
    (honce : (attributes.map Prod.fst).Nodup) :
    ∃ declared, declarations? attributes = some declared ∧
      (∀ d ∈ declared, d.1 = "" ∨ ⟨"xmlns", d.1⟩ ∈ attributes.map Prod.fst) ∧
      Agree declared (attributes.filterMap declares?) := by
  induction attributes with
  | nil => exact ⟨[], rfl, by simp, .refl []⟩
  | cons a attributes ih =>
    obtain ⟨⟨label, localPart⟩, uri⟩ := a
    rw [List.map_cons, List.nodup_cons] at honce
    obtain ⟨later, hlater, hmem, hagree⟩ :=
      ih (fun b hb => hreserved b (List.mem_cons_of_mem _ hb))
        (fun b hb => hlocal b (List.mem_cons_of_mem _ hb)) honce.2
    have hmem' (d : String × String) (hd : d ∈ later) :
        d.1 = "" ∨ ⟨"xmlns", d.1⟩ ∈ ⟨label, localPart⟩ :: attributes.map Prod.fst :=
      (hmem d hd).imp_right (List.mem_cons_of_mem _)
    have huri := hreserved _ List.mem_cons_self
    have hlocal' : localPart ≠ "" := hlocal _ List.mem_cons_self
    by_cases hlabel : label = "xmlns"
    · subst hlabel
      obtain ⟨hxmlns, hxml⟩ := huri (.inl rfl)
      rw [List.filterMap_cons_some (b := (localPart, uri)) (by simp [declares?])]
      by_cases hlocalXml : localPart = "xml"
      · subst hlocalXml
        obtain rfl : uri = xmlUri := hxml.2 rfl
        exact ⟨later, declarations?_xml hlater, hmem', hagree.cons_right (.inr rfl)⟩
      · have huri' : uri ≠ xmlUri := fun h => hlocalXml (WrittenName.mk.inj (hxml.1 h)).2
        have hnew : (later.all fun d => d.1 != localPart) = true := by
          refine List.all_eq_true.2 fun d hd => bne_iff_ne.2 fun heq => ?_
          obtain hempty | hagain := hmem d hd
          · exact hlocal' (heq.symm.trans hempty)
          · rw [heq] at hagain
            exact honce.1 hagain
        refine ⟨(localPart, uri) :: later,
          declarations?_label hlater hxmlns ⟨hlocalXml, huri'⟩ hnew, ?_, hagree.cons _⟩
        exact List.forall_mem_cons.2 ⟨.inr List.mem_cons_self, hmem'⟩
    · by_cases hdefault : localPart = "xmlns"
      · subst hdefault
        obtain ⟨hxmlns, hxml⟩ := huri (.inr rfl)
        have huri' : uri ≠ xmlUri := fun h => hlabel (WrittenName.mk.inj (hxml.1 h)).1
        refine ⟨("", uri) :: later, declarations?_default hlater hlabel ⟨huri', hxmlns⟩,
          List.forall_mem_cons.2 ⟨.inl rfl, hmem'⟩, ?_⟩
        -- under another prefix the attribute is an ordinary one, and is taken for a default
        by_cases hempty : label = ""
        · rw [List.filterMap_cons_some (b := ("", uri)) (by simp [declares?, hempty])]
          exact hagree.cons _
        · rw [List.filterMap_cons_none (by simp [declares?, hlabel, hempty])]
          exact hagree.cons_left (.inl rfl)
      · refine ⟨later, declarations?_other hlater hlabel hdefault, hmem', ?_⟩
        rw [List.filterMap_cons_none (by simp [declares?, hlabel, hdefault])]
        exact hagree

/-- The attributes that are no declarations are resolved if their prefixes are declared and no
two stand for the same name. -/
theorem exists_resolveAttributes? (h : Agree s t)
    (hsome : ∀ a ∈ attributes, (expandedName? t a.1).isSome = true)
    (honce : (attributes.map fun a => expandedName? t a.1).Nodup) :
    ∃ resolved, resolveAttributes? s attributes = some resolved ∧
      ∀ r ∈ resolved, some r.1 ∈ attributes.map fun a => expandedName? t a.1 := by
  induction attributes with
  | nil => exact ⟨[], rfl, by simp⟩
  | cons a attributes ih =>
    obtain ⟨name, value⟩ := a
    rw [List.map_cons, List.nodup_cons] at honce
    obtain ⟨later, hlater, hmem⟩ := ih (fun b hb => hsome b (List.mem_cons_of_mem _ hb)) honce.2
    have hmem' : ∀ r ∈ later, some r.1 ∈
        expandedName? t name :: attributes.map fun a => expandedName? t a.1 := fun r hr =>
      List.mem_cons_of_mem _ (hmem r hr)
    by_cases hdeclaration : isDeclaration name = true
    · refine ⟨later, ?_, hmem'⟩
      simp only [resolveAttributes?, hlater, hdeclaration, if_true, bind, Option.bind, pure]
    · have hlabel : name.label ≠ "xmlns" := fun hlabel =>
        hdeclaration (by simp [isDeclaration, hlabel])
      have hexpanded : expandedName? t name = attributeName? s name := by
        rw [expandedName?, if_neg hlabel, h.attributeName?]
      obtain ⟨expanded, hname⟩ := Option.isSome_iff_exists.1 (hsome _ List.mem_cons_self)
      have hnew : (later.all fun r => r.1 ≠ expanded) = true := by
        refine List.all_eq_true.2 fun r hr => decide_eq_true fun heq => honce.1 ?_
        rw [hname, ← heq]
        exact hmem r hr
      refine ⟨(expanded, value) :: later, ?_, List.forall_mem_cons.2 ⟨?_, hmem'⟩⟩
      · simp only [resolveAttributes?, hlater, hdeclaration, ← hexpanded, hname, hnew, guard,
          if_true, bind, Option.bind, pure]
        rfl
      · rw [List.map_cons, hname]
        exact List.mem_cons_self

/-! ### Trees -/

/-- A prefix is looked up alike, up to the default namespace. -/
theorem Agree.isSome_namespaceOf? (h : Agree s t) (hxml : label ≠ "xml")
    (hsome : (t.namespaceOf? label).isSome = true) : (s.namespaceOf? label).isSome = true := by
  by_cases hempty : label = ""
  · rw [Scope.namespaceOf?]
    split <;> simp [hempty]
  · rwa [h.namespaceOf? hempty hxml]

/-- The names of a tag are resolved if they are declared. -/
theorem Tag.Named.exists_names {tag : Tag} (h : tag.Named t) (hagree : Agree s t) :
    ∃ declared name attributes, declarations? tag.pairs = some declared ∧
      elementName? (declared ++ s) tag.name = some name ∧
      resolveAttributes? (declared ++ s) tag.pairs = some attributes ∧
      Agree (declared ++ s) (tag.declared ++ t) := by
  have hlocal : ∀ a ∈ tag.pairs, a.1.localPart ≠ "" := by
    intro a ha hempty
    obtain ⟨b, -, rfl⟩ := List.mem_map.1 ha
    have hstart := b.name_wf.localPart.start
    rw [show b.name.localPart = "" from hempty] at hstart
    contradiction
  have hnames : (tag.pairs.map Prod.fst).Nodup := by
    refine List.Nodup.of_map (expandedName? (tag.declared ++ t)) ?_
    rw [List.map_map]
    exact h.once
  obtain ⟨declared, hdeclared, -, hagree'⟩ := exists_declarations? h.reserved hlocal hnames
  have hscope : Agree (declared ++ s) (tag.declared ++ t) := hagree'.append hagree
  obtain ⟨attributes, hattributes, -⟩ := exists_resolveAttributes? hscope h.attributes h.once
  obtain ⟨uri, huri⟩ :=
    Option.isSome_iff_exists.1 (hscope.isSome_namespaceOf? h.label.1 h.element)
  refine ⟨declared, ⟨uri, tag.name.localPart⟩, attributes, hdeclared, ?_, hattributes, hscope⟩
  simp only [elementName?, huri, h.label.2, guard, ne_eq, not_false_eq_true, if_true, bind,
    Option.bind, pure]

theorem exists_resolveList?_text (run : Run) {nodes : List (Node WrittenName)}
    {resolved : List (Node Name)} (h : resolveList? s nodes = some resolved) :
    ∃ resolved', resolveList? s (run.nodes ++ nodes) = some resolved' ∧
      listCharacterData resolved' =
        String.ofList run.characterData ++ listCharacterData resolved := by
  by_cases hitems : run.items = []
  · exact ⟨resolved, by simpa [Run.nodes, hitems] using h,
      by simp [Run.characterData, hitems, itemValue]⟩
  · refine ⟨.text (String.ofList run.characterData) :: resolved, ?_, rfl⟩
    simp [Run.nodes, hitems, resolveList?, resolve?, h]

/-! A tree is resolved within any scope that its names are declared in, by induction on it; names
do not touch character data. -/

mutual

theorem exists_resolve?_element (e : Element) {s t : Scope} (h : e.Named t) (hagree : Agree s t) :
    ∃ root : Xml.Element Name,
      resolve? s e.node = some (.element root.name root.attributes root.children root.source) ∧
      root.characterData = String.ofList e.characterData := by
  cases e with
  | empty tag =>
    obtain ⟨declared, name, attributes, hdeclared, hname, hattributes, -⟩ :=
      Tag.Named.exists_names h hagree
    refine ⟨⟨name, attributes, [], String.ofList (Element.empty tag).chars⟩, ?_, rfl⟩
    simp only [Element.node, resolve?, hdeclared, hname, hattributes, resolveList?, bind,
      Option.bind, pure]
  | full tag content endGap =>
    obtain ⟨declared, name, attributes, hdeclared, hname, hattributes, hscope⟩ :=
      Tag.Named.exists_names h.1 hagree
    obtain ⟨children, hchildren, hdata⟩ := exists_resolveList?_content content h.2 hscope
    refine ⟨⟨name, attributes, children, String.ofList (Element.full tag content endGap).chars⟩,
      ?_, hdata⟩
    simp only [Element.node, resolve?, hdeclared, hname, hattributes, hchildren, bind,
      Option.bind, pure]

theorem exists_resolveList?_content (content : Content) {s t : Scope} (h : content.Named t)
    (hagree : Agree s t) :
    ∃ nodes, resolveList? s content.nodes = some nodes ∧
      listCharacterData nodes = String.ofList content.characterData := by
  cases content with
  | last run =>
    have hnil : resolveList? s [] = some [] := rfl
    obtain ⟨nodes, hnodes, hdata⟩ := exists_resolveList?_text run hnil
    exact ⟨nodes, by simpa [Content.nodes] using hnodes,
      by simpa [listCharacterData, Content.characterData] using hdata⟩
  | next run markup rest =>
    obtain ⟨node, hnode, hdata⟩ := exists_resolve?_markup markup h.1 hagree
    obtain ⟨nodes, hnodes, hdata'⟩ := exists_resolveList?_content rest h.2 hagree
    have hlist : resolveList? s (markup.node :: rest.nodes) = some (node :: nodes) := by
      simp only [resolveList?, hnode, hnodes, bind, Option.bind, pure]
    obtain ⟨nodes', hnodes', hdata''⟩ := exists_resolveList?_text run hlist
    refine ⟨nodes', hnodes', ?_⟩
    rw [hdata'', listCharacterData, hdata, hdata', Content.characterData]
    simp [String.ofList_append]

theorem exists_resolve?_markup (markup : Markup) {s t : Scope} (h : markup.Named t)
    (hagree : Agree s t) :
    ∃ node, resolve? s markup.node = some node ∧
      node.characterData = String.ofList markup.characterData := by
  cases markup with
  | element e =>
    obtain ⟨root, hroot, hdata⟩ := exists_resolve?_element e h hagree
    exact ⟨_, hroot, hdata⟩
  | cdata _ => exact ⟨_, rfl, rfl⟩
  | aside a => cases a <;> exact ⟨_, rfl, rfl⟩

end

end DsigRegistry.Xml.Written
