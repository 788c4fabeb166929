import DsigRegistry.Proofs.ReadingNames

/-!
# Reading documents

A written document is read as the tree of its root element, whatever declaration, comments and
instructions stand around it. Main fact: `exists_parse?`.
-/

namespace DsigRegistry.Xml.Written

variable {rest : List Char}

/-! ### Around the root element -/

/-- What may follow comments and instructions outside the root element: an element, or the end. -/
def EndsMisc (rest : List Char) : Prop :=
  rest = [] ∨ ∃ c more, rest = '<' :: c :: more ∧ isNameStart c = true

theorem EndsMisc.stops (h : EndsMisc rest) : Stops isSpace rest := by
  obtain rfl | ⟨c, more, rfl, -⟩ := h
  · exact fun _ hd => nomatch hd
  · exact stops_cons (by decide) _

theorem endsMisc_element (e : Element) (rest : List Char) : EndsMisc (e.chars ++ rest) := by
  obtain ⟨c, more, hbody, hc⟩ := e.exists_cons_body
  exact .inr ⟨c, more ++ rest, by rw [e.chars_eq, hbody]; rfl, hc⟩

theorem stops_aside (a : Aside) (rest : List Char) : Stops isSpace (a.chars ++ rest) := by
  cases a with
  | comment c => exact stops_cons (by decide) _
  | instruction i => exact stops_cons (by decide) _

theorem skipMisc?_append (asides : List (Space × Aside)) (gap : Space) (hrest : EndsMisc rest)
    {budget : List Char} (h : asides.length < budget.length) :
    skipMisc? budget (Misc.chars ⟨asides, gap⟩ ++ rest) = some rest := by
  induction asides generalizing budget with
  | nil =>
    obtain ⟨b, budget, rfl⟩ := List.exists_cons_of_length_pos h
    have hskip : skipSpace (Misc.chars ⟨[], gap⟩ ++ rest) = rest :=
      skipSpace_append gap hrest.stops
    rw [skipMisc?, hskip]
    obtain rfl | ⟨c, more, rfl, hc⟩ := hrest
    · rfl
    · split
      next heq =>
        cases heq
        contradiction
      next heq =>
        cases heq
        contradiction
      next => rfl
  | cons aside asides ih =>
    obtain ⟨b, budget, rfl⟩ := List.exists_cons_of_length_pos (Nat.zero_lt_of_lt h)
    obtain ⟨space, aside⟩ := aside
    have hmore := ih (Nat.lt_of_succ_lt_succ h)
    generalize hbehind : Misc.chars ⟨asides, gap⟩ ++ rest = behind at hmore
    have hsplit : Misc.chars ⟨(space, aside) :: asides, gap⟩ ++ rest =
        space.chars ++ (aside.chars ++ behind) := by
      rw [← hbehind]
      simp [Misc.chars]
    rw [hsplit, skipMisc?, skipSpace_append space (stops_aside aside behind)]
    cases aside with
    | comment c =>
      rw [Aside.chars, c.append_eq]
      simp only [comment?_append, hmore, bind, Option.bind]
    | instruction i =>
      rw [Aside.chars, i.append_eq]
      simp only [instruction?_append, hmore, bind, Option.bind]

theorem length_le_length_chars (misc : Misc) : misc.asides.length ≤ misc.chars.length := by
  obtain ⟨asides, gap⟩ := misc
  induction asides with
  | nil => exact Nat.zero_le _
  | cons aside asides ih =>
    have haside : 0 < aside.2.chars.length := by
      cases aside.2 <;> simp [Aside.chars, Comment.chars, Instruction.chars]
    simp only [Misc.chars, List.flatMap_cons, List.length_append, List.length_cons] at ih ⊢
    omega

theorem skipMisc?_chars (misc : Misc) (hrest : EndsMisc rest) :
    skipMisc? ('\n' :: (misc.chars ++ rest)) (misc.chars ++ rest) = some rest := by
  refine skipMisc?_append misc.asides misc.gap hrest ?_
  have := length_le_length_chars misc
  rw [List.length_cons, List.length_append]
  omega

/-! ### The XML declaration -/

theorem declarationGap?_attribute (a : Attribute) (rest : List Char) :
    declarationGap? (a.chars ++ rest) = some (a.body ++ rest) := by
  obtain ⟨c, more, hcons, hc⟩ := a.exists_cons_gap
  rw [declarationGap?, skipSpace_attribute, if_pos (by simp [Attribute.chars, hcons, hc])]

theorem declarationGap?_end (gap : Space) (rest : List Char) :
    declarationGap? (gap.chars ++ '?' :: '>' :: rest) = some ('?' :: '>' :: rest) := by
  have hskip : skipSpace (gap.chars ++ '?' :: '>' :: rest) = '?' :: '>' :: rest :=
    skipSpace_append gap (stops_cons (by decide) _)
  rw [declarationGap?, hskip]
  obtain ⟨chars, hchars⟩ := gap
  cases chars with
  | nil => rfl
  | cons c cs => exact if_pos (List.all_eq_true.1 hchars c List.mem_cons_self)

theorem exists_body_eq {a : Attribute} {name : String} (h : a.name = ⟨"", name⟩) :
    ∃ more, a.body = name.toList ++ more := by
  refine ⟨a.beforeEquals.chars ++ '=' :: a.afterEquals.chars ++
    a.quote :: itemChars a.items ++ [a.quote], ?_⟩
  simp [Attribute.body, h, WrittenName.chars]

/-- The end of a declaration, from its standalone declaration on, with what goes on behind it. -/
theorem exists_standalone (d : Declaration) (rest : List Char) :
    ∃ body, declarationGap? ((d.standalone.map Attribute.chars).getD [] ++
        (d.gap.chars ++ '?' :: '>' :: rest)) = some body ∧
      (afterLiteral? ['e', 'n', 'c', 'o', 'd', 'i', 'n', 'g'] body).isSome = false ∧
      ∃ behind, skipSpace behind = '?' :: '>' :: rest ∧ ∀ next : List Char → Option (List Char),
        (if (afterLiteral? ['s', 't', 'a', 'n', 'd', 'a', 'l', 'o', 'n', 'e'] body).isSome then
          (writtenAttribute? body).bind fun read => next read.2
        else next body) = next behind := by
  have hgap : skipSpace (d.gap.chars ++ '?' :: '>' :: rest) = '?' :: '>' :: rest :=
    skipSpace_append d.gap (stops_cons (by decide) _)
  cases hstandalone : d.standalone with
  | none => exact ⟨_, declarationGap?_end d.gap rest, rfl, _, rfl, fun next => rfl⟩
  | some a =>
    obtain ⟨more, hmore⟩ := exists_body_eq (d.standalone_name a hstandalone)
    refine ⟨_, declarationGap?_attribute a _, ?_, _, hgap, fun next => ?_⟩
    · rw [hmore]
      rfl
    · have hliteral : (afterLiteral? ['s', 't', 'a', 'n', 'd', 'a', 'l', 'o', 'n', 'e']
          (a.body ++ (d.gap.chars ++ '?' :: '>' :: rest))).isSome = true := by
        rw [hmore]
        rfl
      rw [if_pos hliteral, writtenAttribute?_append]
      rfl

/-- The end of a declaration, from its encoding declaration on, with what goes on behind it. -/
theorem exists_encoding (d : Declaration) {cs body : List Char}
    (hgap : declarationGap? cs = some body)
    (hbody : (afterLiteral? ['e', 'n', 'c', 'o', 'd', 'i', 'n', 'g'] body).isSome = false) :
    ∃ body', declarationGap? ((d.encoding.map Attribute.chars).getD [] ++ cs) = some body' ∧
      ∀ next : List Char → Option (List Char),
        (if (afterLiteral? ['e', 'n', 'c', 'o', 'd', 'i', 'n', 'g'] body').isSome then
          (writtenAttribute? body').bind fun read => (declarationGap? read.2).bind next
        else next body') = next body := by
  cases hencoding : d.encoding with
  | none => exact ⟨body, hgap, fun next => by rw [hbody]; rfl⟩
  | some a =>
    obtain ⟨more, hmore⟩ := exists_body_eq (d.encoding_name a hencoding)
    refine ⟨_, declarationGap?_attribute a cs, fun next => ?_⟩
    have hliteral : (afterLiteral? ['e', 'n', 'c', 'o', 'd', 'i', 'n', 'g']
        (a.body ++ cs)).isSome = true := by
      rw [hmore]
      rfl
    rw [if_pos hliteral, writtenAttribute?_append, Option.bind_some, hgap]
    rfl

theorem declaration?_append (d : Declaration) (rest : List Char) :
    declaration? (d.version.chars ++ (d.encoding.map Attribute.chars).getD [] ++
      (d.standalone.map Attribute.chars).getD [] ++ d.gap.chars ++ ['?', '>'] ++ rest) =
      some rest := by
  obtain ⟨body, hgap, hbody, behind, hbehind, hstandalone⟩ := exists_standalone d rest
  obtain ⟨body', hgap', hencoding⟩ := exists_encoding d hgap hbody
  generalize hcs : (d.encoding.map Attribute.chars).getD [] ++
    ((d.standalone.map Attribute.chars).getD [] ++ (d.gap.chars ++ '?' :: '>' :: rest)) = cs
    at hgap'
  have hsplit : d.version.chars ++ (d.encoding.map Attribute.chars).getD [] ++
      (d.standalone.map Attribute.chars).getD [] ++ d.gap.chars ++ ['?', '>'] ++ rest =
      d.version.chars ++ cs := by
    rw [← hcs]
    simp
  obtain ⟨more, hversion⟩ := exists_body_eq d.version_name
  have hliteral : afterLiteral? ['v', 'e', 'r', 's', 'i', 'o', 'n'] (d.version.body ++ cs) =
      some (more ++ cs) := by
    rw [hversion, List.append_assoc]
    exact afterLiteral?_append _ _
  have hend : afterLiteral? ['?', '>'] (skipSpace behind) = some rest := by
    rw [hbehind]
    exact afterLiteral?_append _ _
  rw [hsplit, declaration?]
  simp only [declarationGap?_attribute, hliteral, writtenAttribute?_append, hgap', bind,
    Option.bind_some]
  exact (hencoding _).trans
    ((hstandalone fun behind => afterLiteral? ['?', '>'] (skipSpace behind)).trans hend)

/-- A declaration is known by its mark and the space behind it. -/
theorem Declaration.append_eq (d : Declaration) (rest : List Char) :
    ∃ more, d.chars ++ rest = ['<', '?', 'x', 'm', 'l', ' '] ++ more ∧
      declaration? (' ' :: more) = some rest := by
  obtain ⟨space, hspace⟩ := List.head?_eq_some_iff.1 d.version_gap
  refine ⟨space ++ d.version.body ++ (d.encoding.map Attribute.chars).getD [] ++
    (d.standalone.map Attribute.chars).getD [] ++ d.gap.chars ++ ['?', '>'] ++ rest, ?_, ?_⟩
  · simp [chars, Attribute.chars, hspace]
  · have hread := declaration?_append d rest
    rw [Attribute.chars, hspace] at hread
    exact hread

/-! ### Documents -/

/-- A document from behind its declaration. -/
def Document.body (d : Document) : List Char :=
  d.prolog.chars ++ (d.root.chars ++ d.epilog.chars)

/-- The body of a document begins with white space or markup, none of which would be taken for a
declaration. -/
theorem Document.exists_body_eq (d : Document) :
    ∃ (space : Space) (more : List Char), d.body = space.chars ++ '<' :: more ∧
      afterLiteral? ['?', 'x', 'm', 'l', ' '] more = none := by
  rw [body]
  generalize d.epilog.chars = rest
  obtain ⟨asides, gap⟩ := d.prolog
  cases asides with
  | nil =>
    obtain ⟨c, more, hbody, hc⟩ := d.root.exists_cons_body
    refine ⟨gap, c :: more ++ rest, by simp [Misc.chars, d.root.chars_eq, hbody], ?_⟩
    exact if_neg (ne_of_isNameStart hc (by decide)).symm
  | cons aside asides =>
    obtain ⟨space, aside⟩ := aside
    cases aside with
    | comment c =>
      exact ⟨space, _, by simp [Misc.chars, Aside.chars, Comment.chars]; rfl, rfl⟩
    | instruction i =>
      refine ⟨space, '?' :: (i.target ++ i.behindTarget (Misc.chars ⟨asides, gap⟩ ++
        (d.root.chars ++ rest))), ?_, i.afterLiteral?_eq_none _⟩
      simp [Misc.chars, Aside.chars, Instruction.chars, Instruction.behindTarget]

theorem Document.exists_cons_body (d : Document) :
    ∃ c more, d.body = c :: more ∧ c ≠ '\uFEFF' := by
  obtain ⟨⟨space, hspace⟩, more, hbody, -⟩ := d.exists_body_eq
  cases space with
  | nil => exact ⟨'<', more, hbody, by decide⟩
  | cons c space =>
    refine ⟨c, space ++ '<' :: more, hbody, ?_⟩
    rintro rfl
    exact absurd (List.all_eq_true.1 hspace _ List.mem_cons_self) (by decide)

theorem Document.afterLiteral?_body (d : Document) :
    afterLiteral? ['<', '?', 'x', 'm', 'l', ' '] d.body = none := by
  obtain ⟨⟨space, hspace⟩, more, hbody, hnone⟩ := d.exists_body_eq
  rw [hbody]
  cases space with
  | nil => exact hnone
  | cons c space =>
    refine if_neg ?_
    rintro rfl
    exact absurd (List.all_eq_true.1 hspace _ List.mem_cons_self) (by decide)

theorem withoutMark_append {c : Char} {more : List Char} (mark : Bool) (h : c ≠ '\uFEFF') :
    withoutMark ((if mark then ['\uFEFF'] else []) ++ c :: more) = c :: more := by
  cases mark with
  | true => rfl
  | false =>
    rw [if_neg Bool.false_ne_true, List.nil_append, withoutMark]
    intro rest heq
    exact h (List.cons.inj heq).1

/-- The byte order mark is skipped, and so is the declaration. -/
theorem Document.behind_declaration (d : Document) :
    (match afterLiteral? ['<', '?', 'x', 'm', 'l', ' '] (withoutMark d.chars) with
      | some _ => declaration? ((withoutMark d.chars).drop 5)
      | none => some (withoutMark d.chars)) = some d.body := by
  cases hdeclaration : d.declaration with
  | none =>
    obtain ⟨c, more, hbody, hc⟩ := d.exists_cons_body
    have hchars : d.chars = (if d.mark then ['\uFEFF'] else []) ++ c :: more := by
      simp [chars, hdeclaration, ← hbody, body]
    rw [hchars, withoutMark_append d.mark hc, ← hbody, d.afterLiteral?_body]
  | some declaration =>
    obtain ⟨more, hsplit, hread⟩ := declaration.append_eq d.body
    have hchars : d.chars = (if d.mark then ['\uFEFF'] else []) ++
        (['<', '?', 'x', 'm', 'l', ' '] ++ more) := by
      rw [← hsplit]
      simp [chars, hdeclaration, body]
    rw [hchars, List.cons_append, withoutMark_append d.mark (by decide)]
    exact hread

/-- A document is read as the tree of its root element. -/
theorem markup?_chars (d : Document) : markup? d.chars = some d.root.node := by
  have hprolog : skipMisc? ('\n' :: d.body) d.body = some (d.root.chars ++ d.epilog.chars) :=
    skipMisc?_chars d.prolog (endsMisc_element d.root d.epilog.chars)
  have hstart : afterLiteral? ['<'] (d.root.chars ++ d.epilog.chars) =
      some (d.root.body ++ d.epilog.chars) := by
    rw [d.root.chars_eq]
    exact afterLiteral?_append _ _
  have hroot : element? (d.root.chars ++ d.epilog.chars) (d.root.body ++ d.epilog.chars) =
      some (d.root.node, d.epilog.chars) :=
    element?_append d.root (by rw [List.length_append]; omega) d.epilog.chars
  have hepilog : skipMisc? ('\n' :: d.epilog.chars) d.epilog.chars = some [] := by
    simpa using skipMisc?_chars d.epilog (.inl rfl)
  have hdeclaration := d.behind_declaration
  unfold markup?
  dsimp only
  cases hliteral : afterLiteral? ['<', '?', 'x', 'm', 'l', ' '] (withoutMark d.chars) with
  | some rest =>
    rw [hliteral] at hdeclaration
    dsimp only at hdeclaration ⊢
    rw [hdeclaration]
    simp only [hprolog, hstart, hroot, hepilog, bind, Option.bind]
    rfl
  | none =>
    rw [hliteral] at hdeclaration
    have hbody : withoutMark d.chars = d.body := Option.some.inj hdeclaration
    rw [hbody]
    simp only [hprolog, hstart, hroot, hepilog, bind, Option.bind]
    rfl

/-- A document is well formed and has the character data it was written with. -/
theorem exists_parse? (d : Document) :
    ∃ root, parse? d.text = some root ∧ root.characterData = d.characterData := by
  obtain ⟨root, hroot, hdata⟩ := exists_resolve?_element d.root d.named (.refl [])
  refine ⟨root, ?_, hdata⟩
  rw [parse?, Document.text, String.toList_ofList, markup?_chars]
  simp only [hroot, bind, Option.bind]
  rfl

end DsigRegistry.Xml.Written
