import DsigRegistry.Proofs.ReadingText

/-!
# Reading markup

What the readers of tags, elements and content make of what is written: the tree of it with the
names as they are written. Main fact: `element?_append`.
-/

namespace DsigRegistry.Xml

variable {p : Char → Bool} {c : Char} {rest : List Char}

/-! ### Where names end and begin -/

theorem isNameChar_of_isSpace (h : isSpace c = true) : isNameChar c = false := by
  simp only [isSpace, Bool.or_eq_true, decide_eq_true_eq] at h
  rcases h with ((rfl | rfl) | rfl) | rfl <;> decide

theorem isNameChar_of_isNameStart (h : isNameStart c = true) : isNameChar c = true := by
  simp [isNameChar, h]

theorem isSpace_of_isNameStart (h : isNameStart c = true) : isSpace c = false := by
  cases hspace : isSpace c with
  | false => rfl
  | true =>
    have hchar := isNameChar_of_isNameStart h
    rw [isNameChar_of_isSpace hspace] at hchar
    contradiction

theorem ne_of_isNameStart {d : Char} (h : isNameStart c = true) (hd : isNameStart d = false) :
    c ≠ d := by
  rintro rfl
  rw [h] at hd
  contradiction

theorem IsNcName.exists_cons {cs : List Char} (h : IsNcName cs) :
    ∃ c more, cs = c :: more ∧ isNameStart c = true := by
  cases cs with
  | nil => exact absurd h.start (by simp)
  | cons c more => exact ⟨c, more, rfl, by simpa using h.start⟩

/-- A written name begins as every name does. -/
theorem WrittenName.WellFormed.exists_cons {name : WrittenName} (h : name.WellFormed) :
    ∃ c more, name.chars = c :: more ∧ isNameStart c = true := by
  unfold WrittenName.chars
  split
  next => exact h.localPart.exists_cons
  next hlabel =>
    obtain ⟨c, more, hcons, hc⟩ := (h.label.resolve_left hlabel).exists_cons
    exact ⟨c, _, by rw [hcons]; rfl, hc⟩

theorem writtenName?_append {name : WrittenName} (h : name.WellFormed)
    (hrest : Stops isNameChar rest) : writtenName? (name.chars ++ rest) = some (name, rest) := by
  have hstops : Stops (fun c => isNameChar c && c != ':') rest := fun c hc => by
    simp [hrest c hc]
  obtain ⟨label, localPart⟩ := name
  have hlocal := h.localPart
  by_cases hlabel : label = ""
  · subst hlabel
    simp only [writtenName?, WrittenName.chars, if_true,
      takeWhile_append_of_stops hlocal.nameChar hstops,
      dropWhile_append_of_stops hlocal.nameChar hstops]
    split
    next more => exact absurd (hrest ':' rfl) (by decide)
    next =>
      rw [if_pos hlocal.start, String.ofList_toList]
  · have hlabel' := h.label.resolve_left hlabel
    have hcolon :
        Stops (fun c => isNameChar c && c != ':') (':' :: (localPart.toList ++ rest)) :=
      stops_cons (by decide) _
    have hsplit : WrittenName.chars ⟨label, localPart⟩ ++ rest =
        label.toList ++ ':' :: (localPart.toList ++ rest) := by
      simp [WrittenName.chars, hlabel]
    simp only [writtenName?, hsplit, takeWhile_append_of_stops hlabel'.nameChar hcolon,
      dropWhile_append_of_stops hlabel'.nameChar hcolon,
      takeWhile_append_of_stops hlocal.nameChar hstops,
      dropWhile_append_of_stops hlocal.nameChar hstops]
    rw [if_pos (by simp [hlabel'.start, hlocal.start]), String.ofList_toList,
      String.ofList_toList]

namespace Written

/-! ### Tags -/

/-- A name ends where white space begins. -/
theorem stops_space (space : Space) (h : Stops isNameChar rest) :
    Stops isNameChar (space.chars ++ rest) := by
  obtain ⟨chars, hchars⟩ := space
  cases chars with
  | nil => exact h
  | cons c cs =>
    exact stops_cons (isNameChar_of_isSpace (List.all_eq_true.1 hchars c List.mem_cons_self)) _

theorem writtenAttribute?_append (a : Attribute) (rest : List Char) :
    writtenAttribute? (a.body ++ rest) = some ((a.name, itemChars a.items), rest) := by
  have hsplit : a.body ++ rest = a.name.chars ++ (a.beforeEquals.chars ++
      '=' :: (a.afterEquals.chars ++ (a.quote :: itemChars a.items ++ [a.quote] ++ rest))) := by
    simp [Attribute.body]
  have hname : Stops isNameChar (a.beforeEquals.chars ++
      '=' :: (a.afterEquals.chars ++ (a.quote :: itemChars a.items ++ [a.quote] ++ rest))) :=
    stops_space _ (stops_cons (by decide) _)
  have hquote : Stops isSpace (a.quote :: itemChars a.items ++ [a.quote] ++ rest) := by
    obtain h | h := a.quote_eq <;> exact stops_cons (by rw [h]; decide) _
  have hequals : equals? (a.beforeEquals.chars ++
      '=' :: (a.afterEquals.chars ++ (a.quote :: itemChars a.items ++ [a.quote] ++ rest))) =
      some (a.quote :: itemChars a.items ++ [a.quote] ++ rest) := by
    rw [equals?, skipSpace_append _ (stops_cons (by decide) _)]
    exact congrArg some (skipSpace_append _ hquote)
  rw [writtenAttribute?, hsplit, writtenName?_append a.name_wf hname]
  simp only [hequals, quotedValue?_append, bind, Option.bind, pure]

/-- The mark that ends a start tag. -/
def tagMark : TagEnd → List Char
  | .opening => ['>']
  | .closed => ['/', '>']

theorem stops_tagMark (tagEnd : TagEnd) (hopening : p '>' = false) (hclosed : p '/' = false)
    (rest : List Char) : Stops p (tagMark tagEnd ++ rest) := by
  cases tagEnd with
  | opening => exact stops_cons hopening rest
  | closed => exact stops_cons hclosed _

theorem Attribute.exists_cons_body (a : Attribute) :
    ∃ c more, a.body = c :: more ∧ isNameStart c = true := by
  obtain ⟨c, more, hcons, hc⟩ := a.name_wf.exists_cons
  exact ⟨c, _, by rw [Attribute.body, hcons]; rfl, hc⟩

theorem Attribute.exists_cons_gap (a : Attribute) :
    ∃ c more, a.gap.chars = c :: more ∧ isSpace c = true := by
  obtain ⟨c, more, hcons⟩ := List.exists_cons_of_ne_nil a.gap_ne
  exact ⟨c, more, hcons, List.all_eq_true.1 a.gap.isSpace c (by simp [hcons])⟩

theorem skipSpace_attribute (a : Attribute) (rest : List Char) :
    skipSpace (a.chars ++ rest) = a.body ++ rest := by
  obtain ⟨c, more, hbody, hc⟩ := a.exists_cons_body
  rw [Attribute.chars, List.append_assoc]
  refine skipSpace_append a.gap ?_
  rw [hbody]
  exact stops_cons (isSpace_of_isNameStart hc) _

theorem tagRest?_append (attributes : List Attribute) (gap : Space) (tagEnd : TagEnd)
    {budget : List Char} (h : attributes.length < budget.length) :
    tagRest? budget (attributes.flatMap Attribute.chars ++ gap.chars ++ tagMark tagEnd ++ rest) =
      some (attributes.map Attribute.pair, tagEnd, rest) := by
  induction attributes generalizing budget with
  | nil =>
    obtain ⟨b, budget, rfl⟩ := List.exists_cons_of_length_pos h
    have hskip : skipSpace (gap.chars ++ (tagMark tagEnd ++ rest)) = tagMark tagEnd ++ rest :=
      skipSpace_append gap (stops_tagMark tagEnd (by decide) (by decide) rest)
    rw [List.flatMap_nil, List.nil_append, List.append_assoc, tagRest?, hskip]
    cases tagEnd <;> rfl
  | cons a attributes ih =>
    obtain ⟨b, budget, rfl⟩ := List.exists_cons_of_length_pos (Nat.zero_lt_of_lt h)
    have hattributes := ih (Nat.lt_of_succ_lt_succ h)
    generalize hmore : attributes.flatMap Attribute.chars ++ gap.chars ++ tagMark tagEnd ++ rest =
      more at hattributes
    have hsplit : (a :: attributes).flatMap Attribute.chars ++ gap.chars ++ tagMark tagEnd ++
        rest = a.chars ++ more := by
      rw [← hmore]
      simp
    have hgap : (a.chars ++ more).head?.any isSpace = true := by
      obtain ⟨c, cs, hcons, hc⟩ := a.exists_cons_gap
      simp [Attribute.chars, hcons, hc]
    obtain ⟨c, cs, hbody, hc⟩ := a.exists_cons_body
    rw [hsplit, tagRest?, skipSpace_attribute]
    split
    next heq =>
      rw [hbody] at heq
      exact absurd (List.cons.inj heq).1 (ne_of_isNameStart hc (by decide))
    next heq =>
      rw [hbody] at heq
      exact absurd (List.cons.inj heq).1 (ne_of_isNameStart hc (by decide))
    next =>
      rw [if_pos hgap, writtenAttribute?_append]
      simp only [attributeValue?_itemChars, hattributes, bind, Option.bind, pure]
      rfl

/-! ### Comments, instructions and sections -/

theorem comment?_append (c : Comment) (rest : List Char) :
    comment? (c.text ++ '-' :: '-' :: '>' :: rest) =
      some (.comment (String.ofList c.text), rest) := by
  have hmark : ¬ ['-', '-'] ++ ['>'] <:+: c.text := fun h =>
    c.undashed ((List.prefix_append _ _).isInfix.trans h)
  have hbreak : breakAt? ['-', '-', '>'] (c.text ++ '-' :: '-' :: '>' :: rest) =
      some (c.text, rest) := by
    simpa using breakAt?_append ['-', '-'] (by decide) hmark rest
  have hending : (c.text.getLast? != some '-') = true := bne_iff_ne.2 c.ending
  rw [comment?, hbreak]
  simp only [c.isXmlChar, occursIn_eq_false c.undashed, hending, bind, Option.bind]
  rfl

theorem cdata?_append (s : Section) (rest : List Char) :
    cdata? (s.text ++ ']' :: ']' :: '>' :: rest) =
      some (.cdata (String.ofList s.characterData), rest) := by
  have hbreak : breakAt? [']', ']', '>'] (s.text ++ ']' :: ']' :: '>' :: rest) =
      some (s.text, rest) := by
    simpa using breakAt?_append [']', ']'] (by decide) s.unclosed rest
  rw [cdata?, hbreak]
  simp only [s.isXmlChar, bind, Option.bind]
  rfl

/-- What a processing instruction is written as behind its target. -/
def Instruction.behindTarget (i : Instruction) (rest : List Char) : List Char :=
  i.gap.chars ++ (i.text ++ '?' :: '>' :: rest)

theorem Instruction.stops_behindTarget (i : Instruction) (rest : List Char) :
    Stops isNameChar (i.behindTarget rest) := by
  cases htext : i.text with
  | nil =>
    rw [behindTarget, htext]
    exact stops_space _ (stops_cons (by decide) _)
  | cons c text =>
    obtain ⟨s, space, hgap⟩ := List.exists_cons_of_ne_nil (i.gap_ne (by simp [htext]))
    have hs : isSpace s = true := List.all_eq_true.1 i.gap.isSpace s (by simp [hgap])
    rw [behindTarget, hgap]
    exact stops_cons (isNameChar_of_isSpace hs) _

/-- A processing instruction is not taken for an XML declaration. -/
theorem Instruction.afterLiteral?_eq_none (i : Instruction) (rest : List Char) :
    afterLiteral? ['x', 'm', 'l', ' '] (i.target ++ i.behindTarget rest) = none := by
  refine Option.eq_none_iff_forall_ne_some.2 fun more hmore => ?_
  rw [afterLiteral?_eq_some_iff] at hmore
  have hxml : ['x', 'm', 'l'].all isNameChar = true := rfl
  have htarget : i.target = ['x', 'm', 'l'] := by
    rw [← takeWhile_append_of_stops i.target_nameChar (i.stops_behindTarget rest), hmore]
    exact takeWhile_append_of_stops hxml (stops_cons (by decide) more)
  have hbehind : i.behindTarget rest = ' ' :: more := by
    rw [htarget] at hmore
    simpa using hmore
  have hundeclared := i.undeclared htarget
  unfold behindTarget at hbehind
  cases hgap : i.gap.chars with
  | nil =>
    have htext : i.text = [] := Decidable.byContradiction fun hne => i.gap_ne hne hgap
    simp [hgap, htext] at hbehind
  | cons s space =>
    rw [hgap] at hbehind hundeclared
    exact hundeclared (congrArg some (List.cons.inj hbehind).1)

theorem instruction?_append (i : Instruction) (rest : List Char) :
    instruction? (i.target ++ i.behindTarget rest) =
      some (.instruction (String.ofList i.target) (String.ofList i.text), rest) := by
  have hstops := i.stops_behindTarget rest
  have hspace : Stops isSpace (i.text ++ '?' :: '>' :: rest) := by
    have hstart := i.text_start
    cases htext : i.text with
    | nil => exact stops_cons (by decide) _
    | cons c text =>
      rw [htext] at hstart
      exact stops_cons (by simpa using hstart) _
  have hskip : skipSpace (i.behindTarget rest) = i.text ++ '?' :: '>' :: rest :=
    skipSpace_append i.gap hspace
  have hbreak : breakAt? ['?', '>'] (i.text ++ '?' :: '>' :: rest) = some (i.text, rest) := by
    simpa using breakAt?_append ['?'] (by decide) i.unclosed rest
  rw [instruction?, i.afterLiteral?_eq_none, takeWhile_append_of_stops i.target_nameChar hstops,
    dropWhile_append_of_stops i.target_nameChar hstops, hskip, hbreak]
  simp only [guard, i.target_start, Option.isNone_none, if_true, bind, Option.bind, pure,
    i.isXmlChar]

/-! ### Trees -/

def Section.node (s : Section) : Node WrittenName :=
  .cdata (String.ofList s.characterData)

def Aside.node : Aside → Node WrittenName
  | .comment c => .comment (String.ofList c.text)
  | .instruction i => .instruction (String.ofList i.target) (String.ofList i.text)

/-- Text is a node unless there is none. -/
def Run.nodes (run : Run) : List (Node WrittenName) :=
  if run.items = [] then [] else [.text (String.ofList run.characterData)]

mutual

/-- The element as a node, with the names as they are written. -/
def Element.node : Element → Node WrittenName
  | .empty tag => .element tag.name tag.pairs [] (String.ofList (Element.empty tag).chars)
  | .full tag content endGap =>
    .element tag.name tag.pairs content.nodes
      (String.ofList (Element.full tag content endGap).chars)

def Content.nodes : Content → List (Node WrittenName)
  | .last run => run.nodes
  | .next run markup rest => run.nodes ++ markup.node :: rest.nodes

def Markup.node : Markup → Node WrittenName
  | .element e => e.node
  | .cdata s => s.node
  | .aside a => a.node

end

/-- What an element is written as behind its first character. -/
def Element.body : Element → List Char
  | .empty tag => tag.chars ++ ['/', '>']
  | .full tag content endGap =>
    tag.chars ++ '>' :: content.chars ++ '<' :: '/' :: tag.name.chars ++ endGap.chars ++ ['>']

theorem Element.chars_eq (e : Element) : e.chars = '<' :: e.body := by
  cases e <;> simp [chars, body]

/-! ### Start tags -/

theorem length_le_length_flatMap_chars (attributes : List Attribute) :
    attributes.length ≤ (attributes.flatMap Attribute.chars).length := by
  induction attributes with
  | nil => exact Nat.le_refl 0
  | cons a attributes ih =>
    have ha : 0 < a.chars.length := by
      simp only [Attribute.chars, Attribute.body, List.length_append, List.length_cons]
      omega
    rw [List.flatMap_cons, List.length_append, List.length_cons]
    omega

/-- A tag is read up to its mark. -/
theorem startTag_append (tag : Tag) (tagEnd : TagEnd) (rest : List Char) :
    ∃ more, writtenName? (tag.chars ++ tagMark tagEnd ++ rest) = some (tag.name, more) ∧
      tagRest? (tag.chars ++ tagMark tagEnd ++ rest) more =
        some (tag.pairs, tagEnd, rest) := by
  refine ⟨tag.attributes.flatMap Attribute.chars ++ tag.gap.chars ++ tagMark tagEnd ++ rest, ?_, ?_⟩
  · have hstops : Stops isNameChar
        (tag.attributes.flatMap Attribute.chars ++ tag.gap.chars ++ tagMark tagEnd ++ rest) := by
      cases hattributes : tag.attributes with
      | nil =>
        rw [List.flatMap_nil, List.nil_append, List.append_assoc]
        exact stops_space _ (stops_tagMark tagEnd (by decide) (by decide) rest)
      | cons a attributes =>
        obtain ⟨c, more, hcons, hc⟩ := a.exists_cons_gap
        rw [List.flatMap_cons, Attribute.chars, hcons]
        exact stops_cons (isNameChar_of_isSpace hc) _
    simpa [Tag.chars] using writtenName?_append tag.name_wf hstops
  · refine tagRest?_append tag.attributes tag.gap tagEnd ?_
    have hlength := length_le_length_flatMap_chars tag.attributes
    cases tagEnd <;> simp only [Tag.chars, tagMark, List.length_append, List.length_cons] <;> omega

/-! ### Content -/

/-- Read one piece of content, which is not empty and not at its end tag. -/
def piece? (budget : List Char) : List Char → Option (Node WrittenName × List Char)
  | '<' :: '!' :: '-' :: '-' :: rest => comment? rest
  | '<' :: '!' :: rest =>
    match afterLiteral? ['[', 'C', 'D', 'A', 'T', 'A', '['] rest with
    | some rest => cdata? rest
    | none => none
  | '<' :: '?' :: rest => instruction? rest
  | '<' :: rest => element? budget rest
  | input => text? input

theorem content?_cons {b : Char} {budget input : List Char} (hne : input ≠ [])
    (hend : ∀ more, input ≠ '<' :: '/' :: more) :
    content? (b :: budget) input = do
      let (node, rest) ← piece? budget input
      let (nodes, rest) ← content? budget rest
      return (node :: nodes, rest) := by
  conv =>
    lhs
    unfold content?
  split
  next => contradiction
  next more => exact absurd rfl (hend more)
  next =>
    split
    next => rfl
    next =>
      rw [piece?]
      · generalize afterLiteral? _ _ = behind
        cases behind <;> rfl
      · assumption
    next => rfl
    next => rw [piece?] <;> assumption
    next => rw [piece?] <;> assumption

/-! Each piece is read as what it is. -/

theorem piece?_text (run : Run) (hne : run.items ≠ []) (h : Stops (· != '<') rest)
    (budget : List Char) :
    piece? budget (run.chars ++ rest) =
      some (.text (String.ofList run.characterData), rest) := by
  obtain ⟨x, xs, hchars⟩ : ∃ x xs, run.chars = x :: xs := by
    refine List.exists_cons_of_length_pos (Nat.lt_of_lt_of_le ?_ length_le_length_itemChars)
    exact List.length_pos_iff.2 hne
  have hx : x ≠ '<' := by
    refine (itemChars_xmlChars run.items x ?_).2
    rw [← Run.chars, hchars]
    exact List.mem_cons_self
  have htext := text?_append run h
  rw [hchars] at htext ⊢
  rw [List.cons_append] at htext ⊢
  rw [piece?, htext] <;> intro more heq <;> exact hx (List.cons.inj heq).1

theorem piece?_cdata (s : Section) (budget rest : List Char) :
    piece? budget (s.chars ++ rest) = some (s.node, rest) := by
  have hchars : s.chars ++ rest = '<' :: '!' ::
      (['[', 'C', 'D', 'A', 'T', 'A', '['] ++ (s.text ++ ']' :: ']' :: '>' :: rest)) := by
    simp [Section.chars]
  rw [hchars, piece?]
  · simp only [afterLiteral?_append, cdata?_append]
    rfl
  · simp

theorem Comment.append_eq (c : Comment) (rest : List Char) :
    c.chars ++ rest = '<' :: '!' :: '-' :: '-' :: (c.text ++ '-' :: '-' :: '>' :: rest) := by
  simp [chars]

theorem Instruction.append_eq (i : Instruction) (rest : List Char) :
    i.chars ++ rest = '<' :: '?' :: (i.target ++ i.behindTarget rest) := by
  simp [chars, behindTarget]

theorem piece?_aside (a : Aside) (budget rest : List Char) :
    piece? budget (a.chars ++ rest) = some (a.node, rest) := by
  cases a with
  | comment c =>
    rw [Aside.chars, c.append_eq, piece?, comment?_append]
    rfl
  | instruction i =>
    rw [Aside.chars, i.append_eq, piece?, instruction?_append]
    rfl

theorem Tag.exists_cons (tag : Tag) :
    ∃ c more, tag.chars = c :: more ∧ isNameStart c = true := by
  obtain ⟨c, more, hcons, hc⟩ := tag.name_wf.exists_cons
  exact ⟨c, _, by rw [Tag.chars, hcons]; rfl, hc⟩

theorem Element.exists_cons_body (e : Element) :
    ∃ c more, e.body = c :: more ∧ isNameStart c = true := by
  cases e with
  | empty tag =>
    obtain ⟨c, more, hcons, hc⟩ := tag.exists_cons
    exact ⟨c, _, by rw [body, hcons]; rfl, hc⟩
  | full tag content endGap =>
    obtain ⟨c, more, hcons, hc⟩ := tag.exists_cons
    exact ⟨c, _, by rw [body, hcons]; rfl, hc⟩

theorem piece?_element (e : Element) (budget rest : List Char) :
    piece? budget (e.chars ++ rest) = element? budget (e.body ++ rest) := by
  obtain ⟨c, more, hbody, hc⟩ := e.exists_cons_body
  rw [e.chars_eq, hbody, List.cons_append, List.cons_append, piece?]
  · intro rest' heq
    exact ne_of_isNameStart hc (by decide) (List.cons.inj heq).1
  · intro rest' heq
    exact ne_of_isNameStart hc (by decide) (List.cons.inj heq).1
  · intro rest' heq
    exact ne_of_isNameStart hc (by decide) (List.cons.inj heq).1

theorem Markup.exists_cons_chars (m : Markup) :
    ∃ c more, m.chars = '<' :: c :: more ∧ c ≠ '/' := by
  cases m with
  | element e =>
    obtain ⟨c, more, hbody, hc⟩ := e.exists_cons_body
    exact ⟨c, more, by rw [chars, e.chars_eq, hbody], ne_of_isNameStart hc (by decide)⟩
  | cdata s => exact ⟨'!', _, rfl, by decide⟩
  | aside a =>
    cases a with
    | comment => exact ⟨'!', _, rfl, by decide⟩
    | instruction => exact ⟨'?', _, rfl, by decide⟩

/-! Content is read piece by piece. -/

variable {n : Nat} {nodes : List (Node WrittenName)} {more : List Char}

/-- Every budget of more than `n` characters is enough to read the nodes of some content. -/
def Reads (n : Nat) (input : List Char) (nodes : List (Node WrittenName)) (more : List Char) :
    Prop :=
  ∀ budget : List Char, n < budget.length → content? budget input = some (nodes, more)

theorem reads_endTag (more : List Char) :
    Reads 0 ('<' :: '/' :: more) [] ('<' :: '/' :: more) := by
  intro budget h
  obtain ⟨b, budget, rfl⟩ := List.exists_cons_of_length_pos h
  rw [content?]

theorem Reads.cons {m : Nat} {input : List Char} {node : Node WrittenName} (hm : 0 < m)
    (hne : input ≠ []) (hend : ∀ more, input ≠ '<' :: '/' :: more)
    (hpiece : ∀ budget : List Char, m ≤ budget.length → piece? budget input = some (node, rest))
    (h : Reads n rest nodes more) : Reads (m + n) input (node :: nodes) more := by
  intro budget hbudget
  obtain ⟨b, budget, rfl⟩ := List.exists_cons_of_length_pos (Nat.zero_lt_of_lt hbudget)
  rw [List.length_cons] at hbudget
  rw [content?_cons hne hend, hpiece budget (by omega)]
  simp only [h budget (by omega), bind, Option.bind, pure]

theorem Reads.text (run : Run) (hstops : Stops (· != '<') rest) (h : Reads n rest nodes more) :
    Reads (run.chars.length + n) (run.chars ++ rest) (run.nodes ++ nodes) more := by
  by_cases hitems : run.items = []
  · have hchars : run.chars = [] := by rw [Run.chars, hitems]; rfl
    simpa [Run.nodes, hitems, hchars] using h
  · have hpos : 0 < run.chars.length :=
      Nat.lt_of_lt_of_le (List.length_pos_iff.2 hitems) length_le_length_itemChars
    have hnodes : run.nodes = [.text (String.ofList run.characterData)] := by
      simp [Run.nodes, hitems]
    rw [hnodes, List.singleton_append]
    refine h.cons hpos ?_ ?_ fun budget _ => piece?_text run hitems hstops budget
    · exact List.append_ne_nil_of_left_ne_nil (List.length_pos_iff.1 hpos) rest
    · intro after heq
      obtain ⟨c, cs, hcons⟩ := List.exists_cons_of_length_pos hpos
      rw [hcons] at heq
      refine (itemChars_xmlChars run.items c ?_).2 (List.cons.inj heq).1
      rw [← Run.chars, hcons]
      exact List.mem_cons_self

theorem Reads.cons_markup (m : Markup) (h : Reads n rest nodes more)
    (hpiece : ∀ budget : List Char, m.chars.length ≤ budget.length →
      piece? budget (m.chars ++ rest) = some (m.node, rest)) :
    Reads (m.chars.length + n) (m.chars ++ rest) (m.node :: nodes) more := by
  obtain ⟨c, cs, hchars, hc⟩ := m.exists_cons_chars
  refine h.cons (by simp [hchars]) (by simp [hchars]) (fun after heq => ?_) hpiece
  rw [hchars] at heq
  exact hc (List.cons.inj (List.cons.inj heq).2).1

/-! Elements and their content are read as the tree they are written for, by induction on it. -/

mutual

theorem element?_append (e : Element) {budget : List Char} (h : e.chars.length ≤ budget.length)
    (rest : List Char) : element? budget (e.body ++ rest) = some (e.node, rest) := by
  have hsource : (e.body ++ rest).take ((e.body ++ rest).length - rest.length) = e.body := by
    simp
  obtain ⟨b, budget, rfl⟩ : ∃ b bs, budget = b :: bs := by
    refine List.exists_cons_of_length_pos (Nat.lt_of_lt_of_le ?_ h)
    simp [e.chars_eq]
  cases e with
  | empty tag =>
    obtain ⟨behind, hname, htag⟩ := startTag_append tag .closed rest
    rw [element?]
    have hbody : (Element.empty tag).body ++ rest = tag.chars ++ tagMark .closed ++ rest := rfl
    rw [hbody] at hsource ⊢
    simp only [hname, htag, bind, Option.bind, pure, hsource]
    rfl
  | full tag content endGap =>
    obtain ⟨behindContent, hbehind⟩ :
        ∃ cs, cs = '<' :: '/' :: (tag.name.chars ++ (endGap.chars ++ '>' :: rest)) := ⟨_, rfl⟩
    have hbody : (Element.full tag content endGap).body ++ rest =
        tag.chars ++ tagMark .opening ++ (content.chars ++ behindContent) := by
      simp [Element.body, tagMark, hbehind]
    obtain ⟨behind, hname, htag⟩ := startTag_append tag .opening (content.chars ++ behindContent)
    have hcontent : content? budget (content.chars ++ behindContent) =
        some (content.nodes ++ [], behindContent) := by
      have hend : Reads 0 behindContent [] behindContent := hbehind ▸ reads_endTag _
      refine hend.content content (hbehind ▸ stops_cons (by decide) _) budget ?_
      simp only [Element.chars, List.length_append, List.length_cons] at h
      omega
    have hafter : afterLiteral? ['<', '/'] behindContent =
        some (tag.name.chars ++ (endGap.chars ++ '>' :: rest)) :=
      afterLiteral?_eq_some_iff.2 hbehind
    have hclosing : writtenName? (tag.name.chars ++ (endGap.chars ++ '>' :: rest)) =
        some (tag.name, endGap.chars ++ '>' :: rest) :=
      writtenName?_append tag.name_wf (stops_space _ (stops_cons (by decide) rest))
    have hgap : skipSpace (endGap.chars ++ '>' :: rest) = '>' :: rest :=
      skipSpace_append endGap (stops_cons (by decide) rest)
    rw [element?]
    rw [hbody] at hsource ⊢
    simp only [hname, htag, hcontent, hafter, hclosing, hgap, hsource, afterLiteral?, if_true,
      guard, bind, Option.bind, pure, List.append_nil]
    rfl

theorem Reads.content (content : Content) {n : Nat} {nodes : List (Node WrittenName)}
    {rest more : List Char} (hstops : Stops (· != '<') rest) (h : Reads n rest nodes more) :
    Reads (content.chars.length + n) (content.chars ++ rest) (content.nodes ++ nodes) more := by
  cases content with
  | last run => exact h.text run hstops
  | next run markup content =>
    obtain ⟨c, cs, hmarkup, -⟩ := markup.exists_cons_chars
    have hread := ((h.content content hstops).markup markup).text run (by simp [Stops, hmarkup])
    simpa [Content.chars, Content.nodes, Nat.add_assoc] using hread

theorem Reads.markup (m : Markup) {n : Nat} {nodes : List (Node WrittenName)}
    {rest more : List Char} (h : Reads n rest nodes more) :
    Reads (m.chars.length + n) (m.chars ++ rest) (m.node :: nodes) more := by
  refine h.cons_markup m fun budget hbudget => ?_
  cases m with
  | element e =>
    rw [Markup.chars, piece?_element]
    exact element?_append e hbudget rest
  | cdata s => exact piece?_cdata s budget rest
  | aside a => exact piece?_aside a budget rest

end

end Written

end DsigRegistry.Xml
