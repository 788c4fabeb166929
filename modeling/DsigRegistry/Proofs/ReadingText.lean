import DsigRegistry.Proofs.WrittenDocument
import Mathlib.Data.Option.Basic

/-!
# Reading text

What the readers of literals, references and quoted values make of what is written: they stop
behind it and give back what it stands for, whatever comes next.
-/

namespace DsigRegistry.Xml

variable {p : Char → Bool} {cs rest : List Char}

/-! ### Literals and marks -/

/-- The text does not go on with characters that satisfy `p`. -/
def Stops (p : Char → Bool) (rest : List Char) : Prop :=
  ∀ c ∈ rest.head?, p c = false

theorem stops_cons {c : Char} (h : p c = false) (rest : List Char) : Stops p (c :: rest) :=
  fun _ hd => Option.some.inj hd ▸ h

theorem takeWhile_append_of_stops (h : cs.all p = true) (hrest : Stops p rest) :
    (cs ++ rest).takeWhile p = cs := by
  rw [List.takeWhile_append_of_pos (List.all_eq_true.1 h)]
  cases rest with
  | nil => simp
  | cons c rest => simp [hrest c rfl]

theorem dropWhile_append_of_stops (h : cs.all p = true) (hrest : Stops p rest) :
    (cs ++ rest).dropWhile p = rest := by
  rw [List.dropWhile_append_of_pos (List.all_eq_true.1 h)]
  cases rest with
  | nil => rfl
  | cons c rest => simp [hrest c rfl]

theorem afterLiteral?_eq_some_iff {literal input : List Char} :
    afterLiteral? literal input = some rest ↔ input = literal ++ rest := by
  fun_induction afterLiteral? literal input with
  | case1 input => simp
  | case2 l ls => simp
  | case3 l ls cs ih => simp [ih]
  | case4 l ls c cs hne => simp [Ne.symm hne]

theorem afterLiteral?_append (literal rest : List Char) :
    afterLiteral? literal (literal ++ rest) = some rest :=
  afterLiteral?_eq_some_iff.2 rfl

theorem afterLiteral?_eq_none {literal input : List Char} (h : ¬ literal <+: input) :
    afterLiteral? literal input = none :=
  Option.eq_none_iff_forall_ne_some.2 fun rest hrest =>
    h ⟨rest, (afterLiteral?_eq_some_iff.1 hrest).symm⟩

theorem eq_append_of_breakAt? {mark before : List Char}
    (h : breakAt? mark cs = some (before, rest)) : cs = before ++ mark ++ rest := by
  induction cs generalizing before with
  | nil => cases h
  | cons c cs ih =>
    rw [breakAt?] at h
    split at h
    next after hafter =>
      cases h
      exact afterLiteral?_eq_some_iff.1 hafter
    next =>
      obtain ⟨⟨before', rest'⟩, hbreak, heq⟩ := Option.map_eq_some_iff.1 h
      cases heq
      rw [ih hbreak]
      rfl

theorem occursIn_eq_false {literal : List Char} (h : ¬ literal <:+: cs) :
    occursIn literal cs = false := by
  rw [occursIn, Option.isSome_eq_false_iff, Option.isNone_iff_eq_none]
  refine Option.eq_none_iff_forall_ne_some.2 fun (before, rest) hbreak => h ?_
  exact ⟨before, rest, (eq_append_of_breakAt? hbreak).symm⟩

/-- A mark whose last character is no other of it does not begin within the text before it. -/
theorem not_begins_of_not_occurs {start : List Char} {last : Char} (hlast : last ∉ start)
    (hne : cs ≠ []) (h : ¬ start ++ [last] <:+: cs) :
    ¬ start ++ [last] <+: cs ++ (start ++ [last]) ++ rest := by
  intro hbegins
  have hlong : cs.length ≤ start.length := by
    apply Decidable.byContradiction
    intro hshort
    have hcs : cs <+: cs ++ (start ++ [last]) ++ rest := ⟨start ++ [last] ++ rest, by simp⟩
    refine h (List.prefix_of_prefix_length_le hbegins hcs ?_).isInfix
    rw [List.length_append, List.length_singleton]
    omega
  have hpos : 0 < cs.length := List.length_pos_iff.2 hne
  -- where the mark ends that begins within the text, the one behind the text goes on
  have hfirst : (cs ++ (start ++ [last]) ++ rest)[start.length]? = some last := by
    obtain ⟨after, hafter⟩ := hbegins
    rw [← hafter]
    simp
  rw [List.append_assoc, List.getElem?_append_right hlong, List.append_assoc,
    List.getElem?_append_left (by omega)] at hfirst
  exact hlast (List.mem_of_getElem? hfirst)

theorem breakAt?_append (start : List Char) {last : Char} (hlast : last ∉ start)
    (h : ¬ start ++ [last] <:+: cs) (rest : List Char) :
    breakAt? (start ++ [last]) (cs ++ (start ++ [last]) ++ rest) = some (cs, rest) := by
  induction cs with
  | nil =>
    obtain ⟨c, more, hmore⟩ : ∃ c more, [] ++ (start ++ [last]) ++ rest = c :: more :=
      List.exists_cons_of_ne_nil (by simp)
    rw [hmore, breakAt?, ← hmore, List.nil_append, afterLiteral?_append]
  | cons c cs ih =>
    have hrest : ¬ start ++ [last] <:+: cs := fun hcs => h (List.infix_cons hcs)
    have hnone : afterLiteral? (start ++ [last]) (c :: cs ++ (start ++ [last]) ++ rest) = none :=
      afterLiteral?_eq_none (not_begins_of_not_occurs hlast (List.cons_ne_nil c cs) h)
    simp only [List.cons_append] at hnone ⊢
    rw [breakAt?, hnone, ih hrest]
    rfl

namespace Written

theorem skipSpace_append (space : Space) (h : Stops isSpace rest) :
    skipSpace (space.chars ++ rest) = rest :=
  dropWhile_append_of_stops space.isSpace h

/-! ### References -/

variable {body digits : List Char} {c d : Char} {base : Nat}

theorem toNat_of_digitValue? (h : (digitValue? base d).isSome = true) :
    (48 ≤ d.toNat ∧ d.toNat ≤ 57) ∨ (97 ≤ d.toNat ∧ d.toNat ≤ 102) ∨
      (65 ≤ d.toNat ∧ d.toNat ≤ 70) := by
  apply Decidable.byContradiction
  intro hnone
  rw [not_or, not_or] at hnone
  obtain ⟨hdecimal, hlower, hupper⟩ := hnone
  simp [digitValue?, hdecimal, hlower, hupper] at h

/-- A digit may stand in a reference and does not end it. -/
theorem digit_chars (h : (digitValue? base d).isSome = true) :
    isXmlChar d = true ∧ d ≠ '<' ∧ d ≠ ';' := by
  have hrange := toNat_of_digitValue? h
  have hlow : ¬ d.toNat < 0x20 := by omega
  have hfffe : d.toNat ≠ 0xFFFE := by omega
  have hffff : d.toNat ≠ 0xFFFF := by omega
  refine ⟨by simp [isXmlChar, hlow, hfffe, hffff], ?_, ?_⟩
  · rintro rfl
    revert hrange
    decide
  · rintro rfl
    revert hrange
    decide

theorem RefersTo.body_chars (h : RefersTo body c) :
    ∀ x ∈ body, isXmlChar x = true ∧ x ≠ '<' ∧ x ≠ ';' := by
  cases h with
  | entity h =>
    have hentities : (entities.all fun e =>
        e.1.all fun x => isXmlChar x && (x != '<' && x != ';')) = true := rfl
    intro x hx
    simpa using List.all_eq_true.1 (List.all_eq_true.1 hentities _ h) x hx
  | decimal hne hdigits hnumber hc =>
    intro x hx
    obtain rfl | hx := List.mem_cons.1 hx
    · decide
    · exact digit_chars (List.all_eq_true.1 hdigits x hx)
  | hexadecimal hne hdigits hnumber hc =>
    intro x hx
    obtain rfl | rfl | hx : x = '#' ∨ x = 'x' ∨ x ∈ _ := by simpa using hx
    · decide
    · decide
    · exact digit_chars (List.all_eq_true.1 hdigits x hx)

theorem numericReference?_eq (hne : digits ≠ []) (hnumber : numberOf base digits = c.toNat)
    (hc : isXmlChar c = true) : numericReference? base digits = some c := by
  have hvalid : c.toNat < 0xD800 ∨ 0xDFFF < c.toNat ∧ c.toNat < 0x110000 := c.valid
  have hscalar : scalarOrReplacement c.toNat = c := by
    rw [scalarOrReplacement, if_pos hvalid, Char.ofNat_toNat]
  have hsmall : ¬ Nat.pow 2 32 ≤ c.toNat := by
    have hpow : Nat.pow 2 32 = 4294967296 := rfl
    omega
  simp [numericReference?, hnumber, hscalar, hsmall, hc, hne]

/-- A reference is read up to its semicolon as the character it refers to. -/
theorem reference?_append (h : RefersTo body c) :
    reference? (body ++ ';' :: rest) = some (c, rest) := by
  have hbody : body.all (· != ';') = true := List.all_eq_true.2 fun x hx =>
    bne_iff_ne.2 (h.body_chars x hx).2.2
  have hstops : Stops (· != ';') (';' :: rest) := stops_cons (by decide) rest
  simp only [reference?, takeWhile_append_of_stops hbody hstops,
    dropWhile_append_of_stops hbody hstops]
  cases h with
  | entity h =>
    have hentities : ∀ e ∈ entities, e.1.head? ≠ some '#' ∧ entities.lookup e.1 = some e.2 := by
      decide
    obtain ⟨hhash, hlookup⟩ := hentities _ h
    split
    next => exact absurd rfl hhash
    next => exact absurd rfl hhash
    next => rw [hlookup]; rfl
  | decimal hne hdigits hnumber hc =>
    split
    next digits' heq =>
      cases heq
      exact absurd (List.all_eq_true.1 hdigits 'x' List.mem_cons_self) (by decide)
    next digits' _ heq =>
      cases heq
      rw [if_pos hdigits, numericReference?_eq hne hnumber hc]
      rfl
    next hnone => exact absurd rfl (hnone _)
  | hexadecimal hne hdigits hnumber hc =>
    simp only [if_pos hdigits, numericReference?_eq hne hnumber hc]
    rfl

/-! ### Text and attribute values -/

variable {items : List Item}

theorem Item.xmlChars (item : Item) : ∀ x ∈ item.chars, isXmlChar x = true ∧ x ≠ '<' := by
  cases item with
  | plain c h =>
    intro x hx
    cases List.mem_singleton.1 hx
    exact ⟨h.1, h.2.1⟩
  | reference body c h =>
    intro x hx
    obtain rfl | hx | rfl : x = '&' ∨ x ∈ body ∨ x = ';' := by simpa [chars] using hx
    · decide
    · exact ⟨(h.body_chars x hx).1, (h.body_chars x hx).2.1⟩
    · decide

theorem itemChars_xmlChars (items : List Item) :
    ∀ x ∈ itemChars items, isXmlChar x = true ∧ x ≠ '<' := by
  intro x hx
  obtain ⟨item, -, hitem⟩ := List.mem_flatMap.1 hx
  exact item.xmlChars x hitem

theorem length_le_length_itemChars : items.length ≤ (itemChars items).length := by
  induction items with
  | nil => exact Nat.le_refl 0
  | cons item items ih =>
    have hitem : 0 < item.chars.length := by cases item <;> simp [Item.chars]
    rw [itemChars, List.flatMap_cons, List.length_append, List.length_cons, ← itemChars]
    omega

/-- References are resolved and everything else is normalized, within a budget of a character
for each item. -/
theorem expandReferences_itemChars (normalize : Char → Option Char → List Char)
    {budget : List Char} (h : items.length ≤ budget.length) :
    expandReferences normalize budget (itemChars items) = some (itemValue normalize items) := by
  induction items generalizing budget with
  | nil => cases budget <;> rfl
  | cons item items ih =>
    cases budget with
    | nil => contradiction
    | cons b budget =>
      have hitems := ih (Nat.le_of_succ_le_succ h)
      rw [itemChars, List.flatMap_cons, ← itemChars]
      cases item with
      | plain c hc =>
        rw [Item.chars, List.singleton_append, expandReferences, if_neg hc.2.2, hitems]
        rfl
      | reference body c hc =>
        have hsplit : (Item.reference body c hc).chars ++ itemChars items =
            '&' :: (body ++ ';' :: itemChars items) := by simp [Item.chars]
        rw [hsplit, expandReferences, if_pos rfl, reference?_append hc]
        simp only [hitems]
        rfl

theorem textValue?_itemChars :
    textValue? (itemChars items) = some (String.ofList (itemValue normalizeText items)) := by
  rw [textValue?, expandReferences_itemChars _ length_le_length_itemChars]
  rfl

theorem attributeValue?_itemChars :
    attributeValue? (itemChars items) =
      some (String.ofList (itemValue normalizeAttribute items)) := by
  rw [attributeValue?, expandReferences_itemChars _ length_le_length_itemChars]
  rfl

theorem text?_append (run : Run) (h : Stops (· != '<') rest) :
    text? (run.chars ++ rest) = some (.text (String.ofList run.characterData), rest) := by
  have hchars : run.chars.all (· != '<') = true := List.all_eq_true.2 fun x hx =>
    bne_iff_ne.2 (itemChars_xmlChars run.items x hx).2
  have hxml : run.chars.all isXmlChar = true :=
    List.all_eq_true.2 fun x hx => (itemChars_xmlChars run.items x hx).1
  have hclosed : occursIn [']', ']', '>'] run.chars = false := occursIn_eq_false run.unclosed
  rw [text?, takeWhile_append_of_stops hchars h, dropWhile_append_of_stops hchars h]
  have hvalue : textValue? run.chars = some (String.ofList run.characterData) :=
    textValue?_itemChars
  simp only [hxml, hclosed, hvalue]
  rfl

theorem quotedValue?_append (a : Attribute) :
    quotedValue? (a.quote :: itemChars a.items ++ [a.quote] ++ rest) =
      some (itemChars a.items, rest) := by
  have hbreak : breakAt? [a.quote] (itemChars a.items ++ [a.quote] ++ rest) =
      some (itemChars a.items, rest) := by
    refine breakAt?_append [] (by simp) (fun hoccurs => a.unquoted ?_) rest
    exact hoccurs.subset List.mem_cons_self
  have hxml : ((itemChars a.items).all fun c => isXmlChar c && c != '<') = true :=
    List.all_eq_true.2 fun x hx => by simpa using itemChars_xmlChars a.items x hx
  simp only [List.cons_append] at hbreak ⊢
  have hquote : (a.quote = '"' || a.quote = '\'') = true := by simpa using a.quote_eq
  rw [quotedValue?, if_pos hquote, hbreak]
  simp only [hxml, if_true]

end Written

end DsigRegistry.Xml
