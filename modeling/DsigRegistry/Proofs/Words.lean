import DsigRegistry.Text.Blank

/-!
# Words

The words of a text, and blanks around them: a text can be cut in this way, and in one way only.
Main fact: `words_eq_iff`.
-/

namespace DsigRegistry.Text

/-- The characters are those of the words in order, with blanks in front of the first word, between
words and behind the last one. There may be no blanks at either end, but there are some between
words. -/
inductive Spaced : List Char → List (List Char) → Prop
  | gap {gap : List Char} (hgap : ∀ c ∈ gap, isBlank c = true) : Spaced gap []
  | word {gap word rest : List Char} {words : List (List Char)}
      (hgap : ∀ c ∈ gap, isBlank c = true) (hword : ∀ c ∈ word, isBlank c = false)
      (hne : word ≠ []) (hrest : ∀ c ∈ rest.head?, isBlank c = true) (h : Spaced rest words) :
      Spaced (gap ++ word ++ rest) (word :: words)

/-- The pieces between blanks that are not empty. -/
def wordChars (cs : List Char) : List (List Char) :=
  (splitWhere isBlank cs).filter fun w => !w.isEmpty

variable {cs gap word : List Char} {ws : List (List Char)} {c : Char}

theorem words_eq_map (s : String) : words s = (wordChars s.toList).map String.ofList := rfl

theorem wordChars_cons_blank (h : isBlank c = true) : wordChars (c :: cs) = wordChars cs := by
  simp [wordChars, splitWhere, h]

theorem wordChars_append_of_blank (h : ∀ c ∈ gap, isBlank c = true) :
    wordChars (gap ++ cs) = wordChars cs := by
  induction gap with
  | nil => rfl
  | cons c gap ih =>
    obtain ⟨hc, hgap⟩ := List.forall_mem_cons.1 h
    rw [List.cons_append, wordChars_cons_blank hc, ih hgap]

/-- A word ends at the first blank behind it. -/
theorem wordChars_append_of_word (hword : ∀ c ∈ word, isBlank c = false) (hne : word ≠ [])
    (hrest : ∀ c ∈ cs.head?, isBlank c = true) : wordChars (word ++ cs) = word :: wordChars cs := by
  cases cs with
  | nil => simp [wordChars, splitWhere_of_all hword, hne]
  | cons c cs =>
    have hc : isBlank c = true := hrest c rfl
    rw [wordChars_cons_blank hc]
    simp [wordChars, splitWhere_append hc, splitWhere_of_all hword, hne]

theorem Spaced.wordChars_eq (h : Spaced cs ws) : wordChars cs = ws := by
  induction h with
  | @gap gap hgap =>
    have hnil : wordChars (gap ++ []) = wordChars [] := wordChars_append_of_blank hgap
    rwa [List.append_nil] at hnil
  | word hgap hword hne hrest _ ih =>
    rw [List.append_assoc, wordChars_append_of_blank hgap, wordChars_append_of_word hword hne hrest,
      ih]

theorem Spaced.cons_blank (h : Spaced cs ws) (hc : isBlank c = true) : Spaced (c :: cs) ws := by
  cases h with
  | gap hgap => exact .gap (List.forall_mem_cons.2 ⟨hc, hgap⟩)
  | word hgap hword hne hrest hws =>
    exact .word (List.forall_mem_cons.2 ⟨hc, hgap⟩) hword hne hrest hws

/-- A character in front either starts a word of its own or belongs to the first word. -/
theorem Spaced.exists_cons (h : Spaced cs ws) (hc : isBlank c = false) :
    ∃ ws', Spaced (c :: cs) ws' := by
  have hsingle : ∀ b ∈ [c], isBlank b = false := by simp [hc]
  by_cases hhead : ∀ b ∈ cs.head?, isBlank b = true
  · exact ⟨[c] :: ws, .word (List.forall_mem_nil _) hsingle (by simp) hhead h⟩
  · cases h with
    | gap hgap => exact absurd (fun b hb => hgap b (List.mem_of_mem_head? hb)) hhead
    | @word gap word rest ws hgap hword hne hrest hws =>
      -- The text begins with no blank, so nothing is in front of the first word.
      cases gap with
      | nil =>
        have hlonger : ∀ b ∈ c :: word, isBlank b = false := List.forall_mem_cons.2 ⟨hc, hword⟩
        exact ⟨(c :: word) :: ws, .word (List.forall_mem_nil _) hlonger (by simp) hrest hws⟩
      | cons b gap =>
        refine absurd (fun d hd => ?_) hhead
        obtain rfl : b = d := by simpa using hd
        exact hgap b List.mem_cons_self

theorem exists_spaced (cs : List Char) : ∃ ws, Spaced cs ws := by
  induction cs with
  | nil => exact ⟨[], .gap (by simp)⟩
  | cons c cs ih =>
    obtain ⟨ws, hws⟩ := ih
    cases hc : isBlank c with
    | true => exact ⟨ws, hws.cons_blank hc⟩
    | false => exact hws.exists_cons hc

/-- The words of a text are those that it is made of. -/
theorem words_eq_iff {s : String} {ws : List String} :
    words s = ws ↔ Spaced s.toList (ws.map String.toList) := by
  rw [words_eq_map]
  constructor
  · rintro rfl
    obtain ⟨ws, hws⟩ := exists_spaced s.toList
    simpa [hws.wordChars_eq, List.map_map, Function.comp_def] using hws
  · intro h
    simp [h.wordChars_eq, List.map_map, Function.comp_def]

end DsigRegistry.Text
