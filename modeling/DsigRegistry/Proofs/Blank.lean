import DsigRegistry.Text.Blank
import Mathlib.Data.List.DropRight

/-!
# Blank and trimmed texts

Trimming leaves nothing of a blank text, and of any other one a text that neither begins nor ends
with a blank. Main fact: `nonBlank?_eq_some_iff`.
-/

namespace DsigRegistry.Text

/-- The text is not empty and has no blank at either end. -/
structure Trimmed (s : String) : Prop where
  ne_empty : s ≠ ""
  first : ∀ c ∈ s.toList.head?, isBlank c = false
  last : ∀ c ∈ s.toList.getLast?, isBlank c = false

variable {cs : List Char}

theorem trimChars_eq_rdropWhile (cs : List Char) :
    trimChars cs = (cs.dropWhile isBlank).rdropWhile isBlank := rfl

theorem isBlank_of_mem_head?_dropWhile {c : Char} (h : c ∈ (cs.dropWhile isBlank).head?) :
    isBlank c = false := by
  have hhead := List.head?_dropWhile_not isBlank cs
  rw [h] at hhead
  exact hhead

theorem trimChars_eq_nil_iff : trimChars cs = [] ↔ ∀ c ∈ cs, isBlank c = true := by
  rw [trimChars_eq_rdropWhile, List.rdropWhile_eq_nil_iff]
  constructor
  · intro h
    -- What is left begins with no blank, so if it is blank it is nothing.
    cases hrest : cs.dropWhile isBlank with
    | nil => exact List.dropWhile_eq_nil_iff.1 hrest
    | cons c rest =>
      have hblank : isBlank c = true := h c (by simp [hrest])
      have hfirst : c ∈ (cs.dropWhile isBlank).head? := by simp [hrest]
      simp [isBlank_of_mem_head?_dropWhile hfirst] at hblank
  · intro h c hc
    exact h c ((List.dropWhile_suffix isBlank).subset hc)

theorem isBlank_of_mem_getLast?_trimChars {c : Char} (h : c ∈ (trimChars cs).getLast?) :
    isBlank c = false := by
  rw [trimChars, List.getLast?_reverse] at h
  exact isBlank_of_mem_head?_dropWhile h

theorem isBlank_of_mem_head?_trimChars {c : Char} (h : c ∈ (trimChars cs).head?) :
    isBlank c = false := by
  rw [trimChars_eq_rdropWhile] at h
  obtain ⟨dropped, hdropped⟩ := List.rdropWhile_prefix isBlank (cs.dropWhile isBlank)
  have hfirst : c ∈ (cs.dropWhile isBlank).head? := by
    rw [← hdropped, List.head?_append, h]
    rfl
  exact isBlank_of_mem_head?_dropWhile hfirst

theorem trimChars_trimChars (cs : List Char) : trimChars (trimChars cs) = trimChars cs := by
  have hfirst : (trimChars cs).dropWhile isBlank = trimChars cs := by
    cases htrimmed : trimChars cs with
    | nil => rfl
    | cons c rest =>
      have hc : isBlank c = false := isBlank_of_mem_head?_trimChars (by rw [htrimmed]; rfl)
      simp [hc]
  rw [trimChars_eq_rdropWhile (trimChars cs), hfirst, trimChars_eq_rdropWhile]
  exact List.rdropWhile_idempotent isBlank _

/-! ### Texts -/

theorem trim_eq_empty_iff (s : String) : trim s = "" ↔ isBlankText s = true := by
  rw [trim, String.ofList_eq_empty_iff, trimChars_eq_nil_iff, isBlankText, List.all_eq_true]

/-- Nothing is left to trim of a trimmed text. -/
theorem trim_trim (s : String) : trim (trim s) = trim s := by
  simp only [trim, String.toList_ofList, trimChars_trimChars]

theorem trimmed_trim {s : String} (h : isBlankText s = false) : Trimmed (trim s) where
  ne_empty hempty := by simp [(trim_eq_empty_iff s).1 hempty] at h
  first c hc := isBlank_of_mem_head?_trimChars (by simpa [trim] using hc)
  last c hc := isBlank_of_mem_getLast?_trimChars (by simpa [trim] using hc)

/-- A value that is there and not blank is trimmed, and any other one does not count. -/
theorem nonBlank?_eq_some_iff {value : Option String} {v : String} :
    nonBlank? value = some v ↔
      ∃ written, value = some written ∧ isBlankText written = false ∧ v = trim written := by
  cases value with
  | none => simp [nonBlank?]
  | some written =>
    cases hblank : isBlankText written with
    | true => simp [nonBlank?, (trim_eq_empty_iff written).2 hblank, hblank]
    | false =>
      have hne : trim written ≠ "" := (trimmed_trim hblank).ne_empty
      simp only [nonBlank?, Option.map_some, Option.filter_some, bne_iff_ne, ne_eq, hne,
        not_false_eq_true, if_true, Option.some.injEq, exists_eq_left', hblank, true_and]
      exact eq_comm

theorem nonBlank?_eq_none_iff {value : Option String} :
    nonBlank? value = none ↔ ∀ written, value = some written → isBlankText written = true := by
  cases value with
  | none => simp [nonBlank?]
  | some written => simp [nonBlank?, trim_eq_empty_iff]

end DsigRegistry.Text
