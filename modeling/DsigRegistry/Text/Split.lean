/-!
# Splitting lists at separators

`splitWhere p` cuts a list at the elements that satisfy `p` and keeps empty pieces, so that
putting the separators back gives the list again. Text is split at blanks with it, file paths at
slashes and host names at dots.
-/

namespace DsigRegistry

variable {α : Type}

/-- The pieces between the elements that satisfy `p`; there is always at least one. -/
def splitWhere (p : α → Bool) : List α → List (List α)
  | [] => [[]]
  | a :: as =>
    if p a then [] :: splitWhere p as
    else match splitWhere p as with
      | [] => [[a]]
      | piece :: pieces => (a :: piece) :: pieces

@[simp] theorem splitWhere_nil (p : α → Bool) : splitWhere p [] = [[]] := rfl

theorem splitWhere_ne_nil (p : α → Bool) (as : List α) : splitWhere p as ≠ [] := by
  cases as with
  | nil => simp
  | cons a as =>
    unfold splitWhere
    split
    · simp
    · split <;> simp

/-- A list without separators is its own only piece. -/
theorem splitWhere_of_all {p : α → Bool} {as : List α} (h : ∀ a ∈ as, p a = false) :
    splitWhere p as = [as] := by
  induction as with
  | nil => rfl
  | cons a as ih =>
    have ha : p a = false := h a (by simp)
    have hs := ih fun b hb => h b (by simp [hb])
    simp [splitWhere, ha, hs]

/-- The pieces on either side of a separator do not mix. -/
theorem splitWhere_append {p : α → Bool} {a : α} (h : p a = true) (as bs : List α) :
    splitWhere p (as ++ a :: bs) = splitWhere p as ++ splitWhere p bs := by
  induction as with
  | nil => simp [splitWhere, h]
  | cons b as ih =>
    cases hb : p b with
    | true => simp [splitWhere, hb, ih]
    | false =>
      cases hpieces : splitWhere p as with
      | nil => exact absurd hpieces (splitWhere_ne_nil p as)
      | cons piece pieces => simp [splitWhere, hb, ih, hpieces]

/-- A piece and more pieces that stand behind a separator each. -/
theorem splitWhere_append_flatMap {p : α → Bool} {a : α} (h : p a = true) {piece : List α}
    {pieces : List (List α)} (hpiece : ∀ b ∈ piece, p b = false)
    (hpieces : ∀ piece ∈ pieces, ∀ b ∈ piece, p b = false) :
    splitWhere p (piece ++ pieces.flatMap (a :: ·)) = piece :: pieces := by
  induction pieces generalizing piece with
  | nil => rw [List.flatMap_nil, List.append_nil, splitWhere_of_all hpiece]
  | cons next pieces ih =>
    obtain ⟨hnext, hpieces⟩ := List.forall_mem_cons.1 hpieces
    rw [List.flatMap_cons, List.cons_append, splitWhere_append h, splitWhere_of_all hpiece,
      ih hnext hpieces]
    rfl

theorem splitWhere_flatMap {p : α → Bool} {a : α} (h : p a = true) {pieces : List (List α)}
    (hpieces : ∀ piece ∈ pieces, ∀ b ∈ piece, p b = false) :
    splitWhere p (pieces.flatMap (a :: ·)) = [] :: pieces := by
  have hfirst : ∀ b ∈ ([] : List α), p b = false := List.forall_mem_nil _
  exact splitWhere_append_flatMap h hfirst hpieces

end DsigRegistry
