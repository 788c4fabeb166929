import DsigRegistry.Text.Split

/-!
# White space

The characters with the Unicode property `White_Space`, and what follows from them: trimming,
blank text, and the words of a text.
-/

namespace DsigRegistry.Text

/-- The character has the Unicode property `White_Space`. -/
def isBlank (c : Char) : Bool :=
  let n := c.toNat
  (9 ≤ n && n ≤ 13) || n == 32 || n == 0x85 || n == 0xA0 || n == 0x1680
    || (0x2000 ≤ n && n ≤ 0x200A) || n == 0x2028 || n == 0x2029 || n == 0x202F || n == 0x205F
    || n == 0x3000

/-- The blanks of the core library are blanks here. -/
theorem isBlank_of_isWhitespace {c : Char} (h : c.isWhitespace = true) : isBlank c = true := by
  simp only [Char.isWhitespace, Bool.or_eq_true, decide_eq_true_eq] at h
  rcases h with ((h | h) | h) | h <;> subst h <;> decide

/-- Characters without the blanks at either end. -/
def trimChars (cs : List Char) : List Char :=
  ((cs.dropWhile isBlank).reverse.dropWhile isBlank).reverse

/-- The text without the blanks at either end. -/
def trim (s : String) : String :=
  String.ofList (trimChars s.toList)

/-- The text is empty or made of blanks only. -/
def isBlankText (s : String) : Bool :=
  s.toList.all isBlank

/-- The maximal blank-free pieces of the text, in order. -/
def words (s : String) : List String :=
  ((splitWhere isBlank s.toList).filter fun w => !w.isEmpty).map String.ofList

/-- The trimmed value, unless there is none or it is blank. -/
def nonBlank? (value : Option String) : Option String :=
  (value.map trim).filter fun v => v != ""

end DsigRegistry.Text
