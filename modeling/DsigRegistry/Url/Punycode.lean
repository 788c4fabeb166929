/-!
# Punycode

Text written with ASCII letters, digits and hyphens. The ASCII characters come first. Behind the
last hyphen follow numbers, one for each other character in ascending order: how far to move on
from the previous insertion, where a round through all positions of the text is one step to the
next code point. A number has its least significant digit first, and ends with the first digit
below the threshold of its place; the thresholds adapt to the numbers written so far.
-/

namespace DsigRegistry.Url.Punycode

/-! ### Digits and thresholds -/

/-- The digit with a value below 36. -/
def digit (value : Nat) : Char :=
  Char.ofNat (if value < 26 then 97 + value else 22 + value)

/-- The value of a digit; capitals count as well. -/
def digitValue? (c : Char) : Option Nat :=
  if c.isLower then some (c.toNat - 97)
  else if c.isUpper then some (c.toNat - 65)
  else if c.isDigit then some (c.toNat - 22)
  else none

/-- Reading a digit gives its value back. -/
theorem digitValue?_digit {value : Nat} (h : value < 36) :
    digitValue? (digit value) = some value := by
  have all : ∀ v ∈ List.range 36, digitValue? (digit v) = some v := by decide
  exact all value (List.mem_range.mpr h)

/-- The threshold of a place, which grows by 36 from digit to digit. -/
def threshold (bias place : Nat) : Nat :=
  if place ≤ bias then 1 else if bias + 26 ≤ place then 26 else place - bias

theorem threshold_pos (bias place : Nat) : 0 < threshold bias place := by
  unfold threshold
  split
  · omega
  · split <;> omega

/-- The number scaled down until it fits two digits, and the places that this takes. -/
def scaleDown (n place : Nat) : Nat × Nat :=
  if 455 < n then scaleDown (n / 35) (place + 36) else (n, place)
termination_by n
decreasing_by omega

/-- The bias behind a number, for a text of the given length; the first number is scaled down by
far more than the later ones. -/
def adapt (n length : Nat) (first : Bool) : Nat :=
  let damped := if first then n / 700 else n / 2
  let (scaled, places) := scaleDown (damped + damped / length) 0
  places + 36 * scaled / (scaled + 38)

/-! ### Reading -/

/-- The state in the middle of a text: what has been inserted, where the last insertion was, and
the number that is being read. -/
structure Reader where
  text : List Char
  codePoint : Nat := 128
  /-- The position behind the last insertion. -/
  position : Nat := 0
  bias : Nat := 72
  /-- The digits that have been read of a number, what the next one counts for, and its place. -/
  number : Nat := 0
  weight : Nat := 1
  place : Nat := 36

/-- The state behind a number that is complete: its character is inserted. -/
def Reader.insert? (r : Reader) : Option Reader :=
  let length := r.text.length + 1
  let moved := r.position + r.number
  let codePoint := r.codePoint + moved / length
  if codePoint.isValidChar then
    some
      { text := r.text.insertIdx (moved % length) (Char.ofNat codePoint)
        codePoint
        position := moved % length + 1
        bias := adapt r.number length (r.position == 0) }
  else none

/-- The state behind one more digit. -/
def Reader.read? (r : Reader) (c : Char) : Option Reader := do
  let value ← digitValue? c
  let number := r.number + value * r.weight
  let t := threshold r.bias r.place
  if value < t then Reader.insert? { r with number }
  else some { r with number, weight := r.weight * (36 - t), place := r.place + 36 }

/-- The ASCII characters and the digits of a text, which the last hyphen separates; a hyphen at
the start separates nothing. -/
def split (cs : List Char) : List Char × List Char :=
  let digits := (cs.reverse.takeWhile (· ≠ '-')).reverse
  let ascii := cs.take (cs.length - digits.length - 1)
  if ascii.isEmpty then ([], cs) else (ascii, digits)

/-- The text that is written so. -/
def decode? (cs : List Char) : Option (List Char) := do
  let (ascii, digits) := split cs
  guard (ascii.all fun c => c.toNat < 128)
  let r ← digits.foldlM Reader.read? { text := ascii }
  guard (r.place = 36)
  return r.text

/-! ### Writing -/

/-- The digits of a number from a place on. -/
def numberDigits (bias place n : Nat) : List Char :=
  let t := threshold bias place
  if n < t then [digit n]
  else digit (t + (n - t) % (36 - t)) :: numberDigits bias (place + 36) ((n - t) / (36 - t))
termination_by n
decreasing_by
  have ht : 0 < threshold bias place := threshold_pos bias place
  exact Nat.lt_of_le_of_lt (Nat.div_le_self _ _) (by omega)

/-- The state in the middle of a text: what is written, the number that is being counted, and how
many characters have been written. -/
structure Writer where
  written : List Char
  number : Nat := 0
  bias : Nat := 72
  count : Nat

/-- The state behind one character in a round for a code point. The ASCII characters, of which
there are `ascii`, do not adapt the bias. -/
def Writer.visit (ascii codePoint : Nat) (w : Writer) (c : Char) : Writer :=
  if c.toNat < codePoint then { w with number := w.number + 1 }
  else if c.toNat = codePoint then
    { written := w.written ++ numberDigits w.bias 36 w.number
      number := 0
      bias := adapt w.number (w.count + 1) (w.count == ascii)
      count := w.count + 1 }
  else w

/-- The state behind the rounds for the code points from `next` on, given in ascending order. -/
def writeRounds (cs : List Char) (ascii : Nat) : Nat → Writer → List Nat → Writer
  | _, w, [] => w
  | next, w, codePoint :: codePoints =>
    let start := { w with number := w.number + (codePoint - next) * (w.count + 1) }
    let round := cs.foldl (Writer.visit ascii codePoint) start
    writeRounds cs ascii (codePoint + 1) { round with number := round.number + 1 } codePoints

/-- The way to write a text. -/
def encode (cs : List Char) : List Char :=
  let ascii := cs.filter fun c => c.toNat < 128
  let codePoints := ((cs.map Char.toNat).filter (128 ≤ ·)).eraseDups.mergeSort
  let start : Writer :=
    { written := if ascii.isEmpty then [] else ascii ++ ['-'], count := ascii.length }
  (writeRounds cs ascii.length 128 start codePoints).written

end DsigRegistry.Url.Punycode
