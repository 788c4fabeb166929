import DsigRegistry.Unicode.CombiningClass
import DsigRegistry.Unicode.Composite

/-!
# Normal form

A text can spell the same characters in several ways, with composites or with their parts and
with marks in any order. Its normal form comes from taking composites apart, putting marks into
canonical order, and composing again as far as possible.
-/

namespace DsigRegistry.Unicode

/-- The composites of the text taken apart, once each. -/
def expand (cs : List Char) : List Char :=
  cs.flatMap fun c =>
    match parts? c with
    | some (a, b) => [a, b]
    | none => [c]

/-- The text without composites. A base can be a composite again, but three steps reach every
part. -/
def decompose (cs : List Char) : List Char :=
  expand (expand (expand cs))

/-- A character in front of an ordered text; a mark goes behind those of lower classes. -/
def insertOrdered (c : Char) : List Char → List Char
  | [] => [c]
  | d :: ds =>
    if !isStarter c && !isStarter d && combiningClass d < combiningClass c then
      d :: insertOrdered c ds
    else c :: d :: ds

/-- The text with each run of marks sorted by class; marks of one class keep their order. -/
def order : List Char → List Char
  | [] => []
  | c :: cs => insertOrdered c (order cs)

/-- The last character that was passed keeps `c` from the starter. -/
def isBlocked (passed : List Char) (c : Char) : Bool :=
  passed.getLast?.any fun d => combiningClass c ≤ combiningClass d

/-- The text composed behind a starter. The marks in `passed` stand between the starter and the
rest and did not compose. -/
def composeBehind (starter : Char) (passed : List Char) : List Char → List Char
  | [] => starter :: passed
  | c :: cs =>
    match if isBlocked passed c then none else composite? starter c with
    | some whole => composeBehind whole passed cs
    | none =>
      if isStarter c then starter :: passed ++ composeBehind c [] cs
      else composeBehind starter (passed ++ [c]) cs

/-- The text composed; marks in front of the first starter stay as they are. -/
def compose : List Char → List Char
  | [] => []
  | c :: cs => if isStarter c then composeBehind c [] cs else c :: compose cs

/-- The normal form of a text. -/
def normalize (cs : List Char) : List Char :=
  compose (order (decompose cs))

end DsigRegistry.Unicode
