import FirmwareBench.Unicode.Fold
import FirmwareBench.Unicode.Property
set_option autoImplicit false

/-!
# Sets of characters

The sets that the classes of a pattern denote, built from ranges and properties by the set
operations and by closing under case variants.

## Main definitions

* `CharSet`: a set as an expression.
* `CharSet.contains`: membership.
-/

namespace FirmwareBench

/-- A set of characters. -/
inductive CharSet where
  | nothing
  | range (first last : Char)
  /-- The characters with a property, which changes at some of the `places` only. -/
  | property (places : List Nat) (holds : Char → Bool)
  | union (a b : CharSet)
  | inter (a b : CharSet)
  | minus (a b : CharSet)
  /-- The characters of exactly one of them. -/
  | exclusive (a b : CharSet)
  | complement (a : CharSet)
  /-- The characters with a case variant in the set. -/
  | variants (a : CharSet)
  /-- The characters in the set, and the ASCII letters whose other case is in the set. -/
  | asciiVariants (a : CharSet)

namespace CharSet

def single (c : Char) : CharSet := range c c

def anything : CharSet := complement nothing

/-- The other case of an ASCII letter; other characters stay. -/
def otherAsciiCase (c : Char) : Char := if c.isUpper then c.toLower else c.toUpper

def contains : CharSet → Char → Bool
  | nothing, _ => false
  | range first last, c => first ≤ c && c ≤ last
  | property _ holds, c => holds c
  | union a b, c => a.contains c || b.contains c
  | inter a b, c => a.contains c && b.contains c
  | minus a b, c => a.contains c && !b.contains c
  | exclusive a b, c => a.contains c != b.contains c
  | complement a, c => !a.contains c
  | variants a, c => (Unicode.caseVariants c).any a.contains
  | asciiVariants a, c => a.contains c || a.contains (otherAsciiCase c)

def unionAll : List CharSet → CharSet
  | [] => nothing
  | [a] => a
  | a :: rest => union a (unionAll rest)

@[simp] theorem contains_single (c d : Char) : (single c).contains d = (c == d) := by
  by_cases h : c = d
  · simp [single, contains, h]
  · have hne : ¬ (c ≤ d ∧ d ≤ c) := fun hle => h (Char.le_antisymm hle.1 hle.2)
    have hfalse : (c == d) = false := by simpa using h
    simp only [single, contains, hfalse]
    simpa using hne

@[simp] theorem contains_anything (c : Char) : anything.contains c = true := rfl

end CharSet

end FirmwareBench
