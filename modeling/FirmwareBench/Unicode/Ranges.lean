import FirmwareBench.Text.Cut
set_option autoImplicit false

/-!
# Tables of character ranges

Tables are written as texts: ranges in hexadecimal, in increasing order, with a blank between them.
They are decoded once and searched by halving.

## Main definitions

* `Ranges`: a decoded table.
* `Ranges.ofTexts`: reads the written form.
* `Ranges.contains`: whether a character is in one of the ranges.
-/

namespace FirmwareBench.Unicode

/-- The value of a hexadecimal digit; other characters count as zero. -/
def hexDigitValue (c : Char) : Nat :=
  if c.isDigit then c.toNat - 48
  else if 'a' ≤ c ∧ c ≤ 'f' then c.toNat - 87
  else if 'A' ≤ c ∧ c ≤ 'F' then c.toNat - 55
  else 0

def hexValue (digits : List Char) : Nat :=
  digits.foldl (fun value digit => 16 * value + hexDigitValue digit) 0

/-- The last index from `low` on, and below `high`, whose entry does not start after `n`. -/
def lastStartBetween {β : Type} (table : Array (Nat × β)) (n low high : Nat) : Nat :=
  if high ≤ low + 1 then low
  else
    let middle := (low + high) / 2
    if (table[middle]?).all (fun entry => entry.1 ≤ n) then lastStartBetween table n middle high
    else lastStartBetween table n low middle
termination_by high - low

/-- The index of the last entry of an increasing table that does not start after `n`. -/
def lastStart {β : Type} (table : Array (Nat × β)) (n : Nat) : Nat :=
  lastStartBetween table n 0 table.size

/-- Ranges of characters in increasing order, each with its first and its last character. -/
structure Ranges where
  bounds : Array (Nat × Nat)

namespace Ranges

/-- Reads a range: two numerals with a dash between them, or one numeral. -/
def readRange (text : List Char) : Nat × Nat :=
  match Text.cutAt? '-' text with
  | some (first, last) => (hexValue first, hexValue last)
  | none => (hexValue text, hexValue text)

/-- Reads a table from its lines. -/
def ofTexts (lines : List String) : Ranges :=
  ⟨(lines.flatMap fun line => (Text.splitAt ' ' line.toList).map readRange).toArray⟩

def contains (ranges : Ranges) (c : Char) : Bool :=
  match ranges.bounds[lastStart ranges.bounds c.toNat]? with
  | some (first, last) => first ≤ c.toNat && c.toNat ≤ last
  | none => false

/-- The places where ranges begin, and those after their ends. -/
def places (ranges : Ranges) : List Nat :=
  ranges.bounds.toList.flatMap fun (first, last) => [first, last + 1]

end Ranges

end FirmwareBench.Unicode
