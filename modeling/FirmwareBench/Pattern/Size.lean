import FirmwareBench.Pattern.Basic
set_option autoImplicit false

/-!
# The size of patterns

A pattern is refused if the automaton that matches it backwards, byte by byte, would be too large. The
size counts 32 bytes for each state, 8 for each choice in a state and 4 for each way out of a state
that only branches. The characters of a set are written in UTF-8, and the states of a set form a tree:
sequences of byte ranges that begin alike share the states for their common beginning.

## Main definitions

* `CharSet.ranges`: the characters of a set as ranges.
* `byteBlocks`: a range of characters as sequences of ranges of digits.
* `CharSet.size`, `Pattern.size`: the sizes.
-/

namespace FirmwareBench

/-! ## Sets as ranges -/

namespace CharSet

/-- Places where membership in a set may change. -/
def places : CharSet → List Nat
  | nothing => []
  | range first last => [first.toNat, last.toNat + 1]
  | property places _ => places
  | union a b | inter a b | minus a b | exclusive a b => a.places ++ b.places
  | complement a => a.places
  | variants a => a.places ++ Unicode.FoldRun.all.flatMap (·.places)
  | asciiVariants a => a.places ++ [65, 91, 97, 123]

/-- Whether the character of a number belongs to a set. The numbers between the two halves of the
code space belong to no character and go with the first one of the second half. -/
def containsNumber (s : CharSet) (n : Nat) : Bool :=
  s.contains (Char.ofNat (if 0xD800 ≤ n && n < 0xE000 then 0xE000 else n))

def lastNumber : Nat := 0x10FFFF

/-- Ranges out of places in order, each with what holds from there on; `open?` is the start of the
range that is not closed yet. -/
def rangesFrom : Option Nat → List (Nat × Bool) → List (Nat × Nat)
  | none, [] => []
  | some first, [] => [(first, lastNumber)]
  | none, (place, inside) :: rest => rangesFrom (if inside then some place else none) rest
  | some first, (place, inside) :: rest =>
    if inside then rangesFrom (some first) rest
    else (first, place - 1) :: rangesFrom none rest

/-- The characters of a set as ranges in increasing order. -/
def ranges (s : CharSet) : List (Nat × Nat) :=
  let places := ((0 :: s.places).filter (· ≤ lastNumber)).mergeSort
  rangesFrom none (places.map fun place => (place, s.containsNumber place))

end CharSet

/-! ## Ranges as bytes -/

/-- The numbers from `low` to `high`, written as a leading digit and `count` digits to base 64, as
sequences with a range for each digit. -/
def byteBlocks : Nat → Nat → Nat → List (List (Nat × Nat))
  | 0, low, high => [[(low, high)]]
  | count + 1, low, high =>
    let unit := Nat.pow 64 (count + 1)
    let first := low / unit
    let last := high / unit
    if first == last then
      (byteBlocks count (low % unit) (high % unit)).map ((first, first) :: ·)
    else
      let wholeFirst := low % unit == 0
      let wholeLast := high % unit == unit - 1
      let start := if wholeFirst then first else first + 1
      let stop := if wholeLast then last + 1 else last
      let front := if wholeFirst then []
        else (byteBlocks count (low % unit) (unit - 1)).map ((first, first) :: ·)
      let middle := if start < stop then [(start, stop - 1) :: List.replicate (count + 1) (0, 63)]
        else []
      let back := if wholeLast then []
        else (byteBlocks count 0 (high % unit)).map ((last, last) :: ·)
      front ++ middle ++ back

/-- The parts of the code space whose characters take equally many bytes, with the number of bytes
after the first one. -/
def byteParts : List (Nat × Nat × Nat) :=
  [(0, 0x7F, 0), (0x80, 0x7FF, 1), (0x800, 0xD7FF, 2), (0xE000, 0xFFFF, 2),
    (0x10000, CharSet.lastNumber, 3)]

/-- The sequences of the characters that ranges and a part of the code space have in common. -/
def blocksIn (ranges : List (Nat × Nat)) : Nat × Nat × Nat → List (List (Nat × Nat))
  | (low, high, count) =>
    ranges.flatMap fun (first, last) =>
      if max first low ≤ min last high then byteBlocks count (max first low) (min last high) else []

/-- How many ranges of the second sequence come after the common beginning of the two. -/
def freshLength : List (Nat × Nat) → List (Nat × Nat) → Nat
  | p :: before, q :: block => if p == q then freshLength before block else block.length + 1
  | _, block => block.length

/-- The number of states for sequences in order, given the sequence before them. -/
def stateCount (before : List (Nat × Nat)) : List (List (Nat × Nat)) → Nat
  | [] => 0
  | block :: rest => freshLength before block + stateCount block rest

def rangesSize (ranges : List (Nat × Nat)) : Nat :=
  if ranges.all (·.2 < 128) then 64 + 8 * ranges.length
  else
    byteParts.foldl (fun size part =>
      let blocks := blocksIn ranges part
      size + 32 * stateCount [] blocks + 4 * blocks.length) 64

/-- The size of the automaton for one character of a set; a single character takes a state for each
of its bytes. -/
def CharSet.size (s : CharSet) : Nat :=
  match s.ranges with
  | [(first, last)] =>
    if first == last then 32 * (Char.ofNat first).utf8Size else rangesSize [(first, last)]
  | ranges => rangesSize ranges

/-! ## Patterns -/

/-- The size of the automaton of a pattern. A repetition has a copy of its body for each round that it
counts. -/
def Pattern.size : Pattern → Nat
  | empty | look _ => 32
  | set s => s.size
  | group _ body => 64 + body.size
  | seq first second => first.size + second.size
  | alt first second => 72 + first.size + second.size
  | rounds low none _ body => max 1 low * body.size + 40
  | rounds low (some high) _ body =>
    if low == high then low * body.size else low * body.size + (high - low) * (body.size + 40) + 32

end FirmwareBench
