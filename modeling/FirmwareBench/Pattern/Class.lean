import FirmwareBench.Pattern.Escape
set_option autoImplicit false

/-!
# Bracketed classes

Reads a class in brackets: characters, ranges, escapes, named ASCII classes and classes inside the
class, joined by union and by the operations `&&`, `--` and `~~`, which bind alike and to the left.

## Main definitions

* `ClassSoFar`: what was read of a class.
* `readClass`: reads a class after its opening bracket.
-/

namespace FirmwareBench.Pattern

/-- A set and how deep its description is nested. -/
structure NestedSet where
  set : CharSet
  depth : Nat

namespace NestedSet

def ofItems : List NestedSet → NestedSet
  | [] => ⟨.nothing, 0⟩
  | [item] => item
  | items => ⟨.unionAll (items.map (·.set)), 1 + (items.map (·.depth)).foldl max 0⟩

end NestedSet

/-- An operation between two parts of a class. -/
inductive ClassOp where
  | inter
  | minus
  | exclusive

/-- What was read of a class: the operation that waits for its right side, with its left side, and
the items of the part being read, last one first. -/
structure ClassSoFar where
  /-- The left side and the operation. -/
  waiting? : Option (NestedSet × ClassOp) := none
  /-- The items, last one first. -/
  items : List NestedSet := []

namespace ClassSoFar

def push (soFar : ClassSoFar) (item : NestedSet) : ClassSoFar :=
  { soFar with items := item :: soFar.items }

/-- All that was read, as one set. -/
def close (flags : Flags) (soFar : ClassSoFar) : NestedSet :=
  let right := NestedSet.ofItems soFar.items.reverse
  match soFar.waiting? with
  | none => right
  | some (left, op) =>
    let a := foldCase flags left.set
    let b := foldCase flags right.set
    let chars := match op with
      | .inter => CharSet.inter a b
      | .minus => CharSet.minus a b
      | .exclusive => CharSet.exclusive a b
    ⟨chars, 1 + max left.depth right.depth⟩

/-- With an operation after all that was read. -/
def operate (flags : Flags) (soFar : ClassSoFar) (op : ClassOp) : ClassSoFar :=
  ⟨some (soFar.close flags, op), []⟩

end ClassSoFar

/-! ## Named ASCII classes -/

def asciiClass? (name : String) : Option CharSet :=
  let digit := CharSet.range '0' '9'
  let upper := CharSet.range 'A' 'Z'
  let lower := CharSet.range 'a' 'z'
  match name with
  | "alnum" => some (.unionAll [digit, upper, lower])
  | "alpha" => some (.unionAll [upper, lower])
  | "ascii" => some (.range (Char.ofNat 0) (Char.ofNat 127))
  | "blank" => some (.unionAll [.single '\t', .single ' '])
  | "cntrl" => some (.unionAll [.range (Char.ofNat 0) (Char.ofNat 31), .single (Char.ofNat 127)])
  | "digit" => some digit
  | "graph" => some (.range '!' '~')
  | "lower" => some lower
  | "print" => some (.range ' ' '~')
  | "punct" => some (.unionAll [.range '!' '/', .range ':' '@', .range '[' (Char.ofNat 96),
      .range '\x7b' '~'])
  | "space" => some (.unionAll [.range '\t' '\r', .single ' '])
  | "upper" => some upper
  | "word" => some (.unionAll [digit, upper, .single '_', lower])
  | "xdigit" => some (.unionAll [digit, .range 'A' 'F', .range 'a' 'f'])
  | _ => none

/-- Reads a named ASCII class after its opening bracket; anything else is no such class. -/
def readAsciiClass? (text : List Char) : Option (Bool × CharSet × List Char) :=
  match text with
  | ':' :: rest =>
    let (negated, rest) := match rest with
      | '^' :: later => (true, later)
      | _ => (false, rest)
    match Text.cutAt? ':' rest with
    | some (name, ']' :: after) =>
      (asciiClass? (String.ofList name)).map fun chars => (negated, chars, after)
    | _ => none
  | _ => none

/-! ## Items -/

/-- The range of one character, as far as the flags admit it in a class. -/
def classChar (flags : Flags) (c : Char) : Except Fault Char :=
  if !flags.unicode && c.toNat > 127 then .error .outsideText else .ok c

/-- The set of an item that is no range. -/
def classItem (flags : Flags) : Atom → Except Fault NestedSet
  | .char c _ => (classChar flags c).map fun c => ⟨.single c, 0⟩
  | .set chars => .ok ⟨chars, 0⟩
  | .look _ => .error .malformed

/-- Reads an item, or the end of a range. -/
def readClassAtom (flags : Flags) (text : List Char) : Except Fault (Atom × List Char) :=
  match text with
  | [] => .error .malformed
  | '\\' :: rest => readEscape flags rest
  | c :: rest => .ok (.char c false, rest)

/-- The character after the first one, apart from what does not count. -/
def secondChar? (flags : Flags) (text : List Char) : Option Char :=
  if flags.verbose then
    match (text.drop 1).dropWhile Text.isBlank with
    | '#' :: rest => (rest.dropWhile Text.isBlank).head?
    | rest => rest.head?
  else (text.drop 1).head?

def readClassRange (flags : Flags) (text : List Char) : Except Fault (NestedSet × List Char) := do
  let (first, rest) ← readClassAtom flags text
  let rest := flags.skip rest
  match rest with
  | [] => .error .malformed
  | c :: later =>
    if c ≠ '-' || secondChar? flags rest == some ']' || secondChar? flags rest == some '-' then
      return (← classItem flags first, rest)
    else
      match flags.skip later with
      | [] => .error .malformed
      | d :: more =>
        let (last, after) ← readClassAtom flags (d :: more)
        match first, last with
        | .char a _, .char b _ =>
          let a ← classChar flags a
          let b ← classChar flags b
          if a ≤ b then return (⟨.range a b, 0⟩, after) else .error .malformed
        | _, _ => .error .malformed

/-! ## Whole classes -/

/-- The dashes at the front of a class, which stand for themselves; `fuel` bounds their number. -/
def readDashes (flags : Flags) : Nat → List NestedSet → List Char → List NestedSet × List Char
  | 0, items, text => (items, text)
  | fuel + 1, items, text =>
    match text with
    | '-' :: rest => readDashes flags fuel (⟨.single '-', 0⟩ :: items) (flags.skip rest)
    | _ => (items, text)

/-- What stands at the front of a class: a mark for the complement, dashes, and a closing bracket
that stands for itself because a class cannot be empty. -/
def readClassFront (flags : Flags) (text : List Char) : Bool × List NestedSet × List Char :=
  let text := flags.skip text
  let (negated, text) := match text with
    | '^' :: rest => (true, flags.skip rest)
    | _ => (false, text)
  let (items, text) := readDashes flags text.length [] text
  match items, text with
  | [], ']' :: rest => (negated, [⟨.single ']', 0⟩], flags.skip rest)
  | _, _ => (negated, items, text)

/-- The complement of a class, as far as the flags admit it. -/
def finishClass (flags : Flags) (negated : Bool) (inner : NestedSet) : Except Fault NestedSet :=
  if negated && !flags.unicode then .error .outsideText
  else .ok ⟨negateIf negated (foldCase flags inner.set), 1 + inner.depth⟩

mutual

/-- Reads a class after its opening bracket. The first argument bounds the number of steps. -/
def readClass (flags : Flags) : Nat → List Char → Except Fault (NestedSet × List Char)
  | 0, _ => .error .malformed
  | fuel + 1, text => do
    let (negated, items, rest) := readClassFront flags text
    let (inner, rest) ← readClassItems flags fuel { items := items } rest
    return (← finishClass flags negated inner, rest)

def readClassItems (flags : Flags) :
    Nat → ClassSoFar → List Char → Except Fault (NestedSet × List Char)
  | 0, _, _ => .error .malformed
  | fuel + 1, soFar, text =>
    match flags.skip text with
    | [] => .error .malformed
    | '[' :: rest =>
      match readAsciiClass? rest with
      | some (negated, chars, after) =>
        if negated && !flags.unicode then .error .outsideText
        else
          readClassItems flags fuel (soFar.push ⟨negateIf negated (foldCase flags chars), 0⟩) after
      | none => do
        let (inner, after) ← readClass flags fuel rest
        readClassItems flags fuel (soFar.push inner) after
    | ']' :: rest => .ok (soFar.close flags, rest)
    | '&' :: '&' :: rest => readClassItems flags fuel (soFar.operate flags .inter) rest
    | '-' :: '-' :: rest => readClassItems flags fuel (soFar.operate flags .minus) rest
    | '~' :: '~' :: rest => readClassItems flags fuel (soFar.operate flags .exclusive) rest
    | c :: rest => do
      let (item, after) ← readClassRange flags (c :: rest)
      readClassItems flags fuel (soFar.push item) after

end

end FirmwareBench.Pattern
