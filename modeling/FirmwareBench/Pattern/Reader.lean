import FirmwareBench.Pattern.Class
import FirmwareBench.Pattern.Matching
import FirmwareBench.Pattern.Size
set_option autoImplicit false

/-!
# Reading patterns

A written pattern is read from left to right. Around what is being read lie the groups that are
still open; each remembers what stood before it and the flags to go back to.

## Main definitions

* `Named`: a pattern with the names of its groups.
* `readPattern`: reads a written pattern, or tells what is wrong with it.
-/

namespace FirmwareBench.Pattern

/-- A pattern with the names of its groups. -/
structure Named where
  pattern : Pattern
  names : List (String × Nat)

/-- A piece of a branch. -/
structure Part where
  pattern : Pattern
  depth : Nat
  /-- Whether a repetition may follow; flags cannot be repeated. -/
  repeatable : Bool := true

/-- The branches of an alternation while it is read. -/
structure Branches where
  /-- The finished branches with their depths, last one first. -/
  done : List (Pattern × Nat) := []
  /-- The pieces of the branch being read, last one first. -/
  parts : List Part := []

namespace Branches

def push (b : Branches) (part : Part) : Branches := { b with parts := part :: b.parts }

/-- The branch being read, as one pattern with its depth. -/
def current (b : Branches) : Pattern × Nat :=
  match b.parts with
  | [] => (.empty, 0)
  | [part] => (part.pattern, part.depth)
  | parts => (.seqAll (parts.reverse.map (·.pattern)), 1 + (parts.map (·.depth)).foldl max 0)

/-- With the branch being read finished. -/
def next (b : Branches) : Branches := ⟨b.current :: b.done, []⟩

/-- All branches, as one pattern with its depth. -/
def close (b : Branches) : Pattern × Nat :=
  match b.done with
  | [] => b.current
  | done =>
    let all := (b.current :: done).reverse
    (.altAll (all.map Prod.fst), 1 + (all.map Prod.snd).foldl max 0)

end Branches

/-- A group that is still open. -/
structure OpenGroup where
  outer : Branches
  /-- The number of the group, if its text is kept. -/
  number? : Option Nat
  /-- The flags behind the group. -/
  flags : Flags

/-- How far a pattern was read. -/
structure Progress where
  branches : Branches := {}
  /-- The groups around them, innermost first. -/
  groups : List OpenGroup := []
  flags : Flags := {}
  nextGroup : Nat := 1
  /-- The names of the groups, last one first. -/
  names : List (String × Nat) := []

namespace Progress

def push (p : Progress) (pattern : Pattern) (depth : Nat) : Progress :=
  { p with branches := p.branches.push { pattern, depth } }

/-! ## Repetitions -/

/-- Puts the last piece under a repetition. -/
def «repeat» (p : Progress) (low : Nat) (high? : Option Nat) (greedy : Bool) :
    Except Fault Progress :=
  match p.branches.parts with
  | [] => .error .malformed
  | part :: before =>
    if !part.repeatable then .error .malformed
    else
      let pattern := Pattern.repeated low high? (greedy != p.flags.swapGreed) part.pattern
      let parts := { pattern, depth := 1 + part.depth : Part } :: before
      .ok { p with branches := { p.branches with parts } }

/-- Whether a mark for the less preferred direction stands at the front, and what follows. -/
def readLazy (text : List Char) : Bool × List Char :=
  match text with
  | '?' :: rest => (false, rest)
  | _ => (true, text)

/-- The digits at the front of a text; `fuel` bounds their number. -/
def readDigits (flags : Flags) : Nat → List Char → List Char × List Char
  | 0, text => ([], text)
  | fuel + 1, text =>
    match text with
    | c :: rest =>
      if c.isDigit then
        let (digits, after) := readDigits flags fuel (flags.skip rest)
        (c :: digits, after)
      else ([], text)
    | [] => ([], [])

/-- Reads a count between blanks: none if there are no digits, an error from 2^32 on. -/
def readCount (flags : Flags) (text : List Char) : Except Fault (Option Nat × List Char) :=
  let text := text.dropWhile Text.isBlank
  let (digits, after) := readDigits flags text.length text
  let after := flags.skip (after.dropWhile Text.isBlank)
  if digits.isEmpty then .ok (none, after)
  else
    let n := digits.foldl (fun n d => 10 * n + (d.toNat - 48)) 0
    if n < 4294967296 then .ok (some n, after) else .error .malformed

/-- Reads a counted repetition after its opening brace. -/
def readCounted (p : Progress) (text : List Char) : Except Fault (Progress × List Char) := do
  let flags := p.flags
  let (low?, rest) ← readCount flags (flags.skip text)
  let some low := low? | .error .malformed
  let (high?, rest) ← match rest with
    | ',' :: more =>
      match flags.skip more with
      | '\x7d' :: after => pure (none, '\x7d' :: after)
      | more =>
        let (high?, after) ← readCount flags more
        match high? with
        | some high => pure (some high, after)
        | none => .error .malformed
    | _ => pure (some low, rest)
  match rest with
  | '\x7d' :: after =>
    let (greedy, after) := readLazy (flags.skip after)
    if high?.any (· < low) then .error .malformed
    else return (← p.repeat low high? greedy, after)
  | _ => .error .malformed

/-! ## Groups -/

def isGroupNameChar (first : Bool) (c : Char) : Bool :=
  if first then c == '_' || Unicode.isAlphabetic c
  else
    c == '_' || c == '.' || c == '[' || c == ']' || Unicode.isAlphabetic c || Unicode.isNumeric c

def openGroup (p : Progress) (number? : Option Nat) (flags : Flags) : Progress :=
  { p with
    branches := {}
    groups := ⟨p.branches, number?, p.flags⟩ :: p.groups
    flags := flags
    nextGroup := p.nextGroup + if number?.isSome then 1 else 0 }

/-- Opens a group whose text is kept. -/
def openKept (p : Progress) : Progress := p.openGroup (some p.nextGroup) p.flags

/-- Opens a named group; the name and its closing bracket come first in the text. -/
def readNamedGroup (p : Progress) (text : List Char) : Except Fault (Progress × List Char) :=
  match Text.cutAt? '>' text with
  | none => .error .malformed
  | some (name, rest) =>
    let proper := match name with
      | [] => false
      | c :: more => isGroupNameChar true c && more.all (isGroupNameChar false)
    let key := String.ofList name
    if !proper || p.names.any (·.1 == key) then .error .malformed
    else .ok ({ p with names := (key, p.nextGroup) :: p.names }.openKept, rest)

/-- Reads flags up to a colon or a closing bracket: the flags with the changes made, the character
that ends them and whether anything was written. `seen` holds what was written before. -/
def readFlags (flags : Flags) (seen : List Char) :
    List Char → Except Fault (Flags × Char × Bool × List Char)
  | [] => .error .malformed
  | c :: rest =>
    if c = ':' || c = ')' then
      if seen.head? = some '-' then .error .malformed
      else .ok (flags, c, !seen.isEmpty, rest)
    else if seen.contains c then .error .malformed
    else if c = '-' then readFlags flags (c :: seen) rest
    else
      match flags.set? c (!seen.contains '-') with
      | some changed => readFlags changed (c :: seen) rest
      | none => .error .malformed

/-- Reads what follows an opening bracket. -/
def readGroup (p : Progress) (text : List Char) : Except Fault (Progress × List Char) :=
  let text := p.flags.skip text
  match text with
  | '?' :: 'P' :: '<' :: rest => p.readNamedGroup rest
  | '?' :: '<' :: rest => p.readNamedGroup rest
  | '?' :: rest => do
    let (flags, stop, written, after) ← readFlags p.flags [] rest
    if stop = ':' then return (p.openGroup none flags, after)
    else if !written then .error .malformed
    else
      let part := { pattern := .empty, depth := 0, repeatable := false : Part }
      return ({ p with branches := p.branches.push part, flags := flags }, after)
  | _ => .ok (p.openKept, text)

def closeGroup (p : Progress) : Except Fault Progress :=
  match p.groups with
  | [] => .error .malformed
  | g :: groups =>
    let (pattern, depth) := p.branches.close
    let pattern := match g.number? with
      | some number => Pattern.group number pattern
      | none => pattern
    .ok ({ p with branches := g.outer, groups := groups, flags := g.flags }.push pattern (1 + depth))

/-! ## Single items -/

/-- The pattern of a character under the flags. -/
def charPattern (flags : Flags) (c : Char) (byte : Bool) : Except Fault Pattern :=
  if !flags.unicode && byte && c.toNat > 127 then .error .outsideText
  else if flags.ignoreCase && (flags.unicode || c.toNat < 128) then
    .ok (.set (foldCase flags (.single c)))
  else .ok (.char c)

def atomPattern (flags : Flags) : Atom → Except Fault Pattern
  | .char c byte => charPattern flags c byte
  | .set chars => .ok (.set chars)
  | .look place => .ok (.look place)

def dotPattern (flags : Flags) : Except Fault Pattern :=
  if !flags.unicode then .error .outsideText
  else if flags.dotAll then .ok (.set .anything)
  else if flags.crlf then .ok (.set (.complement (.union (.single '\n') (.single '\r'))))
  else .ok (.set (.complement (.single '\n')))

def startLook (flags : Flags) : Look :=
  if !flags.multiLine then .start else if flags.crlf then .crlfStart else .lineStart

def stopLook (flags : Flags) : Look :=
  if !flags.multiLine then .stop else if flags.crlf then .crlfStop else .lineStop

/-- Reads one item that begins with the given character. -/
def step (p : Progress) (c : Char) (rest : List Char) : Except Fault (Progress × List Char) :=
  match c with
  | '(' => p.readGroup rest
  | ')' => p.closeGroup.map (·, rest)
  | '|' => .ok ({ p with branches := p.branches.next }, rest)
  | '[' => do
    let (found, after) ← readClass p.flags (2 * rest.length + 2) rest
    return (p.push (.set found.set) found.depth, after)
  | '?' =>
    let (greedy, after) := readLazy rest
    (p.repeat 0 (some 1) greedy).map (·, after)
  | '*' =>
    let (greedy, after) := readLazy rest
    (p.repeat 0 none greedy).map (·, after)
  | '+' =>
    let (greedy, after) := readLazy rest
    (p.repeat 1 none greedy).map (·, after)
  | '\x7b' => p.readCounted rest
  | '\\' => do
    let (atom, after) ← readEscape p.flags rest
    return (p.push (← atomPattern p.flags atom) 0, after)
  | '.' => do return (p.push (← dotPattern p.flags) 0, rest)
  | '^' => .ok (p.push (.look (startLook p.flags)) 0, rest)
  | '$' => .ok (p.push (.look (stopLook p.flags)) 0, rest)
  | c => do return (p.push (← charPattern p.flags c false) 0, rest)

/-- Reads items to the end of the text; the first argument bounds their number. -/
def readAll : Nat → Progress → List Char → Except Fault Progress
  | 0, _, _ => .error .malformed
  | fuel + 1, p, text =>
    match p.flags.skip text with
    | [] => .ok p
    | c :: rest => do
      let (p, after) ← p.step c rest
      readAll fuel p after

end Progress

/-- Patterns may be nested this deep. -/
def depthLimit : Nat := 250

/-- The automaton of a pattern may be this large, in bytes. -/
def sizeLimit : Nat := 10 * 1024 * 1024

/-- Reads a written pattern. -/
def readPattern (text : List Char) : Except Fault Named := do
  let p ← Progress.readAll (text.length + 1) {} text
  if !p.groups.isEmpty then .error .malformed
  else
    let (pattern, depth) := p.branches.close
    if depth > depthLimit then .error .tooDeep
    else if pattern.size > sizeLimit then .error .tooLarge
    else return ⟨pattern, p.names⟩

/-- The text of a named group in the leftmost preferred match; none if there is no match or the
group has no part in it. -/
def Named.capture? (named : Named) (name : String) (text : List Char) : Option (List Char) := do
  let (_, index) ← named.names.find? (·.1 == name)
  let found ← named.pattern.search? text
  let (first, last) ← found.span? index
  return (text.drop first).take (last - first)

end FirmwareBench.Pattern
