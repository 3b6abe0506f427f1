import FirmwareBench.Text.Utf8
import FirmwareBench.Yaml.Fault
set_option autoImplicit false

/-!
# Places in a YAML text

The characters that are left to read, with the line and the column they start at, and the classes of
characters that the grammar knows.

## Main definitions

* `Source`: a place in a text.
* `Source.ofBytes`: the start of a text.
-/

namespace FirmwareBench.Yaml

/-! ## Characters -/

def isBreak (c : Char) : Bool :=
  c == '\n' || c == '\r' || c.toNat == 0x85 || c.toNat == 0x2028 || c.toNat == 0x2029

def isBlank (c : Char) : Bool := c == ' ' || c == '\t'

/-- Whether a character ends a word; the end of the text does. -/
def endsWord (c? : Option Char) : Bool := c?.all fun c => isBlank c || isBreak c

def isNameChar (c : Char) : Bool := c.isAlphanum || c == '_' || c == '-'

/-- The characters a text may hold. -/
def isAllowed (c : Char) : Bool :=
  let n := c.toNat
  n == 9 || n == 10 || n == 13 || (0x20 ≤ n && n ≤ 0x7E) || n == 0x85 || (0xA0 ≤ n && n ≤ 0xFFFD) ||
    0x10000 ≤ n

/-! ## Places -/

/-- A place in a text. -/
structure Source where
  rest : List Char
  index : Nat := 0
  /-- The number of lines before the line of the place. -/
  line : Nat := 0
  /-- The number of characters before the place in its line. -/
  column : Nat := 0

namespace Source

/-- The start of a text. -/
def ofBytes (bytes : Utf8.Bytes) : Except Fault Source :=
  match Utf8.decode? bytes with
  | none => .error .unreadable
  | some text => if text.all isAllowed then .ok { rest := text } else .error .unreadable

/-- The fault of a text that breaks the grammar here. -/
def fail {α : Type} (s : Source) : Except Fault α := .error (.malformed s.line s.column)

/-- The place `count` characters further on, in the same line. -/
def skip (s : Source) (count : Nat := 1) : Source :=
  { s with rest := s.rest.drop count, index := s.index + count, column := s.column + count }

def next? (s : Source) : Option Char := s.rest.head?

def second? (s : Source) : Option Char := (s.rest.drop 1).head?

def isAt (s : Source) (c : Char) : Bool := s.next? == some c

/-- The characters of a class in front, and the place behind them. No break is of the class. -/
def takeWhile (s : Source) (p : Char → Bool) : List Char × Source :=
  let run := s.rest.takeWhile p
  (run, s.skip run.length)

def skipWhile (s : Source) (p : Char → Bool) : Source := (s.takeWhile p).2

def skipLine (s : Source) : Source := s.skipWhile fun c => !isBreak c

def startLine (s : Source) (rest : List Char) (count : Nat) : Source :=
  { rest, index := s.index + count, line := s.line + 1, column := 0 }

/-- A line break as it counts in a text, and the place behind it. -/
def takeBreak (s : Source) : List Char × Source :=
  match s.rest with
  | [] => ([], s)
  | '\r' :: '\n' :: rest => (['\n'], s.startLine rest 2)
  | c :: rest =>
    if c.toNat == 0x2028 || c.toNat == 0x2029 then ([c], s.startLine rest 1)
    else if isBreak c then (['\n'], s.startLine rest 1)
    else ([], s)

def skipBreak (s : Source) : Source := s.takeBreak.2

/-- Whether a mark between documents stands here: three equal characters alone at the start of a
line. -/
def isAtMark (s : Source) (c : Char) : Bool :=
  s.column == 0 &&
    match s.rest with
    | a :: b :: d :: rest => a == c && b == c && d == c && endsWord rest.head?
    | _ => false

def isAtDocumentMark (s : Source) : Bool := s.isAtMark '-' || s.isAtMark '.'

end Source

end FirmwareBench.Yaml
