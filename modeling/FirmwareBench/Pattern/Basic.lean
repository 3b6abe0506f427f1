import FirmwareBench.Pattern.CharSet
set_option autoImplicit false

/-!
# Patterns

A pattern is a regular expression with numbered groups and assertions about the place between two
characters. Of two ways to match, the one that comes first in the order of the pattern is preferred:
the left branch of an alternation, one more round of a greedy repetition.

## Main definitions

* `Cursor`: a place in a text.
* `Look`: assertions about a place.
* `Pattern`: regular expressions.
-/

namespace FirmwareBench

/-- A place in a text: how many characters stand before it, the last of them, and what follows. -/
structure Cursor where
  index : Nat
  before? : Option Char
  rest : List Char

namespace Cursor

def start (text : List Char) : Cursor := ⟨0, none, text⟩

/-- The next place if the next character is in the given set. -/
def advance? (at' : Cursor) (set : CharSet) : Option Cursor :=
  match at'.rest with
  | [] => none
  | c :: rest => if set.contains c then some ⟨at'.index + 1, some c, rest⟩ else none

def after? (at' : Cursor) : Option Char := at'.rest.head?

end Cursor

/-- An assertion about a place. -/
inductive Look where
  | start
  | stop
  /-- The start of a line; lines end with a line feed. -/
  | lineStart
  | lineStop
  /-- The start of a line; lines end with a line feed, a carriage return or both. -/
  | crlfStart
  | crlfStop
  /-- A word character on exactly one side. -/
  | word (ascii : Bool)
  /-- Word characters on both sides or on none. -/
  | noWord (ascii : Bool)
  | wordStart (ascii : Bool)
  | wordStop (ascii : Bool)
  /-- No word character before the place. -/
  | wordStartHalf (ascii : Bool)
  /-- No word character after the place. -/
  | wordStopHalf (ascii : Bool)
deriving DecidableEq, Repr

namespace Look

def isWordAt (ascii : Bool) (c : Option Char) : Bool :=
  c.any (if ascii then Unicode.isAsciiWord else Unicode.isWord)

def holds (look : Look) (place : Cursor) : Bool :=
  let before := place.before?
  let after := place.after?
  match look with
  | start => before.isNone
  | stop => after.isNone
  | lineStart => before.isNone || before == some '\n'
  | lineStop => after.isNone || after == some '\n'
  | crlfStart => before.isNone || before == some '\n' || (before == some '\r' && after != some '\n')
  | crlfStop => after.isNone || after == some '\r' || (after == some '\n' && before != some '\r')
  | word ascii => isWordAt ascii before != isWordAt ascii after
  | noWord ascii => isWordAt ascii before == isWordAt ascii after
  | wordStart ascii => !isWordAt ascii before && isWordAt ascii after
  | wordStop ascii => isWordAt ascii before && !isWordAt ascii after
  | wordStartHalf ascii => !isWordAt ascii before
  | wordStopHalf ascii => !isWordAt ascii after

end Look

/-- A regular expression. -/
inductive Pattern where
  | empty
  | set (set : CharSet)
  | look (look : Look)
  /-- A group whose text is kept under a number. -/
  | group (index : Nat) (body : Pattern)
  | seq (first second : Pattern)
  /-- One pattern or, second in preference, the other. -/
  | alt (first second : Pattern)
  /-- At least `low` and at most `high?` rounds; `greedy` prefers more rounds. -/
  | rounds (low : Nat) (high? : Option Nat) (greedy : Bool) (body : Pattern)

namespace Pattern

def char (c : Char) : Pattern := set (.single c)

def seqAll : List Pattern → Pattern
  | [] => empty
  | [p] => p
  | p :: rest => seq p (seqAll rest)

/-- Patterns in falling preference. -/
def altAll : List Pattern → Pattern
  | [] => empty
  | [p] => p
  | p :: rest => alt p (altAll rest)

/-- Whether a pattern matches the empty text only. -/
def isBlank : Pattern → Bool
  | empty | look _ => true
  | set _ => false
  | group _ body => body.isBlank
  | seq first second | alt first second => first.isBlank && second.isBlank
  | rounds _ _ _ body => body.isBlank

/-- A repetition. Of a pattern that matches the empty text only, one round does what many do. -/
def repeated (low : Nat) (high? : Option Nat) (greedy : Bool) (body : Pattern) : Pattern :=
  if body.isBlank then rounds (min low 1) (some (min (high?.getD 1) 1)) greedy body
  else rounds low high? greedy body

end Pattern

end FirmwareBench
