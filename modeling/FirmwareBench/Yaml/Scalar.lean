import FirmwareBench.Yaml.Source
import FirmwareBench.Unicode.Ranges
set_option autoImplicit false

/-!
# Scalars as they are written

A scalar is written plain, between quotation marks or as a block. Line breaks inside fold: a single
one counts as a space, of several the first one does not count.

## Main definitions

* `Gap`: blanks and line breaks between two words, and the text they stand for.
* `readPlain`, `readQuoted`, `readBlock`: read a scalar.
-/

namespace FirmwareBench.Yaml

/-! ## Gaps between words -/

/-- Blanks and line breaks between two words. -/
structure Gap where
  /-- The blanks, as long as there is no line break. -/
  blanks : List Char := []
  /-- The first line break; empty if it does not count. -/
  firstBreak? : Option (List Char) := none
  /-- The line breaks after the first one. -/
  laterBreaks : List Char := []

namespace Gap

def breaks (gap : Gap) : Bool := gap.firstBreak?.isSome

def text (gap : Gap) : List Char :=
  match gap.firstBreak? with
  | none => gap.blanks
  | some first =>
    if first.head? == some '\n' then
      if gap.laterBreaks.isEmpty then [' '] else gap.laterBreaks
    else first ++ gap.laterBreaks

end Gap

/-- Reads blanks and line breaks. A tab left of the column `limit` is refused where a line begins.
The first argument bounds the number of characters. -/
def readGap (limit : Nat) : Nat → Gap → Source → Except Fault (Gap × Source)
  | 0, gap, s => .ok (gap, s)
  | fuel + 1, gap, s =>
    match s.next? with
    | none => .ok (gap, s)
    | some c =>
      if isBlank c then
        if !gap.breaks then readGap limit fuel { gap with blanks := gap.blanks ++ [c] } s.skip
        else if c == '\t' && s.column < limit then s.fail
        else readGap limit fuel gap s.skip
      else if isBreak c then
        let (text, s) := s.takeBreak
        if gap.breaks then
          readGap limit fuel { gap with laterBreaks := gap.laterBreaks ++ text } s
        else readGap limit fuel { gap with blanks := [], firstBreak? := some text } s
      else .ok (gap, s)

/-! ## Plain scalars -/

/-- The characters that part the items of a collection in brackets. -/
def isFlowMark (c : Char) : Bool := ",[]\x7b\x7d".toList.contains c

/-- The run of characters up to a blank or to a mark that ends a plain scalar; none if a colon
stands directly before a mark of a collection in brackets. -/
def plainRun? (inFlow : Bool) : List Char → Option (List Char)
  | [] => some []
  | c :: rest =>
    if isBlank c || isBreak c then some []
    else if inFlow && c == ':' && rest.head?.any (fun d => isFlowMark d || d == '?') then none
    else if (c == ':' && endsWord rest.head?) || (inFlow && isFlowMark c) then some []
    else (plainRun? inFlow rest).map (c :: ·)

/-- Reads a plain scalar: its text, and whether a line break follows it. Outside brackets the lines
after the first one start at the column `limit` at least. The first number bounds the steps. -/
def readPlain (inFlow : Bool) (limit : Nat) :
    Nat → List Char → Gap → Source → Except Fault (List Char × Bool × Source)
  | 0, _, _, s => s.fail
  | fuel + 1, text, gap, s =>
    if s.isAtDocumentMark || s.isAt '#' then .ok (text, gap.breaks, s)
    else
      match plainRun? inFlow s.rest with
      | none => s.fail
      | some [] => .ok (text, gap.breaks, s)
      | some word => do
        let text := text ++ gap.text ++ word
        let (gap, s) ← readGap limit (s.rest.length + 1) {} (s.skip word.length)
        if gap.blanks.isEmpty && !gap.breaks then return (text, false, s)
        else if !inFlow && s.column < limit then return (text, gap.breaks, s)
        else readPlain inFlow limit fuel text gap s

/-! ## Quoted scalars -/

/-- The character that a letter behind a backslash stands for. -/
def escaped? (c : Char) : Option Char :=
  match c with
  | '0' => some (Char.ofNat 0)
  | 'a' => some (Char.ofNat 7)
  | 'b' => some (Char.ofNat 8)
  | 't' | '\t' => some '\t'
  | 'n' => some '\n'
  | 'v' => some (Char.ofNat 11)
  | 'f' => some (Char.ofNat 12)
  | 'r' => some '\r'
  | 'e' => some (Char.ofNat 27)
  | ' ' | '"' | '/' | '\\' => some c
  | 'N' => some (Char.ofNat 0x85)
  | '_' => some (Char.ofNat 0xA0)
  | 'L' => some (Char.ofNat 0x2028)
  | 'P' => some (Char.ofNat 0x2029)
  | _ => none

/-- How many hexadecimal digits follow a letter behind a backslash. -/
def escapeDigits? (c : Char) : Option Nat :=
  match c with
  | 'x' => some 2
  | 'u' => some 4
  | 'U' => some 8
  | _ => none

def isHexDigit (c : Char) : Bool :=
  c.isDigit || ('a' ≤ c && c ≤ 'f') || ('A' ≤ c && c ≤ 'F')

def readEscape (s : Source) : Except Fault (Char × Source) :=
  match s.second? with
  | none => s.fail
  | some c =>
    match escaped? c with
    | some found => .ok (found, s.skip 2)
    | none =>
      match escapeDigits? c with
      | none => s.fail
      | some count =>
        let digits := (s.rest.drop 2).take count
        let value := Unicode.hexValue digits
        if digits.length == count && digits.all isHexDigit && value.isValidChar then
          .ok (Char.ofNat value, s.skip (2 + count))
        else s.fail

/-- Reads a scalar behind its opening quotation mark; `text` was read before, last character first.
The first number bounds the steps. -/
def readQuoted (mark : Char) : Nat → List Char → Source → Except Fault (List Char × Source)
  | 0, _, s => s.fail
  | fuel + 1, text, s =>
    if s.isAtDocumentMark then s.fail
    else
      match s.next? with
      | none => s.fail
      | some c =>
        if isBlank c || isBreak c then do
          let (gap, s) ← readGap 0 (s.rest.length + 1) {} s
          readQuoted mark fuel (gap.text.reverse ++ text) s
        else if c == mark then
          if mark == '\'' && s.second? == some mark then readQuoted mark fuel (c :: text) (s.skip 2)
          else .ok (text.reverse, s.skip)
        else if mark == '"' && c == '\\' then
          if s.second?.any isBreak then do
            let (gap, s) ← readGap 0 (s.rest.length + 1) { firstBreak? := some [] } s.skip.skipBreak
            readQuoted mark fuel (gap.text.reverse ++ text) s
          else do
            let (found, s) ← readEscape s
            readQuoted mark fuel (found :: text) s
        else readQuoted mark fuel (c :: text) s.skip

/-! ## Block scalars -/

/-- What becomes of the line breaks at the end of a block. -/
inductive Chomping where
  /-- None is kept. -/
  | strip
  /-- The first one is kept. -/
  | clip
  /-- All are kept. -/
  | keep

def readChomping (s : Source) : Option Chomping × Source :=
  if s.isAt '+' then (some .keep, s.skip)
  else if s.isAt '-' then (some .strip, s.skip)
  else (none, s)

/-- Reads how far a block is indented; none if this is left to its first line. -/
def readIncrement (s : Source) : Except Fault (Option Nat × Source) :=
  match s.next? with
  | some c =>
    if c == '0' then s.fail
    else if c.isDigit then .ok (some (c.toNat - 48), s.skip)
    else .ok (none, s)
  | none => .ok (none, s)

/-- Reads the line that a block begins with, behind its first character. -/
def readBlockHead (s : Source) : Except Fault (Chomping × Option Nat × Source) := do
  let (chomping?, s) := readChomping s
  let (increment?, s) ← readIncrement s
  let (chomping?, s) :=
    if chomping?.isNone && increment?.isSome then readChomping s else (chomping?, s)
  let s := s.skipWhile isBlank
  let s := if s.isAt '#' then s.skipLine else s
  if s.next?.all isBreak then return (chomping?.getD .clip, increment?, s.skipBreak) else s.fail

/-- Reads the indentation of a line and the empty lines before it: the column of the block, the line
breaks and the place behind them. An unknown column (zero) becomes that of the widest line, and at
least `least`. The first number bounds the steps. -/
def readBlockBreaks (least : Nat) (column : Nat) :
    Nat → Nat → List Char → Source → Except Fault (Nat × List Char × Source)
  | 0, _, _, s => s.fail
  | fuel + 1, widest, breaks, s =>
    let spaces := (s.rest.takeWhile (· == ' ')).length
    let s := s.skip (if column == 0 then spaces else min spaces (column - s.column))
    let widest := max widest s.column
    if (column == 0 || s.column < column) && s.isAt '\t' then s.fail
    else if s.next?.any isBreak then
      let (text, s) := s.takeBreak
      readBlockBreaks least column fuel widest (breaks ++ text) s
    else .ok (if column == 0 then max widest least else column, breaks, s)

/-- A block while its lines are read. -/
structure BlockSoFar where
  /-- The text up to the last line. -/
  text : List Char := []
  lastBreak : List Char := []
  /-- Whether the last line begins with a blank. -/
  lastIndented : Bool := false
  /-- The line breaks of the empty lines behind it. -/
  emptyLines : List Char := []

/-- The text of a block before a further line. -/
def BlockSoFar.joined (literal : Bool) (b : BlockSoFar) (indented : Bool) : List Char :=
  if !literal && b.lastBreak.head? == some '\n' && !b.lastIndented && !indented then
    if b.emptyLines.isEmpty then b.text ++ [' '] else b.text ++ b.emptyLines
  else b.text ++ b.lastBreak ++ b.emptyLines

/-- Reads the lines of a block at a column. The first number bounds the steps. -/
def readBlockLines (literal : Bool) (column : Nat) :
    Nat → BlockSoFar → Source → Except Fault (BlockSoFar × Source)
  | 0, _, s => s.fail
  | fuel + 1, b, s =>
    if s.column == column && !s.rest.isEmpty then do
      let indented := s.next?.any isBlank
      let (line, after) := s.takeWhile fun c => !isBreak c
      let (lastBreak, after) := after.takeBreak
      let (_, emptyLines, after) ← readBlockBreaks 1 column (after.rest.length + 1) 0 [] after
      readBlockLines literal column fuel
        { text := b.joined literal indented ++ line, lastBreak, lastIndented := indented,
          emptyLines } after
    else .ok (b, s)

/-- Reads a block behind its first character. Its lines stand right of the column `outer - 1`. -/
def readBlock (literal : Bool) (outer : Nat) (s : Source) : Except Fault (List Char × Source) := do
  let (chomping, increment?, s) ← readBlockHead s
  let column := match increment? with
    | some increment => outer - 1 + increment
    | none => 0
  let (column, emptyLines, s) ←
    readBlockBreaks (max outer 1) column (s.rest.length + 1) 0 [] s
  let (b, s) ← readBlockLines literal column (s.rest.length + 1) { emptyLines } s
  let text := match chomping with
    | .strip => b.text
    | .clip => b.text ++ b.lastBreak
    | .keep => b.text ++ b.lastBreak ++ b.emptyLines
  return (text, s)

end FirmwareBench.Yaml
