import FirmwareBench.Shell.Utility.Basic
set_option autoImplicit false

/-!
# Utilities for contents and names

Counting, cutting, sorting and passing on contents, and taking names of paths apart.
-/

namespace FirmwareBench.Shell.Utility

open Utf8 (Bytes)

/-! ## Contents -/

/-- The number of runs of bytes that are not blank. -/
def wordCount (bytes : Bytes) : Nat :=
  (bytes.foldl (fun (n, inside) b =>
    let blank := b == 32 || (9 ≤ b && b ≤ 13)
    (if !blank && !inside then n + 1 else n, !blank)) (0, false)).1

/-- The counts that flags ask for. -/
def counts (flags : List Char) (bytes : Bytes) : List Nat :=
  let asks (flag : Char) : Bool := flags.isEmpty || flags.contains flag
  (if asks 'l' then [bytes.count 10] else []) ++ (if asks 'w' then [wordCount bytes] else []) ++
    (if flags.contains 'm' then [(Utf8.decodeLossy bytes).length] else []) ++
    (if asks 'c' then [bytes.length] else [])

/-- Counts lines, words, characters and bytes. -/
def wc : Utility := withFlags "lwmc" fun flags around name operands =>
  let width (bytes : Bytes) : Nat :=
    if flags.length == 1 then 1
    else if operands.isEmpty then 7 else (toString bytes.length).length
  let right (w n : Nat) : String := "".pushn ' ' (w - (toString n).length) ++ toString n
  forContents around name quotedIfPeculiar operands fun operand bytes host =>
    let numbers := " ".intercalate ((counts flags bytes).map (right (width bytes)))
    around.say (numbers ++ (if operands.isEmpty then "" else " " ++ operand) ++ "\n") host

/-- The unit and the number that the words of `head` and `tail` begin with, and the operands. -/
def readAmount : List String → Char × String × List String
  | "-n" :: amount :: rest => ('n', amount, rest)
  | "-c" :: amount :: rest => ('c', amount, rest)
  | word :: rest =>
    match word.toList with
    | '-' :: 'n' :: c :: amount => ('n', String.ofList (c :: amount), rest)
    | '-' :: 'c' :: c :: amount => ('c', String.ofList (c :: amount), rest)
    | '-' :: c :: amount =>
      if c.isDigit then ('n', String.ofList (c :: amount), rest) else ('n', "10", word :: rest)
    | _ => ('n', "10", word :: rest)
  | [] => ('n', "10", [])

/-- The lines or the bytes of a content, each as a piece. -/
def units (unit : Char) (bytes : Bytes) : List Bytes :=
  if unit == 'n' then lines bytes else bytes.map ([·])

/-- The complaint about a name that cannot be read. -/
def openingComplaint (operand : String) : String :=
  "cannot open " ++ quoted operand ++ " for reading"

def head : Utility := fun around name words =>
  let (unit, amount, operands) := readAmount words
  forContents around name openingComplaint operands fun _ bytes host =>
    let pieces := units unit bytes
    let kept := match readInt? amount with
      | some n => if n < 0 then pieces.take (pieces.length - n.natAbs) else pieces.take n.toNat
      | none => []
    host.writeTo around.output kept.flatten

def tail : Utility := fun around name words =>
  let (unit, amount, operands) := readAmount words
  forContents around name openingComplaint operands fun _ bytes host =>
    let pieces := units unit bytes
    let kept := match readInt? amount with
      | some n =>
        if amount.startsWith "+" then pieces.drop (n.toNat - 1)
        else pieces.drop (pieces.length - n.natAbs)
      | none => []
    host.writeTo around.output kept.flatten

/-- Passes the standard input on, also to files. -/
def tee : Utility := withFlags "a" fun flags around name operands host =>
  let bytes := host.input
  let host := { host with input := [] }.writeTo around.output bytes
  forEach (fun operand host =>
    let path := Path.ofString operand
    let result := if flags.contains 'a' then host.tree.append around.cwd path bytes
      else host.tree.write around.cwd path bytes
    match result with
    | .ok tree => ({ host with tree }, 0)
    | .error fault => fail around name (quotedIfPeculiar operand ++ ": " ++ fault.reason) host) operands host

def sort : Utility := withFlags "ru" fun flags around name operands host =>
  let (host, code, bytes) :=
    (if operands.isEmpty then ["-"] else operands).foldl (fun (host, code, bytes) operand =>
      match readOperand around operand host with
      | (host, .ok more) => (host, code, bytes ++ more)
      | (host, .error fault) =>
        (around.complain (name ++ ": cannot read: " ++ quotedIfPeculiar operand ++ ": " ++ fault.reason) host, 2,
          bytes)) (host, 0, [])
  let all := (lines bytes).map fun line => if line.getLast? == some 10 then line else line ++ [10]
  let sorted := all.mergeSort fun a b => decide (a ≤ b)
  let sorted := if flags.contains 'u' then sorted.eraseReps else sorted
  let sorted := if flags.contains 'r' then sorted.reverse else sorted
  (host.writeTo around.output sorted.flatten, code)

/-! ## Numbers and names -/

def numbersBetween (first step last : Int) : List Int :=
  if step == 0 then []
  else
    let span := if step > 0 then last - first else first - last
    if span < 0 then []
    else (List.range (span.toNat / step.natAbs + 1)).map fun (i : Nat) => first + step * i

def seq : Utility := fun around name words host =>
  let numbers? := match words.mapM readInt? with
    | some [last] => some (numbersBetween 1 1 last)
    | some [first, last] => some (numbersBetween first 1 last)
    | some [first, step, last] => some (numbersBetween first step last)
    | _ => none
  match numbers? with
  | some numbers =>
    (around.say (String.join (numbers.map fun n => toString n ++ "\n")) host, 0)
  | none => fail around name "invalid operand" host

/-- Shows the last name of a path, perhaps without an ending. -/
def basename : Utility := fun around name words host =>
  match words with
  | [path] => (around.say (lastName path ++ "\n") host, 0)
  | [path, ending] =>
    let last := lastName path
    let short := if last != ending && last.endsWith ending then (last.dropEnd ending.length).toString
      else last
    (around.say (short ++ "\n") host, 0)
  | _ => misuse around name "missing operand" host

/-- Shows the path of a directory that a path lies in. -/
def dirname : Utility := fun around name words host =>
  let parent (path : String) : String :=
    match (Path.ofString path).parent? with
    | some dir => if dir.chars.isEmpty then "." else dir.text
    | none => if (Path.ofString path).isAbsolute then "/" else "."
  if words.isEmpty then misuse around name "missing operand" host
  else (around.say (String.join (words.map fun word => parent word ++ "\n")) host, 0)

def printenv : Utility := fun around _ words host =>
  if words.isEmpty then
    (around.say (String.join (around.environment.toList.map fun (key, value) =>
      key ++ "=" ++ value ++ "\n")) host, 0)
  else
    forEach (fun word host =>
      match around.environment.get? word with
      | some value => (around.say (value ++ "\n") host, 0)
      | none => (host, 1)) words host

def pwd : Utility := fun around _ _ host => (around.say (around.cwd.path.text ++ "\n") host, 0)

/-- Does nothing, and ends with an exit code. -/
def ending (code : Nat) : Utility := fun _ _ _ host => (host, code)

end FirmwareBench.Shell.Utility
