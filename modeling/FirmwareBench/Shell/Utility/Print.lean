import FirmwareBench.Shell.Utility.Basic
set_option autoImplicit false

/-!
# Utilities that print

Texts with escapes, and formats filled with arguments.
-/

namespace FirmwareBench.Shell.Utility

open Utf8 (Bytes)

/-! ## Escapes -/

/-- The letters of escapes and the bytes they stand for. -/
def escapeLetters : List (Char × UInt8) :=
  [('a', 7), ('b', 8), ('f', 12), ('n', 10), ('r', 13), ('t', 9), ('v', 11), ('\\', 92)]

def isOctal (c : Char) : Bool := '0' ≤ c && c ≤ '7'

def octalValue (digits : List Char) : Nat := digits.foldl (fun n c => 8 * n + (c.toNat - 48)) 0

/-- What follows a backslash: the bytes it stands for, and how many characters it takes. Octal digits
come after a zero if `zero` says so. -/
def escape (zero : Bool) (text : List Char) : Bytes × Nat :=
  match text with
  | [] => ([92], 0)
  | c :: rest =>
    match escapeLetters.lookup c with
    | some byte => ([byte], 1)
    | none =>
      let digits := if zero then (rest.take 3).takeWhile isOctal else (text.take 3).takeWhile isOctal
      let begins := if zero then c == '0' else isOctal c
      if begins then
        ([UInt8.ofNat (octalValue digits)], digits.length + if zero then 1 else 0)
      else ([92], 0)

/-- The bytes of a text with escapes, after `skip` characters, and whether an escape says that
nothing more is printed. -/
def unescapeFrom : Nat → List Char → Bytes × Bool
  | _, [] => ([], false)
  | skip + 1, _ :: rest => unescapeFrom skip rest
  | 0, c :: rest =>
    if c == '\\' then
      if rest.head? == some 'c' then ([], true)
      else
        let (bytes, taken) := escape true rest
        let (later, stopped) := unescapeFrom taken rest
        (bytes ++ later, stopped)
    else
      let (later, stopped) := unescapeFrom 0 rest
      (Utf8.encode [c] ++ later, stopped)

/-- The bytes of a text with escapes, and whether nothing more is printed. -/
def unescape (text : String) : Bytes × Bool := unescapeFrom 0 text.toList

/-! ## Printing words -/

/-- Prints words with blanks between them, and a line feed unless only they are wanted. -/
def printWords (escapes wordsOnly : Bool) : Utility := fun around _ words host =>
  let text := " ".intercalate words
  let (bytes, stopped) := if escapes then unescape text else (Utf8.ofString text, false)
  (host.writeTo around.output (if wordsOnly || stopped then bytes else bytes ++ [10]), 0)

/-- Prints words and what their escapes stand for. A flag leaves the line feed out. -/
def echo : Utility := fun around name words host =>
  match words with
  | "-n" :: rest => printWords true true around name rest host
  | _ => printWords true false around name words host

/-- Prints words. Flags leave the line feed out and say what is done with escapes. -/
def echoWithFlags : Utility := fun around name words host =>
  let isFlag (word : String) : Bool := match word.toList with
    | '-' :: c :: rest => (c :: rest).all fun c => c == 'n' || c == 'e' || c == 'E'
    | _ => false
  let flags := (words.takeWhile isFlag).flatMap (·.toList)
  let escapes := (flags.filter fun c => c == 'e' || c == 'E').getLast? == some 'e'
  printWords escapes (flags.contains 'n') around name (words.dropWhile isFlag) host

/-! ## Formats -/

/-- A directive of a format. -/
structure Directive where
  /-- Filled up at the right. -/
  left : Bool := false
  zeros : Bool := false
  signed : Bool := false
  width : Nat := 0
  /-- The largest number of characters, or the least number of digits. -/
  precision? : Option Nat := none
  conversion : Char
deriving DecidableEq, Repr

def decimalValue (digits : List Char) : Nat := digits.foldl (fun n c => 10 * n + (c.toNat - 48)) 0

/-- A directive after its percent sign, with the number of characters it takes. -/
def directive? (text : List Char) : Option (Directive × Nat) :=
  let flags := text.takeWhile fun c => "-+ 0#".toList.contains c
  let rest := text.drop flags.length
  let width := rest.takeWhile Char.isDigit
  let rest := rest.drop width.length
  let (precision?, point, rest) := match rest with
    | '.' :: rest =>
      let digits := rest.takeWhile Char.isDigit
      (some (decimalValue digits), digits.length + 1, rest.drop digits.length)
    | rest => (none, 0, rest)
  match rest with
  | [] => none
  | conversion :: _ =>
    some ({ left := flags.contains '-', zeros := flags.contains '0', signed := flags.contains '+',
            width := decimalValue width, precision?, conversion },
      flags.length + width.length + point + 1)

namespace Directive

/-- Fills bytes up to the width. -/
def fill (d : Directive) (bytes : Bytes) : Bytes :=
  let missing := List.replicate (d.width - bytes.length) (32 : UInt8)
  if d.left then bytes ++ missing else missing ++ bytes

/-- A number with as many digits as asked for. -/
def number (d : Directive) (n : Int) (digits : List Char) : Bytes :=
  let sign := if n < 0 then ['-'] else if d.signed then ['+'] else []
  let least := match d.precision? with
    | some precision => precision
    | none => if d.zeros && !d.left then d.width - sign.length else 0
  d.fill (Utf8.encode (sign ++ List.replicate (least - digits.length) '0' ++ digits))

end Directive

/-- The number that an argument of a format stands for. -/
def argumentValue? (text : String) : Option Int :=
  match text.toList with
  | [] => some 0
  | '\'' :: c :: _ | '"' :: c :: _ => some c.toNat
  | '0' :: 'x' :: digits | '0' :: 'X' :: digits =>
    digits.foldlM (fun n c =>
      if c.isDigit then some (16 * n + (c.toNat - 48 : Nat))
      else if 'a' ≤ c.toLower && c.toLower ≤ 'f' then some (16 * n + (c.toLower.toNat - 87 : Nat))
      else none) (0 : Int)
  | '0' :: digits => if digits.all isOctal then some (octalValue digits) else none
  | _ => readInt? text

/-- What a directive prints for an argument, whether nothing more is printed, and whether the
argument is what the directive asks for. -/
def Directive.print (d : Directive) (argument : String) : Bytes × Bool × Bool :=
  let value := argumentValue? argument
  let n := value.getD 0
  let cut (bytes : Bytes) : Bytes := match d.precision? with
    | some precision => bytes.take precision
    | none => bytes
  match d.conversion with
  | 's' => (d.fill (cut (Utf8.ofString argument)), false, true)
  | 'b' =>
    let (bytes, stopped) := unescape argument
    (d.fill (cut bytes), stopped, true)
  | 'c' => (d.fill ((Utf8.ofString argument).take 1), false, true)
  | 'd' | 'i' => (d.number n (Nat.toDigits 10 n.natAbs), false, value.isSome)
  | 'u' => (d.number n.natAbs (Nat.toDigits 10 n.natAbs), false, value.isSome)
  | 'o' => (d.number n.natAbs (Nat.toDigits 8 n.natAbs), false, value.isSome)
  | 'x' => (d.number n.natAbs (Nat.toDigits 16 n.natAbs), false, value.isSome)
  | 'X' =>
    (d.number n.natAbs ((Nat.toDigits 16 n.natAbs).map Char.toUpper), false, value.isSome)
  | _ => ([], false, false)

def argumentComplaint (argument : String) : String := argument ++ ": expected numeric value"

/-- What is printed so far. -/
structure Printing where
  bytes : Bytes := []
  arguments : List String
  /-- Whether an argument was used, or would have been. -/
  used : Bool := false
  /-- Whether nothing more is printed. -/
  stopped : Bool := false
  complaints : List String := []

/-- Prints what is left of a format after `skip` characters. -/
def formatFrom : Nat → List Char → Printing → Printing
  | _, [], p => p
  | skip + 1, _ :: rest, p => formatFrom skip rest p
  | 0, c :: rest, p =>
    if p.stopped then p
    else if c == '\\' then
      if rest.head? == some 'c' then { p with stopped := true }
      else
        let (bytes, taken) := escape false rest
        formatFrom taken rest { p with bytes := p.bytes ++ bytes }
    else if c == '%' then
      match directive? rest with
      | none => { p with stopped := true, complaints := p.complaints ++ ["missing format character"] }
      | some (d, taken) =>
        if d.conversion == '%' then formatFrom taken rest { p with bytes := p.bytes ++ [37] }
        else
          let (bytes, stopped, good) := d.print (p.arguments.headD "")
          formatFrom taken rest
            { bytes := p.bytes ++ bytes, arguments := p.arguments.tail, used := true,
              stopped
              complaints := if good then p.complaints
                else p.complaints ++ [argumentComplaint (p.arguments.headD "")] }
    else formatFrom 0 rest { p with bytes := p.bytes ++ Utf8.encode [c] }

/-- Prints a format again and again until no arguments are left. -/
def formatAll (format : List Char) : Nat → Printing → Printing
  | 0, p => p
  | count + 1, p =>
    let p := formatFrom 0 format { p with used := false }
    if p.arguments.isEmpty || !p.used || p.stopped then p else formatAll format count p

def printf : Utility := fun around name words host =>
  let words := if words.head? == some "--" then words.tail else words
  match words with
  | [] => (around.complain (name ++ ": usage: " ++ name ++ " format [arg ...]") host, 2)
  | format :: arguments =>
    let p := formatAll format.toList (arguments.length + 1) { arguments }
    let host := host.writeTo around.output p.bytes
    (p.complaints.foldl (fun host text => around.complain (name ++ ": " ++ text) host) host,
      if p.complaints.isEmpty then 0 else 1)

end FirmwareBench.Shell.Utility
