import FirmwareBench.Dict
set_option autoImplicit false

/-!
# Arithmetic expressions

The value of an expression over whole numbers. Names stand for the values of variables; a comparison
has the value 1 or 0.

## Main definitions

* `evaluate?`: the value of an expression.
-/

namespace FirmwareBench.Shell.Arithmetic

/-- A piece of an expression. -/
inductive Token where
  | number (n : Int)
  | mark (text : String)
deriving DecidableEq, Repr

/-- The operators and parentheses, longer ones first. -/
def marks : List String :=
  ["&&", "||", "==", "!=", "<=", ">=", "<", ">", "+", "-", "*", "/", "%", "!", "(", ")"]

def digitsValue (digits : List Char) : Int :=
  digits.foldl (fun n c => 10 * n + (c.toNat - 48 : Nat)) 0

def tokens (value : String → Int) : Nat → List Char → Option (List Token)
  | _, [] => some []
  | 0, _ => none
  | fuel + 1, c :: rest =>
    if c == ' ' || c == '\t' || c == '\n' then tokens value fuel rest
    else if c.isDigit then
      let digits := (c :: rest).takeWhile Char.isDigit
      (tokens value fuel ((c :: rest).drop digits.length)).map (.number (digitsValue digits) :: ·)
    else if c.isAlpha || c == '_' then
      let name := (c :: rest).takeWhile fun c => c.isAlphanum || c == '_'
      (tokens value fuel ((c :: rest).drop name.length)).map
        (.number (value (String.ofList name)) :: ·)
    else
      match marks.find? fun mark => mark.toList.isPrefixOf (c :: rest) with
      | some mark => (tokens value fuel ((c :: rest).drop mark.length)).map (.mark mark :: ·)
      | none => none

def truth (b : Bool) : Int := if b then 1 else 0

/-- The operators of two sides with their strength, a larger one binding closer. -/
def strength? (mark : String) : Option Nat :=
  [("||", 1), ("&&", 2), ("==", 3), ("!=", 3), ("<", 4), ("<=", 4), (">", 4), (">=", 4),
    ("+", 5), ("-", 5), ("*", 6), ("/", 6), ("%", 6)].lookup mark

/-- The value of an operator; nothing can be divided by zero. -/
def outcome? (mark : String) (a b : Int) : Option Int :=
  match mark with
  | "||" => some (truth (a != 0 || b != 0))
  | "&&" => some (truth (a != 0 && b != 0))
  | "==" => some (truth (a == b))
  | "!=" => some (truth (a != b))
  | "<" => some (truth (a < b))
  | "<=" => some (truth (a ≤ b))
  | ">" => some (truth (b < a))
  | ">=" => some (truth (b ≤ a))
  | "+" => some (a + b)
  | "-" => some (a - b)
  | "*" => some (a * b)
  | "/" => if b == 0 then none else some (a.tdiv b)
  | "%" => if b == 0 then none else some (a.tmod b)
  | _ => none

mutual

/-- The value of what a list of pieces begins with, as far as no operator binds it. -/
def operand? (fuel : Nat) (list : List Token) : Option (Int × List Token) :=
  match fuel, list with
  | fuel + 1, .mark "-" :: rest => (operand? fuel rest).map fun (n, rest) => (-n, rest)
  | fuel + 1, .mark "+" :: rest => operand? fuel rest
  | fuel + 1, .mark "!" :: rest =>
    (operand? fuel rest).map fun (n, rest) => (truth (n == 0), rest)
  | fuel + 1, .mark "(" :: rest =>
    match operation? fuel 1 rest with
    | some (n, .mark ")" :: rest) => some (n, rest)
    | _ => none
  | _, .number n :: rest => some (n, rest)
  | _, _ => none

/-- The value of operators of a strength or more. -/
def operation? (fuel : Nat) (least : Nat) (list : List Token) : Option (Int × List Token) :=
  match fuel with
  | 0 => none
  | fuel + 1 =>
    match operand? fuel list with
    | none => none
    | some (n, rest) => operators? fuel least n rest

/-- The value of a left side with the operators of a strength or more after it. -/
def operators? (fuel : Nat) (least : Nat) (left : Int) (list : List Token) :
    Option (Int × List Token) :=
  match fuel, list with
  | fuel + 1, .mark mark :: rest =>
    match strength? mark with
    | none => some (left, list)
    | some strength =>
      if strength < least then some (left, list)
      else
        match operation? fuel (strength + 1) rest with
        | none => none
        | some (right, rest) =>
          match outcome? mark left right with
          | none => none
          | some value => operators? fuel least value rest
  | _, _ => some (left, list)

end

/-- The value of an expression. -/
def evaluate? (value : String → Int) (text : List Char) : Option Int :=
  match tokens value text.length text with
  | none => none
  | some [] => some 0
  | some list =>
    match operation? (4 * list.length + 4) 1 list with
    | some (n, []) => some n
    | _ => none

end FirmwareBench.Shell.Arithmetic
