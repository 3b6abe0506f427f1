set_option autoImplicit false

/-!
# Pretty JSON

JSON documents without fractions, printed over several lines: two blanks of indentation per level,
one item or member a line, nothing between the brackets of an empty array or object.

## Main definitions

* `Json`: documents.
* `Json.quote`: a text between quotation marks, with the escapes JSON asks for.
* `Json.pretty`: the printed document.
-/

namespace FirmwareBench

/-- A JSON document whose numbers are integers. -/
inductive Json where
  | null
  | bool (b : Bool)
  | number (n : Int)
  | string (text : String)
  | array (items : List Json)
  | object (members : List (String × Json))

namespace Json

/-- The hexadecimal digit of a number below sixteen. -/
def hexDigit (n : Nat) : Char := if n < 10 then Char.ofNat (48 + n) else Char.ofNat (87 + n)

/-- A character as it stands inside quotation marks: short escapes where there are any, four
hexadecimal digits for the other control characters. -/
def escape (c : Char) : List Char :=
  if c = '"' then ['\\', '"']
  else if c = '\\' then ['\\', '\\']
  else if c = '\n' then ['\\', 'n']
  else if c = '\r' then ['\\', 'r']
  else if c = '\t' then ['\\', 't']
  else if c.toNat = 8 then ['\\', 'b']
  else if c.toNat = 12 then ['\\', 'f']
  else if c.toNat < 32 then
    ['\\', 'u', '0', '0', hexDigit (c.toNat / 16), hexDigit (c.toNat % 16)]
  else [c]

/-- A text between quotation marks. -/
def quote (text : String) : List Char := '"' :: text.toList.flatMap escape ++ ['"']

/-- A line break and the indentation of a level. -/
def newline (level : Nat) : List Char := '\n' :: List.replicate (2 * level) ' '

mutual

/-- A document printed at a level of indentation. -/
def print (level : Nat) : Json → List Char
  | null => "null".toList
  | bool b => (if b then "true" else "false").toList
  | number n => (toString n).toList
  | string text => quote text
  | array [] => ['[', ']']
  | array (item :: items) =>
    '[' :: newline (level + 1) ++ print (level + 1) item ++ printItems (level + 1) items ++
      newline level ++ [']']
  | object [] => ['\x7b', '\x7d']
  | object ((key, value) :: members) =>
    '\x7b' :: newline (level + 1) ++ quote key ++ [':', ' '] ++ print (level + 1) value ++
      printMembers (level + 1) members ++ newline level ++ ['\x7d']

/-- The items of an array after the first one. -/
def printItems (level : Nat) : List Json → List Char
  | [] => []
  | item :: items => ',' :: newline level ++ print level item ++ printItems level items

/-- The members of an object after the first one. -/
def printMembers (level : Nat) : List (String × Json) → List Char
  | [] => []
  | (key, value) :: members =>
    ',' :: newline level ++ quote key ++ [':', ' '] ++ print level value ++
      printMembers level members

end

/-- A document over several lines. -/
def pretty (document : Json) : String := String.ofList (print 0 document)

def strings (texts : List String) : Json := array (texts.map string)

end Json

end FirmwareBench
