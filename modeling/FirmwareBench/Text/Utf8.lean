set_option autoImplicit false

/-!
# Texts as bytes

UTF-8 in both directions. Bytes that are no text are refused by `decode?`; `decodeLossy` puts one
replacement character for each longest run of bytes that could have begun a character.

## Main definitions

* `encode`: the bytes of a text.
* `decode?`: the text of some bytes, if they are one.
* `decodeLossy`: the text of some bytes, with replacement characters.
-/

namespace FirmwareBench.Utf8

abbrev Bytes := List UInt8

/-- The bytes of a text. -/
def encode (text : List Char) : Bytes := text.flatMap String.utf8EncodeChar

/-- What stands at the front of some bytes. -/
structure Front where
  /-- The character; none if the bytes begin none. -/
  char? : Option Char
  /-- How many bytes it takes after the first one. -/
  more : Nat

def continues (b : UInt8) : Bool := 0x80 ≤ b && b ≤ 0xBF

/-- How a first byte goes on: the number of bytes that follow and the limits of the next one. -/
def opening? (b : UInt8) : Option (Nat × UInt8 × UInt8) :=
  if 0xC2 ≤ b && b ≤ 0xDF then some (1, 0x80, 0xBF)
  else if b = 0xE0 then some (2, 0xA0, 0xBF)
  else if b = 0xED then some (2, 0x80, 0x9F)
  else if 0xE1 ≤ b && b ≤ 0xEF then some (2, 0x80, 0xBF)
  else if b = 0xF0 then some (3, 0x90, 0xBF)
  else if 0xF1 ≤ b && b ≤ 0xF3 then some (3, 0x80, 0xBF)
  else if b = 0xF4 then some (3, 0x80, 0x8F)
  else none

/-- The bits that a first byte gives to a character of `count` further bytes. -/
def openingBits (count : Nat) (b : UInt8) : Nat :=
  b.toNat % (if count = 1 then 32 else if count = 2 then 16 else 8)

/-- Reads `count` continuing bytes onto a number; `taken` counts those before. -/
def readContinued (value : Nat) (taken : Nat) : Nat → Bytes → Front
  | 0, _ => ⟨some (Char.ofNat value), taken⟩
  | _ + 1, [] => ⟨none, taken⟩
  | count + 1, b :: rest =>
    if continues b then readContinued (value * 64 + b.toNat % 64) (taken + 1) count rest
    else ⟨none, taken⟩

/-- What stands at the front of the bytes `b :: rest`. -/
def front (b : UInt8) (rest : Bytes) : Front :=
  if b < 0x80 then ⟨some (Char.ofNat b.toNat), 0⟩
  else
    match opening? b, rest with
    | some (count, low, high), c :: _ =>
      if low ≤ c && c ≤ high then readContinued (openingBits count b) 0 count rest
      else ⟨none, 0⟩
    | _, _ => ⟨none, 0⟩

/-- The characters of the bytes after the first `skip` ones; none stands for bytes that begin no
character. -/
def decodeFrom : Nat → Bytes → List (Option Char)
  | _, [] => []
  | skip + 1, _ :: rest => decodeFrom skip rest
  | 0, b :: rest =>
    let found := front b rest
    found.char? :: decodeFrom found.more rest

/-- The text of some bytes, if they are one. -/
def decode? (bytes : Bytes) : Option (List Char) := (decodeFrom 0 bytes).mapM id

/-- The text of some bytes, with a replacement character where they are none. -/
def decodeLossy (bytes : Bytes) : List Char :=
  (decodeFrom 0 bytes).map fun c => c.getD (Char.ofNat 0xFFFD)

/-- The bytes of a text. -/
def ofString (text : String) : Bytes := encode text.toList

@[simp] theorem encode_nil : encode [] = [] := rfl

end FirmwareBench.Utf8
