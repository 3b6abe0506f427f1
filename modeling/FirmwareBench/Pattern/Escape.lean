import FirmwareBench.Pattern.Basic
import FirmwareBench.Pattern.Flags
import FirmwareBench.Pattern.Quote
import FirmwareBench.Unicode.Script
set_option autoImplicit false

/-!
# Escapes

What a backslash and the characters after it stand for: a character, a set of characters or an
assertion.

## Main definitions

* `Atom`: what a single item of a written pattern stands for.
* `propertySet`: the set of a named property.
* `readEscape`: reads what follows a backslash.
-/

namespace FirmwareBench.Pattern

/-- A single item of a written pattern. -/
inductive Atom where
  /-- A character; `byte` tells that it was written as two hexadecimal digits. -/
  | char (c : Char) (byte : Bool)
  | set (set : CharSet)
  | look (look : Look)

/-! ## Named properties -/

/-- A property name without blanks, joints and a leading `is`, in lower case. -/
def normalName (name : List Char) : String :=
  let kept := fun (text : List Char) =>
    String.ofList ((text.filter fun c => c.toNat < 128 && !" _-".toList.contains c).map Char.toLower)
  let lower := (name.take 2).map Char.toLower
  if lower = ['i', 's'] then
    let rest := kept (name.drop 2)
    if rest = "c" then "isc" else rest
  else kept name

def categorySet (categories : List Unicode.Category) : CharSet :=
  .property Unicode.Category.places (Unicode.inCategories categories)

/-- The set of a general category or of one of the groups that are no categories. -/
def categoryNamed? (name : String) : Option CharSet :=
  match name with
  | "any" => some .anything
  | "assigned" => some (.complement (categorySet [.cn]))
  | "ascii" => some (.range (Char.ofNat 0) (Char.ofNat 127))
  | _ => (Unicode.Category.ofName? name).map categorySet

def scriptNamed? (name : String) : Option CharSet :=
  (Unicode.Script.ofName? name).map fun (_, ranges) => .property ranges.places ranges.contains

def scriptUseNamed? (name : String) : Option CharSet :=
  (Unicode.Script.ofName? name).map fun (short, ranges) =>
    .property (ranges.places ++ Unicode.Script.sharedPlaces)
      (Unicode.Script.isUsedWith short ranges)

def propertyNamed? (name : String) : Option CharSet :=
  match Unicode.property? name with
  | some (places, holds) => some (.property places holds)
  | none => (categoryNamed? name).or (scriptNamed? name)

def propertyValued? (name value : String) : Option CharSet :=
  match name with
  | "gc" | "generalcategory" => categoryNamed? value
  | "sc" | "script" => scriptNamed? value
  | "scx" | "scriptextensions" => scriptUseNamed? value
  | _ => none

/-- Splits a text around the first occurrence of `!=`. -/
def cutUnequal? : List Char → Option (List Char × List Char)
  | '!' :: '=' :: rest => some ([], rest)
  | c :: rest => (cutUnequal? rest).map fun (name, value) => (c :: name, value)
  | [] => none

/-- The set of a written property, and whether it is written with `!=`. -/
def writtenProperty? (text : List Char) : Option CharSet × Bool :=
  match cutUnequal? text with
  | some (name, value) => (propertyValued? (normalName name) (normalName value), true)
  | none =>
    match (Text.cutAt? ':' text).or (Text.cutAt? '=' text) with
    | some (name, value) => (propertyValued? (normalName name) (normalName value), false)
    | none => (propertyNamed? (normalName text), false)

/-- The set closed under case variants where the flags ask for it. -/
def foldCase (flags : Flags) (chars : CharSet) : CharSet :=
  if !flags.ignoreCase then chars
  else if flags.unicode then .variants chars
  else .asciiVariants chars

def negateIf (negated : Bool) (chars : CharSet) : CharSet :=
  if negated then .complement chars else chars

/-- The characters up to the closing brace, and what follows it; `fuel` bounds their number. -/
def readBraced (flags : Flags) : Nat → List Char → Option (List Char × List Char)
  | 0, _ => none
  | fuel + 1, text =>
    match flags.skip text with
    | [] => none
    | c :: rest =>
      if c = '\x7d' then some ([], rest)
      else (readBraced flags fuel rest).map fun (inner, after) => (c :: inner, after)

/-- Reads the property after the letter that announces one. -/
def readProperty (flags : Flags) (negated : Bool) (text : List Char) :
    Except Fault (Atom × List Char) := do
  let (name, rest) ← match flags.skip text with
    | [] => .error .malformed
    | c :: rest =>
      if c = '\x7b' then
        match readBraced flags (rest.length + 1) rest with
        | some found => .ok found
        | none => .error .malformed
      else if c = '\\' then .error .malformed
      else .ok ([c], flags.skip rest)
  if !flags.unicode then .error .outsideText
  else
    match writtenProperty? name with
    | (some chars, unequal) => .ok (.set (negateIf (negated != unequal) (foldCase flags chars)), rest)
    | (none, _) => .error (.unknownProperty (String.ofList name))

/-! ## Classes of one letter -/

/-- Digits, blanks or word characters. -/
def letterSet (flags : Flags) (letter : Char) : CharSet :=
  if flags.unicode then
    match letter with
    | 'd' => .property Unicode.Category.places Unicode.isDecimalDigit
    | 's' => .property Unicode.derivedPlaces Text.isBlank
    | _ => .property Unicode.derivedPlaces Unicode.isWord
  else
    match letter with
    | 'd' => .range '0' '9'
    | 's' => .unionAll [.range '\t' '\r', .single ' ']
    | _ => .unionAll [.range '0' '9', .range 'A' 'Z', .single '_', .range 'a' 'z']

/-- The class of a letter; an upper case letter stands for the complement. -/
def letterClass (flags : Flags) (letter : Char) : Except Fault Atom :=
  let chars := letterSet flags letter.toLower
  if !letter.isUpper then .ok (.set chars)
  else if flags.unicode then .ok (.set (.complement chars))
  else .error .outsideText

/-! ## Characters by number -/

def isHexDigit (c : Char) : Bool :=
  c.isDigit || ('a' ≤ c && c ≤ 'f') || ('A' ≤ c && c ≤ 'F')

def readHexDigits (flags : Flags) : Nat → Nat → List Char → Option (Nat × List Char)
  | value, 0, text => some (value, text)
  | value, count + 1, text =>
    match text with
    | [] => none
    | c :: rest =>
      if isHexDigit c then
        readHexDigits flags (16 * value + Unicode.hexDigitValue c) count (flags.skip rest)
      else none

def charOfNumber (value : Nat) (byte : Bool) (rest : List Char) : Except Fault (Atom × List Char) :=
  if value.isValidChar then .ok (.char (Char.ofNat value) byte, rest) else .error .malformed

/-- Reads a character by its number, after the letter that announces one. -/
def readNumber (flags : Flags) (letter : Char) (text : List Char) :
    Except Fault (Atom × List Char) :=
  match flags.skip text with
  | [] => .error .malformed
  | c :: rest =>
    if c = '\x7b' then
      match readBraced flags (rest.length + 1) rest with
      | some (digits, after) =>
        if digits.isEmpty || !digits.all isHexDigit then .error .malformed
        else charOfNumber (Unicode.hexValue digits) false (flags.skip after)
      | none => .error .malformed
    else
      let count := if letter = 'x' then 2 else if letter = 'u' then 4 else 8
      match readHexDigits flags 0 count (c :: rest) with
      | some (value, after) => charOfNumber value (letter = 'x') after
      | none => .error .malformed

/-! ## Word boundaries -/

def namedBoundary? (ascii : Bool) (name : String) : Option Look :=
  match name with
  | "start" => some (.wordStart ascii)
  | "end" => some (.wordStop ascii)
  | "start-half" => some (.wordStartHalf ascii)
  | "end-half" => some (.wordStopHalf ascii)
  | _ => none

/-- The letters and dashes at the front, and what follows them; `fuel` bounds their number. -/
def readBoundaryName (flags : Flags) : Nat → List Char → List Char × List Char
  | 0, text => ([], text)
  | fuel + 1, text =>
    match text with
    | [] => ([], [])
    | c :: rest =>
      if c.isAlpha || c = '-' then
        let (name, after) := readBoundaryName flags fuel (flags.skip rest)
        (c :: name, after)
      else ([], text)

/-- Reads what may follow `\b`: the name of a boundary in braces. A brace before anything else is
left for a repetition. -/
def readBoundary (flags : Flags) (text : List Char) : Except Fault (Atom × List Char) :=
  let ascii := !flags.unicode
  let plain := (Atom.look (.word ascii), text)
  match text with
  | [] => .ok plain
  | c :: rest =>
    if c ≠ '\x7b' then .ok plain
    else
      match flags.skip rest with
      | [] => .error .malformed
      | d :: later =>
        if !(d.isAlpha || d = '-') then .ok plain
        else
          match readBoundaryName flags (later.length + 1) (d :: later) with
          | (name, e :: after) =>
            if e ≠ '\x7d' then .error .malformed
            else
              match namedBoundary? ascii (String.ofList name) with
              | some boundary => .ok (.look boundary, after)
              | none => .error .malformed
          | (_, []) => .error .malformed

/-! ## All escapes -/

/-- Whether a character without a meaning may stand behind a backslash. -/
def isEscapable (c : Char) : Bool :=
  isMeta c || (c.toNat < 128 && !c.isAlphanum && c != '<' && c != '>')

/-- Reads what follows a backslash. -/
def readEscape (flags : Flags) (text : List Char) : Except Fault (Atom × List Char) :=
  match text with
  | [] => .error .malformed
  | c :: rest =>
    if isEscapable c then .ok (.char c false, rest)
    else if c = 'x' || c = 'u' || c = 'U' then readNumber flags c rest
    else if c = 'p' || c = 'P' then readProperty flags (c = 'P') rest
    else if "dswDSW".toList.contains c then (letterClass flags c).map (·, rest)
    else
      let ascii := !flags.unicode
      match c with
      | 'a' => .ok (.char (Char.ofNat 7) false, rest)
      | 'f' => .ok (.char (Char.ofNat 12) false, rest)
      | 't' => .ok (.char '\t' false, rest)
      | 'n' => .ok (.char '\n' false, rest)
      | 'r' => .ok (.char '\r' false, rest)
      | 'v' => .ok (.char (Char.ofNat 11) false, rest)
      | 'A' => .ok (.look .start, rest)
      | 'z' => .ok (.look .stop, rest)
      | 'b' => readBoundary flags rest
      | 'B' => .ok (.look (.noWord ascii), rest)
      | '<' => .ok (.look (.wordStart ascii), rest)
      | '>' => .ok (.look (.wordStop ascii), rest)
      | _ => .error .malformed

end FirmwareBench.Pattern
