import FirmwareBench.Yaml.Scalar
import FirmwareBench.Yaml.Token
set_option autoImplicit false

/-!
# From characters to tokens

Outside brackets, indentation decides where blocks begin and end. A mapping has no mark of its own in
front of its first key: a token that might be a key is remembered, and when a colon follows it in
the same line the start of the mapping is put in front of it.

## Main definitions

* `Lexer`: the tokens so far and what is remembered.
* `tokens`: the tokens of a text.
-/

namespace FirmwareBench.Yaml

/-- A token that may turn out to be a key. -/
structure KeyMark where
  /-- Whether it stands where only a key may stand. -/
  required : Bool
  /-- The number of tokens before it. -/
  number : Nat
  place : Source

/-- The tokens so far and what is remembered. -/
structure Lexer where
  /-- Where to read on. -/
  source : Source
  /-- The tokens, last one first. -/
  tokens : List Token := []
  /-- The columns of the open blocks plus one, innermost first. -/
  indents : List Nat := []
  /-- The number of open brackets. -/
  flow : Nat := 0
  keyAllowed : Bool := true
  /-- For each open bracket and for the text around them, innermost first, what may be a key. -/
  keys : List (Option KeyMark) := [none]

namespace Lexer

/-! ## Tokens -/

def push (l : Lexer) (token : Token) : Lexer := { l with tokens := token :: l.tokens }

/-- With a token behind the first `number` ones. -/
def insert (l : Lexer) (number : Nat) (token : Token) : Lexer :=
  let later := l.tokens.length - number
  { l with tokens := l.tokens.take later ++ token :: l.tokens.drop later }

/-- The column of the innermost block plus one; zero outside all blocks. -/
def indent (l : Lexer) : Nat := l.indents.headD 0

/-- Ends the blocks that are indented further than `indent`. -/
def unrollTo (indent : Nat) : List Nat → List Token → List Nat × List Token
  | [], tokens => ([], tokens)
  | top :: below, tokens =>
    if top > indent then unrollTo indent below (.blockEnd :: tokens) else (top :: below, tokens)

/-- Ends the blocks that are indented further than `indent`, outside brackets. -/
def unroll (l : Lexer) (indent : Nat) : Lexer :=
  if l.flow > 0 then l
  else
    let (indents, tokens) := unrollTo indent l.indents l.tokens
    { l with indents, tokens }

/-- Begins a block at a column, outside brackets and if no block stands as far right. The token is
put behind the first `number` ones. -/
def roll (l : Lexer) (column number : Nat) (token : Token) : Lexer :=
  if l.flow > 0 || l.indent > column then l
  else { l with indents := (column + 1) :: l.indents }.insert number token

/-! ## Keys -/

/-- Forgets what may be a key; it must not be where only a key may stand. -/
def dropKey (l : Lexer) : Except Fault Lexer :=
  match l.keys with
  | some mark :: rest =>
    if mark.required then l.source.fail else .ok { l with keys := none :: rest }
  | _ => .ok l

/-- Remembers that the next token may be a key. -/
def saveKey (l : Lexer) : Except Fault Lexer :=
  if !l.keyAllowed then .ok l
  else do
    let l ← l.dropKey
    let mark : KeyMark :=
      { required := l.flow == 0 && l.indent == l.source.column + 1, number := l.tokens.length,
        place := l.source }
    return { l with keys := some mark :: l.keys.drop 1 }

/-- A key is no longer than this many characters. -/
def keyLimit : Nat := 1024

/-- Whether a token is too far back to be a key. -/
def isStale (s : Source) (mark : KeyMark) : Bool :=
  mark.place.line < s.line || mark.place.index + keyLimit < s.index

def dropStale (l : Lexer) : Except Fault Lexer :=
  if l.keys.any fun mark? => mark?.any fun mark => isStale l.source mark && mark.required then
    l.source.fail
  else
    .ok { l with keys := l.keys.map fun mark? => mark?.filter fun mark => !isStale l.source mark }

/-! ## Blanks and comments -/

/-- Goes on to the next token. The first number bounds the lines. -/
def skipBlanks : Nat → Lexer → Lexer
  | 0, l => l
  | fuel + 1, l =>
    let s := l.source
    let s := if s.index == 0 && s.next? == some (Char.ofNat 0xFEFF) then s.skip else s
    let tabs := l.flow > 0 || !l.keyAllowed
    let s := s.skipWhile fun c => c == ' ' || (tabs && c == '\t')
    let s := if s.isAt '#' then s.skipLine else s
    if s.next?.any isBreak then
      skipBlanks fuel { l with source := s.skipBreak, keyAllowed := l.flow == 0 || l.keyAllowed }
    else { l with source := s }

/-! ## Directives -/

/-- Reads a number of at most nine digits. -/
def readVersionNumber (s : Source) : Except Fault (Nat × Source) :=
  let (digits, after) := s.takeWhile Char.isDigit
  if digits.isEmpty || digits.length > 9 then s.fail
  else .ok (digits.foldl (fun n d => 10 * n + (d.toNat - 48)) 0, after)

/-- Reads the handle of a tag: an exclamation mark, or a name between two of them. What only begins
like a handle is returned too unless `whole` is set. -/
def readTagHandle (whole : Bool) (s : Source) : Except Fault (List Char × Source) :=
  if !s.isAt '!' then s.fail
  else
    let (name, after) := s.skip.takeWhile isNameChar
    if after.isAt '!' then .ok ('!' :: name ++ ['!'], after.skip)
    else if whole && !name.isEmpty then s.fail
    else .ok ('!' :: name, after)

/-- The characters of a tag, apart from escapes. -/
def isTagChar (verbatim : Bool) (c : Char) : Bool :=
  isNameChar c || ";/?:@&=+$.!~*'()".toList.contains c || (verbatim && ",[]".toList.contains c)

def readTagByte (s : Source) : Except Fault (Nat × Source) :=
  match s.rest with
  | '%' :: a :: b :: _ =>
    if isHexDigit a && isHexDigit b then .ok (Unicode.hexValue [a, b], s.skip 3) else s.fail
  | _ => s.fail

/-- How many bytes follow the first byte of an escaped character. -/
def tagByteCount? (first : Nat) : Option Nat :=
  if first < 0x80 then some 0
  else if 0xC0 ≤ first && first < 0xE0 then some 1
  else if 0xE0 ≤ first && first < 0xF0 then some 2
  else if 0xF0 ≤ first && first < 0xF8 then some 3
  else none

/-- Reads the bytes that continue an escaped character. -/
def readTagBytes : Nat → Source → Except Fault (List Char × Source)
  | 0, s => .ok ([], s)
  | count + 1, s => do
    let (b, after) ← readTagByte s
    if b / 64 == 2 then
      let (more, after) ← readTagBytes count after
      return (Char.ofNat b :: more, after)
    else s.fail

/-- Reads the characters of a tag; escaped bytes stand for characters of the same number. The first
number bounds the steps. -/
def readTagText (verbatim : Bool) : Nat → Source → Except Fault (List Char × Source)
  | 0, s => s.fail
  | fuel + 1, s =>
    match s.next? with
    | none => .ok ([], s)
    | some c =>
      if c == '%' then do
        let (first, after) ← readTagByte s
        match tagByteCount? first with
        | none => s.fail
        | some count =>
          let (more, after) ← readTagBytes count after
          let (text, after) ← readTagText verbatim fuel after
          return (Char.ofNat first :: more ++ text, after)
      else if isTagChar verbatim c then do
        let (text, after) ← readTagText verbatim fuel s.skip
        return (c :: text, after)
      else .ok ([], s)

/-- Reads the part of a tag behind what was read of it. Some part of the tag must not be empty. -/
def readTagSuffix (verbatim : Bool) (head : List Char) (s : Source) :
    Except Fault (List Char × Source) := do
  let (text, after) ← readTagText verbatim (s.rest.length + 1) s
  if head.isEmpty && text.isEmpty then s.fail else return (head.drop 1 ++ text, after)

def readDirective (s : Source) : Except Fault (Token × Source) := do
  let (name, after) := s.skip.takeWhile isNameChar
  if name.isEmpty || !endsWord after.next? then s.fail
  else if name == "YAML".toList then
    let (major, after) ← readVersionNumber (after.skipWhile isBlank)
    if !after.isAt '.' then after.fail
    else
      let (minor, after) ← readVersionNumber after.skip
      return (.version major minor, after)
  else if name == "TAG".toList then
    let (handle, after) ← readTagHandle true (after.skipWhile isBlank)
    if !after.next?.any isBlank then after.fail
    else
      let (stem, after) ← readTagSuffix true [] (after.skipWhile isBlank)
      if endsWord after.next? then return (.tagHandle handle stem, after) else after.fail
  else s.fail

/-- Reads a directive with the rest of its line. -/
def readDirectiveLine (s : Source) : Except Fault (Token × Source) := do
  let (token, after) ← readDirective s
  let after := after.skipWhile isBlank
  let after := if after.isAt '#' then after.skipLine else after
  if after.next?.all isBreak then return (token, after.skipBreak) else after.fail

/-! ## Anchors, aliases and tags -/

/-- Reads the name of an anchor or an alias behind its mark. -/
def readAnchorName (s : Source) : Except Fault (String × Source) :=
  let (name, after) := s.skip.takeWhile isNameChar
  let ends := endsWord after.next? || after.next?.any fun c => "?:,]\x7d%@\x60".toList.contains c
  if name.isEmpty || !ends then s.fail else .ok (String.ofList name, after)

def readTagParts (s : Source) : Except Fault (List Char × List Char × Source) :=
  if s.second? == some '<' then do
    let (suffix, after) ← readTagSuffix true [] (s.skip 2)
    if after.isAt '>' then return ([], suffix, after.skip) else after.fail
  else do
    let (handle, after) ← readTagHandle false s
    if handle.length > 1 && handle.getLast? == some '!' then
      let (suffix, after) ← readTagSuffix false [] after
      return (handle, suffix, after)
    else
      let (suffix, after) ← readTagSuffix false handle after
      if suffix.isEmpty then return ([], ['!'], after) else return (['!'], suffix, after)

def readTag (inFlow : Bool) (s : Source) : Except Fault (Token × Source) := do
  let (handle, suffix, after) ← readTagParts s
  if endsWord after.next? || (inFlow && after.isAt ',') then return (.tag handle suffix, after)
  else after.fail

/-! ## One token -/

/-- With a token of one character. -/
def mark (l : Lexer) (token : Token) (keyAllowed : Bool) : Lexer :=
  { l with source := l.source.skip, keyAllowed }.push token

def fetchDocumentMark (l : Lexer) (token : Token) : Except Fault Lexer := do
  let l ← (l.unroll 0).dropKey
  return { l with source := l.source.skip 3, keyAllowed := false }.push token

def fetchDirective (l : Lexer) : Except Fault Lexer := do
  let l ← (l.unroll 0).dropKey
  let (token, after) ← readDirectiveLine l.source
  return { l with source := after, keyAllowed := false }.push token

def fetchOpen (l : Lexer) (token : Token) : Except Fault Lexer := do
  let l ← l.saveKey
  return { l with keys := none :: l.keys, flow := l.flow + 1 }.mark token true

def fetchClose (l : Lexer) (token : Token) : Except Fault Lexer := do
  let l ← l.dropKey
  let l := if l.flow > 0 then { l with flow := l.flow - 1, keys := l.keys.drop 1 } else l
  return l.mark token false

/-- Reads the mark before an item in a block. -/
def fetchBlockEntry (l : Lexer) : Except Fault Lexer := do
  if l.flow == 0 && !l.keyAllowed then l.source.fail
  else
    let l := l.roll l.source.column l.tokens.length .blockSequenceStart
    return (← l.dropKey).mark .blockEntry true

def fetchKey (l : Lexer) : Except Fault Lexer := do
  if l.flow == 0 && !l.keyAllowed then l.source.fail
  else
    let l := l.roll l.source.column l.tokens.length .blockMappingStart
    return (← l.dropKey).mark .key (l.flow == 0)

/-- Reads the mark before a value. What may be a key becomes one. -/
def fetchValue (l : Lexer) : Except Fault Lexer :=
  match l.keys with
  | some key :: rest =>
    let l := { l with keys := none :: rest }.insert key.number .key
    .ok ((l.roll key.place.column key.number .blockMappingStart).mark .value false)
  | _ =>
    if l.flow == 0 && !l.keyAllowed then l.source.fail
    else
      let l := l.roll l.source.column l.tokens.length .blockMappingStart
      .ok (l.mark .value (l.flow == 0))

/-- Reads a token that may be a key. -/
def fetchNamed (l : Lexer) (read : Source → Except Fault (Token × Source)) : Except Fault Lexer := do
  let l ← l.saveKey
  let (token, after) ← read l.source
  return { l with source := after, keyAllowed := false }.push token

def fetchBlockScalar (l : Lexer) (style : Style) : Except Fault Lexer := do
  let l ← l.dropKey
  let (text, after) ← readBlock (style == .literal) l.indent l.source.skip
  return { l with source := after, keyAllowed := true }.push (.scalar (String.ofList text) style)

def fetchPlain (l : Lexer) : Except Fault Lexer := do
  let l ← l.saveKey
  let s := l.source
  let (text, breaks, after) ← readPlain (l.flow > 0) l.indent (s.rest.length + 1) [] {} s
  return { l with source := after, keyAllowed := breaks }.push (.scalar (String.ofList text) .plain)

def readQuotedToken (s : Source) : Except Fault (Token × Source) := do
  let (text, after) ← readQuoted (s.next?.getD '"') (s.rest.length + 1) [] s.skip
  return (.scalar (String.ofList text) .quoted, after)

/-- Whether a plain scalar may begin here. A blank is met only where it is no indentation: a tab in
front of what may be a key. -/
def beginsPlain (l : Lexer) (c : Char) (second? : Option Char) : Bool :=
  (!endsWord (some c) && !"-?:,[]\x7b\x7d#&*!|>'\"%@\x60".toList.contains c) ||
    (c == '-' && !second?.any isBlank) ||
    (l.flow == 0 && (c == '?' || c == ':') && !endsWord second?)

/-- Reads the token that begins with the given character. -/
def fetch (l : Lexer) (c : Char) : Except Fault Lexer :=
  let s := l.source
  let word := endsWord s.second?
  if s.column == 0 && c == '%' then l.fetchDirective
  else if s.isAtMark '-' then l.fetchDocumentMark .documentStart
  else if s.isAtMark '.' then l.fetchDocumentMark .documentEnd
  else if c == '[' then l.fetchOpen .flowSequenceStart
  else if c == '\x7b' then l.fetchOpen .flowMappingStart
  else if c == ']' then l.fetchClose .flowSequenceEnd
  else if c == '\x7d' then l.fetchClose .flowMappingEnd
  else if c == ',' then return (← l.dropKey).mark .flowEntry true
  else if c == '-' && word then l.fetchBlockEntry
  else if c == '?' && (l.flow > 0 || word) then l.fetchKey
  else if c == ':' && (l.flow > 0 || word) then l.fetchValue
  else if c == '*' then l.fetchNamed fun s => do
    let (name, after) ← readAnchorName s
    return (.reference name, after)
  else if c == '&' then l.fetchNamed fun s => do
    let (name, after) ← readAnchorName s
    return (.anchor name, after)
  else if c == '!' then l.fetchNamed (readTag (l.flow > 0))
  else if c == '|' && l.flow == 0 then l.fetchBlockScalar .literal
  else if c == '>' && l.flow == 0 then l.fetchBlockScalar .folded
  else if c == '\'' || c == '"' then l.fetchNamed readQuotedToken
  else if l.beginsPlain c s.second? then l.fetchPlain
  else s.fail

/-- Reads tokens to the end of the text. The first argument bounds their number. -/
def fetchAll : Nat → Lexer → Except Fault Lexer
  | 0, l => l.source.fail
  | fuel + 1, l => do
    let l ← (skipBlanks (l.source.rest.length + 1) l).dropStale
    let l := l.unroll (l.source.column + 1)
    match l.source.next? with
    | none => (l.unroll 0).dropKey
    | some c => fetchAll fuel (← l.fetch c)

end Lexer

/-- The tokens of a text. -/
def tokens (s : Source) : Except Fault (List Token) := do
  let l ← Lexer.fetchAll (s.rest.length + 1) { source := s }
  return l.tokens.reverse

end FirmwareBench.Yaml
