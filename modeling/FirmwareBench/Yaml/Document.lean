import FirmwareBench.Yaml.Lexer
import FirmwareBench.Yaml.Node
set_option autoImplicit false

/-!
# From tokens to documents

The grammar of tokens, read from left to right. Names of anchors become numbers on the way: a name
gets the number of names known before it, and keeps its number until it is given anew.

## Main definitions

* `Remaining`: the tokens left to read and what is known about names.
* `document?`: the document of some tokens.
* `load`: the document in some bytes.
-/

namespace FirmwareBench.Yaml

/-- The tokens left to read and what is known about names. -/
structure Remaining where
  tokens : List Token
  /-- The names of anchors with their numbers. -/
  anchors : List (String × Nat) := []
  /-- The handles of tags with what they stand for. -/
  handles : List (List Char × List Char) := []

/-- The tag and the anchor in front of a node. -/
structure Properties where
  /-- The number of the anchor. -/
  anchor? : Option Nat := none
  tag? : Option String := none

namespace Remaining

def next? (r : Remaining) : Option Token := r.tokens.head?

/-- Whether the next token is one of the given ones; with `none` among them, whether there is no
token left. -/
def isAt (r : Remaining) (tokens : List (Option Token)) : Bool := tokens.contains r.next?

def skip (r : Remaining) : Remaining := { r with tokens := r.tokens.drop 1 }

/-- The number for a name, which it keeps from now on. -/
def nameAnchor (r : Remaining) (name : String) : Nat × Remaining :=
  let number := r.anchors.length
  (number, { r with anchors := (name, number) :: r.anchors.filter (·.1 != name) })

/-- The tag that a handle and a suffix stand for. -/
def tagOf (r : Remaining) (handle suffix : List Char) : Except Fault String :=
  if handle.isEmpty then .ok (String.ofList suffix)
  else
    match r.handles.lookup handle with
    | some stem => .ok (String.ofList (stem ++ suffix))
    | none => .error .misplaced

def readAnchor (r : Remaining) (p : Properties) : Properties × Remaining :=
  match r.next? with
  | some (.anchor name) =>
    let (number, r) := r.skip.nameAnchor name
    ({ p with anchor? := some number }, r)
  | _ => (p, r)

def readTag (r : Remaining) (p : Properties) : Except Fault (Properties × Remaining) :=
  match r.next? with
  | some (.tag handle suffix) => do
    return ({ p with tag? := some (← r.tagOf handle suffix) }, r.skip)
  | _ => .ok (p, r)

/-- Reads the tag and the anchor in front of a node, in either order. -/
def readProperties (r : Remaining) : Except Fault (Properties × Remaining) := do
  match r.next? with
  | some (.anchor _) =>
    let (p, r) := r.readAnchor {}
    r.readTag p
  | _ =>
    let (p, r) ← r.readTag {}
    return if p.tag?.isSome then r.readAnchor p else (p, r)

end Remaining

def unwritten : Node := .scalar none none "" .plain

/-- A scalar; an exclamation mark alone is no tag. -/
def scalarOf (p : Properties) (text : String) (style : Style) : Node :=
  .scalar p.anchor? (p.tag?.filter (· != "!")) text style

mutual

/-- Reads a node. `inBlock` admits blocks, and `indentless` a sequence that is not indented against
the mapping around it. The first argument bounds the number of steps. -/
def readNode (inBlock indentless : Bool) : Nat → Remaining → Except Fault (Node × Remaining)
  | 0, _ => .error .misplaced
  | fuel + 1, r =>
    match r.next? with
    | some (.reference name) =>
      match r.anchors.lookup name with
      | some number => .ok (.reference number, r.skip)
      | none => .error (.unknownAlias name)
    | _ => do
      let (p, r) ← r.readProperties
      match r.next? with
      | some .blockEntry =>
        if indentless then
          let (items, r) ← readIndentless fuel r
          return (.sequence p.anchor? items, r)
        else noContent p r
      | some (.scalar text style) => return (scalarOf p text style, r.skip)
      | some .flowSequenceStart =>
        let (items, r) ← readFlowItems true fuel r.skip
        return (.sequence p.anchor? items, r)
      | some .flowMappingStart =>
        let (entries, r) ← readFlowEntries true fuel r.skip
        return (.mapping p.anchor? entries, r)
      | some .blockSequenceStart =>
        if inBlock then
          let (items, r) ← readBlockItems fuel r.skip
          return (.sequence p.anchor? items, r)
        else noContent p r
      | some .blockMappingStart =>
        if inBlock then
          let (entries, r) ← readBlockEntries fuel r.skip
          return (.mapping p.anchor? entries, r)
        else noContent p r
      | _ => noContent p r

/-- A node without content, which must have a tag or an anchor. -/
def noContent (p : Properties) (r : Remaining) : Except Fault (Node × Remaining) :=
  if p.anchor?.isSome || p.tag?.isSome then
    .ok (.scalar p.anchor? p.tag? "" .plain, r)
  else .error .misplaced

/-- Reads a node unless one of the given tokens follows. -/
def readNodeUnless (stops : List (Option Token)) (inBlock indentless : Bool) :
    Nat → Remaining → Except Fault (Node × Remaining)
  | 0, _ => .error .misplaced
  | fuel + 1, r =>
    if r.isAt stops then .ok (unwritten, r) else readNode inBlock indentless fuel r

def readBlockItems : Nat → Remaining → Except Fault (List Node × Remaining)
  | 0, _ => .error .misplaced
  | fuel + 1, r =>
    match r.next? with
    | some .blockEntry => do
      let (item, r) ←
        readNodeUnless [some .blockEntry, some .blockEnd] true false fuel r.skip
      let (items, r) ← readBlockItems fuel r
      return (item :: items, r)
    | some .blockEnd => .ok ([], r.skip)
    | _ => .error .misplaced

/-- Reads the items of a sequence that is not indented. -/
def readIndentless : Nat → Remaining → Except Fault (List Node × Remaining)
  | 0, _ => .error .misplaced
  | fuel + 1, r =>
    match r.next? with
    | some .blockEntry => do
      let (item, r) ←
        readNodeUnless [some .blockEntry, some .key, some .value, some .blockEnd] true false fuel
          r.skip
      let (items, r) ← readIndentless fuel r
      return (item :: items, r)
    | _ => .ok ([], r)

def readBlockEntries : Nat → Remaining → Except Fault (List (Node × Node) × Remaining)
  | 0, _ => .error .misplaced
  | fuel + 1, r =>
    let stops := [some .key, some .value, some .blockEnd]
    match r.next? with
    | some .key => do
      let (key, r) ← readNodeUnless stops true true fuel r.skip
      let (value, r) ←
        if r.next? == some .value then readNodeUnless stops true true fuel r.skip
        else pure (unwritten, r)
      let (entries, r) ← readBlockEntries fuel r
      return ((key, value) :: entries, r)
    | some .blockEnd => .ok ([], r.skip)
    | _ => .error .misplaced

/-- Reads the items between brackets; `first` tells that no item was read before. -/
def readFlowItems (first : Bool) : Nat → Remaining → Except Fault (List Node × Remaining)
  | 0, _ => .error .misplaced
  | fuel + 1, r =>
    if r.next? == some .flowSequenceEnd then .ok ([], r.skip)
    else if !first && r.next? != some .flowEntry then .error .misplaced
    else
      let r := if first then r else r.skip
      match r.next? with
      | some .flowSequenceEnd => .ok ([], r.skip)
      | some .key => do
        let (entry, r) ← readFlowPair fuel r.skip
        let (items, r) ← readFlowItems false fuel r
        return (.mapping none [entry] :: items, r)
      | _ => do
        let (item, r) ← readNode false false fuel r
        let (items, r) ← readFlowItems false fuel r
        return (item :: items, r)

/-- Reads a pair that stands in a sequence between brackets, behind the mark of its key. -/
def readFlowPair : Nat → Remaining → Except Fault ((Node × Node) × Remaining)
  | 0, _ => .error .misplaced
  | fuel + 1, r => do
    let (key, r) ←
      if r.isAt [some .value, some .flowEntry, some .flowSequenceEnd] then
        pure (unwritten, r.skip)
      else readNode false false fuel r
    let (value, r) ←
      if r.next? == some .value then
        readNodeUnless [some .flowEntry, some .flowSequenceEnd] false false fuel r.skip
      else pure (unwritten, r)
    return ((key, value), r)

/-- Reads the entries between braces; `first` tells that no entry was read before. -/
def readFlowEntries (first : Bool) : Nat → Remaining → Except Fault (List (Node × Node) × Remaining)
  | 0, _ => .error .misplaced
  | fuel + 1, r =>
    if r.next? == some .flowMappingEnd then .ok ([], r.skip)
    else if !first && r.next? != some .flowEntry then .error .misplaced
    else
      let r := if first then r else r.skip
      match r.next? with
      | some .flowMappingEnd => .ok ([], r.skip)
      | some .key => do
        let (key, r) ←
          readNodeUnless [some .value, some .flowEntry, some .flowMappingEnd] false false fuel
            r.skip
        let (value, r) ←
          if r.next? == some .value then
            readNodeUnless [some .flowEntry, some .flowMappingEnd] false false fuel r.skip
          else pure (unwritten, r)
        let (entries, r) ← readFlowEntries false fuel r
        return ((key, value) :: entries, r)
      | _ => do
        let (key, r) ← readNode false false fuel r
        let (entries, r) ← readFlowEntries false fuel r
        return ((key, unwritten) :: entries, r)

end

/-! ## Whole texts -/

def readDirectives (versioned : Bool) (r : Remaining) : List Token → Except Fault Remaining
  | .version major minor :: rest =>
    if versioned || major != 1 || (minor != 1 && minor != 2) then .error .misplaced
    else readDirectives true r rest
  | .tagHandle handle stem :: rest =>
    if (r.handles.lookup handle).isSome then .error .misplaced
    else readDirectives versioned { r with handles := (handle, stem) :: r.handles } rest
  | rest => .ok { r with tokens := rest }

/-- The handles that need no directive. -/
def standardHandles : List (List Char × List Char) :=
  [(['!'], ['!']), (['!', '!'], "tag:yaml.org,2002:".toList)]

/-- Reads the content of a document whose start is marked. -/
def readMarked (fuel : Nat) (r : Remaining) : Except Fault (Node × Remaining) :=
  match r.next? with
  | none | some .documentStart | some .documentEnd | some (.version _ _) | some (.tagHandle _ _) =>
    .ok (unwritten, r)
  | _ => readNode true false fuel r

/-- Reads the first document with the directives and the mark before it. -/
def readDocument (fuel : Nat) (r : Remaining) : Except Fault (Node × Remaining) :=
  match r.next? with
  | some .documentStart | some (.version _ _) | some (.tagHandle _ _) => do
    let r ← readDirectives false r r.tokens
    match r.next? with
    | some .documentStart =>
      readMarked fuel { r.skip with handles := r.handles ++ standardHandles }
    | _ => .error .misplaced
  | _ => readNode true false fuel { r with handles := standardHandles }

/-- The document of some tokens; none if there are no tokens. There must not be a second one. -/
def document? (tokens : List Token) : Except Fault (Option Node) := do
  if tokens.isEmpty then return none
  else
    let (root, r) ← readDocument (4 * tokens.length + 4) { tokens }
    if r.tokens.all (· == .documentEnd) then return some root else .error .severalDocuments

def load (bytes : Utf8.Bytes) : Except Fault (Option Node) := do
  document? (← tokens (← Source.ofBytes bytes))

end FirmwareBench.Yaml
