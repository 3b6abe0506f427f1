import FirmwareBench.Dict
import FirmwareBench.Yaml.Document
set_option autoImplicit false

/-!
# Values from documents

Texts, flags, lists, records and dictionaries are read from the nodes of a document. Any scalar is a
text as it is written. A node that is not written stands for an empty list, dictionary or record.

## Main definitions

* `Reading`: a computation that may fail and counts the aliases it follows.
* `Scope`: the document around a node.
* `Scope.text`, `Scope.flag`, `Scope.optional`, `Scope.list`, `Scope.texts`, `Scope.record`:
  read values.
* `read`: reads a value from some bytes.
-/

namespace FirmwareBench.Yaml

/-- A computation that may fail; the number left is that of the aliases it may still follow. -/
abbrev Reading (α : Type) := StateT Nat (Except Fault) α

/-- The document around a node. -/
structure Scope where
  /-- The root of the document; none if there is nothing in it. -/
  root? : Option Node

/-- The fields of a record that are known, with the nodes they hold. -/
abbrev Fields := List (String × Node)

namespace Scope

def fail {α : Type} (fault : Fault) : Reading α := fun _ => .error fault

/-- The node that an alias stands for; any other node stands for itself. -/
def follow (scope : Scope) (node : Node) : Reading Node :=
  match node with
  | .reference anchor => do
    match ← get with
    | 0 => fail .tooManyAliases
    | left + 1 =>
      set left
      match scope.root?.bind (·.anchored? anchor) with
      | some target => return target
      | none => fail (.unexpected "anchor")
  | _ => return node

/-- Whether a node stands for nothing at all. -/
def isUnwritten : Node → Bool
  | .scalar _ _ text style => text.isEmpty && style == .plain
  | _ => false

def text (scope : Scope) (node : Node) : Reading String := do
  match ← scope.follow node with
  | .scalar _ _ text _ => return text
  | _ => fail (.unexpected "text")

/-- The tags of flags and of nothing. -/
def flagTag : String := "tag:yaml.org,2002:bool"

@[inherit_doc flagTag] def nullTag : String := "tag:yaml.org,2002:null"

def flagOf? (word : String) : Option Bool :=
  if ["true", "True", "TRUE"].contains word then some true
  else if ["false", "False", "FALSE"].contains word then some false
  else none

def flag (scope : Scope) (node : Node) : Reading Bool := do
  match ← scope.follow node with
  | .scalar _ tag? text style =>
    if style == .plain || (style == .literal && tag? == some flagTag) then
      match flagOf? text with
      | some value => return value
      | none => fail (.unexpected "flag")
    else fail (.unexpected "flag")
  | _ => fail (.unexpected "flag")

def isNull (word : String) : Bool := ["null", "Null", "NULL", "~"].contains word

/-- Reads a value that may be left out. -/
def optional {α : Type} (scope : Scope) (read : Node → Reading α) (node : Node) :
    Reading (Option α) := do
  let node ← scope.follow node
  match node with
  | .scalar _ (some tag) text _ =>
    if tag != nullTag then some <$> read node
    else if isNull text then return none
    else fail (.unexpected "nothing")
  | .scalar _ none text style =>
    if style == .plain && (text.isEmpty || isNull text) then return none else some <$> read node
  | _ => some <$> read node

def list {α : Type} (scope : Scope) (read : Node → Reading α) (node : Node) :
    Reading (List α) := do
  let node ← scope.follow node
  match node with
  | .sequence _ items => items.mapM read
  | _ => if isUnwritten node then return [] else fail (.unexpected "list")

def entries (scope : Scope) (node : Node) : Reading (List (Node × Node)) := do
  let node ← scope.follow node
  match node with
  | .mapping _ entries => return entries
  | _ => if isUnwritten node then return [] else fail (.unexpected "mapping")

/-- Reads a dictionary of texts. Of entries with one key the last one counts. -/
def texts (scope : Scope) (node : Node) : Reading (Dict String) := do
  let pairs ← (← scope.entries node).mapM fun (key, value) => do
    return (← scope.text key, ← scope.text value)
  return Dict.ofList pairs

/-- Takes the known fields among some entries; none may be there twice. -/
def knownFields (scope : Scope) (known : List String) : List (Node × Node) → Reading Fields
  | [] => return []
  | (key, value) :: rest => do
    let name ← scope.text key
    let fields ← knownFields scope known rest
    if !known.contains name then return fields
    else if (fields.lookup name).isSome then fail (.repeatedField name)
    else return (name, value) :: fields

/-- Reads the known fields of a record. -/
def record (scope : Scope) (known : List String) (node : Node) : Reading Fields := do
  scope.knownFields known (← scope.entries node)

def required {α : Type} (fields : Fields) (name : String) (read : Node → Reading α) : Reading α :=
  match fields.lookup name with
  | some node => read node
  | none => fail (.missingField name)

def defaulted {α : Type} (fields : Fields) (name : String) (fallback : α)
    (read : Node → Reading α) : Reading α :=
  match fields.lookup name with
  | some node => read node
  | none => return fallback

end Scope

/-- For each start, end and scalar of a document this many aliases may be followed. -/
def aliasFactor : Nat := 100

/-- Reads a value from some bytes. -/
def read {α : Type} (value : Scope → Node → Reading α) (bytes : Utf8.Bytes) : Except Fault α := do
  let root? ← load bytes
  let size := (root?.map Node.size).getD 1
  let (a, _) ← (value ⟨root?⟩ (root?.getD unwritten)).run (aliasFactor * size)
  return a

end FirmwareBench.Yaml
