import FirmwareBench.Yaml.Token
set_option autoImplicit false

/-!
# Documents

A document is a tree of scalars, sequences and mappings. An alias stands for the node that carries
its anchor; anchors are numbers here.

## Main definitions

* `Node`: a node of a document.
* `Node.anchored?`: the node that an alias stands for.
-/

namespace FirmwareBench.Yaml

/-- A node of a document. -/
inductive Node where
  /-- A text with its tag, if it has one. -/
  | scalar (anchor? : Option Nat) (tag? : Option String) (text : String) (style : Style)
  | sequence (anchor? : Option Nat) (items : List Node)
  | mapping (anchor? : Option Nat) (entries : List (Node × Node))
  /-- The node with an anchor. -/
  | reference (anchor : Nat)

namespace Node

mutual

/-- The number of starts, ends and scalars that a node is written with. -/
def size : Node → Nat
  | scalar _ _ _ _ | reference _ => 1
  | sequence _ items => 2 + sizeItems items
  | mapping _ entries => 2 + sizeEntries entries

def sizeItems : List Node → Nat
  | [] => 0
  | item :: rest => item.size + sizeItems rest

def sizeEntries : List (Node × Node) → Nat
  | [] => 0
  | (key, value) :: rest => key.size + value.size + sizeEntries rest

end

mutual

/-- The last node with an anchor, in the order in which nodes begin. -/
def anchored? (anchor : Nat) : Node → Option Node
  | scalar a t text style => if a == some anchor then some (scalar a t text style) else none
  | sequence a items =>
    (anchoredAmong? anchor items).or (if a == some anchor then some (sequence a items) else none)
  | mapping a entries =>
    (anchoredInPairs? anchor entries).or (if a == some anchor then some (mapping a entries) else none)
  | reference _ => none

def anchoredAmong? (anchor : Nat) : List Node → Option Node
  | [] => none
  | item :: rest => (anchoredAmong? anchor rest).or (item.anchored? anchor)

def anchoredInPairs? (anchor : Nat) : List (Node × Node) → Option Node
  | [] => none
  | (key, value) :: rest =>
    ((anchoredInPairs? anchor rest).or (value.anchored? anchor)).or (key.anchored? anchor)

end

end Node

end FirmwareBench.Yaml
