import FirmwareBench.Text.Cut
set_option autoImplicit false

/-!
# Paths

A path is kept as it is written. What it names depends on a file tree; the operations here only
look at the text. A slash parts the pieces of a path; empty pieces and single dots name nothing, but
for a dot at the front of a relative path.

## Main definitions

* `Path`: a written path.
* `Path.components`: the pieces that name something.
* `Path.join`: a path seen from a directory.
* `Path.parent?`: the path without its last component.
* `Path.climb`: a path and its parents, one after the other.
-/

namespace FirmwareBench

/-- A path as it is written. -/
structure Path where
  chars : List Char
deriving DecidableEq, Repr

namespace Path

def ofString (text : String) : Path := ⟨text.toList⟩

def text (p : Path) : String := String.ofList p.chars

def isAbsolute (p : Path) : Bool := p.chars.head? == some '/'

/-- The texts between the slashes of a path. -/
def pieces (p : Path) : List (List Char) := Text.splitAt '/' p.chars

/-- Whether a piece after the first one names nothing. -/
def isIdle (piece : List Char) : Bool := piece.isEmpty || piece == ['.']

/-- The components of a path: the root of an absolute path, and the pieces that name something. -/
def components (p : Path) : List (List Char) :=
  match p.pieces with
  | [] => []
  | first :: rest =>
    let front := if p.isAbsolute then [['/']] else if first.isEmpty then [] else [first]
    front ++ rest.filter fun piece => !isIdle piece

/-- The path of a name seen from a directory; an absolute name stands for itself. -/
def join (dir name : Path) : Path :=
  if name.isAbsolute then name
  else if dir.chars.isEmpty || dir.chars.getLast? == some '/' then ⟨dir.chars ++ name.chars⟩
  else ⟨dir.chars ++ '/' :: name.chars⟩

/-- A path without the slashes at its end; a path of slashes only stays. -/
def trimEnd (p : Path) : Path :=
  let kept := (p.chars.reverse.dropWhile (· == '/')).reverse
  if kept.isEmpty then p else ⟨kept⟩

/-! ## Parents -/

/-- Pieces in reverse order, without those at their front that name nothing. In a relative path the
last one in this order, which is the first piece of the path, names something unless it is empty. -/
def dropIdle (relative : Bool) : List (List Char) → List (List Char)
  | [] => []
  | piece :: before =>
    if piece.isEmpty || (piece == ['.'] && !(relative && before.isEmpty)) then
      dropIdle relative before
    else piece :: before

/-- The path without its last component; none if it has no component besides the root. -/
def parent? (p : Path) : Option Path :=
  if p.isAbsolute then
    match dropIdle false p.pieces.tail.reverse with
    | [] => none
    | _ :: before => some ⟨'/' :: ['/'].intercalate (dropIdle false before).reverse⟩
  else
    match dropIdle true p.pieces.reverse with
    | [] => none
    | _ :: before => some ⟨['/'].intercalate (dropIdle true before).reverse⟩

/-- The first of `count + 1` paths, each but the first one being the parent of the one before. -/
def climbUpTo : Nat → Path → List Path
  | 0, p => [p]
  | count + 1, p =>
    match p.parent? with
    | none => [p]
    | some parent => p :: climbUpTo count parent

/-- A path and its parents, one after the other, until there is none. -/
def climb (p : Path) : List Path := climbUpTo p.pieces.length p

@[simp] theorem text_ofString (text : String) : (ofString text).text = text := by
  simp [ofString, Path.text]

end Path

end FirmwareBench
