import FirmwareBench.FileTree.Basic
set_option autoImplicit false

/-!
# Fields

The value of a word is a sequence of atoms. It falls into fields, and a field with unquoted wildcards
stands for the files that match it.

## Main definitions

* `Atom`, `Field`: characters of a value, and what is between two cuts.
* `fields`: the fields of a value.
* `Wildcard`, `matchesText`: patterns of wildcards.
* `filesMatching`: the files that a field stands for.
-/

namespace FirmwareBench.Shell

/-- A piece of the value of a word. -/
inductive Atom where
  | char (c : Char) (quoted : Bool)
  /-- Nothing, which makes a field all the same. -/
  | presence
  | cut
deriving DecidableEq, Repr

/-- The characters of a field, each with whether it is quoted. -/
abbrev Field := List (Char × Bool)

def Field.text (field : Field) : String := String.ofList (field.map Prod.fst)

/-! ## Cutting values -/

/-- The atoms of an unquoted text, which separators cut. -/
def cutText (separators : List Char) (text : List Char) : List Atom :=
  text.flatMap fun c =>
    if !separators.contains c then [.char c false]
    else if c == ' ' || c == '\t' || c == '\n' then [.cut]
    else [.presence, .cut]

/-- The atoms of a quoted text. -/
def quotedText (text : List Char) : List Atom := .presence :: text.map (.char · true)

/-- The fields of a value after the one being read, which is there if something makes it. -/
def fieldsFrom (field : Field) (present : Bool) : List Atom → List Field
  | [] => if present then [field] else []
  | .char c quoted :: rest => fieldsFrom (field ++ [(c, quoted)]) true rest
  | .presence :: rest => fieldsFrom field true rest
  | .cut :: rest => if present then field :: fieldsFrom [] false rest else fieldsFrom [] false rest

def fields (atoms : List Atom) : List Field := fieldsFrom [] false atoms

/-- A value as one field; where it would be cut stands a blank. -/
def wholeField (atoms : List Atom) : Field :=
  atoms.filterMap fun
    | .char c quoted => some (c, quoted)
    | .presence => none
    | .cut => some (' ', true)

/-! ## Wildcards -/

/-- A piece of a pattern. -/
inductive Wildcard where
  | char (c : Char)
  | anyText
  | anyChar
  /-- A character in one of some ranges, or in none of them. -/
  | oneOf (negated : Bool) (ranges : List (Char × Char))
deriving DecidableEq, Repr

def bracketRanges : List Char → List (Char × Char)
  | low :: '-' :: high :: rest => (low, high) :: bracketRanges rest
  | c :: rest => (c, c) :: bracketRanges rest
  | [] => []

/-- A bracket after its opening, with the number of characters it takes. -/
def bracket? (text : List Char) : Option (Wildcard × Nat) :=
  let negated := text.head? == some '!' || text.head? == some '^'
  let body := if negated then text.tail else text
  match body with
  | [] => none
  | first :: rest =>
    let inner := rest.takeWhile (· != ']')
    if inner.length == rest.length then none
    else
      some (.oneOf negated (bracketRanges (first :: inner)),
        inner.length + 2 + if negated then 1 else 0)

/-- The pattern that is left of a field after `skip` characters. -/
def wildcardsFrom : Nat → Field → List Wildcard
  | _, [] => []
  | skip + 1, _ :: rest => wildcardsFrom skip rest
  | 0, (c, quoted) :: rest =>
    if quoted then .char c :: wildcardsFrom 0 rest
    else if c == '*' then .anyText :: wildcardsFrom 0 rest
    else if c == '?' then .anyChar :: wildcardsFrom 0 rest
    else if c == '[' then
      match bracket? (rest.map Prod.fst) with
      | some (wildcard, taken) => wildcard :: wildcardsFrom taken rest
      | none => .char c :: wildcardsFrom 0 rest
    else .char c :: wildcardsFrom 0 rest

def wildcards (field : Field) : List Wildcard := wildcardsFrom 0 field

/-- Whether a character matches a piece of a pattern that stands for one. -/
def Wildcard.matchesChar (wildcard : Wildcard) (c : Char) : Bool :=
  match wildcard with
  | .char expected => c == expected
  | .anyChar => true
  | .anyText => false
  | .oneOf negated ranges => negated != ranges.any fun (low, high) => low ≤ c && c ≤ high

/-- Whether a test holds of a text or of one of its ends. -/
def anyEnd (test : List Char → Bool) : List Char → Bool
  | [] => test []
  | c :: rest => test (c :: rest) || anyEnd test rest

def matchesText : List Wildcard → List Char → Bool
  | [], text => text.isEmpty
  | .anyText :: rest, text => anyEnd (matchesText rest) text
  | wildcard :: rest, text =>
    match text with
    | [] => false
    | c :: text => wildcard.matchesChar c && matchesText rest text

/-- The numbers of characters that a pattern matches at the front of a text, smallest first. -/
def matchingLengths (pattern : List Wildcard) (text : List Char) : List Nat :=
  (List.range (text.length + 1)).filter fun n => matchesText pattern (text.take n)

/-- A text without the shortest or longest front that a pattern matches. -/
def trimFront (longest : Bool) (pattern : List Wildcard) (text : List Char) : List Char :=
  let lengths := matchingLengths pattern text
  text.drop ((if longest then lengths.getLast? else lengths.head?).getD 0)

/-- A text without the shortest or longest end that a pattern matches. -/
def trimEnd (longest : Bool) (pattern : List Wildcard) (text : List Char) : List Char :=
  let starts := (List.range (text.length + 1)).filter fun n => matchesText pattern (text.drop n)
  text.take ((if longest then starts.head? else starts.getLast?).getD text.length)

/-! ## Files -/

def hasWildcard (field : Field) : Bool :=
  field.any fun (c, quoted) => !quoted && (c == '*' || c == '?' || c == '[')

/-- The pieces of a field between slashes. -/
def fieldPieces : Field → List Field
  | [] => [[]]
  | (c, quoted) :: rest =>
    if c == '/' then [] :: fieldPieces rest
    else match fieldPieces rest with
      | [] => [[(c, quoted)]]
      | piece :: later => ((c, quoted) :: piece) :: later

/-- The names in a directory that a piece matches. A hidden file is matched by a dot only. -/
def namesMatching (tree : FileTree) (cwd : Place) (dir : String) (piece : Field) : List String :=
  match tree.resolve cwd (.ofString (if dir.isEmpty then "." else dir)) with
  | .ok (place, .directory) =>
    ("." :: ".." :: tree.children place).filter fun name =>
      (piece.head?.map Prod.fst == some '.' || !name.startsWith ".") &&
        matchesText (wildcards piece) name.toList
  | _ => []

/-- The paths that begin in one of some directories and go on as pieces say. -/
def pathsAlong (tree : FileTree) (cwd : Place) (dirs : List String) : List Field → List String
  | [] => []
  | piece :: rest =>
    let here := dirs.flatMap fun dir =>
      if hasWildcard piece then (namesMatching tree cwd dir piece).map (dir ++ ·)
      else [dir ++ Field.text piece]
    if rest.isEmpty then here.filter fun path => (tree.walk cwd false (.ofString path) matches .ok (.found _ _))
    else pathsAlong tree cwd (here.map (· ++ "/")) rest

/-- The files that a field stands for; a field that no file matches stands for itself. -/
def filesMatching (tree : FileTree) (cwd : Place) (field : Field) : List String :=
  if hasWildcard field then
    match pathsAlong tree cwd [""] (fieldPieces field) with
    | [] => [field.text]
    | paths => paths
  else [field.text]

end FirmwareBench.Shell
