import FirmwareBench.Shell.Utility.Basic
set_option autoImplicit false

/-!
# The utility that tests conditions

A condition is written as words: texts, comparisons, questions about files, and what joins them.
-/

namespace FirmwareBench.Shell.Utility

/-- Where a path leads to. -/
def nodeAt? (around : Surroundings) (host : Host) (path : String) : Option Node :=
  (host.tree.resolve around.cwd (.ofString path)).toOption.map Prod.snd

def isLink (around : Surroundings) (host : Host) (path : String) : Bool :=
  host.tree.walk around.cwd false (.ofString path) matches .ok (.found _ (.link _))

/-- Whether a question about a text or a path has the answer yes. -/
def question? (around : Surroundings) (host : Host) (mark text : String) : Option Bool :=
  let node? := nodeAt? around host text
  match mark with
  | "-n" => some (!text.isEmpty)
  | "-z" => some text.isEmpty
  | "-e" => some node?.isSome
  | "-r" => some (node?.any (host.tree.permits .read))
  | "-w" => some (node?.any (host.tree.permits .write))
  | "-x" => some (node?.any (host.tree.permits .execute))
  | "-f" => some (node?.any Node.isFile)
  | "-d" => some (node? == some .directory)
  | "-s" => some (node?.any fun
    | .file content _ => !content.isEmpty
    | .directory | .program _ => true
    | _ => false)
  | "-L" | "-h" => some (isLink around host text)
  | _ => none

def compareNumbers? (mark left right : String) : Option Bool :=
  match readInt? left, readInt? right with
  | some a, some b =>
    match mark with
    | "-eq" => some (a == b)
    | "-ne" => some (a != b)
    | "-lt" => some (a < b)
    | "-le" => some (a ≤ b)
    | "-gt" => some (b < a)
    | "-ge" => some (b ≤ a)
    | _ => none
  | _, _ => none

def comparison? (mark left right : String) : Option Bool :=
  match mark with
  | "=" | "==" => some (left == right)
  | "!=" => some (left != right)
  | _ => compareNumbers? mark left right

def comparisonMarks : List String :=
  ["=", "==", "!=", "-eq", "-ne", "-lt", "-le", "-gt", "-ge"]

/-- Whether a condition holds; none if it is not written as it should be. -/
def condition? (around : Surroundings) (host : Host) : Nat → List String → Option Bool
  | 0, _ => none
  | fuel + 1, words =>
    let again := condition? around host fuel
    match words with
    | [] => some false
    | [text] => some (!text.isEmpty)
    | ["!", text] => some text.isEmpty
    | [mark, text] => question? around host mark text
    | words =>
      let simple? := match words with
        | [left, mark, right] => if comparisonMarks.contains mark then some (left, mark, right) else none
        | _ => none
      match simple? with
      | some (left, mark, right) => comparison? mark left right
      | none =>
        match words.idxOf? "-o", words.idxOf? "-a" with
        | some i, _ => do return (← again (words.take i)) || (← again (words.drop (i + 1)))
        | none, some i => do return (← again (words.take i)) && (← again (words.drop (i + 1)))
        | none, none =>
          if words.head? == some "!" then (again words.tail).map (!·)
          else if words.head? == some "(" && words.getLast? == some ")" then
            again words.tail.dropLast
          else none

/-- What is wrong with a condition that is none. -/
def conditionComplaint (words : List String) : String :=
  match words with
  | [left, mark, right] =>
    if mark.startsWith "-" && comparisonMarks.contains mark then
      "Illegal number: " ++ if (readInt? left).isNone then left else right
    else left ++ ": unexpected operator"
  | words => words.headD "" ++ ": unexpected operator"

/-- Ends with 0 if a condition holds, with 1 if it does not, and with 2 if it is none. -/
def test : Utility := fun around name words host =>
  let (words, closed) :=
    if name == "[" then (words.dropLast, words.getLast? == some "]") else (words, true)
  if !closed then (around.complain (name ++ ": missing ]") host, 2)
  else
    match condition? around host (words.length + 1) words with
    | some true => (host, 0)
    | some false => (host, 1)
    | none => (around.complain (name ++ ": " ++ conditionComplaint words) host, 2)

end FirmwareBench.Shell.Utility
