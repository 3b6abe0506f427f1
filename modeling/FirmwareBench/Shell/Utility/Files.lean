import FirmwareBench.Shell.Utility.Basic
set_option autoImplicit false

/-!
# Utilities for files

Showing, making, copying, moving and removing files and directories.
-/

namespace FirmwareBench.Shell.Utility

/-- Goes on with a changed tree, or complains. -/
def settle (around : Surroundings) (name complaint : String) (host : Host)
    (result : Except Fault FileTree) : Host × Nat :=
  match result with
  | .ok tree => ({ host with tree }, 0)
  | .error fault => fail around name (complaint ++ ": " ++ fault.reason) host

def cat : Utility := fun around name words =>
  forContents around name quotedIfPeculiar (readFlags words).2 fun _ bytes host => host.writeTo around.output bytes

/-- Makes files that do not exist yet. -/
def touch : Utility := withFlags "acfm" fun flags around name operands host =>
  if operands.isEmpty then misuse around name "missing file operand" host
  else
    forEach (fun operand host =>
      let path := Path.ofString operand
      let result : Except Fault FileTree := match host.tree.resolve around.cwd path with
        | .ok _ => .ok host.tree
        | .error .notFound =>
          if flags.contains 'c' then .ok host.tree else host.tree.write around.cwd path []
        | .error fault => .error fault
      match result with
      | .error .isDirectory =>
        settle around name ("setting times of " ++ quoted operand) host (.error .notFound)
      | result => settle around name ("cannot touch " ++ quoted operand) host result) operands host

def mkdir : Utility := withFlags "pv" fun flags around name operands host =>
  if operands.isEmpty then misuse around name "missing operand" host
  else
    forEach (fun operand host =>
      let complaint := "cannot create directory " ++ quoted operand
      let path := Path.ofString operand
      if flags.contains 'p' then
        let (tree, result) := host.tree.makeDirectories around.cwd path
        settle around name complaint { host with tree } (result.map fun () => tree)
      else settle around name complaint host (host.tree.makeDirectory around.cwd path))
      operands host

def rmdir : Utility := withFlags "v" fun _ around name operands =>
  forEach (fun operand host =>
    let complain (reason : String) : Host × Nat :=
      fail around name ("failed to remove " ++ quoted operand ++ ": " ++ reason) host
    match host.tree.walk around.cwd false (.ofString operand) with
    | .ok (.found place .directory) =>
      if (host.tree.children place).isEmpty then ({ host with tree := host.tree.prune place }, 0)
      else complain "Directory not empty"
    | .ok (.found _ _) => complain Fault.notDirectory.reason
    | .ok (.missing _ _) => complain Fault.notFound.reason
    | .error fault => complain fault.reason) operands

/-- Removes files, and directories if a flag says so. -/
def rm : Utility := withFlags "fRrv" fun flags around name operands host =>
  let deep := flags.contains 'r' || flags.contains 'R'
  let silent := flags.contains 'f'
  if operands.isEmpty && !silent then misuse around name "missing operand" host
  else forEach (fun operand host =>
    let complain (reason : String) : Host × Nat :=
      fail around name ("cannot remove " ++ quoted operand ++ ": " ++ reason) host
    match host.tree.walk around.cwd false (.ofString operand) with
    | .ok (.found place node) =>
      if node == .directory && !deep then complain Fault.isDirectory.reason
      else ({ host with tree := host.tree.prune place }, 0)
    | .ok (.missing _ _) | .error .notFound =>
      if silent then (host, 0) else complain Fault.notFound.reason
    | .error fault => complain fault.reason) operands host

/-! ## Copies and moves -/

/-- Where a file goes that is given to a path: into a directory under its own name. -/
def destination (around : Surroundings) (host : Host) (source dest : String) : String :=
  if host.tree.isDirectory around.cwd (.ofString dest) then
    ((Path.ofString dest).join (.ofString (lastName source))).text
  else dest

/-- Copies a file. One that may not be written is replaced only by force. -/
def copyFileOnto (around : Surroundings) (force : Bool) (name source target : String)
    (place : Place) (node : Node) (host : Host) : Host × Nat :=
  let complain (complaint : String) : Host × Nat := fail around name complaint host
  let unreadable := !host.tree.permits .read node
  let cannotOpen : Host × Nat :=
    complain ("cannot open " ++ quoted source ++ " for reading: " ++ Fault.denied.reason)
  let cannotCreate (fault : Fault) : Host × Nat :=
    complain ("cannot create regular file " ++ quoted target ++ ": " ++ fault.reason)
  let store (dest : Place) (mode : Nat) : Host × Nat :=
    ({ host with tree := host.tree.put dest (.file node.content mode) }, 0)
  let newMode := match node with
    | .file _ mode => mode &&& 0o755
    | _ => FileTree.newFileMode
  match host.tree.walk around.cwd true (.ofString target) with
  | .error fault => cannotCreate fault
  | .ok (.missing dest slash) =>
    if unreadable then cannotOpen
    else if slash then cannotCreate .notDirectory
    else store dest newMode
  | .ok (.found dest there) =>
    if dest == place then complain (quoted source ++ " and " ++ quoted target ++ " are the same file")
    else if there == .directory then
      complain ("cannot overwrite directory " ++ quoted target ++ " with non-directory")
    else if unreadable then cannotOpen
    else
      match there with
      | .file _ mode =>
        if host.tree.permits .write there then store dest mode
        else if force then store dest newMode
        else cannotCreate .denied
      | _ => (host, 0)

/-- Copies what lies in a place, with all that lies in it if it is a directory. -/
def copyOnto (around : Surroundings) (deep force : Bool) (name source dest : String) (host : Host) :
    Host × Nat :=
  let target := destination around host source dest
  match host.tree.resolve around.cwd (.ofString source) with
  | .error fault => fail around name ("cannot stat " ++ quoted source ++ ": " ++ fault.reason) host
  | .ok (place, .directory) =>
    match host.tree.walk around.cwd true (.ofString target) with
    | .ok (.found dest .directory) | .ok (.missing dest _) =>
      if deep then ({ host with tree := host.tree.graft place dest }, 0)
      else fail around name ("-r not specified; omitting directory " ++ quoted source) host
    | .ok (.found _ _) => fail around name ("cannot overwrite " ++ quoted target) host
    | .error fault => fail around name ("cannot create " ++ quoted target ++ ": " ++ fault.reason) host
  | .ok (place, node) => copyFileOnto around force name source target place node host

def moveOnto (around : Surroundings) (name source dest : String) (host : Host) : Host × Nat :=
  let target := destination around host source dest
  match host.tree.walk around.cwd false (.ofString source),
    host.tree.walk around.cwd false (.ofString target) with
  | .ok (.missing _ _), _ =>
    fail around name ("cannot stat " ++ quoted source ++ ": " ++ Fault.notFound.reason) host
  | .error fault, _ => fail around name ("cannot stat " ++ quoted source ++ ": " ++ fault.reason) host
  | _, .error fault =>
    fail around name
      ("cannot move " ++ quoted source ++ " to " ++ quoted target ++ ": " ++ fault.reason) host
  | .ok (.found place _), .ok (.found dest _) | .ok (.found place _), .ok (.missing dest _) =>
    if dest == place then
      fail around name (quoted source ++ " and " ++ quoted target ++ " are the same file") host
    else if FileTree.isWithin place dest.key then
      fail around name
        ("cannot move " ++ quoted source ++ " to a subdirectory of itself, " ++ quoted target) host
    else
      ({ host with tree := ((host.tree.prune dest).graft place dest).prune place }, 0)

/-- Does something with each operand and the last one. -/
def ontoLast (around : Surroundings) (name : String) (work : String → String → Host → Host × Nat)
    (operands : List String) (host : Host) : Host × Nat :=
  match operands.getLast?, operands.dropLast with
  | none, _ => misuse around name "missing file operand" host
  | some only, [] => misuse around name ("missing destination file operand after " ++ quoted only) host
  | some dest, [source] => work source dest host
  | some dest, sources =>
    if host.tree.isDirectory around.cwd (.ofString dest) then
      forEach (fun source host => work source dest host) sources host
    else fail around name ("target " ++ quoted dest ++ " is not a directory") host

def cp : Utility := withFlags "afpRrv" fun flags around name operands =>
  let deep := flags.any fun flag => flag == 'r' || flag == 'R' || flag == 'a'
  ontoLast around name (copyOnto around deep (flags.contains 'f') name) operands

def mv : Utility := withFlags "fv" fun _ around name operands =>
  ontoLast around name (moveOnto around name) operands

/-- Makes a link, or a second copy of a file. -/
def linkOnto (around : Surroundings) (symbolic force : Bool) (name source dest : String)
    (host : Host) : Host × Nat :=
  let target := destination around host source dest
  let complaint := "failed to create link " ++ quoted target
  match host.tree.walk around.cwd false (.ofString target) with
  | .error fault => fail around name (complaint ++ ": " ++ fault.reason) host
  | .ok (.found place node) =>
    if !force || node == .directory then
      fail around name (complaint ++ ": " ++ Fault.occupied.reason) host
    else ({ host with tree := host.tree.put place (.link (.ofString source)) }, 0)
  | .ok (.missing place _) =>
    if symbolic then ({ host with tree := host.tree.put place (.link (.ofString source)) }, 0)
    else
      match host.tree.resolve around.cwd (.ofString source) with
      | .ok (_, node) => ({ host with tree := host.tree.put place node }, 0)
      | .error fault =>
        fail around name ("failed to access " ++ quoted source ++ ": " ++ fault.reason) host

def ln : Utility := withFlags "fsnv" fun flags around name operands =>
  ontoLast around name (linkOnto around (flags.contains 's') (flags.contains 'f') name)
    (if operands.length == 1 then operands ++ ["."] else operands)

/-! ## Modes and lists -/

/-- A mode changed as a text says: octal digits, or letters for who may do what. -/
def changedMode? (text : String) (mode : Nat) : Option Nat :=
  let chars := text.toList
  if !chars.isEmpty && chars.all fun c => '0' ≤ c && c ≤ '7' then
    some (chars.foldl (fun n c => 8 * n + (c.toNat - 48)) 0)
  else
    let who := chars.takeWhile fun c => "ugoa".toList.contains c
    let all := who.isEmpty || who.contains 'a'
    let group := (if all || who.contains 'u' then 0o100 else 0) +
      (if all || who.contains 'g' then 0o010 else 0) + (if all || who.contains 'o' then 0o001 else 0)
    match chars.drop who.length with
    | sign :: letters =>
      let bits := letters.foldl (fun n c =>
        n ||| group * (if c == 'r' then 4 else if c == 'w' then 2 else if c == 'x' then 1 else 0)) 0
      if !letters.all fun c => c == 'r' || c == 'w' || c == 'x' then none
      else if sign == '+' then some (mode ||| bits)
      else if sign == '-' then some (mode ^^^ (mode &&& bits))
      else if sign == '=' then some ((mode ^^^ (mode &&& (7 * group))) ||| bits)
      else none
    | [] => none

def chmod : Utility := fun around name words host =>
  match words with
  | [] => misuse around name "missing operand" host
  | mode :: operands =>
    forEach (fun operand host =>
      match host.tree.resolve around.cwd (.ofString operand) with
      | .error fault =>
        fail around name ("cannot access " ++ quoted operand ++ ": " ++ fault.reason) host
      | .ok (place, .file content old) =>
        match changedMode? mode old with
        | some new => ({ host with tree := host.tree.put place (.file content new) }, 0)
        | none => fail around name ("invalid mode: " ++ quoted mode) host
      | .ok _ => (host, 0)) operands host

/-- Shows the names in directories. The operands that are no directories come first. -/
def ls : Utility := withFlags "1aAr" fun flags around name operands host =>
  let shows (entry : String) : Bool :=
    flags.contains 'a' || flags.contains 'A' || !entry.startsWith "."
  let ordered (names : List String) : List String :=
    if flags.contains 'r' then names.reverse else names
  let operands := if operands.isEmpty then ["."] else operands
  let isDirectory (operand : String) : Bool := host.tree.isDirectory around.cwd (.ofString operand)
  let directories := operands.filter isDirectory
  let others := operands.filter (!isDirectory ·)
  let header (operand : String) : String :=
    if operands.length ≤ 1 then ""
    else (if others.isEmpty && directories.head? == some operand then "" else "\n") ++ operand ++ ":\n"
  forEach (fun operand host =>
    match host.tree.resolve around.cwd (.ofString operand) with
    | .error fault =>
      (around.complain (name ++ ": cannot access " ++ quoted operand ++ ": " ++ fault.reason) host, 2)
    | .ok (place, .directory) =>
      let dots := if flags.contains 'a' then [".", ".."] else []
      let names := ordered (dots ++ (host.tree.children place).filter shows)
      (around.say (header operand ++ String.join (names.map (· ++ "\n"))) host, 0)
    | .ok _ => (around.say (operand ++ "\n") host, 0))
    (ordered others ++ ordered directories) host

end FirmwareBench.Shell.Utility
