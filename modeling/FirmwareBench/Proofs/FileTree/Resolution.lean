import FirmwareBench.FileTree.Basic
import Mathlib.Data.List.Basic

/-!
# Where paths lead

A path is followed name by name: through directories, upwards, and from a link to where its target
leads. That is said here by rules, one for each kind of name, without the legs between two links
and without the limit; the rules count the links that are followed.

## Main definitions

* `FileTree.Leads`: where names lead from a directory.
* `FileTree.LeadsTo`: what a path leads to.
* `FileTree.IsIdleName`: a name that stays where it is.

## Main statements

* `FileTree.walkNames_eq_found_iff`: a walk ends where the names lead, with no more links than the
  limit.
* `FileTree.resolve_eq_ok_iff`: the same for paths.
* `FileTree.Leads.eq_directory`: names that end with one that stays where it is lead to a directory.
-/

set_option autoImplicit false

namespace FirmwareBench

/-- A node that a path cannot go on behind: neither a directory nor a link. -/
def Node.IsLeaf (node : Node) : Prop := node ≠ .directory ∧ ∀ target, node ≠ .link target

/-- A path that the system can look at: it is not empty nor too long, and has no null character. -/
structure Path.IsAdmissible (path : Path) : Prop where
  noNull : Char.ofNat 0 ∉ path.chars
  ne_empty : path.chars ≠ []
  short : path.text.utf8ByteSize < FileTree.pathLimit

namespace FileTree

/-- A name that stays where it is. -/
def IsIdleName (name : String) : Prop := name = "" ∨ name = "."

instance : DecidablePred IsIdleName := fun _ => inferInstanceAs (Decidable (_ ∨ _))

/-- A name that is looked up in a directory. -/
structure IsEntryName (name : String) : Prop where
  not_idle : ¬ IsIdleName name
  not_up : name ≠ ".."
  short : name.utf8ByteSize ≤ nameLimit

/-- From a directory, names lead to a node at a place, through so many links. -/
inductive Leads (tree : FileTree) : Nat → Place → List String → Place → Node → Prop
  | here {here : Place} : Leads tree 0 here [] here .directory
  /-- A name that stays where it is. -/
  | idle {links : Nat} {here place : Place} {name : String} {rest : List String} {node : Node}
      (hname : IsIdleName name) (hrest : Leads tree links here rest place node) :
      Leads tree links here (name :: rest) place node
  | up {links : Nat} {here place : Place} {rest : List String} {node : Node}
      (hrest : Leads tree links here.tail rest place node) :
      Leads tree links here (".." :: rest) place node
  | enter {links : Nat} {here place : Place} {name : String} {rest : List String} {node : Node}
      (hname : IsEntryName name) (hnode : tree.node? (name :: here) = some .directory)
      (hrest : Leads tree links (name :: here) rest place node) :
      Leads tree links here (name :: rest) place node
  /-- The names of a link come in front of those that are left. -/
  | follow {links : Nat} {here place : Place} {name : String} {rest : List String} {target : Path}
      {node : Node} (hname : IsEntryName name)
      (hnode : tree.node? (name :: here) = some (.link target))
      (hrest : Leads tree links (if target.isAbsolute then [] else here) (names target ++ rest)
        place node) : Leads tree (links + 1) here (name :: rest) place node
  /-- Anything else is the end. -/
  | leaf {here : Place} {name : String} {node : Node} (hname : IsEntryName name)
      (hnode : tree.node? (name :: here) = some node) (hleaf : node.IsLeaf) :
      Leads tree 0 here [name] (name :: here) node

/-- A path that is seen from a directory leads to a node. -/
def LeadsTo (tree : FileTree) (cwd : Place) (path : Path) (place : Place) (node : Node) : Prop :=
  path.IsAdmissible ∧ ∃ links ≤ linkLimit,
    Leads tree links (if path.isAbsolute then [] else cwd) (names path) place node

/-! ## Walks name by name -/

section

variable {tree : FileTree} {limit : Nat} {here : Place} {name : String} {rest : List String}

/-- A walk goes on as its first leg ends. -/
theorem walkNames_congr {here' : Place} {list list' : List String}
    (h : tree.leg true here list = tree.leg true here' list') :
    tree.walkNames true limit here list = tree.walkNames true limit here' list' := by
  rw [walkNames, h, ← walkNames]

theorem walkNames_of_leg_done {list : List String} {arrival : Arrival}
    (h : tree.leg true here list = .ok (.done arrival)) :
    tree.walkNames true limit here list = .ok arrival := by
  rw [walkNames, h]

theorem walkNames_of_leg_error {list : List String} {fault : Fault}
    (h : tree.leg true here list = .error fault) :
    tree.walkNames true limit here list = .error fault := by
  rw [walkNames, h]

theorem walkNames_idle (hname : IsIdleName name) :
    tree.walkNames true limit here (name :: rest) = tree.walkNames true limit here rest := by
  refine walkNames_congr ?_
  rcases hname with rfl | rfl <;> simp [leg]

theorem walkNames_up :
    tree.walkNames true limit here (".." :: rest) = tree.walkNames true limit here.tail rest :=
  walkNames_congr (by simp [leg])

/-- What a name is tested for before it is looked up. -/
theorem IsEntryName.tests (hname : IsEntryName name) :
    (name.isEmpty || name == ".") = false ∧ (name == "..") = false ∧
      ¬ name.utf8ByteSize > nameLimit := by
  obtain ⟨hidle, hup, hshort⟩ := hname
  refine ⟨?_, by simpa using hup, by omega⟩
  simpa [IsIdleName] using hidle

theorem walkNames_enter (hname : IsEntryName name)
    (hnode : tree.node? (name :: here) = some .directory) :
    tree.walkNames true limit here (name :: rest) =
      tree.walkNames true limit (name :: here) rest := by
  obtain ⟨hidle, hup, hshort⟩ := hname.tests
  refine walkNames_congr ?_
  simp only [leg, hidle, hup, hshort, hnode, if_false, Bool.false_eq_true]

/-- A link uses up one of the links that may be followed. -/
theorem walkNames_follow {target : Path} (hname : IsEntryName name)
    (hnode : tree.node? (name :: here) = some (.link target)) :
    tree.walkNames true limit here (name :: rest) =
      match limit with
      | 0 => .error .tooManyLinks
      | limit + 1 =>
        tree.walkNames true limit (if target.isAbsolute then [] else here)
          (names target ++ rest) := by
  obtain ⟨hidle, hup, hshort⟩ := hname.tests
  have hleg : tree.leg true here (name :: rest) = .ok (.atLink here target rest) := by
    simp [leg, hidle, hup, hshort, hnode]
  cases limit <;> rw [walkNames, hleg]

theorem walkNames_leaf {node : Node} (hname : IsEntryName name)
    (hnode : tree.node? (name :: here) = some node) (hleaf : node.IsLeaf) :
    tree.walkNames true limit here (name :: rest) =
      if rest = [] then .ok (.found (name :: here) node) else .error .notDirectory := by
  obtain ⟨hidle, hup, hshort⟩ := hname.tests
  obtain ⟨hdirectory, hlink⟩ := hleaf
  have hleg : tree.leg true here (name :: rest) =
      if rest = [] then .ok (.done (.found (name :: here) node)) else .error .notDirectory := by
    cases node with
    | directory => exact absurd rfl hdirectory
    | link target => exact absurd rfl (hlink target)
    | file | program | sink => simp [leg, hidle, hup, hshort, hnode]
  by_cases hrest : rest = []
  · rw [if_pos hrest] at hleg ⊢
    exact walkNames_of_leg_done hleg
  · rw [if_neg hrest] at hleg ⊢
    exact walkNames_of_leg_error hleg

theorem walkNames_missing {place : Place} {node : Node} (hname : IsEntryName name)
    (hnode : tree.node? (name :: here) = none) :
    tree.walkNames true limit here (name :: rest) ≠ .ok (.found place node) := by
  obtain ⟨hidle, hup, hshort⟩ := hname.tests
  by_cases hrest : rest.all (·.isEmpty) = true
  · have hleg : tree.leg true here (name :: rest) =
        .ok (.done (.missing (name :: here) !rest.isEmpty)) := by
      simp only [leg, hidle, hup, hshort, hnode, hrest, if_true, if_false, Bool.false_eq_true]
    rw [walkNames_of_leg_done hleg]
    simp
  · have hleg : tree.leg true here (name :: rest) = .error .notFound := by
      simp only [leg, hidle, hup, hshort, hnode, hrest, if_false, Bool.false_eq_true]
    rw [walkNames_of_leg_error hleg]
    simp

theorem walkNames_long (hidle : ¬ IsIdleName name) (hup : name ≠ "..")
    (hlong : nameLimit < name.utf8ByteSize) :
    tree.walkNames true limit here (name :: rest) = .error .nameTooLong := by
  have hdots : (name.isEmpty || name == ".") = false := by simpa [IsIdleName] using hidle
  exact walkNames_of_leg_error (by simp [leg, hdots, hup, hlong])

end

/-! ## Walks and where they lead -/

variable {tree : FileTree}

/-- A walk that ends at a node follows the rules. -/
theorem exists_leads_of_walkNames {limit : Nat} {here place : Place} {list : List String}
    {node : Node} (h : tree.walkNames true limit here list = .ok (.found place node)) :
    ∃ links ≤ limit, Leads tree links here list place node := by
  -- behind a link there may be more names, but fewer links may be followed
  induction limit using Nat.strongRecOn generalizing here list with
  | ind limit ihLimit =>
      induction list generalizing here with
      | nil =>
          have hnil : tree.walkNames true limit here [] = .ok (.found here .directory) :=
            walkNames_of_leg_done (by simp [leg])
          obtain ⟨rfl, rfl⟩ : here = place ∧ Node.directory = node := by simpa [hnil] using h
          exact ⟨0, Nat.zero_le _, .here⟩
      | cons name rest ih =>
          by_cases hidle : IsIdleName name
          · rw [walkNames_idle hidle] at h
            obtain ⟨links, hlinks, hleads⟩ := ih h
            exact ⟨links, hlinks, .idle hidle hleads⟩
          by_cases hup : name = ".."
          · subst hup
            rw [walkNames_up] at h
            obtain ⟨links, hlinks, hleads⟩ := ih h
            exact ⟨links, hlinks, .up hleads⟩
          by_cases hlong : nameLimit < name.utf8ByteSize
          · simp [walkNames_long hidle hup hlong] at h
          -- the name is looked up, and the node decides
          have hname : IsEntryName name := ⟨hidle, hup, by omega⟩
          cases hnode : tree.node? (name :: here) with
          | none => exact absurd h (walkNames_missing hname hnode)
          | some entry =>
              by_cases hdirectory : entry = .directory
              · subst hdirectory
                rw [walkNames_enter hname hnode] at h
                obtain ⟨links, hlinks, hleads⟩ := ih h
                exact ⟨links, hlinks, .enter hname hnode hleads⟩
              by_cases hlink : ∃ target, entry = .link target
              · obtain ⟨target, rfl⟩ := hlink
                rw [walkNames_follow hname hnode] at h
                cases limit with
                | zero => simp at h
                | succ limit =>
                    obtain ⟨links, hlinks, hleads⟩ := ihLimit limit (Nat.lt_succ_self limit) h
                    exact ⟨links + 1, Nat.succ_le_succ hlinks, .follow hname hnode hleads⟩
              · have hleaf : entry.IsLeaf := ⟨hdirectory, not_exists.mp hlink⟩
                rw [walkNames_leaf hname hnode hleaf] at h
                by_cases hrest : rest = []
                · obtain ⟨rfl, rfl⟩ : name :: here = place ∧ entry = node := by
                    simpa [hrest] using h
                  subst hrest
                  exact ⟨0, Nat.zero_le _, .leaf hname hnode hleaf⟩
                · simp [hrest] at h

/-- Where the rules lead, a walk arrives that may follow so many links. -/
theorem Leads.walkNames_eq {links limit : Nat} {here place : Place} {list : List String}
    {node : Node} (h : Leads tree links here list place node) (hlinks : links ≤ limit) :
    tree.walkNames true limit here list = .ok (.found place node) := by
  induction h generalizing limit with
  | here => exact walkNames_of_leg_done (by simp [leg])
  | idle hname _ ih => rw [walkNames_idle hname, ih hlinks]
  | up _ ih => rw [walkNames_up, ih hlinks]
  | enter hname hnode _ ih => rw [walkNames_enter hname hnode, ih hlinks]
  | follow hname hnode _ ih =>
      cases limit with
      | zero => omega
      | succ limit =>
          rw [walkNames_follow hname hnode]
          exact ih (Nat.le_of_succ_le_succ hlinks)
  | leaf hname hnode hleaf => rw [walkNames_leaf hname hnode hleaf, if_pos rfl]

/-- **A walk ends where its names lead**, if that takes no more links than it may follow. -/
theorem walkNames_eq_found_iff {limit : Nat} {here place : Place} {list : List String}
    {node : Node} :
    tree.walkNames true limit here list = .ok (.found place node) ↔
      ∃ links ≤ limit, Leads tree links here list place node := by
  constructor
  · exact exists_leads_of_walkNames
  · rintro ⟨links, hlinks, hleads⟩
    exact hleads.walkNames_eq hlinks

/-- **A path resolves to what it leads to.** -/
theorem resolve_eq_ok_iff {cwd place : Place} {path : Path} {node : Node} :
    tree.resolve cwd path = .ok (place, node) ↔ tree.LeadsTo cwd path place node := by
  have hresolve : tree.resolve cwd path = .ok (place, node) ↔
      tree.walk cwd true path = .ok (.found place node) := by
    rw [resolve]
    rcases tree.walk cwd true path with fault | ⟨other, found⟩ | ⟨other, slash⟩ <;> simp
  rw [hresolve, LeadsTo, ← walkNames_eq_found_iff, walk]
  by_cases hnull : Char.ofNat 0 ∈ path.chars
  · have hnot : ¬ path.IsAdmissible := fun h => h.noNull hnull
    simp [hnull, hnot]
  by_cases hempty : path.chars = []
  · have hnot : ¬ path.IsAdmissible := fun h => h.ne_empty hempty
    simp [hempty, hnot]
  by_cases hlong : path.text.utf8ByteSize ≥ pathLimit
  · have hnot : ¬ path.IsAdmissible := fun h => absurd h.short (by omega)
    simp [hnull, hempty, hlong, hnot]
  · have hadmissible : path.IsAdmissible := ⟨hnull, hempty, by omega⟩
    simp [hnull, hempty, hlong, hadmissible]

/-! ## Names that stay where they are -/

theorem isIdleName_ofList_iff {piece : List Char} :
    IsIdleName (String.ofList piece) ↔ Path.isIdle piece = true := by
  simp [IsIdleName, Path.isIdle, ← String.toList_inj]

/-- What holds of the last of some names holds of the last of those behind the first. -/
theorem forall_getLast?_of_cons {p : String → Prop} {name : String} {rest : List String}
    (h : ∀ last ∈ (name :: rest).getLast?, p last) : ∀ last ∈ rest.getLast?, p last := by
  intro last hlast
  refine h last ?_
  have hrest : rest ≠ [] := by
    rintro rfl
    simp at hlast
  rwa [List.getLast?_cons_of_ne_nil hrest]

/-- **Names that end with one that stays where it is lead to a directory.** It does not matter what
is on the way; a link at the end is followed, and its target must be a directory too. -/
theorem Leads.eq_directory {links : Nat} {here place : Place} {list : List String} {node : Node}
    (h : Leads tree links here list place node) (hlast : ∀ last ∈ list.getLast?, IsIdleName last) :
    node = .directory := by
  induction h with
  | here => rfl
  | idle _ _ ih => exact ih (forall_getLast?_of_cons hlast)
  | up _ ih => exact ih (forall_getLast?_of_cons hlast)
  | enter _ _ _ ih => exact ih (forall_getLast?_of_cons hlast)
  | @follow links here place name rest target node hname _ _ ih =>
      -- the link is not the last name, so the names of its target are not either
      have hrest : rest ≠ [] := by
        rintro rfl
        exact hname.not_idle (hlast name (by simp))
      refine ih fun last hmem => ?_
      rw [List.getLast?_append_of_ne_nil _ hrest] at hmem
      exact forall_getLast?_of_cons hlast last hmem
  | leaf hname _ _ => exact absurd (hlast _ (by simp)) hname.not_idle

end FileTree

end FirmwareBench
