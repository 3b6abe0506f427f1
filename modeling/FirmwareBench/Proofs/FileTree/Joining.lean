import FirmwareBench.Proofs.FileTree.Resolution
import FirmwareBench.Proofs.Path.Parents
import Mathlib.Data.String.Basic

/-!
# Paths behind directories

A name behind the path of a directory leads on from where that path leads. The path is only used up
to the place that it leads to: what is found behind it does not depend on slashes and dots at its
end, but they make it longer, and a path that is too long leads nowhere.

## Main definitions

* `FileTree.properNames`: the names that do not stay where they are.

## Main statements

* `FileTree.leads_append_iff`: names behind names lead on from where these lead.
* `FileTree.Leads.of_properNames_eq`: to a directory only the proper names count.
* `FileTree.leadsTo_join_iff`: what a path behind a directory leads to.
* `FileTree.LeadsTo.of_components_eq`: what is in a directory does not depend on how it is written.
-/

set_option autoImplicit false

namespace FirmwareBench

namespace FileTree

/-! ## Names behind names -/

variable {tree : FileTree} {cwd : Place}

/-- Names that lead through a directory lead to it first. -/
theorem Leads.exists_directory {links : Nat} {here place : Place} {front back : List String}
    {node : Node} (h : Leads tree links here (front ++ back) place node) (hback : back ≠ []) :
    ∃ dir first second, first + second = links ∧ Leads tree first here front dir .directory ∧
      Leads tree second dir back place node := by
  generalize hlist : front ++ back = list at h
  induction h generalizing front with
  | here => simp [hback] at hlist
  | @idle links here place name rest node hname hrest ih =>
      rcases List.append_eq_cons_iff.mp hlist with ⟨rfl, rfl⟩ | ⟨front, rfl, rfl⟩
      · exact ⟨here, 0, links, Nat.zero_add _, .here, .idle hname hrest⟩
      · obtain ⟨dir, first, second, hlinks, hfirst, hsecond⟩ := ih rfl
        exact ⟨dir, first, second, hlinks, .idle hname hfirst, hsecond⟩
  | @up links here place rest node hrest ih =>
      rcases List.append_eq_cons_iff.mp hlist with ⟨rfl, rfl⟩ | ⟨front, rfl, rfl⟩
      · exact ⟨here, 0, links, Nat.zero_add _, .here, .up hrest⟩
      · obtain ⟨dir, first, second, hlinks, hfirst, hsecond⟩ := ih rfl
        exact ⟨dir, first, second, hlinks, .up hfirst, hsecond⟩
  | @enter links here place name rest node hname hnode hrest ih =>
      rcases List.append_eq_cons_iff.mp hlist with ⟨rfl, rfl⟩ | ⟨front, rfl, rfl⟩
      · exact ⟨here, 0, links, Nat.zero_add _, .here, .enter hname hnode hrest⟩
      · obtain ⟨dir, first, second, hlinks, hfirst, hsecond⟩ := ih rfl
        exact ⟨dir, first, second, hlinks, .enter hname hnode hfirst, hsecond⟩
  | @follow links here place name rest target node hname hnode hrest ih =>
      rcases List.append_eq_cons_iff.mp hlist with ⟨rfl, rfl⟩ | ⟨front, rfl, rfl⟩
      · exact ⟨here, 0, links + 1, Nat.zero_add _, .here, .follow hname hnode hrest⟩
      · -- the names of the target come in front of those that are left of the first ones
        obtain ⟨dir, first, second, hlinks, hfirst, hsecond⟩ :=
          ih (List.append_assoc (names target) front back)
        exact ⟨dir, first + 1, second, by omega, .follow hname hnode hfirst, hsecond⟩
  | @leaf here name node hname hnode hleaf =>
      rcases List.append_eq_cons_iff.mp hlist with ⟨rfl, rfl⟩ | ⟨front, rfl, hnil⟩
      · exact ⟨here, 0, 0, rfl, .here, .leaf hname hnode hleaf⟩
      · exact absurd (List.append_eq_nil_iff.mp hnil.symm).2 hback

/-- From the directory that names lead to, further names lead on. -/
theorem Leads.append {first second : Nat} {here dir place : Place} {front back : List String}
    {node : Node} (h : Leads tree first here front dir .directory)
    (hback : Leads tree second dir back place node) :
    Leads tree (first + second) here (front ++ back) place node := by
  generalize hdirectory : Node.directory = reached at h
  induction h with
  | here => rwa [Nat.zero_add]
  | idle hname _ ih => exact .idle hname (ih hback hdirectory)
  | up _ ih => exact .up (ih hback hdirectory)
  | enter hname hnode _ ih => exact .enter hname hnode (ih hback hdirectory)
  | @follow links here place name rest target node hname hnode _ ih =>
      rw [Nat.add_right_comm]
      have hrest := ih hback hdirectory
      rw [List.append_assoc] at hrest
      exact .follow hname hnode hrest
  | leaf _ _ hleaf => exact absurd hdirectory.symm hleaf.1

/-- **Names behind names** lead on from the directory that the first ones lead to. -/
theorem leads_append_iff {links : Nat} {here place : Place} {front back : List String}
    {node : Node} (hback : back ≠ []) :
    Leads tree links here (front ++ back) place node ↔
      ∃ dir first second, first + second = links ∧ Leads tree first here front dir .directory ∧
        Leads tree second dir back place node := by
  constructor
  · exact fun h => h.exists_directory hback
  · rintro ⟨dir, first, second, rfl, hfirst, hsecond⟩
    exact hfirst.append hsecond

/-! ## Names that do not count -/

/-- The names that do not stay where they are. -/
def properNames (list : List String) : List String := list.filter fun name => ¬ IsIdleName name

theorem leads_append_of_idle {links : Nat} {here place : Place} {front back : List String}
    {node : Node} (hfront : ∀ name ∈ front, IsIdleName name)
    (h : Leads tree links here back place node) :
    Leads tree links here (front ++ back) place node := by
  induction front with
  | nil => exact h
  | cons name front ih =>
      obtain ⟨hname, hrest⟩ := List.forall_mem_cons.mp hfront
      exact .idle hname (ih hrest)

/-- Names that begin with the same proper name begin with idle ones. -/
theorem exists_of_properNames_eq {name : String} (hname : ¬ IsIdleName name)
    {list rest : List String} (h : properNames list = properNames (name :: rest)) :
    ∃ front back, list = front ++ name :: back ∧ (∀ other ∈ front, IsIdleName other) ∧
      properNames back = properNames rest := by
  have hcons : properNames (name :: rest) = name :: properNames rest :=
    List.filter_cons_of_pos (by simpa using hname)
  rw [hcons] at h
  obtain ⟨front, back, hlist, hfront, -, hback⟩ := List.filter_eq_cons_iff.mp h
  exact ⟨front, back, hlist, fun other hother => by simpa using hfront other hother, hback⟩

/-- **To a directory only the proper names count.** -/
theorem Leads.of_properNames_eq {links : Nat} {here place : Place} {list other : List String}
    (h : Leads tree links here list place .directory)
    (hother : properNames other = properNames list) :
    Leads tree links here other place .directory := by
  generalize hdirectory : Node.directory = node at h ⊢
  induction h generalizing other with
  | @here here =>
      have hidle : ∀ name ∈ other, IsIdleName name := by
        simpa [properNames] using hother
      have hnil : Leads tree 0 here (other ++ []) here .directory :=
        leads_append_of_idle hidle .here
      rwa [List.append_nil] at hnil
  | @idle links here place name rest node hname _ ih =>
      refine ih ?_ hdirectory
      rwa [properNames, properNames, List.filter_cons_of_neg (by simpa using hname)] at hother
  | up _ ih =>
      obtain ⟨front, back, rfl, hfront, hback⟩ :=
        exists_of_properNames_eq (by simp [IsIdleName]) hother
      exact leads_append_of_idle hfront (.up (ih hback hdirectory))
  | enter hname hnode _ ih =>
      obtain ⟨front, back, rfl, hfront, hback⟩ := exists_of_properNames_eq hname.not_idle hother
      exact leads_append_of_idle hfront (.enter hname hnode (ih hback hdirectory))
  | follow hname hnode _ ih =>
      obtain ⟨front, back, rfl, hfront, hback⟩ := exists_of_properNames_eq hname.not_idle hother
      refine leads_append_of_idle hfront (.follow hname hnode (ih ?_ hdirectory))
      rw [properNames, properNames, List.filter_append, List.filter_append]
      exact congrArg _ hback
  | leaf _ _ hleaf => exact absurd hdirectory.symm hleaf.1

end FileTree

/-! ## Names in directories -/

namespace Path

variable {p dir name : Path}

/-- A relative name is put behind a directory and a slash, unless the directory ends with one. -/
theorem join_chars (hne : dir.chars ≠ []) (hname : name.isAbsolute = false) :
    (dir.join name).chars =
      if dir.chars.getLast? = some '/' then dir.chars ++ name.chars
      else dir.chars ++ '/' :: name.chars := by
  have hempty : dir.chars.isEmpty = false := by simpa using hne
  by_cases hslash : dir.chars.getLast? = some '/' <;> simp [join, hname, hempty, hslash]

theorem isAbsolute_join (hne : dir.chars ≠ []) (hname : name.isAbsolute = false) :
    (dir.join name).isAbsolute = dir.isAbsolute := by
  refine (isAbsolute_eq_of_front ?_ hne).symm
  rw [join_chars hne hname]
  split_ifs <;> exact List.prefix_append _ _

/-- The pieces of a name come behind pieces that name the same as those of the directory. -/
theorem exists_pieces_join (hne : dir.chars ≠ []) (hname : name.isAbsolute = false) :
    ∃ front, (dir.join name).pieces = front ++ name.pieces ∧
      front.filter (fun piece => !isIdle piece) = dir.pieces.filter fun piece => !isIdle piece := by
  by_cases hslash : dir.chars.getLast? = some '/'
  · obtain ⟨before, hbefore⟩ := List.getLast?_eq_some_iff.mp hslash
    refine ⟨Text.splitAt '/' before, ?_, ?_⟩
    · rw [pieces, join_chars hne hname, if_pos hslash, hbefore, List.append_assoc,
        List.singleton_append, Text.splitAt_append, pieces]
    · -- the directory has an empty piece behind its slash
      rw [pieces, hbefore, Text.splitAt_append, List.filter_append]
      simp [Text.splitAt, isIdle]
  · refine ⟨dir.pieces, ?_, rfl⟩
    rw [pieces, join_chars hne hname, if_neg hslash, Text.splitAt_append, ← pieces, ← pieces]

/-- With more at the end of the directory, the path of a name only gets longer. -/
theorem join_sublist (hwritten : p.chars <+: dir.chars) (hne : p.chars ≠ [])
    (hname : name.isAbsolute = false) : (p.join name).chars.Sublist (dir.join name).chars := by
  have hdir : dir.chars ≠ [] := fun hnil => hne (List.prefix_nil.mp (hnil ▸ hwritten))
  rw [join_chars hne hname, join_chars hdir hname]
  by_cases hp : p.chars.getLast? = some '/'
  · rw [if_pos hp]
    split_ifs
    · exact hwritten.sublist.append (List.Sublist.refl _)
    · exact hwritten.sublist.append (List.sublist_cons_self _ _)
  · rw [if_neg hp]
    split_ifs with hslash
    · -- the slash at the end of the directory is behind the shorter path
      obtain ⟨before, hbefore⟩ := List.getLast?_eq_some_iff.mp hslash
      rw [hbefore] at hwritten ⊢
      rcases List.prefix_concat_iff.mp hwritten with hsame | hshorter
      · exact absurd (List.getLast?_eq_some_iff.mpr ⟨before, hsame⟩) hp
      · rw [List.append_assoc]
        exact hshorter.sublist.append (List.Sublist.refl _)
    · exact hwritten.sublist.append (List.Sublist.refl _)

/-- Of a path that the system can look at, it can look at every part that is not empty. -/
theorem IsAdmissible.of_sublist {path other : Path} (h : path.IsAdmissible)
    (hsublist : other.chars.Sublist path.chars) (hne : other.chars ≠ []) : other.IsAdmissible :=
  ⟨fun hmem => h.noNull (hsublist.subset hmem), hne, by
    refine Nat.lt_of_le_of_lt ?_ h.short
    rw [Path.text, Path.text, String.utf8ByteSize_ofList, String.utf8ByteSize_ofList]
    exact String.utf8Len_le_of_sublist hsublist⟩

theorem sublist_join (hne : dir.chars ≠ []) (hname : name.isAbsolute = false) :
    dir.chars.Sublist (dir.join name).chars := by
  rw [join_chars hne hname]
  split_ifs <;> exact List.sublist_append_left _ _

end Path

namespace FileTree

variable {tree : FileTree} {cwd place : Place} {p dir name : Path} {node : Node}

theorem properNames_map (pieces : List (List Char)) :
    properNames (pieces.map String.ofList) =
      (pieces.filter fun piece => !Path.isIdle piece).map String.ofList := by
  rw [properNames, List.filter_map]
  refine congrArg _ (List.filter_congr fun piece _ => ?_)
  simp [isIdleName_ofList_iff]

/-- The names behind a directory come behind names that count as those of the directory. -/
theorem exists_names_join (hne : dir.chars ≠ []) (hname : name.isAbsolute = false) :
    ∃ front, names (dir.join name) = front ++ names name ∧
      properNames front = properNames (names dir) := by
  obtain ⟨front, hpieces, hfront⟩ := Path.exists_pieces_join hne hname
  refine ⟨front.map String.ofList, ?_, ?_⟩
  · rw [names, hpieces, List.map_append, ← names]
  · rw [names, properNames_map, properNames_map, hfront]

theorem names_ne_nil (path : Path) : names path ≠ [] := by
  simp [names, Path.pieces, Text.splitAt_ne_nil]

/-- A path behind a directory leads through the directory. -/
theorem leadsTo_join_iff (hne : dir.chars ≠ []) (hname : name.isAbsolute = false) :
    tree.LeadsTo cwd (dir.join name) place node ↔
      (dir.join name).IsAdmissible ∧ ∃ inside first second, first + second ≤ linkLimit ∧
        Leads tree first (if dir.isAbsolute then [] else cwd) (names dir) inside .directory ∧
        Leads tree second inside (names name) place node := by
  obtain ⟨front, hnames, hfront⟩ := exists_names_join hne hname
  rw [LeadsTo, Path.isAbsolute_join hne hname, hnames]
  refine and_congr_right fun _ => ?_
  simp only [leads_append_iff (names_ne_nil name)]
  constructor
  · rintro ⟨_, hlinks, inside, first, second, rfl, hdir, hrest⟩
    exact ⟨inside, first, second, hlinks, hdir.of_properNames_eq hfront.symm, hrest⟩
  · rintro ⟨inside, first, second, hlinks, hdir, hrest⟩
    exact ⟨_, hlinks, inside, first, second, rfl, hdir.of_properNames_eq hfront, hrest⟩

/-- Behind a path that is not empty there is something only if the path leads to a directory. -/
theorem LeadsTo.exists_directory (h : tree.LeadsTo cwd (dir.join name) place node)
    (hne : dir.chars ≠ []) (hname : name.isAbsolute = false) :
    ∃ inside, tree.LeadsTo cwd dir inside .directory := by
  obtain ⟨hadmissible, inside, first, second, hlinks, hdir, -⟩ := (leadsTo_join_iff hne hname).mp h
  exact ⟨inside, hadmissible.of_sublist (Path.sublist_join hne hname) hne, first, by omega, hdir⟩

/-- **What is in a directory does not depend on how the directory is written**: the slashes and dots
at its end may be left out. -/
theorem LeadsTo.of_components_eq (h : tree.LeadsTo cwd (dir.join name) place node)
    (hname : name.isAbsolute = false) (habsolute : dir.isAbsolute = true)
    (hwritten : p.chars <+: dir.chars) (hcomponents : p.components = dir.components) :
    tree.LeadsTo cwd (p.join name) place node := by
  have hdirNe : dir.chars ≠ [] := Path.ne_nil_of_isAbsolute habsolute
  have hne : p.chars ≠ [] := by
    intro hnil
    rw [Path.components_of_chars_eq_nil hnil, Path.components_of_isAbsolute habsolute] at hcomponents
    cases hcomponents
  have hroot : p.isAbsolute = true := (Path.isAbsolute_eq_of_front hwritten hne).trans habsolute
  have hnames : properNames (names p) = properNames (names dir) := by
    rw [Path.components_of_isAbsolute hroot, Path.components_of_isAbsolute habsolute] at hcomponents
    rw [names, names, properNames_map, properNames_map, (List.cons.inj hcomponents).2]
  obtain ⟨hadmissible, inside, first, second, hlinks, hdir, hrest⟩ :=
    (leadsTo_join_iff hdirNe hname).mp h
  refine (leadsTo_join_iff hne hname).mpr ⟨?_, inside, first, second, hlinks, ?_, hrest⟩
  · refine hadmissible.of_sublist (Path.join_sublist hwritten hne hname) ?_
    rw [Path.join_chars hne hname]
    split_ifs <;> simp [hne]
  · rw [hroot]
    rw [habsolute] at hdir
    exact hdir.of_properNames_eq hnames

end FileTree

end FirmwareBench
