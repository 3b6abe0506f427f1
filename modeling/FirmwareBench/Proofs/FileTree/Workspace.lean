import FirmwareBench.Proofs.FileTree.Joining
import FirmwareBench.Proofs.FileTree.Reading
import FirmwareBench.Proofs.Search
import FirmwareBench.Workspace

/-!
# The closest workspace

The search for a workspace goes up along the text of a path. It finds the first directory on the way
with a manifest that declares a workspace, whatever is wrong with the manifests before it. That it
begins at the parent of a path that leads to no directory does not matter: no manifest can be read
in such a path. From an absolute path the way up misses no directory that the path is written
through, so what is found is the deepest of them with such a manifest.

## Main definitions

* `FileTree.DeclaresWorkspace`: a text has a line that declares a workspace.
* `FileTree.HasWorkspaceManifest`: a directory has a manifest with such a text.
* `FileTree.Candidates`: the directories that are looked at, one after the other.

## Main statements

* `FileTree.isWorkspace_iff`: only a readable text with such a line makes a workspace.
* `FileTree.candidates_iff`: the directories that are looked at end, and there are no others.
* `FileTree.workspaceAround?_eq`: the search goes along the way up from the path itself.
* `FileTree.closest_workspace_found`: what is found is the closest workspace.
-/

set_option autoImplicit false

namespace FirmwareBench

namespace FileTree

/-! ## Manifests -/

/-- A text has a line that reads `[workspace]`, with blanks around that. -/
def DeclaresWorkspace (text : List Char) : Prop :=
  ∃ line, Text.IsPiece '\n' text line ∧ ∃ front back, (∀ c ∈ front, Text.isBlank c = true) ∧
    (∀ c ∈ back, Text.isBlank c = true) ∧ line = front ++ "[workspace]".toList ++ back

/-- A directory has a manifest: a file that may be read, with the bytes of a text that declares a
workspace. -/
def HasWorkspaceManifest (tree : FileTree) (cwd : Place) (dir : Path) : Prop :=
  ∃ place text mode, DeclaresWorkspace text ∧ tree.rights.MayRead mode ∧
    tree.LeadsTo cwd (dir.join (Path.ofString "Cargo.toml")) place (.file (Utf8.encode text) mode)

variable {tree : FileTree} {cwd : Place} {start dir other : Path}

theorem declaresWorkspace_iff {text : List Char} :
    declaresWorkspace text = true ↔ DeclaresWorkspace text := by
  simp only [declaresWorkspace, List.any_eq_true, beq_iff_eq, DeclaresWorkspace,
    ← Text.mem_splitAt_iff]
  refine exists_congr fun line => and_congr_right fun _ => ?_
  exact Text.trim_eq_iff (by simp [Text.isBlank]) (by simp [Text.isBlank])

/-- The empty text declares no workspace. -/
theorem not_declaresWorkspace_nil : ¬ DeclaresWorkspace [] :=
  fun h => absurd (declaresWorkspace_iff.mpr h) (by decide)

/-- **Only a readable text with such a line makes a workspace.** -/
theorem isWorkspace_iff : tree.isWorkspace cwd dir = true ↔ tree.HasWorkspaceManifest cwd dir := by
  have hisWorkspace : tree.isWorkspace cwd dir = true ↔
      ∃ text, tree.readText cwd (dir.join workspaceManifest) = .ok text ∧
        DeclaresWorkspace text.toList := by
    rw [isWorkspace]
    cases tree.readText cwd (dir.join workspaceManifest) <;> simp [declaresWorkspace_iff]
  simp only [hisWorkspace, readText_eq_ok_iff, read_eq_ok_iff]
  constructor
  · rintro ⟨text, ⟨place, node, hplace, hgives⟩, hdeclares⟩
    generalize hcontent : Utf8.encode text.toList = content at hgives
    cases hgives with
    | @file _ mode hmode =>
        subst hcontent
        exact ⟨place, text.toList, mode, hdeclares, hmode, hplace⟩
    | other =>
        have hnil : [] = text.toList :=
          Option.some.inj (Utf8.decode?_eq_some_iff.mpr hcontent.symm)
        rw [← hnil] at hdeclares
        exact absurd hdeclares not_declaresWorkspace_nil
  · rintro ⟨place, text, mode, hdeclares, hmode, hplace⟩
    refine ⟨String.ofList text, ⟨place, _, hplace, ?_⟩, ?_⟩
    · rw [String.toList_ofList]
      exact .file hmode
    · rwa [String.toList_ofList]

theorem isDirectory_iff {path : Path} :
    tree.isDirectory cwd path = true ↔ ∃ place, tree.LeadsTo cwd path place .directory := by
  simp only [← resolve_eq_ok_iff, isDirectory]
  rcases tree.resolve cwd path with fault | ⟨place, node⟩
  · simp
  · cases node <;> simp

/-- A manifest is in a directory, unless it is looked for without one. -/
theorem HasWorkspaceManifest.exists_directory (h : tree.HasWorkspaceManifest cwd dir)
    (hne : dir.chars ≠ []) : ∃ place, tree.LeadsTo cwd dir place .directory := by
  obtain ⟨_, _, _, -, -, hfile⟩ := h
  exact hfile.exists_directory hne (by decide)

/-- A directory has its manifest also when it is written without what names nothing at its end. -/
theorem HasWorkspaceManifest.of_components_eq (h : tree.HasWorkspaceManifest cwd dir)
    (habsolute : dir.isAbsolute = true) (hwritten : other.chars <+: dir.chars)
    (hcomponents : other.components = dir.components) : tree.HasWorkspaceManifest cwd other := by
  obtain ⟨place, text, mode, hdeclares, hmode, hfile⟩ := h
  exact ⟨place, text, mode, hdeclares, hmode,
    hfile.of_components_eq (by decide) habsolute hwritten hcomponents⟩

/-! ## The directories that are looked at -/

/-- Where a search begins: at a directory itself, else at its parent, if it has one. -/
inductive SearchesFrom (tree : FileTree) (cwd : Place) : Path → Path → Prop
  | directory {start : Path} {place : Place} (hplace : tree.LeadsTo cwd start place .directory) :
      SearchesFrom tree cwd start start
  | parent {start parent : Path} (hno : ∀ place, ¬ tree.LeadsTo cwd start place .directory)
      (hparent : parent.IsParent start) : SearchesFrom tree cwd start parent
  | alone {start : Path} (hno : ∀ place, ¬ tree.LeadsTo cwd start place .directory)
      (hnone : ∀ parent : Path, ¬ parent.IsParent start) : SearchesFrom tree cwd start start

/-- The directories that are looked at: the first one with its parents, until there is none. -/
def Candidates (tree : FileTree) (cwd : Place) (start : Path) (candidates : List Path) : Prop :=
  ∃ first, SearchesFrom tree cwd start first ∧ first.Climbs candidates

theorem searchesFrom_iff {first : Path} :
    SearchesFrom tree cwd start first ↔ first = tree.searchStart cwd start := by
  by_cases hdirectory : ∃ place, tree.LeadsTo cwd start place .directory
  · have hstart : tree.searchStart cwd start = start := by
      rw [searchStart, if_pos (isDirectory_iff.mpr hdirectory)]
    obtain ⟨place, hplace⟩ := hdirectory
    rw [hstart]
    constructor
    · rintro (_ | ⟨hno, _⟩ | _)
      · rfl
      · exact absurd hplace (hno place)
      · rfl
    · rintro rfl
      exact .directory hplace
  · have hstart : tree.searchStart cwd start = start.parent?.getD start := by
      rw [searchStart, if_neg (mt isDirectory_iff.mp hdirectory)]
    rw [not_exists] at hdirectory
    rw [hstart]
    cases hparent : start.parent? with
    | some parent =>
        have hup := Path.parent?_eq_some_iff.mp hparent
        constructor
        · rintro (hplace | ⟨_, hother⟩ | ⟨_, hnone⟩)
          · exact absurd hplace (hdirectory _)
          · exact hother.unique hup
          · exact absurd hup (hnone parent)
        · rintro rfl
          exact .parent hdirectory hup
    | none =>
        have hnone : ∀ parent : Path, ¬ parent.IsParent start := by
          intro parent hup
          rw [Path.parent?_eq_some_iff.mpr hup] at hparent
          cases hparent
        constructor
        · rintro (_ | ⟨_, hother⟩ | _)
          · rfl
          · exact absurd hother (hnone _)
          · rfl
        · rintro rfl
          exact .alone hdirectory hnone

/-- **The directories that are looked at end**, and there are no others. -/
theorem candidates_iff {candidates : List Path} :
    tree.Candidates cwd start candidates ↔
      candidates = (tree.searchStart cwd start).climb := by
  simp only [Candidates, searchesFrom_iff, exists_eq_left, Path.climbs_iff]

/-! ## The search -/

theorem workspaceAround?_eq_some_iff {candidates : List Path}
    (h : tree.Candidates cwd start candidates) :
    tree.workspaceAround? cwd start = some dir ↔
      IsFirst (tree.HasWorkspaceManifest cwd) candidates dir := by
  rw [workspaceAround?, ← candidates_iff.mp h]
  exact find?_eq_some_iff_isFirst fun _ => isWorkspace_iff

theorem workspaceAround?_eq_none_iff {candidates : List Path}
    (h : tree.Candidates cwd start candidates) :
    tree.workspaceAround? cwd start = none ↔
      ∀ dir ∈ candidates, ¬ tree.HasWorkspaceManifest cwd dir := by
  rw [workspaceAround?, ← candidates_iff.mp h, List.find?_eq_none]
  simp only [isWorkspace_iff]

/-- **The search goes along the way up** from the path itself. -/
theorem workspaceAround?_eq (tree : FileTree) (cwd : Place) (start : Path) :
    tree.workspaceAround? cwd start = start.climb.find? (tree.isWorkspace cwd) := by
  rw [workspaceAround?]
  obtain hfirst := searchesFrom_iff.mpr (Eq.refl (tree.searchStart cwd start))
  generalize tree.searchStart cwd start = first at hfirst
  cases hfirst with
  | directory _ => rfl
  | alone _ _ => rfl
  | parent hno hparent =>
      -- a path that leads to no directory has no manifest
      have hskipped : tree.isWorkspace cwd start = false := by
        rw [← Bool.not_eq_true, isWorkspace_iff]
        intro hmanifest
        obtain ⟨place, hplace⟩ := hmanifest.exists_directory hparent.ne_nil
        exact hno place hplace
      have hclimb := Path.climbs_iff.mp (.next hparent (Path.climbs_iff.mpr rfl))
      rw [← hclimb, List.find?_cons, hskipped]

/-- Up from an absolute path, some candidate has the manifest of every directory that the path is
written through. -/
theorem HasWorkspaceManifest.exists_on_climb (h : tree.HasWorkspaceManifest cwd other)
    (habsolute : start.isAbsolute = true) (hencloses : other.Encloses start) :
    ∃ dir ∈ start.climb, dir.components = other.components ∧ tree.HasWorkspaceManifest cwd dir := by
  obtain ⟨dir, hdir, hcomponents, hwritten⟩ :=
    (Path.climbs_iff.mpr rfl).exists_mem_of_encloses hencloses
  exact ⟨dir, hdir, hcomponents,
    h.of_components_eq (hencloses.isAbsolute habsolute) hwritten hcomponents⟩

/-- **From an absolute path** the first candidate with a manifest is inside every directory with a
manifest that the path is written through. -/
theorem components_prefix_of_isFirst
    (h : IsFirst (tree.HasWorkspaceManifest cwd) start.climb dir)
    (habsolute : start.isAbsolute = true) (hencloses : other.Encloses start)
    (hother : tree.HasWorkspaceManifest cwd other) : other.components <+: dir.components := by
  obtain ⟨front, back, hclimb, -, hfront⟩ := h
  obtain ⟨found, hfound, hcomponents, hmanifest⟩ := hother.exists_on_climb habsolute hencloses
  have hpairwise := (Path.climbs_iff.mpr (Eq.refl start.climb)).pairwise
  rw [hclimb] at hfound hpairwise
  rw [← hcomponents]
  rcases List.mem_append.mp hfound with hbefore | hbehind
  · exact absurd hmanifest (hfront found hbefore)
  rcases List.mem_cons.mp hbehind with rfl | hbehind
  · exact List.prefix_refl _
  · have hinside := (List.pairwise_append.mp hpairwise).2.1
    exact (List.pairwise_cons.mp hinside).1 found hbehind

/-- **What is found is the closest workspace.** The directories that are looked at end, and the
first of them with a manifest that declares a workspace is found, whatever is wrong with the
manifests before it; none is found only if none of them has one. From an absolute path, that is the
deepest of all directories with such a manifest that the path is written through. -/
theorem closest_workspace_found (tree : FileTree) (cwd : Place) (start : Path) :
    (∃! candidates, tree.Candidates cwd start candidates) ∧
    (∀ candidates, tree.Candidates cwd start candidates →
      (∀ dir, tree.workspaceAround? cwd start = some dir ↔
        IsFirst (tree.HasWorkspaceManifest cwd) candidates dir) ∧
      (tree.workspaceAround? cwd start = none ↔
        ∀ dir ∈ candidates, ¬ tree.HasWorkspaceManifest cwd dir)) ∧
    (start.isAbsolute = true →
      (∀ dir, tree.workspaceAround? cwd start = some dir →
        dir.Encloses start ∧ (∃ place, tree.LeadsTo cwd dir place .directory) ∧
        tree.HasWorkspaceManifest cwd dir ∧
        ∀ other : Path, other.Encloses start → tree.HasWorkspaceManifest cwd other →
          other.components <+: dir.components) ∧
      (tree.workspaceAround? cwd start = none ↔
        ∀ other : Path, other.Encloses start → ¬ tree.HasWorkspaceManifest cwd other)) := by
  refine ⟨?_, ?_, fun habsolute => ⟨?_, ?_⟩⟩
  · exact ⟨_, candidates_iff.mpr rfl, fun other hother => candidates_iff.mp hother⟩
  · intro candidates h
    exact ⟨fun dir => workspaceAround?_eq_some_iff h, workspaceAround?_eq_none_iff h⟩
  · intro dir hfound
    have hfirst : IsFirst (tree.HasWorkspaceManifest cwd) start.climb dir := by
      rwa [workspaceAround?_eq, find?_eq_some_iff_isFirst fun _ => isWorkspace_iff] at hfound
    have hencloses : dir.Encloses start :=
      (Path.climbs_iff.mpr rfl).encloses habsolute dir hfirst.mem
    refine ⟨hencloses, hfirst.prop.exists_directory ?_, hfirst.prop, ?_⟩
    · exact Path.ne_nil_of_isAbsolute (hencloses.isAbsolute habsolute)
    · exact fun other => components_prefix_of_isFirst hfirst habsolute
  · rw [workspaceAround?_eq, List.find?_eq_none]
    simp only [isWorkspace_iff]
    constructor
    · intro hnone other hencloses hother
      obtain ⟨dir, hdir, -, hmanifest⟩ := hother.exists_on_climb habsolute hencloses
      exact hnone dir hdir hmanifest
    · intro hnone dir hdir
      exact hnone dir ((Path.climbs_iff.mpr rfl).encloses habsolute dir hdir)

/-- A workspace, seen by the owner of its files. On the way up to its manifest there are one that
the owner may not read, that of a member, one that is no text, and a directory in the place of one;
the first and the third of them would declare a workspace. -/
def crateTree : FileTree :=
  let root : FileTree := { nodes := .empty, rights := .owner }
  (((((((((root.put ["ws"] .directory).put ["Cargo.toml", "ws"]
    (.file (Utf8.ofString "[package]\n [workspace]\t\r\n") 0o644)).put
    ["crates", "ws"] .directory).put ["Cargo.toml", "crates", "ws"] .directory).put
    ["demo", "crates", "ws"] .directory).put ["Cargo.toml", "demo", "crates", "ws"]
    (.file (0xFF :: Utf8.ofString "\n[workspace]\n") 0o644)).put
    ["src", "demo", "crates", "ws"] .directory).put ["Cargo.toml", "src", "demo", "crates", "ws"]
    (.file (Utf8.ofString "[package]\nname = \"[workspace]\"\n") 0o644)).put
    ["bin", "src", "demo", "crates", "ws"] .directory).put
    ["Cargo.toml", "bin", "src", "demo", "crates", "ws"]
    (.file (Utf8.ofString "[workspace]\n") 0o377)

/-- A path to a file that is not there. -/
def mainFile : Path := Path.ofString "/ws//crates/./demo/src/bin/main.rs"

/-- The directories that are looked at from there. -/
def crateCandidates : List Path :=
  ["/ws//crates/./demo/src/bin", "/ws//crates/./demo/src", "/ws//crates/./demo", "/ws//crates", "/ws",
    "/"].map Path.ofString

theorem closest_workspace_found_crates :
    crateTree.Candidates [] mainFile crateCandidates ∧
    crateTree.read [] (Path.ofString "/ws/crates/demo/src/bin/Cargo.toml") = .error .denied ∧
    IsFirst (crateTree.HasWorkspaceManifest []) crateCandidates (Path.ofString "/ws") ∧
    mainFile.isAbsolute = true ∧
    (∀ other : Path, other.Encloses mainFile → crateTree.HasWorkspaceManifest [] other →
      other.components <+: [['/'], ['w', 's']]) ∧
    ∀ other : Path, other.Encloses (Path.ofString "/etc//hosts") →
      ¬ crateTree.HasWorkspaceManifest [] other := by
  obtain ⟨-, hsearch, habsolute⟩ := closest_workspace_found crateTree [] mainFile
  obtain ⟨-, -, hnone⟩ := closest_workspace_found crateTree [] (Path.ofString "/etc//hosts")
  have hcandidates : crateTree.Candidates [] mainFile crateCandidates := candidates_iff.mpr (by rfl)
  have hfound : crateTree.workspaceAround? [] mainFile = some (Path.ofString "/ws") := by rfl
  refine ⟨hcandidates, by rfl, ((hsearch _ hcandidates).1 _).mp hfound, by rfl, ?_, ?_⟩
  · exact ((habsolute (by rfl)).1 _ hfound).2.2.2
  · exact (hnone (by rfl)).2.mp (by rfl)

end FileTree

end FirmwareBench
