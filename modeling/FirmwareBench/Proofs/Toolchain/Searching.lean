import FirmwareBench.Proofs.FileTree.Reading
import FirmwareBench.Proofs.Search
import FirmwareBench.Proofs.Text.Pieces
import FirmwareBench.Toolchain.Detection

/-!
# Programs in directories

The first program that is found is the answer, wherever it lies: the directories are searched for
one name after the other, so their order does not matter. Only a name of one component is searched
for. Such a name can contain slashes too, as in `tool/`, but then its last piece names nothing, and
behind every directory it leads to a directory. So a name with a slash is found by itself or not at
all.

## Main definitions

* `Node.IsRunnable`: a file that may be run.
* `FileTree.IsProgramAt`: a path leads to such a file.
* `FileTree.IsFound`: a name is found.

## Main statements

* `FileTree.not_isProgramAt_join`: a name with a slash that is searched for is in no directory.
* `FileTree.detector_finds_first`: the first name that is found is the answer, and what the
  directories have to do with it.
-/

set_option autoImplicit false

namespace FirmwareBench

/-! ## Files that may be run -/

/-- A regular file that somebody may run. -/
inductive Node.IsRunnable : Node → Prop
  /-- A file with one of the three execute bits: that of others, of the group or of the owner. -/
  | file {content : Utf8.Bytes} {mode bit : Nat} (hbit : bit ∈ [0, 3, 6])
      (hset : mode.testBit bit = true) : IsRunnable (.file content mode)
  | program {name : String} : IsRunnable (.program name)

/-- The mask that a mode is tested with holds the three execute bits. -/
theorem and_executeMask_ne_zero_iff {mode : Nat} :
    mode &&& 0o111 ≠ 0 ↔ ∃ bit ∈ [0, 3, 6], mode.testBit bit = true := by
  have hmask : (0o111 : Nat) = 2 ^ 0 ||| 2 ^ 3 ||| 2 ^ 6 := by decide
  rw [hmask, Nat.and_or_distrib_left, Nat.and_or_distrib_left, Ne, Nat.or_eq_zero_iff,
    Nat.or_eq_zero_iff, not_and_or, not_and_or, or_assoc]
  simp only [← and_two_pow_ne_zero_iff, Ne, List.mem_cons, List.not_mem_nil, or_false, exists_eq_or_imp,
    exists_eq_left]

theorem Node.isExecutable_iff {node : Node} : node.isExecutable = true ↔ node.IsRunnable := by
  cases node with
  | file content mode =>
      rw [isExecutable, bne_iff_ne, and_executeMask_ne_zero_iff]
      constructor
      · rintro ⟨bit, hbit, hset⟩
        exact .file hbit hset
      · rintro ⟨hbit, hset⟩
        exact ⟨_, hbit, hset⟩
  | program name => exact iff_of_true rfl .program
  | directory | link | sink => exact iff_of_false (by simp [isExecutable]) (by rintro ⟨⟩)

/-! ## Names with a slash -/

namespace Path

/-- What stands in front of a name is put before it, if anything. -/
theorem exists_join_chars (dir name : Path) :
    ∃ front, (dir.join name).chars = front ++ name.chars := by
  rw [join]
  split_ifs with habsolute hdir
  · exact ⟨[], rfl⟩
  · exact ⟨dir.chars, rfl⟩
  · exact ⟨dir.chars ++ ['/'], by simp⟩

/-- A relative path with a slash begins with a piece that is not empty. -/
theorem ne_nil_of_pieces_cons {path : Path} {first : List Char} {rest : List (List Char)}
    (hslash : '/' ∈ path.chars) (hrelative : path.isAbsolute = false)
    (hpieces : path.pieces = first :: rest) : first ≠ [] := by
  cases hchars : path.chars with
  | nil => simp [hchars] at hslash
  | cons c later =>
      have hc : c ≠ '/' := by
        rintro rfl
        simp [isAbsolute, hchars] at hrelative
      rw [pieces, hchars, Text.splitAt, if_neg hc] at hpieces
      cases hlater : Text.splitAt '/' later with
      | nil => exact absurd hlater (Text.splitAt_ne_nil '/' later)
      | cons piece others =>
          obtain ⟨rfl, -⟩ : c :: piece = first ∧ others = rest := by simpa [hlater] using hpieces
          simp

/-- The first piece of a path with a slash stands for one component, whatever it is. -/
theorem length_components {path : Path} {first : List Char} {rest : List (List Char)}
    (hslash : '/' ∈ path.chars) (hpieces : path.pieces = first :: rest) :
    path.components.length = 1 + (rest.filter fun piece => !isIdle piece).length := by
  rw [components, hpieces]
  by_cases habsolute : path.isAbsolute = true
  · simp [habsolute, Nat.add_comm]
  · rw [Bool.not_eq_true] at habsolute
    have hfirst : first ≠ [] := ne_nil_of_pieces_cons hslash habsolute hpieces
    simp [habsolute, hfirst, Nat.add_comm]

/-- **A path with a slash and no more than one component ends with a piece that names nothing.** -/
theorem isIdle_of_getLast?_pieces {path : Path} {last : List Char} (hslash : '/' ∈ path.chars)
    (hcomponents : path.components.length ≤ 1) (hlast : last ∈ path.pieces.getLast?) :
    isIdle last = true := by
  obtain ⟨before, after, hchars⟩ := List.append_of_mem hslash
  have hsplit : path.pieces = Text.splitAt '/' before ++ Text.splitAt '/' after := by
    rw [pieces, hchars, Text.splitAt_append]
  cases hbefore : Text.splitAt '/' before with
  | nil => exact absurd hbefore (Text.splitAt_ne_nil '/' before)
  | cons first middle =>
      have hpieces : path.pieces = first :: (middle ++ Text.splitAt '/' after) := by
        rw [hsplit, hbefore, List.cons_append]
      -- the first piece is the one component, so all the others name nothing
      have hnone : (middle ++ Text.splitAt '/' after).filter (fun piece => !isIdle piece) = [] := by
        rw [length_components hslash hpieces] at hcomponents
        exact List.eq_nil_of_length_eq_zero (by omega)
      have hbehind : middle ++ Text.splitAt '/' after ≠ [] := by simp [Text.splitAt_ne_nil]
      rw [hpieces, List.getLast?_cons_of_ne_nil hbehind] at hlast
      simpa using List.filter_eq_nil_iff.mp hnone last (List.mem_of_getLast? hlast)

example : (Path.ofString "tool/.").components = ["tool".toList] := by decide

end Path

namespace FileTree

/-! ## Programs -/

/-- A path leads to a file that may be run. -/
def IsProgramAt (tree : FileTree) (cwd : Place) (path : Path) : Prop :=
  ∃ place node, tree.LeadsTo cwd path place node ∧ node.IsRunnable

/-- A name is found: a path of more than one component by itself, any other name in one of the
directories. -/
def IsFound (tree : FileTree) (cwd : Place) (dirs : List Path) (name : String) : Prop :=
  if 1 < (Path.ofString name).components.length then tree.IsProgramAt cwd (Path.ofString name)
  else ∃ dir ∈ dirs, tree.IsProgramAt cwd (dir.join (Path.ofString name))

variable {tree : FileTree} {cwd : Place} {dirs others : List Path} {name : String}
  {names : List String}

theorem isExecutable_iff {path : Path} :
    tree.isExecutable cwd path = true ↔ tree.IsProgramAt cwd path := by
  simp only [IsProgramAt, ← resolve_eq_ok_iff, ← Node.isExecutable_iff, isExecutable]
  rcases tree.resolve cwd path with fault | ⟨place, node⟩ <;> simp

theorem hasProgram_iff : tree.hasProgram cwd dirs name = true ↔ tree.IsFound cwd dirs name := by
  rw [hasProgram, IsFound]
  by_cases hcomponents : 1 < (Path.ofString name).components.length
  · rw [if_pos hcomponents, if_pos hcomponents, isExecutable_iff]
  · rw [if_neg hcomponents, if_neg hcomponents, List.any_eq_true]
    simp only [isExecutable_iff]

/-- **Behind a directory, a name with a slash and no more than one component is no program**: its
last piece names nothing, so it leads to a directory. -/
theorem not_isProgramAt_join {path : Path} (hslash : '/' ∈ path.chars)
    (hcomponents : path.components.length ≤ 1) (dir : Path) :
    ¬ tree.IsProgramAt cwd (dir.join path) := by
  rintro ⟨place, node, ⟨-, links, -, hleads⟩, hrunnable⟩
  have hlast : ∀ last ∈ (FileTree.names (dir.join path)).getLast?, IsIdleName last := by
    obtain ⟨front, hfront⟩ := Path.exists_join_chars dir path
    intro last hlast
    rw [FileTree.names, Path.pieces, hfront, List.getLast?_map,
      Text.getLast?_splitAt_append hslash] at hlast
    obtain ⟨piece, hpiece, rfl⟩ := Option.map_eq_some_iff.mp hlast
    exact isIdleName_ofList_iff.mpr (Path.isIdle_of_getLast?_pieces hslash hcomponents hpiece)
  obtain rfl : node = .directory := hleads.eq_directory hlast
  cases hrunnable

/-- A name with a slash is found by itself or not at all. -/
theorem isFound_iff_of_slash (hslash : '/' ∈ name.toList) :
    tree.IsFound cwd dirs name ↔
      1 < (Path.ofString name).components.length ∧ tree.IsProgramAt cwd (Path.ofString name) := by
  rw [IsFound]
  by_cases hcomponents : 1 < (Path.ofString name).components.length
  · rw [if_pos hcomponents, and_iff_right hcomponents]
  · rw [if_neg hcomponents]
    refine iff_of_false ?_ fun h => hcomponents h.1
    rintro ⟨dir, -, hprogram⟩
    exact not_isProgramAt_join hslash (Nat.le_of_not_lt hcomponents) dir hprogram

/-- What is found stays so with more directories. -/
theorem IsFound.mono (h : tree.IsFound cwd dirs name) (hdirs : ∀ dir ∈ dirs, dir ∈ others) :
    tree.IsFound cwd others name := by
  rw [IsFound] at h ⊢
  by_cases hcomponents : 1 < (Path.ofString name).components.length
  · rwa [if_pos hcomponents] at h ⊢
  · rw [if_neg hcomponents] at h ⊢
    obtain ⟨dir, hdir, hprogram⟩ := h
    exact ⟨dir, hdirs dir hdir, hprogram⟩

/-! ## The answer -/

theorem detector_eq_some_iff :
    tree.detector cwd dirs names = some name ↔ IsFirst (tree.IsFound cwd dirs) names name :=
  find?_eq_some_iff_isFirst fun _ => hasProgram_iff

theorem detector_eq_none_iff :
    tree.detector cwd dirs names = none ↔ ∀ name ∈ names, ¬ tree.IsFound cwd dirs name := by
  rw [detector, List.find?_eq_none]
  simp only [hasProgram_iff]

/-- Where the same of the names are found, the answer is the same. -/
theorem detector_congr
    (h : ∀ name ∈ names, (tree.IsFound cwd others name ↔ tree.IsFound cwd dirs name)) :
    tree.detector cwd others names = tree.detector cwd dirs names := by
  refine Option.ext fun name => ?_
  rw [detector_eq_some_iff, detector_eq_some_iff, isFirst_congr h]

/-- **The first name that is found is the answer**, and there is none if none is found. It does not
matter in which order and how often the directories are listed; with more directories there is
still an answer where there was one; and for names with a slash the directories do not matter. -/
theorem detector_finds_first (tree : FileTree) (cwd : Place) (dirs : List Path) :
    (∀ names name, tree.detector cwd dirs names = some name ↔
      IsFirst (tree.IsFound cwd dirs) names name) ∧
    (∀ names, tree.detector cwd dirs names = none ↔
      ∀ name ∈ names, ¬ tree.IsFound cwd dirs name) ∧
    (∀ others, (∀ dir, dir ∈ others ↔ dir ∈ dirs) →
      tree.detector cwd others = tree.detector cwd dirs) ∧
    (∀ others names, (∀ dir ∈ dirs, dir ∈ others) → tree.detector cwd dirs names ≠ none →
      tree.detector cwd others names ≠ none) ∧
    (∀ others names, (∀ name ∈ names, '/' ∈ name.toList) →
      tree.detector cwd others names = tree.detector cwd dirs names) := by
  refine ⟨fun _ _ => detector_eq_some_iff, fun _ => detector_eq_none_iff, ?_, ?_, ?_⟩
  · intro others hdirs
    funext names
    exact detector_congr fun name _ =>
      ⟨fun h => h.mono fun dir => (hdirs dir).mp, fun h => h.mono fun dir => (hdirs dir).mpr⟩
  · intro others names hdirs hsome hnone
    refine hsome (detector_eq_none_iff.mpr fun name hname hfound => ?_)
    exact detector_eq_none_iff.mp hnone name hname (hfound.mono hdirs)
  · intro others names hslash
    refine detector_congr fun name hname => ?_
    rw [isFound_iff_of_slash (hslash name hname), isFound_iff_of_slash (hslash name hname)]

/-- A tree with a compiler that another directory has a link to. -/
def linkTree : FileTree :=
  (((empty.put ["bin"] .directory).put ["cc", "bin"] (.link (Path.ofString "../opt/gcc"))).put
    ["opt"] .directory).put ["gcc", "opt"] (.file [] 0o755)

/-- The two directories of that tree. -/
def linkDirs : List Path := [Path.ofString "/bin", Path.ofString "opt"]

theorem detector_finds_first_link :
    IsFirst (linkTree.IsFound [] linkDirs) ["ar", "bin/", "cc", "gcc"] "cc" ∧
    (∀ name ∈ ["ar", "bin/"], ¬ linkTree.IsFound [] linkDirs name) ∧
    linkTree.detector [] (linkDirs.reverse ++ linkDirs) = linkTree.detector [] linkDirs ∧
    linkTree.detector [] (Path.ofString "/sbin" :: linkDirs) ["gcc"] ≠ none ∧
    linkTree.detector [] [] ["bin/", "/bin/cc"] = some "/bin/cc" := by
  obtain ⟨hfirst, hnone, hsame, hmore, hslash⟩ := detector_finds_first linkTree [] linkDirs
  refine ⟨(hfirst _ _).mp (by rfl), (hnone _).mp (by rfl), hsame _ (by simp), ?_, ?_⟩
  · exact hmore _ _ (fun dir hdir => List.mem_cons_of_mem _ hdir) (by decide)
  · rw [hslash [] ["bin/", "/bin/cc"] (by decide)]
    rfl

end FileTree

end FirmwareBench
