import FirmwareBench.Proofs.FileTree.Resolution
import FirmwareBench.Proofs.Text.Encoding
import Mathlib.Data.Nat.Bitwise

/-!
# What is read

A path is read where it leads to something that gives bytes to a reader: a file whose permission
bits let it be read, or something that is always empty. A file with other bits is refused, and
nothing else is.

## Main definitions

* `Rights.MayRead`: the rights are enough for some permission bits.
* `Node.Gives`: what a node gives to a reader.

## Main statements

* `FileTree.read_eq_ok_iff`: what a read gives.
* `FileTree.read_eq_denied_iff`: what a read is refused.
* `FileTree.readText_eq_ok_iff`: a text is read where its bytes are.
-/

set_option autoImplicit false

namespace FirmwareBench

/-! ## Permission bits -/

/-- A mask with a single bit is met where that bit is set. -/
theorem and_two_pow_ne_zero_iff {mode bit : Nat} :
    mode &&& 2 ^ bit ≠ 0 ↔ mode.testBit bit = true := by
  rw [Nat.and_two_pow]
  cases mode.testBit bit <;> simp

/-- The rights are enough to read a file with some permission bits. -/
inductive Rights.MayRead : Rights → Nat → Prop
  | owner {mode : Nat} (hset : mode.testBit 8 = true) : MayRead .owner mode
  | privileged {mode : Nat} : MayRead .privileged mode

theorem Rights.permits_read_iff {rights : Rights} {mode : Nat} :
    rights.permits .read mode = true ↔ rights.MayRead mode := by
  cases rights with
  | owner =>
      have hbit : mode &&& 2 ^ 8 ≠ 0 ↔ mode.testBit 8 = true := and_two_pow_ne_zero_iff
      rw [permits, bne_iff_ne]
      refine hbit.trans ⟨.owner, ?_⟩
      rintro ⟨hset⟩
      exact hset
  | privileged => exact iff_of_true rfl .privileged

/-- What a node gives to a reader. A directory gives nothing, not even the empty text. -/
inductive Node.Gives (rights : Rights) : Node → Utf8.Bytes → Prop
  /-- A file gives its content to those who may read it. -/
  | file {content : Utf8.Bytes} {mode : Nat} (hmode : rights.MayRead mode) :
      Gives rights (.file content mode) content
  /-- Anything else is empty. -/
  | other {node : Node} (hfile : ∀ content mode, node ≠ .file content mode)
      (hdirectory : node ≠ .directory) : Gives rights node []

section

variable {rights : Rights} {content : Utf8.Bytes}

theorem Node.gives_file_iff {stored : Utf8.Bytes} {mode : Nat} :
    (Node.file stored mode).Gives rights content ↔ rights.MayRead mode ∧ stored = content := by
  constructor
  · rintro (hmode | ⟨hfile, -⟩)
    · exact ⟨hmode, rfl⟩
    · exact absurd rfl (hfile stored mode)
  · rintro ⟨hmode, rfl⟩
    exact .file hmode

theorem Node.not_gives_directory : ¬ Node.directory.Gives rights content := by
  rintro (_ | ⟨-, hdirectory⟩)
  exact hdirectory rfl

theorem Node.gives_iff_of_ne {node : Node} (hfile : ∀ content mode, node ≠ .file content mode)
    (hdirectory : node ≠ .directory) : node.Gives rights content ↔ content = [] := by
  constructor
  · rintro (_ | _)
    · exact absurd rfl (hfile _ _)
    · rfl
  · rintro rfl
    exact .other hfile hdirectory

end

namespace FileTree

variable {tree : FileTree} {cwd : Place} {path : Path}

/-! ## Reading -/

theorem read_eq_ok_iff {content : Utf8.Bytes} :
    tree.read cwd path = .ok content ↔
      ∃ place node, tree.LeadsTo cwd path place node ∧ node.Gives tree.rights content := by
  simp only [← resolve_eq_ok_iff, read]
  rcases tree.resolve cwd path with fault | ⟨place, node⟩
  · simp
  · cases node with
    | file stored mode =>
        by_cases hpermits : tree.rights.permits .read mode = true <;>
          simp [Node.gives_file_iff, ← Rights.permits_read_iff, hpermits]
    | directory => simp [Node.not_gives_directory]
    | link | program | sink => simp [Node.gives_iff_of_ne, eq_comm]

/-- A text is read where its bytes are. -/
theorem readText_eq_ok_iff {text : String} :
    tree.readText cwd path = .ok text ↔ tree.read cwd path = .ok (Utf8.encode text.toList) := by
  rw [readText]
  cases tree.read cwd path with
  | error fault => simp
  | ok content =>
      rw [Except.ok.injEq, ← Utf8.decode?_eq_some_iff]
      cases hdecode : Utf8.decode? content <;> simp [hdecode, ← String.toList_inj]

/-! ## Refusals -/

theorem leg_ne_denied (follow : Bool) (here : Place) (list : List String) :
    tree.leg follow here list ≠ .error .denied := by
  fun_induction leg tree follow here list <;> simp_all

theorem walkNames_ne_denied (follow : Bool) (limit : Nat) (here : Place) (list : List String) :
    tree.walkNames follow limit here list ≠ .error .denied := by
  fun_induction walkNames tree follow limit here list with
  | case1 _ _ _ fault hleg =>
      rintro ⟨⟩
      exact leg_ne_denied follow _ _ hleg
  | case2 => simp
  | case3 => simp
  | case4 _ _ _ _ _ _ _ ih => exact ih

/-- Going somewhere is never forbidden. -/
theorem resolve_ne_denied : tree.resolve cwd path ≠ .error .denied := by
  have hwalk : tree.walk cwd true path ≠ .error .denied := by
    rw [walk]
    split_ifs
    · simp
    · simp
    · simp
    · exact walkNames_ne_denied _ _ _ _
    · exact walkNames_ne_denied _ _ _ _
  rw [resolve]
  split
  · rename_i fault hfault
    rintro ⟨⟩
    exact hwalk hfault
  · simp
  · simp

/-- **A read is refused exactly at a file that the rights are not enough for.** -/
theorem read_eq_denied_iff :
    tree.read cwd path = .error .denied ↔
      ∃ place content mode, tree.LeadsTo cwd path place (.file content mode) ∧
        ¬ tree.rights.MayRead mode := by
  simp only [← resolve_eq_ok_iff, read]
  rcases hresolve : tree.resolve cwd path with fault | ⟨place, node⟩
  · have hfault : fault ≠ .denied := by
      rintro rfl
      exact resolve_ne_denied hresolve
    simpa using hfault
  · cases node with
    | file stored mode => simp [← Rights.permits_read_iff]
    | directory | link | program | sink => simp

end FileTree

end FirmwareBench
