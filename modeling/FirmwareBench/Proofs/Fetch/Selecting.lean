import FirmwareBench.Proofs.Fetch.SetUp
import FirmwareBench.Proofs.Search

/-!
# Artifacts asked for by name

Names pick artifacts, and a name that picks nothing is an error. What is picked keeps the order of
the artifacts and is repeated as often as they are; the order of the names does not matter. As no
names at all mean everything, what is picked from a selection is what is picked from all artifacts
only where some name is given.

## Main definitions

* `Artifact.IsSelection`: the artifacts with one of the given names, said without going through
  them.

## Main statements

* `Artifact.isSelection_iff`: there is one selection for names.
* `Artifact.select_eq_error_iff`: there is none because of the first name that picks nothing.
* `Artifact.select_loses_nothing`: what is selected, and that it depends on nothing else.
-/

set_option autoImplicit false

namespace FirmwareBench.Artifact

/-- The chosen artifacts are those with one of the given names. -/
structure IsSelection (artifacts : List Artifact) (only : List String) (chosen : List Artifact) :
    Prop where
  /-- Nothing is invented, and the order stays. -/
  sublist : chosen.Sublist artifacts
  /-- What is chosen has one of the names. -/
  asked : ∀ a ∈ chosen, a.name ∈ only
  /-- Nothing with one of the names is lost, however often it is there. -/
  kept : ∀ a, a.name ∈ only → chosen.count a = artifacts.count a

/-- A name picks nothing. -/
def IsUnknown (artifacts : List Artifact) (name : String) : Prop := ∀ a ∈ artifacts, a.name ≠ name

variable {artifacts chosen : List Artifact} {only fewer : List String}

/-! ## There is one selection -/

theorem isSelection_filter (artifacts : List Artifact) (only : List String) :
    IsSelection artifacts only (artifacts.filter fun a => a.name ∈ only) := by
  refine ⟨List.filter_sublist, ?_, ?_⟩
  · intro a ha
    simpa using (List.mem_filter.mp ha).2
  · intro a ha
    exact List.count_filter (by simpa using ha)

/-- **There is one selection**: the artifacts less those without one of the names. -/
theorem isSelection_iff :
    IsSelection artifacts only chosen ↔ chosen = artifacts.filter fun a => a.name ∈ only := by
  constructor
  · intro h
    have hfilter := isSelection_filter artifacts only
    -- both hold the same artifacts equally often, and one is part of the other
    have hperm : chosen.Perm (artifacts.filter fun a => a.name ∈ only) := by
      rw [List.perm_iff_count]
      intro a
      by_cases ha : a.name ∈ only
      · rw [h.kept a ha, hfilter.kept a ha]
      · rw [List.count_eq_zero_of_not_mem fun hmem => ha (h.asked a hmem),
          List.count_eq_zero_of_not_mem fun hmem => ha (hfilter.asked a hmem)]
    have hself : chosen.filter (fun a => a.name ∈ only) = chosen :=
      List.filter_eq_self.mpr fun a ha => decide_eq_true (h.asked a ha)
    have hsublist : chosen.Sublist (artifacts.filter fun a => a.name ∈ only) := by
      have hfiltered := h.sublist.filter fun a => decide (a.name ∈ only)
      rwa [hself] at hfiltered
    exact hsublist.eq_of_length hperm.length_eq
  · rintro rfl
    exact isSelection_filter artifacts only

/-- What is asked for is everything, or the selection for the names. -/
theorem eq_filter_isAsked_iff :
    chosen = artifacts.filter (fun a => a.IsAsked only) ↔
      if only = [] then chosen = artifacts else IsSelection artifacts only chosen := by
  by_cases honly : only = []
  · have hall : artifacts.filter (fun a => a.IsAsked only) = artifacts :=
      List.filter_eq_self.mpr fun a _ => decide_eq_true (.inl honly)
    rw [if_pos honly, hall]
  · have hasked : artifacts.filter (fun a => a.IsAsked only) =
        artifacts.filter fun a => a.name ∈ only :=
      List.filter_congr fun a _ => by simp [IsAsked, honly]
    rw [if_neg honly, hasked, isSelection_iff]

/-! ## Names that pick nothing -/

/-- **There is no selection because of the first name that picks nothing.** -/
theorem select_eq_error_iff {error : FetchError} :
    select artifacts only = .error error ↔
      ∃ name, IsFirst (IsUnknown artifacts) only name ∧ error = .unknownArtifact name := by
  have hfind : ∀ name, only.find? (fun name => !artifacts.any (·.name == name)) = some name ↔
      IsFirst (IsUnknown artifacts) only name := by
    intro name
    exact find?_eq_some_iff_isFirst fun name => by simp [IsUnknown]
  simp only [← hfind, select]
  cases only.find? fun name => !artifacts.any (·.name == name) with
  | some unknown => simp [eq_comm]
  | none => by_cases honly : only.isEmpty = true <;> simp [honly]

/-! ## What a selection depends on -/

/-- Each of the names is that of an artifact that is chosen. -/
theorem exists_mem_of_select (h : select artifacts only = .ok chosen) :
    ∀ name ∈ only, ∃ a ∈ chosen, a.name = name := by
  obtain ⟨hknown, rfl⟩ := select_eq_ok_iff.mp h
  intro name hname
  obtain ⟨a, ha, rfl⟩ := hknown name hname
  exact ⟨a, List.mem_filter.mpr ⟨ha, decide_eq_true (.inr hname)⟩, rfl⟩

/-- The same names make the same selection. -/
theorem select_of_mem_iff (h : select artifacts only = .ok chosen) {names : List String}
    (hnames : ∀ name, name ∈ names ↔ name ∈ only) : select artifacts names = .ok chosen := by
  obtain ⟨hknown, rfl⟩ := select_eq_ok_iff.mp h
  refine select_eq_ok_iff.mpr ⟨fun name hname => hknown name ((hnames name).mp hname), ?_⟩
  refine List.filter_congr fun a _ => ?_
  simp only [IsAsked, List.eq_nil_iff_forall_not_mem, hnames]

/-- **Selecting from a selection is selecting.** -/
theorem select_select (h : select artifacts only = .ok chosen) (hne : fewer ≠ [])
    (hfewer : ∀ name ∈ fewer, name ∈ only) : select chosen fewer = select artifacts fewer := by
  have hpresent := exists_mem_of_select h
  obtain ⟨hknown, rfl⟩ := select_eq_ok_iff.mp h
  -- what has one of the fewer names has one of the names that were given before
  have hchosen : (artifacts.filter fun a => a.IsAsked only).filter (fun a => a.IsAsked fewer) =
      artifacts.filter fun a => a.IsAsked fewer := by
    rw [List.filter_filter]
    refine List.filter_congr fun a _ => ?_
    by_cases ha : a.name ∈ fewer
    · simp [IsAsked, ha, hfewer a.name ha]
    · simp [IsAsked, ha, hne]
  have hall : select artifacts fewer = .ok (artifacts.filter fun a => a.IsAsked fewer) :=
    select_eq_ok_iff.mpr ⟨fun name hname => hknown name (hfewer name hname), rfl⟩
  rw [hall]
  exact select_eq_ok_iff.mpr ⟨fun name hname => hpresent name (hfewer name hname), hchosen.symm⟩

/-- **Selecting loses and invents nothing.** It fails exactly if some name picks nothing, with the
first such name, and else gives all artifacts if there are no names, and those with one of the names
if there are some. So every name is there in the result, the result is the same for the same names
in any order and number, and a selection from it by some of these names is the selection by them
from all artifacts. -/
theorem select_loses_nothing (artifacts : List Artifact) (only : List String) :
    (∀ error, select artifacts only = .error error ↔
      ∃ name, IsFirst (IsUnknown artifacts) only name ∧ error = .unknownArtifact name) ∧
    ((∃ error, select artifacts only = .error error) ↔ ∃ name ∈ only, IsUnknown artifacts name) ∧
    (∀ chosen, select artifacts only = .ok chosen ↔
      (∀ name ∈ only, ∃ a ∈ artifacts, a.name = name) ∧
        if only = [] then chosen = artifacts else IsSelection artifacts only chosen) ∧
    ∀ chosen, select artifacts only = .ok chosen →
      (∀ name ∈ only, ∃ a ∈ chosen, a.name = name) ∧
      (∀ names, (∀ name, name ∈ names ↔ name ∈ only) → select artifacts names = .ok chosen) ∧
      ∀ fewer, fewer ≠ [] → (∀ name ∈ fewer, name ∈ only) →
        select chosen fewer = select artifacts fewer := by
  refine ⟨fun error => select_eq_error_iff, ?_, ?_, ?_⟩
  · rw [← exists_isFirst_iff]
    simp only [select_eq_error_iff]
    exact ⟨fun ⟨_, name, hname, _⟩ => ⟨name, hname⟩, fun ⟨name, hname⟩ => ⟨_, name, hname, rfl⟩⟩
  · intro chosen
    rw [select_eq_ok_iff, eq_filter_isAsked_iff]
  · intro chosen h
    exact ⟨exists_mem_of_select h, fun _ hnames => select_of_mem_iff h hnames,
      fun _ hne hfewer => select_select h hne hfewer⟩

/-- Two of these have the same name, and one is there twice. -/
def repeatedArtifacts : List Artifact :=
  [{ name := "gnu", label := "new", file := "new.gz" }, { name := "llvm", label := "l", file := "l" },
    { name := "gnu", label := "old", file := "old.gz" },
    { name := "gnu", label := "new", file := "new.gz" },
    { name := "eclipse", label := "e", file := "e" }]

theorem select_loses_nothing_repeated :
    let chosen := repeatedArtifacts.take 4
    select repeatedArtifacts ["llvm", "gnu"] = .ok chosen ∧
      (∀ name, name ∈ ["gnu", "llvm", "gnu"] ↔ name ∈ ["llvm", "gnu"]) ∧
      select repeatedArtifacts ["gnu", "llvm", "gnu"] = .ok chosen ∧
      (∀ name ∈ ["gnu"], name ∈ ["llvm", "gnu"]) ∧
      select chosen ["gnu"] = select repeatedArtifacts ["gnu"] ∧
      select repeatedArtifacts ["gnu", "qemu", "make"] = .error (.unknownArtifact "qemu") := by
  intro chosen
  have hselect : select repeatedArtifacts ["llvm", "gnu"] = .ok chosen := by decide
  have hnames : ∀ name, name ∈ ["gnu", "llvm", "gnu"] ↔ name ∈ ["llvm", "gnu"] := by
    intro name
    simp only [List.mem_cons, List.not_mem_nil, or_false]
    tauto
  have hfewer : ∀ name ∈ ["gnu"], name ∈ ["llvm", "gnu"] := by decide
  obtain ⟨-, hsame, hagain⟩ :=
    (select_loses_nothing repeatedArtifacts ["llvm", "gnu"]).2.2.2 chosen hselect
  refine ⟨hselect, hnames, hsame _ hnames, hfewer, hagain _ (by simp) hfewer, ?_⟩
  refine ((select_loses_nothing repeatedArtifacts ["gnu", "qemu", "make"]).1 _).mpr
    ⟨"qemu", ⟨["gnu"], ["make"], rfl, ?_, ?_⟩, rfl⟩
  · simp only [IsUnknown]
    decide
  · simp only [IsUnknown]
    decide

/-- No names at all mean everything, also for a selection: here it is not the selection by no names
from all artifacts. -/
example : select (repeatedArtifacts.take 1) [] ≠ select repeatedArtifacts [] := by decide

end FirmwareBench.Artifact
