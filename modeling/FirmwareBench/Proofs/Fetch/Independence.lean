import FirmwareBench.Proofs.Fetch.Account
import FirmwareBench.Proofs.Fetch.DryRun

/-!
# Artifacts do not depend on each other

Where failures do not end the run, and the answers of the downloader depend on nothing but what it
is asked for, an artifact has an outcome of its own. The report is then the list of these outcomes,
so whatever is done to the list of artifacts is done to the report: taking some of them, in any
order, and selecting them by name.

## Main definitions

* `Downloader.answering`: the downloader without a state that gives fixed answers.
* `Artifact.outcome`: what comes of an artifact, whatever else is fetched.
* `callsByArtifact`: the calls for artifacts, each with its artifact.

## Main statements

* `entries_eq_map_outcome`: the report is the list of the outcomes.
* `fetchAll_keepGoing_independent`: the report and the calls for some of the artifacts are the
  entries and the calls for them in the report for all.
-/

set_option autoImplicit false

namespace FirmwareBench

/-! ## The outcome of an artifact -/

/-- The downloader without a state that gives fixed answers. -/
def Downloader.answering (answer : String → Path → Except FetchError Unit) : Downloader Unit :=
  fun _ url dest => ((), answer url dest)

/-- What comes of an artifact, whatever else is fetched. -/
def Artifact.outcome (a : Artifact) (answer : String → Path → Except FetchError Unit)
    (readme : String) (outDir : Path) : Outcome :=
  (fetchOne (.answering answer) readme outDir a ()).2

section

variable {σ : Type} {downloader : Downloader σ} {answer : String → Path → Except FetchError Unit}

/-- A downloader with fixed answers gives them whatever its state is. -/
theorem lockstep_answering
    (hanswer : ∀ state url dest, (downloader state url dest).2 = answer url dest) :
    Lockstep (fun _ _ => True) downloader (.answering answer) where
  keeps := fun _ _ _ _ _ => trivial
  agrees := fun state _ url dest _ => hanswer state url dest

theorem fetchFrom_answering (answer : String → Path → Except FetchError Unit) (readme : String)
    (outDir : Path) (artifacts : List Artifact) :
    (fetchFrom (.answering answer) .keepGoing readme outDir false artifacts ()).2 =
      artifacts.map fun a => (a, a.outcome answer readme outDir) := by
  induction artifacts with
  | nil => rfl
  | cons a rest ih =>
      rw [fetchFrom_cons _ _ _ _ (by simp)]
      simp only [fetchFrom_keepGoing _ _ _ (false || _), ih, List.map_cons]
      rfl

/-- **Each artifact for itself.** The report holds the outcome that each artifact has of its own. -/
theorem entries_eq_map_outcome
    (hanswer : ∀ state url dest, (downloader state url dest).2 = answer url dest)
    (readme : String) (outDir : Path) (artifacts : List Artifact) (state : σ) :
    (fetchAll downloader .keepGoing readme outDir artifacts state).2.entries =
      artifacts.map fun a => (a, a.outcome answer readme outDir) := by
  obtain ⟨-, hreports⟩ := (lockstep_answering hanswer).fetchAll .keepGoing readme outDir artifacts
    (s := state) (t := ()) trivial
  rw [hreports]
  exact fetchFrom_answering answer readme outDir artifacts

end

/-! ## The calls for an artifact -/

/-- The calls for artifacts in order, each with its artifact. -/
def callsByArtifact (readme : String) (outDir : Path) (artifacts : List Artifact) :
    List (Artifact × Call) :=
  artifacts.filterMap fun a => (a.call? readme outDir).map fun call => (a, call)

section

variable (readme : String) (outDir : Path) (artifacts : List Artifact)

theorem map_snd_callsByArtifact :
    (callsByArtifact readme outDir artifacts).map Prod.snd =
      artifacts.filterMap fun a => a.call? readme outDir := by
  rw [callsByArtifact, List.map_filterMap]
  congr 1
  funext a
  cases a.call? readme outDir <;> rfl

theorem callsByArtifact_filter (p : Artifact → Bool) :
    callsByArtifact readme outDir (artifacts.filter p) =
      (callsByArtifact readme outDir artifacts).filter fun call => p call.1 := by
  rw [callsByArtifact, callsByArtifact, List.filterMap_filter, List.filter_filterMap]
  congr 1
  funext a
  cases hp : p a <;> cases a.call? readme outDir <;> simp [Option.filter, hp]

/-- Where failures do not end the run, there is a call for each artifact with an address. -/
theorem callsMade_keepGoing {σ : Type} (downloader : Downloader σ) (state : σ) :
    callsMade downloader .keepGoing readme outDir artifacts state =
      (callsByArtifact readme outDir artifacts).map Prod.snd := by
  rw [callsMade_eq, map_snd_callsByArtifact]
  refine (callsBehind_of_ne_skipped readme outDir
    (fetchFrom_keepGoing_ne_skipped downloader readme outDir artifacts state)).trans ?_
  rw [fetchFrom_artifacts]

end

/-! ## Selection -/

/-- An artifact is asked for by its name, or because no name is given. -/
def Artifact.IsAsked (a : Artifact) (only : List String) : Prop := only = [] ∨ a.name ∈ only

instance (a : Artifact) (only : List String) : Decidable (a.IsAsked only) :=
  inferInstanceAs (Decidable (_ ∨ _))

theorem Artifact.eq_filter_of_select {artifacts picked : List Artifact} {only : List String}
    (h : select artifacts only = .ok picked) :
    picked = artifacts.filter fun a => a.IsAsked only := by
  rw [select] at h
  cases hunknown : only.find? fun name => !artifacts.any (·.name == name) with
  | some name => simp [hunknown] at h
  | none =>
      cases only with
      | nil =>
          obtain rfl : artifacts = picked := by simpa using h
          exact (List.filter_eq_self.mpr (by simp [IsAsked])).symm
      | cons name names => simpa [hunknown, IsAsked, eq_comm] using h

/-! ## Some of the artifacts -/

section

variable {artifacts picked : List Artifact} {positions : List Nat}

/-- The entries for the artifacts at some positions are the entries at these positions. -/
theorem entries_at_positions {σ : Type} {downloader : Downloader σ}
    {answer : String → Path → Except FetchError Unit}
    (hanswer : ∀ state url dest, (downloader state url dest).2 = answer url dest)
    (hpositions : positions.map (artifacts[·]?) = picked.map some) (readme : String) (outDir : Path)
    (state start : σ) :
    positions.map ((fetchAll downloader .keepGoing readme outDir artifacts state).2.entries[·]?) =
      (fetchAll downloader .keepGoing readme outDir picked start).2.entries.map some := by
  have hentries := entries_eq_map_outcome hanswer readme outDir
  have hmapped := congrArg
    (List.map (Option.map fun a => (a, a.outcome answer readme outDir))) hpositions
  rw [hentries artifacts state, hentries picked start]
  simpa [List.map_map, Function.comp_def] using hmapped

/-- The calls for artifacts at some positions are made for one position after the other. -/
theorem callsMade_at_positions (hpositions : positions.map (artifacts[·]?) = picked.map some)
    {σ : Type} (downloader : Downloader σ) (readme : String) (outDir : Path) (start : σ) :
    callsMade downloader .keepGoing readme outDir picked start =
      positions.filterMap fun i => artifacts[i]?.bind fun a => a.call? readme outDir := by
  have hcalls := congrArg
    (List.filterMap (Option.bind · fun a => a.call? readme outDir)) hpositions
  rw [callsMade_keepGoing, map_snd_callsByArtifact]
  simpa [List.filterMap_map, Function.comp_def, eq_comm] using hcalls

end

/-- **Keep-going treats artifacts independently.** If the answers of the downloader depend on
nothing but what it is asked for, each artifact has the outcome that it has of its own. So the
report for the artifacts at some positions, in any order, holds the entries at these positions; that
for a sublist or a permutation is a sublist or a permutation; and the report and the calls for a
selection are the entries and the calls for the artifacts that are asked for. -/
theorem fetchAll_keepGoing_independent {σ : Type} (downloader : Downloader σ)
    (answer : String → Path → Except FetchError Unit)
    (hanswer : ∀ state url dest, (downloader state url dest).2 = answer url dest)
    (readme : String) (outDir : Path) (artifacts : List Artifact) (state : σ) :
    let report := (fetchAll downloader .keepGoing readme outDir artifacts state).2
    let calls := callsByArtifact readme outDir artifacts
    report.entries = artifacts.map (fun a => (a, a.outcome answer readme outDir)) ∧
      callsMade downloader .keepGoing readme outDir artifacts state = calls.map Prod.snd ∧
      ∀ (picked : List Artifact) (start : σ),
        let pickedReport := (fetchAll downloader .keepGoing readme outDir picked start).2
        let pickedCalls := callsMade downloader .keepGoing readme outDir picked start
        (∀ positions : List Nat, positions.map (artifacts[·]?) = picked.map some →
          positions.map (report.entries[·]?) = pickedReport.entries.map some ∧
            pickedCalls = positions.filterMap fun i =>
              artifacts[i]?.bind fun a => a.call? readme outDir) ∧
          (picked.Sublist artifacts → pickedReport.entries.Sublist report.entries) ∧
          (picked.Perm artifacts → pickedReport.entries.Perm report.entries) ∧
          ∀ only, Artifact.select artifacts only = .ok picked →
            pickedReport.entries = report.entries.filter (fun entry => entry.1.IsAsked only) ∧
              pickedCalls = (calls.filter fun call => call.1.IsAsked only).map Prod.snd := by
  intro report calls
  have hentries := entries_eq_map_outcome hanswer readme outDir
  have hreport : report.entries = artifacts.map fun a => (a, a.outcome answer readme outDir) :=
    hentries artifacts state
  refine ⟨hreport, callsMade_keepGoing readme outDir artifacts downloader state, ?_⟩
  intro picked start pickedReport pickedCalls
  have hpicked : pickedReport.entries = picked.map fun a => (a, a.outcome answer readme outDir) :=
    hentries picked start
  refine ⟨?_, ?_, ?_, ?_⟩
  · intro positions hpositions
    exact ⟨entries_at_positions hanswer hpositions readme outDir state start,
      callsMade_at_positions hpositions downloader readme outDir start⟩
  · intro hsublist
    rw [hpicked, hreport]
    exact hsublist.map _
  · intro hperm
    rw [hpicked, hreport]
    exact hperm.map _
  · intro only hselect
    obtain rfl := Artifact.eq_filter_of_select hselect
    have hcalls : pickedCalls = (callsByArtifact readme outDir _).map Prod.snd :=
      callsMade_keepGoing readme outDir _ downloader start
    constructor
    · rw [hpicked, hreport, List.filter_map]
      rfl
    · rw [hcalls, callsByArtifact_filter]

/-- A downloader that counts its calls and does not know one of the archives. -/
def countingDownloader : Downloader Nat :=
  fun count url _ =>
    (count + 1, if url = "https://box/gnu.gz" then .error .emptyCommand else .ok ())

/-- Two of the standard artifacts have the entries that they have among all three, though the count
starts elsewhere and they are asked for in another order; and turned around, the artifacts have
their entries in another order. -/
theorem fetchAll_keepGoing_independent_counting :
    let answer (url : String) (_ : Path) : Except FetchError Unit :=
      if url = "https://box/gnu.gz" then .error .emptyCommand else .ok ()
    let only := ["eclipse", "gnu"]
    let all := Artifact.standard
    let picked := all.filter (·.name ≠ "llvm")
    let positions := [0, 2]
    let readme := "[GNU-Debian download link](https://box/gnu.gz)"
    let entriesFor (artifacts : List Artifact) (start : Nat) :=
      (fetchAll countingDownloader .keepGoing readme (.ofString "out") artifacts start).2.entries
    (∀ state url dest, (countingDownloader state url dest).2 = answer url dest) ∧
      (positions.map (all[·]?) = picked.map some ∧
        positions.map ((entriesFor all 0)[·]?) = (entriesFor picked 7).map some) ∧
      (picked.Sublist all ∧ (entriesFor picked 7).Sublist (entriesFor all 0)) ∧
      (all.reverse.Perm all ∧ (entriesFor all.reverse 7).Perm (entriesFor all 0)) ∧
      Artifact.select all only = .ok picked ∧
      entriesFor picked 7 = (entriesFor all 0).filter fun entry => entry.1.IsAsked only := by
  intro answer only all picked positions readme entriesFor
  have hanswer : ∀ state url dest, (countingDownloader state url dest).2 = answer url dest :=
    fun _ _ _ => rfl
  have hpositions : positions.map (all[·]?) = picked.map some := rfl
  have hselect : Artifact.select all only = .ok picked := rfl
  have hreversed := all.reverse_perm
  obtain ⟨-, -, hsome⟩ := fetchAll_keepGoing_independent countingDownloader answer hanswer readme
    (.ofString "out") all 0
  obtain ⟨hplaces, hsublist, -, hselected⟩ := hsome picked 7
  obtain ⟨-, -, hperm, -⟩ := hsome all.reverse 7
  exact ⟨hanswer, ⟨hpositions, (hplaces positions hpositions).1⟩,
    ⟨List.filter_sublist, hsublist List.filter_sublist⟩, ⟨hreversed, hperm hreversed⟩,
    hselect, (hselected only hselect).1⟩

end FirmwareBench
