import FirmwareBench.Fetch.Run

/-!
# The calls a run makes

A downloader is an arbitrary state machine, so what a run asks of it can be noted in its state. The
recording downloader does what the one inside does and notes each call behind the earlier ones.

## Main definitions

* `Downloader.recording`: a downloader that notes its calls.
* `callsMade`: the calls that fetching all artifacts makes, in order.
* `Artifact.call?`: what the downloader is asked for to fetch an artifact.

## Main statements

* `fetchFrom_append`: artifacts in two groups are fetched one group after the other.
* `fetchFrom_recording`: recording changes neither the states nor the outcomes, and the calls are
  those for the artifacts that are not left out.
-/

set_option autoImplicit false

namespace FirmwareBench

/-- What a downloader is asked for: an address, and the path to store the archive under. -/
abbrev Call := String × Path

/-- The downloader that also notes its calls, in order. -/
def Downloader.recording {σ : Type} (downloader : Downloader σ) : Downloader (σ × List Call) :=
  fun recorded url dest =>
    let (state, result) := downloader recorded.1 url dest
    ((state, recorded.2 ++ [(url, dest)]), result)

/-- The calls made when all artifacts are fetched, in order. -/
def callsMade {σ : Type} (downloader : Downloader σ) (policy : Policy) (readme : String)
    (outDir : Path) (artifacts : List Artifact) (state : σ) : List Call :=
  (fetchAll downloader.recording policy readme outDir artifacts (state, [])).1.2

/-- What the downloader is asked for to fetch an artifact; nothing if the README does not tell the
address. -/
def Artifact.call? (a : Artifact) (readme : String) (outDir : Path) : Option Call :=
  (a.address readme).toOption.map fun url => (url, outDir.join (.ofString a.file))

/-- The calls behind some entries of a report: those for the artifacts that are not left out. -/
def callsBehind (readme : String) (outDir : Path) (entries : List (Artifact × Outcome)) :
    List Call :=
  (entries.filter fun entry => entry.2 ≠ .skipped).filterMap fun entry =>
    entry.1.call? readme outDir

section

variable {σ : Type} (downloader : Downloader σ) (policy : Policy) (readme : String) (outDir : Path)

/-! ## The calls behind a report -/

@[simp] theorem callsBehind_nil : callsBehind readme outDir [] = [] := rfl

theorem callsBehind_cons_skipped (a : Artifact) (entries : List (Artifact × Outcome)) :
    callsBehind readme outDir ((a, .skipped) :: entries) = callsBehind readme outDir entries := by
  simp [callsBehind]

theorem callsBehind_cons {a : Artifact} {outcome : Outcome} (h : outcome ≠ .skipped)
    (entries : List (Artifact × Outcome)) :
    callsBehind readme outDir ((a, outcome) :: entries) =
      (a.call? readme outDir).toList ++ callsBehind readme outDir entries := by
  cases hcall : a.call? readme outDir <;> simp [callsBehind, h, hcall]

/-- Where no artifact is left out, there is a call for each artifact with an address. -/
theorem callsBehind_of_ne_skipped {entries : List (Artifact × Outcome)}
    (h : ∀ entry ∈ entries, entry.2 ≠ .skipped) :
    callsBehind readme outDir entries =
      (entries.map Prod.fst).filterMap fun a => a.call? readme outDir := by
  rw [callsBehind, List.filter_eq_self.mpr (by simpa using h), List.filterMap_map]
  rfl

/-! ## One artifact after the other -/

@[simp] theorem fetchFrom_nil (failed : Bool) (state : σ) :
    fetchFrom downloader policy readme outDir failed [] state = (state, []) := rfl

/-- An artifact that is not left out is fetched, then the others. -/
theorem fetchFrom_cons {failed : Bool} (h : (failed && policy == .failFast) = false) (a : Artifact)
    (rest : List Artifact) (state : σ) :
    fetchFrom downloader policy readme outDir failed (a :: rest) state =
      let one := fetchOne downloader readme outDir a state
      let later :=
        fetchFrom downloader policy readme outDir (failed || one.2.isFailure) rest one.1
      (later.1, (a, one.2) :: later.2) := by
  simp [fetchFrom, h]

/-- After a failure that ends the run, all artifacts are left out. -/
theorem fetchFrom_failFast_true (artifacts : List Artifact) (state : σ) :
    fetchFrom downloader .failFast readme outDir true artifacts state =
      (state, artifacts.map fun a => (a, .skipped)) := by
  induction artifacts with
  | nil => rfl
  | cons a rest ih => simp [fetchFrom, ih]

/-- Where failures do not matter, it does not matter that there was one. -/
theorem fetchFrom_keepGoing (failed : Bool) (artifacts : List Artifact) (state : σ) :
    fetchFrom downloader .keepGoing readme outDir failed artifacts state =
      fetchFrom downloader .keepGoing readme outDir false artifacts state := by
  induction artifacts generalizing failed state with
  | nil => rfl
  | cons a rest ih =>
      rw [fetchFrom_cons _ _ _ _ (by simp), fetchFrom_cons _ _ _ _ (by simp)]
      -- both flags for the rest go back to `false`
      simp only [ih (failed || _), ih (false || _)]

/-- Artifacts in two groups are fetched one group after the other. -/
theorem fetchFrom_append (first second : List Artifact) (state : σ) :
    fetchFrom downloader .keepGoing readme outDir false (first ++ second) state =
      let front := fetchFrom downloader .keepGoing readme outDir false first state
      let back := fetchFrom downloader .keepGoing readme outDir false second front.1
      (back.1, front.2 ++ back.2) := by
  induction first generalizing state with
  | nil => rfl
  | cons a rest ih =>
      rw [List.cons_append, fetchFrom_cons _ _ _ _ (by simp), fetchFrom_cons _ _ _ _ (by simp)]
      simp only [fetchFrom_keepGoing _ _ _ (false || _), ih, List.cons_append]

theorem fetchFrom_artifacts (failed : Bool) (artifacts : List Artifact) (state : σ) :
    (fetchFrom downloader policy readme outDir failed artifacts state).2.map Prod.fst =
      artifacts := by
  induction artifacts generalizing failed state with
  | nil => rfl
  | cons a rest ih => simp [fetchFrom, ih]

theorem length_fetchFrom (failed : Bool) (artifacts : List Artifact) (state : σ) :
    (fetchFrom downloader policy readme outDir failed artifacts state).2.length =
      artifacts.length := by
  simpa using congrArg List.length
    (fetchFrom_artifacts downloader policy readme outDir failed artifacts state)

/-- What comes of the first artifacts does not depend on the others. -/
theorem fetchFrom_take (n : Nat) (artifacts : List Artifact) (state : σ) :
    (fetchFrom downloader .keepGoing readme outDir false (artifacts.take n) state).2 =
      (fetchFrom downloader .keepGoing readme outDir false artifacts state).2.take n := by
  induction artifacts generalizing n state with
  | nil => simp
  | cons a rest ih =>
      cases n with
      | zero => rfl
      | succ n =>
          rw [List.take_succ_cons, fetchFrom_cons _ _ _ _ (by simp),
            fetchFrom_cons _ _ _ _ (by simp)]
          simp only [fetchFrom_keepGoing _ _ _ (false || _), ih, List.take_succ_cons]

/-- An artifact that is fetched is not left out. -/
theorem fetchOne_ne_skipped (a : Artifact) (state : σ) :
    (fetchOne downloader readme outDir a state).2 ≠ .skipped := by
  unfold fetchOne
  cases a.address readme with
  | error error => simp
  | ok url =>
      rcases hstored : downloader state url (outDir.join (.ofString a.file)) with
        ⟨next, error | ⟨⟩⟩ <;> simp [hstored]

/-! ## Recording -/

/-- Noting calls changes neither the state nor the outcome of an artifact, and adds the call for
it. -/
theorem fetchOne_recording (a : Artifact) (state : σ) (calls : List Call) :
    fetchOne downloader.recording readme outDir a (state, calls) =
      let one := fetchOne downloader readme outDir a state
      ((one.1, calls ++ (a.call? readme outDir).toList), one.2) := by
  unfold fetchOne Artifact.call?
  cases a.address readme with
  | error error => simp [Except.toOption]
  | ok url =>
      simp only [Downloader.recording]
      rcases downloader state url (outDir.join (.ofString a.file)) with ⟨next, error | ⟨⟩⟩ <;> rfl

/-- **Recording is an observation.** Noting calls changes neither the states nor the outcomes of a
run, and what is noted, behind the old calls, are the calls for the artifacts that are not left
out. -/
theorem fetchFrom_recording (failed : Bool) (artifacts : List Artifact) (state : σ)
    (calls : List Call) :
    fetchFrom downloader.recording policy readme outDir failed artifacts (state, calls) =
      let run := fetchFrom downloader policy readme outDir failed artifacts state
      ((run.1, calls ++ callsBehind readme outDir run.2), run.2) := by
  induction artifacts generalizing failed state calls with
  | nil => simp
  | cons a rest ih =>
      cases hskip : failed && policy == .failFast with
      | true =>
          simp only [fetchFrom, hskip, if_true, ih, callsBehind_cons_skipped]
      | false =>
          -- the calls of the run are those for this artifact, then those of the rest
          rw [fetchFrom_cons _ _ _ _ hskip, fetchFrom_cons _ _ _ _ hskip]
          simp only [fetchOne_recording, ih, List.append_assoc,
            callsBehind_cons readme outDir (fetchOne_ne_skipped downloader readme outDir a state)]

theorem fetchFrom_recording_entries (failed : Bool) (artifacts : List Artifact) (state : σ)
    (calls : List Call) :
    (fetchFrom downloader.recording policy readme outDir failed artifacts (state, calls)).2 =
      (fetchFrom downloader policy readme outDir failed artifacts state).2 := by
  rw [fetchFrom_recording]

/-- The calls of a run are those behind its report. -/
theorem callsMade_eq (artifacts : List Artifact) (state : σ) :
    callsMade downloader policy readme outDir artifacts state =
      callsBehind readme outDir
        (fetchAll downloader policy readme outDir artifacts state).2.entries := by
  simp only [callsMade, fetchAll, fetchFrom_recording, List.nil_append]

/-- The calls for a group of artifacts come before the calls for the artifacts behind it. -/
theorem callsMade_prefix_append (first second : List Artifact) (state : σ) :
    callsMade downloader .keepGoing readme outDir first state <+:
      callsMade downloader .keepGoing readme outDir (first ++ second) state := by
  simp only [callsMade, fetchAll, fetchFrom_append]
  rcases fetchFrom downloader.recording .keepGoing readme outDir false first (state, []) with
    ⟨⟨next, calls⟩, entries⟩
  exact ⟨_, by rw [fetchFrom_recording]⟩

end

end FirmwareBench
