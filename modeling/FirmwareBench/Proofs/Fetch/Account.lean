import FirmwareBench.Program.Bootstrap
import FirmwareBench.Proofs.Fetch.Calls
import Mathlib.Data.List.Basic

/-!
# What a report accounts for

A report is a success if all its artifacts are completed, while the program looks at the number of
failures only. The two come to the same since an artifact is left out only behind a failure, which
is an invariant of the run.

## Main definitions

* `EndsAtFailure`: what the entries of a run that ends at its first failure look like.
* `Report.Accounts`: a report tells of each artifact, and of the calls made for them.

## Main statements

* `endsAtFailure_fetchFrom`: the run that ends at its first failure has such entries.
* `fetchAll_accounts`: every report accounts for its artifacts, and is a success exactly if it has
  no failures; so the program ends with code 0 exactly if every artifact is completed.
-/

set_option autoImplicit false

namespace FirmwareBench

/-! ## Failures and successes -/

namespace Report

theorem mem_failures {report : Report} {a : Artifact} {error : FetchError} :
    (a, error) ∈ report.failures ↔ (a, .failed error) ∈ report.entries := by
  simp only [failures, List.mem_filterMap, Prod.exists]
  constructor
  · rintro ⟨b, outcome, hmem, hsome⟩
    cases outcome <;> simp_all
  · intro hmem
    exact ⟨a, .failed error, hmem, rfl⟩

theorem failures_cons_completed (a : Artifact) (path : Path) (entries : List (Artifact × Outcome)) :
    (mk ((a, .completed path) :: entries)).failures = (mk entries).failures := rfl

theorem failures_cons_failed (a : Artifact) (error : FetchError)
    (entries : List (Artifact × Outcome)) :
    (mk ((a, .failed error) :: entries)).failures = (a, error) :: (mk entries).failures := rfl

theorem failures_map_skipped (artifacts : List Artifact) :
    (mk (artifacts.map fun a => (a, .skipped))).failures = [] := by
  induction artifacts with
  | nil => rfl
  | cons a rest ih => exact ih

theorem isSuccess_iff {report : Report} :
    report.isSuccess = true ↔ ∀ entry ∈ report.entries, ∃ path, entry.2 = .completed path := by
  rw [isSuccess, List.all_eq_true]
  refine forall₂_congr fun entry _ => ?_
  cases entry.2 <;> simp [Outcome.isCompleted]

end Report

/-! ## Runs that end at a failure -/

/-- What the entries of a run that ends at its first failure look like: completed artifacts, and if
there is a failure, nothing behind it but artifacts that are left out. -/
inductive EndsAtFailure : List (Artifact × Outcome) → Prop
  | nil : EndsAtFailure []
  | completed {a : Artifact} {path : Path} {entries : List (Artifact × Outcome)}
      (hrest : EndsAtFailure entries) : EndsAtFailure ((a, .completed path) :: entries)
  | failed {a : Artifact} {error : FetchError} (rest : List Artifact) :
      EndsAtFailure ((a, .failed error) :: rest.map fun b => (b, .skipped))

/-- An artifact that is left out stands behind the only failure. -/
theorem EndsAtFailure.of_skipped {entries : List (Artifact × Outcome)} (h : EndsAtFailure entries)
    {i : Nat} {a : Artifact} (hskipped : entries[i]? = some (a, .skipped)) :
    (Report.mk entries).failures.length = 1 ∧
      ∃ j < i, ∃ b error, entries[j]? = some (b, .failed error) := by
  induction h generalizing i with
  | nil => simp at hskipped
  | completed _ ih =>
      cases i with
      | zero => simp at hskipped
      | succ i =>
          obtain ⟨hone, j, hj, b, error, hfailed⟩ := ih (i := i) (by simpa using hskipped)
          rw [Report.failures_cons_completed]
          exact ⟨hone, j + 1, by omega, b, error, by simpa using hfailed⟩
  | @failed b error rest =>
      cases i with
      | zero => simp at hskipped
      | succ i =>
          rw [Report.failures_cons_failed, Report.failures_map_skipped]
          exact ⟨rfl, 0, by omega, b, error, rfl⟩

section

variable {σ : Type} (downloader : Downloader σ) (policy : Policy) (readme : String) (outDir : Path)

/-- **Nothing is done behind a failure.** The run that ends at its first failure goes on after a
completed artifact, and leaves out everything behind a failed one. -/
theorem endsAtFailure_fetchFrom (artifacts : List Artifact) (state : σ) :
    EndsAtFailure (fetchFrom downloader .failFast readme outDir false artifacts state).2 := by
  induction artifacts generalizing state with
  | nil => exact .nil
  | cons a rest ih =>
      rw [fetchFrom_cons _ _ _ _ (by simp)]
      have hfetched := fetchOne_ne_skipped downloader readme outDir a state
      rcases hone : fetchOne downloader readme outDir a state with ⟨next, path | error | _⟩
      · exact .completed (ih next)
      · simp only [Outcome.isFailure, Bool.or_true, fetchFrom_failFast_true]
        exact .failed rest
      · simp [hone] at hfetched

/-- Where failures do not matter, no artifact is left out. -/
theorem fetchFrom_keepGoing_ne_skipped (artifacts : List Artifact) (state : σ) :
    ∀ entry ∈ (fetchFrom downloader .keepGoing readme outDir false artifacts state).2,
      entry.2 ≠ .skipped := by
  induction artifacts generalizing state with
  | nil => simp
  | cons a rest ih =>
      rw [fetchFrom_cons _ _ _ _ (by simp)]
      simp only [fetchFrom_keepGoing _ _ _ (false || _), List.forall_mem_cons]
      exact ⟨fetchOne_ne_skipped downloader readme outDir a state, ih _⟩

/-- An artifact is stored under its file name in the directory. -/
theorem fetchOne_completed {a : Artifact} {state : σ} {path : Path}
    (h : (fetchOne downloader readme outDir a state).2 = .completed path) :
    path = outDir.join (.ofString a.file) := by
  unfold fetchOne at h
  cases haddress : a.address readme with
  | error error => simp [haddress] at h
  | ok url =>
      rcases hstored : downloader state url (outDir.join (.ofString a.file)) with ⟨next, error | ⟨⟩⟩
      · simp [haddress, hstored] at h
      · simpa [haddress, hstored, eq_comm] using h

theorem fetchFrom_completed (failed : Bool) (artifacts : List Artifact) (state : σ) :
    ∀ a path, (a, .completed path) ∈
        (fetchFrom downloader policy readme outDir failed artifacts state).2 →
      path = outDir.join (.ofString a.file) := by
  induction artifacts generalizing failed state with
  | nil => simp
  | cons b rest ih =>
      intro a path hmem
      cases hskip : failed && policy == .failFast with
      | true =>
          simp only [fetchFrom, hskip, if_true, List.mem_cons] at hmem
          exact hmem.elim (by simp) (ih _ _ a path)
      | false =>
          rw [fetchFrom_cons _ _ _ _ hskip, List.mem_cons] at hmem
          rcases hmem with hone | hrest
          · obtain ⟨rfl, houtcome⟩ := Prod.mk.inj hone
            exact fetchOne_completed downloader readme outDir houtcome.symm
          · exact ih _ _ a path hrest

end

/-! ## The account -/

/-- A report tells of each of the artifacts, and of the calls made for them. -/
structure Report.Accounts (report : Report) (policy : Policy) (readme : String) (outDir : Path)
    (artifacts : List Artifact) (calls : List Call) : Prop where
  /-- There is one entry for each artifact, in order. -/
  inOrder : report.entries.map Prod.fst = artifacts
  /-- An artifact is left out only where failures end the run, and behind the only failure. -/
  leftOut : ∀ (i : Nat) (a : Artifact), report.entries[i]? = some (a, .skipped) →
    policy = .failFast ∧ report.failures.length = 1 ∧
      ∃ j < i, ∃ b error, report.entries[j]? = some (b, .failed error)
  /-- A completed artifact is stored under its file name in the directory. -/
  stored : ∀ a path, (a, .completed path) ∈ report.entries → path = outDir.join (.ofString a.file)
  /-- The calls are those for the artifacts with an address that are not left out, one for each. -/
  called : calls = callsBehind readme outDir report.entries

/-- Every report accounts for its artifacts. -/
theorem accounts_fetchAll {σ : Type} (downloader : Downloader σ) (policy : Policy)
    (readme : String) (outDir : Path) (artifacts : List Artifact) (state : σ) :
    (fetchAll downloader policy readme outDir artifacts state).2.Accounts policy readme outDir
      artifacts (callsMade downloader policy readme outDir artifacts state) where
  inOrder := fetchFrom_artifacts downloader policy readme outDir false artifacts state
  leftOut := by
    intro i a hskipped
    cases policy with
    | failFast =>
        exact ⟨rfl, (endsAtFailure_fetchFrom downloader readme outDir artifacts state).of_skipped
          hskipped⟩
    | keepGoing =>
        exact absurd rfl (fetchFrom_keepGoing_ne_skipped downloader readme outDir artifacts state _
          (List.mem_of_getElem? hskipped))
  stored := fetchFrom_completed downloader policy readme outDir false artifacts state
  called := callsMade_eq downloader policy readme outDir artifacts state

/-- **No failures mean success**, since what is left out stands behind a failure. -/
theorem Report.Accounts.isSuccess_iff_failures {report : Report} {policy : Policy}
    {readme : String} {outDir : Path} {artifacts : List Artifact} {calls : List Call}
    (h : report.Accounts policy readme outDir artifacts calls) :
    report.isSuccess = true ↔ report.failures = [] := by
  rw [isSuccess_iff]
  constructor
  · intro hall
    refine List.eq_nil_iff_forall_not_mem.mpr fun ⟨a, error⟩ hfailed => ?_
    obtain ⟨path, hpath⟩ := hall _ (mem_failures.mp hfailed)
    cases hpath
  · rintro hnone ⟨a, path | error | _⟩ hentry
    · exact ⟨path, rfl⟩
    · have hfailed := mem_failures.mpr hentry
      simp [hnone] at hfailed
    · obtain ⟨i, hi⟩ := List.mem_iff_getElem?.mp hentry
      obtain ⟨-, hone, -⟩ := h.leftOut i a hi
      simp [hnone] at hone

/-! ## The exit code -/

namespace Bootstrap.Order

theorem verdict_eq_ok_iff {report : Report} : verdict report = .ok () ↔ report.failures = [] := by
  rw [verdict, ← List.length_eq_zero_iff]
  cases report.failures.length <;> simp

/-- The program does its work exactly if all that is needed is there and no artifact fails. -/
theorem perform_eq_ok_iff {order : Order} {launch : Launcher Host} {cwd : Place} {host : Host} :
    (order.perform launch cwd host).2 = .ok () ↔
      ∃ prepared artifacts text, order.prepare cwd host = (prepared, .ok (artifacts, text)) ∧
        (fetchAll (order.downloader launch) order.policy text order.outDir artifacts
          prepared).2.failures = [] := by
  rw [perform]
  rcases hprepare : order.prepare cwd host with ⟨prepared, failure | ⟨artifacts, text⟩⟩
  · simp
  · simp only [verdict_eq_ok_iff, Prod.mk.injEq, Except.ok.injEq]
    constructor
    · exact fun h => ⟨prepared, artifacts, text, ⟨rfl, rfl, rfl⟩, h⟩
    · rintro ⟨_, _, _, ⟨rfl, rfl, rfl⟩, h⟩
      exact h

end Bootstrap.Order

/-- **A report succeeds exactly when nothing failed, and so does the program.** Every report tells
of its artifacts in order; one is left out only where failures end the run, behind the only failure;
what is completed is stored under the file name in the directory; and the downloader is called once,
in order, for each artifact with an address that is not left out. So the report is a success exactly
if it has no failures, and a program that is asked for archives ends with code 0 exactly if all that
it needs is there and each artifact is completed. -/
theorem fetchAll_accounts :
    (∀ {σ : Type} (downloader : Downloader σ) (policy : Policy) (readme : String) (outDir : Path)
        (artifacts : List Artifact) (state : σ),
      let report := (fetchAll downloader policy readme outDir artifacts state).2
      report.Accounts policy readme outDir artifacts
          (callsMade downloader policy readme outDir artifacts state) ∧
        (report.isSuccess = true ↔ report.failures = [])) ∧
    ∀ (launch : Launcher Host) (cwd : Place) (environment : Dict String) (words : List String)
        (host : Host) (order : Bootstrap.Order),
      Bootstrap.Order.read environment words = .ok order →
        ((Bootstrap.run launch cwd environment words host).2 = 0 ↔
          ∃ prepared artifacts text, order.prepare cwd host = (prepared, .ok (artifacts, text)) ∧
            ∀ entry ∈ (fetchAll (order.downloader launch) order.policy text order.outDir artifacts
                prepared).2.entries,
              entry.2 = .completed (order.outDir.join (.ofString entry.1.file))) := by
  constructor
  · intro σ downloader policy readme outDir artifacts state report
    have haccounts := accounts_fetchAll downloader policy readme outDir artifacts state
    exact ⟨haccounts, haccounts.isSuccess_iff_failures⟩
  · intro launch cwd environment words host order horder
    simp only [Bootstrap.run, horder, conclude_eq_zero_iff, Bootstrap.Order.perform_eq_ok_iff]
    refine exists_congr fun prepared => exists_congr fun artifacts => exists_congr fun text =>
      and_congr_right fun _ => ?_
    have haccounts := accounts_fetchAll (order.downloader launch) order.policy text order.outDir
      artifacts prepared
    rw [← haccounts.isSuccess_iff_failures, Report.isSuccess_iff]
    -- a completed artifact can only be stored in one place
    refine forall₂_congr fun ⟨a, outcome⟩ hentry => ⟨?_, fun hcompleted => ⟨_, hcompleted⟩⟩
    rintro ⟨path, rfl⟩
    rw [haccounts.stored a path hentry]

/-- Where no command succeeds, no artifact is completed. -/
theorem fetchOne_running_ne_completed {σ : Type} {launch : Launcher σ}
    (hfails : ∀ state words exit, (launch state words).2 = .ok exit → exit.isSuccess = false)
    (command : DownloadCommand) (readme : String) (outDir : Path) (a : Artifact) (state : σ)
    (path : Path) :
    (fetchOne (.running launch command) readme outDir a state).2 ≠ .completed path := by
  rw [fetchOne]
  cases a.address readme with
  | error error => simp
  | ok url =>
      simp only [Downloader.running]
      cases command.render url (outDir.join (.ofString a.file)) with
      | error error => simp
      | ok words =>
          rcases hlaunch : launch state words with ⟨after, fault | exit⟩
          · simp [hlaunch]
          · simp [hlaunch, hfails state words exit (by rw [hlaunch])]

/-- An order to fetch one archive, and to go on after a failure. -/
def keepGoingOrder : Bootstrap.Order where
  readme := .ofString "README.md"
  outDir := .ofString "out"
  command := .standard
  only := ["llvm"]
  policy := .keepGoing

/-- On a host where every command fails, such an order has all that it needs, and its exit code is
not 0 all the same. -/
theorem fetchAll_accounts_keepGoingOrder :
    let words := ["--keep-going", "--out-dir", "out", "--only", "llvm"]
    let launch : Launcher Host := fun host _ => (host, .ok (.code 8))
    let readme := "[LLVM-Debian download link](https://box/llvm.gz)"
    let host : Host :=
      { tree := FileTree.empty.put ["README.md"] (.file (Utf8.ofString readme) 0o644) }
    Bootstrap.Order.read .empty words = .ok keepGoingOrder ∧
      (keepGoingOrder.prepare [] host).2 =
        .ok (Artifact.standard.filter (·.name = "llvm"), readme) ∧
      (Bootstrap.run launch [] .empty words host).2 ≠ 0 := by
  intro words launch readme host
  have horder : Bootstrap.Order.read .empty words = .ok keepGoingOrder := by decide +kernel
  have hgathered : (keepGoingOrder.prepare [] host).2 =
      .ok (Artifact.standard.filter (·.name = "llvm"), readme) := by decide +kernel
  have hfails : ∀ host words exit, (launch host words).2 = .ok exit → exit.isSuccess = false := by
    rintro _ _ _ ⟨⟩
    rfl
  refine ⟨horder, hgathered, fun hzero => ?_⟩
  obtain ⟨prepared, artifacts, text, hprepare, hcompleted⟩ :=
    (fetchAll_accounts.2 launch [] .empty words host keepGoingOrder horder).mp hzero
  obtain ⟨a, ha⟩ : ∃ a, Artifact.standard.filter (·.name = "llvm") = [a] := ⟨_, rfl⟩
  obtain ⟨rfl, rfl⟩ : [a] = artifacts ∧ readme = text := by
    simpa [hprepare, ha] using hgathered.symm
  have hentry := hcompleted (a, _) (List.mem_singleton.mpr rfl)
  exact fetchOne_running_ne_completed hfails .standard readme (.ofString "out") a prepared _ hentry

end FirmwareBench
