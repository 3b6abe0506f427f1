import FirmwareBench.Proofs.Fetch.Calls

/-!
# Stopping at the first failure

Under one policy a failure ends the run, under the other the run goes on. Up to the first failure the
two runs do the same, downloader state included; behind it the first one does nothing at all.

## Main statements

* `fetchFrom_failFast_of_no_failure`, `fetchFrom_failFast_of_failure`: the run that stops, in terms
  of the one that goes on.
* `fetchAll_failFast_cuts_keepGoing`: the same for reports and calls.
-/

set_option autoImplicit false

namespace FirmwareBench

variable {σ : Type} (downloader : Downloader σ) (readme : String) (outDir : Path)

/-- Without a failure the policies do not differ. -/
theorem fetchFrom_failFast_of_no_failure {artifacts : List Artifact} {state : σ}
    (h : ∀ entry ∈ (fetchFrom downloader .keepGoing readme outDir false artifacts state).2,
      entry.2.isFailure = false) :
    fetchFrom downloader .failFast readme outDir false artifacts state =
      fetchFrom downloader .keepGoing readme outDir false artifacts state := by
  induction artifacts generalizing state with
  | nil => rfl
  | cons a rest ih =>
      rw [fetchFrom_cons _ _ _ _ (by simp)] at h
      simp only [fetchFrom_keepGoing _ _ _ (false || _), List.mem_cons, forall_eq_or_imp] at h
      obtain ⟨hfirst, hrest⟩ := h
      rw [fetchFrom_cons _ _ _ _ (by simp), fetchFrom_cons _ _ _ _ (by simp)]
      simp only [hfirst, Bool.or_false, ih hrest]

/-- The run that stops does what the other one does for the artifacts up to the first failure, and
leaves out the artifacts behind it. -/
theorem fetchFrom_failFast_of_failure {artifacts : List Artifact} {state : σ} {i : Nat}
    (h : (fetchFrom downloader .keepGoing readme outDir false artifacts state).2.findIdx?
      (fun entry => entry.2.isFailure) = some i) :
    fetchFrom downloader .failFast readme outDir false artifacts state =
      let front :=
        fetchFrom downloader .keepGoing readme outDir false (artifacts.take (i + 1)) state
      (front.1, front.2 ++ (artifacts.drop (i + 1)).map fun a => (a, .skipped)) := by
  induction artifacts generalizing state i with
  | nil => simp at h
  | cons a rest ih =>
      rw [fetchFrom_cons _ _ _ _ (by simp)] at h ⊢
      simp only [fetchFrom_keepGoing _ _ _ (false || _), List.findIdx?_cons] at h
      cases hfirst : (fetchOne downloader readme outDir a state).2.isFailure with
      | true =>
          -- the first artifact fails: nothing behind it is fetched
          obtain rfl : 0 = i := by simpa [hfirst] using h
          simp only [hfirst, Bool.or_true, fetchFrom_failFast_true, Nat.zero_add, List.take_succ_cons,
            List.take_zero, List.drop_succ_cons, List.drop_zero]
          rw [fetchFrom_cons _ _ _ _ (by simp)]
          rfl
      | false =>
          obtain ⟨j, hj, rfl⟩ : ∃ j, _ = some j ∧ j + 1 = i := by
            simpa [hfirst, Option.map_eq_some_iff] using h
          simp only [hfirst, Bool.or_false, ih hj, List.take_succ_cons, List.drop_succ_cons]
          rw [fetchFrom_cons _ _ _ _ (by simp)]
          simp only [fetchFrom_keepGoing _ _ _ (false || _), List.cons_append]

/-- **Fail-fast is keep-going cut at the first failure.** Without a failure the two reports are the
same and so are the calls. Otherwise the reports agree up to the first failure and the one of the
run that stops has nothing but skipped artifacts behind it; its calls are those that the other run
makes for the artifacts up to the failure, and what the other run calls for comes after them. -/
theorem fetchAll_failFast_cuts_keepGoing (artifacts : List Artifact) (state : σ) :
    let kept := (fetchAll downloader .keepGoing readme outDir artifacts state).2
    let cut := (fetchAll downloader .failFast readme outDir artifacts state).2
    let keptCalls := callsMade downloader .keepGoing readme outDir artifacts state
    let cutCalls := callsMade downloader .failFast readme outDir artifacts state
    match kept.entries.findIdx? (fun entry => entry.2.isFailure) with
    | none => cut = kept ∧ cutCalls = keptCalls
    | some i =>
      cut.entries.length = kept.entries.length ∧
        cut.entries.take (i + 1) = kept.entries.take (i + 1) ∧
        (∀ entry ∈ cut.entries.drop (i + 1), entry.2 = .skipped) ∧
        cutCalls = callsMade downloader .keepGoing readme outDir (artifacts.take (i + 1)) state ∧
        cutCalls <+: keptCalls := by
  intro kept cut keptCalls cutCalls
  -- both runs with recording give the entries that they give without
  have hrecorded : (fetchFrom downloader.recording .keepGoing readme outDir false artifacts
      (state, [])).2 = kept.entries :=
    fetchFrom_recording_entries downloader .keepGoing readme outDir false artifacts state []
  cases hindex : kept.entries.findIdx? (fun entry => entry.2.isFailure) with
  | none =>
      have hnone : ∀ entry ∈ kept.entries, entry.2.isFailure = false :=
        List.findIdx?_eq_none_iff.mp hindex
      have hrun := fetchFrom_failFast_of_no_failure downloader readme outDir hnone
      have hnoneRecorded : ∀ entry ∈ (fetchFrom downloader.recording .keepGoing readme outDir false
          artifacts (state, [])).2, entry.2.isFailure = false := by
        rwa [hrecorded]
      have hcalls := fetchFrom_failFast_of_no_failure downloader.recording readme outDir
        hnoneRecorded
      exact ⟨congrArg (fun run => Report.mk run.2) hrun, congrArg (fun run => run.1.2) hcalls⟩
  | some i =>
      have hrun := fetchFrom_failFast_of_failure downloader readme outDir hindex
      have hindexRecorded : (fetchFrom downloader.recording .keepGoing readme outDir false
          artifacts (state, [])).2.findIdx? (fun entry => entry.2.isFailure) = some i := by
        rwa [hrecorded]
      have hcalls := fetchFrom_failFast_of_failure downloader.recording readme outDir
        hindexRecorded
      have hcut : cut.entries =
          kept.entries.take (i + 1) ++ (artifacts.drop (i + 1)).map fun a => (a, .skipped) := by
        have hentries := congrArg Prod.snd hrun
        simp only [fetchFrom_take] at hentries
        exact hentries
      have hfront : (kept.entries.take (i + 1)).length = i + 1 := by
        have hlt : i < kept.entries.length := (List.findIdx?_eq_some_iff_findIdx_eq.mp hindex).1
        rw [List.length_take]
        omega
      have hcutCalls : cutCalls =
          callsMade downloader .keepGoing readme outDir (artifacts.take (i + 1)) state :=
        congrArg (fun run => run.1.2) hcalls
      refine ⟨?_, ?_, ?_, hcutCalls, ?_⟩
      · exact (length_fetchFrom downloader .failFast readme outDir false artifacts state).trans
          (length_fetchFrom downloader .keepGoing readme outDir false artifacts state).symm
      · rw [hcut, List.take_left' hfront]
      · rw [hcut, List.drop_left' hfront]
        intro entry hentry
        obtain ⟨a, -, rfl⟩ := List.mem_map.mp hentry
        rfl
      · rw [hcutCalls]
        have hprefix := callsMade_prefix_append downloader readme outDir (artifacts.take (i + 1))
          (artifacts.drop (i + 1)) state
        rwa [List.take_append_drop] at hprefix

end FirmwareBench
