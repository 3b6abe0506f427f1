import FirmwareBench.Fetch.Run

/-!
# Dry runs

A dry run prints the commands that a real run starts. The two are the same loop around different
downloaders, and neither downloader has a say in what the loop does but through the results it
gives. So it is enough to compare single downloads: where both give the same result each time, the
reports are the same, and what relates the two states stays.

## Main definitions

* `Lockstep`: two downloaders that give the same results and keep a relation of their states.
* `Launcher.recording`: a launcher that notes the commands it starts.
* `commandsStarted`: the commands that a real run starts, in order.

## Main statements

* `Lockstep.fetchAll`: runs of such downloaders have equal reports and related states.
* `dryRun_prints_commandsStarted`: a dry run reports what the real run reports, and prints the
  commands that the real run starts.
-/

set_option autoImplicit false

namespace FirmwareBench

/-! ## Downloaders in lockstep -/

/-- Related states stay related, and give the same result, whatever both downloaders are asked
for. -/
structure Lockstep {σ τ : Type} (rel : σ → τ → Prop) (first : Downloader σ)
    (second : Downloader τ) : Prop where
  keeps : ∀ s t url dest, rel s t → rel (first s url dest).1 (second t url dest).1
  agrees : ∀ s t url dest, rel s t → (first s url dest).2 = (second t url dest).2

namespace Lockstep

variable {σ τ : Type} {rel : σ → τ → Prop} {first : Downloader σ} {second : Downloader τ}

/-- The same comes of one artifact. -/
theorem fetchOne (h : Lockstep rel first second) (readme : String) (outDir : Path) (a : Artifact)
    {s : σ} {t : τ} (hrel : rel s t) :
    rel (FirmwareBench.fetchOne first readme outDir a s).1
        (FirmwareBench.fetchOne second readme outDir a t).1 ∧
      (FirmwareBench.fetchOne first readme outDir a s).2 =
        (FirmwareBench.fetchOne second readme outDir a t).2 := by
  unfold FirmwareBench.fetchOne
  cases a.address readme with
  | error error => exact ⟨hrel, rfl⟩
  | ok url =>
      have hkeeps := h.keeps s t url (outDir.join (.ofString a.file)) hrel
      have hagrees := h.agrees s t url (outDir.join (.ofString a.file)) hrel
      rcases hfirst : first s url (outDir.join (.ofString a.file)) with ⟨s', result⟩
      rcases hsecond : second t url (outDir.join (.ofString a.file)) with ⟨t', result'⟩
      rw [hfirst, hsecond] at hkeeps hagrees
      obtain rfl : result = result' := hagrees
      simp only [hfirst, hsecond]
      cases result <;> exact ⟨hkeeps, rfl⟩

/-- The same comes of all artifacts in turn. -/
theorem fetchFrom (h : Lockstep rel first second) (policy : Policy) (readme : String)
    (outDir : Path) (failed : Bool) (artifacts : List Artifact) {s : σ} {t : τ} (hrel : rel s t) :
    rel (FirmwareBench.fetchFrom first policy readme outDir failed artifacts s).1
        (FirmwareBench.fetchFrom second policy readme outDir failed artifacts t).1 ∧
      (FirmwareBench.fetchFrom first policy readme outDir failed artifacts s).2 =
        (FirmwareBench.fetchFrom second policy readme outDir failed artifacts t).2 := by
  induction artifacts generalizing failed s t with
  | nil => exact ⟨hrel, rfl⟩
  | cons a rest ih =>
      simp only [FirmwareBench.fetchFrom]
      cases failed && policy == .failFast with
      | true =>
          -- the artifact is left out in both runs, and neither downloader is asked
          obtain ⟨hrest, hentries⟩ := ih (failed || Outcome.skipped.isFailure) hrel
          exact ⟨hrest, by simp only [if_pos, hentries]⟩
      | false =>
          obtain ⟨hone, houtcome⟩ := h.fetchOne readme outDir a hrel
          obtain ⟨hrest, hentries⟩ :=
            ih (failed || (FirmwareBench.fetchOne first readme outDir a s).2.isFailure) hone
          rw [houtcome] at hrest hentries
          simp only [Bool.false_eq_true, if_false, houtcome]
          exact ⟨hrest, by rw [hentries]⟩

/-- **Equal results make equal reports.** Runs of downloaders in lockstep, started in related
states, report the same and end in related states. -/
theorem fetchAll (h : Lockstep rel first second) (policy : Policy) (readme : String)
    (outDir : Path) (artifacts : List Artifact) {s : σ} {t : τ} (hrel : rel s t) :
    rel (FirmwareBench.fetchAll first policy readme outDir artifacts s).1
        (FirmwareBench.fetchAll second policy readme outDir artifacts t).1 ∧
      (FirmwareBench.fetchAll first policy readme outDir artifacts s).2 =
        (FirmwareBench.fetchAll second policy readme outDir artifacts t).2 := by
  obtain ⟨hstates, hentries⟩ := h.fetchFrom policy readme outDir false artifacts hrel
  exact ⟨hstates, congrArg Report.mk hentries⟩

end Lockstep

/-! ## The commands that are started -/

/-- The launcher that also notes the commands it starts, in order. -/
def Launcher.recording {τ : Type} (launch : Launcher τ) : Launcher (τ × List (List String)) :=
  fun recorded arguments =>
    let (state, result) := launch recorded.1 arguments
    ((state, recorded.2 ++ [arguments]), result)

/-- Every command starts and exits with code 0. -/
def Launcher.Reliable {τ : Type} (launch : Launcher τ) : Prop :=
  ∀ state arguments, (launch state arguments).2 = .ok (.code 0)

/-- The commands that are started when all artifacts are fetched, in order. -/
def commandsStarted {τ : Type} (launch : Launcher τ) (command : DownloadCommand) (policy : Policy)
    (readme : String) (outDir : Path) (artifacts : List Artifact) (state : τ) :
    List (List String) :=
  (fetchAll (.running launch.recording command) policy readme outDir artifacts (state, [])).1.2

namespace Launcher

variable {τ : Type} {launch : Launcher τ}

theorem running_of_render_error {command : DownloadCommand} {url : String} {dest : Path}
    {error : FetchError} (h : command.render url dest = .error error) (state : τ) :
    Downloader.running launch command state url dest = (state, .error error) := by
  simp only [Downloader.running, h]

/-- On a reliable host, a command that can be written down does its work. -/
theorem Reliable.running (hlaunch : launch.Reliable) {command : DownloadCommand} {url : String}
    {dest : Path} {arguments : List String} (h : command.render url dest = .ok arguments)
    (state : τ) :
    Downloader.running launch command state url dest = ((launch state arguments).1, .ok ()) := by
  have hexit := hlaunch state arguments
  simp only [Downloader.running, h]
  rcases hlaunched : launch state arguments with ⟨next, result⟩
  rw [hlaunched] at hexit
  obtain rfl : result = .ok (.code 0) := hexit
  rfl

theorem recording_fst (recorded : τ × List (List String)) (arguments : List String) :
    (launch.recording recorded arguments).1 =
      ((launch recorded.1 arguments).1, recorded.2 ++ [arguments]) := rfl

theorem Reliable.recording (hlaunch : launch.Reliable) : launch.recording.Reliable :=
  fun recorded arguments => hlaunch recorded.1 arguments

/-- Noting commands changes nothing else: the real run reaches the state that starting the noted
commands leads to, with the same results. -/
theorem Reliable.lockstep_recording (hlaunch : launch.Reliable) (command : DownloadCommand)
    (start : τ) :
    Lockstep
      (fun (state : τ) (recorded : τ × List (List String)) => state = recorded.1 ∧
        state = recorded.2.foldl (fun state arguments => (launch state arguments).1) start)
      (.running launch command) (.running launch.recording command) where
  keeps := by
    rintro state ⟨_, noted⟩ url dest ⟨rfl, hnoted⟩
    cases hrender : command.render url dest with
    | error error =>
        rw [running_of_render_error hrender, running_of_render_error hrender]
        exact ⟨rfl, hnoted⟩
    | ok arguments =>
        rw [hlaunch.running hrender, hlaunch.recording.running hrender, recording_fst]
        refine ⟨rfl, ?_⟩
        rw [List.foldl_append, ← hnoted]
        rfl
  agrees := by
    rintro state ⟨_, noted⟩ url dest ⟨rfl, -⟩
    cases hrender : command.render url dest with
    | error error =>
        rw [running_of_render_error hrender, running_of_render_error hrender]
    | ok arguments => rw [hlaunch.running hrender, hlaunch.recording.running hrender]

/-- What is printed in place of the commands is what they would be noted as. -/
theorem Reliable.lockstep_printing {σ : Type} (print : σ → String → σ) (hlaunch : launch.Reliable)
    (command : DownloadCommand) (start : σ) :
    Lockstep
      (fun (shown : σ) (recorded : τ × List (List String)) =>
        shown = (recorded.2.map (" ".intercalate ·)).foldl print start)
      (.printing print command) (.running launch.recording command) where
  keeps := by
    rintro shown recorded url dest hshown
    cases hrender : command.render url dest with
    | error error =>
        rw [running_of_render_error hrender]
        simpa only [Downloader.printing, hrender] using hshown
    | ok arguments =>
        rw [hlaunch.recording.running hrender, recording_fst]
        simp only [Downloader.printing, hrender, List.map_append, List.foldl_append, ← hshown]
        rfl
  agrees := by
    rintro shown recorded url dest -
    cases hrender : command.render url dest with
    | error error =>
        rw [running_of_render_error hrender]
        simp only [Downloader.printing, hrender]
    | ok arguments =>
        rw [hlaunch.recording.running hrender]
        simp only [Downloader.printing, hrender]

end Launcher

/-! ## The dry run -/

/-- **A dry run shows what a real run does.** On a host where every command starts and exits with
code 0, the dry run has the report of the real run, and it prints, in order, the commands that the
real run starts, a line for each command with its arguments joined by single spaces. That is all
the two do: each reaches the state that printing these lines, or starting these commands, leads
to. -/
theorem dryRun_prints_commandsStarted {σ τ : Type} (print : σ → String → σ) (launch : Launcher τ)
    (hlaunch : launch.Reliable) (command : DownloadCommand) (policy : Policy) (readme : String)
    (outDir : Path) (artifacts : List Artifact) (screen : σ) (host : τ) :
    let dry := fetchAll (.printing print command) policy readme outDir artifacts screen
    let real := fetchAll (.running launch command) policy readme outDir artifacts host
    let started := commandsStarted launch command policy readme outDir artifacts host
    dry.2 = real.2 ∧
      dry.1 = (started.map (" ".intercalate ·)).foldl print screen ∧
      real.1 = started.foldl (fun state arguments => (launch state arguments).1) host := by
  intro dry real started
  obtain ⟨hscreen, hdry⟩ := (hlaunch.lockstep_printing print command screen).fetchAll policy readme
    outDir artifacts (s := screen) (t := (host, [])) rfl
  obtain ⟨⟨-, hhost⟩, hreal⟩ := (hlaunch.lockstep_recording command host).fetchAll policy readme
    outDir artifacts (s := host) (t := (host, [])) ⟨rfl, rfl⟩
  exact ⟨hdry.trans hreal.symm, hscreen, hhost⟩

/-- A host that starts everything and does nothing but note it. -/
def notingHost : Launcher (List (List String)) :=
  fun noted arguments => (noted ++ [arguments], .ok (.code 0))

/-- The lines printed for the standard artifacts are what such a host notes. -/
theorem dryRun_prints_noted :
    notingHost.Reliable ∧
      let readme := "[GNU-Debian download link](https://box/gnu.gz) [LLVM-Debian](x)"
      let dry := fetchAll (.printing (fun lines line => lines ++ [line]) .standard) .keepGoing
        readme (.ofString "out") Artifact.standard []
      let real := fetchAll (.running notingHost .standard) .keepGoing readme (.ofString "out")
        Artifact.standard []
      dry.2 = real.2 ∧ dry.1 = real.1.map (" ".intercalate ·) := by
  have hreliable : notingHost.Reliable := fun _ _ => rfl
  obtain ⟨hreport, hscreen, hhost⟩ := dryRun_prints_commandsStarted
    (fun (lines : List String) line => lines ++ [line]) notingHost hreliable .standard .keepGoing
    "[GNU-Debian download link](https://box/gnu.gz) [LLVM-Debian](x)" (.ofString "out")
    Artifact.standard [] []
  -- noting one entry behind the other gives back the list
  have hnoting {α : Type} (list : List α) : list.foldl (fun noted x => noted ++ [x]) [] = list := by
    simpa [List.flatMap_def] using List.flatMap_singleton' list
  have hlines := hscreen.trans (hnoting _)
  have hnoted := hhost.trans (hnoting _)
  exact ⟨hreliable, hreport, hlines.trans (congrArg _ hnoted.symm)⟩

end FirmwareBench
