import FirmwareBench.Program.Matrix
import Mathlib.Data.List.Basic

/-!
# Running a plan up to the first failure

A run of the matrix is seen from outside by what it prints and by the commands that it has the shell
carry out. The shell is an arbitrary state machine, so what is done can be noted in its state. A run
reads all that it needs before it does anything that can be seen; then it goes through the steps up
to the first command that does not end well.

## Main definitions

* `Event`: what is seen of a run.
* `Matrix.Order.events`: what is seen of the run of an order.
* `EndedWell`: a command started and its exit code is 0.
* `stepEvents`: what is seen of steps whose commands had given results.
* `RunsUpToFailure`: what is seen of steps that are run up to the first failure.

## Main statements

* `runSteps_noting`: noting what is done changes nothing else.
* `runSteps_dryRun`, `runSteps_real`: what is seen of steps that are shown, and of those that are
  run.
* `Matrix.Order.events_up_to_failure`: what is seen of orders, and how the program ends.
-/

set_option autoImplicit false

namespace FirmwareBench

/-! ## What is seen of a run -/

/-- What a run does that can be seen from outside. -/
inductive Event where
  | printed (text : String)
  /-- A command is carried out with this result. -/
  | ran (command : String) (result : Except Fault Exit)

/-- The command that is carried out, if it is one. -/
def Event.command? : Event → Option String
  | printed _ => none
  | ran command _ => some command

/-- The shell that also notes the commands it carries out. -/
def Shell.noting {σ : Type} (shell : Shell σ) : Shell (σ × List Event) :=
  fun noted command =>
    let (state, result) := shell noted.1 command
    ((state, noted.2 ++ [.ran command result]), result)

/-- Prints, and notes what is printed. -/
def notingPrint {σ : Type} (print : σ → String → σ) (noted : σ × List Event) (text : String) :
    σ × List Event :=
  (print noted.1 text, noted.2 ++ [.printed text])

/-- What is seen of the run of an order. -/
def Matrix.Order.events {σ : Type} (order : Order) (shellIn : Path → Shell σ)
    (print : σ → String → σ) (tree : FileTree) (cwd : Place) (other? : Option Path) (state : σ) :
    List Event :=
  (order.perform (fun dir => (shellIn dir).noting) (notingPrint print) tree cwd other?
    (state, [])).1.2

/-! ## What there is to see -/

/-- A command ended well: it started, and its exit code is 0. -/
def EndedWell (result : Except Fault Exit) : Prop := result = .ok (.code 0)

instance : DecidablePred EndedWell
  | .error _ => isFalse nofun
  | .ok exit => decidable_of_iff (exit = .code 0) (by simp [EndedWell])

/-- What is printed for a step: its header, and its command if commands are shown. -/
def stepText (showsCommand : Bool) (number total : Nat) (step : Step) : String :=
  "[" ++ toString number ++ "/" ++ toString total ++ "] " ++ step.name ++ "\n" ++
    if showsCommand then step.command ++ "\n" else ""

/-- What is seen of steps from a number on that are only shown. -/
def shownEvents (total number : Nat) (steps : List Step) : List Event :=
  (steps.zipIdx number).map fun (step, number) => .printed (stepText true number total step)

/-- What is seen of the first of some steps, from a number on, whose commands had these results. -/
def stepEvents (verbose : Bool) (total number : Nat) (steps : List Step)
    (results : List (Except Fault Exit)) : List Event :=
  ((steps.zip results).zipIdx number).flatMap fun ((step, result), number) =>
    [.printed (stepText verbose number total step), .ran step.command result]

/-- The last thing that is printed. -/
def lastText : String := "[matrix] done\n"

theorem announcement_eq (options : RunOptions) (number total : Nat) (step : Step) :
    announcement options number total step =
      stepText (options.verbose || options.dryRun) number total step := by
  simp only [announcement, stepText]
  split <;> simp [String.append_assoc]

theorem shownEvents_cons (total number : Nat) (step : Step) (steps : List Step) :
    shownEvents total number (step :: steps) =
      .printed (stepText true number total step) :: shownEvents total (number + 1) steps := rfl

theorem stepEvents_cons (verbose : Bool) (total number : Nat) (step : Step) (steps : List Step)
    (result : Except Fault Exit) (results : List (Except Fault Exit)) :
    stepEvents verbose total number (step :: steps) (result :: results) =
      .printed (stepText verbose number total step) :: .ran step.command result ::
        stepEvents verbose total (number + 1) steps results := rfl

theorem stepEvents_nil (verbose : Bool) (total number : Nat) (steps : List Step) :
    stepEvents verbose total number steps [] = [] := by
  simp [stepEvents]

/-- Nothing is carried out where steps are only shown. -/
theorem commands_shownEvents (total number : Nat) (steps : List Step) :
    (shownEvents total number steps).filterMap Event.command? = [] := by
  simp [shownEvents, Event.command?]

/-- The commands that are carried out are those of the first steps, in order. -/
theorem commands_stepEvents (verbose : Bool) (total number : Nat) (steps : List Step)
    (results : List (Except Fault Exit)) :
    (stepEvents verbose total number steps results).filterMap Event.command? =
      (steps.map Step.command).take results.length := by
  induction steps generalizing number results with
  | nil => simp [stepEvents]
  | cons step rest ih =>
      cases results with
      | nil => simp [stepEvents]
      | cons result results =>
          simp [stepEvents_cons, List.filterMap_cons, Event.command?, ih]

/-- What is seen of steps that are run up to the first failure: they are announced and their
commands carried out, in order, up to the first command that does not end well; if all end well, a
last text is printed, and only then the run succeeds. -/
def RunsUpToFailure (verbose : Bool) (total number : Nat) (steps : List Step) (events : List Event)
    (succeeds : Prop) : Prop :=
  ∃ results : List (Except Fault Exit),
    match results.findIdx? fun result => ¬ EndedWell result with
    | none =>
      results.length = steps.length ∧ succeeds ∧
        events = stepEvents verbose total number steps results ++ [.printed lastText]
    | some i =>
      i < steps.length ∧ results.length = i + 1 ∧ ¬ succeeds ∧
        events = stepEvents verbose total number steps results

namespace RunsUpToFailure

variable {verbose : Bool} {total number : Nat} {steps : List Step} {events : List Event}
  {succeeds : Prop}

/-- A step whose command ends well comes first. -/
theorem cons {step : Step} {result : Except Fault Exit} (hwell : EndedWell result)
    (h : RunsUpToFailure verbose total (number + 1) steps events succeeds) :
    RunsUpToFailure verbose total number (step :: steps)
      (.printed (stepText verbose number total step) :: .ran step.command result :: events)
      succeeds := by
  obtain ⟨results, hresults⟩ := h
  refine ⟨result :: results, ?_⟩
  simp only [List.findIdx?_cons, hwell, not_true_eq_false, decide_false, stepEvents_cons]
  cases hindex : results.findIdx? fun result => ¬ EndedWell result with
  | none =>
      simp only [hindex] at hresults
      simpa using hresults
  | some i =>
      simp only [hindex] at hresults
      simpa using hresults

/-- The commands that are carried out are those of the first steps, and all of them if the run
succeeds. -/
theorem commands (h : RunsUpToFailure verbose total number steps events succeeds) :
    events.filterMap Event.command? <+: steps.map Step.command ∧
      (succeeds → events.filterMap Event.command? = steps.map Step.command) := by
  obtain ⟨results, hresults⟩ := h
  cases hindex : results.findIdx? fun result => ¬ EndedWell result with
  | none =>
      simp only [hindex] at hresults
      obtain ⟨hlength, -, rfl⟩ := hresults
      have hall : (stepEvents verbose total number steps results ++
          [Event.printed lastText]).filterMap Event.command? = steps.map Step.command := by
        rw [List.filterMap_append, commands_stepEvents, List.take_of_length_le (by simp [hlength])]
        simp [Event.command?, List.filterMap_cons]
      exact ⟨hall ▸ List.prefix_refl _, fun _ => hall⟩
  | some i =>
      simp only [hindex] at hresults
      obtain ⟨-, -, hfails, rfl⟩ := hresults
      rw [commands_stepEvents]
      exact ⟨List.take_prefix _ _, fun hsucceeds => absurd hsucceeds hfails⟩

end RunsUpToFailure

/-! ## Noting what is done -/

theorem check_eq_ok_iff {command : String} {result : Except Fault Exit} :
    ShellError.check command result = .ok () ↔ EndedWell result := by
  rcases result with fault | exit
  · simp [ShellError.check, EndedWell]
  · simp [ShellError.check, EndedWell, Exit.isSuccess]

section

variable {σ : Type} (shell : Shell σ) (print : σ → String → σ) {options : RunOptions} (total : Nat)

/-- **Noting is an observation.** It changes neither the states nor the result of a run. -/
theorem runSteps_noting (options : RunOptions) (number : Nat) (steps : List Step) (state : σ)
    (noted : List Event) :
    let run := runSteps shell print options total number steps state
    let observed :=
      runSteps shell.noting (notingPrint print) options total number steps (state, noted)
    observed.1.1 = run.1 ∧ observed.2 = run.2 := by
  induction steps generalizing number state noted with
  | nil => exact ⟨rfl, rfl⟩
  | cons step rest ih =>
      simp only [runSteps, notingPrint, Shell.noting]
      cases options.dryRun with
      | true => exact ih _ _ _
      | false =>
          simp only [Bool.false_eq_true, if_false]
          rcases shell (print state (announcement options number total step)) step.command with
            ⟨next, result⟩
          cases ShellError.check step.command result with
          | ok _ => exact ih _ _ _
          | error error => exact ⟨rfl, rfl⟩

/-- Where steps are only shown, all of them are, and nothing can fail. -/
theorem runSteps_dryRun (hdry : options.dryRun = true) (number : Nat) (steps : List Step)
    (state : σ) (noted : List Event) :
    let run := runSteps shell.noting (notingPrint print) options total number steps (state, noted)
    run.1.2 = noted ++ shownEvents total number steps ++ [.printed lastText] ∧ run.2 = .ok () := by
  induction steps generalizing number state noted with
  | nil => simp [runSteps, notingPrint, shownEvents, lastText]
  | cons step rest ih =>
      simp only [runSteps, hdry, if_true, notingPrint, announcement_eq, Bool.or_true]
      obtain ⟨hevents, hresult⟩ := ih (number + 1) (print state (stepText true number total step))
        (noted ++ [.printed (stepText true number total step)])
      refine ⟨?_, hresult⟩
      rw [hevents, shownEvents_cons]
      simp

/-- **Up to the first failure.** Where steps are run, they are run up to the first whose command
does not end well, and the run fails if there is one. -/
theorem runSteps_real (hreal : options.dryRun = false) (number : Nat) (steps : List Step)
    (state : σ) (noted : List Event) :
    let run := runSteps shell.noting (notingPrint print) options total number steps (state, noted)
    ∃ events, run.1.2 = noted ++ events ∧
      RunsUpToFailure options.verbose total number steps events (run.2 = .ok ()) := by
  induction steps generalizing number state noted with
  | nil => exact ⟨[.printed lastText], rfl, [], rfl, rfl, rfl⟩
  | cons step rest ih =>
      simp only [runSteps, hreal, Bool.false_eq_true, if_false, notingPrint, Shell.noting,
        announcement_eq, Bool.or_false]
      rcases shell (print state (stepText options.verbose number total step)) step.command with
        ⟨next, result⟩
      cases hcheck : ShellError.check step.command result with
      | error error =>
          -- the run ends here
          have hbad : ¬ EndedWell result := fun hwell => by
            simp [check_eq_ok_iff.mpr hwell] at hcheck
          refine ⟨[.printed _, .ran step.command result], List.append_assoc _ _ _, [result], ?_⟩
          simp [List.findIdx?_cons, hbad, stepEvents_cons, stepEvents_nil]
      | ok _ =>
          have hwell : EndedWell result := check_eq_ok_iff.mp hcheck
          obtain ⟨events, hevents, hrest⟩ := ih (number + 1) next
            (noted ++ [.printed (stepText options.verbose number total step)] ++
              [.ran step.command result])
          refine ⟨.printed _ :: .ran step.command result :: events, ?_, hrest.cons hwell⟩
          rw [hevents]
          simp

end

/-- Where every command ends well, a run of steps succeeds. -/
theorem runSteps_eq_ok {σ : Type} {shell : Shell σ}
    (hshell : ∀ state command, EndedWell (shell state command).2) (print : σ → String → σ)
    (options : RunOptions) (total number : Nat) (steps : List Step) (state : σ) :
    (runSteps shell print options total number steps state).2 = .ok () := by
  induction steps generalizing number state with
  | nil => rfl
  | cons step rest ih =>
      rw [runSteps]
      simp only
      cases options.dryRun with
      | true => exact ih _ _
      | false =>
          have hwell := hshell (print state (announcement options number total step)) step.command
          simp only [Bool.false_eq_true, if_false, check_eq_ok_iff.mpr hwell]
          exact ih _ _

/-! ## Orders -/

namespace Matrix.Order

section

variable {σ : Type} {order : Order} {tree : FileTree} {cwd : Place} {other? : Option Path}

/-- Without a plan nothing is done. -/
theorem perform_of_error {failure : Failure} (h : order.prepare tree cwd other? = .error failure)
    (shellIn : Path → Shell σ) (print : σ → String → σ) (state : σ) :
    order.perform shellIn print tree cwd other? state = (state, .error failure) := by
  simp only [perform, h]

/-- With a plan its steps are run, and that is all. -/
theorem perform_of_ok {dir : Path} {steps : List Step}
    (h : order.prepare tree cwd other? = .ok (dir, steps)) (shellIn : Path → Shell σ)
    (print : σ → String → σ) (state : σ) :
    order.perform shellIn print tree cwd other? state =
      let run := runSteps (shellIn dir) print order.options steps.length 1 steps state
      (run.1, run.2.mapError fun error => ⟨error.message, error.cause?.map Fault.message⟩) := by
  simp only [perform, h, runPlan]
  rcases runSteps (shellIn dir) print order.options steps.length 1 steps state with
    ⟨next, error | _⟩ <;> rfl

theorem perform_eq_ok_iff {dir : Path} {steps : List Step}
    (h : order.prepare tree cwd other? = .ok (dir, steps)) (shellIn : Path → Shell σ)
    (print : σ → String → σ) (state : σ) :
    (order.perform shellIn print tree cwd other? state).2 = .ok () ↔
      (runSteps (shellIn dir) print order.options steps.length 1 steps state).2 = .ok () := by
  rw [perform_of_ok h]
  rcases runSteps (shellIn dir) print order.options steps.length 1 steps state with
    ⟨next, error | _⟩
  · exact ⟨nofun, nofun⟩
  · exact ⟨fun _ => rfl, fun _ => rfl⟩

variable (shellIn : Path → Shell σ) (print : σ → String → σ) (state : σ)

/-- An order that is not run is shown step by step. -/
theorem events_of_dryRun {dir : Path} {steps : List Step}
    (h : order.prepare tree cwd other? = .ok (dir, steps)) (hdry : order.options.dryRun = true) :
    order.events shellIn print tree cwd other? state =
        shownEvents steps.length 1 steps ++ [.printed lastText] ∧
      (order.perform shellIn print tree cwd other? state).2 = .ok () := by
  obtain ⟨hevents, hresult⟩ :=
    runSteps_dryRun (shellIn dir) print steps.length hdry 1 steps state []
  obtain ⟨-, hsame⟩ :=
    runSteps_noting (shellIn dir) print steps.length order.options 1 steps state []
  rw [perform_eq_ok_iff h, ← hsame]
  refine ⟨?_, hresult⟩
  rw [events, perform_of_ok h]
  simpa using hevents

/-- An order that is run is run up to the first failure. -/
theorem events_of_real {dir : Path} {steps : List Step}
    (h : order.prepare tree cwd other? = .ok (dir, steps)) (hreal : order.options.dryRun = false) :
    RunsUpToFailure order.options.verbose steps.length 1 steps
      (order.events shellIn print tree cwd other? state)
      ((order.perform shellIn print tree cwd other? state).2 = .ok ()) := by
  obtain ⟨made, hmade, hrun⟩ :=
    runSteps_real (shellIn dir) print steps.length hreal 1 steps state []
  obtain ⟨-, hsame⟩ :=
    runSteps_noting (shellIn dir) print steps.length order.options 1 steps state []
  have hevents : order.events shellIn print tree cwd other? state = made := by
    rw [events, perform_of_ok h]
    simpa using hmade
  rw [hevents, perform_eq_ok_iff h, ← hsame]
  exact hrun

end

/-- **A run executes a prefix of the plan and nothing else.** If there is no plan, nothing is
carried out and nothing printed, for whatever reason there is none. With a plan, an order that is
run carries out the commands of the plan up to the first that does not end well, announcing each by
its number among all steps, and it succeeds, with a last text, exactly if all of them end well. An
order that is only shown prints each step with its command and carries out nothing; run with a shell
for which every command ends well, it carries out just these commands. The program ends with code 0
exactly if its order succeeds, and without a plan it prints nothing on the standard output. -/
theorem events_up_to_failure :
    (∀ {σ : Type} (order : Order) (shellIn : Path → Shell σ) (print : σ → String → σ)
        (tree : FileTree) (cwd : Place) (other? : Option Path) (state : σ),
      let events := order.events shellIn print tree cwd other? state
      let outcome := order.perform shellIn print tree cwd other? state
      match order.prepare tree cwd other? with
      | .error failure => events = [] ∧ outcome = (state, .error failure)
      | .ok (_, steps) =>
        if order.options.dryRun then
          events = shownEvents steps.length 1 steps ++ [.printed lastText] ∧
            outcome.2 = .ok () ∧ events.filterMap Event.command? = [] ∧
            let real := { order with options := { order.options with dryRun := false } }
            ((∀ dir state command, EndedWell (shellIn dir state command).2) →
              (real.events shellIn print tree cwd other? state).filterMap Event.command? =
                steps.map Step.command)
        else
          RunsUpToFailure order.options.verbose steps.length 1 steps events (outcome.2 = .ok ()) ∧
            events.filterMap Event.command? <+: steps.map Step.command) ∧
    ∀ (shellIn : Path → Shell Host) (cwd : Place) (other? : Option Path) (words : List String)
        (host : Host) (order : Order), Order.read words = .ok order →
      ((Matrix.run shellIn cwd other? words host).2 = 0 ↔
          (order.perform shellIn Host.print host.tree cwd other? host).2 = .ok ()) ∧
        ∀ failure, order.prepare host.tree cwd other? = .error failure →
          Matrix.run shellIn cwd other? words host = (host.complain failure.line, 1) ∧
            (host.complain failure.line).output = host.output := by
  constructor
  · intro σ order shellIn print tree cwd other? state events outcome
    rcases hprepare : order.prepare tree cwd other? with failure | ⟨dir, steps⟩
    · refine ⟨?_, perform_of_error hprepare shellIn print state⟩
      exact congrArg (fun run => run.1.2) (perform_of_error hprepare
        (fun dir => (shellIn dir).noting) (notingPrint print) (state, []))
    · cases hdry : order.options.dryRun with
      | true =>
          obtain ⟨hevents, hresult⟩ := events_of_dryRun shellIn print state hprepare hdry
          refine ⟨hevents, hresult, ?_, ?_⟩
          · refine (congrArg (List.filterMap Event.command?) hevents).trans ?_
            rw [List.filterMap_append, commands_shownEvents]
            rfl
          · intro real hshell
            -- the order that is run has the same plan
            have hreal : real.prepare tree cwd other? = .ok (dir, steps) := hprepare
            refine (events_of_real shellIn print state hreal rfl).commands.2 ?_
            exact (perform_eq_ok_iff hreal shellIn print state).mpr
              (runSteps_eq_ok (hshell dir) print real.options steps.length 1 steps state)
      | false =>
          have hrun := events_of_real shellIn print state hprepare hdry
          exact ⟨hrun, hrun.commands.1⟩
  · intro shellIn cwd other? words host order horder
    simp only [Matrix.run, horder, conclude_eq_zero_iff, true_and]
    intro failure hfailure
    rw [perform_of_error hfailure]
    exact ⟨rfl, rfl⟩

/-- A workspace whose configuration has a command that runs first, and a board that does not exist
for the last of the demos. -/
def unknownBoardTree : FileTree :=
  let config := "pre: [date]\nentries:\n- demo: trap_baremetal\n  targets: [mars]\n"
  (FileTree.empty.put ["Cargo.toml"] (.file (Utf8.ofString "[workspace]\n") 0o644)).put
    ["matrix.yaml"] (.file (Utf8.ofString config) 0o644)

/-- The plan fails at the last demo, so the command that runs first is not carried out. An order
that does not ask for this demo has a plan, and with a shell for which every command ends well, the
commands that it shows are those that are carried out when it is run. -/
theorem events_up_to_failure_unknownBoard :
    let words := ["matrix", "--command", "true"]
    let order : Order := { selection := { command? := some "true" } }
    let shown : Order :=
      { selection := { command? := some "true", demos := ["internal_timers"], targets := [.el2] }
        options := { dryRun := true } }
    let shellIn : Path → Shell Host := fun _ host command => (host.print command, .ok (.code 0))
    let host : Host := { tree := unknownBoardTree }
    let failure : Failure :=
      { message := "unknown board: mars (expected one of eh1, eh2, el2, hifive1)" }
    let steps : List Step := [⟨"pre:1", "date"⟩, ⟨"internal_timers [el2] (true)", "true"⟩]
    (Order.read words = .ok order ∧ order.prepare host.tree [] none = .error failure ∧
        Matrix.run shellIn [] none words host = (host.complain failure.line, 1) ∧
        (host.complain failure.line).output = host.output) ∧
      (∀ dir state command, EndedWell (shellIn dir state command).2) ∧
      shown.prepare host.tree [] none = .ok (.ofString "/", steps) ∧
      let real := { shown with options := { shown.options with dryRun := false } }
      (real.events shellIn Host.print host.tree [] none host).filterMap Event.command? =
        steps.map Step.command := by
  intro words order shown shellIn host failure steps
  have horder : Order.read words = .ok order := by with_unfolding_all rfl
  have hfailure : order.prepare host.tree [] none = .error failure := by decide +kernel
  have hshell : ∀ dir state command, EndedWell (shellIn dir state command).2 := fun _ _ _ => rfl
  have hplan : shown.prepare host.tree [] none = .ok (.ofString "/", steps) := by decide +kernel
  obtain ⟨-, hrefused⟩ := events_up_to_failure.2 shellIn [] none words host order horder
  refine ⟨⟨horder, hfailure, hrefused failure hfailure⟩, hshell, hplan, ?_⟩
  -- a tree that is a variable keeps the plan from being computed where it is only looked at
  generalize host.tree = tree at hplan ⊢
  have hshown := events_up_to_failure.1 shown shellIn Host.print tree [] none host
  rw [hplan] at hshown
  exact hshown.2.2.2 hshell

end Matrix.Order

end FirmwareBench
