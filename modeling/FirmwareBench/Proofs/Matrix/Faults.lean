import FirmwareBench.Demo.Catalog
import FirmwareBench.Proofs.Matrix.Expansion
import FirmwareBench.Proofs.Search

/-!
# Faults of a matrix

Why there is no plan. A name that no demo has comes first; then the demos are gone through in their
order, each for its command and then for the boards of its entry in the order in which the entry
names them. A demo that is not built has no fault, whatever its entry says, and the boards that are
asked for are looked at when nothing can fail any more.

## Main definitions

* `MatrixConfig.HasCommand`: there is a command for a demo.
* `MatrixConfig.TargetFault`: what is wrong with a board that an entry names.
* `MatrixConfig.DemoFault`: what is wrong with a demo that is built.

## Main statements

* `MatrixConfig.demoSteps_eq_error_iff`: there are no steps for a demo because of its fault.
* `MatrixConfig.plan_eq_error_iff`: there is no plan because of the first fault.
* `MatrixConfig.plan_fails_at_first_fault`: that, the condition without an order, and what neither
  causes a fault nor hides one.
-/

set_option autoImplicit false

namespace FirmwareBench

/-- There is no board of a name that no board has. -/
theorem Board.ofName_eq_error_iff {name : String} {cause : BuildError} :
    Board.ofName name = .error cause ↔
      (∀ board : Board, board.name ≠ name) ∧ cause = .unknownBoard name := by
  cases hname : Board.ofName name with
  | ok board =>
      have hboard : board.name = name := Board.ofName_eq_ok_iff.mp hname
      constructor
      · intro h
        cases h
      · rintro ⟨hnone, -⟩
        exact absurd hboard (hnone board)
  | error other =>
      have hnone : ∀ board : Board, board.name ≠ name := by
        intro board hboard
        rw [Board.ofName_eq_ok_iff.mpr hboard] at hname
        cases hname
      have hother : other = .unknownBoard name := by
        rw [Board.ofName] at hname
        cases hfind : Board.all.find? (·.name == name) with
        | none => simpa [hfind, eq_comm] using hname
        | some board => simp [hfind] at hname
      rw [hother, Except.error.injEq, and_iff_right hnone, eq_comm]

namespace MatrixConfig

/-! ## The specification -/

/-- There is a command for a demo: its entry has one, or one is asked for. -/
def HasCommand (config : MatrixConfig) (selection : Selection) (demo : Demo) : Prop :=
  (∃ entry name, config.entryNaming? demo = some entry ∧ entry.command? = some name) ∨
    ∃ name, selection.command? = some name

/-- What is wrong with the name of a board in the entry of a demo. -/
inductive TargetFault (demo : Demo) : String → PlanError → Prop
  | unknown {name : String} (hname : ∀ board : Board, board.name ≠ name) :
      TargetFault demo name (.badBoard (.unknownBoard name))
  /-- The demo does not build for the board of the name. -/
  | unsupported {board : Board} (hboard : board ∉ demo.targets) :
      TargetFault demo board.name (.unsupported demo.name board)

/-- What is wrong with a demo that is built. -/
inductive DemoFault (config : MatrixConfig) (selection : Selection) (demo : Demo) : PlanError → Prop
  | noCommand (hcommand : ¬ config.HasCommand selection demo) :
      DemoFault config selection demo .noCommand
  /-- There is a command, and of the boards that its entry names this is the first one with which
  something is wrong. -/
  | target {entry : MatrixEntry} {name : String} {error : PlanError}
      (hcommand : config.HasCommand selection demo) (hentry : config.entryNaming? demo = some entry)
      (hfirst : IsFirst (fun name => ∃ error, TargetFault demo name error) entry.targets name)
      (hfault : TargetFault demo name error) : DemoFault config selection demo error

/-- A demo is built and something is wrong with it. -/
def IsFaulty (config : MatrixConfig) (selection : Selection) (demo : Demo) : Prop :=
  config.IsBuilt selection demo ∧ ∃ error, config.DemoFault selection demo error

/-! ## What is wrong with a board -/

variable {config : MatrixConfig} {selection : Selection} {workspace : Path} {demo : Demo}

theorem entryBoard_eq_error_iff {name : String} {error : PlanError} :
    entryBoard demo name = .error error ↔ TargetFault demo name error := by
  have hsupports : ∀ board, demo.supports board = true ↔ board ∈ demo.targets := by
    simp [Demo.supports]
  constructor
  · intro h
    rw [entryBoard] at h
    cases hname : Board.ofName name with
    | error cause =>
        obtain ⟨hnone, rfl⟩ := Board.ofName_eq_error_iff.mp hname
        obtain rfl : _ = error := by simpa [hname] using h
        exact .unknown hnone
    | ok board =>
        obtain rfl := Board.ofName_eq_ok_iff.mp hname
        by_cases hboard : demo.supports board = true
        · simp [hname, hboard] at h
        · obtain rfl : _ = error := by simpa [hname, hboard] using h
          exact .unsupported fun hmem => hboard ((hsupports board).mpr hmem)
  · rintro (hnone | hboard)
    · rw [entryBoard, Board.ofName_eq_error_iff.mpr ⟨hnone, rfl⟩]
    · rename_i board
      have hnot : ¬ demo.supports board = true := fun h => hboard ((hsupports board).mp h)
      simp [entryBoard, Board.ofName_name, hnot]

/-- Something is wrong with the name of a board if the demo builds for no board of the name. -/
theorem exists_targetFault_iff {name : String} :
    (∃ error, TargetFault demo name error) ↔
      ∀ board : Board, board.name = name → board ∉ demo.targets := by
  constructor
  · rintro ⟨error, hnone | hboard⟩ other hother
    · exact absurd hother (hnone other)
    · rename_i board
      have hsame : other = board := Except.ok.inj <|
        (Board.ofName_eq_ok_iff.mpr hother).symm.trans (Board.ofName_name board)
      rwa [hsame]
  · intro h
    by_cases hname : ∃ board : Board, board.name = name
    · obtain ⟨board, rfl⟩ := hname
      exact ⟨_, .unsupported (h board rfl)⟩
    · push Not at hname
      exact ⟨_, .unknown hname⟩

/-- The boards for a demo fail at the first board of its entry with which something is wrong. -/
theorem boards_eq_error_iff {error : PlanError} :
    MatrixConfig.boards (config.entryFor? demo.name) demo = .error error ↔
      ∃ entry name, config.entryNaming? demo = some entry ∧
        IsFirst (fun name => ∃ error, TargetFault demo name error) entry.targets name ∧
          TargetFault demo name error := by
  rw [MatrixConfig.boards, ← entryNaming?_eq]
  cases hentry : config.entryNaming? demo with
  | none => simp
  | some entry =>
      cases htargets : entry.targets with
      | nil => simp [Option.filter, htargets, not_isFirst_nil]
      | cons first later =>
          have hfilter :
              (some entry).filter (fun entry => !entry.targets.isEmpty) = some entry := by
            simp [htargets]
          rw [hfilter]
          simp only [mapM_eq_error_iff, entryBoard_eq_error_iff]
          constructor
          · rintro ⟨name, hfirst, hfault⟩
            exact ⟨entry, name, rfl, hfirst, hfault⟩
          · rintro ⟨_, name, ⟨⟩, hfirst, hfault⟩
            exact ⟨name, hfirst, hfault⟩

/-! ## What is wrong with a demo -/

theorem hasCommand_iff :
    config.HasCommand selection demo ↔ ∃ name, config.IsCommandName selection demo name := by
  simp only [HasCommand, IsCommandName, FirstGiven, findSome?_id_cons, List.findSome?_nil,
    Option.or_none]
  cases config.entryNaming? demo with
  | none => simp
  | some entry => cases hcommand : entry.command? <;> simp [hcommand]

theorem commandName_eq_error_iff {error : PlanError} :
    commandName selection (config.entryFor? demo.name) = .error error ↔
      ¬ config.HasCommand selection demo ∧ error = .noCommand := by
  rw [hasCommand_iff]
  simp only [← commandName_eq_ok_iff]
  rw [commandName]
  cases ((config.entryFor? demo.name).bind (·.command?)).or selection.command? <;>
    simp [eq_comm]

/-- **There are no steps for a demo because of its fault**: it is built, and its command or else a
board of its entry is wrong. -/
theorem demoSteps_eq_error_iff {error : PlanError} :
    config.demoSteps selection workspace demo = .error error ↔
      config.IsBuilt selection demo ∧ config.DemoFault selection demo error := by
  by_cases hdemo : config.IsBuilt selection demo
  · have hactive : config.isActive selection demo = true := isActive_iff.mpr hdemo
    rw [and_iff_right hdemo, demoSteps]
    simp only [hactive, Bool.not_true, Bool.false_eq_true, if_false]
    -- the command comes first, so a demo without one is not looked at any further
    cases hname : commandName selection (config.entryFor? demo.name) with
    | error own =>
        obtain ⟨hcommand, rfl⟩ := commandName_eq_error_iff.mp hname
        constructor
        · intro h
          obtain rfl : PlanError.noCommand = error := by simpa [bind, Except.bind] using h
          exact .noCommand hcommand
        · rintro (- | ⟨hhas, -, -, -⟩)
          · rfl
          · exact absurd hhas hcommand
    | ok name =>
        have hcommand : config.HasCommand selection demo :=
          hasCommand_iff.mpr ⟨name, commandName_eq_ok_iff.mp hname⟩
        have hboards : config.DemoFault selection demo error ↔
            MatrixConfig.boards (config.entryFor? demo.name) demo = .error error := by
          rw [boards_eq_error_iff]
          constructor
          · rintro (hnone | ⟨-, hentry, hfirst, hfault⟩)
            · exact absurd hcommand hnone
            · exact ⟨_, _, hentry, hfirst, hfault⟩
          · rintro ⟨entry, name, hentry, hfirst, hfault⟩
            exact .target hcommand hentry hfirst hfault
        rw [hboards]
        cases MatrixConfig.boards (config.entryFor? demo.name) demo <;>
          simp [bind, Except.bind, pure, Except.pure]
  · rw [demoSteps_of_not_isBuilt hdemo]
    simp [hdemo]

theorem isFaulty_iff :
    config.IsFaulty selection demo ↔
      ∃ error, config.demoSteps selection workspace demo = .error error := by
  simp only [demoSteps_eq_error_iff, exists_and_left, IsFaulty]

/-- A demo that is built is faulty if there is no command for it or something is wrong with a board
that its entry names. -/
theorem isFaulty_iff_of_isBuilt (hdemo : config.IsBuilt selection demo) :
    config.IsFaulty selection demo ↔
      ¬ config.HasCommand selection demo ∨
        ∃ entry, config.entryNaming? demo = some entry ∧
          ∃ name ∈ entry.targets, ∀ board : Board, board.name = name → board ∉ demo.targets := by
  simp only [← exists_targetFault_iff]
  constructor
  · rintro ⟨-, error, hcommand | ⟨-, hentry, hfirst, hfault⟩⟩
    · exact .inl hcommand
    · exact .inr ⟨_, hentry, _, hfirst.mem, error, hfault⟩
  · rintro (hcommand | ⟨entry, hentry, hname⟩)
    · exact ⟨hdemo, _, .noCommand hcommand⟩
    · by_cases hcommand : config.HasCommand selection demo
      · obtain ⟨name, hfirst⟩ := exists_isFirst_iff.mpr hname
        obtain ⟨error, hfault⟩ := hfirst.prop
        exact ⟨hdemo, error, .target hcommand hentry hfirst hfault⟩
      · exact ⟨hdemo, _, .noCommand hcommand⟩

/-! ## The first fault -/

/-- Going through the demos fails at the first faulty one. -/
theorem mapM_demoSteps_eq_error_iff {demos : List Demo} {error : PlanError} :
    demos.mapM (config.demoSteps selection workspace) = .error error ↔
      ∃ demo, IsFirst (config.IsFaulty selection) demos demo ∧
        config.DemoFault selection demo error := by
  rw [mapM_eq_error_iff]
  simp only [← isFaulty_iff]
  refine exists_congr fun demo => and_congr_right fun hfirst => ?_
  rw [demoSteps_eq_error_iff, and_iff_right hfirst.prop.1]

/-- **There is no plan because of the first fault.** If a name is asked for that no demo has, the
error names the first of these names. Otherwise it is the fault of the first faulty demo. -/
theorem plan_eq_error_iff {demos : List Demo} {error : PlanError} :
    config.plan selection workspace demos = .error error ↔
      (∃ name, IsFirst (fun name => ∀ demo ∈ demos, demo.name ≠ name) selection.demos name ∧
        error = .unknownDemo name) ∨
      (∀ name ∈ selection.demos, ∃ demo ∈ demos, demo.name = name) ∧
        ∃ demo, IsFirst (config.IsFaulty selection) demos demo ∧
          config.DemoFault selection demo error := by
  have hunknown : ∀ name, (!demos.any (·.name == name)) = true ↔
      ∀ demo ∈ demos, demo.name ≠ name := by
    simp
  rw [plan]
  cases hfind : selection.demos.find? fun name => !demos.any (·.name == name) with
  | some name =>
      have hfirst := (find?_eq_some_iff_isFirst hunknown).mp hfind
      constructor
      · intro h
        obtain rfl : PlanError.unknownDemo name = error := by simpa using h
        exact .inl ⟨name, hfirst, rfl⟩
      · rintro (⟨other, hother, rfl⟩ | ⟨hknown, -⟩)
        · have hsame := (find?_eq_some_iff_isFirst hunknown).mpr hother
          rw [hfind, Option.some.injEq] at hsame
          rw [hsame]
        · obtain ⟨demo, hdemo, hname⟩ := hknown name hfirst.mem
          exact absurd hname (hfirst.prop demo hdemo)
  | none =>
      have hknown : ∀ name ∈ selection.demos, ∃ demo ∈ demos, demo.name = name := by
        simpa using hfind
      have hnone : ¬ ∃ name, IsFirst (fun name => ∀ demo ∈ demos, demo.name ≠ name)
          selection.demos name ∧ error = .unknownDemo name := by
        rintro ⟨name, hfirst, -⟩
        obtain ⟨demo, hdemo, hname⟩ := hknown name hfirst.mem
        exact hfirst.prop demo hdemo hname
      rw [or_iff_right hnone, and_iff_right hknown, ← mapM_demoSteps_eq_error_iff]
      cases demos.mapM (config.demoSteps selection workspace) <;>
        simp [bind, Except.bind, pure, Except.pure]

/-- There is no plan if and only if a name is asked for that no demo has, or a demo is faulty. -/
theorem exists_plan_eq_error_iff {demos : List Demo} :
    (∃ error, config.plan selection workspace demos = .error error) ↔
      (∃ name ∈ selection.demos, ∀ demo ∈ demos, demo.name ≠ name) ∨
        ∃ demo ∈ demos, config.IsFaulty selection demo := by
  simp only [plan_eq_error_iff]
  constructor
  · rintro ⟨error, ⟨name, hfirst, -⟩ | ⟨-, demo, hfirst, -⟩⟩
    · exact .inl ⟨name, hfirst.mem, hfirst.prop⟩
    · exact .inr ⟨demo, hfirst.mem, hfirst.prop⟩
  · intro h
    by_cases hunknown : ∃ name ∈ selection.demos, ∀ demo ∈ demos, demo.name ≠ name
    · obtain ⟨name, hfirst⟩ := exists_isFirst_iff.mpr hunknown
      exact ⟨_, .inl ⟨name, hfirst, rfl⟩⟩
    · obtain ⟨demo, hfirst⟩ := exists_isFirst_iff.mpr (h.resolve_left hunknown)
      obtain ⟨-, error, hfault⟩ := hfirst.prop
      push Not at hunknown
      exact ⟨error, .inr ⟨hunknown, demo, hfirst, hfault⟩⟩

/-! ## What has no part in a fault -/

instance : DecidablePred (config.IsBuilt selection) := fun _ =>
  decidable_of_iff _ isActive_iff

/-- Whether a demo is built does not hang on the boards that are asked for. -/
theorem isBuilt_with_targets (targets : List Board) :
    config.IsBuilt { selection with targets } demo ↔ config.IsBuilt selection demo :=
  ⟨fun h => ⟨h.asked, h.enabled⟩, fun h => ⟨h.asked, h.enabled⟩⟩

/-- Of what is asked for, only the command has a part in a fault. -/
theorem DemoFault.of_command_eq {other : Selection} {error : PlanError}
    (h : config.DemoFault selection demo error) (hsame : other.command? = selection.command?) :
    config.DemoFault other demo error := by
  have hhas : config.HasCommand other demo ↔ config.HasCommand selection demo := by
    rw [HasCommand, HasCommand, hsame]
  rcases h with hcommand | ⟨hcommand, hentry, hfirst, hfault⟩
  · exact .noCommand (mt hhas.mp hcommand)
  · exact .target (hhas.mpr hcommand) hentry hfirst hfault

theorem demoFault_with_targets (targets : List Board) {error : PlanError} :
    config.DemoFault { selection with targets } demo error ↔
      config.DemoFault selection demo error :=
  ⟨fun h => h.of_command_eq rfl, fun h => h.of_command_eq rfl⟩

theorem isFaulty_with_targets (targets : List Board) :
    config.IsFaulty { selection with targets } = config.IsFaulty selection := by
  funext demo
  simp only [IsFaulty, isBuilt_with_targets, demoFault_with_targets]

/-- **Demos that are not built and boards that are not asked for have no part in a fault.** The
error is the same for other demos of which the same are built, as long as the same of the names
asked for are known, and whatever boards are asked for. -/
theorem plan_eq_error_iff_of_filter_eq {demos others : List Demo} (targets : List Board)
    (hbuilt : demos.filter (config.IsBuilt selection) = others.filter (config.IsBuilt selection))
    (hknown : ∀ name ∈ selection.demos,
      ((∃ demo ∈ demos, demo.name = name) ↔ ∃ demo ∈ others, demo.name = name))
    {error : PlanError} :
    config.plan { selection with targets } workspace others = .error error ↔
      config.plan selection workspace demos = .error error := by
  have hunknown (name : String) :
      IsFirst (fun name => ∀ demo ∈ others, demo.name ≠ name) selection.demos name ↔
        IsFirst (fun name => ∀ demo ∈ demos, demo.name ≠ name) selection.demos name := by
    refine isFirst_congr fun name hname => ?_
    have hsame := not_congr (hknown name hname)
    push Not at hsame
    exact hsame.symm
  have hall : (∀ name ∈ selection.demos, ∃ demo ∈ others, demo.name = name) ↔
      ∀ name ∈ selection.demos, ∃ demo ∈ demos, demo.name = name :=
    forall₂_congr fun name hname => (hknown name hname).symm
  have hfirst (demo : Demo) : IsFirst (config.IsFaulty selection) others demo ↔
      IsFirst (config.IsFaulty selection) demos demo := by
    have hfilter : ∀ demo, config.IsFaulty selection demo →
        decide (config.IsBuilt selection demo) = true := fun _ h => decide_eq_true h.1
    rw [← isFirst_filter hfilter, ← hbuilt, isFirst_filter hfilter]
  simp only [plan_eq_error_iff, isFaulty_with_targets, demoFault_with_targets, hunknown, hall,
    hfirst]

/-- **There is no plan because of the first fault.** The error is that of the first name asked for
that no demo has. If there is none, it is that of the first demo in order that is built and has a
fault: no command, or else the first board of its entry that does not exist or that it does not
build for. So there is no plan if and only if a name asked for is unknown, or a demo that is built
has no command or names such a board. Demos that are not built may be put in, changed or taken out,
and any boards may be asked for: that neither causes an error nor hides one. -/
theorem plan_fails_at_first_fault (config : MatrixConfig) (selection : Selection) (workspace : Path)
    (demos : List Demo) :
    (∀ error, config.plan selection workspace demos = .error error ↔
      (∃ name, IsFirst (fun name => ∀ demo ∈ demos, demo.name ≠ name) selection.demos name ∧
        error = .unknownDemo name) ∨
      (∀ name ∈ selection.demos, ∃ demo ∈ demos, demo.name = name) ∧
        ∃ demo, IsFirst (config.IsFaulty selection) demos demo ∧
          config.DemoFault selection demo error) ∧
    ((∃ error, config.plan selection workspace demos = .error error) ↔
      (∃ name ∈ selection.demos, ∀ demo ∈ demos, demo.name ≠ name) ∨
        ∃ demo ∈ demos, config.IsBuilt selection demo ∧
          (¬ config.HasCommand selection demo ∨
            ∃ entry, config.entryNaming? demo = some entry ∧
              ∃ name ∈ entry.targets,
                ∀ board : Board, board.name = name → board ∉ demo.targets)) ∧
    ∀ (targets : List Board) (others : List Demo),
      demos.filter (config.IsBuilt selection) = others.filter (config.IsBuilt selection) →
        (∀ name ∈ selection.demos,
          ((∃ demo ∈ demos, demo.name = name) ↔ ∃ demo ∈ others, demo.name = name)) →
          ∀ error, config.plan { selection with targets } workspace others = .error error ↔
            config.plan selection workspace demos = .error error := by
  refine ⟨fun error => plan_eq_error_iff, ?_, ?_⟩
  · rw [exists_plan_eq_error_iff]
    refine or_congr_right (exists_congr fun demo => and_congr_right fun _ => ?_)
    constructor
    · intro h
      exact ⟨h.1, (isFaulty_iff_of_isBuilt h.1).mp h⟩
    · rintro ⟨hdemo, h⟩
      exact (isFaulty_iff_of_isBuilt hdemo).mpr h
  · intro targets others hbuilt hknown error
    exact plan_eq_error_iff_of_filter_eq targets hbuilt hknown

/-- One entry leaves a demo out and names a board that does not exist; another one names two boards
with which something is wrong. -/
def twoBadBoards : MatrixConfig where
  entries :=
    [{ demo := "trap_baremetal", targets := ["nowhere"], disabled := true },
      { demo := "internal_timers", command? := some "build", targets := ["el2", "hifive1", "eh3"] }]

/-- Of two demos that are asked for, the one that is left out has no part in the error: it may come
first, or come last with other boards of its own. Nor has the demo that is not asked for, though
there is no command for it. -/
theorem plan_fails_at_first_fault_hifive1 :
    let workspace := Path.ofString "/ws"
    let selection : Selection := { demos := ["trap_baremetal", "internal_timers"] }
    let demos := [Demo.trapBaremetal, Demo.dataOverlay, Demo.internalTimers]
    let others := [Demo.internalTimers, { Demo.trapBaremetal with targets := [] }]
    let error := PlanError.unsupported "internal_timers" .hifive1
    demos.filter (twoBadBoards.IsBuilt selection) =
        others.filter (twoBadBoards.IsBuilt selection) ∧
      (∀ name ∈ selection.demos,
        ((∃ demo ∈ demos, demo.name = name) ↔ ∃ demo ∈ others, demo.name = name)) ∧
      (∃ demo, IsFirst (twoBadBoards.IsFaulty selection) demos demo ∧
        twoBadBoards.DemoFault selection demo error) ∧
      twoBadBoards.plan selection workspace demos = .error error ∧
      twoBadBoards.plan { selection with targets := [.el2] } workspace others = .error error := by
  intro workspace selection demos others error
  have hbuilt : demos.filter (twoBadBoards.IsBuilt selection) =
      others.filter (twoBadBoards.IsBuilt selection) := by decide +kernel
  have hknown : ∀ name ∈ selection.demos,
      ((∃ demo ∈ demos, demo.name = name) ↔ ∃ demo ∈ others, demo.name = name) := by
    decide +kernel
  have hplan : twoBadBoards.plan selection workspace demos = .error error := by decide +kernel
  obtain ⟨hfails, -, hsame⟩ := plan_fails_at_first_fault twoBadBoards selection workspace demos
  have hfault : ∃ demo, IsFirst (twoBadBoards.IsFaulty selection) demos demo ∧
      twoBadBoards.DemoFault selection demo error := by
    rcases (hfails error).mp hplan with ⟨name, -, herror⟩ | ⟨-, hfault⟩
    · exact absurd herror (by simp [error])
    · exact hfault
  exact ⟨hbuilt, hknown, hfault, hplan,
    (hsame [.el2] others hbuilt hknown error).mpr hplan⟩

end MatrixConfig

end FirmwareBench
