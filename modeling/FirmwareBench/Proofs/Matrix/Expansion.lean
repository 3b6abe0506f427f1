import FirmwareBench.Matrix.Plan
import Mathlib.Data.List.Forall2

/-!
# The expansion of a matrix

The planner walks over demos and boards with filters and early exits. The expansion says, choice by
choice and without a loop, which steps there are for a demo, and that nothing else is in a plan. A
plan succeeds exactly if there is an expansion, and then it is the expansion.

## Main definitions

* `FirstGiven`: the first of several choices that is made.
* `MatrixConfig.IsBuilt`: whether a demo has steps at all.
* `MatrixConfig.IsStepFor`: what a step for a demo and a board is.
* `MatrixConfig.Expansion`: the steps for demos in order.

## Main statements

* `MatrixConfig.mapM_demoSteps_iff`: the steps found for the demos are those of the expansion.
* `MatrixConfig.plan_eq_ok_iff_expansion`: a plan is its expansion, and has no steps but those for
  a demo that is built and a board that it is built for.
-/

set_option autoImplicit false

namespace FirmwareBench

/-! ## Choices -/

/-- `value` is the first of the choices that is made. -/
def FirstGiven {α : Type} (choices : List (Option α)) (value : α) : Prop :=
  choices.findSome? id = some value

/-- A choice in front of others wins if it is made. -/
theorem findSome?_id_cons {α : Type} (choice? : Option α) (choices : List (Option α)) :
    (choice? :: choices).findSome? id = choice?.or (choices.findSome? id) := by
  cases choice? <;> simp

/-! ## The specification -/

namespace MatrixConfig

/-- The entry of a demo: the first one that names it. -/
def entryNaming? (config : MatrixConfig) (demo : Demo) : Option MatrixEntry :=
  config.entries.find? (·.demo = demo.name)

/-- A demo is built: it is asked for, if demos are asked for at all, and its entry does not leave it
out. -/
structure IsBuilt (config : MatrixConfig) (selection : Selection) (demo : Demo) : Prop where
  asked : selection.demos = [] ∨ demo.name ∈ selection.demos
  enabled : ∀ entry, config.entryNaming? demo = some entry → entry.disabled = false

/-- The name of the command for a demo: the one of its entry, else the one asked for. -/
def IsCommandName (config : MatrixConfig) (selection : Selection) (demo : Demo) (name : String) :
    Prop :=
  FirstGiven [(config.entryNaming? demo).bind (·.command?), selection.command?] name

/-- The template behind the name of a command: the one of the entry, else the one of the
configuration, else the name itself. -/
def IsTemplate (config : MatrixConfig) (demo : Demo) (name template : String) : Prop :=
  FirstGiven [(config.entryNaming? demo).bind (·.commands.get? name), config.commands.get? name,
    some name] template

/-- The toolchain for a demo: the one of its entry, else its own unless that is empty, else the one
of the configuration, else `llvm`. -/
def IsToolchain (config : MatrixConfig) (demo : Demo) (toolchain : String) : Prop :=
  FirstGiven [(config.entryNaming? demo).bind (·.toolchain?),
    if demo.toolchain = "" then none else some demo.toolchain, config.toolchain?, some "llvm"]
    toolchain

/-- The boards a demo is to be built for. -/
inductive IsBoards (config : MatrixConfig) (demo : Demo) : List Board → Prop
  /-- The entry names boards: these, in its order, which must be boards of the demo. -/
  | named {entry : MatrixEntry} {boards : List Board}
      (hentry : config.entryNaming? demo = some entry) (htargets : entry.targets ≠ [])
      (hnames : boards.map Board.name = entry.targets)
      (hsupported : ∀ board ∈ boards, board ∈ demo.targets) : IsBoards config demo boards
  /-- No board is named: those of the demo, in its order. -/
  | own (hentry : ∀ entry, config.entryNaming? demo = some entry → entry.targets = []) :
      IsBoards config demo demo.targets

/-- The step that builds a demo for a board. -/
def IsStepFor (config : MatrixConfig) (selection : Selection) (workspace : Path) (demo : Demo)
    (board : Board) (step : Step) : Prop :=
  ∃ name template toolchain, config.IsCommandName selection demo name ∧
    config.IsTemplate demo name template ∧ config.IsToolchain demo toolchain ∧
    step.name = demo.name ++ " [" ++ board.name ++ "] (" ++ name ++ ")" ∧
    step.command = renderStep template
      { workspace, demo := demo.name, target := board.name, toolchain,
        defines := " ".intercalate (demo.publicDefs.map ("-D" ++ ·)) }

/-- The steps that run before all others, numbered from 1. -/
def firstSteps (config : MatrixConfig) : List Step :=
  config.pre.mapIdx fun index command => ⟨"pre:" ++ toString (index + 1), command⟩

end MatrixConfig

/-- A board is asked for, if boards are asked for at all. -/
def Selection.Allows (selection : Selection) (board : Board) : Prop :=
  selection.targets = [] ∨ board ∈ selection.targets

instance (selection : Selection) : DecidablePred selection.Allows := fun _ =>
  inferInstanceAs (Decidable (_ ∨ _))

namespace MatrixConfig

/-- The steps for demos in order: one for each board of each demo that is built, less the boards
that are not asked for. -/
inductive Expansion (config : MatrixConfig) (selection : Selection) (workspace : Path) :
    List Demo → List Step → Prop
  | nil : Expansion config selection workspace [] []
  /-- A demo that is not built has no steps, whatever its entry says. -/
  | leftOut {demo : Demo} {rest : List Demo} {steps : List Step}
      (hdemo : ¬ config.IsBuilt selection demo)
      (hrest : Expansion config selection workspace rest steps) :
      Expansion config selection workspace (demo :: rest) steps
  /-- A demo that is built has a command, and a step for each of its boards. -/
  | built {demo : Demo} {rest : List Demo} {name : String} {boards : List Board}
      {own steps : List Step} (hdemo : config.IsBuilt selection demo)
      (hname : config.IsCommandName selection demo name) (hboards : config.IsBoards demo boards)
      (hown : List.Forall₂ (config.IsStepFor selection workspace demo)
        (boards.filter selection.Allows) own)
      (hrest : Expansion config selection workspace rest steps) :
      Expansion config selection workspace (demo :: rest) (own ++ steps)

end MatrixConfig

/-! ## Going through lists -/

/-- Going through a list succeeds exactly if it succeeds at each element, with these results. -/
theorem mapM_eq_ok_iff {α β ε : Type} {f : α → Except ε β} {list : List α} {results : List β} :
    list.mapM f = .ok results ↔ List.Forall₂ (fun a b => f a = .ok b) list results := by
  induction list generalizing results with
  | nil => simp [pure, Except.pure, eq_comm]
  | cons a rest ih =>
      rw [List.mapM_cons, List.forall₂_cons_left_iff]
      cases hfirst : f a with
      | error error => simp [bind, Except.bind]
      | ok b =>
          cases hrest : rest.mapM f with
          | error error =>
              rw [hrest] at ih
              simp [bind, Except.bind, ← ih]
          | ok others =>
              rw [hrest] at ih
              simp [bind, Except.bind, pure, Except.pure, ← ih, eq_comm]

/-- Each element on the right of a relation of lists has its partner on the left. -/
theorem exists_of_forall₂ {α β : Type} {rel : α → β → Prop} {left : List α} {right : List β}
    (h : List.Forall₂ rel left right) : ∀ b ∈ right, ∃ a ∈ left, rel a b := by
  induction h with
  | nil => simp
  | @cons a b left right hrel _ ih =>
      intro c hc
      rcases List.mem_cons.mp hc with rfl | hmem
      · exact ⟨a, List.mem_cons_self, hrel⟩
      · obtain ⟨partner, hpartner, hrel⟩ := ih c hmem
        exact ⟨partner, List.mem_cons_of_mem _ hpartner, hrel⟩

/-- The board of a name is the one that has it. -/
theorem Board.ofName_eq_ok_iff {name : String} {board : Board} :
    ofName name = .ok board ↔ board.name = name := by
  constructor
  · intro h
    rw [ofName] at h
    cases hfind : all.find? (·.name == name) with
    | none => simp [hfind] at h
    | some found =>
        obtain rfl : found = board := by simpa [hfind] using h
        simpa using List.find?_some hfind
  · rintro rfl
    exact ofName_name board

/-! ## The planner makes these choices -/

namespace MatrixConfig

variable {config : MatrixConfig} {selection : Selection} {workspace : Path} {demo : Demo}

theorem entryNaming?_eq : config.entryNaming? demo = config.entryFor? demo.name := by
  simp only [entryNaming?, entryFor?, Bool.beq_eq_decide_eq]

theorem isActive_iff : config.isActive selection demo = true ↔ config.IsBuilt selection demo := by
  have hasked : selection.wantsDemo demo = true ↔
      selection.demos = [] ∨ demo.name ∈ selection.demos := by
    simp [Selection.wantsDemo]
  have henabled : (!(config.entryFor? demo.name).any (·.disabled)) = true ↔
      ∀ entry, config.entryNaming? demo = some entry → entry.disabled = false := by
    rw [entryNaming?_eq]
    cases config.entryFor? demo.name <;> simp
  rw [isActive, Bool.and_eq_true, hasked, henabled]
  exact ⟨fun h => ⟨h.1, h.2⟩, fun h => ⟨h.asked, h.enabled⟩⟩

theorem commandName_eq_ok_iff {name : String} :
    commandName selection (config.entryFor? demo.name) = .ok name ↔
      config.IsCommandName selection demo name := by
  simp only [IsCommandName, FirstGiven, findSome?_id_cons, List.findSome?_nil, Option.or_none,
    entryNaming?_eq, commandName]
  cases ((config.entryFor? demo.name).bind (·.command?)).or selection.command? <;> simp

theorem isTemplate_iff {name template : String} :
    config.IsTemplate demo name template ↔
      config.template (config.entryFor? demo.name) name = template := by
  simp only [IsTemplate, FirstGiven, findSome?_id_cons, List.findSome?_nil, Option.or_none,
    entryNaming?_eq, Option.or_some, Option.some.injEq, Option.getD_or, MatrixConfig.template]

theorem isToolchain_iff {toolchain : String} :
    config.IsToolchain demo toolchain ↔
      config.toolchain (config.entryFor? demo.name) demo = toolchain := by
  simp only [IsToolchain, FirstGiven, findSome?_id_cons, List.findSome?_nil, Option.or_none,
    entryNaming?_eq, Option.or_some, Option.some.injEq, Option.getD_or, MatrixConfig.toolchain,
    standardToolchain, String.isEmpty_iff]

theorem defineOptions_empty (demo : Demo) :
    demo.defineOptions .empty = demo.publicDefs.map ("-D" ++ ·) := by
  have hprefix : Env.empty.displayed? "CPPDEFPREFIX" = none := rfl
  have hsuffix : Env.empty.displayed? "CPPDEFSUFFIX" = none := rfl
  simp [Demo.defineOptions, hprefix, hsuffix]

/-- The step of the planner is the step of the specification. -/
theorem isStepFor_iff {name : String} (hname : config.IsCommandName selection demo name)
    {board : Board} {step : Step} :
    config.IsStepFor selection workspace demo board step ↔
      config.buildStep (config.entryFor? demo.name) workspace demo name board = step := by
  constructor
  · rintro ⟨other, template, toolchain, hother, htemplate, htoolchain, hstep, hcommand⟩
    obtain rfl : name = other := Option.some.inj (hname.symm.trans hother)
    obtain rfl := isTemplate_iff.mp htemplate
    obtain rfl := isToolchain_iff.mp htoolchain
    rcases step with ⟨stepName, command⟩
    simp only at hstep hcommand
    rw [hstep, hcommand, buildStep, defineOptions_empty]
  · rintro rfl
    refine ⟨name, _, _, hname, isTemplate_iff.mpr rfl, isToolchain_iff.mpr rfl, rfl, ?_⟩
    rw [buildStep, defineOptions_empty]

/-- An entry may name a board of the demo by its name, and nothing else. -/
theorem entryBoard_eq_ok_iff {name : String} {board : Board} :
    entryBoard demo name = .ok board ↔ board.name = name ∧ board ∈ demo.targets := by
  have hsupports : demo.supports board = true ↔ board ∈ demo.targets := by
    simp [Demo.supports]
  rw [← Board.ofName_eq_ok_iff, ← hsupports, entryBoard]
  cases Board.ofName name with
  | error cause => simp
  | ok found => by_cases hfound : demo.supports found = true <;> grind

/-- The names of an entry are read as the boards that have them. -/
theorem mapM_entryBoard_eq_ok_iff {names : List String} {boards : List Board} :
    names.mapM (entryBoard demo) = .ok boards ↔
      boards.map Board.name = names ∧ ∀ board ∈ boards, board ∈ demo.targets := by
  rw [mapM_eq_ok_iff]
  induction names generalizing boards with
  | nil => cases boards <;> simp
  | cons name names ih =>
      cases boards with
      | nil => simp
      | cons board boards =>
          rw [List.forall₂_cons, ih, entryBoard_eq_ok_iff]
          simp only [List.map_cons, List.cons.injEq, List.forall_mem_cons]
          exact and_and_and_comm

theorem boards_eq_ok_iff {boards : List Board} :
    MatrixConfig.boards (config.entryFor? demo.name) demo = .ok boards ↔
      config.IsBoards demo boards := by
  rw [MatrixConfig.boards, ← entryNaming?_eq]
  cases hnamed : (config.entryNaming? demo).filter fun entry => !entry.targets.isEmpty with
  | none =>
      have hnone : ∀ entry, config.entryNaming? demo = some entry → entry.targets = [] := by
        simpa [Option.filter_eq_none_iff] using hnamed
      constructor
      · intro h
        obtain rfl : demo.targets = boards := by simpa using h
        exact .own hnone
      · rintro (⟨hentry, htargets, -, -⟩ | -)
        · exact absurd (hnone _ hentry) htargets
        · rfl
  | some entry =>
      obtain ⟨hentry, htargets⟩ : config.entryNaming? demo = some entry ∧ entry.targets ≠ [] := by
        simpa [Option.filter_eq_some_iff] using hnamed
      simp only [mapM_entryBoard_eq_ok_iff]
      constructor
      · rintro ⟨hnames, hsupported⟩
        exact .named hentry htargets hnames hsupported
      · rintro (⟨hentry', -, hnames, hsupported⟩ | hnone)
        · obtain rfl : entry = _ := Option.some.inj (hentry.symm.trans hentry')
          exact ⟨hnames, hsupported⟩
        · exact absurd (hnone entry hentry) htargets

/-- A demo that is not built has no steps. -/
theorem demoSteps_of_not_isBuilt (hdemo : ¬ config.IsBuilt selection demo) :
    config.demoSteps selection workspace demo = .ok [] := by
  have hactive : config.isActive selection demo = false := by
    simpa [← isActive_iff] using hdemo
  simp [demoSteps, hactive]

theorem wantsBoard_eq (selection : Selection) :
    selection.wantsBoard = fun board => decide (selection.Allows board) := by
  funext board
  rw [Bool.eq_iff_iff, decide_eq_true_iff]
  simp [Selection.wantsBoard, Selection.Allows]

/-- The steps for boards are those of the planner. -/
theorem forall₂_isStepFor_iff {name : String} (hname : config.IsCommandName selection demo name)
    {boards : List Board} {own : List Step} :
    List.Forall₂ (config.IsStepFor selection workspace demo) boards own ↔
      boards.map (config.buildStep (config.entryFor? demo.name) workspace demo name) = own := by
  have hstep : config.IsStepFor selection workspace demo = fun board step =>
      config.buildStep (config.entryFor? demo.name) workspace demo name board = step := by
    funext board step
    exact propext (isStepFor_iff hname)
  rw [hstep, ← List.forall₂_eq_eq_eq, List.forall₂_map_left_iff]

/-- A demo that is built has a step for each of its boards that is asked for. -/
theorem demoSteps_eq_ok_iff (hdemo : config.IsBuilt selection demo) {own : List Step} :
    config.demoSteps selection workspace demo = .ok own ↔
      ∃ name boards, config.IsCommandName selection demo name ∧ config.IsBoards demo boards ∧
        List.Forall₂ (config.IsStepFor selection workspace demo)
          (boards.filter selection.Allows) own := by
  have hactive : config.isActive selection demo = true := isActive_iff.mpr hdemo
  simp only [demoSteps, hactive, Bool.not_true, Bool.false_eq_true, if_false, wantsBoard_eq]
  -- the two choices are made one after the other, and each may fail
  constructor
  · intro h
    cases hname : commandName selection (config.entryFor? demo.name) with
    | error error => simp [hname, bind, Except.bind] at h
    | ok name =>
        cases hboards : MatrixConfig.boards (config.entryFor? demo.name) demo with
        | error error => simp [hname, hboards, bind, Except.bind] at h
        | ok boards =>
            have hcommand := commandName_eq_ok_iff.mp hname
            refine ⟨name, boards, hcommand, boards_eq_ok_iff.mp hboards,
              (forall₂_isStepFor_iff hcommand).mpr ?_⟩
            simpa [hname, hboards, bind, Except.bind, pure, Except.pure] using h
  · rintro ⟨name, boards, hcommand, hboards, hown⟩
    simp [commandName_eq_ok_iff.mpr hcommand, boards_eq_ok_iff.mpr hboards,
      (forall₂_isStepFor_iff hcommand).mp hown, bind, Except.bind, pure, Except.pure]

/-- **Demo by demo.** The steps found for demos are those of their expansion. -/
theorem mapM_demoSteps_iff {demos : List Demo} {steps : List Step} :
    (∃ parts, demos.mapM (config.demoSteps selection workspace) = .ok parts ∧
        parts.flatten = steps) ↔
      config.Expansion selection workspace demos steps := by
  simp only [mapM_eq_ok_iff]
  constructor
  · rintro ⟨parts, hparts, rfl⟩
    induction hparts with
    | nil => exact .nil
    | @cons demo own rest parts hown hrest ih =>
        by_cases hdemo : config.IsBuilt selection demo
        · obtain ⟨name, boards, hname, hboards, hsteps⟩ := (demoSteps_eq_ok_iff hdemo).mp hown
          exact .built hdemo hname hboards hsteps ih
        · rw [demoSteps_of_not_isBuilt hdemo, Except.ok.injEq] at hown
          subst hown
          exact .leftOut hdemo ih
  · intro h
    induction h with
    | nil => exact ⟨[], .nil, rfl⟩
    | leftOut hdemo _ ih =>
        obtain ⟨parts, hparts, rfl⟩ := ih
        exact ⟨[] :: parts, .cons (demoSteps_of_not_isBuilt hdemo) hparts, rfl⟩
    | built hdemo hname hboards hown _ ih =>
        obtain ⟨parts, hparts, rfl⟩ := ih
        exact ⟨_ :: parts, .cons ((demoSteps_eq_ok_iff hdemo).mpr ⟨_, _, hname, hboards, hown⟩)
          hparts, rfl⟩

/-! ## What a plan holds -/

/-- Every board a demo is built for is one of its own. -/
theorem IsBoards.mem_targets {boards : List Board} (h : config.IsBoards demo boards) :
    ∀ board ∈ boards, board ∈ demo.targets := by
  cases h with
  | named _ _ _ hsupported => exact hsupported
  | own _ => exact fun _ hboard => hboard

/-- Every step of an expansion builds some demo, which is built at all, for a board of the demo that
is asked for. -/
theorem Expansion.mem {demos : List Demo} {steps : List Step}
    (h : config.Expansion selection workspace demos steps) :
    ∀ step ∈ steps, ∃ demo ∈ demos, config.IsBuilt selection demo ∧
      ∃ board ∈ demo.targets, selection.Allows board ∧
        config.IsStepFor selection workspace demo board step := by
  induction h with
  | nil => simp
  | leftOut _ _ ih =>
      intro step hstep
      obtain ⟨demo, hdemo, hstep⟩ := ih step hstep
      exact ⟨demo, List.mem_cons_of_mem _ hdemo, hstep⟩
  | @built demo rest name boards own steps hbuilt _ hboards hown _ ih =>
      intro step hstep
      rcases List.mem_append.mp hstep with hstep | hstep
      · obtain ⟨board, hboard, hfor⟩ := exists_of_forall₂ hown step hstep
        obtain ⟨hboard, hallows⟩ := List.mem_filter.mp hboard
        exact ⟨demo, List.mem_cons_self, hbuilt, board, hboards.mem_targets board hboard,
          of_decide_eq_true hallows, hfor⟩
      · obtain ⟨demo, hdemo, hstep⟩ := ih step hstep
        exact ⟨demo, List.mem_cons_of_mem _ hdemo, hstep⟩

theorem preSteps_eq : config.preSteps = config.firstSteps := by
  rw [preSteps, firstSteps, List.mapIdx_eq_zipIdx_map]

/-- Planning fails at a name that is asked for and no demo has, and else if it fails for a demo. -/
theorem plan_eq_ok_iff {demos : List Demo} {steps : List Step} :
    config.plan selection workspace demos = .ok steps ↔
      (∀ name ∈ selection.demos, ∃ demo ∈ demos, demo.name = name) ∧
        ∃ parts, demos.mapM (config.demoSteps selection workspace) = .ok parts ∧
          steps = config.preSteps ++ parts.flatten := by
  rw [plan]
  cases hunknown : selection.demos.find? fun name => !demos.any (·.name == name) with
  | some name =>
      have hnone : ¬ ∃ demo ∈ demos, demo.name = name := by
        simpa using List.find?_some hunknown
      constructor
      · intro h
        cases h
      · rintro ⟨hknown, -⟩
        exact absurd (hknown name (List.mem_of_find?_eq_some hunknown)) hnone
  | none =>
      have hknown : ∀ name ∈ selection.demos, ∃ demo ∈ demos, demo.name = name := by
        simpa using hunknown
      rw [and_iff_right hknown]
      cases hparts : demos.mapM (config.demoSteps selection workspace) with
      | error error => simp [bind, Except.bind]
      | ok parts => simp [bind, Except.bind, pure, Except.pure, eq_comm]

/-- **A plan is its expansion.** Planning succeeds exactly if every demo asked for exists and the
demos have an expansion, and then the plan is the numbered steps that run first, with their commands
as they are written, and the expansion behind them. In particular each step behind the first ones
builds a demo that is asked for and not left out, for a board of that demo that is asked for. -/
theorem plan_eq_ok_iff_expansion (config : MatrixConfig) (selection : Selection) (workspace : Path)
    (demos : List Demo) (steps : List Step) :
    (config.plan selection workspace demos = .ok steps ↔
      (∀ name ∈ selection.demos, ∃ demo ∈ demos, demo.name = name) ∧
        ∃ builds, steps = config.firstSteps ++ builds ∧
          config.Expansion selection workspace demos builds) ∧
    (config.plan selection workspace demos = .ok steps →
      ∀ step ∈ steps.drop config.pre.length, ∃ demo ∈ demos, config.IsBuilt selection demo ∧
        ∃ board ∈ demo.targets, selection.Allows board ∧
          config.IsStepFor selection workspace demo board step) := by
  have hplan : config.plan selection workspace demos = .ok steps ↔
      (∀ name ∈ selection.demos, ∃ demo ∈ demos, demo.name = name) ∧
        ∃ builds, steps = config.firstSteps ++ builds ∧
          config.Expansion selection workspace demos builds := by
    rw [plan_eq_ok_iff, preSteps_eq]
    simp only [← mapM_demoSteps_iff]
    refine and_congr_right fun _ => ⟨?_, ?_⟩
    · rintro ⟨parts, hparts, rfl⟩
      exact ⟨parts.flatten, rfl, parts, hparts, rfl⟩
    · rintro ⟨_, rfl, parts, hparts, rfl⟩
      exact ⟨parts, hparts, rfl⟩
  refine ⟨hplan, ?_⟩
  intro h
  obtain ⟨-, builds, rfl, hbuilds⟩ := hplan.mp h
  have hlength : config.firstSteps.length = config.pre.length := by
    simp [firstSteps]
  rw [List.drop_left' hlength]
  exact hbuilds.mem

end MatrixConfig

end FirmwareBench
