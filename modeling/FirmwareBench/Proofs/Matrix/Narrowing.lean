import FirmwareBench.Demo.Catalog
import FirmwareBench.Proofs.Matrix.Expansion

/-!
# Asking for less of a matrix

Demos that are not asked for are passed over before anything is looked up for them, boards that are
not asked for are dropped after that. Neither can make a plan fail that there is without them: the
plan for less is the plan for more, without the steps that are not asked for.

## Main definitions

* `Build`: a step of a plan with the demo and the board that it is for.
* `Selection.Keeps`: a build is asked for.
* `Selection.Narrows`: a selection asks for nothing that another does not ask for.
* `MatrixConfig.IsPlannedBy`: builds that steps come from, and that tell the steps for every
  narrower selection.

## Main statements

* `MatrixConfig.Expansion.exists_isPlannedBy`: the steps of an expansion come from such builds.
* `MatrixConfig.plan_filter_commutes`: filters on demos and boards drop steps from a plan and do
  nothing else.
-/

set_option autoImplicit false

namespace FirmwareBench

/-! ## Selections -/

/-- A step of a plan with the demo and the board that it is for. -/
structure Build where
  demo : Demo
  board : Board
  /-- The step that does it. -/
  step : Step

namespace Selection

/-- A demo is asked for by its name, if demos are asked for at all. -/
def Asks (selection : Selection) (demo : String) : Prop :=
  selection.demos = [] ∨ demo ∈ selection.demos

instance (selection : Selection) : DecidablePred selection.Asks := fun _ =>
  inferInstanceAs (Decidable (_ ∨ _))

/-- A build is asked for: its demo is, and its board is. -/
def Keeps (selection : Selection) (build : Build) : Prop :=
  selection.Asks build.demo.name ∧ selection.Allows build.board

instance (selection : Selection) : DecidablePred selection.Keeps := fun _ =>
  inferInstanceAs (Decidable (_ ∧ _))

/-- A selection asks for the same command as another, and for nothing that the other does not ask
for. -/
structure Narrows (narrow wide : Selection) : Prop where
  command : narrow.command? = wide.command?
  /-- Each demo that is asked for is asked for by the other one. -/
  demos : ∀ demo, narrow.Asks demo → wide.Asks demo
  /-- Each board that is asked for is asked for by the other one. -/
  boards : ∀ board, narrow.Allows board → wide.Allows board

/-- A selection without filters is the widest. -/
theorem narrows_unfiltered (selection : Selection) :
    selection.Narrows { command? := selection.command? } :=
  ⟨rfl, fun _ _ => .inl rfl, fun _ _ => .inl rfl⟩

theorem asks_iff_of_mem_iff {first second : Selection}
    (h : ∀ name, name ∈ first.demos ↔ name ∈ second.demos) (demo : String) :
    first.Asks demo ↔ second.Asks demo := by
  simp only [Asks, List.eq_nil_iff_forall_not_mem, h]

theorem allows_iff_of_mem_iff {first second : Selection}
    (h : ∀ board, board ∈ first.targets ↔ board ∈ second.targets) (board : Board) :
    first.Allows board ↔ second.Allows board := by
  simp only [Allows, List.eq_nil_iff_forall_not_mem, h]

end Selection

/-! ## Builds -/

namespace MatrixConfig

variable {config : MatrixConfig} {selection wide narrow : Selection} {workspace : Path}
  {demo : Demo}

/-- A build of one of the demos for one of its boards, both asked for, with the step that the
configuration gives for them. -/
structure IsBuild (config : MatrixConfig) (selection : Selection) (workspace : Path)
    (demos : List Demo) (build : Build) : Prop where
  known : build.demo ∈ demos
  /-- The demo builds for the board. -/
  supported : build.board ∈ build.demo.targets
  kept : selection.Keeps build
  /-- The step is the one for the demo and the board. -/
  step : config.IsStepFor selection workspace build.demo build.board build.step

/-- The builds of a demo for some boards. -/
def buildsFor (config : MatrixConfig) (workspace : Path) (demo : Demo) (name : String)
    (boards : List Board) : List Build :=
  boards.map fun board =>
    ⟨demo, board, config.buildStep (config.entryFor? demo.name) workspace demo name board⟩

/-- The steps of the builds of a demo are the steps for it. -/
theorem forall₂_isStepFor_buildsFor {name : String}
    (hname : config.IsCommandName selection demo name) {boards : List Board} {own : List Step} :
    List.Forall₂ (config.IsStepFor selection workspace demo) boards own ↔
      (config.buildsFor workspace demo name boards).map Build.step = own := by
  rw [forall₂_isStepFor_iff hname, buildsFor, List.map_map]
  rfl

/-- Among the builds of a demo that is asked for, those are kept whose board is asked for. -/
theorem filter_buildsFor_of_asks (hnarrow : narrow.Narrows wide) (hasked : narrow.Asks demo.name)
    (name : String) (boards : List Board) :
    (config.buildsFor workspace demo name (boards.filter wide.Allows)).filter narrow.Keeps =
      config.buildsFor workspace demo name (boards.filter narrow.Allows) := by
  rw [buildsFor, List.filter_map, List.filter_filter]
  refine congrArg _ (List.filter_congr fun board _ => ?_)
  have hboard := hnarrow.boards board
  simp only [Function.comp_apply, Selection.Keeps, hasked, true_and]
  by_cases hallowed : narrow.Allows board <;> simp [hallowed, hboard]

theorem filter_buildsFor_of_not_asks (hasked : ¬ narrow.Asks demo.name) (name : String)
    (boards : List Board) :
    (config.buildsFor workspace demo name boards).filter narrow.Keeps = [] := by
  simp [buildsFor, Selection.Keeps, hasked]

/-! ## The expansion of a narrower selection -/

/-- Steps for demos come from these builds, and the steps for a narrower selection are those of the
builds that it keeps. -/
structure IsPlannedBy (config : MatrixConfig) (wide : Selection) (workspace : Path)
    (demos : List Demo) (steps : List Step) (builds : List Build) : Prop where
  /-- Each step has its build. -/
  steps_eq : steps = builds.map Build.step
  /-- Each build is one of the demos. -/
  isBuild : ∀ build ∈ builds, config.IsBuild wide workspace demos build
  /-- A narrower selection has the steps of the builds that it keeps. -/
  narrowed : ∀ narrow : Selection, narrow.Narrows wide →
    config.Expansion narrow workspace demos ((builds.filter narrow.Keeps).map Build.step)

theorem IsBuild.cons {demos : List Demo} {build : Build} (first : Demo)
    (h : config.IsBuild selection workspace demos build) :
    config.IsBuild selection workspace (first :: demos) build :=
  ⟨List.mem_cons_of_mem _ h.known, h.supported, h.kept, h.step⟩

/-- Each build of a demo that is built is one of the demos. -/
theorem isBuild_of_mem_buildsFor {demos : List Demo} {name : String} {boards : List Board}
    (hdemo : config.IsBuilt selection demo) (hmem : demo ∈ demos)
    (hname : config.IsCommandName selection demo name) (hboards : config.IsBoards demo boards) :
    ∀ build ∈ config.buildsFor workspace demo name (boards.filter selection.Allows),
      config.IsBuild selection workspace demos build := by
  intro build hbuild
  obtain ⟨board, hboard, rfl⟩ := List.mem_map.mp hbuild
  obtain ⟨hboard, hallowed⟩ := List.mem_filter.mp hboard
  exact ⟨hmem, hboards.mem_targets board hboard, ⟨hdemo.asked, of_decide_eq_true hallowed⟩,
    (isStepFor_iff hname).mpr rfl⟩

/-- **Demo by demo.** The steps of an expansion come from builds of its demos. A demo that is no
longer asked for loses all its builds, another one those for boards that are no longer asked for. -/
theorem Expansion.exists_isPlannedBy {demos : List Demo} {steps : List Step}
    (h : config.Expansion wide workspace demos steps) :
    ∃ builds, config.IsPlannedBy wide workspace demos steps builds := by
  induction h with
  | nil => exact ⟨[], rfl, by simp, fun _ _ => .nil⟩
  | @leftOut demo rest steps hdemo _ ih =>
      obtain ⟨builds, hsteps, hbuilds, hnarrowed⟩ := ih
      refine ⟨builds, hsteps, fun build hbuild => (hbuilds build hbuild).cons demo, ?_⟩
      intro narrow hnarrow
      have hleftOut : ¬ config.IsBuilt narrow demo :=
        fun hbuilt => hdemo ⟨hnarrow.demos _ hbuilt.asked, hbuilt.enabled⟩
      exact .leftOut hleftOut (hnarrowed narrow hnarrow)
  | @built demo rest name boards own steps hdemo hname hboards hown _ ih =>
      obtain ⟨builds, rfl, hbuilds, hnarrowed⟩ := ih
      obtain rfl := (forall₂_isStepFor_buildsFor hname).mp hown
      refine ⟨config.buildsFor workspace demo name (boards.filter wide.Allows) ++ builds,
        List.map_append.symm, ?_, ?_⟩
      · intro build hbuild
        rcases List.mem_append.mp hbuild with hbuild | hbuild
        · exact isBuild_of_mem_buildsFor hdemo List.mem_cons_self hname hboards build hbuild
        · exact (hbuilds build hbuild).cons demo
      · intro narrow hnarrow
        rw [List.filter_append]
        by_cases hasked : narrow.Asks demo.name
        · rw [filter_buildsFor_of_asks hnarrow hasked, List.map_append]
          have hname' : config.IsCommandName narrow demo name := by
            rwa [IsCommandName, hnarrow.command]
          exact .built ⟨hasked, hdemo.enabled⟩ hname' hboards
            ((forall₂_isStepFor_buildsFor hname').mpr rfl) (hnarrowed narrow hnarrow)
        · rw [filter_buildsFor_of_not_asks hasked, List.nil_append]
          exact .leftOut (fun hbuilt => hasked hbuilt.asked) (hnarrowed narrow hnarrow)

/-! ## The plan for a narrower selection -/

/-- A plan comes from builds, and the plan for a narrower selection holds the steps of the builds
that it keeps behind the steps that run first. -/
theorem exists_builds_of_plan {demos : List Demo} {steps : List Step}
    (h : config.plan wide workspace demos = .ok steps) :
    ∃ builds : List Build, steps = config.firstSteps ++ builds.map Build.step ∧
      (∀ build ∈ builds, config.IsBuild wide workspace demos build) ∧
      ∀ narrow : Selection, narrow.Narrows wide →
        (∀ name ∈ narrow.demos, ∃ demo ∈ demos, demo.name = name) →
          config.plan narrow workspace demos =
            .ok (config.firstSteps ++ (builds.filter narrow.Keeps).map Build.step) := by
  obtain ⟨-, parts, hparts, rfl⟩ := plan_eq_ok_iff.mp h
  obtain ⟨builds, hsteps, hbuilds, hnarrowed⟩ :=
    (mapM_demoSteps_iff.mp ⟨parts, hparts, rfl⟩).exists_isPlannedBy
  refine ⟨builds, by rw [preSteps_eq, hsteps], hbuilds, fun narrow hnarrow hknown => ?_⟩
  obtain ⟨fewer, hfewer, hflatten⟩ := mapM_demoSteps_iff.mpr (hnarrowed narrow hnarrow)
  exact plan_eq_ok_iff.mpr ⟨hknown, fewer, hfewer, by rw [hflatten, preSteps_eq]⟩

/-- Selections that name the same demos and boards have the same plan. -/
theorem plan_eq_ok_of_mem_iff {first second : Selection}
    (hcommand : first.command? = second.command?)
    (hdemos : ∀ name, name ∈ first.demos ↔ name ∈ second.demos)
    (hboards : ∀ board, board ∈ first.targets ↔ board ∈ second.targets) {demos : List Demo}
    {steps : List Step} (h : config.plan first workspace demos = .ok steps) :
    config.plan second workspace demos = .ok steps := by
  have hasks := Selection.asks_iff_of_mem_iff hdemos
  have hallows := Selection.allows_iff_of_mem_iff hboards
  obtain ⟨builds, rfl, hbuilds, hnarrowed⟩ := exists_builds_of_plan h
  have hkept : builds.filter second.Keeps = builds := by
    refine List.filter_eq_self.mpr fun build hbuild => decide_eq_true ?_
    obtain ⟨hasked, hallowed⟩ := (hbuilds build hbuild).kept
    exact ⟨(hasks _).mp hasked, (hallows _).mp hallowed⟩
  have hknown : ∀ name ∈ second.demos, ∃ demo ∈ demos, demo.name = name :=
    fun name hname => (plan_eq_ok_iff.mp h).1 name ((hdemos name).mpr hname)
  have hplan := hnarrowed second
    ⟨hcommand.symm, fun demo => (hasks demo).mpr, fun board => (hallows board).mpr⟩ hknown
  rwa [hkept] at hplan

/-- **Filtering commutes with planning.** Each step of a plan without filters, but for the numbered
ones that run first, comes from a build of a demo for one of its boards. With filters that name
known demos, the plan is the same without the steps of the builds whose demo or board is not asked
for. So a narrower selection has a plan if the wider one has, with some of its steps in their order,
and the order in which demos and boards are named and how often do not matter. -/
theorem plan_filter_commutes (config : MatrixConfig) (workspace : Path) (demos : List Demo) :
    (∀ (command? : Option String) (steps : List Step),
      config.plan { command? } workspace demos = .ok steps →
        ∃ builds : List Build, steps = config.firstSteps ++ builds.map Build.step ∧
          (∀ build ∈ builds, config.IsBuild { command? } workspace demos build) ∧
          ∀ selection : Selection, selection.command? = command? →
            (∀ name ∈ selection.demos, ∃ demo ∈ demos, demo.name = name) →
              config.plan selection workspace demos =
                .ok (config.firstSteps ++ (builds.filter selection.Keeps).map Build.step)) ∧
      (∀ (wide narrow : Selection) (steps : List Step), narrow.Narrows wide →
        (∀ name ∈ narrow.demos, ∃ demo ∈ demos, demo.name = name) →
          config.plan wide workspace demos = .ok steps →
            ∃ fewer, config.plan narrow workspace demos = .ok fewer ∧ fewer.Sublist steps) ∧
      ∀ (first second : Selection) (steps : List Step), first.command? = second.command? →
        (∀ name, name ∈ first.demos ↔ name ∈ second.demos) →
          (∀ board, board ∈ first.targets ↔ board ∈ second.targets) →
            config.plan first workspace demos = .ok steps →
              config.plan second workspace demos = .ok steps := by
  refine ⟨?_, ?_, ?_⟩
  · intro command? steps h
    obtain ⟨builds, hsteps, hbuilds, hnarrowed⟩ := exists_builds_of_plan h
    refine ⟨builds, hsteps, hbuilds, ?_⟩
    rintro selection rfl
    exact hnarrowed selection selection.narrows_unfiltered
  · intro wide narrow steps hnarrow hknown h
    obtain ⟨builds, rfl, -, hnarrowed⟩ := exists_builds_of_plan h
    exact ⟨_, hnarrowed narrow hnarrow hknown,
      (List.Sublist.refl _).append (List.filter_sublist.map Build.step)⟩
  · intro first second steps hcommand hdemos hboards h
    exact plan_eq_ok_of_mem_iff hcommand hdemos hboards h

/-- A command that runs first, and a demo that is built for two of its boards. -/
def twoBoards : MatrixConfig where
  pre := ["scons --version"]
  entries := [{ demo := "internal_timers", targets := ["el2", "eh1"] }]

/-- Of the two builds one is left if its board is asked for, also if it is asked for twice. -/
theorem plan_filter_commutes_twoBoards :
    let command? := some "make {demo}"
    let workspace := Path.ofString "/ws"
    let demos := [Demo.internalTimers]
    let selection : Selection := { command?, demos := ["internal_timers"], targets := [.el2] }
    let repeated : Selection := { selection with targets := [.el2, .el2] }
    let first : Step := ⟨"pre:1", "scons --version"⟩
    let el2 : Step := ⟨"internal_timers [el2] (make {demo})", "make internal_timers"⟩
    let eh1 : Step := ⟨"internal_timers [eh1] (make {demo})", "make internal_timers"⟩
    twoBoards.plan { command? } workspace demos = .ok [first, el2, eh1] ∧
      (∀ name ∈ selection.demos, ∃ demo ∈ demos, demo.name = name) ∧
      (∃ builds : List Build, [first, el2, eh1] = twoBoards.firstSteps ++ builds.map Build.step ∧
        twoBoards.plan selection workspace demos =
          .ok (twoBoards.firstSteps ++ (builds.filter selection.Keeps).map Build.step)) ∧
      (∃ fewer, twoBoards.plan selection workspace demos = .ok fewer ∧
        fewer.Sublist [first, el2, eh1]) ∧
      twoBoards.plan selection workspace demos = .ok [first, el2] ∧
      twoBoards.plan repeated workspace demos = .ok [first, el2] := by
  intro command? workspace demos selection repeated first el2 eh1
  have hplan : twoBoards.plan { command? } workspace demos = .ok [first, el2, eh1] := by
    decide +kernel
  have hselected : twoBoards.plan selection workspace demos = .ok [first, el2] := by decide +kernel
  have hknown : ∀ name ∈ selection.demos, ∃ demo ∈ demos, demo.name = name := by decide
  have hrepeated : ∀ board, board ∈ selection.targets ↔ board ∈ repeated.targets := by
    simp [selection, repeated]
  obtain ⟨hfiltered, hnarrowed, hreordered⟩ := plan_filter_commutes twoBoards workspace demos
  obtain ⟨builds, hsteps, -, hfiltered⟩ := hfiltered command? _ hplan
  exact ⟨hplan, hknown, ⟨builds, hsteps, hfiltered selection rfl hknown⟩,
    hnarrowed _ selection _ selection.narrows_unfiltered hknown hplan, hselected,
    hreordered selection repeated _ rfl (fun _ => .rfl) hrepeated hselected⟩

end MatrixConfig

end FirmwareBench
