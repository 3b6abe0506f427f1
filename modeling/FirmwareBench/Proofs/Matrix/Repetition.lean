import FirmwareBench.Proofs.Matrix.Narrowing
import Mathlib.Data.List.Count
import Mathlib.Data.List.Nodup

/-!
# Boards that are named twice

A demo is built for the boards that its entry names, or for its own if the entry names none. What
is asked for is only looked up, so naming a demo or a board there again changes nothing, and neither
do further entries for a demo. The boards of an entry are gone through, though: a board that the
entry names twice is built for twice.

## Main definitions

* `MatrixConfig.timesNamed`: how often a board is named for a demo.

## Main statements

* `MatrixConfig.plan_builds_twice`: a plan may build a demo twice for a board.
* `MatrixConfig.plan_builds_as_named`: a plan builds a demo for a board as often as the board is
  named, so once if no entry names a board twice.
-/

set_option autoImplicit false

namespace FirmwareBench

theorem Board.name_injective : Function.Injective Board.name := by
  intro first second h
  cases first <;> cases second <;> first | rfl | exact absurd h (by decide)

/-- The demo and the board that a step is for. -/
def Build.pair (build : Build) : Demo × Board := (build.demo, build.board)

namespace MatrixConfig

/-- How often a board is named for a demo: by the entry of the demo if that names boards, and else
by the demo itself. -/
def timesNamed (config : MatrixConfig) (demo : Demo) (board : Board) : Nat :=
  match config.entryNaming? demo with
  | some entry =>
    if entry.targets = [] then demo.targets.count board else entry.targets.count board.name
  | none => demo.targets.count board

variable {config : MatrixConfig} {selection : Selection} {workspace : Path} {demo : Demo}

theorem timesNamed_of_targets_ne_nil {entry : MatrixEntry}
    (hentry : config.entryNaming? demo = some entry) (htargets : entry.targets ≠ [])
    (board : Board) : config.timesNamed demo board = entry.targets.count board.name := by
  simp only [timesNamed, hentry, if_neg htargets]

theorem timesNamed_of_targets_eq_nil
    (hentry : ∀ entry, config.entryNaming? demo = some entry → entry.targets = [])
    (board : Board) : config.timesNamed demo board = demo.targets.count board := by
  cases hfound : config.entryNaming? demo with
  | none => simp only [timesNamed, hfound]
  | some entry => simp only [timesNamed, hfound, if_pos (hentry entry hfound)]

/-! ## As often as named -/

/-- The boards a demo is to be built for hold each board as often as it is named. -/
theorem IsBoards.count_eq {boards : List Board} (h : config.IsBoards demo boards) (board : Board) :
    boards.count board = config.timesNamed demo board := by
  cases h with
  | named hentry htargets hnames _ =>
      rw [timesNamed_of_targets_ne_nil hentry htargets, ← hnames,
        List.count_map_of_injective _ _ Board.name_injective]
  | own hentry => rw [timesNamed_of_targets_eq_nil hentry]

/-- The builds of a demo hold each of its boards as often as the list that they are for. -/
theorem count_pair_buildsFor (workspace : Path) (name : String) (boards : List Board)
    (board : Board) :
    ((config.buildsFor workspace demo name boards).map Build.pair).count (demo, board) =
      boards.count board := by
  have hpairs : (config.buildsFor workspace demo name boards).map Build.pair =
      boards.map (Prod.mk demo) := by
    rw [buildsFor, List.map_map]
    rfl
  rw [hpairs, List.count_map_of_injective _ _ fun _ _ h => congrArg Prod.snd h]

theorem count_filter_allows (boards : List Board) (board : Board) :
    (boards.filter selection.Allows).count board =
      if selection.Allows board then boards.count board else 0 := by
  by_cases hallowed : selection.Allows board
  · rw [if_pos hallowed]
    exact List.count_filter (by simpa using hallowed)
  · rw [if_neg hallowed]
    exact List.count_eq_zero_of_not_mem fun hmem =>
      hallowed (of_decide_eq_true (List.mem_filter.mp hmem).2)

/-- A demo that is not among those that builds are for has no build. -/
theorem count_pair_eq_zero {demos : List Demo} {builds : List Build}
    (hbuilds : ∀ build ∈ builds, config.IsBuild selection workspace demos build)
    (hdemo : demo ∉ demos) (board : Board) : (builds.map Build.pair).count (demo, board) = 0 := by
  refine List.count_eq_zero_of_not_mem fun hmem => hdemo ?_
  obtain ⟨build, hbuild, hpair⟩ := List.mem_map.mp hmem
  obtain rfl : build.demo = demo := congrArg Prod.fst hpair
  exact (hbuilds build hbuild).known

/-- A demo that is built is built for each board that is asked for, as often as it is named. -/
def IsBuiltAsNamed (config : MatrixConfig) (selection : Selection) (demo : Demo)
    (builds : List Build) : Prop :=
  ∀ board, (config.IsBuilt selection demo ∧ selection.Allows board →
      (builds.map Build.pair).count (demo, board) = config.timesNamed demo board) ∧
    (¬ (config.IsBuilt selection demo ∧ selection.Allows board) →
      (builds.map Build.pair).count (demo, board) = 0)

/-- **Demo by demo.** The steps of an expansion come from builds, which are as many for each demo
and each board as the board is named. -/
theorem Expansion.exists_builds_as_named {demos : List Demo} {steps : List Step}
    (h : config.Expansion selection workspace demos steps) (hnames : (demos.map Demo.name).Nodup) :
    ∃ builds : List Build, steps = builds.map Build.step ∧
      (∀ build ∈ builds, config.IsBuild selection workspace demos build) ∧
      ∀ demo ∈ demos, config.IsBuiltAsNamed selection demo builds := by
  induction h with
  | nil => exact ⟨[], rfl, by simp, by simp⟩
  | @leftOut first rest steps hleftOut _ ih =>
      obtain ⟨hfirst, hrest⟩ := List.nodup_cons.mp hnames
      obtain ⟨builds, hsteps, hbuilds, hcounts⟩ := ih hrest
      refine ⟨builds, hsteps, fun build hbuild => (hbuilds build hbuild).cons first, ?_⟩
      intro demo hdemo
      rcases List.mem_cons.mp hdemo with rfl | hdemo
      · have hnew : demo ∉ rest := fun hmem => hfirst (List.mem_map_of_mem hmem)
        exact fun board => ⟨fun hboth => absurd hboth.1 hleftOut,
          fun _ => count_pair_eq_zero hbuilds hnew board⟩
      · exact hcounts demo hdemo
  | @built first rest name boards own steps hbuilt hname hboards hown _ ih =>
      obtain ⟨hfirst, hrest⟩ := List.nodup_cons.mp hnames
      obtain ⟨builds, rfl, hbuilds, hcounts⟩ := ih hrest
      obtain rfl := (forall₂_isStepFor_buildsFor hname).mp hown
      have hnew : first ∉ rest := fun hmem => hfirst (List.mem_map_of_mem hmem)
      have hfirstBuilds : ∀ build ∈ config.buildsFor workspace first name
          (boards.filter selection.Allows), config.IsBuild selection workspace [first] build :=
        isBuild_of_mem_buildsFor hbuilt List.mem_cons_self hname hboards
      refine ⟨config.buildsFor workspace first name (boards.filter selection.Allows) ++ builds,
        List.map_append.symm, ?_, ?_⟩
      · intro build hbuild
        rcases List.mem_append.mp hbuild with hbuild | hbuild
        · exact isBuild_of_mem_buildsFor hbuilt List.mem_cons_self hname hboards build hbuild
        · exact (hbuilds build hbuild).cons first
      · intro demo hdemo board
        rw [List.map_append, List.count_append]
        rcases List.mem_cons.mp hdemo with rfl | hlater
        · -- the later demos are other ones, so all builds of this one are here
          rw [count_pair_eq_zero hbuilds hnew, count_pair_buildsFor, count_filter_allows,
            hboards.count_eq, Nat.add_zero]
          exact ⟨fun hboth => if_pos hboth.2, fun hnot => if_neg fun h => hnot ⟨hbuilt, h⟩⟩
        · have hother : demo ∉ [first] := by
            rw [List.mem_singleton]
            rintro rfl
            exact hnew hlater
          rw [count_pair_eq_zero hfirstBuilds hother, Nat.zero_add]
          exact hcounts demo hlater board

/-! ## At most once -/

/-- Where no demo lists a board twice, builds repeat themselves exactly if an entry does. -/
theorem nodup_pairs_iff {demos : List Demo} {builds : List Build}
    (htargets : ∀ demo ∈ demos, demo.targets.Nodup)
    (hbuilds : ∀ build ∈ builds, config.IsBuild selection workspace demos build)
    (hcounts : ∀ demo ∈ demos, config.IsBuiltAsNamed selection demo builds) :
    (builds.map Build.pair).Nodup ↔
      ∀ demo ∈ demos, config.IsBuilt selection demo →
        ∀ entry, config.entryNaming? demo = some entry →
          ∀ board, selection.Allows board → entry.targets.count board.name ≤ 1 := by
  rw [List.nodup_iff_count_le_one]
  constructor
  · intro h demo hdemo hbuilt entry hentry board hallowed
    by_cases hnil : entry.targets = []
    · simp [hnil]
    · rw [← timesNamed_of_targets_ne_nil hentry hnil,
        ← (hcounts demo hdemo board).1 ⟨hbuilt, hallowed⟩]
      exact h (demo, board)
  · rintro h ⟨demo, board⟩
    by_cases hdemo : demo ∈ demos
    · by_cases hboth : config.IsBuilt selection demo ∧ selection.Allows board
      · rw [(hcounts demo hdemo board).1 hboth]
        by_cases hentry : ∀ entry, config.entryNaming? demo = some entry → entry.targets = []
        · rw [timesNamed_of_targets_eq_nil hentry]
          exact List.nodup_iff_count_le_one.mp (htargets demo hdemo) board
        · push Not at hentry
          obtain ⟨entry, hentry, hnil⟩ := hentry
          rw [timesNamed_of_targets_ne_nil hentry hnil]
          exact h demo hdemo hboth.1 entry hentry board hboth.2
      · rw [(hcounts demo hdemo board).2 hboth]
        exact Nat.zero_le 1
    · rw [count_pair_eq_zero hbuilds hdemo]
      exact Nat.zero_le 1

/-- An entry that names a board twice. -/
def namedTwice : MatrixConfig where
  entries := [{ demo := "internal_timers", targets := ["el2", "el2"] }]

/-- **A plan may build a demo twice for a board**, though no two demos have the same name and none
lists a board twice: its steps cannot be told to be for different demos or boards. -/
theorem plan_builds_twice :
    ¬ ∀ (config : MatrixConfig) (selection : Selection) (workspace : Path) (demos : List Demo)
        (steps : List Step), (demos.map Demo.name).Nodup → (∀ demo ∈ demos, demo.targets.Nodup) →
      config.plan selection workspace demos = .ok steps →
        ∃ builds : List Build, steps = config.firstSteps ++ builds.map Build.step ∧
          (∀ build ∈ builds, config.IsBuild selection workspace demos build) ∧
          (builds.map Build.pair).Nodup := by
  intro h
  let selection : Selection := { command? := some "build" }
  let demos := [Demo.internalTimers]
  let step : Step := ⟨"internal_timers [el2] (build)", "build"⟩
  have hplan : namedTwice.plan selection (.ofString "/ws") demos = .ok [step, step] := by
    decide +kernel
  obtain ⟨builds, hsteps, hbuilds, hnodup⟩ := h _ _ _ _ _ (by decide) (by decide) hplan
  have hmap : builds.map Build.step = List.replicate 2 step := hsteps.symm
  have hlength : builds.length = 2 := by simpa using congrArg List.length hmap
  -- the name of a step tells which demo it is for and which board
  have hpair : ∀ build ∈ builds, build.pair = (Demo.internalTimers, .el2) := by
    rintro ⟨demo, board, own⟩ hbuild
    obtain rfl : own = step :=
      List.eq_of_mem_replicate (hmap ▸ List.mem_map_of_mem (f := Build.step) hbuild)
    obtain ⟨hknown, -, -, name, template, toolchain, hname, -, -, hstep, -⟩ := hbuilds _ hbuild
    obtain rfl : demo = Demo.internalTimers := List.mem_singleton.mp hknown
    obtain rfl : "build" = name := Option.some.inj hname
    cases board <;> first | rfl | exact absurd hstep (by decide)
  have hpairs : builds.map Build.pair = List.replicate 2 (Demo.internalTimers, .el2) := by
    rw [← hlength]
    exact List.map_eq_replicate_iff.mpr hpair
  rw [hpairs, List.nodup_replicate] at hnodup
  exact absurd hnodup (by decide)

/-- **A plan builds as often as boards are named.** Where no two demos have the same name and none
lists a board twice, the steps of a plan behind the first ones come from builds, which are as many
for each demo that is built and each board that is asked for as the board is named for the demo. So
no demo is built twice for a board exactly if no entry of a demo that is built names a board twice
that is asked for. -/
theorem plan_builds_as_named (config : MatrixConfig) (selection : Selection) (workspace : Path)
    (demos : List Demo) (steps : List Step) (hnames : (demos.map Demo.name).Nodup)
    (htargets : ∀ demo ∈ demos, demo.targets.Nodup)
    (hplan : config.plan selection workspace demos = .ok steps) :
    ∃ builds : List Build, steps = config.firstSteps ++ builds.map Build.step ∧
      (∀ build ∈ builds, config.IsBuild selection workspace demos build) ∧
      (∀ demo ∈ demos, config.IsBuiltAsNamed selection demo builds) ∧
      ((builds.map Build.pair).Nodup ↔
        ∀ demo ∈ demos, config.IsBuilt selection demo →
          ∀ entry, config.entryNaming? demo = some entry →
            ∀ board, selection.Allows board → entry.targets.count board.name ≤ 1) := by
  obtain ⟨-, parts, hparts, rfl⟩ := plan_eq_ok_iff.mp hplan
  obtain ⟨builds, hsteps, hbuilds, hcounts⟩ :=
    (mapM_demoSteps_iff.mp ⟨parts, hparts, rfl⟩).exists_builds_as_named hnames
  exact ⟨builds, by rw [preSteps_eq, hsteps], hbuilds, hcounts,
    nodup_pairs_iff htargets hbuilds hcounts⟩

/-- The first entry of the demo counts, and the board that it names twice is not asked for. -/
theorem plan_builds_as_named_eh1 :
    let config : MatrixConfig :=
      { entries := [{ demo := "internal_timers", targets := ["el2", "eh1", "el2"] },
        { demo := "internal_timers", targets := ["eh1", "eh1"] }] }
    let selection : Selection :=
      { command? := some "build", demos := ["internal_timers", "internal_timers"],
        targets := [.eh1, .eh1] }
    let steps : List Step := [⟨"internal_timers [eh1] (build)", "build"⟩]
    (Demo.all.map Demo.name).Nodup ∧ (∀ demo ∈ Demo.all, demo.targets.Nodup) ∧
      config.plan selection (.ofString "/ws") Demo.all = .ok steps ∧
      ∃ builds : List Build, steps = builds.map Build.step ∧ (builds.map Build.pair).Nodup := by
  intro config selection steps
  have hnames : (Demo.all.map Demo.name).Nodup := by decide
  have htargets : ∀ demo ∈ Demo.all, demo.targets.Nodup := by decide
  have hplan : config.plan selection (.ofString "/ws") Demo.all = .ok steps := by decide +kernel
  obtain ⟨builds, hsteps, -, -, hnodup⟩ :=
    plan_builds_as_named config selection (.ofString "/ws") Demo.all steps hnames htargets hplan
  refine ⟨hnames, htargets, hplan, builds, hsteps, hnodup.mpr ?_⟩
  intro demo _ hbuilt entry hentry board hallowed
  have hname : demo.name = "internal_timers" := by simpa [selection] using hbuilt.asked
  obtain rfl : board = .eh1 := by simpa [selection, Selection.Allows] using hallowed
  obtain rfl : _ = entry := by simpa [entryNaming?, config, hname] using hentry
  decide

end MatrixConfig

end FirmwareBench
