import FirmwareBench.Pattern.Reader

/-!
# Reading quoted texts

A written pattern is read item by item. How far a reader gets is a relation between places of the
reading, so that what a part of a pattern is read as can be said without what comes behind it. A
quoted text is read as its own characters, whatever they mean when they are not quoted.

## Main definitions

* `Progress.Takes`: reading goes from one place to another.

## Main statements

* `Progress.takes_quote`: a quoted text is read as a literal text.
* `Progress.Takes.readAll`: reading that goes to the end gives what was read.
-/

set_option autoImplicit false

namespace FirmwareBench.Pattern

namespace Progress

/-- From `p` in front of `text`, reading gets to `q` in front of `rest` within the steps that it has
for the characters between them. -/
def Takes (p : Progress) (text : List Char) (q : Progress) (rest : List Char) : Prop :=
  ∃ steps, steps + rest.length ≤ text.length ∧
    ∀ fuel, readAll (steps + fuel) p text = readAll fuel q rest

theorem Takes.refl (p : Progress) (text : List Char) : p.Takes text p text :=
  ⟨0, by omega, fun fuel => by rw [Nat.zero_add]⟩

theorem Takes.trans {p q r : Progress} {text middle rest : List Char}
    (hfirst : p.Takes text q middle) (hsecond : q.Takes middle r rest) : p.Takes text r rest := by
  obtain ⟨steps, hsteps, hread⟩ := hfirst
  obtain ⟨more, hmore, hreadmore⟩ := hsecond
  refine ⟨steps + more, by omega, fun fuel => ?_⟩
  rw [Nat.add_assoc, hread, hreadmore]

/-- One item is read. -/
theorem takes_step {p q : Progress} {c : Char} {rest after : List Char}
    (hflags : p.flags.verbose = false) (hstep : p.step c rest = .ok (q, after))
    (hafter : after.length ≤ rest.length) : p.Takes (c :: rest) q after := by
  refine ⟨1, by simp only [List.length_cons]; omega, fun fuel => ?_⟩
  rw [Nat.add_comm, readAll, Flags.skip_of_not_verbose hflags]
  simp only [hstep]
  rfl

/-- Reading that gets to the end of the text has steps enough. -/
theorem Takes.readAll {p q : Progress} {text : List Char} (h : p.Takes text q []) :
    readAll (text.length + 1) p text = .ok q := by
  obtain ⟨steps, hsteps, hread⟩ := h
  -- one step more than items, to see that nothing is left
  have hfuel : text.length + 1 = steps + (text.length - steps + 1) := by
    simp only [List.length_nil] at hsteps
    omega
  rw [hfuel, hread, Progress.readAll]
  have hskip : q.flags.skip [] = [] := by
    cases hverbose : q.flags.verbose <;> simp [Flags.skip, hverbose, skipComments]
  rw [hskip]

/-! ## Literal characters -/

/-- With some literal characters more. -/
def pushText (p : Progress) (text : List Char) : Progress :=
  text.foldl (fun p c => p.push (.char c) 0) p

@[simp] theorem pushText_cons (p : Progress) (c : Char) (text : List Char) :
    p.pushText (c :: text) = (p.push (.char c) 0).pushText text := rfl

/-- The pieces of a literal text come in front of the earlier ones, last character first. -/
theorem pushText_eq (p : Progress) (text : List Char) :
    p.pushText text =
      { p with branches := { p.branches with
          parts := text.reverse.map (fun c => { pattern := .char c, depth := 0 }) ++
            p.branches.parts } } := by
  induction text generalizing p with
  | nil => rfl
  | cons c text ih => simp [ih, push, Branches.push]

theorem charPattern_default {flags : Flags} (hcase : flags.ignoreCase = false)
    (hunicode : flags.unicode = true) (c : Char) (byte : Bool) :
    charPattern flags c byte = .ok (.char c) := by
  simp [charPattern, hcase, hunicode]

/-- A character without a meaning stands for itself. -/
theorem step_of_not_isMeta {p : Progress} (hcase : p.flags.ignoreCase = false)
    (hunicode : p.flags.unicode = true) {c : Char} (hc : isMeta c = false) (rest : List Char) :
    p.step c rest = .ok (p.push (.char c) 0, rest) := by
  -- each form that begins with a character of its own begins with one that has a meaning
  unfold step
  split
  all_goals first | exact absurd hc (by decide) | rw [charPattern_default hcase hunicode]; rfl

/-- A character with a meaning stands for itself behind a backslash. -/
theorem step_backslash {p : Progress} (hcase : p.flags.ignoreCase = false)
    (hunicode : p.flags.unicode = true) {c : Char} (hc : isMeta c = true) (rest : List Char) :
    p.step '\\' (c :: rest) = .ok (p.push (.char c) 0, rest) := by
  have hescape : readEscape p.flags (c :: rest) = .ok (.char c false, rest) := by
    simp [readEscape, isEscapable, hc]
  simp only [step, hescape]
  show (do let q ← charPattern p.flags c false; _) = _
  rw [charPattern_default hcase hunicode]
  rfl

/-- **Quoting.** A quoted text is read as its own characters. -/
theorem takes_quote {p : Progress} (hverbose : p.flags.verbose = false)
    (hcase : p.flags.ignoreCase = false) (hunicode : p.flags.unicode = true)
    (text rest : List Char) : p.Takes (quote text ++ rest) (p.pushText text) rest := by
  induction text generalizing p with
  | nil => exact Takes.refl p rest
  | cons c text ih =>
      have hfirst : p.Takes (quote (c :: text) ++ rest) (p.push (.char c) 0)
          (quote text ++ rest) := by
        rw [quote_cons]
        cases hc : isMeta c with
        | true =>
            exact takes_step hverbose (step_backslash hcase hunicode hc (quote text ++ rest)) (by simp)
        | false =>
            exact takes_step hverbose (step_of_not_isMeta hcase hunicode hc (quote text ++ rest))
              (by simp)
      exact hfirst.trans (ih hverbose hcase hunicode)

end Progress

end FirmwareBench.Pattern
