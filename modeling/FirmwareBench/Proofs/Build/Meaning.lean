import FirmwareBench.Proofs.Build.Grammar
import FirmwareBench.Proofs.Text.Collapse

/-!
# The meaning of templates

What a template means in an environment, without a limit on the depth: its tokens are put together,
and a defined reference stands for the meaning of its displayed value. Expansion counts levels; when
it gives a result, that result is the meaning with its blanks collapsed.

## Main definitions

* `Env.Joins`: what a list of tokens means.
* `Env.Means`: what a text means.

## Main statements

* `Env.Joins.unique`: there is at most one meaning.
* `Env.joins_append_iff`: tokens that stand side by side do not touch each other's meanings.
* `Env.expand_ok_means`: the result of an expansion is the meaning of the template.
-/

set_option autoImplicit false

namespace FirmwareBench

namespace Env

/-- The text that tokens stand for. A reference stands for a text of its own: the text around it is
not part of what is read when it is expanded. -/
inductive Joins (env : Env) : List Token → List Char → Prop
  | nil : Joins env [] []
  | text {c : Char} {rest : List Token} {out : List Char} (hrest : Joins env rest out) :
      Joins env (.text c :: rest) (c :: out)
  /-- An undefined reference stands for nothing. -/
  | undefined {name : String} {rest : List Token} {out : List Char}
      (hname : env.displayed? name = none) (hrest : Joins env rest out) :
      Joins env (.reference name :: rest) out
  /-- A defined reference stands for what its displayed value means. -/
  | defined {name value : String} {tokens rest : List Token} {inner out : List Char}
      (hname : env.displayed? name = some value) (hreads : Reads value.toList tokens)
      (hinner : Joins env tokens inner) (hrest : Joins env rest out) :
      Joins env (.reference name :: rest) (inner ++ out)

/-- The text means `meaning`. -/
def Means (env : Env) (text meaning : List Char) : Prop :=
  ∃ tokens, Reads text tokens ∧ env.Joins tokens meaning

variable {env : Env}

theorem means_iff {text meaning : List Char} :
    env.Means text meaning ↔ env.Joins (scan text) meaning := by
  simp only [Means, reads_iff, exists_eq_left]

/-! ## The meaning is unique -/

theorem Joins.unique {tokens : List Token} {first second : List Char}
    (hfirst : env.Joins tokens first) (hsecond : env.Joins tokens second) : first = second := by
  induction hfirst generalizing second with
  | nil =>
      cases hsecond
      rfl
  | text _ ih =>
      cases hsecond with
      | text hrest => rw [ih hrest]
  | undefined hname _ ih =>
      cases hsecond with
      | undefined _ hrest => exact ih hrest
      | defined hname' => simp [hname] at hname'
  | defined hname hreads _ _ ihinner ihrest =>
      cases hsecond with
      | undefined hname' => simp [hname] at hname'
      | defined hname' hreads' hinner hrest =>
          -- both values are the displayed one, so they read as the same tokens
          rw [hname, Option.some.injEq] at hname'
          subst hname'
          rw [reads_iff.mp hreads', ← reads_iff.mp hreads] at hinner
          rw [ihinner hinner, ihrest hrest]

theorem Means.unique {text first second : List Char} (hfirst : env.Means text first)
    (hsecond : env.Means text second) : first = second :=
  (means_iff.mp hfirst).unique (means_iff.mp hsecond)

/-! ## Tokens side by side -/

/-- The meaning of tokens side by side is cut where the tokens are. -/
theorem joins_append_iff {front back : List Token} {out : List Char} :
    env.Joins (front ++ back) out ↔
      ∃ before after, out = before ++ after ∧ env.Joins front before ∧ env.Joins back after := by
  constructor
  · intro h
    induction front generalizing out with
    | nil => exact ⟨[], out, rfl, .nil, h⟩
    | cons token front ih =>
        cases h with
        | text hrest =>
            obtain ⟨before, after, rfl, hbefore, hafter⟩ := ih hrest
            exact ⟨_, after, rfl, .text hbefore, hafter⟩
        | undefined hname hrest =>
            obtain ⟨before, after, rfl, hbefore, hafter⟩ := ih hrest
            exact ⟨before, after, rfl, .undefined hname hbefore, hafter⟩
        | defined hname hreads hinner hrest =>
            obtain ⟨before, after, rfl, hbefore, hafter⟩ := ih hrest
            exact ⟨_, after, (List.append_assoc ..).symm, .defined hname hreads hinner hbefore,
              hafter⟩
  · rintro ⟨before, after, rfl, hbefore, hafter⟩
    induction hbefore with
    | nil => exact hafter
    | text _ ih => exact .text ih
    | undefined hname _ ih => exact .undefined hname ih
    | defined hname hreads hinner _ _ ih =>
        rw [List.append_assoc]
        exact .defined hname hreads hinner ih

/-- What a defined reference contributes is the meaning of its displayed value alone. -/
theorem joins_around_reference {front back : List Token} {name value : String} {out : List Char}
    (hname : env.displayed? name = some value)
    (h : env.Joins (front ++ .reference name :: back) out) :
    ∃ before inner after, out = before ++ inner ++ after ∧ env.Joins front before ∧
      env.Means value.toList inner ∧ env.Joins back after := by
  obtain ⟨before, rest, rfl, hbefore, hrest⟩ := joins_append_iff.mp h
  cases hrest with
  | undefined hname' => simp [hname] at hname'
  | defined hname' hreads hinner hafter =>
      rw [hname, Option.some.injEq] at hname'
      subst hname'
      exact ⟨before, _, _, (List.append_assoc ..).symm, hbefore, ⟨_, hreads, hinner⟩, hafter⟩

/-! ## Expansion finds the meaning -/

/-- Putting tokens together gives what they mean if the displayed values are expanded to what they
mean. -/
theorem joins_of_assemble {inner : List Char → Except BuildError (List Char)}
    (hinner : ∀ text out, inner text = .ok out → env.Means text out) {tokens : List Token}
    {out : List Char} (h : assemble env inner tokens = .ok out) : env.Joins tokens out := by
  induction tokens generalizing out with
  | nil =>
      obtain rfl : out = [] := by simpa [eq_comm] using h
      exact .nil
  | cons token rest ih =>
      cases token with
      | text c =>
          obtain ⟨later, hlater, rfl⟩ := assemble_text_eq_ok_iff.mp h
          exact .text (ih hlater)
      | reference name =>
          cases hname : env.displayed? name with
          | none =>
              rw [assemble_undefined hname] at h
              exact .undefined hname (ih h)
          | some value =>
              obtain ⟨expanded, later, hexpanded, hlater, rfl⟩ :=
                (assemble_defined_eq_ok_iff hname).mp h
              obtain ⟨tokens, hreads, hjoins⟩ := hinner value.toList expanded hexpanded
              exact .defined hname hreads hjoins (ih hlater)

/-- Whatever the number of levels, an expanded text is what the text means. -/
theorem means_of_expandWithin {root : String} {levels : Nat} {text out : List Char}
    (h : expandWithin env root levels text = .ok out) : env.Means text out := by
  induction levels generalizing text out with
  | zero => simp [expandWithin] at h
  | succ levels ih =>
      rw [expandWithin] at h
      exact means_iff.mpr (joins_of_assemble (fun _ _ => ih) h)

/-- **Soundness of expansion.** The result of an expansion is the only meaning of the template, with
each run of blanks replaced by one space and the ends trimmed; and wherever the template has a
defined reference, its part of that meaning is the meaning of the displayed value, read on its own. -/
theorem expand_ok_means (env : Env) (template result : String)
    (h : env.expand template = .ok result) :
    ∃ meaning, env.Means template.toList meaning ∧
      (∀ other, env.Means template.toList other → other = meaning) ∧
      result = String.ofList (Text.trim (Text.squeeze meaning)) ∧
      ∀ front name value back, Reads template.toList (front ++ .reference name :: back) →
        env.displayed? name = some value →
          ∃ before inner after, meaning = before ++ inner ++ after ∧ env.Joins front before ∧
            env.Means value.toList inner ∧ env.Joins back after := by
  obtain ⟨meaning, hexpand, rfl⟩ := expand_eq_ok_iff.mp h
  have hmeans : env.Means template.toList meaning := means_of_expandWithin hexpand
  refine ⟨meaning, hmeans, ?_, ?_, ?_⟩
  · intro other hother
    exact hother.unique hmeans
  · rw [Text.collapse_eq_trim_squeeze]
  · intro front name value back hreads hname
    have hjoins := means_iff.mp hmeans
    rw [← reads_iff.mp hreads] at hjoins
    exact joins_around_reference hname hjoins

/-- Values that refer to others, hold blanks and leave a brace open. -/
def nestedEnv : Env :=
  (((empty.set "DIR" (.text "/opt \t x")).set "FLAGS" (.items ["-Os", "$DIR"])).set "LEVEL"
    (.number 2)).set "OPEN" (.text "<$DIR$\x7bFLAGS $$")

theorem expand_ok_means_nested :
    nestedEnv.expand "a$FLAGS-$$5\x7b$\x7bLEVEL\x7d$NONE $OPEN$" =
        .ok "a-Os /opt x-$5\x7b2 </opt x$\x7bFLAGS $$$" ∧
      ∃ meaning, nestedEnv.Means "a$FLAGS-$$5\x7b$\x7bLEVEL\x7d$NONE $OPEN$".toList meaning ∧
        "a-Os /opt x-$5\x7b2 </opt x$\x7bFLAGS $$$" =
          String.ofList (Text.trim (Text.squeeze meaning)) := by
  refine ⟨by rfl, ?_⟩
  obtain ⟨meaning, hmeans, -, hresult, -⟩ := expand_ok_means nestedEnv _ _
    (show nestedEnv.expand "a$FLAGS-$$5\x7b$\x7bLEVEL\x7d$NONE $OPEN$" =
      .ok "a-Os /opt x-$5\x7b2 </opt x$\x7bFLAGS $$$" by rfl)
  exact ⟨meaning, hmeans, hresult⟩

end Env

end FirmwareBench
