import FirmwareBench.Proofs.Build.Escaping
import Mathlib.Data.List.Chain

/-!
# The normal form of expanded text

Expanded text is in normal form: its words stand side by side with one space between them, whatever
blanks the values brought in. Collapsing does nothing to a text in normal form, and where no `$` is
left there is nothing to expand, so such a text can be expanded again and again, in any environment.

## Main definitions

* `Text.IsNormal`: a text has no blanks but single spaces between its words.

## Main statements

* `Text.collapse_eq_self_iff`: the texts in normal form are those that collapsing does not change.
* `Env.expand_isNormal`: what comes out of an expansion is in normal form, and stays as it is.
-/

set_option autoImplicit false

namespace FirmwareBench

namespace Text

/-- A text has no blanks but single spaces between its words. -/
structure IsNormal (text : List Char) : Prop where
  head : ∀ c ∈ text.head?, isBlank c = false
  last : ∀ c ∈ text.getLast?, isBlank c = false
  space : ∀ c ∈ text, isBlank c = true → c = ' '
  /-- No two blanks stand side by side. -/
  single : text.IsChain fun c d => ¬ (isBlank c = true ∧ isBlank d = true)

variable {text : List Char} {c : Char}

/-! ## Collapsed texts -/

theorem isNormal_nil : IsNormal [] :=
  ⟨by simp, by simp, by simp, .nil⟩

theorem isNormal_singleton (hc : isBlank c = false) : IsNormal [c] :=
  ⟨by simpa using hc, by simpa using hc, by simp [hc], .singleton c⟩

/-- A character may join the first word. -/
theorem IsNormal.cons (h : IsNormal text) (hne : text ≠ []) (hc : isBlank c = false) :
    IsNormal (c :: text) := by
  refine ⟨by simpa using hc, ?_, ?_, ?_⟩
  · rw [List.getLast?_cons_of_ne_nil hne]
    exact h.last
  · simpa [hc] using h.space
  · rw [List.isChain_cons]
    exact ⟨fun d _ hboth => by simp [hc] at hboth, h.single⟩

/-- A character with a space behind it may be a word in front of the first one. -/
theorem IsNormal.cons_space (h : IsNormal text) (hne : text ≠ []) (hc : isBlank c = false) :
    IsNormal (c :: ' ' :: text) := by
  refine ⟨by simpa using hc, ?_, ?_, ?_⟩
  · rw [List.getLast?_cons_cons, List.getLast?_cons_of_ne_nil hne]
    exact h.last
  · intro d hd hblank
    rcases List.mem_cons.mp hd with rfl | hd
    · simp [hc] at hblank
    rcases List.mem_cons.mp hd with rfl | hd
    · rfl
    · exact h.space d hd hblank
  · rw [List.isChain_cons, List.isChain_cons]
    refine ⟨fun d _ hboth => by simp [hc] at hboth, ?_, h.single⟩
    rintro d hd ⟨-, hblank⟩
    simp [h.head d hd] at hblank

/-- **Collapsing brings a text into normal form.** -/
theorem isNormal_collapse (text : List Char) : IsNormal (collapse text) := by
  induction text with
  | nil => exact isNormal_nil
  | cons c rest ih =>
      cases hc : isBlank c with
      | true => rwa [collapse_cons_of_isBlank hc]
      | false =>
          cases rest with
          | nil =>
              rw [collapse_singleton hc]
              exact isNormal_singleton hc
          | cons d rest =>
              cases hd : isBlank d with
              | true =>
                  rw [collapse_cons_of_isBlank hd] at ih
                  rw [collapse_cons_blank hc hd]
                  by_cases hnil : collapse rest = []
                  · rw [if_pos hnil]
                    exact isNormal_singleton hc
                  · rw [if_neg hnil]
                    exact ih.cons_space hnil hc
              | false =>
                  rw [collapse_cons_cons hc hd]
                  exact ih.cons (collapse_cons_ne_nil hd rest) hc

/-! ## Texts that are collapsed already -/

theorem squeeze_eq_self (hspace : ∀ c ∈ text, isBlank c = true → c = ' ')
    (hsingle : text.IsChain fun c d => ¬ (isBlank c = true ∧ isBlank d = true)) :
    squeeze text = text := by
  induction text with
  | nil => rfl
  | cons c rest ih =>
      obtain ⟨hc, hrest⟩ := List.forall_mem_cons.mp hspace
      obtain ⟨hnext, hchain⟩ := List.isChain_cons.mp hsingle
      have hself : squeeze rest = rest := ih hrest hchain
      cases hblank : isBlank c with
      | true =>
          have hend : ¬ rest.head?.any isBlank = true := by
            rw [Option.any_eq_true_iff_get]
            rintro ⟨hsome, hd⟩
            exact hnext _ (Option.get_mem hsome) ⟨hblank, hd⟩
          rw [squeeze, if_pos hblank, if_neg hend, hself, hc hblank]
      | false => rw [squeeze, if_neg (by simp [hblank]), hself]

/-- **The texts in normal form** are those that collapsing does not change. -/
theorem collapse_eq_self_iff : collapse text = text ↔ IsNormal text := by
  constructor
  · intro h
    rw [← h]
    exact isNormal_collapse text
  · intro h
    have htrim : trim ([] ++ text ++ []) = text := trim_append (by simp) (by simp) h.head h.last
    calc collapse text = trim (squeeze text) := collapse_eq_trim_squeeze text
      _ = trim text := by rw [squeeze_eq_self h.space h.single]
      _ = text := by simpa using htrim

end Text

/-! ## Expanded texts -/

theorem escape_eq_self {text : List Char} (h : '$' ∉ text) : escape text = text := by
  induction text with
  | nil => rfl
  | cons c rest ih =>
      obtain ⟨hc, hrest⟩ : ¬ c = '$' ∧ '$' ∉ rest := by simpa [eq_comm] using h
      rw [escape_cons_of_ne hc, ih hrest]

namespace Env

/-- A text in normal form without `$` expands to itself. -/
theorem expand_eq_self {text : String} (hnormal : Text.IsNormal text.toList)
    (hplain : '$' ∉ text.toList) (env : Env) : env.expand text = .ok text := by
  have hexpand : expandWithin env text (maxDepth + 1) text.toList = .ok text.toList := by
    simpa only [escape_eq_self hplain] using expandWithin_escape env text maxDepth text.toList
  rw [expand_eq_ok_iff]
  refine ⟨text.toList, hexpand, ?_⟩
  rw [Text.collapse_eq_self_iff.mpr hnormal, String.ofList_toList]

/-- **Expanded text is in normal form and stable.** It has no blanks but single spaces between its
words. Where no `$` is left in it, it expands to itself in every environment. -/
theorem expand_isNormal (env : Env) (template result : String)
    (h : env.expand template = .ok result) :
    Text.IsNormal result.toList ∧
      ('$' ∉ result.toList → ∀ other : Env, other.expand result = .ok result) := by
  obtain ⟨text, -, rfl⟩ := expand_eq_ok_iff.mp h
  have hnormal : Text.IsNormal (String.ofList (Text.collapse text)).toList := by
    rw [String.toList_ofList]
    exact Text.isNormal_collapse text
  exact ⟨hnormal, fun hplain other => expand_eq_self hnormal hplain other⟩

/-- Values with a tab, a line feed and a space that does not break, and one that is all blank. -/
def blankValues : Env :=
  ((empty.set "FLAGS" (.items ["\t-O2", "-g\n"])).set "OUT" (.text "a\u00a0\u2003b")).set "NONE"
    (.text " \u3000")

theorem expand_isNormal_blankValues :
    blankValues.expand " $NONE cc $FLAGS$NONE -o\t$\x7bOUT\x7d\x0d" = .ok "cc -O2 -g -o a b" ∧
      Text.IsNormal "cc -O2 -g -o a b".toList ∧
      (blankValues.set "cc" (.text "gcc")).expand "cc -O2 -g -o a b" = .ok "cc -O2 -g -o a b" := by
  have hexpand : blankValues.expand " $NONE cc $FLAGS$NONE -o\t$\x7bOUT\x7d\x0d" =
      .ok "cc -O2 -g -o a b" := by decide +kernel
  obtain ⟨hnormal, hstable⟩ := expand_isNormal _ _ _ hexpand
  exact ⟨hexpand, hnormal, hstable (by decide) _⟩

end Env

end FirmwareBench
