set_option autoImplicit false

/-!
# Cutting and filling texts

Texts are lists of characters here. The operations cut a text at a character, split it into lines,
replace every occurrence of a needle, and fill in placeholders.

## Main definitions

* `cutAt?`: what stands before and after the first occurrence of a character.
* `splitAt`: the pieces between the occurrences of a character.
* `replaceAll`: every occurrence of one needle replaced, from left to right.
* `fill`: all placeholders of a table replaced in one pass, so that filled-in text is not read again.
* `padTo`: a text filled up to a width.
-/

namespace FirmwareBench.Text

/-- What stands before and after the first occurrence of `mark`. -/
def cutAt? (mark : Char) : List Char → Option (List Char × List Char)
  | [] => none
  | c :: rest =>
    if c = mark then some ([], rest)
    else (cutAt? mark rest).map fun (before, after) => (c :: before, after)

/-- The pieces between the occurrences of `mark`; there is always at least one. -/
def splitAt (mark : Char) : List Char → List (List Char)
  | [] => [[]]
  | c :: rest =>
    if c = mark then [] :: splitAt mark rest
    else match splitAt mark rest with
      | [] => [[c]]
      | piece :: later => (c :: piece) :: later

/-- The text after `start`, if `start` is how it begins. -/
def after? : List Char → List Char → Option (List Char)
  | [], text => some text
  | _ :: _, [] => none
  | s :: start, c :: text => if s = c then after? start text else none

/-- Replaces the occurrences of `needle` in what is left after `skip` characters. -/
def replaceFrom (needle value : List Char) : Nat → List Char → List Char
  | _, [] => []
  | skip + 1, _ :: rest => replaceFrom needle value skip rest
  | 0, c :: rest =>
    if needle.isPrefixOf (c :: rest) then
      value ++ replaceFrom needle value (needle.length - 1) rest
    else c :: replaceFrom needle value 0 rest

/-- Every occurrence of a non-empty `needle` replaced by `value`, from left to right. -/
def replaceAll (needle value text : List Char) : List Char :=
  replaceFrom needle value 0 text

/-- The first placeholder of `table` that `text` begins with. -/
def placeholderAt? (table : List (List Char × List Char)) (text : List Char) :
    Option (List Char × List Char) :=
  table.find? fun (key, _) => key.isPrefixOf text

/-- Fills the placeholders of `table` in what is left after `skip` characters. -/
def fillFrom (table : List (List Char × List Char)) : Nat → List Char → List Char
  | _, [] => []
  | skip + 1, _ :: rest => fillFrom table skip rest
  | 0, c :: rest =>
    match placeholderAt? table (c :: rest) with
    | some (key, value) => value ++ fillFrom table (key.length - 1) rest
    | none => c :: fillFrom table 0 rest

/-- All placeholders of `table` replaced by their values in one pass from left to right. -/
def fill (table : List (List Char × List Char)) (text : List Char) : List Char :=
  fillFrom table 0 text

/-- A text filled up with blanks to a width. -/
def padTo (width : Nat) (text : String) : String := text.pushn ' ' (width - text.length)

/-! ## Small laws -/

/-- A cut text is put together again around its mark. -/
theorem eq_append_of_cutAt? {mark : Char} {text before after : List Char}
    (h : cutAt? mark text = some (before, after)) : text = before ++ mark :: after := by
  induction text generalizing before with
  | nil => simp [cutAt?] at h
  | cons c rest ih =>
    by_cases hc : c = mark
    · simp only [cutAt?, hc, if_true, Option.some.injEq, Prod.mk.injEq] at h
      simp [← h.1, ← h.2, hc]
    · simp only [cutAt?, hc, if_false, Option.map_eq_some_iff, Prod.mk.injEq] at h
      obtain ⟨⟨b, a⟩, hcut, rfl, rfl⟩ := h
      simp [ih hcut]

/-- A text is cut at its first mark. -/
theorem cutAt?_append {mark : Char} {before : List Char} (h : mark ∉ before) (after : List Char) :
    cutAt? mark (before ++ mark :: after) = some (before, after) := by
  induction before with
  | nil => simp [cutAt?]
  | cons c before ih =>
    have hc : c ≠ mark := fun heq => h (by simp [heq])
    simp [cutAt?, hc, ih fun hmem => h (List.mem_cons_of_mem _ hmem)]

theorem not_mem_of_cutAt? {mark : Char} {text before after : List Char}
    (h : cutAt? mark text = some (before, after)) : mark ∉ before := by
  induction text generalizing before with
  | nil => simp [cutAt?] at h
  | cons c rest ih =>
    by_cases hc : c = mark
    · simp only [cutAt?, hc, if_true, Option.some.injEq, Prod.mk.injEq] at h
      simp [← h.1]
    · simp only [cutAt?, hc, if_false, Option.map_eq_some_iff, Prod.mk.injEq] at h
      obtain ⟨⟨b, a⟩, hcut, rfl, rfl⟩ := h
      simp [ih hcut, Ne.symm hc]

theorem after?_append (start text : List Char) : after? start (start ++ text) = some text := by
  induction start with
  | nil => rfl
  | cons s start ih => simpa [after?] using ih

/-- A text is what it was asked to begin with, followed by what comes after. -/
theorem eq_append_of_after? {start text rest : List Char} (h : after? start text = some rest) :
    text = start ++ rest := by
  induction start generalizing text with
  | nil => simpa [after?] using h
  | cons s start ih =>
    cases text with
    | nil => simp [after?] at h
    | cons c text =>
      by_cases hc : s = c
      · simp only [after?, hc, if_true] at h
        simp [hc, ih h]
      · simp [after?, hc] at h

end FirmwareBench.Text
