import FirmwareBench.Proofs.Text.Collapse
import FirmwareBench.Text.Cut
import Mathlib.Data.List.Infix

/-!
# The pieces of a text

A mark cuts a text into pieces: the stretches without the mark that go from one mark, or the front
of the text, to the next one, or the end. Lines are the pieces between line feeds, the names of a
path those between slashes. The pieces of a front of a text are the first pieces of the text, but
for the last one, which may go on.

## Main definitions

* `IsPiece`: what a piece of a text is, said without the scanner.
* `IsCore`: what stands between the outer blanks of a text.

## Main statements

* `mem_splitAt_iff`: the scanner finds the pieces.
* `exists_splitAt_append`: the pieces of a front of a text.
* `trim_eq_iff`: what a text looks like around what trimming leaves.
* `trim_eq_iff_isCore`: trimming leaves the core.
-/

set_option autoImplicit false

namespace FirmwareBench.Text

/-! ## Cutting and joining -/

theorem splitAt_ne_nil (mark : Char) (text : List Char) : splitAt mark text ≠ [] := by
  cases text with
  | nil => simp [splitAt]
  | cons c rest =>
      by_cases hc : c = mark
      · simp [splitAt, hc]
      · cases hrest : splitAt mark rest <;> simp [splitAt, hc, hrest]

/-- A character that is no mark joins the first piece. -/
theorem splitAt_cons_of_ne {mark c : Char} (hc : c ≠ mark) {rest piece : List Char}
    {later : List (List Char)} (hrest : splitAt mark rest = piece :: later) :
    splitAt mark (c :: rest) = (c :: piece) :: later := by
  rw [splitAt, if_neg hc, hrest]

/-- A text is cut at a mark into the pieces before it and those behind it. -/
theorem splitAt_append (mark : Char) (before after : List Char) :
    splitAt mark (before ++ mark :: after) = splitAt mark before ++ splitAt mark after := by
  induction before with
  | nil => simp [splitAt]
  | cons c before ih =>
      by_cases hc : c = mark
      · simp [splitAt, hc, ih]
      · rw [List.cons_append, splitAt, if_neg hc, splitAt, if_neg hc, ih]
        cases hbefore : splitAt mark before with
        | nil => exact absurd hbefore (splitAt_ne_nil mark before)
        | cons piece later => rfl

/-- The last piece of a text with a mark does not depend on what is in front of the text. -/
theorem getLast?_splitAt_append {mark : Char} {text : List Char} (h : mark ∈ text)
    (front : List Char) :
    (splitAt mark (front ++ text)).getLast? = (splitAt mark text).getLast? := by
  obtain ⟨before, after, rfl⟩ := List.append_of_mem h
  have hafter : splitAt mark after ≠ [] := splitAt_ne_nil mark after
  rw [← List.append_assoc, splitAt_append, splitAt_append, List.getLast?_append_of_ne_nil _ hafter,
    List.getLast?_append_of_ne_nil _ hafter]

theorem splitAt_of_not_mem {mark : Char} {text : List Char} (h : mark ∉ text) :
    splitAt mark text = [text] := by
  induction text with
  | nil => rfl
  | cons c rest ih =>
      obtain ⟨hc, hrest⟩ : c ≠ mark ∧ mark ∉ rest := by simpa [eq_comm] using h
      exact splitAt_cons_of_ne hc (ih hrest)

theorem not_mem_of_mem_splitAt {mark : Char} {text piece : List Char}
    (h : piece ∈ splitAt mark text) : mark ∉ piece := by
  induction text generalizing piece with
  | nil =>
      obtain rfl : piece = [] := by simpa [splitAt] using h
      simp
  | cons c rest ih =>
      obtain ⟨first, later, hrest⟩ := List.exists_cons_of_ne_nil (splitAt_ne_nil mark rest)
      rw [hrest] at ih
      by_cases hc : c = mark
      · rw [splitAt, if_pos hc, hrest] at h
        rcases List.mem_cons.mp h with rfl | hmem
        · simp
        · exact ih hmem
      · rw [splitAt_cons_of_ne hc hrest] at h
        rcases List.mem_cons.mp h with rfl | hmem
        · have hfirst : mark ∉ first := ih List.mem_cons_self
          simpa [hfirst] using Ne.symm hc
        · exact ih (List.mem_cons_of_mem _ hmem)

/-- The pieces of a text with marks between them are the text. -/
theorem intercalate_splitAt (mark : Char) (text : List Char) :
    [mark].intercalate (splitAt mark text) = text := by
  induction text with
  | nil => rfl
  | cons c rest ih =>
      obtain ⟨piece, later, hrest⟩ := List.exists_cons_of_ne_nil (splitAt_ne_nil mark rest)
      by_cases hc : c = mark
      · subst hc
        rw [splitAt, if_pos rfl, List.intercalate_cons_of_ne_nil (splitAt_ne_nil _ _), ih]
        rfl
      · rw [hrest] at ih
        rw [splitAt_cons_of_ne hc hrest, ← ih]
        cases later <;> simp [List.intercalate]

/-- Pieces without marks, with marks between them, are the pieces of that text. -/
theorem splitAt_intercalate {mark : Char} {pieces : List (List Char)} (hne : pieces ≠ [])
    (hmark : ∀ piece ∈ pieces, mark ∉ piece) :
    splitAt mark ([mark].intercalate pieces) = pieces := by
  induction pieces with
  | nil => exact absurd rfl hne
  | cons piece later ih =>
      obtain ⟨hpiece, hlater⟩ := List.forall_mem_cons.mp hmark
      by_cases hnil : later = []
      · subst hnil
        rw [List.intercalate_singleton, splitAt_of_not_mem hpiece]
      · rw [List.intercalate_cons_of_ne_nil hnil, List.append_assoc, List.singleton_append,
          splitAt_append, splitAt_of_not_mem hpiece, ih hnil hlater, List.singleton_append]

/-! ## Pieces without the scanner -/

/-- A stretch of a text without marks, between two marks or the ends of the text. -/
def IsPiece (mark : Char) (text piece : List Char) : Prop :=
  mark ∉ piece ∧ ∃ before after, text = before ++ piece ++ after ∧
    (∀ c ∈ before.getLast?, c = mark) ∧ ∀ c ∈ after.head?, c = mark

/-- **The scanner finds the pieces.** -/
theorem mem_splitAt_iff {mark : Char} {text piece : List Char} :
    piece ∈ splitAt mark text ↔ IsPiece mark text piece := by
  constructor
  · intro h
    refine ⟨not_mem_of_mem_splitAt h, ?_⟩
    obtain ⟨front, back, hpieces⟩ := List.append_of_mem h
    have htext : text = [mark].intercalate (front ++ piece :: back) := by
      rw [← hpieces, intercalate_splitAt]
    have hback : ∃ after, [mark].intercalate (piece :: back) = piece ++ after ∧
        ∀ c ∈ after.head?, c = mark := by
      by_cases hnil : back = []
      · exact ⟨[], by simp [hnil], by simp⟩
      · exact ⟨mark :: [mark].intercalate back, by simp [List.intercalate_cons_of_ne_nil hnil],
          by simp⟩
    obtain ⟨after, hafter, hhead⟩ := hback
    by_cases hnil : front = []
    · refine ⟨[], after, ?_, by simp, hhead⟩
      rw [htext, hnil, List.nil_append, hafter, List.nil_append]
    · refine ⟨[mark].intercalate front ++ [mark], after, ?_, by simp, hhead⟩
      rw [htext, intercalate_append hnil (by simp), hafter, List.append_assoc, List.append_assoc,
        List.append_assoc]
  · rintro ⟨hpiece, before, after, rfl, hlast, hhead⟩
    have hself : piece ∈ splitAt mark (piece ++ after) := by
      cases after with
      | nil => simp [splitAt_of_not_mem hpiece]
      | cons c after =>
          obtain rfl : c = mark := hhead c rfl
          simp [splitAt_append, splitAt_of_not_mem hpiece]
    rcases List.eq_nil_or_concat before with rfl | ⟨front, c, rfl⟩
    · simpa using hself
    · obtain rfl : c = mark := hlast c (by simp)
      simp [splitAt_append, hself]

/-! ## The pieces of a front -/

/-- **The pieces of a front of a text** are the first ones of the text; the last of them may go on
in the text. -/
theorem exists_splitAt_append (mark : Char) (front back : List Char) :
    ∃ before part more behind, splitAt mark front = before ++ [part] ∧
      splitAt mark (front ++ back) = before ++ (part ++ more) :: behind := by
  induction front with
  | nil =>
      obtain ⟨piece, later, hback⟩ := List.exists_cons_of_ne_nil (splitAt_ne_nil mark back)
      exact ⟨[], [], piece, later, rfl, hback⟩
  | cons c front ih =>
      obtain ⟨before, part, more, behind, hfront, hall⟩ := ih
      by_cases hc : c = mark
      · refine ⟨[] :: before, part, more, behind, ?_, ?_⟩
        · rw [splitAt, if_pos hc, hfront, List.cons_append]
        · rw [List.cons_append, splitAt, if_pos hc, hall, List.cons_append]
      · cases before with
        | nil => exact ⟨[], c :: part, more, behind, splitAt_cons_of_ne hc hfront,
            splitAt_cons_of_ne hc hall⟩
        | cons first before => exact ⟨(c :: first) :: before, part, more, behind,
            splitAt_cons_of_ne hc hfront, splitAt_cons_of_ne hc hall⟩

/-! ## What trimming leaves -/

theorem exists_append_dropWhile (text : List Char) :
    ∃ front, (∀ c ∈ front, isBlank c = true) ∧ text = front ++ text.dropWhile isBlank :=
  ⟨text.takeWhile isBlank, fun _ hc => List.mem_takeWhile_imp hc,
    List.takeWhile_append_dropWhile.symm⟩

/-- Trimming leaves a text without outer blanks exactly where it stands between blanks. -/
theorem trim_eq_iff {text core : List Char} (hhead : ∀ c ∈ core.head?, isBlank c = false)
    (hlast : ∀ c ∈ core.getLast?, isBlank c = false) :
    trim text = core ↔ ∃ front back, (∀ c ∈ front, isBlank c = true) ∧
      (∀ c ∈ back, isBlank c = true) ∧ text = front ++ core ++ back := by
  constructor
  · rintro rfl
    obtain ⟨front, hfront, htext⟩ := exists_append_dropWhile text
    obtain ⟨back, hback, hrest⟩ := exists_append_dropWhile (text.dropWhile isBlank).reverse
    refine ⟨front, back.reverse, hfront, by simpa using hback, ?_⟩
    rw [← List.reverse_inj, List.reverse_reverse, List.reverse_append] at hrest
    rw [trim, List.append_assoc, ← hrest, ← htext]
  · rintro ⟨front, back, hfront, hback, rfl⟩
    exact trim_append hfront hback hhead hlast

/-- A text without blanks at its two ends. -/
structure IsTrimmed (text : List Char) : Prop where
  head : ∀ c ∈ text.head?, isBlank c = false
  last : ∀ c ∈ text.getLast?, isBlank c = false

/-- The core of a text is what stands between its outer blanks. -/
def IsCore (text core : List Char) : Prop :=
  IsTrimmed core ∧ ∃ front back, (∀ c ∈ front, isBlank c = true) ∧
    (∀ c ∈ back, isBlank c = true) ∧ text = front ++ core ++ back

theorem isTrimmed_trim (text : List Char) : IsTrimmed (trim text) := by
  constructor
  · intro c hc
    -- what is taken away at the end leaves the head
    obtain ⟨back, -, hrest⟩ := exists_append_dropWhile (text.dropWhile isBlank).reverse
    have hcut : text.dropWhile isBlank = trim text ++ back.reverse := by
      rw [trim, ← List.reverse_append, ← hrest, List.reverse_reverse]
    have hhead : (text.dropWhile isBlank).head? = some c := by
      rw [hcut, List.head?_append, Option.mem_def.mp hc, Option.some_or]
    have hnot := List.head?_dropWhile_not isBlank text
    simpa [hhead] using hnot
  · intro c hc
    rw [trim, List.getLast?_reverse] at hc
    have hnot := List.head?_dropWhile_not isBlank (text.dropWhile isBlank).reverse
    rw [Option.mem_def.mp hc] at hnot
    simpa using hnot

/-- **Trimming leaves the core.** -/
theorem trim_eq_iff_isCore {text core : List Char} : trim text = core ↔ IsCore text core := by
  constructor
  · rintro rfl
    have htrimmed := isTrimmed_trim text
    exact ⟨htrimmed, (trim_eq_iff htrimmed.head htrimmed.last).mp rfl⟩
  · rintro ⟨htrimmed, hblanks⟩
    exact (trim_eq_iff htrimmed.head htrimmed.last).mpr hblanks

theorem isCore_trim (text : List Char) : IsCore text (trim text) := trim_eq_iff_isCore.mp rfl

/-- Nothing is left of a text of blanks, and of no other. -/
theorem trim_eq_nil_iff {text : List Char} : trim text = [] ↔ ∀ c ∈ text, isBlank c = true := by
  rw [trim_eq_iff (by simp) (by simp)]
  constructor
  · rintro ⟨front, back, hfront, hback, rfl⟩ c hc
    rw [List.append_nil] at hc
    rcases List.mem_append.mp hc with hc | hc
    · exact hfront c hc
    · exact hback c hc
  · intro h
    exact ⟨text, [], h, by simp, by simp⟩

theorem trim_ne_nil_iff {text : List Char} : trim text ≠ [] ↔ ∃ c ∈ text, isBlank c = false := by
  rw [Ne, trim_eq_nil_iff]
  push Not
  simp only [Bool.not_eq_true]

end FirmwareBench.Text
