import FirmwareBench.Text.Blank
import Mathlib.Data.List.TakeWhile

/-!
# Words and collapsing blanks

The words of a text are its maximal runs of characters that are not blank. `collapse` joins them by
single spaces. Seen from the blanks, it replaces each run of them by one space and then takes away
the spaces at the two ends. The recursion of `collapse` on the characters of a text, as opposed to
its words, is spelled out first.

## Main definitions

* `IsWords`: what the words of a text are, said without the scanner.
* `squeeze`: each run of blanks replaced by one space.
* `spaced`: the texts of a list that are not empty, with one space between them.

## Main statements

* `isWords_iff`: the scanner finds the words, and each text has only these.
* `words_collapse`: collapsing keeps the words.
* `collapse_eq_trim_squeeze`: collapsing is squeezing and then trimming.
* `collapse_intercalate`: texts with spaces between them collapse one by one.
-/

set_option autoImplicit false

namespace FirmwareBench.Text

/-! ## The words of a text -/

/-- The text falls into these words, with blanks around them. -/
inductive IsWords : List Char → List (List Char) → Prop
  | nil : IsWords [] []
  | blank {c : Char} {rest : List Char} {words : List (List Char)} (hc : isBlank c = true)
      (hrest : IsWords rest words) : IsWords (c :: rest) words
  /-- A word goes as far as it can. -/
  | word {word rest : List Char} {words : List (List Char)} (hne : word ≠ [])
      (hword : ∀ c ∈ word, isBlank c = false) (hend : ∀ c ∈ rest.head?, isBlank c = true)
      (hrest : IsWords rest words) : IsWords (word ++ rest) (word :: words)

/-- A run of non-blanks is what it is read as, and the words behind it follow. -/
theorem leadingWord_append {word rest : List Char} (hword : ∀ c ∈ word, isBlank c = false)
    (hend : ∀ c ∈ rest.head?, isBlank c = true) :
    leadingWord (word ++ rest) = (word, words rest) := by
  induction word with
  | nil =>
      cases rest with
      | nil => rfl
      | cons c rest =>
          have hc : isBlank c = true := hend c rfl
          simp [leadingWord, words, hc, consWord]
  | cons c word ih =>
      have hc : isBlank c = false := hword c List.mem_cons_self
      have hrest := ih fun d hd => hword d (List.mem_cons_of_mem _ hd)
      simp [leadingWord, hrest, hc]

theorem IsWords.eq_words {text : List Char} {found : List (List Char)} (h : IsWords text found) :
    found = words text := by
  induction h with
  | nil => rfl
  | blank hc _ ih => rw [words_cons_of_isBlank hc, ih]
  | word hne hword hend _ ih =>
      rw [words, leadingWord_append hword hend, consWord, if_neg (by simpa using hne), ih]

/-- A run of non-blanks, which may be empty, stands in front of the words behind it. -/
theorem IsWords.consWord {word rest : List Char} {later : List (List Char)}
    (hword : ∀ c ∈ word, isBlank c = false) (hend : ∀ c ∈ rest.head?, isBlank c = true)
    (hrest : IsWords rest later) : IsWords (word ++ rest) (consWord word later) := by
  cases word with
  | nil => exact hrest
  | cons c word => exact .word (by simp) hword hend hrest

/-- The text is the run that was read in front of it and a rest with the words behind that run. -/
theorem exists_rest_of_leadingWord (text : List Char) :
    ∃ rest, text = (leadingWord text).1 ++ rest ∧
      (∀ c ∈ (leadingWord text).1, isBlank c = false) ∧ (∀ c ∈ rest.head?, isBlank c = true) ∧
        IsWords rest (leadingWord text).2 := by
  induction text with
  | nil => exact ⟨[], rfl, by simp [leadingWord], by simp, .nil⟩
  | cons c text ih =>
      obtain ⟨rest, htext, hword, hend, hrest⟩ := ih
      cases hc : isBlank c with
      | true =>
          -- a blank ends the run in front of it, and the run behind it is a word on its own
          have hlater := IsWords.consWord hword hend hrest
          rw [← htext] at hlater
          exact ⟨c :: text, by simp [leadingWord, hc], by simp [leadingWord, hc], by simpa using hc,
            by simpa [leadingWord, hc] using IsWords.blank hc hlater⟩
      | false =>
          refine ⟨rest, ?_, ?_, hend, by simpa [leadingWord, hc] using hrest⟩
          · simpa [leadingWord, hc] using htext
          · simpa [leadingWord, hc] using hword

/-- **The words of a text.** A text falls into the words that the scanner finds, and into no
others. -/
theorem isWords_iff {text : List Char} {found : List (List Char)} :
    IsWords text found ↔ found = words text := by
  constructor
  · exact IsWords.eq_words
  · rintro rfl
    obtain ⟨rest, htext, hword, hend, hrest⟩ := exists_rest_of_leadingWord text
    have hwords := IsWords.consWord hword hend hrest
    rwa [← htext] at hwords

/-! ## Words are not empty -/

theorem ne_nil_of_mem_consWord {word later' : List Char} {later : List (List Char)}
    (hlater : ∀ w ∈ later, w ≠ []) (h : later' ∈ consWord word later) : later' ≠ [] := by
  cases word with
  | nil => exact hlater later' (by simpa [consWord] using h)
  | cons c rest =>
      rcases List.mem_cons.mp (by simpa [consWord] using h) with rfl | hmem
      · simp
      · exact hlater later' hmem

theorem ne_nil_of_mem_leadingWord (text : List Char) : ∀ w ∈ (leadingWord text).2, w ≠ [] := by
  induction text with
  | nil => simp [leadingWord]
  | cons c rest ih =>
      intro w hw
      by_cases hc : isBlank c = true
      · exact ne_nil_of_mem_consWord ih (by simpa [leadingWord, hc] using hw)
      · exact ih w (by simpa [leadingWord, hc] using hw)

theorem ne_nil_of_mem_words {text word : List Char} (h : word ∈ words text) : word ≠ [] :=
  ne_nil_of_mem_consWord (ne_nil_of_mem_leadingWord text) h

theorem collapse_eq_nil_iff {text : List Char} : collapse text = [] ↔ words text = [] := by
  constructor
  · intro h
    cases hwords : words text with
    | nil => rfl
    | cons word later =>
        have hmem : word ∈ words text := by simp [hwords]
        have hne : word ≠ [] := ne_nil_of_mem_words hmem
        cases later <;> simp [collapse, hwords, List.intercalate, hne] at h
  · intro h
    simp [collapse, h, List.intercalate]

/-! ## The words of a collapsed text -/

theorem IsWords.isBlank_of_mem {text word : List Char} {found : List (List Char)}
    (h : IsWords text found) (hmem : word ∈ found) : ∀ c ∈ word, isBlank c = false := by
  induction h with
  | nil => simp at hmem
  | blank _ _ ih => exact ih hmem
  | word _ hword _ _ ih =>
      rcases List.mem_cons.mp hmem with rfl | hmem
      · exact hword
      · exact ih hmem

theorem isBlank_of_mem_words {text word : List Char} (h : word ∈ words text) :
    ∀ c ∈ word, isBlank c = false :=
  (isWords_iff.mpr rfl).isBlank_of_mem h

/-- Words with single spaces between them are the words of that text. -/
theorem isWords_intercalate {found : List (List Char)} (hne : ∀ word ∈ found, word ≠ [])
    (hblank : ∀ word ∈ found, ∀ c ∈ word, isBlank c = false) :
    IsWords ([' '].intercalate found) found := by
  induction found with
  | nil => exact .nil
  | cons word later ih =>
      obtain ⟨hword, hlater⟩ := List.forall_mem_cons.mp hne
      obtain ⟨hplain, hlaterPlain⟩ := List.forall_mem_cons.mp hblank
      have hrest := ih hlater hlaterPlain
      cases later with
      | nil => simpa using IsWords.word hword hplain (by simp) .nil
      | cons other later =>
          rw [List.intercalate_cons_cons, List.append_assoc]
          exact .word hword hplain (by simp [isBlank]) (.blank rfl hrest)

/-- **Collapsing keeps the words.** -/
theorem words_collapse (text : List Char) : words (collapse text) = words text :=
  (isWords_intercalate (fun _ => ne_nil_of_mem_words) fun _ => isBlank_of_mem_words).eq_words.symm

/-! ## The recursion on characters -/

@[simp] theorem collapse_nil : collapse [] = [] := rfl

theorem collapse_cons_of_isBlank {c : Char} (h : isBlank c = true) (rest : List Char) :
    collapse (c :: rest) = collapse rest := by
  rw [collapse, words_cons_of_isBlank h, ← collapse]

theorem collapse_singleton {c : Char} (h : isBlank c = false) : collapse [c] = [c] := by
  simp [collapse, words, leadingWord, h, consWord, List.intercalate]

/-- A character in front of a word joins it. -/
theorem collapse_cons_cons {c d : Char} (hc : isBlank c = false) (hd : isBlank d = false)
    (rest : List Char) : collapse (c :: d :: rest) = c :: collapse (d :: rest) := by
  cases hlater : (leadingWord rest).2 <;>
    simp [collapse, words, leadingWord, hc, hd, consWord, hlater, List.intercalate]

/-- A character in front of a blank is a word of its own. -/
theorem collapse_cons_blank {c b : Char} (hc : isBlank c = false) (hb : isBlank b = true)
    (rest : List Char) :
    collapse (c :: b :: rest) = c :: if collapse rest = [] then [] else ' ' :: collapse rest := by
  have hwords : words (c :: b :: rest) = [c] :: words rest := by
    simp [words, leadingWord, hc, hb, consWord]
  simp only [collapse_eq_nil_iff]
  rw [collapse, hwords]
  cases hrest : words rest with
  | nil => simp [List.intercalate]
  | cons word later => simp [collapse, hrest, List.intercalate]

/-- A text with a character that is no blank does not collapse to nothing. -/
theorem collapse_cons_ne_nil {c : Char} (hc : isBlank c = false) (rest : List Char) :
    collapse (c :: rest) ≠ [] := by
  cases rest with
  | nil => simp [collapse_singleton hc]
  | cons d rest =>
      cases hd : isBlank d with
      | true => simp [collapse_cons_blank hc hd]
      | false => simp [collapse_cons_cons hc hd]

/-! ## The ends of a collapsed text -/

theorem isBlank_head?_collapse (text : List Char) :
    ∀ c ∈ (collapse text).head?, isBlank c = false := by
  induction text with
  | nil => simp
  | cons c rest ih =>
      cases hc : isBlank c with
      | true => simpa only [collapse_cons_of_isBlank hc] using ih
      | false =>
          cases rest with
          | nil => simp [collapse_singleton hc, hc]
          | cons d rest =>
              cases hd : isBlank d with
              | true => simp [collapse_cons_blank hc hd, hc]
              | false => simp [collapse_cons_cons hc hd, hc]

theorem isBlank_getLast?_collapse (text : List Char) :
    ∀ c ∈ (collapse text).getLast?, isBlank c = false := by
  induction text with
  | nil => simp
  | cons c rest ih =>
      cases hc : isBlank c with
      | true => simpa only [collapse_cons_of_isBlank hc] using ih
      | false =>
          cases rest with
          | nil => simp [collapse_singleton hc, hc]
          | cons d rest =>
              cases hd : isBlank d with
              | true =>
                  rw [collapse_cons_of_isBlank hd] at ih
                  rw [collapse_cons_blank hc hd]
                  by_cases hnil : collapse rest = []
                  · simp [hnil, hc]
                  · rw [if_neg hnil, List.getLast?_cons_cons, List.getLast?_cons_of_ne_nil hnil]
                    exact ih
              | false =>
                  rw [collapse_cons_cons hc hd,
                    List.getLast?_cons_of_ne_nil (collapse_cons_ne_nil hd rest)]
                  exact ih

/-! ## Squeezing and trimming -/

/-- A text with each run of blanks replaced by one space. -/
def squeeze : List Char → List Char
  | [] => []
  | c :: rest =>
    if isBlank c then
      if rest.head?.any isBlank then squeeze rest else ' ' :: squeeze rest
    else c :: squeeze rest

theorem dropWhile_isBlank_of_head? {text : List Char}
    (h : ∀ c ∈ text.head?, isBlank c = false) : text.dropWhile isBlank = text := by
  cases text with
  | nil => rfl
  | cons c rest => exact List.dropWhile_cons_of_neg (by simp [h c rfl])

/-- Blanks around a text without outer blanks are what trimming takes away. -/
theorem trim_append {front text back : List Char} (hfront : ∀ c ∈ front, isBlank c = true)
    (hback : ∀ c ∈ back, isBlank c = true) (hhead : ∀ c ∈ text.head?, isBlank c = false)
    (hlast : ∀ c ∈ text.getLast?, isBlank c = false) : trim (front ++ text ++ back) = text := by
  have hdrop : (front ++ text ++ back).dropWhile isBlank = (text ++ back).dropWhile isBlank := by
    rw [List.append_assoc, List.dropWhile_append_of_pos hfront]
  cases text with
  | nil =>
      have hnil : back.dropWhile isBlank = [] := List.dropWhile_eq_nil_iff.mpr hback
      rw [trim, hdrop, List.nil_append, hnil]
      rfl
  | cons c rest =>
      have hself : (c :: rest ++ back).dropWhile isBlank = c :: rest ++ back :=
        dropWhile_isBlank_of_head? (by simpa using hhead)
      have hrev : ((c :: rest).reverse).dropWhile isBlank = (c :: rest).reverse :=
        dropWhile_isBlank_of_head? (by simpa only [List.head?_reverse] using hlast)
      rw [trim, hdrop, hself, List.reverse_append,
        List.dropWhile_append_of_pos (by simpa using hback), hrev, List.reverse_reverse]

/-- Squeezing leaves the collapsed text between what the outer blanks have become. -/
theorem squeeze_eq_append_collapse (text : List Char) :
    ∃ back, (∀ c ∈ back, isBlank c = true) ∧
      squeeze text = (if text.head?.any isBlank then [' '] else []) ++ collapse text ++ back := by
  induction text with
  | nil => exact ⟨[], by simp, rfl⟩
  | cons c rest ih =>
      obtain ⟨back, hback, hsqueeze⟩ := ih
      cases hc : isBlank c with
      | true =>
          refine ⟨back, hback, ?_⟩
          rw [collapse_cons_of_isBlank hc, squeeze, if_pos hc, hsqueeze]
          by_cases hrest : rest.head?.any isBlank = true <;> simp [hrest, hc]
      | false =>
          rw [squeeze, if_neg (by simp [hc]), hsqueeze]
          cases rest with
          | nil => exact ⟨back, hback, by simp [collapse_singleton hc, hc]⟩
          | cons d rest =>
              cases hd : isBlank d with
              | true =>
                  rw [collapse_cons_blank hc hd, collapse_cons_of_isBlank hd]
                  by_cases hnil : collapse rest = []
                  -- the blanks that a text ends with become a space behind its last word
                  · refine ⟨' ' :: back, ?_, by simp [hnil, hc, hd]⟩
                    simpa using ⟨rfl, hback⟩
                  · exact ⟨back, hback, by simp [hnil, hc, hd]⟩
              | false => exact ⟨back, hback, by simp [collapse_cons_cons hc hd, hc, hd]⟩

/-- **Collapsing from the blanks.** Collapsing replaces each run of blanks by one space and trims
the two ends. -/
theorem collapse_eq_trim_squeeze (text : List Char) : collapse text = trim (squeeze text) := by
  obtain ⟨back, hback, hsqueeze⟩ := squeeze_eq_append_collapse text
  rw [hsqueeze, trim_append ?_ hback (isBlank_head?_collapse text) (isBlank_getLast?_collapse text)]
  intro c hc
  split at hc
  · obtain rfl : c = ' ' := by simpa using hc
    rfl
  · simp at hc

/-! ## Texts side by side -/

theorem consWord_append (word : List Char) (first second : List (List Char)) :
    consWord word (first ++ second) = consWord word first ++ second := by
  cases word <;> rfl

theorem leadingWord_append_blank {b : Char} (hb : isBlank b = true) (text rest : List Char) :
    leadingWord (text ++ b :: rest) =
      ((leadingWord text).1, (leadingWord text).2 ++ words rest) := by
  induction text with
  | nil => simp [leadingWord, hb, words]
  | cons c text ih =>
      cases hc : isBlank c with
      | true => simp [leadingWord, ih, hc, consWord_append]
      | false => simp [leadingWord, ih, hc]

/-- No word goes across a blank. -/
theorem words_append_blank {b : Char} (hb : isBlank b = true) (text rest : List Char) :
    words (text ++ b :: rest) = words text ++ words rest := by
  rw [words, leadingWord_append_blank hb, consWord_append, ← words]

/-- The texts that are not empty, with one space between them. -/
def spaced (texts : List (List Char)) : List Char :=
  [' '].intercalate (texts.filter fun text => !text.isEmpty)

@[simp] theorem spaced_nil : spaced [] = [] := rfl

@[simp] theorem spaced_nil_cons (texts : List (List Char)) : spaced ([] :: texts) = spaced texts :=
  rfl

theorem filter_cons_of_ne_nil {text : List Char} (h : text ≠ []) (texts : List (List Char)) :
    (text :: texts).filter (fun text => !text.isEmpty) =
      text :: texts.filter fun text => !text.isEmpty :=
  List.filter_cons_of_pos (by simpa using h)

theorem spaced_cons_of_ne_nil {text : List Char} (h : text ≠ []) (texts : List (List Char)) :
    spaced (text :: texts) =
      if spaced texts = [] then text else text ++ ' ' :: spaced texts := by
  rw [spaced, filter_cons_of_ne_nil h, spaced]
  cases hfilter : texts.filter fun text => !text.isEmpty with
  | nil => simp
  | cons other later =>
      have hmem : other ∈ texts.filter fun text => !text.isEmpty := by simp [hfilter]
      have hother : other ≠ [] := by simpa using (List.mem_filter.mp hmem).2
      have hne : [' '].intercalate (other :: later) ≠ [] := by
        cases later <;> simp [List.intercalate, hother]
      rw [if_neg hne, List.intercalate_cons_cons, List.append_assoc, List.singleton_append]

/-- Behind the first text, the others count as the one text that they make. -/
theorem spaced_cons (text : List Char) (texts : List (List Char)) :
    spaced (text :: texts) = spaced [text, spaced texts] := by
  by_cases htext : text = []
  · subst htext
    by_cases hrest : spaced texts = []
    · simp [hrest]
    · simp [spaced_cons_of_ne_nil hrest]
  · rw [spaced_cons_of_ne_nil htext, spaced_cons_of_ne_nil htext]
    by_cases hrest : spaced texts = []
    · simp [hrest]
    · simp [spaced_cons_of_ne_nil hrest]

theorem intercalate_append {sep : List Char} {first second : List (List Char)} (hfirst : first ≠ [])
    (hsecond : second ≠ []) :
    sep.intercalate (first ++ second) = sep.intercalate first ++ sep ++ sep.intercalate second := by
  induction first with
  | nil => exact absurd rfl hfirst
  | cons text rest ih =>
      by_cases hrest : rest = []
      · subst hrest
        rw [List.singleton_append, List.intercalate_cons_of_ne_nil hsecond,
          List.intercalate_singleton]
      · rw [List.cons_append, List.intercalate_cons_of_ne_nil (by simp [hrest]), ih hrest,
          List.intercalate_cons_of_ne_nil hrest]
        simp only [List.append_assoc]

/-- **Collapsing across a blank.** The texts on both sides of a blank collapse on their own. -/
theorem collapse_append_blank {b : Char} (hb : isBlank b = true) (text rest : List Char) :
    collapse (text ++ b :: rest) = spaced [collapse text, collapse rest] := by
  have hwords := words_append_blank hb text rest
  by_cases htext : words text = []
  · have hcollapse : collapse text = [] := collapse_eq_nil_iff.mpr htext
    have hrest : collapse (text ++ b :: rest) = collapse rest := by
      rw [collapse, hwords, htext, List.nil_append, ← collapse]
    rw [hrest, hcollapse, spaced_nil_cons]
    by_cases hnil : collapse rest = []
    · simp [hnil]
    · simp [spaced_cons_of_ne_nil hnil]
  · have hcollapse : collapse text ≠ [] := fun h => htext (collapse_eq_nil_iff.mp h)
    rw [spaced_cons_of_ne_nil hcollapse]
    by_cases hnil : words rest = []
    · simp [collapse, hwords, hnil, List.intercalate]
    · have hrest : collapse rest ≠ [] := fun h => hnil (collapse_eq_nil_iff.mp h)
      rw [collapse, hwords, intercalate_append htext hnil, ← collapse, ← collapse]
      simp [spaced_cons_of_ne_nil hrest, hrest]

/-- Texts with spaces between them collapse one by one. -/
theorem collapse_intercalate (texts : List (List Char)) :
    collapse ([' '].intercalate texts) = spaced (texts.map collapse) := by
  induction texts with
  | nil => rfl
  | cons text rest ih =>
      cases rest with
      | nil =>
          rw [List.intercalate_singleton, List.map_singleton]
          by_cases hnil : collapse text = []
          · simp [hnil]
          · simp [spaced_cons_of_ne_nil hnil]
      | cons other later =>
          rw [List.intercalate_cons_cons, List.append_assoc, List.singleton_append,
            collapse_append_blank rfl, ih, ← spaced_cons, ← List.map_cons]

end FirmwareBench.Text
