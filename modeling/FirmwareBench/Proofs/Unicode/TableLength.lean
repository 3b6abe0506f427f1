import FirmwareBench.Unicode.Property

/-!
# How long the tables are

The tables of characters are written as lines, with a blank between two entries. The number of
entries is counted on the lines, without decoding them.

## Main definitions

* `Written`: the number of entries of some lines.
* `Tabulated`: the number of ranges of some tables.

## Main statements

* `length_derivedPlaces_le`: at how many places a derived property may change.
-/

set_option autoImplicit false

namespace FirmwareBench.Unicode

/-- Lines are written with `n` entries. A line is taken apart into its characters, so that its blanks
can be counted. -/
inductive Written : List String → Nat → Prop
  | nil : Written [] 0
  | line {chars : List Char} {lines : List String} {n : Nat} (rest : Written lines n) :
      Written (String.ofList chars :: lines) (chars.count ' ' + 1 + n)

/-- Tables are written with `n` ranges. -/
inductive Tabulated : List Ranges → Nat → Prop
  | nil : Tabulated [] 0
  | table {lines : List String} {tables : List Ranges} {k n : Nat} (first : Written lines k)
      (rest : Tabulated tables n) : Tabulated (Ranges.ofTexts lines :: tables) (k + n)

/-! ## Counting -/

theorem length_splitAt (mark : Char) (text : List Char) :
    (Text.splitAt mark text).length = text.count mark + 1 := by
  induction text with
  | nil => rfl
  | cons c rest ih =>
      by_cases hc : c = mark
      · simp [Text.splitAt, hc, ih]
      · rw [Text.splitAt, if_neg hc]
        cases hsplit : Text.splitAt mark rest with
        | nil => simp [hsplit] at ih
        | cons piece later => simp [hsplit, hc, ← ih]

theorem Written.length_eq {β : Type} {lines : List String} {n : Nat} (h : Written lines n)
    (read : List Char → β) :
    (lines.flatMap fun line => (Text.splitAt ' ' line.toList).map read).length = n := by
  induction h with
  | nil => rfl
  | line rest ih =>
      rw [List.flatMap_cons, List.length_append, ih, List.length_map, String.toList_ofList,
        length_splitAt]

/-- A range has a place where it begins and one after its end. -/
theorem Ranges.length_places (ranges : Ranges) : ranges.places.length = 2 * ranges.bounds.size := by
  obtain ⟨⟨bounds⟩⟩ := ranges
  induction bounds with
  | nil => rfl
  | cons range rest ih =>
      obtain ⟨first, last⟩ := range
      have hcons : places ⟨⟨(first, last) :: rest⟩⟩ = first :: (last + 1) :: places ⟨⟨rest⟩⟩ := rfl
      rw [hcons, List.length_cons, List.length_cons, ih]
      exact (Nat.mul_succ 2 rest.length).symm

theorem Tabulated.length_places {tables : List Ranges} {n : Nat} (h : Tabulated tables n) :
    (tables.flatMap Ranges.places).length = 2 * n := by
  induction h with
  | nil => rfl
  | table first rest ih =>
      have hsize := first.length_eq Ranges.readRange
      rw [List.flatMap_cons, List.length_append, ih, Ranges.length_places, Ranges.ofTexts,
        List.size_toArray, hsize, Nat.mul_add]

/-! ## The tables of derived properties -/

set_option maxRecDepth 2000 in
theorem written_changes : ∃ n, Written Category.changes n ∧ n ≤ 4010 := by
  constructor
  constructor
  · -- unification takes each literal apart, which evaluation would take very long for
    repeat apply Written.line
    exact Written.nil
  · decide

theorem tabulated_derived : ∃ n, Tabulated [otherAlphabetic, otherLowercase, otherUppercase,
    otherMath, otherIdentifierStart, otherIdentifierContinue, notClosedStart, notClosedContinue,
    otherGraphemeExtend, otherCaseIgnorable] n ∧ n ≤ 485 := by
  constructor
  constructor
  · repeat
      apply Tabulated.table
      · repeat apply Written.line
        exact Written.nil
    exact Tabulated.nil
  · decide

/-- There are not many places where a derived property may change. -/
theorem length_derivedPlaces_le : derivedPlaces.length ≤ 5000 := by
  obtain ⟨n, hchanges, hn⟩ := written_changes
  obtain ⟨k, htables, hk⟩ := tabulated_derived
  have hcategories : Category.places.length = n := by
    rw [Category.places, List.length_map, Category.table]
    exact hchanges.length_eq Category.readChange
  rw [derivedPlaces, List.length_append, List.length_append, hcategories, htables.length_places]
  simp only [List.length_cons, List.length_nil]
  omega

end FirmwareBench.Unicode
