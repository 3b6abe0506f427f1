import Mathlib.Data.List.Basic

/-!
# The first and the last of a list

A search goes through a list and stops at the first element that has a property; going through a
list with a function that can fail stops at the first element at which it does. Both are said here
without the search: the list falls into a front without such an element, the element, and what
stands behind it, which does not matter. Where the elements write over each other it is the last one
that matters, and what stands in front of it does not.

## Main definitions

* `IsFirst`: an element is the first one that has a property.
* `IsLast`: an element is the last one that has a property.

## Main statements

* `find?_eq_some_iff_isFirst`: a search finds the first element.
* `mapM_eq_error_iff`: going through a list fails as it does at the first element at which it fails.
* `isLast_iff_getElem?`: the last element by its position.
-/

set_option autoImplicit false

namespace FirmwareBench

/-- `a` is the first element of the list that has the property. -/
def IsFirst {α : Type} (p : α → Prop) (list : List α) (a : α) : Prop :=
  ∃ front back, list = front ++ a :: back ∧ p a ∧ ∀ other ∈ front, ¬ p other

section

variable {α : Type} {p q : α → Prop} {list : List α} {a : α}

theorem not_isFirst_nil : ¬ IsFirst p [] a := by
  rintro ⟨front, back, hlist, -, -⟩
  simp at hlist

/-- The first of a list is its head, if that has the property, and else the first of its tail. -/
theorem isFirst_cons {head : α} :
    IsFirst p (head :: list) a ↔ p head ∧ a = head ∨ ¬ p head ∧ IsFirst p list a := by
  constructor
  · rintro ⟨front, back, hlist, ha, hfront⟩
    cases front with
    | nil =>
        obtain ⟨rfl, rfl⟩ : head = a ∧ list = back := by simpa using hlist
        exact .inl ⟨ha, rfl⟩
    | cons first front =>
        obtain ⟨rfl, rfl⟩ : head = first ∧ list = front ++ a :: back := by simpa using hlist
        obtain ⟨hfirst, hrest⟩ := List.forall_mem_cons.mp hfront
        exact .inr ⟨hfirst, front, back, rfl, ha, hrest⟩
  · rintro (⟨hhead, rfl⟩ | ⟨hhead, front, back, rfl, ha, hfront⟩)
    · exact ⟨[], list, rfl, hhead, by simp⟩
    · exact ⟨head :: front, back, rfl, ha, List.forall_mem_cons.mpr ⟨hhead, hfront⟩⟩

theorem IsFirst.mem (h : IsFirst p list a) : a ∈ list := by
  obtain ⟨front, back, rfl, -, -⟩ := h
  simp

theorem IsFirst.prop (h : IsFirst p list a) : p a := by
  obtain ⟨-, -, -, ha, -⟩ := h
  exact ha

/-- What the property is outside the list does not matter. -/
theorem isFirst_congr (h : ∀ a ∈ list, (p a ↔ q a)) : IsFirst p list a ↔ IsFirst q list a := by
  induction list with
  | nil => simp [not_isFirst_nil]
  | cons head rest ih =>
      obtain ⟨hhead, hrest⟩ := List.forall_mem_cons.mp h
      rw [isFirst_cons, isFirst_cons, hhead, ih hrest]

/-- There is a first element with the property if there is any. -/
theorem exists_isFirst_iff : (∃ a, IsFirst p list a) ↔ ∃ a ∈ list, p a := by
  constructor
  · rintro ⟨a, h⟩
    exact ⟨a, h.mem, h.prop⟩
  · intro h
    induction list with
    | nil => simp at h
    | cons head rest ih =>
        by_cases hhead : p head
        · exact ⟨head, isFirst_cons.mpr (.inl ⟨hhead, rfl⟩)⟩
        · have hrest : ∃ a ∈ rest, p a := by simpa [hhead] using h
          obtain ⟨a, ha⟩ := ih hrest
          exact ⟨a, isFirst_cons.mpr (.inr ⟨hhead, ha⟩)⟩

/-- Elements without the property may be left out. -/
theorem isFirst_filter {test : α → Bool} (htest : ∀ a, p a → test a = true) :
    IsFirst p (list.filter test) a ↔ IsFirst p list a := by
  induction list with
  | nil => simp
  | cons head rest ih =>
      by_cases hhead : test head = true
      · rw [List.filter_cons_of_pos hhead, isFirst_cons, isFirst_cons, ih]
      · have hnot : ¬ p head := fun h => hhead (htest head h)
        rw [List.filter_cons_of_neg hhead, isFirst_cons, ih]
        simp [hnot]

/-- **A search finds the first element.** -/
theorem find?_eq_some_iff_isFirst {test : α → Bool} (htest : ∀ a, test a = true ↔ p a) :
    list.find? test = some a ↔ IsFirst p list a := by
  have hfalse : ∀ a, test a = false ↔ ¬ p a := by
    intro a
    rw [← htest a, Bool.not_eq_true]
  rw [List.find?_eq_some_iff_append, htest]
  constructor
  · rintro ⟨ha, front, back, rfl, hfront⟩
    refine ⟨front, back, rfl, ha, fun other hother => (hfalse other).mp ?_⟩
    simpa using hfront other hother
  · rintro ⟨front, back, rfl, ha, hfront⟩
    refine ⟨ha, front, back, rfl, fun other hother => ?_⟩
    simpa using (hfalse other).mpr (hfront other hother)

end

/-! ## The last of a list -/

/-- `a` is the last element of the list that has the property. -/
def IsLast {α : Type} (p : α → Prop) (list : List α) (a : α) : Prop :=
  ∃ front back, list = front ++ a :: back ∧ p a ∧ ∀ other ∈ back, ¬ p other

section

variable {α : Type} {p : α → Prop} {list : List α} {a : α}

theorem IsLast.mem (h : IsLast p list a) : a ∈ list := by
  obtain ⟨front, back, rfl, -, -⟩ := h
  simp

theorem IsLast.prop (h : IsLast p list a) : p a := by
  obtain ⟨-, -, -, ha, -⟩ := h
  exact ha

/-- The last of a list is the first of the list read backwards. -/
theorem isLast_iff_isFirst_reverse : IsLast p list a ↔ IsFirst p list.reverse a := by
  constructor
  · rintro ⟨front, back, rfl, ha, hback⟩
    exact ⟨back.reverse, front.reverse, by simp, ha, by simpa using hback⟩
  · rintro ⟨front, back, hlist, ha, hfront⟩
    refine ⟨back.reverse, front.reverse, ?_, ha, by simpa using hfront⟩
    rw [← List.reverse_reverse list, hlist]
    simp

/-- The last of a list stands at a position behind which there is no other. -/
theorem isLast_iff_getElem? :
    IsLast p list a ↔ ∃ i : Nat, list[i]? = some a ∧ p a ∧
      ∀ j : Nat, i < j → ∀ other, list[j]? = some other → ¬ p other := by
  constructor
  · rintro ⟨front, back, rfl, ha, hback⟩
    refine ⟨front.length, by simp, ha, fun j hj other hother => hback other ?_⟩
    have hbehind : j - front.length = (j - front.length - 1) + 1 := by omega
    rw [List.getElem?_append_right (Nat.le_of_lt hj), hbehind, List.getElem?_cons_succ] at hother
    exact List.mem_of_getElem? hother
  · rintro ⟨i, hi, ha, hbehind⟩
    obtain ⟨hlt, rfl⟩ := List.getElem?_eq_some_iff.mp hi
    refine ⟨list.take i, list.drop (i + 1), by simp, ha, fun other hother => ?_⟩
    obtain ⟨j, hj, rfl⟩ := List.mem_iff_getElem.mp hother
    rw [List.length_drop] at hj
    rw [List.getElem_drop]
    exact hbehind (i + 1 + j) (by omega) _ (List.getElem?_eq_getElem _)

/-- There is a last element with the property if there is any. -/
theorem exists_isLast_iff : (∃ a, IsLast p list a) ↔ ∃ a ∈ list, p a := by
  simp only [isLast_iff_isFirst_reverse, exists_isFirst_iff, List.mem_reverse]

/-- An element with the property is the last one if there is no other. -/
theorem isLast_iff_mem (hone : ∀ a ∈ list, ∀ b ∈ list, p a → p b → a = b) :
    IsLast p list a ↔ a ∈ list ∧ p a := by
  refine ⟨fun h => ⟨h.mem, h.prop⟩, fun ⟨hmem, ha⟩ => ?_⟩
  obtain ⟨b, hb⟩ := exists_isLast_iff.mpr ⟨a, hmem, ha⟩
  rwa [hone a hmem b hb.mem ha hb.prop]

end

/-! ## Going through a list -/

/-- **Going through a list fails at the first element at which it fails**, and as it does there. -/
theorem mapM_eq_error_iff {α β ε : Type} {f : α → Except ε β} {list : List α} {error : ε} :
    list.mapM f = .error error ↔
      ∃ a, IsFirst (fun a => ∃ error, f a = .error error) list a ∧ f a = .error error := by
  induction list with
  | nil => simp [pure, Except.pure, not_isFirst_nil]
  | cons head rest ih =>
      simp only [isFirst_cons]
      rw [List.mapM_cons]
      cases hhead : f head with
      | error own => simp [bind, Except.bind, hhead]
      | ok b =>
          -- nothing is wrong with the head, so the first failure is one of the tail
          cases hrest : rest.mapM f with
          | error own => simp [bind, Except.bind, ← ih, hrest]
          | ok others => simp [bind, Except.bind, pure, Except.pure, ← ih, hrest]

end FirmwareBench
