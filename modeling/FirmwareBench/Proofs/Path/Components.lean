import FirmwareBench.Path
import FirmwareBench.Proofs.Text.Pieces

/-!
# Components of paths

The two kinds of paths are treated alike: behind the root, if there is one, the names of a path are
its pieces less those that name nothing, where a dot at the front of a relative path names
something. The pieces are read from the end, so that those before a piece, which decide whether it
names something, are still to be read.

## Main definitions

* `Path.root`, `Path.inner`: a path falls into the root and what is behind it.
* `Path.namesFrom`: the pieces that name something.

## Main statements

* `Path.components_eq`: the components are the root and the names behind it.
* `Path.length_components_le`: a longer path has no fewer components.
-/

set_option autoImplicit false

namespace FirmwareBench.Path

/-! ## Behind the root -/

/-- The root at the front of an absolute path. -/
def root (p : Path) : List Char := if p.isAbsolute then ['/'] else []

/-- What a path has behind its root. -/
def inner (p : Path) : List Char := if p.isAbsolute then p.chars.tail else p.chars

/-- Whether a piece names nothing, with the pieces before it in reverse order. -/
def isSkipped (relative : Bool) (piece : List Char) (before : List (List Char)) : Bool :=
  piece.isEmpty || (piece == ['.'] && !(relative && before.isEmpty))

/-- The pieces in reverse order that name something. -/
def namesFrom (relative : Bool) : List (List Char) → List (List Char)
  | [] => []
  | piece :: before =>
    if isSkipped relative piece before then namesFrom relative before
    else piece :: namesFrom relative before

variable {p q : Path} {relative : Bool} {piece part more : List Char}
  {before pieces : List (List Char)}

theorem eq_cons_of_isAbsolute (h : p.isAbsolute = true) : p.chars = '/' :: p.chars.tail := by
  cases hchars : p.chars with
  | nil => simp [isAbsolute, hchars] at h
  | cons c rest =>
      obtain rfl : c = '/' := by simpa [isAbsolute, hchars] using h
      rfl

theorem ne_nil_of_isAbsolute (h : p.isAbsolute = true) : p.chars ≠ [] := by
  rw [eq_cons_of_isAbsolute h]
  exact List.cons_ne_nil _ _

/-- The first piece of an absolute path is the empty one in front of the root. -/
theorem pieces_of_isAbsolute (h : p.isAbsolute = true) :
    p.pieces = [] :: Text.splitAt '/' p.inner := by
  have hinner : p.inner = p.chars.tail := by simp [inner, h]
  rw [pieces, eq_cons_of_isAbsolute h, Text.splitAt, if_pos rfl, hinner]

theorem chars_eq (p : Path) : p.chars = p.root ++ p.inner := by
  by_cases h : p.isAbsolute = true
  · simpa [root, inner, h] using eq_cons_of_isAbsolute h
  · simp [root, inner, h]

/-- Where both or none of two paths start at the root, what they have behind it decides. -/
theorem chars_prefix_iff (h : p.isAbsolute = q.isAbsolute) :
    p.chars <+: q.chars ↔ p.inner <+: q.inner := by
  rw [chars_eq p, chars_eq q, root, root, h]
  exact List.prefix_append_right_inj _

theorem ext_inner (h : p.isAbsolute = q.isAbsolute) (hinner : p.inner = q.inner) : p = q := by
  have hchars : p.chars = q.chars := by rw [chars_eq p, chars_eq q, root, root, h, hinner]
  rcases p with ⟨first⟩
  rcases q with ⟨second⟩
  exact congrArg Path.mk hchars

/-- A front of a path starts at the root as the path does, unless it is empty. -/
theorem isAbsolute_eq_of_front (h : p.chars <+: q.chars) (hne : p.chars ≠ []) :
    p.isAbsolute = q.isAbsolute := by
  obtain ⟨rest, hrest⟩ := h
  obtain ⟨c, later, hchars⟩ := List.exists_cons_of_ne_nil hne
  simp [isAbsolute, ← hrest, hchars]

/-- The components of an absolute path are the root and the pieces that name something. -/
theorem components_of_isAbsolute (h : p.isAbsolute = true) :
    p.components = ['/'] :: p.pieces.filter fun piece => !isIdle piece := by
  simp [components, pieces_of_isAbsolute h, h, isIdle]

theorem components_of_chars_eq_nil (h : p.chars = []) : p.components = [] := by
  simp [components, pieces, isAbsolute, h, Text.splitAt]

/-! ## Names -/

theorem namesFrom_cons_of_not (h : isSkipped relative piece before = false) :
    namesFrom relative (piece :: before) = piece :: namesFrom relative before := by
  rw [namesFrom, if_neg (by simp [h])]

theorem namesFrom_cons_of_isSkipped (h : isSkipped relative piece before = true) :
    namesFrom relative (piece :: before) = namesFrom relative before := by
  rw [namesFrom, if_pos h]

theorem namesFrom_false (pieces : List (List Char)) :
    namesFrom false pieces = pieces.filter fun piece => !isIdle piece := by
  induction pieces with
  | nil => rfl
  | cons piece before ih =>
      have hskipped : isSkipped false piece before = isIdle piece := by simp [isSkipped, isIdle]
      rw [namesFrom, hskipped, ih, List.filter_cons]
      cases isIdle piece <;> simp

/-- A dot counts in front of a relative path only. -/
theorem namesFrom_true (pieces : List (List Char)) (first : List Char) :
    namesFrom true (pieces ++ [first]) =
      (pieces.filter fun piece => !isIdle piece) ++ if first.isEmpty then [] else [first] := by
  induction pieces with
  | nil => cases hfirst : first.isEmpty <;> simp [namesFrom, isSkipped, hfirst]
  | cons piece before ih =>
      have hfront : (before ++ [first]).isEmpty = false := by cases before <;> rfl
      have hskipped : isSkipped true piece (before ++ [first]) = isIdle piece := by
        simp [isSkipped, isIdle, hfront]
      rw [List.cons_append, namesFrom, hskipped, ih, List.filter_cons]
      cases isIdle piece <;> simp

/-- **The components of a path** are the root, if it starts there, and the names behind it. -/
theorem components_eq (p : Path) :
    p.components = (if p.isAbsolute then [['/']] else []) ++
      (namesFrom (!p.isAbsolute) (Text.splitAt '/' p.inner).reverse).reverse := by
  by_cases h : p.isAbsolute = true
  · simp [components, pieces_of_isAbsolute h, h, namesFrom_false, List.filter_reverse]
  · rw [Bool.not_eq_true] at h
    obtain ⟨first, rest, hpieces⟩ := List.exists_cons_of_ne_nil (Text.splitAt_ne_nil '/' p.chars)
    have hsplit : p.pieces = first :: rest := hpieces
    cases hfirst : first.isEmpty <;>
      simp [components, hsplit, h, inner, hpieces, namesFrom_true, List.filter_reverse, hfirst]

/-- With more pieces behind them, there are no fewer names. -/
theorem length_namesFrom_le_append (relative : Bool) (front pieces : List (List Char)) :
    (namesFrom relative pieces).length ≤ (namesFrom relative (front ++ pieces)).length := by
  induction front with
  | nil => exact Nat.le_refl _
  | cons piece front ih =>
      rw [List.cons_append, namesFrom]
      split
      · exact ih
      · rw [List.length_cons]
        omega

/-- A piece that names something still does so when it goes on. -/
theorem isSkipped_of_append (h : isSkipped relative (part ++ more) before = true) :
    isSkipped relative part before = true := by
  simp only [isSkipped, Bool.or_eq_true, Bool.and_eq_true, List.isEmpty_iff, beq_iff_eq,
    List.append_eq_nil_iff] at h ⊢
  rcases h with ⟨hpart, -⟩ | ⟨hdot, hfront⟩
  · exact .inl hpart
  · rcases List.append_eq_singleton_iff.mp hdot with ⟨hpart, -⟩ | ⟨hpart, -⟩
    · exact .inl hpart
    · exact .inr ⟨hpart, hfront⟩

theorem length_namesFrom_le_cons (relative : Bool) (part more : List Char)
    (before : List (List Char)) :
    (namesFrom relative (part :: before)).length ≤
      (namesFrom relative ((part ++ more) :: before)).length := by
  cases hall : isSkipped relative (part ++ more) before with
  | true =>
      rw [namesFrom_cons_of_isSkipped hall,
        namesFrom_cons_of_isSkipped (isSkipped_of_append hall)]
  | false =>
      rw [namesFrom_cons_of_not hall, List.length_cons, namesFrom]
      split
      · omega
      · rw [List.length_cons]

/-- Read from the end, a longer text has the pieces of its front behind more pieces, and the last
piece of the front goes on. -/
theorem exists_reverse_splitAt {front text : List Char} (h : front <+: text) :
    ∃ before part more behind, (Text.splitAt '/' front).reverse = part :: before ∧
      (Text.splitAt '/' text).reverse = behind ++ (part ++ more) :: before := by
  obtain ⟨back, rfl⟩ := h
  obtain ⟨before, part, more, behind, hfront, hall⟩ := Text.exists_splitAt_append '/' front back
  exact ⟨before.reverse, part, more, behind.reverse, by simp [hfront], by simp [hall]⟩

/-- **A longer path has no fewer components.** -/
theorem length_components_le (h : p.chars <+: q.chars) :
    p.components.length ≤ q.components.length := by
  by_cases hne : p.chars = []
  · rw [components_of_chars_eq_nil hne]
    exact Nat.zero_le _
  · have habsolute := isAbsolute_eq_of_front h hne
    obtain ⟨before, part, more, behind, hp, hq⟩ :=
      exists_reverse_splitAt ((chars_prefix_iff habsolute).mp h)
    rw [components_eq p, components_eq q, habsolute, hp, hq, List.length_append, List.length_append,
      List.length_reverse, List.length_reverse]
    refine Nat.add_le_add_left ?_ _
    exact (length_namesFrom_le_cons _ part more before).trans
      (length_namesFrom_le_append _ behind _)

end FirmwareBench.Path
