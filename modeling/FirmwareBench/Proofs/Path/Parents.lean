import FirmwareBench.Proofs.Path.Components

/-!
# Parents of paths

The parent of a path is found from the end of its pieces. Seen from the front, it is the shortest
stretch of the path that has all components but the last one. So a path has fewer and fewer
components on the way up, and the way ends.

## Main definitions

* `Path.IsParent`: what the parent of a path is, said without its pieces.
* `Path.Climbs`: a path with its parents, one after the other, until there is none.
* `Path.Encloses`: a path is written around another.

## Main statements

* `Path.parent?_eq_some_iff`: the parent is the shortest stretch with the other components.
* `Path.climbs_iff`: the way up ends, and `climb` is all of it.
* `Path.Climbs.exists_mem_of_encloses`: nothing that is written around a path is missing on the way
  up from it.
-/

set_option autoImplicit false

namespace FirmwareBench.Path

/-- A path is the parent of another: the shortest front of its text with all components but the
last one. -/
structure IsParent (parent p : Path) : Prop where
  /-- The parent is written at the front of the path. -/
  written : parent.chars <+: p.chars
  absolute : parent.isAbsolute = p.isAbsolute
  /-- One component is missing. -/
  components : ∃ name, p.components = parent.components ++ [name]
  /-- Nothing stands behind the other components. -/
  shortest : ∀ other : Path, other.chars <+: p.chars → other.components = parent.components →
    parent.chars <+: other.chars

/-- A path with its parents, one after the other, until there is none. -/
inductive Climbs : Path → List Path → Prop
  | last {p : Path} (hnone : ∀ parent : Path, ¬ parent.IsParent p) : Climbs p [p]
  | next {p parent : Path} {list : List Path} (hparent : parent.IsParent p)
      (hrest : Climbs parent list) : Climbs p (p :: list)

/-- A path is written around another one, which it may be itself: it stands at the root and at the
front of the other, with fewer components. -/
inductive Encloses : Path → Path → Prop
  | self (p : Path) : Encloses p p
  /-- A path with fewer components. -/
  | above {dir p : Path} (habsolute : dir.isAbsolute = true) (hwritten : dir.chars <+: p.chars)
      (hmore : ∃ names, names ≠ [] ∧ p.components = dir.components ++ names) : Encloses dir p

variable {p q : Path} {relative : Bool} {piece : List Char} {before pieces : List (List Char)}

/-! ## Without what names nothing at the end -/

theorem dropIdle_cons_of_not (h : isSkipped relative piece before = false) :
    dropIdle relative (piece :: before) = piece :: before := by
  rw [dropIdle, ← isSkipped, if_neg (by simp [h])]

theorem dropIdle_cons_of_isSkipped (h : isSkipped relative piece before = true) :
    dropIdle relative (piece :: before) = dropIdle relative before := by
  rw [dropIdle, ← isSkipped, if_pos h]

/-- What is dropped names nothing. -/
theorem namesFrom_dropIdle (relative : Bool) (pieces : List (List Char)) :
    namesFrom relative (dropIdle relative pieces) = namesFrom relative pieces := by
  induction pieces with
  | nil => rfl
  | cons piece before ih =>
      cases hpiece : isSkipped relative piece before with
      | true => rw [dropIdle_cons_of_isSkipped hpiece, namesFrom_cons_of_isSkipped hpiece, ih]
      | false => rw [dropIdle_cons_of_not hpiece]

/-- What is left begins with a name. -/
theorem not_isSkipped_of_dropIdle (h : dropIdle relative pieces = piece :: before) :
    isSkipped relative piece before = false := by
  induction pieces with
  | nil => simp [dropIdle] at h
  | cons first rest ih =>
      cases hfirst : isSkipped relative first rest with
      | true =>
          rw [dropIdle_cons_of_isSkipped hfirst] at h
          exact ih h
      | false =>
          obtain ⟨rfl, rfl⟩ : first = piece ∧ rest = before := by
            simpa [dropIdle_cons_of_not hfirst] using h
          exact hfirst

theorem dropIdle_suffix (relative : Bool) (pieces : List (List Char)) :
    dropIdle relative pieces <:+ pieces := by
  induction pieces with
  | nil => exact List.suffix_refl _
  | cons piece before ih =>
      cases hpiece : isSkipped relative piece before with
      | true =>
          rw [dropIdle_cons_of_isSkipped hpiece]
          exact ih.trans (List.suffix_cons _ _)
      | false =>
          rw [dropIdle_cons_of_not hpiece]

theorem dropIdle_eq_nil_iff : dropIdle relative pieces = [] ↔ namesFrom relative pieces = [] := by
  rw [← namesFrom_dropIdle]
  cases hdrop : dropIdle relative pieces with
  | nil => simp [namesFrom]
  | cons piece before =>
      rw [namesFrom_cons_of_not (not_isSkipped_of_dropIdle hdrop)]
      simp

/-- A path ends with a name, or has nothing behind its root. -/
def EndsWithName (p : Path) : Prop :=
  p.inner = [] ∨ ∃ name before, (Text.splitAt '/' p.inner).reverse = name :: before ∧
    isSkipped (!p.isAbsolute) name before = false

/-- **No front of a path that ends with a name has all its components.** -/
theorem EndsWithName.eq_of_front {p q : Path} (h : q.EndsWithName) (hfront : p.chars <+: q.chars)
    (hcomponents : p.components = q.components) : p = q := by
  have habsolute : p.isAbsolute = q.isAbsolute := by
    by_cases hne : p.chars = []
    · rw [components_of_chars_eq_nil hne] at hcomponents
      have hroot : q.isAbsolute = false := by
        by_contra hq
        rw [Bool.not_eq_false] at hq
        simp [components_eq q, hq] at hcomponents
      rw [hroot, isAbsolute, hne]
      rfl
    · exact isAbsolute_eq_of_front hfront hne
  have hinner := (chars_prefix_iff habsolute).mp hfront
  refine ext_inner habsolute ?_
  rcases h with hnil | ⟨name, rest, hend, hname⟩
  · rw [hnil] at hinner ⊢
    exact List.prefix_nil.mp hinner
  obtain ⟨before, part, more, behind, hp, hq⟩ := exists_reverse_splitAt hinner
  have hnames : namesFrom (!q.isAbsolute) (part :: before) =
      namesFrom (!q.isAbsolute) (name :: rest) := by
    rw [components_eq p, components_eq q, habsolute, hp, hend] at hcomponents
    exact List.reverse_injective (List.append_cancel_left hcomponents)
  rw [namesFrom_cons_of_not hname] at hnames
  rw [hq] at hend
  cases behind with
  | nil =>
      -- the last piece of the front is the last name, or a part of it
      obtain ⟨rfl, rfl⟩ : part ++ more = name ∧ before = rest := by simpa using hend
      cases hpart : isSkipped (!q.isAbsolute) part before with
      | true =>
          rw [namesFrom_cons_of_isSkipped hpart] at hnames
          exact absurd (congrArg List.length hnames) (by simp)
      | false =>
          rw [namesFrom_cons_of_not hpart] at hnames
          have hself : part = part ++ more := (List.cons.inj hnames).1
          have hsplit : Text.splitAt '/' p.inner = Text.splitAt '/' q.inner := by
            rw [← List.reverse_inj, hp, hq, List.nil_append, ← hself]
          rw [← Text.intercalate_splitAt '/' p.inner, hsplit, Text.intercalate_splitAt]
  | cons first behind =>
      -- the last name is behind the front
      obtain ⟨rfl, rfl⟩ : first = name ∧ behind ++ (part ++ more) :: before = rest := by
        simpa using hend
      have hle := (length_namesFrom_le_cons (!q.isAbsolute) part more before).trans
        (length_namesFrom_le_append (!q.isAbsolute) behind _)
      rw [hnames, List.length_cons] at hle
      omega

/-! ## Parents -/

theorem parent?_eq (p : Path) :
    p.parent? = match dropIdle (!p.isAbsolute) (Text.splitAt '/' p.inner).reverse with
      | [] => none
      | _ :: before =>
        some ⟨p.root ++ ['/'].intercalate (dropIdle (!p.isAbsolute) before).reverse⟩ := by
  by_cases h : p.isAbsolute = true
  · have hpieces : p.pieces.tail = Text.splitAt '/' p.inner := by
      rw [pieces_of_isAbsolute h, List.tail_cons]
    simp only [parent?, h, hpieces, root, if_true, Bool.not_true]
    rfl
  · have hpieces : p.pieces = Text.splitAt '/' p.inner := by simp [pieces, inner, h]
    rw [Bool.not_eq_true] at h
    simp only [parent?, h, hpieces, root, Bool.false_eq_true, if_false, Bool.not_false]
    rfl

theorem intercalate_prefix (mark : Char) (front back : List (List Char)) :
    [mark].intercalate front <+: [mark].intercalate (front ++ back) := by
  by_cases hfront : front = []
  · simp [hfront, List.intercalate]
  by_cases hback : back = []
  · rw [hback, List.append_nil]
  · rw [Text.intercalate_append hfront hback, List.append_assoc]
    exact List.prefix_append _ _

/-- A path is written with the root and the first pieces of another one, which are given in reverse
order. -/
structure IsStretch (kept : List (List Char)) (q p : Path) : Prop where
  /-- The pieces are the first ones. -/
  pieces : kept.reverse <+: Text.splitAt '/' p.inner
  /-- The path is the root with these pieces. -/
  chars : q.chars = p.root ++ ['/'].intercalate kept.reverse

section

variable {kept : List (List Char)} (h : IsStretch kept q p)

include h

theorem IsStretch.written : q.chars <+: p.chars := by
  obtain ⟨back, hback⟩ := h.pieces
  rw [h.chars, chars_eq p, List.prefix_append_right_inj, ← Text.intercalate_splitAt '/' p.inner,
    ← hback]
  exact intercalate_prefix '/' _ _

theorem IsStretch.isAbsolute_eq : q.isAbsolute = p.isAbsolute := by
  by_cases hne : q.chars = []
  · have hroot : p.isAbsolute = false := by
      by_contra hp
      rw [Bool.not_eq_false] at hp
      have hchars := h.chars
      simp [root, hp, hne] at hchars
    rw [hroot, isAbsolute, hne]
    rfl
  · exact isAbsolute_eq_of_front h.written hne

theorem IsStretch.inner_eq : q.inner = ['/'].intercalate kept.reverse := by
  have hroot : q.root = p.root := by rw [root, root, h.isAbsolute_eq]
  have hchars := h.chars
  rw [chars_eq q, hroot] at hchars
  exact List.append_cancel_left hchars

theorem IsStretch.splitAt_inner (hne : kept ≠ []) :
    (Text.splitAt '/' q.inner).reverse = kept := by
  rw [h.inner_eq, Text.splitAt_intercalate (by simpa using hne), List.reverse_reverse]
  exact fun piece hpiece => Text.not_mem_of_mem_splitAt (h.pieces.subset hpiece)

theorem IsStretch.namesFrom_inner (relative : Bool) :
    namesFrom relative (Text.splitAt '/' q.inner).reverse = namesFrom relative kept := by
  by_cases hnil : kept = []
  · -- without pieces there is still an empty one, which names nothing
    rw [h.inner_eq, hnil]
    rfl
  · rw [h.splitAt_inner hnil]

/-- Where nothing is left that names nothing, the path ends with a name. -/
theorem IsStretch.endsWithName {before : List (List Char)}
    (hkept : dropIdle (!p.isAbsolute) before = kept) : q.EndsWithName := by
  cases hfirst : kept with
  | nil =>
      refine .inl ?_
      rw [h.inner_eq, hfirst]
      rfl
  | cons first rest =>
      refine .inr ⟨first, rest, ?_, ?_⟩
      · rw [h.splitAt_inner (by simp [hfirst]), hfirst]
      · rw [h.isAbsolute_eq]
        exact not_isSkipped_of_dropIdle (hkept.trans hfirst)

end

/-- **The parent of a path** as it is found from the end: what is left in front of the last name
when that is dropped with all that names nothing around it. -/
theorem isParent_of_parent? {parent : Path} (h : p.parent? = some parent) : parent.IsParent p := by
  rw [parent?_eq] at h
  cases hdrop : dropIdle (!p.isAbsolute) (Text.splitAt '/' p.inner).reverse with
  | nil => simp [hdrop] at h
  | cons name before =>
      have hlast := not_isSkipped_of_dropIdle hdrop
      have hstretch : IsStretch (dropIdle (!p.isAbsolute) before) parent p := by
        rw [hdrop] at h
        refine ⟨?_, by rw [← Option.some.inj h]⟩
        have hdropped := dropIdle_suffix (!p.isAbsolute) (Text.splitAt '/' p.inner).reverse
        rw [hdrop] at hdropped
        have hkept := dropIdle_suffix (!p.isAbsolute) before
        simpa using List.reverse_prefix.mpr
          (hkept.trans ((List.suffix_cons name before).trans hdropped))
      have hcomponents : p.components = parent.components ++ [name] := by
        rw [components_eq p, components_eq parent, hstretch.isAbsolute_eq,
          hstretch.namesFrom_inner, namesFrom_dropIdle,
          ← namesFrom_dropIdle _ (Text.splitAt '/' p.inner).reverse, hdrop,
          namesFrom_cons_of_not hlast, List.reverse_cons, List.append_assoc]
      refine ⟨hstretch.written, hstretch.isAbsolute_eq, ⟨name, hcomponents⟩, ?_⟩
      intro other hother hsame
      rcases List.prefix_or_prefix_of_prefix hstretch.written hother with hshorter | hlonger
      · exact hshorter
      · rw [(hstretch.endsWithName rfl).eq_of_front hlonger hsame]

theorem IsParent.unique {parent other : Path} (h : parent.IsParent p) (hother : other.IsParent p) :
    parent = other := by
  obtain ⟨name, hname⟩ := h.components
  obtain ⟨name', hname'⟩ := hother.components
  have hsame : parent.components = other.components :=
    (List.append_inj' (hname.symm.trans hname') rfl).1
  have hchars : parent.chars = other.chars :=
    (h.shortest other hother.written hsame.symm).eq_of_length
      (Nat.le_antisymm (h.shortest other hother.written hsame.symm).length_le
        (hother.shortest parent h.written hsame).length_le)
  rcases parent with ⟨first⟩
  rcases other with ⟨second⟩
  exact congrArg Path.mk hchars

theorem IsParent.length_components {parent : Path} (h : parent.IsParent p) :
    p.components.length = parent.components.length + 1 := by
  obtain ⟨name, hname⟩ := h.components
  rw [hname, List.length_append, List.length_singleton]

theorem IsParent.components_prefix {parent : Path} (h : parent.IsParent p) :
    parent.components <+: p.components := by
  obtain ⟨name, hname⟩ := h.components
  exact ⟨[name], hname.symm⟩

/-- The empty path has no parent. -/
theorem IsParent.ne_nil {parent : Path} (h : parent.IsParent p) : p.chars ≠ [] := by
  intro hnil
  have hlength := h.length_components
  rw [components_of_chars_eq_nil hnil, List.length_nil] at hlength
  omega

/-- **The parent is the shortest stretch with all components but the last.** -/
theorem parent?_eq_some_iff {parent : Path} : p.parent? = some parent ↔ parent.IsParent p := by
  constructor
  · exact isParent_of_parent?
  · intro h
    cases hfound : p.parent? with
    | some other => rw [(isParent_of_parent? hfound).unique h]
    | none =>
        -- without a name behind the root there is no component that the parent could lack
        rw [parent?_eq] at hfound
        cases hdrop : dropIdle (!p.isAbsolute) (Text.splitAt '/' p.inner).reverse with
        | cons name before => simp [hdrop] at hfound
        | nil =>
            have hlength := h.length_components
            rw [components_eq p, components_eq parent, h.absolute,
              dropIdle_eq_nil_iff.mp hdrop] at hlength
            simp at hlength
            omega

/-- A path without a parent has no component but the root. -/
theorem length_components_of_forall_not_isParent (h : ∀ parent : Path, ¬ parent.IsParent p) :
    p.components.length ≤ 1 := by
  cases hdrop : dropIdle (!p.isAbsolute) (Text.splitAt '/' p.inner).reverse with
  | nil =>
      rw [components_eq p, dropIdle_eq_nil_iff.mp hdrop]
      split_ifs <;> simp
  | cons name before =>
      have hfound := parent?_eq p
      rw [hdrop] at hfound
      exact absurd (parent?_eq_some_iff.mp hfound) (h _)

/-! ## The way up -/

/-- A path has no more components than pieces. -/
theorem length_components_le_pieces (p : Path) : p.components.length ≤ p.pieces.length := by
  rw [components]
  cases hpieces : p.pieces with
  | nil => simp
  | cons first rest =>
      have hfilter := List.length_filter_le (fun piece => !isIdle piece) rest
      simp only [List.length_append, List.length_cons]
      split_ifs <;> simp <;> omega

theorem climbs_climbUpTo {count : Nat} (h : p.components.length ≤ count) :
    Climbs p (climbUpTo count p) := by
  induction count generalizing p with
  | zero =>
      refine .last fun parent hparent => ?_
      have hlength := hparent.length_components
      omega
  | succ count ih =>
      rw [climbUpTo]
      cases hfound : p.parent? with
      | none =>
          refine .last fun parent hparent => ?_
          rw [parent?_eq_some_iff.mpr hparent] at hfound
          cases hfound
      | some parent =>
          have hparent := parent?_eq_some_iff.mp hfound
          have hlength := hparent.length_components
          exact .next hparent (ih (by omega))

theorem Climbs.unique {list other : List Path} (h : Climbs p list) (hother : Climbs p other) :
    list = other := by
  induction h generalizing other with
  | last hnone =>
      cases hother with
      | last _ => rfl
      | next hparent _ => exact absurd hparent (hnone _)
  | next hparent _ ih =>
      cases hother with
      | last hnone => exact absurd hparent (hnone _)
      | next hparent' hrest =>
          obtain rfl := hparent.unique hparent'
          rw [ih hrest]

/-- **The way up ends**, and `climb` is all of it. -/
theorem climbs_iff {list : List Path} : Climbs p list ↔ list = p.climb := by
  have hclimb : Climbs p p.climb := climbs_climbUpTo (length_components_le_pieces p)
  constructor
  · exact fun h => h.unique hclimb
  · rintro rfl
    exact hclimb

/-- The way up from a path with dots and slashes that name nothing; the dot at its front does. -/
example : (ofString "./a//./b/.").climb.map text = ["./a//./b/.", "./a", ".", ""] := by decide

/-! ## What is on the way up -/

theorem Climbs.mem_head {list : List Path} (h : Climbs p list) : p ∈ list := by
  cases h with
  | last _ => exact List.mem_cons_self
  | next _ _ => exact List.mem_cons_self

/-- What is written around an absolute path is absolute. -/
theorem Encloses.isAbsolute {dir : Path} (h : dir.Encloses p) (habsolute : p.isAbsolute = true) :
    dir.isAbsolute = true := by
  cases h with
  | self => exact habsolute
  | above hroot _ _ => exact hroot

/-- What is written around the parent is written around the path. -/
theorem IsParent.encloses {dir parent : Path} (h : parent.IsParent p)
    (habsolute : p.isAbsolute = true) (hdir : dir.Encloses parent) : dir.Encloses p := by
  obtain ⟨name, hname⟩ := h.components
  cases hdir with
  | self =>
      exact .above (h.absolute.trans habsolute) h.written ⟨[name], by simp, hname⟩
  | above hroot hwritten hmore =>
      obtain ⟨names, -, hcomponents⟩ := hmore
      refine .above hroot (hwritten.trans h.written) ⟨names ++ [name], by simp, ?_⟩
      rw [hname, hcomponents, List.append_assoc]

/-- All that is on the way up from an absolute path is written around it. -/
theorem Climbs.encloses {list : List Path} (h : Climbs p list) (habsolute : p.isAbsolute = true) :
    ∀ dir ∈ list, dir.Encloses p := by
  induction h with
  | last _ =>
      intro dir hdir
      rw [List.mem_singleton.mp hdir]
      exact .self _
  | next hparent _ ih =>
      intro dir hdir
      rcases List.mem_cons.mp hdir with rfl | hdir
      · exact .self _
      · exact hparent.encloses habsolute (ih (hparent.absolute.trans habsolute) dir hdir)

/-- What is written around a path and has fewer components has no more than its parent, and stands
at the front of the parent unless it has as many. -/
theorem IsParent.of_encloses {dir parent : Path} {names : List (List Char)} (h : parent.IsParent p)
    (hwritten : dir.chars <+: p.chars) (hne : names ≠ [])
    (hcomponents : p.components = dir.components ++ names) :
    parent.components = dir.components ∧ parent.chars <+: dir.chars ∨
      dir.chars <+: parent.chars ∧
        ∃ names, names ≠ [] ∧ parent.components = dir.components ++ names := by
  obtain ⟨name, hname⟩ := h.components
  obtain ⟨fewer, last, rfl⟩ := (List.eq_nil_or_concat names).resolve_left hne
  have hparent : parent.components = dir.components ++ fewer := by
    rw [hname, List.concat_eq_append, ← List.append_assoc] at hcomponents
    exact (List.append_inj' hcomponents rfl).1
  by_cases hnil : fewer = []
  · rw [hnil, List.append_nil] at hparent
    exact .inl ⟨hparent, h.shortest dir hwritten hparent.symm⟩
  · refine .inr ⟨?_, fewer, hnil, hparent⟩
    rcases List.prefix_or_prefix_of_prefix hwritten h.written with hfront | hback
    · exact hfront
    · -- a longer path would have as many components as the parent
      have hle := length_components_le hback
      have hpos := List.length_pos_of_ne_nil hnil
      rw [hparent, List.length_append] at hle
      omega

/-- **Nothing that is written around a path is missing on the way up**, but it may be written with
more slashes and dots at its end. -/
theorem Climbs.exists_mem_of_encloses {dir : Path} {list : List Path} (h : Climbs p list)
    (hdir : dir.Encloses p) :
    ∃ q ∈ list, q.components = dir.components ∧ q.chars <+: dir.chars := by
  induction h with
  | @last p hnone =>
      cases hdir with
      | self => exact ⟨_, List.mem_cons_self, rfl, List.prefix_refl _⟩
      | above habsolute hwritten hmore =>
          obtain ⟨names, hne, hcomponents⟩ := hmore
          have hone := length_components_of_forall_not_isParent hnone
          have hpos := List.length_pos_of_ne_nil hne
          rw [hcomponents, components_of_isAbsolute habsolute, List.length_append,
            List.length_cons] at hone
          omega
  | @next p parent list hparent hrest ih =>
      cases hdir with
      | self => exact ⟨_, List.mem_cons_self, rfl, List.prefix_refl _⟩
      | above habsolute hwritten hmore =>
          obtain ⟨names, hne, hcomponents⟩ := hmore
          rcases hparent.of_encloses hwritten hne hcomponents with ⟨hsame, hfront⟩ | ⟨hfront, hmore⟩
          · exact ⟨parent, List.mem_cons_of_mem _ hrest.mem_head, hsame, hfront⟩
          · obtain ⟨q, hq, hfound⟩ := ih (.above habsolute hfront hmore)
            exact ⟨q, List.mem_cons_of_mem _ hq, hfound⟩

theorem Climbs.components_prefix {list : List Path} (h : Climbs p list) :
    ∀ q ∈ list, q.components <+: p.components := by
  induction h with
  | last _ =>
      intro q hq
      rw [List.mem_singleton.mp hq]
  | next hparent _ ih =>
      intro q hq
      rcases List.mem_cons.mp hq with rfl | hq
      · exact List.prefix_refl _
      · exact (ih q hq).trans hparent.components_prefix

/-- On the way up components are left out at the end. -/
theorem Climbs.pairwise {list : List Path} (h : Climbs p list) :
    list.Pairwise fun lower upper => upper.components <+: lower.components := by
  induction h with
  | last _ => exact List.pairwise_singleton _ _
  | next hparent hrest ih =>
      refine List.pairwise_cons.mpr ⟨fun q hq => ?_, ih⟩
      exact (hrest.components_prefix q hq).trans hparent.components_prefix

end FirmwareBench.Path
