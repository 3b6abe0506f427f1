import FirmwareBench.Text.Cut
import Mathlib.Data.List.Nodup

/-!
# Replacing all placeholders at once

`fill` goes through a text once, from left to right. What it is for has no order: every occurrence
of a placeholder in the text is replaced by its value, and all else stays. The text is cut into
pieces for that, single characters and placeholders, so that every occurrence is a piece of its own.
What the pieces stand for makes up the result; nothing that has been filled in is looked at again.

Placeholders are names in braces. Two of them have no character in common in a text, which is why
there is only one way to cut it.

## Main definitions

* `IsPlaceholder`, `IsTable`: names in braces, and tables of them.
* `IsCutting`: a text cut at every occurrence of a placeholder.
* `Replaces`: the result of replacing them all at once.

## Main statements

* `IsTable.induction_on`: texts are made of characters and placeholders.
* `replaces_iff`: replacing all at once gives what `fill` does, and nothing else.
-/

set_option autoImplicit false

namespace FirmwareBench.Text

/-! ## Placeholders -/

/-- A name in braces; there is no brace in the name. -/
def IsPlaceholder (key : List Char) : Prop :=
  ∃ name, key = '\x7b' :: (name ++ ['\x7d']) ∧ '\x7b' ∉ name ∧ '\x7d' ∉ name

/-- A table of placeholders with their values. -/
structure IsTable (table : List (List Char × List Char)) : Prop where
  /-- The keys are placeholders. -/
  isPlaceholder : ∀ entry ∈ table, IsPlaceholder entry.1
  /-- No placeholder has two values. -/
  nodup : (table.map Prod.fst).Nodup

theorem IsPlaceholder.ne_nil {key : List Char} (h : IsPlaceholder key) : key ≠ [] := by
  obtain ⟨name, rfl, -, -⟩ := h
  simp

/-- A text begins with no more than one placeholder. -/
theorem IsPlaceholder.eq_of_append_eq {first second rest rest' : List Char}
    (hfirst : IsPlaceholder first) (hsecond : IsPlaceholder second)
    (h : first ++ rest = second ++ rest') : first = second := by
  obtain ⟨name, rfl, -, hname⟩ := hfirst
  obtain ⟨name', rfl, -, hname'⟩ := hsecond
  -- both names are what stands in front of the first closing brace
  have hcut : some (name, rest) = some (name', rest') := by
    rw [← cutAt?_append hname rest, ← cutAt?_append hname' rest']
    simpa using congrArg (cutAt? '\x7d' ·.tail) h
  rw [Option.some.injEq, Prod.mk.injEq] at hcut
  rw [hcut.1]

/-- **Placeholders do not overlap.** An occurrence that begins behind the front of a placeholder
begins behind all of it. -/
theorem IsPlaceholder.exists_of_append_eq {key key' before rest after : List Char}
    (hkey : IsPlaceholder key) (hkey' : IsPlaceholder key') (hbefore : before ≠ [])
    (h : key ++ rest = before ++ key' ++ after) :
    ∃ gap, before = key ++ gap ∧ rest = gap ++ key' ++ after := by
  rw [List.append_assoc] at h
  rcases List.append_eq_append_iff.mp h with ⟨gap, rfl, hrest⟩ | ⟨inside, hinside, hafter⟩
  · exact ⟨gap, rfl, by rw [hrest, List.append_assoc]⟩
  · cases inside with
    | nil => exact ⟨[], by simpa using hinside.symm, by simpa using hafter.symm⟩
    | cons c inside =>
        -- the second placeholder would begin inside the first one, with a brace in its name
        obtain ⟨name', rfl, -, -⟩ := hkey'
        obtain rfl : '\x7b' = c := by
          have hhead := congrArg List.head? hafter
          simpa using hhead
        obtain ⟨name, rfl, hname, -⟩ := hkey
        cases before with
        | nil => exact absurd rfl hbefore
        | cons d before =>
            have hmem : '\x7b' ∈ name ++ ['\x7d'] := by
              have htail := congrArg List.tail hinside
              simp only [List.tail_cons, List.cons_append] at htail
              simp [htail]
            simp [hname] at hmem

variable {table : List (List Char × List Char)}

/-- A placeholder has one value. -/
theorem IsTable.value_eq (htable : IsTable table) {key value value' : List Char}
    (h : (key, value) ∈ table) (h' : (key, value') ∈ table) : value = value' := by
  have hentry := List.inj_on_of_nodup_map htable.nodup h h' rfl
  exact (Prod.mk.injEq ..).mp hentry |>.2

/-- The placeholder that the pass finds is the one in the table that the text begins with. -/
theorem placeholderAt?_eq_some_iff (htable : IsTable table) {key value text : List Char} :
    placeholderAt? table text = some (key, value) ↔ (key, value) ∈ table ∧ key <+: text := by
  constructor
  · intro h
    exact ⟨List.mem_of_find?_eq_some h, by simpa using List.find?_some h⟩
  · rintro ⟨hmem, rest, rfl⟩
    cases hfound : placeholderAt? table (key ++ rest) with
    | none => simpa using List.find?_eq_none.mp hfound _ hmem
    | some found =>
        obtain ⟨key', value'⟩ := found
        have hmem' : (key', value') ∈ table := List.mem_of_find?_eq_some hfound
        obtain ⟨rest', hrest'⟩ : key' <+: key ++ rest := by simpa using List.find?_some hfound
        obtain rfl : key' = key :=
          (htable.isPlaceholder _ hmem').eq_of_append_eq (htable.isPlaceholder _ hmem) hrest'
        rw [htable.value_eq hmem hmem']

theorem placeholderAt?_eq_none_iff {text : List Char} :
    placeholderAt? table text = none ↔ ∀ entry ∈ table, ¬ entry.1 <+: text := by
  simp [placeholderAt?]

/-- **Texts are made of characters and placeholders.** What holds of the empty text, and goes on to
hold when a character at which no placeholder begins or a whole placeholder is put in front, holds
of every text. -/
@[elab_as_elim]
theorem IsTable.induction_on (htable : IsTable table) {motive : List Char → Prop}
    (text : List Char) (nil : motive [])
    (char : ∀ c rest, (∀ entry ∈ table, ¬ entry.1 <+: c :: rest) → motive rest → motive (c :: rest))
    (placeholder : ∀ key value rest, (key, value) ∈ table → motive rest → motive (key ++ rest)) :
    motive text := by
  -- on the length, because a placeholder is taken away as a whole
  induction hlength : text.length using Nat.strongRecOn generalizing text with
  | ind length ih =>
      cases text with
      | nil => exact nil
      | cons c rest =>
          cases hfound : placeholderAt? table (c :: rest) with
          | none =>
              have hrest : motive rest := ih rest.length (by simp [← hlength]) rest rfl
              exact char c rest (placeholderAt?_eq_none_iff.mp hfound) hrest
          | some entry =>
              obtain ⟨key, value⟩ := entry
              obtain ⟨hentry, later, hlater⟩ := (placeholderAt?_eq_some_iff htable).mp hfound
              have hpositive : 0 < key.length :=
                List.length_pos_iff.mpr (htable.isPlaceholder _ hentry).ne_nil
              rw [← hlater] at hlength ⊢
              rw [List.length_append] at hlength
              exact placeholder key value later hentry (ih later.length (by omega) later rfl)

/-! ## One step of the pass -/

theorem fillFrom_eq_fill_drop (table : List (List Char × List Char)) (skip : Nat)
    (text : List Char) : fillFrom table skip text = fill table (text.drop skip) := by
  induction text generalizing skip with
  | nil => cases skip <;> rfl
  | cons c rest ih =>
      cases skip with
      | zero => rfl
      | succ skip => rw [fillFrom, ih, List.drop_succ_cons]

@[simp] theorem fill_nil (table : List (List Char × List Char)) : fill table [] = [] := rfl

/-- A character at which no placeholder begins stays. -/
theorem fill_cons {c : Char} {rest : List Char} (h : ∀ entry ∈ table, ¬ entry.1 <+: c :: rest) :
    fill table (c :: rest) = c :: fill table rest := by
  rw [fill, fillFrom, placeholderAt?_eq_none_iff.mpr h]
  rfl

/-- A placeholder is replaced by its value, and the pass goes on behind it. -/
theorem fill_append (htable : IsTable table) {key value : List Char} (h : (key, value) ∈ table)
    (rest : List Char) : fill table (key ++ rest) = value ++ fill table rest := by
  have hfound : placeholderAt? table (key ++ rest) = some (key, value) :=
    (placeholderAt?_eq_some_iff htable).mpr ⟨h, List.prefix_append key rest⟩
  cases key with
  | nil => exact absurd rfl (htable.isPlaceholder _ h).ne_nil
  | cons c key =>
      rw [List.cons_append] at hfound ⊢
      rw [fill, fillFrom, hfound]
      simp [fillFrom_eq_fill_drop]

/-- A text in which no placeholder stands is left as it is. -/
theorem fill_eq_self {text : List Char} (h : ∀ entry ∈ table, ¬ entry.1 <:+: text) :
    fill table text = text := by
  induction text with
  | nil => rfl
  | cons c rest ih =>
      have hrest : ∀ entry ∈ table, ¬ entry.1 <:+: rest := fun entry hentry hoccurs =>
        h entry hentry (hoccurs.trans (List.suffix_cons c rest).isInfix)
      rw [fill_cons fun entry hentry hbegins => h entry hentry hbegins.isInfix, ih hrest]

/-! ## All at once -/

/-- A piece of a text. -/
inductive Piece where
  | char (c : Char)
  /-- A placeholder with its value. -/
  | placeholder (key value : List Char)

/-- What a piece looks like in the text. -/
def Piece.written : Piece → List Char
  | .char c => [c]
  | .placeholder key _ => key

/-- What a piece stands for. -/
def Piece.filled : Piece → List Char
  | .char c => [c]
  | .placeholder _ value => value

/-- The pieces make up the text, and each occurrence of a placeholder in it is one of them. -/
structure IsCutting (table : List (List Char × List Char)) (text : List Char)
    (pieces : List Piece) : Prop where
  /-- The pieces are what is written. -/
  written : pieces.flatMap Piece.written = text
  /-- Placeholders have the values of the table. -/
  known : ∀ key value, .placeholder key value ∈ pieces → (key, value) ∈ table
  /-- Wherever a placeholder stands in the text, there is a piece for it. -/
  complete : ∀ before key after, key ∈ table.map Prod.fst → text = before ++ key ++ after →
    ∃ front value back, pieces = front ++ .placeholder key value :: back ∧
      front.flatMap Piece.written = before

/-- The text with every occurrence of a placeholder replaced by its value, all of them at once and
with everything else unchanged, is `out`. -/
def Replaces (table : List (List Char × List Char)) (text out : List Char) : Prop :=
  ∃ pieces, IsCutting table text pieces ∧ out = pieces.flatMap Piece.filled

theorem IsCutting.nil (htable : IsTable table) : IsCutting table [] [] := by
  refine ⟨rfl, by simp, ?_⟩
  intro before key after hkey htext
  obtain ⟨entry, hentry, rfl⟩ := List.mem_map.mp hkey
  have hne := (htable.isPlaceholder _ hentry).ne_nil
  simp [hne] at htext

/-- A character at which no placeholder begins is a piece in front of the others. -/
theorem IsCutting.char {c : Char} {rest : List Char} {pieces : List Piece}
    (hrest : IsCutting table rest pieces) (h : ∀ entry ∈ table, ¬ entry.1 <+: c :: rest) :
    IsCutting table (c :: rest) (.char c :: pieces) := by
  refine ⟨by simp [Piece.written, hrest.written], ?_, ?_⟩
  · intro key value hmem
    exact hrest.known key value (by simpa using hmem)
  · intro before key after hkey htext
    cases before with
    | nil =>
        obtain ⟨entry, hentry, rfl⟩ := List.mem_map.mp hkey
        exact absurd ⟨after, htext.symm⟩ (h entry hentry)
    | cons d before =>
        obtain ⟨rfl, htail⟩ : c = d ∧ rest = before ++ key ++ after := by simpa using htext
        obtain ⟨front, value, back, rfl, rfl⟩ := hrest.complete before key after hkey htail
        exact ⟨.char c :: front, value, back, rfl, rfl⟩

/-- A placeholder is a piece in front of the others. -/
theorem IsCutting.placeholder (htable : IsTable table) {key value rest : List Char}
    {pieces : List Piece} (h : (key, value) ∈ table) (hrest : IsCutting table rest pieces) :
    IsCutting table (key ++ rest) (.placeholder key value :: pieces) := by
  have hkey := htable.isPlaceholder _ h
  refine ⟨by simp [Piece.written, hrest.written], ?_, ?_⟩
  · intro other otherValue hmem
    rcases List.mem_cons.mp hmem with hhead | hmem
    · obtain ⟨rfl, rfl⟩ : other = key ∧ otherValue = value := by simpa using hhead
      exact h
    · exact hrest.known other otherValue hmem
  · intro before other after hother htext
    obtain ⟨entry, hentry, rfl⟩ := List.mem_map.mp hother
    have hotherKey := htable.isPlaceholder entry hentry
    by_cases hbefore : before = []
    · subst hbefore
      obtain rfl := hkey.eq_of_append_eq hotherKey htext
      exact ⟨[], value, pieces, rfl, rfl⟩
    · obtain ⟨gap, rfl, hgap⟩ := hkey.exists_of_append_eq hotherKey hbefore htext
      obtain ⟨front, value', back, rfl, rfl⟩ := hrest.complete gap _ after hother hgap
      exact ⟨.placeholder key value :: front, value', back, rfl, rfl⟩

/-- Every text can be cut. -/
theorem exists_isCutting (htable : IsTable table) (text : List Char) :
    ∃ pieces, IsCutting table text pieces := by
  induction text using htable.induction_on with
  | nil => exact ⟨[], .nil htable⟩
  | char c rest hnone ih =>
      obtain ⟨pieces, hpieces⟩ := ih
      exact ⟨_, hpieces.char hnone⟩
  | placeholder key value rest hentry ih =>
      obtain ⟨pieces, hpieces⟩ := ih
      exact ⟨_, .placeholder htable hentry hpieces⟩

theorem IsCutting.written_ne_nil (htable : IsTable table) {text : List Char} {pieces : List Piece}
    (h : IsCutting table text pieces) : ∀ piece ∈ pieces, piece.written ≠ [] := by
  intro piece hpiece
  cases piece with
  | char c => simp [Piece.written]
  | placeholder key value => exact (htable.isPlaceholder _ (h.known key value hpiece)).ne_nil

/-- The pieces behind the first one cut the text behind it. -/
theorem IsCutting.tail (htable : IsTable table) {text : List Char} {piece : Piece}
    {pieces : List Piece} (h : IsCutting table text (piece :: pieces)) :
    IsCutting table (pieces.flatMap Piece.written) pieces := by
  refine ⟨rfl, fun key value hmem => h.known key value (List.mem_cons_of_mem _ hmem), ?_⟩
  intro before key after hkey htext
  have hwhole : text = (piece.written ++ before) ++ key ++ after := by
    rw [← h.written, List.flatMap_cons, htext]
    simp
  obtain ⟨front, value, back, hpieces, hfront⟩ := h.complete _ key after hkey hwhole
  cases front with
  | nil =>
      have hempty : piece.written ++ before = [] := hfront.symm
      have hne : piece.written ≠ [] := h.written_ne_nil htable piece List.mem_cons_self
      exact absurd (List.append_eq_nil_iff.mp hempty).1 hne
  | cons first front =>
      obtain ⟨rfl, rfl⟩ : piece = first ∧ pieces = front ++ .placeholder key value :: back := by
        simpa using hpieces
      exact ⟨front, value, back, rfl, by simpa using hfront⟩

/-- At a piece that is a character no placeholder begins. -/
theorem IsCutting.not_prefix {c : Char} {text : List Char} {pieces : List Piece}
    (h : IsCutting table text (.char c :: pieces)) : ∀ entry ∈ table, ¬ entry.1 <+: text := by
  rintro entry hentry ⟨after, hafter⟩
  obtain ⟨front, value, back, hpieces, hfront⟩ :=
    h.complete [] entry.1 after (List.mem_map_of_mem hentry) hafter.symm
  -- a placeholder here would have nothing in front of it, but the character is
  cases front with
  | nil => simp at hpieces
  | cons first front =>
      obtain ⟨rfl, -⟩ := List.cons.inj hpieces
      simp [Piece.written] at hfront

/-- However a text is cut, the pieces stand for what the pass makes of it. -/
theorem IsCutting.flatMap_filled (htable : IsTable table) {text : List Char} {pieces : List Piece}
    (h : IsCutting table text pieces) : pieces.flatMap Piece.filled = fill table text := by
  induction pieces generalizing text with
  | nil => rw [← h.written]; rfl
  | cons piece pieces ih =>
      have hrest := ih (h.tail htable)
      have htext := h.written
      rw [List.flatMap_cons] at htext ⊢
      cases piece with
      | char c =>
          have hnone := h.not_prefix
          rw [← htext] at hnone ⊢
          rw [hrest]
          exact (fill_cons hnone).symm
      | placeholder key value =>
          have hentry := h.known key value List.mem_cons_self
          rw [hrest, ← htext]
          exact (fill_append htable hentry _).symm

/-- **One pass replaces all at once.** What a text becomes when every placeholder in it is replaced
is what the pass from left to right makes of it, and nothing else. -/
theorem replaces_iff (htable : IsTable table) {text out : List Char} :
    Replaces table text out ↔ out = fill table text := by
  constructor
  · rintro ⟨pieces, hpieces, rfl⟩
    exact hpieces.flatMap_filled htable
  · rintro rfl
    obtain ⟨pieces, hpieces⟩ := exists_isCutting htable text
    exact ⟨pieces, hpieces, (hpieces.flatMap_filled htable).symm⟩

end FirmwareBench.Text
