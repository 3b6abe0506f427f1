import FirmwareBench.Proofs.Text.Filling

/-!
# Replacing placeholders in turn

Placeholders may be replaced one after the other: all occurrences of the first one, then, in what
has come out, all occurrences of the second one, and so on. What comes out differs from replacing
them all at once where a value brings in a brace that opens a later placeholder, or where
a placeholder stands between the braces of a later one. Where neither can happen, the two are the
same.

## Main definitions

* `ReplacesInTurn`: the result of replacing the placeholders of a table one after the other.
* `replaceInTurn`: the same as a function.
* `IsFlat`: a text whose braces are not nested.

## Main statements

* `replacesInTurn_iff`: replacing in turn has that result and no other.
* `replaceInTurn_eq_fill`: in a flat text, values without opening braces make no difference.
-/

set_option autoImplicit false

namespace FirmwareBench.Text

/-! ## One placeholder -/

theorem replaceFrom_eq_fillFrom (needle value : List Char) (skip : Nat) (text : List Char) :
    replaceFrom needle value skip text = fillFrom [(needle, value)] skip text := by
  induction text generalizing skip with
  | nil => cases skip <;> rfl
  | cons c rest ih =>
      cases skip with
      | succ skip => rw [replaceFrom, fillFrom, ih]
      | zero =>
          cases hfound : needle.isPrefixOf (c :: rest) with
          | true => simp [replaceFrom, fillFrom, placeholderAt?, hfound, ih]
          | false => simp [replaceFrom, fillFrom, placeholderAt?, hfound, ih]

/-- Replacing one needle is filling in a table with no other placeholder. -/
theorem replaceAll_eq_fill (needle value text : List Char) :
    replaceAll needle value text = fill [(needle, value)] text :=
  replaceFrom_eq_fillFrom needle value 0 text

variable {table : List (List Char × List Char)}

theorem IsTable.singleton (htable : IsTable table) {entry : List Char × List Char}
    (hentry : entry ∈ table) : IsTable [entry] := by
  refine ⟨?_, by simp⟩
  intro other hother
  obtain rfl : other = entry := by simpa using hother
  exact htable.isPlaceholder other hentry

theorem IsTable.tail {entry : List Char × List Char} (htable : IsTable (entry :: table)) :
    IsTable table :=
  ⟨fun other hother => htable.isPlaceholder other (List.mem_cons_of_mem _ hother),
    (List.nodup_cons.mp htable.nodup).2⟩

/-! ## One after the other -/

/-- The text with the placeholders replaced in turn is `out`: first all the occurrences of the first
one at once, then those of the second one in what that gives, and so on. -/
inductive ReplacesInTurn : List (List Char × List Char) → List Char → List Char → Prop
  | nil {text : List Char} : ReplacesInTurn [] text text
  /-- One placeholder is replaced, and the others after it. -/
  | cons {entry : List Char × List Char} {table : List (List Char × List Char)}
      {text between out : List Char} (hfirst : Replaces [entry] text between)
      (hrest : ReplacesInTurn table between out) : ReplacesInTurn (entry :: table) text out

/-- What replacing one needle after the other makes of a text. -/
def replaceInTurn (table : List (List Char × List Char)) (text : List Char) : List Char :=
  table.foldl (fun text (key, value) => replaceAll key value text) text

theorem replaceInTurn_nil (text : List Char) : replaceInTurn [] text = text := rfl

theorem replaceInTurn_cons (entry : List Char × List Char) (table : List (List Char × List Char))
    (text : List Char) :
    replaceInTurn (entry :: table) text = replaceInTurn table (fill [entry] text) := by
  rw [replaceInTurn, List.foldl_cons, ← replaceInTurn]
  congr 1
  exact replaceAll_eq_fill entry.1 entry.2 text

/-- **Replacing in turn.** It gives what comes of replacing one needle after the other. -/
theorem replacesInTurn_iff (htable : IsTable table) {text out : List Char} :
    ReplacesInTurn table text out ↔ out = replaceInTurn table text := by
  induction table generalizing text with
  | nil =>
      constructor
      · rintro ⟨⟩
        rfl
      · rintro rfl
        exact .nil
  | cons entry table ih =>
      have hentry : IsTable [entry] := htable.singleton List.mem_cons_self
      rw [replaceInTurn_cons, ← ih htable.tail]
      constructor
      · rintro (_ | ⟨hfirst, hrest⟩)
        obtain rfl := (replaces_iff hentry).mp hfirst
        exact hrest
      · intro hrest
        exact .cons ((replaces_iff hentry).mpr rfl) hrest

/-! ## Texts whose braces are not nested -/

/-- A closing brace comes before the first opening one, or there is no opening one. -/
def ClosesFirst : List Char → Prop
  | [] => True
  | c :: rest => c = '\x7d' ∨ c ≠ '\x7b' ∧ ClosesFirst rest

/-- Between two opening braces there is a closing one. -/
def IsFlat : List Char → Prop
  | [] => True
  | c :: rest => (c = '\x7b' → ClosesFirst rest) ∧ IsFlat rest

instance : DecidablePred ClosesFirst
  | [] => inferInstanceAs (Decidable True)
  | c :: rest =>
    have := instDecidablePredListCharClosesFirst rest
    inferInstanceAs (Decidable (c = '\x7d' ∨ c ≠ '\x7b' ∧ ClosesFirst rest))

instance : DecidablePred IsFlat
  | [] => inferInstanceAs (Decidable True)
  | c :: rest =>
    have := instDecidablePredListCharIsFlat rest
    inferInstanceAs (Decidable ((c = '\x7b' → ClosesFirst rest) ∧ IsFlat rest))

theorem IsFlat.of_append {front rest : List Char} (h : IsFlat (front ++ rest)) : IsFlat rest := by
  induction front with
  | nil => exact h
  | cons c front ih => exact ih h.2

theorem IsFlat.append_of_not_mem {front rest : List Char} (hfront : '\x7b' ∉ front)
    (hrest : IsFlat rest) : IsFlat (front ++ rest) := by
  induction front with
  | nil => exact hrest
  | cons c front ih =>
      obtain ⟨hc, hfront⟩ : '\x7b' ≠ c ∧ '\x7b' ∉ front := by simpa using hfront
      exact ⟨fun heq => absurd heq.symm hc, ih hfront⟩

/-- A placeholder begins with an opening brace. -/
theorem not_prefix_of_ne (htable : IsTable table) {c : Char} (hc : c ≠ '\x7b') (rest : List Char) :
    ∀ entry ∈ table, ¬ entry.1 <+: c :: rest := by
  rintro entry hentry ⟨after, hafter⟩
  obtain ⟨name, hname, -, -⟩ := htable.isPlaceholder entry hentry
  rw [hname] at hafter
  exact hc (by simpa using (congrArg List.head? hafter).symm)

/-- What has no opening brace stays in front of what the rest becomes. -/
theorem fill_append_of_not_mem (htable : IsTable table) {front : List Char}
    (hfront : '\x7b' ∉ front) (rest : List Char) :
    fill table (front ++ rest) = front ++ fill table rest := by
  induction front with
  | nil => rfl
  | cons c front ih =>
      obtain ⟨hc, hfront⟩ : '\x7b' ≠ c ∧ '\x7b' ∉ front := by simpa using hfront
      rw [List.cons_append, fill_cons (not_prefix_of_ne htable (Ne.symm hc) _), ih hfront,
        List.cons_append]

/-- A placeholder that is not in the table stays in front of what the rest becomes. -/
theorem fill_append_of_forall_ne (htable : IsTable table) {key : List Char}
    (hkey : IsPlaceholder key) (hne : ∀ entry ∈ table, entry.1 ≠ key) (rest : List Char) :
    fill table (key ++ rest) = key ++ fill table rest := by
  have hnone : ∀ entry ∈ table, ¬ entry.1 <+: key ++ rest := by
    rintro entry hentry ⟨after, hafter⟩
    exact hne entry hentry ((htable.isPlaceholder entry hentry).eq_of_append_eq hkey hafter)
  obtain ⟨name, rfl, hname, -⟩ := hkey
  have hinside : '\x7b' ∉ name ++ ['\x7d'] := by simpa using hname
  rw [List.cons_append] at hnone ⊢
  rw [fill_cons hnone, fill_append_of_not_mem htable hinside, List.cons_append]

/-- Filling in does not bring an opening brace in front of the first closing one. -/
theorem closesFirst_fill (htable : IsTable table) {text : List Char} (h : ClosesFirst text) :
    ClosesFirst (fill table text) := by
  induction text with
  | nil => exact h
  | cons c rest ih =>
      rcases h with rfl | ⟨hc, hrest⟩
      · rw [fill_cons (not_prefix_of_ne htable (by decide) rest)]
        exact .inl rfl
      · rw [fill_cons (not_prefix_of_ne htable hc rest)]
        exact .inr ⟨hc, ih hrest⟩

/-- A name with its closing brace at the front of what has been filled in stood there before. -/
theorem exists_append_of_fill_eq (htable : IsTable table) {text : List Char} (h : ClosesFirst text)
    {name after : List Char} (hname : '\x7d' ∉ name)
    (hfill : fill table text = name ++ '\x7d' :: after) :
    ∃ later, text = name ++ '\x7d' :: later := by
  induction text generalizing name with
  | nil => simp at hfill
  | cons c rest ih =>
      have hc : c ≠ '\x7b' := by
        rcases h with rfl | ⟨hc, -⟩
        · decide
        · exact hc
      rw [fill_cons (not_prefix_of_ne htable hc rest)] at hfill
      cases name with
      | nil =>
          obtain ⟨rfl, -⟩ := List.cons.inj hfill
          exact ⟨rest, rfl⟩
      | cons d name =>
          obtain ⟨rfl, hrest⟩ := List.cons.inj hfill
          obtain ⟨hd, hname⟩ : '\x7d' ≠ c ∧ '\x7d' ∉ name := by simpa using hname
          have hlater : ClosesFirst rest := (h.resolve_left (Ne.symm hd)).2
          obtain ⟨later, rfl⟩ := ih hlater hname hrest
          exact ⟨later, rfl⟩

/-- No placeholder comes into being at a character where none begins, if there are no braces within
the one that may open here. -/
theorem not_prefix_of_fill (htable : IsTable table) {c : Char} {rest key : List Char}
    (hflat : c = '\x7b' → ClosesFirst rest) (hkey : IsPlaceholder key)
    (h : ¬ key <+: c :: rest) : ¬ key <+: c :: fill table rest := by
  rintro ⟨after, hafter⟩
  obtain ⟨name, rfl, -, hname⟩ := hkey
  obtain ⟨rfl, hfill⟩ : '\x7b' = c ∧ name ++ '\x7d' :: after = fill table rest := by
    simpa using hafter
  obtain ⟨later, rfl⟩ := exists_append_of_fill_eq htable (hflat rfl) hname hfill.symm
  exact h ⟨later, by simp⟩

/-- Values without opening braces leave a flat text flat. -/
theorem isFlat_fill (htable : IsTable table) (hvalues : ∀ entry ∈ table, '\x7b' ∉ entry.2)
    {text : List Char} (h : IsFlat text) : IsFlat (fill table text) := by
  induction text using htable.induction_on with
  | nil => exact h
  | char c rest hnone ih =>
      rw [fill_cons hnone]
      exact ⟨fun heq => closesFirst_fill htable (h.1 heq), ih h.2⟩
  | placeholder key value rest hentry ih =>
      rw [fill_append htable hentry]
      exact (ih h.of_append).append_of_not_mem (hvalues _ hentry)

/-! ## In turn or all at once -/

/-- One placeholder may be replaced in front of the others, if its value opens no brace and the
braces of the text are not nested. -/
theorem fill_cons_eq_fill_fill {entry : List Char × List Char} (htable : IsTable (entry :: table))
    (hvalue : '\x7b' ∉ entry.2) {text : List Char} (h : IsFlat text) :
    fill (entry :: table) text = fill table (fill [entry] text) := by
  have hentry : IsTable [entry] := htable.singleton List.mem_cons_self
  induction text using htable.induction_on with
  | nil => rfl
  | char c rest hnone ih =>
      -- no placeholder begins here, and none does when the first one has been replaced
      have hfirst : ∀ other ∈ [entry], ¬ other.1 <+: c :: rest := by
        simpa using hnone entry List.mem_cons_self
      have hlater : ∀ other ∈ table, ¬ other.1 <+: c :: fill [entry] rest := fun other hother =>
        not_prefix_of_fill hentry h.1 (htable.tail.isPlaceholder other hother)
          (hnone other (List.mem_cons_of_mem _ hother))
      rw [fill_cons hnone, fill_cons hfirst, fill_cons hlater, ih h.2]
  | placeholder key value rest hmem ih =>
      rw [fill_append htable hmem, ih h.of_append]
      rcases List.mem_cons.mp hmem with rfl | hlater
      · rw [fill_append hentry List.mem_cons_self, fill_append_of_not_mem htable.tail hvalue]
      · -- another placeholder than the first one, which stays until its turn comes
        have hne : ∀ other ∈ [entry], other.1 ≠ key := by
          intro other hother heq
          obtain rfl : other = entry := by simpa using hother
          exact (List.nodup_cons.mp htable.nodup).1
            (List.mem_map.mpr ⟨(key, value), hlater, heq.symm⟩)
        rw [fill_append_of_forall_ne hentry (htable.tail.isPlaceholder _ hlater) hne,
          fill_append htable.tail hlater]

/-- **In a flat text the order makes no difference**, if no value but the last one opens a brace: to
replace one placeholder after the other is to replace all of them at once. -/
theorem replaceInTurn_eq_fill (htable : IsTable table)
    (hvalues : ∀ entry ∈ table.dropLast, '\x7b' ∉ entry.2) {text : List Char} (h : IsFlat text) :
    replaceInTurn table text = fill table text := by
  induction table generalizing text with
  | nil => exact (fill_eq_self (by simp)).symm
  | cons entry table ih =>
      cases table with
      | nil => rw [replaceInTurn_cons, replaceInTurn_nil]
      | cons other table =>
          rw [List.dropLast_cons_cons, List.forall_mem_cons] at hvalues
          have hflat : IsFlat (fill [entry] text) :=
            isFlat_fill (htable.singleton List.mem_cons_self) (by simpa using hvalues.1) h
          rw [replaceInTurn_cons, ih htable.tail hvalues.2 hflat,
            fill_cons_eq_fill_fill htable hvalues.1 h]

end FirmwareBench.Text
