import FirmwareBench.Proofs.Build.History
import FirmwareBench.Proofs.Search
import FirmwareBench.Proofs.Text.Pieces

/-!
# Environments from assignments

The texts `KEY=VALUE` of a command line are cut at their first `=`. What stands before it, without
outer blanks, is the key; what stands behind it is the value, character by character. The texts are
gone through in order, so that of several texts with one key the last one counts, and the first text
without a key ends everything. A map whose keys can be written before an `=` is made by its texts,
and as each key is in one of them only, their order does not matter.

## Main definitions

* `Env.HasKey`: there is a key before the first `=` of a text.
* `Env.Assigns`: the key and the value of a text.
* `Env.IsLastAssigned`: the value that the last of several texts assigns to a key.
* `Env.IsKey`: the keys that can be assigned to.
* `Env.assignment`, `Env.assignments`: the text for one key and its value, and those of a map.

## Main statements

* `Env.seed_eq_error_iff`, `Env.exists_seed_iff`: texts are refused at the first one without a key.
* `Env.get?_of_seed`: the last text of a key determines its value.
* `Env.exists_seed_of_perm`: every map is the result of its texts, in any order.
* `Env.seed_reads_exactly`: the contract of assignments.
-/

set_option autoImplicit false

namespace FirmwareBench

namespace Env

/-! ## One text -/

/-- The text consists of these two parts with its first `=` between them. -/
def IsCut (text : String) (before after : List Char) : Prop :=
  text.toList = before ++ '=' :: after ∧ '=' ∉ before

/-- Something other than blanks stands before the first `=` of the text. -/
def HasKey (text : String) : Prop :=
  ∃ before after, IsCut text before after ∧ ∃ c ∈ before, Text.isBlank c = false

/-- The text assigns the value to the key: the key is what stands before the first `=`, without
outer blanks, and the value is all that stands behind it. -/
def Assigns (text key value : String) : Prop :=
  ∃ before, IsCut text before value.toList ∧ Text.IsCore before key.toList ∧ key ≠ ""

variable {text key value : String} {texts : List String}

theorem assigns_iff : Assigns text key value ↔ readAssignment? text = some (key, value) := by
  have hempty : key ≠ "" ↔ key.toList ≠ [] := by simp
  rw [readAssignment?_eq_some_iff]
  constructor
  · rintro ⟨before, ⟨htext, hmark⟩, hcore, hne⟩
    have htrim : Text.trim before = key.toList := Text.trim_eq_iff_isCore.mpr hcore
    rw [hempty, ← htrim] at hne
    refine ⟨before, value.toList, ?_, hmark, hne, ?_, String.ofList_toList.symm⟩
    · rw [← htext, String.ofList_toList]
    · rw [htrim, String.ofList_toList]
  · rintro ⟨before, after, rfl, hmark, hne, rfl, rfl⟩
    refine ⟨before, ⟨by simp, hmark⟩, ?_, by simpa using hne⟩
    rw [String.toList_ofList]
    exact Text.isCore_trim before

/-- A text assigns one value to one key. -/
theorem Assigns.unique {other after : String} (h : Assigns text key value)
    (h' : Assigns text other after) : key = other ∧ value = after := by
  rw [assigns_iff] at h h'
  simpa [h] using h'

/-- A text assigns something if there is a key before its first `=`. -/
theorem hasKey_iff : HasKey text ↔ ∃ key value, Assigns text key value := by
  constructor
  · rintro ⟨before, after, hcut, hkey⟩
    have hne : Text.trim before ≠ [] := Text.trim_ne_nil_iff.mpr hkey
    refine ⟨String.ofList (Text.trim before), String.ofList after, before, ?_, ?_, ?_⟩
    · rwa [String.toList_ofList]
    · rw [String.toList_ofList]
      exact Text.isCore_trim before
    · simpa using hne
  · rintro ⟨key, value, before, hcut, hcore, hne⟩
    refine ⟨before, value.toList, hcut, Text.trim_ne_nil_iff.mp ?_⟩
    rw [Text.trim_eq_iff_isCore.mpr hcore]
    simpa using hne

theorem assign_of_assigns (h : Assigns text key value) (env : Env) :
    env.assign text = .ok (env.set key (.text value)) := by
  rw [assign, assigns_iff.mp h]

theorem assign_of_not_hasKey (h : ¬ HasKey text) (env : Env) :
    env.assign text = .error (.invalidAssignment text) := by
  cases hread : readAssignment? text with
  | none => rw [assign, hread]
  | some read => exact absurd (hasKey_iff.mpr ⟨read.1, read.2, assigns_iff.mpr hread⟩) h

/-! ## All texts -/

/-- Texts are refused at the first one without a key, whatever was assigned before. -/
theorem foldlM_assign_eq_error_iff {start : Env} {error : BuildError} :
    texts.foldlM assign start = .error error ↔
      ∃ text, IsFirst (¬ HasKey ·) texts text ∧ error = .invalidAssignment text := by
  induction texts generalizing start with
  | nil => simp [pure, Except.pure, not_isFirst_nil]
  | cons text rest ih =>
      rw [List.foldlM_cons]
      simp only [isFirst_cons, not_not]
      by_cases hkey : HasKey text
      · -- nothing is refused here, so the first text without a key is one of the rest
        obtain ⟨key, value, hassigns⟩ := hasKey_iff.mp hkey
        rw [assign_of_assigns hassigns]
        simpa [bind, Except.bind, hkey] using ih
      · rw [assign_of_not_hasKey hkey]
        simp [bind, Except.bind, hkey, eq_comm]

theorem seed_eq_error_iff {error : BuildError} :
    seed texts = .error error ↔
      ∃ text, IsFirst (¬ HasKey ·) texts text ∧ error = .invalidAssignment text :=
  foldlM_assign_eq_error_iff

/-- **Texts that all have a key make an environment**, and no others do. -/
theorem exists_seed_iff : (∃ env, seed texts = .ok env) ↔ ∀ text ∈ texts, HasKey text := by
  have hok : (∃ env, seed texts = .ok env) ↔ ¬ ∃ error, seed texts = .error error := by
    cases seed texts <;> simp
  have hfirst : (∃ error, seed texts = .error error) ↔ ∃ text, IsFirst (¬ HasKey ·) texts text := by
    simp [seed_eq_error_iff]
  rw [hok, hfirst, exists_isFirst_iff]
  push Not
  rfl

/-- The value is what the last of the texts with this key assigns to it. -/
def IsLastAssigned (texts : List String) (key value : String) : Prop :=
  ∃ text, IsLast (fun text => ∃ value, Assigns text key value) texts text ∧ Assigns text key value

/-- In a run of assignments something is written at the positions of the texts with the key. -/
theorem writesAt_assign_iff {start : Env} {i : Nat} {written : Value} :
    WritesAt (fun env op => Writes env op key) start (texts.map .assign) i written ↔
      ∃ text value, texts[i]? = some text ∧ written = .text value ∧ Assigns text key value := by
  simp only [WritesAt, List.getElem?_map, Option.map_eq_some_iff, assigns_iff]
  constructor
  · rintro ⟨_, ⟨text, htext, rfl⟩, hwrites⟩
    obtain ⟨value, rfl, hread⟩ := writes_assign_iff.mp hwrites
    exact ⟨text, value, htext, rfl, hread⟩
  · rintro ⟨text, value, htext, rfl, hread⟩
    exact ⟨_, ⟨text, htext, rfl⟩, writes_assign_iff.mpr ⟨value, rfl, hread⟩⟩

theorem isLastWrite_assign_iff {start : Env} {written : Value} :
    IsLastWrite (fun env op => Writes env op key) start (texts.map .assign) written ↔
      ∃ value, written = .text value ∧ IsLastAssigned texts key value := by
  simp only [IsLastWrite, writesAt_assign_iff, IsLastAssigned, isLast_iff_getElem?]
  constructor
  · rintro ⟨i, ⟨text, value, htext, rfl, hassigns⟩, hlast⟩
    refine ⟨value, rfl, text, ⟨i, htext, ⟨value, hassigns⟩, ?_⟩, hassigns⟩
    rintro j hj other hother ⟨after, hafter⟩
    exact hlast j hj (.text after) ⟨other, after, hother, rfl, hafter⟩
  · rintro ⟨value, rfl, text, ⟨i, htext, -, hlast⟩, hassigns⟩
    refine ⟨i, ⟨text, value, htext, rfl, hassigns⟩, ?_⟩
    rintro j hj _ ⟨other, after, hother, -, hafter⟩
    exact hlast j hj other hother ⟨after, hafter⟩

/-- **The last text with a key determines its value.** -/
theorem get?_of_seed {env : Env} (h : seed texts = .ok env) (key : String) (found : Value) :
    env.get? key = some found ↔
      ∃ value, found = .text value ∧ IsLastAssigned texts key value := by
  -- at the start there is nothing, so what is there was written by some text
  have hempty : (empty.get? key : Option Value) ≠ some found := by simp [empty, get?]
  rw [eq_after_of_seed h, (tracks_get? key).look_after_iff empty, isLastWrite_assign_iff]
  simp [hempty]

theorem suffixes_after_assign (start : Env) (texts : List String) :
    (start.after (texts.map .assign)).suffixes = start.suffixes := by
  induction texts generalizing start with
  | nil => rfl
  | cons text rest ih =>
      calc (start.after ((text :: rest).map .assign)).suffixes
          = ((start.perform (.assign text)).1.after (rest.map .assign)).suffixes := rfl
        _ = (start.perform (.assign text)).1.suffixes := ih _
        _ = start.suffixes := suffixes_perform_assign start text

theorem suffixes_of_seed {env : Env} (h : seed texts = .ok env) : env.suffixes = .empty := by
  rw [eq_after_of_seed h, suffixes_after_assign]
  rfl

/-- A variable is there if some text has its key. -/
theorem defines_of_seed {env : Env} (h : seed texts = .ok env) (key : String) :
    env.defines key = true ↔ ∃ text ∈ texts, ∃ value, Assigns text key value := by
  have hsome : env.defines key = true ↔ ∃ found, env.get? key = some found :=
    Option.isSome_iff_exists
  rw [hsome, ← exists_isLast_iff]
  simp only [get?_of_seed h]
  constructor
  · rintro ⟨_, value, -, text, htext, -⟩
    exact ⟨text, htext⟩
  · rintro ⟨text, htext⟩
    obtain ⟨value, hvalue⟩ := htext.prop
    exact ⟨_, value, rfl, text, htext, hvalue⟩

/-! ## From a map to its texts -/

/-- A key that can be assigned to. -/
structure IsKey (key : String) : Prop where
  ne_empty : key ≠ ""
  no_mark : '=' ∉ key.toList
  /-- The key neither begins nor ends with a blank. -/
  trimmed : Text.IsTrimmed key.toList

/-- The text that assigns a value to a key. -/
def assignment (key value : String) : String := key ++ "=" ++ value

theorem IsKey.assigns (h : IsKey key) (value : String) :
    Assigns (assignment key value) key value := by
  refine ⟨key.toList, ⟨?_, h.no_mark⟩, ⟨h.trimmed, [], [], by simp, by simp, by simp⟩, h.ne_empty⟩
  simp [assignment]

/-- The texts that assign its values to the keys of a map. -/
def assignments (map : Dict String) : List String :=
  map.toList.map fun (key, value) => assignment key value

variable {map : Dict String}

theorem mem_assignments_iff :
    text ∈ assignments map ↔
      ∃ key value, map.get? key = some value ∧ text = assignment key value := by
  have hentry : ∀ key value, (key, value) ∈ map.toList ↔ map.get? key = some value :=
    (Dict.isListing_toList map).2
  simp [assignments, hentry, eq_comm]

section

variable (hkeys : ∀ key ∈ map.keys, IsKey key)
include hkeys

theorem assigns_assignment_of_get? (h : map.get? key = some value) :
    Assigns (assignment key value) key value := by
  have hmem : (key, value) ∈ map.toList := ((Dict.isListing_toList map).2 key value).mpr h
  exact (hkeys key (List.mem_map_of_mem hmem)).assigns value

/-- What a text of the map assigns is in the map, and the text is written so. -/
theorem assigns_iff_of_mem (hmem : text ∈ assignments map) :
    Assigns text key value ↔ map.get? key = some value ∧ text = assignment key value := by
  constructor
  · intro h
    obtain ⟨own, after, hget, rfl⟩ := mem_assignments_iff.mp hmem
    obtain ⟨rfl, rfl⟩ := h.unique (assigns_assignment_of_get? hkeys hget)
    exact ⟨hget, rfl⟩
  · rintro ⟨hget, rfl⟩
    exact assigns_assignment_of_get? hkeys hget

/-- Each key of a map is in one text only, so the last text with it is the only one. -/
theorem isLastAssigned_iff_of_perm (hperm : texts.Perm (assignments map)) :
    IsLastAssigned texts key value ↔ map.get? key = some value := by
  have hassigns {text : String} (htext : text ∈ texts) (value : String) :
      Assigns text key value ↔ map.get? key = some value ∧ text = assignment key value :=
    assigns_iff_of_mem hkeys (hperm.mem_iff.mp htext)
  have hone : ∀ a ∈ texts, ∀ b ∈ texts, (∃ value, Assigns a key value) →
      (∃ value, Assigns b key value) → a = b := by
    rintro a ha b hb ⟨v, hv⟩ ⟨w, hw⟩
    obtain ⟨hget, rfl⟩ := (hassigns ha v).mp hv
    obtain ⟨hget', rfl⟩ := (hassigns hb w).mp hw
    rw [Option.some.inj (hget.symm.trans hget')]
  simp only [IsLastAssigned, isLast_iff_mem hone]
  constructor
  · rintro ⟨text, ⟨htext, -⟩, h⟩
    exact ((hassigns htext value).mp h).1
  · intro hget
    have h := assigns_assignment_of_get? hkeys hget
    have hmem : assignment key value ∈ texts :=
      hperm.mem_iff.mpr (mem_assignments_iff.mpr ⟨key, value, hget, rfl⟩)
    exact ⟨_, ⟨hmem, value, h⟩, h⟩

/-- **The texts of a map make the map**, in any order. -/
theorem exists_seed_of_perm (hperm : texts.Perm (assignments map)) :
    ∃ env, seed texts = .ok env ∧ (∀ key, env.get? key = (map.get? key).map .text) ∧
      env.suffixes = .empty := by
  have hall : ∀ text ∈ texts, HasKey text := by
    intro text htext
    obtain ⟨key, value, hget, rfl⟩ := mem_assignments_iff.mp (hperm.mem_iff.mp htext)
    exact hasKey_iff.mpr ⟨key, value, assigns_assignment_of_get? hkeys hget⟩
  obtain ⟨env, henv⟩ := exists_seed_iff.mpr hall
  refine ⟨env, henv, fun key => Option.ext fun found => ?_, suffixes_of_seed henv⟩
  simp only [get?_of_seed henv, isLastAssigned_iff_of_perm hkeys hperm, Option.map_eq_some_iff]
  exact exists_congr fun _ => ⟨fun ⟨htext, hget⟩ => ⟨hget, htext.symm⟩,
    fun ⟨hget, htext⟩ => ⟨htext.symm, hget⟩⟩

end

/-! ## The contract of assignments -/

/-- **The contract of assignments.** Texts make an environment if each has a key before its first
`=`, and else the first one without a key is refused as it is written. The environment has the keys
of the texts and no others, each with what the last text with this key has behind its first `=`, and
no suffix rules. Every map whose keys can be assigned to is made by its texts in any order. -/
theorem seed_reads_exactly (texts : List String) :
    ((∃ env, seed texts = .ok env) ↔ ∀ text ∈ texts, HasKey text) ∧
    (∀ error, seed texts = .error error ↔
      ∃ text, IsFirst (¬ HasKey ·) texts text ∧ error = .invalidAssignment text) ∧
    (∀ env, seed texts = .ok env →
      (∀ key, env.defines key = true ↔ ∃ text ∈ texts, ∃ value, Assigns text key value) ∧
      (∀ key found, env.get? key = some found ↔
        ∃ value, found = .text value ∧ IsLastAssigned texts key value) ∧
      env.suffixes = .empty) ∧
    ∀ map : Dict String, (∀ key ∈ map.keys, IsKey key) → texts.Perm (assignments map) →
      ∃ env, seed texts = .ok env ∧ (∀ key, env.get? key = (map.get? key).map .text) ∧
        env.suffixes = .empty :=
  ⟨exists_seed_iff, fun _ => seed_eq_error_iff,
    fun _ henv => ⟨defines_of_seed henv, get?_of_seed henv, suffixes_of_seed henv⟩,
    fun _ hkeys hperm => exists_seed_of_perm hkeys hperm⟩

/-- Two spellings of one key, with blanks outside ASCII around it; the last of them counts and keeps
the blanks and the `=` of its value. A map with a blank inside a key, its texts in reverse order. -/
theorem seed_reads_exactly_spellings :
    let texts := ["\u2003A =1", "B=$A", "A\u00a0== 2 "]
    let map := Dict.ofList [("A", "$B"), ("B C", "=")]
    (∃ env, seed texts = .ok env ∧ env.get? "A" = some (.text "= 2 ") ∧ env.suffixes = .empty) ∧
      ∃ env, seed ["B C==", "A=$B"] = .ok env ∧
        ∀ key, env.get? key = (map.get? key).map .text := by
  intro texts map
  constructor
  · obtain ⟨hok, -, hread, -⟩ := seed_reads_exactly texts
    have hassigns : Assigns "A\u00a0== 2 " "A" "= 2 " :=
      ⟨['A', '\u00a0'], ⟨rfl, by decide⟩,
        ⟨⟨by simp [Text.isBlank], by simp [Text.isBlank]⟩, [], ['\u00a0'], by simp,
          by simp [Text.isBlank], rfl⟩, by decide⟩
    have hall : ∀ text ∈ texts, HasKey text := by
      refine List.forall_mem_cons.mpr ⟨?_, List.forall_mem_cons.mpr ⟨?_, ?_⟩⟩
      · exact ⟨['\u2003', 'A', ' '], ['1'], ⟨rfl, by decide⟩, 'A', by decide, rfl⟩
      · exact ⟨['B'], ['$', 'A'], ⟨rfl, by decide⟩, 'B', by decide, rfl⟩
      · exact List.forall_mem_singleton.mpr (hasKey_iff.mpr ⟨_, _, hassigns⟩)
    obtain ⟨env, henv⟩ := hok.mpr hall
    obtain ⟨-, hget, hsuffixes⟩ := hread env henv
    have hlast : IsLastAssigned texts "A" "= 2 " :=
      ⟨_, ⟨["\u2003A =1", "B=$A"], [], rfl, ⟨_, hassigns⟩, by simp⟩, hassigns⟩
    exact ⟨env, henv, (hget _ _).mpr ⟨_, rfl, hlast⟩, hsuffixes⟩
  · obtain ⟨-, -, -, hmap⟩ := seed_reads_exactly ["B C==", "A=$B"]
    have hkeys : ∀ key ∈ map.keys, IsKey key := by
      have hlist : map.keys = ["A", "B C"] := by decide
      rw [hlist]
      refine List.forall_mem_cons.mpr ⟨?_, List.forall_mem_singleton.mpr ?_⟩
      · exact ⟨by decide, by decide, ⟨by simp [Text.isBlank], by simp [Text.isBlank]⟩⟩
      · exact ⟨by decide, by decide, ⟨by simp [Text.isBlank], by simp [Text.isBlank]⟩⟩
    have hperm : ["B C==", "A=$B"].Perm (assignments map) := by
      have hlist : assignments map = ["A=$B", "B C=="] := by decide
      rw [hlist]
      exact .swap _ _ _
    obtain ⟨env, henv, hget, -⟩ := hmap map hkeys hperm
    exact ⟨env, henv, hget⟩

end Env

end FirmwareBench
