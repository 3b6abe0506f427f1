import FirmwareBench.Pattern.Matching
import FirmwareBench.Text.Cut
import Std.Data.HashSet.Lemmas

/-!
# Threads through simple patterns

What the threads do in the patterns that link patterns are made of: a literal text leaves one thread
or none, and a greedy run of the characters of a set leaves one thread for each length. Of these
only the longest stands before a character that is not of the set, so that whatever comes next and
is not of the set decides the length of the run.

## Main definitions

* `Thread.past`: a thread moved over a text.

## Main statements

* `Pattern.runAll_literal`: a literal text is passed if it is there.
* `Thread.filterMap_runOf`: a greedy run in front of something outside its set is a longest run.
* `Pattern.runAll_group_run`: a group around such a run keeps the longest one.
* `Pattern.searchFrom?_eq_some`, `Pattern.searchFrom?_eq_none`: search finds the leftmost match.
-/

set_option autoImplicit false

namespace FirmwareBench

/-! ## Moving over a text -/

/-- The place behind a text, in front of the rest. -/
def Cursor.past (place : Cursor) (text rest : List Char) : Cursor :=
  ⟨place.index + text.length, text.getLast?.or place.before?, rest⟩

/-- The thread behind a text, in front of the rest. -/
def Thread.past (t : Thread) (text rest : List Char) : Thread :=
  { t with place := t.place.past text rest }

@[simp] theorem Cursor.past_nil (place : Cursor) : place.past [] place.rest = place := by
  simp [Cursor.past]

theorem Cursor.past_past (place : Cursor) (first second rest after : List Char) :
    (place.past first rest).past second after = place.past (first ++ second) after := by
  simp only [Cursor.past, List.length_append, List.getLast?_append, Option.or_assoc, Nat.add_assoc]

theorem Thread.past_nil {t : Thread} {rest : List Char} (h : t.place.rest = rest) :
    t.past [] rest = t := by
  subst h
  simp [Thread.past]

@[simp] theorem Thread.past_rest (t : Thread) (text rest : List Char) :
    (t.past text rest).place.rest = rest := rfl

@[simp] theorem Thread.past_index (t : Thread) (text rest : List Char) :
    (t.past text rest).place.index = t.place.index + text.length := rfl

theorem Thread.past_past (t : Thread) (first second rest after : List Char) :
    (t.past first rest).past second after = t.past (first ++ second) after := by
  simp [Thread.past, Cursor.past_past]

/-! ## One character of a set -/

theorem Thread.advance?_nil {t : Thread} (h : t.place.rest = []) (set : CharSet) :
    t.advance? set = none := by
  simp [Thread.advance?, Cursor.advance?, h]

theorem Thread.advance?_cons {t : Thread} {c : Char} {rest : List Char}
    (h : t.place.rest = c :: rest) (set : CharSet) :
    t.advance? set = if set.contains c then some (t.past [c] rest) else none := by
  by_cases hc : set.contains c = true <;>
    simp [Thread.advance?, Cursor.advance?, h, hc, Thread.past, Cursor.past]

namespace Pattern

/-! ## Patterns one after the other -/

def runAll (patterns : List Pattern) (threads : List Thread) : List Thread :=
  patterns.foldl (fun threads p => p.run threads) threads

@[simp] theorem runAll_nil (threads : List Thread) : runAll [] threads = threads := rfl

@[simp] theorem runAll_cons (p : Pattern) (rest : List Pattern) (threads : List Thread) :
    runAll (p :: rest) threads = runAll rest (p.run threads) := rfl

theorem runAll_append (first second : List Pattern) (threads : List Thread) :
    runAll (first ++ second) threads = runAll second (runAll first threads) := by
  simp [runAll]

theorem run_seqAll (patterns : List Pattern) (threads : List Thread) :
    (seqAll patterns).run threads = runAll patterns threads := by
  induction patterns generalizing threads with
  | nil => rw [seqAll, run, runAll_nil]
  | cons p rest ih =>
      cases rest with
      | nil => rfl
      | cons q rest =>
          rw [seqAll, run, ih]
          · rfl
          · simp

/-! ## Literal texts -/

theorem run_char (c : Char) (threads : List Thread) :
    (char c).run threads = threads.filterMap (·.advance? (.single c)) := by
  rw [char, run]

theorem runAll_literal_nil (text : List Char) : runAll (text.map char) [] = [] := by
  induction text with
  | nil => rfl
  | cons c text ih => rw [List.map_cons, runAll_cons, run_char, List.filterMap_nil, ih]

/-- A literal text is passed by a thread that stands before it, and by no other. -/
theorem runAll_literal (text : List Char) (t : Thread) :
    runAll (text.map char) [t] = ((Text.after? text t.place.rest).map (t.past text)).toList := by
  induction text generalizing t with
  | nil => simp [Text.after?, Thread.past_nil]
  | cons c text ih =>
      rw [List.map_cons, runAll_cons, run_char]
      cases hrest : t.place.rest with
      | nil => simp [Thread.advance?_nil hrest, Text.after?, runAll_literal_nil]
      | cons d rest =>
          simp only [List.filterMap_cons, Thread.advance?_cons hrest, CharSet.contains_single,
            List.filterMap_nil]
          by_cases hcd : c = d
          · subst hcd
            -- moved over the first character, then over the others
            have hpast : (t.past [c] rest).past text = t.past (c :: text) :=
              funext fun after => Thread.past_past t [c] text rest after
            simp only [beq_self_eq_true, if_true, ih, Thread.past_rest, Text.after?, hpast]
          · simp [hcd, Text.after?, runAll_literal_nil]

end Pattern

/-! ## Greedy runs -/

namespace Thread

variable {β : Type}

/-- In a greedy run, only the longest one is followed by something outside the set: whatever throws
away the threads in front of a character of the set keeps no other. -/
theorem filterMap_runOf {set : CharSet} {next : Thread → Option β}
    (hnext : ∀ t c rest, t.place.rest = c :: rest → set.contains c = true → next t = none)
    {limit : Nat} {t : Thread} (hlimit : t.place.rest.length ≤ limit) :
    (runOf set limit t).filterMap next =
      (next (t.past (t.place.rest.takeWhile set.contains)
        (t.place.rest.dropWhile set.contains))).toList := by
  induction limit generalizing t with
  | zero =>
      have hrest : t.place.rest = [] := List.length_eq_zero_iff.mp (Nat.le_zero.mp hlimit)
      have hself : t.past [] [] = t := past_nil hrest
      cases hn : next t <;> simp [runOf, hrest, hself, hn]
  | succ limit ih =>
      cases hrest : t.place.rest with
      | nil =>
          have hself : t.past [] [] = t := past_nil hrest
          cases hn : next t <;> simp [runOf, advance?_nil hrest, hself, hn]
      | cons c rest =>
          by_cases hc : set.contains c = true
          · -- the longer runs come first; the one that ends here stands in front of `c`
            have hle : (t.past [c] rest).place.rest.length ≤ limit := by
              rw [hrest, List.length_cons] at hlimit
              exact Nat.le_of_succ_le_succ hlimit
            simp only [runOf, advance?_cons hrest, hc, if_true, List.filterMap_append, ih hle,
              List.filterMap_cons, List.filterMap_nil, hnext t c rest hrest hc, past_rest, past_past,
              List.append_nil]
            simp [hc]
          · have hself : t.past [] (c :: rest) = t := past_nil hrest
            cases hn : next t <;> simp [runOf, advance?_cons hrest, hc, hself, hn]

/-- At least one character of a set, as many as possible first. -/
theorem spanOf_one_cons {set : CharSet} {t : Thread} {c : Char} {rest : List Char}
    (h : t.place.rest = c :: rest) :
    spanOf set 1 none true t =
      if set.contains c then runOf set rest.length (t.past [c] rest) else [] := by
  by_cases hc : set.contains c = true <;>
    simp [spanOf, h, runOf, advance?_cons h, hc]

theorem spanOf_one_nil {set : CharSet} {t : Thread} (h : t.place.rest = []) :
    spanOf set 1 none true t = [] := by
  simp [spanOf, h, runOf]

/-! ## One thread for each place -/

/-- Every thread of a run is at least as far as the one it starts from. -/
theorem index_le_of_mem_runOf {set : CharSet} {limit : Nat} {t u : Thread}
    (h : u ∈ runOf set limit t) : t.place.index ≤ u.place.index := by
  induction limit generalizing t with
  | zero =>
      obtain rfl : u = t := by simpa [runOf] using h
      exact Nat.le_refl _
  | succ limit ih =>
      cases hrest : t.place.rest with
      | nil =>
          obtain rfl : u = t := by simpa [runOf, advance?_nil hrest] using h
          exact Nat.le_refl _
      | cons c rest =>
          by_cases hc : set.contains c = true
          · rw [runOf, advance?_cons hrest, if_pos hc] at h
            rcases List.mem_append.mp h with hmem | hmem
            · have hle := ih hmem
              rw [past_index] at hle
              exact Nat.le_trans (Nat.le_add_right ..) hle
            · obtain rfl : u = t := by simpa using hmem
              exact Nat.le_refl _
          · obtain rfl : u = t := by simpa [runOf, advance?_cons hrest, hc] using h
            exact Nat.le_refl _

/-- The threads of a run are at different places. -/
theorem pairwise_runOf (set : CharSet) (limit : Nat) (t : Thread) :
    (runOf set limit t).Pairwise fun a b => a.place.index ≠ b.place.index := by
  induction limit generalizing t with
  | zero => simp [runOf]
  | succ limit ih =>
      cases hrest : t.place.rest with
      | nil => simp [runOf, advance?_nil hrest]
      | cons c rest =>
          by_cases hc : set.contains c = true
          · rw [runOf, advance?_cons hrest, if_pos hc, List.pairwise_append]
            -- the longer runs all end further to the right than `t`
            refine ⟨ih _, List.pairwise_singleton .., ?_⟩
            intro a ha b hb
            obtain rfl : b = t := by simpa using hb
            have hle := index_le_of_mem_runOf ha
            rw [past_index, List.length_singleton] at hle
            omega
          · simp [runOf, advance?_cons hrest, hc]

theorem distinctFrom_eq_self {threads : List Thread} {seen : Std.HashSet Nat}
    (hdistinct : threads.Pairwise fun a b => a.place.index ≠ b.place.index)
    (hseen : ∀ t ∈ threads, seen.contains t.place.index = false) :
    distinctFrom seen threads = threads := by
  induction threads generalizing seen with
  | nil => rfl
  | cons t rest ih =>
      obtain ⟨hfirst, hrest⟩ := List.pairwise_cons.mp hdistinct
      rw [distinctFrom, if_neg (by simp [hseen t List.mem_cons_self]), ih hrest]
      intro u hu
      rw [Std.HashSet.contains_insert, hseen u (List.mem_cons_of_mem _ hu)]
      simpa using hfirst u hu

/-- Threads at different places are all kept. -/
theorem distinct_eq_self {threads : List Thread}
    (h : threads.Pairwise fun a b => a.place.index ≠ b.place.index) :
    distinct threads = threads := by
  match threads, h with
  | [], _ => rfl
  | [_], _ => rfl
  | _ :: _ :: _, h => exact distinctFrom_eq_self h (by simp)

end Thread

/-! ## A run in a group -/

@[simp] theorem Thread.closeGroup_place (index : Nat) (t : Thread) :
    (t.closeGroup index).place = t.place := by
  cases h : t.opened <;> simp [Thread.closeGroup, h]

namespace Pattern

/-- A group around a run, with a character outside the set of the run behind it, keeps the longest
run and no other. -/
theorem runAll_group_run {set : CharSet} {stop : Char} (hstop : set.contains stop = false)
    (index : Nat) (t : Thread) :
    runAll [.group index (.rounds 1 none true (.set set)), char stop] [t] =
      if t.place.rest.takeWhile set.contains = [] then []
      else (((t.openGroup.past (t.place.rest.takeWhile set.contains)
        (t.place.rest.dropWhile set.contains)).closeGroup index).advance? (.single stop)).toList := by
  -- in front of a character of the set there is no `stop`
  have hnext : ∀ (u : Thread) (c : Char) (rest : List Char), u.place.rest = c :: rest →
      set.contains c = true → (u.closeGroup index).advance? (.single stop) = none := by
    intro u c rest hrest hc
    have hne : stop ≠ c := by
      rintro rfl
      exact absurd (hstop.symm.trans hc) (by decide)
    rw [Thread.advance?_cons (by rw [Thread.closeGroup_place, hrest])]
    simp [hne]
  have hopen : t.openGroup.place = t.place := rfl
  simp only [runAll_cons, runAll_nil, run_char]
  rw [run, run]
  simp only [List.map_cons, List.map_nil, List.flatMap_cons, List.flatMap_nil, List.append_nil]
  cases hrest : t.place.rest with
  | nil =>
      rw [Thread.spanOf_one_nil (by rw [hopen, hrest])]
      rfl
  | cons c rest =>
      rw [Thread.spanOf_one_cons (by rw [hopen, hrest])]
      by_cases hc : set.contains c = true
      · rw [if_pos hc, Thread.distinct_eq_self (Thread.pairwise_runOf ..), List.filterMap_map]
        have hrun := Thread.filterMap_runOf hnext
          (Nat.le_refl (t.openGroup.past [c] rest).place.rest.length)
        simp only [Thread.past_rest, Thread.past_past] at hrun
        simp only [List.takeWhile_cons, hc, List.dropWhile_cons]
        exact hrun
      · simp [hc, Thread.distinct]

end Pattern

/-! ## Search -/

namespace Pattern

/-- Search finds a match; no match starts further to the left. -/
theorem searchFrom?_eq_some {p : Pattern} {index : Nat} {before? : Option Char} {text : List Char}
    {t : Thread} (h : p.searchFrom? index before? text = some t) :
    ∃ before after, text = before ++ after ∧
      p.matchAt? (Cursor.past ⟨index, before?, text⟩ before after) = some t ∧
      ∀ earlier later, text = earlier ++ later → earlier.length < before.length →
        p.matchAt? (Cursor.past ⟨index, before?, text⟩ earlier later) = none := by
  induction text generalizing index before? with
  | nil =>
      refine ⟨[], [], rfl, h, ?_⟩
      intro earlier later _ hlt
      exact absurd hlt (Nat.not_lt_zero _)
  | cons c rest ih =>
      rw [searchFrom?] at h
      cases hhere : p.matchAt? ⟨index, before?, c :: rest⟩ with
      | some found =>
          rw [hhere, Option.some.injEq] at h
          subst h
          refine ⟨[], c :: rest, rfl, hhere, ?_⟩
          intro earlier later _ hlt
          exact absurd hlt (Nat.not_lt_zero _)
      | none =>
          rw [hhere] at h
          obtain ⟨before, after, rfl, hmatch, hfirst⟩ := ih h
          -- a place of the rest is a place of the whole text
          have hmove : ∀ front back, Cursor.past ⟨index + 1, some c, before ++ after⟩ front back =
              Cursor.past ⟨index, before?, c :: (before ++ after)⟩ (c :: front) back :=
            fun front back => Cursor.past_past ⟨index, before?, c :: (before ++ after)⟩ [c] front
              (before ++ after) back
          refine ⟨c :: before, after, rfl, by rw [← hmove]; exact hmatch, ?_⟩
          intro earlier later htext hlt
          cases earlier with
          | nil =>
              obtain rfl : c :: (before ++ after) = later := htext
              exact hhere
          | cons d earlier =>
              obtain ⟨rfl, hsplit⟩ : c = d ∧ before ++ after = earlier ++ later := by
                simpa using htext
              rw [← hmove]
              exact hfirst earlier later hsplit (Nat.lt_of_succ_lt_succ hlt)

/-- Where search finds nothing, no match starts. -/
theorem searchFrom?_eq_none {p : Pattern} {index : Nat} {before? : Option Char} {text : List Char}
    (h : p.searchFrom? index before? text = none) (before after : List Char)
    (htext : text = before ++ after) :
    p.matchAt? (Cursor.past ⟨index, before?, text⟩ before after) = none := by
  induction text generalizing index before? before with
  | nil =>
      obtain ⟨rfl, rfl⟩ : before = [] ∧ after = [] := by simpa [eq_comm] using htext
      exact h
  | cons c rest ih =>
      rw [searchFrom?] at h
      cases hhere : p.matchAt? ⟨index, before?, c :: rest⟩ with
      | some found => simp [hhere] at h
      | none =>
          rw [hhere] at h
          cases before with
          | nil =>
              obtain rfl : c :: rest = after := htext
              exact hhere
          | cons d before =>
              obtain ⟨rfl, hsplit⟩ : c = d ∧ rest = before ++ after := by simpa using htext
              have hnone := ih h before hsplit
              rwa [show Cursor.past ⟨index + 1, some c, rest⟩ before after =
                  Cursor.past ⟨index, before?, c :: rest⟩ (c :: before) after from
                Cursor.past_past ⟨index, before?, c :: rest⟩ [c] before rest after] at hnone

end Pattern

end FirmwareBench
