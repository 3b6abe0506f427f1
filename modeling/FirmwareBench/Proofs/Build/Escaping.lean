import FirmwareBench.Proofs.Build.Concatenation
import Mathlib.Data.List.Nodup

/-!
# Escaping

A text with every `$` doubled has no references left: it reads as the characters of the text it was
made from, and so it expands to that text in every environment and at every depth. As an expanded
value is never read again, this holds behind a chain of variables that refer to one another too, as
long as the chain itself is not too deep.

## Main definitions

* `escape`: a text with every `$` doubled.
* `Env.Forwards`: a chain of variables, each of which holds a reference to the next one.

## Main statements

* `scan_escape`: an escaped text reads as the characters of the text.
* `expandWithin_of_forwards`: a chain uses up one level for each of its variables.
* `Env.expand_escape`: what that means for templates, on their own and behind a chain.
-/

set_option autoImplicit false

namespace FirmwareBench

/-! ## Escaped texts -/

/-- The text with every `$` doubled. -/
def escape (text : List Char) : List Char :=
  text.flatMap fun c => if c = '$' then ['$', '$'] else [c]

theorem escape_dollar_cons (rest : List Char) : escape ('$' :: rest) = '$' :: '$' :: escape rest :=
  rfl

theorem escape_cons_of_ne {c : Char} (hc : c ≠ '$') (rest : List Char) :
    escape (c :: rest) = c :: escape rest := by
  simp [escape, hc]

/-- **An escaped text has no references.** It reads as the characters of the text it was made
from, however the `$` stood in it. -/
theorem scan_escape (text : List Char) : scan (escape text) = text.map .text := by
  induction text with
  | nil => rfl
  | cons c rest ih =>
      by_cases hc : c = '$'
      · subst hc
        rw [escape_dollar_cons, scan_dollar_dollar, ih, List.map_cons]
      · rw [escape_cons_of_ne hc, scan_cons_of_ne hc, ih, List.map_cons]

/-- Characters that stand for themselves are put together to the text that they make. -/
theorem assemble_map_text (env : Env) (inner : List Char → Except BuildError (List Char))
    (text : List Char) : assemble env inner (text.map .text) = .ok text := by
  induction text with
  | nil => rfl
  | cons c rest ih =>
      rw [List.map_cons, assemble_text_eq_ok_iff]
      exact ⟨rest, ih, rfl⟩

/-- An escaped text expands to the text, with no more than the one level it takes itself. -/
theorem expandWithin_escape (env : Env) (root : String) (levels : Nat) (text : List Char) :
    expandWithin env root (levels + 1) (escape text) = .ok text := by
  rw [expandWithin, scan_escape, assemble_map_text]

/-! ## Chains of variables -/

/-- The reference in braces to a variable. -/
def bracedReference (name : String) : String := "$\x7b" ++ name ++ "\x7d"

namespace Env

/-- Each variable of the list holds a reference to the next one and nothing else, and the last
variable holds `target`. -/
inductive Forwards (env : Env) (target : String) : List String → Prop
  /-- The last variable. -/
  | last {name : String} (hvalue : env.displayed? name = some target) : env.Forwards target [name]
  /-- A variable with another one behind it. -/
  | next {name other : String} {rest : List String}
      (hvalue : env.displayed? name = some (bracedReference other))
      (hrest : env.Forwards target (other :: rest)) : env.Forwards target (name :: other :: rest)

variable {env : Env} {target : String}

/-- **A chain uses up one level for each of its variables.** The reference to the first one expands
to what the target does within the levels that are left, and to nothing at all if none is. -/
theorem expandWithin_of_forwards {first : String} {rest : List String}
    (h : env.Forwards target (first :: rest))
    (hnames : ∀ name ∈ first :: rest, '\x7d' ∉ name.toList) (root : String) (levels : Nat) :
    expandWithin env root levels (bracedReference first).toList =
      expandWithin env root (levels - (first :: rest).length) target.toList := by
  induction rest generalizing first levels with
  | nil =>
      cases h with
      | last hvalue =>
          cases levels with
          | zero => rfl
          | succ levels =>
              exact expandWithin_reference (hnames first List.mem_cons_self) hvalue root levels
  | cons other rest ih =>
      cases h with
      | next hvalue hrest =>
          obtain ⟨hfirst, hother⟩ := List.forall_mem_cons.mp hnames
          cases levels with
          | zero => simp [expandWithin]
          | succ levels =>
              rw [bracedReference, expandWithin_reference hfirst hvalue,
                ih hrest hother, List.length_cons (a := first), Nat.add_sub_add_right]

/-! ## A chain for every list of names -/

/-- An environment with the variables of a chain and no others. -/
def chained (target : String) : List String → Env
  | [] => empty
  | [name] => empty.set name (.text target)
  | name :: other :: rest =>
    (chained target (other :: rest)).set name (.text (bracedReference other))

/-- A chain does not depend on variables that are not in it. -/
theorem Forwards.set {names : List String} (h : env.Forwards target names) {key : String}
    (hkey : key ∉ names) (value : Value) : (env.set key value).Forwards target names := by
  induction h with
  | @last name hvalue =>
      have hne : name ≠ key := fun heq => hkey (by simp [heq])
      exact .last (by rw [displayed?_set_of_ne hne, hvalue])
  | @next name other rest hvalue _ ih =>
      have hne : name ≠ key := fun heq => hkey (by simp [heq])
      exact .next (by rw [displayed?_set_of_ne hne, hvalue])
        (ih fun hmem => hkey (List.mem_cons_of_mem _ hmem))

/-- Names that differ make a chain, whatever their number. -/
theorem forwards_chained (target : String) {first : String} {rest : List String}
    (hnames : (first :: rest).Nodup) :
    (chained target (first :: rest)).Forwards target (first :: rest) := by
  induction rest generalizing first with
  | nil => exact .last (by simp [chained, displayed?, get?_set])
  | cons other rest ih =>
      obtain ⟨hfirst, hrest⟩ := List.nodup_cons.mp hnames
      exact .next (by simp [chained, displayed?, get?_set]) ((ih hrest).set hfirst _)

/-! ## Escaped templates -/

/-- **Doubling `$` is a complete escape.** In every environment and at every depth an escaped text
expands to the text itself, so that an escaped template comes out with its blanks collapsed and
nothing else changed. The same comes out of a reference to a chain of up to 32 variables with the
escaped text at its end: a `$` that one level has made is not read by the next one. A longer chain
is too deep. -/
theorem expand_escape (env : Env) (text : String) :
    (∀ root levels,
      expandWithin env root (levels + 1) (escape text.toList) = .ok text.toList) ∧
    env.expand (String.ofList (escape text.toList)) =
      .ok (String.ofList (Text.collapse text.toList)) ∧
    ∀ first rest, (∀ name ∈ first :: rest, '\x7d' ∉ name.toList) →
      env.Forwards (String.ofList (escape text.toList)) (first :: rest) →
        ((first :: rest).length ≤ 32 →
          env.expand (bracedReference first) = .ok (String.ofList (Text.collapse text.toList))) ∧
        (32 < (first :: rest).length →
          env.expand (bracedReference first) =
            .error (.expansionTooDeep (bracedReference first) 32)) := by
  refine ⟨fun root levels => expandWithin_escape env root levels text.toList, ?_, ?_⟩
  · rw [expand, String.toList_ofList, expandWithin_escape]
    rfl
  · intro first rest hnames hchain
    constructor
    · intro hlength
      -- what the chain leaves of the levels is at least the one that the escaped text takes
      obtain ⟨spare, hspare⟩ : ∃ spare, maxDepth + 1 - (first :: rest).length = spare + 1 :=
        ⟨32 - (first :: rest).length, by simp only [maxDepth]; omega⟩
      rw [expand, expandWithin_of_forwards hchain hnames, hspare, String.toList_ofList,
        expandWithin_escape]
      rfl
    · intro hlength
      have hnone : maxDepth + 1 - (first :: rest).length = 0 := by simp only [maxDepth]; omega
      rw [expand, expandWithin_of_forwards hchain hnames, hnone]
      rfl

/-- A text with a `$` in front of everything that can follow one. -/
def dollars : String := "$$\x7bA\x7d$B \t $$$ $\x7b$"

/-- As many names as a chain may have. -/
def longChain : List String :=
  (List.range 32).map fun n => String.ofList (List.replicate (n + 1) '$')

theorem expand_escape_longChain :
    (∀ name ∈ longChain, '\x7d' ∉ name.toList) ∧ longChain.length = 32 ∧
    (chained (String.ofList (escape dollars.toList)) longChain).Forwards
      (String.ofList (escape dollars.toList)) longChain ∧
    (chained (String.ofList (escape dollars.toList)) longChain).expand (bracedReference "$") =
      .ok "$$\x7bA\x7d$B $$$ $\x7b$" := by
  have hnames : ∀ name ∈ longChain, '\x7d' ∉ name.toList := by
    intro name hname
    obtain ⟨n, -, rfl⟩ := List.mem_map.mp hname
    simp
  have hnodup : longChain.Nodup := by
    refine List.Nodup.map (fun n m hsame => ?_) List.nodup_range
    have hlength := congrArg (fun name : String => name.toList.length) hsame
    simpa using hlength
  have hlength : longChain.length = 32 := by simp [longChain]
  have hchain : (chained (String.ofList (escape dollars.toList)) longChain).Forwards
      (String.ofList (escape dollars.toList)) ("$" :: longChain.tail) := forwards_chained _ hnodup
  exact ⟨hnames, hlength, hchain,
    ((expand_escape (chained (String.ofList (escape dollars.toList)) longChain) dollars).2.2 "$"
      longChain.tail hnames hchain).1 (Nat.le_of_eq hlength)⟩

end Env

end FirmwareBench
