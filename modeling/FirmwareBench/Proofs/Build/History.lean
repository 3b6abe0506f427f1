import FirmwareBench.Demo.Descriptor
import FirmwareBench.Proofs.Text.ByteOrder
import FirmwareBench.Toolchain.Tool
import Mathlib.Data.List.Induction

/-!
# Environments over whole runs

An environment is the result of the operations that were performed on it. What it holds is told by
the last operation that wrote, and each operation says on its own what it writes: where that is
nothing, everything stays. A tool looks into the environment it finds before it writes, so what an
operation writes depends on the point of the run at which it is performed.

## Main definitions

* `Env.Operation`, `Env.perform`: the operations, and what one of them does and answers.
* `Env.Writes`, `Env.Claims`: what an operation writes to the variables and to the suffix rules.
* `Env.WritesAt`, `Env.IsLastWrite`: writing at some point of a run, and at the last such point.

## Main statements

* `Env.Tracks.look_after_iff`: the last write is found, or else what was there at the start.
* `Env.last_write_determines`: the contract of an environment over a whole run.
-/

set_option autoImplicit false

namespace FirmwareBench

/-! ## Entries in order -/

/-- The entries are all there is to be looked up, each once and in strictly increasing order of the
bytes of the keys. -/
def IsListing {β : Type} (look : String → Option β) (entries : List (String × β)) : Prop :=
  entries.Pairwise (fun e e' => Utf8.ofString e.1 < Utf8.ofString e'.1) ∧
    ∀ key value, (key, value) ∈ entries ↔ look key = some value

theorem Dict.isListing_toList {β : Type} (d : Dict β) : IsListing d.get? d.toList :=
  ⟨d.sorted.imp Utf8.ofString_lt, fun _ _ => (lookup_eq_some_iff d.keys_nodup).symm⟩

namespace Env

/-! ## Operations -/

/-- A question to an environment. -/
inductive Query where
  | get (key : String)
  /-- The text of a variable that holds one. -/
  | asText (key : String)
  | defines (key : String)
  | expand (template : String)
  | actionFor (suffix : String)
  | available (tool : Tool) (detect : Detector)
  /-- The definitions of a demo as compiler options. -/
  | defineOptions (demo : Demo)
  | vars
  | suffixes

/-- What comes back from an operation. -/
inductive Answer where
  | done
  | refused (error : BuildError)
  | value (found? : Option Value)
  | text (found? : Option String)
  | flag (holds : Bool)
  | expansion (result : Except BuildError String)
  | action (found? : Option Action)
  | options (options : List String)
  | vars (entries : List (String × Value))
  | suffixes (entries : List (String × Action))

/-- One operation on an environment. -/
inductive Operation where
  | set (key : String) (value : Value)
  | assign (text : String)
  | merge (c : Contribution)
  /-- Lets a tool make its contribution on a host. -/
  | apply (tool : Tool) (detect : Detector)
  | ask (query : Query)

/-- The answer to a question. -/
def answer (env : Env) : Query → Answer
  | .get key => .value (env.get? key)
  | .asText key => .text ((env.get? key).bind Value.asText?)
  | .defines key => .flag (env.defines key)
  | .expand template => .expansion (env.expand template)
  | .actionFor suffix => .action (env.actionFor? suffix)
  | .available tool detect => .flag ((tool.availability env).ask detect)
  | .defineOptions demo => .options (demo.defineOptions env)
  | .vars => .vars env.vars.toList
  | .suffixes => .suffixes env.suffixes.toList

/-- The environment after an operation, and what came back from it. -/
def perform (env : Env) : Operation → Env × Answer
  | .set key value => (env.set key value, .done)
  | .assign text =>
    match env.assign text with
    | .ok env => (env, .done)
    | .error error => (env, .refused error)
  | .merge c => (env.merge c, .done)
  | .apply tool detect => (env.apply tool detect, .done)
  | .ask query => (env, env.answer query)

/-- The environment after some operations, performed one after the other. -/
def after (seed : Env) (ops : List Operation) : Env :=
  ops.foldl (fun env op => (env.perform op).1) seed

@[simp] theorem after_nil (seed : Env) : seed.after [] = seed := rfl

theorem after_append (seed : Env) (ops more : List Operation) :
    seed.after (ops ++ more) = (seed.after ops).after more := List.foldl_append

theorem after_append_singleton (seed : Env) (ops : List Operation) (op : Operation) :
    seed.after (ops ++ [op]) = ((seed.after ops).perform op).1 := after_append seed ops [op]

/-- Assignments that are all done are a run of operations. -/
theorem eq_after_of_foldlM_assign {texts : List String} {start env : Env}
    (h : texts.foldlM assign start = .ok env) : env = start.after (texts.map .assign) := by
  induction texts generalizing start with
  | nil => exact (Except.ok.inj h).symm
  | cons text rest ih =>
      cases hassign : start.assign text with
      | error error =>
          rw [List.foldlM_cons, hassign] at h
          cases h
      | ok next =>
          rw [List.foldlM_cons, hassign] at h
          rw [ih h, List.map_cons, after, after, List.foldl_cons, perform, hassign]

theorem eq_after_of_seed {texts : List String} {env : Env} (h : seed texts = .ok env) :
    env = empty.after (texts.map .assign) :=
  eq_after_of_foldlM_assign h

/-! ## What an operation writes -/

/-- The operation writes the value to the variable, in the environment in which it is performed. -/
inductive Writes (env : Env) : Operation → String → Value → Prop
  | set (key : String) (value : Value) : Writes env (.set key value) key value
  /-- What stands before the first `=`, without outer blanks, names the variable. -/
  | assign {before after : List Char} (hmark : '=' ∉ before) (hkey : Text.trim before ≠ []) :
      Writes env (.assign (String.ofList (before ++ '=' :: after)))
        (String.ofList (Text.trim before)) (.text (String.ofList after))
  | merge {c : Contribution} {key : String} {value : Value} (h : c.vars.get? key = some value) :
      Writes env (.merge c) key value
  /-- The contribution that the tool makes to this environment has the variable. -/
  | apply {tool : Tool} {detect : Detector} {key : String} {value : Value}
      (h : ((tool.contribution env).ask detect).vars.get? key = some value) :
      Writes env (.apply tool detect) key value

/-- The operation claims the suffix for the action, in the environment in which it is performed. -/
inductive Claims (env : Env) : Operation → String → Action → Prop
  | merge {c : Contribution} {suffix : String} {action : Action}
      (h : c.suffixes.get? suffix = some action) : Claims env (.merge c) suffix action
  /-- The contribution that the tool makes to this environment has the rule. -/
  | apply {tool : Tool} {detect : Detector} {suffix : String} {action : Action}
      (h : ((tool.contribution env).ask detect).suffixes.get? suffix = some action) :
      Claims env (.apply tool detect) suffix action

theorem readAssignment?_eq_some_iff {text key value : String} :
    readAssignment? text = some (key, value) ↔
      ∃ before after, text = String.ofList (before ++ '=' :: after) ∧ '=' ∉ before ∧
        Text.trim before ≠ [] ∧ key = String.ofList (Text.trim before) ∧
        value = String.ofList after := by
  constructor
  · intro h
    cases hcut : Text.cutAt? '=' text.toList with
    | none => simp [readAssignment?, hcut] at h
    | some cut =>
        obtain ⟨before, after⟩ := cut
        obtain ⟨hkey, rfl, rfl⟩ : Text.trim before ≠ [] ∧
            String.ofList (Text.trim before) = key ∧ String.ofList after = value := by
          simpa [readAssignment?, hcut] using h
        refine ⟨before, after, ?_, Text.not_mem_of_cutAt? hcut, hkey, rfl, rfl⟩
        rw [← Text.eq_append_of_cutAt? hcut, String.ofList_toList]
  · rintro ⟨before, after, rfl, hmark, hkey, rfl, rfl⟩
    simp [readAssignment?, Text.cutAt?_append hmark, hkey]

theorem writes_assign_iff {env : Env} {text key : String} {value : Value} :
    Writes env (.assign text) key value ↔
      ∃ after, value = .text after ∧ readAssignment? text = some (key, after) := by
  simp only [readAssignment?_eq_some_iff]
  constructor
  · intro h
    cases h with
    | assign hmark hkey => exact ⟨_, rfl, _, _, rfl, hmark, hkey, rfl, rfl⟩
  · rintro ⟨_, rfl, before, after, rfl, hmark, hkey, rfl, rfl⟩
    exact .assign hmark hkey

theorem perform_assign_of_read {text key value : String}
    (h : readAssignment? text = some (key, value)) (env : Env) :
    env.perform (.assign text) = (env.set key (.text value), .done) := by
  simp only [perform, assign, h]

theorem perform_assign_of_not_read {text : String} (h : readAssignment? text = none) (env : Env) :
    env.perform (.assign text) = (env, .refused (.invalidAssignment text)) := by
  simp only [perform, assign, h]

section

variable {env : Env} {op : Operation} {key suffix : String} {value : Value} {action : Action}

/-- **What an operation writes is there afterwards.** -/
theorem Writes.get?_perform (h : Writes env op key value) :
    (env.perform op).1.get? key = some value := by
  cases op with
  | set k v =>
      cases h
      rw [perform, get?_set, if_pos rfl]
  | assign text =>
      obtain ⟨after, rfl, hread⟩ := writes_assign_iff.mp h
      rw [perform_assign_of_read hread, get?_set, if_pos rfl]
  | merge c =>
      cases h with
      | merge hvalue => rw [perform, get?_merge, hvalue, Option.some_or]
  | apply tool detect =>
      cases h with
      | apply hvalue => rw [perform, Env.apply, get?_merge, hvalue, Option.some_or]
  | ask query => cases h

/-- **What an operation does not write stays.** -/
theorem get?_perform_of_not_writes (h : ∀ value, ¬ Writes env op key value) :
    (env.perform op).1.get? key = env.get? key := by
  cases op with
  | set k v =>
      have hne : key ≠ k := by
        rintro rfl
        exact h v (.set key v)
      rw [perform, get?_set, if_neg hne]
  | assign text =>
      cases hread : readAssignment? text with
      | none => rw [perform_assign_of_not_read hread]
      | some read =>
          obtain ⟨k, v⟩ := read
          have hne : key ≠ k := by
            rintro rfl
            exact h (.text v) (writes_assign_iff.mpr ⟨v, rfl, hread⟩)
          rw [perform_assign_of_read hread, get?_set, if_neg hne]
  | merge c =>
      have hnone : c.vars.get? key = none :=
        Option.eq_none_iff_forall_ne_some.mpr fun value hvalue => h value (.merge hvalue)
      rw [perform, get?_merge, hnone, Option.none_or]
  | apply tool detect =>
      -- what the tool does not contribute to this environment it leaves as it was
      have hnone : ((tool.contribution env).ask detect).vars.get? key = none :=
        Option.eq_none_iff_forall_ne_some.mpr fun value hvalue => h value (.apply hvalue)
      rw [perform, Env.apply, get?_merge, hnone, Option.none_or]
  | ask query => rfl

theorem suffixes_perform_set (env : Env) (key : String) (value : Value) :
    (env.perform (.set key value)).1.suffixes = env.suffixes := rfl

theorem suffixes_perform_assign (env : Env) (text : String) :
    (env.perform (.assign text)).1.suffixes = env.suffixes := by
  cases hread : readAssignment? text with
  | none => rw [perform_assign_of_not_read hread]
  | some read => rw [perform_assign_of_read hread, set_suffixes]

/-- A suffix has the action that an operation claims it for. -/
theorem Claims.actionFor?_perform (h : Claims env op suffix action) :
    (env.perform op).1.actionFor? suffix = some action := by
  cases h with
  | merge haction => rw [perform, actionFor?_merge, haction, Option.some_or]
  | apply haction => rw [perform, Env.apply, actionFor?_merge, haction, Option.some_or]

/-- The rule of a suffix that an operation does not claim stays. -/
theorem actionFor?_perform_of_not_claims (h : ∀ action, ¬ Claims env op suffix action) :
    (env.perform op).1.actionFor? suffix = env.actionFor? suffix := by
  cases op with
  | set k v => rfl
  | assign text => rw [actionFor?, suffixes_perform_assign, actionFor?]
  | merge c =>
      have hnone : c.suffixes.get? suffix = none :=
        Option.eq_none_iff_forall_ne_some.mpr fun action haction => h action (.merge haction)
      rw [perform, actionFor?_merge, hnone, Option.none_or]
  | apply tool detect =>
      have hnone : ((tool.contribution env).ask detect).suffixes.get? suffix = none :=
        Option.eq_none_iff_forall_ne_some.mpr fun action haction => h action (.apply haction)
      rw [perform, Env.apply, actionFor?_merge, hnone, Option.none_or]
  | ask query => rfl

end

/-! ## The last write of a run -/

section

variable {ν : Type} (writes : Env → Operation → ν → Prop) (seed : Env) (ops : List Operation)

/-- The operation at a point of the run writes the value, in the environment at that point. -/
def WritesAt (i : Nat) (value : ν) : Prop :=
  ∃ op, ops[i]? = some op ∧ writes (seed.after (ops.take i)) op value

/-- The value is written at some point, and nothing is written at any later one. -/
def IsLastWrite (value : ν) : Prop :=
  ∃ i, WritesAt writes seed ops i value ∧ ∀ j, i < j → ∀ other, ¬ WritesAt writes seed ops j other

/-- Nothing is written at any point. -/
def IsUnwritten : Prop := ∀ i value, ¬ WritesAt writes seed ops i value

variable {writes seed ops}

theorem WritesAt.lt_length {i : Nat} {value : ν} (h : WritesAt writes seed ops i value) :
    i < ops.length := by
  obtain ⟨op, hop, -⟩ := h
  exact (List.getElem?_eq_some_iff.mp hop).1

/-- The points of a run with one more operation are those of the run and the one at its end. -/
theorem writesAt_append_singleton {op : Operation} {i : Nat} {value : ν} :
    WritesAt writes seed (ops ++ [op]) i value ↔
      WritesAt writes seed ops i value ∨ i = ops.length ∧ writes (seed.after ops) op value := by
  rcases Nat.lt_trichotomy i ops.length with hlt | rfl | hgt
  · have hne : i ≠ ops.length := Nat.ne_of_lt hlt
    simp [WritesAt, List.getElem?_append_left hlt, List.take_append_of_le_length hlt.le, hne]
  · simp [WritesAt]
  · have hle : ¬ i < (ops ++ [op]).length := by
      simp
      omega
    have hne : i ≠ ops.length := (Nat.ne_of_lt hgt).symm
    have hnot {run : List Operation} (hrun : ¬ i < run.length) :
        ¬ WritesAt writes seed run i value := fun h => hrun h.lt_length
    simp [hnot hle, hnot (Nat.not_lt_of_gt hgt), hne]

/-- What is looked up is changed by what is written, and by nothing else. -/
structure Tracks (look : Env → Option ν) (writes : Env → Operation → ν → Prop) : Prop where
  /-- A written value is found. -/
  written : ∀ {env op value}, writes env op value → look (env.perform op).1 = some value
  /-- Where nothing is written, the same is found as before. -/
  kept : ∀ {env op}, (∀ value, ¬ writes env op value) → look (env.perform op).1 = look env

namespace Tracks

variable {look : Env → Option ν} (h : Tracks look writes)
include h

/-- **The last write is found, or else what was there at the start.** -/
theorem look_after_iff (seed : Env) (ops : List Operation) (value : ν) :
    look (seed.after ops) = some value ↔
      IsLastWrite writes seed ops value ∨
        IsUnwritten writes seed ops ∧ look seed = some value := by
  induction ops using List.reverseRecOn generalizing value with
  | nil => simp [IsLastWrite, IsUnwritten, WritesAt]
  | append_singleton ops op ih =>
      rw [after_append_singleton]
      -- the operation at the end either writes, and then last, or it adds no point of writing
      by_cases hop : ∃ written, writes (seed.after ops) op written
      · obtain ⟨written, hwritten⟩ := hop
        have hat : WritesAt writes seed (ops ++ [op]) ops.length written :=
          writesAt_append_singleton.mpr (.inr ⟨rfl, hwritten⟩)
        rw [h.written hwritten]
        constructor
        · intro heq
          obtain rfl := Option.some.inj heq
          refine .inl ⟨ops.length, hat, fun j hj other hother => ?_⟩
          have hlt : j < (ops ++ [op]).length := hother.lt_length
          rw [List.length_append, List.length_singleton] at hlt
          omega
        · rintro (⟨i, hi, hlast⟩ | ⟨hunwritten, -⟩)
          · rcases writesAt_append_singleton.mp hi with hearlier | ⟨-, hvalue⟩
            · exact absurd hat (hlast _ hearlier.lt_length _)
            · exact (h.written hwritten).symm.trans (h.written hvalue)
          · exact absurd hat (hunwritten _ _)
      · push Not at hop
        rw [h.kept hop, ih]
        simp only [IsLastWrite, IsUnwritten, writesAt_append_singleton, hop, and_false, or_false]

/-- **What is there never goes away.** -/
theorem isSome_look_after {seed : Env} (hseed : (look seed).isSome) (ops : List Operation) :
    (look (seed.after ops)).isSome := by
  induction ops using List.reverseRecOn with
  | nil => exact hseed
  | append_singleton ops op ih =>
      rw [after_append_singleton]
      by_cases hop : ∃ written, writes (seed.after ops) op written
      · obtain ⟨written, hwritten⟩ := hop
        rw [h.written hwritten]
        rfl
      · push Not at hop
        rw [h.kept hop]
        exact ih

end Tracks

end

theorem tracks_get? (key : String) :
    Tracks (fun env => env.get? key) (fun env op => Writes env op key) :=
  ⟨Writes.get?_perform, get?_perform_of_not_writes⟩

theorem tracks_actionFor? (suffix : String) :
    Tracks (fun env => env.actionFor? suffix) (fun env op => Claims env op suffix) :=
  ⟨Claims.actionFor?_perform, actionFor?_perform_of_not_claims⟩

/-! ## The contract of an environment -/

/-- An assignment is refused, or it is done and writes one variable. -/
theorem perform_assign (env : Env) (text : String) :
    (env.perform (.assign text)).2 = .refused (.invalidAssignment text) ∧
        (∀ key value, ¬ Writes env (.assign text) key value) ∨
      (env.perform (.assign text)).2 = .done ∧
        ∃! written : String × Value, Writes env (.assign text) written.1 written.2 := by
  simp only [writes_assign_iff]
  cases hread : readAssignment? text with
  | none => exact .inl ⟨by rw [perform_assign_of_not_read hread], by simp⟩
  | some read =>
      refine .inr ⟨by rw [perform_assign_of_read hread], (read.1, .text read.2), by simp, ?_⟩
      rintro ⟨key, value⟩ ⟨after, rfl, heq⟩
      obtain rfl := Option.some.inj heq
      rfl

/-- A question and a refused operation change nothing. -/
theorem perform_eq_self {env : Env} {op : Operation}
    (h : (∃ query, op = .ask query) ∨ ∃ error, (env.perform op).2 = .refused error) :
    (env.perform op).1 = env := by
  rcases h with ⟨query, rfl⟩ | ⟨error, herror⟩
  · rfl
  · cases op with
    | assign text =>
        cases hread : readAssignment? text with
        | none => rw [perform_assign_of_not_read hread]
        | some read => rw [perform_assign_of_read hread] at herror; cases herror
    | ask query => rfl
    | _ => cases herror

/-- **The contract of an environment.** After any operations on any environment, a variable has the
value that was written last, or the one it had at the start, and a suffix the action it was claimed
for last, or the one it had at the start. Here writing a variable changes no suffix rule, an
assignment is refused or writes one variable, nothing that is there goes away, questions and refused
operations change nothing, and what is listed is all there is, in order. -/
theorem last_write_determines (seed : Env) (ops : List Operation) :
    (∀ key value, (seed.after ops).get? key = some value ↔
      IsLastWrite (fun env op => Writes env op key) seed ops value ∨
        IsUnwritten (fun env op => Writes env op key) seed ops ∧ seed.get? key = some value) ∧
    (∀ suffix action, (seed.after ops).actionFor? suffix = some action ↔
      IsLastWrite (fun env op => Claims env op suffix) seed ops action ∨
        IsUnwritten (fun env op => Claims env op suffix) seed ops ∧
          seed.actionFor? suffix = some action) ∧
    (∀ key value,
      ((seed.after ops).perform (.set key value)).1.suffixes = (seed.after ops).suffixes) ∧
    (∀ text, ((seed.after ops).perform (.assign text)).1.suffixes = (seed.after ops).suffixes) ∧
    (∀ text,
      ((seed.after ops).perform (.assign text)).2 = .refused (.invalidAssignment text) ∧
          (∀ key value, ¬ Writes (seed.after ops) (.assign text) key value) ∨
        ((seed.after ops).perform (.assign text)).2 = .done ∧
          ∃! written : String × Value,
            Writes (seed.after ops) (.assign text) written.1 written.2) ∧
    (∀ more,
      (∀ key, ((seed.after ops).get? key).isSome → ((seed.after (ops ++ more)).get? key).isSome) ∧
      ∀ suffix, ((seed.after ops).actionFor? suffix).isSome →
        ((seed.after (ops ++ more)).actionFor? suffix).isSome) ∧
    (∀ op, ((∃ query, op = .ask query) ∨
        ∃ error, ((seed.after ops).perform op).2 = .refused error) →
      ((seed.after ops).perform op).1 = seed.after ops) ∧
    (∃ entries, ((seed.after ops).perform (.ask .vars)).2 = .vars entries ∧
      IsListing (seed.after ops).get? entries) ∧
    ∃ entries, ((seed.after ops).perform (.ask .suffixes)).2 = .suffixes entries ∧
      IsListing (seed.after ops).actionFor? entries := by
  refine ⟨fun key => (tracks_get? key).look_after_iff seed ops,
    fun suffix => (tracks_actionFor? suffix).look_after_iff seed ops,
    suffixes_perform_set _, suffixes_perform_assign _, perform_assign _, ?_,
    fun op => perform_eq_self, ⟨_, rfl, Dict.isListing_toList _⟩,
    ⟨_, rfl, Dict.isListing_toList _⟩⟩
  intro more
  rw [after_append]
  exact ⟨fun key hkey => (tracks_get? key).isSome_look_after hkey more,
    fun suffix hsuffix => (tracks_actionFor? suffix).isSome_look_after hsuffix more⟩

/-- An assignment to the trimmed key is the last write, a text without a key is refused and leaves
all as it is, and the variable is still there after a tool has run. -/
theorem last_write_determines_assigned :
    let seed := empty.set "A" (.text "0")
    let ops : List Operation := [.set "A" (.number 7), .assign " A =1 = 2", .assign "B", .ask .vars]
    let later := seed.after (ops ++ [.apply .assembler List.head?])
    IsLastWrite (fun env op => Writes env op "A") seed ops (.text "1 = 2") ∧
      (((seed.after ops).perform (.assign " =3")).2 = .refused (.invalidAssignment " =3") ∧
        ((seed.after ops).perform (.assign " =3")).1 = seed.after ops) ∧
      ((seed.after ops).get? "A").isSome ∧ (later.get? "A").isSome := by
  intro seed ops later
  obtain ⟨hvalue, -, -, -, -, hstays, hsame, -, -⟩ := last_write_determines seed ops
  have hassigned : (seed.after ops).get? "A" = some (.text "1 = 2") := by decide
  have hrefused : ((seed.after ops).perform (.assign " =3")).2 =
      .refused (.invalidAssignment " =3") := by rfl
  have hseed : seed.get? "A" ≠ some (.text "1 = 2") := by decide
  have hlast := ((hvalue "A" (.text "1 = 2")).mp hassigned).resolve_right fun h => hseed h.2
  have hthere : ((seed.after ops).get? "A").isSome := by rw [hassigned]; rfl
  exact ⟨hlast, ⟨hrefused, hsame _ (.inr ⟨_, hrefused⟩)⟩, hthere,
    (hstays [.apply .assembler List.head?]).1 "A" hthere⟩

end Env

end FirmwareBench
