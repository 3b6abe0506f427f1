import FirmwareBench.Proofs.Build.Grammar
import FirmwareBench.Proofs.Text.Collapse
import Mathlib.Data.List.Forall2

/-!
# Expansion of texts side by side

A text that leaves no brace open can be read on its own: with a space behind it, no token goes on
into what follows. So the text and what stands behind the space expand separately, and so do the
items of a list, which stand in a command with one space between them.

## Main definitions

* `IsClosed`: reading a text meets no `${` without a later `}`.

## Main statements

* `IsClosed.scan_append`: the tokens of a closed text do not depend on what follows.
* `expandWithin_append_space`: two texts around a space expand on their own.
* `Env.expand_join`: what that means for templates and for the items of a list.
-/

set_option autoImplicit false

namespace FirmwareBench

/-! ## Texts that leave no brace open -/

/-- Reading the text meets no `${` without a later `}`. The rules are those of the grammar but the
one for such a brace. -/
inductive IsClosed : List Char → Prop
  | nil : IsClosed []
  | plain {c : Char} {rest : List Char} (hc : c ≠ '$') (hrest : IsClosed rest) :
      IsClosed (c :: rest)
  | escaped {rest : List Char} (hrest : IsClosed rest) : IsClosed ('$' :: '$' :: rest)
  | braced {name rest : List Char} (hname : '\x7d' ∉ name) (hrest : IsClosed rest) :
      IsClosed ('$' :: '\x7b' :: (name ++ '\x7d' :: rest))
  | named {name rest : List Char} (hname : IsName name)
      (hend : ∀ c ∈ rest.head?, isNameChar c = false) (hrest : IsClosed rest) :
      IsClosed ('$' :: (name ++ rest))
  | lone {rest : List Char}
      (hnext : ∀ c ∈ rest.head?, c ≠ '$' ∧ c ≠ '\x7b' ∧ isNameStart c = false)
      (hrest : IsClosed rest) : IsClosed ('$' :: rest)

/-- What holds of the first characters of two texts holds of the first character of both
together. -/
theorem forall_head?_append {p : Char → Prop} {text rest : List Char}
    (htext : ∀ c ∈ text.head?, p c) (hrest : ∀ c ∈ rest.head?, p c) :
    ∀ c ∈ (text ++ rest).head?, p c := by
  cases text with
  | nil => exact hrest
  | cons c text => exact htext

/-- **No token goes across the end of a closed text** if what follows begins with a character that
no token goes on with: not with a name, a `$` or a brace. -/
theorem IsClosed.scan_append {text rest : List Char} (h : IsClosed text)
    (hrest : ∀ c ∈ rest.head?, c ≠ '$' ∧ c ≠ '\x7b' ∧ isNameChar c = false) :
    scan (text ++ rest) = scan text ++ scan rest := by
  have hname : ∀ c ∈ rest.head?, isNameChar c = false := fun c hc => (hrest c hc).2.2
  have hstart : ∀ c ∈ rest.head?, c ≠ '$' ∧ c ≠ '\x7b' ∧ isNameStart c = false := by
    intro c hc
    obtain ⟨hdollar, hbrace, hchar⟩ := hrest c hc
    refine ⟨hdollar, hbrace, ?_⟩
    by_contra hcontra
    have hchar' := isNameChar_of_isNameStart (eq_true_of_ne_false hcontra)
    simp [hchar] at hchar'
  -- the rules of a closed text are those of the scanner, so each token is read off in front
  induction h with
  | nil => rfl
  | plain hc _ ih => rw [List.cons_append, scan_cons_of_ne hc, scan_cons_of_ne hc, ih]; rfl
  | escaped _ ih =>
      rw [List.cons_append, List.cons_append, scan_dollar_dollar, scan_dollar_dollar, ih]
      rfl
  | braced hbrace _ ih =>
      rw [List.cons_append, List.cons_append, List.append_assoc, List.cons_append,
        scan_braced hbrace, scan_braced hbrace, ih]
      rfl
  | named hword hend _ ih =>
      rw [List.cons_append, List.append_assoc, scan_named hword (forall_head?_append hend hname),
        scan_named hword hend, ih]
      rfl
  | lone hnext _ ih =>
      rw [List.cons_append, scan_lone (forall_head?_append hnext hstart), scan_lone hnext, ih]
      rfl

/-! ## Expansion of tokens side by side -/

section

variable (env : Env)

theorem assemble_append (inner : List Char → Except BuildError (List Char))
    (front back : List Token) :
    assemble env inner (front ++ back) =
      (assemble env inner front).bind fun before =>
        (assemble env inner back).map (before ++ ·) := by
  induction front with
  | nil => cases h : assemble env inner back <;> simp [h, Except.bind, Except.map]
  | cons token front ih =>
      cases token with
      | text c =>
          rw [List.cons_append, assemble_text, assemble_text, ih]
          cases assemble env inner front <;> cases assemble env inner back <;> rfl
      | reference name =>
          cases hname : env.displayed? name with
          | none => rw [List.cons_append, assemble_undefined hname, assemble_undefined hname, ih]
          | some value =>
              rw [List.cons_append, assemble_defined hname, assemble_defined hname, ih]
              cases inner value.toList <;> cases assemble env inner front <;>
                cases assemble env inner back <;> simp [Except.bind, Except.map]

/-- **Two texts around a blank expand on their own**, if the first one is closed. -/
theorem expandWithin_append_space {text : List Char} (htext : IsClosed text) (root : String)
    (levels : Nat) (rest out : List Char) :
    expandWithin env root levels (text ++ ' ' :: rest) = .ok out ↔
      ∃ before after, expandWithin env root levels text = .ok before ∧
        expandWithin env root levels rest = .ok after ∧ out = before ++ ' ' :: after := by
  cases levels with
  | zero => simp [expandWithin]
  | succ levels =>
      have hspace : ∀ c ∈ (' ' :: rest).head?, c ≠ '$' ∧ c ≠ '\x7b' ∧ isNameChar c = false := by
        intro c hc
        obtain rfl : ' ' = c := by simpa using hc
        exact ⟨by decide, by decide, rfl⟩
      simp only [expandWithin]
      rw [htext.scan_append hspace, assemble_append, scan_cons_of_ne (by decide), assemble_text]
      cases assemble env (expandWithin env root levels) (scan text) <;>
        cases assemble env (expandWithin env root levels) (scan rest) <;>
        simp [Except.bind, Except.map, eq_comm]

/-- The items of a list whose display expands have expansions of their own, and these are put
together as the items were. -/
theorem expandWithin_intercalate (root : String) (levels : Nat) {items : List (List Char)}
    (hitems : ∀ item ∈ items, IsClosed item) {out : List Char}
    (h : expandWithin env root (levels + 1) ([' '].intercalate items) = .ok out) :
    ∃ outs,
      List.Forall₂ (fun item out => expandWithin env root (levels + 1) item = .ok out) items outs ∧
        out = [' '].intercalate outs := by
  induction items generalizing out with
  | nil =>
      obtain rfl : out = [] := by simpa [expandWithin, eq_comm] using h
      exact ⟨[], .nil, rfl⟩
  | cons item rest ih =>
      cases rest with
      | nil => exact ⟨[out], .cons (by simpa using h) .nil, by simp⟩
      | cons other later =>
          rw [List.intercalate_cons_cons, List.append_assoc, List.singleton_append,
            expandWithin_append_space env (hitems item (by simp))] at h
          obtain ⟨before, after, hbefore, hafter, rfl⟩ := h
          obtain ⟨outs, houts, rfl⟩ :=
            ih (fun item hitem => hitems item (List.mem_cons_of_mem _ hitem)) hafter
          refine ⟨before :: outs, .cons hbefore houts, ?_⟩
          cases houts with
          | cons => simp

/-! ## The shift of the levels -/

theorem assemble_mono {inner inner' : List Char → Except BuildError (List Char)}
    (hinner : ∀ text out, inner text = .ok out → inner' text = .ok out) {tokens : List Token}
    {out : List Char} (h : assemble env inner tokens = .ok out) :
    assemble env inner' tokens = .ok out := by
  induction tokens generalizing out with
  | nil => exact h
  | cons token rest ih =>
      cases token with
      | text c =>
          rw [assemble_text_eq_ok_iff] at h ⊢
          obtain ⟨later, hlater, hout⟩ := h
          exact ⟨later, ih hlater, hout⟩
      | reference name =>
          cases hname : env.displayed? name with
          | none =>
              rw [assemble_undefined hname] at h ⊢
              exact ih h
          | some value =>
              rw [assemble_defined_eq_ok_iff hname] at h ⊢
              obtain ⟨expanded, later, hexpanded, hlater, hout⟩ := h
              exact ⟨expanded, later, hinner _ _ hexpanded, ih hlater, hout⟩

/-- A text that expands within some levels has the same expansion within more, whatever template it
is met in. -/
theorem expandWithin_mono {root other : String} {levels more : Nat} (hlevels : levels ≤ more)
    {text out : List Char} (h : expandWithin env root levels text = .ok out) :
    expandWithin env other more text = .ok out := by
  induction levels generalizing more text out with
  | zero => simp [expandWithin] at h
  | succ levels ih =>
      obtain ⟨more, rfl⟩ : ∃ below, more = below + 1 := ⟨more - 1, by omega⟩
      rw [expandWithin] at h ⊢
      exact assemble_mono env (fun _ _ => ih (Nat.le_of_succ_le_succ hlevels)) h

end

/-! ## Templates and lists -/

/-- What the collapsed texts make is what they make as texts. -/
theorem ofList_spaced (texts : List (List Char)) :
    String.ofList (Text.spaced texts) =
      " ".intercalate ((texts.map String.ofList).filter (· ≠ "")) := by
  have hfilter : (texts.map String.ofList).filter (· ≠ "") =
      (texts.filter fun text => !text.isEmpty).map String.ofList := by
    rw [List.filter_map]
    congr 1
    refine List.filter_congr fun text _ => ?_
    cases text <;> simp
  refine String.toList_injective ?_
  rw [hfilter, String.toList_intercalate, List.map_map, Text.spaced, String.toList_ofList]
  simp [Function.comp_def]

namespace Env

variable {env : Env}

/-- For the result of an expansion it does not matter which template an error would name. -/
theorem expand_eq_ok_iff_of_root (root : String) {template result : String} :
    env.expand template = .ok result ↔
      ∃ text, expandWithin env root (maxDepth + 1) template.toList = .ok text ∧
        result = String.ofList (Text.collapse text) := by
  rw [expand_eq_ok_iff]
  refine exists_congr fun text => and_congr_left fun _ => ?_
  exact ⟨expandWithin_mono env (Nat.le_refl _), expandWithin_mono env (Nat.le_refl _)⟩

/-- A text that reads as one reference expands to what the displayed value does one level below. -/
theorem expandWithin_of_scan_eq {text : List Char} {name value : String}
    (htext : scan text = [.reference name]) (hvalue : env.displayed? name = some value)
    (root : String) (levels : Nat) :
    expandWithin env root (levels + 1) text = expandWithin env root levels value.toList := by
  rw [expandWithin, htext, assemble_defined hvalue]
  cases expandWithin env root levels value.toList <;> simp [Except.bind, Except.map]

/-- So does a reference in braces. -/
theorem expandWithin_reference {name value : String} (hname : '\x7d' ∉ name.toList)
    (hvalue : env.displayed? name = some value) (root : String) (levels : Nat) :
    expandWithin env root (levels + 1) ("$\x7b" ++ name ++ "\x7d").toList =
      expandWithin env root levels value.toList := by
  have hscan : scan ("$\x7b" ++ name ++ "\x7d").toList = [.reference name] := by
    simpa using scan_braced hname []
  exact expandWithin_of_scan_eq hscan hvalue root levels

theorem expand_append_space {first : String} (hfirst : IsClosed first.toList)
    (second result : String) :
    env.expand (first ++ " " ++ second) = .ok result ↔
      ∃ before after, env.expand first = .ok before ∧ env.expand second = .ok after ∧
        result = " ".intercalate ([before, after].filter (· ≠ "")) := by
  have htemplate : (first ++ " " ++ second).toList = first.toList ++ ' ' :: second.toList := by
    simp
  simp only [expand_eq_ok_iff_of_root first, htemplate, expandWithin_append_space env hfirst]
  constructor
  · rintro ⟨_, ⟨before, after, hbefore, hafter, rfl⟩, rfl⟩
    refine ⟨_, _, ⟨before, hbefore, rfl⟩, ⟨after, hafter, rfl⟩, ?_⟩
    rw [Text.collapse_append_blank rfl, ofList_spaced]
    rfl
  · rintro ⟨_, _, ⟨before, hbefore, rfl⟩, ⟨after, hafter, rfl⟩, rfl⟩
    refine ⟨_, ⟨before, after, hbefore, hafter, rfl⟩, ?_⟩
    rw [Text.collapse_append_blank rfl, ofList_spaced]
    rfl

/-- The list under a reference has its items expanded on their own, one level further up than they
are met. -/
theorem expand_items {name : String} {items : List String} (hname : '\x7d' ∉ name.toList)
    (hvalue : env.get? name = some (.items items))
    (hitems : ∀ item ∈ items, IsClosed item.toList) {result : String}
    (h : env.expand ("$\x7b" ++ name ++ "\x7d") = .ok result) :
    ∃ results, List.Forall₂ (fun item result => env.expand item = .ok result) items results ∧
      result = " ".intercalate (results.filter (· ≠ "")) := by
  obtain ⟨text, htext, rfl⟩ := expand_eq_ok_iff.mp h
  have hdisplayed : env.displayed? name = some (" ".intercalate items) := by
    simp [displayed?, hvalue, Value.display]
  rw [expandWithin_reference hname hdisplayed, String.toList_intercalate] at htext
  obtain ⟨outs, houts, rfl⟩ := expandWithin_intercalate env _ 31 (by simpa using hitems) htext
  refine ⟨outs.map fun out => String.ofList (Text.collapse out), ?_, ?_⟩
  · -- an item is expanded here as a template of its own, with one level more to go
    rw [List.forall₂_map_left_iff] at houts
    rw [List.forall₂_map_right_iff]
    refine houts.imp fun item out hout => ?_
    exact expand_eq_ok_iff.mpr ⟨out, expandWithin_mono env (by decide) hout, rfl⟩
  · rw [Text.collapse_intercalate, ofList_spaced, List.map_map]
    rfl

/-- **Expansion of texts side by side.** Two texts with a space between them, the first of which
leaves no brace open, expand if both do, and then to the two results with one space between them,
where an empty result goes together with its space. And where a reference in braces to a list
expands, so does each of its items, if none of them leaves a brace open, and the list stands for the
results in the same way. -/
theorem expand_join (env : Env) :
    (∀ first second : String, IsClosed first.toList → ∀ result,
      env.expand (first ++ " " ++ second) = .ok result ↔
        ∃ before after, env.expand first = .ok before ∧ env.expand second = .ok after ∧
          result = " ".intercalate ([before, after].filter (· ≠ ""))) ∧
    ∀ name items, '\x7d' ∉ name.toList → env.get? name = some (.items items) →
      (∀ item ∈ items, IsClosed item.toList) →
        ∀ result, env.expand ("$\x7b" ++ name ++ "\x7d") = .ok result →
          ∃ results, List.Forall₂ (fun item result => env.expand item = .ok result) items results ∧
            result = " ".intercalate (results.filter (· ≠ "")) := by
  constructor
  · intro first second hfirst result
    exact expand_append_space hfirst second result
  · intro name items hname hvalue hitems result hresult
    exact expand_items hname hvalue hitems hresult

/-- An environment with a list whose items refer to a text and to nothing, and end with `$`. -/
def listEnv : Env :=
  (empty.set "DIR" (.text "x \t y")).set "FLAGS" (.items ["-I$DIR", "$NONE", "o$"])

theorem expand_join_listEnv :
    (IsClosed "a$DIR".toList ∧
      listEnv.expand ("a$DIR" ++ " " ++ "$\x7bDIR") = .ok "ax y $\x7bDIR") ∧
    ('\x7d' ∉ "FLAGS".toList ∧
      listEnv.get? "FLAGS" = some (.items ["-I$DIR", "$NONE", "o$"]) ∧
      (∀ item ∈ ["-I$DIR", "$NONE", "o$"], IsClosed item.toList) ∧
      listEnv.expand ("$\x7b" ++ "FLAGS" ++ "\x7d") = .ok "-Ix y o$" ∧
      ∃ results, List.Forall₂ (fun item result => listEnv.expand item = .ok result)
          ["-I$DIR", "$NONE", "o$"] results ∧
        "-Ix y o$" = " ".intercalate (results.filter (· ≠ ""))) := by
  have hdirName : "DIR".toList.all isNameChar = true := by rfl
  have hdir : IsClosed "$DIR".toList :=
    @IsClosed.named "DIR".toList [] ⟨⟨'D', rfl, rfl⟩, List.all_eq_true.mp hdirName⟩ (by simp) .nil
  have hnoneName : "NONE".toList.all isNameChar = true := by rfl
  have hnone : IsClosed "$NONE".toList :=
    @IsClosed.named "NONE".toList [] ⟨⟨'N', rfl, rfl⟩, List.all_eq_true.mp hnoneName⟩ (by simp)
      .nil
  have hfirst : IsClosed "a$DIR".toList := .plain (by decide) hdir
  have hitems : ∀ item ∈ ["-I$DIR", "$NONE", "o$"], IsClosed item.toList := by
    simp only [List.forall_mem_cons]
    exact ⟨.plain (by decide) (.plain (by decide) hdir), hnone,
      .plain (by decide) (.lone (by simp) .nil), by simp⟩
  have hlist : listEnv.get? "FLAGS" = some (.items ["-I$DIR", "$NONE", "o$"]) := by rfl
  have hresult : listEnv.expand ("$\x7b" ++ "FLAGS" ++ "\x7d") = .ok "-Ix y o$" := by rfl
  refine ⟨⟨hfirst, ?_⟩, by decide, hlist, hitems, hresult, ?_⟩
  · exact ((expand_join listEnv).1 "a$DIR" "$\x7bDIR" hfirst _).mpr
      ⟨"ax y", "$\x7bDIR", by rfl, by rfl, by rfl⟩
  · exact (expand_join listEnv).2 "FLAGS" _ (by decide) hlist hitems _ hresult

/-- A list whose name has a closing brace in it is not what a reference in braces refers to: the
name ends at that brace. -/
theorem expand_items_fails_of_brace :
    ¬ ∀ (env : Env) (name : String) (items : List String),
      env.get? name = some (.items items) → (∀ item ∈ items, IsClosed item.toList) →
        ∀ result, env.expand ("$\x7b" ++ name ++ "\x7d") = .ok result →
          ∃ results, List.Forall₂ (fun item result => env.expand item = .ok result) items results ∧
            result = " ".intercalate (results.filter (· ≠ "")) := by
  intro h
  have hclosed : ∀ item ∈ ["x"], IsClosed item.toList := by
    simp only [List.forall_mem_cons]
    exact ⟨.plain (by decide) .nil, by simp⟩
  obtain ⟨results, hresults, hresult⟩ := h (empty.set "A\x7dB" (.items ["x"])) "A\x7dB" ["x"]
    (by rfl) hclosed "B\x7d" (by rfl)
  cases hresults with
  | cons hitem hrest =>
      cases hrest
      have hx : (empty.set "A\x7dB" (.items ["x"])).expand "x" = .ok "x" := by rfl
      rw [hx, Except.ok.injEq] at hitem
      subst hitem
      exact absurd hresult (by decide)

end Env

end FirmwareBench
