import FirmwareBench.Build.Expansion
import Mathlib.Data.List.TakeWhile

/-!
# The grammar of templates

The scanner reads a template with one character of look-ahead and a state that says what is open.
The grammar says which texts read as which tokens without a state, with one rule for each form that
may stand at the front of a template. The two agree on every text.

## Main definitions

* `IsName`: the names that need no braces.
* `Reads`: the grammar.

## Main statements

* `reads_iff`: a text reads as the tokens that the scanner finds, and as no others.
-/

set_option autoImplicit false

namespace FirmwareBench

/-- A letter or an underscore, then letters, digits and underscores, all of them ASCII. -/
def IsName (name : List Char) : Prop :=
  (∃ c ∈ name.head?, isNameStart c = true) ∧ ∀ c ∈ name, isNameChar c = true

/-- What a text reads as. The rules exclude each other. -/
inductive Reads : List Char → List Token → Prop
  | nil : Reads [] []
  | plain {c : Char} {rest : List Char} {tokens : List Token} (hc : c ≠ '$')
      (hrest : Reads rest tokens) : Reads (c :: rest) (.text c :: tokens)
  | escaped {rest : List Char} {tokens : List Token} (hrest : Reads rest tokens) :
      Reads ('$' :: '$' :: rest) (.text '$' :: tokens)
  /-- A name in braces; it ends at the first closing brace. -/
  | braced {name rest : List Char} {tokens : List Token} (hname : '\x7d' ∉ name)
      (hrest : Reads rest tokens) :
      Reads ('$' :: '\x7b' :: (name ++ '\x7d' :: rest))
        (.reference (String.ofList name) :: tokens)
  /-- A brace that is never closed; nothing behind it is read. -/
  | unclosed {rest : List Char} (hrest : '\x7d' ∉ rest) :
      Reads ('$' :: '\x7b' :: rest) (('$' :: '\x7b' :: rest).map .text)
  /-- A name without braces; it goes as far as it can. -/
  | named {name rest : List Char} {tokens : List Token} (hname : IsName name)
      (hend : ∀ c ∈ rest.head?, isNameChar c = false) (hrest : Reads rest tokens) :
      Reads ('$' :: (name ++ rest)) (.reference (String.ofList name) :: tokens)
  | lone {rest : List Char} {tokens : List Token}
      (hnext : ∀ c ∈ rest.head?, c ≠ '$' ∧ c ≠ '\x7b' ∧ isNameStart c = false)
      (hrest : Reads rest tokens) : Reads ('$' :: rest) (.text '$' :: tokens)

theorem isNameChar_of_isNameStart {c : Char} (h : isNameStart c = true) : isNameChar c = true := by
  rcases (Bool.or_eq_true _ _).mp h with hunderscore | halpha
  · simp [isNameChar, hunderscore]
  · simp [isNameChar, Char.isAlphanum, halpha]

theorem isName_cons {c : Char} {name : List Char} (hstart : isNameStart c = true)
    (hname : ∀ d ∈ name, isNameChar d = true) : IsName (c :: name) := by
  refine ⟨⟨c, rfl, hstart⟩, ?_⟩
  intro d hd
  rcases List.mem_cons.mp hd with rfl | hmem
  · exact isNameChar_of_isNameStart hstart
  · exact hname d hmem

/-- The longest run of characters of names at the front of a text. -/
theorem exists_longest_name (text : List Char) :
    ∃ name rest, text = name ++ rest ∧ (∀ c ∈ name, isNameChar c = true) ∧
      ∀ c ∈ rest.head?, isNameChar c = false := by
  refine ⟨text.takeWhile isNameChar, text.dropWhile isNameChar,
    List.takeWhile_append_dropWhile.symm, fun c hc => List.mem_takeWhile_imp hc, ?_⟩
  intro c hc
  have hnot := List.head?_dropWhile_not isNameChar text
  rw [Option.mem_def.mp hc] at hnot
  simpa using hnot

/-! ## The scanner on each form -/

/-- An open brace is closed by the first closing brace. -/
theorem scanFrom_braced {name : List Char} (hname : '\x7d' ∉ name) (soFar rest : List Char) :
    scanFrom (.braced soFar) (name ++ '\x7d' :: rest) =
      .reference (String.ofList (soFar.reverse ++ name)) :: scan rest := by
  induction name generalizing soFar with
  | nil => simp [scanFrom, Token.ofReversed, scan]
  | cons c name ih =>
      obtain ⟨hc, hrest⟩ : '\x7d' ≠ c ∧ '\x7d' ∉ name := by simpa using hname
      rw [List.cons_append, scanFrom, if_neg (Ne.symm hc), ih hrest]
      simp

/-- An open brace without a closing one keeps everything. -/
theorem scanFrom_unclosed {rest : List Char} (hrest : '\x7d' ∉ rest) (soFar : List Char) :
    scanFrom (.braced soFar) rest = ('$' :: '\x7b' :: (soFar.reverse ++ rest)).map .text := by
  induction rest generalizing soFar with
  | nil => simp [scanFrom]
  | cons c rest ih =>
      obtain ⟨hc, hrest⟩ : '\x7d' ≠ c ∧ '\x7d' ∉ rest := by simpa using hrest
      rw [scanFrom, if_neg (Ne.symm hc), ih hrest]
      simp

/-- A bare name goes on over the characters of names and ends in front of any other. -/
theorem scanFrom_named {name rest : List Char} (hname : ∀ c ∈ name, isNameChar c = true)
    (hend : ∀ c ∈ rest.head?, isNameChar c = false) (soFar : List Char) :
    scanFrom (.named soFar) (name ++ rest) =
      .reference (String.ofList (soFar.reverse ++ name)) :: scan rest := by
  induction name generalizing soFar with
  | nil =>
      cases rest with
      | nil => simp [scanFrom, Token.ofReversed]
      | cons c rest =>
          -- the character that ends the name may itself begin something
          have hc : isNameChar c = false := hend c rfl
          by_cases hdollar : c = '$'
          · simp [scanFrom, scan, Token.ofReversed, hdollar, show isNameChar '$' = false from rfl]
          · simp [scanFrom, scan, Token.ofReversed, hdollar, hc]
  | cons c name ih =>
      rw [List.cons_append, scanFrom, if_pos (hname c List.mem_cons_self),
        ih fun d hd => hname d (List.mem_cons_of_mem _ hd)]
      simp

theorem scan_braced {name : List Char} (hname : '\x7d' ∉ name) (rest : List Char) :
    scan ('$' :: '\x7b' :: (name ++ '\x7d' :: rest)) =
      .reference (String.ofList name) :: scan rest := by
  simpa [scan, scanFrom] using scanFrom_braced hname [] rest

theorem scan_unclosed {rest : List Char} (hrest : '\x7d' ∉ rest) :
    scan ('$' :: '\x7b' :: rest) = ('$' :: '\x7b' :: rest).map .text := by
  simpa [scan, scanFrom] using scanFrom_unclosed hrest []

/-- The first character of a bare name is none of those with a meaning behind a `$`. -/
theorem ne_of_isNameStart {c : Char} (h : isNameStart c = true) : c ≠ '$' ∧ c ≠ '\x7b' := by
  constructor
  · rintro rfl
    simp [show isNameStart '$' = false from rfl] at h
  · rintro rfl
    simp [show isNameStart '\x7b' = false from rfl] at h

theorem scan_named {name rest : List Char} (hname : IsName name)
    (hend : ∀ c ∈ rest.head?, isNameChar c = false) :
    scan ('$' :: (name ++ rest)) = .reference (String.ofList name) :: scan rest := by
  obtain ⟨⟨first, hfirst, hstart⟩, hall⟩ := hname
  cases name with
  | nil => simp at hfirst
  | cons c name =>
      obtain rfl : c = first := by simpa using hfirst
      obtain ⟨hdollar, hbrace⟩ := ne_of_isNameStart hstart
      have hname : ∀ d ∈ name, isNameChar d = true := fun d hd => hall d (List.mem_cons_of_mem _ hd)
      have hscan := scanFrom_named hname hend [c]
      simpa [scan, scanFrom, hdollar, hbrace, hstart] using hscan

theorem scan_lone {rest : List Char}
    (hnext : ∀ c ∈ rest.head?, c ≠ '$' ∧ c ≠ '\x7b' ∧ isNameStart c = false) :
    scan ('$' :: rest) = .text '$' :: scan rest := by
  cases rest with
  | nil => rfl
  | cons c rest =>
      obtain ⟨hdollar, hbrace, hstart⟩ := hnext c rfl
      simp [scan, scanFrom, hdollar, hbrace, hstart]

/-! ## The scanner follows the grammar -/

theorem Reads.eq_scan {text : List Char} {tokens : List Token} (h : Reads text tokens) :
    tokens = scan text := by
  induction h with
  | nil => rfl
  | plain hc _ ih => rw [scan_cons_of_ne hc, ih]
  | escaped _ ih => rw [scan_dollar_dollar, ih]
  | braced hname _ ih => rw [scan_braced hname, ih]
  | unclosed hrest => rw [scan_unclosed hrest]
  | named hname hend _ ih => rw [scan_named hname hend, ih]
  | lone hnext _ ih => rw [scan_lone hnext, ih]

/-- One rule applies to a text that begins with `$`, and leaves a shorter text to read. -/
theorem reads_dollar {rest : List Char}
    (ih : ∀ shorter : List Char, shorter.length ≤ rest.length → ∃ tokens, Reads shorter tokens) :
    ∃ tokens, Reads ('$' :: rest) tokens := by
  have hrest : ∃ tokens, Reads rest tokens := ih rest le_rfl
  -- the tests are made in the order of the scanner: `$`, an opening brace, the start of a name
  cases rest with
  | nil =>
      obtain ⟨tokens, htokens⟩ := hrest
      exact ⟨_, .lone (by simp) htokens⟩
  | cons c rest =>
      by_cases hdollar : c = '$'
      · subst hdollar
        obtain ⟨tokens, htokens⟩ := ih rest (by simp)
        exact ⟨_, .escaped htokens⟩
      by_cases hbrace : c = '\x7b'
      · subst hbrace
        by_cases hclosed : '\x7d' ∈ rest
        · obtain ⟨name, after, rfl, hname⟩ := List.eq_append_cons_of_mem hclosed
          obtain ⟨tokens, htokens⟩ := ih after (by simp; omega)
          exact ⟨_, .braced hname htokens⟩
        · exact ⟨_, .unclosed hclosed⟩
      cases hstart : isNameStart c with
      | true =>
          obtain ⟨name, after, rfl, hname, hend⟩ := exists_longest_name rest
          obtain ⟨tokens, htokens⟩ := ih after (by simp; omega)
          exact ⟨_, .named (isName_cons hstart hname) hend htokens⟩
      | false =>
          obtain ⟨tokens, htokens⟩ := hrest
          exact ⟨_, .lone (by simpa using ⟨hdollar, hbrace, hstart⟩) htokens⟩

theorem exists_reads (text : List Char) : ∃ tokens, Reads text tokens := by
  -- on the length, because a rule takes a whole name away
  induction hlength : text.length using Nat.strong_induction_on generalizing text with
  | _ length ih =>
      cases text with
      | nil => exact ⟨[], .nil⟩
      | cons c rest =>
          have hshorter : ∀ shorter : List Char, shorter.length ≤ rest.length →
              ∃ tokens, Reads shorter tokens := by
            intro shorter hle
            exact ih shorter.length (by simp only [List.length_cons] at hlength; omega) shorter rfl
          by_cases hdollar : c = '$'
          · subst hdollar
            exact reads_dollar hshorter
          · obtain ⟨tokens, htokens⟩ := hshorter rest le_rfl
            exact ⟨_, .plain hdollar htokens⟩

/-- **The scanner is the grammar.** A text reads as the tokens that the scanner finds, and as no
others. -/
theorem reads_iff {text : List Char} {tokens : List Token} :
    Reads text tokens ↔ tokens = scan text := by
  constructor
  · exact Reads.eq_scan
  · rintro rfl
    obtain ⟨tokens, htokens⟩ := exists_reads text
    rwa [htokens.eq_scan] at htokens

end FirmwareBench
