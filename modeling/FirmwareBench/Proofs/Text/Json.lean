import FirmwareBench.Text.Json
import Mathlib

/-!
# Printed JSON is unambiguous

From a printed document the document can be told. The first character says what kind of document it
is; a quotation mark inside a text is escaped, so that the text ends at the first one that is not;
and behind a number there is always something that no number goes on with. So where two documents
are printed in front of other texts and the results are equal, the documents are equal and so is
what stands behind them, which carries over from items and members to arrays and objects.

## Main definitions

* `Json.readChar?`: the character that the front of a quoted text stands for.
* `Json.Kind`: the kinds of documents, told by the first character.
* `Json.IsEnd`: what may stand behind a document.

## Main statements

* `Json.quote_append_inj`: the same for quoted texts.
* `Json.print_append_inj`: documents at one level of indentation.
* `Json.pretty_injective`: different documents have different listings.
-/

set_option autoImplicit false

namespace FirmwareBench.Json

/-! ## Texts between quotation marks -/

/-- The number that a hexadecimal digit stands for. -/
def hexValue (c : Char) : Nat := if c.toNat < 58 then c.toNat - 48 else c.toNat - 87

/-- The character that the text behind a backslash stands for, and what follows. -/
def readEscape? : List Char → Option (Char × List Char)
  | [] => none
  | 'n' :: rest => some ('\n', rest)
  | 'r' :: rest => some ('\r', rest)
  | 't' :: rest => some ('\t', rest)
  | 'b' :: rest => some (Char.ofNat 8, rest)
  | 'f' :: rest => some (Char.ofNat 12, rest)
  | 'u' :: _ :: _ :: high :: low :: rest =>
    some (Char.ofNat (16 * hexValue high + hexValue low), rest)
  | c :: rest => some (c, rest)

/-- The character that the front of a quoted text stands for, and what follows; none at the
quotation mark that ends it. -/
def readChar? : List Char → Option (Char × List Char)
  | [] => none
  | c :: rest =>
    if c = '"' then none else if c = '\\' then readEscape? rest else some (c, rest)

theorem hexValue_hexDigit : ∀ n < 16, hexValue (hexDigit n) = n := by decide

theorem readEscape?_control {c : Char} (h : c.toNat < 32) (rest : List Char) :
    readEscape? (['u', '0', '0', hexDigit (c.toNat / 16), hexDigit (c.toNat % 16)] ++ rest) =
      some (c, rest) := by
  have hhigh : hexValue (hexDigit (c.toNat / 16)) = c.toNat / 16 :=
    hexValue_hexDigit _ (by omega)
  have hlow : hexValue (hexDigit (c.toNat % 16)) = c.toNat % 16 := hexValue_hexDigit _ (by omega)
  simp only [List.cons_append, List.nil_append, readEscape?, hhigh, hlow]
  rw [Nat.div_add_mod, Char.ofNat_toNat]

/-- What a character is written as stands for that character. -/
theorem readChar?_escape (c : Char) (rest : List Char) :
    readChar? (escape c ++ rest) = some (c, rest) := by
  have hbackslash (text : List Char) : readChar? ('\\' :: text) = readEscape? text := by
    simp [readChar?]
  rw [escape]
  split_ifs with hquote hslash hline hreturn htab hback hfeed hcontrol
  · simp [hbackslash, readEscape?, hquote]
  · simp [hbackslash, readEscape?, hslash]
  · simp [hbackslash, readEscape?, hline]
  · simp [hbackslash, readEscape?, hreturn]
  · simp [hbackslash, readEscape?, htab]
  · obtain rfl : c = Char.ofNat 8 := by rw [← hback, Char.ofNat_toNat]
    rfl
  · obtain rfl : c = Char.ofNat 12 := by rw [← hfeed, Char.ofNat_toNat]
    rfl
  · rw [List.cons_append, hbackslash, readEscape?_control hcontrol]
  · -- any other character stands for itself
    simp [readChar?, hquote, hslash]

theorem readChar?_quotation_mark (rest : List Char) : readChar? ('"' :: rest) = none := rfl

/-- Escaped texts in front of quotation marks are equal only if the texts are. -/
theorem flatMap_escape_append_inj {first second rest rest' : List Char}
    (h : first.flatMap escape ++ '"' :: rest = second.flatMap escape ++ '"' :: rest') :
    first = second ∧ rest = rest' := by
  induction first generalizing second with
  | nil =>
      cases second with
      | nil => simpa using h
      | cons d second =>
          have hread := congrArg readChar? h
          rw [List.flatMap_cons, List.append_assoc, readChar?_escape] at hread
          simp [readChar?_quotation_mark] at hread
  | cons c first ih =>
      have hread := congrArg readChar? h
      rw [List.flatMap_cons, List.append_assoc, readChar?_escape] at hread
      cases second with
      | nil => simp [readChar?_quotation_mark] at hread
      | cons d second =>
          rw [List.flatMap_cons, List.append_assoc, readChar?_escape, Option.some.injEq,
            Prod.mk.injEq] at hread
          obtain ⟨rfl, htail⟩ := hread
          obtain ⟨rfl, rfl⟩ := ih htail
          exact ⟨rfl, rfl⟩

/-- **Quoted texts are unambiguous**, whatever stands behind them. -/
theorem quote_append_inj {first second : String} {rest rest' : List Char}
    (h : quote first ++ rest = quote second ++ rest') : first = second ∧ rest = rest' := by
  simp only [quote, List.cons_append, List.append_assoc, List.nil_append, List.cons.injEq,
    true_and] at h
  obtain ⟨htext, hrest⟩ := flatMap_escape_append_inj h
  exact ⟨String.toList_injective htext, hrest⟩

/-! ## Numbers -/

/-- What may stand behind a document: nothing, a comma or a line break. -/
def IsEnd (rest : List Char) : Prop := ∀ c ∈ rest.head?, c = ',' ∨ c = '\n'

/-- The characters of numbers. -/
def IsNumeral (c : Char) : Prop := c = '-' ∨ c.isDigit = true

theorem IsEnd.not_isNumeral {rest : List Char} (h : IsEnd rest) :
    ∀ c ∈ rest.head?, ¬ IsNumeral c := by
  intro c hc
  rcases h c hc with rfl | rfl <;> simp [IsNumeral]

/-- Runs of characters of a class are equal where neither goes on. -/
theorem append_inj_of_not_head {p : Char → Prop} {first second rest rest' : List Char}
    (hfirst : ∀ c ∈ first, p c) (hsecond : ∀ c ∈ second, p c) (hrest : ∀ c ∈ rest.head?, ¬ p c)
    (hrest' : ∀ c ∈ rest'.head?, ¬ p c) (h : first ++ rest = second ++ rest') :
    first = second ∧ rest = rest' := by
  induction first generalizing second with
  | nil =>
      cases second with
      | nil => exact ⟨rfl, h⟩
      | cons d second =>
          rw [List.nil_append] at h
          subst h
          exact absurd (hsecond d (by simp)) (hrest d rfl)
  | cons c first ih =>
      cases second with
      | nil =>
          rw [List.nil_append] at h
          subst h
          exact absurd (hfirst c (by simp)) (hrest' c rfl)
      | cons d second =>
          rw [List.cons_append, List.cons_append, List.cons.injEq] at h
          obtain ⟨rfl, htail⟩ := h
          obtain ⟨rfl, rfl⟩ := ih (fun x hx => hfirst x (by simp [hx]))
            (fun x hx => hsecond x (by simp [hx])) htail
          exact ⟨rfl, rfl⟩

theorem isNumeral_of_mem_repr {n : Int} : ∀ c ∈ n.repr.toList, IsNumeral c := by
  have hnat (m : Nat) : ∀ c ∈ m.repr.toList, c.isDigit = true := by
    intro c hc
    rw [Nat.toList_repr] at hc
    exact Nat.isDigit_of_mem_toDigits (by decide) (by decide) hc
  intro c hc
  rw [Int.repr_eq_if] at hc
  split at hc
  · exact .inr (hnat _ c hc)
  · rw [String.toList_append, List.mem_append] at hc
    rcases hc with hminus | hdigit
    · exact .inl (by simpa using hminus)
    · exact .inr (hnat _ c hdigit)

/-- Numbers are unambiguous in front of what may stand behind a document. -/
theorem number_append_inj {first second : Int} {rest rest' : List Char} (hrest : IsEnd rest)
    (hrest' : IsEnd rest')
    (h : (toString first).toList ++ rest = (toString second).toList ++ rest') :
    first = second ∧ rest = rest' := by
  rw [Int.toString_eq_repr, Int.toString_eq_repr] at h
  obtain ⟨hnumber, htail⟩ := append_inj_of_not_head isNumeral_of_mem_repr isNumeral_of_mem_repr
    hrest.not_isNumeral hrest'.not_isNumeral h
  exact ⟨Int.repr_injective (String.toList_injective hnumber), htail⟩

/-! ## Kinds of documents -/

/-- The kinds of documents. -/
inductive Kind where
  | null
  | bool
  | number
  | string
  | array
  | object

/-- The kind of a document. -/
def kind : Json → Kind
  | null => .null
  | bool _ => .bool
  | number _ => .number
  | string _ => .string
  | array _ => .array
  | object _ => .object

/-- The kind of document that a first character begins. -/
def Kind.ofFirst (c : Char) : Kind :=
  if c = 'n' then .null
  else if c = 't' ∨ c = 'f' then .bool
  else if c = '"' then .string
  else if c = '[' then .array
  else if c = '\x7b' then .object
  else .number

theorem Kind.ofFirst_numeral {c : Char} (h : IsNumeral c) : Kind.ofFirst c = .number := by
  have hne : ∀ d ∈ ['n', 't', 'f', '"', '[', '\x7b'], c ≠ d := by
    intro d hd hcd
    subst hcd
    simp only [List.mem_cons, List.not_mem_nil, or_false] at hd
    rcases hd with rfl | rfl | rfl | rfl | rfl | rfl <;> simp [IsNumeral] at h
  simp only [List.forall_mem_cons] at hne
  obtain ⟨hn, ht, hf, hquote, hbracket, hbrace, -⟩ := hne
  simp [Kind.ofFirst, hn, ht, hf, hquote, hbracket, hbrace]

/-- The first character of a printed document tells its kind. -/
theorem exists_first (level : Nat) (document : Json) :
    ∃ c rest, print level document = c :: rest ∧ Kind.ofFirst c = document.kind := by
  match document with
  | null => exact ⟨_, _, rfl, rfl⟩
  | bool true => exact ⟨_, _, rfl, rfl⟩
  | bool false => exact ⟨_, _, rfl, rfl⟩
  | string text => exact ⟨_, _, rfl, rfl⟩
  | array [] => exact ⟨_, _, rfl, rfl⟩
  | array (_ :: _) => exact ⟨_, _, rfl, rfl⟩
  | object [] => exact ⟨_, _, rfl, rfl⟩
  | object ((_, _) :: _) => exact ⟨_, _, rfl, rfl⟩
  | number n =>
      cases hdigits : (toString n).toList with
      | nil =>
          have hempty : n.repr = "" := String.toList_injective (by simpa using hdigits)
          rw [Int.repr_eq_if] at hempty
          split at hempty
          · exact absurd hempty Nat.repr_ne_empty
          · simp at hempty
      | cons c rest =>
          have hc : IsNumeral c := isNumeral_of_mem_repr (n := n) c (by
            rw [← Int.toString_eq_repr, hdigits]; simp)
          exact ⟨c, rest, hdigits, Kind.ofFirst_numeral hc⟩

/-- Documents that print alike are of one kind. -/
theorem kind_eq_of_print {level : Nat} {first second : Json} {rest rest' : List Char}
    (h : print level first ++ rest = print level second ++ rest') : first.kind = second.kind := by
  obtain ⟨c, text, hfirst, hkind⟩ := exists_first level first
  obtain ⟨c', text', hsecond, hkind'⟩ := exists_first level second
  rw [hfirst, hsecond, List.cons_append, List.cons_append, List.cons.injEq] at h
  rw [← hkind, ← hkind', h.1]

/-! ## Documents -/

theorem isEnd_printItems (level : Nat) (items : List Json) (rest : List Char) :
    IsEnd (printItems level items ++ '\n' :: rest) := by
  cases items <;> simp [IsEnd, printItems]

theorem isEnd_printMembers (level : Nat) (members : List (String × Json)) (rest : List Char) :
    IsEnd (printMembers level members ++ '\n' :: rest) := by
  match members with
  | [] => simp [IsEnd, printMembers]
  | (_, _) :: _ => simp [IsEnd, printMembers]

mutual

/-- **Printed documents are unambiguous** in front of what may stand behind them. -/
theorem print_append_inj (level : Nat) (first second : Json) {rest rest' : List Char}
    (hrest : IsEnd rest) (hrest' : IsEnd rest')
    (h : print level first ++ rest = print level second ++ rest') :
    first = second ∧ rest = rest' := by
  -- documents of different kinds differ in the first character, so equal constructors are left
  have hkind := kind_eq_of_print h
  match first, second, hkind with
  | null, null, _ => exact ⟨rfl, List.append_cancel_left h⟩
  | bool b, bool b', _ =>
      cases b <;> cases b' <;> simp [print] at h <;> simp [h]
  | number n, number n', _ =>
      obtain ⟨rfl, htail⟩ := number_append_inj hrest hrest' h
      exact ⟨rfl, htail⟩
  | string text, string text', _ =>
      obtain ⟨rfl, htail⟩ := quote_append_inj h
      exact ⟨rfl, htail⟩
  | array [], array [], _ => exact ⟨rfl, List.append_cancel_left h⟩
  | array [], array (_ :: _), _ => simp [print, newline] at h
  | array (_ :: _), array [], _ => simp [print, newline] at h
  | array (item :: items), array (item' :: items'), _ =>
      simp only [print, List.cons_append, List.append_assoc, List.cons.injEq, true_and,
        List.append_cancel_left_eq] at h
      -- behind an item there is a comma or a line break, whatever else there is
      obtain ⟨rfl, hitems⟩ := print_append_inj (level + 1) item item'
        (isEnd_printItems _ _ _) (isEnd_printItems _ _ _) h
      obtain ⟨rfl, htail⟩ := printItems_append_inj (level + 1) items items' hitems
      exact ⟨rfl, by simpa using htail⟩
  | object [], object [], _ => exact ⟨rfl, List.append_cancel_left h⟩
  | object [], object ((_, _) :: _), _ => simp [print, newline] at h
  | object ((_, _) :: _), object [], _ => simp [print, newline] at h
  | object ((key, value) :: members), object ((key', value') :: members'), _ =>
      simp only [print, List.cons_append, List.append_assoc, List.cons.injEq, true_and,
        List.append_cancel_left_eq] at h
      obtain ⟨rfl, hvalue⟩ := quote_append_inj h
      simp only [List.nil_append, List.cons.injEq, true_and] at hvalue
      obtain ⟨rfl, hmembers⟩ := print_append_inj (level + 1) value value'
        (isEnd_printMembers _ _ _) (isEnd_printMembers _ _ _) hvalue
      obtain ⟨rfl, htail⟩ := printMembers_append_inj (level + 1) members members' hmembers
      exact ⟨rfl, by simpa using htail⟩

theorem printItems_append_inj (level : Nat) (first second : List Json) {rest rest' : List Char}
    (h : printItems level first ++ '\n' :: rest = printItems level second ++ '\n' :: rest') :
    first = second ∧ rest = rest' := by
  match first, second with
  | [], [] => exact ⟨rfl, by simpa [printItems] using h⟩
  | [], _ :: _ => simp [printItems] at h
  | _ :: _, [] => simp [printItems] at h
  | item :: items, item' :: items' =>
      simp only [printItems, List.cons_append, List.append_assoc, List.cons.injEq, true_and,
        List.append_cancel_left_eq] at h
      obtain ⟨rfl, hitems⟩ := print_append_inj level item item'
        (isEnd_printItems _ _ _) (isEnd_printItems _ _ _) h
      obtain ⟨rfl, htail⟩ := printItems_append_inj level items items' hitems
      exact ⟨rfl, htail⟩

theorem printMembers_append_inj (level : Nat) (first second : List (String × Json))
    {rest rest' : List Char}
    (h : printMembers level first ++ '\n' :: rest = printMembers level second ++ '\n' :: rest') :
    first = second ∧ rest = rest' := by
  match first, second with
  | [], [] => exact ⟨rfl, by simpa [printMembers] using h⟩
  | [], (_, _) :: _ => simp [printMembers] at h
  | (_, _) :: _, [] => simp [printMembers] at h
  | (key, value) :: members, (key', value') :: members' =>
      simp only [printMembers, List.cons_append, List.append_assoc, List.cons.injEq, true_and,
        List.append_cancel_left_eq] at h
      obtain ⟨rfl, hvalue⟩ := quote_append_inj h
      simp only [List.nil_append, List.cons.injEq, true_and] at hvalue
      obtain ⟨rfl, hmembers⟩ := print_append_inj level value value'
        (isEnd_printMembers _ _ _) (isEnd_printMembers _ _ _) hvalue
      obtain ⟨rfl, htail⟩ := printMembers_append_inj level members members' hmembers
      exact ⟨rfl, htail⟩

end

/-- **Different documents have different listings.** -/
theorem pretty_injective : Function.Injective pretty := by
  intro first second h
  have hprint : print 0 first = print 0 second := by
    simpa [pretty] using congrArg String.toList h
  have hnil : IsEnd [] := by simp [IsEnd]
  exact (print_append_inj 0 first second hnil hnil (congrArg (· ++ []) hprint)).1

end FirmwareBench.Json
