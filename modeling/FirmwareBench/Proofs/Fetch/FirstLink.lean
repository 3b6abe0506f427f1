import FirmwareBench.Proofs.Fetch.LinkPattern
import Mathlib.Data.List.TakeWhile

/-!
# The first link

An artifact that has no pattern of its own is looked for by its label. The address found is that of
the leftmost link with the label, in the sense of the written text alone: an opening bracket, the
label, the two brackets in the middle, an address and a closing bracket. A label may be any text.

## Main definitions

* `LinkBehind`: where a text has a link with a label.
* `FirstLink`: the leftmost of these links.

## Main statements

* `Artifact.address_eq_iff_firstLink`: the address of an artifact is that of the first link with its
  label, and the only error is that there is none.
-/

set_option autoImplicit false

namespace FirmwareBench

open Pattern

/-- In a text, a link with a label to an address stands behind some other characters. An address has
one character at least, and all of them may stand in an address. -/
def LinkBehind (label address before text : List Char) : Prop :=
  address ≠ [] ∧ (∀ c ∈ address, isAddressChar c = true) ∧
    ∃ after, text = before ++ ['['] ++ label ++ [']', '('] ++ address ++ [')'] ++ after

/-- The leftmost link with a label leads to an address. -/
def FirstLink (label address text : List Char) : Prop :=
  ∃ before, LinkBehind label address before text ∧
    ∀ other earlier, LinkBehind label other earlier text → before.length ≤ earlier.length

/-! ## Links at the front of a text -/

/-- Looking at the front of a text finds the link that stands there. -/
theorem addressAt?_eq_some_iff {label address text : List Char} :
    addressAt? label text = some address ↔ LinkBehind label address [] text := by
  constructor
  · intro h
    rw [addressAt?] at h
    cases hfront : Text.after? (linkFront label) text with
    | none => simp [hfront] at h
    | some rest =>
        simp only [hfront, Option.ite_none_right_eq_some, Option.some.injEq] at h
        obtain ⟨⟨hne, hstop⟩, rfl⟩ := h
        -- the run of address characters ends at the closing bracket
        obtain ⟨after, hafter⟩ : ∃ after, rest.dropWhile isAddressChar = ')' :: after := by
          cases hdrop : rest.dropWhile isAddressChar with
          | nil => simp [hdrop] at hstop
          | cons c after =>
              obtain rfl : c = ')' := by simpa [hdrop] using hstop
              exact ⟨after, rfl⟩
        have hrest : rest = rest.takeWhile isAddressChar ++ ')' :: after := by
          rw [← hafter, List.takeWhile_append_dropWhile]
        refine ⟨hne, fun c hc => List.mem_takeWhile_imp hc, after, ?_⟩
        have htext := Text.eq_append_of_after? hfront
        rw [hrest] at htext
        simpa [linkFront] using htext
  · rintro ⟨hne, haddress, after, rfl⟩
    have hstop : isAddressChar ')' = false := by decide
    have htext : [] ++ ['['] ++ label ++ [']', '('] ++ address ++ [')'] ++ after =
        linkFront label ++ (address ++ ')' :: after) := by
      simp [linkFront]
    have htake : (address ++ ')' :: after).takeWhile isAddressChar = address := by
      rw [List.takeWhile_append_of_pos haddress, List.takeWhile_cons, hstop]
      simp
    have hdrop : (address ++ ')' :: after).dropWhile isAddressChar = ')' :: after := by
      rw [List.dropWhile_append_of_pos haddress, List.dropWhile_cons, hstop]
      simp
    rw [addressAt?, htext, Text.after?_append]
    simp only [htake, hdrop]
    simp [hne]

/-- A link is a link at the front of what follows. -/
theorem linkBehind_append_iff {label address before text : List Char} :
    LinkBehind label address before (before ++ text) ↔ LinkBehind label address [] text := by
  simp [LinkBehind]

theorem LinkBehind.split {label address before text : List Char}
    (h : LinkBehind label address before text) :
    ∃ rest, text = before ++ rest ∧ addressAt? label rest = some address := by
  obtain ⟨hne, haddress, after, rfl⟩ := h
  refine ⟨['['] ++ label ++ [']', '('] ++ address ++ [')'] ++ after, by simp, ?_⟩
  exact addressAt?_eq_some_iff.mpr ⟨hne, haddress, after, by simp⟩

theorem FirstLink.unique {label address other text : List Char}
    (h : FirstLink label address text) (h' : FirstLink label other text) : address = other := by
  obtain ⟨before, hlink, hfirst⟩ := h
  obtain ⟨before', hlink', hfirst'⟩ := h'
  -- both stand at the same place, and there the address is determined
  have hlength : before.length = before'.length :=
    Nat.le_antisymm (hfirst _ _ hlink') (hfirst' _ _ hlink)
  obtain ⟨rest, rfl, haddress⟩ := hlink.split
  obtain ⟨rest', htext, hother⟩ := hlink'.split
  obtain ⟨-, rfl⟩ := List.append_inj htext hlength
  exact Option.some.inj (haddress.symm.trans hother)

/-! ## Searching -/

/-- Where the group of a match ends and starts is where the address is. -/
theorem slice_address {label address before text : List Char}
    (h : LinkBehind label address before text) :
    (text.drop (before.length + (linkFront label).length)).take address.length = address := by
  obtain ⟨-, -, after, rfl⟩ := h
  have htext : before ++ ['['] ++ label ++ [']', '('] ++ address ++ [')'] ++ after =
      (before ++ linkFront label) ++ (address ++ ([')'] ++ after)) := by
    simp [linkFront]
  rw [htext, ← List.length_append, List.drop_left, List.take_left]

/-- **Searching for a link.** Nothing is found only if there is no link; what is found is the address
of the first one. -/
theorem capture?_linkNamed (label text : List Char) :
    ((linkNamed label).capture? Artifact.addressGroup text = none ∧
      ∀ address before, ¬ LinkBehind label address before text) ∨
    ∃ address, (linkNamed label).capture? Artifact.addressGroup text = some address ∧
      FirstLink label address text := by
  have hcapture : (linkNamed label).capture? Artifact.addressGroup text =
      ((linkTree label).search? text).bind fun found =>
        (found.span? 1).map fun span => (text.drop span.1).take (span.2 - span.1) := by
    have hname : (linkNamed label).names.find? (·.1 == Artifact.addressGroup) =
        some ("url", 1) := rfl
    rw [Named.capture?, hname]
    show ((linkTree label).search? text).bind _ = _
    refine Option.bind_congr fun found _ => ?_
    cases found.span? 1 <;> rfl
  -- no match at a place means no link there
  have hnowhere : ∀ before rest, text = before ++ rest →
      (linkTree label).matchAt? (Cursor.past ⟨0, none, text⟩ before rest) = none →
      addressAt? label rest = none := by
    intro before rest _ hnone
    have hmatch := matchAt?_linkTree label (Cursor.past ⟨0, none, text⟩ before rest)
    rw [hnone] at hmatch
    exact Option.map_eq_none_iff.mp hmatch.symm
  cases hsearch : (linkTree label).search? text with
  | none =>
      left
      refine ⟨by rw [hcapture, hsearch]; rfl, ?_⟩
      intro address before hlink
      obtain ⟨rest, htext, haddress⟩ := hlink.split
      have hnone := hnowhere before rest htext (searchFrom?_eq_none hsearch before rest htext)
      rw [hnone] at haddress
      cases haddress
  | some found =>
      right
      obtain ⟨before, rest, htext, hmatch, hfirst⟩ := searchFrom?_eq_some hsearch
      have hspan := matchAt?_linkTree label (Cursor.past ⟨0, none, text⟩ before rest)
      rw [hmatch, Option.map_some] at hspan
      obtain ⟨address, haddress, hgroup⟩ := Option.map_eq_some_iff.mp hspan.symm
      have hlink : LinkBehind label address before text := by
        rw [htext]
        exact linkBehind_append_iff.mpr (addressAt?_eq_some_iff.mp haddress)
      refine ⟨address, ?_, before, hlink, ?_⟩
      · rw [hcapture, hsearch, Option.bind_some, ← hgroup, Option.map_some]
        have hslice := slice_address hlink
        simp [Cursor.past, hslice]
      · intro other earlier hother
        obtain ⟨later, hlater, hotherAddress⟩ := hother.split
        by_contra hlt
        have hnone := hnowhere earlier later hlater (hfirst earlier later hlater (by omega))
        rw [hnone] at hotherAddress
        cases hotherAddress

/-- **The address of an artifact.** Where an artifact has no pattern of its own and the pattern for
its label is not refused for its size, the address is that of the first link with the label; the only
error is that there is no link, and it names the artifact and its label. -/
theorem Artifact.address_eq_iff_firstLink (a : Artifact) (readme : String)
    (hpattern : a.pattern? = none)
    (hsize : readPattern a.linkPattern.toList ≠ .error .tooLarge) :
    (∀ url, a.address readme = .ok url ↔
      FirstLink a.label.toList url.toList readme.toList) ∧
    ∀ error, a.address readme = .error error ↔
      (∀ url before, ¬ LinkBehind a.label.toList url before readme.toList) ∧
        error = .linkNotFound a.name a.label := by
  have htext : a.linkPattern.toList = Artifact.labelPattern a.label.toList := by
    simp [Artifact.linkPattern, hpattern]
  have hread : readPattern a.linkPattern.toList = .ok (linkNamed a.label.toList) := by
    rw [htext, readPattern_labelPattern] at hsize ⊢
    split
    · next hlarge => exact absurd (if_pos hlarge) hsize
    · rfl
  rw [Artifact.address, hread]
  rcases capture?_linkNamed a.label.toList readme.toList with ⟨hnone, hlinks⟩ | ⟨address, hsome, hfirst⟩
  · simp only [hnone]
    constructor
    · intro url
      constructor
      · intro h
        cases h
      · rintro ⟨before, hlink, -⟩
        exact absurd hlink (hlinks url.toList before)
    · intro error
      constructor
      · intro h
        cases h
        exact ⟨hlinks, rfl⟩
      · rintro ⟨-, rfl⟩
        rfl
  · simp only [hsome]
    constructor
    · intro url
      constructor
      · intro h
        cases h
        rwa [String.toList_ofList]
      · intro hurl
        rw [hfirst.unique hurl, String.ofList_toList]
    · intro error
      constructor
      · intro h
        cases h
      · rintro ⟨hlinks, -⟩
        obtain ⟨before, hlink, -⟩ := hfirst
        exact absurd hlink (hlinks address before)

/-- The characters of a label stand for themselves, and the first of two links is taken. -/
theorem Artifact.address_metacharacters :
    let a : Artifact := { name := "x", label := "c++ [x]", file := "f" }
    a.pattern? = none ∧ readPattern a.linkPattern.toList ≠ .error .tooLarge ∧
      a.address "[c++ [x]](http://a/1) [c++ [x]](b)" = .ok "http://a/1" := by
  intro a
  have htext : a.linkPattern.toList = Artifact.labelPattern a.label.toList :=
    String.toList_ofList
  have hsize : readPattern a.linkPattern.toList ≠ .error .tooLarge := by
    rw [htext, readPattern_labelPattern_of_length_le (by decide)]
    exact fun h => nomatch h
  have haddressChars : "http://a/1".toList.all isAddressChar = true := by decide
  have hlink : LinkBehind a.label.toList "http://a/1".toList []
      "[c++ [x]](http://a/1) [c++ [x]](b)".toList :=
    ⟨by decide, List.all_eq_true.mp haddressChars, " [c++ [x]](b)".toList, by decide⟩
  have hfirst : FirstLink a.label.toList "http://a/1".toList
      "[c++ [x]](http://a/1) [c++ [x]](b)".toList :=
    ⟨[], hlink, fun _ _ _ => Nat.zero_le _⟩
  have haddress := Artifact.address_eq_iff_firstLink a "[c++ [x]](http://a/1) [c++ [x]](b)" rfl hsize
  exact ⟨rfl, hsize, (haddress.1 "http://a/1").mpr hfirst⟩

end FirmwareBench
