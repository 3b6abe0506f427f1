import FirmwareBench.Fetch.Artifact
import FirmwareBench.Proofs.Pattern.QuotedText
import FirmwareBench.Proofs.Pattern.SizeBound
import FirmwareBench.Proofs.Pattern.Threads
import FirmwareBench.Proofs.Unicode.TableLength
import Mathlib.Data.List.Basic

/-!
# The pattern for links

The pattern that is written for a label is always read, whatever characters the label has: as the
literal beginning of a link, a group around a run of the characters of addresses, and a closing
bracket. At a place of a text it matches what a direct look at the text finds there.

## Main definitions

* `linkTree`: what the pattern for a label is read as.
* `addressAt?`: the address that a link at the front of a text leads to.

## Main statements

* `readPattern_labelPattern`: reading the pattern for a label fails for its size only.
* `readPattern_labelPattern_of_length_le`: the pattern for a short label is small enough.
* `matchAt?_linkTree`: the pattern matches where a link is, and keeps its address.
-/

set_option autoImplicit false

namespace FirmwareBench

open Pattern

/-! ## What is read -/

def addressSet : CharSet :=
  .unionAll [.property Unicode.derivedPlaces Unicode.isWord, .single '.', .single '/', .single ':',
    .single '_']

/-- What is written for an address. -/
def addressText : List Char := "(?P<url>[\\w./:_]+)".toList

/-- The group around an address. -/
def addressRun : Pattern := .group 1 (.rounds 1 none true (.set addressSet))

/-- A link with a label up to its address. -/
def linkFront (label : List Char) : List Char := '[' :: (label ++ [']', '('])

/-- What the pattern for a label is read as. -/
def linkTree (label : List Char) : Pattern :=
  .seqAll ((linkFront label).map Pattern.char ++ [addressRun, Pattern.char ')'])

/-- What is read, with the name of the group. -/
def linkNamed (label : List Char) : Named := ⟨linkTree label, [("url", 1)]⟩

namespace Pattern.Progress

theorem step_openAddress (b : Branches) (rest : List Char) :
    ({ branches := b } : Progress).step '(' (['?', 'P', '<', 'u', 'r', 'l', '>'] ++ rest) =
      .ok ({ groups := [⟨b, some 1, {}⟩], nextGroup := 2, names := [("url", 1)] }, rest) := rfl

theorem step_addressSet {p : Progress} (hflags : p.flags = {}) (rest : List Char) :
    p.step '[' (['\\', 'w', '.', '/', ':', '_', ']'] ++ rest) =
      .ok (p.push (.set addressSet) 2, rest) := by
  have hread : ∀ fuel, readClass {} (fuel + 8) (['\\', 'w', '.', '/', ':', '_', ']'] ++ rest) =
      .ok (⟨addressSet, 2⟩, rest) := fun _ => rfl
  have hfuel : 2 * (['\\', 'w', '.', '/', ':', '_', ']'] ++ rest).length + 2 =
      (2 * rest.length + 8) + 8 := by
    simp only [List.length_append, List.length_cons, List.length_nil]
    omega
  simp only [step, hfuel, hflags, hread]
  rfl

theorem step_plus (groups : List OpenGroup) (names : List (String × Nat)) (next : Nat)
    (rest : List Char) :
    ({ branches := ⟨[], [⟨.set addressSet, 2, true⟩]⟩, groups := groups, nextGroup := next,
       names := names } : Progress).step '+' (')' :: rest) =
      .ok ({ branches := ⟨[], [⟨.rounds 1 none true (.set addressSet), 3, true⟩]⟩, groups := groups,
             nextGroup := next, names := names }, ')' :: rest) := rfl

theorem step_closeAddress (b : Branches) (names : List (String × Nat)) (next : Nat)
    (rest : List Char) :
    ({ branches := ⟨[], [⟨.rounds 1 none true (.set addressSet), 3, true⟩]⟩,
       groups := [⟨b, some 1, {}⟩], nextGroup := next, names := names } : Progress).step ')' rest =
      .ok (({ branches := b, nextGroup := next, names := names } : Progress).push addressRun 4,
        rest) := rfl

theorem takes_address (b : Branches) (rest : List Char) :
    ({ branches := b } : Progress).Takes (addressText ++ rest)
      (({ branches := b, nextGroup := 2, names := [("url", 1)] } : Progress).push addressRun 4)
      rest := by
  have htext : addressText = '(' :: (['?', 'P', '<', 'u', 'r', 'l', '>'] ++
      '[' :: (['\\', 'w', '.', '/', ':', '_', ']'] ++ ['+', ')'])) := by decide
  -- four items: the group opens, the class, its repetition, the group closes
  have hopen := takes_step rfl (step_openAddress b
    ('[' :: (['\\', 'w', '.', '/', ':', '_', ']'] ++ '+' :: ')' :: rest))) (by simp)
  have hset := takes_step (p := { groups := [⟨b, some 1, {}⟩], nextGroup := 2, names := [("url", 1)] })
    rfl (step_addressSet rfl ('+' :: ')' :: rest)) (by simp)
  have hplus := takes_step rfl (step_plus [⟨b, some 1, {}⟩] [("url", 1)] 2 rest) (by simp)
  have hclose := takes_step rfl (step_closeAddress b [("url", 1)] 2 rest) (by simp)
  rw [htext]
  simpa using hopen.trans (hset.trans (hplus.trans hclose))

end Pattern.Progress

/-- Around the address the pattern is a quoted text. -/
theorem labelPattern_eq (label : List Char) :
    Artifact.labelPattern label = quote (linkFront label) ++ (addressText ++ quote [')']) := by
  have hback : "\\]\\((?P<".toList ++ (Artifact.addressGroup.toList ++ ">[\\w./:_]+)\\)".toList) =
      quote [']', '('] ++ (addressText ++ quote [')']) := by decide
  have hfront : quote (linkFront label) = "\\[".toList ++ (quote label ++ quote [']', '(']) := by
    rw [linkFront, quote_cons, quote_append]
    rfl
  simp only [Artifact.labelPattern, List.append_assoc, hback, hfront]

/-- The reading in front of the address. -/
def atAddress (label : List Char) : Progress := ({} : Progress).pushText (linkFront label)

/-- The reading behind the address. -/
def pastAddress (label : List Char) : Progress :=
  ({ branches := (atAddress label).branches, nextGroup := 2, names := [("url", 1)] } :
    Progress).push addressRun 4

theorem atAddress_eq (label : List Char) :
    atAddress label = { branches := (atAddress label).branches } := by
  rw [atAddress, Progress.pushText_eq]

theorem readAll_labelPattern (label : List Char) :
    Progress.readAll ((Artifact.labelPattern label).length + 1) {} (Artifact.labelPattern label) =
      .ok ((pastAddress label).pushText [')']) := by
  have hfront : ({} : Progress).Takes (Artifact.labelPattern label) (atAddress label)
      (addressText ++ quote [')']) := by
    rw [labelPattern_eq]
    exact Progress.takes_quote rfl rfl rfl (linkFront label) _
  have haddress : (atAddress label).Takes (addressText ++ quote [')']) (pastAddress label)
      (quote [')']) := by
    rw [atAddress_eq]
    exact Progress.takes_address (atAddress label).branches _
  have hback : (pastAddress label).Takes (quote [')']) ((pastAddress label).pushText [')']) [] := by
    have hquote := Progress.takes_quote (p := pastAddress label) rfl rfl rfl [')'] []
    rwa [List.append_nil] at hquote
  exact (hfront.trans (haddress.trans hback)).readAll

/-- The depth of nesting does not depend on the label. -/
theorem close_pastAddress (label : List Char) :
    ((pastAddress label).pushText [')']).branches.close = (linkTree label, 5) := by
  have hbranches : ((pastAddress label).pushText [')']).branches =
      ⟨[], ⟨Pattern.char ')', 0, true⟩ :: ⟨addressRun, 4, true⟩ ::
        (linkFront label).reverse.map fun c => ⟨Pattern.char c, 0, true⟩⟩ := by
    simp [pastAddress, atAddress, Progress.pushText_eq, Progress.push, Branches.push]
  -- the characters have depth 0, only the group has more
  have hdepth : (linkFront label).reverse.foldl (fun depth _ => max depth 0) 4 = 4 :=
    List.foldl_fixed' (fun _ => rfl) _
  rw [hbranches]
  refine Prod.ext ?_ ?_
  · simp [Branches.close, Branches.current, linkTree, Function.comp_def]
  · show 1 + (List.map _ (_ :: _ :: List.map _ _)).foldl max 0 = 5
    rw [List.map_cons, List.map_cons, List.map_map, List.foldl_cons, List.foldl_cons,
      List.foldl_map]
    exact congrArg (1 + ·) hdepth

/-- **Reading a link pattern.** It fails for its size only. -/
theorem readPattern_labelPattern (label : List Char) :
    readPattern (Artifact.labelPattern label) =
      if (linkTree label).size > sizeLimit then .error .tooLarge
      else .ok (linkNamed label) := by
  have hgroups : ((pastAddress label).pushText [')']).groups = [] := rfl
  have hnames : ((pastAddress label).pushText [')']).names = [("url", 1)] := rfl
  rw [readPattern, readAll_labelPattern]
  simp only [bind, Except.bind, hgroups, close_pastAddress, hnames]
  rfl

/-! ## Its size -/

/-- The class of address characters is that of word characters with four others. -/
theorem size_addressRun_le : addressRun.size ≤ 9068268 := by
  have hplaces : addressSet.places.length = Unicode.derivedPlaces.length + 8 := by
    simp [addressSet, CharSet.unionAll, CharSet.places, CharSet.single]
  have hset : addressSet.size ≤ 9068164 :=
    calc addressSet.size ≤ 1810 * addressSet.places.length + 3684 := addressSet.size_le
      _ = 1810 * (Unicode.derivedPlaces.length + 8) + 3684 := by rw [hplaces]
      _ ≤ 1810 * (5000 + 8) + 3684 :=
        Nat.add_le_add_right (Nat.mul_le_mul_left _
          (Nat.add_le_add_right Unicode.length_derivedPlaces_le _)) _
  have hrun : addressRun.size = 64 + (addressSet.size + 40) := by
    rw [addressRun, Pattern.size, Pattern.size, Pattern.size, Nat.max_self, Nat.one_mul]
  -- `omega` would compute the size of the set
  rw [hrun]
  exact Nat.add_le_add_left (Nat.add_le_add_right hset 40) 64

/-- Next to the class of word characters a short label does not count for much. -/
theorem size_linkTree_le (label : List Char) :
    (linkTree label).size ≤ 7304 * label.length + 9097516 := by
  have hlength : (linkFront label).length = label.length + 3 := by
    simp [linkFront]
  have hsize : (linkTree label).size ≤ 7304 * (linkFront label).length + 9068268 + 7304 + 32 :=
    size_seqAll_chars_le (linkFront label) size_addressRun_le (size_char_le ')')
  rw [hlength] at hsize
  exact Nat.le_trans hsize (by omega)

/-- The pattern for a short label is read. -/
theorem readPattern_labelPattern_of_length_le {label : List Char} (h : label.length ≤ 190) :
    readPattern (Artifact.labelPattern label) = .ok (linkNamed label) := by
  have hbound : 7304 * label.length + 9097516 ≤ sizeLimit := by
    rw [sizeLimit]
    omega
  have hsize : (linkTree label).size ≤ sizeLimit := Nat.le_trans (size_linkTree_le label) hbound
  rw [readPattern_labelPattern, if_neg (Nat.not_lt.mpr hsize)]

/-! ## Where it matches -/

/-- Word characters, dots, slashes and colons. -/
def isAddressChar (c : Char) : Bool := Unicode.isWord c || c == '.' || c == '/' || c == ':'

/-- The low line of the written class is a word character already. -/
theorem contains_addressSet : addressSet.contains = isAddressChar := by
  funext c
  have hlow : Unicode.isWord '_' = true := by decide
  simp only [addressSet, CharSet.unionAll, CharSet.contains, CharSet.contains_single, isAddressChar]
  by_cases hc : c = '_'
  · subst hc
    simp only [hlow, Bool.true_or]
  · have hne : ('_' == c) = false := by simpa using Ne.symm hc
    rw [hne, Bool.or_false, Bool.or_assoc, Bool.or_assoc, BEq.comm, BEq.comm (a := '/'),
      BEq.comm (a := ':')]

/-- The address that a link at the front of a text leads to. -/
def addressAt? (label text : List Char) : Option (List Char) :=
  match Text.after? (linkFront label) text with
  | none => none
  | some rest =>
    let address := rest.takeWhile isAddressChar
    if address ≠ [] ∧ (rest.dropWhile isAddressChar).head? = some ')' then some address else none

/-- **Matching a link pattern.** It matches where a link begins, and its group keeps the address. -/
theorem matchAt?_linkTree (label : List Char) (place : Cursor) :
    ((linkTree label).matchAt? place).map (·.span? 1) =
      (addressAt? label place.rest).map fun address =>
        some (place.index + (linkFront label).length,
          place.index + (linkFront label).length + address.length) := by
  have hstop : addressSet.contains ')' = false := by
    rw [contains_addressSet]
    decide
  -- first the literal front of the link, then the group and the bracket behind it
  have hplace : (Thread.at' place).place = place := rfl
  rw [matchAt?, linkTree, run_seqAll, runAll_append, runAll_literal, addressAt?, hplace]
  cases hfront : Text.after? (linkFront label) place.rest with
  | none => rfl
  | some rest =>
      simp only [Option.map_some, Option.toList_some]
      rw [addressRun, runAll_group_run hstop]
      simp only [Thread.past_rest, contains_addressSet]
      by_cases haddress : rest.takeWhile isAddressChar = []
      · simp [haddress]
      · cases hrest : rest.dropWhile isAddressChar with
        | nil =>
            rw [Thread.advance?_nil (by rw [Thread.closeGroup_place, Thread.past_rest])]
            simp [haddress]
        | cons c after =>
            rw [Thread.advance?_cons (by rw [Thread.closeGroup_place, Thread.past_rest])]
            by_cases hc : c = ')'
            · subst hc
              simp only [CharSet.contains_single, beq_self_eq_true, if_true, haddress, if_false, ne_eq,
                not_false_eq_true, true_and, List.head?_cons, Option.map_some, Option.toList_some]
              rfl
            · have hne : (')' == c) = false := by simpa using Ne.symm hc
              simp [haddress, hc, hne]

end FirmwareBench
