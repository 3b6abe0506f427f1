import FirmwareBench.Pattern.Size
import Mathlib.Algebra.Ring.Nat

/-!
# Bounds for the size of patterns

The size of a pattern is bounded by the number of places where its sets may change, so that it need
not be computed to know that a pattern is small enough.

## Main statements

* `CharSet.length_ranges_le`: two places make a range.
* `length_byteBlocks_le`: a range has a bounded number of sequences of bytes.
* `CharSet.size_le`: the size of a set.
* `Pattern.size_seqAll_chars_le`: the size of a literal text and what comes behind it.
-/

set_option autoImplicit false

namespace FirmwareBench

/-! ## Ranges -/

namespace CharSet

/-- A range takes a place where it opens and one where it is closed. -/
theorem length_rangesFrom_le (open? : Option Nat) (places : List (Nat × Bool)) :
    2 * (rangesFrom open? places).length ≤ places.length + (if open?.isSome then 2 else 1) := by
  induction places generalizing open? with
  | nil => cases open? <;> simp [rangesFrom]
  | cons entry rest ih =>
      obtain ⟨place, inside⟩ := entry
      -- an open range has its first place already, so it counts for one place more
      have hclosed := ih none
      have hopen := fun first => ih (some first)
      simp only [Option.isSome_none, Option.isSome_some, Bool.false_eq_true, if_false, if_true]
        at hclosed hopen
      cases open? with
      | none =>
          cases inside with
          | true =>
              have hnext := hopen place
              simp only [rangesFrom, if_true, List.length_cons, Option.isSome_none,
                Bool.false_eq_true, if_false]
              omega
          | false =>
              simp only [rangesFrom, Bool.false_eq_true, if_false, List.length_cons,
                Option.isSome_none]
              omega
      | some first =>
          cases inside with
          | true =>
              have hnext := hopen first
              simp only [rangesFrom, if_true, List.length_cons, Option.isSome_some]
              omega
          | false =>
              simp only [rangesFrom, Bool.false_eq_true, if_false, List.length_cons,
                Option.isSome_some, if_true]
              omega

theorem length_ranges_le (s : CharSet) : 2 * s.ranges.length ≤ s.places.length + 2 := by
  have hfrom := length_rangesFrom_le none
    ((((0 :: s.places).filter (· ≤ lastNumber)).mergeSort).map
      fun place => (place, s.containsNumber place))
  have hfilter : ((0 :: s.places).filter (· ≤ lastNumber)).length ≤ (0 :: s.places).length :=
    List.length_filter_le ..
  simp only [List.length_map, List.length_mergeSort, Option.isSome_none, Bool.false_eq_true,
    if_false] at hfrom
  simp only [List.length_cons] at hfilter
  rw [ranges]
  omega

end CharSet

/-! ## Sequences of bytes -/

/-- Sequences behind one leading digit, or none at all. -/
def IsSide (count : Nat) (blocks : List (List (Nat × Nat))) : Prop :=
  blocks = [] ∨ ∃ digit low high, blocks = (byteBlocks count low high).map (digit :: ·)

theorem isSide_ite {count low high : Nat} {digit : Nat × Nat} (condition : Prop)
    [Decidable condition] :
    IsSide count (if condition then [] else (byteBlocks count low high).map (digit :: ·)) := by
  split
  · exact .inl rfl
  · exact .inr ⟨digit, low, high, rfl⟩

/-- One more byte splits a range into the whole of its middle and what is left on both sides. -/
theorem byteBlocks_succ (count low high : Nat) :
    ∃ front middle back, byteBlocks (count + 1) low high = front ++ middle ++ back ∧
      IsSide count front ∧
      (middle = [] ∨ ∃ digit, middle = [digit :: List.replicate (count + 1) (0, 63)]) ∧
      IsSide count back := by
  rw [byteBlocks]
  by_cases hsame : (low / Nat.pow 64 (count + 1) == high / Nat.pow 64 (count + 1)) = true
  · -- one leading digit for all, so that there is only a front
    rw [if_pos hsame]
    refine ⟨_, [], [], (List.append_nil _).symm.trans (List.append_nil _).symm, ?_, .inl rfl,
      .inl rfl⟩
    exact .inr ⟨_, _, _, rfl⟩
  · rw [if_neg hsame]
    have hmiddle : ∀ (condition : Prop) [Decidable condition] (block : List (Nat × Nat)),
        (if condition then [block] else []) = [] ∨ (if condition then [block] else []) = [block] := by
      intro condition _ block
      split
      · exact .inr rfl
      · exact .inl rfl
    exact ⟨_, _, _, rfl, isSide_ite _, (hmiddle _ _).imp_right fun h => ⟨_, h⟩, isSide_ite _⟩

theorem length_of_mem_byteBlocks {count low high : Nat} {block : List (Nat × Nat)}
    (h : block ∈ byteBlocks count low high) : block.length = count + 1 := by
  induction count generalizing low high block with
  | zero =>
      obtain rfl : block = [(low, high)] := by simpa [byteBlocks] using h
      rfl
  | succ count ih =>
      have hside : ∀ {blocks}, IsSide count blocks → block ∈ blocks →
          block.length = count + 1 + 1 := by
        rintro blocks (rfl | ⟨digit, low, high, rfl⟩) hmem
        · cases hmem
        · obtain ⟨inner, hinner, rfl⟩ := List.mem_map.mp hmem
          rw [List.length_cons, ih hinner]
      obtain ⟨front, middle, back, heq, hfront, hmiddle, hback⟩ := byteBlocks_succ count low high
      rw [heq, List.mem_append, List.mem_append] at h
      rcases h with (h | h) | h
      · exact hside hfront h
      · obtain rfl | ⟨digit, rfl⟩ := hmiddle
        · cases h
        · obtain rfl := List.mem_singleton.mp h
          rw [List.length_cons, List.length_replicate]
      · exact hside hback h

theorem length_byteBlocks_le (count low high : Nat) :
    (byteBlocks count low high).length + 1 ≤ 2 ^ (count + 1) := by
  induction count generalizing low high with
  | zero => simp [byteBlocks]
  | succ count ih =>
      have hside : ∀ {blocks}, IsSide count blocks → blocks.length + 1 ≤ 2 ^ (count + 1) := by
        rintro blocks (rfl | ⟨digit, low, high, rfl⟩)
        · exact Nat.one_le_two_pow
        · rw [List.length_map]
          exact ih low high
      obtain ⟨front, middle, back, heq, hfront, hmiddle, hback⟩ := byteBlocks_succ count low high
      have hlength : middle.length ≤ 1 := by
        obtain rfl | ⟨digit, rfl⟩ := hmiddle <;> simp
      have hfrontLength := hside hfront
      have hbackLength := hside hback
      rw [heq, List.length_append, List.length_append, Nat.pow_succ]
      omega

/-! ## States -/

theorem freshLength_le (before block : List (Nat × Nat)) :
    freshLength before block ≤ block.length := by
  induction before generalizing block with
  | nil => simp [freshLength]
  | cons p before ih =>
      cases block with
      | nil => simp [freshLength]
      | cons q block =>
          have hrest := ih block
          rw [freshLength, List.length_cons]
          split <;> omega

/-- Every sequence takes a state for each of its bytes at most. -/
theorem stateCount_le {length : Nat} (before : List (Nat × Nat)) {blocks : List (List (Nat × Nat))}
    (h : ∀ block ∈ blocks, block.length = length) :
    stateCount before blocks ≤ length * blocks.length := by
  induction blocks generalizing before with
  | nil => simp [stateCount]
  | cons block rest ih =>
      have hfresh := freshLength_le before block
      rw [h block List.mem_cons_self] at hfresh
      have hrest := ih block fun other hother => h other (List.mem_cons_of_mem _ hother)
      rw [stateCount, List.length_cons, Nat.mul_succ]
      omega

/-- The sequences of one range come in front of those of the others. -/
theorem blocksIn_cons (first last low high count : Nat) (rest : List (Nat × Nat)) :
    blocksIn ((first, last) :: rest) (low, high, count) =
      (if max first low ≤ min last high then byteBlocks count (max first low) (min last high)
        else []) ++ blocksIn rest (low, high, count) := rfl

theorem length_of_mem_blocksIn {ranges : List (Nat × Nat)} {low high count : Nat}
    {block : List (Nat × Nat)} (h : block ∈ blocksIn ranges (low, high, count)) :
    block.length = count + 1 := by
  obtain ⟨⟨first, last⟩, -, hblock⟩ := List.mem_flatMap.mp h
  dsimp only at hblock
  split at hblock
  · exact length_of_mem_byteBlocks hblock
  · cases hblock

theorem length_blocksIn_le (ranges : List (Nat × Nat)) (low high count : Nat) :
    (blocksIn ranges (low, high, count)).length ≤ (2 ^ (count + 1) - 1) * ranges.length := by
  induction ranges with
  | nil => simp [blocksIn]
  | cons range rest ih =>
      obtain ⟨first, last⟩ := range
      have hfirst : (if max first low ≤ min last high then
          byteBlocks count (max first low) (min last high) else []).length ≤
          2 ^ (count + 1) - 1 := by
        split
        · exact Nat.le_sub_one_of_lt (length_byteBlocks_le ..)
        · exact Nat.zero_le _
      rw [blocksIn_cons, List.length_append, List.length_cons, Nat.mul_succ]
      omega

/-- What the characters of some ranges in a part of the code space add to a size. -/
theorem partSize_le (ranges : List (Nat × Nat)) (low high count : Nat) :
    32 * stateCount [] (blocksIn ranges (low, high, count)) +
        4 * (blocksIn ranges (low, high, count)).length ≤
      (32 * (count + 1) + 4) * ((2 ^ (count + 1) - 1) * ranges.length) := by
  have hstates : stateCount [] (blocksIn ranges (low, high, count)) ≤
      (count + 1) * (blocksIn ranges (low, high, count)).length :=
    stateCount_le [] fun _ hblock => length_of_mem_blocksIn hblock
  calc 32 * stateCount [] (blocksIn ranges (low, high, count)) +
        4 * (blocksIn ranges (low, high, count)).length
      ≤ (32 * (count + 1) + 4) * (blocksIn ranges (low, high, count)).length := by
        rw [Nat.add_mul, Nat.mul_assoc]
        omega
    _ ≤ (32 * (count + 1) + 4) * ((2 ^ (count + 1) - 1) * ranges.length) :=
        Nat.mul_le_mul_left _ (length_blocksIn_le ranges low high count)

/-! ## Sizes -/

theorem rangesSize_le (ranges : List (Nat × Nat)) :
    rangesSize ranges ≤ 64 + 3620 * ranges.length := by
  have hpart := fun low high count => partSize_le ranges low high count
  rw [rangesSize]
  split
  · omega
  · -- the five parts give 36 + 204 + 700 + 700 + 1980 = 3620 for each range
    have hone := hpart 0 0x7F 0
    have htwo := hpart 0x80 0x7FF 1
    have hlow := hpart 0x800 0xD7FF 2
    have hhigh := hpart 0xE000 0xFFFF 2
    have hfour := hpart 0x10000 CharSet.lastNumber 3
    simp only [byteParts, List.foldl_cons, List.foldl_nil]
    omega

/-- The size of a set grows with the number of places where it may change. -/
theorem CharSet.size_le (s : CharSet) : s.size ≤ 1810 * s.places.length + 3684 := by
  have hranges := s.length_ranges_le
  have hsize := rangesSize_le s.ranges
  rw [CharSet.size]
  split
  · next first last hone =>
      rw [hone] at hsize hranges
      -- a single character has its own rule, with a state for each byte
      have hbytes := (Char.ofNat first).utf8Size_le_four
      split <;> omega
  · omega

namespace Pattern

theorem size_seqAll_le (patterns : List Pattern) :
    (seqAll patterns).size ≤ (patterns.map size).sum + 32 := by
  induction patterns with
  | nil => simp [seqAll, size]
  | cons p rest ih =>
      cases rest with
      | nil => simp [seqAll]
      | cons q rest =>
          rw [seqAll, size, List.map_cons, List.sum_cons]
          · omega
          · simp

/-- A character alone is a set with two places. -/
theorem size_char_le (c : Char) : (char c).size ≤ 7304 :=
  (CharSet.single c).size_le

theorem sum_size_chars_le (text : List Char) :
    ((text.map char).map size).sum ≤ 7304 * text.length := by
  induction text with
  | nil => simp
  | cons c text ih =>
      rw [List.map_cons, List.map_cons, List.sum_cons, List.length_cons, Nat.mul_succ, Nat.add_comm]
      exact Nat.add_le_add ih (size_char_le c)

/-- The size of a literal text with two more patterns behind it. -/
theorem size_seqAll_chars_le (text : List Char) {p q : Pattern} {m n : Nat} (hp : p.size ≤ m)
    (hq : q.size ≤ n) :
    (seqAll (text.map char ++ [p, q])).size ≤ 7304 * text.length + m + n + 32 := by
  have hchars := sum_size_chars_le text
  have hall := size_seqAll_le (text.map char ++ [p, q])
  simp only [List.map_append, List.sum_append, List.map_cons, List.map_nil, List.sum_cons,
    List.sum_nil] at hall
  omega

end Pattern

end FirmwareBench
