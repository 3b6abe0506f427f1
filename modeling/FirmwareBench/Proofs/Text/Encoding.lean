import FirmwareBench.Text.Utf8
import Mathlib.Data.List.Basic

/-!
# Texts and their bytes

The decoder reads the bytes of every text, as that text, and no other bytes. A character is written
with one byte, or with a first byte that says how many follow and gives its highest bits, and those
that follow with six bits each. Which bytes may come second keeps out numbers that fewer bytes can
write and numbers that no character has.

## Main definitions

* `readBits`: the number that the bits of some bytes give.

## Main statements

* `front_encodeChar`: what stands in front of the bytes of a character is that character.
* `encodeChar_of_front`: bytes that give a character are the bytes of that character.
* `decode?_eq_some_iff`: the bytes that can be decoded are those of a text.
-/

set_option autoImplicit false

namespace FirmwareBench.Utf8

variable {b c d e : UInt8} {ch : Char} {more : Nat} {bytes rest : Bytes}

/-! ## First bytes -/

theorem continues_iff : continues b = true ↔ 0x80 ≤ b.toNat ∧ b.toNat ≤ 0xBF := by
  simp [continues, UInt8.le_iff_toNat_le]

theorem opening?_two (h : 0xC2 ≤ b.toNat) (h' : b.toNat ≤ 0xDF) :
    opening? b = some (1, 0x80, 0xBF) := by
  simp [opening?, UInt8.le_iff_toNat_le, h, h']

theorem opening?_three (h : 0xE0 ≤ b.toNat) (h' : b.toNat ≤ 0xEF) :
    opening? b = some (2, if b.toNat = 0xE0 then 0xA0 else 0x80,
      if b.toNat = 0xED then 0x9F else 0xBF) := by
  simp only [opening?, UInt8.le_iff_toNat_le, ← UInt8.toNat_inj, Bool.and_eq_true,
    decide_eq_true_eq, UInt8.reduceToNat]
  grind

theorem opening?_four (h : 0xF0 ≤ b.toNat) (h' : b.toNat ≤ 0xF4) :
    opening? b = some (3, if b.toNat = 0xF0 then 0x90 else 0x80,
      if b.toNat = 0xF4 then 0x8F else 0xBF) := by
  simp only [opening?, UInt8.le_iff_toNat_le, ← UInt8.toNat_inj, Bool.and_eq_true,
    decide_eq_true_eq, UInt8.reduceToNat]
  grind

theorem opening?_eq_none (h : b.toNat < 0xC2 ∨ 0xF4 < b.toNat) : opening? b = none := by
  simp only [opening?, UInt8.le_iff_toNat_le, ← UInt8.toNat_inj, Bool.and_eq_true,
    decide_eq_true_eq, UInt8.reduceToNat]
  grind

/-! ## Bytes that continue a character -/

/-- The number that bytes give with six bits each, behind the bits of a number. -/
def readBits (value : Nat) (bytes : Bytes) : Nat :=
  bytes.foldl (fun value b => value * 64 + b.toNat % 64) value

theorem readContinued_eq_iff {value taken count : Nat} :
    readContinued value taken count bytes = ⟨some ch, more⟩ ↔
      more = taken + count ∧ count ≤ bytes.length ∧
        (∀ b ∈ bytes.take count, continues b = true) ∧
          Char.ofNat (readBits value (bytes.take count)) = ch := by
  induction count generalizing value taken bytes with
  | zero =>
      simp only [readContinued, Front.mk.injEq, Option.some.injEq, List.take_zero, readBits]
      constructor
      · rintro ⟨rfl, rfl⟩
        simp
      · rintro ⟨rfl, -, -, rfl⟩
        simp
  | succ count ih =>
      cases bytes with
      | nil => simp [readContinued]
      | cons b rest =>
          by_cases hb : continues b = true
          · rw [readContinued, if_pos hb, ih]
            simp [hb, readBits]
            omega
          · simp [readContinued, hb]

theorem front_of_lt (h : b.toNat < 0x80) : front b rest = ⟨some (Char.ofNat b.toNat), 0⟩ := by
  have hb : b < 0x80 := by simpa [UInt8.lt_iff_toNat_lt] using h
  simp only [front, if_pos hb]

/-- A character of more than one byte. -/
theorem front_eq_iff (h : 0x80 ≤ b.toNat) :
    front b rest = ⟨some ch, more⟩ ↔
      ∃ low high c later, opening? b = some (more, low, high) ∧ rest = c :: later ∧
        (low.toNat ≤ c.toNat ∧ c.toNat ≤ high.toNat) ∧ more ≤ rest.length ∧
          (∀ b ∈ rest.take more, continues b = true) ∧
            Char.ofNat (readBits (openingBits more b) (rest.take more)) = ch := by
  have hb : ¬ b < 0x80 := by simpa [UInt8.lt_iff_toNat_lt] using h
  simp only [front, if_neg hb]
  cases hopen : opening? b with
  | none => simp
  | some found =>
      obtain ⟨count, low, high⟩ := found
      cases rest with
      | nil => simp
      | cons c later =>
          have hc : (decide (low ≤ c) && decide (c ≤ high)) = true ↔
              low.toNat ≤ c.toNat ∧ c.toNat ≤ high.toNat := by
            simp [UInt8.le_iff_toNat_le]
          by_cases hwithin : low.toNat ≤ c.toNat ∧ c.toNat ≤ high.toNat
          · simp only [if_pos (hc.mpr hwithin), readContinued_eq_iff]
            grind
          · simp only [if_neg (mt hc.mp hwithin)]
            grind

/-! ## One character -/

theorem toNat_ofNat {value : Nat} (h : value.isValidChar) :
    (Char.ofNat value).val.toNat = value := by
  rw [Char.ofNat, dif_pos h]
  rfl

theorem encodeChar_two (hb : 0xC2 ≤ b.toNat ∧ b.toNat ≤ 0xDF) (hc : continues c = true) :
    String.utf8EncodeChar (Char.ofNat (readBits (openingBits 1 b) [c])) = [b, c] := by
  rw [continues_iff] at hc
  have hvalue : readBits (openingBits 1 b) [c] = (b.toNat - 0xC0) * 64 + (c.toNat - 0x80) := by
    simp [readBits, openingBits]
    omega
  rw [hvalue, String.utf8EncodeChar, toNat_ofNat (.inl (by omega)), if_neg (by omega),
    if_pos (by omega)]
  simp [← UInt8.toNat_inj]
  omega

/-- The limits of the second byte keep out the numbers that two bytes can write, and surrogates. -/
theorem encodeChar_three (hb : 0xE0 ≤ b.toNat ∧ b.toNat ≤ 0xEF) (hc : continues c = true)
    (hd : continues d = true) (hlow : b.toNat = 0xE0 → 0xA0 ≤ c.toNat)
    (hhigh : b.toNat = 0xED → c.toNat ≤ 0x9F) :
    String.utf8EncodeChar (Char.ofNat (readBits (openingBits 2 b) [c, d])) = [b, c, d] := by
  rw [continues_iff] at hc hd
  have hvalue : readBits (openingBits 2 b) [c, d] =
      (b.toNat - 0xE0) * 4096 + (c.toNat - 0x80) * 64 + (d.toNat - 0x80) := by
    simp [readBits, openingBits]
    omega
  have hvalid : Nat.isValidChar
      ((b.toNat - 0xE0) * 4096 + (c.toNat - 0x80) * 64 + (d.toNat - 0x80)) := by
    unfold Nat.isValidChar
    omega
  rw [hvalue, String.utf8EncodeChar, toNat_ofNat hvalid, if_neg (by omega), if_neg (by omega),
    if_pos (by omega)]
  simp [← UInt8.toNat_inj]
  omega

/-- The limits of the second byte keep out the numbers that three bytes can write, and those behind
the last character. -/
theorem encodeChar_four (hb : 0xF0 ≤ b.toNat ∧ b.toNat ≤ 0xF4) (hc : continues c = true)
    (hd : continues d = true) (he : continues e = true) (hlow : b.toNat = 0xF0 → 0x90 ≤ c.toNat)
    (hhigh : b.toNat = 0xF4 → c.toNat ≤ 0x8F) :
    String.utf8EncodeChar (Char.ofNat (readBits (openingBits 3 b) [c, d, e])) = [b, c, d, e] := by
  rw [continues_iff] at hc hd he
  have hvalue : readBits (openingBits 3 b) [c, d, e] = (b.toNat - 0xF0) * 262144 +
      (c.toNat - 0x80) * 4096 + (d.toNat - 0x80) * 64 + (e.toNat - 0x80) := by
    simp [readBits, openingBits]
    omega
  have hvalid : Nat.isValidChar ((b.toNat - 0xF0) * 262144 +
      (c.toNat - 0x80) * 4096 + (d.toNat - 0x80) * 64 + (e.toNat - 0x80)) := by
    unfold Nat.isValidChar
    omega
  rw [hvalue, String.utf8EncodeChar, toNat_ofNat hvalid, if_neg (by omega), if_neg (by omega),
    if_neg (by omega)]
  simp [← UInt8.toNat_inj]
  omega

/-- **Bytes that give a character** are the bytes of that character. -/
theorem encodeChar_of_front (h : front b rest = ⟨some ch, more⟩) :
    more ≤ rest.length ∧ String.utf8EncodeChar ch = b :: rest.take more := by
  rcases Nat.lt_or_ge b.toNat 0x80 with hascii | hb
  · rw [front_of_lt hascii] at h
    obtain ⟨rfl, rfl⟩ : Char.ofNat b.toNat = ch ∧ 0 = more := by simpa using h
    refine ⟨Nat.zero_le _, ?_⟩
    rw [String.utf8EncodeChar, toNat_ofNat (.inl (by omega)), if_pos (by omega)]
    simp
  obtain ⟨low, high, c, later, hopen, rfl, hwithin, hmore, htail, rfl⟩ := (front_eq_iff hb).mp h
  refine ⟨hmore, ?_⟩
  by_cases hnone : b.toNat < 0xC2 ∨ 0xF4 < b.toNat
  · rw [opening?_eq_none hnone] at hopen
    cases hopen
  rcases Nat.lt_or_ge b.toNat 0xE0 with htwo | hthree
  · rw [opening?_two (by omega) (by omega)] at hopen
    cases hopen
    exact encodeChar_two (by omega) (htail c (by simp))
  rcases Nat.lt_or_ge b.toNat 0xF0 with hthree' | hfour
  · rw [opening?_three (by omega) (by omega)] at hopen
    cases hopen
    match later, hmore with
    | d :: later, _ =>
        refine encodeChar_three (by omega) (htail c (by simp)) (htail d (by simp)) ?_ ?_
        · intro hfirst
          simpa [hfirst] using hwithin.1
        · intro hfirst
          simpa [hfirst] using hwithin.2
  · rw [opening?_four (by omega) (by omega)] at hopen
    cases hopen
    match later, hmore with
    | d :: e :: later, _ =>
        refine encodeChar_four (by omega) (htail c (by simp)) (htail d (by simp))
          (htail e (by simp)) ?_ ?_
        · intro hfirst
          simpa [hfirst] using hwithin.1
        · intro hfirst
          simpa [hfirst] using hwithin.2

/-- **What stands in front of the bytes of a character** is that character. -/
theorem front_encodeChar (h : String.utf8EncodeChar ch = b :: bytes) :
    front b (bytes ++ rest) = ⟨some ch, bytes.length⟩ := by
  have hvalid : ch.val.toNat < 0xD800 ∨ 0xDFFF < ch.val.toNat ∧ ch.val.toNat < 0x110000 := ch.valid
  have hch : ∀ {value : Nat}, value = ch.val.toNat → Char.ofNat value = ch := by
    rintro _ rfl
    exact Char.ofNat_toNat ch
  rw [String.utf8EncodeChar] at h
  generalize ch.val.toNat = v at *
  have hlast : (UInt8.ofNat (v % 64 + 128)).toNat = v % 64 + 128 := by simp; omega
  have hlater : (UInt8.ofNat (v / 64 % 64 + 128)).toNat = v / 64 % 64 + 128 := by simp; omega
  split_ifs at h with hone htwo hthree <;> obtain ⟨rfl, rfl⟩ := List.cons.inj h
  · have hb : (UInt8.ofNat v).toNat = v := by simp; omega
    rw [front_of_lt (by omega), hch hb]
    rfl
  · have hb : (UInt8.ofNat (v / 64 % 32 + 192)).toNat = v / 64 + 192 := by simp; omega
    refine (front_eq_iff (by omega)).mpr
      ⟨_, _, _, _, opening?_two (by omega) (by omega), rfl, ?_, by simp, ?_, hch ?_⟩
    · rw [hlast]
      simp
      omega
    · simp [continues_iff]
      omega
    · simp [readBits, openingBits]
      omega
  · have hb : (UInt8.ofNat (v / 4096 % 16 + 224)).toNat = v / 4096 + 224 := by simp; omega
    refine (front_eq_iff (by omega)).mpr
      ⟨_, _, _, _, opening?_three (by omega) (by omega), rfl, ?_, by simp, ?_, hch ?_⟩
    · rw [hb, hlater]
      split_ifs <;> simp <;> omega
    · simp [continues_iff]
      omega
    · simp [readBits, openingBits]
      omega
  · have hb : (UInt8.ofNat (v / 262144 % 8 + 240)).toNat = v / 262144 + 240 := by simp; omega
    have hc : (UInt8.ofNat (v / 4096 % 64 + 128)).toNat = v / 4096 % 64 + 128 := by simp; omega
    refine (front_eq_iff (by omega)).mpr
      ⟨_, _, _, _, opening?_four (by omega) (by omega), rfl, ?_, by simp, ?_, hch ?_⟩
    · rw [hb, hc]
      split_ifs <;> simp <;> omega
    · simp [continues_iff]
      omega
    · simp [readBits, openingBits]
      omega

/-! ## Texts -/

theorem decodeFrom_eq_drop (skip : Nat) (bytes : Bytes) :
    decodeFrom skip bytes = decodeFrom 0 (bytes.drop skip) := by
  induction skip generalizing bytes with
  | zero => rfl
  | succ skip ih =>
      cases bytes with
      | nil => simp [decodeFrom]
      | cons b rest => rw [decodeFrom, ih, List.drop_succ_cons]

theorem decodeFrom_encode (text : List Char) : decodeFrom 0 (encode text) = text.map some := by
  induction text with
  | nil => rfl
  | cons ch text ih =>
      obtain ⟨b, bytes, hbytes⟩ : ∃ b bytes, String.utf8EncodeChar ch = b :: bytes :=
        List.exists_cons_of_ne_nil (by simp)
      have hfront : front b (bytes ++ encode text) = ⟨some ch, bytes.length⟩ :=
        front_encodeChar hbytes
      have hencode : encode (ch :: text) = b :: (bytes ++ encode text) := by
        rw [encode, List.flatMap_cons, hbytes, List.cons_append, ← encode]
      rw [hencode, decodeFrom, hfront, decodeFrom_eq_drop, List.drop_left, ih, List.map_cons]

theorem eq_encode_of_decodeFrom {text : List Char} (h : decodeFrom 0 bytes = text.map some) :
    bytes = encode text := by
  induction text generalizing bytes with
  | nil =>
      cases bytes with
      | nil => rfl
      | cons b rest => simp [decodeFrom] at h
  | cons ch text ih =>
      cases bytes with
      | nil => simp [decodeFrom] at h
      | cons b rest =>
          rw [decodeFrom, List.map_cons] at h
          obtain ⟨hch, hrest⟩ := List.cons.inj h
          have hfront : front b rest = ⟨some ch, (front b rest).more⟩ := by rw [← hch]
          obtain ⟨hmore, hencode⟩ := encodeChar_of_front hfront
          rw [decodeFrom_eq_drop] at hrest
          rw [encode, List.flatMap_cons, hencode, ← encode, ← ih hrest, List.cons_append,
            List.take_append_drop]

theorem mapM_id_eq_some_iff {α : Type} {list : List (Option α)} {values : List α} :
    list.mapM id = some values ↔ list = values.map some := by
  induction list generalizing values with
  | nil => cases values <;> simp
  | cons first list ih =>
      cases first with
      | none => cases values <;> simp [List.mapM_cons]
      | some value =>
          cases hlist : list.mapM id <;> cases values <;> simp [List.mapM_cons, hlist, ← ih]

/-- **The bytes that can be decoded** are those of a text, which they give. -/
theorem decode?_eq_some_iff {text : List Char} : decode? bytes = some text ↔ bytes = encode text := by
  rw [decode?, mapM_id_eq_some_iff]
  constructor
  · exact eq_encode_of_decodeFrom
  · rintro rfl
    exact decodeFrom_encode text

end FirmwareBench.Utf8
