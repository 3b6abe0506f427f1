import FirmwareBench.Text.Utf8
import Mathlib.Data.List.Lex
import Mathlib.Data.String.Basic

/-!
# The order of texts and of their bytes

Texts are compared character by character. UTF-8 keeps that order: a longer encoding begins with a
greater byte than a shorter one, and encodings of one length differ first in their most significant
digits.

## Main statements

* `Utf8.encodeChar_append_lt`: the bytes of a smaller character decide, whatever follows.
* `Utf8.ofString_lt`: the bytes of texts are ordered as the texts are.
-/

set_option autoImplicit false

namespace FirmwareBench.Utf8

theorem ofNat_lt_ofNat {n m : Nat} (hn : n < 256) (hm : m < 256) :
    UInt8.ofNat n < UInt8.ofNat m ↔ n < m := by
  rw [UInt8.lt_iff_toNat_lt, UInt8.toNat_ofNat', UInt8.toNat_ofNat', Nat.mod_eq_of_lt hn,
    Nat.mod_eq_of_lt hm]

theorem ofNat_eq_ofNat {n m : Nat} (hn : n < 256) (hm : m < 256) :
    UInt8.ofNat n = UInt8.ofNat m ↔ n = m := by
  rw [← UInt8.toNat_inj, UInt8.toNat_ofNat', UInt8.toNat_ofNat', Nat.mod_eq_of_lt hn,
    Nat.mod_eq_of_lt hm]

theorem toNat_lt (c : Char) : c.val.toNat < 0x110000 := by
  have hvalid := c.valid
  simp only [UInt32.isValidChar, Nat.isValidChar] at hvalid
  omega

/-- **The bytes of a smaller character decide**, whatever follows them. -/
theorem encodeChar_append_lt {c d : Char} (h : c < d) (rest rest' : Bytes) :
    String.utf8EncodeChar c ++ rest < String.utf8EncodeChar d ++ rest' := by
  have hlt : c.val.toNat < d.val.toNat := h
  have hc := toNat_lt c
  have hd := toNat_lt d
  simp only [String.utf8EncodeChar]
  generalize c.val.toNat = n at *
  generalize d.val.toNat = m at *
  -- the bytes are digits to the base 64; the first of four is never so large that it is cut
  have htop (k : Nat) (hk : k < 0x110000) : k / 262144 % 8 = k / 262144 :=
    Nat.mod_eq_of_lt (by omega)
  have hn₂ : n / 64 / 64 = n / 4096 := Nat.div_div_eq_div_mul n 64 64
  have hn₃ : n / 4096 / 64 = n / 262144 := Nat.div_div_eq_div_mul n 4096 64
  have hm₂ : m / 64 / 64 = m / 4096 := Nat.div_div_eq_div_mul m 64 64
  have hm₃ : m / 4096 / 64 = m / 262144 := Nat.div_div_eq_div_mul m 4096 64
  split_ifs <;>
    simp (disch := omega) only [List.cons_append, List.nil_append, List.cons_lt_cons_iff,
      ofNat_lt_ofNat, ofNat_eq_ofNat, htop n hc, htop m hd] <;> omega

theorem encode_lt {first second : List Char} (h : first < second) :
    encode first < encode second := by
  induction first generalizing second with
  | nil =>
      cases second with
      | nil => exact absurd h (lt_irrefl _)
      | cons d second =>
          have hne : encode (d :: second) ≠ [] := by
            simp [encode, String.utf8EncodeChar_ne_nil]
          obtain ⟨b, bytes, hbytes⟩ := List.exists_cons_of_ne_nil hne
          rw [hbytes]
          exact List.nil_lt_cons _ _
  | cons c first ih =>
      cases second with
      | nil => exact absurd h (List.not_lt_nil _)
      | cons d second =>
          rw [encode, encode, List.flatMap_cons, List.flatMap_cons]
          rcases List.cons_lt_cons_iff.mp h with hlt | ⟨rfl, hlt⟩
          · exact encodeChar_append_lt hlt _ _
          · exact List.append_left_lt (ih hlt)

/-- **The bytes of texts are ordered as the texts are.** -/
theorem ofString_lt {a b : String} (h : a < b) : ofString a < ofString b :=
  encode_lt (String.lt_iff_toList_lt.mp h)

end FirmwareBench.Utf8
