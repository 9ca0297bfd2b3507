import Rehearsal.Proofs.Text.Utf8

/-!
# The order of texts

Texts are compared character by character, and their encodings byte by byte. These are the same
order (`Utf8.ofChars_lt_ofChars`): of two characters the one with the greater number has the greater
first byte, or else the same first byte and the greater bits after it.
-/

namespace Rehearsal.Utf8

/-- Bits that are the same in front leave the order to those behind. -/
theorem tailBytes_append_lt {n m count : Nat} (h : n < m) (hfront : n / 64 ^ count = m / 64 ^ count)
    (rest rest' : Bytes) : tailBytes n count ++ rest < tailBytes m count ++ rest' := by
  induction count with
  | zero =>
    rw [Nat.pow_zero, Nat.div_one, Nat.div_one] at hfront
    exact absurd hfront (Nat.ne_of_lt h)
  | succ count ih =>
    rw [Nat.pow_succ, ← Nat.div_div_eq_div_mul, ← Nat.div_div_eq_div_mul] at hfront
    have hle : n / 64 ^ count ≤ m / 64 ^ count := Nat.div_le_div_right (Nat.le_of_lt h)
    rw [tailBytes, tailBytes, List.cons_append, List.cons_append, List.cons_lt_cons_iff]
    by_cases hsame : n / 64 ^ count = m / 64 ^ count
    · exact .inr ⟨by rw [hsame], ih hsame⟩
    · left
      rw [UInt8.lt_iff_toNat_lt, UInt8.toNat_ofNat', UInt8.toNat_ofNat']
      omega

theorem encode_append_lt {c d : Char} (h : c < d) (rest rest' : Bytes) :
    String.utf8EncodeChar c ++ rest < String.utf8EncodeChar d ++ rest' := by
  have hlt : c.toNat < d.toNat := h
  have hc := leadByte_cases c.toNat
  have hd := leadByte_cases d.toNat
  have hcbyte : leadByte c.toNat < 256 := leadByte_lt c.valid
  have hdbyte : leadByte d.toNat < 256 := leadByte_lt d.valid
  rw [encode_eq, encode_eq, List.cons_append, List.cons_append, List.cons_lt_cons_iff]
  by_cases hlead : leadByte c.toNat = leadByte d.toNat
  · have htail : tailLength c.toNat = tailLength d.toNat := by omega
    have hfront : c.toNat / 64 ^ tailLength d.toNat = d.toNat / 64 ^ tailLength d.toNat := by
      rcases hd with ⟨hle, hbyte, hlength⟩ | ⟨hge, hle, hbyte, hlength⟩ |
        ⟨hge, hle, hbyte, hlength⟩ | ⟨hge, hbyte, hlength⟩
      all_goals
        rw [hlength]
        omega
    rw [hlead, htail]
    exact .inr ⟨rfl, tailBytes_append_lt hlt hfront rest rest'⟩
  · left
    rw [UInt8.lt_iff_toNat_lt, UInt8.toNat_ofNat', UInt8.toNat_ofNat', Nat.mod_eq_of_lt hcbyte,
      Nat.mod_eq_of_lt hdbyte]
    omega

/-- Texts in order are encoded in order. -/
theorem ofChars_lt_ofChars {cs ds : List Char} (h : cs < ds) :
    Bytes.ofChars cs < Bytes.ofChars ds := by
  induction h with
  | @nil d ds =>
    rw [Bytes.ofChars, Bytes.ofChars, List.flatMap_nil, List.flatMap_cons, encode_eq]
    exact List.nil_lt_cons _ _
  | @rel c cs d ds hcd =>
    rw [Bytes.ofChars, Bytes.ofChars, List.flatMap_cons, List.flatMap_cons]
    exact encode_append_lt hcd _ _
  | @cons c cs ds h ih =>
    rw [Bytes.ofChars, Bytes.ofChars, List.flatMap_cons, List.flatMap_cons]
    exact List.append_left_lt ih

end Rehearsal.Utf8
