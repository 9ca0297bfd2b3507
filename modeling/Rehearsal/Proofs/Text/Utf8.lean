import Mathlib.Algebra.Group.Nat.Defs
import Mathlib.Data.List.Infix
import Rehearsal.Text.Utf8

/-!
# What the decoder reads

`Decodes` says what a byte string reads as, without a decoder: as characters, where their encodings
stand, and as marks for what is malformed between them. A malformed sequence is as long as it can
be: it is a single byte, or the beginning of an encoding, and with the byte after it it would be
neither.

* `decodes_iff`: this is what `decode` finds, and nothing else.
* `decode_ofChars`: so text that was encoded is read back, and no two texts are encoded alike.

The decoder is followed byte by byte. What it remembers of a character under way admits certain
numbers (`Pending.Admits`), and these are the characters whose encodings begin with the bytes seen
(`Pending.Follows`). A byte in the range that is expected leaves fewer of them (`Follows.next`), and
with any other byte no encoding goes on (`Follows.inRange_of_begins`). There are only a few kinds of
first bytes to tell apart (`start_spec`).
-/

namespace Rehearsal.Utf8

/-! ### Encodings -/

/-- The first byte of the encoding of the character with this number. -/
def leadByte (n : Nat) : Nat :=
  if n ≤ 127 then n
  else if n ≤ 2047 then n / 64 + 192
  else if n ≤ 65535 then n / 4096 + 224
  else n / 262144 + 240

/-- How many bytes follow the first. -/
def tailLength (n : Nat) : Nat :=
  if n ≤ 127 then 0 else if n ≤ 2047 then 1 else if n ≤ 65535 then 2 else 3

/-- The last bytes of an encoding: six bits of the number in each. -/
def tailBytes (n : Nat) : Nat → Bytes
  | 0 => []
  | count + 1 => UInt8.ofNat (n / 64 ^ count % 64 + 128) :: tailBytes n count

theorem toNat_lt (c : Char) : c.toNat < 0x110000 := by
  have h := c.valid
  simp only [UInt32.isValidChar, Nat.isValidChar] at h
  show c.val.toNat < _
  omega

theorem toNat_ofNat {n : Nat} (h : n.isValidChar) : (Char.ofNat n).toNat = n := by
  rw [Char.ofNat, dif_pos h]
  rfl

theorem encode_eq (c : Char) :
    String.utf8EncodeChar c =
      UInt8.ofNat (leadByte c.toNat) :: tailBytes c.toNat (tailLength c.toNat) := by
  have hlt := toNat_lt c
  have hval : c.val.toNat = c.toNat := rfl
  rw [String.utf8EncodeChar, hval]
  simp only [leadByte, tailLength]
  split
  · rfl
  · split
    · next h _ =>
      have : c.toNat / 64 % 32 = c.toNat / 64 := by omega
      simp [tailBytes, this]
    · split
      · have : c.toNat / 4096 % 16 = c.toNat / 4096 := by omega
        simp [tailBytes, this]
      · have : c.toNat / 262144 % 8 = c.toNat / 262144 := by omega
        simp [tailBytes, this]

theorem encode_ne_nil (c : Char) : String.utf8EncodeChar c ≠ [] := by
  rw [encode_eq]
  exact List.cons_ne_nil _ _

/-- No encoding goes on from another one. -/
theorem eq_of_encode_isPrefix {c d : Char} {rest : Bytes}
    (h : String.utf8EncodeChar c <+: String.utf8EncodeChar d ++ rest) : c = d := by
  obtain ⟨more, hmore⟩ := h
  have hbytes : (String.utf8EncodeChar c).toByteArray ++ more.toByteArray =
      (String.utf8EncodeChar d).toByteArray ++ rest.toByteArray := by
    rw [← List.toByteArray_append, ← List.toByteArray_append, hmore]
  have hc := ByteArray.utf8DecodeChar?_utf8EncodeChar_append (c := c) (b := more.toByteArray)
  rw [hbytes, ByteArray.utf8DecodeChar?_utf8EncodeChar_append] at hc
  exact (Option.some.inj hc).symm

/-! ### Reading without a decoder -/

/-- Bytes with which the encoding of a character begins. -/
def Begins (bytes : Bytes) : Prop := ∃ c, bytes <+: String.utf8EncodeChar c

/-- The first bytes that are left are malformed, and these are all that belong together: no
character stands here; they are a single byte, or an encoding begins with them; and no encoding
begins with one byte more. -/
structure IsMalformed (bad rest : Bytes) : Prop where
  ne_nil : bad ≠ []
  no_char : ∀ c, ¬ String.utf8EncodeChar c <+: bad ++ rest
  short : bad.length = 1 ∨ Begins bad
  longest : ∀ b, [b] <+: rest → ¬ Begins (bad ++ [b])

/-- What a byte string reads as: its characters, with `none` for what is malformed. -/
inductive Decodes : Bytes → List (Option Char) → Prop
  | nil : Decodes [] []
  | char (c : Char) {rest : Bytes} {marks : List (Option Char)} (h : Decodes rest marks) :
      Decodes (String.utf8EncodeChar c ++ rest) (some c :: marks)
  | malformed {bad rest : Bytes} {marks : List (Option Char)} (hbad : IsMalformed bad rest)
      (h : Decodes rest marks) : Decodes (bad ++ rest) (none :: marks)

theorem Begins.of_isPrefix {bytes more : Bytes} (h : Begins more) (hle : bytes <+: more) :
    Begins bytes := by
  obtain ⟨c, hc⟩ := h
  exact ⟨c, hle.trans hc⟩

/-- Of two malformed sequences at the same place neither is shorter. -/
theorem IsMalformed.prefix_eq {bad rest bad' rest' : Bytes} (h : IsMalformed bad rest)
    (h' : IsMalformed bad' rest') (heq : bad ++ rest = bad' ++ rest') (hle : bad <+: bad') :
    bad = bad' := by
  obtain ⟨more, rfl⟩ := hle
  cases more with
  | nil => exact (List.append_nil bad).symm
  | cons b more =>
    rw [List.append_assoc, List.append_right_inj] at heq
    have hlong : (bad ++ b :: more).length ≠ 1 := by
      have hpos : 0 < bad.length := List.length_pos_iff.mpr h.ne_nil
      rw [List.length_append, List.length_cons]
      omega
    have hbegins : Begins (bad ++ [b]) :=
      (h'.short.resolve_left hlong).of_isPrefix
        ((List.prefix_append_right_inj bad).mpr ⟨more, rfl⟩)
    exact absurd hbegins (h.longest b ⟨more ++ rest', heq.symm⟩)

theorem IsMalformed.unique {bad rest bad' rest' : Bytes} (h : IsMalformed bad rest)
    (h' : IsMalformed bad' rest') (heq : bad ++ rest = bad' ++ rest') :
    bad = bad' ∧ rest = rest' := by
  have hbad : bad = bad' := by
    rcases List.prefix_or_prefix_of_prefix (List.prefix_append bad rest)
      (heq ▸ List.prefix_append bad' rest') with hle | hle
    · exact h.prefix_eq h' heq hle
    · exact (h'.prefix_eq h heq.symm hle).symm
  subst hbad
  exact ⟨rfl, (List.append_right_inj bad).mp heq⟩

/-- A byte string reads in one way. -/
theorem Decodes.unique {bytes : Bytes} {marks marks' : List (Option Char)} (h : Decodes bytes marks)
    (h' : Decodes bytes marks') : marks = marks' := by
  induction h generalizing marks' with
  | nil =>
    generalize hbytes : ([] : Bytes) = bytes at h'
    cases h' with
    | nil => rfl
    | char c h' => exact absurd (List.append_eq_nil_iff.mp hbytes.symm).1 (encode_ne_nil c)
    | malformed hbad h' => exact absurd (List.append_eq_nil_iff.mp hbytes.symm).1 hbad.ne_nil
  | @char c rest marks h ih =>
    generalize hbytes : String.utf8EncodeChar c ++ rest = bytes at h'
    cases h' with
    | nil => exact absurd (List.append_eq_nil_iff.mp hbytes).1 (encode_ne_nil c)
    | @char d rest' marks' h' =>
      obtain rfl : c = d := eq_of_encode_isPrefix ⟨rest, hbytes⟩
      rw [List.append_right_inj] at hbytes
      subst hbytes
      rw [ih h']
    | malformed hbad h' => exact absurd ⟨rest, hbytes⟩ (hbad.no_char c)
  | @malformed bad rest marks hbad h ih =>
    generalize hbytes : bad ++ rest = bytes at h'
    cases h' with
    | nil => exact absurd (List.append_eq_nil_iff.mp hbytes).1 hbad.ne_nil
    | @char d rest' marks' h' => exact absurd ⟨rest', hbytes.symm⟩ (hbad.no_char d)
    | malformed hbad' h' =>
      obtain ⟨rfl, rfl⟩ := hbad.unique hbad' hbytes
      rw [ih h']

/-! ### A character under way -/

/-- The numbers of the characters that can still come of the one under way. -/
def Pending.Admits (p : Pending) (n : Nat) : Prop :=
  p.value * 64 + p.low.toNat ≤ n / 64 ^ p.further + 128 ∧
    n / 64 ^ p.further + 128 ≤ p.value * 64 + p.high.toNat

/-- This is under way after these bytes. -/
structure Pending.Follows (p : Pending) (seen : Bytes) : Prop where
  ne_nil : seen ≠ []
  low_ge : 128 ≤ p.low.toNat
  low_le_high : p.low.toNat ≤ p.high.toNat
  high_le : p.high.toNat ≤ 191
  isValidChar : ∀ n, p.Admits n → n.isValidChar
  encode : ∀ c : Char, p.Admits c.toNat →
    String.utf8EncodeChar c = seen ++ tailBytes c.toNat (p.further + 1)
  admits : ∀ c : Char, seen <+: String.utf8EncodeChar c → p.Admits c.toNat

/-- Is this byte one of those that are expected next? -/
def Pending.InRange (p : Pending) (b : UInt8) : Prop := p.low ≤ b ∧ b ≤ p.high

namespace Pending.Follows

variable {p : Pending} {seen rest : Bytes} {b : UInt8} {c : Char}

theorem toNat_sub (h : p.Follows seen) (hb : p.InRange b) : (b - 0x80).toNat + 128 = b.toNat := by
  have hlow : p.low.toNat ≤ b.toNat := UInt8.le_iff_toNat_le.mp hb.1
  have hge : 128 ≤ b.toNat := Nat.le_trans h.low_ge hlow
  rw [UInt8.toNat_sub_of_le b 0x80 (UInt8.le_iff_toNat_le.mpr hge)]
  exact Nat.sub_add_cancel hge

/-- The next byte of an encoding is six bits of the number, and the bits before them are known. -/
theorem of_isPrefix (h : p.Follows seen) (hc : seen ++ [b] <+: String.utf8EncodeChar c) :
    p.InRange b ∧ c.toNat / 64 ^ p.further + 128 = p.value * 64 + b.toNat := by
  have hadmits : p.Admits c.toNat := h.admits c ((List.prefix_append seen [b]).trans hc)
  rw [h.encode c hadmits, List.prefix_append_right_inj, tailBytes, List.cons_prefix_cons] at hc
  have hb : b.toNat = c.toNat / 64 ^ p.further % 64 + 128 := by
    rw [hc.1, UInt8.toNat_ofNat']
    omega
  obtain ⟨hleast, hgreatest⟩ := hadmits
  have hlow := h.low_ge
  have hhigh := h.high_le
  generalize c.toNat / 64 ^ p.further = q at hb hleast hgreatest ⊢
  refine ⟨⟨?_, ?_⟩, by omega⟩
  · rw [UInt8.le_iff_toNat_le]
    omega
  · rw [UInt8.le_iff_toNat_le]
    omega

theorem inRange_of_begins (h : p.Follows seen) (hbegins : Begins (seen ++ [b])) : p.InRange b := by
  obtain ⟨c, hc⟩ := hbegins
  exact (h.of_isPrefix hc).1

theorem admits_of_quotient (hb : p.InRange b) {n : Nat}
    (hn : n / 64 ^ p.further + 128 = p.value * 64 + b.toNat) : p.Admits n := by
  have hlow : p.low.toNat ≤ b.toNat := UInt8.le_iff_toNat_le.mp hb.1
  have hhigh : b.toNat ≤ p.high.toNat := UInt8.le_iff_toNat_le.mp hb.2
  exact ⟨by omega, by omega⟩

theorem encode_of_quotient (h : p.Follows seen) (hb : p.InRange b)
    (hc : c.toNat / 64 ^ p.further + 128 = p.value * 64 + b.toNat) :
    String.utf8EncodeChar c = seen ++ b :: tailBytes c.toNat p.further := by
  have hsub := h.toNat_sub hb
  have hhigh : b.toNat ≤ p.high.toNat := UInt8.le_iff_toNat_le.mp hb.2
  have hle := h.high_le
  have hbyte : c.toNat / 64 ^ p.further % 64 + 128 = b.toNat := by omega
  rw [h.encode c (admits_of_quotient hb hc), tailBytes, hbyte, UInt8.ofNat_toNat]

/-- There is a character under way. -/
theorem begins (h : p.Follows seen) : Begins seen := by
  have hlow : p.InRange p.low :=
    ⟨UInt8.le_iff_toNat_le.mpr (Nat.le_refl _), UInt8.le_iff_toNat_le.mpr h.low_le_high⟩
  have hpos : 0 < 64 ^ p.further := Nat.pow_pos (by decide)
  have hge := h.low_ge
  -- The number in which all further bits are zero.
  let n := (p.value * 64 + p.low.toNat - 128) * 64 ^ p.further
  have hn : n / 64 ^ p.further + 128 = p.value * 64 + p.low.toNat := by
    rw [Nat.mul_div_cancel _ hpos]
    omega
  have hvalid : n.isValidChar := h.isValidChar n (admits_of_quotient hlow hn)
  refine ⟨Char.ofNat n, ?_⟩
  rw [h.encode_of_quotient hlow (by rw [toNat_ofNat hvalid]; exact hn)]
  exact List.prefix_append _ _

/-- A byte that was expected is followed by fewer, unless it is the last. -/
theorem next {value further : Nat} {low high : UInt8}
    (h : Follows ⟨value, further + 1, low, high⟩ seen)
    (hb : InRange ⟨value, further + 1, low, high⟩ b) :
    Follows ⟨value * 64 + (b - 0x80).toNat, further, 0x80, 0xBF⟩ (seen ++ [b]) := by
  have hsub := h.toNat_sub hb
  have hlow : (0x80 : UInt8).toNat = 128 := rfl
  have hhigh : (0xBF : UInt8).toNat = 191 := rfl
  have hadmits : ∀ n, Admits ⟨value * 64 + (b - 0x80).toNat, further, 0x80, 0xBF⟩ n ↔
      n / 64 ^ (further + 1) + 128 = value * 64 + b.toNat := by
    intro n
    rw [Nat.pow_succ, ← Nat.div_div_eq_div_mul, Admits, hlow, hhigh]
    dsimp only
    omega
  refine ⟨by simp, Nat.le_of_eq hlow.symm, ?_, Nat.le_of_eq hhigh, ?_, ?_, ?_⟩
  · dsimp only
    rw [hlow, hhigh]
    decide
  · intro n hn
    exact h.isValidChar n (admits_of_quotient hb ((hadmits n).mp hn))
  · intro c hc
    rw [h.encode_of_quotient hb ((hadmits _).mp hc), List.append_assoc, List.singleton_append]
  · intro c hc
    exact (hadmits _).mpr (h.of_isPrefix hc).2

/-- The last byte completes a character. -/
theorem last {value : Nat} {low high : UInt8} (h : Follows ⟨value, 0, low, high⟩ seen)
    (hb : InRange ⟨value, 0, low, high⟩ b) :
    String.utf8EncodeChar (Char.ofNat (value * 64 + (b - 0x80).toNat)) = seen ++ [b] := by
  have hsub := h.toNat_sub hb
  have hn : (value * 64 + (b - 0x80).toNat) / 64 ^ 0 + 128 = value * 64 + b.toNat := by
    rw [Nat.pow_zero, Nat.div_one]
    omega
  have hvalid := h.isValidChar _ (admits_of_quotient hb hn)
  rw [h.encode_of_quotient hb (by rw [toNat_ofNat hvalid]; exact hn)]
  rfl

/-- If something else comes than what was expected, or nothing, what was under way is malformed. -/
theorem isMalformed (h : p.Follows seen) (hrest : ∀ b, [b] <+: rest → ¬ p.InRange b) :
    IsMalformed seen rest where
  ne_nil := h.ne_nil
  no_char := by
    intro c hc
    have hseen : seen <+: String.utf8EncodeChar c := by
      rcases List.prefix_or_prefix_of_prefix hc (List.prefix_append seen rest) with hle | hle
      · obtain ⟨d, hd⟩ := h.begins
        obtain rfl : c = d := eq_of_encode_isPrefix (by simpa using hle.trans hd : _ <+: _ ++ [])
        exact hd
      · exact hle
    rw [h.encode c (h.admits c hseen), List.prefix_append_right_inj, tailBytes] at hc
    have hnext : [UInt8.ofNat (c.toNat / 64 ^ p.further % 64 + 128)] <+: rest :=
      List.IsPrefix.trans ⟨_, rfl⟩ hc
    refine hrest _ hnext (h.inRange_of_begins ⟨c, ?_⟩)
    rw [h.encode c (h.admits c hseen), List.prefix_append_right_inj, tailBytes]
    exact ⟨_, rfl⟩
  short := .inr h.begins
  longest := fun b hb hbegins => hrest b hb (h.inRange_of_begins hbegins)

end Pending.Follows

/-! ### The first byte -/

/-- The four lengths of an encoding. -/
theorem leadByte_cases (n : Nat) :
    n ≤ 127 ∧ leadByte n = n ∧ tailLength n = 0 ∨
      128 ≤ n ∧ n ≤ 2047 ∧ leadByte n = n / 64 + 192 ∧ tailLength n = 1 ∨
      2048 ≤ n ∧ n ≤ 65535 ∧ leadByte n = n / 4096 + 224 ∧ tailLength n = 2 ∨
      65536 ≤ n ∧ leadByte n = n / 262144 + 240 ∧ tailLength n = 3 := by
  simp only [leadByte, tailLength]
  split
  · omega
  · split
    · omega
    · split
      · omega
      · omega

theorem leadByte_lt {n : Nat} (h : n.isValidChar) : leadByte n < 256 := by
  have hcases := leadByte_cases n
  simp only [Nat.isValidChar] at h
  omega

theorem byte_prefix_encode_iff {b : UInt8} {c : Char} :
    [b] <+: String.utf8EncodeChar c ↔ leadByte c.toNat = b.toNat := by
  have hlt : leadByte c.toNat < 256 := leadByte_lt c.valid
  rw [encode_eq, List.cons_prefix_cons, and_iff_left List.nil_prefix, ← UInt8.toNat_inj,
    UInt8.toNat_ofNat', Nat.mod_eq_of_lt hlt, eq_comm]

/-- A first byte is followed by what it promises if these are the characters that begin with it. -/
theorem follows_byte {b base low high : UInt8} {further : Nat} (hbase : base.toNat ≤ b.toNat)
    (hlow : 128 ≤ low.toNat) (hle : low.toNat ≤ high.toNat) (hhigh : high.toNat ≤ 191)
    (hpromise : ∀ n,
      (n.isValidChar ∧ leadByte n = b.toNat ∧ tailLength n = further + 1 ↔
        (b.toNat - base.toNat) * 64 + low.toNat ≤ n / 64 ^ further + 128 ∧
          n / 64 ^ further + 128 ≤ (b.toNat - base.toNat) * 64 + high.toNat) ∧
      (n.isValidChar → leadByte n = b.toNat → tailLength n = further + 1)) :
    Pending.Follows ⟨(b - base).toNat, further, low, high⟩ [b] := by
  rw [UInt8.toNat_sub_of_le b base (UInt8.le_iff_toNat_le.mpr hbase)]
  refine ⟨List.cons_ne_nil _ _, hlow, hle, hhigh, ?_, ?_, ?_⟩
  · intro n hn
    exact ((hpromise n).1.mpr hn).1
  · intro c hc
    obtain ⟨-, hbyte, htail⟩ := (hpromise _).1.mpr hc
    rw [encode_eq, hbyte, htail, UInt8.ofNat_toNat]
    rfl
  · intro c hc
    have hbyte := byte_prefix_encode_iff.mp hc
    exact (hpromise _).1.mp ⟨c.valid, hbyte, (hpromise _).2 c.valid hbyte⟩

/-- What is malformed from its first byte on is a single byte. -/
theorem isMalformed_of_not_begins {b : UInt8} {rest : Bytes} (h : ¬ Begins [b]) :
    IsMalformed [b] rest where
  ne_nil := List.cons_ne_nil _ _
  no_char := by
    intro c hc
    refine h ⟨c, ?_⟩
    rw [encode_eq] at hc ⊢
    rw [List.singleton_append, List.cons_prefix_cons] at hc
    rw [hc.1]
    exact ⟨_, rfl⟩
  short := .inl rfl
  longest := fun _ _ hbegins => h (hbegins.of_isPrefix (List.prefix_append _ _))

theorem not_begins_byte {b : UInt8} (h : ∀ n : Nat, n.isValidChar → leadByte n ≠ b.toNat) :
    ¬ Begins [b] := by
  rintro ⟨c, hc⟩
  exact h _ c.valid (byte_prefix_encode_iff.mp hc)

theorem encode_ofNat_of_lt {b : UInt8} (h : b.toNat < 128) :
    String.utf8EncodeChar (Char.ofNat b.toNat) = [b] := by
  have hvalid : b.toNat.isValidChar := .inl (by omega)
  obtain ⟨hlead, htail⟩ : leadByte b.toNat = b.toNat ∧ tailLength b.toNat = 0 := by
    have hcases := leadByte_cases b.toNat
    omega
  rw [encode_eq, toNat_ofNat hvalid, hlead, htail, UInt8.ofNat_toNat]
  rfl

/-- A first byte is a character, or malformed, or more is to follow. -/
theorem start_spec (d : Decoder) (b : UInt8) :
    (∃ c, d.start b = d.emit (some c) ∧ String.utf8EncodeChar c = [b]) ∨
      (d.start b = d.emit none ∧ ¬ Begins [b]) ∨
      ∃ p, d.start b = { d with pending := some p } ∧ p.Follows [b] := by
  have hb := b.toNat_lt
  unfold Decoder.start
  simp only [UInt8.lt_iff_toNat_lt, ← UInt8.toNat_inj, UInt8.reduceToNat]
  split
  · next hlt => exact .inl ⟨_, rfl, encode_ofNat_of_lt hlt⟩
  right
  split
  · refine .inl ⟨rfl, not_begins_byte fun n hn => ?_⟩
    have hcases := leadByte_cases n
    omega
  -- There are seven kinds of first bytes that promise more.
  iterate 7
    split
    · refine .inr ⟨_, rfl, follows_byte (by simp; omega) (by decide) (by decide) (by decide) ?_⟩
      intro n
      have hcases := leadByte_cases n
      simp only [UInt8.reduceToNat, Nat.isValidChar]
      omega
  · refine .inl ⟨rfl, not_begins_byte fun n hn => ?_⟩
    have hcases := leadByte_cases n
    simp only [Nat.isValidChar] at hn
    omega

/-! ### Byte by byte -/

/-- A later byte completes the character under way, or more is to follow, or it is not what was
expected and begins anew. -/
theorem step_spec {d : Decoder} {p : Pending} {seen : Bytes} (hd : d.pending = some p)
    (h : p.Follows seen) (b : UInt8) :
    (∃ c, d.step b = d.emit (some c) ∧ String.utf8EncodeChar c = seen ++ [b]) ∨
      (∃ q, d.step b = { d with pending := some q } ∧ q.Follows (seen ++ [b])) ∨
      d.step b = (d.emit none).start b ∧ ¬ p.InRange b := by
  obtain ⟨value, further, low, high⟩ := p
  rw [Decoder.step, hd]
  dsimp only
  split
  · next hrange =>
    rw [Bool.and_eq_true, decide_eq_true_eq, decide_eq_true_eq] at hrange
    cases further with
    | zero => exact .inl ⟨_, rfl, h.last hrange⟩
    | succ further => exact .inr (.inl ⟨_, rfl, h.next hrange⟩)
  · next hrange =>
    rw [Bool.and_eq_true, decide_eq_true_eq, decide_eq_true_eq] at hrange
    exact .inr (.inr ⟨rfl, hrange⟩)

/-- What a decoder finds in further bytes. -/
def Decoder.Finds (d : Decoder) (bytes : Bytes) (marks : List (Option Char)) : Prop :=
  (bytes.foldl Decoder.step d).finish = d.decoded.reverse ++ marks

theorem Decoder.emit_decoded_append (d : Decoder) (mark : Option Char)
    (marks : List (Option Char)) :
    (d.emit mark).decoded.reverse ++ marks = d.decoded.reverse ++ mark :: marks := by
  rw [Decoder.emit, List.reverse_cons, List.append_assoc, List.singleton_append]

theorem finds_decodes (bytes : Bytes) :
    (∀ d : Decoder, d.pending = none → ∃ marks, d.Finds bytes marks ∧ Decodes bytes marks) ∧
      ∀ (d : Decoder) (p : Pending) (seen : Bytes), d.pending = some p → p.Follows seen →
        ∃ marks, d.Finds bytes marks ∧ Decodes (seen ++ bytes) marks := by
  induction bytes with
  | nil =>
    refine ⟨fun d hd => ?_, fun d p seen hd h => ?_⟩
    · refine ⟨[], ?_, .nil⟩
      rw [Decoder.Finds, List.foldl_nil, Decoder.finish, hd, List.append_nil]
    · refine ⟨[none], ?_, .malformed (h.isMalformed (by simp)) .nil⟩
      rw [Decoder.Finds, List.foldl_nil, Decoder.finish, hd, List.reverse_cons]
  | cons b bytes ih =>
    obtain ⟨ihNone, ihSome⟩ := ih
    have hstart : ∀ d : Decoder, ∃ marks,
        (bytes.foldl Decoder.step (d.start b)).finish = d.decoded.reverse ++ marks ∧
          Decodes (b :: bytes) marks := by
      intro d
      rcases start_spec d b with ⟨c, hc, hencode⟩ | ⟨hc, hbegins⟩ | ⟨p, hp, hfollows⟩
      · obtain ⟨marks, hfinds, hdecodes⟩ := ihNone (d.emit (some c)) rfl
        refine ⟨some c :: marks, ?_, ?_⟩
        · rw [hc, hfinds, Decoder.emit_decoded_append]
        · have hchar := Decodes.char c hdecodes
          rw [hencode] at hchar
          exact hchar
      · obtain ⟨marks, hfinds, hdecodes⟩ := ihNone (d.emit none) rfl
        refine ⟨none :: marks, ?_, .malformed (isMalformed_of_not_begins hbegins) hdecodes⟩
        rw [hc, hfinds, Decoder.emit_decoded_append]
      · obtain ⟨marks, hfinds, hdecodes⟩ := ihSome { d with pending := some p } p [b] rfl hfollows
        refine ⟨marks, ?_, hdecodes⟩
        rw [hp]
        exact hfinds
    refine ⟨fun d hd => ?_, fun d p seen hd h => ?_⟩
    · obtain ⟨marks, hfinds, hdecodes⟩ := hstart d
      refine ⟨marks, ?_, hdecodes⟩
      rw [Decoder.Finds, List.foldl_cons, Decoder.step, hd]
      exact hfinds
    · rcases step_spec hd h b with ⟨c, hc, hencode⟩ | ⟨q, hq, hfollows⟩ | ⟨hc, hrange⟩
      · obtain ⟨marks, hfinds, hdecodes⟩ := ihNone (d.emit (some c)) rfl
        refine ⟨some c :: marks, ?_, ?_⟩
        · rw [Decoder.Finds, List.foldl_cons, hc, hfinds, Decoder.emit_decoded_append]
        · have hchar := Decodes.char c hdecodes
          rw [hencode, List.append_assoc] at hchar
          exact hchar
      · obtain ⟨marks, hfinds, hdecodes⟩ :=
          ihSome { d with pending := some q } q (seen ++ [b]) rfl hfollows
        refine ⟨marks, ?_, ?_⟩
        · rw [Decoder.Finds, List.foldl_cons, hq]
          exact hfinds
        · rw [List.append_assoc] at hdecodes
          exact hdecodes
      · obtain ⟨marks, hfinds, hdecodes⟩ := hstart (d.emit none)
        refine ⟨none :: marks, ?_, .malformed (h.isMalformed ?_) hdecodes⟩
        · rw [Decoder.Finds, List.foldl_cons, hc, hfinds, Decoder.emit_decoded_append]
        · rintro b' hb'
          obtain rfl : b' = b := (List.cons_prefix_cons.mp hb').1
          exact hrange

/-- **The decoder finds what a byte string reads as.** -/
theorem decodes_iff {bytes : Bytes} {marks : List (Option Char)} :
    Decodes bytes marks ↔ marks = decode bytes := by
  obtain ⟨found, hfinds, hdecodes⟩ := (finds_decodes bytes).1 {} rfl
  have hfound : decode bytes = found := hfinds
  rw [hfound]
  constructor
  · intro h
    exact h.unique hdecodes
  · rintro rfl
    exact hdecodes

/-! ### Text -/

theorem decodes_ofChars (cs : List Char) : Decodes (Bytes.ofChars cs) (cs.map some) := by
  induction cs with
  | nil => exact .nil
  | cons c cs ih => exact .char c ih

/-- Text that was encoded is read back. -/
theorem decode_ofChars (cs : List Char) : decode (Bytes.ofChars cs) = cs.map some :=
  (decodes_iff.mp (decodes_ofChars cs)).symm

theorem decodeLossy_ofChars (cs : List Char) : decodeLossy (Bytes.ofChars cs) = cs := by
  rw [decodeLossy, decode_ofChars, List.map_map]
  exact List.map_id cs

/-- The bytes after the first of an encoding are not those of ASCII. -/
theorem le_of_mem_tailBytes {b : UInt8} {n count : Nat} (h : b ∈ tailBytes n count) :
    128 ≤ b.toNat := by
  induction count with
  | zero => cases h
  | succ count ih =>
    rcases List.mem_cons.mp h with rfl | h
    · rw [UInt8.toNat_ofNat']
      omega
    · exact ih h

/-- The byte that ends a line occurs only as the character that ends a line. -/
theorem newline_mem_encode {c : Char} (h : Bytes.newline ∈ String.utf8EncodeChar c) : c = '\n' := by
  rw [encode_eq] at h
  rcases List.mem_cons.mp h with hlead | htail
  · have hbegins : [Bytes.newline] <+: String.utf8EncodeChar c := by
      rw [encode_eq, ← hlead]
      exact List.prefix_append [Bytes.newline] _
    have hc : leadByte c.toNat = 10 := byte_prefix_encode_iff.mp hbegins
    have hcases := leadByte_cases c.toNat
    have htoNat : c.toNat = 10 := by omega
    rw [← Char.ofNat_toNat c, htoNat]
  · exact absurd (le_of_mem_tailBytes htail) (by decide)

theorem newline_notMem_ofChars {cs : List Char} (h : '\n' ∉ cs) :
    Bytes.newline ∉ Bytes.ofChars cs := by
  intro hmem
  obtain ⟨c, hc, hbyte⟩ := List.mem_flatMap.mp hmem
  exact h (newline_mem_encode hbyte ▸ hc)

/-- No two texts are encoded alike. -/
theorem ofChars_injective {cs ds : List Char} (h : Bytes.ofChars cs = Bytes.ofChars ds) :
    cs = ds := by
  rw [← decodeLossy_ofChars cs, h, decodeLossy_ofChars]

theorem Decodes.eq_ofChars {bytes : Bytes} {cs : List Char} (h : Decodes bytes (cs.map some)) :
    bytes = Bytes.ofChars cs := by
  generalize hmarks : cs.map some = marks at h
  induction h generalizing cs with
  | nil =>
    rw [List.map_eq_nil_iff.mp hmarks]
    rfl
  | @char c rest marks h ih =>
    obtain ⟨d, ds, rfl, hd, hds⟩ := List.map_eq_cons_iff.mp hmarks
    cases hd
    rw [ih hds]
    rfl
  | @malformed bad rest marks hbad h ih =>
    -- None of the marks of a text stands for something malformed.
    obtain ⟨d, ds, rfl, hd, hds⟩ := List.map_eq_cons_iff.mp hmarks
    cases hd

theorem mapM_id_eq_some_iff {α : Type} {marks : List (Option α)} {xs : List α} :
    marks.mapM id = some xs ↔ marks = xs.map some := by
  induction marks generalizing xs with
  | nil => cases xs <;> simp
  | cons mark marks ih =>
    cases mark with
    | none => cases xs <;> simp
    | some x =>
      rw [List.mapM_cons]
      cases xs with
      | nil => cases marks.mapM id <;> simp
      | cons y ys =>
        rw [List.map_cons, List.cons.injEq, ← ih]
        cases marks.mapM id <;> simp

/-- A byte string is taken for text if and only if it is the encoding of one. -/
theorem decode?_eq_some_iff {bytes : Bytes} {cs : List Char} :
    decode? bytes = some cs ↔ bytes = Bytes.ofChars cs := by
  rw [decode?, mapM_id_eq_some_iff]
  constructor
  · intro h
    exact Decodes.eq_ofChars (decodes_iff.mpr h.symm)
  · rintro rfl
    exact decode_ofChars cs

/-! ### A line break after other bytes -/

theorem encode_newline : String.utf8EncodeChar '\n' = [Bytes.newline] := by decide

/-- No encoding ends in a line break that is not one itself. -/
theorem eq_nil_of_isPrefix_encode {bytes : Bytes} {c : Char}
    (h : bytes ++ [Bytes.newline] <+: String.utf8EncodeChar c) : bytes = [] := by
  have hc : c = '\n' := newline_mem_encode (h.subset (by simp))
  rw [hc, encode_newline] at h
  have hlength := h.length_le
  rw [List.length_append, List.length_singleton] at hlength
  exact List.eq_nil_of_length_eq_zero (by omega)

/-- What is malformed stays so, and is no longer, if a line break comes after everything. -/
theorem IsMalformed.append_newline {bad rest : Bytes} (h : IsMalformed bad rest) :
    IsMalformed bad (rest ++ [Bytes.newline]) where
  ne_nil := h.ne_nil
  no_char := by
    intro c hc
    rw [← List.append_assoc] at hc
    rcases List.prefix_concat_iff.mp hc with hall | hfront
    · have hnil : bad ++ rest = [] := by
        refine eq_nil_of_isPrefix_encode (c := c) ?_
        rw [hall]
      exact h.ne_nil (List.append_eq_nil_iff.mp hnil).1
    · exact h.no_char c hfront
  short := h.short
  longest := by
    intro b hb
    cases rest with
    | nil =>
      rintro ⟨c, hc⟩
      obtain rfl : b = Bytes.newline := (List.cons_prefix_cons.mp hb).1
      exact h.ne_nil (eq_nil_of_isPrefix_encode hc)
    | cons b' rest =>
      obtain rfl : b = b' := (List.cons_prefix_cons.mp hb).1
      exact h.longest b ⟨rest, rfl⟩

theorem Decodes.append_newline {bytes : Bytes} {marks : List (Option Char)}
    (h : Decodes bytes marks) : Decodes (bytes ++ [Bytes.newline]) (marks ++ [some '\n']) := by
  induction h with
  | nil =>
    have hnewline := Decodes.char '\n' .nil
    rw [encode_newline] at hnewline
    exact hnewline
  | char c h ih =>
    rw [List.append_assoc]
    exact .char c ih
  | malformed hbad h ih =>
    rw [List.append_assoc]
    exact .malformed hbad.append_newline ih

/-- A line break at the end is read as one, whatever comes before it. -/
theorem decodeLossy_append_newline (bytes : Bytes) :
    decodeLossy (bytes ++ [Bytes.newline]) = decodeLossy bytes ++ ['\n'] := by
  have hdecodes : Decodes bytes (decode bytes) := decodes_iff.mpr rfl
  rw [decodeLossy, ← decodes_iff.mp hdecodes.append_newline, List.map_append]
  rfl

end Rehearsal.Utf8
