import Mathlib.Algebra.Group.Nat.Defs
import Mathlib.Tactic.SplitIfs
import Waymark.Text.Utf8

/-!
# Waymark.Proofs.Text.ByteOrder

Texts in the order of their characters and in the order of their bytes.

The form of a character is a lead byte and the digits to the base 64 that are left of its code.
How many these are grows with the code, and a lead byte that more of them follow is greater
(`lead_lt_of_followers_lt`). So of two characters the forms part at a byte where the first has the
smaller one, and what comes after them does not count (`encodeChar_append_lt`).
-/

namespace Waymark.Text

/-! ### The form of a character -/

/-- How many bytes follow the lead byte of a code. -/
def followers (code : Nat) : Nat :=
  if code ≤ 0x7f then 0 else if code ≤ 0x7ff then 1 else if code ≤ 0xffff then 2 else 3

/-- The least lead byte that some number of bytes follow. -/
def leastLead : Nat → Nat
  | 0 => 0
  | 1 => 0xc0
  | 2 => 0xe0
  | _ => 0xf0

/-- The lead byte of a code. -/
def leadOf (code : Nat) : Nat := leastLead (followers code) + code / 64 ^ followers code

/-- The last digits of a code to the base 64, as bytes that follow. -/
def digits (code : Nat) : Nat → Bytes
  | 0 => []
  | count + 1 => UInt8.ofNat (code / 64 ^ count % 64 + 0x80) :: digits code count

theorem toNat_val_lt (c : Char) : c.val.toNat < 0x110000 := by
  have h := c.valid
  simp only [UInt32.isValidChar, Nat.isValidChar] at h
  omega

/-- The form of a character in these terms. -/
theorem encodeChar_eq (c : Char) :
    String.utf8EncodeChar c =
      UInt8.ofNat (leadOf c.val.toNat) :: digits c.val.toNat (followers c.val.toNat) := by
  have hlt := toNat_val_lt c
  rw [String.utf8EncodeChar.eq_1]
  generalize c.val.toNat = code at hlt ⊢
  unfold leadOf followers
  split_ifs with h1 h2 h3
  · simp [leastLead, digits]
  · have hlead : code / 64 % 32 = code / 64 := by omega
    simp [leastLead, digits, hlead, Nat.add_comm]
  · have hlead : code / 4096 % 16 = code / 4096 := by omega
    simp [leastLead, digits, hlead, Nat.add_comm]
  · have hlead : code / 262144 % 8 = code / 262144 := by omega
    simp [leastLead, digits, hlead, Nat.add_comm]

theorem leadOf_lt_size {code : Nat} (h : code < 0x110000) : leadOf code < 256 := by
  unfold leadOf followers
  split_ifs <;> simp only [leastLead] <;> omega

/-- A greater code has as many bytes or more. -/
theorem followers_mono {code other : Nat} (h : code ≤ other) :
    followers code ≤ followers other := by
  unfold followers
  split_ifs <;> omega

/-- With more bytes to follow, a lead byte is greater. -/
theorem leadOf_lt_of_followers_lt {code other : Nat} (h : followers code < followers other)
    (hother : code < 0x110000) : leadOf code < leadOf other := by
  unfold leadOf
  unfold followers at h ⊢
  split_ifs at h ⊢ <;> simp only [leastLead] <;> omega

/-- Bytes compare as numbers do. -/
theorem ofNat_cons_lt_iff {m n : Nat} (hm : m < 256) (hn : n < 256) {xs ys : Bytes} :
    UInt8.ofNat m :: xs < UInt8.ofNat n :: ys ↔ m < n ∨ m = n ∧ xs < ys := by
  rw [List.cons_lt_cons_iff, UInt8.ofNat_lt_iff_lt hm hn, ← UInt8.toNat_inj,
    UInt8.toNat_ofNat_of_lt' hm, UInt8.toNat_ofNat_of_lt' hn]

/-- Digits compare as the numbers that they make up. -/
theorem digits_append_lt {code other count : Nat}
    (h : code % 64 ^ count < other % 64 ^ count) (more rest : Bytes) :
    digits code count ++ more < digits other count ++ rest := by
  induction count with
  | zero => simp [Nat.mod_one] at h
  | succ count ih =>
    rw [digits, digits, List.cons_append, List.cons_append,
      ofNat_cons_lt_iff (by omega) (by omega)]
    rw [Nat.pow_succ, Nat.mod_mul, Nat.mod_mul] at h
    -- the first digit decides, unless both have the same
    rcases Nat.lt_trichotomy (code / 64 ^ count % 64) (other / 64 ^ count % 64) with
      hlt | heq | hgt
    · exact Or.inl (by omega)
    · rw [heq] at h ⊢
      exact Or.inr ⟨rfl, ih (by omega)⟩
    · have hpos : 0 < 64 ^ count := Nat.pow_pos (by decide)
      have hmod := Nat.mod_lt other hpos
      have hle := Nat.mul_le_mul_left (64 ^ count) hgt
      rw [Nat.mul_succ] at hle
      omega

/-- **Forms of characters compare as the characters do**, whatever comes after them. -/
theorem encodeChar_append_lt {c d : Char} (h : c < d) (more rest : Bytes) :
    String.utf8EncodeChar c ++ more < String.utf8EncodeChar d ++ rest := by
  have hlt : c.val.toNat < d.val.toNat := h
  have hc := toNat_val_lt c
  have hd := toNat_val_lt d
  rw [encodeChar_eq, encodeChar_eq, List.cons_append, List.cons_append,
    ofNat_cons_lt_iff (leadOf_lt_size hc) (leadOf_lt_size hd)]
  rcases Nat.lt_or_eq_of_le (followers_mono (Nat.le_of_lt hlt)) with hmore | hsame
  · exact Or.inl (leadOf_lt_of_followers_lt hmore hc)
  · unfold leadOf
    rw [hsame]
    generalize followers d.val.toNat = count
    have hsplit := Nat.div_add_mod c.val.toNat (64 ^ count)
    have hsplit' := Nat.div_add_mod d.val.toNat (64 ^ count)
    rcases Nat.lt_or_eq_of_le (Nat.div_le_div_right (Nat.le_of_lt hlt)) with hlead | hlead
    · exact Or.inl (Nat.add_lt_add_left hlead _)
    · rw [hlead] at hsplit ⊢
      exact Or.inr ⟨rfl, digits_append_lt (by omega) more rest⟩

/-! ### Whole texts -/

theorem encode_ofList_cons (c : Char) (cs : List Char) :
    encode (String.ofList (c :: cs)) = String.utf8EncodeChar c ++ encode (String.ofList cs) := by
  simp [encode]

/-- Bytes keep the order of characters, by induction over the characters that agree. -/
theorem encode_ofList_lt {cs ds : List Char} (h : cs < ds) :
    encode (String.ofList cs) < encode (String.ofList ds) := by
  induction h with
  | nil =>
    rename_i d ds
    rw [encode_ofList_cons, encodeChar_eq]
    exact List.nil_lt_cons _ _
  | @rel c cs d ds hlt =>
    rw [encode_ofList_cons, encode_ofList_cons]
    exact encodeChar_append_lt hlt _ _
  | @cons c cs ds _ ih =>
    rw [encode_ofList_cons, encode_ofList_cons]
    exact List.append_left_lt ih

/-- **The order of texts is the order of their bytes.** -/
theorem encode_lt_encode_iff {s t : String} : encode s < encode t ↔ s < t := by
  have hmono : ∀ {s t : String}, s < t → encode s < encode t := by
    intro s t h
    have hlt := encode_ofList_lt (String.lt_iff.mp h)
    rwa [String.ofList_toList, String.ofList_toList] at hlt
  refine ⟨fun h => ?_, hmono⟩
  by_cases hst : s < t
  · exact hst
  · by_cases hts : t < s
    · exact absurd (hmono hts) (List.lt_asymm h)
    · rw [String.le_antisymm (String.not_lt.1 hts) (String.not_lt.1 hst)] at h
      exact absurd h (List.lt_irrefl _)

end Waymark.Text
