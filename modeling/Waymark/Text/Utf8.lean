/-!
# Waymark.Text.Utf8

Text as bytes and back.

`decode?` accepts well-formed UTF-8 only. `decodeLossy` accepts any bytes: every
longest piece that begins a sequence without completing it, and every byte that
cannot begin one, becomes U+FFFD.
-/

namespace Waymark

/-- A sequence of bytes. -/
abbrev Bytes := List UInt8

namespace Text

/-- The UTF-8 form of a text. -/
def encode (text : String) : Bytes :=
  text.toList.flatMap String.utf8EncodeChar

/-- The text whose UTF-8 form the bytes are, if there is one. -/
def decode? (bytes : Bytes) : Option String :=
  String.fromUTF8? (ByteArray.mk bytes.toArray)

/-- What must follow a byte that begins a sequence of several bytes: the range of
the second byte and the number of bytes after that. -/
def lead? (b : UInt8) : Option (UInt8 × UInt8 × Nat) :=
  if 0xc2 ≤ b ∧ b ≤ 0xdf then some (0x80, 0xbf, 0)
  else if b = 0xe0 then some (0xa0, 0xbf, 1)
  else if b = 0xed then some (0x80, 0x9f, 1)
  else if 0xe1 ≤ b ∧ b ≤ 0xef then some (0x80, 0xbf, 1)
  else if b = 0xf0 then some (0x90, 0xbf, 2)
  else if 0xf1 ≤ b ∧ b ≤ 0xf3 then some (0x80, 0xbf, 2)
  else if b = 0xf4 then some (0x80, 0x8f, 2)
  else none

/-- Read up to `count` bytes that continue a sequence whose bits so far are
`code`: the number of bytes missing in the end, the bits, and the rest. -/
def continuation (code : Nat) : (count : Nat) → Bytes → Nat × Nat × Bytes
  | 0, bytes => (0, code, bytes)
  | count + 1, [] => (count + 1, code, [])
  | count + 1, b :: rest =>
    if 0x80 ≤ b ∧ b ≤ 0xbf then continuation (64 * code + (b.toNat - 0x80)) count rest
    else (count + 1, code, b :: rest)

theorem length_continuation (code count : Nat) (bytes : Bytes) :
    (continuation code count bytes).2.2.length ≤ bytes.length := by
  fun_induction continuation code count bytes <;> grind

/-- What the byte `b` and the bytes after it begin with, and the rest. -/
def decodeNext (b : UInt8) (rest : Bytes) : Char × Bytes :=
  if b < 0x80 then (Char.ofNat b.toNat, rest)
  else
    match lead? b, rest with
    | some (low, high, count), second :: rest =>
      if low ≤ second ∧ second ≤ high then
        let bits := b.toNat % (32 >>> count)
        let (missing, code, rest) := continuation (64 * bits + (second.toNat - 0x80)) count rest
        (if missing = 0 then Char.ofNat code else '\ufffd', rest)
      else ('\ufffd', second :: rest)
    | _, rest => ('\ufffd', rest)

theorem length_decodeNext (b : UInt8) (rest : Bytes) :
    (decodeNext b rest).2.length ≤ rest.length := by
  unfold decodeNext
  split
  · simp
  · split
    · split
      · exact Nat.le_trans (length_continuation _ _ _) (Nat.le_succ _)
      · simp
    · simp

/-- The characters of some bytes, ill-formed pieces replaced. -/
def decodeLossyChars : Bytes → List Char
  | [] => []
  | b :: rest => (decodeNext b rest).1 :: decodeLossyChars (decodeNext b rest).2
termination_by bytes => bytes.length
decreasing_by
  have := length_decodeNext b rest
  simp only [List.length_cons]
  omega

/-- The text of some bytes, ill-formed pieces replaced. -/
def decodeLossy (bytes : Bytes) : String := String.ofList (decodeLossyChars bytes)

end Text

end Waymark
