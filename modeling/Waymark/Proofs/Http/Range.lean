import Waymark.Proofs.Outcome
import Waymark.StaticSite

/-!
# Waymark.Proofs.Http.Range

The parts of files that are asked for lie within the files, and nothing in finding and cutting
them out leaves the numbers of 64 bits.

`ByteRange.Within` is all that a range that is read has to satisfy for the file to have its bytes,
so that reading them does not come up short (`exists_readExact`). Natural numbers hide a difference below zero and know no
greatest number, so the arithmetic is repeated in `checkedRead?` and `checkedLength?`, where
such an operation has no result; that none occurs is that both have one
(`checkedRead?_eq`, `checkedLength?_eq`).
-/

namespace Waymark.Http

namespace ByteRange

/-! ### Ranges within a file -/

/-- A range is a part of a file of some size, with at least one byte. -/
structure Within (range : ByteRange) (size : Nat) : Prop where
  /-- It does not end before it begins. -/
  first_le : range.first ≤ range.last
  /-- Its last byte is in the file. -/
  last_lt : range.last < size

/-- No range asks for more than the last byte of a file that has one. -/
theorem last_lt_of_ofBounds? {size : Nat} {first last : List Char} {range : ByteRange}
    (h : ofBounds? size first last = some range) (hsize : size ≠ 0) : range.last < size := by
  unfold ofBounds? at h
  split at h
  · cases h
  · cases hcount : readNumber? last with
    | none => simp [hcount] at h
    | some count =>
      simp only [hcount, Option.bind_eq_bind, Option.bind_some] at h
      split at h
      · cases h
      · obtain rfl := Option.some.inj h
        show size - 1 < size
        omega
  · cases hfirst : readNumber? first with
    | none => simp [hfirst] at h
    | some n =>
      simp only [hfirst, Option.bind_eq_bind, Option.bind_some] at h
      obtain rfl := Option.some.inj h
      show size - 1 < size
      omega
  · cases hfirst : readNumber? first with
    | none => simp [hfirst] at h
    | some n =>
      cases hlast : readNumber? last with
      | none => simp [hfirst, hlast] at h
      | some m =>
        simp only [hfirst, hlast, Option.bind_eq_bind, Option.bind_some] at h
        obtain rfl := Option.some.inj h
        show min m (size - 1) < size
        omega

/-- **Every range that is read is within the file.** -/
theorem within_of_read? {header : String} {size : Nat} {range : ByteRange}
    (h : read? header size = some range) : range.Within size := by
  unfold read? at h
  dsimp only at h
  split at h
  · cases h
  · split at h
    · cases h
    · split at h
      · cases h
      · next hsize =>
        split at h
        · cases h
        · next found hbounds =>
          split at h
          · cases h
          · next hrefused =>
            obtain rfl := Option.some.inj h
            rw [not_or] at hrefused
            exact ⟨by omega, last_lt_of_ofBounds? hbounds hsize⟩

/-- **The bytes of a range within a file can be read**, and they are the part of the file from
its first byte to its last. -/
theorem exists_readExact {range : ByteRange} {bytes : Bytes} (h : range.Within bytes.length) :
    ∃ before part after, bytes = before ++ (part ++ after) ∧ before.length = range.first ∧
      part.length = range.last - range.first + 1 ∧
      readExact bytes range.first (range.last - range.first + 1) = .ok part := by
  have hfirst := h.first_le
  have hlast := h.last_lt
  have hlength : ((bytes.drop range.first).take (range.last - range.first + 1)).length =
      range.last - range.first + 1 := by
    rw [List.length_take, List.length_drop]
    omega
  refine ⟨bytes.take range.first, (bytes.drop range.first).take (range.last - range.first + 1),
    (bytes.drop range.first).drop (range.last - range.first + 1), ?_, ?_, hlength, ?_⟩
  · rw [List.take_append_drop, List.take_append_drop]
  · rw [List.length_take]
    omega
  · unfold readExact
    dsimp only
    rw [hlength, if_neg (Nat.lt_irrefl _)]

/-! ### Arithmetic within 64 bits -/

/-- A difference, if it is not below zero. -/
def difference? (a b : Nat) : Option Nat := if b ≤ a then some (a - b) else none

/-- A sum, if 64 bits hold it. -/
def sum? (a b : Nat) : Option Nat := if a + b ≤ maxOffset then some (a + b) else none

/-- `ofBounds?` with the offset of the last byte given. The one difference in it stops at zero
by intention: who asks for more bytes than there are gets all of them. -/
def ofLastOffset? (size lastOffset : Nat) : (first last : List Char) → Option ByteRange
  | [], [] => none
  | [], last => do
    let count ← readNumber? last
    if count = 0 then none else some ⟨size - min count size, lastOffset⟩
  | first, [] => do some ⟨← readNumber? first, lastOffset⟩
  | first, last => do some ⟨← readNumber? first, min (← readNumber? last) lastOffset⟩

/-- `read?` with its arithmetic checked: there is no result if an operation has none. -/
def checkedRead? (header : String) (size : Nat) : Option (Option ByteRange) :=
  let start := "bytes=".toList
  if !start.isPrefixOf header.toList then some none
  else
    let value := header.toList.drop start.length
    match value.dropWhile (· ≠ '-') with
    | [] => some none
    | _ :: last =>
      if size = 0 then some none
      else do
        let lastOffset ← difference? size 1
        match ofLastOffset? size lastOffset (Text.trim (value.takeWhile (· ≠ '-')))
            (Text.trim last) with
        | none => return none
        | some range =>
          return if range.last < range.first ∨ size ≤ range.first then none else some range

/-- The number of bytes of a range, with the arithmetic checked. -/
def checkedLength? (range : ByteRange) : Option Nat := do
  sum? (← difference? range.last range.first) 1

theorem ofLastOffset?_eq (size : Nat) (first last : List Char) :
    ofLastOffset? size (size - 1) first last = ofBounds? size first last := by
  have hstop : ∀ count, size - min count size = size - count := by
    intro count
    omega
  unfold ofLastOffset? ofBounds?
  split <;> simp only [hstop]

/-- **Reading a range never leaves the 64 bits.** -/
theorem checkedRead?_eq (header : String) (size : Nat) :
    checkedRead? header size = some (read? header size) := by
  unfold checkedRead? read?
  dsimp only
  split
  · rfl
  · cases (header.toList.drop "bytes=".toList.length).dropWhile (· ≠ '-') with
    | nil => rfl
    | cons dash last =>
      dsimp only
      split
      · rfl
      · next hsize =>
        -- the file has a byte, so the offset of the last one exists
        have hlast : difference? size 1 = some (size - 1) := if_pos (by omega)
        rw [hlast, ← ofLastOffset?_eq]
        simp only [Option.bind_eq_bind, Option.bind_some]
        cases ofLastOffset? size (size - 1) _ _ <;> rfl

/-- **Nor does the length of a range**, which is that of a part of the file. -/
theorem checkedLength?_eq {range : ByteRange} {size : Nat} (h : range.Within size)
    (hsize : size ≤ maxOffset) :
    checkedLength? range = some (range.last - range.first + 1) ∧
      range.last - range.first + 1 ≤ size := by
  have hfirst := h.first_le
  have hlast := h.last_lt
  have hdifference : difference? range.last range.first = some (range.last - range.first) :=
    if_pos hfirst
  have hsum : sum? (range.last - range.first) 1 = some (range.last - range.first + 1) :=
    if_pos (by omega)
  refine ⟨?_, by omega⟩
  rw [checkedLength?, hdifference]
  exact hsum

end ByteRange

end Waymark.Http
