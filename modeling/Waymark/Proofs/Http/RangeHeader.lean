import Waymark.Http.Range
import Waymark.Proofs.Server.Port

/-!
# Waymark.Proofs.Http.RangeHeader

Which headers ask for a part of a file, and for which one.

The reader takes a header apart from left to right: what stands before the first dash, what
stands after it, and of both what is left without the blanks around it. `Requests` says the same
with a text that is put together, for any notion of a number. The notion of the reader,
`IsOffset`, is not that of decimal numerals: a plus sign may stand before the digits, and the
value has to fit into 64 bits (`readNumber?_eq_some_iff`).
-/

namespace Waymark

/-! ### Blanks around a text -/

namespace Text

/-- A text is what is left of it, with blanks before and after. -/
theorem exists_trim (cs : List Char) :
    ∃ before after, (∀ c ∈ before, isSpace c = true) ∧ (∀ c ∈ after, isSpace c = true) ∧
      cs = before ++ (trim cs ++ after) := by
  refine ⟨cs.takeWhile isSpace, ((cs.dropWhile isSpace).reverse.takeWhile isSpace).reverse, ?_, ?_,
    ?_⟩
  · intro c hc
    exact List.mem_takeWhile_imp hc
  · intro c hc
    exact List.mem_takeWhile_imp (List.mem_reverse.mp hc)
  · rw [trim, ← List.reverse_append, List.takeWhile_append_dropWhile, List.reverse_reverse,
      List.takeWhile_append_dropWhile]

/-- Blanks around a text without blanks are what is taken away. -/
theorem trim_of_blanks {before core after : List Char} (hbefore : ∀ c ∈ before, isSpace c = true)
    (hcore : ∀ c ∈ core, isSpace c = false) (hafter : ∀ c ∈ after, isSpace c = true) :
    trim (before ++ (core ++ after)) = core := by
  have hstop : ∀ {rest : List Char}, (∀ c ∈ rest, isSpace c = false) →
      rest.dropWhile isSpace = rest := by
    intro rest hrest
    cases rest with
    | nil => rfl
    | cons c rest => rw [List.dropWhile_cons, hrest c (by simp)]; rfl
  have hblank : after.dropWhile isSpace = [] := List.dropWhile_eq_nil_iff.mpr hafter
  have hfront : (before ++ (core ++ after)).dropWhile isSpace = if core = [] then [] else
      core ++ after := by
    rw [List.dropWhile_append_of_pos hbefore]
    cases core with
    | nil => exact hblank
    | cons c core => rw [List.cons_append, List.dropWhile_cons, hcore c (by simp)]; rfl
  rw [trim, hfront]
  split
  · next hnil => rw [hnil]; rfl
  · have hback : ∀ c ∈ after.reverse, isSpace c = true :=
      fun c hc => hafter c (List.mem_reverse.mp hc)
    have hmiddle : ∀ c ∈ core.reverse, isSpace c = false :=
      fun c hc => hcore c (List.mem_reverse.mp hc)
    rw [List.reverse_append, List.dropWhile_append_of_pos hback, hstop hmiddle,
      List.reverse_reverse]

end Text

namespace Http

open Text (isSpace trim)

/-! ### Numbers -/

/-- A decimal numeral: digits, at least one, each of which counts ten times as much as the one
after it. -/
structure IsNumeral (cs : List Char) (n : Nat) : Prop where
  /-- It is not empty. -/
  ne_nil : cs ≠ []
  /-- It consists of digits. -/
  digits : ∀ c ∈ cs, '0' ≤ c ∧ c ≤ '9'
  /-- Its value. -/
  value : Nat.ofDigits 10 (cs.reverse.map Config.digitValue) = n

/-- What the reader takes for a number: a numeral of at most 64 bits, with a plus sign before it
or without. -/
structure IsOffset (cs : List Char) (n : Nat) : Prop where
  /-- A numeral, perhaps after a plus sign. -/
  reads : IsNumeral cs n ∨ ∃ digits, cs = '+' :: digits ∧ IsNumeral digits n
  /-- It is in range. -/
  le : n ≤ maxOffset

theorem isSpace_of_digit {c : Char} (h : '0' ≤ c ∧ c ≤ '9') : isSpace c = false := by
  have hlow : 48 ≤ c.toNat := UInt32.le_iff_toNat_le.mp (Char.le_def.mp h.1)
  have hhigh : c.toNat ≤ 57 := UInt32.le_iff_toNat_le.mp (Char.le_def.mp h.2)
  have hne : ∀ d : Char, d.toNat < 48 ∨ 57 < d.toNat → c ≠ d := by
    intro d hd heq
    subst heq
    omega
  simp [isSpace, hne, Char.le_def, UInt32.le_iff_toNat_le]
  omega

theorem IsNumeral.no_space {cs : List Char} {n : Nat} (h : IsNumeral cs n) :
    ∀ c ∈ cs, isSpace c = false :=
  fun c hc => isSpace_of_digit (h.digits c hc)

theorem IsOffset.no_space {cs : List Char} {n : Nat} (h : IsOffset cs n) :
    ∀ c ∈ cs, isSpace c = false := by
  rcases h.reads with hdigits | ⟨digits, rfl, hdigits⟩
  · exact hdigits.no_space
  · exact List.forall_mem_cons.mpr ⟨by decide, hdigits.no_space⟩

/-- The value of some digits is read as a numeral. -/
theorem isNumeral_iff {cs : List Char} {n : Nat} :
    IsNumeral cs n ↔ cs ≠ [] ∧ cs.all Char.isDigit = true ∧ Config.decimalValue cs = n := by
  rw [List.all_eq_true, Config.decimalValue_eq]
  simp only [Config.isDigit_eq_true_iff]
  exact ⟨fun h => ⟨h.ne_nil, h.digits, h.value⟩, fun h => ⟨h.1, h.2.1, h.2.2⟩⟩

theorem readNumber?_eq_some_iff {cs : List Char} {n : Nat} :
    readNumber? cs = some n ↔ IsOffset cs n := by
  have hread : readNumber? cs = some n ↔
      IsNumeral (if cs.head? = some '+' then cs.tail else cs) n ∧ n ≤ maxOffset := by
    unfold readNumber?
    rw [Option.ite_none_right_eq_some, Option.some.injEq, isNumeral_iff]
    constructor
    · intro ⟨⟨hne, hall, hle⟩, hvalue⟩
      subst hvalue
      exact ⟨⟨hne, hall, rfl⟩, hle⟩
    · intro ⟨⟨hne, hall, hvalue⟩, hle⟩
      subst hvalue
      exact ⟨⟨hne, hall, hle⟩, rfl⟩
  rw [hread]
  constructor
  · intro ⟨hdigits, hle⟩
    split at hdigits
    · next hplus =>
      cases cs with
      | nil => cases hplus
      | cons c cs =>
        obtain rfl := Option.some.inj hplus
        exact ⟨Or.inr ⟨cs, rfl, hdigits⟩, hle⟩
    · exact ⟨Or.inl hdigits, hle⟩
  · intro ⟨hreads, hle⟩
    refine ⟨?_, hle⟩
    rcases hreads with hdigits | ⟨digits, rfl, hdigits⟩
    · -- a plus sign is no digit
      rw [if_neg ?_]
      · exact hdigits
      · intro hplus
        have hdigit := hdigits.digits '+' (List.mem_of_mem_head? hplus)
        exact absurd hdigit (by decide)
    · exact hdigits

/-! ### Requests -/

/-- One side of the dash: blanks only, or a number with blanks around. -/
inductive Side (number : List Char → Nat → Prop) : List Char → Option Nat → Prop where
  /-- Blanks only. -/
  | blank {cs} : (∀ c ∈ cs, isSpace c = true) → Side number cs none
  /-- A number. -/
  | number {before digits after n} : (∀ c ∈ before, isSpace c = true) → number digits n →
      (∀ c ∈ after, isSpace c = true) → Side number (before ++ (digits ++ after)) (some n)

/-- What two numbers ask for in a file of `size` bytes, when one of them may be missing: what is
in the file of the bytes from the first one to the second one, from the first one on, or of so
many at the end. -/
inductive Selects (size : Nat) : (lower upper : Option Nat) → ByteRange → Prop where
  /-- From the first to the second. -/
  | bounded {x y} : x ≤ y → x < size → Selects size (some x) (some y) ⟨x, min y (size - 1)⟩
  /-- From the first on. -/
  | onward {x} : x < size → Selects size (some x) none ⟨x, size - 1⟩
  /-- So many at the end. -/
  | ending {k} : 1 ≤ k → 1 ≤ size → Selects size none (some k) ⟨size - min k size, size - 1⟩

/-- A header asks for a part of a file of `size` bytes, for some notion of a number: after
`bytes=` stand two sides of a dash, which is the first one, and select the part. -/
def Requests (number : List Char → Nat → Prop) (header : String) (size : Nat)
    (range : ByteRange) : Prop :=
  ∃ first last lower upper, header.toList = "bytes=".toList ++ (first ++ '-' :: last) ∧
    '-' ∉ first ∧ Side number first lower ∧ Side number last upper ∧
    Selects size lower upper range

section Side

variable {number other : List Char → Nat → Prop} {cs : List Char} {n : Nat}

theorem side_none_iff : Side number cs none ↔ trim cs = [] := by
  constructor
  · intro h
    cases h with
    | blank hblank =>
      have hnone : ∀ c ∈ ([] : List Char), isSpace c = false := by simp
      have htrim : trim (cs ++ ([] ++ [])) = [] := Text.trim_of_blanks hblank hnone (by simp)
      rwa [List.append_nil, List.append_nil] at htrim
  · intro h
    obtain ⟨before, after, hbefore, hafter, hcs⟩ := Text.exists_trim cs
    rw [h, List.nil_append] at hcs
    subst hcs
    refine .blank fun c hc => ?_
    rcases List.mem_append.mp hc with hc | hc
    · exact hbefore c hc
    · exact hafter c hc

theorem side_some_iff (hnumber : ∀ {digits : List Char} {n : Nat}, number digits n →
    ∀ c ∈ digits, isSpace c = false) : Side number cs (some n) ↔ number (trim cs) n := by
  constructor
  · intro h
    cases h with
    | number hbefore hdigits hafter =>
      rw [Text.trim_of_blanks hbefore (hnumber hdigits) hafter]
      exact hdigits
  · intro h
    obtain ⟨before, after, hbefore, hafter, hcs⟩ := Text.exists_trim cs
    rw [hcs]
    exact .number hbefore h hafter

/-- Numbers of the one notion that are written with characters of the text may be of another. -/
theorem Side.imp {value : Option Nat} (h : Side number cs value)
    (himp : ∀ digits n, (∀ c ∈ digits, c ∈ cs) → number digits n → other digits n) :
    Side other cs value := by
  cases h with
  | blank hblank => exact .blank hblank
  | number hbefore hdigits hafter =>
    exact .number hbefore (himp _ _ (fun c hc => by simp [hc]) hdigits) hafter

theorem Requests.imp {header : String} {size : Nat} {range : ByteRange}
    (h : Requests number header size range)
    (himp : ∀ digits n, (∀ c ∈ digits, c ∈ header.toList) → number digits n → other digits n) :
    Requests other header size range := by
  obtain ⟨first, last, lower, upper, hheader, hdash, hfirst, hlast, hselects⟩ := h
  refine ⟨first, last, lower, upper, hheader, hdash, hfirst.imp ?_, hlast.imp ?_, hselects⟩
  · intro digits n hmem
    exact himp digits n fun c hc => by simp [hheader, hmem c hc]
  · intro digits n hmem
    exact himp digits n fun c hc => by simp [hheader, hmem c hc]

end Side

/-! ### The reader -/

namespace ByteRange

variable {header : String} {size : Nat} {first last : List Char} {range : ByteRange}

/-- The part that the two sides of the dash give, in a file of `size` bytes. -/
def ofSides? (size : Nat) (first last : List Char) : Option ByteRange :=
  if size = 0 then none
  else
    match ofBounds? size (trim first) (trim last) with
    | none => none
    | some range => if range.last < range.first ∨ size ≤ range.first then none else some range

/-- A header is read from the sides of its first dash. -/
theorem read?_of_sides (hheader : header.toList = "bytes=".toList ++ (first ++ '-' :: last))
    (hdash : '-' ∉ first) : read? header size = ofSides? size first last := by
  have hstarts : "bytes=".toList.isPrefixOf header.toList = true := by
    rw [List.isPrefixOf_iff_prefix, hheader]
    exact List.prefix_append _ _
  have hvalue : header.toList.drop "bytes=".toList.length = first ++ '-' :: last := by
    rw [hheader, List.drop_left]
  have hrun : ∀ c ∈ first, decide (c ≠ '-') = true := by
    intro c hc
    exact decide_eq_true fun heq => hdash (heq ▸ hc)
  have htake : (first ++ '-' :: last).takeWhile (· ≠ '-') = first := by
    rw [List.takeWhile_append_of_pos hrun, List.takeWhile_cons_of_neg (by decide), List.append_nil]
  have hdrop : (first ++ '-' :: last).dropWhile (· ≠ '-') = '-' :: last := by
    rw [List.dropWhile_append_of_pos hrun, List.dropWhile_cons_of_neg (by decide)]
  unfold read?
  dsimp only
  rw [hstarts, hvalue, htake, hdrop]
  rfl

/-- A header that gives a range has a dash. -/
theorem exists_sides (h : read? header size = some range) :
    ∃ first last, header.toList = "bytes=".toList ++ (first ++ '-' :: last) ∧ '-' ∉ first := by
  unfold read? at h
  dsimp only at h
  split at h
  · cases h
  · next hstarts =>
    obtain ⟨value, hvalue⟩ : "bytes=".toList <+: header.toList := by
      simpa [List.isPrefixOf_iff_prefix] using hstarts
    rw [← hvalue, List.drop_left] at h
    cases hrest : value.dropWhile (· ≠ '-') with
    | nil =>
      rw [hrest] at h
      cases h
    | cons c last =>
      -- what is dropped ends before a dash
      have hdash : c = '-' := by
        have hhead := Config.head?_dropWhile_eq_false c (List.head?_eq_some_iff.mpr ⟨last, hrest⟩)
        simpa using hhead
      subst hdash
      refine ⟨value.takeWhile (· ≠ '-'), last, ?_, ?_⟩
      · rw [← hrest, List.takeWhile_append_dropWhile, hvalue]
      · intro hmem
        have hne := List.mem_takeWhile_imp hmem
        simp at hne

theorem ofBounds?_bounded {x y : Nat} (hfirst : readNumber? first = some x)
    (hlast : readNumber? last = some y) :
    ofBounds? size first last = some ⟨x, min y (size - 1)⟩ := by
  cases first with
  | nil => cases hfirst
  | cons c cs =>
    cases last with
    | nil => cases hlast
    | cons d ds =>
      rw [ofBounds?, hfirst, hlast]
      · rfl
      · simp
      · simp
      · simp

theorem ofBounds?_onward {x : Nat} (hfirst : readNumber? first = some x) :
    ofBounds? size first [] = some ⟨x, size - 1⟩ := by
  cases first with
  | nil => cases hfirst
  | cons c cs =>
    rw [ofBounds?, hfirst]
    · rfl
    · simp

theorem ofBounds?_ending {k : Nat} (hlast : readNumber? last = some k) (hk : k ≠ 0) :
    ofBounds? size [] last = some ⟨size - k, size - 1⟩ := by
  cases last with
  | nil => cases hlast
  | cons d ds =>
    rw [ofBounds?, hlast]
    · exact if_neg hk
    · simp

/-- What bounds give when no range of a file is turned round or begins after its end. -/
theorem ofSides?_eq_some_iff : ofSides? size first last = some range ↔
    ofBounds? size (trim first) (trim last) = some range ∧ size ≠ 0 ∧
      range.first ≤ range.last ∧ range.first < size := by
  unfold ofSides?
  by_cases hsize : size = 0
  · simp [hsize]
  · rw [if_neg hsize]
    cases ofBounds? size (trim first) (trim last) with
    | none => simp
    | some found =>
      rw [Option.some.injEq]
      dsimp only
      split
      · constructor
        · intro h
          cases h
        · intro ⟨heq, _, hle, hlt⟩
          subst heq
          omega
      · constructor
        · intro h
          obtain rfl := Option.some.inj h
          exact ⟨rfl, hsize, by omega, by omega⟩
        · intro ⟨heq, _⟩
          rw [heq]

/-- **The sides of the dash give a range exactly when they select it.** -/
theorem ofSides?_iff_selects : ofSides? size first last = some range ↔
    ∃ lower upper, Side IsOffset first lower ∧ Side IsOffset last upper ∧
      Selects size lower upper range := by
  have hside : ∀ {cs : List Char} {n : Nat}, Side IsOffset cs (some n) ↔
      readNumber? (trim cs) = some n :=
    (side_some_iff IsOffset.no_space).trans readNumber?_eq_some_iff.symm
  rw [ofSides?_eq_some_iff]
  constructor
  · intro ⟨hbounds, hsize, hle, hlt⟩
    cases hfirst : trim first with
    | nil =>
      cases hlast : trim last with
      | nil =>
        rw [hfirst, hlast] at hbounds
        cases hbounds
      | cons c cs =>
        rw [hfirst, hlast] at hbounds
        obtain ⟨k, hk, hgives⟩ := Option.bind_eq_some_iff.mp hbounds
        split at hgives
        · cases hgives
        · obtain rfl := Option.some.inj hgives
          have hstop : size - k = size - min k size := by omega
          rw [hstop]
          exact ⟨none, some k, side_none_iff.mpr hfirst, hside.mpr (hlast ▸ hk),
            .ending (by omega) (by omega)⟩
    | cons c cs =>
      cases hlast : trim last with
      | nil =>
        rw [hfirst, hlast] at hbounds
        obtain ⟨x, hx, hgives⟩ := Option.bind_eq_some_iff.mp hbounds
        obtain rfl := Option.some.inj hgives
        exact ⟨some x, none, hside.mpr (hfirst ▸ hx), side_none_iff.mpr hlast, .onward hlt⟩
      | cons d ds =>
        rw [hfirst, hlast] at hbounds
        obtain ⟨x, hx, hmore⟩ := Option.bind_eq_some_iff.mp hbounds
        obtain ⟨y, hy, hgives⟩ := Option.bind_eq_some_iff.mp hmore
        obtain rfl := Option.some.inj hgives
        have hxy : x ≤ y := Nat.le_trans hle (Nat.min_le_left _ _)
        exact ⟨some x, some y, hside.mpr (hfirst ▸ hx), hside.mpr (hlast ▸ hy), .bounded hxy hlt⟩
  · intro ⟨lower, upper, hfirst, hlast, hselects⟩
    cases hselects with
    | @bounded x y hxy hlt =>
      rw [hside] at hfirst hlast
      refine ⟨ofBounds?_bounded hfirst hlast, by omega, ?_, hlt⟩
      show x ≤ min y (size - 1)
      omega
    | @onward x hlt =>
      rw [hside] at hfirst
      rw [side_none_iff] at hlast
      refine ⟨?_, by omega, ?_, hlt⟩
      · rw [hlast]
        exact ofBounds?_onward hfirst
      · show x ≤ size - 1
        omega
    | @ending k hk hsize =>
      rw [side_none_iff] at hfirst
      rw [hside] at hlast
      have hstop : size - min k size = size - k := by omega
      refine ⟨?_, by omega, ?_, ?_⟩
      · rw [hfirst, hstop]
        exact ofBounds?_ending hlast (by omega)
      · show size - min k size ≤ size - 1
        omega
      · show size - min k size < size
        omega

/-- A header gives a range exactly when it asks for it. -/
theorem read?_eq_some_iff {header : String} {size : Nat} {range : ByteRange} :
    read? header size = some range ↔ Requests IsOffset header size range := by
  constructor
  · intro h
    obtain ⟨first, last, hheader, hdash⟩ := exists_sides h
    rw [read?_of_sides hheader hdash] at h
    obtain ⟨lower, upper, hfirst, hlast, hselects⟩ := ofSides?_iff_selects.mp h
    exact ⟨first, last, lower, upper, hheader, hdash, hfirst, hlast, hselects⟩
  · intro ⟨first, last, lower, upper, hheader, hdash, hfirst, hlast, hselects⟩
    rw [read?_of_sides hheader hdash]
    exact ofSides?_iff_selects.mpr ⟨lower, upper, hfirst, hlast, hselects⟩

/-- **The headers that are honoured.** A header gives a range exactly when it asks for it in terms
of what the reader takes for numbers. Without a plus sign these are the decimal numerals of at
most 64 bits. -/
theorem read_iff_requests (header : String) (size : Nat) (range : ByteRange) :
    (read? header size = some range ↔ Requests IsOffset header size range) ∧
    ('+' ∉ header.toList → (read? header size = some range ↔
      Requests (fun digits n => IsNumeral digits n ∧ n ≤ maxOffset) header size range)) := by
  refine ⟨read?_eq_some_iff, fun hplus => read?_eq_some_iff.trans ⟨fun h => ?_, fun h => ?_⟩⟩
  · refine h.imp fun digits n hmem hoffset => ⟨?_, hoffset.le⟩
    rcases hoffset.reads with hdigits | ⟨digits, rfl, -⟩
    · exact hdigits
    · exact absurd (hmem '+' List.mem_cons_self) hplus
  · exact h.imp fun digits n _ hfits => ⟨Or.inl hfits.1, hfits.2⟩

/-- Blanks around the numbers, of which the second is beyond the end of the file. -/
theorem read_of_blanks :
    '+' ∉ "bytes= 2 -100 ".toList ∧
      Requests IsOffset "bytes= 2 -100 " 10 ⟨2, 9⟩ ∧
      Requests (fun digits n => IsNumeral digits n ∧ n ≤ maxOffset) "bytes= 2 -100 " 10 ⟨2, 9⟩ := by
  have hread : read? "bytes= 2 -100 " 10 = some ⟨2, 9⟩ := by decide
  have hplus : '+' ∉ "bytes= 2 -100 ".toList := by decide
  obtain ⟨hoffsets, hnumerals⟩ := read_iff_requests "bytes= 2 -100 " 10 ⟨2, 9⟩
  exact ⟨hplus, hoffsets.mp hread, (hnumerals hplus).mp hread⟩

/-- No plus sign stands in a header that asks for a range in decimal numerals. -/
theorem not_mem_of_requests {header : String} {size : Nat} {range : ByteRange}
    (h : Requests IsNumeral header size range) : '+' ∉ header.toList := by
  have hblank : ∀ {cs : List Char}, (∀ c ∈ cs, isSpace c = true) → '+' ∉ cs :=
    fun hcs hmem => absurd (hcs '+' hmem) (by decide)
  have hside : ∀ {cs : List Char} {value : Option Nat}, Side IsNumeral cs value → '+' ∉ cs := by
    intro cs value hcs
    cases hcs with
    | blank hcs => exact hblank hcs
    | number hbefore hdigits hafter =>
      have hcore : '+' ∉ _ := fun hmem => absurd (hdigits.digits '+' hmem) (by decide)
      simp [hblank hbefore, hblank hafter, hcore]
  obtain ⟨first, last, lower, upper, hheader, -, hfirst, hlast, -⟩ := h
  rw [hheader]
  simp [hside hfirst, hside hlast]

/-- Decimal numerals are not all that is honoured, nor are all of them: plus signs are passed
over, and a number of more than 64 bits makes the header count as none. -/
theorem read_ne_decimal :
    (read? "bytes=+0-+1" 5 = some ⟨0, 1⟩ ∧ ¬ Requests IsNumeral "bytes=+0-+1" 5 ⟨0, 1⟩) ∧
      read? "bytes=0-99999999999999999999" 5 = none ∧
      Requests IsNumeral "bytes=0-99999999999999999999" 5 ⟨0, 4⟩ := by
  have hnone : ∀ c ∈ ([] : List Char), isSpace c = true := by simp
  have hfirst : IsNumeral ['0'] 0 := isNumeral_iff.mpr (by decide)
  have hlast : IsNumeral "99999999999999999999".toList 99999999999999999999 :=
    isNumeral_iff.mpr (by decide)
  have hselects : Selects 5 (some 0) (some 99999999999999999999) ⟨0, 4⟩ :=
    .bounded (by decide) (by decide)
  refine ⟨⟨by decide, fun h => not_mem_of_requests h (by decide)⟩, by decide, ?_⟩
  exact ⟨[] ++ (['0'] ++ []), [] ++ ("99999999999999999999".toList ++ []), some 0, _, by decide,
    by decide, .number hnone hfirst hnone, .number hnone hlast hnone, hselects⟩

end ByteRange

end Http

end Waymark
