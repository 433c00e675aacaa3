import Waymark.Proofs.Server.Location
import Waymark.Proofs.Table

/-!
# Waymark.Proofs.Server.Tabulation

Putting the locations of some statements into a table, one after the other.

* `Tabulated` is what holds between the statements that have been put into a table, the
  table, and the list of their locations;
* `Offends` says without a table that a statement is refused, given those before it;
* `Tabulated.tabulate_cases` is the run: either it goes on to the last statement, or it
  stops at the first one that offends;
* `TableOf` is what a complete table has to do with its statements. In particular nothing
  is lost by the table's own order: the positions of the locations give theirs back.
-/

namespace Waymark.Config

/-! ### Sorting by position -/

/-- A list that ascends strictly is what sorting makes of it in whatever order it is
given. -/
theorem mergeSort_eq_of_perm {α : Type} {position : α → Nat} {listing sorted : List α}
    (hperm : listing.Perm sorted)
    (hsorted : sorted.Pairwise fun a b => position a < position b) :
    listing.mergeSort (fun a b => position a ≤ position b) = sorted := by
  have hpermSort := (List.mergeSort_perm listing fun a b => position a ≤ position b).trans hperm
  have hle : (listing.mergeSort fun a b => position a ≤ position b).Pairwise
      fun a b => decide (position a ≤ position b) = true := by
    refine List.pairwise_mergeSort ?_ ?_ listing
    · intro a b c hab hbc
      exact decide_eq_true (Nat.le_trans (of_decide_eq_true hab) (of_decide_eq_true hbc))
    · intro a b
      simpa using Nat.le_total (position a) (position b)
  -- no position occurs twice in `sorted`, so none does in a permutation of it
  have hne : (listing.mergeSort fun a b => position a ≤ position b).Pairwise
      fun a b => position a ≠ position b :=
    (hsorted.imp fun h => Nat.ne_of_lt h).perm hpermSort.symm fun h => Ne.symm h
  have hlt : (listing.mergeSort fun a b => position a ≤ position b).Pairwise
      fun a b => position a < position b := by
    refine (hle.and hne).imp ?_
    rintro a b ⟨hab, hdiffer⟩
    exact Nat.lt_of_le_of_ne (of_decide_eq_true hab) hdiffer
  refine List.Perm.eq_of_pairwise ?_ hlt hsorted hpermSort
  intro a b _ _ hab hba
  exact absurd hab (Nat.lt_asymm hba)

/-! ### The table of some statements -/

variable {H : Type} {registry : Registry H}

/-- Some statements have been put into a table: each resolves, and no two of them have one
path. -/
inductive Tabulated (registry : Registry H) :
    List Statement → Table Location → List Location → Prop where
  /-- No statements. -/
  | nil : Tabulated registry [] {} []
  /-- One statement more, with a path that is not in the table. -/
  | snoc {done table locations s location} : Tabulated registry done table locations →
      resolveLocation registry done.length s = .ok location →
      table.get? location.path = none →
      Tabulated registry (done ++ [s]) (table.insert location.path location)
        (locations ++ [location])

namespace Tabulated

variable {done : List Statement} {table : Table Location} {locations : List Location}

theorem length_eq (h : Tabulated registry done table locations) :
    locations.length = done.length := by
  induction h with
  | nil => rfl
  | snoc _ _ _ ih => simp [ih]

/-- The values of the table are the locations. -/
theorem values_perm (h : Tabulated registry done table locations) :
    table.values.Perm locations := by
  induction h with
  | nil => exact .nil
  | @snoc done table locations s location _ _ hnew ih =>
    have hinsert := Table.values_insert_perm location hnew
    have hlast := (List.perm_append_singleton location locations).symm
    exact hinsert.trans ((ih.cons location).trans hlast)

/-- Each location is bound to its own path, and nothing else is bound. -/
theorem get?_eq_some_iff (h : Tabulated registry done table locations) {key : String}
    {location : Location} :
    table.get? key = some location ↔ location ∈ locations ∧ location.path = key := by
  induction h with
  | nil => simp
  | @snoc done table locations s new _ _ hnew ih =>
    rw [Table.get?_insert]
    by_cases hkey : key = new.path
    · subst hkey
      rw [if_pos rfl]
      constructor
      · intro heq
        obtain rfl := Option.some.inj heq
        exact ⟨by simp, rfl⟩
      · rintro ⟨hmem, hpath⟩
        rcases List.mem_append.mp hmem with hmem | hmem
        · -- an earlier location of that path would have refused the new one
          rw [ih.mpr ⟨hmem, hpath⟩] at hnew
          cases hnew
        · obtain rfl := List.mem_singleton.mp hmem
          rfl
    · rw [if_neg hkey, ih]
      constructor
      · rintro ⟨hmem, hpath⟩
        exact ⟨List.mem_append_left _ hmem, hpath⟩
      · rintro ⟨hmem, hpath⟩
        rcases List.mem_append.mp hmem with hmem | hmem
        · exact ⟨hmem, hpath⟩
        · obtain rfl := List.mem_singleton.mp hmem
          exact absurd hpath.symm hkey

/-- No two locations have one path. -/
theorem eq_of_path_eq (h : Tabulated registry done table locations) {l m : Location}
    (hl : l ∈ locations) (hm : m ∈ locations) (hpath : l.path = m.path) : l = m := by
  have hfirst := h.get?_eq_some_iff.mpr ⟨hl, hpath⟩
  have hsecond := h.get?_eq_some_iff.mpr ⟨hm, rfl⟩
  exact Option.some.inj (hfirst.symm.trans hsecond)

/-- The locations are numbered in the order of their statements. -/
theorem map_order (h : Tabulated registry done table locations) :
    locations.map (·.order) = List.range locations.length := by
  induction h with
  | nil => rfl
  | @snoc done table locations s location hdone hresolve _ ih =>
    obtain ⟨-, horder⟩ := resolveLocation_eq_ok_iff.mp hresolve
    rw [List.map_append, ih, List.length_append, List.length_singleton, List.range_succ,
      List.map_singleton, horder, hdone.length_eq]

/-- However the table lists its values, sorting them by number gives the locations back. -/
theorem inOrder_eq (h : Tabulated registry done table locations) {listing : List Location}
    (hlisting : listing.Perm table.values) : inOrder listing = locations := by
  refine mergeSort_eq_of_perm (hlisting.trans h.values_perm) ?_
  have hrange := List.pairwise_lt_range (n := locations.length)
  rw [← h.map_order] at hrange
  exact List.pairwise_map.mp hrange

/-- The location of each statement. -/
theorem resolves (h : Tabulated registry done table locations) {i : Nat} {s : Statement}
    (hs : done[i]? = some s) :
    ∃ location, resolveLocation registry i s = .ok location ∧ locations[i]? = some location := by
  induction h with
  | nil => simp at hs
  | @snoc done table locations last new hdone hresolve _ ih =>
    have hlength := hdone.length_eq
    rcases Nat.lt_trichotomy i done.length with hlt | rfl | hgt
    · rw [List.getElem?_append_left hlt] at hs
      rw [List.getElem?_append_left (by omega)]
      exact ih hs
    · obtain rfl : last = s := by simpa using hs
      exact ⟨new, hresolve, by simp [← hlength]⟩
    · have hout : (done ++ [last])[i]? = none :=
        List.getElem?_eq_none (by simp; omega)
      rw [hout] at hs
      cases hs

theorem resolves_alone (h : Tabulated registry done table locations) :
    ∀ s ∈ done, ∃ location, resolveLocation registry 0 s = .ok location := by
  intro s hs
  obtain ⟨i, hi⟩ := List.mem_iff_getElem?.mp hs
  obtain ⟨location, hresolve, -⟩ := h.resolves hi
  obtain ⟨alone, halone, -⟩ := exists_of_resolveLocation_eq_ok hresolve
  exact ⟨alone, halone⟩

/-- A statement of the table declares the path of a location of the table. -/
theorem exists_declares (h : Tabulated registry done table locations) {location : Location}
    (hlocation : location ∈ locations) : ∃ s ∈ done, Declares s location.path := by
  induction h with
  | nil => cases hlocation
  | @snoc done table locations last new _ hresolve _ ih =>
    rcases List.mem_append.mp hlocation with hmem | hmem
    · obtain ⟨s, hs, hdeclares⟩ := ih hmem
      exact ⟨s, List.mem_append_left _ hs, hdeclares⟩
    · obtain rfl := List.mem_singleton.mp hmem
      obtain ⟨hgives, -⟩ := resolveLocation_eq_ok_iff.mp hresolve
      exact ⟨last, by simp, hgives.declares_iff.mpr rfl⟩

/-- Conversely a path that a statement of the table declares is in the table. -/
theorem get?_of_declares (h : Tabulated registry done table locations) {s : Statement}
    (hs : s ∈ done) {path : String} (hdeclares : Declares s path) :
    ∃ location, table.get? path = some location := by
  obtain ⟨i, hi⟩ := List.mem_iff_getElem?.mp hs
  obtain ⟨location, hresolve, hlocation⟩ := h.resolves hi
  obtain ⟨hgives, -⟩ := resolveLocation_eq_ok_iff.mp hresolve
  have hpath := hgives.declares_iff.mp hdeclares
  exact ⟨location, h.get?_eq_some_iff.mpr ⟨List.mem_of_getElem? hlocation, hpath.symm⟩⟩

/-- No path is declared twice. -/
theorem pairwise_declares (h : Tabulated registry done table locations) :
    done.Pairwise fun s t => ∀ path, Declares s path → ¬ Declares t path := by
  induction h with
  | nil => exact .nil
  | @snoc done table locations last new hdone hresolve hnew ih =>
    refine List.pairwise_append.mpr ⟨ih, List.pairwise_singleton _ _, ?_⟩
    intro s hs t ht path hfirst hsecond
    obtain rfl := List.mem_singleton.mp ht
    obtain ⟨hgives, -⟩ := resolveLocation_eq_ok_iff.mp hresolve
    obtain ⟨location, hbound⟩ := hdone.get?_of_declares hs hfirst
    rw [hgives.declares_iff.mp hsecond, hnew] at hbound
    cases hbound

end Tabulated

/-! ### Offenders -/

/-- The statement at a position of a list is refused: it does not resolve, or an earlier
one has its path. -/
def Offends (registry : Registry H) (statements : List Statement) (i : Nat)
    (error : ResolveError) : Prop :=
  ∃ s, statements[i]? = some s ∧
    (resolveLocation registry 0 s = .error error ∨
      ∃ location, resolveLocation registry 0 s = .ok location ∧
        (∃ earlier ∈ statements.take i, Declares earlier location.path) ∧
        error = .duplicateLocation location.path s.span)

/-- The statement at a position is the first of a list that is refused. -/
structure FirstOffends (registry : Registry H) (statements : List Statement) (i : Nat)
    (error : ResolveError) : Prop where
  /-- It is refused. -/
  offends : Offends registry statements i error
  /-- Those before it are not. -/
  before : ∀ j < i, ∀ other, ¬ Offends registry statements j other

theorem Offends.unique {statements : List Statement} {i : Nat} {error other : ResolveError}
    (h : Offends registry statements i error) (hother : Offends registry statements i other) :
    error = other := by
  obtain ⟨s, hs, h⟩ := h
  obtain ⟨s', hs', hother⟩ := hother
  obtain rfl : s = s' := Option.some.inj (hs.symm.trans hs')
  rcases h with h | ⟨location, h, -, rfl⟩
  · rcases hother with hother | ⟨location, hother, -, rfl⟩
    · exact Except.error.inj (h.symm.trans hother)
    · rw [h] at hother
      cases hother
  · rcases hother with hother | ⟨location', hother, -, rfl⟩
    · rw [h] at hother
      cases hother
    · obtain rfl := Except.ok.inj (h.symm.trans hother)
      rfl

/-- There is at most one first offender. -/
theorem FirstOffends.unique {statements : List Statement} {i j : Nat}
    {error other : ResolveError} (h : FirstOffends registry statements i error)
    (hother : FirstOffends registry statements j other) : error = other := by
  rcases Nat.lt_trichotomy i j with hlt | rfl | hgt
  · exact absurd h.offends (hother.before i hlt error)
  · exact h.offends.unique hother.offends
  · exact absurd hother.offends (h.before j hgt other)

/-- Whether a statement offends is up to it and those before it. -/
theorem offends_append_iff {done : List Statement} (rest : List Statement) {i : Nat}
    (hi : i < done.length) {error : ResolveError} :
    Offends registry (done ++ rest) i error ↔ Offends registry done i error := by
  unfold Offends
  rw [List.getElem?_append_left hi, List.take_append_of_le_length (Nat.le_of_lt hi)]

/-- Where each statement resolves and no path is declared twice, nothing offends. -/
theorem not_offends {statements : List Statement}
    (hresolve : ∀ s ∈ statements, ∃ location, resolveLocation registry 0 s = .ok location)
    (hpairs : statements.Pairwise fun s t => ∀ path, Declares s path → ¬ Declares t path)
    (i : Nat) (error : ResolveError) : ¬ Offends registry statements i error := by
  rintro ⟨s, hs, hrefused⟩
  obtain ⟨location, hlocation⟩ := hresolve s (List.mem_of_getElem? hs)
  rcases hrefused with herror | ⟨found, hfound, ⟨earlier, hearlier, hdeclares⟩, -⟩
  · rw [hlocation] at herror
    cases herror
  · obtain ⟨hgives, -⟩ := resolveLocation_eq_ok_iff.mp hfound
    -- the two statements stand on either side of the position
    have hlater : s ∈ statements.drop i := by
      refine List.mem_of_getElem? (i := 0) ?_
      rw [List.getElem?_drop]
      exact hs
    rw [← List.take_append_drop i statements] at hpairs
    obtain ⟨-, -, hacross⟩ := List.pairwise_append.mp hpairs
    exact hacross earlier hearlier s hlater _ hdeclares (hgives.declares_iff.mpr rfl)

/-- **The run over some statements**, by induction over those that are left: all of them are
put into the table, or the error is that of the first one that offends. -/
theorem Tabulated.tabulate_cases {done : List Statement} {table : Table Location}
    {locations : List Location} (h : Tabulated registry done table locations)
    (rest : List Statement) :
    (∃ table' locations', tabulate registry done.length table rest = .ok table' ∧
      Tabulated registry (done ++ rest) table' locations') ∨
    ∃ i error, tabulate registry done.length table rest = .error error ∧
      FirstOffends registry (done ++ rest) i error := by
  induction rest generalizing done table locations with
  | nil =>
    left
    refine ⟨table, locations, rfl, ?_⟩
    rw [List.append_nil]
    exact h
  | cons s rest ih =>
    have hs : (done ++ s :: rest)[done.length]? = some s := by simp
    have hbefore : ∀ j < done.length, ∀ other,
        ¬ Offends registry (done ++ s :: rest) j other := by
      intro j hj other
      rw [offends_append_iff _ hj]
      exact not_offends h.resolves_alone h.pairwise_declares j other
    cases hresolve : resolveLocation registry done.length s with
    | error error =>
      right
      -- the next statement does not resolve
      refine ⟨done.length, error, ?_, ⟨s, hs, Or.inl ?_⟩, hbefore⟩
      · rw [tabulate, hresolve]
        rfl
      · exact resolveLocation_zero_eq_error hresolve
    | ok location =>
      obtain ⟨alone, halone, rfl⟩ := exists_of_resolveLocation_eq_ok hresolve
      cases hbound : table.get? alone.path with
      | some earlier =>
        -- it resolves, and an earlier one has its path
        have hcontains : table.contains alone.path = true :=
          Table.contains_eq_true_iff.mpr ⟨earlier, hbound⟩
        obtain ⟨hmem, hpath⟩ := h.get?_eq_some_iff.mp hbound
        obtain ⟨t, ht, hdeclares⟩ := h.exists_declares hmem
        rw [hpath] at hdeclares
        right
        refine ⟨done.length, .duplicateLocation alone.path s.span, ?_,
          ⟨s, hs, Or.inr ⟨alone, halone, ⟨t, ?_, hdeclares⟩, rfl⟩⟩, hbefore⟩
        · simp [tabulate, hresolve, hcontains]
        · rw [List.take_left]
          exact ht
      | none =>
        -- it is put into the table, and the run goes on
        have hcontains : table.contains alone.path = false :=
          Table.contains_eq_false_iff.mpr hbound
        have hstep := ih (h.snoc hresolve hbound)
        rw [List.append_assoc, List.length_append] at hstep
        have hrun : tabulate registry done.length table (s :: rest) =
            tabulate registry (done.length + 1) (table.insert alone.path
              { alone with order := done.length }) rest := by
          simp [tabulate, hresolve, hcontains]
        rw [hrun]
        exact hstep

/-! ### Complete tables -/

/-- A table holds the locations of some statements: one for each, under its own path and
with the number of its statement. -/
structure TableOf (registry : Registry H) (statements : List Statement) (table : Table Location)
    (locations : List Location) : Prop where
  /-- There are as many entries as statements. -/
  size : table.size = statements.length
  /-- An entry's key is its path. -/
  keyed : ∀ key location, table.get? key = some location → location.path = key
  /-- There are as many locations as statements. -/
  length : locations.length = statements.length
  /-- Each statement resolves on its own, and its location bears its number. -/
  resolved : ∀ i s, statements[i]? = some s →
    ∃ alone, resolveLocation registry 0 s = .ok alone ∧
      locations[i]? = some { alone with order := i }
  /-- In whatever order the entries are listed, their numbers give the locations back. -/
  listed : ∀ listing, listing.Perm table.values → inOrder listing = locations

theorem Tabulated.tableOf {statements : List Statement} {table : Table Location}
    {locations : List Location} (h : Tabulated registry statements table locations) :
    TableOf registry statements table locations where
  size := by rw [← Table.length_values, h.values_perm.length_eq, h.length_eq]
  keyed := fun _ _ hbound => (h.get?_eq_some_iff.mp hbound).2
  length := h.length_eq
  resolved := by
    intro i s hs
    obtain ⟨location, hresolve, hlocation⟩ := h.resolves hs
    obtain ⟨alone, halone, rfl⟩ := exists_of_resolveLocation_eq_ok hresolve
    exact ⟨alone, halone, hlocation⟩
  listed := fun _ hlisting => h.inOrder_eq hlisting

end Waymark.Config
