import Waymark.Table

/-!
# Waymark.Proofs.Table

Tables as maps: what is bound to a key after an insertion, and which values a table has.

A table is determined by what it binds to each key (`ext_get?`). So the table of a list of
bindings is known from what `ofList` binds: to each key the last value that the list has for it
(`get?_ofList_eq_some_iff`).
-/

namespace Waymark.Table

variable {α : Type}

/-! ### Looking up -/

theorem lookup_cons_entry (name other : String) (bound : α) (rest : List (String × α)) :
    ((name, bound) :: rest).lookup other =
      if other = name then some bound else rest.lookup other := by
  rw [List.lookup_cons]
  by_cases h : other = name
  · rw [if_pos h, beq_iff_eq.mpr h]
  · rw [if_neg h, beq_false_of_ne h]

theorem lookup_insertEntry (key other : String) (value : α) (entries : List (String × α)) :
    (insertEntry key value entries).lookup other =
      if other = key then some value else entries.lookup other := by
  induction entries with
  | nil => rw [insertEntry, lookup_cons_entry]
  | cons entry rest ih =>
    obtain ⟨name, bound⟩ := entry
    rw [insertEntry, lookup_cons_entry]
    by_cases heq : key = name
    · rw [if_pos heq, lookup_cons_entry, heq]
      by_cases h : other = name
      · rw [if_pos h, if_pos h]
      · rw [if_neg h, if_neg h, if_neg h]
    · rw [if_neg heq]
      by_cases hlt : key < name
      · rw [if_pos hlt, lookup_cons_entry, lookup_cons_entry]
      · rw [if_neg hlt, lookup_cons_entry, ih]
        by_cases h : other = key
        · have hname : other ≠ name := h ▸ heq
          rw [if_neg hname, if_pos h, if_pos h]
        · rw [if_neg h, if_neg h]

/-- An insertion changes the binding of its own key only. -/
theorem get?_insert (table : Table α) (key other : String) (value : α) :
    (table.insert key value).get? other =
      if other = key then some value else table.get? other :=
  lookup_insertEntry key other value table.entries

@[simp] theorem get?_empty (key : String) : ({} : Table α).get? key = none := rfl

theorem contains_eq_true_iff {table : Table α} {key : String} :
    table.contains key = true ↔ ∃ value, table.get? key = some value := by
  rw [contains, Option.isSome_iff_exists]

theorem contains_eq_false_iff {table : Table α} {key : String} :
    table.contains key = false ↔ table.get? key = none := by
  rw [contains, Option.isSome_eq_false_iff, Option.isNone_iff_eq_none]

/-! ### Listing -/

theorem insertEntry_perm {key : String} (value : α) {entries : List (String × α)}
    (h : entries.lookup key = none) :
    (insertEntry key value entries).Perm ((key, value) :: entries) := by
  induction entries with
  | nil => exact .refl _
  | cons entry rest ih =>
    obtain ⟨name, bound⟩ := entry
    rw [lookup_cons_entry] at h
    have hne : key ≠ name := by
      intro heq
      simp [heq] at h
    rw [if_neg hne] at h
    rw [insertEntry, if_neg hne]
    split
    · exact .refl _
    · exact ((ih h).cons (name, bound)).trans (.swap (key, value) (name, bound) rest)

/-- A new key adds its value to those of the table. -/
theorem values_insert_perm {table : Table α} {key : String} (value : α)
    (h : table.get? key = none) :
    (table.insert key value).values.Perm (value :: table.values) :=
  (insertEntry_perm value h).map Prod.snd

theorem length_values (table : Table α) : table.values.length = table.size :=
  List.length_map ..

theorem length_keys (table : Table α) : table.keys.length = table.size :=
  List.length_map ..

theorem pairwise_keys (table : Table α) : table.keys.Pairwise (· < ·) :=
  List.pairwise_map.mpr table.ascending

/-- Texts that ascend are distinct. -/
theorem nodup_of_pairwise_lt {texts : List String} (h : texts.Pairwise (· < ·)) :
    texts.Nodup := by
  refine h.imp fun hlt heq => ?_
  rw [heq] at hlt
  exact String.lt_irrefl _ hlt

theorem nodup_keys (table : Table α) : table.keys.Nodup :=
  nodup_of_pairwise_lt table.pairwise_keys

theorem mem_keys_iff {table : Table α} {key : String} :
    key ∈ table.keys ↔ table.contains key = true := by
  rw [← Bool.not_eq_false, contains_eq_false_iff, get?, List.lookup_eq_none_iff, keys]
  simp

/-! ### Equal tables -/

/-- Where no key occurs twice, a value is looked up wherever it occurs. -/
theorem lookup_eq_some_iff_mem {entries : List (String × α)} (h : (entries.map Prod.fst).Nodup)
    {key : String} {value : α} : entries.lookup key = some value ↔ (key, value) ∈ entries := by
  induction entries with
  | nil => simp
  | cons entry rest ih =>
    obtain ⟨name, bound⟩ := entry
    rw [List.map_cons, List.nodup_cons] at h
    rw [lookup_cons_entry, List.mem_cons, Prod.mk.injEq]
    by_cases heq : key = name
    · subst heq
      have hrest : (key, value) ∉ rest := fun hmem => h.1 (List.mem_map.mpr ⟨_, hmem, rfl⟩)
      simp [hrest, eq_comm]
    · simp [heq, ih h.2]

theorem get?_eq_some_iff_mem {table : Table α} {key : String} {value : α} :
    table.get? key = some value ↔ (key, value) ∈ table.entries :=
  lookup_eq_some_iff_mem table.nodup_keys

theorem nodup_entries (table : Table α) : table.entries.Nodup :=
  (List.pairwise_map.mp table.nodup_keys).imp fun hne heq => hne (congrArg Prod.fst heq)

/-- **Tables that bind the same are the same.** -/
theorem ext_get? {table other : Table α} (h : ∀ key, table.get? key = other.get? key) :
    table = other := by
  have hperm : table.entries.Perm other.entries := by
    refine (List.perm_ext_iff_of_nodup table.nodup_entries other.nodup_entries).mpr ?_
    rintro ⟨key, value⟩
    rw [← get?_eq_some_iff_mem, ← get?_eq_some_iff_mem, h]
  have hentries : table.entries = other.entries :=
    hperm.eq_of_pairwise (fun _ _ _ _ hlt hgt => absurd hlt (String.lt_asymm hgt))
      table.ascending other.ascending
  cases table
  cases other
  cases hentries
  rfl

/-- Insertions for different keys commute. -/
theorem insert_comm (table : Table α) {key other : String} (h : key ≠ other) (value bound : α) :
    (table.insert key value).insert other bound = (table.insert other bound).insert key value := by
  refine ext_get? fun name => ?_
  rw [get?_insert, get?_insert, get?_insert, get?_insert]
  by_cases hkey : name = key
  · rw [if_neg (hkey ▸ h), if_pos hkey, if_pos hkey]
  · rw [if_neg hkey, if_neg hkey]

/-! ### Tables of lists -/

theorem get?_foldl_insert (bindings : List (String × α)) (table : Table α) (key : String) :
    (bindings.foldl (fun table binding => table.insert binding.1 binding.2) table).get? key =
      (bindings.reverse.lookup key).or (table.get? key) := by
  induction bindings generalizing table with
  | nil => rfl
  | cons binding rest ih =>
    obtain ⟨name, bound⟩ := binding
    rw [List.foldl_cons, ih, get?_insert, List.reverse_cons, List.lookup_append, Option.or_assoc,
      lookup_cons_entry]
    by_cases h : key = name
    · rw [if_pos h, if_pos h, Option.some_or]
    · rw [if_neg h, if_neg h, List.lookup_nil, Option.none_or]

theorem get?_ofList (bindings : List (String × α)) (key : String) :
    (ofList bindings).get? key = bindings.reverse.lookup key := by
  have h := get?_foldl_insert bindings empty key
  rwa [show (empty : Table α).get? key = none from rfl, Option.or_none] at h

/-- **The last value counts**: a key is bound to the one after which none is given for it. -/
theorem get?_ofList_eq_some_iff {bindings : List (String × α)} {key : String} {value : α} :
    (ofList bindings).get? key = some value ↔
      ∃ before after, bindings = before ++ (key, value) :: after ∧
        ∀ later ∈ after, later.1 ≠ key := by
  rw [get?_ofList, List.lookup_eq_some_iff]
  constructor
  · rintro ⟨after, before, hreverse, hlater⟩
    refine ⟨before.reverse, after.reverse, ?_, fun later hmem heq => ?_⟩
    · rw [← List.reverse_reverse bindings, hreverse]
      simp
    · have hne := hlater later (List.mem_reverse.mp hmem)
      simp [heq] at hne
  · rintro ⟨before, after, rfl, hlater⟩
    refine ⟨after.reverse, before.reverse, by simp, fun later hmem => ?_⟩
    exact bne_iff_ne.mpr (Ne.symm (hlater later (List.mem_reverse.mp hmem)))

/-- Where no key occurs twice, every value counts. -/
theorem get?_ofList_eq_some_iff_mem {bindings : List (String × α)}
    (h : (bindings.map Prod.fst).Nodup) {key : String} {value : α} :
    (ofList bindings).get? key = some value ↔ (key, value) ∈ bindings := by
  have hreverse : (bindings.reverse.map Prod.fst).Nodup := by
    rw [List.map_reverse]
    exact (List.reverse_perm _).nodup_iff.mpr h
  rw [get?_ofList, lookup_eq_some_iff_mem hreverse, List.mem_reverse]

/-- A list has a value for exactly the keys that are bound. -/
theorem mem_keys_ofList {bindings : List (String × α)} {key : String} :
    key ∈ (ofList bindings).keys ↔ ∃ binding ∈ bindings, binding.1 = key := by
  rw [mem_keys_iff, ← Bool.not_eq_false, contains_eq_false_iff, get?_ofList,
    List.lookup_eq_none_iff]
  simp [@eq_comm _ key]

/-- Of bindings of distinct keys the order does not count. -/
theorem ofList_perm {bindings others : List (String × α)} (h : bindings.Perm others)
    (hkeys : (bindings.map Prod.fst).Nodup) : ofList bindings = ofList others := by
  have hothers : (others.map Prod.fst).Nodup := (h.map Prod.fst).nodup_iff.mp hkeys
  refine ext_get? fun key => Option.ext fun value => ?_
  rw [get?_ofList_eq_some_iff_mem hkeys, get?_ofList_eq_some_iff_mem hothers, h.mem_iff]

end Waymark.Table
