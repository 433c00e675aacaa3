/-!
# Waymark.Table

Finite maps keyed by text, kept in ascending key order.

Design points:

* the order is part of the type, so two tables with the same bindings are the
  same table and every listing of a table is sorted without a separate pass;
* keys compare by code point, which for UTF-8 text is the order of its bytes;
* `insert` replaces an earlier binding of the same key, so the last write wins.
-/

namespace Waymark

/-- A finite map from text to `α`. -/
structure Table (α : Type) where
  /-- The bindings, in ascending key order. -/
  entries : List (String × α)
  /-- No key occurs twice and the keys ascend. -/
  ascending : entries.Pairwise (fun a b => a.1 < b.1)

namespace Table

variable {α : Type}

/-- The table without bindings. -/
def empty : Table α := ⟨[], .nil⟩

instance : EmptyCollection (Table α) := ⟨empty⟩
instance : Inhabited (Table α) := ⟨empty⟩

/-- Put a binding at its place in an ascending list, replacing one of the same
key. -/
def insertEntry (key : String) (value : α) : List (String × α) → List (String × α)
  | [] => [(key, value)]
  | entry :: rest =>
      if key = entry.1 then (key, value) :: rest
      else if key < entry.1 then (key, value) :: entry :: rest
      else entry :: insertEntry key value rest

theorem key_of_mem_insertEntry {key : String} {value : α} {entries : List (String × α)}
    {entry : String × α} (h : entry ∈ insertEntry key value entries) :
    entry.1 = key ∨ entry ∈ entries := by
  induction entries with
  | nil => simp [insertEntry] at h; simp [h]
  | cons first rest ih => grind [insertEntry]

theorem ascending_insertEntry (key : String) (value : α) {entries : List (String × α)}
    (h : entries.Pairwise (fun a b => a.1 < b.1)) :
    (insertEntry key value entries).Pairwise (fun a b => a.1 < b.1) := by
  induction entries with
  | nil => simp [insertEntry]
  | cons first rest ih =>
      rw [List.pairwise_cons] at h
      unfold insertEntry
      split
      · next heq => exact List.pairwise_cons.2 ⟨fun b hb => heq ▸ h.1 b hb, h.2⟩
      · split
        · next hlt =>
            refine List.pairwise_cons.2 ⟨fun b hb => ?_, List.pairwise_cons.2 h⟩
            rcases List.mem_cons.1 hb with rfl | hb
            · exact hlt
            · exact String.lt_trans hlt (h.1 b hb)
        · next hne hlt =>
            refine List.pairwise_cons.2 ⟨fun b hb => ?_, ih h.2⟩
            rcases key_of_mem_insertEntry hb with hb | hb
            · rw [hb]
              exact String.not_le.1 fun hle => hne (String.le_antisymm hle (String.not_lt.1 hlt))
            · exact h.1 b hb

/-- Bind `key` to `value`, whatever it was bound to before. -/
def insert (table : Table α) (key : String) (value : α) : Table α :=
  ⟨insertEntry key value table.entries, ascending_insertEntry key value table.ascending⟩

/-- The value bound to `key`, if any. -/
def get? (table : Table α) (key : String) : Option α :=
  table.entries.lookup key

/-- Whether `key` is bound. -/
def contains (table : Table α) (key : String) : Bool :=
  (table.get? key).isSome

/-- The keys, ascending. -/
def keys (table : Table α) : List String :=
  table.entries.map Prod.fst

/-- The values, by ascending key. -/
def values (table : Table α) : List α :=
  table.entries.map Prod.snd

/-- The number of bindings. -/
def size (table : Table α) : Nat :=
  table.entries.length

/-- The table of a list of bindings; of two bindings of one key the later counts. -/
def ofList (bindings : List (String × α)) : Table α :=
  bindings.foldl (fun table binding => table.insert binding.1 binding.2) empty

end Table

/-- The distinct texts of a list, in ascending order. -/
def sortedDistinct (texts : List String) : List String :=
  (Table.ofList (texts.map (·, ()))).keys

end Waymark
