import Waymark.Proofs.Files.Directories

/-!
# Waymark.Proofs.Files.Writing

Files written and removed.

A file that is written is opened first, which leaves it empty, and then filled as far as there
is room. `Fills` says how that can end, for a new file (`create_of_locate`) as for one that is
there (`write_of_locate`); if the file cannot be opened, nothing has changed (`create_cases`).
Directories take no room (`room_makeParents`).
-/

namespace Waymark.FileTree

variable {tree after : FileTree} {path : String} {place : Place} {content : Bytes}

/-! ### Room -/

/-- There is room for all of some content in the next write. -/
def HasRoomFor (tree : FileTree) (content : Bytes) : Prop :=
  content.length ≤ tree.room.head?.getD content.length

theorem hasRoomFor_of_room_eq_nil (h : tree.room = []) (content : Bytes) :
    tree.HasRoomFor content := by
  rw [HasRoomFor, h]
  exact Nat.le_refl _

theorem hasRoomFor_congr {other : FileTree} (h : tree.room = other.room) :
    tree.HasRoomFor content ↔ other.HasRoomFor content := by
  rw [HasRoomFor, HasRoomFor, h]

theorem room_ensure (tree : FileTree) (path : String) : (ensure tree path).1.room = tree.room := by
  rcases ensure_cases tree path with ⟨place, -, -, heq⟩ | ⟨error?, heq⟩
  · rw [heq]
    rfl
  · rw [heq]

theorem room_makeDirectories (tree : FileTree) (absolute : Bool) (names : List String) :
    (tree.makeDirectories absolute names).1.room = tree.room := by
  induction names with
  | nil => rfl
  | cons name parents ih =>
    by_cases hmissing : tree.makeDirectory (Path.ofNames absolute (name :: parents).reverse) =
        .error .notFound
    · rw [makeDirectories_of_notFound hmissing]
      cases hmade : tree.makeDirectories absolute parents with
      | mk made error? =>
        rw [hmade] at ih
        cases error? with
        | some error => exact ih
        | none => exact (room_ensure made _).trans ih
    · rw [makeDirectories_of_ne_notFound hmissing]
      exact room_ensure tree _

theorem room_makeParents (tree : FileTree) (path : String) :
    (tree.makeParents path).1.room = tree.room :=
  room_makeDirectories tree _ _

/-! ### Writing -/

/-- How writing some content to a file can end. -/
inductive Fills (before : FileTree) (place : Place) (content : Bytes) :
    Except FailedChange FileTree → Prop
  /-- The file holds the content. -/
  | whole {after : FileTree} (fits : before.HasRoomFor content)
      (puts : Puts before place (.file content) after) (room : after.room = before.room.tail) :
      Fills before place content (.ok after)
  /-- The write has broken off, and the file holds what there was room for. -/
  | part {after : FileTree} {count : Nat} (full : ¬ before.HasRoomFor content)
      (short : count < content.length) (puts : Puts before place (.file (content.take count)) after)
      (room : after.room = before.room.tail) : Fills before place content (.error ⟨.noSpace, after⟩)

theorem fills_fill (h : isBase place = false) (tree : FileTree) (content : Bytes) :
    Fills tree place content (tree.fill place content) := by
  have hputs : ∀ written : Bytes, Puts tree place (.file written)
      ({ tree with room := tree.room.tail }.set place (.file written)) := fun written =>
    node?_set h { tree with room := tree.room.tail } (.file written)
  unfold fill
  dsimp only
  by_cases hfits : tree.HasRoomFor content
  · have hall : content.take (tree.room.head?.getD content.length) = content :=
      List.take_of_length_le hfits
    rw [hall, if_neg (Nat.lt_irrefl _)]
    exact .whole hfits (hputs content) rfl
  · have hshort : tree.room.head?.getD content.length < content.length := Nat.lt_of_not_le hfits
    rw [if_pos (by rw [List.length_take]; omega)]
    exact .part hfits hshort (hputs _) rfl

/-- What opening has left in a file does not matter. -/
theorem Fills.of_opened {before opened : FileTree} {node : Node}
    {result : Except FailedChange FileTree} (h : Fills opened place content result)
    (hputs : Puts before place node opened) (hroom : opened.room = before.room) :
    Fills before place content result := by
  cases h with
  | whole fits puts room =>
    exact .whole ((hasRoomFor_congr hroom).mp fits) (hputs.trans puts) (by rw [room, hroom])
  | part full short puts room =>
    exact .part (mt (hasRoomFor_congr hroom).mpr full) short (hputs.trans puts)
      (by rw [room, hroom])

/-- A new file is filled where a path leads to nothing. -/
theorem create_of_locate (hslash : path.toList.getLast? ≠ some '/')
    (hlocate : tree.locate path = .ok place) (hnode : tree.node? place = none)
    (content : Bytes) : Fills tree place content (tree.create path content) := by
  have hmake : tree.makeFile path = .ok (place, tree.set place (.file [])) := by
    simp [makeFile, hslash, hlocate, hnode]
  have hbase := isBase_eq_false_of_none hnode
  rw [create, hmake]
  exact (fills_fill hbase _ content).of_opened (node?_set hbase tree (.file [])) rfl

/-- Otherwise it is not made. -/
theorem create_cases (tree : FileTree) (path : String) (content : Bytes) :
    (path.toList.getLast? ≠ some '/' ∧
      ∃ place, tree.locate path = .ok place ∧ tree.node? place = none) ∨
    ∃ error, tree.create path content = .error ⟨error, tree⟩ := by
  by_cases hslash : path.toList.getLast? = some '/'
  · have hmake : tree.makeFile path = .error .isADirectory := by
      rw [makeFile, if_pos hslash]
      rfl
    exact Or.inr ⟨_, by rw [create, hmake]⟩
  · cases hlocate : tree.locate path with
    | error error =>
      have hmake : tree.makeFile path = .error error := by simp [makeFile, hslash, hlocate]
      exact Or.inr ⟨_, by rw [create, hmake]⟩
    | ok place =>
      cases hnode : tree.node? place with
      | none => exact Or.inl ⟨hslash, place, rfl, hnode⟩
      | some node =>
        have hmake : tree.makeFile path = .error .alreadyExists := by
          simp [makeFile, hslash, hlocate, hnode]
        exact Or.inr ⟨_, by rw [create, hmake]⟩

/-- The file that a path leads to is filled anew. -/
theorem write_of_locate {old : Bytes} (hlocate : tree.locate path = .ok place)
    (hnode : tree.node? place = some (.file old)) (content : Bytes) :
    Fills tree place content (tree.write path content) := by
  have hempty : tree.emptyFile path = .ok (place, tree.set place (.file [])) := by
    simp [emptyFile, hlocate, hnode]
  have hbase := isBase_eq_false_of_file hnode
  rw [write, hempty]
  exact (fills_fill hbase _ content).of_opened (node?_set hbase tree (.file [])) rfl

/-! ### Removing -/

theorem remove_eq_ok_iff :
    tree.remove path = .ok after ↔
      ∃ place old, tree.locate path = .ok place ∧ tree.node? place = some (.file old) ∧
        after = tree.erase place := by
  unfold remove
  cases hlocate : tree.locate path with
  | error error => simp
  | ok place =>
    cases hnode : tree.node? place with
    | none => simp [hnode]
    | some node => cases node <;> simp [hnode, eq_comm]

end Waymark.FileTree
