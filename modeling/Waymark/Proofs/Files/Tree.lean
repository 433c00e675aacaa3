import Mathlib.Logic.Function.Basic
import Waymark.FileTree
import Waymark.Proofs.Files.Path
import Waymark.Proofs.Outcome

/-!
# Waymark.Proofs.Files.Tree

Where paths lead in a file tree, and what stands there after a change.

* `node?_set` and `node?_erase`: a change concerns one place. `Puts` says so of two trees,
  whatever has led from one to the other;
* `Keeps`: a tree in which everything has stayed that was there. Paths that led somewhere
  lead there still (`Keeps.locate`);
* `WellFormed`: what is not at the beginning of all places stands in a directory. Every
  change that handlers make preserves this;
* `locate_plain`: in a well-formed tree a plain path leads to the place of its components.
-/

namespace Waymark.FileTree

/-! ### What stands at a place -/

theorem node?_of_isBase {place : Place} (h : isBase place = true) (tree : FileTree) :
    tree.node? place = some .directory := by
  rw [node?, if_pos h]

theorem isBase_eq_false_of_none {tree : FileTree} {place : Place}
    (h : tree.node? place = none) : isBase place = false := by
  cases hbase : isBase place with
  | false => rfl
  | true =>
    rw [node?_of_isBase hbase] at h
    cases h

theorem isBase_eq_false_of_file {tree : FileTree} {place : Place} {content : Bytes}
    (h : tree.node? place = some (.file content)) : isBase place = false := by
  cases hbase : isBase place with
  | false => rfl
  | true =>
    rw [node?_of_isBase hbase] at h
    cases h

theorem lookup_filter_ne (nodes : List (Place × Node)) (place other : Place) :
    (nodes.filter (·.1 ≠ place)).lookup other =
      if other = place then none else nodes.lookup other := by
  induction nodes with
  | nil => simp
  | cons entry rest ih =>
    obtain ⟨at_, node⟩ := entry
    by_cases hat : at_ = place
    · rw [List.filter_cons_of_neg (by simp [hat]), ih]
      by_cases hother : other = place
      · simp [hother]
      · have hne : (other == at_) = false := by simp [hat, hother]
        rw [if_neg hother, if_neg hother, List.lookup_cons, hne]
    · rw [List.filter_cons_of_pos (by simp [hat]), List.lookup_cons, List.lookup_cons, ih]
      by_cases hother : other = at_
      · simp [hother, hat]
      · have hne : (other == at_) = false := by simp [hother]
        rw [hne]

/-- Setting a node concerns its own place only. -/
theorem node?_set {place : Place} (h : isBase place = false) (tree : FileTree) (node : Node)
    (other : Place) :
    (tree.set place node).node? other = if other = place then some node else tree.node? other := by
  unfold node?
  by_cases hother : other = place
  · subst hother
    rw [if_neg (by simp [h]), if_pos rfl, set, List.lookup_append, lookup_filter_ne, if_pos rfl]
    simp
  · rw [if_neg hother, set, List.lookup_append, lookup_filter_ne, if_neg hother]
    have hne : (other == place) = false := by simp [hother]
    simp [List.lookup_cons, hne]

/-- The second tree has a node at a place, and is otherwise like the first one. -/
def Puts (before : FileTree) (place : Place) (node : Node) (after : FileTree) : Prop :=
  ∀ other, after.node? other = if other = place then some node else before.node? other

/-- Of two nodes put at one place the second one stays. -/
theorem Puts.trans {first second third : FileTree} {place : Place} {node final : Node}
    (h : Puts first place node second) (h' : Puts second place final third) :
    Puts first place final third := by
  intro other
  rw [h' other, h other]
  split <;> rfl

/-- Erasing concerns the place erased only. -/
theorem node?_erase {place : Place} (h : isBase place = false) (tree : FileTree)
    (other : Place) :
    (tree.erase place).node? other = if other = place then none else tree.node? other := by
  unfold node?
  rw [erase, lookup_filter_ne]
  by_cases hother : other = place
  · simp [hother, h]
  · rw [if_neg hother, if_neg hother]

/-- The regular files by place. -/
def files (tree : FileTree) (place : Place) : Option Bytes :=
  match tree.node? place with
  | some (.file content) => some content
  | _ => none

theorem files_eq_some_iff {tree : FileTree} {place : Place} {content : Bytes} :
    tree.files place = some content ↔ tree.node? place = some (.file content) := by
  unfold files
  split <;> simp_all

theorem Puts.files_eq {before after : FileTree} {place : Place} {content : Bytes}
    (h : Puts before place (.file content) after) :
    after.files = Function.update before.files place (some content) := by
  funext other
  rw [files, h other]
  by_cases hother : other = place
  · rw [if_pos hother, hother, Function.update_self]
  · rw [if_neg hother, Function.update_of_ne hother]
    rfl

theorem files_erase {place : Place} (h : isBase place = false) (tree : FileTree) :
    (tree.erase place).files = Function.update tree.files place none := by
  funext other
  rw [files, node?_erase h]
  by_cases hother : other = place
  · rw [if_pos hother, hother, Function.update_self]
  · rw [if_neg hother, Function.update_of_ne hother]
    rfl

/-! ### Trees that keep what was there -/

/-- Everything that was there is there still. -/
def Keeps (before after : FileTree) : Prop :=
  ∀ place node, before.node? place = some node → after.node? place = some node

theorem Keeps.refl (tree : FileTree) : Keeps tree tree := fun _ _ h => h

theorem Keeps.trans {first second third : FileTree} (h : Keeps first second)
    (h' : Keeps second third) : Keeps first third :=
  fun place node hnode => h' place node (h place node hnode)

/-- What is put where nothing was leaves the rest. -/
theorem Puts.keeps {before after : FileTree} {place : Place} {node : Node}
    (h : Puts before place node after) (hnone : before.node? place = none) :
    Keeps before after := by
  intro other found hfound
  rw [h other, if_neg, hfound]
  rintro rfl
  rw [hnone] at hfound
  cases hfound

/-! ### Walking -/

/-- One step further: whatever is stepped from has to be a directory. -/
theorem walk_cons (tree : FileTree) (place : Place) (part : String) (rest : List String) :
    tree.walk place (part :: rest) =
      match tree.node? place with
      | none => .error .notFound
      | some (.file _) => .error .notADirectory
      | some .directory =>
        if part = "" ∨ part = "." then tree.walk place rest
        else if part = ".." then tree.walk (above place) rest
        else if 255 < part.utf8ByteSize then .error .nameTooLong
        else tree.walk (place ++ [part]) rest := by
  rfl

/-- Parts are followed one after the other. -/
theorem walk_append (tree : FileTree) (place : Place) (parts more : List String) :
    tree.walk place (parts ++ more) = (tree.walk place parts).bind (tree.walk · more) := by
  induction parts generalizing place with
  | nil => rfl
  | cons part rest ih =>
    rw [List.cons_append, walk_cons, walk_cons]
    cases tree.node? place with
    | none => rfl
    | some node =>
      cases node with
      | file content => rfl
      | directory =>
        dsimp only
        split
        · exact ih place
        · split
          · exact ih (above place)
          · split
            · rfl
            · exact ih (place ++ [part])

theorem directory_of_walk {tree : FileTree} {place reached : Place} {part : String}
    {rest : List String} (h : tree.walk place (part :: rest) = .ok reached) :
    tree.node? place = some .directory := by
  rw [walk_cons] at h
  split at h
  · cases h
  · cases h
  · assumption

/-- Parts that do not lead anywhere leave a walk where it is. -/
theorem eq_of_walk {tree : FileTree} {place reached : Place} {parts : List String}
    (hparts : ∀ part ∈ parts, part = "" ∨ part = ".") (h : tree.walk place parts = .ok reached) :
    reached = place := by
  induction parts with
  | nil => exact (Except.ok.inj h).symm
  | cons part rest ih =>
    rw [walk_cons, directory_of_walk h] at h
    dsimp only at h
    rw [if_pos (hparts part List.mem_cons_self)] at h
    exact ih (fun other hother => hparts other (List.mem_cons_of_mem part hother)) h

/-- A walk that succeeds goes the same way in a tree that keeps what was there. -/
theorem Keeps.walk {before after : FileTree} (hkeeps : Keeps before after) {place reached : Place}
    {parts : List String} (h : before.walk place parts = .ok reached) :
    after.walk place parts = .ok reached := by
  induction parts generalizing place with
  | nil => exact h
  | cons part rest ih =>
    have hdirectory := directory_of_walk h
    rw [walk_cons, hdirectory] at h
    rw [walk_cons, hkeeps place _ hdirectory]
    dsimp only at h ⊢
    split at h
    · next hskip => rw [if_pos hskip, ih h]
    · next hskip =>
      rw [if_neg hskip]
      split at h
      · next hup => rw [if_pos hup, ih h]
      · next hup =>
        rw [if_neg hup]
        split at h
        · cases h
        · next hshort => rw [if_neg hshort, ih h]

/-- Where absolute and relative paths begin. -/
def beginning (absolute : Bool) : Place := if absolute then ["/"] else []

theorem isBase_beginning (absolute : Bool) : isBase (beginning absolute) = true := by
  cases absolute <;> rfl

/-- Where a path begins. -/
def start (path : String) : Place := beginning (Path.isAbsolute path)

theorem isBase_start (path : String) : isBase (start path) = true := isBase_beginning _

/-- A path that the system takes: without NUL, and below 4096 bytes. -/
structure Fits (path : String) : Prop where
  /-- There is no NUL. -/
  no_nul : '\x00' ∉ path.toList
  /-- It is not too long. -/
  short : path.utf8ByteSize < 4096

/-- A path that fits is followed from its beginning. -/
theorem locate_of_fits {path : String} (h : Fits path) (hne : path ≠ "") (tree : FileTree) :
    tree.locate path = tree.walk (start path) (Path.parts path) := by
  unfold locate start beginning
  rw [if_neg (by simpa using h.no_nul), if_neg hne, if_neg (by have := h.short; omega)]

theorem fits_of_locate {tree : FileTree} {path : String} {place : Place}
    (h : tree.locate path = .ok place) : Fits path ∧ path ≠ "" := by
  unfold locate at h
  split at h
  · cases h
  · next hnul =>
    split at h
    · cases h
    · next hne =>
      split at h
      · cases h
      · next hlong => exact ⟨⟨by simpa using hnul, by omega⟩, hne⟩

theorem Keeps.locate {before after : FileTree} (hkeeps : Keeps before after) {path : String}
    {place : Place} (h : before.locate path = .ok place) : after.locate path = .ok place := by
  obtain ⟨hfits, hne⟩ := fits_of_locate h
  rw [locate_of_fits hfits hne] at h ⊢
  exact hkeeps.walk h

/-- What stands where a path leads. -/
theorem stat_eq_ok_iff {tree : FileTree} {path : String} {node : Node} :
    tree.stat path = .ok node ↔
      ∃ place, tree.locate path = .ok place ∧ tree.node? place = some node := by
  unfold stat
  cases hlocate : tree.locate path with
  | error e => simp
  | ok place => cases hnode : tree.node? place <;> simp [hnode]

theorem isFile_iff {tree : FileTree} {path : String} :
    tree.isFile path = true ↔
      ∃ place content, tree.locate path = .ok place ∧ tree.node? place = some (.file content) := by
  have hstat : tree.isFile path = true ↔ ∃ content, tree.stat path = .ok (.file content) := by
    unfold isFile
    split <;> simp_all
  simp only [hstat, stat_eq_ok_iff]
  exact exists_comm

theorem readText_eq_ok_iff {tree : FileTree} {path text : String} :
    tree.readText path = .ok text ↔
      ∃ place content, tree.locate path = .ok place ∧
        tree.node? place = some (.file content) ∧ Text.decode? content = some text := by
  have hread : tree.readText path = .ok text ↔
      ∃ content, tree.stat path = .ok (.file content) ∧ Text.decode? content = some text := by
    unfold readText read
    cases hstat : tree.stat path with
    | error error => simp
    | ok node =>
      cases node with
      | directory => simp
      | file content => cases htext : Text.decode? content <;> simp [htext]
  simp only [hread, stat_eq_ok_iff]
  constructor
  · rintro ⟨content, ⟨place, hlocate, hnode⟩, htext⟩
    exact ⟨place, content, hlocate, hnode, htext⟩
  · rintro ⟨place, content, hlocate, hnode, htext⟩
    exact ⟨content, ⟨place, hlocate, hnode⟩, htext⟩

/-! ### Well-formed trees -/

/-- Whatever is in something is in a directory. -/
def WellFormed (tree : FileTree) : Prop :=
  ∀ (place : Place) (name : String), tree.node? (place ++ [name]) ≠ none →
    tree.node? place = some .directory

namespace WellFormed

variable {tree : FileTree}

theorem empty : WellFormed {} := by
  intro place name h
  refine node?_of_isBase ?_ {}
  by_cases hbase : isBase (place ++ [name]) = true
  · rw [isBase, Bool.or_eq_true, decide_eq_true_iff] at hbase
    rcases hbase with hroot | hup
    · cases place with
      | nil => rfl
      | cons first rest => simp at hroot
    · rw [List.all_append, Bool.and_eq_true] at hup
      simp [isBase, hup.1]
  · rw [node?, if_neg hbase] at h
    exact absurd rfl h

/-- All that leads to something is a directory. -/
theorem directory_of_append (h : WellFormed tree) {place : Place} {name : String}
    {rest : List String} (hthere : tree.node? (place ++ name :: rest) ≠ none) :
    tree.node? place = some .directory := by
  induction rest generalizing place name with
  | nil => exact h place name hthere
  | cons next rest ih =>
    have hnext : tree.node? (place ++ [name]) = some .directory := by
      have hlater : tree.node? (place ++ [name] ++ next :: rest) ≠ none := by
        rwa [List.append_assoc, List.singleton_append]
      exact ih hlater
    refine h place name ?_
    rw [hnext]
    exact Option.some_ne_none _

theorem above (h : WellFormed tree) {place : Place}
    (hplace : tree.node? place = some .directory) :
    tree.node? (above place) = some .directory := by
  unfold FileTree.above
  split
  · exact hplace
  · split
    · next hup => exact node?_of_isBase (by simpa [isBase] using hup) tree
    · next hup =>
      have hne : place ≠ [] := by
        rintro rfl
        exact hup rfl
      rw [← List.dropLast_concat_getLast hne] at hplace
      refine h place.dropLast (place.getLast hne) ?_
      rw [hplace]
      exact Option.some_ne_none _

/-- Where a walk leads to nothing, it ends with a step from a directory. -/
theorem exists_parent_of_walk (h : WellFormed tree) {place reached : Place} {parts : List String}
    (hplace : tree.node? place = some .directory) (hwalk : tree.walk place parts = .ok reached)
    (hnone : tree.node? reached = none) :
    ∃ parent name, reached = parent ++ [name] ∧ tree.node? parent = some .directory := by
  induction parts generalizing place with
  | nil =>
    obtain rfl := Except.ok.inj hwalk
    rw [hplace] at hnone
    cases hnone
  | cons part rest ih =>
    rw [walk_cons, hplace] at hwalk
    dsimp only at hwalk
    split at hwalk
    · exact ih hplace hwalk
    · split at hwalk
      · exact ih (h.above hplace) hwalk
      · split at hwalk
        · cases hwalk
        · cases rest with
          | nil =>
            obtain rfl := Except.ok.inj hwalk
            exact ⟨place, part, rfl, hplace⟩
          | cons next rest => exact ih (directory_of_walk hwalk) hwalk

theorem puts_child (h : WellFormed tree) {after : FileTree} {parent : Place} {name : String}
    {node : Node} (hparent : tree.node? parent = some .directory)
    (hnone : tree.node? (parent ++ [name]) = none)
    (hputs : Puts tree (parent ++ [name]) node after) : WellFormed after := by
  intro place child hchild
  rw [hputs] at hchild ⊢
  have hdirectory : tree.node? place = some .directory := by
    by_cases hnew : place ++ [child] = parent ++ [name]
    · rw [(List.append_inj' hnew rfl).1]
      exact hparent
    · rw [if_neg hnew] at hchild
      exact h place child hchild
  rw [if_neg, hdirectory]
  rintro rfl
  rw [hnone] at hdirectory
  cases hdirectory

/-- A new node where a path leads is in a directory. -/
theorem puts_of_locate (h : WellFormed tree) {after : FileTree} {path : String} {place : Place}
    {node : Node} (hlocate : tree.locate path = .ok place) (hnone : tree.node? place = none)
    (hputs : Puts tree place node after) : WellFormed after := by
  obtain ⟨hfits, hne⟩ := fits_of_locate hlocate
  rw [locate_of_fits hfits hne] at hlocate
  have hstart := node?_of_isBase (isBase_start path) tree
  obtain ⟨parent, name, rfl, hparent⟩ := h.exists_parent_of_walk hstart hlocate hnone
  exact h.puts_child hparent hnone hputs

/-- There is nothing in a file, so it can be replaced by another. -/
theorem puts_file (h : WellFormed tree) {after : FileTree} {place : Place} {content : Bytes}
    {body : Bytes} (hfile : tree.node? place = some (.file content))
    (hputs : Puts tree place (.file body) after) : WellFormed after := by
  intro other child hchild
  rw [hputs] at hchild ⊢
  have hdirectory : tree.node? other = some .directory := by
    refine h other child ?_
    by_cases hsame : other ++ [child] = place
    · rw [hsame, hfile]
      exact Option.some_ne_none _
    · rwa [if_neg hsame] at hchild
  rw [if_neg, hdirectory]
  rintro rfl
  rw [hfile] at hdirectory
  cases hdirectory

/-- There is nothing in a file, so it can be removed. -/
theorem erase_file (h : WellFormed tree) {place : Place} {content : Bytes}
    (hfile : tree.node? place = some (.file content)) : WellFormed (tree.erase place) := by
  intro other child hchild
  have herase := node?_erase (isBase_eq_false_of_file hfile) tree
  rw [herase] at hchild ⊢
  have hdirectory : tree.node? other = some .directory := by
    refine h other child ?_
    by_cases hsame : other ++ [child] = place
    · rw [if_pos hsame] at hchild
      exact absurd rfl hchild
    · rwa [if_neg hsame] at hchild
  rw [if_neg, hdirectory]
  rintro rfl
  rw [hfile] at hdirectory
  cases hdirectory

end WellFormed

/-! ### Plain paths -/

section Plain

open Waymark.Path (IsName IsPlain)

variable {tree : FileTree}

/-- A condition on all that names lead through from a place on, the place included and
what they lead to excluded. -/
def OnWay (tree : FileTree) (condition : Option Node → Prop) (place : Place)
    (names : List String) : Prop :=
  ∀ before name rest, names = before ++ name :: rest → condition (tree.node? (place ++ before))

/-- All that names lead through are directories. -/
def OpenTo (tree : FileTree) (place : Place) (names : List String) : Prop :=
  OnWay tree (· = some .directory) place names

/-- None of what names lead through is a file. -/
def NotBarred (tree : FileTree) (place : Place) (names : List String) : Prop :=
  OnWay tree (fun node? => ∀ content, node? ≠ some (.file content)) place names

/-- Nothing bars the way in an empty tree. -/
theorem notBarred_empty (place : Place) (names : List String) : NotBarred {} place names := by
  intro before name rest _ content hcontent
  unfold node? at hcontent
  split at hcontent <;> cases hcontent

@[simp] theorem onWay_nil (tree : FileTree) (condition : Option Node → Prop) (place : Place) :
    OnWay tree condition place [] := by
  intro before name rest hnil
  simp at hnil

theorem onWay_cons_iff {condition : Option Node → Prop} {place : Place} {name : String}
    {rest : List String} :
    OnWay tree condition place (name :: rest) ↔
      condition (tree.node? place) ∧ OnWay tree condition (place ++ [name]) rest := by
  constructor
  · intro h
    refine ⟨?_, fun before next after hrest => ?_⟩
    · simpa using h [] name rest rfl
    · simpa using h (name :: before) next after (by rw [hrest, List.cons_append])
  · rintro ⟨hplace, hrest⟩ before next after hnames
    cases before with
    | nil => simpa using hplace
    | cons first before =>
      obtain ⟨rfl, hlater⟩ := List.cons.inj hnames
      simpa using hrest before next after hlater

theorem onWay_concat_iff {condition : Option Node → Prop} {place : Place} {names : List String}
    {name : String} :
    OnWay tree condition place (names ++ [name]) ↔
      OnWay tree condition place names ∧ condition (tree.node? (place ++ names)) := by
  induction names generalizing place with
  | nil => simp [onWay_cons_iff]
  | cons first names ih =>
    rw [List.cons_append, onWay_cons_iff, onWay_cons_iff, ih, and_assoc]
    simp

/-- A step to a name. -/
theorem walk_cons_name {name : String} (h : IsName name) {place : Place}
    (hplace : tree.node? place = some .directory) (rest : List String) :
    tree.walk place (name :: rest) =
      if 255 < name.utf8ByteSize then .error .nameTooLong
      else tree.walk (place ++ [name]) rest := by
  rw [walk_cons, hplace]
  simp [h.ne_empty, h.ne_dot, h.ne_dots]

/-- **Names lead to the place that they add up to**, if they are short enough and all that
they lead through are directories. -/
theorem walk_names_eq_ok_iff {names : List String} (h : ∀ name ∈ names, IsName name)
    {place reached : Place} :
    tree.walk place names = .ok reached ↔ reached = place ++ names ∧
      (∀ name ∈ names, name.utf8ByteSize ≤ 255) ∧ OpenTo tree place names := by
  induction names generalizing place with
  | nil => simp [walk, OpenTo, eq_comm]
  | cons name rest ih =>
    have ih : tree.walk (place ++ [name]) rest = .ok reached ↔ _ :=
      ih fun n hn => h n (List.mem_cons_of_mem name hn)
    rw [OpenTo, onWay_cons_iff, ← OpenTo]
    by_cases hplace : tree.node? place = some .directory
    · rw [walk_cons_name (h name List.mem_cons_self) hplace]
      split
      · next hlong =>
        refine ⟨fun h => by (cases h), fun ⟨_, hshort, _⟩ => ?_⟩
        exact absurd (hshort name List.mem_cons_self) (by omega)
      · next hshort =>
        rw [ih]
        simp [hplace]
        omega
    · refine ⟨fun hwalk => absurd (directory_of_walk hwalk) hplace, fun ⟨_, _, hopen, _⟩ => ?_⟩
      exact absurd hopen hplace

/-- Short names that lead through no file lead to their place, or into nothing. -/
theorem walk_names_of_notBarred {names : List String} (h : ∀ name ∈ names, IsName name)
    (hshort : ∀ name ∈ names, name.utf8ByteSize ≤ 255) {place : Place}
    (hfree : NotBarred tree place names) :
    tree.walk place names = .ok (place ++ names) ∨ tree.walk place names = .error .notFound := by
  induction names generalizing place with
  | nil => exact Or.inl (by rw [walk, List.append_nil])
  | cons name rest ih =>
    obtain ⟨hplace, hrest⟩ := onWay_cons_iff.mp hfree
    have hname := h name List.mem_cons_self
    cases hnode : tree.node? place with
    | none => exact Or.inr (by rw [walk_cons, hnode])
    | some node =>
      cases node with
      | file content => exact absurd hnode (hplace content)
      | directory =>
        have hlong : ¬ 255 < name.utf8ByteSize := by
          have := hshort name List.mem_cons_self
          omega
        rw [walk_cons_name hname hnode, if_neg hlong]
        have ih := ih (fun n hn => h n (List.mem_cons_of_mem name hn))
          (fun n hn => hshort n (List.mem_cons_of_mem name hn)) hrest
        rwa [List.append_assoc, List.singleton_append] at ih

/-- Empty parts do not count, unless the last one is empty. -/
theorem walk_filter {parts : List String} (hlast : parts.getLast? ≠ some "")
    (hdot : ∀ part ∈ parts, part ≠ ".") (place : Place) :
    tree.walk place (parts.filter (· ≠ "")) = tree.walk place parts := by
  induction parts generalizing place with
  | nil => rfl
  | cons part rest ih =>
    have hdot' : ∀ part ∈ rest, part ≠ "." := fun p hp => hdot p (List.mem_cons_of_mem part hp)
    by_cases hpart : part = ""
    · subst hpart
      cases rest with
      | nil => simp at hlast
      | cons next rest =>
        -- the empty part asks for a directory, and so does the part that follows it
        have ih := ih (by simpa using hlast) hdot'
        rw [List.filter_cons_of_neg (by simp), ih, walk_cons tree place ""]
        simp only [true_or, if_true]
        rw [walk_cons]
        cases tree.node? place with
        | none => rfl
        | some node => cases node <;> rfl
    · rw [List.filter_cons_of_pos (by simpa using hpart), walk_cons, walk_cons]
      have hne : rest.getLast? ≠ some "" := by
        intro hempty
        rw [List.getLast?_cons, hempty] at hlast
        exact hlast rfl
      simp only [ih hne hdot']

/-- The place of a plain path: where it begins, and its names. -/
def placeOf (path : String) : Place := start path ++ Path.components path

/-- A path that the system takes, and each name of it. -/
structure Addressable (path : String) : Prop where
  /-- The path as a whole. -/
  fits : Fits path
  /-- No name is longer than 255 bytes. -/
  short : ∀ name ∈ Path.components path, name.utf8ByteSize ≤ 255

theorem locate_plain {path : String} (h : IsPlain path) (hfits : Fits path) (tree : FileTree) :
    tree.locate path = tree.walk (start path) (Path.components path) := by
  rw [locate_of_fits hfits h.ne_empty, h.components_eq,
    walk_filter (Path.isPlain_iff.mp h).1 fun part hpart => (h.no_dots part hpart).1]

/-- **Where a plain path leads**: to its place, if the system takes it and all above it are
directories. -/
theorem locate_plain_eq_ok_iff {path : String} (h : IsPlain path) {place : Place} :
    tree.locate path = .ok place ↔ place = placeOf path ∧ Addressable path ∧
      OpenTo tree (start path) (Path.components path) := by
  have hnames : ∀ name ∈ Path.components path, IsName name := fun name hname => h.isName hname
  constructor
  · intro hlocate
    obtain ⟨hfits, -⟩ := fits_of_locate hlocate
    rw [locate_plain h hfits, walk_names_eq_ok_iff hnames] at hlocate
    obtain ⟨hplace, hshort, hopen⟩ := hlocate
    exact ⟨hplace, ⟨hfits, hshort⟩, hopen⟩
  · rintro ⟨hplace, haddress, hopen⟩
    rw [locate_plain h haddress.fits, walk_names_eq_ok_iff hnames]
    exact ⟨hplace, haddress.short, hopen⟩

/-- In a well-formed tree a plain path leads to what stands at its place. -/
theorem WellFormed.exists_locate_iff (hwf : WellFormed tree) {path : String} (h : IsPlain path)
    {node : Node} :
    (∃ place, tree.locate path = .ok place ∧ tree.node? place = some node) ↔
      Addressable path ∧ tree.node? (placeOf path) = some node := by
  constructor
  · rintro ⟨place, hlocate, hnode⟩
    obtain ⟨rfl, haddress, -⟩ := (locate_plain_eq_ok_iff h).mp hlocate
    exact ⟨haddress, hnode⟩
  · rintro ⟨haddress, hnode⟩
    refine ⟨placeOf path, (locate_plain_eq_ok_iff h).mpr ⟨rfl, haddress, ?_⟩, hnode⟩
    intro before name rest hnames
    have hthere : tree.node? (start path ++ before ++ name :: rest) ≠ none := by
      rw [List.append_assoc, ← hnames, ← placeOf, hnode]
      exact Option.some_ne_none _
    exact hwf.directory_of_append hthere

end Plain

end Waymark.FileTree
