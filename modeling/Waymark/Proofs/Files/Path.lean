import Waymark.Path

/-!
# Waymark.Proofs.Files.Path

The names that a path consists of.

A path is a text, and all that is known about it is known through its parts: pushing a name
adds one part (`parts_push`) and one component (`components_push`), so the path that
`Path.below` makes has the components of its root and the names of the request after them
(`exists_names_of_below`). `ofNames` goes the other way, from names to a path.
-/

namespace Waymark.Path

/-! ### Pieces and parts -/

theorem pieces_ne_nil (sep : Char) (cs : List Char) : pieces sep cs ≠ [] := by
  cases cs with
  | nil => simp [pieces]
  | cons c cs =>
    rw [pieces]
    split
    · simp
    · split <;> simp

/-- A separator ends one piece and begins another. -/
theorem pieces_append_sep (sep : Char) (xs ys : List Char) :
    pieces sep (xs ++ sep :: ys) = pieces sep xs ++ pieces sep ys := by
  induction xs with
  | nil => simp [pieces]
  | cons c xs ih =>
    rw [List.cons_append, pieces, pieces, ih]
    split
    · rfl
    · cases hxs : pieces sep xs with
      | nil => exact absurd hxs (pieces_ne_nil sep xs)
      | cons piece more => rfl

theorem pieces_of_not_mem {sep : Char} {cs : List Char} (h : sep ∉ cs) :
    pieces sep cs = [cs] := by
  induction cs with
  | nil => rfl
  | cons c cs ih =>
    rw [List.mem_cons, not_or] at h
    rw [pieces, if_neg (Ne.symm h.1), ih h.2]

/-- The pieces hold nothing but what stands between the separators. -/
theorem mem_of_mem_pieces {sep c : Char} {cs piece : List Char} (h : piece ∈ pieces sep cs)
    (hc : c ∈ piece) : c ∈ cs ∧ c ≠ sep := by
  induction cs generalizing piece with
  | nil =>
    rw [pieces, List.mem_singleton] at h
    subst h
    cases hc
  | cons d cs ih =>
    rw [pieces] at h
    split at h
    · next heq =>
      rcases List.mem_cons.mp h with rfl | h
      · cases hc
      · exact ⟨List.mem_cons_of_mem d (ih h hc).1, (ih h hc).2⟩
    · next hne =>
      cases hcs : pieces sep cs with
      | nil => exact absurd hcs (pieces_ne_nil sep cs)
      | cons first more =>
        rw [hcs] at h ih
        rcases List.mem_cons.mp h with rfl | h
        · rcases List.mem_cons.mp hc with rfl | hc
          · exact ⟨by simp, hne⟩
          · have hfirst := ih List.mem_cons_self hc
            exact ⟨List.mem_cons_of_mem d hfirst.1, hfirst.2⟩
        · have hmore := ih (List.mem_cons_of_mem first h) hc
          exact ⟨List.mem_cons_of_mem d hmore.1, hmore.2⟩

/-- What stands in a text stands in one of its pieces, or separates them. -/
theorem mem_pieces_of_mem {sep c : Char} {cs : List Char} (h : c ∈ cs) :
    c = sep ∨ ∃ piece ∈ pieces sep cs, c ∈ piece := by
  by_cases hc : c = sep
  · exact Or.inl hc
  · right
    induction cs with
    | nil => cases h
    | cons d cs ih =>
      rw [pieces]
      split
      · next heq =>
        rcases List.mem_cons.mp h with rfl | h
        · exact absurd heq hc
        · obtain ⟨piece, hpiece, hmem⟩ := ih h
          exact ⟨piece, List.mem_cons_of_mem [] hpiece, hmem⟩
      · cases hcs : pieces sep cs with
        | nil => exact absurd hcs (pieces_ne_nil sep cs)
        | cons first more =>
          rcases List.mem_cons.mp h with rfl | h
          · exact ⟨c :: first, by simp, by simp⟩
          · obtain ⟨piece, hpiece, hmem⟩ := ih h
            rw [hcs] at hpiece
            rcases List.mem_cons.mp hpiece with rfl | hpiece
            · exact ⟨d :: piece, by simp, List.mem_cons_of_mem d hmem⟩
            · exact ⟨piece, List.mem_cons_of_mem _ hpiece, hmem⟩

theorem parts_ne_nil (path : String) : parts path ≠ [] := by
  rw [parts, Ne, List.map_eq_nil_iff]
  exact pieces_ne_nil _ _

/-- A slash ends one part and begins another. -/
theorem parts_append_slash (before after : String) :
    parts (before ++ "/" ++ after) = parts before ++ parts after := by
  have hslash : (before ++ "/" ++ after).toList = before.toList ++ '/' :: after.toList := by
    simp
  rw [parts, hslash, pieces_append_sep, List.map_append]
  rfl

theorem parts_of_not_mem {name : String} (h : '/' ∉ name.toList) : parts name = [name] := by
  rw [parts, pieces_of_not_mem h, List.map_singleton, String.ofList_toList]

theorem mem_of_mem_parts {path part : String} {c : Char} (h : part ∈ parts path)
    (hc : c ∈ part.toList) : c ∈ path.toList ∧ c ≠ '/' := by
  obtain ⟨piece, hpiece, rfl⟩ := List.mem_map.mp h
  rw [String.toList_ofList] at hc
  exact mem_of_mem_pieces hpiece hc

theorem mem_parts_of_mem {path : String} {c : Char} (h : c ∈ path.toList) :
    c = '/' ∨ ∃ part ∈ parts path, c ∈ part.toList := by
  rcases @mem_pieces_of_mem '/' _ _ h with hc | ⟨piece, hpiece, hc⟩
  · exact Or.inl hc
  · exact Or.inr ⟨String.ofList piece, List.mem_map.mpr ⟨piece, hpiece, rfl⟩, by simpa using hc⟩

/-- A path that ends in a slash has what stands before it, and an empty part. -/
theorem exists_eq_append_slash {path : String} (h : path.toList.getLast? = some '/') :
    ∃ before, path = before ++ "/" ++ "" := by
  obtain ⟨cs, hcs⟩ := List.getLast?_eq_some_iff.mp h
  exact ⟨String.ofList cs, String.toList_inj.mp (by simp [hcs])⟩

theorem isAbsolute_eq_true_iff {path : String} :
    isAbsolute path = true ↔ ∃ rest, path = "" ++ "/" ++ rest := by
  rw [isAbsolute, decide_eq_true_iff, List.head?_eq_some_iff]
  constructor
  · rintro ⟨cs, hcs⟩
    exact ⟨String.ofList cs, String.toList_inj.mp (by simp [hcs])⟩
  · rintro ⟨rest, rfl⟩
    exact ⟨rest.toList, by simp⟩

/-! ### Components -/

theorem components_of_parts {path first : String} {rest : List String}
    (h : parts path = first :: rest) :
    components path = (if first = "" then [] else [first]) ++
      rest.filter fun part => part ≠ "" && part ≠ "." := by
  rw [components, h]

/-- The components are some of the parts; an absolute path has an empty one before them. -/
theorem components_sublist (path : String) :
    ((if isAbsolute path then [""] else []) ++ components path).Sublist (parts path) := by
  cases habsolute : isAbsolute path with
  | true =>
    obtain ⟨rest, rfl⟩ := isAbsolute_eq_true_iff.mp habsolute
    have hparts : parts ("" ++ "/" ++ rest) = "" :: parts rest := parts_append_slash "" rest
    rw [components_of_parts hparts, hparts]
    simp
  | false =>
    cases hparts : parts path with
    | nil => exact absurd hparts (parts_ne_nil path)
    | cons first rest =>
      rw [components_of_parts hparts]
      by_cases hfirst : first = "" <;> simp [hfirst]

/-! ### Names -/

/-- An ordinary name: one that leads from a directory to something in it. -/
structure IsName (name : String) : Prop where
  /-- It is not empty. -/
  ne_empty : name ≠ ""
  /-- It is not the directory itself. -/
  ne_dot : name ≠ "."
  /-- It is not the directory above. -/
  ne_dots : name ≠ ".."
  /-- It is one name. -/
  no_slash : '/' ∉ name.toList

theorem IsName.parts_eq {name : String} (h : IsName name) : parts name = [name] :=
  parts_of_not_mem h.no_slash

theorem IsName.isAbsolute_eq {name : String} (h : IsName name) : isAbsolute name = false := by
  rw [isAbsolute, decide_eq_false_iff_not]
  intro hhead
  exact h.no_slash (List.mem_of_head? hhead)

/-! ### Pushing a name -/

section Push

variable {path name : String}

theorem push_empty (h : IsName name) : push "" name = name := by
  simp [push, h.isAbsolute_eq]

theorem push_slash (h : IsName name) (before : String) :
    push (before ++ "/" ++ "") name = before ++ "/" ++ name := by
  simp [push, h.isAbsolute_eq]

theorem push_other (h : IsName name) (hempty : path ≠ "")
    (hslash : path.toList.getLast? ≠ some '/') : push path name = path ++ "/" ++ name := by
  simp [push, h.isAbsolute_eq, hempty, hslash]

/-- **A name that is pushed adds itself to the components.** -/
theorem components_push (h : IsName name) (path : String) :
    components (push path name) = components path ++ [name] := by
  have hlast : ∀ {before : String} {first : String} {rest : List String},
      parts before = first :: rest →
      components (before ++ "/" ++ name) = components before ++ [name] := by
    intro before first rest hbefore
    have hparts : parts (before ++ "/" ++ name) = first :: (rest ++ [name]) := by
      rw [parts_append_slash, hbefore, h.parts_eq, List.cons_append]
    rw [components_of_parts hparts, components_of_parts hbefore]
    simp [h.ne_empty, h.ne_dot]
  by_cases hempty : path = ""
  · rw [hempty, push_empty h, components_of_parts h.parts_eq]
    simp [h.ne_empty, components, parts, pieces]
  by_cases hslash : path.toList.getLast? = some '/'
  · obtain ⟨before, rfl⟩ := exists_eq_append_slash hslash
    cases hbefore : parts before with
    | nil => exact absurd hbefore (parts_ne_nil before)
    | cons first rest =>
      have hparts : parts (before ++ "/" ++ "") = first :: (rest ++ [""]) := by
        rw [parts_append_slash, hbefore]
        rfl
      rw [push_slash h, hlast hbefore, components_of_parts hparts, components_of_parts hbefore]
      simp
  · cases hpath : parts path with
    | nil => exact absurd hpath (parts_ne_nil path)
    | cons first rest => rw [push_other h hempty hslash, hlast hpath]

theorem isAbsolute_push (h : IsName name) (path : String) :
    isAbsolute (push path name) = isAbsolute path := by
  by_cases hempty : path = ""
  · rw [hempty, push_empty h, h.isAbsolute_eq]
    rfl
  have hhead : ∀ after : String, isAbsolute (path ++ after) = isAbsolute path := by
    intro after
    simp [isAbsolute, hempty]
  by_cases hslash : path.toList.getLast? = some '/'
  · simp [push, h.isAbsolute_eq, hslash, hhead]
  · rw [push_other h hempty hslash, String.append_assoc, hhead]

/-- A path that is extended stays as it is. -/
theorem exists_push_eq_append (h : IsName name) (path : String) :
    ∃ more, push path name = path ++ more := by
  unfold push
  rw [h.isAbsolute_eq, if_neg (by simp)]
  split
  · exact ⟨name, rfl⟩
  · exact ⟨"/" ++ name, String.append_assoc ..⟩

end Push

/-- Several names, one after the other. -/
theorem components_foldl_push {names : List String} (h : ∀ name ∈ names, IsName name)
    (root : String) : components (names.foldl push root) = components root ++ names ∧
      isAbsolute (names.foldl push root) = isAbsolute root := by
  induction names generalizing root with
  | nil => exact ⟨(List.append_nil _).symm, rfl⟩
  | cons name names ih =>
    have hname := h name List.mem_cons_self
    obtain ⟨hcomponents, habsolute⟩ :=
      ih (fun other hother => h other (List.mem_cons_of_mem name hother)) (push root name)
    rw [List.foldl_cons, hcomponents, habsolute, components_push hname, isAbsolute_push hname,
      List.append_assoc, List.singleton_append]
    exact ⟨rfl, rfl⟩

/-- The segments of a request path are names, if none of them leads up. -/
theorem isName_of_mem_segments {rest name : String} (h : name ∈ segments rest)
    (hdots : name ≠ "..") : IsName name := by
  obtain ⟨hmem, hkeep⟩ := List.mem_filter.mp h
  have hkeep : name ≠ "" ∧ name ≠ "." := by simpa using hkeep
  exact ⟨hkeep.1, hkeep.2, hdots, fun hslash => (mem_of_mem_parts hmem hslash).2 rfl⟩

/-- **What a request path becomes** is the root with ordinary names pushed onto it. -/
theorem exists_names_of_below {location root request path : String}
    (h : below location root request = some path) :
    ∃ names : List String, (∀ name ∈ names, IsName name) ∧ path = names.foldl push root := by
  unfold below at h
  dsimp only at h
  split at h
  · cases h
  · next hdots =>
    refine ⟨_, fun name hname => isName_of_mem_segments hname ?_, (Option.some.inj h).symm⟩
    rintro rfl
    exact hdots (by simpa using hname)

/-- The path of a location with a name after it stands for that name below the root. -/
theorem below_name {name : String} (h : IsName name) (location root : String) :
    below location root (location ++ "/" ++ name) = some (push root name) := by
  have hrelative : relative location (location ++ "/" ++ name) = "" ++ "/" ++ name := by
    apply String.toList_inj.mp
    simp [relative]
  have hsegments : segments ("" ++ "/" ++ name) = [name] := by
    rw [segments, parts_append_slash, h.parts_eq]
    simp [parts, pieces, h.ne_empty, h.ne_dot]
  unfold below
  rw [hrelative, hsegments]
  simp [h.ne_dots.symm]

/-! ### File names -/

theorem fileName?_push {name : String} (h : IsName name) (path : String) :
    fileName? (push path name) = some name := by
  rw [fileName?, components_push h, List.getLast?_concat, Option.filter_some, if_pos]
  rw [decide_eq_true h.ne_dot, decide_eq_true h.ne_dots]
  rfl

/-- After the last item that is kept there is none that is kept. -/
theorem exists_append_of_getLast?_filter {keep : String → Bool} {names : List String}
    {name : String} (h : (names.filter keep).getLast? = some name) :
    ∃ before after, names = before ++ name :: after ∧ keep name = true ∧
      ∀ other ∈ after, keep other = false := by
  obtain ⟨kept, hkept⟩ := List.getLast?_eq_some_iff.mp h
  obtain ⟨first, second, rfl, -, hsecond⟩ := List.filter_eq_append_iff.mp hkept
  obtain ⟨before, after, rfl, -, hname, hafter⟩ := List.filter_eq_cons_iff.mp hsecond
  refine ⟨first ++ before, after, (List.append_assoc ..).symm, hname, fun other hother => ?_⟩
  simpa using List.filter_eq_nil_iff.mp hafter other hother

/-- The file name of a path is a part of it that is a name, and the parts that come after it
do not lead anywhere. -/
theorem exists_parts_of_fileName? {path name : String} (h : fileName? path = some name) :
    IsName name ∧ ∃ before after, parts path = before ++ name :: after ∧
      ∀ part ∈ after, part = "" ∨ part = "." := by
  obtain ⟨hlast, hdots⟩ := Option.filter_eq_some_iff.mp h
  have hdots : name ≠ "." ∧ name ≠ ".." := by simpa using hdots
  have hparts : name ≠ "" ∧ ∃ before after, parts path = before ++ name :: after ∧
      ∀ part ∈ after, (part ≠ "" && part ≠ ".") = false := by
    cases hpath : parts path with
    | nil => exact absurd hpath (parts_ne_nil path)
    | cons first rest =>
      rw [components_of_parts hpath, List.getLast?_append, Option.or_eq_some_iff] at hlast
      rcases hlast with hrest | ⟨hnone, hfirst⟩
      · obtain ⟨before, after, hsplit, hkeep, hafter⟩ := exists_append_of_getLast?_filter hrest
        refine ⟨fun hempty => ?_, first :: before, after, by rw [hsplit]; rfl, hafter⟩
        simp [hempty] at hkeep
      · -- none of the others counts, so it is the first part
        split at hfirst
        · cases hfirst
        · next hne =>
          obtain rfl := Option.some.inj hfirst
          have hdrop := List.filter_eq_nil_iff.mp (List.getLast?_eq_none_iff.mp hnone)
          exact ⟨hne, [], rest, rfl, fun part hpart => by simpa using hdrop part hpart⟩
  obtain ⟨hempty, before, after, hpath, hafter⟩ := hparts
  have hmem : name ∈ parts path := by
    rw [hpath]
    exact List.mem_append_right before List.mem_cons_self
  refine ⟨⟨hempty, hdots.1, hdots.2, fun hslash => (mem_of_mem_parts hmem hslash).2 rfl⟩,
    before, after, hpath, fun part hpart => ?_⟩
  simpa [Decidable.or_iff_not_imp_left] using hafter part hpart

/-- The extension of a name is what stands after its last dot. -/
theorem extension?_push {stem after : List Char} (hstem : stem ≠ []) (hafter : '.' ∉ after)
    (h : IsName (String.ofList (stem ++ '.' :: after))) (path : String) :
    extension? (push path (String.ofList (stem ++ '.' :: after))) =
      some (String.ofList after) := by
  have hreverse : (stem ++ '.' :: after).reverse = after.reverse ++ '.' :: stem.reverse := by
    simp
  have hnoDot : ∀ c ∈ after.reverse, decide (c ≠ '.') = true := by
    intro c hc
    rw [decide_eq_true_eq]
    rintro rfl
    exact hafter (List.mem_reverse.mp hc)
  rw [extension?, fileName?_push h]
  dsimp only
  rw [String.toList_ofList, hreverse, List.takeWhile_append_of_pos hnoDot,
    List.dropWhile_append_of_pos hnoDot]
  simp [hstem]

/-! ### Plain paths -/

/-- A path that leads down only, to something with a name of its own: it is not empty, does
not end in a slash, and none of its parts is `.` or `..`. -/
structure IsPlain (path : String) : Prop where
  /-- It is not empty. -/
  ne_empty : path ≠ ""
  /-- It does not end in a slash. -/
  no_slash : path.toList.getLast? ≠ some '/'
  /-- It does not lead up or stay. -/
  no_dots : ∀ part ∈ parts path, part ≠ "." ∧ part ≠ ".."

/-- Only an empty text and one that ends with a separator have an empty last piece. -/
theorem eq_nil_or_getLast?_of_pieces {sep : Char} {cs : List Char}
    (h : (pieces sep cs).getLast? = some []) : cs = [] ∨ cs.getLast? = some sep := by
  induction cs with
  | nil => exact Or.inl rfl
  | cons c cs ih =>
    right
    rw [pieces] at h
    split at h
    · next heq =>
      rw [List.getLast?_cons_of_ne_nil (pieces_ne_nil sep cs)] at h
      rcases ih h with rfl | hlast
      · rw [heq, List.getLast?_singleton]
      · rw [List.getLast?_cons, hlast]
        rfl
    · cases hcs : pieces sep cs with
      | nil => exact absurd hcs (pieces_ne_nil sep cs)
      | cons first more =>
        rw [hcs] at h ih
        cases more with
        | nil => simp at h
        | cons second more =>
          rcases ih (by simpa using h) with rfl | hlast
          · simp [pieces] at hcs
          · rw [List.getLast?_cons, hlast]
            rfl

/-- A path is plain if its last part is a name and no part is `.` or `..`. -/
theorem isPlain_iff {path : String} : IsPlain path ↔
    (parts path).getLast? ≠ some "" ∧ ∀ part ∈ parts path, part ≠ "." ∧ part ≠ ".." := by
  constructor
  · rintro ⟨hempty, hslash, hdots⟩
    refine ⟨fun hlast => ?_, hdots⟩
    rw [parts, List.getLast?_map, Option.map_eq_some_iff] at hlast
    obtain ⟨piece, hpiece, hnil⟩ := hlast
    obtain rfl : piece = [] := by simpa using congrArg String.toList hnil
    rcases eq_nil_or_getLast?_of_pieces hpiece with hcs | hcs
    · exact hempty (String.toList_eq_nil_iff.mp hcs)
    · exact hslash hcs
  · rintro ⟨hlast, hdots⟩
    refine ⟨?_, fun hslash => hlast ?_, hdots⟩
    · rintro rfl
      exact hlast rfl
    · obtain ⟨before, rfl⟩ := exists_eq_append_slash hslash
      rw [parts_append_slash, List.getLast?_append]
      rfl

namespace IsPlain

variable {path : String}

theorem components_eq (h : IsPlain path) : components path = (parts path).filter (· ≠ "") := by
  cases hparts : parts path with
  | nil => exact absurd hparts (parts_ne_nil path)
  | cons first rest =>
    have hrest : rest.filter (fun part => part ≠ "" && part ≠ ".") = rest.filter (· ≠ "") := by
      refine List.filter_congr fun part hpart => ?_
      have hdot := (h.no_dots part (by rw [hparts]; exact List.mem_cons_of_mem _ hpart)).1
      simp [hdot]
    rw [components_of_parts hparts, hrest]
    by_cases hfirst : first = "" <;> simp [hfirst]

theorem isName (h : IsPlain path) {name : String} (hname : name ∈ components path) :
    IsName name := by
  rw [h.components_eq] at hname
  obtain ⟨hmem, hne⟩ := List.mem_filter.mp hname
  obtain ⟨hdot, hdots⟩ := h.no_dots name hmem
  exact ⟨by simpa using hne, hdot, hdots, fun hslash => (mem_of_mem_parts hmem hslash).2 rfl⟩

theorem push (h : IsPlain path) {name : String} (hname : IsName name) :
    IsPlain (push path name) := by
  rw [push_other hname h.ne_empty h.no_slash, isPlain_iff, parts_append_slash, hname.parts_eq]
  refine ⟨?_, fun part hpart => ?_⟩
  · simpa using hname.ne_empty
  · rcases List.mem_append.mp hpart with hpart | hpart
    · exact h.no_dots part hpart
    · rw [List.mem_singleton.mp hpart]
      exact ⟨hname.ne_dot, hname.ne_dots⟩

theorem foldl_push (h : IsPlain path) {names : List String} (hnames : ∀ n ∈ names, IsName n) :
    IsPlain (names.foldl Path.push path) := by
  induction names generalizing path with
  | nil => exact h
  | cons name names ih =>
    exact ih (h.push (hnames name List.mem_cons_self))
      fun n hn => hnames n (List.mem_cons_of_mem name hn)

end IsPlain

/-! ### The path of some names -/

/-- The path of some names, from the root of the file system or not. -/
def ofNames (absolute : Bool) (names : List String) : String :=
  (if absolute then "/" else "") ++ "/".intercalate names

/-- Texts without slashes are the parts of the path that they make up. -/
theorem parts_intercalate {names : List String} (hne : names ≠ [])
    (h : ∀ name ∈ names, '/' ∉ name.toList) : parts ("/".intercalate names) = names := by
  induction names with
  | nil => exact absurd rfl hne
  | cons name rest ih =>
    have hname := parts_of_not_mem (h name List.mem_cons_self)
    cases rest with
    | nil => simpa using hname
    | cons other rest =>
      rw [String.intercalate_cons_cons, parts_append_slash, hname,
        ih (List.cons_ne_nil _ _) fun n hn => h n (List.mem_cons_of_mem name hn)]
      rfl

/-- A path is made up of its parts. -/
theorem intercalate_parts (path : String) : "/".intercalate (parts path) = path := by
  have hpieces : ∀ cs : List Char,
      "/".intercalate ((pieces '/' cs).map String.ofList) = String.ofList cs := by
    intro cs
    induction cs with
    | nil => rfl
    | cons c cs ih =>
      rw [pieces]
      cases hcs : pieces '/' cs with
      | nil => exact absurd hcs (pieces_ne_nil '/' cs)
      | cons first more =>
        rw [hcs, List.map_cons] at ih
        split
        · next heq =>
          rw [List.map_cons, List.map_cons, String.intercalate_cons_cons, ih, heq,
            String.ofList_cons]
          rfl
        · rw [List.map_cons, String.ofList_cons, String.ofList_cons, ← ih]
          cases more.map String.ofList with
          | nil => simp
          | cons second more => simp [String.intercalate_cons_cons, String.append_assoc]
  rw [parts, hpieces, String.ofList_toList]

theorem parts_ofNames {names : List String} (absolute : Bool) (hne : names ≠ [])
    (h : ∀ name ∈ names, IsName name) :
    parts (ofNames absolute names) = (if absolute then [""] else []) ++ names := by
  have hnames := parts_intercalate hne fun name hname => (h name hname).no_slash
  cases absolute with
  | true =>
    have hparts := parts_append_slash "" ("/".intercalate names)
    rw [hnames] at hparts
    exact hparts
  | false => simpa [ofNames] using hnames

section OfNames

variable {names : List String} (absolute : Bool) (hne : names ≠ [])
  (h : ∀ name ∈ names, IsName name)

include hne h

theorem isPlain_ofNames : IsPlain (ofNames absolute names) := by
  rw [isPlain_iff, parts_ofNames absolute hne h]
  refine ⟨fun hlast => ?_, fun part hpart => ?_⟩
  · rw [List.getLast?_append, List.getLast?_eq_some_getLast hne, Option.some_or] at hlast
    have hempty := h _ (List.getLast_mem hne)
    rw [Option.some.inj hlast] at hempty
    exact hempty.ne_empty rfl
  · rcases List.mem_append.mp hpart with hpart | hpart
    · cases absolute <;> simp at hpart
      subst hpart
      decide
    · exact ⟨(h part hpart).ne_dot, (h part hpart).ne_dots⟩

theorem components_ofNames : components (ofNames absolute names) = names := by
  have hkeep : names.filter (· ≠ "") = names :=
    List.filter_eq_self.mpr fun name hname => decide_eq_true (h name hname).ne_empty
  rw [(isPlain_ofNames absolute hne h).components_eq, parts_ofNames absolute hne h,
    List.filter_append, hkeep]
  cases absolute <;> rfl

theorem isAbsolute_ofNames : isAbsolute (ofNames absolute names) = absolute := by
  cases absolute with
  | true => exact isAbsolute_eq_true_iff.mpr ⟨"/".intercalate names, rfl⟩
  | false =>
    -- an absolute path has an empty first part, and no name is empty
    rw [Bool.eq_false_iff]
    intro habsolute
    obtain ⟨rest, hrest⟩ := isAbsolute_eq_true_iff.mp habsolute
    have hparts := parts_ofNames false hne h
    rw [hrest, parts_append_slash] at hparts
    have hempty : "" ∈ parts "" ++ parts rest := List.mem_append_left _ (by decide)
    rw [hparts] at hempty
    exact (h "" (by simpa using hempty)).ne_empty rfl

end OfNames

/-! ### Lengths -/

theorem utf8ByteSize_ofList_cons (c : Char) (cs : List Char) :
    (String.ofList (c :: cs)).utf8ByteSize = c.utf8Size + (String.ofList cs).utf8ByteSize := by
  rw [String.ofList_cons, String.utf8ByteSize_append, String.utf8ByteSize_singleton]

theorem length_le_utf8ByteSize (name : String) : name.toList.length ≤ name.utf8ByteSize := by
  have hlist : ∀ cs : List Char, cs.length ≤ (String.ofList cs).utf8ByteSize := by
    intro cs
    induction cs with
    | nil => exact Nat.zero_le _
    | cons c cs ih =>
      have hpos := c.utf8Size_pos
      rw [utf8ByteSize_ofList_cons, List.length_cons]
      omega
  simpa using hlist name.toList

/-- The bytes of some names, with one more for each. -/
def measure : List String → Nat
  | [] => 0
  | name :: rest => name.utf8ByteSize + 1 + measure rest

theorem measure_le_of_sublist {names others : List String} (h : names.Sublist others) :
    measure names ≤ measure others := by
  induction h with
  | slnil => exact Nat.le_refl _
  | cons name _ ih =>
    rw [measure]
    omega
  | cons_cons name _ ih =>
    rw [measure, measure]
    omega

/-- The parts of a path are as long as the path, with one slash fewer than there are
parts. -/
theorem measure_parts (path : String) : measure (parts path) = path.utf8ByteSize + 1 := by
  have hpieces : ∀ cs : List Char, measure ((pieces '/' cs).map String.ofList) =
      (String.ofList cs).utf8ByteSize + 1 := by
    intro cs
    induction cs with
    | nil => rfl
    | cons c cs ih =>
      rw [utf8ByteSize_ofList_cons, pieces]
      split
      · next heq =>
        subst heq
        have hslash : '/'.utf8Size = 1 := by decide
        have hempty : (String.ofList []).utf8ByteSize = 0 := rfl
        rw [List.map_cons, measure, ih, hslash, hempty]
        omega
      · cases hcs : pieces '/' cs with
        | nil => exact absurd hcs (pieces_ne_nil '/' cs)
        | cons first more =>
          rw [hcs] at ih
          simp only [List.map_cons, measure, utf8ByteSize_ofList_cons] at ih ⊢
          omega
  rw [parts, hpieces, String.ofList_toList]

end Waymark.Path
