import Mathlib.Data.List.Basic
import Waymark.Config.Server
import Waymark.Proofs.Outcome
import Waymark.Proofs.Token.Grammar

/-!
# Waymark.Proofs.Server.Location

What one location statement stands for.

* `IsNormalPath` says what the normal form of a path is without computing it, and
  `isNormalPath_iff` that `normalizePath` computes it;
* `resolveLocation_eq_ok_iff` says which statements resolve, and to which locations;
* `ArgumentFault` and `LocationFault` say for each error what was found, and
  `fault_of_resolveLocation` that nothing else is reported;
* the position of a statement decides nothing but the position of its location.
-/

namespace Waymark.Config

/-! ### Normal paths -/

/-- The normal form of a path: a pattern stays as it is, slashes alone become one slash,
and any other path loses the slashes at its end. -/
inductive IsNormalPath : MatchKind → (path normal : String) → Prop where
  /-- A pattern. -/
  | pattern {kind path} : kind.isPattern = true → IsNormalPath kind path path
  /-- Slashes alone. -/
  | slashes {kind path} : kind.isPattern = false → path ≠ "" →
      (∀ c ∈ path.toList, c = '/') → IsNormalPath kind path "/"
  /-- Something that does not end in a slash, and slashes. -/
  | trimmed {kind path kept slashes} : kind.isPattern = false → kept ≠ [] →
      kept.getLast? ≠ some '/' → (∀ c ∈ slashes, c = '/') → path.toList = kept ++ slashes →
      IsNormalPath kind path (String.ofList kept)

/-- Every text has the slashes at its end, if any, and what stands before them. -/
theorem exists_trailing_slashes (cs : List Char) :
    ∃ kept slashes, cs = kept ++ slashes ∧ kept.getLast? ≠ some '/' ∧ ∀ c ∈ slashes, c = '/' := by
  refine ⟨(cs.reverse.dropWhile (· == '/')).reverse, (cs.reverse.takeWhile (· == '/')).reverse,
    ?_, ?_, ?_⟩
  · rw [← List.reverse_append, List.takeWhile_append_dropWhile, List.reverse_reverse]
  · intro hlast
    rw [List.getLast?_reverse] at hlast
    exact absurd (head?_dropWhile_eq_false '/' hlast) (by decide)
  · intro c hc
    have htake := List.mem_takeWhile_imp (List.mem_reverse.mp hc)
    exact eq_of_beq htake

/-- What `normalizePath` makes of the two parts of a path. -/
theorem normalizePath_of_split {kind : MatchKind} {path : String} {kept slashes : List Char}
    (hkind : kind.isPattern = false) (hsplit : path.toList = kept ++ slashes)
    (hlast : kept.getLast? ≠ some '/') (hall : ∀ c ∈ slashes, c = '/') :
    normalizePath kind path = if kept = [] ∧ path ≠ "" then "/" else String.ofList kept := by
  have hrun : ∀ c ∈ slashes.reverse, decide (c = '/') = true := by
    intro c hc
    exact decide_eq_true (hall c (List.mem_reverse.mp hc))
  have hrest : ∀ c ∈ kept.reverse.head?, decide (c = '/') = false := by
    intro c hc
    rw [List.head?_reverse] at hc
    refine decide_eq_false fun heq => hlast ?_
    rw [← heq]
    exact hc
  have hkept : (path.toList.reverse.dropWhile (· = '/')).reverse = kept := by
    rw [hsplit, List.reverse_append, dropWhile_run hrun hrest, List.reverse_reverse]
  simp [normalizePath, hkind, hkept]

/-- **Paths are normalised as specified.** -/
theorem isNormalPath_iff {kind : MatchKind} {path normal : String} (hpath : path ≠ "") :
    IsNormalPath kind path normal ↔ normalizePath kind path = normal := by
  constructor
  · intro h
    cases h with
    | pattern hkind => rw [normalizePath, if_pos hkind]
    | slashes hkind _ hall =>
      rw [normalizePath_of_split hkind (List.nil_append _).symm (by simp) hall,
        if_pos ⟨rfl, hpath⟩]
    | trimmed hkind hne hlast hall hsplit =>
      rw [normalizePath_of_split hkind hsplit hlast hall, if_neg fun h => hne h.1]
  · rintro rfl
    cases hkind : kind.isPattern with
    | true =>
      rw [normalizePath, if_pos hkind]
      exact .pattern hkind
    | false =>
      obtain ⟨kept, slashes, hsplit, hlast, hall⟩ := exists_trailing_slashes path.toList
      rw [normalizePath_of_split hkind hsplit hlast hall]
      by_cases hnil : kept = []
      · rw [if_pos ⟨hnil, hpath⟩]
        rw [hnil, List.nil_append] at hsplit
        exact .slashes hkind hpath (hsplit ▸ hall)
      · rw [if_neg fun h => hnil h.1]
        exact .trimmed hkind hnil hlast hall hsplit

theorem IsNormalPath.ne_empty {kind : MatchKind} {path normal : String}
    (h : IsNormalPath kind path normal) (hpath : path ≠ "") : normal ≠ "" := by
  cases h with
  | pattern => exact hpath
  | slashes => decide
  | trimmed _ hkept =>
    intro heq
    have hnil := congrArg String.toList heq
    rw [String.toList_ofList] at hnil
    exact hkept hnil

/-! ### Faults -/

/-- Why a statement in the body of a location gives no argument, after some that are given. -/
inductive ArgumentFault (handler : String) (expected : List String) (given : Arguments)
    (s : Statement) : ResolveError → Prop where
  /-- It is not a keyword and a value. -/
  | malformed : s.isBlock = true ∨ s.words.length ≠ 2 →
      ArgumentFault handler expected given s (.malformedArgument s.span)
  /-- Its keyword is not expected. -/
  | unexpected {keyword value} : s.words = [keyword, value] → keyword ∉ expected →
      ArgumentFault handler expected given s (.unexpectedArgument handler keyword s.span)
  /-- Its keyword is given before. -/
  | again {keyword value} : s.words = [keyword, value] → given.contains keyword = true →
      ArgumentFault handler expected given s (.duplicateArgument keyword s.span)

variable {H : Type}

/-- Why a location statement gives no location. -/
inductive LocationFault (registry : Registry H) (s : Statement) : ResolveError → Prop where
  /-- It has too few or too many words. -/
  | words : s.args.length ≠ 2 → s.args.length ≠ 3 →
      LocationFault registry s (.malformedLocation s.span)
  /-- Its modifier is none. -/
  | modifier {modifier path handler} : s.args = [modifier, path, handler] →
      MatchKind.ofModifier? modifier = none →
      LocationFault registry s (.unknownModifier modifier s.span)
  /-- Its path is empty. -/
  | path {kind word handler} : locationHead s = .ok (kind, word, handler) → unquote word = "" →
      LocationFault registry s (.emptyPath s.span)
  /-- Its handler is not registered. -/
  | handler {kind word handler} : locationHead s = .ok (kind, word, handler) →
      registry.expectedOf? handler = none →
      LocationFault registry s (.unknownHandler handler s.span)
  /-- A statement in its body gives no argument. -/
  | argument {handler expected given t error} : registry.expectedOf? handler = some expected →
      t ∈ s.body → ArgumentFault handler expected given t error → LocationFault registry s error
  /-- Its body does not give all that its handler expects. -/
  | missing {handler expected given} : registry.expectedOf? handler = some expected →
      readArguments handler expected {} s.body = .ok given →
      expected.filter (!given.contains ·) ≠ [] →
      LocationFault registry s
        (.missingArguments handler (expected.filter (!given.contains ·)) s.span)

/-- Reading a body stops at a statement that gives no argument. -/
theorem fault_of_readArguments {handler : String} {expected : List String} {args : Arguments}
    {body : List Statement} {error : ResolveError}
    (h : readArguments handler expected args body = .error error) :
    ∃ t ∈ body, ∃ given, ArgumentFault handler expected given t error := by
  induction body generalizing args with
  | nil => cases h
  | cons s rest ih =>
    rw [readArguments] at h
    split at h
    · next keyword value hplain hwords =>
      split at h
      · next hexpected =>
        obtain rfl := Except.error.inj h
        exact ⟨s, by simp, args, .unexpected hwords (by simpa using hexpected)⟩
      · split at h
        · next hgiven =>
          obtain rfl := Except.error.inj h
          exact ⟨s, by simp, args, .again hwords hgiven⟩
        · obtain ⟨t, ht, hfault⟩ := ih h
          exact ⟨t, List.mem_cons_of_mem _ ht, hfault⟩
    · next hnone =>
      obtain rfl := Except.error.inj h
      refine ⟨s, by simp, args, .malformed ?_⟩
      by_cases hblock : s.isBlock = true
      · exact Or.inl hblock
      · refine Or.inr fun hlength => ?_
        obtain ⟨keyword, value, hwords⟩ := List.length_eq_two.mp hlength
        exact hnone keyword value (by simpa using hblock) hwords

theorem fault_of_locationHead {registry : Registry H} {s : Statement} {error : ResolveError}
    (h : locationHead s = .error error) : LocationFault registry s error := by
  unfold locationHead at h
  split at h
  · cases h
  · next modifier path handler hargs =>
    split at h
    · cases h
    · next hmodifier =>
      obtain rfl := Except.error.inj h
      exact .modifier hargs hmodifier
  · next htwo hthree =>
    obtain rfl := Except.error.inj h
    refine .words (fun hlength => ?_) (fun hlength => ?_)
    · obtain ⟨path, handler, hargs⟩ := List.length_eq_two.mp hlength
      exact htwo path handler hargs
    · obtain ⟨modifier, path, handler, hargs⟩ := List.length_eq_three.mp hlength
      exact hthree modifier path handler hargs

/-! ### Resolution -/

/-- What is left to do after the words of a location statement are read. -/
theorem resolveLocation_of_head {registry : Registry H} {s : Statement} {kind : MatchKind}
    {word handler : String} {expected : List String} (order : Nat)
    (hhead : locationHead s = .ok (kind, word, handler)) (hword : unquote word ≠ "")
    (hexpected : registry.expectedOf? handler = some expected) :
    resolveLocation registry order s =
      readArguments handler expected {} s.body >>= fun args =>
        if expected.filter (!args.contains ·) ≠ [] then
          .error (.missingArguments handler (expected.filter (!args.contains ·)) s.span)
        else .ok ⟨normalizePath kind (unquote word), kind, handler, args, order⟩ := by
  simp only [resolveLocation, hhead, hexpected, Outcome.ok_bind]
  rw [if_neg hword]
  rfl

/-- A location statement gives a location: its words are a path that is not empty and a
registered handler, and its body gives each argument that the handler expects. -/
structure Gives (registry : Registry H) (s : Statement) (location : Location) : Prop where
  /-- The words are read. -/
  head : ∃ word, locationHead s = .ok (location.kind, word, location.handler) ∧
    unquote word ≠ "" ∧ normalizePath location.kind (unquote word) = location.path
  /-- The handler is registered, and the body gives what it expects. -/
  args : ∃ expected, registry.expectedOf? location.handler = some expected ∧
    readArguments location.handler expected {} s.body = .ok location.args ∧
    ∀ keyword ∈ expected, location.args.contains keyword = true

theorem Gives.path_ne_empty {registry : Registry H} {s : Statement} {location : Location}
    (h : Gives registry s location) : location.path ≠ "" := by
  obtain ⟨word, -, hword, hnormal⟩ := h.head
  exact ((isNormalPath_iff hword).mpr hnormal).ne_empty hword

/-- What a statement gives, it resolves to. -/
theorem Gives.resolveLocation_eq {registry : Registry H} {s : Statement} {location : Location}
    (h : Gives registry s location) : resolveLocation registry location.order s = .ok location := by
  obtain ⟨word, hhead, hpath, hnormal⟩ := h.head
  obtain ⟨expected, hexpected, hargs, hgiven⟩ := h.args
  have hnone : expected.filter (!location.args.contains ·) = [] := by simpa using hgiven
  rw [resolveLocation_of_head location.order hhead hpath hexpected, hargs, Outcome.ok_bind,
    if_neg (not_not_intro hnone), hnormal]

/-- Either a statement is refused at every position, for one of the reasons, or it gives a
location at each. -/
theorem resolveLocation_cases (registry : Registry H) (s : Statement) :
    (∃ error, LocationFault registry s error ∧
      ∀ order, resolveLocation registry order s = .error error) ∨
      ∃ location : Location, ∀ order, Gives registry s { location with order := order } := by
  cases hhead : locationHead s with
  | error e =>
    refine Or.inl ⟨e, fault_of_locationHead hhead, fun order => ?_⟩
    simp [resolveLocation, hhead]
  | ok head =>
    obtain ⟨kind, word, handler⟩ := head
    by_cases hpath : unquote word = ""
    · refine Or.inl ⟨.emptyPath s.span, .path hhead hpath, fun order => ?_⟩
      simp [resolveLocation, hhead, hpath]
    cases hexpected : registry.expectedOf? handler with
    | none =>
      refine Or.inl ⟨.unknownHandler handler s.span, .handler hhead hexpected, fun order => ?_⟩
      simp [resolveLocation, hhead, hpath, hexpected]
    | some expected =>
      cases hargs : readArguments handler expected {} s.body with
      | error e =>
        obtain ⟨t, ht, given, hfault⟩ := fault_of_readArguments hargs
        refine Or.inl ⟨e, .argument hexpected ht hfault, fun order => ?_⟩
        rw [resolveLocation_of_head order hhead hpath hexpected, hargs, Outcome.error_bind]
      | ok args =>
        by_cases hmissing : expected.filter (!args.contains ·) = []
        · right
          refine ⟨⟨normalizePath kind (unquote word), kind, handler, args, 0⟩, fun order => ?_⟩
          exact ⟨⟨word, hhead, hpath, rfl⟩, expected, hexpected, hargs, by simpa using hmissing⟩
        · refine Or.inl ⟨_, .missing hexpected hargs hmissing, fun order => ?_⟩
          rw [resolveLocation_of_head order hhead hpath hexpected, hargs, Outcome.ok_bind,
            if_pos hmissing]

/-- **What a statement resolves to.** -/
theorem resolveLocation_eq_ok_iff {registry : Registry H} {order : Nat} {s : Statement}
    {location : Location} :
    resolveLocation registry order s = .ok location ↔
      Gives registry s location ∧ location.order = order := by
  constructor
  · intro h
    rcases resolveLocation_cases registry s with ⟨error, -, herror⟩ | ⟨found, hfound⟩
    · simp [herror] at h
    · -- what it gives at this position is what it resolves to there
      have heq := (hfound order).resolveLocation_eq
      obtain rfl := Except.ok.inj (heq.symm.trans h)
      exact ⟨hfound order, rfl⟩
  · rintro ⟨hgives, rfl⟩
    exact hgives.resolveLocation_eq

/-- **Why a statement does not resolve.** -/
theorem fault_of_resolveLocation {registry : Registry H} {order : Nat} {s : Statement}
    {error : ResolveError} (h : resolveLocation registry order s = .error error) :
    LocationFault registry s error := by
  rcases resolveLocation_cases registry s with ⟨found, hfault, herror⟩ | ⟨location, hgives⟩
  · obtain rfl := Except.error.inj ((herror order).symm.trans h)
    exact hfault
  · have hresolve := (hgives order).resolveLocation_eq
    dsimp only at hresolve
    rw [hresolve] at h
    cases h

/-- The position of a statement is that of its location, and decides nothing else. -/
theorem resolveLocation_order (registry : Registry H) (order : Nat) (s : Statement) :
    resolveLocation registry order s =
      (resolveLocation registry 0 s).map fun location => { location with order := order } := by
  rcases resolveLocation_cases registry s with ⟨error, -, herror⟩ | ⟨location, hgives⟩
  · rw [herror order, herror 0]
    rfl
  · have hthere := (hgives order).resolveLocation_eq
    have hfirst := (hgives 0).resolveLocation_eq
    dsimp only at hthere hfirst
    rw [hthere, hfirst]
    rfl

/-- A statement resolves at a position to what it resolves to on its own, with that
position. -/
theorem exists_of_resolveLocation_eq_ok {registry : Registry H} {order : Nat} {s : Statement}
    {location : Location} (h : resolveLocation registry order s = .ok location) :
    ∃ alone, resolveLocation registry 0 s = .ok alone ∧
      location = { alone with order := order } := by
  rw [resolveLocation_order] at h
  cases halone : resolveLocation registry 0 s with
  | error e =>
    rw [halone] at h
    cases h
  | ok alone =>
    rw [halone] at h
    exact ⟨alone, rfl, (Except.ok.inj h).symm⟩

/-- A statement that is refused at a position is refused on its own. -/
theorem resolveLocation_zero_eq_error {registry : Registry H} {order : Nat} {s : Statement}
    {error : ResolveError} (h : resolveLocation registry order s = .error error) :
    resolveLocation registry 0 s = .error error := by
  rw [resolveLocation_order] at h
  cases halone : resolveLocation registry 0 s with
  | error e =>
    rw [halone] at h
    exact h
  | ok alone =>
    rw [halone] at h
    cases h

/-- A location statement gives a path whose normal form is `path`. -/
def Declares (s : Statement) (path : String) : Prop :=
  ∃ kind word handler, locationHead s = .ok (kind, word, handler) ∧
    IsNormalPath kind (unquote word) path

/-- The path of a location is the normal form of the one that its statement gives, and of
no other. -/
theorem Gives.declares_iff {registry : Registry H} {s : Statement} {location : Location}
    (h : Gives registry s location) {path : String} : Declares s path ↔ path = location.path := by
  obtain ⟨word, hhead, hpath, hnormal⟩ := h.head
  constructor
  · rintro ⟨kind, word', handler, hhead', hnormal'⟩
    rw [hhead] at hhead'
    obtain ⟨rfl, rfl, rfl⟩ : location.kind = kind ∧ word = word' ∧ location.handler = handler := by
      simpa using hhead'
    rw [← hnormal]
    exact ((isNormalPath_iff hpath).mp hnormal').symm
  · rintro rfl
    exact ⟨_, word, _, hhead, (isNormalPath_iff hpath).mpr hnormal⟩

end Waymark.Config
