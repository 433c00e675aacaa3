import Mathlib.Data.List.Perm.Subperm
import Mathlib.Data.List.Induction
import Mathlib.Data.List.Sort
import Waymark.Proofs.Server.Location
import Waymark.Proofs.Table

/-!
# Waymark.Proofs.Server.Contract

The arguments of a location are what its handler expects, or the location is refused.

The reader of a body has the arguments it has read so far, and judges each statement by them. What
it has read is a function of the statements before, so the same can be said of these alone:

* `Accepted` says of a list of statements, in any order, that they are arguments of a handler;
* `BreaksContract` says what is wrong with a statement that comes after accepted ones;
* `accepted_or_breaks` leaves nothing between the two.

An argument is missing exactly when there are fewer than expected
(`Accepted.size_eq_length_iff`). This holds after the other checks only: without them, an unknown
keyword would make up for a missing one.
-/

namespace Waymark

namespace Registry

variable {H : Type}

/-- A registry that handlers have been put into one by one. -/
inductive Made : Registry H → Prop where
  /-- There is none yet. -/
  | empty : Made {}
  /-- One more. -/
  | register {registry name expected make} :
      Made registry → Made (registry.register name expected make)

/-- Of two handlers with one name the later counts. -/
theorem expectedOf?_register (registry : Registry H) (name other : String)
    (expected : List String) (make : String → Arguments → H) :
    (registry.register name expected make).expectedOf? other =
      if other = name then some (sortedDistinct expected) else registry.expectedOf? other := by
  rw [expectedOf?, register, Table.get?_insert]
  split <;> rfl

/-- The keywords that a handler expects are listed in ascending order, each once. -/
theorem Made.pairwise_expected {registry : Registry H} (h : registry.Made) {name : String}
    {expected : List String} (hexpected : registry.expectedOf? name = some expected) :
    expected.Pairwise (· < ·) := by
  induction h with
  | empty => cases hexpected
  | register _ ih =>
    rw [expectedOf?_register] at hexpected
    split at hexpected
    · obtain rfl := Option.some.inj hexpected
      exact Table.pairwise_keys _
    · exact ih hexpected

end Registry

namespace Config

/-! ### The head -/

/-- The arguments of a statement are a path and a handler, after one of the four modifiers or
none. -/
def Statement.NamesHandler (s : Statement) (word handler : String) : Prop :=
  s.args = [word, handler] ∨
    ∃ modifier ∈ ["=", "^~", "~", "~*"], s.args = [modifier, word, handler]

theorem exists_ofModifier?_iff {modifier : String} :
    (∃ kind, MatchKind.ofModifier? modifier = some kind) ↔
      modifier ∈ ["=", "^~", "~", "~*"] := by
  simp only [MatchKind.ofModifier?_eq_some_iff]
  constructor
  · intro ⟨kind, hkind⟩
    cases kind <;> simp_all [MatchKind.modifier?]
  · intro hmodifier
    simp only [List.mem_cons, List.not_mem_nil, or_false] at hmodifier
    rcases hmodifier with rfl | rfl | rfl | rfl
    · exact ⟨.exact, rfl⟩
    · exact ⟨.preferredPrefix, rfl⟩
    · exact ⟨.pattern, rfl⟩
    · exact ⟨.patternIgnoringCase, rfl⟩

theorem namesHandler_iff {s : Statement} {word handler : String} :
    s.NamesHandler word handler ↔ ∃ kind, locationHead s = .ok (kind, word, handler) := by
  constructor
  · rintro (hargs | ⟨modifier, hmodifier, hargs⟩)
    · exact ⟨.standardPrefix, by rw [locationHead, hargs]⟩
    · obtain ⟨kind, hkind⟩ := exists_ofModifier?_iff.mpr hmodifier
      exact ⟨kind, by simp only [locationHead, hargs, hkind]⟩
  · rintro ⟨kind, hhead⟩
    unfold locationHead at hhead
    split at hhead
    · next path name hargs =>
      obtain ⟨-, rfl, rfl⟩ : _ ∧ path = word ∧ name = handler := by simpa using hhead
      exact Or.inl hargs
    · next modifier path name hargs =>
      split at hhead
      · next found hfound =>
        obtain ⟨-, rfl, rfl⟩ : _ ∧ path = word ∧ name = handler := by simpa using hhead
        exact Or.inr ⟨modifier, exists_ofModifier?_iff.mp ⟨found, hfound⟩, hargs⟩
      · cases hhead
    · cases hhead

/-! ### Arguments of a handler -/

/-- A statement has the form of an argument: a keyword and a value, and no block. -/
def Statement.IsPair (s : Statement) : Prop := s.isBlock = false ∧ s.words.length = 2

instance (s : Statement) : Decidable s.IsPair :=
  inferInstanceAs (Decidable (s.isBlock = false ∧ s.words.length = 2))

theorem Statement.IsPair.exists_words {s : Statement} (h : s.IsPair) :
    ∃ value, s.words = [s.name, value] := by
  obtain ⟨keyword, value, hwords⟩ := List.length_eq_two.mp h.2
  refine ⟨value, ?_⟩
  rw [Statement.name, hwords, List.headD_cons]

/-- The statements are arguments that a handler takes, each given once. -/
structure Accepted (expected : List String) (statements : List Statement) : Prop where
  /-- Each is a keyword and a value. -/
  pairs : ∀ s ∈ statements, s.IsPair
  /-- Every keyword is expected. -/
  mem_expected : ∀ s ∈ statements, s.name ∈ expected
  /-- No keyword is repeated. -/
  nodup : (statements.map Statement.name).Nodup

/-- The statements are arguments that a handler takes, and all of them. -/
structure FitsContract (expected : List String) (statements : List Statement) : Prop where
  /-- They are arguments of the handler. -/
  accepted : Accepted expected statements
  /-- No keyword is left out. -/
  complete : ∀ keyword ∈ expected, keyword ∈ statements.map Statement.name

/-- What is wrong with a statement in the body of a location, given those before it. -/
inductive BreaksContract (handler : String) (expected : List String) (earlier : List Statement)
    (s : Statement) : ResolveError → Prop where
  /-- It is not a keyword and a value. -/
  | malformed : ¬ s.IsPair → BreaksContract handler expected earlier s (.malformedArgument s.span)
  /-- Otherwise, its keyword is not expected. -/
  | unexpected : s.IsPair → s.name ∉ expected →
      BreaksContract handler expected earlier s (.unexpectedArgument handler s.name s.span)
  /-- Otherwise, its keyword is given before. -/
  | again : s.IsPair → s.name ∈ expected → s.name ∈ earlier.map Statement.name →
      BreaksContract handler expected earlier s (.duplicateArgument s.name s.span)

/-- What is wrong with the body of a location statement. -/
inductive BodyFault (handler : String) (expected : List String) (s : Statement) :
    ResolveError → Prop where
  /-- One of its statements is no argument, and those before it are. -/
  | argument {earlier t later error} : s.body = earlier ++ t :: later →
      Accepted expected earlier → BreaksContract handler expected earlier t error →
      BodyFault handler expected s error
  /-- All of them are, but some keywords are left out, and these are listed in ascending
  order. -/
  | missing {absent} : Accepted expected s.body → absent ≠ [] → absent.Pairwise (· < ·) →
      (∀ keyword, keyword ∈ absent ↔
        keyword ∈ expected ∧ keyword ∉ s.body.map Statement.name) →
      BodyFault handler expected s (.missingArguments handler absent s.span)

/-- The arguments are what the statements say: each keyword has the text that its value stands
for. -/
def Binds (statements : List Statement) (args : Arguments) : Prop :=
  ∀ keyword text, args.get? keyword = some text ↔
    ∃ s ∈ statements, ∃ value, s.words = [keyword, value] ∧ unquote value = text

/-! ### One statement after others -/

section Statements

variable {handler : String} {expected : List String} {earlier statements : List Statement}
  {s : Statement} {args : Arguments}

theorem accepted_nil : Accepted expected [] := ⟨by simp, by simp, by simp⟩

theorem Accepted.concat (h : Accepted expected earlier) (hpair : s.IsPair)
    (hexpected : s.name ∈ expected) (hnew : s.name ∉ earlier.map Statement.name) :
    Accepted expected (earlier ++ [s]) := by
  refine ⟨?_, ?_, ?_⟩
  · simpa [or_imp, forall_and] using ⟨h.pairs, hpair⟩
  · simpa [or_imp, forall_and] using ⟨h.mem_expected, hexpected⟩
  · rw [List.map_append, List.map_singleton, List.nodup_append]
    refine ⟨h.nodup, by simp, ?_⟩
    rintro name hname other hother rfl
    rw [List.mem_singleton.mp hother] at hname
    exact hnew hname

theorem Accepted.of_append {later : List Statement} (h : Accepted expected (earlier ++ later)) :
    Accepted expected earlier := by
  have hnodup := h.nodup
  rw [List.map_append] at hnodup
  exact ⟨fun t ht => h.pairs t (List.mem_append_left _ ht),
    fun t ht => h.mem_expected t (List.mem_append_left _ ht), (List.nodup_append.mp hnodup).1⟩

theorem Accepted.names_subset (h : Accepted expected statements) :
    statements.map Statement.name ⊆ expected := by
  intro name hname
  obtain ⟨s, hs, rfl⟩ := List.mem_map.mp hname
  exact h.mem_expected s hs

/-- All keywords that are expected are given, and no other one. -/
theorem FitsContract.mem_names_iff (h : FitsContract expected statements) {keyword : String} :
    keyword ∈ statements.map Statement.name ↔ keyword ∈ expected :=
  ⟨fun hname => h.accepted.names_subset hname, h.complete keyword⟩

/-- The last of some arguments is a new one. -/
theorem Accepted.last (h : Accepted expected (earlier ++ [s])) :
    s.IsPair ∧ s.name ∈ expected ∧ s.name ∉ earlier.map Statement.name := by
  have hnodup := h.nodup
  rw [List.map_append, List.map_singleton, List.nodup_append] at hnodup
  exact ⟨h.pairs s (by simp), h.mem_expected s (by simp),
    fun hmem => hnodup.2.2 s.name hmem s.name (List.mem_singleton_self _) rfl⟩

/-- After accepted statements the next one is accepted with them, or breaks the contract. -/
theorem Accepted.concat_or_breaks (handler : String) (h : Accepted expected earlier)
    (s : Statement) :
    Accepted expected (earlier ++ [s]) ∨
      ∃ error, BreaksContract handler expected earlier s error := by
  by_cases hpair : s.IsPair
  · by_cases hexpected : s.name ∈ expected
    · by_cases hagain : s.name ∈ earlier.map Statement.name
      · exact Or.inr ⟨_, .again hpair hexpected hagain⟩
      · exact Or.inl (h.concat hpair hexpected hagain)
    · exact Or.inr ⟨_, .unexpected hpair hexpected⟩
  · exact Or.inr ⟨_, .malformed hpair⟩

/-- Statements are accepted, or there is a first one that breaks the contract. -/
theorem accepted_or_breaks (handler : String) (expected : List String)
    (statements : List Statement) :
    Accepted expected statements ∨
      ∃ earlier s later error, statements = earlier ++ s :: later ∧
        Accepted expected earlier ∧ BreaksContract handler expected earlier s error := by
  induction statements using List.reverseRecOn with
  | nil => exact Or.inl accepted_nil
  | append_singleton front s ih =>
    rcases ih with hfront | ⟨earlier, t, later, error, rfl, haccepted, hbreaks⟩
    · rcases hfront.concat_or_breaks handler s with hall | ⟨error, hbreaks⟩
      · exact Or.inl hall
      · exact Or.inr ⟨front, s, [], error, rfl, hfront, hbreaks⟩
    · exact Or.inr ⟨earlier, t, later ++ [s], error, by simp, haccepted, hbreaks⟩

/-! ### Reading -/

/-- A body is read in two parts as it is read in one. -/
theorem readArguments_append (args : Arguments) (earlier later : List Statement) :
    readArguments handler expected args (earlier ++ later) =
      readArguments handler expected args earlier >>= fun given =>
        readArguments handler expected given later := by
  induction earlier generalizing args with
  | nil => rfl
  | cons s rest ih =>
    rw [List.cons_append, readArguments, readArguments]
    split
    · split
      · rfl
      · split
        · rfl
        · exact ih _
    · rfl

/-- What is done with a keyword and a value. -/
theorem Statement.IsPair.readArguments_eq (h : s.IsPair) {value : String}
    (hwords : s.words = [s.name, value]) (rest : List Statement) :
    readArguments handler expected args (s :: rest) =
      if s.name ∉ expected then .error (.unexpectedArgument handler s.name s.span)
      else if args.contains s.name then .error (.duplicateArgument s.name s.span)
      else readArguments handler expected (args.insert s.name (unquote value)) rest := by
  rw [readArguments, h.1, hwords]
  simp

/-- A keyword has an argument if a statement gives it one. -/
theorem Binds.contains_iff (h : Binds statements args) (hpairs : ∀ s ∈ statements, s.IsPair)
    {keyword : String} :
    args.contains keyword = true ↔ keyword ∈ statements.map Statement.name := by
  rw [Table.contains_eq_true_iff, List.mem_map]
  constructor
  · rintro ⟨text, htext⟩
    obtain ⟨s, hs, value, hwords, -⟩ := (h keyword text).mp htext
    exact ⟨s, hs, by rw [Statement.name, hwords, List.headD_cons]⟩
  · rintro ⟨s, hs, hname⟩
    obtain ⟨value, hwords⟩ := (hpairs s hs).exists_words
    exact ⟨unquote value, (h keyword _).mpr ⟨s, hs, value, hname ▸ hwords, rfl⟩⟩

/-- One more statement, one more argument. -/
theorem Binds.concat (h : Binds earlier args) {value : String}
    (hwords : s.words = [s.name, value]) (hnew : args.contains s.name = false) :
    Binds (earlier ++ [s]) (args.insert s.name (unquote value)) := by
  intro keyword text
  rw [Table.get?_insert]
  constructor
  · intro htext
    split at htext
    · next heq =>
      obtain rfl := Option.some.inj htext
      exact ⟨s, by simp, value, heq ▸ hwords, rfl⟩
    · obtain ⟨t, ht, hbinds⟩ := (h keyword text).mp htext
      exact ⟨t, List.mem_append_left _ ht, hbinds⟩
  · rintro ⟨t, ht, other, hother, rfl⟩
    rcases List.mem_append.mp ht with hmem | hmem
    · have hbound := (h keyword (unquote other)).mpr ⟨t, hmem, other, hother, rfl⟩
      rw [if_neg, hbound]
      rintro rfl
      rw [Table.contains_eq_false_iff, hbound] at hnew
      cases hnew
    · obtain rfl := List.mem_singleton.mp hmem
      rw [hwords] at hother
      obtain ⟨rfl, rfl⟩ : t.name = keyword ∧ value = other := by simpa using hother
      rw [if_pos rfl]

/-- Accepted statements are read, each for what it says. -/
theorem Accepted.exists_readArguments (handler : String) (h : Accepted expected statements) :
    ∃ args, readArguments handler expected {} statements = .ok args ∧ Binds statements args := by
  induction statements using List.reverseRecOn with
  | nil => exact ⟨{}, rfl, by simp [Binds]⟩
  | append_singleton front s ih =>
    obtain ⟨args, hread, hbinds⟩ := ih h.of_append
    obtain ⟨hpair, hexpected, hnew⟩ := h.last
    obtain ⟨value, hwords⟩ := hpair.exists_words
    rw [← hbinds.contains_iff h.of_append.pairs, Bool.not_eq_true] at hnew
    refine ⟨_, ?_, hbinds.concat hwords hnew⟩
    rw [readArguments_append, hread, Outcome.ok_bind, hpair.readArguments_eq hwords,
      if_neg (not_not_intro hexpected), hnew]
    rfl

/-- At the first statement that breaks the contract reading stops. -/
theorem BreaksContract.readArguments_eq {error : ResolveError}
    (h : BreaksContract handler expected earlier s error) (hearlier : Accepted expected earlier)
    (later : List Statement) :
    readArguments handler expected {} (earlier ++ s :: later) = .error error := by
  obtain ⟨args, hread, hbinds⟩ := hearlier.exists_readArguments handler
  rw [readArguments_append, hread, Outcome.ok_bind]
  cases h with
  | malformed hpair =>
    rw [readArguments]
    split
    · next hblock hwords => exact absurd ⟨hblock, by rw [hwords]; rfl⟩ hpair
    · rfl
  | unexpected hpair hexpected =>
    obtain ⟨value, hwords⟩ := hpair.exists_words
    rw [hpair.readArguments_eq hwords, if_pos hexpected]
  | again hpair hexpected hagain =>
    obtain ⟨value, hwords⟩ := hpair.exists_words
    rw [← hbinds.contains_iff hearlier.pairs] at hagain
    rw [hpair.readArguments_eq hwords, if_neg (not_not_intro hexpected), if_pos hagain]

/-- What is read has been accepted, and is what the statements say. -/
theorem accepted_of_readArguments
    (h : readArguments handler expected {} statements = .ok args) :
    Accepted expected statements ∧ Binds statements args := by
  rcases accepted_or_breaks handler expected statements with
    haccepted | ⟨earlier, s, later, error, rfl, hearlier, hbreaks⟩
  · obtain ⟨found, hread, hbinds⟩ := haccepted.exists_readArguments handler
    obtain rfl := Except.ok.inj (hread.symm.trans h)
    exact ⟨haccepted, hbinds⟩
  · rw [hbreaks.readArguments_eq hearlier later] at h
    cases h

/-! ### Missing arguments -/

/-- **Arguments that are accepted and as many as expected are all that are expected.** -/
theorem Accepted.size_eq_length_iff (h : Accepted expected statements)
    (hbinds : Binds statements args) (hnodup : expected.Nodup) :
    args.size = expected.length ↔ ∀ keyword ∈ expected, args.contains keyword = true := by
  have hkeys : args.keys ⊆ expected := by
    intro keyword hkeyword
    rw [Table.mem_keys_iff, hbinds.contains_iff h.pairs] at hkeyword
    exact h.names_subset hkeyword
  have hfewer : args.keys.Subperm expected := List.subperm_of_subset args.nodup_keys hkeys
  rw [← Table.length_keys]
  constructor
  · intro hlength keyword hkeyword
    rw [← Table.mem_keys_iff]
    exact (hfewer.perm_of_length_le (Nat.le_of_eq hlength.symm)).mem_iff.mpr hkeyword
  · intro hall
    have hmore : expected.Subperm args.keys :=
      List.subperm_of_subset hnodup fun keyword hkeyword =>
        Table.mem_keys_iff.mpr (hall keyword hkeyword)
    exact Nat.le_antisymm hfewer.length_le hmore.length_le

end Statements

/-! ### Statements whose head is fine -/

section Head

variable {H : Type} {registry : Registry H} {order : Nat} {s : Statement} {kind : MatchKind}
  {word handler : String} {expected : List String}

/-- A body fits the contract of a handler, or is at fault. -/
theorem fitsContract_or_bodyFault (handler : String) (hsorted : expected.Pairwise (· < ·))
    (s : Statement) :
    FitsContract expected s.body ∨ ∃ error, BodyFault handler expected s error := by
  rcases accepted_or_breaks handler expected s.body with
    h | ⟨earlier, t, later, error, hbody, hearlier, hbreaks⟩
  · by_cases hall : ∀ keyword ∈ expected, keyword ∈ s.body.map Statement.name
    · exact Or.inl ⟨h, hall⟩
    · simp only [not_forall] at hall
      obtain ⟨keyword, hkeyword, hnone⟩ := hall
      let absent := expected.filter (· ∉ s.body.map Statement.name)
      refine Or.inr ⟨.missingArguments handler absent s.span,
        .missing h ?_ (hsorted.filter _) ?_⟩
      · exact List.ne_nil_of_mem (List.mem_filter.mpr ⟨hkeyword, by simpa using hnone⟩)
      · simp [absent, List.mem_filter]
  · exact Or.inr ⟨error, .argument hbody hearlier hbreaks⟩

/-- Where the body fits the contract, the statement gives a location. -/
theorem FitsContract.exists_resolveLocation (h : FitsContract expected s.body) (order : Nat)
    (hhead : locationHead s = .ok (kind, word, handler)) (hword : unquote word ≠ "")
    (hexpected : registry.expectedOf? handler = some expected) :
    ∃ location, resolveLocation registry order s = .ok location := by
  obtain ⟨args, hread, hbinds⟩ := h.accepted.exists_readArguments handler
  refine ⟨⟨normalizePath kind (unquote word), kind, handler, args, order⟩, ?_⟩
  have hnone : expected.filter (!args.contains ·) = [] := by
    rw [List.filter_eq_nil_iff]
    intro keyword hkeyword
    rw [(hbinds.contains_iff h.accepted.pairs).mpr (h.complete keyword hkeyword)]
    decide
  rw [resolveLocation_of_head order hhead hword hexpected, hread, Outcome.ok_bind,
    if_neg (not_not_intro hnone)]

/-- A location comes from a body that fits the contract of its handler, and has what it says. -/
theorem Gives.fitsContract {location : Location} (h : Gives registry s location) :
    ∃ word expected, s.NamesHandler word location.handler ∧ unquote word ≠ "" ∧
      registry.expectedOf? location.handler = some expected ∧ FitsContract expected s.body ∧
      Binds s.body location.args := by
  obtain ⟨word, hhead, hword, -⟩ := h.head
  obtain ⟨expected, hexpected, hread, hgiven⟩ := h.args
  obtain ⟨haccepted, hbinds⟩ := accepted_of_readArguments hread
  refine ⟨word, expected, namesHandler_iff.mpr ⟨_, hhead⟩, hword, hexpected, ⟨haccepted, ?_⟩, hbinds⟩
  intro keyword hkeyword
  exact (hbinds.contains_iff haccepted.pairs).mp (hgiven keyword hkeyword)

/-- Where the body is at fault, its fault is the error. -/
theorem BodyFault.resolveLocation_eq {error : ResolveError}
    (h : BodyFault handler expected s error) (hsorted : expected.Pairwise (· < ·)) (order : Nat)
    (hhead : locationHead s = .ok (kind, word, handler)) (hword : unquote word ≠ "")
    (hexpected : registry.expectedOf? handler = some expected) :
    resolveLocation registry order s = .error error := by
  rw [resolveLocation_of_head order hhead hword hexpected]
  cases h with
  | @argument earlier t later _ hbody hearlier hbreaks =>
    rw [hbody, hbreaks.readArguments_eq hearlier later]
    rfl
  | @missing absent haccepted hne habsent hmem =>
    obtain ⟨args, hread, hbinds⟩ := haccepted.exists_readArguments handler
    have hfilter : expected.filter (!args.contains ·) = absent := by
      refine (hsorted.filter _).eq_of_mem_iff habsent fun keyword => ?_
      rw [List.mem_filter, hmem, ← hbinds.contains_iff haccepted.pairs]
      simp
    rw [hread, Outcome.ok_bind, hfilter, if_pos hne]

end Head

/-- **The contract of a handler.** A location statement gives a location exactly when its head
names a registered handler and a path, and its body gives each argument that the handler expects
once and nothing else. The location has what the body says. Where the head is fine, the error is
that of the first statement of the body that is no argument, or else tells what is missing, in
ascending order; and as many arguments as are expected are those that are expected. -/
theorem resolveLocation_contract {H : Type} {registry : Registry H} (hmade : registry.Made)
    (order : Nat) (s : Statement) :
    ((∃ location, resolveLocation registry order s = .ok location) ↔
      ∃ word handler expected, s.NamesHandler word handler ∧ unquote word ≠ "" ∧
        registry.expectedOf? handler = some expected ∧ FitsContract expected s.body) ∧
    (∀ location, resolveLocation registry order s = .ok location →
      location.path ≠ "" ∧ (∃ word, s.NamesHandler word location.handler) ∧
        Binds s.body location.args) ∧
    ∀ word handler expected, s.NamesHandler word handler → unquote word ≠ "" →
      registry.expectedOf? handler = some expected →
      (∀ error, resolveLocation registry order s = .error error ↔
        BodyFault handler expected s error) ∧
      ∀ args, readArguments handler expected {} s.body = .ok args →
        (args.size = expected.length ↔ ∀ keyword ∈ expected, args.contains keyword = true) := by
  refine ⟨⟨?_, ?_⟩, ?_, ?_⟩
  · intro ⟨location, hresolve⟩
    obtain ⟨hgives, -⟩ := resolveLocation_eq_ok_iff.mp hresolve
    obtain ⟨word, expected, hnames, hword, hexpected, hfits, -⟩ := hgives.fitsContract
    exact ⟨word, location.handler, expected, hnames, hword, hexpected, hfits⟩
  · intro ⟨word, handler, expected, hnames, hword, hexpected, hfits⟩
    obtain ⟨kind, hhead⟩ := namesHandler_iff.mp hnames
    exact hfits.exists_resolveLocation order hhead hword hexpected
  · intro location hresolve
    obtain ⟨hgives, -⟩ := resolveLocation_eq_ok_iff.mp hresolve
    obtain ⟨word, expected, hnames, -, -, -, hbinds⟩ := hgives.fitsContract
    exact ⟨hgives.path_ne_empty, ⟨word, hnames⟩, hbinds⟩
  · intro word handler expected hnames hword hexpected
    obtain ⟨kind, hhead⟩ := namesHandler_iff.mp hnames
    have hsorted := hmade.pairwise_expected hexpected
    refine ⟨fun error => ⟨fun herror => ?_, fun hfault => ?_⟩, fun args hread => ?_⟩
    · rcases fitsContract_or_bodyFault handler hsorted s with hfits | ⟨other, hfault⟩
      · obtain ⟨location, hok⟩ := hfits.exists_resolveLocation order hhead hword hexpected
        rw [hok] at herror
        cases herror
      · have hother := hfault.resolveLocation_eq hsorted order hhead hword hexpected
        obtain rfl := Except.error.inj (hother.symm.trans herror)
        exact hfault
    · exact hfault.resolveLocation_eq hsorted order hhead hword hexpected
    · obtain ⟨haccepted, hbinds⟩ := accepted_of_readArguments hread
      exact haccepted.size_eq_length_iff hbinds (Table.nodup_of_pairwise_lt hsorted)

/-- A handler that expects `a` and `b` gets both in either order, without the quotes around
their values. With none of them both are missing. Of a repeated keyword and an unknown one
after it the first is reported. -/
theorem resolveLocation_of_two_keywords :
    ∃ registry : Registry Unit, registry.Made ∧ registry.expectedOf? "h" = some ["a", "b"] ∧
      (∃ location, resolveLocation registry 0 (.block ["location", "~", "'/x'", "h"] "location"
          [.directive ["b", "'1'"] ⟨20, 26⟩, .directive ["a", "2"] ⟨27, 31⟩] ⟨0, 33⟩) =
            .ok location ∧ location.path ≠ "" ∧ location.args.get? "b" = some "1") ∧
      resolveLocation registry 0 (.directive ["location", "/", "h"] ⟨0, 13⟩) =
        .error (.missingArguments "h" ["a", "b"] ⟨0, 13⟩) ∧
      resolveLocation registry 0 (.block ["location", "/", "h"] "location"
          [.directive ["b", "1"] ⟨14, 18⟩, .directive ["b", "2"] ⟨19, 23⟩,
            .directive ["c", "3"] ⟨24, 28⟩] ⟨0, 30⟩) =
        .error (.duplicateArgument "b" ⟨19, 23⟩) := by
  let registry : Registry Unit := Registry.register {} "h" ["b", "a", "b"] fun _ _ => ()
  have hmade : registry.Made := .register .empty
  have hexpected : registry.expectedOf? "h" = some ["a", "b"] := by decide
  refine ⟨registry, hmade, hexpected, ?_, ?_, ?_⟩
  · let s : Statement := .block ["location", "~", "'/x'", "h"] "location"
      [.directive ["b", "'1'"] ⟨20, 26⟩, .directive ["a", "2"] ⟨27, 31⟩] ⟨0, 33⟩
    obtain ⟨hok, hgiven, -⟩ := resolveLocation_contract hmade 0 s
    have hnames : s.NamesHandler "'/x'" "h" := Or.inr ⟨"~", by decide, rfl⟩
    have hfits : FitsContract ["a", "b"] s.body := by
      refine ⟨⟨?_, ?_, ?_⟩, ?_⟩ <;> decide
    obtain ⟨location, hlocation⟩ :=
      hok.mpr ⟨"'/x'", "h", ["a", "b"], hnames, by decide, hexpected, hfits⟩
    obtain ⟨hpath, -, hbinds⟩ := hgiven location hlocation
    exact ⟨location, hlocation, hpath, (hbinds "b" "1").mpr ⟨_, .head _, "'1'", rfl, by decide⟩⟩
  · let s : Statement := .directive ["location", "/", "h"] ⟨0, 13⟩
    obtain ⟨-, -, hfault⟩ := resolveLocation_contract hmade 0 s
    have hmissing : BodyFault "h" ["a", "b"] s (.missingArguments "h" ["a", "b"] ⟨0, 13⟩) :=
      .missing accepted_nil (by decide) (by decide) (by simp [s, Statement.body, Statement.block?])
    exact ((hfault "/" "h" ["a", "b"] (Or.inl rfl) (by decide) hexpected).1 _).mpr hmissing
  · let first : Statement := .directive ["b", "1"] ⟨14, 18⟩
    let second : Statement := .directive ["b", "2"] ⟨19, 23⟩
    let third : Statement := .directive ["c", "3"] ⟨24, 28⟩
    let s : Statement :=
      .block ["location", "/", "h"] "location" [first, second, third] ⟨0, 30⟩
    obtain ⟨-, -, hfault⟩ := resolveLocation_contract hmade 0 s
    have haccepted : Accepted ["a", "b"] [first] := by refine ⟨?_, ?_, ?_⟩ <;> decide
    have hbreaks : BreaksContract "h" ["a", "b"] [first] second
        (.duplicateArgument "b" ⟨19, 23⟩) := .again (by decide) (by decide) (by decide)
    have hbody : s.body = [first] ++ second :: [third] := rfl
    exact ((hfault "/" "h" ["a", "b"] (Or.inl rfl) (by decide) hexpected).1 _).mpr
      (.argument hbody haccepted hbreaks)

end Config

end Waymark
