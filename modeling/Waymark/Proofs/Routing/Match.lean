import Waymark.Proofs.Outcome
import Waymark.Router

/-!
# Waymark.Proofs.Routing.Match

Which locations match a request path, and by how much.

A route computes one number for a request path, in which zero stands for no match.
`Location.Covers` says what a match is for each kind of location, without numbers, and
`Location.reach` how long it is. `Route.matchLength_eq` puts the two together: a location
that covers a path scores zero only if its own path is empty.
-/

namespace Waymark

variable {ε : Type}

namespace Location

/-- A location is there for a request path: it is the same path, the path begins with it,
or its pattern, compiled, finds a match in the path. -/
inductive Covers (compile : PatternCompiler ε) (l : Location) (path : String) : Prop where
  /-- The same path. -/
  | exact : l.kind = .exact → path = l.path → Covers compile l path
  /-- A beginning of the path. -/
  | beginning : l.kind = .preferredPrefix ∨ l.kind = .standardPrefix →
      l.path.toList <+: path.toList → Covers compile l path
  /-- A pattern that matches. -/
  | pattern {test : String → Bool} : l.kind.isPattern = true →
      compile (l.kind = .patternIgnoringCase) l.path = .ok test → test path = true →
      Covers compile l path

/-- The length of every match of a location: one for a pattern, the bytes of its path
otherwise. -/
def reach (l : Location) : Nat := if l.kind.isPattern then 1 else l.path.utf8ByteSize

/-- A location matches a request path: it covers it, and not by an empty match. -/
structure Matches (compile : PatternCompiler ε) (l : Location) (path : String) : Prop where
  /-- It covers the path. -/
  covers : l.Covers compile path
  /-- The match is not empty. -/
  reach_ne_zero : l.reach ≠ 0

/-- The pattern of a location, if it is one, can be compiled. -/
def Compiles (compile : PatternCompiler ε) (l : Location) : Prop :=
  l.kind.isPattern = true →
    ∃ test, compile (l.kind = .patternIgnoringCase) l.path = .ok test

theorem reach_eq_zero_iff {l : Location} :
    l.reach = 0 ↔ l.kind.isPattern = false ∧ l.path = "" := by
  unfold reach
  cases l.kind.isPattern <;> simp [String.utf8ByteSize_eq_zero_iff]

theorem covers_exact_iff {compile : PatternCompiler ε} {l : Location} {path : String}
    (hkind : l.kind = .exact) : l.Covers compile path ↔ path = l.path := by
  constructor
  · rintro (⟨-, h⟩ | ⟨h, -⟩ | ⟨h, -, -⟩)
    · exact h
    · simp [hkind] at h
    · simp [hkind, MatchKind.isPattern] at h
  · exact .exact hkind

theorem covers_beginning_iff {compile : PatternCompiler ε} {l : Location} {path : String}
    (hkind : l.kind = .preferredPrefix ∨ l.kind = .standardPrefix) :
    l.Covers compile path ↔ l.path.toList <+: path.toList := by
  constructor
  · rintro (⟨h, -⟩ | ⟨-, h⟩ | ⟨h, -, -⟩)
    · simp [h] at hkind
    · exact h
    · rcases hkind with hkind | hkind <;> simp [hkind, MatchKind.isPattern] at h
  · exact .beginning hkind

theorem covers_pattern_iff {compile : PatternCompiler ε} {l : Location} {path : String}
    {test : String → Bool} (hkind : l.kind.isPattern = true)
    (htest : compile (l.kind = .patternIgnoringCase) l.path = .ok test) :
    l.Covers compile path ↔ test path = true := by
  constructor
  · rintro (⟨h, -⟩ | ⟨h, -⟩ | ⟨-, hcompiled, h⟩)
    · simp [h, MatchKind.isPattern] at hkind
    · rcases h with h | h <;> simp [h, MatchKind.isPattern] at hkind
    · obtain rfl := Except.ok.inj (htest.symm.trans hcompiled)
      exact h
  · exact .pattern hkind htest

end Location

/-- A fault is the one of the first location whose pattern cannot be compiled. -/
def FirstFault (compile : PatternCompiler ε) (locations : List Location)
    (fault : PatternFault ε) : Prop :=
  ∃ before l after, locations = before ++ l :: after ∧
    (∀ earlier ∈ before, earlier.Compiles compile) ∧ l.kind.isPattern = true ∧
    compile (l.kind = .patternIgnoringCase) l.path = .error fault.cause ∧ fault.pattern = l.path

namespace Route

variable {compile : PatternCompiler ε} {l : Location} {route : Route}

theorem ofLocation_eq_ok_iff :
    ofLocation compile l = .ok route ↔ route.location = l ∧
      (l.kind.isPattern = true →
        compile (l.kind = .patternIgnoringCase) l.path = .ok route.test) ∧
      (l.kind.isPattern = false → route.test = fun _ => false) := by
  obtain ⟨location, test⟩ := route
  unfold ofLocation
  cases hkind : l.kind.isPattern with
  | true =>
    cases hcompile : compile (l.kind = .patternIgnoringCase) l.path <;> simp [eq_comm]
  | false => simp [eq_comm]

theorem ofLocation_eq_error_iff {fault : PatternFault ε} :
    ofLocation compile l = .error fault ↔ l.kind.isPattern = true ∧
      compile (l.kind = .patternIgnoringCase) l.path = .error fault.cause ∧
      fault.pattern = l.path := by
  obtain ⟨pattern, cause⟩ := fault
  unfold ofLocation
  cases hkind : l.kind.isPattern with
  | true =>
    cases hcompile : compile (l.kind = .patternIgnoringCase) l.path <;> simp [eq_comm, and_comm]
  | false => simp

theorem exists_ofLocation_eq_ok_iff :
    (∃ route, ofLocation compile l = .ok route) ↔ l.Compiles compile := by
  constructor
  · rintro ⟨route, h⟩ hkind
    exact ⟨route.test, (ofLocation_eq_ok_iff.mp h).2.1 hkind⟩
  · intro h
    cases hkind : l.kind.isPattern with
    | true =>
      obtain ⟨test, htest⟩ := h hkind
      exact ⟨⟨l, test⟩, ofLocation_eq_ok_iff.mpr ⟨rfl, fun _ => htest, by simp [hkind]⟩⟩
    | false =>
      exact ⟨⟨l, fun _ => false⟩, ofLocation_eq_ok_iff.mpr ⟨rfl, by simp [hkind], fun _ => rfl⟩⟩

open Classical in
/-- **What a route scores** is the reach of its location where that covers the path, and
zero elsewhere. -/
theorem matchLength_eq (h : ofLocation compile l = .ok route) (path : String) :
    route.matchLength path = if l.Covers compile path then l.reach else 0 := by
  obtain ⟨rfl, hpattern, -⟩ := ofLocation_eq_ok_iff.mp h
  have htest : route.location.kind.isPattern = true →
      (route.location.Covers compile path ↔ route.test path = true) := by
    intro hkind
    exact Location.covers_pattern_iff hkind (hpattern hkind)
  unfold matchLength Location.reach
  cases hkind : route.location.kind with
  | exact =>
    simp only [Location.covers_exact_iff hkind, MatchKind.isPattern]
    split <;> simp_all
  | preferredPrefix =>
    simp [Location.covers_beginning_iff (Or.inl hkind), MatchKind.isPattern]
  | standardPrefix =>
    simp [Location.covers_beginning_iff (Or.inr hkind), MatchKind.isPattern]
  | pattern =>
    rw [hkind] at htest
    simp [htest rfl, MatchKind.isPattern]
  | patternIgnoringCase =>
    rw [hkind] at htest
    simp [htest rfl, MatchKind.isPattern]

/-- Zero stands for no match. -/
theorem matchLength_ne_zero_iff (h : ofLocation compile l = .ok route) {path : String} :
    route.matchLength path ≠ 0 ↔ l.Matches compile path := by
  rw [matchLength_eq h]
  constructor
  · intro hne
    by_cases hcovers : l.Covers compile path
    · exact ⟨hcovers, by simpa [hcovers] using hne⟩
    · simp [hcovers] at hne
  · rintro ⟨hcovers, hreach⟩
    simpa [hcovers] using hreach

end Route

end Waymark
