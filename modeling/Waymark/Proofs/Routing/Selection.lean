import Mathlib.Data.List.Induction
import Waymark.Proofs.Routing.Match

/-!
# Waymark.Proofs.Routing.Selection

The location for a request path is the greatest of those that match, by priority, length of
the match, order, and place in the list.

Selection goes through the routes once and keeps the best one so far; the order of locations
and their places in the list play no part in its comparison. They come in through the sort:

* `foldl_better_cases` says what one pass over any routes leaves: the first of those that no
  other outranks;
* `StableSort` says what sorting by order does to them, and `StableSort.split` what stands
  before a member of the sorted list in the original one;
* `Champion.isChosen` combines the two: the champion of the sorted routes is the chosen one
  of the original list.
-/

namespace Waymark

variable {ε : Type}

/-! ### One pass over the routes -/

theorem outranks_iff {a b : Nat × Nat} :
    outranks a b = true ↔ b.1 < a.1 ∨ b.1 = a.1 ∧ b.2 < a.2 := by
  simp [outranks]

section Better

variable {path : String} {r : Route}

theorem better_of_matchLength_eq_zero (h : r.matchLength path = 0) (best : Option Route) :
    Router.better path best r = best := by
  unfold Router.better
  rw [if_pos h]

theorem better_none (h : r.matchLength path ≠ 0) : Router.better path none r = some r := by
  unfold Router.better
  rw [if_neg h]

theorem better_some (h : r.matchLength path ≠ 0) (champion : Route) :
    Router.better path (some champion) r =
      if outranks (r.score path) (champion.score path) then some r else some champion := by
  unfold Router.better
  rw [if_neg h]

end Better

/-- The first of the routes that match a path and are not outranked: it outranks the
matching ones before it, and those after it do not outrank it. -/
structure Champion (path : String) (routes before : List Route) (r : Route)
    (after : List Route) : Prop where
  /-- The routes before and after it. -/
  split : routes = before ++ r :: after
  /-- It matches. -/
  found : r.matchLength path ≠ 0
  /-- It outranks what comes before. -/
  first : ∀ b ∈ before, b.matchLength path ≠ 0 → outranks (r.score path) (b.score path) = true
  /-- What comes after does not outrank it. -/
  best : ∀ a ∈ after, a.matchLength path ≠ 0 → outranks (a.score path) (r.score path) = false

/-- **The pass over the routes**, by induction over those that have been seen: there is no
best route while none matches, and then it is the champion of those seen. -/
theorem foldl_better_cases (path : String) (routes : List Route) :
    (routes.foldl (Router.better path) none = none ∧ ∀ r ∈ routes, r.matchLength path = 0) ∨
    ∃ before r after, routes.foldl (Router.better path) none = some r ∧
      Champion path routes before r after := by
  induction routes using List.reverseRecOn with
  | nil => exact Or.inl ⟨rfl, by simp⟩
  | append_singleton seen next ih =>
    rw [List.foldl_append, List.foldl_cons, List.foldl_nil]
    by_cases hnext : next.matchLength path = 0
    · -- a route that does not match changes nothing
      rw [better_of_matchLength_eq_zero hnext]
      rcases ih with ⟨hnone, hzero⟩ | ⟨before, r, after, hbest, hr⟩
      · refine Or.inl ⟨hnone, fun s hs => ?_⟩
        rcases List.mem_append.mp hs with hs | hs
        · exact hzero s hs
        · exact List.mem_singleton.mp hs ▸ hnext
      · refine Or.inr ⟨before, r, after ++ [next], hbest, by simp [hr.split], hr.found,
          hr.first, fun a ha => ?_⟩
        rcases List.mem_append.mp ha with ha | ha
        · exact hr.best a ha
        · intro hmatch
          exact absurd (List.mem_singleton.mp ha ▸ hnext) hmatch
    · right
      rcases ih with ⟨hnone, hzero⟩ | ⟨before, r, after, hbest, hr⟩
      · refine ⟨seen, next, [], ?_, rfl, hnext, fun b hb hmatch => ?_, by simp⟩
        · rw [hnone, better_none hnext]
        · exact absurd (hzero b hb) hmatch
      · rw [hbest, better_some hnext]
        by_cases hout : outranks (next.score path) (r.score path) = true
        · refine ⟨seen, next, [], by rw [if_pos hout], rfl, hnext, fun b hb hmatch => ?_,
            by simp⟩
          rw [hr.split] at hb
          rw [outranks_iff] at hout ⊢
          rcases List.mem_append.mp hb with hb | hb
          · have hfirst := outranks_iff.mp (hr.first b hb hmatch)
            omega
          rcases List.mem_cons.mp hb with rfl | hb
          · exact hout
          · have hbest := hr.best b hb hmatch
            rw [← Bool.not_eq_true, outranks_iff] at hbest
            omega
        · refine ⟨before, r, after ++ [next], by rw [if_neg hout], by simp [hr.split],
            hr.found, hr.first, fun a ha hmatch => ?_⟩
          rcases List.mem_append.mp ha with ha | ha
          · exact hr.best a ha hmatch
          · rw [List.mem_singleton.mp ha]
            exact Bool.eq_false_iff.mpr hout

/-! ### The sort -/

/-- A list is another one sorted by a number, and members of one number have kept their
places relative to each other. -/
structure StableSort {α : Type} (key : α → Nat) (sorted original : List α) : Prop where
  /-- The members are the same. -/
  perm : sorted.Perm original
  /-- Their numbers ascend. -/
  ascending : sorted.Pairwise fun a b => key a ≤ key b
  /-- Those of one number are in their original sequence. -/
  stable : ∀ n, sorted.filter (key · = n) = original.filter (key · = n)

namespace StableSort

variable {α β : Type} {key : α → Nat}

theorem mergeSort (key : α → Nat) (members : List α) :
    StableSort key (members.mergeSort fun a b => key a ≤ key b) members := by
  have htrans : ∀ a b c : α, decide (key a ≤ key b) = true → decide (key b ≤ key c) = true →
      decide (key a ≤ key c) = true := by
    intro a b c hab hbc
    exact decide_eq_true (Nat.le_trans (of_decide_eq_true hab) (of_decide_eq_true hbc))
  have htotal : ∀ a b : α, (decide (key a ≤ key b) || decide (key b ≤ key a)) = true := by
    intro a b
    simpa using Nat.le_total (key a) (key b)
  refine ⟨List.mergeSort_perm _ _, ?_, fun n => ?_⟩
  · exact (List.pairwise_mergeSort htrans htotal members).imp of_decide_eq_true
  · have hsame : (members.filter (key · = n)).Pairwise
        fun a b => decide (key a ≤ key b) = true := by
      refine List.pairwise_of_forall_mem_list fun a ha b hb => decide_eq_true ?_
      have hkey : key a = n := by simpa using (List.mem_filter.mp ha).2
      have hother : key b = n := by simpa using (List.mem_filter.mp hb).2
      exact Nat.le_of_eq (hkey.trans hother.symm)
    -- what has the number is a sublist of the sorted list, and as long as what has it there
    have hsub := List.sublist_mergeSort htrans htotal hsame List.filter_sublist
    have hfilter := hsub.filter (key · = n)
    rw [List.filter_filter] at hfilter
    simp only [Bool.and_self] at hfilter
    exact (hfilter.eq_of_length ((List.mergeSort_perm members _).filter _).length_eq.symm).symm

theorem map {f : β → α} {sorted original : List β}
    (h : StableSort (fun b => key (f b)) sorted original) :
    StableSort key (sorted.map f) (original.map f) where
  perm := h.perm.map f
  ascending := List.pairwise_map.mpr h.ascending
  stable := by
    intro n
    rw [List.filter_map, List.filter_map]
    exact congrArg _ (h.stable n)

/-- Where a member of the sorted list stands in the original one: what stands before it
there and has its number comes before it here. -/
theorem split {before after original : List α} {a : α}
    (h : StableSort key (before ++ a :: after) original) :
    ∃ earlier later, original = earlier ++ a :: later ∧
      ∀ b ∈ earlier, key b = key a → b ∈ before := by
  have hstable := (h.stable (key a)).symm
  rw [List.filter_append, List.filter_cons_of_pos (by simp)] at hstable
  obtain ⟨front, back, rfl, hfront, hback⟩ := List.filter_eq_append_iff.mp hstable
  obtain ⟨gap, later, rfl, hgap, -, -⟩ := List.filter_eq_cons_iff.mp hback
  refine ⟨front ++ gap, later, by simp, fun b hb hkey => ?_⟩
  have hkeep : decide (key b = key a) = true := decide_eq_true hkey
  rcases List.mem_append.mp hb with hb | hb
  · have hmem : b ∈ front.filter (key · = key a) := List.mem_filter.mpr ⟨hb, hkeep⟩
    rw [hfront] at hmem
    exact (List.mem_filter.mp hmem).1
  · exact absurd hkeep (hgap b hb)

end StableSort

/-! ### The chosen location -/

/-- A location at one place of a list is preferred to one at another place: by priority,
then by the length of its match, then by order, then by place. -/
def Location.IsPreferred (l : Location) (i : Nat) (m : Location) (j : Nat) : Prop :=
  m.kind.priority < l.kind.priority ∨ m.kind.priority = l.kind.priority ∧
    (m.reach < l.reach ∨ m.reach = l.reach ∧
      (l.order < m.order ∨ l.order = m.order ∧ i < j))

/-- The location at a place of a list is the one for a request path: it matches, and is
preferred to all others that do. -/
structure IsChosen (compile : PatternCompiler ε) (locations : List Location) (path : String)
    (i : Nat) (l : Location) : Prop where
  /-- It stands there. -/
  place : locations[i]? = some l
  /-- It matches. -/
  found : l.Matches compile path
  /-- It is preferred to every other one that matches. -/
  best : ∀ j m, locations[j]? = some m → m.Matches compile path → j ≠ i → l.IsPreferred i m j

/-- At most one place is chosen. -/
theorem IsChosen.unique {compile : PatternCompiler ε} {locations : List Location}
    {path : String} {i j : Nat} {l m : Location} (h : IsChosen compile locations path i l)
    (hother : IsChosen compile locations path j m) : i = j ∧ l = m := by
  by_cases hij : i = j
  · subst hij
    exact ⟨rfl, Option.some.inj (h.place.symm.trans hother.place)⟩
  · have hfirst := h.best j m hother.place hother.found (Ne.symm hij)
    have hsecond := hother.best i l h.place h.found hij
    unfold Location.IsPreferred at hfirst hsecond
    omega

theorem Location.IsPreferred.of_higher {l m : Location} {i j : Nat}
    (h : m.kind.priority < l.kind.priority ∨
      m.kind.priority = l.kind.priority ∧ m.reach < l.reach) : l.IsPreferred i m j := by
  unfold Location.IsPreferred
  omega

theorem Location.IsPreferred.of_not_higher {l m : Location} {i j : Nat}
    (h : ¬ (l.kind.priority < m.kind.priority ∨
      l.kind.priority = m.kind.priority ∧ l.reach < m.reach))
    (horder : l.order < m.order ∨ l.order = m.order ∧ i < j) : l.IsPreferred i m j := by
  unfold Location.IsPreferred
  omega

/-- Routes that have been made of their locations. -/
def Ready (compile : PatternCompiler ε) (routes : List Route) : Prop :=
  ∀ r ∈ routes, Route.ofLocation compile r.location = .ok r

/-- Among routes that match, ranks compare priorities and reaches. -/
theorem outranks_score_iff {compile : PatternCompiler ε} {path : String} {r s : Route}
    (hr : Route.ofLocation compile r.location = .ok r)
    (hs : Route.ofLocation compile s.location = .ok s) (hrmatch : r.matchLength path ≠ 0)
    (hsmatch : s.matchLength path ≠ 0) :
    outranks (r.score path) (s.score path) = true ↔
      s.location.kind.priority < r.location.kind.priority ∨
        s.location.kind.priority = r.location.kind.priority ∧
          s.location.reach < r.location.reach := by
  have hreach : ∀ {t : Route}, Route.ofLocation compile t.location = .ok t →
      t.matchLength path ≠ 0 → t.matchLength path = t.location.reach := by
    intro t ht hmatch
    rw [Route.matchLength_eq ht, if_pos ((Route.matchLength_ne_zero_iff ht).mp hmatch).covers]
  rw [outranks_iff, Route.score, Route.score, hreach hr hrmatch, hreach hs hsmatch]

/-- The champion of the sorted routes is the chosen one of the original list. -/
theorem Champion.isChosen {compile : PatternCompiler ε} {path : String}
    {routes sorted before after : List Route} {r : Route} (hr : Champion path sorted before r after)
    (hready : Ready compile routes) (hsort : StableSort (·.location.order) sorted routes) :
    ∃ i, IsChosen compile (routes.map (·.location)) path i r.location := by
  obtain ⟨rfl, hmatch, hfirst, hbest⟩ := hr
  obtain ⟨earlier, later, rfl, hearlier⟩ := hsort.split
  have hrready := hready r (by simp)
  have hranks : ∀ s ∈ earlier ++ r :: later, s.matchLength path ≠ 0 → s ∈ before ∨
      ¬ outranks (s.score path) (r.score path) = true ∧ r.location.order ≤ s.location.order := by
    intro s hs hsmatch
    rcases List.mem_append.mp (hsort.perm.mem_iff.mpr hs) with hs | hs
    · exact Or.inl hs
    · right
      have hascending := (List.pairwise_append.mp hsort.ascending).2.1
      rcases List.mem_cons.mp hs with rfl | hs
      · refine ⟨fun h => ?_, Nat.le_refl _⟩
        have := outranks_iff.mp h
        omega
      · exact ⟨Bool.eq_false_iff.mp (hbest s hs hsmatch), (List.pairwise_cons.mp hascending).1 s hs⟩
  refine ⟨earlier.length, by simp, (Route.matchLength_ne_zero_iff hrready).mp hmatch, ?_⟩
  intro j m hplace hm hj
  rw [List.getElem?_map, Option.map_eq_some_iff] at hplace
  obtain ⟨s, hs, rfl⟩ := hplace
  have hmem := List.mem_of_getElem? hs
  have hsready := hready s hmem
  have hsmatch := (Route.matchLength_ne_zero_iff hsready).mpr hm
  by_cases hbefore : s ∈ before
  · -- it comes before the champion when sorted, so the champion outranks it
    have hout := (outranks_score_iff hrready hsready hmatch hsmatch).mp (hfirst s hbefore hsmatch)
    exact .of_higher hout
  · -- otherwise it does not outrank the champion, and order and place have to decide
    rcases hranks s hmem hsmatch with hs' | ⟨hnot, hle⟩
    · exact absurd hs' hbefore
    · rw [outranks_score_iff hsready hrready hsmatch hmatch] at hnot
      refine .of_not_higher hnot ?_
      rcases Nat.lt_or_eq_of_le hle with hlt | heq
      · exact Or.inl hlt
      · refine Or.inr ⟨heq, Nat.lt_of_not_le fun hle => hbefore ?_⟩
        have hlt : j < earlier.length := Nat.lt_of_le_of_ne hle hj
        rw [List.getElem?_append_left hlt] at hs
        exact hearlier s (List.mem_of_getElem? hs) heq.symm

/-! ### Routers -/

theorem ready_of_map_eq {compile : PatternCompiler ε} {locations : List Location}
    {routes : List Route} (h : locations.map (Route.ofLocation compile) = routes.map .ok) :
    Ready compile routes ∧ routes.map (·.location) = locations := by
  induction routes generalizing locations with
  | nil =>
    obtain rfl : locations = [] := by simpa using h
    exact ⟨by simp [Ready], rfl⟩
  | cons r routes ih =>
    cases locations with
    | nil => simp at h
    | cons l rest =>
      obtain ⟨hfirst, hrest⟩ := List.cons.inj h
      obtain ⟨rfl, -, -⟩ := Route.ofLocation_eq_ok_iff.mp hfirst
      obtain ⟨hready, rfl⟩ := ih hrest
      refine ⟨fun s hs => ?_, rfl⟩
      rcases List.mem_cons.mp hs with rfl | hs
      · exact hfirst
      · exact hready s hs

/-- Building a router either succeeds, and its routes are those of the locations, or fails
with the first fault. -/
theorem build_cases (compile : PatternCompiler ε) (locations : List Location) :
    (∃ router routes, Router.build compile locations = .ok router ∧
      StableSort (·.location.order) router.routes routes ∧ Ready compile routes ∧
      routes.map (·.location) = locations) ∨
    ∃ fault, Router.build compile locations = .error fault ∧
      FirstFault compile locations fault := by
  unfold Router.build
  rcases Outcome.mapM_cases (Route.ofLocation compile) locations with
    ⟨routes, hrun, hmap⟩ | ⟨before, l, after, fault, rfl, hbefore, hl, hrun⟩
  · obtain ⟨hready, hlocations⟩ := ready_of_map_eq hmap
    exact Or.inl ⟨_, routes, by rw [hrun]; rfl, .mergeSort _ _, hready, hlocations⟩
  · obtain ⟨hkind, hcause, hpattern⟩ := Route.ofLocation_eq_error_iff.mp hl
    refine Or.inr ⟨fault, by rw [hrun]; rfl, before, l, after, rfl, fun m hm => ?_, hkind,
      hcause, hpattern⟩
    exact Route.exists_ofLocation_eq_ok_iff.mp (hbefore m hm)

theorem FirstFault.not_compiles {compile : PatternCompiler ε} {locations : List Location}
    {fault : PatternFault ε} (h : FirstFault compile locations fault) :
    ∃ l ∈ locations, ¬ l.Compiles compile := by
  obtain ⟨before, l, after, rfl, -, hkind, hcause, -⟩ := h
  refine ⟨l, by simp, fun hcompiles => ?_⟩
  obtain ⟨test, htest⟩ := hcompiles hkind
  rw [htest] at hcause
  cases hcause

/-- A fault decides the outcome of building. -/
theorem FirstFault.build_eq {compile : PatternCompiler ε} {locations : List Location}
    {fault : PatternFault ε} (h : FirstFault compile locations fault) :
    Router.build compile locations = .error fault := by
  obtain ⟨before, l, after, rfl, hbefore, hkind, hcause, hpattern⟩ := h
  have hl := Route.ofLocation_eq_error_iff.mpr ⟨hkind, hcause, hpattern⟩
  unfold Router.build
  rw [List.mapM_append, List.mapM_cons, hl]
  rcases Outcome.mapM_cases (Route.ofLocation compile) before with
    ⟨routes, hrun, -⟩ | ⟨done, m, rest, other, rfl, -, hm, -⟩
  · rw [hrun]
    rfl
  · obtain ⟨r, hr⟩ := Route.exists_ofLocation_eq_ok_iff.mpr (hbefore m (by simp))
    rw [hr] at hm
    cases hm

section Built

variable {compile : PatternCompiler ε} {locations : List Location} {router : Router}

/-- The routes of a router that has been built. -/
theorem exists_routes_of_build (h : Router.build compile locations = .ok router) :
    ∃ routes, StableSort (·.location.order) router.routes routes ∧ Ready compile routes ∧
      routes.map (·.location) = locations := by
  rcases build_cases compile locations with ⟨built, routes, hbuilt, hroutes⟩ | ⟨fault, hfault, -⟩
  · obtain rfl := Except.ok.inj (hbuilt.symm.trans h)
    exact ⟨routes, hroutes⟩
  · rw [h] at hfault
    cases hfault

theorem exists_build_eq_ok_iff (compile : PatternCompiler ε) (locations : List Location) :
    (∃ router, Router.build compile locations = .ok router) ↔
      ∀ l ∈ locations, l.Compiles compile := by
  constructor
  · rintro ⟨router, h⟩ l hl
    obtain ⟨routes, -, hready, rfl⟩ := exists_routes_of_build h
    obtain ⟨r, hr, rfl⟩ := List.mem_map.mp hl
    exact Route.exists_ofLocation_eq_ok_iff.mp ⟨r, hready r hr⟩
  · intro hall
    rcases build_cases compile locations with ⟨router, -, h, -⟩ | ⟨fault, -, hfault⟩
    · exact ⟨router, h⟩
    · obtain ⟨l, hl, hnot⟩ := hfault.not_compiles
      exact absurd (hall l hl) hnot

/-- The router of one location without a pattern. -/
theorem build_singleton (compile : PatternCompiler ε) {l : Location}
    (h : l.kind.isPattern = false) :
    Router.build compile [l] = .ok ⟨[⟨l, fun _ => false⟩]⟩ := by
  have hroute : Route.ofLocation compile l = .ok ⟨l, fun _ => false⟩ := by
    rw [Route.ofLocation, h]
    rfl
  rw [Router.build, List.mapM_cons, hroute]
  simp

/-- What is selected for a path: nothing if nothing matches, else the chosen location. -/
theorem select_cases (h : Router.build compile locations = .ok router) (path : String) :
    (router.select path = none ∧ ∀ l ∈ locations, ¬ l.Matches compile path) ∨
    ∃ i l, router.select path = some l ∧ IsChosen compile locations path i l := by
  obtain ⟨routes, hsort, hready, rfl⟩ := exists_routes_of_build h
  unfold Router.select
  rcases foldl_better_cases path router.routes with
    ⟨hnone, hzero⟩ | ⟨before, r, after, hbest, hchampion⟩
  · refine Or.inl ⟨by rw [hnone]; rfl, fun l hl hmatch => ?_⟩
    obtain ⟨r, hr, rfl⟩ := List.mem_map.mp hl
    refine (Route.matchLength_ne_zero_iff (hready r hr)).mpr hmatch ?_
    exact hzero r (hsort.perm.mem_iff.mpr hr)
  · obtain ⟨i, hchosen⟩ := hchampion.isChosen hready hsort
    exact Or.inr ⟨i, r.location, by rw [hbest]; rfl, hchosen⟩

theorem select_eq_none_iff (h : Router.build compile locations = .ok router) {path : String} :
    router.select path = none ↔ ∀ l ∈ locations, ¬ l.Matches compile path := by
  rcases select_cases h path with ⟨hnone, hzero⟩ | ⟨i, l, hsome, hchosen⟩
  · exact ⟨fun _ => hzero, fun _ => hnone⟩
  · rw [hsome]
    refine ⟨fun hnone => (by cases hnone), fun hzero => ?_⟩
    exact absurd hchosen.found (hzero l (List.mem_of_getElem? hchosen.place))

theorem select_eq_some_iff (h : Router.build compile locations = .ok router) {path : String}
    {l : Location} :
    router.select path = some l ↔ ∃ i, IsChosen compile locations path i l := by
  rcases select_cases h path with ⟨hnone, hzero⟩ | ⟨i, m, hsome, hchosen⟩
  · rw [hnone]
    refine ⟨fun hsome => (by cases hsome), fun ⟨i, hchosen⟩ => ?_⟩
    exact absurd hchosen.found (hzero l (List.mem_of_getElem? hchosen.place))
  · rw [hsome]
    constructor
    · intro heq
      exact ⟨i, Option.some.inj heq ▸ hchosen⟩
    · rintro ⟨j, hother⟩
      rw [(hchosen.unique hother).2]

/-- The routes of a router score for a path what their locations reach. -/
theorem score_of_build (h : Router.build compile locations = .ok router) {r : Route}
    (hr : r ∈ router.routes) (path : String) :
    (r.matchLength path ≠ 0 ↔ r.location.Matches compile path) ∧
      (r.location.Matches compile path →
        r.score path = (r.location.kind.priority, r.location.reach)) := by
  obtain ⟨routes, hsort, hready, -⟩ := exists_routes_of_build h
  have hrready := hready r (hsort.perm.mem_iff.mp hr)
  refine ⟨Route.matchLength_ne_zero_iff hrready, fun hmatch => ?_⟩
  rw [Route.score, Route.matchLength_eq hrready, if_pos hmatch.covers]

theorem stableSort_locations (h : Router.build compile locations = .ok router) :
    StableSort (·.order) router.locations locations := by
  obtain ⟨routes, hsort, -, rfl⟩ := exists_routes_of_build h
  exact hsort.map

end Built

/-! ### Independence of the sequence -/

/-- Where no order occurs twice, places in the list do not count. -/
theorem exists_isChosen_iff {compile : PatternCompiler ε} {locations : List Location}
    (hnodup : (locations.map (·.order)).Nodup) {path : String} {l : Location} :
    (∃ i, IsChosen compile locations path i l) ↔
      l ∈ locations ∧ l.Matches compile path ∧
        ∀ m ∈ locations, m.Matches compile path → m.order ≠ l.order → l.IsPreferred 0 m 0 := by
  constructor
  · rintro ⟨i, hplace, hfound, hbest⟩
    refine ⟨List.mem_of_getElem? hplace, hfound, fun m hm hmatch horder => ?_⟩
    obtain ⟨j, hj⟩ := List.mem_iff_getElem?.mp hm
    have hij : j ≠ i := by
      rintro rfl
      exact horder (congrArg _ (Option.some.inj (hj.symm.trans hplace)))
    have hpreferred := hbest j m hj hmatch hij
    unfold Location.IsPreferred at hpreferred ⊢
    omega
  · rintro ⟨hmem, hfound, hbest⟩
    obtain ⟨i, hi⟩ := List.mem_iff_getElem?.mp hmem
    refine ⟨i, hi, hfound, fun j m hj hmatch hij => ?_⟩
    have horder : m.order ≠ l.order := by
      intro heq
      have hlt : j < (locations.map (·.order)).length := by
        rw [List.length_map]
        exact (List.getElem?_eq_some_iff.mp hj).1
      refine hij ((List.getElem?_inj hlt hnodup).mp ?_)
      rw [List.getElem?_map, List.getElem?_map, hj, hi, Option.map_some, Option.map_some, heq]
    have hpreferred := hbest m (List.mem_of_getElem? hj) hmatch horder
    unfold Location.IsPreferred at hpreferred ⊢
    omega

/-- Where no order occurs twice, any sequence of the locations gives the same choices. -/
theorem select_eq_of_perm {compile : PatternCompiler ε} {locations others : List Location}
    {router other : Router} (hperm : others.Perm locations)
    (hnodup : (locations.map (·.order)).Nodup)
    (h : Router.build compile locations = .ok router)
    (hother : Router.build compile others = .ok other) : other.select = router.select := by
  have hnodup' : (others.map (·.order)).Nodup := (hperm.map _).nodup_iff.mpr hnodup
  funext path
  refine Option.ext fun l => ?_
  rw [select_eq_some_iff h, select_eq_some_iff hother, exists_isChosen_iff hnodup,
    exists_isChosen_iff hnodup']
  simp only [hperm.mem_iff]

/-- **Selection is a lexicographic maximum.** A router can be built of any locations whose
patterns can be compiled, and otherwise the fault is that of the first one that cannot. It
holds the locations sorted by order. For a request path it selects none if none matches,
and else the one that is preferred to all others that match. If no order occurs twice, the
sequence in which the locations are given makes no difference. -/
theorem select_lexicographic (compile : PatternCompiler ε) (locations : List Location) :
    ((∃ router, Router.build compile locations = .ok router) ↔
      ∀ l ∈ locations, l.Compiles compile) ∧
    (∀ fault, Router.build compile locations = .error fault ↔
      FirstFault compile locations fault) ∧
    (∀ router, Router.build compile locations = .ok router →
      StableSort (·.order) router.locations locations ∧
      ∀ path,
        (∀ r ∈ router.routes, (r.matchLength path ≠ 0 ↔ r.location.Matches compile path) ∧
          (r.location.Matches compile path →
            r.score path = (r.location.kind.priority, r.location.reach))) ∧
        (router.select path = none ↔ ∀ l ∈ locations, ¬ l.Matches compile path) ∧
        ∀ l, router.select path = some l ↔ ∃ i, IsChosen compile locations path i l) ∧
    ∀ others, others.Perm locations → (locations.map (·.order)).Nodup →
      ((∃ other, Router.build compile others = .ok other) ↔
        ∃ router, Router.build compile locations = .ok router) ∧
      ∀ router other, Router.build compile locations = .ok router →
        Router.build compile others = .ok other →
        ∀ path, other.select path = router.select path := by
  refine ⟨exists_build_eq_ok_iff compile locations, fun fault => ⟨fun h => ?_, ?_⟩, ?_, ?_⟩
  · rcases build_cases compile locations with ⟨router, -, hrouter, -⟩ | ⟨found, hfound, hfirst⟩
    · rw [hrouter] at h
      cases h
    · obtain rfl := Except.error.inj (hfound.symm.trans h)
      exact hfirst
  · exact FirstFault.build_eq
  · intro router h
    refine ⟨stableSort_locations h, fun path => ⟨fun r hr => score_of_build h hr path, ?_, ?_⟩⟩
    · exact select_eq_none_iff h
    · exact fun l => select_eq_some_iff h
  · intro others hperm hnodup
    refine ⟨?_, fun router other h hother path => ?_⟩
    · rw [exists_build_eq_ok_iff, exists_build_eq_ok_iff]
      simp only [hperm.mem_iff]
    · rw [select_eq_of_perm hperm hnodup h hother]

/-- Two patterns and a beginning that all match: the pattern of lower order is selected,
though the other one is given first. -/
theorem select_pattern_of_lower_order :
    let compile : PatternCompiler Unit := fun _ pattern =>
      .ok fun path => pattern.toList.all path.toList.contains
    let late : Location := ⟨"x", .pattern, "Late", {}, 5⟩
    let early : Location := ⟨"x", .pattern, "Early", {}, 2⟩
    let whole : Location := ⟨"/", .standardPrefix, "Whole", {}, 0⟩
    ∃ router, Router.build compile [late, early, whole] = .ok router ∧
      router.select "/x" = some early ∧ router.select "" = none := by
  intro compile late early whole
  obtain ⟨hbuild, -, hselect, -⟩ := select_lexicographic compile [late, early, whole]
  obtain ⟨router, hrouter⟩ := hbuild.mpr fun l _ _ => ⟨_, rfl⟩
  obtain ⟨-, -, hsome⟩ := (hselect router hrouter).2 "/x"
  obtain ⟨-, hnone, -⟩ := (hselect router hrouter).2 ""
  refine ⟨router, hrouter, (hsome early).mpr ⟨1, rfl, ⟨?_, by decide⟩, ?_⟩, hnone.mpr ?_⟩
  · exact .pattern rfl rfl (by decide)
  · rintro (_ | _ | _ | j) m hm - hj
    · obtain rfl : late = m := by simpa using hm
      exact Or.inr ⟨rfl, Or.inr ⟨rfl, Or.inl (by decide)⟩⟩
    · exact absurd rfl hj
    · obtain rfl : whole = m := by simpa using hm
      exact Or.inl (by decide)
    · simp at hm
  · intro l hl hmatch
    have hl : l = late ∨ l = early ∨ l = whole := by simpa using hl
    rcases hl with rfl | rfl | rfl
    · exact absurd ((Location.covers_pattern_iff rfl rfl).mp hmatch.covers) (by decide)
    · exact absurd ((Location.covers_pattern_iff rfl rfl).mp hmatch.covers) (by decide)
    · exact absurd ((Location.covers_beginning_iff (Or.inr rfl)).mp hmatch.covers) (by decide)

end Waymark
