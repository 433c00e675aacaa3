import Waymark.Proofs.Routing.Selection
import Waymark.Proofs.Server.Loaded

/-!
# Waymark.Proofs.Routing.Reordering

Where in a configuration a location stands matters for patterns only.

Order decides between locations of one priority whose matches have one length. Two locations
that are no patterns and tie for a request path are both that path, or both beginnings of it of
one length, so they have one path (`Location.path_eq_of_tie`); and no two locations that have
been loaded have one path. So a tie is between patterns, and those keep their sequence.
-/

namespace Waymark

open Config

variable {ε : Type} {compile : PatternCompiler ε}

/-- The location with another order. -/
def Location.withOrder (l : Location) (order : Nat) : Location := { l with order := order }

/-- The locations with their places as orders. -/
def renumber (locations : List Location) : List Location :=
  locations.mapIdx fun i l => l.withOrder i

/-! ### Orders -/

section WithOrder

variable {l : Location} {n : Nat} {path : String}

@[simp] theorem Location.withOrder_withOrder {m : Nat} :
    (l.withOrder n).withOrder m = l.withOrder m := rfl

theorem Location.Matches.withOrder (h : l.Matches compile path) (n : Nat) :
    (l.withOrder n).Matches compile path := by
  obtain ⟨hcovers, hreach⟩ := h
  refine ⟨?_, hreach⟩
  cases hcovers with
  | exact hkind hpath => exact .exact hkind hpath
  | beginning hkind hpath => exact .beginning hkind hpath
  | pattern hkind htest hpath => exact .pattern hkind htest hpath

/-- What a location matches does not depend on its order. -/
theorem Location.matches_withOrder_iff :
    (l.withOrder n).Matches compile path ↔ l.Matches compile path :=
  ⟨fun h => h.withOrder l.order, fun h => h.withOrder n⟩

theorem Location.compiles_withOrder_iff :
    (l.withOrder n).Compiles compile ↔ l.Compiles compile := Iff.rfl

end WithOrder

theorem getElem?_renumber_eq_some_iff {locations : List Location} {i : Nat} {l : Location} :
    (renumber locations)[i]? = some l ↔ ∃ m, locations[i]? = some m ∧ l = m.withOrder i := by
  rw [renumber, List.getElem?_mapIdx, Option.map_eq_some_iff]
  simp only [eq_comm]

theorem mem_renumber_iff {locations : List Location} {l : Location} :
    l ∈ renumber locations ↔ ∃ i, ∃ m : Location, locations[i]? = some m ∧ l = m.withOrder i := by
  simp only [List.mem_iff_getElem?, getElem?_renumber_eq_some_iff]

/-! ### Ties -/

/-- Of one length there is one beginning. -/
theorem eq_of_prefix_of_utf8ByteSize_eq {text first second : String}
    (hfirst : first.toList <+: text.toList) (hsecond : second.toList <+: text.toList)
    (hsize : first.utf8ByteSize = second.utf8ByteSize) : first = second := by
  have hextend : ∀ {s t : String}, s.toList <+: t.toList → s.utf8ByteSize = t.utf8ByteSize →
      s = t := by
    intro s t ⟨rest, hrest⟩ hsize
    have ht : t = s ++ String.ofList rest := by
      rw [← String.toList_inj, String.toList_append, String.toList_ofList, hrest]
    rw [ht, String.utf8ByteSize_append] at hsize
    have hempty : String.ofList rest = "" := String.utf8ByteSize_eq_zero_iff.mp (by omega)
    rw [ht, hempty, String.append_empty]
  rcases List.prefix_or_prefix_of_prefix hfirst hsecond with h | h
  · exact hextend h hsize
  · exact (hextend h hsize.symm).symm

/-- Two locations that are no patterns, both match a request path, and have one priority and
reach have one path. -/
theorem Location.path_eq_of_tie {l m : Location} {path : String} (hl : l.Matches compile path)
    (hm : m.Matches compile path) (hkind : l.kind.isPattern = false)
    (hpriority : l.kind.priority = m.kind.priority) (hreach : l.reach = m.reach) :
    l.path = m.path := by
  have hsame : m.kind = l.kind := by
    revert hkind hpriority
    cases l.kind <;> cases m.kind <;> decide
  have hsize : l.path.utf8ByteSize = m.path.utf8ByteSize := by
    simpa [Location.reach, hsame, hkind] using hreach
  cases hl.covers with
  | exact hexact hpath =>
    rw [← hpath]
    exact (Location.covers_exact_iff (hsame.trans hexact)).mp hm.covers
  | beginning hbeginning hpath =>
    have hother := (Location.covers_beginning_iff (hsame ▸ hbeginning)).mp hm.covers
    exact eq_of_prefix_of_utf8ByteSize_eq hpath hother hsize
  | pattern hpattern =>
    rw [hkind] at hpattern
    cases hpattern

/-! ### Moving locations -/

/-- A list of locations as a configuration has it: orders are places, and only patterns share
a path. -/
structure Placed (locations : List Location) : Prop where
  /-- The orders are the places. -/
  order_eq : ∀ {i : Nat} {l : Location}, locations[i]? = some l → l.order = i
  /-- No two locations have one path. -/
  eq_of_path_eq : ∀ {l m : Location}, l ∈ locations → m ∈ locations → l.path = m.path → l = m

theorem placed_of_load {H : Type} {registry : Registry H} {source : String}
    {config : ServerConfig} (hload : load registry source = .ok config) :
    Placed config.locations := by
  obtain ⟨statements, table, htabulated⟩ := exists_tabulated_of_load hload
  refine ⟨fun {i l} hl => ?_, htabulated.eq_of_path_eq⟩
  have hlt := (List.getElem?_eq_some_iff.mp hl).1
  have horder : (config.locations.map (·.order))[i]? = some l.order := by
    rw [List.getElem?_map, hl, Option.map_some]
  rw [htabulated.map_order, List.getElem?_range hlt] at horder
  exact (Option.some.inj horder).symm

namespace Placed

variable {locations reordered : List Location} {path : String}

theorem eq_of_order_eq (h : Placed locations) {l m : Location} (hl : l ∈ locations)
    (hm : m ∈ locations) (horder : l.order = m.order) : l = m := by
  obtain ⟨i, hi⟩ := List.mem_iff_getElem?.mp hl
  obtain ⟨j, hj⟩ := List.mem_iff_getElem?.mp hm
  obtain rfl : i = j := by rw [← h.order_eq hi, ← h.order_eq hj, horder]
  exact Option.some.inj (hi.symm.trans hj)

theorem pairwise_order (h : Placed locations) :
    locations.Pairwise fun l m => l.order < m.order := by
  refine List.pairwise_iff_getElem.mpr fun i j hi hj hij => ?_
  rw [h.order_eq (List.getElem?_eq_getElem hi), h.order_eq (List.getElem?_eq_getElem hj)]
  exact hij

/-- Locations that have been moved stand in two places only if they are two. -/
theorem place_eq_of_perm (h : Placed locations) (hperm : reordered.Perm locations) {i j : Nat}
    {l : Location} (hi : reordered[i]? = some l) (hj : reordered[j]? = some l) : i = j := by
  have hnodup : reordered.Nodup := by
    refine hperm.nodup_iff.mpr (h.pairwise_order.imp fun hlt heq => ?_)
    rw [heq] at hlt
    omega
  exact (List.getElem?_inj (List.getElem?_eq_some_iff.mp hi).1 hnodup).mp (hi.trans hj.symm)

/-- Patterns that keep their sequence stand in the sequence of their orders. -/
theorem order_lt_of_place_lt (h : Placed locations)
    (hpatterns : reordered.filter (·.kind.isPattern) = locations.filter (·.kind.isPattern))
    {i j : Nat} {l m : Location} (hi : reordered[i]? = some l) (hj : reordered[j]? = some m)
    (hl : l.kind.isPattern = true) (hm : m.kind.isPattern = true) (hij : i < j) :
    l.order < m.order := by
  have hfilter := h.pairwise_order.filter (·.kind.isPattern)
  rw [← hpatterns, List.pairwise_filter] at hfilter
  obtain ⟨hilt, rfl⟩ := List.getElem?_eq_some_iff.mp hi
  obtain ⟨hjlt, rfl⟩ := List.getElem?_eq_some_iff.mp hj
  exact List.pairwise_iff_getElem.mp hfilter i j hilt hjlt hij hl hm

/-- A tie is between patterns. -/
theorem isPattern_of_tie (h : Placed locations) {l m : Location} (hlmem : l ∈ locations)
    (hmmem : m ∈ locations) (hne : l ≠ m) (hl : l.Matches compile path)
    (hm : m.Matches compile path) (hpriority : l.kind.priority = m.kind.priority)
    (hreach : l.reach = m.reach) : l.kind.isPattern = true ∧ m.kind.isPattern = true := by
  have hpattern : l.kind.isPattern = true := by
    by_contra hkind
    rw [Bool.not_eq_true] at hkind
    exact hne (h.eq_of_path_eq hlmem hmmem (Location.path_eq_of_tie hl hm hkind hpriority hreach))
  refine ⟨hpattern, ?_⟩
  revert hpattern hpriority
  cases l.kind <;> cases m.kind <;> decide

/-- **A location that is chosen is also chosen where the locations have been moved.** -/
theorem exists_isChosen_renumber (h : Placed locations) (hperm : reordered.Perm locations)
    (hpatterns : reordered.filter (·.kind.isPattern) = locations.filter (·.kind.isPattern))
    {k : Nat} {l : Location} (hchosen : IsChosen compile locations path k l) :
    ∃ i, IsChosen compile (renumber reordered) path i (l.withOrder i) := by
  have hlmem := List.mem_of_getElem? hchosen.place
  obtain ⟨i, hi⟩ := List.mem_iff_getElem?.mp (hperm.mem_iff.mpr hlmem)
  refine ⟨i, getElem?_renumber_eq_some_iff.mpr ⟨l, hi, rfl⟩,
    Location.matches_withOrder_iff.mpr hchosen.found, ?_⟩
  intro j moved hplace hmatch hji
  obtain ⟨m, hj, rfl⟩ := getElem?_renumber_eq_some_iff.mp hplace
  rw [Location.matches_withOrder_iff] at hmatch
  have hne : l ≠ m := by
    intro heq
    exact hji (h.place_eq_of_perm hperm hj (heq ▸ hi))
  have hmmem := hperm.mem_iff.mp (List.mem_of_getElem? hj)
  obtain ⟨n, hn⟩ := List.mem_iff_getElem?.mp hmmem
  have hnk : n ≠ k := by
    intro heq
    exact hne (Option.some.inj (hchosen.place.symm.trans (heq ▸ hn)))
  -- among the locations as they were: of higher rank, or of equal rank and earlier
  rcases hchosen.best n m hn hmatch hnk with hhigher | ⟨hpriority, hlonger | ⟨hreach, hearlier⟩⟩
  · exact .of_higher (Or.inl hhigher)
  · exact .of_higher (Or.inr ⟨hpriority, hlonger⟩)
  · obtain ⟨hl, hm⟩ := h.isPattern_of_tie hlmem hmmem hne hchosen.found hmatch hpriority.symm
      hreach.symm
    have horder : l.order < m.order := by
      have hneorder : l.order ≠ m.order := fun heq => hne (h.eq_of_order_eq hlmem hmmem heq)
      omega
    have hij : i < j := by
      by_contra hnot
      have hlt := h.order_lt_of_place_lt hpatterns hj hi hm hl (by omega)
      omega
    exact Or.inr ⟨hpriority, Or.inr ⟨hreach, Or.inl hij⟩⟩

end Placed

/-- Moving locations changes nothing about whether a router can be built. -/
theorem exists_build_renumber_iff {locations reordered : List Location}
    (hperm : reordered.Perm locations) :
    (∃ other, Router.build compile (renumber reordered) = .ok other) ↔
      ∃ router, Router.build compile locations = .ok router := by
  rw [exists_build_eq_ok_iff, exists_build_eq_ok_iff]
  constructor
  · intro hall l hl
    obtain ⟨i, hi⟩ := List.mem_iff_getElem?.mp (hperm.mem_iff.mpr hl)
    exact Location.compiles_withOrder_iff.mp (hall _ (mem_renumber_iff.mpr ⟨i, l, hi, rfl⟩))
  · intro hall moved hmoved
    obtain ⟨i, m, hi, rfl⟩ := mem_renumber_iff.mp hmoved
    exact Location.compiles_withOrder_iff.mpr (hall m (hperm.mem_iff.mp (List.mem_of_getElem? hi)))

section Loaded

variable {H : Type} {registry : Registry H} {source : String} {config : ServerConfig}

/-- **Only patterns depend on where they stand.** Let the locations of a configuration that
loads be moved, and get their new places as orders, with the patterns in their old sequence. A
router can be built as before or not, and selects for every request path the same location as
before, up to its order, or none as before. Of two locations that are no patterns, one never
has the rank of the other for a request path that it matches. -/
theorem select_renumber_of_perm (compile : PatternCompiler ε)
    (hload : load registry source = .ok config) {reordered : List Location}
    (hperm : reordered.Perm config.locations)
    (hpatterns : reordered.filter (·.kind.isPattern) =
      config.locations.filter (·.kind.isPattern)) :
    ((∃ other, Router.build compile (renumber reordered) = .ok other) ↔
      ∃ router, Router.build compile config.locations = .ok router) ∧
    ∀ router, Router.build compile config.locations = .ok router →
      (∀ other, Router.build compile (renumber reordered) = .ok other → ∀ path,
        (other.select path).map (·.withOrder 0) = (router.select path).map (·.withOrder 0)) ∧
      ∀ r ∈ router.routes, ∀ s ∈ router.routes, r.location ≠ s.location →
        r.location.kind.isPattern = false → s.location.kind.isPattern = false →
        ∀ path, r.matchLength path ≠ 0 → r.score path ≠ s.score path := by
  have hplaced := placed_of_load hload
  refine ⟨exists_build_renumber_iff hperm, fun router hrouter => ⟨fun other hother path => ?_, ?_⟩⟩
  · rcases select_cases hrouter path with ⟨hnone, hzero⟩ | ⟨k, l, hsome, hchosen⟩
    · have hother' : other.select path = none := by
        refine (select_eq_none_iff hother).mpr fun moved hmoved hmatch => ?_
        obtain ⟨i, m, hi, rfl⟩ := mem_renumber_iff.mp hmoved
        exact hzero m (hperm.mem_iff.mp (List.mem_of_getElem? hi))
          (Location.matches_withOrder_iff.mp hmatch)
      rw [hnone, hother']
    · obtain ⟨i, hmoved⟩ := hplaced.exists_isChosen_renumber hperm hpatterns hchosen
      rw [hsome, (select_eq_some_iff hother).mpr ⟨i, hmoved⟩, Option.map_some, Option.map_some,
        Location.withOrder_withOrder]
  · intro r hr s hs hne hrkind hskind path hmatch hscore
    have hmem : ∀ t ∈ router.routes, t.location ∈ config.locations := fun t ht =>
      (stableSort_locations hrouter).perm.mem_iff.mp (List.mem_map.mpr ⟨t, ht, rfl⟩)
    obtain ⟨hrmatch, hrscore⟩ := score_of_build hrouter hr path
    obtain ⟨hsmatch, hsscore⟩ := score_of_build hrouter hs path
    have hlength : r.matchLength path = s.matchLength path := congrArg Prod.snd hscore
    have hrfound := hrmatch.mp hmatch
    have hsfound := hsmatch.mp (hlength ▸ hmatch)
    rw [hrscore hrfound, hsscore hsfound] at hscore
    obtain ⟨hpriority, hreach⟩ := Prod.mk.inj hscore
    exact hne (hplaced.eq_of_path_eq (hmem r hr) (hmem s hs)
      (Location.path_eq_of_tie hrfound hsfound hrkind hpriority hreach))

/-- A location that is no pattern, moved from behind two patterns to the front. -/
theorem select_of_exact_moved_first :
    let registry : Registry Unit := Registry.register {} "h" [] fun _ _ => ()
    let compile : PatternCompiler Unit := fun _ pattern =>
      .ok fun path => pattern.toList.all path.toList.contains
    let start : Location := ⟨"/a", .standardPrefix, "h", {}, 0⟩
    let first : Location := ⟨"b", .pattern, "h", {}, 1⟩
    let second : Location := ⟨"a", .pattern, "h", {}, 2⟩
    let whole : Location := ⟨"/ab", .exact, "h", {}, 3⟩
    load registry ("port 1;location /a h\x7b\x7dlocation ~ b h\x7b\x7d" ++
        "location ~ a h\x7b\x7dlocation = /ab h\x7b\x7d") =
      .ok ⟨1, [start, first, second, whole]⟩ ∧
    ∃ router other, Router.build compile [start, first, second, whole] = .ok router ∧
      Router.build compile (renumber [whole, start, first, second]) = .ok other ∧
      ∀ path, (other.select path).map (·.withOrder 0) =
        (router.select path).map (·.withOrder 0) := by
  intro registry compile start first second whole
  have hload : load registry ("port 1;location /a h\x7b\x7dlocation ~ b h\x7b\x7d" ++
      "location ~ a h\x7b\x7dlocation = /ab h\x7b\x7d") =
      .ok ⟨1, [start, first, second, whole]⟩ := by cbv
  have hperm : ([whole] ++ [start, first, second]).Perm ([start, first, second] ++ [whole]) :=
    List.perm_append_comm
  obtain ⟨hbuild, hselect⟩ := select_renumber_of_perm compile hload hperm rfl
  obtain ⟨router, hrouter⟩ :=
    (exists_build_eq_ok_iff compile [start, first, second, whole]).mpr fun _ _ _ => ⟨_, rfl⟩
  obtain ⟨other, hother⟩ := hbuild.mpr ⟨router, hrouter⟩
  exact ⟨hload, router, other, hrouter, hother, (hselect router hrouter).1 other hother⟩

end Loaded

end Waymark
