import Waymark.Proofs.Server.Contract
import Waymark.Proofs.Text.ByteOrder

/-!
# Waymark.Proofs.Server.Registration

What a registry has of the handlers that were registered.

A registry after any registrations is the table of what they bind (`ofRegistrations_eq`), and a
table binds to each key the last value given for it. All that can be asked of a registry is read
off that one binding. So the answers agree on which names there are (`KnowsExactly`), and those
about one name are all of the same registration (`Serves`): a location is never checked against
the keywords of one handler and served by another.
-/

namespace Waymark

/-- A registration of a handler. -/
structure Registration (H : Type) where
  /-- The name that locations use. -/
  name : String
  /-- The keywords that a location must give, in any order and number. -/
  arguments : List String
  /-- The handler for the path and the arguments of a location. -/
  make : String → Arguments → H

variable {H : Type}

/-- What a registration binds its name to. -/
def Registration.spec (registration : Registration H) : HandlerSpec H :=
  ⟨registration.name, sortedDistinct registration.arguments, registration.make⟩

/-- A registration after which there is none of its name. -/
def Registration.IsLast (last : Registration H) (registrations : List (Registration H)) : Prop :=
  ∃ before after, registrations = before ++ last :: after ∧ ∀ later ∈ after, later.name ≠ last.name

/-- The texts of a list, whatever their order and number. -/
theorem mem_sortedDistinct {texts : List String} {text : String} :
    text ∈ sortedDistinct texts ↔ text ∈ texts := by
  rw [sortedDistinct, Table.mem_keys_ofList]
  simp

namespace Registry

/-- The registry after some registrations. -/
def ofRegistrations (registrations : List (Registration H)) : Registry H :=
  registrations.foldl
    (fun registry r => registry.register r.name r.arguments r.make) {}

/-- A registry has the handlers of some names and no others, whichever way it is asked. -/
structure KnowsExactly (registry : Registry H) (known : List String) : Prop where
  /-- Whether there is a handler. -/
  contains_iff : ∀ name, registry.contains name = true ↔ name ∈ known
  /-- Its specification. -/
  get?_iff : ∀ name, (registry.get? name).isSome = true ↔ name ∈ known
  /-- Its maker. -/
  maker?_iff : ∀ name, (registry.maker? name).isSome = true ↔ name ∈ known
  /-- The keywords that it expects. -/
  expectedOf?_iff : ∀ name, (registry.expectedOf? name).isSome = true ↔ name ∈ known
  /-- The handler of a location. -/
  create?_iff : ∀ location : Location,
    (registry.create? location).isSome = true ↔ location.handler ∈ known
  /-- The listing of all names. -/
  mem_names_iff : ∀ name, name ∈ registry.names ↔ name ∈ known

/-- All that a registry has of a name comes from one registration. -/
structure Serves (registry : Registry H) (last : Registration H) : Prop where
  /-- The name, the keywords and the maker are its own. -/
  get?_eq : registry.get? last.name = some last.spec
  /-- The maker is its own. -/
  maker?_eq : registry.maker? last.name = some last.make
  /-- The keywords are its own, each listed once. -/
  expectedOf?_eq : ∃ expected, registry.expectedOf? last.name = some expected ∧
    expected.Pairwise (· < ·) ∧ ∀ keyword, keyword ∈ expected ↔ keyword ∈ last.arguments
  /-- The handler of a location is made from the path and the arguments of the location. -/
  create?_eq : ∀ location : Location, location.handler = last.name →
    registry.create? location = some (last.make location.path location.args)

/-! ### Registries as tables -/

theorem ofRegistrations_eq (registrations : List (Registration H)) :
    ofRegistrations registrations = Table.ofList (registrations.map fun r => (r.name, r.spec)) := by
  rw [Table.ofList, List.foldl_map]
  rfl

theorem made_ofRegistrations (registrations : List (Registration H)) :
    (ofRegistrations registrations).Made := by
  induction registrations using List.reverseRecOn with
  | nil => exact .empty
  | append_singleton rest last ih =>
    rw [ofRegistrations, List.foldl_append]
    exact .register ih

/-- The last registration of a name counts. -/
theorem get?_of_isLast {registrations : List (Registration H)} {last : Registration H}
    (h : last.IsLast registrations) :
    (ofRegistrations registrations).get? last.name = some last.spec := by
  obtain ⟨before, after, rfl, hafter⟩ := h
  rw [ofRegistrations_eq, Table.get?_ofList_eq_some_iff]
  refine ⟨_, _, List.map_append, ?_⟩
  intro _ hlater
  obtain ⟨later, hmem, rfl⟩ := List.mem_map.mp hlater
  exact hafter later hmem

/-- A name that is registered has a last registration. -/
theorem exists_isLast {registrations : List (Registration H)} {name : String}
    (h : name ∈ registrations.map Registration.name) :
    ∃ last : Registration H, last.IsLast registrations ∧ last.name = name := by
  induction registrations with
  | nil => cases h
  | cons first rest ih =>
    by_cases hrest : name ∈ rest.map Registration.name
    · obtain ⟨last, ⟨before, after, rfl, hafter⟩, hname⟩ := ih hrest
      exact ⟨last, ⟨first :: before, after, rfl, hafter⟩, hname⟩
    · have hname : name = first.name := (List.mem_cons.mp h).resolve_right hrest
      refine ⟨first, ⟨[], rest, rfl, fun later hlater heq => hrest ?_⟩, hname.symm⟩
      exact List.mem_map.mpr ⟨later, hlater, heq.trans hname.symm⟩

/-- The names that have a handler are those that are registered. -/
theorem contains_ofRegistrations_iff {registrations : List (Registration H)} {name : String} :
    (ofRegistrations registrations).contains name = true ↔
      name ∈ registrations.map Registration.name := by
  rw [← Table.mem_keys_iff, ofRegistrations_eq, Table.mem_keys_ofList]
  simp

/-! ### The answers of a registry -/

theorem knowsExactly_ofRegistrations (registrations : List (Registration H)) :
    (ofRegistrations registrations).KnowsExactly (registrations.map Registration.name) where
  contains_iff _ := contains_ofRegistrations_iff
  get?_iff _ := contains_ofRegistrations_iff
  maker?_iff _ := by
    rw [maker?, Option.isSome_map]
    exact contains_ofRegistrations_iff
  expectedOf?_iff _ := by
    rw [expectedOf?, Option.isSome_map]
    exact contains_ofRegistrations_iff
  create?_iff _ := by
    rw [create?, maker?, Option.isSome_map, Option.isSome_map]
    exact contains_ofRegistrations_iff
  mem_names_iff _ := Table.mem_keys_iff.trans contains_ofRegistrations_iff

theorem serves_of_isLast {registrations : List (Registration H)} {last : Registration H}
    (h : last.IsLast registrations) : (ofRegistrations registrations).Serves last := by
  have hget := get?_of_isLast h
  have hmaker : (ofRegistrations registrations).maker? last.name = some last.make := by
    rw [maker?, hget]
    rfl
  have hexpected : (ofRegistrations registrations).expectedOf? last.name =
      some (sortedDistinct last.arguments) := by
    rw [expectedOf?, hget]
    rfl
  exact {
    get?_eq := hget
    maker?_eq := hmaker
    expectedOf?_eq := ⟨_, hexpected,
      (made_ofRegistrations registrations).pairwise_expected hexpected, fun _ => mem_sortedDistinct⟩
    create?_eq := fun location hlocation => by rw [create?, hlocation, hmaker, Option.map_some] }

/-- A maker comes from a registration. -/
theorem exists_of_maker? {registrations : List (Registration H)} {name : String}
    {make : String → Arguments → H} (h : (ofRegistrations registrations).maker? name = some make) :
    ∃ r ∈ registrations, r.name = name ∧ r.make = make := by
  have hname := ((knowsExactly_ofRegistrations registrations).maker?_iff name).mp
    (Option.isSome_of_mem h)
  obtain ⟨last, hlast, rfl⟩ := exists_isLast hname
  have hmake := (serves_of_isLast hlast).maker?_eq.symm.trans h
  obtain ⟨before, after, rfl, -⟩ := hlast
  exact ⟨last, by simp, rfl, Option.some.inj hmake⟩

/-- Names are listed in the order of their bytes. -/
theorem pairwise_encode_names (registry : Registry H) :
    registry.names.Pairwise fun name other => Text.encode name < Text.encode other :=
  registry.pairwise_keys.imp Text.encode_lt_encode_iff.mpr

/-- Registrations of different names commute, whatever comes before and after them. -/
theorem ofRegistrations_swap {first second : Registration H} (h : first.name ≠ second.name)
    (before after : List (Registration H)) :
    ofRegistrations (before ++ first :: second :: after) =
      ofRegistrations (before ++ second :: first :: after) := by
  simp only [ofRegistrations, List.foldl_append, List.foldl_cons, register]
  rw [Table.insert_comm _ h]

/-- **The answers of a registry agree.** After any registrations, a name is known in every
respect if it was registered, and in none otherwise; what is known of it comes from its last
registration; the names are listed in the order of their bytes; and of registrations of
different names the order does not count. -/
theorem answers_of_registrations (registrations : List (Registration H)) :
    let registry := ofRegistrations registrations
    registry.KnowsExactly (registrations.map Registration.name) ∧
      (∀ name ∈ registrations.map Registration.name,
        ∃ last : Registration H, last.IsLast registrations ∧ last.name = name) ∧
      (∀ last : Registration H, last.IsLast registrations → registry.Serves last) ∧
      registry.names.Pairwise (fun name other => Text.encode name < Text.encode other) ∧
      ∀ before first second after, registrations = before ++ first :: second :: after →
        first.name ≠ second.name →
        registry = ofRegistrations (before ++ second :: first :: after) := by
  intro registry
  refine ⟨knowsExactly_ofRegistrations registrations, fun _ => exists_isLast,
    fun _ => serves_of_isLast, pairwise_encode_names registry, ?_⟩
  intro before first second after hregistrations hne
  exact (congrArg ofRegistrations hregistrations).trans (ofRegistrations_swap hne before after)

/-- Of two registrations of one name the second counts, before and after another name. -/
theorem answers_of_second_registration :
    let first : Registration Nat := ⟨"F", ["body"], fun _ _ => 0⟩
    let second : Registration Nat := ⟨"F", ["b", "a", "b"], fun _ _ => 1⟩
    let other : Registration Nat := ⟨"E", [], fun _ _ => 2⟩
    let registry := ofRegistrations [first, second, other]
    second.IsLast [first, second, other] ∧ registry.Serves second ∧
      registry.expectedOf? "F" = some ["a", "b"] ∧ registry.names = ["E", "F"] ∧
      registry = ofRegistrations [first, other, second] := by
  intro first second other registry
  obtain ⟨-, -, hlast, -, hswap⟩ := answers_of_registrations [first, second, other]
  have hsecond : second.IsLast [first, second, other] :=
    ⟨[first], [other], rfl, by simp [other, second]⟩
  exact ⟨hsecond, hlast second hsecond, by decide, by decide,
    hswap [first] second other [] rfl (by decide)⟩

end Registry

end Waymark
