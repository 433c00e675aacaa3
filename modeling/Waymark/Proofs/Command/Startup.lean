import Waymark.CommandLine
import Waymark.Proofs.Routing.Reordering

/-!
# Waymark.Proofs.Command.Startup

What a configuration that has been found valid lacks for a start.

Validating a file loads it and goes no further; the patterns of its locations are compiled
when a server starts. So `run` gives up at the route table for those valid files of which a
pattern does not compile (`run_of_validated`), and there are such files
(`validated_without_route_table`).
-/

namespace Waymark

open Config

/-- The program has given up at its route table. -/
structure Outcome.LacksRouteTable (outcome : Outcome) : Prop where
  /-- It has failed, -/
  exit : outcome.exit = 1
  /-- and says so first. -/
  errors : "Error: Failed to build route table\n".toList <+: outcome.errors.toList

namespace Command

/-! ### Loading -/

theorem serverOf_eq_ok_iff {config source : String} {server : ServerConfig} :
    serverOf config (.ok source) = .ok server ↔ load fullRegistry source = .ok server := by
  cases hload : load fullRegistry source <;> simp [serverOf, hload]

/-- A program that cannot go on has failed. -/
theorem exit_of_serverOf {config : String} {text : Except FileError String} {outcome : Outcome}
    (h : serverOf config text = .error outcome) : outcome.exit = 1 := by
  unfold serverOf at h
  split at h
  · obtain rfl := Except.error.inj h
    rfl
  · split at h
    · cases h
    · obtain rfl := Except.error.inj h
      rfl

/-- Validation accepts what loads. -/
theorem exit_validate_eq_zero_iff {network : Http.Network} {config source : String} :
    ((validate config).perform network (.ok source)).exit = 0 ↔
      ∃ server, load fullRegistry source = .ok server := by
  rw [perform]
  cases hserver : serverOf config (.ok source) with
  | ok server => simp [serverOf_eq_ok_iff.mp hserver]
  | error outcome =>
    have hnone : ∀ server, load fullRegistry source ≠ .ok server := by
      intro server hload
      rw [serverOf_eq_ok_iff.mpr hload] at hserver
      cases hserver
    simp [exit_of_serverOf hserver, hnone]

/-! ### Starting -/

theorem perform_run_of_load {network : Http.Network} {config source : String}
    {server : ServerConfig} (h : load fullRegistry source = .ok server) :
    (run config).perform network (.ok source) = start network server := by
  rw [perform, serverOf_eq_ok_iff.mpr h]

theorem patternOutcome_lacksRouteTable (fault : PatternFault Pattern.PatternError) :
    (patternOutcome fault).LacksRouteTable := by
  refine ⟨rfl, ?_⟩
  have hbeginning : "Error: Failed to build route table\n".toList <+:
      "Error: Failed to build route table\n\nCaused by:\n".toList := by
    decide
  unfold patternOutcome
  simp only [String.toList_append, List.append_assoc]
  exact hbeginning.trans (List.prefix_append _ _)

/-- Once it listens, a server succeeds or fails at something else. -/
theorem listen_not_lacksRouteTable (network : Http.Network) (port : Nat) :
    ¬ (listen network port).LacksRouteTable := by
  intro hlacks
  cases network with
  | reachable => cases hlacks.exit
  | unreachable =>
    have hbeginning := hlacks.errors
    simp only [listen, String.toList_append, List.append_assoc] at hbeginning
    have hother : ¬ "Error: Failed to build route table\n".toList <+:
        "Error: Server error: Failed to bind 0.0.0.0:".toList := by
      decide
    exact hother (List.prefix_of_prefix_length_le hbeginning (List.prefix_append _ _) (by decide))

theorem not_lacksRouteTable_of_build {network : Http.Network} {server : ServerConfig}
    {router : Router} (h : Router.build Pattern.compile server.locations = .ok router) :
    ¬ (start network server).LacksRouteTable := by
  rw [start, h]
  exact listen_not_lacksRouteTable network server.port

/-- Building fails exactly with the first fault. -/
theorem build_eq_error_iff {ε : Type} {compile : PatternCompiler ε} {locations : List Location}
    {fault : PatternFault ε} :
    Router.build compile locations = .error fault ↔ FirstFault compile locations fault := by
  constructor
  · intro h
    rcases build_cases compile locations with ⟨router, routes, hbuilt, -⟩ | ⟨other, hother, hfirst⟩
    · rw [h] at hbuilt
      cases hbuilt
    · obtain rfl := Except.error.inj (hother.symm.trans h)
      exact hfirst
  · exact FirstFault.build_eq

theorem start_lacksRouteTable_iff {network : Http.Network} {server : ServerConfig} :
    (start network server).LacksRouteTable ↔
      ∃ l ∈ server.locations, ¬ l.Compiles Pattern.compile := by
  rcases build_cases Pattern.compile server.locations with
    ⟨router, routes, hbuilt, -⟩ | ⟨fault, hfault, hfirst⟩
  · have hcompiles := (exists_build_eq_ok_iff _ _).mp ⟨router, hbuilt⟩
    constructor
    · intro hlacks
      exact absurd hlacks (not_lacksRouteTable_of_build hbuilt)
    · intro ⟨l, hl, hnot⟩
      exact absurd (hcompiles l hl) hnot
  · rw [start, hfault]
    exact iff_of_true (patternOutcome_lacksRouteTable fault) hfirst.not_compiles

/-- **What a valid configuration lacks for a start.** A file is found valid exactly when it
loads. With the locations that are loaded, whatever the pattern language, a route table is
built exactly when all their patterns compile, and otherwise the first one that does not is
the fault; and this is when `run` gives up at its route table, with that fault. None of this
depends on the network. -/
theorem run_of_validated (network : Http.Network) (config source : String) :
    (((validate config).perform network (.ok source)).exit = 0 ↔
      ∃ server, load fullRegistry source = .ok server) ∧
    ∀ server, load fullRegistry source = .ok server →
      (validate config).perform network (.ok source) =
        { exit := 0, output := validMessage config server } ∧
      (server.locations.Pairwise fun l m => l.order < m.order) ∧
      (∀ {ε : Type} (compile : PatternCompiler ε),
        ((∃ router, Router.build compile server.locations = .ok router) ↔
          ∀ l ∈ server.locations, l.Compiles compile) ∧
        ∀ fault, Router.build compile server.locations = .error fault ↔
          FirstFault compile server.locations fault) ∧
      (((run config).perform network (.ok source)).LacksRouteTable ↔
        ∃ l ∈ server.locations, ¬ l.Compiles Pattern.compile) ∧
      ∀ fault, FirstFault Pattern.compile server.locations fault →
        (run config).perform network (.ok source) = patternOutcome fault := by
  refine ⟨exit_validate_eq_zero_iff, fun server hload => ⟨?_, ?_, ?_, ?_, ?_⟩⟩
  · rw [perform, serverOf_eq_ok_iff.mpr hload]
  · exact (placed_of_load hload).pairwise_order
  · intro ε compile
    exact ⟨exists_build_eq_ok_iff compile server.locations, fun fault => build_eq_error_iff⟩
  · rw [perform_run_of_load hload]
    exact start_lacksRouteTable_iff
  · intro fault hfault
    rw [perform_run_of_load hload, start, hfault.build_eq]

/-- A pattern that is not closed: the file is valid, and there is no route table. -/
theorem validated_without_route_table :
    let source := "port 1;location ~ ( EchoHandler\x7b\x7d"
    ∃ server, load fullRegistry source = .ok server ∧
      (∀ router, Router.build Pattern.compile server.locations ≠ .ok router) ∧
      ∀ network, ((validate "c").perform network (.ok source)).exit = 0 ∧
        ((run "c").perform network (.ok source)).LacksRouteTable := by
  intro source
  have hload : load fullRegistry source = .ok ⟨1, [⟨"(", .pattern, "EchoHandler", {}, 0⟩]⟩ := by
    cbv
  have hread : Pattern.read "(" = .error ⟨.groupUnclosed, ⟨1, 0⟩, none⟩ := by cbv
  obtain ⟨fault, hfault⟩ : ∃ fault, Router.build Pattern.compile
      [⟨"(", .pattern, "EchoHandler", {}, 0⟩] = .error fault := by
    simp [Router.build, Route.ofLocation, MatchKind.isPattern, Pattern.compile, Pattern.termOf,
      hread, List.mapM_cons]
  refine ⟨_, hload, fun router hbuilt => ?_, fun network =>
    ⟨exit_validate_eq_zero_iff.mpr ⟨_, hload⟩, ?_⟩⟩
  · rw [hfault] at hbuilt
    cases hbuilt
  · rw [perform_run_of_load hload, start, hfault]
    exact patternOutcome_lacksRouteTable fault

/-- A pattern that compiles: the file is valid, and there is a route table. -/
theorem run_of_validated_pattern :
    let source := "port 1;location ~ a EchoHandler\x7b\x7d"
    load fullRegistry source = .ok ⟨1, [⟨"a", .pattern, "EchoHandler", {}, 0⟩]⟩ ∧
      ∀ network, ((validate "c").perform network (.ok source)).exit = 0 ∧
        ¬ ((run "c").perform network (.ok source)).LacksRouteTable := by
  intro source
  have hload : load fullRegistry source = .ok ⟨1, [⟨"a", .pattern, "EchoHandler", {}, 0⟩]⟩ := by
    cbv
  have hcompile : (Pattern.compile false "a").isOk = true := by cbv
  refine ⟨hload, fun network => ?_⟩
  obtain ⟨hvalid, hloaded⟩ := run_of_validated network "c" source
  obtain ⟨-, -, -, hlacks, -⟩ := hloaded _ hload
  refine ⟨hvalid.mpr ⟨_, hload⟩, ?_⟩
  rw [hlacks]
  intro hfault
  obtain ⟨l, hl, hnot⟩ := hfault
  obtain rfl := List.mem_singleton.mp hl
  refine hnot fun _ => ?_
  cases htest : Pattern.compile false "a" with
  | ok test => exact ⟨test, htest⟩
  | error e =>
    rw [htest] at hcompile
    cases hcompile

end Command

end Waymark
