import Waymark.Proofs.Server.Loaded
import Waymark.Proofs.Server.Places
import Waymark.Proofs.Tree.Places
import Waymark.Proofs.Tree.RoundTrip

/-!
# Waymark.Proofs.Server.Layout

Layout carries no meaning: blanks, line ends and comments decide nothing about what a text
configures, nor about what is wrong with it.

Two runs are compared, on texts with the same tokens. Each stage was shown by itself to depend
on its input without places only (`parseTree_bare`, `validate_bare`, `resolve_bare`), so the
outcomes agree stage by stage; `LoadsAlike` says how two outcomes agree, and errors agree in all
that their messages consist of, but for the positions that syntax errors name.
-/

namespace Waymark.Config

/-! ### Messages -/

/-- A rule is broken in the same words wherever it is. -/
theorem SchemaError.message_eq_of_bare {e e' : SchemaError} (h : e.bare = e'.bare) :
    e.message = e'.message := by
  have hbare : ∀ e : SchemaError, e.message = e.bare.message := fun e => by cases e <;> rfl
  rw [hbare, h, ← hbare]

theorem ResolveError.message_eq_of_bare {e e' : ResolveError} (h : e.bare = e'.bare) :
    e.message = e'.message := by
  have hbare : ∀ e : ResolveError, e.message = e.bare.message := fun e => by cases e <;> rfl
  rw [hbare, h, ← hbare]

/-! ### Two runs -/

/-- Two texts load alike: both configure the same server, or both are faulty in the same way
and, if they have trees, in the same words. -/
inductive LoadsAlike : (first second : Except LoadError ServerConfig) → Prop
  /-- Both configure one server. -/
  | loaded (config : ServerConfig) : LoadsAlike (.ok config) (.ok config)
  /-- Neither has a tree, for the same reason in another place. -/
  | malformed {e e' : SyntaxError} (same : e.bare = e'.bare) :
      LoadsAlike (.error (.parsing (.malformed e))) (.error (.parsing (.malformed e')))
  /-- Both break the same rule. -/
  | invalid {e e' : SchemaError} (same : e.bare = e'.bare) (message : e.message = e'.message) :
      LoadsAlike (.error (.parsing (.invalid e))) (.error (.parsing (.invalid e')))
  /-- Both have the same fault in their ports or locations. -/
  | unresolved {e e' : ResolveError} (same : e.bare = e'.bare)
      (message : e.message = e'.message) :
      LoadsAlike (.error (.resolving e)) (.error (.resolving e'))

theorem LoadsAlike.eq_of_ok {config : ServerConfig} {second : Except LoadError ServerConfig}
    (h : LoadsAlike (.ok config) second) : second = .ok config := by
  cases h
  rfl

section Runs

variable {H : Type} {registry : Registry H} {a b : String}

theorem load_of_parseTree_eq_error {e : SyntaxError} (h : parseTree a = .error e) :
    load registry a = .error (.parsing (.malformed e)) := by
  unfold load parse
  rw [h]
  rfl

theorem load_of_parseTree {tree : Block} (h : parseTree a = .ok tree) :
    load registry a =
      ((validate tree mainContext).mapError fun e => .parsing (.invalid e)) >>= fun _ =>
        (resolve registry tree).mapError .resolving := by
  unfold load parse
  rw [h]
  cases hvalid : validate tree mainContext with
  | error e => simp [hvalid]
  | ok _ => simp [hvalid]

/-- Texts whose trees fare alike with the rules and in resolution load alike. -/
theorem loadsAlike_of_outcomes {tree tree' : Block} (ha : parseTree a = .ok tree)
    (hb : parseTree b = .ok tree')
    (hvalidate : (validate tree mainContext).mapError (·.bare) =
      (validate tree' mainContext).mapError (·.bare))
    (hresolve : (resolve registry tree).mapError (·.bare) =
      (resolve registry tree').mapError (·.bare)) :
    LoadsAlike (load registry a) (load registry b) := by
  rw [load_of_parseTree ha, load_of_parseTree hb]
  rcases Outcome.mapError_eq_cases hvalidate with ⟨_, hok, hok'⟩ | ⟨e, e', he, he', hsame⟩
  · rw [hok, hok']
    rcases Outcome.mapError_eq_cases hresolve with ⟨config, hc, hc'⟩ | ⟨e, e', he, he', hsame⟩
    · rw [hc, hc']
      exact .loaded config
    · rw [he, he']
      exact .unresolved hsame (ResolveError.message_eq_of_bare hsame)
  · rw [he, he']
    exact .invalid hsame (SchemaError.message_eq_of_bare hsame)

/-- Texts whose trees differ in nothing but places load alike. -/
theorem loadsAlike_of_trees {tree tree' : Block} (ha : parseTree a = .ok tree)
    (hb : parseTree b = .ok tree') (h : tree.bare = tree'.bare) :
    LoadsAlike (load registry a) (load registry b) := by
  refine loadsAlike_of_outcomes ha hb ?_ ?_
  · rw [← validate_bare, ← validate_bare]
    exact congrArg (validate · mainContext) h
  · rw [resolve_bare registry ha, resolve_bare registry hb, h]

/-- Texts with the same tokens load alike. -/
theorem loadsAlike_of_items {tokens others : List Token} (ha : tokenize a = .ok tokens)
    (hb : tokenize b = .ok others)
    (h : (significant tokens).map Token.item = (significant others).map Token.item) :
    LoadsAlike (load registry a) (load registry b) := by
  have hread : ((parseTree a).mapError (·.bare)).map Block.bare =
      ((parseTree b).mapError (·.bare)).map Block.bare := by
    rw [parseTree_bare ha, parseTree_bare hb, map_bare_of_map_item h]
  cases htree : parseTree a with
  | error e =>
    cases htree' : parseTree b with
    | error e' =>
      rw [load_of_parseTree_eq_error htree, load_of_parseTree_eq_error htree']
      rw [htree, htree'] at hread
      exact .malformed (Except.error.inj hread)
    | ok tree' =>
      rw [htree, htree'] at hread
      cases hread
  | ok tree =>
    cases htree' : parseTree b with
    | error e' =>
      rw [htree, htree'] at hread
      cases hread
    | ok tree' =>
      rw [htree, htree'] at hread
      exact loadsAlike_of_trees htree htree' (Except.ok.inj hread)

/-- A text with a tree loads like the canonical text of the tree. -/
theorem loadsAlike_print {tree : Block} (h : parseTree a = .ok tree) :
    LoadsAlike (load registry a) (load registry tree.print) := by
  obtain ⟨hwell, hlexable⟩ := wellFormed_of_parseTree h
  obtain ⟨parsed, hparsed, hagrees⟩ := exists_parseTree_print hwell hlexable
  exact loadsAlike_of_trees h hparsed (Block.agrees_iff_bare.mp hagrees).symm

end Runs

/-- **Layout carries no meaning.** Two texts that are cut into the same tokens, whatever blanks
and comments stand between these, load alike with every registry. So does a text that has a
tree, and in particular one that keeps to the rules, with the canonical text of its tree. -/
theorem load_of_same_tokens {H : Type} (registry : Registry H) :
    (∀ a b tokens others, tokenize a = .ok tokens → tokenize b = .ok others →
      (significant tokens).map Token.item = (significant others).map Token.item →
      LoadsAlike (load registry a) (load registry b)) ∧
    (∀ source tree, parseTree source = .ok tree →
      LoadsAlike (load registry source) (load registry tree.print)) ∧
    ∀ source tree, parse source = .ok tree →
      LoadsAlike (load registry source) (load registry tree.print) := by
  refine ⟨fun a b tokens others ha hb h => loadsAlike_of_items ha hb h,
    fun source tree h => loadsAlike_print h, fun source tree h => ?_⟩
  obtain ⟨htree, -⟩ := parse_eq_ok_iff.mp h
  exact loadsAlike_print htree

/-- A dense text and one that is spread over lines, with comments, configure the same server. -/
theorem load_of_dense_and_spread :
    let registry : Registry Unit := Registry.register {} "EchoHandler" [] fun _ _ => ()
    let dense := "port 1;location /a EchoHandler\x7b\x7d"
    let spread := "# one port\nport\t1 ;\n\nlocation /a # echoes\n  EchoHandler \x7b\n\x7d\n"
    let server : ServerConfig := ⟨1, [⟨"/a", .standardPrefix, "EchoHandler", {}, 0⟩]⟩
    (∃ tokens others, tokenize dense = .ok tokens ∧ tokenize spread = .ok others ∧
      (significant tokens).map Token.item = (significant others).map Token.item) ∧
    load registry dense = .ok server ∧ load registry spread = .ok server := by
  intro registry dense spread server
  have hload : load registry dense = .ok server := by cbv
  have hsame : (tokenize dense).map (fun tokens => (significant tokens).map Token.item) =
      (tokenize spread).map fun tokens => (significant tokens).map Token.item := by
    cbv
  -- what loads has been cut into tokens
  obtain ⟨root, hparse, -⟩ := load_eq_ok_iff.mp hload
  obtain ⟨tokens, htokens⟩ := exists_tokenize_of_parseTree (parse_eq_ok_iff.mp hparse).1
  cases hothers : tokenize spread with
  | error e =>
    rw [htokens, hothers] at hsame
    cases hsame
  | ok others =>
    rw [htokens, hothers] at hsame
    have hsame := Except.ok.inj hsame
    have halike :=
      (load_of_same_tokens registry).1 dense spread tokens others htokens hothers hsame
    rw [hload] at halike
    exact ⟨⟨tokens, others, htokens, rfl, hsame⟩, hload, halike.eq_of_ok⟩

end Waymark.Config
