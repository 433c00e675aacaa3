import Waymark.Proofs.Rules.LevelOrder
import Waymark.Proofs.Server.Loaded
import Waymark.Proofs.Tree.RoundTrip

/-!
# Waymark.Proofs.Server.Shape

What the rules admit, and what resolution finds in it.

The rules and the resolver know the language each for itself. The rules are a table over which
`Conforms` is defined; here it is read with the table at hand, one context after the other
(`Conforms.server`, `Conforms.http`, `Conforms.main`). `Admitted` is what the resolver needs of
a tree, stated through what it searches, and `admitted_of_parse` derives it.
-/

namespace Waymark.Config

/-! ### The contexts -/

/-- A directive of some name with one argument. -/
structure Statement.IsSetting (name : String) (s : Statement) : Prop where
  /-- It has that name. -/
  name_eq : s.name = name
  /-- It has no block. -/
  plain : s.isBlock = false
  /-- It has one argument. -/
  args : s.args.length = 1

/-- A block of a location, with two or three arguments and directives inside. -/
structure Statement.IsLocation (s : Statement) : Prop where
  /-- It has the name of locations. -/
  name_eq : s.name = "location"
  /-- It has a block. -/
  isBlock : s.isBlock = true
  /-- It has a path and a handler, and perhaps a modifier. -/
  args : s.args.length = 2 ∨ s.args.length = 3
  /-- No block is inside. -/
  plain : ∀ t ∈ s.body, t.isBlock = false

variable {statements : List Statement} {s : Statement}

/-- What conforms to a context with known rules: each statement is allowed, what stands in its
block conforms to the context of its name, and what may occur once does. -/
theorem Conforms.inv {context : String} {rules : ContextRules} (h : Conforms context statements)
    (hrules : rulesOf? context = some rules) :
    (∀ s ∈ statements, rules.Allows s ∧ (s.isBlock = true → Conforms s.name s.body)) ∧
      rules.Once statements := by
  cases h with
  | @intro others _ _ hknown hcontext hallows honce hinside =>
    obtain rfl : rules = others :=
      Option.some.inj (hrules.symm.trans (rulesOf?_eq_some_iff.mpr ⟨hknown, hcontext⟩))
    refine ⟨fun s hs => ⟨hallows s hs, fun hblock => ?_⟩, honce⟩
    obtain ⟨child, hchild⟩ := Option.isSome_iff_exists.mp hblock
    have hbody : s.body = child.statements := by rw [Statement.body, hchild]
    rw [hbody]
    exact hinside s hs child hchild

/-- A block that is listed as a location is one. -/
theorem Conforms.isLocation (hname : s.name = "location") (hblock : s.isBlock = true)
    (haccepts : locationRule.arity.accepts s.args.length = true)
    (hbody : Conforms s.name s.body) : s.IsLocation := by
  refine ⟨hname, hblock, by simpa [locationRule, Arity.accepts] using haccepts, ?_⟩
  rw [hname] at hbody
  exact conforms_location_iff.mp hbody

/-- In a server stand ports and locations. -/
theorem Conforms.server (h : Conforms "server" statements) :
    ∀ s ∈ statements, s.IsSetting "listen" ∨ s.IsLocation := by
  intro s hs
  obtain ⟨hallows, hbody⟩ := (h.inv rfl).1 s hs
  cases hallows with
  | directive hplain hlisted haccepts =>
    left
    simp only [List.mem_singleton, DirectiveRule.mk.injEq] at hlisted
    obtain ⟨hname, rfl⟩ := hlisted
    exact ⟨hname, hplain, by simpa [Arity.accepts, eq_comm] using haccepts⟩
  | block hblock hlisted haccepts =>
    right
    simp only [List.mem_singleton, locationRule, BlockRule.mk.injEq] at hlisted
    obtain ⟨hname, rfl, -⟩ := hlisted
    exact Conforms.isLocation hname hblock haccepts (hbody hblock)
  | free _ hfree _ _ => cases hfree

/-- Whether a statement is a block of some name. -/
def Statement.opens (name : String) (s : Statement) : Bool := s.isBlock && s.name = name

/-- In `http` stands at most one server. -/
theorem Conforms.http (h : Conforms "http" statements) :
    (∀ s ∈ statements, s.opens "server" = true ∧ Conforms "server" s.body) ∧
      statements.countP (·.opens "server") ≤ 1 := by
  obtain ⟨hinside, honce⟩ := h.inv rfl
  refine ⟨fun s hs => ?_, honce ⟨"server", .exactly 0, true⟩ (by simp) rfl⟩
  obtain ⟨hallows, hbody⟩ := hinside s hs
  cases hallows with
  | directive _ hlisted _ => simp at hlisted
  | block hblock hlisted _ =>
    simp only [List.mem_singleton, BlockRule.mk.injEq] at hlisted
    obtain ⟨hname, -, -⟩ := hlisted
    have hserver := hbody hblock
    rw [hname] at hserver
    exact ⟨by simp [Statement.opens, hblock, hname], hserver⟩
  | free _ hfree _ _ => cases hfree

/-- At the top stand ports, locations and at most one `http` block. -/
theorem Conforms.main (h : Conforms mainContext statements) :
    (∀ s ∈ statements, s.IsSetting "port" ∨ s.IsLocation ∨
      s.opens "http" = true ∧ Conforms "http" s.body) ∧
      statements.countP (·.opens "http") ≤ 1 := by
  obtain ⟨hinside, honce⟩ := h.inv rfl
  refine ⟨fun s hs => ?_, honce ⟨"http", .exactly 0, true⟩ (by simp) rfl⟩
  obtain ⟨hallows, hbody⟩ := hinside s hs
  cases hallows with
  | directive hplain hlisted haccepts =>
    left
    simp only [List.mem_singleton, DirectiveRule.mk.injEq] at hlisted
    obtain ⟨hname, rfl⟩ := hlisted
    exact ⟨hname, hplain, by simpa [Arity.accepts, eq_comm] using haccepts⟩
  | block hblock hlisted haccepts =>
    right
    simp only [List.mem_cons, List.not_mem_nil, or_false, locationRule, BlockRule.mk.injEq]
      at hlisted
    rcases hlisted with ⟨hname, -, -⟩ | ⟨hname, rfl, -⟩
    · have hhttp := hbody hblock
      rw [hname] at hhttp
      exact Or.inr ⟨by simp [Statement.opens, hblock, hname], hhttp⟩
    · exact Or.inl (Conforms.isLocation hname hblock haccepts (hbody hblock))
  | free _ hfree _ _ => cases hfree

/-! ### Blocks at every depth -/

/-- Counting at every depth, where each statement accounts for itself. -/
theorem countP_outlineAll_le {p q : Statement → Bool}
    (h : ∀ s ∈ statements, s.outline.countP p ≤ if q s then 1 else 0) :
    (Statement.outlineAll statements).countP p ≤ statements.countP q := by
  induction statements with
  | nil => simp
  | cons s rest ih =>
    obtain ⟨hfirst, hrest⟩ := List.forall_mem_cons.mp h
    have hle := ih hrest
    rw [Statement.outlineAll, List.countP_append, List.countP_cons]
    omega

theorem countP_outlineAll_eq_zero {p : Statement → Bool}
    (h : ∀ s ∈ statements, s.outline.countP p = 0) :
    (Statement.outlineAll statements).countP p = 0 := by
  have hle : (Statement.outlineAll statements).countP p ≤ statements.countP fun _ => false :=
    countP_outlineAll_le fun s hs => by simp [h s hs]
  simpa using hle

theorem outlineAll_of_plain (h : ∀ t ∈ statements, t.isBlock = false) :
    Statement.outlineAll statements = statements := by
  induction statements with
  | nil => simp
  | cons s rest ih =>
    obtain ⟨hfirst, hrest⟩ := List.forall_mem_cons.mp h
    cases s with
    | directive words span => rw [Statement.outlineAll_directive, ih hrest]
    | block words context body span => cases hfirst

/-- A statement with directives inside at most opens one block of some name, and this itself. -/
theorem countP_outline_of_plain (h : ∀ t ∈ s.body, t.isBlock = false) (name : String) :
    s.outline.countP (·.opens name) = if s.opens name then 1 else 0 := by
  have hbody : s.body.countP (·.opens name) = 0 := by
    refine List.countP_eq_zero.mpr fun t ht => ?_
    simp [Statement.opens, h t ht]
  rw [outline_eq_cons, outlineAll_of_plain h, List.countP_cons, hbody, Nat.zero_add]

theorem Statement.IsSetting.body_eq {name : String} (h : s.IsSetting name) : s.body = [] := by
  have hplain := h.plain
  cases s with
  | directive words span => rfl
  | block words context body span => cases hplain

/-- Settings and locations open no block of another name. -/
theorem countP_outline_eq_zero {setting name : String} (hname : name ≠ "location")
    (h : s.IsSetting setting ∨ s.IsLocation) : s.outline.countP (·.opens name) = 0 := by
  rcases h with hsetting | hlocation
  · rw [countP_outline_of_plain (by simp [hsetting.body_eq])]
    simp [Statement.opens, hsetting.plain]
  · rw [countP_outline_of_plain hlocation.plain]
    simp [Statement.opens, hlocation.name_eq, Ne.symm hname]

/-- In a server is no block but locations. -/
theorem Conforms.countP_server (h : Conforms "server" statements) {name : String}
    (hname : name ≠ "location") :
    (Statement.outlineAll statements).countP (·.opens name) = 0 :=
  countP_outlineAll_eq_zero fun s hs => countP_outline_eq_zero hname (h.server s hs)

theorem name_eq_of_opens {name : String} (h : s.opens name = true) : s.name = name := by
  simp only [Statement.opens, Bool.and_eq_true, decide_eq_true_eq] at h
  exact h.2

theorem opens_eq_false {name : String} (h : s.name ≠ name) : s.opens name = false := by
  simp [Statement.opens, h]

/-- In `http` is at most one server, at any depth, and no other `http` block. -/
theorem Conforms.countP_http (h : Conforms "http" statements) :
    (Statement.outlineAll statements).countP (·.opens "http") = 0 ∧
      (Statement.outlineAll statements).countP (·.opens "server") ≤ 1 := by
  obtain ⟨hserver, honce⟩ := h.http
  constructor
  · refine countP_outlineAll_eq_zero fun s hs => ?_
    obtain ⟨hopens, hinside⟩ := hserver s hs
    have hother : s.opens "http" = false := opens_eq_false (by simp [name_eq_of_opens hopens])
    rw [outline_eq_cons, List.countP_cons, hinside.countP_server (by decide), hother]
    rfl
  · refine (countP_outlineAll_le fun s hs => ?_).trans honce
    obtain ⟨hopens, hinside⟩ := hserver s hs
    rw [outline_eq_cons, List.countP_cons, hinside.countP_server (by decide), Nat.zero_add]

/-- **In a tree that keeps to the rules**, at any depth, is at most one block of either name. -/
theorem Conforms.countP_main (h : Conforms mainContext statements) :
    (Statement.outlineAll statements).countP (·.opens "http") ≤ 1 ∧
      (Statement.outlineAll statements).countP (·.opens "server") ≤ 1 := by
  obtain ⟨hmain, honce⟩ := h.main
  have hplain : ∀ s ∈ statements, s.IsSetting "port" ∨ s.IsLocation → ∀ name ≠ "location",
      s.outline.countP (·.opens name) ≤ if s.opens "http" then 1 else 0 := by
    intro s _ hs name hname
    rw [countP_outline_eq_zero hname hs]
    exact Nat.zero_le _
  constructor
  · refine (countP_outlineAll_le fun s hs => ?_).trans honce
    rcases hmain s hs with hsetting | hlocation | ⟨hopens, hinside⟩
    · exact hplain s hs (Or.inl hsetting) "http" (by decide)
    · exact hplain s hs (Or.inr hlocation) "http" (by decide)
    · rw [outline_eq_cons, List.countP_cons, hinside.countP_http.1, Nat.zero_add]
  · refine (countP_outlineAll_le fun s hs => ?_).trans honce
    rcases hmain s hs with hsetting | hlocation | ⟨hopens, hinside⟩
    · exact hplain s hs (Or.inl hsetting) "server" (by decide)
    · exact hplain s hs (Or.inr hlocation) "server" (by decide)
    · have hother : s.opens "server" = false := opens_eq_false (by simp [name_eq_of_opens hopens])
      rw [outline_eq_cons, List.countP_cons, hother, if_pos hopens]
      exact hinside.countP_http.2

/-! ### What is searched -/

theorem length_blocks (b : Block) (name : String) :
    (b.blocks name).length = b.statements.countP (·.opens name) := by
  unfold Block.blocks Block.find
  rw [List.length_filterMap_eq_countP, List.countP_filter]
  rfl

theorem exists_of_mem_blocks {b child : Block} {name : String} (h : child ∈ b.blocks name) :
    ∃ s ∈ b.statements, s.name = name ∧ s.block? = some child ∧ s.body = child.statements := by
  simp only [Block.blocks, Block.find, List.mem_filterMap, List.mem_filter, decide_eq_true_eq] at h
  obtain ⟨s, ⟨hs, hname⟩, hchild⟩ := h
  exact ⟨s, hs, hname, hchild, by rw [Statement.body, hchild]⟩

/-- What stands in the block of a statement of a tree is in the tree. -/
theorem mem_outlineAll_body {t : Statement} (hs : s ∈ Statement.outlineAll statements)
    (ht : t ∈ s.body) : t ∈ Statement.outlineAll statements := by
  induction statements using Statement.list_induction with
  | nil => simp at hs
  | directive words span rest ih =>
    rw [Statement.outlineAll_directive] at hs ⊢
    rcases List.mem_cons.mp hs with rfl | hs
    · cases ht
    · exact List.mem_cons_of_mem _ (ih hs)
  | block words context body span rest ihbody ih =>
    rw [Statement.outlineAll_block] at hs ⊢
    rcases List.mem_cons.mp hs with rfl | hs
    · exact List.mem_cons_of_mem _ (List.mem_append_left _ (Statement.mem_outlineAll ht))
    · refine List.mem_cons_of_mem _ (List.mem_append.mpr ?_)
      exact (List.mem_append.mp hs).imp ihbody ih

theorem mem_outlineAll_of_mem_body {t : Statement} (hs : s ∈ statements) (ht : t ∈ s.body) :
    t ∈ Statement.outlineAll statements :=
  mem_outlineAll_body (Statement.mem_outlineAll hs) ht

/-- A block that is found in a tree has the name by which it is found for its context. -/
theorem context_eq_of_mem_servers {root : Block} (hwell : root.WellFormed) {b : Block}
    (hb : b ∈ (root.blocks "http").flatMap (·.blocks "server")) : b.context = "server" := by
  obtain ⟨http, hhttp, hserver⟩ := List.mem_flatMap.mp hb
  obtain ⟨outer, houter, -, -, hbody⟩ := exists_of_mem_blocks hhttp
  obtain ⟨inner, hinner, hname, hblock, -⟩ := exists_of_mem_blocks hserver
  rw [← hbody] at hinner
  have hhead := hwell.contexts inner (mem_outlineAll_of_mem_body houter hinner) b hblock
  rw [← hname, Statement.name, List.headD_eq_head?_getD, hhead]
  rfl

section Searched

variable {root : Block} (hrules : Conforms mainContext root.statements)

include hrules

theorem length_serverBlocks_le : (serverBlocks root).length ≤ 2 := by
  obtain ⟨hmain, honce⟩ := hrules.main
  have hlength : (root.blocks "http").length ≤ 1 := by
    rw [length_blocks]
    exact honce
  have hinside : ∀ http ∈ root.blocks "http", (http.blocks "server").length ≤ 1 := by
    intro http hhttp
    obtain ⟨s, hs, hname, -, hbody⟩ := exists_of_mem_blocks hhttp
    rw [length_blocks, ← hbody]
    rcases hmain s hs with hsetting | hlocation | ⟨-, hconforms⟩
    · simp [hsetting.name_eq] at hname
    · simp [hlocation.name_eq] at hname
    · exact hconforms.http.2
  rw [serverBlocks, List.length_cons]
  cases hblocks : root.blocks "http" with
  | nil => simp
  | cons http rest =>
    rw [hblocks] at hlength hinside
    obtain rfl : rest = [] := by simpa using hlength
    simpa using hinside http (by simp)

/-- In the blocks that are searched stand ports, locations and `http` blocks. The name of a
port is the one for which the resolver looks there. -/
theorem cases_of_mem_serverBlocks (hwell : root.WellFormed) {b : Block}
    (hb : b ∈ serverBlocks root) :
    ∀ s ∈ b.statements, s.IsSetting (if b.context = "server" then "listen" else "port") ∨
      s.IsLocation ∨ s.name = "http" := by
  intro s hs
  obtain ⟨hmain, -⟩ := hrules.main
  rcases List.mem_cons.mp hb with rfl | hb
  · rw [hwell.context, if_neg (by decide)]
    rcases hmain s hs with hsetting | hlocation | ⟨hopens, -⟩
    · exact Or.inl hsetting
    · exact Or.inr (Or.inl hlocation)
    · exact Or.inr (Or.inr (name_eq_of_opens hopens))
  · obtain ⟨http, hhttp, hserver⟩ := List.mem_flatMap.mp hb
    obtain ⟨outer, houter, hname, -, hbody⟩ := exists_of_mem_blocks hhttp
    obtain ⟨inner, hinner, -, -, hbody'⟩ := exists_of_mem_blocks hserver
    rw [← hbody] at hinner
    rw [← hbody'] at hs
    rw [context_eq_of_mem_servers hwell hb, if_pos rfl]
    rcases hmain outer houter with hsetting | hlocation | ⟨-, hconforms⟩
    · simp [hsetting.name_eq] at hname
    · simp [hlocation.name_eq] at hname
    · obtain ⟨-, hinside⟩ := hconforms.http.1 inner hinner
      rcases hinside.server s hs with hsetting | hlocation
      · exact Or.inl hsetting
      · exact Or.inr (Or.inl hlocation)

theorem isLocation_of_mem_locationStatements (hwell : root.WellFormed)
    (hs : s ∈ locationStatements root) : s.IsLocation := by
  rw [locationStatements, List.mem_mergeSort, List.mem_flatMap] at hs
  obtain ⟨b, hb, hs⟩ := hs
  simp only [Block.find, List.mem_filter, decide_eq_true_eq] at hs
  obtain ⟨hs, hname⟩ := hs
  rcases cases_of_mem_serverBlocks hrules hwell hb s hs with hsetting | hlocation | hhttp
  · have hother := hsetting.name_eq
    rw [hname] at hother
    split at hother <;> simp at hother
  · exact hlocation
  · simp [hname] at hhttp

theorem isSetting_of_mem_portStatements (hwell : root.WellFormed)
    (hs : s ∈ portStatements root) : ∃ name, s.IsSetting name := by
  rw [portStatements, List.mem_flatMap] at hs
  obtain ⟨b, hb, hs⟩ := hs
  simp only [Block.find, List.mem_filter, decide_eq_true_eq] at hs
  obtain ⟨hs, hname⟩ := hs
  rcases cases_of_mem_serverBlocks hrules hwell hb s hs with hsetting | hlocation | hhttp
  · exact ⟨_, hsetting⟩
  · rw [hlocation.name_eq] at hname
    split at hname <;> simp at hname
  · rw [hhttp] at hname
    split at hname <;> simp at hname

end Searched

/-- What the resolver needs of a tree. -/
structure Admitted (root : Block) : Prop where
  /-- At any depth there is at most one `http` block, -/
  http : root.outline.countP (·.opens "http") ≤ 1
  /-- and at most one `server` block. -/
  server : root.outline.countP (·.opens "server") ≤ 1
  /-- So at most two blocks are searched. -/
  searched : (serverBlocks root).length ≤ 2
  /-- Every location that is found has a block, with directives inside, and two or three
  arguments. -/
  locations : ∀ s ∈ locationStatements root, s.isBlock = true ∧
    (s.args.length = 2 ∨ s.args.length = 3) ∧ ∀ t ∈ s.body, t.isBlock = false
  /-- Every port that is found has one argument and no block. -/
  ports : ∀ s ∈ portStatements root, s.isBlock = false ∧ s.args.length = 1

/-- A text that keeps to the rules has such a tree. -/
theorem admitted_of_parse {source : String} {root : Block} (h : parse source = .ok root) :
    Admitted root := by
  obtain ⟨htree, hvalid⟩ := parse_eq_ok_iff.mp h
  obtain ⟨hwell, -⟩ := wellFormed_of_parseTree htree
  have hrules : Conforms mainContext root.statements := by
    rw [validate, walk_eq_ok_iff] at hvalid
    exact hvalid (mainContext, root.statements) (List.mem_singleton_self _)
  refine ⟨hrules.countP_main.1, hrules.countP_main.2, length_serverBlocks_le hrules, ?_, ?_⟩
  · intro s hs
    have hlocation := isLocation_of_mem_locationStatements hrules hwell hs
    exact ⟨hlocation.isBlock, hlocation.args, hlocation.plain⟩
  · intro s hs
    obtain ⟨name, hsetting⟩ := isSetting_of_mem_portStatements hrules hwell hs
    exact ⟨hsetting.plain, hsetting.args⟩

end Waymark.Config
