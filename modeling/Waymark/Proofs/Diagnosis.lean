import Waymark.Config.Diagnosis
import Waymark.Proofs.Server.Refusal
import Waymark.Proofs.Token.Fault
import Waymark.Proofs.Tree.Extent
import Waymark.Proofs.Tree.Viable

/-!
# Waymark.Proofs.Diagnosis

Every report on a configuration points into its text.

An error of the lexer or the reader is about a character, a token or the beginning of a block, and
these have places of their own in the source (`place_of_parseTree`). The rules and the resolver
make no places: what they report is the span of a statement, which is carried through them from
the tree (`exists_of_validate`, `exists_of_resolve`), and in the tree it is where the statement
stands. Only the end of the input takes up no bytes.
-/

namespace Waymark.Config

/-! ### Places in a source -/

/-- At a range of bytes of a source stand characters, at least one. -/
def Occupied (source : String) (span : Span) : Prop :=
  ∃ part, part ≠ [] ∧ IsSlice source.toList span part

theorem byteLength_toList (source : String) : byteLength source.toList = source.utf8ByteSize := by
  have hlist : ∀ cs : List Char, byteLength cs = (String.ofList cs).utf8ByteSize := by
    intro cs
    induction cs with
    | nil => rfl
    | cons c cs ih =>
      rw [byteLength, ih, String.ofList_cons, String.utf8ByteSize_append,
        String.utf8ByteSize_singleton]
  rw [hlist, String.ofList_toList]

/-- A beginning of a source ends at a boundary between characters. -/
theorem isValid_byteLength {source : String} {before after : List Char}
    (h : source.toList = before ++ after) :
    (String.Pos.Raw.mk (byteLength before)).IsValid source := by
  refine String.Pos.Raw.isValid_iff_exists_append.mpr
    ⟨String.ofList before, String.ofList after, ?_, ?_⟩
  · rw [← String.ofList_append, ← h, String.ofList_toList]
  · have hsize := byteLength_toList (String.ofList before)
    rw [String.toList_ofList] at hsize
    rw [hsize]
    rfl

namespace Occupied

variable {source : String} {span : Span}

theorem start_lt_stop (h : Occupied source span) : span.start < span.stop := by
  obtain ⟨part, hne, before, after, -, rfl⟩ := h
  obtain ⟨c, cs, rfl⟩ := List.exists_cons_of_ne_nil hne
  have hpos := byteLength_cons_pos c cs
  show byteLength before < byteLength before + byteLength (c :: cs)
  omega

theorem stop_le (h : Occupied source span) : span.stop ≤ source.utf8ByteSize := by
  obtain ⟨part, -, before, after, hsource, rfl⟩ := h
  rw [← byteLength_toList, hsource, byteLength_append, byteLength_append]
  show byteLength before + byteLength part ≤ _
  omega

theorem isValid (h : Occupied source span) :
    (String.Pos.Raw.mk span.start).IsValid source ∧
      (String.Pos.Raw.mk span.stop).IsValid source := by
  obtain ⟨part, -, before, after, hsource, rfl⟩ := h
  refine ⟨isValid_byteLength hsource, ?_⟩
  rw [← List.append_assoc] at hsource
  show (String.Pos.Raw.mk (byteLength before + byteLength part)).IsValid source
  rw [← byteLength_append]
  exact isValid_byteLength hsource

end Occupied

/-! ### Errors of the lexer and the reader -/

section Syntax

variable {source : String} {tokens : List Token} {d : Draft}

/-- A fault stands at the characters that are at fault. -/
theorem FaultyAt.occupied {error : LexError} (h : FaultyAt source error) :
    Occupied source error.span := by
  cases h with
  | @unterminated before quote more _ hsource _ _ _ _ =>
    refine ⟨quote :: more, by simp, before.toList, [], by simpa using hsource, ?_⟩
    rw [hsource, byteLength_append]
    rfl
  | @undelimited before c after _ _ hsource _ _ _ _ _ =>
    exact ⟨[c], by simp, before.toList, after, hsource, rfl⟩

/-- A token stands at its own text, also where a fault comes later. -/
theorem occupied_of_tokenStream {done more : List Token} {token : Token} {ending : Ending}
    (h : tokenStream source = (done ++ token :: more, ending)) : Occupied source token.span := by
  obtain ⟨before, left, hsource, -, hleft⟩ := exists_cutBefore h
  obtain ⟨gap, kind, text, rest, -, hlexeme, rfl, rfl, -⟩ := exists_isLexeme_of_tokensFrom hleft
  obtain ⟨c, cs, rfl, -⟩ := hlexeme.head_not_blank
  rw [← List.append_assoc] at hsource
  exact ⟨c :: cs, by simp, before ++ gap, rest, hsource, by simp⟩

/-- The innermost open block has begun with some words and a brace. -/
theorem Draft.HasRead.exists_opening (h : d.HasRead tokens) {opener : OpenBlock}
    {opened : List OpenBlock} (hopened : d.opened = opener :: opened) :
    ∃ front words brace back, tokens = front ++ (words ++ brace :: back) ∧ IsPhrase words ∧
      brace.kind = .openBrace ∧ opener.opening = coverTo words brace.span := by
  obtain ⟨outer, done, hreads, rfl⟩ := h
  have hopens := hreads.opens
  rw [hopened] at hopens
  cases hopens with
  | @cons outer before words brace _ _ _ _ hwords hbrace =>
    exact ⟨outer ++ before, words, brace, done ++ d.pending, by simp, hwords, hbrace, rfl⟩

/-- An open block stands in the source from its first word to its brace. -/
theorem occupied_of_opened (hcut : Cut 0 source.toList tokens)
    (hfold : tokens.foldlM Draft.push Draft.start = .ok d) {opener : OpenBlock}
    {opened : List OpenBlock} (hopened : d.opened = opener :: opened) :
    Occupied source opener.opening := by
  have hread := Draft.hasRead_start.foldlM_push hcut.wellSpelled hfold
  rw [List.nil_append] at hread
  obtain ⟨front, words, brace, back, hown, hwords, hbrace, hopening⟩ := hread.exists_opening hopened
  obtain ⟨t, words, rfl⟩ := List.exists_cons_of_ne_nil hwords.1
  rw [List.cons_append] at hown
  have hapart := hcut.apart.significant
  rw [hown] at hapart
  rw [hopening, hapart.own.coverTo_eq]
  obtain ⟨before, rest, rfl, -, hrest⟩ := exists_of_significant_eq hown
  obtain ⟨between, after, rfl, -, -⟩ := exists_of_significant_eq hrest
  obtain ⟨part, hslice, -, hlast, -⟩ := hcut.exists_between
  rw [(hcut.wellSpelled brace (by simp)).toList_text_eq.1 hbrace] at hlast
  exact ⟨part, fun hnil => by simp [hnil] at hlast, hslice⟩

/-- The input ends where a token is missing. -/
def SyntaxError.AtEndOfInput (error : SyntaxError) : Prop :=
  ∃ previous place, error = .unexpectedToken previous .endOfInput place

/-- **Where syntax errors stand**: at the end of the input, or at characters of the source. -/
theorem place_of_parseTree {error : SyntaxError} (h : parseTree source = .error error) :
    (error.AtEndOfInput ∧ error.span = ⟨source.utf8ByteSize, source.utf8ByteSize⟩) ∨
      (¬ error.AtEndOfInput ∧ Occupied source error.span) := by
  cases parseTree_eq_error_iff.mp h with
  | token hstream _ hpush =>
    obtain ⟨-, hspan, hend⟩ := Draft.push_eq_error hpush
    refine Or.inr ⟨?_, hspan ▸ occupied_of_tokenStream hstream⟩
    rintro ⟨previous, place, rfl⟩
    simp [SyntaxError.atEnd] at hend
  | @ending tokens offset draft _ hstream hfold hfinish =>
    obtain ⟨hcut, hoffset⟩ := tokensFrom_eq_finished_iff.mp hstream
    rw [Nat.zero_add, byteLength_toList] at hoffset
    subst hoffset
    rcases draft.finish_eq_error_cases hfinish with rfl | ⟨opener, opened, hopened, rfl⟩
    · exact Or.inl ⟨⟨_, _, rfl⟩, rfl⟩
    · refine Or.inr ⟨?_, occupied_of_opened hcut hfold hopened⟩
      rintro ⟨previous, place, hother⟩
      cases hother
  | fault hstream _ =>
    refine Or.inr ⟨?_, (faultyAt_of_tokenStream hstream).occupied⟩
    rintro ⟨previous, place, hother⟩
    cases hother

end Syntax

/-! ### Errors about statements -/

section Statements

variable {root : Block} {all : List Statement}

/-- Every statement of a tree stands somewhere in the source. -/
theorem occupied_of_mem_outline {source : String} (h : parseTree source = .ok root)
    {s : Statement} (hs : s ∈ root.outline) : Occupied source s.span := by
  obtain ⟨tokens, htokens, hderives, -, -⟩ := parseTree_eq_ok_iff.mp h
  obtain ⟨front, t, middle, u, back, hown, hforms⟩ := hderives.exists_own s hs
  obtain ⟨text, hstands⟩ := hforms.exists_standsIn (cut_of_tokenize htokens) hown
  have hlast := hstands.last
  exact ⟨text, fun hnil => by simp [hnil] at hlast, hstands.slice⟩

/-- Some statements contain those in the blocks of their members. -/
def HoldsBodies (all : List Statement) : Prop := ∀ s ∈ all, ∀ t ∈ s.body, t ∈ all

theorem holdsBodies_outline (root : Block) : HoldsBodies root.outline :=
  fun _ hs _ ht => mem_outlineAll_body hs ht

theorem HoldsBodies.level (h : HoldsBodies all) {depth : Nat}
    {blocks : List (String × List Statement)} (hblocks : ∀ block ∈ blocks, ∀ s ∈ block.2, s ∈ all) :
    ∀ block ∈ level depth blocks, ∀ s ∈ block.2, s ∈ all := by
  induction depth generalizing blocks with
  | zero => exact hblocks
  | succ depth ih =>
    refine ih fun entry hentry t ht => ?_
    obtain ⟨block, hblock, hchild⟩ := List.mem_flatMap.mp hentry
    obtain ⟨s, hs, child, hopens, rfl⟩ := mem_childBlocks_iff.mp hchild
    refine h s (hblocks block hblock s hs) t ?_
    rw [Statement.body, Option.mem_def.mp hopens]
    exact ht

theorem HoldsBodies.blocks (h : HoldsBodies all) {b child : Block} {name : String}
    (hb : ∀ s ∈ b.statements, s ∈ all) (hchild : child ∈ b.blocks name) :
    ∀ s ∈ child.statements, s ∈ all := by
  obtain ⟨s, hs, -, -, hbody⟩ := exists_of_mem_blocks hchild
  rw [← hbody]
  exact h s (hb s hs)

/-- What the resolver searches is in the tree. -/
theorem mem_outline_of_mem_serverBlocks {b : Block} (hb : b ∈ serverBlocks root) :
    ∀ s ∈ b.statements, s ∈ root.outline := by
  have hroot : ∀ s ∈ root.statements, s ∈ root.outline := fun s hs => Statement.mem_outlineAll hs
  rcases List.mem_cons.mp hb with rfl | hb
  · exact hroot
  · obtain ⟨http, hhttp, hserver⟩ := List.mem_flatMap.mp hb
    have hholds := holdsBodies_outline root
    exact hholds.blocks (hholds.blocks hroot hhttp) hserver

theorem mem_outline_of_mem_portStatements {s : Statement} (hs : s ∈ portStatements root) :
    s ∈ root.outline := by
  obtain ⟨b, hb, hfind⟩ := List.mem_flatMap.mp hs
  exact mem_outline_of_mem_serverBlocks hb s (List.mem_filter.mp hfind).1

theorem mem_outline_of_mem_locationStatements {s : Statement}
    (hs : s ∈ locationStatements root) : s ∈ root.outline := by
  rw [locationStatements, List.mem_mergeSort] at hs
  obtain ⟨b, hb, hfind⟩ := List.mem_flatMap.mp hs
  exact mem_outline_of_mem_serverBlocks hb s (List.mem_filter.mp hfind).1

/-- A violation is reported at the statement that breaks the rule. -/
theorem ContextRules.Breaks.span?_eq {rules : ContextRules} {earlier : List Statement}
    {s : Statement} {error : SchemaError} (h : rules.Breaks earlier s error) :
    error.span? = some s.span := by
  cases h <;> rfl

/-- **The rules report statements of the tree.** -/
theorem exists_of_validate {error : SchemaError} (h : validate root mainContext = .error error) :
    ∃ s ∈ root.outline, error.span? = some s.span := by
  have hknown : ∀ block ∈ [(mainContext, root.statements)], block.1 ∈ knownContexts := by
    simp [knownContexts]
  obtain ⟨depth, -, hfirst⟩ := firstViolation_of_walk hknown h
  cases hfirst with
  | @intro before rules earlier s later after _ hrow _ _ _ hbreaks =>
    have hinside : ∀ block ∈ level depth [(mainContext, root.statements)], ∀ t ∈ block.2,
        t ∈ root.outline := by
      refine (holdsBodies_outline root).level (List.forall_mem_singleton.mpr ?_)
      exact fun t ht => Statement.mem_outlineAll ht
    have hblock : (rules.context, earlier ++ s :: later) ∈
        level depth [(mainContext, root.statements)] := by
      rw [hrow]
      simp
    exact ⟨s, hinside _ hblock s (by simp), hbreaks.span?_eq⟩

variable {H : Type} {registry : Registry H}

theorem LocationFault.exists_span {s : Statement} {error : ResolveError}
    (h : LocationFault registry s error) :
    error.span? = some s.span ∨ ∃ t ∈ s.body, error.span? = some t.span := by
  cases h with
  | words _ _ => exact Or.inl rfl
  | modifier _ _ => exact Or.inl rfl
  | path _ _ => exact Or.inl rfl
  | handler _ _ => exact Or.inl rfl
  | argument _ ht hfault => exact Or.inr ⟨_, ht, by cases hfault <;> rfl⟩
  | missing _ _ _ => exact Or.inl rfl

/-- **The resolver reports statements of the tree**, if it reports any. -/
theorem exists_of_resolve {error : ResolveError} {span : Span}
    (h : resolve registry root = .error error) (hspan : error.span? = some span) :
    ∃ s ∈ root.outline, span = s.span := by
  rcases fault_of_resolve h with hport | ⟨s, hs, hlocation | ⟨path, rfl⟩⟩
  · have hmem : ∀ s ∈ portStatements root, s ∈ root.outline :=
      fun s hs => mem_outline_of_mem_portStatements hs
    cases hport with
    | missing _ => cases hspan
    | @again first second rest hstatements =>
      exact ⟨second, hmem second (by simp [hstatements]), (Option.some.inj hspan).symm⟩
    | @invalid s hstatements _ =>
      exact ⟨s, hmem s (by simp [hstatements]), (Option.some.inj hspan).symm⟩
  · have hmem := mem_outline_of_mem_locationStatements hs
    rcases hlocation.exists_span with hown | ⟨t, ht, hinside⟩
    · exact ⟨s, hmem, Option.some.inj (hspan.symm.trans hown)⟩
    · exact ⟨t, mem_outlineAll_body hmem ht, Option.some.inj (hspan.symm.trans hinside)⟩
  · exact ⟨s, mem_outline_of_mem_locationStatements hs, (Option.some.inj hspan).symm⟩

end Statements

/-! ### Reports -/

section Reports

variable {source : String}

/-- A text is no valid configuration because it has no tree, or because its tree is not valid. -/
theorem parse_eq_error_iff {error : ParseError} :
    parse source = .error error ↔
      (∃ fault, parseTree source = .error fault ∧ error = .malformed fault) ∨
        ∃ root fault, parseTree source = .ok root ∧ validate root mainContext = .error fault ∧
          error = .invalid fault := by
  unfold parse
  cases parseTree source with
  | error fault => simp [eq_comm]
  | ok root => cases hvalid : validate root mainContext <;> simp [hvalid, eq_comm]

variable {H : Type} {registry : Registry H} {error : LoadError} {span : Span}

/-- Loading fails because a token is missing at the end of the input. -/
def LoadError.AtEndOfInput (error : LoadError) : Prop :=
  ∃ fault, error = .parsing (.malformed fault) ∧ fault.AtEndOfInput

/-- **Where errors stand**, whichever stage has found them. -/
theorem place_of_load (h : load registry source = .error error) (hspan : error.span? = some span) :
    (error.AtEndOfInput ∧ span = ⟨source.utf8ByteSize, source.utf8ByteSize⟩) ∨
      (¬ error.AtEndOfInput ∧ Occupied source span) := by
  cases error with
  | parsing error =>
    rcases parse_eq_error_iff.mp (load_eq_parsing_iff.mp h) with
      ⟨fault, hfault, rfl⟩ | ⟨root, fault, htree, hvalid, rfl⟩
    · obtain rfl := Option.some.inj hspan
      rcases place_of_parseTree hfault with ⟨hend, hplace⟩ | ⟨hnot, hplace⟩
      · exact Or.inl ⟨⟨fault, rfl, hend⟩, hplace⟩
      · refine Or.inr ⟨?_, hplace⟩
        intro ⟨other, heq, hend⟩
        obtain rfl : fault = other := by simpa using heq
        exact hnot hend
    · obtain ⟨s, hs, hown⟩ := exists_of_validate hvalid
      obtain rfl := Option.some.inj (hspan.symm.trans hown)
      exact Or.inr ⟨by simp [LoadError.AtEndOfInput], occupied_of_mem_outline htree hs⟩
  | resolving error =>
    obtain ⟨root, hparse, hresolve⟩ := load_eq_resolving_iff.mp h
    obtain ⟨s, hs, rfl⟩ := exists_of_resolve hresolve hspan
    obtain ⟨htree, -⟩ := parse_eq_ok_iff.mp hparse
    exact Or.inr ⟨by simp [LoadError.AtEndOfInput], occupied_of_mem_outline htree hs⟩

/-- A range that stays within the source and is not empty is shown as it is. -/
theorem shownSpan_eq {length : Nat} (hlt : span.start < span.stop) (hle : span.stop ≤ length) :
    shownSpan length span = span := by
  have hstart : min span.start length = span.start := Nat.min_eq_left (by omega)
  have hstop : max (min span.stop length) span.start = span.stop := by omega
  simp only [shownSpan, hstart, hstop]
  rw [if_pos hlt]

/-- For the end of the source its last byte is shown. -/
theorem shownSpan_end (length : Nat) : shownSpan length ⟨length, length⟩ = ⟨length - 1, length⟩ := by
  simp [shownSpan]

theorem report_eq (hspan : error.span? = some span) (source name : String) :
    error.report source name =
      ({ title := s!"{name}: {error.message}", span := shownSpan source.utf8ByteSize span,
         note := error.note } : Report).draw source := by
  rw [LoadError.report, hspan]

/-- **Every report points into the source.** The place of an error is a range of bytes of the
source that begins and ends at boundaries between characters, and it is empty only where a token
is missing at the end of the input. So nothing is cut off when it is shown, and it is an empty
range only at the end of the source, where the byte before it is shown instead. -/
theorem report_of_load (h : load registry source = .error error)
    (hspan : error.span? = some span) :
    (span.start ≤ span.stop ∧ span.stop ≤ source.utf8ByteSize) ∧
    ((String.Pos.Raw.mk span.start).IsValid source ∧
      (String.Pos.Raw.mk span.stop).IsValid source) ∧
    (¬ error.AtEndOfInput → span.start < span.stop) ∧
    (error.AtEndOfInput → span = ⟨source.utf8ByteSize, source.utf8ByteSize⟩) ∧
    (min span.start source.utf8ByteSize = span.start ∧
      max (min span.stop source.utf8ByteSize) (min span.start source.utf8ByteSize) = span.stop) ∧
    ¬ (span.stop ≤ span.start ∧ span.stop < source.utf8ByteSize) ∧
    ∀ name, error.report source name =
      ({ title := s!"{name}: {error.message}"
         span := if span.start < span.stop then span
           else ⟨source.utf8ByteSize - 1, source.utf8ByteSize⟩
         note := error.note } : Report).draw source := by
  rcases place_of_load h hspan with ⟨hend, rfl⟩ | ⟨hnot, hplace⟩
  · have hvalid : (String.Pos.Raw.mk source.utf8ByteSize).IsValid source := by
      rw [← byteLength_toList]
      exact isValid_byteLength (List.append_nil _).symm
    refine ⟨⟨Nat.le_refl _, Nat.le_refl _⟩, ⟨hvalid, hvalid⟩, fun hnot => absurd hend hnot,
      fun _ => rfl, ⟨Nat.min_self _, by simp⟩, fun hlt => absurd hlt.2 (Nat.lt_irrefl _), ?_⟩
    intro name
    rw [report_eq hspan, shownSpan_end, if_neg (Nat.lt_irrefl _)]
  · have hlt := hplace.start_lt_stop
    have hle := hplace.stop_le
    refine ⟨⟨Nat.le_of_lt hlt, hle⟩, hplace.isValid, fun _ => hlt, fun hend => absurd hend hnot,
      ⟨by omega, by omega⟩, by omega, ?_⟩
    intro name
    rw [report_eq hspan, shownSpan_eq hlt hle, if_pos hlt]

end Reports

/-- A statement after a comment with a character of two bytes, and a word of one such character
at the end of the input. -/
theorem report_of_two_byte_characters :
    (∃ error, load ({} : Registry Unit) "# é\nport 80 ö;" = .error error ∧
      error.span? = some ⟨5, 16⟩ ∧
      (String.Pos.Raw.mk 5).IsValid "# é\nport 80 ö;" ∧
      ∀ name, error.report "# é\nport 80 ö;" name =
        ({ title := s!"{name}: {error.message}", span := ⟨5, 16⟩,
           note := "not allowed here" } : Report).draw "# é\nport 80 ö;") ∧
    ∃ error, load ({} : Registry Unit) "é" = .error error ∧ error.span? = some ⟨2, 2⟩ ∧
      ∀ name, error.report "é" name =
        ({ title := s!"{name}: {error.message}", span := ⟨1, 2⟩,
           note := "unexpected here" } : Report).draw "é" := by
  constructor
  · have herror : load ({} : Registry Unit) "# é\nport 80 ö;" =
        .error (.parsing (.invalid (.wrongArity "port" (.exactly 1) 2 ⟨5, 16⟩))) := by
      cbv
    obtain ⟨-, ⟨hvalid, -⟩, -, -, -, -, hreport⟩ := report_of_load herror rfl
    exact ⟨_, herror, rfl, hvalid, hreport⟩
  · have herror : load ({} : Registry Unit) "é" = .error (.parsing (.malformed
        (.unexpectedToken .word .endOfInput ⟨2, 2⟩))) := by
      cbv
    obtain ⟨-, -, -, -, -, -, hreport⟩ := report_of_load herror rfl
    exact ⟨_, herror, rfl, hreport⟩

end Waymark.Config
