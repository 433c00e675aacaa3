import Waymark.Config.Tree.Reader
import Waymark.Proofs.Outcome
import Waymark.Proofs.Token.Calls
import Waymark.Proofs.Tree.Order

/-!
# Waymark.Proofs.Token.Progress

Reading goes forward, behind a fault as well.

A call that does not find the end of the input takes characters off what is left (`exists_read`):
a lexeme has a first character and so has a fault, whatever stands before them. A run therefore
has no more such calls than its source has characters (`length_rest_after_le`), and a loop that
reads until the end or a fault terminates (`pull`).

A position divides its source in two, and its offset is the size of the first part (`IsIn`). With
this invariant a call says of the whole source what it says of the text ahead of it: where the
input ends, and why a faulty token is one (`IsReason`). The reason stays on record until the next
fault, so a loop that stops at the first one finds it there.
-/

namespace Waymark.Config

/-! ### Sizes -/

/-- A text comes apart in one way into a part of some size and what follows it. -/
theorem append_inj_of_byteLength_eq {before other rest more : List Char}
    (h : before ++ rest = other ++ more) (hsize : byteLength before = byteLength other) :
    before = other ∧ rest = more := by
  induction before generalizing other with
  | nil =>
    cases other with
    | nil => exact ⟨rfl, h⟩
    | cons d other => exact absurd hsize (Nat.ne_of_lt (byteLength_cons_pos d other))
  | cons c before ih =>
    cases other with
    | nil => exact absurd hsize (Nat.ne_of_gt (byteLength_cons_pos c before))
    | cons d other =>
      obtain ⟨rfl, hrest⟩ := List.cons.inj h
      rw [byteLength, byteLength, Nat.add_left_cancel_iff] at hsize
      obtain ⟨rfl, rfl⟩ := ih hrest hsize
      exact ⟨rfl, rfl⟩

/-! ### Reasons -/

/-- Why a faulty token of a source is one, said through the source alone. -/
inductive IsReason (source : String) : Token → LexError → Prop where
  /-- The token begins with a quote that nothing closes and goes on to the end of the source. -/
  | unterminated {before quote more} : source.toList = before ++ quote :: more →
      isQuote quote = true →
      (∀ body rest, more = body ++ quote :: rest → ¬IsQuotedBody quote body) →
      IsReason source
        ⟨.invalid, String.ofList (quote :: more), ⟨byteLength before, byteLength source.toList⟩⟩
        (.unterminatedQuote ⟨byteLength before, byteLength source.toList⟩)
  /-- The token is a quoted word, and a character follows that does not delimit it. -/
  | undelimited {before word c more} : source.toList = before ++ word ++ c :: more →
      IsQuotedWord word → delimitsQuoted c = false →
      IsReason source
        ⟨.invalid, String.ofList word, ⟨byteLength before, byteLength (before ++ word)⟩⟩
        (.quoteNotDelimited c
          ⟨byteLength (before ++ word), byteLength (before ++ word) + c.utf8Size⟩)

namespace IsReason

variable {source : String} {token : Token} {error : LexError}

/-- A fault in the text ahead is one in the source. -/
theorem of_isFault {before text rest : List Char}
    (hsource : source.toList = before ++ (text ++ rest)) (h : IsFault text rest) :
    IsReason source
      ⟨.invalid, String.ofList text, ⟨byteLength before, byteLength before + byteLength text⟩⟩
      (Lexeme.fault ⟨byteLength before, byteLength before + byteLength text⟩ rest) := by
  cases h with
  | @unterminated quote more hquote hopen =>
    rw [List.append_nil] at hsource
    rw [← byteLength_append, ← hsource]
    exact .unterminated hsource hquote hopen
  | undelimited hword hc =>
    rw [← List.append_assoc] at hsource
    rw [← byteLength_append]
    exact .undelimited hsource hword hc

/-- The reason is what stands in the source where the token ends. -/
theorem eq_fault (h : IsReason source token error) :
    ∃ before rest, source.toList = before ++ rest ∧ byteLength before = token.span.stop ∧
      error = Lexeme.fault token.span rest := by
  cases h with
  | unterminated => exact ⟨source.toList, [], (List.append_nil _).symm, rfl, rfl⟩
  | undelimited hsource => exact ⟨_, _, hsource, rfl, rfl⟩

/-- A token has one reason at most. -/
theorem unique {other : LexError} (h : IsReason source token error)
    (hother : IsReason source token other) : other = error := by
  obtain ⟨before, rest, hsource, hstop, rfl⟩ := h.eq_fault
  obtain ⟨before', rest', hsource', hstop', rfl⟩ := hother.eq_fault
  obtain ⟨-, rfl⟩ :=
    append_inj_of_byteLength_eq (hsource.symm.trans hsource') (hstop.trans hstop'.symm)
  rfl

end IsReason

namespace Lexer

variable {source : String} {lexer : Lexer}

/-! ### One call -/

/-- What a call reads comes off the head of what is left and counts in the offset. Unless the end
of the input is found it is something, and so is the token. -/
theorem exists_read (lexer : Lexer) :
    ∃ read, lexer.rest = read ++ lexer.next.2.rest ∧
      lexer.next.2.offset = lexer.offset + byteLength read ∧
      (lexer.next.1.kind ≠ .endOfInput →
        read ≠ [] ∧ lexer.next.1.span.start < lexer.next.1.span.stop) := by
  have hreads := lexer.reads_next
  generalize lexer.next = call at hreads ⊢
  obtain ⟨token, after⟩ := call
  cases hreads with
  | finished => exact ⟨lexer.rest, (List.append_nil _).symm, rfl, fun h => absurd rfl h⟩
  | @lexeme gap text rest kind split _ valid =>
    obtain ⟨c, cs, rfl, -⟩ := valid.head_not_blank
    refine ⟨gap ++ c :: cs, by rw [split, List.append_assoc], by simp [Nat.add_assoc], ?_⟩
    exact fun _ => ⟨by simp, Nat.lt_add_of_pos_right (byteLength_cons_pos c cs)⟩
  | @fault gap text rest split _ invalid =>
    obtain ⟨c, cs, rfl, -⟩ := invalid.head_isQuote
    refine ⟨gap ++ c :: cs, by rw [split, List.append_assoc], by simp [Nat.add_assoc], ?_⟩
    exact fun _ => ⟨by simp, Nat.lt_add_of_pos_right (byteLength_cons_pos c cs)⟩

/-- **Every token takes up some of the text**, wherever reading begins. -/
theorem exists_read_of_next (h : lexer.next.1.kind ≠ .endOfInput) :
    (∃ read, read ≠ [] ∧ lexer.rest = read ++ lexer.next.2.rest) ∧
      lexer.next.1.span.start < lexer.next.1.span.stop := by
  obtain ⟨read, hrest, -, hsome⟩ := lexer.exists_read
  exact ⟨⟨read, (hsome h).1, hrest⟩, (hsome h).2⟩

/-- A token begins where the one before it ends, or later. -/
theorem stop_le_start_next (lexer : Lexer) :
    lexer.next.1.span.stop ≤ lexer.next.2.next.1.span.start :=
  Nat.le_add_right _ _

/-- Only a faulty token changes what is on record. -/
theorem fault?_next (h : lexer.next.1.kind ≠ .invalid) : lexer.next.2.fault? = lexer.fault? :=
  if_neg h

/-! ### Positions in a source -/

/-- The source is what stands before the position and what is left, and the offset is the size of
the former. -/
def IsIn (source : String) (lexer : Lexer) : Prop :=
  ∃ before, source.toList = before ++ lexer.rest ∧ lexer.offset = byteLength before

theorem isIn_ofSource (source : String) : IsIn source (ofSource source) := ⟨[], rfl, rfl⟩

/-- A call leaves the position in the source. -/
theorem IsIn.next (h : IsIn source lexer) : IsIn source lexer.next.2 := by
  obtain ⟨before, hsource, hoffset⟩ := h
  obtain ⟨read, hrest, hsize, -⟩ := lexer.exists_read
  refine ⟨before ++ read, ?_, ?_⟩
  · rw [hsource, hrest, List.append_assoc]
  · rw [hsize, hoffset, byteLength_append]

/-- The end of the input is behind the last byte. -/
theorem IsIn.next_eq (h : IsIn source lexer) (hend : lexer.next.1.kind = .endOfInput) :
    lexer.next.1 =
      ⟨.endOfInput, "", ⟨byteLength source.toList, byteLength source.toList⟩⟩ := by
  obtain ⟨before, hsource, hoffset⟩ := h
  have hreads := lexer.reads_next
  generalize lexer.next = call at hend hreads ⊢
  obtain ⟨token, after⟩ := call
  cases hreads with
  | finished => rw [hoffset, hsource, byteLength_append]
  | lexeme _ _ valid => exact absurd hend valid.kind_ne.1
  | fault => cases hend

/-- A faulty token puts its reason on record. -/
theorem IsIn.exists_isReason (h : IsIn source lexer) (hinvalid : lexer.next.1.kind = .invalid) :
    ∃ error, lexer.next.2.fault? = some error ∧ IsReason source lexer.next.1 error := by
  obtain ⟨before, hsource, hoffset⟩ := h
  have hreads := lexer.reads_next
  generalize lexer.next = call at hinvalid hreads ⊢
  obtain ⟨token, after⟩ := call
  cases hreads with
  | finished => cases hinvalid
  | lexeme _ _ valid => exact absurd hinvalid valid.kind_ne.2
  | @fault gap text rest split _ invalid =>
    have hplace : source.toList = (before ++ gap) ++ (text ++ rest) := by
      rw [hsource, split, List.append_assoc]
    refine ⟨_, rfl, ?_⟩
    rw [hoffset, ← byteLength_append]
    exact .of_isFault hplace invalid

/-! ### Runs of calls -/

/-- The position after a number of calls. -/
def after (lexer : Lexer) : (count : Nat) → Lexer
  | 0 => lexer
  | count + 1 => (lexer.after count).next.2

theorem after_succ_eq (lexer : Lexer) (count : Nat) :
    lexer.after (count + 1) = lexer.next.2.after count := by
  induction count with
  | zero => rfl
  | succ count ih => rw [after, ih, ← after]

/-- The calls of a run are made at the positions that it goes through. -/
theorem take_eq_map_after (lexer : Lexer) (count : Nat) :
    lexer.take count = (List.range count).map fun made => (lexer.after made).next := by
  induction count generalizing lexer with
  | zero => rfl
  | succ count ih =>
    rw [take_succ, ih, List.range_succ_eq_map, List.map_cons, List.map_map]
    simp only [Function.comp_def, Nat.succ_eq_add_one, after_succ_eq]
    rfl

/-- The position in a source after a number of calls. -/
def position (source : String) (made : Nat) : Lexer := (ofSource source).after made

/-- The token that the next call gives there. -/
def token (source : String) (made : Nat) : Token := (position source made).next.1

theorem isIn_position (source : String) (made : Nat) : IsIn source (position source made) := by
  induction made with
  | zero => exact isIn_ofSource source
  | succ made ih => exact ih.next

/-- As long as the end is not found, at least one character fewer is left after every call. -/
theorem length_rest_after_le {count : Nat}
    (h : ∀ made < count, (lexer.after made).next.1.kind ≠ .endOfInput) :
    count + (lexer.after count).rest.length ≤ lexer.rest.length := by
  induction count with
  | zero => exact Nat.le_of_eq (Nat.zero_add _)
  | succ count ih =>
    have hbefore := ih fun made hmade => h made (Nat.lt_succ_of_lt hmade)
    obtain ⟨⟨read, hread, hrest⟩, -⟩ := exists_read_of_next (h count (Nat.lt_succ_self count))
    have hpos := List.length_pos_iff.mpr hread
    rw [hrest, List.length_append] at hbefore
    rw [after]
    omega

/-- **The end is found before there are more calls than characters.** -/
theorem exists_endOfInput (lexer : Lexer) :
    ∃ made ≤ lexer.rest.length, (lexer.after made).next.1.kind = .endOfInput := by
  by_contra hnone
  have hmany := @length_rest_after_le lexer (lexer.rest.length + 1) fun made hmade hend =>
    hnone ⟨made, Nat.le_of_lt_succ hmade, hend⟩
  omega

/-- From one that finds the end of the input, all calls are alike. -/
theorem next_after_eq {made later : Nat} (h : (lexer.after made).next.1.kind = .endOfInput)
    (hlater : made ≤ later) : (lexer.after later).next = (lexer.after made).next := by
  induction hlater with
  | refl => rfl
  | @step later _ ih =>
    have hend : (lexer.after later).next.1.kind = .endOfInput := by rw [ih, h]
    rw [after, (next_of_finished hend).2, ih]

/-- Calls without a faulty token leave what is on record. -/
theorem fault?_after_eq {made later : Nat} (hlater : made ≤ later)
    (h : ∀ call, made ≤ call → call < later → (lexer.after call).next.1.kind ≠ .invalid) :
    (lexer.after later).fault? = (lexer.after made).fault? := by
  induction hlater with
  | refl => rfl
  | @step later hle ih =>
    rw [after, fault?_next (h later hle (Nat.lt_succ_self later))]
    exact ih fun call hcall hlt => h call hcall (Nat.lt_succ_of_lt hlt)

/-! ### Reading until the end or a fault -/

section Pull

variable {σ ε α : Type} (step : σ → Token → Except ε σ) (finish : σ → Nat → Except ε α)
  (fail : LexError → ε) (fallback : Token → LexError)

/-- Add one token after the other to a state, until the input ends or a token is faulty. The
reason reported is then the one on record, or what `fallback` gives when there is none. -/
def pull (state : σ) (lexer : Lexer) : Except ε α :=
  if _h : lexer.next.1.kind = .endOfInput then finish state lexer.next.1.span.start
  else if lexer.next.1.kind = .invalid then
    .error (fail (lexer.next.2.fault?.getD (fallback lexer.next.1)))
  else do
    let state ← step state lexer.next.1
    pull state lexer.next.2
termination_by lexer.rest.length
decreasing_by exact length_scan_lt _h

/-- What a state comes to where the text ends. -/
def conclude (ending : Ending) (state : σ) : Except ε α :=
  match ending with
  | .finished offset => finish state offset
  | .faulty error => .error (fail error)

/-- The text may as well be cut into tokens first, since at a fault there is a reason on record. -/
theorem pull_eq (state : σ) (lexer : Lexer) :
    pull step finish fail fallback state lexer =
      (tokensFrom lexer.offset lexer.rest).1.foldlM step state >>=
        conclude finish fail (tokensFrom lexer.offset lexer.rest).2 := by
  -- on the number of characters left, as both sides recurse on it
  induction hleft : lexer.rest.length using Nat.strong_induction_on generalizing state lexer with
  | _ left ih =>
    rw [pull, tokensFrom]
    by_cases hend : lexer.next.1.kind = .endOfInput
    · have hscan : (scan lexer.offset lexer.rest).1.kind = .endOfInput := hend
      rw [dif_pos hend, dif_pos hscan]
      rfl
    · have hscan : (scan lexer.offset lexer.rest).1.kind ≠ .endOfInput := hend
      rw [dif_neg hend, dif_neg hscan]
      by_cases hinvalid : lexer.next.1.kind = .invalid
      · have hfault : (scan lexer.offset lexer.rest).1.kind = .invalid := hinvalid
        have hrecord : lexer.next.2.fault? =
            some (Lexeme.fault lexer.next.1.span lexer.next.2.rest) := if_pos hinvalid
        rw [if_pos hinvalid, if_pos hfault, hrecord]
        rfl
      · have hvalid : (scan lexer.offset lexer.rest).1.kind ≠ .invalid := hinvalid
        rw [if_neg hinvalid, if_neg hvalid]
        show _ = (lexer.next.1 :: (tokensFrom lexer.next.2.offset lexer.next.2.rest).1).foldlM
          step state >>= conclude finish fail (tokensFrom lexer.next.2.offset lexer.next.2.rest).2
        rw [List.foldlM_cons]
        cases step state lexer.next.1 with
        | error error => rfl
        | ok state =>
          rw [Outcome.ok_bind, Outcome.ok_bind]
          exact ih _ (hleft ▸ length_scan_lt hend) state lexer.next.2 rfl

end Pull

/-- The tokens of a source, collected as they are read. -/
def readTokens (fallback : Token → LexError) (source : String) : Except LexError (List Token) :=
  pull (fun tokens token => .ok (tokens ++ [token])) (fun tokens _ => .ok tokens) id fallback []
    (ofSource source)

/-- The statement tree of a source, with each token added as it is read. -/
def readTree (fallback : Token → LexError) (source : String) : Except SyntaxError Block :=
  pull Draft.push Draft.finish .lexical fallback .start (ofSource source)

theorem foldlM_append_singleton (done tokens : List Token) :
    tokens.foldlM (fun tokens token => .ok (tokens ++ [token])) done =
      (.ok (done ++ tokens) : Except LexError (List Token)) := by
  induction tokens generalizing done with
  | nil =>
    rw [List.append_nil]
    rfl
  | cons token tokens ih =>
    rw [List.foldlM_cons, Outcome.ok_bind, ih, List.append_assoc]
    rfl

theorem readTokens_eq (fallback : Token → LexError) (source : String) :
    readTokens fallback source = tokenize source := by
  rw [readTokens, pull_eq, foldlM_append_singleton, tokenize, tokenStream, ofSource]
  rcases tokensFrom 0 source.toList with ⟨tokens, offset | error⟩
  · rfl
  · rfl

theorem readTree_eq (fallback : Token → LexError) (source : String) :
    readTree fallback source = parseTree source := by
  rw [readTree, pull_eq, parseTree, tokenStream, ofSource]
  rcases tokensFrom 0 source.toList with ⟨tokens, offset | error⟩
  · rfl
  · rfl

/-- **Reading always advances.** In a run of any number of calls, past faults as well, each one
that does not find the end of the input takes characters off what is left, and its token is not
empty and begins where the one before it ends or later. So of one call more than the source has
characters some finds the end, which is behind the last byte, and all calls after it find the same.
Nothing is on record before the first faulty token, and then always the reason of the latest one,
the only reason that it has. Hence the loops that read tokens or a tree come to their end, with
the same outcome whatever they fall back on where nothing is on record. -/
theorem next_advances (source : String) :
    (∀ made, (token source made).kind ≠ .endOfInput →
      (∃ read, read ≠ [] ∧
        (position source made).rest = read ++ (position source (made + 1)).rest) ∧
        (token source made).span.start < (token source made).span.stop) ∧
    (∀ made, (token source made).span.stop ≤ (token source (made + 1)).span.start) ∧
    (∃ call ∈ (ofSource source).take (source.length + 1), call.1.kind = .endOfInput) ∧
    (∀ made, (token source made).kind = .endOfInput →
      token source made =
          ⟨.endOfInput, "", ⟨byteLength source.toList, byteLength source.toList⟩⟩ ∧
        ∀ later ≥ made, token source later = token source made) ∧
    (∀ made, (∀ earlier < made, (token source earlier).kind ≠ .invalid) →
      (position source made).fault? = none) ∧
    (∀ latest made, latest < made → (token source latest).kind = .invalid →
      (∀ between, latest < between → between < made →
        (token source between).kind ≠ .invalid) →
      ∃ error, (position source made).fault? = some error ∧
        ∀ other, IsReason source (token source latest) other ↔ other = error) ∧
    (∀ fallback, readTokens fallback source = tokenize source) ∧
    ∀ fallback, readTree fallback source = parseTree source := by
  refine ⟨fun made hmade => exists_read_of_next hmade,
    fun made => stop_le_start_next (position source made), ?found, ?stays, ?empty, ?reason,
    fun fallback => readTokens_eq fallback source, fun fallback => readTree_eq fallback source⟩
  case found =>
    obtain ⟨made, hmade, hend⟩ := exists_endOfInput (ofSource source)
    refine ⟨(position source made).next, ?_, hend⟩
    rw [take_eq_map_after]
    exact List.mem_map.mpr ⟨made, List.mem_range.mpr (Nat.lt_succ_of_le hmade), rfl⟩
  case stays =>
    intro made hend
    refine ⟨(isIn_position source made).next_eq hend, fun later hlater => ?_⟩
    exact congrArg Prod.fst (next_after_eq hend hlater)
  case empty =>
    intro made hnone
    exact fault?_after_eq (Nat.zero_le made) fun call _ hcall => hnone call hcall
  case reason =>
    intro latest made hlatest hinvalid hbetween
    obtain ⟨error, hrecord, hreason⟩ := (isIn_position source latest).exists_isReason hinvalid
    -- the call that finds the fault puts it on record, and the calls after that leave it there
    have hkept : (position source made).fault? = (position source (latest + 1)).fault? :=
      fault?_after_eq (Nat.succ_le_of_lt hlatest) fun call hcall => hbetween call hcall
    refine ⟨error, hkept.trans hrecord, fun other => ⟨hreason.unique, ?_⟩⟩
    rintro rfl
    exact hreason

/-- Two faults in one run, with a word and a character of two bytes in between. -/
example :
    ((ofSource "'ä'b 'ö").take 4).map (fun call => (call.1.kind, call.1.span, call.2.fault?)) =
      [(.invalid, ⟨0, 4⟩, some (.quoteNotDelimited 'b' ⟨4, 5⟩)),
       (.word, ⟨4, 5⟩, some (.quoteNotDelimited 'b' ⟨4, 5⟩)),
       (.invalid, ⟨6, 9⟩, some (.unterminatedQuote ⟨6, 9⟩)),
       (.endOfInput, ⟨9, 9⟩, some (.unterminatedQuote ⟨6, 9⟩))] := by decide

end Lexer

end Waymark.Config
