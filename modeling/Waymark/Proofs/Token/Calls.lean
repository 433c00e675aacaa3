import Mathlib.Data.List.Chain
import Waymark.Proofs.Token.Extension

/-!
# Waymark.Proofs.Token.Calls

Reading token after token, past the end of the input and past faults.

`Lexer.Reads` has a constructor for each thing that one call can do (`reads_next`). At the end of
the input a call gives the position it began with back (`next_of_finished`), so what comes after it
is known whatever the number of calls; and of the two faults one leaves nothing to read. After the
other the next call goes on with the character that should not be there. This decides when a run
stays at its end (`staysAtEnd_take_iff`).
-/

namespace Waymark.Config

namespace Lexer

variable {lexer : Lexer}

/-! ### One call -/

/-- All that a call can do, with its token and the position after it. -/
inductive Reads (lexer : Lexer) : Token → Lexer → Prop
  /-- Only blanks are left. -/
  | finished (blank : ∀ c ∈ lexer.rest, isBlank c = true) :
      Reads lexer
        ⟨.endOfInput, "", ⟨lexer.offset + byteLength lexer.rest,
          lexer.offset + byteLength lexer.rest⟩⟩
        ⟨[], lexer.offset + byteLength lexer.rest, lexer.fault?⟩
  /-- A lexeme comes next. -/
  | lexeme {gap text rest : List Char} {kind : TokenKind}
      (split : lexer.rest = gap ++ (text ++ rest)) (blank : ∀ c ∈ gap, isBlank c = true)
      (valid : IsLexeme kind text rest) :
      Reads lexer
        ⟨kind, String.ofList text, ⟨lexer.offset + byteLength gap,
          lexer.offset + byteLength gap + byteLength text⟩⟩
        ⟨rest, lexer.offset + byteLength gap + byteLength text, lexer.fault?⟩
  /-- A fault comes next. -/
  | fault {gap text rest : List Char} (split : lexer.rest = gap ++ (text ++ rest))
      (blank : ∀ c ∈ gap, isBlank c = true) (invalid : IsFault text rest) :
      Reads lexer
        ⟨.invalid, String.ofList text, ⟨lexer.offset + byteLength gap,
          lexer.offset + byteLength gap + byteLength text⟩⟩
        ⟨rest, lexer.offset + byteLength gap + byteLength text,
          some (Lexeme.fault ⟨lexer.offset + byteLength gap,
            lexer.offset + byteLength gap + byteLength text⟩ rest)⟩

/-- **Nothing else happens.** -/
theorem reads_next (lexer : Lexer) : Reads lexer lexer.next.1 lexer.next.2 := by
  rcases head_cases lexer.offset lexer.rest with
    hblank | ⟨gap, kind, text, rest, hgap, hlexeme, hsplit⟩ | hinvalid
  · rw [next, scan_of_blank hblank]
    exact .finished hblank
  · rw [next, hsplit, scan_of_isLexeme hgap hlexeme]
    dsimp only
    rw [if_neg hlexeme.kind_ne.2]
    exact .lexeme hsplit hgap hlexeme
  · have hkind : (Lexeme.read (lexer.rest.dropWhile isBlank)).kind = .invalid := hinvalid
    have hsplit : lexer.rest = lexer.rest.takeWhile isBlank ++
        ((Lexeme.read (lexer.rest.dropWhile isBlank)).text ++
          (Lexeme.read (lexer.rest.dropWhile isBlank)).rest) := by
      rw [Lexeme.text_append_rest, List.takeWhile_append_dropWhile]
    have hfault := Reads.fault hsplit (fun c hc => List.mem_takeWhile_imp hc)
      (Lexeme.isFault_read hkind)
    rw [next, scan, hkind]
    exact hfault

/-- Where nothing is left, reading stays. -/
theorem next_of_rest_eq_nil (h : lexer.rest = []) :
    lexer.next = (⟨.endOfInput, "", ⟨lexer.offset, lexer.offset⟩⟩, lexer) := by
  obtain ⟨rest, offset, fault?⟩ := lexer
  obtain rfl : rest = [] := h
  rfl

/-- A call that finds the end of the input can be made again, with the same outcome. -/
theorem next_of_finished (h : lexer.next.1.kind = .endOfInput) :
    lexer.next.2.rest = [] ∧ lexer.next.2.next = lexer.next := by
  have hreads := lexer.reads_next
  generalize hcall : lexer.next = call at h hreads ⊢
  obtain ⟨token, after⟩ := call
  cases hreads with
  | finished blank => exact ⟨rfl, next_of_rest_eq_nil rfl⟩
  | lexeme _ _ valid => exact absurd h valid.kind_ne.1
  | fault => cases h

/-- What comes first is a blank in a gap before it. -/
theorem gap_eq_nil {c d : Char} {more gap text rest : List Char}
    (hsplit : c :: more = gap ++ (d :: text ++ rest)) (hgap : ∀ b ∈ gap, isBlank b = true)
    (hc : isBlank c = false) : gap = [] ∧ c = d := by
  cases gap with
  | nil => exact ⟨rfl, (List.cons.inj hsplit).1⟩
  | cons b gap =>
    obtain ⟨rfl, -⟩ := List.cons.inj hsplit
    rw [hgap c List.mem_cons_self] at hc
    cases hc

/-- A call goes on with the character that is next, if this is not a blank. -/
theorem next_of_rest_eq_cons {c : Char} {more : List Char} (hrest : lexer.rest = c :: more)
    (hc : isBlank c = false) :
    lexer.next.1.kind ≠ .endOfInput ∧ lexer.next.1.span.start = lexer.offset ∧
      lexer.next.1.text.toList.head? = some c := by
  have hreads := lexer.reads_next
  generalize lexer.next = call at hreads ⊢
  obtain ⟨token, after⟩ := call
  cases hreads with
  | finished blank =>
    rw [blank c (by simp [hrest])] at hc
    cases hc
  | lexeme split blank valid =>
    obtain ⟨d, cs, rfl, -⟩ := valid.head_not_blank
    obtain ⟨rfl, rfl⟩ := gap_eq_nil (hrest.symm.trans split) blank hc
    exact ⟨valid.kind_ne.1, rfl, by rw [String.toList_ofList, List.head?_cons]⟩
  | fault split blank invalid =>
    obtain ⟨d, cs, rfl, -⟩ := invalid.head_isQuote
    obtain ⟨rfl, rfl⟩ := gap_eq_nil (hrest.symm.trans split) blank hc
    exact ⟨TokenKind.noConfusion, rfl, by rw [String.toList_ofList, List.head?_cons]⟩

/-- After an open quote nothing is left. After a quoted word that is not delimited the character
is left that does not delimit it. -/
theorem fault_of_next (h : lexer.next.1.kind = .invalid) :
    (∃ span, lexer.next.2.fault? = some (.unterminatedQuote span) ∧ lexer.next.2.rest = []) ∨
      ∃ c more, lexer.next.2.fault? = some (.quoteNotDelimited c
          ⟨lexer.next.2.offset, lexer.next.2.offset + c.utf8Size⟩) ∧
        lexer.next.2.rest = c :: more ∧ isBlank c = false := by
  have hreads := lexer.reads_next
  generalize lexer.next = call at h hreads ⊢
  obtain ⟨token, after⟩ := call
  cases hreads with
  | finished => cases h
  | lexeme _ _ valid => exact absurd h valid.kind_ne.2
  | fault _ _ invalid =>
    cases invalid with
    | unterminated => exact Or.inl ⟨_, rfl, rfl⟩
    | @undelimited _ c more _ hc =>
      have hblank : isBlank c = false := by
        rw [delimitsQuoted, Bool.or_eq_false_iff] at hc
        exact hc.1
      exact Or.inr ⟨c, more, rfl, rfl, hblank⟩

/-! ### Runs of calls -/

theorem take_succ (lexer : Lexer) (count : Nat) :
    lexer.take (count + 1) = lexer.next :: lexer.next.2.take count := rfl

section Runs

variable {R : Token × Lexer → Token × Lexer → Prop}

/-- What holds of a call and all after it holds along a run. -/
theorem pairwise_take
    (h : ∀ (lexer : Lexer) count, ∀ later ∈ lexer.next.2.take count, R lexer.next later)
    (lexer : Lexer) (count : Nat) : (lexer.take count).Pairwise R := by
  induction count generalizing lexer with
  | zero => exact .nil
  | succ count ih => exact .cons (h lexer count) (ih lexer.next.2)

/-- What holds of a call and the one after it holds along a run. -/
theorem isChain_take (h : ∀ lexer : Lexer, R lexer.next lexer.next.2.next) (lexer : Lexer)
    (count : Nat) : (lexer.take count).IsChain R := by
  induction count generalizing lexer with
  | zero => exact .nil
  | succ count ih =>
    have hlater := ih lexer.next.2
    cases count with
    | zero => exact .singleton _
    | succ count => exact .cons_cons (h lexer) hlater

/-- Where nothing is left, all calls are alike. -/
theorem eq_next_of_mem_take (h : lexer.rest = []) {count : Nat} :
    ∀ call ∈ lexer.take count, call = lexer.next := by
  induction count with
  | zero => exact fun call hmem => (by cases hmem)
  | succ count ih =>
    intro call hmem
    rw [take_succ] at hmem
    rcases List.mem_cons.mp hmem with rfl | hmem
    · rfl
    · have hsame : lexer.next.2 = lexer := by rw [next_of_rest_eq_nil h]
      rw [hsame] at hmem
      exact ih call hmem

end Runs

/-- A call finds the end of the input or a fault. -/
def Ends (call : Token × Lexer) : Prop :=
  call.1.kind = .endOfInput ∨ call.1.kind = .invalid

/-- After the first of these calls that finds the end of the input or a fault, all find the
end. -/
def StaysAtEnd (run : List (Token × Lexer)) : Prop :=
  run.Pairwise fun call later => Ends call → later.1.kind = .endOfInput

/-- A call finds a quoted word that is not delimited. -/
def FindsUndelimited (call : Token × Lexer) : Prop :=
  call.1.kind = .invalid ∧ ∃ c span, call.2.fault? = some (.quoteNotDelimited c span)

/-- After a call that ends reading for good, only the end is found. -/
theorem kind_of_mem_take (hends : Ends lexer.next) (h : ¬ FindsUndelimited lexer.next)
    {count : Nat} : ∀ later ∈ lexer.next.2.take count, later.1.kind = .endOfInput := by
  have hrest : lexer.next.2.rest = [] := by
    rcases hends with hend | hinvalid
    · exact (next_of_finished hend).1
    · rcases fault_of_next hinvalid with ⟨span, -, hrest⟩ | ⟨c, more, hfault, -⟩
      · exact hrest
      · exact absurd ⟨hinvalid, c, _, hfault⟩ h
  intro later hlater
  rw [eq_next_of_mem_take hrest later hlater, next_of_rest_eq_nil hrest]

/-- A run stays at its end unless reading goes on behind a fault. -/
theorem staysAtEnd_iff (lexer : Lexer) (count : Nat) :
    StaysAtEnd (lexer.take count) ↔
      ∀ call ∈ (lexer.take count).dropLast, ¬ FindsUndelimited call := by
  induction count generalizing lexer with
  | zero => exact ⟨fun _ call hmem => (by cases hmem), fun _ => .nil⟩
  | succ count ih =>
    rw [take_succ, StaysAtEnd, List.pairwise_cons, ← StaysAtEnd, ih]
    cases count with
    | zero => simp [take]
    | succ count =>
      rw [take_succ lexer.next.2, List.dropLast_cons_cons, ← take_succ,
        @List.forall_mem_cons _ (¬ FindsUndelimited ·)]
      refine and_congr_left fun _ => ?_
      constructor
      · intro h hundelimited
        have hlater := h lexer.next.2.next (by simp [take_succ]) (Or.inr hundelimited.1)
        rcases fault_of_next hundelimited.1 with ⟨_, hfault, -⟩ | ⟨c, more, -, hrest, hc⟩
        · obtain ⟨c, span, hother⟩ := hundelimited.2
          rw [hfault] at hother
          cases hother
        · exact (next_of_rest_eq_cons hrest hc).1 hlater
      · intro h later hlater hends
        exact kind_of_mem_take hends h later hlater

/-- **Reading stays at the end of the input, but not at every fault.** In a run of calls of any
length, a call that finds the end of the input is repeated as it is; after one that finds an open
quote all others find the end; but the one after a quoted word that is not delimited finds a token
that begins with the character reported, and where that stands. So a run stays at its end exactly
if no call but the last finds such a word. -/
theorem staysAtEnd_take_iff (source : String) (count : Nat) :
    let run := (Lexer.ofSource source).take count
    (run.Pairwise fun call later => call.1.kind = .endOfInput → later = call) ∧
    (run.Pairwise fun call later => call.1.kind = .invalid →
      ∀ span, call.2.fault? = some (.unterminatedQuote span) → later.1.kind = .endOfInput) ∧
    (run.IsChain fun call later => call.1.kind = .invalid →
      ∀ c span, call.2.fault? = some (.quoteNotDelimited c span) →
        later.1.kind ≠ .endOfInput ∧ later.1.span.start = span.start ∧
          later.1.text.toList.head? = some c) ∧
    (StaysAtEnd run ↔ ∀ call ∈ run.dropLast, ¬ FindsUndelimited call) := by
  intro run
  refine ⟨pairwise_take ?_ _ count, pairwise_take ?_ _ count, isChain_take ?_ _ count,
    staysAtEnd_iff _ count⟩
  · intro lexer count later hlater hend
    obtain ⟨hrest, hsame⟩ := next_of_finished hend
    rw [eq_next_of_mem_take hrest later hlater, hsame]
  · intro lexer count later hlater hinvalid span hfault
    refine kind_of_mem_take (Or.inr hinvalid) ?_ later hlater
    rintro ⟨-, c, other, hother⟩
    rw [hfault] at hother
    cases hother
  · intro lexer hinvalid c span hfault
    rcases fault_of_next hinvalid with ⟨_, hother, -⟩ | ⟨d, more, hother, hrest, hd⟩
    · rw [hfault] at hother
      cases hother
    · rw [hfault] at hother
      obtain ⟨rfl, rfl⟩ : c = d ∧ span = _ := by simpa using hother
      exact next_of_rest_eq_cons hrest hd

/-- Behind a word that is not delimited reading goes on. -/
theorem not_staysAtEnd_after_undelimited :
    let run := (Lexer.ofSource "'a'b").take 3
    run.map (·.1.kind) = [.invalid, .word, .endOfInput] ∧ ¬ StaysAtEnd run := by
  intro run
  refine ⟨by decide, fun h => ?_⟩
  have hlater := List.rel_of_pairwise_cons h (List.mem_cons_self ..) (Or.inr (by decide))
  exact absurd hlater (by decide)

end Lexer

end Waymark.Config
