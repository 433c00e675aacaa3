import Waymark.Dispatcher
import Waymark.Proofs.Server.Layout
import Waymark.Proofs.Token.Quoting

/-!
# Waymark.Proofs.Server.QuotedArgument

Which texts a configuration can give as an argument by a quoted word: all that do not end in a
backslash.

One half is about words (`Waymark.Proofs.Token.Quoting`). The other half follows a quoted word
through a whole configuration, which is cut into tokens around it whatever it is
(`lexes_siteSource`) and resolves to its text (`load_siteSource`).
-/

namespace Waymark.Config

/-- A configuration with one site, whose root a word gives. -/
def siteSource (word : String) : String :=
  "port 80; location /x StaticHandler \x7b root " ++ word ++ "; \x7d"

/-- The location statement of that configuration, without its place. -/
def siteStatement (word : String) : Statement :=
  .block ["location", "/x", "StaticHandler"] "location" [.directive ["root", word] ⟨0, 0⟩] ⟨0, 0⟩

/-- Its tree, without places. -/
def siteTree (word : String) : Block :=
  ⟨mainContext, [.directive ["port", "80"] ⟨0, 0⟩, siteStatement word]⟩

/-- The location that it configures when the word stands for a text. -/
def siteLocation (root : String) : Location :=
  ⟨"/x", .standardPrefix, "StaticHandler", ({} : Arguments).insert "root" root, 0⟩

theorem toList_siteSource (word : String) :
    (siteSource word).toList = (" ".intercalate ["port", "80"]).toList ++ ';' :: ' ' ::
      ((" ".intercalate ["location", "/x", "StaticHandler"]).toList ++ ' ' :: '{' :: ' ' ::
        ((" ".intercalate ["root", word]).toList ++ [';', ' ', '}'])) := by
  have hhead : "port 80; location /x StaticHandler \x7b root " =
      " ".intercalate ["port", "80"] ++ "; " ++
        " ".intercalate ["location", "/x", "StaticHandler"] ++ " \x7b " ++ ("root" ++ " ") := by
    decide
  have hargument : " ".intercalate ["root", word] = "root" ++ " " ++ word := by
    rw [String.intercalate_cons_cons, String.intercalate_singleton]
  have hsource : siteSource word = " ".intercalate ["port", "80"] ++ "; " ++
      " ".intercalate ["location", "/x", "StaticHandler"] ++ " \x7b " ++
        " ".intercalate ["root", word] ++ "; \x7d" := by
    rw [hargument, ← String.append_assoc]
    exact congrArg (· ++ word ++ "; \x7d") hhead
  rw [hsource]
  simp only [String.toList_append, List.append_assoc]
  rfl

/-- The configuration is cut into the tokens of its tree: from its closing brace to its first
word, a word is a word whatever the one in the middle is. -/
theorem lexes_siteSource {word : String} (h : IsWord word.toList) :
    Lexes (siteSource word).toList (siteTree word).flatten := by
  have hport : ∀ w ∈ ["port", "80"], IsPlainWord w.toList := by decide
  have hlocation : ∀ w ∈ ["location", "/x", "StaticHandler"], IsPlainWord w.toList := by decide
  have hroot : IsPlainWord "root".toList := by decide
  have hargument : ∀ w ∈ ["root", word], IsWord w.toList :=
    List.forall_mem_cons.mpr ⟨Or.inl hroot, List.forall_mem_singleton.mpr h⟩
  have hclose := (lexes_nil.cons_mark (c := '}') rfl).cons_blank (c := ' ') rfl
  have hbody := lexes_words (by simp) hargument (delimitsWords_cons rfl _)
    (hclose.cons_mark (c := ';') rfl)
  have hopen := (hbody.cons_blank (c := ' ') rfl).cons_mark (c := '{') rfl
  have hhead := lexes_words (by simp) (fun w hw => Or.inl (hlocation w hw))
    (delimitsWords_cons rfl _) (hopen.cons_blank (c := ' ') rfl)
  have hmark := (hhead.cons_blank (c := ' ') rfl).cons_mark (c := ';') rfl
  have hall := lexes_words (by simp) (fun w hw => Or.inl (hport w hw))
    (delimitsWords_cons rfl _) hmark
  rw [toList_siteSource]
  exact hall

/-- It has the tree that was written down for it. -/
theorem exists_parseTree_siteSource {word : String} (h : IsWord word.toList) :
    ∃ tree, parseTree (siteSource word) = .ok tree ∧ tree.agrees (siteTree word) = true := by
  obtain ⟨tokens, hcut, hitems⟩ := lexes_siteSource h 0
  have hwell : (siteTree word).WellFormed := by
    refine ⟨rfl, by simp [siteTree], ?_, ?_⟩
    · simp [siteTree, siteStatement, Block.outline, Statement.words]
    · simp [siteTree, siteStatement, Block.outline, Statement.words, Statement.block?]
  refine exists_parseTree_of_items hwell (tokenize_of_cut hcut) ?_
  rw [significant_of_map_item hitems]
  exact hitems

/-- The statement gives the text of the word as the root. -/
theorem gives_siteStatement (word : String) :
    Gives fullRegistry (siteStatement word) (siteLocation (unquote word)) := by
  have hhead : locationHead (siteStatement word) =
      .ok (.standardPrefix, "/x", "StaticHandler") := by cbv
  have hpath : unquote "/x" = "/x" := by cbv
  have hnormal : normalizePath .standardPrefix "/x" = "/x" := by cbv
  have hexpected : fullRegistry.expectedOf? "StaticHandler" = some ["root"] := by cbv
  refine ⟨⟨"/x", hhead, ?_, ?_⟩, ["root"], hexpected, ?_, ?_⟩
  · rw [hpath]
    decide
  · rw [hpath]
    exact hnormal
  · simp [siteStatement, siteLocation, Statement.body, Statement.block?, readArguments,
      Statement.isBlock, Statement.words, Table.contains]
  · intro keyword hkeyword
    obtain rfl := List.mem_singleton.mp hkeyword
    rw [siteLocation, Table.contains_eq_true_iff]
    exact ⟨unquote word, by rw [Table.get?_insert, if_pos rfl]⟩

/-- The location alone makes up the table. -/
theorem tabulate_siteStatement (word : String) :
    ∃ table, tabulate fullRegistry 0 {} [siteStatement word] = .ok table ∧
      inOrder table.values = [siteLocation (unquote word)] := by
  have hresolve : resolveLocation fullRegistry 0 (siteStatement word) =
      .ok (siteLocation (unquote word)) := (gives_siteStatement word).resolveLocation_eq
  refine ⟨({} : Table Location).insert "/x" (siteLocation (unquote word)), ?_, ?_⟩
  · simp [tabulate, hresolve, Table.contains]
    rfl
  · have htabulated := Tabulated.snoc .nil hresolve rfl
    exact htabulated.inOrder_eq (.refl _)

/-- **A word reaches the handler as the text for which it stands.** -/
theorem load_siteSource {word : String} (h : IsWord word.toList) :
    load fullRegistry (siteSource word) = .ok ⟨80, [siteLocation (unquote word)]⟩ := by
  obtain ⟨tree, htree, hagrees⟩ := exists_parseTree_siteSource h
  have hvalid : validate (siteTree word) mainContext = .ok () := by cbv
  have hport : findPort (siteTree word) = .ok 80 := by cbv
  have hstatements : declaredLocations (siteTree word) = [siteStatement word] := by cbv
  obtain ⟨table, htable, horder⟩ := tabulate_siteStatement word
  have hbare : tree.bare = siteTree word := by
    rw [Block.agrees_iff_bare.mp hagrees]
    simp [siteTree, siteStatement, Block.bare]
  -- without places the tree is the one that was written down, and places decide nothing
  have hresolve := resolve_bare fullRegistry htree
  rw [hbare, hport, hstatements, htable] at hresolve
  simp only [Outcome.ok_bind, Except.map, horder] at hresolve
  rw [load_of_parseTree htree, validate_of_agrees (Block.agrees_comm hagrees) hvalid]
  cases hloaded : resolve fullRegistry tree with
  | error e =>
    rw [hloaded] at hresolve
    cases hresolve
  | ok config =>
    rw [hloaded] at hresolve
    obtain rfl := Except.ok.inj hresolve
    rfl

/-- **Quoting and unquoting are inverse.** Take a text that does not end in a backslash, put a
backslash before each quote in it, and put it between quotes: that is one word, which stands
for the text, and a configuration hands it to the handler as the text. Every word of a text is
plain, and stands for itself, or quoted, and stands for a text that does not end in a backslash.
So quoted words express these texts and no others. -/
theorem quoted_iff_unquote {quote : Char} (hquote : isQuote quote = true) :
    (∀ value : String, value.toList.getLast? ≠ some '\\' →
      tokenize (quoted quote value) = .ok [⟨.word, quoted quote value,
        ⟨0, byteLength (quoted quote value).toList⟩⟩] ∧
      unquote (quoted quote value) = value ∧
      load fullRegistry ("port 80; location /x StaticHandler \x7b root " ++ quoted quote value ++
          "; \x7d") =
        .ok ⟨80, [⟨"/x", .standardPrefix, "StaticHandler", ({} : Arguments).insert "root" value,
          0⟩]⟩) ∧
    (∀ source, ∀ t ∈ (tokenStream source).1, t.kind = .word →
      IsWord t.text.toList ∧ (IsPlainWord t.text.toList → unquote t.text = t.text) ∧
      (IsQuotedWord t.text.toList → (unquote t.text).toList.getLast? ≠ some '\\')) ∧
    ∀ value : String, value.toList.getLast? ≠ some '\\' ↔
      ∃ source, ∃ t ∈ (tokenStream source).1, t.kind = .word ∧ IsQuotedWord t.text.toList ∧
        unquote t.text = value := by
  refine ⟨fun value hvalue => ⟨?_, unquote_quoted hquote value, ?_⟩, fun source t ht hword => ?_,
    fun value => ⟨fun hvalue => ?_, ?_⟩⟩
  · exact tokenize_of_isQuotedWord (isQuotedWord_quoted hquote hvalue)
  · have hload := load_siteSource (Or.inr (isQuotedWord_quoted hquote hvalue))
    rw [unquote_quoted hquote] at hload
    exact hload
  · exact ⟨isWord_of_mem_tokenStream ht hword, unquote_of_isPlainWord,
      getLast?_unquote_of_isQuotedWord⟩
  · have hword := isQuotedWord_quoted hquote hvalue
    have hstream := tokenize_eq_ok_iff_tokenStream.mp (tokenize_of_isQuotedWord hword)
    let t : Token := ⟨.word, quoted quote value, ⟨0, byteLength (quoted quote value).toList⟩⟩
    have ht : t ∈ (tokenStream (quoted quote value)).1 := by
      rw [hstream]
      exact List.mem_singleton_self t
    exact ⟨quoted quote value, t, ht, rfl, hword, unquote_quoted hquote value⟩
  · rintro ⟨source, t, -, -, hword, rfl⟩
    exact getLast?_unquote_of_isQuotedWord hword

/-- A text with both quotes and a backslash inside. -/
theorem load_quoted_argument :
    load fullRegistry "port 80; location /x StaticHandler \x7b root 'it\\'s \\\\'\"x'; \x7d" =
      .ok ⟨80, [⟨"/x", .standardPrefix, "StaticHandler",
        ({} : Arguments).insert "root" "it's \\'\"x", 0⟩]⟩ := by
  have hword : quoted '\'' "it's \\'\"x" = "'it\\'s \\\\'\"x'" := by decide
  obtain ⟨hquoted, -, -⟩ := @quoted_iff_unquote '\'' rfl
  obtain ⟨-, -, hload⟩ := hquoted "it's \\'\"x" (by decide)
  rw [hword] at hload
  exact hload

end Waymark.Config
