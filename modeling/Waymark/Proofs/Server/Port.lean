import Mathlib.Data.Nat.Digits.Defs
import Waymark.Proofs.Server.Refusal

/-!
# Waymark.Proofs.Server.Port

The port of a tree: found when exactly one statement gives it, and that by a number in range.

* `declaredPorts` lists the statements that give a port by their names alone. The resolver goes
  by the contexts of blocks instead, which in a tree that is read from a text are the names of
  the statements that open them (`portStatements_eq`);
* `IsPortNumber` says which words are numbers of ports through the positional value of their
  digits, however many there are (`readPort?_eq_some_iff`).
-/

namespace Waymark.Config

/-! ### Numbers of ports -/

/-- The number that a decimal digit stands for. -/
def digitValue (c : Char) : Nat := c.toNat - '0'.toNat

/-- A word is a number of a port: decimal digits and nothing else, at least one, with a value of
at most 65535. -/
structure IsPortNumber (word : String) (port : Nat) : Prop where
  /-- It is not empty. -/
  ne_empty : word ≠ ""
  /-- It consists of digits. -/
  digits : ∀ c ∈ word.toList, '0' ≤ c ∧ c ≤ '9'
  /-- From the last digit on, each counts ten times as much as the one after it. -/
  value : Nat.ofDigits 10 (word.toList.reverse.map digitValue) = port
  /-- It is in range. -/
  le : port ≤ 65535

/-- The value that is carried from digit to digit is the positional one. -/
theorem decimalValue_eq (digits : List Char) :
    decimalValue digits = Nat.ofDigits 10 (digits.reverse.map digitValue) := by
  induction digits using List.reverseRecOn with
  | nil => rfl
  | append_singleton digits c ih =>
    rw [List.reverse_append, List.reverse_singleton, List.singleton_append, List.map_cons,
      Nat.ofDigits_cons, ← ih, decimalValue, List.foldl_append, List.foldl_cons, List.foldl_nil,
      Nat.add_comm]
    rfl

theorem isDigit_eq_true_iff {c : Char} : c.isDigit = true ↔ '0' ≤ c ∧ c ≤ '9' := by
  simp [Char.isDigit, Char.le_def]

theorem readPort?_eq_some_iff {word : String} {port : Nat} :
    readPort? word = some port ↔ IsPortNumber word port := by
  unfold readPort?
  rw [Option.ite_none_right_eq_some, Option.some.injEq, List.all_eq_true, decimalValue_eq]
  simp only [isDigit_eq_true_iff]
  constructor
  · rintro ⟨⟨hne, hdigits, hle⟩, rfl⟩
    exact ⟨by simpa using hne, hdigits, rfl, hle⟩
  · rintro ⟨hne, hdigits, rfl, hle⟩
    exact ⟨⟨by simpa using hne, hdigits, hle⟩, rfl⟩

theorem readPort?_eq_none_iff {word : String} :
    readPort? word = none ↔ ∀ port, ¬ IsPortNumber word port := by
  simp only [Option.eq_none_iff_forall_ne_some, ne_eq, readPort?_eq_some_iff]

/-! ### The statements that give a port -/

/-- The statements that give a port: `port` where no block is open, and then `listen` in each
`server` block of each `http` block. -/
def declaredPorts (root : Block) : List Statement :=
  root.statements.filter (·.name = "port") ++
    (root.statements.filter (·.name = "http")).flatMap fun http =>
      (http.body.filter (·.name = "server")).flatMap fun server =>
        server.body.filter (·.name = "listen")

/-- **Contexts and names lead to the same port statements** in a tree that is read from a
text. -/
theorem portStatements_eq {root : Block} (hwell : root.WellFormed) :
    portStatements root = declaredPorts root := by
  have hservers : ((root.blocks "http").flatMap (·.blocks "server")).flatMap
      (fun b => b.find (if b.context = "server" then "listen" else "port")) =
      ((root.blocks "http").flatMap (·.blocks "server")).flatMap (·.find "listen") := by
    refine List.flatMap_congr fun b hb => ?_
    rw [context_eq_of_mem_servers hwell hb, if_pos rfl]
  rw [portStatements, serverBlocks, List.flatMap_cons, hservers, hwell.context,
    if_neg (by decide), flatMap_servers]
  rfl

/-! ### The outcome of the search -/

section Outcomes

variable {root : Block}

theorem findPort_eq_ok_iff {port : Nat} :
    findPort root = .ok port ↔
      ∃ s word, portStatements root = [s] ∧ s.args = [word] ∧ IsPortNumber word port := by
  constructor
  · intro h
    unfold findPort at h
    match hstatements : portStatements root with
    | [] => simp [hstatements] at h
    | _ :: _ :: _ => simp [hstatements] at h
    | [s] =>
      rw [hstatements] at h
      dsimp only at h
      split at h
      · next word hargs =>
        split at h
        · next found hfound =>
          obtain rfl := Except.ok.inj h
          exact ⟨s, word, rfl, hargs, readPort?_eq_some_iff.mp hfound⟩
        · cases h
      · cases h
  · rintro ⟨s, word, hstatements, hargs, hport⟩
    have hread := readPort?_eq_some_iff.mpr hport
    simp [findPort, hstatements, hargs, hread]

/-- What is found is what is reported. -/
theorem findPort_eq_error_iff {error : ResolveError} :
    findPort root = .error error ↔ PortFault (portStatements root) error := by
  constructor
  · exact fault_of_findPort
  · intro h
    unfold findPort
    cases h with
    | missing hnone => rw [hnone]
    | again htwo => rw [htwo]
    | @invalid s hone hvalue =>
      rw [hone]
      dsimp only
      split
      · next word hargs => rw [hvalue word hargs]
      · rfl

theorem findPortOrSentinel_of_error {error : ResolveError} (h : findPort root = .error error) :
    findPortOrSentinel root = -1 := by
  rw [findPortOrSentinel, h]

theorem findPortOrSentinel_eq_iff {port : Nat} :
    findPortOrSentinel root = port ↔ findPort root = .ok port := by
  unfold findPortOrSentinel
  cases findPort root with
  | ok found => simp
  | error error =>
    constructor
    · intro h
      exact absurd h (by show (-1 : Int) ≠ port; omega)
    · intro h
      cases h

end Outcomes

/-- **The port** of a tree that is read from a text. It is found exactly when one statement
gives it, in one word that is a number of a port. Without such a statement it is missing, with
two or more the second is reported, whatever the first one says, and otherwise what stands in
the only one. The other form of the answer is -1 whenever there is no port. -/
theorem findPort_of_parseTree {source : String} {root : Block} (h : parseTree source = .ok root) :
    (∀ port, findPort root = .ok port ↔
      ∃ s word, declaredPorts root = [s] ∧ s.args = [word] ∧ IsPortNumber word port) ∧
    (findPort root = .error .missingPort ↔ declaredPorts root = []) ∧
    (∀ span, findPort root = .error (.duplicatePort span) ↔
      ∃ first second rest, declaredPorts root = first :: second :: rest ∧ span = second.span) ∧
    (∀ value span, findPort root = .error (.invalidPort value span) ↔
      ∃ s, declaredPorts root = [s] ∧
        (∀ word, s.args = [word] → ∀ port, ¬ IsPortNumber word port) ∧
        value = " ".intercalate s.args ∧ span = s.span) ∧
    (∀ error, findPort root = .error error → error = .missingPort ∨
      (∃ span, error = .duplicatePort span) ∨ ∃ value span, error = .invalidPort value span) ∧
    (∀ port : Nat, findPortOrSentinel root = port ↔ findPort root = .ok port) ∧
    (findPortOrSentinel root = -1 ↔ ∀ port, findPort root ≠ .ok port) := by
  rw [← portStatements_eq (wellFormed_of_parseTree h).1]
  simp only [findPort_eq_error_iff]
  refine ⟨fun port => findPort_eq_ok_iff, ?_, ?_, ?_, ?_, fun port => findPortOrSentinel_eq_iff, ?_⟩
  · constructor
    · intro hfault
      cases hfault with
      | missing hnone => exact hnone
    · exact .missing
  · intro span
    constructor
    · intro hfault
      cases hfault with
      | again htwo => exact ⟨_, _, _, htwo, rfl⟩
    · rintro ⟨first, second, rest, htwo, rfl⟩
      exact .again htwo
  · intro value span
    simp only [← readPort?_eq_none_iff]
    constructor
    · intro hfault
      cases hfault with
      | invalid hone hvalue => exact ⟨_, hone, hvalue, rfl, rfl⟩
    · rintro ⟨s, hone, hvalue, rfl, rfl⟩
      exact .invalid hone hvalue
  · intro error hfault
    cases hfault with
    | missing _ => exact Or.inl rfl
    | again _ => exact Or.inr (Or.inl ⟨_, rfl⟩)
    | invalid _ _ => exact Or.inr (Or.inr ⟨_, _, rfl⟩)
  · constructor
    · intro hsentinel port hport
      rw [findPortOrSentinel_eq_iff.mpr hport] at hsentinel
      omega
    · intro hnone
      cases hport : findPort root with
      | ok port => exact absurd hport (hnone port)
      | error error => exact findPortOrSentinel_of_error hport

/-- Leading zeros change no value, and a second port is reported also where the first is no
number. -/
theorem findPort_of_two_sources :
    (∃ root, parseTree "http\x7bserver\x7blisten 0065535;\x7d\x7d" = .ok root ∧
      findPort root = .ok 65535 ∧ findPortOrSentinel root = 65535) ∧
    ∃ root, parseTree "http\x7bserver\x7blisten 80;\x7d\x7dport +1;" = .ok root ∧
      findPort root = .error (.duplicatePort ⟨12, 22⟩) ∧ findPortOrSentinel root = -1 := by
  constructor
  · let s := Statement.directive ["listen", "0065535"] ⟨12, 27⟩
    let root : Block :=
      ⟨"main", [.block ["http"] "http" [.block ["server"] "server" [s] ⟨5, 28⟩] ⟨0, 29⟩]⟩
    have htree : parseTree "http\x7bserver\x7blisten 0065535;\x7d\x7d" = .ok root := by cbv
    obtain ⟨hfound, -, -, -, -, hsentinel, -⟩ := findPort_of_parseTree htree
    have hnumber : IsPortNumber "0065535" 65535 := ⟨by decide, by simp, by decide, Nat.le_refl _⟩
    have hport := (hfound 65535).mpr ⟨s, "0065535", by cbv, rfl, hnumber⟩
    exact ⟨root, htree, hport, by exact_mod_cast (hsentinel 65535).mpr hport⟩
  · let first := Statement.directive ["port", "+1"] ⟨24, 32⟩
    let second := Statement.directive ["listen", "80"] ⟨12, 22⟩
    let root : Block := ⟨"main", [.block ["http"] "http"
      [.block ["server"] "server" [second] ⟨5, 23⟩] ⟨0, 24⟩, first]⟩
    have htree : parseTree "http\x7bserver\x7blisten 80;\x7d\x7dport +1;" = .ok root := by cbv
    obtain ⟨-, -, hagain, -, -, -, hsentinel⟩ := findPort_of_parseTree htree
    have hport := (hagain ⟨12, 22⟩).mpr ⟨first, second, [], by cbv, rfl⟩
    refine ⟨root, htree, hport, hsentinel.mpr fun port hok => ?_⟩
    rw [hport] at hok
    cases hok

end Waymark.Config
