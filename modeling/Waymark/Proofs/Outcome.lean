/-!
# Waymark.Proofs.Outcome

Computations that may fail, step by step.

The readers and resolvers are written as sequences of steps of which the first failing one
decides. With these lemmas `simp` runs such a sequence as far as the outcomes of its steps
are known.
-/

namespace Waymark.Outcome

universe u v

variable {ε : Type u} {α β : Type v}

@[simp] theorem throw_eq_error (error : ε) : (throw error : Except ε α) = .error error := rfl

@[simp] theorem pure_eq_ok (a : α) : (pure a : Except ε α) = .ok a := rfl

/-- After a success the next step runs. -/
@[simp] theorem ok_bind (a : α) (next : α → Except ε β) : (Except.ok a >>= next) = next a := rfl

/-- After a failure no step runs. -/
@[simp] theorem error_bind (error : ε) (next : α → Except ε β) :
    (Except.error error >>= next) = .error error := rfl

/-- Two steps fail because the first or the second one does. -/
theorem bind_eq_error_iff {x : Except ε α} {next : α → Except ε β} {error : ε} :
    (x >>= next) = .error error ↔ x = .error error ∨ ∃ a, x = .ok a ∧ next a = .error error := by
  cases x <;> simp

/-! ### Errors seen through a function -/

section MapError

variable {ε' : Type u}

@[simp] theorem mapError_ok (f : ε → ε') (a : α) :
    (Except.ok a : Except ε α).mapError f = .ok a := rfl

@[simp] theorem mapError_error (f : ε → ε') (error : ε) :
    (Except.error error : Except ε α).mapError f = .error (f error) := rfl

/-- Two computations that cannot be told apart through a function of their errors both give
the same result, or both fail. -/
theorem mapError_eq_cases {f : ε → ε'} {x y : Except ε α} (h : x.mapError f = y.mapError f) :
    (∃ a, x = .ok a ∧ y = .ok a) ∨
      ∃ error other, x = .error error ∧ y = .error other ∧ f error = f other := by
  cases x with
  | ok a =>
    cases y with
    | ok b =>
      obtain rfl : a = b := by simpa using h
      exact Or.inl ⟨a, rfl, rfl⟩
    | error other => simp at h
  | error error =>
    cases y with
    | ok b => simp at h
    | error other => exact Or.inr ⟨error, other, rfl, rfl, by simpa using h⟩

end MapError

/-! ### Lists of steps -/

variable {γ : Type u}

/-- One step for each member of a list: either all succeed, or the failure is that of the
first member whose step fails. -/
theorem mapM_cases (step : γ → Except ε α) (members : List γ) :
    (∃ results, members.mapM step = .ok results ∧ members.map step = results.map .ok) ∨
    ∃ done member rest error, members = done ++ member :: rest ∧
      (∀ other ∈ done, ∃ a, step other = .ok a) ∧ step member = .error error ∧
      members.mapM step = .error error := by
  induction members with
  | nil => exact Or.inl ⟨[], rfl, rfl⟩
  | cons first rest ih =>
    rw [List.mapM_cons]
    cases hfirst : step first with
    | error error =>
      refine Or.inr ⟨[], first, rest, error, rfl, ?_, hfirst, rfl⟩
      intro other hother
      cases hother
    | ok a =>
      rcases ih with ⟨results, hrun, hmap⟩ | ⟨done, member, after, error, rfl, hdone, hmember, hrun⟩
      · left
        refine ⟨a :: results, ?_, ?_⟩
        · simp [hrun]
        · rw [List.map_cons, List.map_cons, hfirst, hmap]
      · right
        refine ⟨first :: done, member, after, error, rfl, ?_, hmember, ?_⟩
        · intro other hother
          rcases List.mem_cons.mp hother with rfl | hother
          · exact ⟨a, hfirst⟩
          · exact hdone other hother
        · simp [hrun]

/-- All steps succeed exactly when each of them does by itself. -/
theorem mapM_eq_ok_iff {step : γ → Except ε α} {members : List γ} {results : List α} :
    members.mapM step = .ok results ↔ members.map step = results.map .ok := by
  induction members generalizing results with
  | nil => simp [eq_comm]
  | cons first rest ih =>
    rw [List.mapM_cons, List.map_cons]
    cases results with
    | nil => cases step first <;> cases rest.mapM step <;> simp
    | cons a results =>
      cases hfirst : step first with
      | error error => simp
      | ok b => cases hrest : rest.mapM step <;> simp_all

/-- A run fails at one of its steps, after those before it have succeeded. -/
theorem foldlM_eq_error {step : β → γ → Except ε β} {start : β} {members : List γ} {error : ε}
    (h : members.foldlM step start = .error error) :
    ∃ done member rest b, members = done ++ member :: rest ∧
      done.foldlM step start = .ok b ∧ step b member = .error error := by
  induction members generalizing start with
  | nil => simp at h
  | cons first rest ih =>
    rw [List.foldlM_cons] at h
    cases hfirst : step start first with
    | error other =>
      rw [hfirst] at h
      obtain rfl := Except.error.inj h
      exact ⟨[], first, rest, start, rfl, rfl, hfirst⟩
    | ok next =>
      rw [hfirst] at h
      obtain ⟨done, member, after, b, rfl, hdone, hmember⟩ := ih h
      refine ⟨first :: done, member, after, b, rfl, ?_, hmember⟩
      rw [List.foldlM_cons, hfirst]
      exact hdone

end Waymark.Outcome
