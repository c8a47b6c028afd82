/-!
# Loops

A loop takes steps from state to state as long as a condition holds.  Its rounds are bounded, and a
loop that would need more of them has no result, nor has one of which a step has none.  So a loop
that has a result has ended because its condition holds no longer.
-/

namespace RoomHistory

variable {σ : Type}

/-- Takes a step as long as a condition holds, in at most `rounds` rounds. -/
def repeatWhile? (goesOn : σ → Bool) (step? : σ → Option σ) : Nat → σ → Option σ
  | 0, state => if goesOn state then none else some state
  | rounds + 1, state =>
      if goesOn state then (step? state).bind (repeatWhile? goesOn step? rounds) else some state

/-- A loop whose steps keep an invariant, and each bring the end nearer, has a result if its rounds
reach as far as the end is away.  The invariant holds of the result, and the condition does not. -/
theorem repeatWhile?_of_invariant {goesOn : σ → Bool} {step? : σ → Option σ}
    {invariant : σ → Prop} {distance : σ → Nat}
    (step : ∀ state, invariant state → goesOn state = true →
      ∃ next, step? state = some next ∧ invariant next ∧ distance next < distance state)
    {rounds : Nat} {state : σ} (start : invariant state) (near : distance state ≤ rounds) :
    ∃ last, repeatWhile? goesOn step? rounds state = some last ∧ invariant last ∧
      goesOn last = false := by
  induction rounds generalizing state with
  | zero =>
      cases goes : goesOn state with
      | true =>
          obtain ⟨next, -, -, nearer⟩ := step state start goes
          omega
      | false => exact ⟨state, by simp [repeatWhile?, goes], start, goes⟩
  | succ rounds hypothesis =>
      cases goes : goesOn state with
      | true =>
          obtain ⟨next, steps, kept, nearer⟩ := step state start goes
          obtain ⟨last, ends, holds, stops⟩ := hypothesis kept (by omega)
          exact ⟨last, by simp [repeatWhile?, goes, steps, ends], holds, stops⟩
      | false => exact ⟨state, by simp [repeatWhile?, goes], start, goes⟩

/-- A loop that goes on as long as items of a list are ahead, and each step of which passes one of
them, has a result if its rounds reach as far as the list.  Then all items are behind. -/
theorem repeatWhile?_of_list {α : Type} {goesOn : σ → Bool} {step? : σ → Option σ}
    {stands : List α → List α → σ → Prop}
    (goes : ∀ behind ahead state, stands behind ahead state → goesOn state = !ahead.isEmpty)
    (step : ∀ behind item rest state, stands behind (item :: rest) state →
      ∃ next, step? state = some next ∧ stands (behind ++ [item]) rest next)
    {behind ahead : List α} {rounds : Nat} {state : σ}
    (start : stands behind ahead state) (near : ahead.length ≤ rounds) :
    ∃ last, repeatWhile? goesOn step? rounds state = some last ∧
      stands (behind ++ ahead) [] last := by
  induction ahead generalizing behind rounds state with
  | nil =>
      have stops : goesOn state = false := goes behind [] state start
      rw [List.append_nil]
      refine ⟨state, ?_, start⟩
      cases rounds <;> simp [repeatWhile?, stops]
  | cons item rest hypothesis =>
      have continues : goesOn state = true := goes behind (item :: rest) state start
      obtain ⟨next, steps, passed⟩ := step behind item rest state start
      obtain ⟨fewer, rfl⟩ := Nat.exists_eq_add_of_le' (Nat.lt_of_lt_of_le rest.length.succ_pos near)
      obtain ⟨last, ends, stands⟩ := hypothesis passed (Nat.le_of_succ_le_succ near)
      rw [List.append_assoc] at stands
      exact ⟨last, by simp [repeatWhile?, continues, steps, ends], stands⟩

end RoomHistory
