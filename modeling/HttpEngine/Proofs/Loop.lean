/-!
Loops that are left from within: a round goes on to another state, or says what the loop gives. A
loop comes to its end if every round makes its state smaller, or if a number of rounds is known to
lead to a state that leaves it.
-/

namespace HttpEngine

variable {σ ρ : Type}

/-- What a loop gives that is left within a number of rounds, and nothing if it goes on. -/
def loop (round : σ → σ ⊕ ρ) : Nat → σ → Option ρ
  | 0, _ => none
  | rounds + 1, state =>
    match round state with
    | .inl next => loop round rounds next
    | .inr result => some result

section Loop

variable {round : σ → σ ⊕ ρ}

/-- A round that goes on leaves the others to the state behind it. -/
theorem loop_of_next {state next : σ} (goes : round state = .inl next) (rounds : Nat) :
    loop round (rounds + 1) state = loop round rounds next := by
  rw [loop, goes]

/-- The round that leaves the loop says what it gives. -/
theorem loop_of_last {state : σ} {result : ρ} (leaves : round state = .inr result)
    (rounds : Nat) : loop round (rounds + 1) state = some result := by
  rw [loop, leaves]

/--
A loop whose rounds make their state smaller is left within as many rounds as its state is large,
and gives what all its states have in common.
-/
theorem loop_eq_some (Holds : σ → Prop) (size : σ → Nat) (value : σ → ρ)
    (goes : ∀ state next, Holds state → round state = .inl next →
      Holds next ∧ size next < size state ∧ value next = value state)
    (leaves : ∀ state result, Holds state → round state = .inr result → result = value state)
    {state : σ} (holds : Holds state) {rounds : Nat} (enough : size state < rounds) :
    loop round rounds state = some (value state) := by
  -- The state behind a round is smaller, so that one round less is enough for it.
  induction rounds generalizing state with
  | zero => exact absurd enough (Nat.not_lt_zero _)
  | succ rounds ih =>
    cases took : round state with
    | inl next =>
      obtain ⟨kept, smaller, same⟩ := goes state next holds took
      rw [loop_of_next took, ih kept (by omega), same]
    | inr result => rw [loop_of_last took, leaves state result holds took]

/-- A number of rounds that all go on, from one state to another. -/
inductive Goes (round : σ → σ ⊕ ρ) : Nat → σ → σ → Prop where
  | here (state : σ) : Goes round 0 state state
  | next {rounds : Nat} {state middle last : σ} (goes : round state = .inl middle)
      (on : Goes round rounds middle last) : Goes round (rounds + 1) state last

namespace Goes

variable {state middle last : σ} {rounds more : Nat}

/-- Rounds behind other rounds. -/
theorem trans (first : Goes round rounds state middle) (second : Goes round more middle last) :
    Goes round (rounds + more) state last := by
  induction first with
  | here state => rwa [Nat.zero_add]
  | next goes on ih =>
    rw [Nat.add_right_comm]
    exact .next goes (ih second)

/-- Rounds that go on leave the loop to the state behind them. -/
theorem loop_add (goes : Goes round rounds state last) (more : Nat) :
    loop round (rounds + more) state = loop round more last := by
  induction goes with
  | here state => rw [Nat.zero_add]
  | next goes on ih => rw [Nat.add_right_comm, loop_of_next goes, ih]

end Goes

end Loop

end HttpEngine
