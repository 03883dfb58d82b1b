import Slate.Foundation.Transaction

/-!
# Statements that commit one by one

A sequence of transactions that is not a transaction itself: it stops at the first failure,
and what was committed before stays.
-/

namespace Slate.Foundation

universe u

variable {ε σ α β : Type u}

/-- A transaction as one statement of a sequence. -/
def statement (transaction : σ → Except ε (α × σ)) : EStateM ε σ α := fun state =>
  match transaction state with
  | .ok (value, next) => .ok value next
  | .error failure => .error failure state

/-- The state that statements leave, whether or not all of them succeeded. -/
def stateAfter (statements : EStateM ε σ α) (state : σ) : σ :=
  match statements.run state with
  | .ok _ next => next
  | .error _ next => next

theorem statement_eq_ok_iff {transaction : σ → Except ε (α × σ)} {state next : σ} {value : α} :
    (statement transaction).run state = .ok value next ↔
      transaction state = .ok (value, next) := by
  cases ran : transaction state with
  | error failure => simp [statement, EStateM.run, ran]
  | ok result => simp [statement, EStateM.run, ran, Prod.ext_iff]

theorem stateAfter_statement (transaction : σ → Except ε (α × σ)) (state : σ) :
    stateAfter (statement transaction) state = commit transaction state := by
  cases ran : transaction state with
  | error failure => simp [stateAfter, statement, commit, EStateM.run, ran]
  | ok result => simp [stateAfter, statement, commit, EStateM.run, ran]

theorem stateAfter_of_ok {statements : EStateM ε σ α} {state next : σ} {value : α}
    (succeeded : statements.run state = .ok value next) :
    stateAfter statements state = next := by
  rw [stateAfter, succeeded]

theorem stateAfter_of_error {statements : EStateM ε σ α} {state next : σ} {failure : ε}
    (failed : statements.run state = .error failure next) :
    stateAfter statements state = next := by
  rw [stateAfter, failed]

theorem run_bind_eq_ok_iff {first : EStateM ε σ α} {rest : α → EStateM ε σ β} {state next : σ}
    {value : β} :
    (first >>= rest).run state = .ok value next ↔
      ∃ intermediate middle, first.run state = .ok intermediate middle ∧
        (rest intermediate).run middle = .ok value next := by
  rw [EStateM.run_bind]
  cases first.run state with
  | error failure after => simp
  | ok intermediate middle => simp

/-- What holds before a sequence, holds where it stops. -/
def Keeps (Invariant : σ → Prop) (statements : EStateM ε σ α) : Prop :=
  ∀ state, Invariant state → Invariant (stateAfter statements state)

section Keeps

variable {Invariant : σ → Prop}

theorem keeps_pure (value : α) : Keeps Invariant (pure value : EStateM ε σ α) :=
  fun _ holds => holds

theorem keeps_throw (failure : ε) : Keeps Invariant (throw failure : EStateM ε σ α) :=
  fun _ holds => holds

theorem keeps_get : Keeps Invariant (get : EStateM ε σ σ) :=
  fun _ holds => holds

theorem keeps_modify {change : σ → σ} (kept : ∀ state, Invariant state → Invariant (change state)) :
    Keeps Invariant (modify change : EStateM ε σ PUnit) :=
  fun state holds => kept state holds

theorem keeps_ofExcept (outcome : Except ε α) :
    Keeps Invariant (MonadExcept.ofExcept outcome : EStateM ε σ α) := by
  cases outcome with
  | error failure => exact keeps_throw failure
  | ok value => exact keeps_pure value

theorem keeps_adaptExcept {ε' : Type u} {statements : EStateM ε σ α} (renamed : ε → ε')
    (keeps : Keeps Invariant statements) :
    Keeps Invariant (EStateM.adaptExcept renamed statements) := by
  intro state holds
  have after := keeps state holds
  unfold stateAfter at after ⊢
  rw [EStateM.run_adaptExcept]
  cases ran : statements.run state with
  | error failure next =>
      rw [ran] at after
      exact after
  | ok value next =>
      rw [ran] at after
      exact after

theorem keeps_statement {transaction : σ → Except ε (α × σ)}
    (keeps : ∀ state value next, transaction state = .ok (value, next) → Invariant state →
      Invariant next) : Keeps Invariant (statement transaction) := by
  intro state holds
  rw [stateAfter_statement, commit]
  split
  next committed => exact keeps state _ _ committed holds
  next => exact holds

theorem keeps_bind {first : EStateM ε σ α} {rest : α → EStateM ε σ β}
    (before : Keeps Invariant first) (after : ∀ value, Keeps Invariant (rest value)) :
    Keeps Invariant (first >>= rest) := by
  intro state holds
  have middle := before state holds
  unfold stateAfter at middle ⊢
  rw [EStateM.run_bind]
  cases ran : first.run state with
  | error failure next =>
      rw [ran] at middle
      exact middle
  | ok value next =>
      rw [ran] at middle
      exact after value next middle

/-- What follows a value that was computed beforehand. -/
theorem keeps_ofExcept_bind {outcome : Except ε α} {rest : α → EStateM ε σ β}
    (after : ∀ value, outcome = .ok value → Keeps Invariant (rest value)) :
    Keeps Invariant (MonadExcept.ofExcept outcome >>= rest) := by
  cases outcome with
  | error failure => exact keeps_throw failure
  | ok value => exact after value rfl

end Keeps

end Slate.Foundation
