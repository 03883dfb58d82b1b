import Mathlib.Order.Lattice
import Mathlib.Order.MinMax
import Slate.Foundation.SharedTable

/-!
# A register that is read and then raised

Each of several callers reads a register and later writes back the greater of what it read
and what it offers. The read and the write are two accesses, so another caller can write in
between.
-/

namespace Slate.Foundation

universe u v

/-- How far one caller has come. -/
inductive Progress (α : Type v) where
  | starting
  | hasRead (seen : α)
  | returned
deriving DecidableEq, Repr

inductive Access (Caller : Type u) where
  | read (caller : Caller)
  | write (caller : Caller)
deriving DecidableEq, Repr

structure MaxRegister (Caller : Type u) (α : Type v) where
  value : α
  progress : Caller → Progress α

namespace MaxRegister

variable {Caller : Type u} {α : Type v} [DecidableEq Caller] [LinearOrder α]
  (admits : Caller → Bool) (offer : Caller → α)

/-- A caller that is not admitted returns from its read; an access out of turn does nothing. -/
def access (register : MaxRegister Caller α) : Access Caller → MaxRegister Caller α
  | .read caller =>
      match register.progress caller with
      | .starting =>
          { register with
            progress := Function.update register.progress caller
              (if admits caller then .hasRead register.value else .returned) }
      | _ => register
  | .write caller =>
      match register.progress caller with
      | .hasRead seen =>
          { value := max seen (offer caller)
            progress := Function.update register.progress caller .returned }
      | _ => register

/-- No access of the run lowers the value. -/
def NeverDecreases (accesses : List (Access Caller)) (register : MaxRegister Caller α) : Prop :=
  ∀ done next, done ++ [next] <+: accesses →
    (runSteps (access admits offer) done register).value ≤
      (runSteps (access admits offer) (done ++ [next]) register).value

/-- Since a caller read, some caller wrote an offer above both what that one read and what it
offers itself. -/
def RaisedSinceRead (done : List (Access Caller)) (caller : Caller)
    (register : MaxRegister Caller α) : Prop :=
  ∃ before early since, done = before ++ .write early :: since ∧ ∃ seenEarly seen,
    (runSteps (access admits offer) before register).progress early = .hasRead seenEarly ∧
    (runSteps (access admits offer) before register).progress caller = .hasRead seen ∧
    max seen (offer caller) < offer early

/-- No caller writes after the register was raised above what it is going to write. -/
def NeverOvertaken (accesses : List (Access Caller)) (register : MaxRegister Caller α) : Prop :=
  ∀ done caller, done ++ [.write caller] <+: accesses →
    ¬RaisedSinceRead admits offer done caller register

variable {admits offer} {register : MaxRegister Caller α} {accesses : List (Access Caller)}

section Steps

variable {caller other : Caller} {seen : α}

theorem access_write (hasRead : register.progress caller = .hasRead seen) :
    register.access admits offer (.write caller) =
      { value := max seen (offer caller)
        progress := Function.update register.progress caller .returned } := by
  simp only [access, hasRead]

theorem access_write_of_not_hasRead (idle : ∀ seen, register.progress caller ≠ .hasRead seen) :
    register.access admits offer (.write caller) = register := by
  simp only [access]

theorem access_read_value : (register.access admits offer (.read caller)).value =
    register.value := by
  simp only [access]
  split <;> rfl

/-- A caller that has read stays there until it writes. -/
theorem hasRead_of_access_ne {next : Access Caller} (ne : next ≠ .write caller)
    (hasRead : register.progress caller = .hasRead seen) :
    (register.access admits offer next).progress caller = .hasRead seen := by
  cases next with
  | read other =>
      by_cases same : other = caller
      · subst same
        simp only [access, hasRead]
      · unfold access
        simp only
        split
        · simpa [Function.update_of_ne (Ne.symm same)] using hasRead
        · exact hasRead
  | write other =>
      have distinct : caller ≠ other := by
        intro same
        exact ne (congrArg Access.write same.symm)
      simp only [access]
      split
      · simpa [Function.update_of_ne distinct] using hasRead
      · exact hasRead

/-- What a caller has read after an access, it read in that access or before it. -/
theorem hasRead_of_hasRead_access {next : Access Caller}
    (hasRead : (register.access admits offer next).progress caller = .hasRead seen) :
    next = .read caller ∧ seen = register.value ∨
      next ≠ .write caller ∧ register.progress caller = .hasRead seen := by
  cases next with
  | read other =>
      simp only [access] at hasRead
      split at hasRead
      · by_cases same : caller = other
        · subst same
          simp only [Function.update_self] at hasRead
          split at hasRead
          · exact .inl ⟨rfl, (Progress.hasRead.inj hasRead).symm⟩
          · cases hasRead
        · simp only [Function.update_of_ne same] at hasRead
          exact .inr ⟨by simp, hasRead⟩
      · exact .inr ⟨by simp, hasRead⟩
  | write other =>
      simp only [access] at hasRead
      split at hasRead
      · by_cases same : caller = other
        · subst same
          simp at hasRead
        · simp only [Function.update_of_ne same] at hasRead
          exact .inr ⟨by simpa [eq_comm] using same, hasRead⟩
      · rename_i idle
        refine .inr ⟨?_, hasRead⟩
        intro same
        cases same
        exact idle seen hasRead

end Steps

section Runs

/-- What holds of the callers that have read: they read no more than the value, and the value
stays within what they will write unless it was raised. -/
def Pending (admits : Caller → Bool) (offer : Caller → α) (done : List (Access Caller))
    (register : MaxRegister Caller α) : Prop :=
  ∀ caller seen,
    (runSteps (access admits offer) done register).progress caller = .hasRead seen →
      seen ≤ (runSteps (access admits offer) done register).value ∧
        ((runSteps (access admits offer) done register).value ≤ max seen (offer caller) ∨
          RaisedSinceRead admits offer done caller register)

theorem RaisedSinceRead.append {done : List (Access Caller)} {caller : Caller}
    (raised : RaisedSinceRead admits offer done caller register) (next : Access Caller) :
    RaisedSinceRead admits offer (done ++ [next]) caller register := by
  obtain ⟨before, early, since, rfl, reads⟩ := raised
  exact ⟨before, early, since ++ [next], by simp, reads⟩

/-- A write lowers the value only if the register was raised since its read. -/
theorem Pending.le_of_write {done : List (Access Caller)} {caller : Caller} {seen : α}
    (pending : Pending admits offer done register)
    (hasRead : (runSteps (access admits offer) done register).progress caller = .hasRead seen)
    (notRaised : ¬RaisedSinceRead admits offer done caller register) :
    (runSteps (access admits offer) done register).value ≤ max seen (offer caller) := by
  obtain ⟨-, within | raised⟩ := pending caller seen hasRead
  · exact within
  · exact absurd raised notRaised

theorem Pending.value_le_access {done : List (Access Caller)} {next : Access Caller}
    (pending : Pending admits offer done register)
    (notRaised : ∀ caller, next = .write caller →
      ¬RaisedSinceRead admits offer done caller register) :
    (runSteps (access admits offer) done register).value ≤
      (runSteps (access admits offer) (done ++ [next]) register).value := by
  rw [runSteps_append_singleton]
  cases next with
  | read caller => rw [access_read_value]
  | write caller =>
      by_cases read : ∃ seen,
          (runSteps (access admits offer) done register).progress caller = .hasRead seen
      · obtain ⟨seen, hasRead⟩ := read
        rw [access_write hasRead]
        exact pending.le_of_write hasRead (notRaised caller rfl)
      · rw [access_write_of_not_hasRead (not_exists.mp read)]

theorem Pending.append {done : List (Access Caller)} {next : Access Caller}
    (pending : Pending admits offer done register)
    (notRaised : ∀ caller, next = .write caller →
      ¬RaisedSinceRead admits offer done caller register) :
    Pending admits offer (done ++ [next]) register := by
  intro caller seen hasRead
  have grows := pending.value_le_access notRaised
  rw [runSteps_append_singleton] at hasRead grows ⊢
  obtain ⟨rfl, rfl⟩ | ⟨notOwn, earlier⟩ := hasRead_of_hasRead_access hasRead
  · rw [access_read_value]
    exact ⟨le_refl _, .inl (le_max_left _ _)⟩
  · obtain ⟨atMost, within | raised⟩ := pending caller seen earlier
    · refine ⟨atMost.trans grows, ?_⟩
      cases next with
      | read other =>
          rw [access_read_value]
          exact .inl within
      | write other =>
          by_cases read : ∃ seen,
              (runSteps (access admits offer) done register).progress other = .hasRead seen
          · obtain ⟨seenOther, otherRead⟩ := read
            rw [access_write otherRead]
            have otherAtMost := (pending other seenOther otherRead).1.trans within
            by_cases below : offer other ≤ max seen (offer caller)
            · exact .inl (max_le otherAtMost below)
            · exact .inr ⟨done, other, [], rfl, seenOther, seen, otherRead, earlier,
                not_le.mp below⟩
          · rw [access_write_of_not_hasRead (not_exists.mp read)]
            exact .inl within
    · exact ⟨atMost.trans grows, .inr (raised.append next)⟩

/-- From a start where no caller has read, the callers stay pending as described. -/
theorem pending_of_neverOvertaken
    (fresh : ∀ caller seen, register.progress caller ≠ .hasRead seen)
    (never : NeverOvertaken admits offer accesses register) :
    ∀ done, done <+: accesses → Pending admits offer done register := by
  intro done
  induction done using List.reverseRecOn with
  | nil =>
      intro _ caller seen hasRead
      exact absurd hasRead (fresh caller seen)
  | append_singleton done next ih =>
      intro isPrefix
      apply (ih ((List.prefix_append done [next]).trans isPrefix)).append
      intro caller isWrite
      subst isWrite
      exact never done caller isPrefix

/-- Once the register was raised above what a caller will write, it stays there until that
caller writes, as long as nothing lowers it. -/
theorem offer_le_value_since {before since : List (Access Caller)} {early caller : Caller}
    {seenEarly seen : α}
    (never : NeverDecreases admits offer (before ++ .write early :: since) register)
    (earlyRead : (runSteps (access admits offer) before register).progress early =
      .hasRead seenEarly)
    (hasRead : (runSteps (access admits offer) before register).progress caller = .hasRead seen)
    (raised : max seen (offer caller) < offer early) :
    (runSteps (access admits offer) (before ++ .write early :: since) register).progress caller =
        .hasRead seen ∧
      offer early ≤
        (runSteps (access admits offer) (before ++ .write early :: since) register).value := by
  induction since using List.reverseRecOn with
  | nil =>
      rw [runSteps_append_singleton]
      have distinct : Access.write early ≠ .write caller := by
        intro same
        cases same
        exact absurd raised (not_lt.mpr (le_max_right _ _))
      refine ⟨hasRead_of_access_ne distinct hasRead, ?_⟩
      rw [access_write earlyRead]
      exact le_max_right _ _
  | append_singleton since next ih =>
      have split : before ++ .write early :: (since ++ [next]) =
          before ++ .write early :: since ++ [next] := by simp
      rw [split] at never ⊢
      obtain ⟨stillRead, reached⟩ := ih fun done later isPrefix =>
        never done later (isPrefix.trans (List.prefix_append _ _))
      have grows := never _ next (List.prefix_refl _)
      refine ⟨?_, reached.trans grows⟩
      rw [runSteps_append_singleton]
      apply hasRead_of_access_ne _ stillRead
      intro own
      subst own
      rw [runSteps_append_singleton, access_write stillRead] at grows
      exact absurd (reached.trans grows) (not_le.mpr raised)

/-- The value never decreases exactly when no caller writes after it was overtaken. -/
theorem neverDecreases_iff
    (fresh : ∀ caller seen, register.progress caller ≠ .hasRead seen) :
    NeverDecreases admits offer accesses register ↔
      NeverOvertaken admits offer accesses register := by
  constructor
  · intro never done caller isPrefix
    rintro ⟨before, early, since, rfl, seenEarly, seen, earlyRead, hasRead, raised⟩
    obtain ⟨stillRead, reached⟩ := offer_le_value_since
      (fun done next within => never done next
        (within.trans ((List.prefix_append _ _).trans isPrefix))) earlyRead hasRead raised
    have grows := never _ _ isPrefix
    rw [runSteps_append_singleton, access_write stillRead] at grows
    exact absurd (reached.trans grows) (not_le.mpr raised)
  · intro never done next isPrefix
    apply (pending_of_neverOvertaken fresh never done
      ((List.prefix_append done [next]).trans isPrefix)).value_le_access
    intro caller isWrite
    subst isWrite
    exact never done caller isPrefix

end Runs

end MaxRegister

end Slate.Foundation
