import Mathlib.Data.List.Infix

/-!
# One pass over candidates

Candidates are tried in order until one serves. A candidate that fails hands over to the next
one; the whole pass is aborted where a candidate cannot even be contacted.
-/

namespace Slate.Foundation

universe u

/-- How the attempt at one candidate ends. -/
inductive Attempt where
  | aborted
  | served
  | failed
  deriving DecidableEq, Repr

variable {Candidate : Type u}

/-- The candidates that one pass contacts, in order. -/
def contacted (attempt : Candidate → Attempt) : List Candidate → List Candidate
  | [] => []
  | candidate :: rest =>
    match attempt candidate with
    | .aborted => []
    | .served => [candidate]
    | .failed => candidate :: contacted attempt rest

/-- The candidate that serves a pass. -/
def serving (attempt : Candidate → Attempt) : List Candidate → Option Candidate
  | [] => none
  | candidate :: rest =>
    match attempt candidate with
    | .aborted => none
    | .served => some candidate
    | .failed => serving attempt rest

attribute [local grind =] contacted serving

variable {attempt : Candidate → Attempt} {candidates earlier rest : List Candidate}
  {candidate : Candidate}

/-- Up to a contacted candidate, the pass went through the candidates in their order, and all
of them failed. -/
theorem of_contacted_eq_append_cons {later : List Candidate}
    (pass : contacted attempt candidates = earlier ++ candidate :: later) :
    (∃ untried, candidates = earlier ++ candidate :: untried) ∧
      (∀ other ∈ earlier, attempt other = .failed) ∧ attempt candidate ≠ .aborted := by
  induction earlier generalizing candidates with
  | nil =>
    cases candidates with
    | nil => simp [contacted] at pass
    | cons first untried =>
      cases outcome : attempt first <;> simp [contacted, outcome] at pass
      · obtain ⟨rfl, -⟩ := pass
        simp [outcome]
      · obtain ⟨rfl, -⟩ := pass
        simp [outcome]
  | cons head middle ih =>
    cases candidates with
    | nil => simp [contacted] at pass
    | cons first untried =>
      cases outcome : attempt first <;> simp [contacted, outcome] at pass
      obtain ⟨rfl, passRest⟩ := pass
      obtain ⟨⟨untried', rfl⟩, failed, notAborted⟩ := ih passRest
      refine ⟨⟨untried', rfl⟩, ?_, notAborted⟩
      intro other membership
      rcases List.mem_cons.mp membership with rfl | later
      · exact outcome
      · exact failed other later

/-- No candidate aborts the pass as long as those before it failed. -/
def Uninterrupted (attempt : Candidate → Attempt) (candidates : List Candidate) : Prop :=
  ∀ earlier candidate rest, candidates = earlier ++ candidate :: rest →
    (∀ other ∈ earlier, attempt other = .failed) → attempt candidate ≠ .aborted

theorem uninterrupted_cons_iff :
    Uninterrupted attempt (candidate :: rest) ↔
      attempt candidate ≠ .aborted ∧ (attempt candidate = .failed → Uninterrupted attempt rest) := by
  constructor
  · intro uninterrupted
    constructor
    · exact uninterrupted [] candidate rest rfl (by simp)
    · intro failed earlier other others split allFailed
      apply uninterrupted (candidate :: earlier) other others (by rw [split]; rfl)
      exact List.forall_mem_cons.mpr ⟨failed, allFailed⟩
  · rintro ⟨first, behind⟩ earlier other others split allFailed
    cases earlier with
    | nil =>
        obtain ⟨rfl, -⟩ := List.cons.inj split
        exact first
    | cons head earlier =>
        obtain ⟨rfl, restSplit⟩ := List.cons.inj split
        obtain ⟨headFailed, othersFailed⟩ := List.forall_mem_cons.mp allFailed
        exact behind headFailed earlier other others restSplit othersFailed

/-- Candidates are contacted in their order. -/
theorem contacted_isPrefix (attempt : Candidate → Attempt) (candidates : List Candidate) :
    contacted attempt candidates <+: candidates := by
  induction candidates with
  | nil => exact List.nil_prefix
  | cons candidate rest inductionHypothesis =>
      cases outcome : attempt candidate with
      | aborted => simp [contacted, outcome]
      | served => simp [contacted, outcome]
      | failed => simpa [contacted, outcome] using inductionHypothesis

theorem serving_of_mem_contacted (isContacted : candidate ∈ contacted attempt candidates)
    (serves : attempt candidate = .served) : serving attempt candidates = some candidate := by
  induction candidates with
  | nil => cases isContacted
  | cons first untried inductionHypothesis =>
      cases outcome : attempt first with
      | aborted => simp [contacted, outcome] at isContacted
      | served =>
          obtain rfl : candidate = first := by simpa [contacted, outcome] using isContacted
          simp [serving, outcome]
      | failed =>
          rw [contacted, outcome] at isContacted
          rcases List.mem_cons.mp isContacted with rfl | inRest
          · rw [serves] at outcome
            cases outcome
          · rw [serving, outcome]
            exact inductionHypothesis inRest

/-- No candidate is contacted behind the one that serves. -/
theorem eq_nil_of_contacted_served {later : List Candidate}
    (pass : contacted attempt candidates = earlier ++ candidate :: later)
    (serves : attempt candidate = .served) : later = [] := by
  induction earlier generalizing candidates with
  | nil =>
      cases candidates with
      | nil => simp [contacted] at pass
      | cons first untried =>
          cases outcome : attempt first with
          | aborted => simp [contacted, outcome] at pass
          | served =>
              rw [contacted, outcome] at pass
              exact (List.cons.inj pass).2.symm
          | failed =>
              rw [contacted, outcome] at pass
              obtain ⟨rfl, -⟩ := List.cons.inj pass
              rw [serves] at outcome
              cases outcome
  | cons head middle inductionHypothesis =>
      cases candidates with
      | nil => simp [contacted] at pass
      | cons first untried =>
          cases outcome : attempt first with
          | aborted => simp [contacted, outcome] at pass
          | served => simp [contacted, outcome] at pass
          | failed =>
              rw [contacted, outcome] at pass
              exact inductionHypothesis (List.cons.inj pass).2

/-- A pass that is not aborted and not served goes through all candidates in vain. -/
theorem failed_of_unserved (uninterrupted : Uninterrupted attempt candidates)
    (unserved : ∀ other ∈ contacted attempt candidates, attempt other ≠ .served) :
    ∀ other ∈ candidates, attempt other = .failed := by
  induction candidates with
  | nil => simp
  | cons first untried inductionHypothesis =>
      obtain ⟨notAborted, behind⟩ := uninterrupted_cons_iff.mp uninterrupted
      cases outcome : attempt first with
      | aborted => exact absurd outcome notAborted
      | served => exact absurd outcome (unserved first (by simp [contacted, outcome]))
      | failed =>
          have isPass : contacted attempt (first :: untried) =
              first :: contacted attempt untried := by simp [contacted, outcome]
          rw [isPass] at unserved
          have othersFailed := inductionHypothesis (behind outcome) fun other isContacted =>
            unserved other (List.mem_cons_of_mem first isContacted)
          exact List.forall_mem_cons.mpr ⟨outcome, othersFailed⟩

theorem contacted_eq_self (allFailed : ∀ other ∈ candidates, attempt other = .failed) :
    contacted attempt candidates = candidates := by
  induction candidates with
  | nil => rfl
  | cons first untried inductionHypothesis =>
      obtain ⟨failed, othersFailed⟩ := List.forall_mem_cons.mp allFailed
      rw [contacted, failed]
      exact congrArg (first :: ·) (inductionHypothesis othersFailed)

/-- The candidate that serves is the last one that is contacted. -/
theorem of_serving_eq_some (serves : serving attempt candidates = some candidate) :
    attempt candidate = .served ∧
      ∃ earlier, contacted attempt candidates = earlier ++ [candidate] := by
  induction candidates with
  | nil => simp [serving] at serves
  | cons first untried ih =>
    cases outcome : attempt first with
    | aborted => simp [serving, outcome] at serves
    | served =>
      have same : first = candidate := by simpa [serving, outcome] using serves
      subst same
      exact ⟨outcome, [], by simp [contacted, outcome]⟩
    | failed =>
      obtain ⟨isServed, earlier, pass⟩ := ih (by simpa [serving, outcome] using serves)
      exact ⟨isServed, first :: earlier, by simp [contacted, outcome, pass]⟩

end Slate.Foundation
