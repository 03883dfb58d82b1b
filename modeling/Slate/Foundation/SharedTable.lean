import Mathlib.Data.List.Infix
import Mathlib.Logic.Function.Basic

/-!
# A table that several parties write

One party remembers what it last wrote at each key of a table that others write as well. It
reads back what it expects exactly as long as nobody else writes anything different there.
-/

namespace Slate.Foundation

universe u v w

section Watched

variable {Key : Type u} {Value : Type v} [DecidableEq Key]

/-- A shared table, and what one party expects to find there. -/
structure Watched (Key : Type u) (Value : Type v) where
  table : Key → Value
  expects : Key → Option Value

namespace Watched

variable (watched : Watched Key Value)

def Agrees : Prop :=
  ∀ key expected, watched.expects key = some expected → watched.table key = expected

/-- A write of the party itself, which then expects the value, or nothing any more. -/
def writeOwn (key : Key) (value : Value) (expected : Option Value) : Watched Key Value where
  table := Function.update watched.table key value
  expects := Function.update watched.expects key expected

/-- A write of somebody else. -/
def writeForeign (key : Key) (value : Value) : Watched Key Value :=
  { watched with table := Function.update watched.table key value }

variable {watched} {key : Key} {value : Value}

theorem Agrees.writeOwn (agrees : watched.Agrees) {expected : Option Value}
    (expectsWritten : ∀ other, expected = some other → value = other) :
    (watched.writeOwn key value expected).Agrees := by
  intro wanted other
  by_cases same : wanted = key
  · subst same
    simpa [Watched.writeOwn] using expectsWritten other
  · simpa [Watched.writeOwn, same] using agrees wanted other

theorem agrees_writeForeign_iff (agrees : watched.Agrees) :
    (watched.writeForeign key value).Agrees ↔
      ∀ expected, watched.expects key = some expected → value = expected := by
  constructor
  · intro still expected isExpected
    simpa [writeForeign] using still key expected isExpected
  · intro respects wanted expected isExpected
    by_cases same : wanted = key
    · subst same
      simpa [writeForeign] using respects expected isExpected
    · simpa [writeForeign, same] using agrees wanted expected isExpected

end Watched

end Watched

section Runs

variable {State : Type u} {Step : Type v}

/-- What a run of steps leaves. -/
def runSteps (next : State → Step → State) (steps : List Step) (state : State) : State :=
  steps.foldl next state

/-- A property holds before a run and after each of its steps. -/
def Throughout (next : State → Step → State) (Holds : State → Prop) (steps : List Step)
    (state : State) : Prop :=
  ∀ done, done <+: steps → Holds (runSteps next done state)

/-- Every step of a run is taken where it may be taken. -/
def AllTaken (next : State → Step → State) (May : State → Step → Prop) (steps : List Step)
    (state : State) : Prop :=
  ∀ done step, done ++ [step] <+: steps → May (runSteps next done state) step

variable {next : State → Step → State} {Holds Invariant : State → Prop}
  {May : State → Step → Prop}

theorem runSteps_append_singleton (done : List Step) (step : Step) (state : State) :
    runSteps next (done ++ [step]) state = next (runSteps next done state) step := by
  simp [runSteps]

theorem allTaken_nil (state : State) : AllTaken next May [] state := by
  intro done step isPrefix
  exact absurd (List.prefix_nil.mp isPrefix) (List.append_ne_nil_of_right_ne_nil done (by simp))

theorem allTaken_cons {step : Step} {rest : List Step} {state : State} (taken : May state step)
    (others : AllTaken next May rest (next state step)) :
    AllTaken next May (step :: rest) state := by
  intro done later isPrefix
  cases done with
  | nil =>
    obtain ⟨rfl, -⟩ := List.cons_prefix_cons.mp isPrefix
    exact taken
  | cons first done =>
    obtain ⟨rfl, isPrefixOfRest⟩ := List.cons_prefix_cons.mp isPrefix
    exact others done later isPrefixOfRest

/-- A property that every permitted step keeps holds throughout a run of permitted steps. -/
theorem throughout_of_allTaken
    (keeps : ∀ state step, Holds state → May state step → Holds (next state step))
    {steps : List Step} {state : State} (holds : Holds state)
    (allTaken : AllTaken next May steps state) : Throughout next Holds steps state := by
  intro done isPrefix
  induction done using List.reverseRecOn with
  | nil => exact holds
  | append_singleton done step ih =>
    rw [runSteps_append_singleton]
    exact keeps _ step (ih ((List.prefix_append done [step]).trans isPrefix))
      (allTaken done step isPrefix)

/-- If each step keeps a property exactly where it may be taken, then a run that starts with the
property keeps it throughout exactly where all its steps may be taken. -/
theorem throughout_iff_allTaken
    (keeps : ∀ state step, Invariant state → Invariant (next state step))
    (exact : ∀ state step, Invariant state → Holds state →
      (Holds (next state step) ↔ May state step))
    {steps : List Step} {state : State} (invariant : Invariant state) (holds : Holds state) :
    Throughout next Holds steps state ↔ AllTaken next May steps state := by
  have invariantAfter (done : List Step) : Invariant (runSteps next done state) := by
    unfold runSteps
    induction done using List.reverseRecOn with
    | nil => exact invariant
    | append_singleton done step ih =>
      rw [List.foldl_append]
      exact keeps _ step ih
  constructor
  · intro throughout done step isPrefix
    apply (exact _ step (invariantAfter done) (throughout done
      ((List.prefix_append done [step]).trans isPrefix))).mp
    have after := throughout (done ++ [step]) isPrefix
    rwa [runSteps_append_singleton] at after
  · intro allTaken
    have both : ∀ state step, (Invariant state ∧ Holds state) → May state step →
        Invariant (next state step) ∧ Holds (next state step) := by
      rintro state step ⟨invariant, holds⟩ may
      exact ⟨keeps state step invariant, (exact state step invariant holds).mpr may⟩
    exact fun done isPrefix =>
      (throughout_of_allTaken both ⟨invariant, holds⟩ allTaken done isPrefix).2

/-- A property holds throughout exactly the runs of permitted steps, if permitted steps keep an
invariant that implies it and any other step leads out of it. -/
theorem throughout_iff_of_reveals
    (keeps : ∀ state step, Invariant state → May state step → Invariant (next state step))
    (implies : ∀ state, Invariant state → Holds state)
    (reveals : ∀ state step, Invariant state → Holds (next state step) → May state step)
    {steps : List Step} {state : State} (invariant : Invariant state) :
    Throughout next Holds steps state ↔ AllTaken next May steps state := by
  constructor
  · intro throughout
    have revealed {done : List Step} {step : Step} (before : Invariant (runSteps next done state))
        (isPrefix : done ++ [step] <+: steps) : May (runSteps next done state) step := by
      apply reveals _ step before
      have after := throughout _ isPrefix
      rwa [runSteps_append_singleton] at after
    have invariantAfter (done : List Step) (isPrefix : done <+: steps) :
        Invariant (runSteps next done state) := by
      induction done using List.reverseRecOn with
      | nil => exact invariant
      | append_singleton done step ih =>
        have before := ih ((List.prefix_append done [step]).trans isPrefix)
        rw [runSteps_append_singleton]
        exact keeps _ step before (revealed before isPrefix)
    exact fun done step isPrefix =>
      revealed (invariantAfter done ((List.prefix_append done [step]).trans isPrefix)) isPrefix
  · exact fun allTaken done isPrefix =>
      implies _ (throughout_of_allTaken keeps invariant allTaken done isPrefix)

end Runs

end Slate.Foundation
