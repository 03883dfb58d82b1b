import Mathlib.Data.List.Forall2

/-!
# Transactions

A transaction reads and replaces a state and may fail. A failed transaction is
rolled back, so `commit` leaves the state as it was. `forEach` runs one
transaction per item and stops at the first failure.
-/

namespace Slate.Foundation

universe u v w

variable {ε : Type u} {α β σ ι : Type v}

theorem bind_eq_ok_iff {result : Except ε α} {next : α → Except ε β} {value : β} :
    (result >>= next) = .ok value ↔
      ∃ intermediate, result = .ok intermediate ∧ next intermediate = .ok value := by
  cases result with
  | error failure =>
      constructor
      · intro h
        cases h
      · rintro ⟨_, ⟨⟩, _⟩
  | ok intermediate =>
      constructor
      · intro h
        exact ⟨intermediate, rfl, h⟩
      · rintro ⟨_, ⟨⟩, h⟩
        exact h

/-- A check that has no result, followed by the rest of the computation. -/
theorem unit_bind_eq_ok_iff {γ : Type} {check : Except ε Unit} {next : Except ε γ} {value : γ} :
    (check >>= fun _ => next) = .ok value ↔ check = .ok () ∧ next = .ok value := by
  cases check with
  | error failure =>
      constructor
      · intro h
        cases h
      · rintro ⟨⟨⟩, _⟩
  | ok result =>
      constructor
      · intro h
        exact ⟨rfl, h⟩
      · exact fun h => h.2

@[simp]
theorem ok_bind (value : α) (next : α → Except ε β) :
    (Except.ok value >>= next) = next value := rfl

theorem map_eq_ok_iff {convert : α → β} {result : Except ε α} {value : β} :
    convert <$> result = .ok value ↔ ∃ before, result = .ok before ∧ convert before = value := by
  cases result with
  | error failure =>
      constructor
      · intro h
        cases h
      · rintro ⟨_, ⟨⟩, _⟩
  | ok before =>
      constructor
      · intro h
        exact ⟨before, rfl, Except.ok.inj h⟩
      · rintro ⟨_, same, rfl⟩
        cases same
        rfl

theorem map_bind {convert : β → γ} {result : Except ε α} {next : α → Except ε β} :
    (result >>= next).map convert = result >>= fun value => (next value).map convert := by
  cases result <;> rfl

theorem mapError_ok {δ : Type w} (convert : ε → δ) (value : α) :
    (Except.ok value : Except ε α).mapError convert = .ok value := rfl

theorem mapError_eq_ok_iff {δ : Type w} {convert : ε → δ} {result : Except ε α} {value : α} :
    result.mapError convert = .ok value ↔ result = .ok value := by
  cases result with
  | error failure =>
      constructor
      · intro h
        cases h
      · intro h
        cases h
  | ok found =>
      constructor
      · intro h
        exact congrArg Except.ok (Except.ok.inj h)
      · intro h
        exact congrArg Except.ok (Except.ok.inj h)

theorem ok_pair_inj {value value' : α} {state state' : σ}
    (h : (Except.ok (value, state) : Except ε (α × σ)) = .ok (value', state')) :
    value = value' ∧ state = state' :=
  Prod.mk.inj (Except.ok.inj h)

section Checks

variable {γ : Type} {condition : Prop} [Decidable condition] {failure : ε}

/-- A check that throws, followed by the rest of the computation. -/
theorem check_then_eq_ok_iff {next : Unit → Except ε γ} {value : γ} :
    (if condition then (throw failure : Except ε Unit) >>= next else next ()) = .ok value ↔
      ¬condition ∧ next () = .ok value := by
  by_cases failed : condition
  · rw [if_pos failed]
    constructor
    · intro h
      cases h
    · rintro ⟨passed, -⟩
      exact absurd failed passed
  · rw [if_neg failed]
    exact ⟨fun h => ⟨failed, h⟩, fun h => h.2⟩

/-- A check that ends a computation. -/
theorem check_eq_ok_iff {result : Unit} :
    (if condition then (throw failure : Except ε Unit) else pure ()) = .ok result ↔
      ¬condition := by
  by_cases failed : condition
  · rw [if_pos failed]
    constructor
    · intro h
      cases h
    · intro passed
      exact absurd failed passed
  · rw [if_neg failed]
    exact ⟨fun _ => failed, fun _ => rfl⟩

theorem forM_eq_ok_iff {step : γ → Except ε Unit} {items : List γ} {result : Unit} :
    items.forM step = .ok result ↔ ∀ item ∈ items, step item = .ok () := by
  induction items with
  | nil => simp [List.forM, pure, Except.pure]
  | cons item rest inductionHypothesis =>
      change (step item >>= fun _ => rest.forM step) = .ok result ↔ _
      rw [bind_eq_ok_iff]
      constructor
      · rintro ⟨_, first, tail⟩
        exact List.forall_mem_cons.mpr ⟨first, inductionHypothesis.mp tail⟩
      · intro all
        obtain ⟨first, tail⟩ := List.forall_mem_cons.mp all
        exact ⟨(), first, inductionHypothesis.mpr tail⟩

end Checks

/-- A map that may fail succeeds where it succeeds on every item. -/
theorem mapM_eq_ok_iff {convert : α → Except ε β} {items : List α} {results : List β} :
    items.mapM convert = .ok results ↔
      List.Forall₂ (fun item result => convert item = .ok result) items results := by
  induction items generalizing results with
  | nil =>
      constructor
      · intro h
        cases h
        exact .nil
      · intro h
        cases h
        rfl
  | cons item rest inductionHypothesis =>
      rw [List.mapM_cons, bind_eq_ok_iff]
      constructor
      · rintro ⟨result, first, h⟩
        obtain ⟨others, tail, h⟩ := bind_eq_ok_iff.mp h
        cases h
        exact .cons first (inductionHypothesis.mp tail)
      · intro h
        cases h with
        | cons first tail =>
            exact ⟨_, first, bind_eq_ok_iff.mpr ⟨_, inductionHypothesis.mpr tail, rfl⟩⟩

/-- The state after a transaction was attempted. -/
def commit (transaction : σ → Except ε (α × σ)) (state : σ) : σ :=
  match transaction state with
  | .ok (_, next) => next
  | .error _ => state

/-- Run a transaction for each item, in order. -/
def forEach (step : ι → σ → Except ε (α × σ)) :
    List ι → σ → Except ε (List α × σ)
  | [], state => .ok ([], state)
  | item :: rest, state => do
      let (value, next) ← step item state
      let (values, final) ← forEach step rest next
      pure (value :: values, final)

attribute [local grind =] forEach

section ForEach

variable {step : ι → σ → Except ε (α × σ)}

@[simp]
theorem forEach_nil (state : σ) : forEach step [] state = .ok ([], state) := rfl

theorem forEach_cons_eq_ok_iff {item : ι} {rest : List ι} {state final : σ}
    {values : List α} :
    forEach step (item :: rest) state = .ok (values, final) ↔
      ∃ value next others, step item state = .ok (value, next) ∧
        forEach step rest next = .ok (others, final) ∧ values = value :: others := by
  simp only [forEach, bind_eq_ok_iff]
  constructor
  · rintro ⟨⟨value, next⟩, first, ⟨others, last⟩, tail, result⟩
    injection result with result
    obtain ⟨rfl, rfl⟩ := Prod.mk.inj result
    exact ⟨value, next, others, first, tail, rfl⟩
  · rintro ⟨value, next, others, first, tail, rfl⟩
    exact ⟨(value, next), first, (others, final), tail, rfl⟩

theorem forEach_map {κ : Type v} (item : κ → ι) (items : List κ) (state : σ) :
    forEach step (items.map item) state = forEach (fun key => step (item key)) items state := by
  induction items generalizing state with
  | nil => rfl
  | cons head rest inductionHypothesis =>
      simp only [List.map_cons, forEach, inductionHypothesis]

theorem forEach_append_eq_ok {first second : List ι} {state final : σ} {values : List α}
    (run : forEach step (first ++ second) state = .ok (values, final)) :
    ∃ firstValues middle secondValues, forEach step first state = .ok (firstValues, middle) ∧
      forEach step second middle = .ok (secondValues, final) := by
  induction first generalizing state values with
  | nil => exact ⟨[], state, values, rfl, run⟩
  | cons item rest inductionHypothesis =>
      obtain ⟨value, next, others, stepped, tail, -⟩ := forEach_cons_eq_ok_iff.mp run
      obtain ⟨firstValues, middle, secondValues, before, after⟩ := inductionHypothesis tail
      exact ⟨value :: firstValues, middle, secondValues,
        forEach_cons_eq_ok_iff.mpr ⟨value, next, firstValues, stepped, before, rfl⟩, after⟩

/-- What every step preserves, the whole run preserves. -/
theorem forEach_invariant (Invariant : σ → Prop) {items : List ι}
    (preserved : ∀ item ∈ items, ∀ state value next,
      step item state = .ok (value, next) → Invariant state → Invariant next)
    {state final : σ} {values : List α}
    (run : forEach step items state = .ok (values, final)) (start : Invariant state) :
    Invariant final := by
  induction items generalizing state values with
  | nil =>
      cases run
      exact start
  | cons item rest inductionHypothesis =>
      obtain ⟨value, next, others, first, tail, -⟩ := forEach_cons_eq_ok_iff.mp run
      refine inductionHypothesis (fun other membership => ?_) tail
        (preserved item (by simp) state value next first start)
      exact preserved other (by simp [membership])

/-- Every value of a run comes from a step that started in a state of the run. -/
theorem forEach_mem (Invariant : σ → Prop) {items : List ι}
    (preserved : ∀ item ∈ items, ∀ state value next,
      step item state = .ok (value, next) → Invariant state → Invariant next)
    {state final : σ} {values : List α}
    (run : forEach step items state = .ok (values, final)) (start : Invariant state)
    {value : α} (membership : value ∈ values) :
    ∃ item ∈ items, ∃ before after, Invariant before ∧
      step item before = .ok (value, after) := by
  induction items generalizing state values with
  | nil =>
      cases run
      cases membership
  | cons item rest inductionHypothesis =>
      obtain ⟨first, next, others, stepped, tail, rfl⟩ := forEach_cons_eq_ok_iff.mp run
      rcases List.mem_cons.mp membership with rfl | older
      · exact ⟨item, List.mem_cons_self .., state, next, start, stepped⟩
      · obtain ⟨found, foundMem, before, after, holds, steppedFound⟩ := inductionHypothesis
          (fun other otherMem => preserved other (List.mem_cons_of_mem _ otherMem)) tail
          (preserved item (List.mem_cons_self ..) state first next stepped start) older
        exact ⟨found, List.mem_cons_of_mem _ foundMem, before, after, holds, steppedFound⟩

/-- A run in which every value is of a kind that comes with no write is a run of steps that
all leave the state as it is. -/
theorem forEach_still_iff (Still : α → Prop) {items : List ι}
    (still : ∀ item ∈ items, ∀ state value next,
      step item state = .ok (value, next) → Still value → next = state) {state : σ} :
    (∃ values, forEach step items state = .ok (values, state) ∧ ∀ value ∈ values, Still value) ↔
      ∀ item ∈ items, ∃ value, step item state = .ok (value, state) ∧ Still value := by
  induction items with
  | nil => simp [forEach_nil]
  | cons item rest inductionHypothesis =>
      have restStill := inductionHypothesis fun other membership =>
        still other (List.mem_cons_of_mem _ membership)
      rw [List.forall_mem_cons, ← restStill]
      constructor
      · rintro ⟨values, run, allStill⟩
        obtain ⟨value, next, others, stepped, tail, rfl⟩ := forEach_cons_eq_ok_iff.mp run
        have firstStill := allStill value (List.mem_cons_self ..)
        obtain rfl := still item (List.mem_cons_self ..) state value next stepped firstStill
        exact ⟨⟨value, stepped, firstStill⟩, others, tail,
          fun other membership => allStill other (List.mem_cons_of_mem _ membership)⟩
      · rintro ⟨⟨value, stepped, firstStill⟩, others, tail, othersStill⟩
        refine ⟨value :: others, forEach_cons_eq_ok_iff.mpr ⟨_, _, _, stepped, tail, rfl⟩, ?_⟩
        exact List.forall_mem_cons.mpr ⟨firstStill, othersStill⟩

/-- Where every step can be repeated on a related state, so can the run. -/
theorem forEach_simulates (Related : σ → σ → Prop) {step' : ι → σ → Except ε (α × σ)}
    {items : List ι}
    (simulates : ∀ item ∈ items, ∀ state state' value next, Related state state' →
      step item state = .ok (value, next) →
        ∃ value' next', step' item state' = .ok (value', next') ∧ Related next next')
    {state state' final : σ} {values : List α} (related : Related state state')
    (run : forEach step items state = .ok (values, final)) :
    ∃ values' final', forEach step' items state' = .ok (values', final') ∧
      Related final final' := by
  induction items generalizing state state' values with
  | nil =>
      obtain ⟨-, rfl⟩ := ok_pair_inj run
      exact ⟨[], state', rfl, related⟩
  | cons item rest inductionHypothesis =>
      obtain ⟨value, next, others, stepped, tail, -⟩ := forEach_cons_eq_ok_iff.mp run
      obtain ⟨value', next', stepped', relatedNext⟩ :=
        simulates item (List.mem_cons_self ..) state state' value next related stepped
      obtain ⟨others', final', tail', relatedFinal⟩ := inductionHypothesis
        (fun other membership => simulates other (List.mem_cons_of_mem _ membership))
        relatedNext tail
      exact ⟨value' :: others', final',
        forEach_cons_eq_ok_iff.mpr ⟨value', next', others', stepped', tail', rfl⟩, relatedFinal⟩

/-- If no step can fail while an invariant holds, the run succeeds. -/
theorem forEach_succeeds (Invariant : σ → Prop) {items : List ι}
    (progress : ∀ item ∈ items, ∀ state, Invariant state →
      ∃ value next, step item state = .ok (value, next) ∧ Invariant next)
    {state : σ} (start : Invariant state) :
    ∃ values final, forEach step items state = .ok (values, final) ∧ Invariant final := by
  induction items generalizing state with
  | nil => exact ⟨[], state, rfl, start⟩
  | cons item rest inductionHypothesis =>
      obtain ⟨value, next, stepped, kept⟩ := progress item (by simp) state start
      obtain ⟨values, final, run, holds⟩ :=
        inductionHypothesis (fun other membership => progress other (by simp [membership]))
          kept
      exact ⟨value :: values, final,
        forEach_cons_eq_ok_iff.mpr ⟨value, next, values, stepped, run, rfl⟩, holds⟩

end ForEach

end Slate.Foundation
