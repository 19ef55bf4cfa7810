import Mathlib.Data.List.Basic

/-!
# Machines

A machine steps from state to state, one step for every input.  The rules here
carry what a step keeps, raises or lowers to whole runs.
-/

namespace Onpremai.Library

universe u v

variable {State : Type u} {Input : Type v} (step : State → Input → State)

def run (state : State) (inputs : List Input) : State := inputs.foldl step state

section

variable (state : State)

@[simp] theorem run_nil : run step state [] = state := rfl

@[simp] theorem run_cons (input : Input) (rest : List Input) :
    run step state (input :: rest) = run step (step state input) rest := rfl

theorem run_append (earlier later : List Input) :
    run step state (earlier ++ later) = run step (run step state earlier) later :=
  List.foldl_append

theorem run_concat (earlier : List Input) (input : Input) :
    run step state (earlier ++ [input]) = step (run step state earlier) input := by
  rw [run_append, run_cons, run_nil]

end

theorem run_invariant (allowed : Input → Prop) (invariant : State → Prop)
    (kept : ∀ state input, allowed input → invariant state → invariant (step state input))
    {state : State} {inputs : List Input} (all : ∀ input ∈ inputs, allowed input)
    (start : invariant state) : invariant (run step state inputs) := by
  induction inputs generalizing state with
  | nil => exact start
  | cons input rest ih =>
    rw [List.forall_mem_cons] at all
    apply ih all.2
    exact kept state input all.1 start

theorem run_always (invariant : State → Prop)
    (kept : ∀ state input, invariant state → invariant (step state input))
    {state : State} (start : invariant state) (inputs : List Input) :
    invariant (run step state inputs) := by
  apply run_invariant step (fun _ => True) invariant
  · intro state input _
    exact kept state input
  · exact fun _ _ => trivial
  · exact start

def Allowed (allowed : State → Input → Prop) : State → List Input → Prop
  | _, [] => True
  | state, input :: rest => allowed state input ∧ Allowed allowed (step state input) rest

instance Allowed.decidable (allowed : State → Input → Prop)
    [∀ state input, Decidable (allowed state input)] :
    ∀ state inputs, Decidable (Allowed step allowed state inputs)
  | _, [] => .isTrue trivial
  | state, input :: rest =>
    have := Allowed.decidable allowed (step state input) rest
    inferInstanceAs (Decidable (allowed state input ∧ _))

theorem run_allowed {allowed : State → Input → Prop} (invariant : State → Prop)
    (kept : ∀ state input, allowed state input → invariant state → invariant (step state input))
    {state : State} {inputs : List Input} (all : Allowed step allowed state inputs)
    (start : invariant state) : invariant (run step state inputs) := by
  induction inputs generalizing state with
  | nil => exact start
  | cons input rest ih =>
    apply ih all.2
    exact kept state input all.1 start

section

variable {first second : State → Input → Prop} (invariant : State → Prop)

theorem Allowed.imp (kept : ∀ state input, first state input → invariant state →
      invariant (step state input) ∧ second state input)
    {state : State} {inputs : List Input} (all : Allowed step first state inputs)
    (start : invariant state) : Allowed step second state inputs := by
  induction inputs generalizing state with
  | nil => trivial
  | cons input rest ih =>
    obtain ⟨holds, allows⟩ := kept state input all.1 start
    exact ⟨allows, ih all.2 holds⟩

theorem allowed_iff (kept : ∀ state input, invariant state → invariant (step state input))
    (agree : ∀ state input, invariant state → (first state input ↔ second state input))
    {state : State} {inputs : List Input} (start : invariant state) :
    Allowed step first state inputs ↔ Allowed step second state inputs := by
  induction inputs generalizing state with
  | nil => exact Iff.rfl
  | cons input rest ih =>
    exact and_congr (agree state input start) (ih (kept state input start))

end

theorem allowed_and (first second : State → Input → Prop) (state : State) (inputs : List Input) :
    Allowed step (fun state input => first state input ∧ second state input) state inputs ↔
      Allowed step first state inputs ∧ Allowed step second state inputs := by
  induction inputs generalizing state with
  | nil => exact (and_self_iff).symm
  | cons input rest ih =>
    rw [Allowed, Allowed, Allowed, ih]
    exact and_and_and_comm

section

variable (allowed : State → Input → Prop) (state : State)

theorem allowed_append (earlier later : List Input) :
    Allowed step allowed state (earlier ++ later) ↔ Allowed step allowed state earlier ∧
        Allowed step allowed (run step state earlier) later := by
  induction earlier generalizing state with
  | nil => exact (and_iff_right trivial).symm
  | cons input rest ih =>
    rw [List.cons_append, Allowed, Allowed, run_cons, ih, and_assoc]

theorem allowed_iff_passed (inputs : List Input) : Allowed step allowed state inputs ↔
      ∀ earlier input later, inputs = earlier ++ input :: later →
        allowed (run step state earlier) input := by
  constructor
  · intro all earlier input later split
    rw [split, allowed_append] at all
    exact all.2.1
  · intro every
    induction inputs generalizing state with
    | nil => trivial
    | cons input rest ih =>
      constructor
      · exact every [] input rest rfl
      · apply ih
        intro earlier next later split
        exact every (input :: earlier) next later (by rw [split]; rfl)

end

theorem run_related {related : State → State → Prop} (refl : ∀ state, related state state)
    (trans : ∀ first second third, related first second → related second third →
      related first third) {state : State} {inputs : List Input}
    (all : Allowed step (fun state input => related state (step state input)) state inputs) :
    related state (run step state inputs) := by
  induction inputs generalizing state with
  | nil => exact refl state
  | cons input rest ih =>
    apply trans state (step state input)
    · exact all.1
    · exact ih all.2

theorem passed_related_iff {related : State → State → Prop}
    (refl : ∀ state, related state state)
    (trans : ∀ first second third, related first second → related second third →
      related first third) (state : State) (inputs : List Input) :
    (∀ earlier middle later, inputs = earlier ++ middle ++ later →
      related (run step state earlier) (run step state (earlier ++ middle))) ↔
        Allowed step (fun state input => related state (step state input)) state inputs := by
  constructor
  · intro every
    induction inputs generalizing state with
    | nil => trivial
    | cons input rest ih =>
      constructor
      · exact every [] [input] rest rfl
      · apply ih
        intro earlier middle later split
        exact every (input :: earlier) middle later (by rw [split]; rfl)
  · intro all earlier middle later split
    rw [split, List.append_assoc, allowed_append, allowed_append] at all
    rw [run_append]
    exact run_related step refl trans all.2.1

theorem passed_supported_iff {allowed : State → Input → Prop} (support holds : State → Prop)
    (kept : ∀ state input, support state → holds state →
      (holds (step state input) ↔ allowed state input))
    (supported : ∀ state input, support state → holds state → holds (step state input) →
      support (step state input))
    {state : State} (start : support state) (first : holds state) (inputs : List Input) :
    (∀ earlier later, inputs = earlier ++ later → holds (run step state earlier)) ↔
      Allowed step allowed state inputs := by
  induction inputs generalizing state with
  | nil =>
    apply iff_of_true
    · intro earlier later split
      rw [(List.append_eq_nil_iff.mp split.symm).1]
      exact first
    · trivial
  | cons input rest ih =>
    have next := kept state input start first
    constructor
    · intro every
      have after := every [input] rest rfl
      constructor
      · exact next.mp after
      · apply (ih (supported state input start first after) after).mp
        intro earlier later split
        exact every (input :: earlier) later (by rw [split]; rfl)
    · intro all earlier later split
      have after := next.mpr all.1
      have passed := (ih (supported state input start first after) after).mpr all.2
      cases earlier with
      | nil => exact first
      | cons other earlier =>
        cases split
        exact passed earlier later rfl

theorem passed_invariant_iff {allowed : State → Input → Prop} (invariant : State → Prop)
    (kept : ∀ state input, invariant state → (invariant (step state input) ↔ allowed state input))
    {state : State} (start : invariant state) (inputs : List Input) :
    (∀ earlier later, inputs = earlier ++ later → invariant (run step state earlier)) ↔
      Allowed step allowed state inputs :=
  passed_supported_iff step (fun _ => True) invariant (fun state input _ => kept state input)
    (fun _ _ _ _ _ => trivial) trivial start inputs

theorem exists_crossing (mark : State → Prop) {state : State} {inputs : List Input}
    (below : ¬ mark state) (reached : mark (run step state inputs)) :
    ∃ earlier input later, inputs = earlier ++ input :: later ∧
      ¬ mark (run step state earlier) ∧ mark (step (run step state earlier) input) := by
  induction inputs generalizing state with
  | nil => exact absurd reached below
  | cons input rest ih =>
    by_cases passed : mark (step state input)
    · exact ⟨[], input, rest, rfl, below, passed⟩
    · rcases ih passed reached with ⟨earlier, next, later, split, before, after⟩
      refine ⟨input :: earlier, next, later, ?_, before, after⟩
      rw [split, List.cons_append]

theorem run_done (done : State → Prop) (rank : State → Nat)
    (lower : ∀ state input, ¬ done state → rank (step state input) < rank state)
    (stays : ∀ state input, done state → done (step state input))
    {state : State} {inputs : List Input} (enough : rank state ≤ inputs.length)
    (last : ∀ state, rank state = 0 → done state) : done (run step state inputs) := by
  induction inputs generalizing state with
  | nil => exact last state (Nat.le_zero.mp enough)
  | cons input rest ih =>
    by_cases finished : done state
    · exact run_always step done stays (stays state input finished) rest
    · apply ih
      have fewer := lower state input finished
      rw [List.length_cons] at enough
      omega

end Onpremai.Library
