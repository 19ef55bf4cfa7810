import Onpremai.Library.Machine

/-!
# Machines that answer

A machine that answers every input it takes.  The rules here compare what two machines
answer to the same inputs, over a relation of their states.
-/

namespace Onpremai.Library

universe u v w

variable {State Other : Type u} {Input : Type v} {Answer : Type w}

def answers (react : State → Input → State × Answer) : State → List Input → List Answer
  | _, [] => []
  | state, input :: rest =>
    (react state input).2 :: answers react (react state input).1 rest

def next (react : State → Input → State × Answer) (state : State) (input : Input) : State :=
  (react state input).1

theorem answers_allowed (react : State → Input → State × Answer)
    {allowed : State → Input → Prop} (invariant : State → Prop) (good : Answer → Prop)
    (kept : ∀ state input, allowed state input → invariant state →
      invariant (next react state input) ∧ good (react state input).2)
    {state : State} {inputs : List Input} (all : Allowed (next react) allowed state inputs)
    (start : invariant state) : ∀ answer ∈ answers react state inputs, good answer := by
  induction inputs generalizing state with
  | nil => exact fun _ none => absurd none List.not_mem_nil
  | cons input rest ih =>
    have step := kept state input all.1 start
    rw [answers, List.forall_mem_cons]
    exact ⟨step.2, ih all.2 step.1⟩

variable (first : State → Input → State × Answer) (second : Other → Input → Other × Answer)

theorem answers_eq_iff (related : State → Other → Prop) {allowed : Other → Input → Prop}
    (kept : ∀ state other input, related state other →
      related (next first state input) (next second other input))
    (agree : ∀ state other input, related state other →
      ((first state input).2 = (second other input).2 ↔ allowed other input))
    {state : State} {other : Other} (start : related state other) (inputs : List Input) :
    answers first state inputs = answers second other inputs ↔
      Allowed (next second) allowed other inputs := by
  induction inputs generalizing state other with
  | nil => exact iff_of_true rfl trivial
  | cons input rest ih =>
    rw [answers, answers, List.cons.injEq, agree state other input start]
    exact and_congr_right fun _ => ih (kept state other input start)

theorem answers_eq_of_allowed (related : State → Other → Prop) {allowed : State → Input → Prop}
    (kept : ∀ state other input, allowed state input → related state other →
      related (next first state input) (next second other input) ∧
        (first state input).2 = (second other input).2)
    {state : State} {other : Other} {inputs : List Input}
    (all : Allowed (next first) allowed state inputs) (start : related state other) :
    answers first state inputs = answers second other inputs := by
  induction inputs generalizing state other with
  | nil => rfl
  | cons input rest ih =>
    obtain ⟨states, same⟩ := kept state other input all.1 start
    rw [answers, answers, same]
    exact congrArg _ (ih all.2 states)

theorem handed_out_in_order {Item : Type u} (react : State → Input → State × Answer)
    (waiting : State → List Item) (added : Input → List Item)
    (handed : Input → Answer → List Item)
    (law : ∀ state input, waiting state ++ added input =
      handed input (react state input).2 ++ waiting (next react state input))
    (state : State) (inputs : List Input) :
    waiting state ++ inputs.flatMap added =
      (List.zipWith handed inputs (answers react state inputs)).flatten ++
        waiting (run (next react) state inputs) := by
  induction inputs generalizing state with
  | nil => simp [answers]
  | cons input rest ih =>
    rw [List.flatMap_cons, ← List.append_assoc, law, List.append_assoc, ih]
    simp [answers, next]

end Onpremai.Library

/-!
## Noninterference

A machine is used by many parties.  What it answers to some inputs does not depend on the
other ones where a relation to a machine that has taken only those inputs can be kept.
-/

namespace Onpremai.Library

universe u v w

variable {State Other : Type u} {Input : Type v} {Answer : Type w}

def observed (mine : Input → Bool) : List Input → List Answer → List Answer
  | input :: inputs, answer :: answers =>
    if mine input then answer :: observed mine inputs answers
    else observed mine inputs answers
  | _, _ => []

theorem observed_eq (mine : Input → Bool) (first : State → Input → State × Answer)
    (second : Other → Input → Other × Answer) (related : State → Other → Prop)
    {allowed : State → Input → Prop}
    (own : ∀ state other input, related state other → allowed state input → mine input = true →
      (first state input).2 = (second other input).2 ∧
        related (next first state input) (next second other input))
    (foreign : ∀ state other input, related state other → allowed state input →
      mine input = false → related (next first state input) other)
    {state : State} {other : Other} (start : related state other) {inputs : List Input}
    (all : Allowed (next first) allowed state inputs) :
    observed mine inputs (answers first state inputs) =
      answers second other (inputs.filter mine) := by
  induction inputs generalizing state other with
  | nil => rfl
  | cons input rest ih =>
    rw [answers, observed]
    cases whose : mine input with
    | true =>
      obtain ⟨same, kept⟩ := own state other input start all.1 whose
      rw [if_pos rfl, List.filter_cons_of_pos whose, answers, same]
      exact congrArg _ (ih kept all.2)
    | false =>
      rw [if_neg Bool.false_ne_true, List.filter_cons_of_neg (by simp [whose])]
      exact ih (foreign state other input start all.1 whose) all.2

theorem allowed_filter_iff (mine : Input → Bool) (first : State → Input → State)
    (second : Other → Input → Other) (related : State → Other → Prop)
    {allowed : State → Input → Prop} {permitted : Other → Input → Prop}
    (own : ∀ state other input, related state other → allowed state input → mine input = true →
      related (first state input) (second other input))
    (agree : ∀ state other input, related state other → mine input = true →
      (allowed state input ↔ permitted other input))
    (foreign : ∀ state other input, related state other → mine input = false →
      allowed state input ∧ related (first state input) other)
    {state : State} {other : Other} (start : related state other) (inputs : List Input) :
    Allowed first allowed state inputs ↔ Allowed second permitted other (inputs.filter mine) := by
  induction inputs generalizing state other with
  | nil => exact Iff.rfl
  | cons input rest ih =>
    cases whose : mine input with
    | true =>
      rw [List.filter_cons_of_pos whose, Allowed, Allowed, ← agree state other input start whose]
      exact and_congr_right fun permits => ih (own state other input start permits whose)
    | false =>
      have passed := foreign state other input start whose
      rw [List.filter_cons_of_neg (by simp [whose]), Allowed, ih passed.2]
      exact and_iff_right passed.1

end Onpremai.Library
