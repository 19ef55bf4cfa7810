import Onpremai.Gateway.Completion
import Onpremai.Library.Machine

/-!
# Interleaved requests

The gateway serves many requests at once.  They share the tracker, the levels and
the clock, and any one of them may move next.
-/

namespace Onpremai.Gateway

open Onpremai.Library

/-- A request under way. -/
structure Flight where
  body : CompletionRequest
  phase : Phase := .reading
  log : List Event := []
  deriving DecidableEq

namespace Flight

variable (app : AppState) (shared : Shared) (outcome : Outcome) (flight : Flight)

/-- The request after its await came back. -/
def resume : Flight :=
  let turn := (advance app flight.body shared outcome flight.phase).1
  { flight with phase := turn.phase, log := flight.log ++ turn.events }

/-- What the request leaves of the shared state. -/
def share : Shared := (advance app flight.body shared outcome flight.phase).2

/-- The request has been answered. -/
def isAnswered : Bool :=
  match flight.phase with
  | .answered _ => true
  | _ => false

end Flight

theorem isAnswered_iff {flight : Flight} :
    flight.isAnswered = true ↔ ∃ answer, flight.phase = .answered answer := by
  rw [Flight.isAnswered]
  cases flight.phase <;> simp

/-- All requests so far, in the order they arrived. -/
structure System where
  shared : Shared := {}
  flights : List Flight := []

/-- What may happen next. -/
inductive Move where
  | arrive (body : CompletionRequest)
  | resume (index : Nat) (outcome : Outcome)
  | newDay

namespace System

def step (app : AppState) (system : System) : Move → System
  | .arrive body => { system with flights := system.flights ++ [{ body }] }
  | .resume index outcome =>
    match system.flights[index]? with
    | none => system
    | some flight =>
      { shared := flight.share app system.shared outcome
        flights := system.flights.set index (flight.resume app system.shared outcome) }
  | .newDay => { system with shared := { system.shared with today := system.shared.today + 1 } }

variable {app : AppState} {system : System}

theorem step_resume_of_some {index : Nat} {flight : Flight}
    (found : system.flights[index]? = some flight) (outcome : Outcome) :
    system.step app (.resume index outcome) =
      { shared := flight.share app system.shared outcome
        flights := system.flights.set index (flight.resume app system.shared outcome) } := by
  simp only [step, found]

theorem step_resume_of_none {index : Nat} (missing : system.flights[index]? = none)
    (outcome : Outcome) : system.step app (.resume index outcome) = system := by
  simp only [step, missing]

theorem flights_invariant (app : AppState)
    (holds : CompletionRequest → Phase → List Event → Prop)
    (fresh : ∀ body, holds body .reading [])
    (kept : ∀ body shared phase turn after log, Advances app body shared phase turn after →
      holds body phase log → holds body turn.phase (log ++ turn.events))
    (system : System)
    (start : ∀ flight ∈ system.flights, holds flight.body flight.phase flight.log)
    (moves : List Move) :
    ∀ flight ∈ (run (step app) system moves).flights,
      holds flight.body flight.phase flight.log := by
  apply run_always (step app) fun system => ∀ flight ∈ system.flights,
    holds flight.body flight.phase flight.log
  · intro state move every
    cases move with
    | arrive body =>
      intro flight member
      rcases List.mem_append.mp member with old | new
      · exact every flight old
      · rw [List.mem_singleton.mp new]
        exact fresh body
    | resume index outcome =>
      cases found : state.flights[index]? with
      | none =>
        rw [step_resume_of_none found]
        exact every
      | some resumed =>
        rw [step_resume_of_some found]
        intro flight member
        rcases List.mem_or_eq_of_mem_set member with old | new
        · exact every flight old
        · rw [new]
          apply kept _ _ _ _ _ _ (advance_advances app resumed.body state.shared outcome _)
          exact every resumed (List.mem_of_getElem? found)
    | newDay => exact every
  · exact start

end System

section Alone

variable (app : AppState)

/-- One move of a request that runs by itself. -/
def serve (state : Shared × Flight) (outcome : Outcome) : Shared × Flight :=
  (state.2.share app state.1 outcome, state.2.resume app state.1 outcome)

/-- A request that runs by itself on what its awaits come back with. -/
def complete (shared : Shared) (body : CompletionRequest) (outcomes : List Outcome) :
    Shared × Flight :=
  run (serve app) (shared, { body }) outcomes

theorem run_resume_alone (shared : Shared) (flight : Flight) (outcomes : List Outcome) :
    run (System.step app) { shared, flights := [flight] } (outcomes.map (.resume 0)) =
      { shared := (run (serve app) (shared, flight) outcomes).1
        flights := [(run (serve app) (shared, flight) outcomes).2] } := by
  induction outcomes generalizing shared flight with
  | nil => rfl
  | cons outcome rest ih =>
    rw [List.map_cons, run_cons, run_cons]
    exact ih (flight.share app shared outcome) (flight.resume app shared outcome)

theorem run_complete (shared : Shared) (body : CompletionRequest) (outcomes : List Outcome) :
    run (System.step app) { shared } (.arrive body :: outcomes.map (.resume 0)) =
      { shared := (complete app shared body outcomes).1
        flights := [(complete app shared body outcomes).2] } := by
  rw [run_cons]
  exact run_resume_alone app shared { body } outcomes

end Alone

end Onpremai.Gateway
