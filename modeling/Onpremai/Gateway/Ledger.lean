import Mathlib.Algebra.BigOperators.Group.List.Basic
import Mathlib.Tactic.Ring
import Onpremai.Gateway.Interleaving

/-!
# Ledger of recorded costs

The spend that the tracker reports for a tenant moves with the costs that the
tenant's requests record, whatever else the gateway serves.
-/

namespace Onpremai.Gateway

open Onpremai.Library

def records (log : List Event) : List (Rat × Day) :=
  log.filterMap fun event =>
    match event with
    | .recorded costUsd day => some (costUsd, day)
    | _ => none

def recordedOn (day : Day) (log : List Event) : Rat :=
  ((records log).map fun record => if record.2 = day then record.1 else 0).sum

@[simp] theorem records_append (log events : List Event) :
    records (log ++ events) = records log ++ records events :=
  List.filterMap_append

@[simp] theorem recordedOn_append (day : Day) (log events : List Event) :
    recordedOn day (log ++ events) = recordedOn day log + recordedOn day events := by
  simp [recordedOn]

def System.total (amount : List Event → Rat) (system : System) (tenantId : String) : Rat :=
  (system.flights.map fun flight =>
    if flight.body.tenantId = tenantId then amount flight.log else 0).sum

def System.spend (system : System) (tenantId : String) : Rat :=
  system.shared.tracker.getDailySpend tenantId system.shared.today

theorem sum_map_set {α : Type} (amount : α → Rat) {items : List α} {index : Nat} {old : α}
    (found : items[index]? = some old) (new : α) :
    ((items.set index new).map amount).sum =
      (items.map amount).sum + (amount new - amount old) := by
  induction items generalizing index with
  | nil => simp at found
  | cons item rest ih =>
    cases index with
    | zero =>
      rw [List.getElem?_cons_zero, Option.some.injEq] at found
      rw [List.set_cons_zero, List.map_cons, List.map_cons, List.sum_cons, List.sum_cons, found]
      ring
    | succ index =>
      rw [List.getElem?_cons_succ] at found
      rw [List.set_cons_succ, List.map_cons, List.map_cons, List.sum_cons, List.sum_cons, ih found]
      ring

/-- What a move of a request does to the spend of today and of the days to come. -/
structure Charges (body : CompletionRequest) (shared after : Shared) (events : List Event) :
    Prop where
  today : after.today = shared.today
  spend : ∀ tenantId, after.tracker.getDailySpend tenantId shared.today =
    shared.tracker.getDailySpend tenantId shared.today +
      if body.tenantId = tenantId then recordedOn shared.today events else 0
  later : ∀ tenantId day, shared.today < day → shared.tracker.getDailySpend tenantId day = 0 →
    after.tracker.getDailySpend tenantId day = 0
  only : ∀ day, day ≠ shared.today → recordedOn day events = 0

theorem charges_nothing {body : CompletionRequest} {shared after : Shared} {events : List Event}
    (today : after.today = shared.today) (tracker : after.tracker = shared.tracker)
    (none : records events = []) : Charges body shared after events where
  today := today
  spend := by simp [tracker, recordedOn, none]
  later := by
    intro tenantId day ahead fresh
    rw [tracker]
    exact fresh
  only := by simp [recordedOn, none]

theorem charges_advances {app : AppState} {body : CompletionRequest} {shared after : Shared}
    {phase : Phase} {turn : Turn} (move : Advances app body shared phase turn after) :
    Charges body shared after turn.events := by
  cases move with
  | started roll =>
    exact {
      today := rfl
      spend := by
        intro tenantId
        rw [BudgetTracker.getDailySpend_incrementRequests]
        simp [tryTier, recordedOn, records]
      later := fun tenantId day ahead =>
        BudgetTracker.getDailySpend_incrementRequests_later ahead
      only := fun day other => rfl }
  | @recorded loop best =>
    exact {
      today := rfl
      spend := by
        intro tenantId
        rw [BudgetTracker.getDailySpend_recordCost]
        by_cases same : body.tenantId = tenantId
        · simp [recordedOn, records, same]
        · simp [same, Ne.symm same]
      later := fun tenantId day ahead fresh =>
        BudgetTracker.getDailySpend_recordCost_later ahead fresh _
      only := by
        intro day other
        simp [recordedOn, records, Ne.symm other] }
  | _ => exact charges_nothing rfl rfl rfl

namespace System

variable {app : AppState} {system : System}

theorem total_arrive {amount : List Event → Rat} (nothing : amount [] = 0)
    (body : CompletionRequest) (tenantId : String) :
    (system.step app (.arrive body)).total amount tenantId = system.total amount tenantId := by
  simp [total, step, nothing]

theorem total_resume {amount : List Event → Rat} {index : Nat} {flight : Flight}
    (found : system.flights[index]? = some flight) (outcome : Outcome) (tenantId : String) :
    (system.step app (.resume index outcome)).total amount tenantId = system.total amount tenantId +
        if flight.body.tenantId = tenantId then
          amount (flight.resume app system.shared outcome).log - amount flight.log
        else 0 := by
  rw [step_resume_of_some found, total, total, sum_map_set _ found]
  congr 1
  by_cases same : flight.body.tenantId = tenantId
  · simp [Flight.resume, same]
  · simp [Flight.resume, same]

theorem spend_step (app : AppState) (system : System) {move : Move} (sameDay : move ≠ .newDay) (tenantId : String) :
    (system.step app move).shared.today = system.shared.today ∧
      (system.step app move).spend tenantId -
          (system.step app move).total (recordedOn system.shared.today) tenantId =
        system.spend tenantId - system.total (recordedOn system.shared.today) tenantId := by
  cases move with
  | arrive body =>
    rw [total_arrive rfl]
    exact ⟨rfl, rfl⟩
  | resume index outcome =>
    cases found : system.flights[index]? with
    | none =>
      rw [step_resume_of_none found]
      exact ⟨rfl, rfl⟩
    | some flight =>
      have charges := charges_advances
        (advance_advances app flight.body system.shared outcome flight.phase)
      have today : (system.step app (.resume index outcome)).shared.today =
          system.shared.today := by
        rw [step_resume_of_some found]
        exact charges.today
      have spend : (system.step app (.resume index outcome)).spend tenantId =
          system.spend tenantId + if flight.body.tenantId = tenantId then
            recordedOn system.shared.today
              (advance app flight.body system.shared outcome flight.phase).1.events
            else 0 := by
        rw [System.spend, today, step_resume_of_some found]
        exact charges.spend tenantId
      refine ⟨today, ?_⟩
      rw [spend, total_resume found, Flight.resume, recordedOn_append]
      split <;> ring
  | newDay => exact absurd rfl sameDay

/-- The tracker reports for every tenant what its requests recorded today, and
nothing yet for the days to come. -/
structure Balanced (system : System) : Prop where
  spend : ∀ tenantId, system.spend tenantId = system.total (recordedOn system.shared.today) tenantId
  fresh : ∀ tenantId day, system.shared.today < day →
    system.shared.tracker.getDailySpend tenantId day = 0
  past : ∀ flight ∈ system.flights, ∀ day, system.shared.today < day → recordedOn day flight.log = 0

theorem balanced_connect (reachable : Bool) (levels : TenantLevels) (today : Day) :
    Balanced { shared := { tracker := .connect reachable, levels, today } } where
  spend := fun tenantId => BudgetTracker.getDailySpend_connect reachable tenantId today
  fresh := fun tenantId day _ => BudgetTracker.getDailySpend_connect reachable tenantId day
  past := by simp

theorem Balanced.resume (balanced : Balanced system) (index : Nat) (outcome : Outcome) :
    Balanced (system.step app (.resume index outcome)) := by
  have sameDay : Move.resume index outcome ≠ .newDay := by simp
  have steps := spend_step app system sameDay
  cases found : system.flights[index]? with
  | none =>
    rw [step_resume_of_none found]
    exact balanced
  | some flight =>
    have charges := charges_advances
      (advance_advances app flight.body system.shared outcome flight.phase)
    have today := (steps "").1
    refine ⟨?_, ?_, ?_⟩
    · intro tenantId
      have moved := (steps tenantId).2
      rw [balanced.spend, sub_self, sub_eq_zero] at moved
      rw [moved, today]
    · intro tenantId day ahead
      rw [today] at ahead
      rw [step_resume_of_some found]
      exact charges.later tenantId day ahead (balanced.fresh tenantId day ahead)
    · intro other member day ahead
      rw [today] at ahead
      rw [step_resume_of_some found] at member
      rcases List.mem_or_eq_of_mem_set member with old | new
      · exact balanced.past other old day ahead
      · rw [new, Flight.resume, recordedOn_append,
          balanced.past flight (List.mem_of_getElem? found) day ahead,
          charges.only day (Nat.ne_of_gt ahead), add_zero]

theorem Balanced.newDay (balanced : Balanced system) :
    Balanced (system.step app .newDay) where
  spend := by
    intro tenantId
    have tomorrow : system.shared.today < system.shared.today + 1 := Nat.lt_succ_self _
    have nothing : (system.step app .newDay).total
        (recordedOn (system.shared.today + 1)) tenantId = 0 := by
      apply List.sum_eq_zero
      intro amount member
      rcases List.mem_map.mp member with ⟨flight, flightMember, amountEq⟩
      rw [← amountEq, balanced.past flight flightMember _ tomorrow, ite_self]
    exact (balanced.fresh tenantId _ tomorrow).trans nothing.symm
  fresh := fun tenantId day ahead =>
    balanced.fresh tenantId day (Nat.lt_of_succ_lt ahead)
  past := fun flight member day ahead =>
    balanced.past flight member day (Nat.lt_of_succ_lt ahead)

theorem Balanced.step (balanced : Balanced system) (move : Move) :
    Balanced (system.step app move) := by
  cases move with
  | arrive body =>
    refine ⟨?_, balanced.fresh, ?_⟩
    · intro tenantId
      rw [total_arrive rfl]
      exact balanced.spend tenantId
    · intro flight member day ahead
      rcases List.mem_append.mp member with old | new
      · exact balanced.past flight old day ahead
      · rw [List.mem_singleton.mp new]
        rfl
  | resume index outcome => exact balanced.resume index outcome
  | newDay => exact balanced.newDay

theorem spend_run (app : AppState) (reachable : Bool) (levels : TenantLevels) (today : Day)
    (moves : List Move) (tenantId : String) :
    let system := run (step app) { shared := { tracker := .connect reachable, levels, today } } moves
    system.spend tenantId = system.total (recordedOn system.shared.today) tenantId := by
  have balanced := run_always (step app) Balanced
    (fun _ move balanced => balanced.step move) (balanced_connect reachable levels today) moves
  exact balanced.spend tenantId

end System

end Onpremai.Gateway
