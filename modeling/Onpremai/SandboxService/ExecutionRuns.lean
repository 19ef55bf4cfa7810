import Onpremai.SandboxService.ExecutionManager

/-!
# Runs of the execution manager

Over any run, the slots are never exceeded, the queue neither, and the gauges are what they
measure.  The executions add up unless one is cancelled while it runs, and a request is rejected
with a free slot where the queue is counted as full all the same.
-/

namespace Onpremai.SandboxService

open Library

namespace ManagerState

variable {settings : ManagerSettings} {parse : String → Except SyntaxError (List AstNode)}
  {state : ManagerState} {execution : Execution} {event : ManagerEvent}

/-- The gauges are what they measure, and the slots are all accounted for. -/
structure Accounted (settings : ManagerSettings) (state : ManagerState) : Prop where
  slots : state.semaphore.slots + state.running.length = settings.maxConcurrentExecutions
  queued : state.queued = state.semaphore.waiters.length
  bounded : state.queued ≤ settings.queueSize
  active : state.active = state.running.length

theorem accounted_init : Accounted settings (init settings) where
  slots := rfl
  queued := rfl
  bounded := Int.natCast_nonneg _
  active := rfl

def Balanced (state : ManagerState) : Prop :=
  state.totalExecutions = state.successful + state.failed + state.active

theorem execute_cases (settings : ManagerSettings)
    (parse : String → Except SyntaxError (List AstNode)) (state : ManagerState)
    (execution : Execution) :
    (∃ ending, state.execute settings parse execution =
        { state with ended := state.ended ++ [(execution, ending)] } ∧
      (ending = .queueFullError ↔
        checkCodeSafety (parse execution.request.code) = [] ∧ state.isQueueFull settings = true)) ∨
    (state.isQueueFull settings = false ∧ ((∃ semaphore, state.execute settings parse execution =
          { state with semaphore, queued := state.queued + 1 - 1 }.start execution ∧
          semaphore.slots + 1 = state.semaphore.slots ∧
          semaphore.waiters = state.semaphore.waiters) ∨
        ∃ semaphore, state.execute settings parse execution =
          { state with semaphore, queued := state.queued + 1 } ∧
          semaphore.slots = state.semaphore.slots ∧
          semaphore.waiters.length = state.semaphore.waiters.length + 1)) := by
  rw [execute]
  by_cases safe : checkCodeSafety (parse execution.request.code) = []
  · rw [if_neg (not_not.mpr safe)]
    cases full : state.isQueueFull settings with
    | true => exact .inl ⟨.queueFullError, rfl, by simp [safe]⟩
    | false =>
      refine .inr ⟨rfl, ?_⟩
      obtain ⟨semaphore, taken, slots, waiters⟩ | ⟨semaphore, waits, slots, waiters⟩ :=
        state.semaphore.acquire_cases execution
      · rw [taken]
        exact .inl ⟨semaphore, rfl, slots, waiters⟩
      · rw [waits]
        exact .inr ⟨semaphore, rfl, slots, waiters⟩
  · rw [if_pos safe]
    exact .inl ⟨_, rfl, by simp [safe]⟩

theorem accounted_leave {ending : Ending} (accounted : Accounted settings state)
    (isRunning : execution ∈ state.running) :
    Accounted settings (state.leave execution ending) := by
  obtain ⟨slots, queued, bounded, active⟩ := accounted
  have fewer := List.length_erase_of_mem isRunning
  have some := List.length_pos_of_mem isRunning
  refine ⟨?_, ?_, bounded, ?_⟩
  · rw [leave, Semaphore.slots_release, fewer]
    omega
  · rw [leave, Semaphore.length_release]
    exact queued
  · change state.active - 1 = ((state.running.erase execution).length : Int)
    omega

theorem accounted_finish {outcome : Outcome} {now : Int} (accounted : Accounted settings state)
    (isRunning : execution ∈ state.running) :
    Accounted settings (state.finish settings execution outcome now) := by
  cases outcome with
  | completed dockerResult =>
    have counted : Accounted settings (state.count dockerResult now) :=
      ⟨accounted.slots, accounted.queued, accounted.bounded, accounted.active⟩
    exact accounted_leave counted isRunning
  | raised error =>
    have counted : Accounted settings { state with failed := state.failed + 1 } :=
      ⟨accounted.slots, accounted.queued, accounted.bounded, accounted.active⟩
    exact accounted_leave counted isRunning
  | cancelled => exact accounted_leave accounted isRunning

theorem accounted_step (accounted : Accounted settings state) :
    Accounted settings (state.step settings parse event) := by
  obtain ⟨slots, queued, bounded, active⟩ := accounted
  cases event with
  | call execution =>
    rw [step]
    obtain ⟨ending, same, -⟩ | ⟨notFull, ⟨semaphore, same, taken, waiters⟩ |
      ⟨semaphore, same, kept, waiters⟩⟩ := execute_cases settings parse state execution
    · rw [same]
      exact ⟨slots, queued, bounded, active⟩
    · rw [same]
      refine ⟨?_, ?_, ?_, ?_⟩ <;> simp only [start, List.length_append, List.length_singleton]
      · omega
      · rw [waiters]
        omega
      · omega
      · omega
    · rw [isQueueFull, decide_eq_false_iff_not] at notFull
      rw [same]
      refine ⟨?_, ?_, ?_, active⟩
      · simp only [kept]
        exact slots
      · simp only [waiters]
        omega
      · simp only
        omega
  | cancel execution =>
    refine ⟨?_, ?_, bounded, active⟩
    · rw [step, Semaphore.slots_cancel]
      exact slots
    · rw [step, Semaphore.length_cancel]
      exact queued
  | resume execution =>
    rw [step, resume]
    cases result : state.semaphore.resume execution with
    | none => exact ⟨slots, queued, bounded, active⟩
    | some next =>
      obtain ⟨semaphore, acquired⟩ := next
      obtain ⟨fewer, same⟩ := Semaphore.resume_cases result
      cases acquired with
      | true =>
        refine ⟨?_, ?_, ?_, ?_⟩ <;>
          simp only [start, List.length_append, List.length_singleton, Bool.toNat_true]
            at same ⊢ <;> omega
      | false =>
        refine ⟨?_, ?_, ?_, active⟩ <;> simp only [Bool.toNat_false] at same ⊢ <;> omega
  | finish execution outcome now =>
    rw [step]
    split
    · next isRunning => exact accounted_finish ⟨slots, queued, bounded, active⟩ isRunning
    · exact ⟨slots, queued, bounded, active⟩

/-- What is promised of every state: the limits are kept, the executions add up, and nothing
is counted as active or queued when all calls have ended. -/
structure Orderly (settings : ManagerSettings) (state : ManagerState) : Prop where
  concurrent : state.running.length ≤ settings.maxConcurrentExecutions
  waiting : state.semaphore.waiters.length ≤ settings.queueSize
  balanced : Balanced state
  gauges : state.running = [] → state.semaphore.waiters = [] → state.active = 0 ∧ state.queued = 0

theorem orderly_iff (accounted : Accounted settings state) :
    Orderly settings state ↔ Balanced state := by
  obtain ⟨slots, queued, bounded, active⟩ := accounted
  constructor
  · exact Orderly.balanced
  · intro balanced
    refine ⟨by omega, by omega, balanced, fun noneRuns noneWaits => ?_⟩
    rw [active, queued, noneRuns, noneWaits]
    exact ⟨rfl, rfl⟩

def Rejects (settings : ManagerSettings) (parse : String → Except SyntaxError (List AstNode))
    (state : ManagerState) (event : ManagerEvent) : Prop :=
  ∃ execution, event = .call execution ∧
    (state.step settings parse event).ended = state.ended ++ [(execution, .queueFullError)]

def AtCapacity (settings : ManagerSettings) (state : ManagerState) : Prop :=
  state.semaphore.value = 0 ∧ (settings.queueSize : Int) ≤ state.queued

theorem rejects_call_iff : Rejects settings parse state (.call execution) ↔
    checkCodeSafety (parse execution.request.code) = [] ∧ state.isQueueFull settings = true := by
  have longer (entry : Execution × Ending) : state.ended ≠ state.ended ++ [entry] := by
    intro same
    have lengths := congrArg List.length same
    rw [List.length_append, List.length_singleton] at lengths
    omega
  obtain ⟨ending, same, isFull⟩ | ⟨notFull, ⟨semaphore, same, -, -⟩ | ⟨semaphore, same, -, -⟩⟩ :=
    execute_cases settings parse state execution
  · rw [← isFull, Rejects, step, same]
    constructor
    · intro rejected
      obtain ⟨other, isCall, ended⟩ := rejected
      cases isCall
      have entries := List.append_cancel_left ended
      exact (Prod.mk.inj (List.singleton_inj.mp entries)).2
    · intro isError
      exact ⟨execution, rfl, by rw [isError]⟩
  · refine iff_of_false ?_ (by rw [notFull]; exact fun both => absurd both.2 Bool.false_ne_true)
    intro rejected
    obtain ⟨other, -, ended⟩ := rejected
    rw [step, same] at ended
    exact longer _ ended
  · refine iff_of_false ?_ (by rw [notFull]; exact fun both => absurd both.2 Bool.false_ne_true)
    intro rejected
    obtain ⟨other, -, ended⟩ := rejected
    rw [step, same] at ended
    exact longer _ ended

def Uncancelled (state : ManagerState) : ManagerEvent → Prop
  | .finish execution .cancelled _ => execution ∉ state.running
  | _ => True

def Admissible (settings : ManagerSettings) (parse : String → Except SyntaxError (List AstNode))
    (state : ManagerState) : ManagerEvent → Prop
  | .call execution =>
    checkCodeSafety (parse execution.request.code) = [] → 0 < state.semaphore.value →
      state.isQueueFull settings = false
  | _ => True

theorem balanced_step_iff (balanced : Balanced state) :
    Balanced (state.step settings parse event) ↔ Uncancelled state event := by
  rw [Balanced] at balanced
  cases event with
  | call execution =>
    refine iff_of_true ?_ trivial
    rw [step]
    obtain ⟨ending, same, -⟩ | ⟨-, ⟨semaphore, same, -, -⟩ | ⟨semaphore, same, -, -⟩⟩ :=
      execute_cases settings parse state execution <;> rw [same]
    · exact balanced
    · simp only [Balanced, start]
      omega
    · exact balanced
  | cancel execution => exact iff_of_true balanced trivial
  | resume execution =>
    refine iff_of_true ?_ trivial
    rw [step, resume]
    cases result : state.semaphore.resume execution with
    | none => exact balanced
    | some next =>
      obtain ⟨semaphore, acquired⟩ := next
      cases acquired with
      | true =>
        simp only [Balanced, start]
        omega
      | false => exact balanced
  | finish execution outcome now =>
    rw [step]
    cases outcome with
    | completed dockerResult =>
      refine iff_of_true ?_ trivial
      split
      · simp only [Balanced, finish, leave, count]
        split <;> omega
      · exact balanced
    | raised error =>
      refine iff_of_true ?_ trivial
      split
      · simp only [Balanced, finish, leave]
        omega
      · exact balanced
    | cancelled =>
      rw [Uncancelled]
      split
      · next isRunning =>
        refine iff_of_false ?_ (not_not.mpr isRunning)
        simp only [Balanced, finish, leave]
        omega
      · next notRunning => exact iff_of_true balanced notRunning

theorem admissible_iff : (Rejects settings parse state event → AtCapacity settings state) ↔
      Admissible settings parse state event := by
  cases event with
  | call execution =>
    rw [rejects_call_iff, Admissible, AtCapacity, isQueueFull, decide_eq_true_iff,
      decide_eq_false_iff_not]
    constructor
    · intro due safe free full
      exact absurd (due ⟨safe, full⟩).1 (by omega)
    · intro admissible both
      refine ⟨?_, both.2⟩
      by_contra free
      exact admissible both.1 (by omega) both.2
  | cancel execution | resume execution | finish execution outcome now =>
    refine iff_of_true (fun rejected => ?_) trivial
    obtain ⟨other, isCall, -⟩ := rejected
    cases isCall

/-- The promises hold in every state of a run, and every rejection is due, exactly when no
execution is cancelled while it runs and no allowed call meets a free slot and a queue that
counts as full. -/
theorem run_orderly_iff (settings : ManagerSettings)
    (parse : String → Except SyntaxError (List AstNode)) (events : List ManagerEvent) :
    (∀ earlier later, events = earlier ++ later →
        Orderly settings (run (step settings parse) (init settings) earlier)) ∧
      (∀ earlier event later, events = earlier ++ event :: later →
        Rejects settings parse (run (step settings parse) (init settings) earlier) event →
          AtCapacity settings (run (step settings parse) (init settings) earlier)) ↔
    Allowed (step settings parse)
      (fun state event => Uncancelled state event ∧ Admissible settings parse state event)
      (init settings) events := by
  have start : Orderly settings (init settings) := (orderly_iff accounted_init).mpr rfl
  rw [allowed_and]
  apply and_congr
  · apply passed_supported_iff (step settings parse) (Accounted settings) (Orderly settings)
    · intro state event accounted orderly
      rw [orderly_iff (accounted_step accounted)]
      exact balanced_step_iff orderly.balanced
    · exact fun state event accounted _ _ => accounted_step accounted
    · exact accounted_init
    · exact start
  · rw [allowed_iff_passed]
    exact forall₄_congr fun earlier event later _ => admissible_iff

/-- A request that loads a file, so that it can be cancelled while it runs. -/
def loadReport : Execution where
  id := 1
  request :=
    { code := "print(df)"
      files :=
        [{ storageKey := "acme/report.csv", loadAs := "df", type := .csv,
           keyNonempty := by decide, noTraversal := by decide, notAbsolute := by decide,
           noNull := by decide, identifier := by decide, nameLength := by decide }]
      codeNonempty := by decide, codeLength := by decide, distinct := by decide }
  memoryLimitMb := 512

/-- Without a queue every request is rejected, also with a free slot; and a cancelled execution
is counted as started but never as ended. -/
theorem lone_request_rejected_and_cancelled_lost :
    (Rejects ⟨1, 0, 2048⟩ (fun _ => .ok []) (init ⟨1, 0, 2048⟩) (.call loadReport) ∧
      ¬ AtCapacity ⟨1, 0, 2048⟩ (init ⟨1, 0, 2048⟩)) ∧
    ¬ Balanced (run (step ⟨1, 1, 2048⟩ fun _ => .ok []) (init ⟨1, 1, 2048⟩)
      [.call loadReport, .finish loadReport .cancelled 0]) := by
  refine ⟨⟨⟨loadReport, rfl, rfl⟩, fun capacity => absurd capacity.1 (by decide)⟩, ?_⟩
  intro balanced
  rw [Balanced] at balanced
  revert balanced
  decide

end ManagerState

end Onpremai.SandboxService
