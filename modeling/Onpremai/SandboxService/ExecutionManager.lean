import Onpremai.Library.Machine
import Onpremai.Library.Semaphore
import Onpremai.SandboxService.ImportHook
import Onpremai.SandboxService.Preamble

/-!
# The execution manager

Executions of requests with a bounded number of slots and a bounded queue.  A step is what
happens between two suspensions of the event loop: a call comes, a task is cancelled while it
waits, a task goes on that has waited, an execution ends.  Only the download of files suspends an
execution; other steps may come in between here in any case.  `parse` is the parser of Python.
-/

namespace Onpremai.SandboxService

open Library

theorem FileReference.eq_iff {file other : FileReference} : file = other ↔
      file.storageKey = other.storageKey ∧ file.loadAs = other.loadAs ∧ file.type = other.type := by
  cases file
  cases other
  rw [FileReference.mk.injEq]

theorem ExecutionRequest.eq_iff {request other : ExecutionRequest} :
    request = other ↔ request.code = other.code ∧ request.files = other.files := by
  cases request
  cases other
  rw [ExecutionRequest.mk.injEq]

instance : DecidableEq FileReference := fun _ _ => decidable_of_iff _ FileReference.eq_iff.symm

instance : DecidableEq ExecutionRequest := fun _ _ =>
  decidable_of_iff _ ExecutionRequest.eq_iff.symm

/-- A call of `execute` with the memory limit of its request. -/
structure Execution where
  id : Nat
  request : ExecutionRequest
  memoryLimitMb : Nat
  deriving DecidableEq

structure ManagerSettings where
  maxConcurrentExecutions : Nat
  queueSize : Nat
  maxMemoryMb : Nat

structure DockerExecutionResult where
  exitCode : Int
  stdout : String
  stderr : String
  durationMs : Nat
  oomKilled : Bool
  timedOut : Bool

def DockerExecutionResult.success (result : DockerExecutionResult) : Bool :=
  result.exitCode == 0 && !result.timedOut && !result.oomKilled

structure ExecutionResult where
  success : Bool
  stdout : String
  stderr : String
  durationMs : Nat
  memoryUsedMb : Nat
  deriving DecidableEq, Repr

/-- How an execution ends once it has its slot. -/
inductive Outcome where
  | completed (dockerResult : DockerExecutionResult)
  | raised (error : String)
  | cancelled

/-- How a call ends. -/
inductive Ending where
  | returned (result : ExecutionResult)
  | queueFullError
  | raised (error : String)
  | cancelled
  deriving DecidableEq, Repr

structure ManagerState where
  semaphore : Semaphore Execution
  totalExecutions : Int := 0
  successful : Int := 0
  failed : Int := 0
  timeouts : List Int := []
  oomKills : List Int := []
  durations : List Nat := []
  active : Int := 0
  queued : Int := 0
  /-- The executions that have a slot. -/
  running : List Execution := []
  /-- The calls that have ended. -/
  ended : List (Execution × Ending) := []

def maxDurationHistory : Nat := 1000

inductive ManagerEvent where
  | call (execution : Execution)
  | cancel (execution : Execution)
  | resume (execution : Execution)
  /-- The execution ends at a time, in seconds. -/
  | finish (execution : Execution) (outcome : Outcome) (now : Int)

namespace ManagerState

variable (settings : ManagerSettings) (parse : String → Except SyntaxError (List AstNode))
  (state : ManagerState)

def init : ManagerState where
  semaphore := { value := settings.maxConcurrentExecutions }

/-- Check if both execution slots and queue are at capacity. -/
def isQueueFull : Bool := settings.queueSize ≤ state.queued

def start (execution : Execution) : ManagerState :=
  { state with
    active := state.active + 1
    totalExecutions := state.totalExecutions + 1
    running := state.running ++ [execution] }

/-- The answer to code with imports that are not allowed. -/
def blockedResult (violations : List String) : ExecutionResult where
  success := false
  stdout := ""
  stderr := Text.joinLines (violations.map ("ImportError: " ++ ·))
  durationMs := 0
  memoryUsedMb := 0

/-- `execute`, as far as it comes without waiting. -/
def execute (execution : Execution) : ManagerState :=
  let violations := checkCodeSafety (parse execution.request.code)
  if violations ≠ [] then
    { state with ended := state.ended ++ [(execution, .returned (blockedResult violations))] }
  else if state.isQueueFull settings then
    { state with ended := state.ended ++ [(execution, .queueFullError)] }
  else
    match state.semaphore.acquire execution with
    | (semaphore, true) => { state with semaphore, queued := state.queued + 1 - 1 }.start execution
    | (semaphore, false) => { state with semaphore, queued := state.queued + 1 }

/-- A task goes on that has waited for a slot. -/
def resume (execution : Execution) : ManagerState :=
  match state.semaphore.resume execution with
  | none => state
  | some (semaphore, true) =>
    { state with semaphore, queued := state.queued - 1 }.start execution
  | some (semaphore, false) =>
    { state with
      semaphore
      queued := state.queued - 1
      ended := state.ended ++ [(execution, .cancelled)] }

/-- The metrics after a run of the container. -/
def count (dockerResult : DockerExecutionResult) (now : Int) : ManagerState :=
  let timeouts := if dockerResult.timedOut then state.timeouts ++ [now] else state.timeouts
  let oomKills := if dockerResult.oomKilled then state.oomKills ++ [now] else state.oomKills
  let durations := state.durations ++ [dockerResult.durationMs]
  { state with
    successful := if dockerResult.success then state.successful + 1 else state.successful
    failed := if dockerResult.success then state.failed else state.failed + 1
    timeouts := timeouts.filter fun time => now - 7200 < time
    oomKills := oomKills.filter fun time => now - 7200 < time
    durations := durations.drop (durations.length - maxDurationHistory) }

/-- The answer after a run of the container. -/
def executionResult (execution : Execution) (dockerResult : DockerExecutionResult) :
    ExecutionResult where
  success := dockerResult.success
  stdout := dockerResult.stdout
  stderr := dockerResult.stderr
  durationMs := dockerResult.durationMs
  memoryUsedMb :=
    if dockerResult.oomKilled then min execution.memoryLimitMb settings.maxMemoryMb else 0

/-- The slot and the gauge are given back however an execution ends. -/
def leave (execution : Execution) (ending : Ending) : ManagerState :=
  { state with
    active := state.active - 1
    semaphore := state.semaphore.release
    running := state.running.erase execution
    ended := state.ended ++ [(execution, ending)] }

/-- An execution ends.  A cancellation is no `Exception`, so that it is not counted. -/
def finish (execution : Execution) (outcome : Outcome) (now : Int) : ManagerState :=
  match outcome with
  | .completed dockerResult =>
    (state.count dockerResult now).leave execution
      (.returned (executionResult settings execution dockerResult))
  | .raised error => { state with failed := state.failed + 1 }.leave execution (.raised error)
  | .cancelled => state.leave execution .cancelled

def step : ManagerEvent → ManagerState
  | .call execution => state.execute settings parse execution
  | .cancel execution => { state with semaphore := state.semaphore.cancel execution }
  | .resume execution => state.resume execution
  | .finish execution outcome now =>
    if execution ∈ state.running then state.finish settings execution outcome now else state

end ManagerState

end Onpremai.SandboxService
