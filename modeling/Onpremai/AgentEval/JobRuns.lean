import Onpremai.AgentEval.Jobs
import Onpremai.Library.Machine

/-!
# Jobs over time

Background tasks, polls, calls of the state store that are answered or fail, shutdowns and
restarts, in any order.  The store is only ever asked by paths that it does not serve, so what
it holds for a job never becomes known to it.
-/

namespace Onpremai.AgentEval

open Onpremai.Library Onpremai.MemoryService

/-- A call that is on its way, with the reply once the service has acted on it. -/
structure Call where
  request : JobRequest
  reply : Option JobReply := none

/-- Where a background task is. -/
inductive TaskStage where
  | waiting
  | evaluating
  | reporting (result : EvalResult) (call : Call)
  | storing (call : Call)
  | failing (call : Call)

/-- What a poll waits for. -/
inductive PollStage where
  | status (jobId : JobId) (call : Call)
  | result (status : JobStatus) (call : Call)

/-- The agent and the jobs table.  The last fields record what has happened so far: the ids
that were drawn, those that were given out, the results that evaluations returned, the tasks
that ended, and the statuses that polls were answered with. -/
structure EvalService where
  manager : JobManager
  starting : Dict JobId Call := Dict.empty
  tasks : Dict JobId TaskStage := Dict.empty
  polls : Dict Nat PollStage := Dict.empty
  closing : Bool := false
  jobs : Jobs := Dict.empty
  drawn : List JobId := []
  issued : List JobId := []
  returned : List (JobId × EvalResult) := []
  ended : List JobId := []
  told : List JobStatus := []

/-- Who waits for a call. -/
inductive Caller where
  | start (jobId : JobId)
  | task (jobId : JobId)
  | poll (number : Nat)

/-- What happens in the agent, to one job at a time. -/
inductive JobAction where
  | draw (jobId : JobId) (tenantId controlId framework now : String)
  | launch (jobId : JobId)
  | acquire (jobId : JobId)
  | finish (jobId : JobId) (outcome : Except String EvalResult) (now : String)
  | deliver (caller : Caller) (now : String)
  | resume (jobId : JobId)
  | poll (number : Nat) (jobId : JobId) (now : String)
  | hear (number : Nat) (heard : Bool) (now : String)
  | shutdown
  | cancel (jobId : JobId)
  | restart

namespace Call

/-- A call that the service has not yet seen. -/
def send (request : JobRequest) : Call := { request }

/-- The service acts on a call, once. -/
def deliver (validate : Option (String → String → Bool)) (now : String) (jobs : Jobs)
    (call : Call) : Jobs × Call :=
  match call.reply with
  | some _ => (jobs, call)
  | none =>
    let served := serveJobs validate now jobs call.request
    (served.1, { call with reply := some served.2 })

end Call

namespace TaskStage

def call? : TaskStage → Option Call
  | .waiting | .evaluating => none
  | .reporting _ call | .storing call | .failing call => some call

def setCall (call : Call) : TaskStage → TaskStage
  | .waiting => .waiting
  | .evaluating => .evaluating
  | .reporting result _ => .reporting result call
  | .storing _ => .storing call
  | .failing _ => .failing call

theorem call?_setCall {stage : TaskStage} {before : Call} (waits : stage.call? = some before)
    (call : Call) : (stage.setCall call).call? = some call := by
  cases stage with
  | waiting => cases waits
  | evaluating => cases waits
  | reporting result other => rfl
  | storing other => rfl
  | failing other => rfl

end TaskStage

namespace PollStage

def jobId : PollStage → JobId
  | .status jobId _ => jobId
  | .result found _ => found.jobId

def call : PollStage → Call
  | .status _ call | .result _ call => call

def setCall (call : Call) : PollStage → PollStage
  | .status jobId _ => .status jobId call
  | .result found _ => .result found call

end PollStage

namespace EvalService

variable (model : EvalResultModel) (validate : Option (String → String → Bool))
  (service : EvalService)

/-- `start_job` up to its call: a new id, and the status of a job that is processed. -/
def draw (jobId : JobId) (tenantId controlId framework now : String) : EvalService :=
  if jobId ∈ service.drawn then service
  else { service with
    drawn := service.drawn ++ [jobId]
    starting := service.starting.set jobId (.send (StateClient.setJobStatus jobId .processing
      (.obj [("tenant_id", .str tenantId), ("control_id", .str controlId),
        ("framework", .str framework), ("started_at", .str now)]))) }

/-- `start_job` after its call, whatever became of it. -/
def launch (jobId : JobId) : EvalService :=
  match service.starting.get? jobId with
  | none => service
  | some _ => { service with
      starting := service.starting.erase jobId
      tasks := service.tasks.set jobId .waiting
      manager := { service.manager with
        activeTasks := service.manager.activeTasks ++ [jobId] }
      issued := service.issued ++ [jobId] }

/-- Number of tasks that hold the semaphore. -/
def running : Nat :=
  service.tasks.values.countP fun stage =>
    match stage with
    | .waiting => false
    | _ => true

/-- A task enters the semaphore. -/
def acquire (jobId : JobId) : EvalService :=
  match service.tasks.get? jobId with
  | some .waiting =>
    if service.running < service.manager.maxConcurrent then
      { service with tasks := service.tasks.set jobId .evaluating }
    else service
  | _ => service

def finish (jobId : JobId) (outcome : Except String EvalResult) (now : String) : EvalService :=
  match service.tasks.get? jobId with
  | some .evaluating =>
    match outcome with
    | .ok result => { service with
        manager := { service.manager with
          results := service.manager.results.set jobId (some result) }
        tasks := service.tasks.set jobId (.reporting result (.send
          (StateClient.setJobStatus jobId .completed (.obj [("completed_at", .str now)]))))
        returned := service.returned ++ [(jobId, result)] }
    | .error message => { service with
        manager := { service.manager with errors := service.manager.errors.set jobId message }
        tasks := service.tasks.set jobId (.failing (.send (StateClient.setJobStatus jobId .failed
          (.obj [("error", .str message), ("failed_at", .str now)])))) }
  | _ => service

def deliver (caller : Caller) (now : String) : EvalService :=
  match caller with
  | .start jobId =>
    match service.starting.get? jobId with
    | none => service
    | some call =>
      let served := call.deliver validate now service.jobs
      { service with
        jobs := served.1, starting := service.starting.set jobId served.2 }
  | .task jobId =>
    match service.tasks.get? jobId with
    | none => service
    | some stage =>
      match stage.call? with
      | none => service
      | some call =>
        let served := call.deliver validate now service.jobs
        { service with
          jobs := served.1, tasks := service.tasks.set jobId (stage.setCall served.2) }
  | .poll number =>
    match service.polls.get? number with
    | none => service
    | some stage =>
      let served := stage.call.deliver validate now service.jobs
      { service with
        jobs := served.1, polls := service.polls.set number (stage.setCall served.2) }

def endTask (jobId : JobId) : EvalService :=
  { service with
    tasks := service.tasks.erase jobId
    manager := { service.manager with
      activeTasks := service.manager.activeTasks.filter fun other => decide (other ≠ jobId) }
    ended := service.ended ++ [jobId] }

/-- A task goes on after its call.  What the call returned is not read, and an exception of
the call is a return of it. -/
def resume (jobId : JobId) : EvalService :=
  match service.tasks.get? jobId with
  | some (.reporting result _) => { service with
      tasks := service.tasks.set jobId (.storing (.send
        (StateClient.setJobResult jobId (model.dump result)))) }
  | some (.storing _) => service.endTask jobId
  | some (.failing _) => service.endTask jobId
  | _ => service

def tell (status : JobStatus) : EvalService := { service with told := service.told ++ [status] }

/-- `get_status` up to its first call.  A job is polled by the id that its start was answered
with. -/
def poll (number : Nat) (jobId : JobId) (now : String) : EvalService :=
  if jobId ∈ service.issued then
    match service.polls.get? number with
    | some _ => service
    | none =>
      match service.manager.inMemory now jobId with
      | some status => service.tell status
      | none => { service with
          polls := service.polls.set number (.status jobId (.send
            (StateClient.getJobStatus jobId))) }
  else service

/-- `get_status` after a call, whose reply may be lost. -/
def hear (number : Nat) (heard : Bool) (now : String) : EvalService :=
  let answered (call : Call) : Option Json := StateClient.read (if heard then call.reply else none)
  let closed := { service with polls := service.polls.erase number }
  match service.polls.get? number with
  | none => service
  | some (.status jobId call) =>
    match JobManager.recollect now jobId (answered call) with
    | .answers status => closed.tell status
    | .raises _ => closed
    | .asksResult status => { service with
        polls := service.polls.set number (.result status (.send
          (StateClient.getJobResult jobId))) }
  | some (.result status call) =>
    match JobManager.withResult model status (answered call) with
    | .ok status => closed.tell status
    | .error _ => closed

/-- A pending task is cancelled in a shutdown.  Where it waits for the semaphore it has not
entered the block that takes it off the active ones. -/
def cancel (jobId : JobId) : EvalService :=
  if service.closing then
    match service.tasks.get? jobId with
    | none => service
    | some .waiting => { service with
        tasks := service.tasks.erase jobId, ended := service.ended ++ [jobId] }
    | some _ => service.endTask jobId
  else service

/-- A new process, with the same jobs table. -/
def restart : EvalService :=
  { service with
    manager := { maxConcurrent := service.manager.maxConcurrent }
    starting := Dict.empty, tasks := Dict.empty, polls := Dict.empty, closing := false }

def step : JobAction → EvalService
  | .draw jobId tenantId controlId framework now =>
    service.draw jobId tenantId controlId framework now
  | .launch jobId => service.launch jobId
  | .acquire jobId => service.acquire jobId
  | .finish jobId outcome now => service.finish jobId outcome now
  | .deliver caller now => service.deliver validate caller now
  | .resume jobId => service.resume model jobId
  | .poll number jobId now => service.poll number jobId now
  | .hear number heard now => service.hear model number heard now
  | .shutdown => { service with closing := true }
  | .cancel jobId => service.cancel jobId
  | .restart => service.restart

/-- A fresh agent beside an empty jobs table. -/
def startup (maxConcurrent : Nat) : EvalService := { manager := { maxConcurrent } }

end EvalService

/-- A call that no route of the memory service takes; its reply says so. -/
structure Call.Astray (call : Call) : Prop where
  unrouted : jobRoute call.request.method call.request.path = .none
  notRouted : ∀ reply ∈ call.reply, reply = .notRouted

namespace Call

theorem send_astray {request : JobRequest}
    (unrouted : jobRoute request.method request.path = .none) : (send request).Astray :=
  ⟨unrouted, fun _ none => absurd none (Option.not_mem_none _)⟩

theorem setJobStatus_astray (jobId : JobId) (status : JobStatusEnum) (data : Json) :
    (send (StateClient.setJobStatus jobId status data)).Astray :=
  send_astray (jobRoute_path .put jobId (.inl rfl))

theorem getJobStatus_astray (jobId : JobId) : (send (StateClient.getJobStatus jobId)).Astray :=
  send_astray (jobRoute_path .get jobId (.inl rfl))

theorem setJobResult_astray (jobId : JobId) (result : Json) :
    (send (StateClient.setJobResult jobId result)).Astray :=
  send_astray (jobRoute_path .put jobId (.inr rfl))

variable {call : Call} (validate : Option (String → String → Bool)) (now : String) (jobs : Jobs)

theorem Astray.deliver (astray : call.Astray) : (call.deliver validate now jobs).1 = jobs ∧
    (call.deliver validate now jobs).2.Astray := by
  cases unseen : call.reply with
  | some reply =>
    rw [Call.deliver, unseen]
    exact ⟨rfl, astray⟩
  | none =>
    have served := serveJobs_of_not_routed astray.unrouted validate now jobs
      call.request.serviceId call.request.serviceKey call.request.body
    rw [Call.deliver, unseen]
    constructor
    · exact congrArg Prod.fst served
    · refine ⟨astray.unrouted, fun reply replied => ?_⟩
      exact (Option.some.inj replied).symm.trans (congrArg Prod.snd served)

theorem Astray.read (astray : call.Astray) (heard : Bool) :
    StateClient.read (if heard then call.reply else none) = none := by
  cases heard with
  | false => rfl
  | true =>
    cases replied : call.reply with
    | none => rfl
    | some reply =>
      rw [astray.notRouted reply replied]
      rfl

end Call

/-! ## What every run keeps -/

def JobStatus.Delivers (returned : List (JobId × EvalResult)) (status : JobStatus) : Prop :=
  status.status = .completed →
    ∃ result, status.evaluation = some result ∧ (status.jobId, result) ∈ returned

def JobStatus.Stays (earlier later : JobStatus) : Prop :=
  earlier.jobId = later.jobId → earlier.status.IsTerminal → later.status.IsTerminal

namespace EvalService

variable {model : EvalResultModel} {validate : Option (String → String → Bool)}
  {service : EvalService}

def Persisted (service : EvalService) (jobId : JobId) : Prop :=
  ∃ job, service.jobs.get? jobId.text = some job ∧
    ∃ status : JobStatusEnum, status.IsTerminal ∧ job.status = status.value

/-- What the agent promises of its jobs: a status that is told as completed comes with the
result of its evaluation, no terminal status changes to another one, and every job whose task
ended has a terminal status in the table. -/
structure KeepsPromises (service : EvalService) : Prop where
  delivered : ∀ status ∈ service.told, status.Delivers service.returned
  final : service.told.Pairwise JobStatus.Stays
  persisted : ∀ jobId ∈ service.ended, service.Persisted jobId

/-- A job that was given out is not told as processed any more. -/
def Settled (service : EvalService) (jobId : JobId) : Prop :=
  jobId ∈ service.issued ∧ (service.manager.results.get? jobId ≠ none ∨
    service.manager.errors.get? jobId ≠ none ∨ jobId ∉ service.manager.activeTasks)

def AwaitsStatus (service : EvalService) (stage : PollStage) : Prop :=
  ∃ jobId call, stage = .status jobId call ∧ call.Astray ∧ service.Settled jobId

/-- No call reaches the table, and what is told of a job is settled once it is terminal. -/
structure Tracking (service : EvalService) : Prop where
  noJobs : service.jobs = Dict.empty
  starting : Dict.Every (fun jobId call =>
    call.Astray ∧ jobId ∈ service.drawn ∧ jobId ∉ service.issued) service.starting
  tasks : Dict.Every (fun _ stage => ∀ call ∈ stage.call?, call.Astray) service.tasks
  polls : Dict.Every (fun _ stage => service.AwaitsStatus stage) service.polls
  issued : ∀ jobId ∈ service.issued, jobId ∈ service.drawn
  results : Dict.Every (fun jobId evaluation =>
    ∃ result, evaluation = some result ∧ (jobId, result) ∈ service.returned)
    service.manager.results
  delivered : ∀ status ∈ service.told, status.Delivers service.returned
  settled : ∀ status ∈ service.told, status.status.IsTerminal → service.Settled status.jobId
  final : service.told.Pairwise JobStatus.Stays

namespace Tracking

theorem startup (maxConcurrent : Nat) : (EvalService.startup maxConcurrent).Tracking where
  noJobs := rfl
  starting := Dict.Every.empty _
  tasks := Dict.Every.empty _
  polls := Dict.Every.empty _
  issued := fun _ none => absurd none List.not_mem_nil
  results := Dict.Every.empty _
  delivered := fun _ none => absurd none List.not_mem_nil
  settled := fun _ none => absurd none List.not_mem_nil
  final := .nil

theorem draw (tracking : service.Tracking) (jobId : JobId)
    (tenantId controlId framework now : String) :
    (service.draw jobId tenantId controlId framework now).Tracking := by
  rw [EvalService.draw]
  split
  · exact tracking
  · next fresh =>
    have unissued : jobId ∉ service.issued := fun issued => fresh (tracking.issued jobId issued)
    have before := tracking.starting.imp fun other call held =>
      (⟨held.1, List.mem_append_left [jobId] held.2.1, held.2.2⟩ :
        call.Astray ∧ other ∈ service.drawn ++ [jobId] ∧ other ∉ service.issued)
    exact { tracking with
      starting := before.set ⟨Call.setJobStatus_astray _ _ _, List.mem_concat_self, unissued⟩
      issued := fun other issued => List.mem_append_left _ (tracking.issued other issued) }

theorem awaits {other : EvalService} (tracking : service.Tracking)
    (stays : ∀ jobId, service.Settled jobId → other.Settled jobId) :
    Dict.Every (fun _ stage => other.AwaitsStatus stage) service.polls := by
  intro number stage found
  obtain ⟨jobId, call, isStatus, astray, settled⟩ := tracking.polls number stage found
  exact ⟨jobId, call, isStatus, astray, stays jobId settled⟩

theorem launch (tracking : service.Tracking) (jobId : JobId) :
    (service.launch jobId).Tracking := by
  rw [EvalService.launch]
  split
  · exact tracking
  · next call found =>
    obtain ⟨-, drawn, unissued⟩ := tracking.starting jobId call found
    have stays : ∀ other, service.Settled other → Settled { service with
        starting := service.starting.erase jobId
        tasks := service.tasks.set jobId .waiting
        manager := { service.manager with
          activeTasks := service.manager.activeTasks ++ [jobId] }
        issued := service.issued ++ [jobId] } other := by
      intro other settled
      refine ⟨List.mem_append_left _ settled.1, settled.2.imp_right (Or.imp_right ?_)⟩
      intro inactive active
      cases List.mem_append.mp active with
      | inl before => exact inactive before
      | inr new =>
        rw [List.mem_singleton.mp new] at settled
        exact unissued settled.1
    have apart : ∀ other, other ≠ jobId → other ∉ service.issued →
        other ∉ service.issued ++ [jobId] := by
      intro other differ fresh issued
      cases List.mem_append.mp issued with
      | inl before => exact fresh before
      | inr new => exact differ (List.mem_singleton.mp new)
    exact { tracking with
      starting := (tracking.starting.erase jobId).imp fun other _ held =>
        ⟨held.2.1, held.2.2.1, apart other held.1 held.2.2.2⟩
      tasks := tracking.tasks.set (fun _ none => absurd none (Option.not_mem_none _))
      polls := tracking.awaits stays
      issued := by
        intro other issued
        cases List.mem_append.mp issued with
        | inl before => exact tracking.issued other before
        | inr new => rw [List.mem_singleton.mp new]; exact drawn
      settled := fun status member terminal =>
        stays status.jobId (tracking.settled status member terminal) }

theorem acquire (tracking : service.Tracking) (jobId : JobId) :
    (service.acquire jobId).Tracking := by
  rw [EvalService.acquire]
  split
  · split
    · exact { tracking with
        tasks := tracking.tasks.set (fun _ none => absurd none (Option.not_mem_none _)) }
    · exact tracking
  · exact tracking

theorem finish (tracking : service.Tracking) (jobId : JobId)
    (outcome : Except String EvalResult) (now : String) :
    (service.finish jobId outcome now).Tracking := by
  unfold EvalService.finish
  split
  · cases outcome with
    | ok result =>
      have grows : ∀ entry ∈ service.returned, entry ∈ service.returned ++ [(jobId, result)] :=
        fun _ member => List.mem_append_left _ member
      have delivers : ∀ status, JobStatus.Delivers service.returned status →
          JobStatus.Delivers (service.returned ++ [(jobId, result)]) status := by
        intro status delivers completed
        obtain ⟨found, evaluated, member⟩ := delivers completed
        exact ⟨found, evaluated, grows _ member⟩
      have stays : ∀ other, service.Settled other → other ∈ service.issued ∧
            ((service.manager.results.set jobId (some result)).get? other ≠ none ∨
              service.manager.errors.get? other ≠ none ∨
              other ∉ service.manager.activeTasks) := by
        intro other settled
        refine ⟨settled.1, settled.2.imp_left fun known => ?_⟩
        rw [Dict.get?_set]
        split
        · exact Option.some_ne_none _
        · exact known
      have before := tracking.results.imp fun other evaluation held =>
        (held.imp fun found both => ⟨both.1, grows _ both.2⟩ : ∃ found, evaluation = some found ∧
            (other, found) ∈ service.returned ++ [(jobId, result)])
      exact { tracking with
        tasks := tracking.tasks.set (fun call sent => by
          rw [← Option.some.inj sent]
          exact Call.setJobStatus_astray _ _ _)
        polls := tracking.awaits stays
        results := before.set ⟨result, rfl, List.mem_concat_self⟩
        delivered := fun status member => delivers status (tracking.delivered status member)
        settled := fun status member terminal =>
          stays status.jobId (tracking.settled status member terminal) }
    | error message =>
      have stays : ∀ other, service.Settled other →
          other ∈ service.issued ∧ (service.manager.results.get? other ≠ none ∨
            (service.manager.errors.set jobId message).get? other ≠ none ∨
              other ∉ service.manager.activeTasks) := by
        intro other settled
        refine ⟨settled.1, settled.2.imp_right (Or.imp_left fun known => ?_)⟩
        rw [Dict.get?_set]
        split
        · exact Option.some_ne_none _
        · exact known
      exact { tracking with
        tasks := tracking.tasks.set (fun call sent => by
          rw [← Option.some.inj sent]
          exact Call.setJobStatus_astray _ _ _)
        polls := tracking.awaits stays
        settled := fun status member terminal =>
          stays status.jobId (tracking.settled status member terminal) }
  · exact tracking

theorem deliver (tracking : service.Tracking) (caller : Caller) (now : String) :
    (service.deliver validate caller now).Tracking := by
  cases caller with
  | start jobId =>
    rw [EvalService.deliver]
    split
    · exact tracking
    · next call found =>
      have held := tracking.starting jobId call found
      have served := held.1.deliver validate now service.jobs
      exact { tracking with
        noJobs := served.1.trans tracking.noJobs
        starting := tracking.starting.set ⟨served.2, held.2⟩ }
  | task jobId =>
    rw [EvalService.deliver]
    split
    · exact tracking
    · next stage found =>
      split
      · exact tracking
      · next call waits =>
        have astray := tracking.tasks jobId stage found call waits
        have served := astray.deliver validate now service.jobs
        exact { tracking with
          noJobs := served.1.trans tracking.noJobs
          tasks := tracking.tasks.set fun sent isSent => by
            rw [stage.call?_setCall waits] at isSent
            rw [← Option.some.inj isSent]
            exact served.2 }
  | poll number =>
    rw [EvalService.deliver]
    split
    · exact tracking
    · next stage found =>
      obtain ⟨jobId, call, isStatus, astray, settled⟩ := tracking.polls number stage found
      rw [isStatus]
      have served := astray.deliver validate now service.jobs
      exact { tracking with
        noJobs := served.1.trans tracking.noJobs
        polls := tracking.polls.set ⟨jobId, _, rfl, served.2, settled⟩ }

theorem endTask (tracking : service.Tracking) (jobId : JobId) :
    (service.endTask jobId).Tracking := by
  have stays : ∀ other, service.Settled other → (service.endTask jobId).Settled other := by
    intro other settled
    refine ⟨settled.1, settled.2.imp_right (Or.imp_right fun inactive active => ?_)⟩
    exact inactive (List.mem_of_mem_filter active)
  exact { tracking with
    tasks := (tracking.tasks.erase jobId).imp fun _ _ held => held.2
    polls := tracking.awaits stays
    settled := fun status member terminal =>
      stays status.jobId (tracking.settled status member terminal) }

theorem resume (tracking : service.Tracking) (jobId : JobId) :
    (service.resume model jobId).Tracking := by
  rw [EvalService.resume]
  split
  · exact { tracking with
      tasks := tracking.tasks.set (fun call sent => by
        rw [← Option.some.inj sent]
        exact Call.setJobResult_astray _ _) }
  · exact tracking.endTask jobId
  · exact tracking.endTask jobId
  · exact tracking

theorem tell (tracking : service.Tracking) {status : JobStatus}
    (delivers : status.Delivers service.returned)
    (agrees : status.status.IsTerminal ↔ service.Settled status.jobId) :
    (service.tell status).Tracking := by
  have stays : ∀ earlier ∈ service.told, earlier.Stays status := by
    intro earlier member same terminal
    have settled := tracking.settled earlier member terminal
    rw [same] at settled
    exact agrees.mpr settled
  exact { tracking with
    delivered := by
      intro other member
      cases List.mem_append.mp member with
      | inl before => exact tracking.delivered other before
      | inr new =>
        rw [List.mem_singleton.mp new]
        exact delivers
    settled := by
      intro other member terminal
      cases List.mem_append.mp member with
      | inl before => exact tracking.settled other before terminal
      | inr new =>
        rw [List.mem_singleton.mp new] at terminal ⊢
        exact agrees.mp terminal
    final := by
      rw [EvalService.tell, List.pairwise_append]
      refine ⟨tracking.final, List.pairwise_singleton _ _, fun earlier member later new => ?_⟩
      rw [List.mem_singleton.mp new]
      exact stays earlier member }

theorem of_inMemory (tracking : service.Tracking) {jobId : JobId} (issued : jobId ∈ service.issued)
    {now : String} {status : JobStatus}
    (recalled : service.manager.inMemory now jobId = some status) :
    status.Delivers service.returned ∧
      (status.status.IsTerminal ↔ service.Settled status.jobId) := by
  rw [JobManager.inMemory] at recalled
  cases returned : service.manager.results.get? jobId with
  | some evaluation =>
    rw [returned] at recalled
    rw [← Option.some.inj recalled]
    refine ⟨fun _ => tracking.results jobId evaluation returned, ?_⟩
    exact iff_of_true (.inl rfl) ⟨issued, .inl (by simp [returned])⟩
  | none =>
    rw [returned] at recalled
    cases raised : service.manager.errors.get? jobId with
    | some error =>
      rw [raised] at recalled
      rw [← Option.some.inj recalled]
      refine ⟨fun completed => JobStatusEnum.noConfusion completed, ?_⟩
      exact iff_of_true (.inr rfl) ⟨issued, .inr (.inl (by simp [raised]))⟩
    | none =>
      simp only [raised] at recalled
      split at recalled
      · next active =>
        rw [← Option.some.inj recalled]
        refine ⟨fun completed => JobStatusEnum.noConfusion completed, ?_⟩
        apply iff_of_false
        · show ¬ JobStatusEnum.processing.IsTerminal
          decide
        · intro settled
          cases settled.2 with
          | inl known => exact known returned
          | inr others =>
            cases others with
            | inl known => exact known raised
            | inr inactive => exact inactive active
      · cases recalled

theorem settled_of_inMemory {jobId : JobId} (issued : jobId ∈ service.issued) {now : String}
    (recalled : service.manager.inMemory now jobId = none) : service.Settled jobId := by
  refine ⟨issued, .inr (.inr fun active => ?_)⟩
  rw [JobManager.inMemory] at recalled
  split at recalled
  · cases recalled
  · split at recalled
    · cases recalled
    · rw [if_pos active] at recalled
      cases recalled

theorem poll (tracking : service.Tracking) (number : Nat) (jobId : JobId) (now : String) :
    (service.poll number jobId now).Tracking := by
  rw [EvalService.poll]
  split
  · next issued =>
    split
    · exact tracking
    · split
      · next status recalled =>
        have found := tracking.of_inMemory issued recalled
        exact tracking.tell found.1 found.2
      · next recalled =>
        have settled := settled_of_inMemory issued recalled
        exact { tracking with
          polls := tracking.polls.set
            ⟨jobId, _, rfl, Call.getJobStatus_astray jobId, settled⟩ }
  · exact tracking

theorem hear (tracking : service.Tracking) (number : Nat) (heard : Bool) (now : String) :
    (service.hear model number heard now).Tracking := by
  have closed : Tracking { service with polls := service.polls.erase number } :=
    { tracking with polls := (tracking.polls.erase number).imp fun _ _ held => held.2 }
  cases found : service.polls.get? number with
  | none =>
    rw [EvalService.hear, found]
    exact tracking
  | some stage =>
    obtain ⟨jobId, call, isStatus, astray, settled⟩ := tracking.polls number stage found
    rw [isStatus] at found
    rw [EvalService.hear, found]
    simp only [astray.read heard, JobManager.recollect]
    apply closed.tell
    · exact fun completed => JobStatusEnum.noConfusion completed
    · exact iff_of_true (.inr rfl) settled

theorem cancel (tracking : service.Tracking) (jobId : JobId) :
    (service.cancel jobId).Tracking := by
  unfold EvalService.cancel
  split
  · split
    · exact tracking
    · exact { tracking with tasks := (tracking.tasks.erase jobId).imp fun _ _ held => held.2 }
    · exact tracking.endTask jobId
  · exact tracking

theorem restart (tracking : service.Tracking) : service.restart.Tracking :=
  { tracking with
    starting := Dict.Every.empty _
    tasks := Dict.Every.empty _
    polls := Dict.Every.empty _
    results := Dict.Every.empty _
    settled := fun status member terminal =>
      ⟨(tracking.settled status member terminal).1, .inr (.inr List.not_mem_nil)⟩ }

theorem step (tracking : service.Tracking) (action : JobAction) :
    (service.step model validate action).Tracking := by
  cases action with
  | draw jobId tenantId controlId framework now =>
    exact tracking.draw jobId tenantId controlId framework now
  | launch jobId => exact tracking.launch jobId
  | acquire jobId => exact tracking.acquire jobId
  | finish jobId outcome now => exact tracking.finish jobId outcome now
  | deliver caller now => exact tracking.deliver caller now
  | resume jobId => exact tracking.resume jobId
  | poll number jobId now => exact tracking.poll number jobId now
  | hear number heard now => exact tracking.hear number heard now
  | shutdown => exact { tracking with }
  | cancel jobId => exact tracking.cancel jobId
  | restart => exact tracking.restart

theorem not_persisted (tracking : service.Tracking) (jobId : JobId) :
    ¬ service.Persisted jobId := by
  intro persisted
  obtain ⟨job, stored, -⟩ := persisted
  rw [tracking.noJobs, Dict.get?_empty] at stored
  cases stored

theorem keepsPromises_iff (tracking : service.Tracking) :
    service.KeepsPromises ↔ service.ended = [] := by
  constructor
  · intro keeps
    apply List.eq_nil_iff_forall_not_mem.mpr
    exact fun jobId ended => tracking.not_persisted jobId (keeps.persisted jobId ended)
  · intro none
    refine ⟨tracking.delivered, tracking.final, fun jobId ended => ?_⟩
    rw [none] at ended
    exact absurd ended List.not_mem_nil

end Tracking

theorem tracked (model : EvalResultModel) (validate : Option (String → String → Bool))
    (maxConcurrent : Nat) (actions : List JobAction) :
    (run (step model validate) (startup maxConcurrent) actions).Tracking :=
  run_always _ Tracking (fun _ action tracking => tracking.step action)
    (Tracking.startup maxConcurrent) actions

def Ends (service : EvalService) : JobAction → Prop
  | .resume jobId => ∃ stage ∈ service.tasks.get? jobId,
      (∃ call, stage = .storing call) ∨ ∃ call, stage = .failing call
  | .cancel jobId => service.closing = true ∧ service.tasks.get? jobId ≠ none
  | _ => False

theorem ended_of_not_ends {action : JobAction} (stays : ¬ service.Ends action) :
    (service.step model validate action).ended = service.ended := by
  cases action with
  | draw jobId tenantId controlId framework now =>
    rw [EvalService.step, EvalService.draw]
    split <;> rfl
  | launch jobId =>
    rw [EvalService.step, EvalService.launch]
    split <;> rfl
  | acquire jobId =>
    rw [EvalService.step, EvalService.acquire]
    split
    · split <;> rfl
    · rfl
  | finish jobId outcome now =>
    rw [EvalService.step]
    unfold EvalService.finish
    split
    · cases outcome with
      | ok result => rfl
      | error message => rfl
    · rfl
  | deliver caller now =>
    cases caller with
    | start jobId =>
      rw [EvalService.step, EvalService.deliver]
      split <;> rfl
    | task jobId =>
      rw [EvalService.step, EvalService.deliver]
      split
      · rfl
      · split <;> rfl
    | poll number =>
      rw [EvalService.step, EvalService.deliver]
      split <;> rfl
  | resume jobId =>
    rw [EvalService.step, EvalService.resume]
    split
    · rfl
    · next call stored => exact absurd ⟨_, stored, .inl ⟨call, rfl⟩⟩ stays
    · next call failed => exact absurd ⟨_, failed, .inr ⟨call, rfl⟩⟩ stays
    · rfl
  | poll number jobId now =>
    rw [EvalService.step, EvalService.poll]
    split
    · split
      · rfl
      · split <;> rfl
    · rfl
  | hear number heard now =>
    rw [EvalService.step, EvalService.hear]
    split
    · rfl
    · split <;> rfl
    · split <;> rfl
  | shutdown => rfl
  | cancel jobId =>
    rw [EvalService.step, EvalService.cancel]
    split
    · next closing =>
      split
      · rfl
      · next found => exact absurd ⟨closing, by rw [found]; exact Option.some_ne_none _⟩ stays
      · next found => exact absurd ⟨closing, by rw [found]; exact Option.some_ne_none _⟩ stays
    · rfl
  | restart => rfl

theorem ended_of_ends {action : JobAction} (ends : service.Ends action) :
    (service.step model validate action).ended ≠ [] := by
  cases action with
  | resume jobId =>
    obtain ⟨stage, found, last⟩ := ends
    have held : service.tasks.get? jobId = some stage := found
    cases last with
    | inl stored =>
      obtain ⟨call, isStoring⟩ := stored
      rw [EvalService.step, EvalService.resume, held, isStoring]
      exact List.append_ne_nil_of_right_ne_nil _ (List.cons_ne_nil _ _)
    | inr failed =>
      obtain ⟨call, isFailing⟩ := failed
      rw [EvalService.step, EvalService.resume, held, isFailing]
      exact List.append_ne_nil_of_right_ne_nil _ (List.cons_ne_nil _ _)
  | cancel jobId =>
    rw [EvalService.step, EvalService.cancel, if_pos ends.1]
    split
    · next none => exact absurd none ends.2
    · exact List.append_ne_nil_of_right_ne_nil _ (List.cons_ne_nil _ _)
    · exact List.append_ne_nil_of_right_ne_nil _ (List.cons_ne_nil _ _)
  | _ => exact absurd ends not_false

/-- Every agent that is started beside an empty jobs table keeps its promises exactly as long
as no background task ends, and no terminal status in the table changes to another one. -/
theorem keepsPromises_iff_noneEnds (model : EvalResultModel)
    (validate : Option (String → String → Bool)) (maxConcurrent : Nat)
    (actions : List JobAction) :
    ((∀ earlier later, actions = earlier ++ later →
        (run (step model validate) (startup maxConcurrent) earlier).KeepsPromises) ∧
      ∀ earlier middle later, actions = earlier ++ middle ++ later → ∀ jobId,
        (run (step model validate) (startup maxConcurrent) earlier).Persisted jobId →
          (run (step model validate) (startup maxConcurrent) (earlier ++ middle)).Persisted
            jobId) ↔
      Allowed (step model validate) (fun service action => ¬ service.Ends action)
        (startup maxConcurrent) actions := by
  have unstored : ∀ earlier jobId,
      ¬ (run (step model validate) (startup maxConcurrent) earlier).Persisted jobId :=
    fun earlier => (tracked model validate maxConcurrent earlier).not_persisted
  rw [and_iff_left fun earlier _ _ _ jobId persisted => absurd persisted (unstored earlier jobId)]
  apply passed_supported_iff (step model validate) Tracking KeepsPromises
  · intro service action tracking keeps
    have noneYet := tracking.keepsPromises_iff.mp keeps
    rw [(tracking.step action).keepsPromises_iff]
    constructor
    · exact fun noneAfter ends => ended_of_ends ends noneAfter
    · exact fun stays => (ended_of_not_ends stays).trans noneYet
  · exact fun service action tracking _ _ => tracking.step action
  · exact Tracking.startup maxConcurrent
  · exact (Tracking.startup maxConcurrent).keepsPromises_iff.mpr rfl

def sampleId : JobId where
  text := "7"
  named := by decide
  isUuid := by
    intro char member
    have isSeven : char = '7' := by simpa using member
    rw [isSeven]
    exact .inr (by decide)

def sampleResult : EvalResult :=
  { evaluationId := "e1", controlId := "AC-2", framework := "soc2", tenantId := "acme" }

def sampleModel : EvalResultModel where
  dump := fun result =>
    .obj [("evaluation_id", .str result.evaluationId), ("control_id", .str result.controlId)]
  validate := fun _ => .error (.validationError "EvalResult" "framework")

/-- An evaluation that succeeds, with every call of the state client answered. -/
def completedRun : List JobAction :=
  [.draw sampleId "acme" "AC-2" "soc2" "09:00", .deliver (.start sampleId) "09:00",
    .launch sampleId, .acquire sampleId, .finish sampleId (.ok sampleResult) "09:01",
    .deliver (.task sampleId) "09:01", .resume sampleId,
    .deliver (.task sampleId) "09:01", .resume sampleId]

/-- The job is over, and its status is not in the table. -/
theorem completed_job_not_persisted :
    sampleId ∈ (run (step sampleModel none) (startup 10) completedRun).ended ∧
      ¬ (run (step sampleModel none) (startup 10) completedRun).Persisted sampleId := by
  constructor
  · have alone : (Dict.empty.set sampleId TaskStage.waiting).values = [.waiting] := rfl
    simp [completedRun, step, startup, draw, deliver, Call.deliver, launch, acquire, running, alone,
      finish, resume, endTask, TaskStage.call?, TaskStage.setCall, Call.send]
  · exact (tracked sampleModel none 10 completedRun).not_persisted sampleId

end EvalService

end Onpremai.AgentEval
