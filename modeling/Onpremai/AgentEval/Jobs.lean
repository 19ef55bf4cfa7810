import Onpremai.AgentEval.State
import Onpremai.MemoryService.Jobs

/-!
# Job manager

Evaluation jobs are tracked in the memory of the process and, by calls of the state client,
in the jobs table of the memory service.
-/

namespace Onpremai.AgentEval

open Onpremai.Library Onpremai.MemoryService

inductive JobStatusEnum where
  | pending
  | processing
  | completed
  | failed
  deriving DecidableEq, Repr

namespace JobStatusEnum

def value : JobStatusEnum → String
  | .pending => "pending"
  | .processing => "processing"
  | .completed => "completed"
  | .failed => "failed"

def ofValue? (text : String) : Option JobStatusEnum :=
  [pending, processing, completed, failed].find? fun status => decide (status.value = text)

def IsTerminal (status : JobStatusEnum) : Prop := status = .completed ∨ status = .failed

instance (status : JobStatusEnum) : Decidable status.IsTerminal :=
  inferInstanceAs (Decidable (_ ∨ _))

end JobStatusEnum

/-- Id of a job, the text of a `uuid4`: hexadecimal digits and dashes. -/
structure JobId where
  text : String
  named : text ≠ ""
  isUuid : ∀ char ∈ text.toList, char = '-' ∨ char ∈ "0123456789abcdef".toList
  deriving DecidableEq

theorem JobId.slash_notMem (id : JobId) : '/' ∉ id.text.toList := by
  intro slash
  cases id.isUuid '/' slash with
  | inl isDash => exact absurd isDash (by decide)
  | inr isDigit => exact absurd isDigit (by decide)

/-- Response from `GET /status/{job_id}`. -/
structure JobStatus where
  jobId : JobId
  status : JobStatusEnum
  evaluation : Option EvalResult := none
  error : Option String := none
  createdAt : String
  completedAt : Option String := none

namespace StateClient

/-- Path of a request, below the base URL of the client. -/
def path (address : String) : String := "/jobs" ++ address

def setJobStatus (jobId : JobId) (status : JobStatusEnum) (data : Json) : JobRequest where
  method := .put
  path := path ("/status/" ++ jobId.text)
  body := .obj [("job_id", .str jobId.text), ("status", .str status.value), ("data", data)]

def getJobStatus (jobId : JobId) : JobRequest where
  method := .get
  path := path ("/status/" ++ jobId.text)

def setJobResult (jobId : JobId) (result : Json) : JobRequest where
  method := .put
  path := path ("/result/" ++ jobId.text)
  body := .obj [("job_id", .str jobId.text), ("result", result)]

def getJobResult (jobId : JobId) : JobRequest where
  method := .get
  path := path ("/result/" ++ jobId.text)

/-- Whether a write succeeded; no reply is an exception of the call. -/
def wrote : Option JobReply → Bool
  | some reply => decide (reply.statusCode < 400)
  | none => false

def read : Option JobReply → Option Json
  | some reply =>
    if reply.statusCode = 404 then none
    else if 400 ≤ reply.statusCode then none
    else if reply.statusCode = 307 then none
    else some reply.body
  | none => none

end StateClient

/-- How a result is turned into JSON and back. -/
structure EvalResultModel where
  dump : EvalResult → Json
  validate : Json → Except PyError EvalResult

/-- The jobs that the running process knows. -/
structure JobManager where
  maxConcurrent : Nat
  activeTasks : List JobId := []
  results : Dict JobId (Option EvalResult) := Dict.empty
  errors : Dict JobId String := Dict.empty

namespace JobManager

variable (manager : JobManager)

def inMemory (now : String) (jobId : JobId) : Option JobStatus :=
  match manager.results.get? jobId with
  | some evaluation =>
    some { jobId, status := .completed, evaluation, createdAt := now, completedAt := some now }
  | none =>
    match manager.errors.get? jobId with
    | some error => some { jobId, status := .failed, error := some error, createdAt := now }
    | none =>
      if jobId ∈ manager.activeTasks then
        some { jobId, status := .processing, createdAt := now }
      else none

/-- How `get_status` goes on once it has the stored status. -/
inductive Recollection where
  | answers (status : JobStatus)
  | asksResult (status : JobStatus)
  | raises (error : PyError)

def storedError (state : Json) : Except PyError (Option String) :=
  match state.get? "data" with
  | some (.obj fields) =>
    match Json.field? "error" fields with
    | none | some .null => .ok none
    | some (.str error) => .ok (some error)
    | some _ => .error (.validationError "JobStatus" "error")
  | _ => .ok none

def storedStatus (state : Json) : JobStatusEnum :=
  match state.get? "status" with
  | none => .failed
  | some (.str text) => (JobStatusEnum.ofValue? text).getD .failed
  | some _ => .failed

/-- Fall back to persistent state. -/
def recollect (now : String) (jobId : JobId) (state : Option Json) : Recollection :=
  match state with
  | none =>
    .answers { jobId, status := .failed, error := some "Job not found", createdAt := now }
  | some state =>
    match state with
    | .obj _ =>
      match storedError state with
      | .error error => .raises error
      | .ok error =>
        if storedStatus state = .completed then
          .asksResult { jobId, status := .completed, error, createdAt := now }
        else .answers { jobId, status := storedStatus state, error, createdAt := now }
    | _ => .raises .attributeError

/-- The answer once the stored result is read. -/
def withResult (model : EvalResultModel) (status : JobStatus) (result : Option Json) :
    Except PyError JobStatus :=
  match result with
  | none => .ok status
  | some result => do
    let evaluation ← model.validate result
    return { status with evaluation := some evaluation }

end JobManager

theorem jobRoute_path (method : HttpMethod) (id : JobId) {kind : String}
    (isKind : kind = "/status/" ∨ kind = "/result/") :
    jobRoute method (StateClient.path (kind ++ id.text)) = .none := by
  have slash := List.splitOn_eq_singleton id.slash_notMem
  have last : segments ("/jobs" ++ (kind ++ id.text)) =
      (("/jobs" ++ kind).toList.dropLast.splitOn '/').map String.ofList ++ [id.text] := by
    have ends : ("/jobs" ++ kind).toList = ("/jobs" ++ kind).toList.dropLast ++ ['/'] := by
      cases isKind with
      | inl isStatus => rw [isStatus]; decide
      | inr isResult => rw [isResult]; decide
    rw [segments, ← String.append_assoc, String.toList_append, ends, List.append_assoc,
      List.singleton_append, List.splitOn_append_cons_self, slash, List.map_append,
      List.map_singleton, String.ofList_toList, List.dropLast_concat]
  cases isKind with
  | inl isStatus =>
    apply jobRoute_of_two_segments method _ id.named
    · exact "status"
    · rw [StateClient.path, last, isStatus]
      rfl
  | inr isResult =>
    apply jobRoute_of_two_segments method _ id.named
    · exact "result"
    · rw [StateClient.path, last, isResult]
      rfl

end Onpremai.AgentEval
