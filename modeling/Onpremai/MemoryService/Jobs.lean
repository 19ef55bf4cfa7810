import Mathlib.Data.List.SplitOn
import Onpremai.Library.Json

/-!
# Jobs table

The routes of the memory service under `/jobs`, and the table that they read and write.  A
request that no route matches is answered without a look at the table.
-/

namespace Onpremai.MemoryService

open Onpremai.Library

/-- Job status tracking for StateClient integration. -/
structure Job where
  id : String
  status : String := "pending"
  result : Option Json := none
  error : Option String := none
  createdAt : String
  updatedAt : String

abbrev Jobs := Dict String Job

inductive HttpMethod where
  | get
  | put
  | post
  deriving DecidableEq, Repr

/-- A request to the service, with the headers that name the calling service. -/
structure JobRequest where
  method : HttpMethod
  path : String
  serviceId : Option String := none
  serviceKey : Option String := none
  body : Json := .null

structure JobReply where
  statusCode : Nat
  body : Json

namespace JobReply

def detail (statusCode : Nat) (text : String) : JobReply :=
  { statusCode, body := .obj [("detail", .str text)] }

/-- A request whose headers or body do not have the declared shape. -/
def unprocessable : JobReply := detail 422 "Unprocessable Entity"

/-- What the router answers where no route has the path. -/
def notRouted : JobReply := detail 404 "Not Found"

def jobNotFound : JobReply := detail 404 "Job not found"

end JobReply

def segments (path : String) : List String := (path.toList.splitOn '/').map String.ofList

structure CreateJobBody where
  id : String
  status : String := "pending"

structure UpdateJobBody where
  status : Option String := none
  result : Option Json := none
  error : Option String := none

def optionalString (key : String) (body : Json) : Option (Option String) :=
  match body.get? key with
  | none | some .null => some none
  | some (.str text) => some (some text)
  | some _ => none

def optionalDict (key : String) (body : Json) : Option (Option Json) :=
  match body.get? key with
  | none | some .null => some none
  | some (.obj fields) => some (some (.obj fields))
  | some _ => none

def CreateJobBody.parse (body : Json) : Option CreateJobBody :=
  match body.get? "id", body.get? "status" with
  | some (.str id), none => some { id }
  | some (.str id), some (.str status) => some { id, status }
  | _, _ => none

def UpdateJobBody.parse : Json → Option UpdateJobBody
  | .obj fields => do
    let status ← optionalString "status" (.obj fields)
    let result ← optionalDict "result" (.obj fields)
    let error ← optionalString "error" (.obj fields)
    return { status, result, error }
  | _ => none

def jobToDict (job : Job) : Json :=
  .obj [("id", .str job.id), ("status", .str job.status), ("result", job.result.getD .null),
    ("error", (job.error.map Json.str).getD .null), ("created_at", .str job.createdAt),
    ("updated_at", .str job.updatedAt)]

/-- Create a new job entry.  An id that the table has already violates its primary key. -/
def createJob (now : String) (jobs : Jobs) (body : CreateJobBody) : Jobs × JobReply :=
  match jobs.get? body.id with
  | some _ => (jobs, .detail 500 "Internal Server Error")
  | none =>
    let job : Job := { id := body.id, status := body.status, createdAt := now, updatedAt := now }
    (jobs.set body.id job, { statusCode := 200, body := jobToDict job })

def getJob (jobs : Jobs) (jobId : String) : Jobs × JobReply :=
  match jobs.get? jobId with
  | none => (jobs, .jobNotFound)
  | some job => (jobs, { statusCode := 200, body := jobToDict job })

def updateJob (now : String) (jobs : Jobs) (jobId : String) (body : UpdateJobBody) :
    Jobs × JobReply :=
  match jobs.get? jobId with
  | none => (jobs, .jobNotFound)
  | some job =>
    let updated : Job := { job with
      status := body.status.getD job.status
      result := body.result.or job.result
      error := body.error.or job.error
      updatedAt := now }
    (jobs.set jobId updated, { statusCode := 200, body := jobToDict updated })

/-- The route that a request has by its path and its method. -/
inductive JobRoute where
  | create
  | get (jobId : String)
  | update (jobId : String)
  | methodNotAllowed
  | redirect
  | none
  deriving DecidableEq, Repr

/-- Match a request against `/jobs` and `/jobs/{job_id}`. -/
def jobRoute (method : HttpMethod) (path : String) : JobRoute :=
  match segments path with
  | ["", "jobs"] => if method = .post then .create else .methodNotAllowed
  | ["", "jobs", jobId] =>
    if jobId = "" then .redirect
    else match method with
      | .get => .get jobId
      | .put => .update jobId
      | .post => .methodNotAllowed
  | ["", "jobs", jobId, ""] => if jobId = "" then .none else .redirect
  | _ => .none

def verifyService (validate : Option (String → String → Bool)) (request : JobRequest) :
    Except JobReply Unit :=
  match request.serviceId, request.serviceKey with
  | some serviceId, some serviceKey =>
    if Text.strip serviceId = "" then
      .error (.detail 400 "X-Service-Id header must be non-empty")
    else if Text.strip serviceKey = "" then
      .error (.detail 400 "X-Service-Key header must be non-empty")
    else match validate with
      | some validate =>
        if validate serviceId serviceKey then .ok ()
        else .error (.detail 401 "Invalid service credentials")
      | none => .ok ()
  | _, _ => .error .unprocessable

def serveJobs (validate : Option (String → String → Bool)) (now : String) (jobs : Jobs)
    (request : JobRequest) : Jobs × JobReply :=
  let verified (handle : Jobs × JobReply) : Jobs × JobReply :=
    match verifyService validate request with
    | .error refused => (jobs, refused)
    | .ok () => handle
  match jobRoute request.method request.path with
  | .create => verified (match CreateJobBody.parse request.body with
      | some body => createJob now jobs body
      | none => (jobs, .unprocessable))
  | .get jobId => verified (getJob jobs jobId)
  | .update jobId => verified (match UpdateJobBody.parse request.body with
      | some body => updateJob now jobs jobId body
      | none => (jobs, .unprocessable))
  | .methodNotAllowed => (jobs, .detail 405 "Method Not Allowed")
  | .redirect => (jobs, { statusCode := 307, body := .null })
  | .none => (jobs, .notRouted)

theorem serveJobs_of_not_routed {method : HttpMethod} {path : String}
    (unmatched : jobRoute method path = .none) (validate : Option (String → String → Bool))
    (now : String) (jobs : Jobs) (serviceId serviceKey : Option String) (body : Json) :
    serveJobs validate now jobs { method, path, serviceId, serviceKey, body } =
      (jobs, .notRouted) := by
  rw [serveJobs, unmatched]

/-- A path of two segments below `/jobs` has no route. -/
theorem jobRoute_of_two_segments (method : HttpMethod) {path first second : String}
    (two : segments path = ["", "jobs", first, second]) (named : second ≠ "") :
    jobRoute method path = .none := by
  rw [jobRoute, two]
  split
  · next short => simp at short
  · next short => simp at short
  · next ends => simp [named] at ends
  · rfl

end Onpremai.MemoryService
