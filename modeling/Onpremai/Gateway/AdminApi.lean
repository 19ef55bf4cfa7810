import Onpremai.Gateway.Application
import Onpremai.Gateway.Metrics

/-!
# Admin API

The admin endpoints ask for a key, and read their bodies into request models before anything
is carried out.  A field that a model does not know is passed over; one that it needs has to
be there.
-/

namespace Onpremai.Gateway

open Onpremai.Library Onpremai.Library.Python

def bodyFields : Json → Except String (List (String × Json))
  | .obj fields => .ok fields
  | _ => .error "Input should be a valid dictionary or object to extract fields from"

/-- A field without a default. -/
def requiredField {α : Type} (read : Json → Except String α) (key : String)
    (fields : List (String × Json)) : Except String α :=
  match Json.field? key fields with
  | none => .error "Field required"
  | some value => read value

def optionalField {α : Type} (read : Json → Except String α) (key : String)
    (fields : List (String × Json)) : Except String (Option α) :=
  match Json.field? key fields with
  | none => .ok none
  | some .null => .ok none
  | some value => do
    let field ← read value
    return some field

def defaultedField {α : Type} (read : Json → Except String α) (key : String) (default : α)
    (fields : List (String × Json)) : Except String α :=
  match Json.field? key fields with
  | none => .ok default
  | some value => read value

def readRoutingUpdate (body : Json) : Except String RoutingUpdateRequest := do
  let fields ← bodyFields body
  let taskRouting ← optionalField (dictField textField) "task_routing" fields
  let agentRouting ← optionalField (dictField .ok) "agent_routing" fields
  let tenantRouting ← optionalField (dictField .ok) "tenant_routing" fields
  return { taskRouting, agentRouting, tenantRouting }

def confidenceBound (process : Process) (value : Json) : Except String Rat := do
  let confidence ← floatField process value
  if 0 ≤ confidence ∧ confidence ≤ 1 then .ok confidence
  else .error "Input should be between 0 and 1"

def readThresholdUpdate (process : Process) (body : Json) : Except String (String × Rat) := do
  let fields ← bodyFields body
  let task ← requiredField textField "task" fields
  let confidenceThreshold ←
    requiredField (confidenceBound process) "confidence_threshold" fields
  return (task, confidenceThreshold)

def readCanarySet (body : Json) : Except String CanarySetRequest := do
  let fields ← bodyFields body
  let model ← requiredField textField "model" fields
  let trafficPct ← defaultedField (atLeast 1) "traffic_pct" 20 fields
  let minSamples ← defaultedField (atLeast 1) "min_samples" 30 fields
  if bounds : (1 ≤ trafficPct ∧ trafficPct ≤ 100) ∧ 1 ≤ minSamples then
    return { model, trafficPct, minSamples, share := bounds.1, enough := bounds.2 }
  else .error "Input should be less than or equal to 100"

/-- A request to the admin API, with the name of a task in its path.  There is no endpoint to
read the routing. -/
inductive AdminCall where
  | getTaskMetrics (task : String)
  | getRouting
  | postRouting (body : Json)
  | postThreshold (body : Json)
  | setCanary (task : String) (body : Json)
  | rollbackCanary (task : String)

/-- What a request asks to carry out, if it changes anything. -/
def AdminCall.read (process : Process) : AdminCall → Except String (Option AdminRequest)
  | .getTaskMetrics _ => .ok none
  | .getRouting => .ok none
  | .postRouting body => do
    let update ← readRoutingUpdate body
    return some (.updateRouting update)
  | .postThreshold body => do
    let (task, confidenceThreshold) ← readThresholdUpdate process body
    return some (.updateThreshold task confidenceThreshold)
  | .setCanary task body => do
    let canary ← readCanarySet body
    return some (.setCanary task canary)
  | .rollbackCanary task => .ok (some (.rollbackCanary task))

/-- Some endpoint takes the request. -/
def AdminCall.hasEndpoint : AdminCall → Bool
  | .getRouting => false
  | _ => true

/-- The endpoint accepts the payload of the request. -/
def AdminCall.accepted (process : Process) (call : AdminCall) : Bool :=
  (call.read process).toOption.isSome

/-- The gateway as its admin API sees it. -/
structure AdminService where
  process : Process
  /-- The value of `LLM_GW_ADMIN_KEY`. -/
  expectedKey : String
  file : ConfigFile
  app : GatewayApp
  metrics : MetricsStore := {}

/-- An answer of the admin API. -/
structure AdminResponse where
  statusCode : Nat
  body : Json

/-- An answer that tells what went wrong. -/
def AdminResponse.refusal (statusCode : Nat) (detail : String) : AdminResponse where
  statusCode := statusCode
  body := .obj [("detail", .str detail)]

/-- The answer to a request that was carried out. -/
def AdminReply.response : AdminReply → AdminResponse
  | .answered body => { statusCode := 200, body }
  | .failed status detail => .refusal status detail

def TaskMetrics.body (metrics : TaskMetrics) : Json :=
  .obj ([("task", .str metrics.task), ("total_requests", .num metrics.totalRequests)] ++
    match metrics.averages with
    | none => []
    | some averages =>
      [("avg_latency_ms", .num averages.avgLatencyMs),
        ("avg_confidence", .num averages.avgConfidence),
        ("error_rate", .num averages.errorRate),
        ("escalation_rate", .num averages.escalationRate)])

namespace AdminService

variable (service : AdminService)

def refusesKey : Option String → Option AdminResponse
  | none => some (.refusal 422 "Field required")
  | some key =>
    if service.expectedKey = "" then
      some (.refusal 503 "Admin API key not configured (LLM_GW_ADMIN_KEY not set)")
    else if key = service.expectedKey then none
    else some (.refusal 401 "Invalid admin key")

/-- The answer to a request that changes nothing. -/
def answer (now : Rat) : AdminCall → AdminResponse
  | .getTaskMetrics task =>
    { statusCode := 200, body := (service.metrics.getTaskMetrics now task).body }
  | _ => .refusal 405 "Method Not Allowed"

def carryOut (now : Rat) (call : AdminCall) : AdminService × AdminResponse :=
  match call.read service.process with
  | .error detail => (service, .refusal 422 detail)
  | .ok none => (service, service.answer now call)
  | .ok (some request) =>
    let handled := service.app.handle service.process now service.file request
    ({ service with app := handled.1 }, handled.2.response)

def serve (key : Option String) (now : Rat) (call : AdminCall) : AdminService × AdminResponse :=
  if call.hasEndpoint then
    match service.refusesKey key with
    | some refusal => (service, refusal)
    | none => service.carryOut now call
  else (service, .refusal 405 "Method Not Allowed")

section

variable {service} {key : Option String} {now : Rat} {call : AdminCall}

theorem statusCode_of_refusesKey {refusal : AdminResponse}
    (refused : service.refusesKey key = some refusal) : refusal.statusCode ≠ 200 := by
  cases key with
  | none =>
    cases refused
    simp [AdminResponse.refusal]
  | some key =>
    rw [refusesKey] at refused
    split at refused
    · cases refused
      simp [AdminResponse.refusal]
    · split at refused
      · cases refused
      · cases refused
        simp [AdminResponse.refusal]

theorem serve_of_rejected (rejected : call.accepted service.process = false) :
    (service.serve key now call).1 = service ∧
      (service.serve key now call).2.statusCode ≠ 200 := by
  rw [serve]
  split
  · cases refused : service.refusesKey key with
    | some refusal => exact ⟨rfl, statusCode_of_refusesKey refused⟩
    | none =>
      dsimp only
      rw [carryOut]
      rw [AdminCall.accepted] at rejected
      cases reads : call.read service.process with
      | error detail => exact ⟨rfl, by simp [AdminResponse.refusal]⟩
      | ok request =>
        rw [reads] at rejected
        cases rejected
  · exact ⟨rfl, by simp [AdminResponse.refusal]⟩

theorem serve_of_refusesKey {refusal : AdminResponse}
    (refused : service.refusesKey key = some refusal) :
    (service.serve key now call).1 = service ∧
      (service.serve key now call).2.statusCode ≠ 200 := by
  rw [serve, refused]
  split
  · exact ⟨rfl, statusCode_of_refusesKey refused⟩
  · exact ⟨rfl, by simp [AdminResponse.refusal]⟩

end

end AdminService

end Onpremai.Gateway
