import Onpremai.Common.ServiceAuth
import Onpremai.Library.Codec
import Onpremai.Library.Routing
import Onpremai.MemoryService.Decisions
import Onpremai.MemoryService.EventRequests

/-!
# The memory service as its callers see it

The routes of the service, and the endpoints whose data is in Redis: the state documents of the
users, the event queues, the evaluation decisions and the evaluation comments.  What the endpoints
of the database do is left open.
-/

namespace Onpremai.MemoryService

open Library
open Library.Routing (Method Part Route resolve)
open Common (Headers verifyService)

inductive Endpoint where
  | openapi
  | docs
  | docsRedirect
  | redoc
  | health
  | ready
  | getSession
  | putSession
  | deleteSession
  | tenantRemember
  | tenantRecall
  | tenantFacts
  | updateTenantFact
  | deleteTenantFact
  | userRemember
  | userRecall
  | userFacts
  | deleteUserFact
  | createTask
  | listTasks
  | updateTask
  | taskSummary
  | taskTimeline
  | storeEval
  | getLastEval
  | getEvalHistory
  | recordPattern
  | queryPatterns
  | listPatterns
  | boostPattern
  | deletePattern
  | getActiveSkill
  | getSkillVersion
  | getSkillHistory
  | createSkillVersion
  | rollbackSkill
  | searchSkills
  | storeInteraction
  | getUserInteractions
  | getTenantInteractions
  | getAuditTrail
  | registerAgent
  | heartbeat
  | listAgents
  | deregisterAgent
  | createJob
  | getJob
  | updateJob
  | getUserState
  | putUserState
  | pushEvent
  | drainEvents
  | createDecision
  | getDecision
  | overrideCriterion
  | approveDecision
  | listDecisions
  | addComment
  | listComments
  deriving DecidableEq, Repr

/-- The endpoints that no service credentials are asked for. -/
def Endpoint.isOpen : Endpoint → Bool
  | .openapi | .docs | .docsRedirect | .redoc | .health | .ready => true
  | _ => false

def routes : List (Route Endpoint) := [⟨.get, ["openapi.json"], .openapi⟩, ⟨.get, ["docs"], .docs⟩,
    ⟨.get, ["docs", "oauth2-redirect"], .docsRedirect⟩,
    ⟨.get, ["redoc"], .redoc⟩,
    ⟨.get, ["health"], .health⟩,
    ⟨.get, ["ready"], .ready⟩,
    ⟨.get, ["session", .parameter], .getSession⟩,
    ⟨.put, ["session", .parameter], .putSession⟩,
    ⟨.delete, ["session", .parameter], .deleteSession⟩,
    ⟨.post, ["tenant", .parameter, "remember"], .tenantRemember⟩,
    ⟨.get, ["tenant", .parameter, "recall"], .tenantRecall⟩,
    ⟨.get, ["tenant", .parameter, "facts"], .tenantFacts⟩,
    ⟨.put, ["tenant", .parameter, "facts", .parameter], .updateTenantFact⟩,
    ⟨.delete, ["tenant", .parameter, "facts", .parameter], .deleteTenantFact⟩,
    ⟨.post, ["user", .parameter, .parameter, "remember"], .userRemember⟩,
    ⟨.get, ["user", .parameter, .parameter, "recall"], .userRecall⟩,
    ⟨.get, ["user", .parameter, .parameter, "facts"], .userFacts⟩,
    ⟨.delete, ["user", .parameter, .parameter, "facts", .parameter], .deleteUserFact⟩,
    ⟨.post, ["tasks", .parameter], .createTask⟩,
    ⟨.get, ["tasks", .parameter], .listTasks⟩,
    ⟨.put, ["tasks", .parameter, .parameter], .updateTask⟩,
    ⟨.get, ["tasks", .parameter, "summary"], .taskSummary⟩,
    ⟨.get, ["tasks", .parameter, "timeline"], .taskTimeline⟩,
    ⟨.post, ["eval", .parameter, .parameter, .parameter], .storeEval⟩,
    ⟨.get, ["eval", .parameter, .parameter, .parameter, "last"], .getLastEval⟩,
    ⟨.get, ["eval", .parameter, .parameter, .parameter, "history"], .getEvalHistory⟩,
    ⟨.post, ["patterns", "record"], .recordPattern⟩,
    ⟨.get, ["patterns", "query"], .queryPatterns⟩,
    ⟨.get, ["patterns", "list"], .listPatterns⟩,
    ⟨.put, ["patterns", .parameter, "boost"], .boostPattern⟩,
    ⟨.delete, ["patterns", .parameter], .deletePattern⟩,
    ⟨.get, ["skills", .parameter], .getActiveSkill⟩,
    ⟨.get, ["skills", .parameter, "version", .parameter], .getSkillVersion⟩,
    ⟨.get, ["skills", .parameter, "history"], .getSkillHistory⟩,
    ⟨.post, ["skills", .parameter], .createSkillVersion⟩,
    ⟨.post, ["skills", .parameter, "rollback", .parameter], .rollbackSkill⟩,
    ⟨.get, ["skills"], .searchSkills⟩,
    ⟨.post, ["interactions", .parameter, .parameter], .storeInteraction⟩,
    ⟨.get, ["interactions", .parameter, .parameter], .getUserInteractions⟩,
    ⟨.get, ["interactions", .parameter], .getTenantInteractions⟩,
    ⟨.get, ["audit", .parameter], .getAuditTrail⟩,
    ⟨.post, ["registry", "agents"], .registerAgent⟩,
    ⟨.put, ["registry", "agents", .parameter, "heartbeat"], .heartbeat⟩,
    ⟨.get, ["registry", "agents"], .listAgents⟩,
    ⟨.delete, ["registry", "agents", .parameter], .deregisterAgent⟩,
    ⟨.post, ["jobs"], .createJob⟩,
    ⟨.get, ["jobs", .parameter], .getJob⟩,
    ⟨.put, ["jobs", .parameter], .updateJob⟩,
    ⟨.post, ["v1", "user-state", "get"], .getUserState⟩,
    ⟨.post, ["v1", "user-state", "put"], .putUserState⟩,
    ⟨.post, ["v1", "event", "push"], .pushEvent⟩,
    ⟨.post, ["v1", "event", "drain"], .drainEvents⟩,
    ⟨.post, ["v1", "evaluation-decisions", "create"], .createDecision⟩,
    ⟨.post, ["v1", "evaluation-decisions", "get"], .getDecision⟩,
    ⟨.post, ["v1", "evaluation-decisions", "override"], .overrideCriterion⟩,
    ⟨.post, ["v1", "evaluation-decisions", "approve"], .approveDecision⟩,
    ⟨.post, ["v1", "evaluation-decisions", "list"], .listDecisions⟩,
    ⟨.post, ["v1", "evaluation-comments", "add"], .addComment⟩,
    ⟨.post, ["v1", "evaluation-comments", "list"], .listComments⟩]

def optionalText (text : Option String) : Json := (text.map Json.str).getD .null

/-- An element of an event queue. -/
structure QueuedEvent where
  eventType : String
  summary : String
  priority : String
  sourceService : String
  metadata : List (String × Json)
  timestamp : Rat

def QueuedEvent.toDict (event : QueuedEvent) : Json :=
  .obj [("event_type", .str event.eventType), ("summary", .str event.summary),
    ("priority", .str event.priority), ("source_service", .str event.sourceService),
    ("metadata", .obj event.metadata), ("timestamp", .num event.timestamp)]

structure Comment where
  commentId : String
  evaluationId : String
  tenantId : String
  criterionId : Option String
  authorId : String
  authorRole : String
  content : String
  parentCommentId : Option String
  createdAt : Rat

def Comment.toDict (comment : Comment) : Json :=
  .obj [("comment_id", .str comment.commentId), ("evaluation_id", .str comment.evaluationId),
    ("tenant_id", .str comment.tenantId), ("criterion_id", optionalText comment.criterionId),
    ("author_id", .str comment.authorId), ("author_role", .str comment.authorRole),
    ("content", .str comment.content),
    ("parent_comment_id", optionalText comment.parentCommentId),
    ("created_at", .num comment.createdAt)]

def Override.toDict (entry : Override) : Json :=
  .obj [("id", .str entry.id), ("criterion_id", .str entry.criterionId),
    ("ai_result", .str entry.aiResult), ("user_result", .str entry.userResult),
    ("reason", .str entry.reason), ("overridden_by", .str entry.overriddenBy),
    ("overridden_at", .num entry.overriddenAt)]

def DecisionStatus.text : DecisionStatus → String
  | .draft => "draft"
  | .approved => "approved"

def Decision.toDict (decision : Decision) : Json :=
  .obj [("evaluation_id", .str decision.evaluationId), ("tenant_id", .str decision.tenantId),
    ("control_id", .str decision.controlId), ("framework", .str decision.framework),
    ("ai_score", .num decision.aiScore), ("ai_status", .str decision.aiStatus),
    ("final_score", .num decision.finalScore), ("final_status", .str decision.finalStatus),
    ("status", .str decision.status.text),
    ("overrides", .arr (decision.overrides.map Override.toDict)),
    ("approved_by", optionalText decision.approvedBy),
    ("approved_at", (decision.approvedAt.map Json.num).getD .null),
    ("notes", optionalText decision.notes), ("created_at", .num decision.createdAt),
    ("updated_at", .num decision.updatedAt)]

section

open Codec

def textPair (first second : String) (body : Json) : Option (String × String) := do
  let entries ← fields.decode body
  let one ← str.required first entries
  let two ← str.required second entries
  return (one, two)

def UserStateGetBody.parse : Json → Option (String × String) := textPair "user_id" "tenant_id"

def EventDrainBody.parse : Json → Option (String × String) := textPair "user_id" "tenant_id"

def DecisionGetBody.parse : Json → Option (String × String) := textPair "evaluation_id" "tenant_id"

def CommentListBody.parse : Json → Option (String × String) := textPair "evaluation_id" "tenant_id"

structure UserStatePutBody where
  userId : String
  tenantId : String
  data : List (String × Json)

def UserStatePutBody.parse (body : Json) : Option UserStatePutBody := do
  let entries ← fields.decode body
  let userId ← str.required "user_id" entries
  let tenantId ← str.required "tenant_id" entries
  let data ← fields.required "data" entries
  return { userId, tenantId, data }

structure EventPushBody where
  userId : String
  tenantId : String
  eventType : String
  summary : String
  priority : String := "medium"
  sourceService : String := ""
  metadata : List (String × Json) := []

def EventPushBody.parse (body : Json) : Option EventPushBody := do
  let entries ← fields.decode body
  let userId ← str.required "user_id" entries
  let tenantId ← str.required "tenant_id" entries
  let eventType ← str.required "event_type" entries
  let summary ← str.required "summary" entries
  let priority ← str.withDefault "priority" "medium" entries
  let sourceService ← str.withDefault "source_service" "" entries
  let metadata ← fields.withDefault "metadata" [] entries
  return { userId, tenantId, eventType, summary, priority, sourceService, metadata }

/-- The score is read as a number. -/
def DecisionCreateBody.parse (body : Json) : Option DecisionCreateBody := do
  let entries ← fields.decode body
  let evaluationId ← str.required "evaluation_id" entries
  let tenantId ← str.required "tenant_id" entries
  let controlId ← str.required "control_id" entries
  let framework ← str.required "framework" entries
  let aiScore ← rat.required "ai_score" entries
  let aiStatus ← str.required "ai_status" entries
  return { evaluationId, tenantId, controlId, framework, aiScore, aiStatus }

def DecisionOverrideBody.parse (body : Json) : Option DecisionOverrideBody := do
  let entries ← fields.decode body
  let evaluationId ← str.required "evaluation_id" entries
  let tenantId ← str.required "tenant_id" entries
  let criterionId ← str.required "criterion_id" entries
  let aiResult ← str.required "ai_result" entries
  let userResult ← str.required "user_result" entries
  let reason ← str.required "reason" entries
  let overriddenBy ← str.required "overridden_by" entries
  return { evaluationId, tenantId, criterionId, aiResult, userResult, reason, overriddenBy }

def DecisionApproveBody.parse (body : Json) : Option DecisionApproveBody := do
  let entries ← fields.decode body
  let evaluationId ← str.required "evaluation_id" entries
  let tenantId ← str.required "tenant_id" entries
  let approvedBy ← str.required "approved_by" entries
  let notes ← str.withDefault "notes" "" entries
  return { evaluationId, tenantId, approvedBy, notes }

structure CommentAddBody where
  evaluationId : String
  tenantId : String
  authorId : String
  authorRole : String
  content : String
  criterionId : Option String := none
  parentCommentId : Option String := none

def CommentAddBody.parse (body : Json) : Option CommentAddBody := do
  let entries ← fields.decode body
  let evaluationId ← str.required "evaluation_id" entries
  let tenantId ← str.required "tenant_id" entries
  let authorId ← str.required "author_id" entries
  let authorRole ← str.required "author_role" entries
  let content ← str.required "content" entries
  let criterionId ← (str.nullable solid_str).withDefault "criterion_id" none entries
  let parentCommentId ← (str.nullable solid_str).withDefault "parent_comment_id" none entries
  return { evaluationId, tenantId, authorId, authorRole, content, criterionId, parentCommentId }

structure RegisterAgentBody where
  id : String
  name : String
  url : String
  capabilities : List String := []
  metadata : Option (List (String × Json)) := none

def RegisterAgentBody.parse (body : Json) : Option RegisterAgentBody := do
  let entries ← fields.decode body
  let id ← str.required "id" entries
  let name ← str.required "name" entries
  let url ← str.required "url" entries
  let capabilities ← str.list.withDefault "capabilities" [] entries
  let metadata ← (fields.nullable solid_fields).withDefault "metadata" none entries
  return { id, name, url, capabilities, metadata }

end

/-! ## Endpoints -/

/-- What is in Redis, by its keys. -/
structure RedisState where
  userStates : Dict String (List (String × Json)) := Dict.empty
  eventQueues : Dict String (List QueuedEvent) := Dict.empty
  decisions : Decisions := Dict.empty
  comments : Dict String (List Comment) := Dict.empty

/-- What `uuid4` and two looks at the clock give during a request. -/
structure Moment where
  uuid : String
  first : Rat
  second : Rat

structure ApiReply where
  statusCode : Nat
  body : Json

def ApiReply.detail (statusCode : Nat) (text : String) : ApiReply :=
  ⟨statusCode, .obj [("detail", .str text)]⟩

/-- A body that is not valid. -/
def ApiReply.unprocessable : ApiReply := ⟨422, .obj [("detail", .arr [])]⟩

def userStateKey (tenantId userId : String) : String := "user_state:" ++ tenantId ++ ":" ++ userId

def commentsKey (tenantId evaluationId : String) : String :=
  "eval_comments:" ++ tenantId ++ ":" ++ evaluationId

namespace RedisState

variable (state : RedisState)

def getUserState (userId tenantId : String) : RedisState × ApiReply :=
  (state, ⟨200, .obj ((state.userStates.get? (userStateKey tenantId userId)).getD [])⟩)

def putUserState (body : UserStatePutBody) : RedisState × ApiReply :=
  ({ state with
      userStates := state.userStates.set (userStateKey body.tenantId body.userId) body.data },
    ⟨200, .obj [("status", .str "ok")]⟩)

def eventQueue (tenantId userId : String) : List QueuedEvent :=
  (state.eventQueues.get? (redisKey tenantId userId)).getD []

def pushEvent (moment : Moment) (body : EventPushBody) : RedisState × ApiReply :=
  let event : QueuedEvent :=
    { eventType := body.eventType
      summary := body.summary
      priority := body.priority
      sourceService := body.sourceService
      metadata := body.metadata
      timestamp := moment.first }
  let queue := state.eventQueue body.tenantId body.userId
  ({ state with
      eventQueues := state.eventQueues.set (redisKey body.tenantId body.userId)
        (MemoryService.pushEvent QueuedEvent.priority queue event).1 },
    ⟨200, .obj [("status", .str "ok")]⟩)

def drainEvents (userId tenantId : String) : RedisState × ApiReply :=
  ({ state with eventQueues := state.eventQueues.erase (redisKey tenantId userId) },
    ⟨200, .obj [("events", .arr ((state.eventQueue tenantId userId).map QueuedEvent.toDict))]⟩)

def createDecision (moment : Moment) (body : DecisionCreateBody) : RedisState × ApiReply :=
  let created := MemoryService.createDecision body moment.first moment.second state.decisions
  ({ state with decisions := created.2 },
    ⟨200, .obj [("status", .str "ok"), ("decision", created.1.toDict)]⟩)

def getDecision (evaluationId tenantId : String) : RedisState × ApiReply :=
  (state, ⟨200, ((state.decisions.get? (decisionKey tenantId evaluationId)).map
    Decision.toDict).getD (.obj [])⟩)

/-- What a write endpoint of the decisions answers. -/
def written {Item : Type} (name : String) (toDict : Item → Json) :
    Except HTTPException (Item × Decisions) → RedisState × ApiReply
  | .error raised => (state, .detail raised.statusCode raised.detail)
  | .ok (item, decisions) =>
    ({ state with decisions }, ⟨200, .obj [("status", .str "ok"), (name, toDict item)]⟩)

def overrideCriterion (moment : Moment) (body : DecisionOverrideBody) : RedisState × ApiReply :=
  state.written "override" Override.toDict
    (MemoryService.overrideCriterion body moment.uuid moment.first moment.second state.decisions)

def approveDecision (moment : Moment) (body : DecisionApproveBody) : RedisState × ApiReply :=
  state.written "decision" Decision.toDict
    (MemoryService.approveDecision body moment.first moment.second state.decisions)

def commentsOf (tenantId evaluationId : String) : List Comment :=
  (state.comments.get? (commentsKey tenantId evaluationId)).getD []

def addComment (moment : Moment) (body : CommentAddBody) : RedisState × ApiReply :=
  let comment : Comment :=
    { commentId := moment.uuid
      evaluationId := body.evaluationId
      tenantId := body.tenantId
      criterionId := body.criterionId
      authorId := body.authorId
      authorRole := body.authorRole
      content := body.content
      parentCommentId := body.parentCommentId
      createdAt := moment.first }
  ({ state with
      comments := state.comments.set (commentsKey body.tenantId body.evaluationId)
        (state.commentsOf body.tenantId body.evaluationId ++ [comment]) },
    ⟨200, .obj [("status", .str "ok"), ("comment", comment.toDict)]⟩)

def listComments (evaluationId tenantId : String) : RedisState × ApiReply :=
  (state, ⟨200, .obj [("comments",
    .arr ((state.commentsOf tenantId evaluationId).map Comment.toDict))]⟩)

variable {state}

section

variable {body : DecisionOverrideBody} (moment : Moment)

theorem overrideCriterion_of_blank (blank : body.lacksReason) :
    state.overrideCriterion moment body = (state, .detail 422 "Override reason is required") := by
  rw [overrideCriterion, MemoryService.overrideCriterion, if_pos blank]
  rfl

theorem overrideCriterion_of_missing (reasoned : ¬ body.lacksReason)
    (missing : state.decisions.get? (decisionKey body.tenantId body.evaluationId) = none) :
    state.overrideCriterion moment body = (state, .detail 404 "Decision not found") := by
  rw [overrideCriterion, MemoryService.overrideCriterion, if_neg reasoned, readDecision, missing]
  rfl

theorem overrideCriterion_of_found (reasoned : ¬ body.lacksReason) {decision : Decision}
    (found : state.decisions.get? (decisionKey body.tenantId body.evaluationId) = some decision) :
    state.overrideCriterion moment body =
      ({ state with
          decisions := state.decisions.set (decisionKey body.tenantId body.evaluationId)
            (decision.overridden (body.entry moment.uuid moment.first) moment.second) },
        ⟨200, .obj [("status", .str "ok"),
          ("override", (body.entry moment.uuid moment.first).toDict)]⟩) := by
  rw [overrideCriterion, MemoryService.overrideCriterion, if_neg reasoned, readDecision, found]
  rfl

end

section

variable {body : DecisionApproveBody} (moment : Moment)

theorem approveDecision_of_missing
    (missing : state.decisions.get? (decisionKey body.tenantId body.evaluationId) = none) :
    state.approveDecision moment body = (state, .detail 404 "Decision not found") := by
  rw [approveDecision, MemoryService.approveDecision, readDecision, missing]
  rfl

theorem approveDecision_of_found {decision : Decision}
    (found : state.decisions.get? (decisionKey body.tenantId body.evaluationId) = some decision) :
    state.approveDecision moment body =
      ({ state with
          decisions := state.decisions.set (decisionKey body.tenantId body.evaluationId)
            (decision.approve body moment.first moment.second) },
        ⟨200, .obj [("status", .str "ok"),
          ("decision", (decision.approve body moment.first moment.second).toDict)]⟩) := by
  rw [approveDecision, MemoryService.approveDecision, readDecision, found]
  rfl

end

variable (state)

def withBody {Body : Type} (parsed : Option Body) (run : Body → RedisState × ApiReply) :
    RedisState × ApiReply :=
  match parsed with
  | none => (state, .unprocessable)
  | some body => run body

end RedisState

structure ApiRequest where
  method : Method
  path : List String
  headers : Headers
  params : List (String × String) := []
  body : Json := .null

/-- The service, with what its other endpoints do. -/
structure MemoryHost where
  sha256 : String → String
  others : Endpoint → ApiRequest → RedisState → RedisState × ApiReply

namespace MemoryHost

variable (host : MemoryHost)

/-- What an endpoint does for a caller that may use it. -/
def handle (state : RedisState) (moment : Moment) (request : ApiRequest) :
    Endpoint → RedisState × ApiReply
  | .getUserState => state.withBody (UserStateGetBody.parse request.body) fun body =>
    state.getUserState body.1 body.2
  | .putUserState => state.withBody (UserStatePutBody.parse request.body) state.putUserState
  | .pushEvent => state.withBody (EventPushBody.parse request.body) (state.pushEvent moment)
  | .drainEvents => state.withBody (EventDrainBody.parse request.body) fun body =>
    state.drainEvents body.1 body.2
  | .createDecision =>
    state.withBody (DecisionCreateBody.parse request.body) (state.createDecision moment)
  | .getDecision => state.withBody (DecisionGetBody.parse request.body) fun body =>
    state.getDecision body.1 body.2
  | .overrideCriterion =>
    state.withBody (DecisionOverrideBody.parse request.body) (state.overrideCriterion moment)
  | .approveDecision =>
    state.withBody (DecisionApproveBody.parse request.body) (state.approveDecision moment)
  | .addComment => state.withBody (CommentAddBody.parse request.body) (state.addComment moment)
  | .listComments => state.withBody (CommentListBody.parse request.body) fun body =>
    state.listComments body.1 body.2
  | other => host.others other request state

def answer (state : RedisState) (moment : Moment) (request : ApiRequest) : RedisState × ApiReply :=
  match resolve routes request.method request.path with
  | .notFound => (state, .detail 404 "Not Found")
  | .methodNotAllowed => (state, .detail 405 "Method Not Allowed")
  | .redirect => (state, ⟨307, .null⟩)
  | .endpoint endpoint =>
    if endpoint.isOpen then host.handle state moment request endpoint
    else
      match verifyService none host.sha256 request.headers with
      | .error refused => (state, .detail refused.statusCode refused.detail)
      | .ok _ => host.handle state moment request endpoint

variable {host} {state : RedisState} {request : ApiRequest}

theorem answer_of_notFound (moment : Moment)
    (unknown : resolve routes request.method request.path = .notFound) :
    host.answer state moment request = (state, .detail 404 "Not Found") := by
  rw [answer, unknown]

theorem answer_of_refused (moment : Moment) {endpoint : Endpoint}
    (found : resolve routes request.method request.path = .endpoint endpoint)
    (guarded : endpoint.isOpen = false) {refused : Common.HTTPException}
    (denied : verifyService none host.sha256 request.headers = .error refused) :
    host.answer state moment request = (state, .detail refused.statusCode refused.detail) := by
  simp only [answer, found, guarded, denied, Bool.false_eq_true, if_false]

theorem answer_of_accepted (moment : Moment) {endpoint : Endpoint}
    (found : resolve routes request.method request.path = .endpoint endpoint)
    (guarded : endpoint.isOpen = false) {identity : Common.ServiceIdentity}
    (allowed : verifyService none host.sha256 request.headers = .ok identity) :
    host.answer state moment request = host.handle state moment request endpoint := by
  simp only [answer, found, guarded, allowed, Bool.false_eq_true, if_false]

end MemoryHost

theorem isOpen_of_method {route : Route Endpoint} (member : route ∈ routes)
    (writes : route.method ≠ .get) : route.endpoint.isOpen = false := by
  revert route
  decide

end Onpremai.MemoryService
