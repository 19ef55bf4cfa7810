import Onpremai.Common.MemoryClient
import Onpremai.MemoryService.Api

/-!
# Contracts of the shared clients

What a client sends is taken to the service that it names.  A call is good if the service has a
route for it and accepts its payload, and if a recall after it delivers what was stored.
-/

namespace Onpremai.Common

open Onpremai.Library
open Onpremai.Library.Routing (Method Route segments resolve)
open Onpremai.MemoryService (ApiReply ApiRequest Endpoint MemoryHost Moment RedisState)

/-- A call of the sandbox client's `execute`. -/
structure ExecuteCall where
  code : String
  files : Option (List (String × String)) := none
  timeoutSec : Int := 60
  memoryLimitMb : Int := 512
  traceId : Option String := none

namespace ExecuteCall

def payload (call : ExecuteCall) : Fields :=
  [("code", .str call.code), ("timeout_sec", .num call.timeoutSec),
    ("memory_limit_mb", .num call.memoryLimitMb)] ++
    given "files" (call.files.map fun files => .obj (files.map fun file => (file.1, .str file.2)))

def headers (call : ExecuteCall) : Headers := [("content-type", "application/json")] ++
    (call.traceId.map fun traceId => ("x-trace-id", traceId)).toList

end ExecuteCall

inductive SandboxEndpoint where
  | openapi
  | docs
  | docsRedirect
  | redoc
  | execute
  | health
  | ready
  | metrics
  deriving DecidableEq, Repr

def sandboxRoutes : List (Route SandboxEndpoint) := [⟨.get, ["openapi.json"], .openapi⟩,
    ⟨.get, ["docs"], .docs⟩,
    ⟨.get, ["docs", "oauth2-redirect"], .docsRedirect⟩,
    ⟨.get, ["redoc"], .redoc⟩,
    ⟨.post, ["execute"], .execute⟩,
    ⟨.get, ["health"], .health⟩,
    ⟨.get, ["ready"], .ready⟩,
    ⟨.get, ["metrics"], .metrics⟩]

/-- The sandbox service, with what it does for a request whose files are a list, and at its other
endpoints. -/
structure SandboxHost where
  sha256 : String → String
  run : List Json → Fields → ApiReply
  others : SandboxEndpoint → ApiRequest → ApiReply

def SandboxHost.executeCode (host : SandboxHost) (body : Json) : ApiReply :=
  match body with
  | .obj entries =>
    match (Json.field? "files" entries).getD (.arr []) with
    | .arr files => host.run files entries
    | _ => .unprocessable
  | _ => .unprocessable

def SandboxHost.answer (host : SandboxHost) (request : ApiRequest) : ApiReply :=
  match resolve sandboxRoutes request.method request.path with
  | .notFound => .detail 404 "Not Found"
  | .methodNotAllowed => .detail 405 "Method Not Allowed"
  | .redirect => ⟨307, .null⟩
  | .endpoint .execute =>
    match verifyService none host.sha256 request.headers with
    | .error refused => .detail refused.statusCode refused.detail
    | .ok _ => host.executeCode request.body
  | .endpoint other => host.others other request

/-- A call of the registry client. -/
inductive RegistryCall where
  | register (agentType version : String) (capabilities : List String) (endpoint : String)
      (maxConcurrency : Int) (tenantScope : Option String) (metadata : Option Fields)
  | heartbeat (agentId health : String) (currentLoad queueDepth : Int)
      (degradationReason : Option String)
  | discover (task : String) (tenantId healthFilter : Option String)
  | deregister (agentId : String)

namespace RegistryCall

def method : RegistryCall → Method
  | register .. => .post
  | heartbeat .. => .put
  | discover .. => .get
  | deregister .. => .delete

/-- The segments of the path.  `urlPath` is what the HTTP library makes of a path with an agent's
id in it, unless the URL is invalid. -/
def path (urlPath : String → Option (List String)) : RegistryCall → Option (List String)
  | register .. => some (segments "/registry/agents")
  | heartbeat agentId .. => urlPath ("/registry/agents/" ++ agentId ++ "/heartbeat")
  | discover .. => some (segments "/registry/agents/discover")
  | deregister agentId => urlPath ("/registry/agents/" ++ agentId)

def payload : RegistryCall → Json
  | register agentType version capabilities endpoint maxConcurrency tenantScope metadata =>
    .obj ([("agent_type", .str agentType), ("version", .str version),
      ("capabilities", Json.strings capabilities), ("endpoint", .str endpoint),
      ("max_concurrency", .num maxConcurrency)] ++
      given "tenant_scope" (tenantScope.map .str) ++ given "metadata" (metadata.map .obj))
  | heartbeat _ health currentLoad queueDepth degradationReason =>
    .obj ([("health", .str health), ("current_load", .num currentLoad),
      ("queue_depth", .num queueDepth)] ++
      given "degradation_reason" (degradationReason.map .str))
  | discover .. | deregister _ => .null

def params : RegistryCall → List (String × String)
  | discover task tenantId healthFilter =>
    [("task", task)] ++ (tenantId.map fun tenantId => ("tenant_id", tenantId)).toList ++
      (healthFilter.map fun health => ("health", health)).toList
  | _ => []

/-- The headers of the registry client. -/
def headers : Headers := [("content-type", "application/json")]

end RegistryCall

inductive ClientCall where
  | memory (call : MemoryCall)
  | sandbox (call : ExecuteCall)
  | registry (call : RegistryCall)

/-- The services, and what the HTTP library makes of a path. -/
structure Services where
  memory : MemoryHost
  sandbox : SandboxHost
  urlPath : String → Option (List String)

def post (host : MemoryHost) (client : MemoryClient) (state : RedisState) (moment : Moment)
    (call : MemoryCall) : RedisState × ApiReply :=
  host.answer state moment
    { method := .post
      path := segments call.path
      headers := client.headers
      body := .obj call.payload }

def send (services : Services) (state : RedisState) (moment : Moment) (call : RegistryCall) :
    Option (RedisState × ApiReply) :=
  (call.path services.urlPath).map fun path => services.memory.answer state moment
    { method := call.method
      path
      headers := RegistryCall.headers
      params := call.params
      body := call.payload }

def statusOf (services : Services) (client : MemoryClient) (state : RedisState)
    (moment : Moment) : ClientCall → Option Nat
  | .memory call => some (post services.memory client state moment call).2.statusCode
  | .sandbox call => some (services.sandbox.answer
      { method := .post
        path := segments "/execute"
        headers := call.headers
        body := .obj call.payload }).statusCode
  | .registry call => (send services state moment call).map fun sent => sent.2.statusCode

/-! ## What is delivered -/

/-- The recalls that ask for what a call stores. -/
inductive Recalls : MemoryCall → MemoryCall → Prop where
  | session {sessionId messages metadata limit} (room : (messages.length : Int) ≤ limit) :
      Recalls (.sessionStore sessionId messages metadata) (.sessionRecall sessionId limit)
  | user {userId fact category metadata topK asked} (positive : 1 ≤ topK)
      (within : asked = none ∨ asked = some category) :
      Recalls (.userStore userId fact category metadata) (.userRecall userId fact topK asked)
  | tenant {tenantId fact category metadata topK asked} (positive : 1 ≤ topK)
      (within : asked = none ∨ asked = some category) :
      Recalls (.tenantStore tenantId fact category metadata)
        (.tenantRecall tenantId fact topK asked)
  | task {taskId tenantId data metadata} :
      Recalls (.taskStore taskId tenantId data metadata) (.taskRecall taskId tenantId)
  | eval {tenantId framework controlId result metadata asked limit} (positive : 1 ≤ limit)
      (within : asked = none ∨ asked = some controlId) :
      Recalls (.evalStore tenantId framework controlId result metadata)
        (.evalRecall tenantId framework asked limit)
  | pattern {tenantId patternType pattern metadata asked limit} (positive : 1 ≤ limit)
      (within : asked = none ∨ asked = some patternType) :
      Recalls (.patternStore tenantId patternType pattern metadata)
        (.patternRecall tenantId asked limit)
  | skill {tenantId skillName skillData metadata asked}
      (within : asked = none ∨ asked = some skillName) :
      Recalls (.skillStore tenantId skillName skillData metadata) (.skillRecall tenantId asked)
  | interaction {userId tenantId interactionType data metadata asked limit} (positive : 1 ≤ limit)
      (within : asked = none ∨ asked = some interactionType) :
      Recalls (.interactionStore userId tenantId interactionType data metadata)
        (.interactionRecall userId tenantId asked limit)
  | userState {userId tenantId data} :
      Recalls (.userStatePut userId tenantId data) (.userStateGet userId tenantId)
  | events {userId tenantId eventType summary priority sourceService metadata} :
      Recalls (.eventQueuePush userId tenantId eventType summary priority sourceService metadata)
        (.eventQueueDrain userId tenantId)
  | created {evaluationId tenantId controlId framework aiScore aiStatus} :
      Recalls (.evalDecisionCreate evaluationId tenantId controlId framework aiScore aiStatus)
        (.evalDecisionGet evaluationId tenantId)
  | overridden {evaluationId tenantId criterionId aiResult userResult reason overriddenBy} :
      Recalls (.evalDecisionOverride evaluationId tenantId criterionId aiResult userResult reason
        overriddenBy) (.evalDecisionGet evaluationId tenantId)
  | approved {evaluationId tenantId approvedBy notes} :
      Recalls (.evalDecisionApprove evaluationId tenantId approvedBy notes)
        (.evalDecisionGet evaluationId tenantId)
  | comments {evaluationId tenantId authorId authorRole content criterionId parentCommentId} :
      Recalls (.evalCommentsAdd evaluationId tenantId authorId authorRole content criterionId
        parentCommentId) (.evalCommentsList evaluationId tenantId)

def Carries (data : Fields) (value : Json) : Prop :=
  ∀ field ∈ data, value.get? field.1 = some field.2

/-- The value is a list with such a dictionary in it. -/
def HasItem (data : Fields) (value : Json) : Prop :=
  ∃ items, value = .arr items ∧ ∃ item ∈ items, Carries data item

/-- What a recall has to return for the call that stored. -/
def Delivers : MemoryCall → Json → Prop
  | .sessionStore _ messages _, value =>
    ∃ items, value = .arr items ∧ (messages.map Json.obj).Sublist items
  | .userStore _ fact category _, value | .tenantStore _ fact category _, value =>
    HasItem [("fact", .str fact), ("category", .str category)] value
  | .taskStore _ _ data _, value => Carries [("data", .obj data)] value
  | .evalStore _ _ _ result _, value => HasItem [("result", .obj result)] value
  | .patternStore _ patternType pattern _, value =>
    HasItem [("pattern_type", .str patternType), ("pattern", .obj pattern)] value
  | .skillStore _ skillName skillData _, value =>
    HasItem [("skill_name", .str skillName), ("skill_data", .obj skillData)] value
  | .interactionStore _ _ interactionType data _, value =>
    HasItem [("interaction_type", .str interactionType), ("data", .obj data)] value
  | .userStatePut _ _ data, value => value = .obj data
  | .eventQueuePush _ _ eventType summary priority sourceService metadata, value =>
    HasItem [("event_type", .str eventType), ("summary", .str summary),
      ("priority", .str priority), ("source_service", .str sourceService),
      ("metadata", .obj (metadata.getD []))] value
  | .evalDecisionCreate evaluationId tenantId controlId framework aiScore aiStatus, value =>
    Carries [("evaluation_id", .str evaluationId), ("tenant_id", .str tenantId),
      ("control_id", .str controlId), ("framework", .str framework),
      ("ai_score", .num aiScore), ("ai_status", .str aiStatus)] value
  | .evalDecisionOverride _ _ criterionId aiResult userResult reason overriddenBy, value =>
    ∃ overrides, value.get? "overrides" = some overrides ∧
      HasItem [("criterion_id", .str criterionId), ("ai_result", .str aiResult),
        ("user_result", .str userResult), ("reason", .str reason),
        ("overridden_by", .str overriddenBy)] overrides
  | .evalDecisionApprove _ _ approvedBy notes, value =>
    Carries [("status", .str "approved"), ("approved_by", .str approvedBy),
      ("notes", .str notes)] value
  | .evalCommentsAdd evaluationId tenantId authorId authorRole content criterionId
      parentCommentId, value =>
      HasItem [("evaluation_id", .str evaluationId), ("tenant_id", .str tenantId),
        ("author_id", .str authorId), ("author_role", .str authorRole),
        ("content", .str content), ("criterion_id", MemoryService.optionalText criterionId),
        ("parent_comment_id", MemoryService.optionalText parentCommentId)] value
  | _, _ => True

def recalled (host : MemoryHost) (client : MemoryClient) (state : RedisState) (moment : Moment)
    (call : MemoryCall) : Json :=
  let reply := (post host client state moment call).2
  call.returned reply.statusCode reply.body

/-- The service accepts the call, and what the call stores is delivered to every recall that asks
for it next. -/
structure Works (services : Services) (client : MemoryClient) (state : RedisState)
    (moment : Moment) (call : ClientCall) : Prop where
  accepted : statusOf services client state moment call = some 200
  delivered : ∀ stored asked later, call = .memory stored → Recalls stored asked → Delivers stored
      (recalled services.memory client (post services.memory client state moment stored).1 later
        asked)

/-- The client has credentials that are not blank. -/
def MemoryClient.Authenticates (client : MemoryClient) : Prop :=
  Text.strip client.serviceId ≠ "" ∧ Text.strip client.serviceKey ≠ ""

def HasDecision (state : RedisState) (tenantId evaluationId : String) : Prop :=
  ∃ decision, state.decisions.get? (MemoryService.decisionKey tenantId evaluationId) = some decision

/-- The service has an endpoint for the call, which can do what it asks. -/
def MemoryCall.Served (state : RedisState) : MemoryCall → Prop
  | .userStateGet .. | .userStatePut .. | .eventQueuePush .. | .eventQueueDrain ..
  | .evalDecisionCreate .. | .evalDecisionGet .. | .evalCommentsAdd .. | .evalCommentsList .. =>
    True
  | .evalDecisionOverride evaluationId tenantId _ _ _ reason _ =>
    Text.strip reason ≠ "" ∧ HasDecision state tenantId evaluationId
  | .evalDecisionApprove evaluationId tenantId .. => HasDecision state tenantId evaluationId
  | _ => False

def ClientCall.Served (client : MemoryClient) (state : RedisState) : ClientCall → Prop
  | .memory call => client.Authenticates ∧ call.Served state
  | .sandbox _ | .registry _ => False

theorem get?_serviceId (headers : Headers) :
    headers.get? "X-Service-Id" = Dict.findEntry "x-service-id" headers := by
  rw [Headers.get?, show Text.lower "X-Service-Id" = "x-service-id" by decide]

theorem get?_serviceKey (headers : Headers) :
    headers.get? "X-Service-Key" = Dict.findEntry "x-service-key" headers := by
  rw [Headers.get?, show Text.lower "X-Service-Key" = "x-service-key" by decide]

theorem isBlank_eq (text : String) : isBlank text = decide (Text.strip text = "") := by
  have strip_empty : Text.strip "" = "" := by decide
  by_cases empty : text = ""
  · rw [empty, isBlank, strip_empty]
    rfl
  · rw [isBlank, decide_eq_false empty, Bool.false_or]

theorem verifyService_of_absent {sha256 : String → String} {headers : Headers}
    (absent : headers.get? "X-Service-Id" = none) :
    verifyService none sha256 headers = .error ⟨422, "Unprocessable Entity"⟩ := by
  rw [verifyService, absent]

theorem headers_of_given {client : MemoryClient} (idGiven : client.serviceId ≠ "")
    (keyGiven : client.serviceKey ≠ "") :
    client.headers = [("content-type", "application/json"), ("x-service-id", client.serviceId),
      ("x-service-key", client.serviceKey)] := by
  rw [MemoryClient.headers, if_pos ⟨idGiven, keyGiven⟩]
  rfl

section

variable (sha256 : String → String) {client : MemoryClient}

theorem verifyService_of_authenticates (authenticates : client.Authenticates) :
    ∃ identity, verifyService none sha256 client.headers = .ok identity := by
  have nonempty {text : String} (visible : Text.strip text ≠ "") : text ≠ "" := by
    intro empty
    rw [empty] at visible
    exact visible (by decide)
  rw [headers_of_given (nonempty authenticates.1) (nonempty authenticates.2), verifyService,
    get?_serviceId, get?_serviceKey]
  simp [Dict.findEntry, isBlank_eq, authenticates.1, authenticates.2]

theorem verifyService_of_not_authenticates (anonymous : ¬ client.Authenticates) :
    ∃ refused, verifyService none sha256 client.headers = .error refused ∧
      refused.statusCode ≠ 200 := by
  by_cases sent : client.serviceId ≠ "" ∧ client.serviceKey ≠ ""
  · rw [headers_of_given sent.1 sent.2, verifyService, get?_serviceId, get?_serviceKey]
    simp only [Dict.findEntry, isBlank_eq]
    by_cases blankId : Text.strip client.serviceId = ""
    · simp [blankId]
    · have blankKey : Text.strip client.serviceKey = "" :=
        not_not.mp fun visible => anonymous ⟨blankId, visible⟩
      simp [blankId, blankKey]
  · have absent : client.headers.get? "X-Service-Id" = none := by
      rw [get?_serviceId, MemoryClient.headers, if_neg sent]
      rfl
    exact ⟨_, verifyService_of_absent absent, by decide⟩

end

def MemoryCall.endpoint? : MemoryCall → Option Endpoint
  | .userStateGet .. => some .getUserState
  | .userStatePut .. => some .putUserState
  | .eventQueuePush .. => some .pushEvent
  | .eventQueueDrain .. => some .drainEvents
  | .evalDecisionCreate .. => some .createDecision
  | .evalDecisionGet .. => some .getDecision
  | .evalDecisionOverride .. => some .overrideCriterion
  | .evalDecisionApprove .. => some .approveDecision
  | .evalCommentsAdd .. => some .addComment
  | .evalCommentsList .. => some .listComments
  | _ => none

theorem resolve_path (call : MemoryCall) : resolve MemoryService.routes .post (segments call.path) =
      call.endpoint?.elim .notFound .endpoint := by
  cases call <;> (simp only [MemoryCall.path, MemoryCall.endpoint?, Option.elim]; decide +kernel)

theorem not_isOpen {call : MemoryCall} {endpoint : Endpoint}
    (routed : call.endpoint? = some endpoint) : endpoint.isOpen = false := by
  cases call <;> cases routed <;> rfl

/-! ## Accepted calls -/

theorem post_of_unrouted (host : MemoryHost) (client : MemoryClient) (state : RedisState)
    (moment : Moment) {call : MemoryCall} (unrouted : call.endpoint? = none) :
    post host client state moment call = (state, .detail 404 "Not Found") := by
  refine MemoryHost.answer_of_notFound moment ?_
  change resolve MemoryService.routes .post (segments call.path) = _
  rw [resolve_path, unrouted]
  rfl

section

variable (host : MemoryHost) {client : MemoryClient} (state : RedisState) (moment : Moment)

theorem post_of_anonymous (anonymous : ¬ client.Authenticates) (call : MemoryCall) :
    (post host client state moment call).2.statusCode ≠ 200 := by
  cases routed : call.endpoint? with
  | none =>
    rw [post_of_unrouted host client state moment routed]
    change 404 ≠ 200
    decide
  | some endpoint =>
    obtain ⟨refused, denied, status⟩ := verifyService_of_not_authenticates host.sha256 anonymous
    have found : resolve MemoryService.routes .post (segments call.path) =
        .endpoint endpoint := by
      rw [resolve_path, routed]
      rfl
    rw [post, MemoryHost.answer_of_refused moment found (not_isOpen routed) denied]
    exact status

theorem post_eq_handle (authenticates : client.Authenticates) {call : MemoryCall}
    {endpoint : Endpoint} (routed : call.endpoint? = some endpoint) :
    post host client state moment call = host.handle state moment
      { method := .post
        path := segments call.path
        headers := client.headers
        body := .obj call.payload } endpoint := by
  obtain ⟨identity, allowed⟩ := verifyService_of_authenticates host.sha256 authenticates
  have found : resolve MemoryService.routes .post (segments call.path) =
      .endpoint endpoint := by
    rw [resolve_path, routed]
    rfl
  exact MemoryHost.answer_of_accepted moment found (not_isOpen routed) allowed

end

section

variable (host : MemoryHost) {client : MemoryClient} (state : RedisState) (moment : Moment)

theorem post_userStateGet (authenticates : client.Authenticates) (userId tenantId : String) :
    post host client state moment (.userStateGet userId tenantId) =
      state.getUserState userId tenantId := by
  rw [post_eq_handle host state moment authenticates rfl]
  rfl

theorem post_userStatePut (authenticates : client.Authenticates) (userId tenantId : String)
    (data : Fields) :
    post host client state moment (.userStatePut userId tenantId data) =
      state.putUserState { userId, tenantId, data } := by
  rw [post_eq_handle host state moment authenticates rfl]
  rfl

theorem post_eventQueuePush (authenticates : client.Authenticates)
    (userId tenantId eventType summary priority sourceService : String)
    (metadata : Option Fields) :
    post host client state moment
        (.eventQueuePush userId tenantId eventType summary priority sourceService metadata) =
      state.pushEvent moment
        { userId, tenantId, eventType, summary, priority, sourceService
          metadata := metadata.getD [] } := by
  rw [post_eq_handle host state moment authenticates rfl]
  cases metadata <;> rfl

theorem post_eventQueueDrain (authenticates : client.Authenticates) (userId tenantId : String) :
    post host client state moment (.eventQueueDrain userId tenantId) =
      state.drainEvents userId tenantId := by
  rw [post_eq_handle host state moment authenticates rfl]
  rfl

theorem post_evalDecisionCreate (authenticates : client.Authenticates)
    (evaluationId tenantId controlId framework : String) (aiScore : Rat) (aiStatus : String) :
    post host client state moment
        (.evalDecisionCreate evaluationId tenantId controlId framework aiScore aiStatus) =
      state.createDecision moment
        { evaluationId, tenantId, controlId, framework, aiScore, aiStatus } := by
  rw [post_eq_handle host state moment authenticates rfl]
  rfl

theorem post_evalDecisionGet (authenticates : client.Authenticates)
    (evaluationId tenantId : String) :
    post host client state moment (.evalDecisionGet evaluationId tenantId) =
      state.getDecision evaluationId tenantId := by
  rw [post_eq_handle host state moment authenticates rfl]
  rfl

theorem post_evalDecisionOverride (authenticates : client.Authenticates)
    (evaluationId tenantId criterionId aiResult userResult reason overriddenBy : String) :
    post host client state moment (.evalDecisionOverride evaluationId tenantId criterionId
        aiResult userResult reason overriddenBy) =
      state.overrideCriterion moment
        { evaluationId, tenantId, criterionId, aiResult, userResult, reason, overriddenBy } := by
  rw [post_eq_handle host state moment authenticates rfl]
  rfl

theorem post_evalDecisionApprove (authenticates : client.Authenticates)
    (evaluationId tenantId approvedBy notes : String) :
    post host client state moment (.evalDecisionApprove evaluationId tenantId approvedBy notes) =
      state.approveDecision moment { evaluationId, tenantId, approvedBy, notes } := by
  rw [post_eq_handle host state moment authenticates rfl]
  rfl

theorem post_evalCommentsAdd (authenticates : client.Authenticates)
    (evaluationId tenantId authorId authorRole content : String)
    (criterionId parentCommentId : Option String) :
    post host client state moment (.evalCommentsAdd evaluationId tenantId authorId authorRole
        content criterionId parentCommentId) =
      state.addComment moment
        { evaluationId, tenantId, authorId, authorRole, content, criterionId
          parentCommentId } := by
  rw [post_eq_handle host state moment authenticates rfl]
  cases criterionId <;> cases parentCommentId <;> rfl

theorem post_evalCommentsList (authenticates : client.Authenticates)
    (evaluationId tenantId : String) :
    post host client state moment (.evalCommentsList evaluationId tenantId) =
      state.listComments evaluationId tenantId := by
  rw [post_eq_handle host state moment authenticates rfl]
  rfl

theorem overrideCriterion_accepted_iff (body : MemoryService.DecisionOverrideBody) :
    (state.overrideCriterion moment body).2.statusCode = 200 ↔
      Text.strip body.reason ≠ "" ∧ HasDecision state body.tenantId body.evaluationId := by
  by_cases blank : body.lacksReason
  · rw [RedisState.overrideCriterion_of_blank moment blank]
    exact iff_of_false (by change ¬ 422 = 200; decide) fun both => both.1 blank
  · rw [and_iff_right (show Text.strip body.reason ≠ "" from blank), HasDecision]
    cases found : state.decisions.get?
        (MemoryService.decisionKey body.tenantId body.evaluationId) with
    | none =>
      rw [RedisState.overrideCriterion_of_missing moment blank found]
      exact iff_of_false (by change ¬ 404 = 200; decide) fun present => by
        obtain ⟨_, absent⟩ := present
        cases absent
    | some decision =>
      rw [RedisState.overrideCriterion_of_found moment blank found]
      exact iff_of_true rfl ⟨decision, rfl⟩

theorem approveDecision_accepted_iff (body : MemoryService.DecisionApproveBody) :
    (state.approveDecision moment body).2.statusCode = 200 ↔
      HasDecision state body.tenantId body.evaluationId := by
  rw [HasDecision]
  cases found : state.decisions.get?
      (MemoryService.decisionKey body.tenantId body.evaluationId) with
  | none =>
    rw [RedisState.approveDecision_of_missing moment found]
    exact iff_of_false (by change ¬ 404 = 200; decide) fun present => by
      obtain ⟨_, absent⟩ := present
      cases absent
  | some decision =>
    rw [RedisState.approveDecision_of_found moment found]
    exact iff_of_true rfl ⟨decision, rfl⟩

theorem post_accepted_iff_of_unrouted (client : MemoryClient) {call : MemoryCall}
    (unrouted : call.endpoint? = none) :
    (post host client state moment call).2.statusCode = 200 ↔ call.Served state := by
  rw [post_of_unrouted host client state moment unrouted]
  refine iff_of_false (by change ¬ 404 = 200; decide) ?_
  cases call <;> first | exact id | cases unrouted

theorem post_accepted_iff (client : MemoryClient) (call : MemoryCall) :
    (post host client state moment call).2.statusCode = 200 ↔
      client.Authenticates ∧ call.Served state := by
  by_cases authenticates : client.Authenticates
  · rw [and_iff_right authenticates]
    cases call with
    | userStateGet =>
      rw [post_userStateGet host state moment authenticates]
      exact iff_of_true rfl trivial
    | userStatePut =>
      rw [post_userStatePut host state moment authenticates]
      exact iff_of_true rfl trivial
    | eventQueuePush =>
      rw [post_eventQueuePush host state moment authenticates]
      exact iff_of_true rfl trivial
    | eventQueueDrain =>
      rw [post_eventQueueDrain host state moment authenticates]
      exact iff_of_true rfl trivial
    | evalDecisionCreate =>
      rw [post_evalDecisionCreate host state moment authenticates]
      exact iff_of_true rfl trivial
    | evalDecisionGet =>
      rw [post_evalDecisionGet host state moment authenticates]
      exact iff_of_true rfl trivial
    | evalDecisionOverride =>
      rw [post_evalDecisionOverride host state moment authenticates]
      exact overrideCriterion_accepted_iff state moment _
    | evalDecisionApprove =>
      rw [post_evalDecisionApprove host state moment authenticates]
      exact approveDecision_accepted_iff state moment _
    | evalCommentsAdd =>
      rw [post_evalCommentsAdd host state moment authenticates]
      exact iff_of_true rfl trivial
    | evalCommentsList =>
      rw [post_evalCommentsList host state moment authenticates]
      exact iff_of_true rfl trivial
    | _ => exact post_accepted_iff_of_unrouted host state moment client rfl
  · exact iff_of_false (post_of_anonymous host state moment authenticates call)
      fun both => authenticates both.1

/-! ## Delivery -/

theorem mem_pushEvent {Item : Type} (priority : Item → String) (queue : List Item) (item : Item) :
    item ∈ (MemoryService.pushEvent priority queue item).1 := by
  rw [MemoryService.pushEvent]
  split
  · exact List.mem_append_right _ List.mem_cons_self
  · exact List.mem_append_right _ List.mem_cons_self

theorem hasItem_map {Item : Type} {toDict : Item → Json} {items : List Item} {data : Fields}
    {item : Item} (member : item ∈ items) (carries : Carries data (toDict item)) :
    HasItem data (.arr (items.map toDict)) :=
  ⟨_, rfl, toDict item, List.mem_map_of_mem member, carries⟩

theorem carries_nil (value : Json) : Carries [] value := fun _ member =>
  absurd member List.not_mem_nil

theorem carries_cons {key : String} {item : Json} {data : Fields} {value : Json}
    (found : value.get? key = some item) (carries : Carries data value) :
    Carries ((key, item) :: data) value :=
  List.forall_mem_cons.mpr ⟨found, carries⟩

theorem delivers_userState (authenticates : client.Authenticates) (userId tenantId : String)
    (data : Fields) (later : Moment) :
    Delivers (.userStatePut userId tenantId data)
      (recalled host client (post host client state moment (.userStatePut userId tenantId data)).1
        later (.userStateGet userId tenantId)) := by
  rw [recalled, post_userStateGet _ _ _ authenticates, post_userStatePut _ _ _ authenticates,
    Delivers, RedisState.getUserState, RedisState.putUserState, Dict.get?_set, if_pos rfl]
  rfl

theorem delivers_event (authenticates : client.Authenticates)
    (userId tenantId eventType summary priority sourceService : String)
    (metadata : Option Fields) (later : Moment) :
    Delivers (.eventQueuePush userId tenantId eventType summary priority sourceService metadata)
      (recalled host client (post host client state moment
        (.eventQueuePush userId tenantId eventType summary priority sourceService metadata)).1
        later (.eventQueueDrain userId tenantId)) := by
  rw [recalled, post_eventQueueDrain _ _ _ authenticates, post_eventQueuePush _ _ _ authenticates,
    Delivers, RedisState.drainEvents, RedisState.eventQueue, RedisState.pushEvent, Dict.get?_set,
    if_pos rfl]
  refine hasItem_map (mem_pushEvent _ _ _) ?_
  exact carries_cons rfl (carries_cons rfl (carries_cons rfl (carries_cons rfl
    (carries_cons rfl (carries_nil _)))))

theorem recalled_evalDecisionGet (authenticates : client.Authenticates)
    {evaluationId tenantId : String} {decision : MemoryService.Decision}
    (found : state.decisions.get? (MemoryService.decisionKey tenantId evaluationId) =
      some decision) (later : Moment) :
    recalled host client state later (.evalDecisionGet evaluationId tenantId) =
      decision.toDict := by
  rw [recalled, post_evalDecisionGet _ _ _ authenticates, RedisState.getDecision, found]
  rfl

theorem delivers_created (authenticates : client.Authenticates)
    (evaluationId tenantId controlId framework : String) (aiScore : Rat) (aiStatus : String)
    (later : Moment) :
    Delivers (.evalDecisionCreate evaluationId tenantId controlId framework aiScore aiStatus)
      (recalled host client (post host client state moment
        (.evalDecisionCreate evaluationId tenantId controlId framework aiScore aiStatus)).1
        later (.evalDecisionGet evaluationId tenantId)) := by
  rw [post_evalDecisionCreate _ _ _ authenticates]
  rw [recalled_evalDecisionGet host _ authenticates ((Dict.get?_set ..).trans (if_pos rfl))]
  exact carries_cons rfl (carries_cons rfl (carries_cons rfl (carries_cons rfl
    (carries_cons rfl (carries_cons rfl (carries_nil _))))))

theorem delivers_overridden (authenticates : client.Authenticates)
    (evaluationId tenantId criterionId aiResult userResult : String) {reason : String}
    (overriddenBy : String) (reasoned : Text.strip reason ≠ "")
    (existing : HasDecision state tenantId evaluationId) (later : Moment) :
    Delivers (.evalDecisionOverride evaluationId tenantId criterionId aiResult userResult reason
        overriddenBy)
      (recalled host client (post host client state moment (.evalDecisionOverride evaluationId
        tenantId criterionId aiResult userResult reason overriddenBy)).1
        later (.evalDecisionGet evaluationId tenantId)) := by
  obtain ⟨decision, found⟩ := existing
  have written := @RedisState.overrideCriterion_of_found state
    { evaluationId, tenantId, criterionId, aiResult, userResult, reason, overriddenBy } moment
    reasoned decision found
  rw [post_evalDecisionOverride _ _ _ authenticates, written,
    recalled_evalDecisionGet host _ authenticates ((Dict.get?_set ..).trans (if_pos rfl))]
  refine ⟨_, rfl, hasItem_map (List.mem_append_right _ List.mem_cons_self) ?_⟩
  exact carries_cons rfl (carries_cons rfl (carries_cons rfl (carries_cons rfl
    (carries_cons rfl (carries_nil _)))))

theorem delivers_approved (authenticates : client.Authenticates)
    (evaluationId tenantId approvedBy notes : String)
    (existing : HasDecision state tenantId evaluationId) (later : Moment) :
    Delivers (.evalDecisionApprove evaluationId tenantId approvedBy notes)
      (recalled host client (post host client state moment
        (.evalDecisionApprove evaluationId tenantId approvedBy notes)).1
        later (.evalDecisionGet evaluationId tenantId)) := by
  obtain ⟨decision, found⟩ := existing
  have written := @RedisState.approveDecision_of_found state
    { evaluationId, tenantId, approvedBy, notes } moment decision found
  rw [post_evalDecisionApprove _ _ _ authenticates, written,
    recalled_evalDecisionGet host _ authenticates ((Dict.get?_set ..).trans (if_pos rfl))]
  exact carries_cons rfl (carries_cons rfl (carries_cons rfl (carries_nil _)))

theorem delivers_comment (authenticates : client.Authenticates)
    (evaluationId tenantId authorId authorRole content : String)
    (criterionId parentCommentId : Option String) (later : Moment) :
    Delivers (.evalCommentsAdd evaluationId tenantId authorId authorRole content criterionId
        parentCommentId)
      (recalled host client (post host client state moment (.evalCommentsAdd evaluationId tenantId
        authorId authorRole content criterionId parentCommentId)).1
        later (.evalCommentsList evaluationId tenantId)) := by
  rw [recalled, post_evalCommentsList _ _ _ authenticates, post_evalCommentsAdd _ _ _ authenticates,
    Delivers, RedisState.listComments, RedisState.commentsOf, RedisState.addComment,
    Dict.get?_set, if_pos rfl]
  refine hasItem_map (List.mem_append_right _ List.mem_cons_self) ?_
  exact carries_cons rfl (carries_cons rfl (carries_cons rfl (carries_cons rfl
    (carries_cons rfl (carries_cons rfl (carries_cons rfl (carries_nil _)))))))

theorem delivers_of_served (authenticates : client.Authenticates) {stored asked : MemoryCall}
    (served : stored.Served state) (recalls : Recalls stored asked) (later : Moment) :
    Delivers stored
      (recalled host client (post host client state moment stored).1 later asked) := by
  cases recalls with
  | userState => exact delivers_userState host state moment authenticates _ _ _ later
  | events => exact delivers_event host state moment authenticates _ _ _ _ _ _ _ later
  | created => exact delivers_created host state moment authenticates _ _ _ _ _ _ later
  | overridden =>
    exact delivers_overridden host state moment authenticates _ _ _ _ _ _ served.1 served.2 later
  | approved => exact delivers_approved host state moment authenticates _ _ _ _ served later
  | comments => exact delivers_comment host state moment authenticates _ _ _ _ _ _ _ later
  | session | user | tenant | task | eval | pattern | skill | interaction => exact served.elim

end

theorem sandbox_refused (host : SandboxHost) (call : ExecuteCall) : host.answer
        { method := .post
          path := segments "/execute"
          headers := call.headers
          body := .obj call.payload } = .detail 422 "Unprocessable Entity" := by
  have found : resolve sandboxRoutes .post (segments "/execute") = .endpoint .execute := by
    decide
  have absent : call.headers.get? "X-Service-Id" = none := by
    rw [get?_serviceId, ExecuteCall.headers]
    cases call.traceId <;> rfl
  simp only [SandboxHost.answer, found, verifyService_of_absent absent]

theorem answer_not_accepted {host : MemoryHost} {state : RedisState} {request : ApiRequest}
    (moment : Moment) (absent : request.headers.get? "X-Service-Id" = none)
    (guarded : ∀ endpoint, resolve MemoryService.routes request.method request.path =
      .endpoint endpoint → endpoint.isOpen = false) :
    (host.answer state moment request).2.statusCode ≠ 200 := by
  rw [MemoryHost.answer]
  cases found : resolve MemoryService.routes request.method request.path with
  | notFound =>
    change 404 ≠ 200
    decide
  | methodNotAllowed =>
    change 405 ≠ 200
    decide
  | redirect =>
    change 307 ≠ 200
    decide
  | endpoint endpoint =>
    simp only [guarded endpoint found, verifyService_of_absent absent, Bool.false_eq_true, if_false]
    change 422 ≠ 200
    decide

theorem guarded_registry {call : RegistryCall} {urlPath : String → Option (List String)}
    {path : List String} (sent : call.path urlPath = some path) {endpoint : Endpoint}
    (found : resolve MemoryService.routes call.method path = .endpoint endpoint) :
    endpoint.isOpen = false := by
  by_cases reads : call.method = .get
  · cases call with
    | discover =>
      cases sent
      have unrouted : resolve MemoryService.routes .get (segments "/registry/agents/discover") =
          .methodNotAllowed := by
        decide
      cases unrouted.symm.trans found
    | register | heartbeat | deregister => cases reads
  · obtain ⟨route, member, method, same⟩ := Routing.exists_route_of_resolve found
    rw [← same]
    exact MemoryService.isOpen_of_method member (method ▸ reads)

theorem send_not_accepted (services : Services) (state : RedisState) (moment : Moment)
    (call : RegistryCall) :
    (send services state moment call).map (fun sent => sent.2.statusCode) ≠ some 200 := by
  have absent : RegistryCall.headers.get? "X-Service-Id" = none := by
    rw [get?_serviceId]
    rfl
  rw [send]
  cases sent : call.path services.urlPath with
  | none =>
    intro accepted
    cases accepted
  | some path =>
    intro accepted
    exact answer_not_accepted moment absent (fun endpoint found => guarded_registry sent found)
      (Option.some.inj accepted)

theorem works_iff_served (services : Services) (client : MemoryClient) (state : RedisState)
    (moment : Moment) (call : ClientCall) :
    Works services client state moment call ↔ call.Served client state := by
  cases call with
  | memory call =>
    constructor
    · intro works
      exact (post_accepted_iff services.memory state moment client call).mp
        (Option.some.inj works.accepted)
    · intro served
      refine ⟨congrArg some ((post_accepted_iff services.memory state moment client call).mpr
        served), ?_⟩
      intro stored asked later same recalls
      cases same
      exact delivers_of_served services.memory state moment served.1 served.2 recalls later
  | sandbox call =>
    refine iff_of_false (fun works => ?_) id
    have accepted := Option.some.inj works.accepted
    rw [sandbox_refused] at accepted
    cases accepted
  | registry call =>
    exact iff_of_false (fun works => send_not_accepted services state moment call works.accepted)
      id

/-- Services whose other endpoints do nothing. -/
def bareServices : Services where
  memory := ⟨id, fun _ _ state => (state, ⟨200, .null⟩)⟩
  sandbox := ⟨id, fun _ _ => ⟨200, .null⟩, fun _ _ => ⟨200, .null⟩⟩
  urlPath path := some (segments path)

/-- A conversation that is stored with good credentials comes back empty, and code with a file is
not run. -/
theorem session_lost_and_code_refused :
    ¬ Works bareServices ⟨"agent-eval", "secret"⟩ {} ⟨"u-1", 0, 0⟩
        (.memory (.sessionStore "s-1" [[("role", .str "user"), ("content", .str "hi")]] none)) ∧
      recalled bareServices.memory ⟨"agent-eval", "secret"⟩
        (post bareServices.memory ⟨"agent-eval", "secret"⟩ {} ⟨"u-1", 0, 0⟩
          (.sessionStore "s-1" [[("role", .str "user"), ("content", .str "hi")]] none)).1
        ⟨"u-2", 1, 1⟩ (.sessionRecall "s-1" 50) = .arr [] ∧
      ¬ Works bareServices ⟨"agent-eval", "secret"⟩ {} ⟨"u-1", 0, 0⟩
        (.sandbox { code := "print(1)", files := some [("data.csv", "a,b")] }) := by
  refine ⟨fun works => ?_, ?_, fun works => ?_⟩
  · have accepted := Option.some.inj works.accepted
    rw [post_of_unrouted _ _ _ _ rfl] at accepted
    cases accepted
  · rw [recalled, post_of_unrouted _ _ _ _ rfl]
    rfl
  · have accepted := Option.some.inj works.accepted
    rw [sandbox_refused] at accepted
    cases accepted

end Onpremai.Common
