import Onpremai.Common.ServiceAuth

/-!
# The memory client

Each method posts a payload to a path, and hides every failure behind a neutral value: a flag for
what is stored, a document or a list for what is recalled.
-/

namespace Onpremai.Common

open Onpremai.Library

abbrev Fields := List (String × Json)

/-- `if value is not None: payload[key] = value`. -/
def given (key : String) (value : Option Json) : Fields :=
  (value.map fun value => (key, value)).toList

/-- Async client for the memory service, with its credentials. -/
structure MemoryClient where
  serviceId : String := ""
  serviceKey : String := ""

/-- The headers of every request; credentials are sent only where both are given. -/
def MemoryClient.headers (client : MemoryClient) : Headers :=
  [("content-type", "application/json")] ++
    if client.serviceId ≠ "" ∧ client.serviceKey ≠ "" then
      [("x-service-id", client.serviceId), ("x-service-key", client.serviceKey)]
    else []

/-- A call of a method. -/
inductive MemoryCall where
  | sessionStore (sessionId : String) (messages : List Fields) (metadata : Option Fields)
  | sessionRecall (sessionId : String) (limit : Int)
  | userStore (userId fact category : String) (metadata : Option Fields)
  | userRecall (userId query : String) (topK : Int) (category : Option String)
  | tenantStore (tenantId fact category : String) (metadata : Option Fields)
  | tenantRecall (tenantId query : String) (topK : Int) (category : Option String)
  | taskStore (taskId tenantId : String) (data : Fields) (metadata : Option Fields)
  | taskRecall (taskId tenantId : String)
  | evalStore (tenantId framework controlId : String) (result : Fields)
      (metadata : Option Fields)
  | evalRecall (tenantId framework : String) (controlId : Option String) (limit : Int)
  | patternStore (tenantId patternType : String) (pattern : Fields) (metadata : Option Fields)
  | patternRecall (tenantId : String) (patternType : Option String) (limit : Int)
  | skillStore (tenantId skillName : String) (skillData : Fields) (metadata : Option Fields)
  | skillRecall (tenantId : String) (skillName : Option String)
  | interactionStore (userId tenantId interactionType : String) (data : Fields)
      (metadata : Option Fields)
  | interactionRecall (userId tenantId : String) (interactionType : Option String) (limit : Int)
  | userStateGet (userId tenantId : String)
  | userStatePut (userId tenantId : String) (data : Fields)
  | eventQueuePush (userId tenantId eventType summary priority sourceService : String)
      (metadata : Option Fields)
  | eventQueueDrain (userId tenantId : String)
  | evalDecisionCreate (evaluationId tenantId controlId framework : String) (aiScore : Rat)
      (aiStatus : String)
  | evalDecisionGet (evaluationId tenantId : String)
  | evalDecisionOverride
      (evaluationId tenantId criterionId aiResult userResult reason overriddenBy : String)
  | evalDecisionApprove (evaluationId tenantId approvedBy notes : String)
  | evalCommentsAdd (evaluationId tenantId authorId authorRole content : String)
      (criterionId parentCommentId : Option String)
  | evalCommentsList (evaluationId tenantId : String)

namespace MemoryCall

/-- Where a method posts to. -/
def path : MemoryCall → String
  | sessionStore .. => "/v1/session/store"
  | sessionRecall .. => "/v1/session/recall"
  | userStore .. => "/v1/user/store"
  | userRecall .. => "/v1/user/recall"
  | tenantStore .. => "/v1/tenant/store"
  | tenantRecall .. => "/v1/tenant/recall"
  | taskStore .. => "/v1/task/store"
  | taskRecall .. => "/v1/task/recall"
  | evalStore .. => "/v1/eval/store"
  | evalRecall .. => "/v1/eval/recall"
  | patternStore .. => "/v1/pattern/store"
  | patternRecall .. => "/v1/pattern/recall"
  | skillStore .. => "/v1/skill/store"
  | skillRecall .. => "/v1/skill/recall"
  | interactionStore .. => "/v1/interaction/store"
  | interactionRecall .. => "/v1/interaction/recall"
  | userStateGet .. => "/v1/user-state/get"
  | userStatePut .. => "/v1/user-state/put"
  | eventQueuePush .. => "/v1/event/push"
  | eventQueueDrain .. => "/v1/event/drain"
  | evalDecisionCreate .. => "/v1/evaluation-decisions/create"
  | evalDecisionGet .. => "/v1/evaluation-decisions/get"
  | evalDecisionOverride .. => "/v1/evaluation-decisions/override"
  | evalDecisionApprove .. => "/v1/evaluation-decisions/approve"
  | evalCommentsAdd .. => "/v1/evaluation-comments/add"
  | evalCommentsList .. => "/v1/evaluation-comments/list"

/-- What a method posts. -/
def payload : MemoryCall → Fields
  | sessionStore sessionId messages metadata =>
    [("session_id", .str sessionId), ("messages", .arr (messages.map .obj))] ++
      given "metadata" (metadata.map .obj)
  | sessionRecall sessionId limit => [("session_id", .str sessionId), ("limit", .num limit)]
  | userStore userId fact category metadata =>
    [("user_id", .str userId), ("fact", .str fact), ("category", .str category)] ++
      given "metadata" (metadata.map .obj)
  | userRecall userId query topK category =>
    [("user_id", .str userId), ("query", .str query), ("top_k", .num topK)] ++
      given "category" (category.map .str)
  | tenantStore tenantId fact category metadata =>
    [("tenant_id", .str tenantId), ("fact", .str fact), ("category", .str category)] ++
      given "metadata" (metadata.map .obj)
  | tenantRecall tenantId query topK category =>
    [("tenant_id", .str tenantId), ("query", .str query), ("top_k", .num topK)] ++
      given "category" (category.map .str)
  | taskStore taskId tenantId data metadata =>
    [("task_id", .str taskId), ("tenant_id", .str tenantId), ("data", .obj data)] ++
      given "metadata" (metadata.map .obj)
  | taskRecall taskId tenantId => [("task_id", .str taskId), ("tenant_id", .str tenantId)]
  | evalStore tenantId framework controlId result metadata =>
    [("tenant_id", .str tenantId), ("framework", .str framework),
      ("control_id", .str controlId), ("result", .obj result)] ++
      given "metadata" (metadata.map .obj)
  | evalRecall tenantId framework controlId limit =>
    [("tenant_id", .str tenantId), ("framework", .str framework), ("limit", .num limit)] ++
      given "control_id" (controlId.map .str)
  | patternStore tenantId patternType pattern metadata =>
    [("tenant_id", .str tenantId), ("pattern_type", .str patternType),
      ("pattern", .obj pattern)] ++ given "metadata" (metadata.map .obj)
  | patternRecall tenantId patternType limit =>
    [("tenant_id", .str tenantId), ("limit", .num limit)] ++
      given "pattern_type" (patternType.map .str)
  | skillStore tenantId skillName skillData metadata =>
    [("tenant_id", .str tenantId), ("skill_name", .str skillName),
      ("skill_data", .obj skillData)] ++ given "metadata" (metadata.map .obj)
  | skillRecall tenantId skillName =>
    [("tenant_id", .str tenantId)] ++ given "skill_name" (skillName.map .str)
  | interactionStore userId tenantId interactionType data metadata =>
    [("user_id", .str userId), ("tenant_id", .str tenantId),
      ("interaction_type", .str interactionType), ("data", .obj data)] ++
      given "metadata" (metadata.map .obj)
  | interactionRecall userId tenantId interactionType limit =>
    [("user_id", .str userId), ("tenant_id", .str tenantId), ("limit", .num limit)] ++
      given "interaction_type" (interactionType.map .str)
  | userStateGet userId tenantId => [("user_id", .str userId), ("tenant_id", .str tenantId)]
  | userStatePut userId tenantId data =>
    [("user_id", .str userId), ("tenant_id", .str tenantId), ("data", .obj data)]
  | eventQueuePush userId tenantId eventType summary priority sourceService metadata =>
    [("user_id", .str userId), ("tenant_id", .str tenantId), ("event_type", .str eventType),
      ("summary", .str summary), ("priority", .str priority),
      ("source_service", .str sourceService)] ++ given "metadata" (metadata.map .obj)
  | eventQueueDrain userId tenantId => [("user_id", .str userId), ("tenant_id", .str tenantId)]
  | evalDecisionCreate evaluationId tenantId controlId framework aiScore aiStatus =>
    [("evaluation_id", .str evaluationId), ("tenant_id", .str tenantId),
      ("control_id", .str controlId), ("framework", .str framework),
      ("ai_score", .num aiScore), ("ai_status", .str aiStatus)]
  | evalDecisionGet evaluationId tenantId =>
    [("evaluation_id", .str evaluationId), ("tenant_id", .str tenantId)]
  | evalDecisionOverride evaluationId tenantId criterionId aiResult userResult reason
      overriddenBy =>
      [("evaluation_id", .str evaluationId), ("tenant_id", .str tenantId),
        ("criterion_id", .str criterionId), ("ai_result", .str aiResult),
        ("user_result", .str userResult), ("reason", .str reason),
        ("overridden_by", .str overriddenBy)]
  | evalDecisionApprove evaluationId tenantId approvedBy notes =>
    [("evaluation_id", .str evaluationId), ("tenant_id", .str tenantId),
      ("approved_by", .str approvedBy), ("notes", .str notes)]
  | evalCommentsAdd evaluationId tenantId authorId authorRole content criterionId
      parentCommentId =>
      [("evaluation_id", .str evaluationId), ("tenant_id", .str tenantId),
        ("author_id", .str authorId), ("author_role", .str authorRole),
        ("content", .str content)] ++ given "criterion_id" (criterionId.map .str) ++
        given "parent_comment_id" (parentCommentId.map .str)
  | evalCommentsList evaluationId tenantId =>
    [("evaluation_id", .str evaluationId), ("tenant_id", .str tenantId)]

/-- What a method makes of an answer. -/
inductive Reading where
  /-- `_post`: was it stored? -/
  | stored
  /-- A dictionary, or an empty one. -/
  | document
  /-- A list, the one under a key of a dictionary, or an empty one. -/
  | items (key : String)
  deriving DecidableEq, Repr

def reading : MemoryCall → Reading
  | sessionStore .. | userStore .. | tenantStore .. | taskStore .. | evalStore ..
  | patternStore .. | skillStore .. | interactionStore .. | userStatePut ..
  | eventQueuePush .. | evalDecisionCreate .. | evalDecisionOverride ..
  | evalDecisionApprove .. | evalCommentsAdd .. => .stored
  | taskRecall .. | userStateGet .. | evalDecisionGet .. => .document
  | sessionRecall .. => .items "messages"
  | userRecall .. | tenantRecall .. => .items "facts"
  | evalRecall .. => .items "results"
  | patternRecall .. => .items "patterns"
  | skillRecall .. => .items "skills"
  | interactionRecall .. => .items "interactions"
  | eventQueueDrain .. => .items "events"
  | evalCommentsList .. => .items "comments"

end MemoryCall

/-- The parsed answer of `_post_json`, or an empty dictionary on failure. -/
def recovered (statusCode : Nat) (body : Json) : Json :=
  if 400 ≤ statusCode then .obj [] else body

/-- `result if isinstance(result, dict) else {}`. -/
def documentOf : Json → Json
  | .obj entries => .obj entries
  | _ => .obj []

/-- The list itself, or `result.get(key, [])` of a dictionary. -/
def itemsOf (key : String) : Json → Json
  | .arr items => .arr items
  | .obj entries => (Json.field? key entries).getD (.arr [])
  | _ => .arr []

/-- What a method returns for an answer. -/
def MemoryCall.returned (call : MemoryCall) (statusCode : Nat) (body : Json) : Json :=
  match call.reading with
  | .stored => .bool (decide (statusCode < 400))
  | .document => documentOf (recovered statusCode body)
  | .items key => itemsOf key (recovered statusCode body)

end Onpremai.Common
