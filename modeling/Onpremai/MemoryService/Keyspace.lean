import Onpremai.Library.Handlers
import Onpremai.MemoryService.Api

/-!
# The keyspace of the memory service

Redis is one keyspace.  The documents of the users, the event queues, the decisions with their
index and the comments are told apart by their keys only, and a command on a value of another
type fails.
-/

namespace Onpremai.MemoryService

open Library
open Library.Handler (look change raise)

/-- What Redis holds under a key; a text is the document that was dumped to it. -/
inductive RedisValue where
  | text (document : Json)
  | list (items : List Json)
  | set (members : List String)

abbrev Keyspace := Dict String RedisValue

/-- What an endpoint does with Redis; what it raises is the answer to the request. -/
abbrev Command (α : Type) := Handler Keyspace ApiReply α

/-- The answer when an endpoint raises something else than an `HTTPException`. -/
def ApiReply.internalError : ApiReply := ⟨500, .str "Internal Server Error"⟩

namespace Redis

def typed {α : Type} (absent : α) (cast : RedisValue → Option α) (key : String) : Command α := do
  match ← look fun space => (space.get? key).elim (some absent) cast with
  | some value => return value
  | none => raise .internalError

theorem typed_of_eq {α : Type} {absent : α} {cast : RedisValue → Option α} {key : String}
    {space : Keyspace} {value : α}
    (held : (space.get? key).elim (some absent) cast = some value) :
    typed absent cast key space = (.ok value, space) := by
  have seen : (look fun space => (space.get? key).elim (some absent) cast : Command (Option α))
      space = (.ok (some value), space) := by rw [look, held]
  exact Handler.bind_of_ok seen _

def get : String → Command (Option Json) :=
  typed none fun value =>
    match value with
    | .text document => some (some document)
    | _ => none

theorem get_of_text {key : String} {space : Keyspace} {document : Json}
    (held : space.get? key = some (.text document)) :
    get key space = (.ok (some document), space) :=
  typed_of_eq (by rw [held]; rfl)

def lrange : String → Command (List Json) :=
  typed [] fun value =>
    match value with
    | .list items => some items
    | _ => none

def smembers : String → Command (List String) :=
  typed [] fun value =>
    match value with
    | .set members => some members
    | _ => none

def set (key : String) (document : Json) : Command PUnit :=
  change fun space => space.set key (.text document)

def delete (key : String) : Command PUnit := change fun space => space.erase key

/-- Write a list that was read before. -/
def putList (key : String) (items : List Json) : Command PUnit :=
  change fun space => space.set key (.list items)

def rpush (key : String) (item : Json) : Command PUnit := do
  let items ← lrange key
  putList key (items ++ [item])

def sadd (key member : String) : Command PUnit := do
  let members ← smembers key
  change fun space => space.set key (.set (members.insert member))

end Redis

/-- The kinds of records that are kept by tenant and identifier. -/
inductive RecordKind where
  | event
  | userState
  | decision
  | comment
  deriving DecidableEq

def RecordKind.lead : RecordKind → String
  | .event => "event_queue:"
  | .userState => "user_state:"
  | .decision => "eval_decision:"
  | .comment => "eval_comments:"

def RecordKind.key (kind : RecordKind) (tenantId identifier : String) : String :=
  kind.lead ++ tenantId ++ ":" ++ identifier

def tenantIndexKey (tenantId : String) : String := "eval_decision_index:" ++ tenantId

/-- `document[name] = value`. -/
def setField (name : String) (value : Json) : Json → Option Json
  | .obj fields => some (.obj (Dict.setEntry name value fields))
  | _ => none

/-- `document[name].append(item)`. -/
def appendField (name : String) (item : Json) (document : Json) : Option Json :=
  match document.get? name with
  | some (.arr items) => setField name (.arr (items ++ [item])) document
  | _ => none

def queuedPriority (event : Json) : String :=
  match event.get? "priority" with
  | some (.str priority) => priority
  | _ => "medium"

def storeEdited (key : String) : Option Json → Command Json
  | some document => do
    Redis.set key document
    return document
  | none => raise .internalError

structure DecisionListBody where
  tenantId : String
  framework : Option String := none
  status : Option String := none
  limit : Int := 50

/-- The documents that pass the filters, until there are as many as the limit. -/
def collectDecisions (body : DecisionListBody) : List Json → List String → Command (List Json)
  | decisions, [] => return decisions
  | decisions, evaluationId :: rest => do
    match ← Redis.get (decisionKey body.tenantId evaluationId) with
    | none => collectDecisions body decisions rest
    | some decision =>
      if otherThan "framework" body.framework decision then
        collectDecisions body decisions rest
      else if otherThan "status" body.status decision then
        collectDecisions body decisions rest
      else if body.limit ≤ (decisions ++ [decision]).length then
        return decisions ++ [decision]
      else collectDecisions body (decisions ++ [decision]) rest
where
  /-- `wanted and decision.get(name) != wanted`. -/
  otherThan (name : String) (wanted : Option String) (decision : Json) : Bool :=
    match wanted with
    | none => false
    | some text => decide (text ≠ "") && !((decision.get? name).any fun value =>
      value.isString text)

/-- `decision.get("created_at", 0)`. -/
def createdAt (decision : Json) : Rat :=
  match decision.get? "created_at" with
  | some (.num time) => time
  | _ => 0

namespace Keyspace

def getUserState (userId tenantId : String) : Command Json := do
  return (← Redis.get (userStateKey tenantId userId)).getD (.obj [])

def putUserState (body : UserStatePutBody) : Command Json := do
  Redis.set (userStateKey body.tenantId body.userId) (.obj body.data)
  return .obj [("status", .str "ok")]

/-- The length is looked at, room is made and the event is appended, with nothing in between. -/
def pushEvent (moment : Moment) (body : EventPushBody) : Command Json := do
  let event : QueuedEvent :=
    { eventType := body.eventType
      summary := body.summary
      priority := body.priority
      sourceService := body.sourceService
      metadata := body.metadata
      timestamp := moment.first }
  let key := redisKey body.tenantId body.userId
  let queue ← Redis.lrange key
  Redis.putList key (MemoryService.pushEvent queuedPriority queue event.toDict).1
  return .obj [("status", .str "ok")]

def drainEvents (userId tenantId : String) : Command Json := do
  let key := redisKey tenantId userId
  let events ← Redis.lrange key
  Redis.delete key
  return .obj [("events", .arr events)]

def createDecision (moment : Moment) (body : DecisionCreateBody) : Command Json := do
  let decision := (body.decision moment.first moment.second).toDict
  Redis.set (decisionKey body.tenantId body.evaluationId) decision
  Redis.sadd (tenantIndexKey body.tenantId) body.evaluationId
  return .obj [("status", .str "ok"), ("decision", decision)]

def getDecision (evaluationId tenantId : String) : Command Json := do
  return (← Redis.get (decisionKey tenantId evaluationId)).getD (.obj [])

/-- The document that a write endpoint of the decisions edits. -/
def readDecision (key : String) : Command Json := do
  match ← Redis.get key with
  | none => raise (.detail 404 "Decision not found")
  | some decision => return decision

def overrideCriterion (moment : Moment) (body : DecisionOverrideBody) : Command Json := do
  if body.lacksReason then raise (.detail 422 "Override reason is required")
  else
    let key := decisionKey body.tenantId body.evaluationId
    let decision ← readDecision key
    let entry := (body.entry moment.uuid moment.first).toDict
    let _ ← storeEdited key
      ((appendField "overrides" entry decision).bind (setField "updated_at" (.num moment.second)))
    return .obj [("status", .str "ok"), ("override", entry)]

def approveDecision (moment : Moment) (body : DecisionApproveBody) : Command Json := do
  let key := decisionKey body.tenantId body.evaluationId
  let decision ← readDecision key
  let approved ← storeEdited key
    ((((((setField "status" (.str "approved") decision).bind
      (setField "approved_by" (.str body.approvedBy))).bind
      (setField "approved_at" (.num moment.first))).bind
      (setField "notes" (.str body.notes))).bind
      (setField "updated_at" (.num moment.second))))
  return .obj [("status", .str "ok"), ("decision", approved)]

def listDecisions (arrange : List String → List String) (body : DecisionListBody) :
    Command Json := do
  let evaluationIds ← Redis.smembers (tenantIndexKey body.tenantId)
  let decisions ← collectDecisions body [] (arrange evaluationIds)
  return .obj [("decisions",
    .arr (decisions.mergeSort fun one two => decide (createdAt two ≤ createdAt one)))]

def addComment (moment : Moment) (body : CommentAddBody) : Command Json := do
  let comment : Comment :=
    { commentId := moment.uuid
      evaluationId := body.evaluationId
      tenantId := body.tenantId
      criterionId := body.criterionId
      authorId := body.authorId
      authorRole := body.authorRole
      content := body.content
      parentCommentId := body.parentCommentId
      createdAt := moment.first }
  Redis.rpush (commentsKey body.tenantId body.evaluationId) comment.toDict
  return .obj [("status", .str "ok"), ("comment", comment.toDict)]

def listComments (evaluationId tenantId : String) : Command Json := do
  return .obj [("comments", .arr (← Redis.lrange (commentsKey tenantId evaluationId)))]

end Keyspace

end Onpremai.MemoryService
