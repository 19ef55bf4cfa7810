import Onpremai.Gateway.Wire
import Onpremai.Library.Ranges
import Onpremai.Library.Transducer

/-!
# Request queue

Requests of tenants without a budget wait in a Redis list of documents, or in a queue of the
process when Redis cannot be reached.
-/

namespace Onpremai.Gateway

open Onpremai.Library

/-- A request that has been queued due to budget exhaustion. -/
structure QueuedRequest where
  requestId : String
  tenantId : String
  request : Wire.CompletionRequest
  queuedAt : Rat

namespace QueuedRequest

def toDict (queued : QueuedRequest) : List (String × Json) :=
  [("request_id", Codec.str.encode queued.requestId),
   ("tenant_id", Codec.str.encode queued.tenantId),
   ("request", Wire.CompletionRequest.codec.encode queued.request),
   ("queued_at", Codec.rat.encode queued.queuedAt)]

def codec : Codec QueuedRequest where
  encode := fun queued => .obj queued.toDict
  decode := fun value => do
    let data ← Codec.fields.decode value
    let requestId ← Codec.str.required "request_id" data
    let tenantId ← Codec.str.required "tenant_id" data
    let request ← Wire.CompletionRequest.codec.required "request" data
    let queuedAt ← Codec.rat.required "queued_at" data
    return { requestId, tenantId, request, queuedAt }
  decode_encode := by
    intro queued
    have opened : Codec.fields.decode (.obj queued.toDict) = some queued.toDict := rfl
    simp only [opened, Option.bind_eq_bind, Option.bind_some]
    simp [toDict, Codec.required]

end QueuedRequest

/-- What is asked of the queue; a request that is added brings its id and its time. -/
inductive QueueOperation where
  | enqueue (request : Wire.CompletionRequest) (requestId : String) (queuedAt : Rat)
  | dequeue (tenantId : String)
  | peek (tenantId : String) (limit : Int)
  | queueLength (tenantId : String)

/-- What the queue answers. -/
inductive QueueAnswer where
  | enqueued (requestId : String)
  | dequeued (oldest : Option QueuedRequest)
  | peeked (waiting : List QueuedRequest)
  | length (count : Nat)
  | raised

def queuedOf (request : Wire.CompletionRequest) (requestId : String) (queuedAt : Rat) :
    QueuedRequest where
  requestId := requestId
  tenantId := request.tenantId
  request := request
  queuedAt := queuedAt

def queueKey (tenantId : String) : String := "queue:requests:" ++ tenantId

/-- The lists in Redis; there are no empty ones. -/
structure RedisQueue where
  lists : Dict String (List Json) := .empty

namespace RedisQueue

variable (queue : RedisQueue)

def listOf (key : String) : List Json := (queue.lists.get? key).getD []

/-- Push to the end of a list. -/
def rpush (key : String) (document : Json) : RedisQueue where
  lists := queue.lists.set key (queue.listOf key ++ [document])

/-- What is left of a list whose head is popped. -/
def afterPop (key : String) : List Json → RedisQueue
  | [] => { lists := queue.lists.erase key }
  | rest => { lists := queue.lists.set key rest }

def perform : QueueOperation → RedisQueue × QueueAnswer
  | .enqueue request requestId queuedAt =>
    let queued := queuedOf request requestId queuedAt
    (queue.rpush (queueKey queued.tenantId) (QueuedRequest.codec.encode queued),
      .enqueued requestId)
  | .dequeue tenantId =>
    match queue.listOf (queueKey tenantId) with
    | [] => (queue, .dequeued none)
    | head :: rest =>
      (queue.afterPop (queueKey tenantId) rest,
        match QueuedRequest.codec.decode head with
        | some queued => .dequeued (some queued)
        | none => .raised)
  | .peek tenantId limit =>
    (queue,
      match QueuedRequest.codec.decodeItems
          (lrange (queue.listOf (queueKey tenantId)) 0 (limit - 1)) with
      | some waiting => .peeked waiting
      | none => .raised)
  | .queueLength tenantId => (queue, .length (queue.listOf (queueKey tenantId)).length)

end RedisQueue

/-- The queues of the process. -/
structure MemoryQueue where
  queues : Dict String (List QueuedRequest) := .empty

namespace MemoryQueue

variable (queue : MemoryQueue)

def queueOf (tenantId : String) : List QueuedRequest := (queue.queues.get? tenantId).getD []

def perform : QueueOperation → MemoryQueue × QueueAnswer
  | .enqueue request requestId queuedAt =>
    let queued := queuedOf request requestId queuedAt
    ({ queues := queue.queues.set queued.tenantId (queue.queueOf queued.tenantId ++ [queued]) },
      .enqueued requestId)
  | .dequeue tenantId =>
    match queue.queueOf tenantId with
    | [] => (queue, .dequeued none)
    | head :: rest => ({ queues := queue.queues.set tenantId rest }, .dequeued (some head))
  | .peek tenantId limit => (queue, .peeked (slicePrefix (queue.queueOf tenantId) limit))
  | .queueLength tenantId => (queue, .length (queue.queueOf tenantId).length)

end MemoryQueue

theorem queueKey_inj {tenantId other : String} :
    queueKey tenantId = queueKey other ↔ tenantId = other :=
  String.append_right_inj _

namespace RedisQueue

variable {queue : RedisQueue}

@[simp] theorem listOf_rpush (key other : String) (document : Json) :
    (queue.rpush key document).listOf other =
      if key = other then queue.listOf key ++ [document] else queue.listOf other := by
  rw [rpush, listOf, Dict.get?_set]
  split
  · rfl
  · rfl

@[simp] theorem listOf_afterPop (key other : String) (rest : List Json) :
    (queue.afterPop key rest).listOf other = if key = other then rest else queue.listOf other := by
  cases rest with
  | nil =>
    simp only [afterPop, listOf, Dict.get?_erase, eq_comm]
    split
    · rfl
    · rfl
  | cons document rest =>
    simp only [afterPop, listOf, Dict.get?_set]
    split
    · rfl
    · rfl

end RedisQueue

namespace MemoryQueue

variable {queue : MemoryQueue}

theorem queueOf_set (tenantId other : String) (waiting : List QueuedRequest) :
    ({ queues := queue.queues.set tenantId waiting } : MemoryQueue).queueOf other =
      if tenantId = other then waiting else queue.queueOf other := by
  rw [queueOf, Dict.get?_set]
  split
  · rfl
  · rfl

end MemoryQueue

section Order

variable (tenantId : String)

def addedFor : QueueOperation → List QueuedRequest
  | .enqueue request requestId queuedAt =>
    if request.tenantId = tenantId then [queuedOf request requestId queuedAt] else []
  | _ => []

def handedTo : QueueOperation → QueueAnswer → List QueuedRequest
  | .dequeue other, .dequeued (some queued) => if other = tenantId then [queued] else []
  | _, _ => []

def RedisQueue.waiting (queue : RedisQueue) : List QueuedRequest :=
  (queue.listOf (queueKey tenantId)).filterMap QueuedRequest.codec.decode

def InOrder (operations : List QueueOperation) (given : List QueueAnswer)
    (waiting : List QueuedRequest) : Prop :=
  operations.flatMap (addedFor tenantId) =
    (List.zipWith (handedTo tenantId) operations given).flatten ++ waiting

theorem MemoryQueue.queueOf_perform (queue : MemoryQueue) (operation : QueueOperation) :
    queue.queueOf tenantId ++ addedFor tenantId operation =
      handedTo tenantId operation (queue.perform operation).2 ++
        (next MemoryQueue.perform queue operation).queueOf tenantId := by
  cases operation with
  | enqueue request requestId queuedAt =>
    rw [next, perform, queueOf_set, addedFor, handedTo, List.nil_append]
    change _ = if request.tenantId = tenantId then _ else _
    split
    · next same =>
      rw [← same]
      rfl
    · rw [List.append_nil]
    · simp
  | dequeue other =>
    change queue.queueOf tenantId ++ [] = _
    rw [next, perform, List.append_nil]
    cases waiting : queue.queueOf other with
    | nil => rfl
    | cons head rest =>
      simp only [handedTo, queueOf_set]
      split
      · next same =>
        rw [← same, waiting]
        rfl
      · rfl
  | peek other limit => exact List.append_nil _
  | queueLength other => exact List.append_nil _

theorem RedisQueue.waiting_perform (queue : RedisQueue) (operation : QueueOperation) :
    queue.waiting tenantId ++ addedFor tenantId operation =
      handedTo tenantId operation (queue.perform operation).2 ++
        (next RedisQueue.perform queue operation).waiting tenantId := by
  cases operation with
  | enqueue request requestId queuedAt =>
    simp only [next, perform, waiting, listOf_rpush, addedFor, handedTo, List.nil_append,
      queueKey_inj]
    change _ = List.filterMap _ (if request.tenantId = tenantId then _ else _)
    split
    · next same => simp [← same, queuedOf]
    · rw [List.append_nil]
  | dequeue other =>
    change queue.waiting tenantId ++ [] = _
    rw [next, perform, List.append_nil]
    cases list : queue.listOf (queueKey other) with
    | nil => rfl
    | cons head rest =>
      simp only [waiting, listOf_afterPop, queueKey_inj]
      cases decoded : QueuedRequest.codec.decode head with
      | none =>
        simp only [handedTo, List.nil_append]
        split
        · next same => rw [← same, list, List.filterMap_cons_none decoded]
        · rfl
      | some queued =>
        simp only [handedTo]
        split
        · next same =>
          rw [← same, list, List.filterMap_cons_some decoded]
          rfl
        · rfl
  | peek other limit => exact List.append_nil _
  | queueLength other => exact List.append_nil _

end Order

def Mirrors (redis : RedisQueue) (memory : MemoryQueue) : Prop :=
  ∀ tenantId, redis.listOf (queueKey tenantId) =
    (memory.queueOf tenantId).map QueuedRequest.codec.encode

def PeeksSome (memory : MemoryQueue) : QueueOperation → Prop
  | .peek tenantId limit => limit = 0 → memory.queueOf tenantId = []
  | _ => True

section Mirror

variable {redis : RedisQueue} {memory : MemoryQueue}

theorem mirrors_perform (operation : QueueOperation) (mirrors : Mirrors redis memory) :
    Mirrors (next RedisQueue.perform redis operation)
      (next MemoryQueue.perform memory operation) := by
  cases operation with
  | enqueue request requestId queuedAt =>
    intro tenantId
    simp only [next, RedisQueue.perform, MemoryQueue.perform, RedisQueue.listOf_rpush,
      MemoryQueue.queueOf_set, queueKey_inj]
    split
    · rw [mirrors, List.map_append]
      rfl
    · exact mirrors tenantId
  | dequeue other =>
    have list := mirrors other
    simp only [next, RedisQueue.perform, MemoryQueue.perform]
    cases waiting : memory.queueOf other with
    | nil =>
      rw [waiting] at list
      rw [list]
      exact mirrors
    | cons head rest =>
      rw [waiting] at list
      rw [list]
      intro tenantId
      simp only [List.map_cons, RedisQueue.listOf_afterPop, MemoryQueue.queueOf_set, queueKey_inj]
      split
      · rfl
      · exact mirrors tenantId
  | peek other limit => exact mirrors
  | queueLength other => exact mirrors

theorem peeked_of_mirrors (mirrors : Mirrors redis memory) (tenantId : String) (limit : Int) :
    (redis.perform (.peek tenantId limit)).2 =
      .peeked (lrange (memory.queueOf tenantId) 0 (limit - 1)) := by
  rw [RedisQueue.perform, mirrors, lrange_map, Codec.decodeItems_map_encode]

theorem answer_eq_iff (operation : QueueOperation) (mirrors : Mirrors redis memory) :
    (redis.perform operation).2 = (memory.perform operation).2 ↔
      PeeksSome memory operation := by
  cases operation with
  | enqueue request requestId queuedAt => exact iff_of_true rfl trivial
  | dequeue tenantId =>
    apply iff_of_true
    · have list := mirrors tenantId
      simp only [RedisQueue.perform, MemoryQueue.perform]
      cases waiting : memory.queueOf tenantId with
      | nil =>
        rw [waiting] at list
        rw [list]
        rfl
      | cons head rest =>
        rw [waiting] at list
        rw [list]
        simp
    · trivial
  | peek tenantId limit =>
    rw [peeked_of_mirrors mirrors, MemoryQueue.perform, PeeksSome]
    simp only [QueueAnswer.peeked.injEq]
    constructor
    · intro same none
      rw [none, slicePrefix_zero] at same
      exact (lrange_whole _).symm.trans same
    · intro some
      cases Decidable.em (limit = 0) with
      | inl none => simp [none, some none, lrange]
      | inr nonzero => exact lrange_eq_slicePrefix _ nonzero
  | queueLength tenantId =>
    apply iff_of_true
    · simp [RedisQueue.perform, MemoryQueue.perform, mirrors tenantId]
    · trivial

end Mirror

/-- Redis and the process answer alike and keep the requests of every tenant in order,
exactly when nobody peeks at the first zero requests of a queue that has any. -/
theorem queues_agree_iff (operations : List QueueOperation) :
    (answers RedisQueue.perform {} operations = answers MemoryQueue.perform {} operations ∧
      ∀ tenantId, InOrder tenantId operations (answers RedisQueue.perform {} operations)
          ((run (next RedisQueue.perform) {} operations).waiting tenantId) ∧
        InOrder tenantId operations (answers MemoryQueue.perform {} operations)
          ((run (next MemoryQueue.perform) {} operations).queueOf tenantId)) ↔
      Allowed (next MemoryQueue.perform) PeeksSome {} operations := by
  have ordered : ∀ tenantId, InOrder tenantId operations (answers RedisQueue.perform {} operations)
        ((run (next RedisQueue.perform) {} operations).waiting tenantId) ∧
      InOrder tenantId operations (answers MemoryQueue.perform {} operations)
        ((run (next MemoryQueue.perform) {} operations).queueOf tenantId) := by
    intro tenantId
    constructor
    · exact handed_out_in_order RedisQueue.perform (RedisQueue.waiting tenantId) _ _
        (RedisQueue.waiting_perform tenantId) {} operations
    · exact handed_out_in_order MemoryQueue.perform
        (fun queue => queue.queueOf tenantId) _ _
        (MemoryQueue.queueOf_perform tenantId) {} operations
  rw [and_iff_left ordered]
  apply answers_eq_iff RedisQueue.perform MemoryQueue.perform Mirrors
  · intro redis memory operation mirrors
    exact mirrors_perform operation mirrors
  · intro redis memory operation mirrors
    exact answer_eq_iff operation mirrors
  · intro tenantId
    rfl

/-- A request to the endpoint that asks for nothing in particular. -/
def bareRequest : Wire.CompletionRequest where
  messages := []
  task := "summarize"
  tenantId := "acme"
  bounded := by decide

/-- With a limit of zero, Redis shows the whole queue and the process nothing. -/
theorem peeks_differ :
    answers RedisQueue.perform {} [.enqueue bareRequest "first" 0, .peek "acme" 0] =
        [.enqueued "first", .peeked [queuedOf bareRequest "first" 0]] ∧
      answers MemoryQueue.perform {} [.enqueue bareRequest "first" 0, .peek "acme" 0] =
        [.enqueued "first", .peeked []] ∧
      answers RedisQueue.perform {} [.enqueue bareRequest "first" 0, .peek "acme" 0] ≠
        answers MemoryQueue.perform {} [.enqueue bareRequest "first" 0, .peek "acme" 0] := by
  have redis : answers RedisQueue.perform {} [.enqueue bareRequest "first" 0, .peek "acme" 0] =
      [.enqueued "first", .peeked [queuedOf bareRequest "first" 0]] := rfl
  refine ⟨redis, rfl, ?_⟩
  rw [redis]
  simp [answers, MemoryQueue.perform, MemoryQueue.queueOf]

end Onpremai.Gateway
