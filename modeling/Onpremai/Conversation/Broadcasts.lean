import Onpremai.Conversation.EventQueue
import Onpremai.Preprocessor.FileRuns

/-!
# Tenant-wide events

The evaluator and the preprocessor push events for all users of a tenant.  The queues of one
tenant are followed over pushes and drains; the number of each push, and where it went, is
kept beside them.
-/

namespace Onpremai.Conversation

open Onpremai.Library
open Onpremai.MemoryService (redisKey pushEvent pushEvent_perm redisKey_inj)

/-- The user id that tenant-wide events are pushed to. -/
def everyone : String := "__all__"

/-- A request of some user's queue. -/
inductive QueueRequest where
  | push (userId : String) (event : MemoryService.Event)
  | drain (userId : String)

def ingestionRequest (dumps : Json → String) (timestamp : Rat)
    (event : Preprocessor.IngestionEvent) : QueueRequest :=
  .push event.userId
    { eventType := event.eventType
      summary := event.summary
      priority := event.priority
      sourceService := event.sourceService
      metadata := dumps event.metadata
      timestamp }

def evaluationRequests (completed changed : String) (timestamp : Rat) (controlId : String)
    (previousStatus : Option String) (finalStatus : String) : List QueueRequest :=
  .push everyone
    { eventType := "evaluation_completed"
      summary := controlId ++ " evaluated: " ++ finalStatus
      priority := "medium"
      sourceService := "agent-eval"
      metadata := completed
      timestamp } ::
  match previousStatus with
  | some previous =>
    if previous = finalStatus then []
    else [.push everyone
      { eventType := "readiness_changed"
        summary := controlId ++ " status changed: " ++ previous ++ " -> " ++ finalStatus
        priority := "high"
        sourceService := "agent-eval"
        metadata := changed
        timestamp }]
  | none => []

/-- An event with the number of its push. -/
structure Numbered where
  number : Nat
  event : MemoryService.Event

/-- What one drain of a user returned, and how many pushes there were before it. -/
structure Receipt where
  userId : String
  pushed : Nat
  numbers : List Nat
  deriving DecidableEq

/-- The queues of a tenant by their keys.  All else is kept to tell where the events went. -/
structure TenantQueues where
  queues : String → List Numbered := fun _ => []
  pushed : Nat := 0
  broadcast : List Nat := []
  evicted : List Nat := []
  receipts : List Receipt := []

namespace TenantQueues

variable (tenantId : String)

def step (state : TenantQueues) : QueueRequest → TenantQueues
  | .push userId event =>
    let key := redisKey tenantId userId
    let pushed := pushEvent (fun item => item.event.priority) (state.queues key)
      { number := state.pushed, event : Numbered }
    { state with
      queues := Function.update state.queues key pushed.1
      pushed := state.pushed + 1
      broadcast :=
        if userId = everyone then state.broadcast ++ [state.pushed] else state.broadcast
      evicted := state.evicted ++ pushed.2.toList.map Numbered.number }
  | .drain userId =>
    let key := redisKey tenantId userId
    let events := EventQueueHandler.sortEvents (fun item => item.event.priority) (state.queues key)
    { state with
      queues := Function.update state.queues key []
      receipts := state.receipts ++
        [{ userId, pushed := state.pushed, numbers := events.map Numbered.number }] }

def received (state : TenantQueues) (userId : String) : List Nat :=
  (state.receipts.filter fun receipt => decide (receipt.userId = userId)).flatMap Receipt.numbers

def waiting (state : TenantQueues) (key : String) : List Nat :=
  (state.queues key).map Numbered.number

/-- Every user who drained after a tenant-wide event was pushed got it exactly once, unless
it was evicted. -/
def Delivered (state : TenantQueues) : Prop :=
  ∀ number ∈ state.broadcast, number ∉ state.evicted → ∀ userId,
    (∃ receipt ∈ state.receipts, receipt.userId = userId ∧ number < receipt.pushed) →
      (state.received userId).count number = 1

def Unaddressed (state : TenantQueues) : QueueRequest → Prop
  | .push _ _ => True
  | .drain userId => userId = everyone ∨ ∀ number ∈ state.broadcast, number ∈ state.evicted

/-- Where tenant-wide events are: in one place, and never with a user of another name. -/
structure Kept (state : TenantQueues) : Prop where
  numbered : ∀ key, ∀ number ∈ state.waiting key, number < state.pushed
  evictedBelow : ∀ number ∈ state.evicted, number < state.pushed
  receivedBelow : ∀ receipt ∈ state.receipts, ∀ number ∈ receipt.numbers, number < state.pushed
  drainedBelow : ∀ receipt ∈ state.receipts, receipt.pushed ≤ state.pushed
  broadcastBelow : ∀ number ∈ state.broadcast, number < state.pushed
  onePlace : ∀ number ∈ state.broadcast,
    (state.waiting (redisKey tenantId everyone)).count number + state.evicted.count number +
      (state.received everyone).count number = 1
  notElsewhere : ∀ number ∈ state.broadcast, ∀ key, key ≠ redisKey tenantId everyone →
    number ∉ state.waiting key
  notReceived : ∀ number ∈ state.broadcast, ∀ userId, userId ≠ everyone →
    number ∉ state.received userId
  drained : ∀ number ∈ state.broadcast, ∀ receipt ∈ state.receipts,
    receipt.userId = everyone → number < receipt.pushed →
      number ∉ state.waiting (redisKey tenantId everyone)

variable {tenantId}

theorem Kept.delivered_iff {state : TenantQueues} (kept : Kept tenantId state) :
    Delivered state ↔ ∀ number ∈ state.broadcast, number ∉ state.evicted →
      ∀ receipt ∈ state.receipts, number < receipt.pushed → receipt.userId = everyone := by
  constructor
  · intro delivered number tenantWide present receipt drained before
    by_contra other
    have once := delivered number tenantWide present receipt.userId ⟨receipt, drained, rfl, before⟩
    have never := kept.notReceived number tenantWide receipt.userId other
    rw [List.count_eq_zero.mpr never] at once
    exact absurd once (by decide)
  · intro only number tenantWide present userId drain
    obtain ⟨receipt, drained, rfl, before⟩ := drain
    have isEveryone := only number tenantWide present receipt drained before
    have gone := kept.drained number tenantWide receipt drained isEveryone before
    have place := kept.onePlace number tenantWide
    rw [List.count_eq_zero.mpr gone, List.count_eq_zero.mpr present] at place
    rw [isEveryone]
    omega

/-! ## What a push keeps -/

section Push

variable (state : TenantQueues) (userId : String) (event : MemoryService.Event)

def dropped (tenantId : String) : List Nat :=
  (pushEvent (fun item => item.event.priority) (state.queues (redisKey tenantId userId))
    { number := state.pushed, event : Numbered }).2.toList.map Numbered.number

theorem evicted_push : (state.step tenantId (.push userId event)).evicted =
    state.evicted ++ state.dropped userId event tenantId := rfl

theorem waiting_push : (state.dropped userId event tenantId ++
      (state.step tenantId (.push userId event)).waiting (redisKey tenantId userId)).Perm
        (state.waiting (redisKey tenantId userId) ++ [state.pushed]) := by
  have moved := (pushEvent_perm (fun item : Numbered => item.event.priority)
    (state.queues (redisKey tenantId userId)) { number := state.pushed, event }).map
      Numbered.number
  rw [List.map_append, List.map_append] at moved
  simpa only [dropped, waiting, step, Function.update_self, List.map_singleton] using moved

theorem waiting_push_other {key : String} (other : key ≠ redisKey tenantId userId) :
    (state.step tenantId (.push userId event)).waiting key = state.waiting key := by
  simp only [waiting, step, Function.update_of_ne other]

variable {state userId event}

theorem below_of_push {number : Nat}
    (member : number ∈ state.dropped userId event tenantId ∨
      number ∈ (state.step tenantId (.push userId event)).waiting (redisKey tenantId userId)) :
    number ∈ state.waiting (redisKey tenantId userId) ∨ number = state.pushed := by
  rw [← List.mem_append, (waiting_push state userId event).mem_iff, List.mem_append,
    List.mem_singleton] at member
  exact member

theorem mem_broadcast_push {number : Nat} :
    number ∈ (state.step tenantId (.push userId event)).broadcast ↔
      number ∈ state.broadcast ∨ userId = everyone ∧ number = state.pushed := by
  by_cases isEveryone : userId = everyone
  · simp [step, isEveryone]
  · simp [step, isEveryone]

theorem count_push (number : Nat) : (state.dropped userId event tenantId).count number +
      ((state.step tenantId (.push userId event)).waiting (redisKey tenantId userId)).count
        number =
      (state.waiting (redisKey tenantId userId)).count number +
        [state.pushed].count number := by
  have moved := (@waiting_push tenantId state userId event).count_eq number
  rwa [List.count_append, List.count_append] at moved

theorem onePlace_push (kept : Kept tenantId state) {number : Nat}
    (tenantWide : number ∈ (state.step tenantId (.push userId event)).broadcast) :
    ((state.step tenantId (.push userId event)).waiting (redisKey tenantId everyone)).count number +
      (state.step tenantId (.push userId event)).evicted.count number +
        ((state.step tenantId (.push userId event)).received everyone).count number = 1 := by
  have same : (state.step tenantId (.push userId event)).received everyone =
      state.received everyone := rfl
  rw [evicted_push, List.count_append, same]
  rcases mem_broadcast_push.mp tenantWide with old | ⟨isEveryone, new⟩
  · have place := kept.onePlace number old
    have apart : [state.pushed].count number = 0 := by
      rw [List.count_eq_zero, List.mem_singleton]
      exact (kept.broadcastBelow number old).ne
    have moved := @count_push tenantId state userId event number
    by_cases isEveryone : userId = everyone
    · rw [isEveryone] at moved ⊢
      omega
    · have other : redisKey tenantId everyone ≠ redisKey tenantId userId := fun same =>
        isEveryone (redisKey_inj.mp same).symm
      have absent := kept.notElsewhere number old (redisKey tenantId userId) other.symm
      rw [List.count_eq_zero.mpr absent] at moved
      rw [waiting_push_other _ _ _ other]
      omega
  · have waits : (state.waiting (redisKey tenantId userId)).count number = 0 := by
      rw [List.count_eq_zero]
      exact fun member => absurd (kept.numbered _ _ member) (by omega)
    have evicted : state.evicted.count number = 0 := by
      rw [List.count_eq_zero]
      exact fun member => absurd (kept.evictedBelow _ member) (by omega)
    have received : (state.received everyone).count number = 0 := by
      rw [List.count_eq_zero]
      intro member
      obtain ⟨receipt, mine, handed⟩ := List.mem_flatMap.mp member
      have below := kept.receivedBelow receipt (List.mem_of_mem_filter mine) number handed
      omega
    have moved := @count_push tenantId state userId event number
    have once : [state.pushed].count number = 1 := by rw [new, List.count_singleton_self]
    rw [← isEveryone] at received ⊢
    omega

theorem kept_push (kept : Kept tenantId state) (userId : String) (event : MemoryService.Event) :
    Kept tenantId (state.step tenantId (.push userId event)) where
  numbered := by
    intro key number member
    by_cases own : key = redisKey tenantId userId
    · subst own
      rcases below_of_push (Or.inr member) with old | new
      · exact (kept.numbered _ number old).trans (Nat.lt_succ_self _)
      · exact new ▸ Nat.lt_succ_self _
    · rw [waiting_push_other _ _ _ own] at member
      exact (kept.numbered key number member).trans (Nat.lt_succ_self _)
  evictedBelow := by
    intro number member
    rcases List.mem_append.mp member with old | new
    · exact (kept.evictedBelow number old).trans (Nat.lt_succ_self _)
    · rcases below_of_push (Or.inl new) with old | new
      · exact (kept.numbered _ number old).trans (Nat.lt_succ_self _)
      · exact new ▸ Nat.lt_succ_self _
  receivedBelow receipt member number handed :=
    (kept.receivedBelow receipt member number handed).trans (Nat.lt_succ_self _)
  drainedBelow receipt member := (kept.drainedBelow receipt member).trans (Nat.le_succ _)
  broadcastBelow := by
    intro number tenantWide
    rcases mem_broadcast_push.mp tenantWide with old | ⟨_, new⟩
    · exact (kept.broadcastBelow number old).trans (Nat.lt_succ_self _)
    · exact new ▸ Nat.lt_succ_self _
  onePlace number tenantWide := onePlace_push kept tenantWide
  notElsewhere := by
    intro number tenantWide key other member
    by_cases own : key = redisKey tenantId userId
    · subst own
      rcases mem_broadcast_push.mp tenantWide with old | ⟨isEveryone, _⟩
      · rcases below_of_push (Or.inr member) with waits | new
        · exact kept.notElsewhere number old _ other waits
        · exact absurd (kept.broadcastBelow number old) (by omega)
      · exact other (by rw [isEveryone])
    · rw [waiting_push_other _ _ _ own] at member
      rcases mem_broadcast_push.mp tenantWide with old | ⟨_, new⟩
      · exact kept.notElsewhere number old key other member
      · exact absurd (kept.numbered key number member) (by omega)
  notReceived := by
    intro number tenantWide user other member
    rcases mem_broadcast_push.mp tenantWide with old | ⟨_, new⟩
    · exact kept.notReceived number old user other member
    · obtain ⟨receipt, theirs, handed⟩ := List.mem_flatMap.mp member
      have below := kept.receivedBelow receipt (List.mem_of_mem_filter theirs) number handed
      omega
  drained := by
    intro number tenantWide receipt drained isEveryone before member
    have most := kept.drainedBelow receipt drained
    rcases mem_broadcast_push.mp tenantWide with old | ⟨_, new⟩
    · have gone := kept.drained number old receipt drained isEveryone before
      by_cases own : redisKey tenantId everyone = redisKey tenantId userId
      · rw [own] at gone member
        rcases below_of_push (Or.inr member) with waits | new
        · exact gone waits
        · exact absurd (kept.broadcastBelow number old) (by omega)
      · rw [waiting_push_other _ _ _ own] at member
        exact gone member
    · omega

end Push

section Drain

variable (state : TenantQueues) (userId : String)

def handed (tenantId : String) : List Nat :=
  (EventQueueHandler.sortEvents (fun item => item.event.priority)
    (state.queues (redisKey tenantId userId))).map Numbered.number

theorem handed_perm :
    (state.handed userId tenantId).Perm (state.waiting (redisKey tenantId userId)) :=
  (EventQueueHandler.sortEvents_perm _ _).map Numbered.number

theorem receipts_drain : (state.step tenantId (.drain userId)).receipts = state.receipts ++
      [{ userId, pushed := state.pushed, numbers := state.handed userId tenantId }] := rfl

theorem received_drain (user : String) : (state.step tenantId (.drain userId)).received user =
      state.received user ++ if userId = user then state.handed userId tenantId else [] := by
  rw [received, receipts_drain, List.filter_append, List.flatMap_append, received]
  by_cases mine : userId = user
  · simp [mine]
  · simp [mine]

theorem waiting_drain (key : String) : (state.step tenantId (.drain userId)).waiting key =
      if key = redisKey tenantId userId then [] else state.waiting key := by
  by_cases own : key = redisKey tenantId userId
  · simp [waiting, step, own]
  · simp [waiting, step, own]

variable {state}

theorem waiting_of_drain {key : String} {number : Nat}
    (member : number ∈ (state.step tenantId (.drain userId)).waiting key) :
    key ≠ redisKey tenantId userId ∧ number ∈ state.waiting key := by
  rw [waiting_drain] at member
  split at member
  · exact absurd member List.not_mem_nil
  · next other => exact ⟨other, member⟩

theorem onePlace_drain (kept : Kept tenantId state) {number : Nat}
    (tenantWide : number ∈ state.broadcast) :
    ((state.step tenantId (.drain userId)).waiting (redisKey tenantId everyone)).count number +
      state.evicted.count number +
        ((state.step tenantId (.drain userId)).received everyone).count number = 1 := by
  have place := kept.onePlace number tenantWide
  rw [waiting_drain, received_drain, List.count_append]
  by_cases isEveryone : userId = everyone
  · have moved := (@handed_perm tenantId state userId).count_eq number
    rw [isEveryone] at moved ⊢
    rw [if_pos rfl, if_pos rfl, moved, List.count_nil]
    omega
  · have other : redisKey tenantId everyone ≠ redisKey tenantId userId := fun same =>
      isEveryone (redisKey_inj.mp same).symm
    rw [if_neg other, if_neg isEveryone, List.count_nil]
    omega

theorem kept_drain (kept : Kept tenantId state) (userId : String) :
    Kept tenantId (state.step tenantId (.drain userId)) where
  numbered key number member := kept.numbered key number (waiting_of_drain userId member).2
  evictedBelow := kept.evictedBelow
  receivedBelow := by
    intro receipt member number inside
    rw [receipts_drain, List.mem_append, List.mem_singleton] at member
    rcases member with old | new
    · exact kept.receivedBelow receipt old number inside
    · rw [new] at inside
      exact kept.numbered _ number ((handed_perm state userId).mem_iff.mp inside)
  drainedBelow := by
    intro receipt member
    rw [receipts_drain, List.mem_append, List.mem_singleton] at member
    rcases member with old | new
    · exact kept.drainedBelow receipt old
    · rw [new]
      exact le_rfl
  broadcastBelow := kept.broadcastBelow
  onePlace number tenantWide := onePlace_drain userId kept tenantWide
  notElsewhere number tenantWide key other member :=
    kept.notElsewhere number tenantWide key other (waiting_of_drain userId member).2
  notReceived := by
    intro number tenantWide user other member
    rw [received_drain, List.mem_append] at member
    rcases member with old | new
    · exact kept.notReceived number tenantWide user other old
    · split at new
      · next mine =>
        subst mine
        have waits := (handed_perm state userId).mem_iff.mp new
        have apart : redisKey tenantId userId ≠ redisKey tenantId everyone := fun same =>
          other (redisKey_inj.mp same)
        exact kept.notElsewhere number tenantWide _ apart waits
      · exact absurd new List.not_mem_nil
  drained := by
    intro number tenantWide receipt member isEveryone before waits
    have waited := waiting_of_drain userId waits
    rw [receipts_drain, List.mem_append, List.mem_singleton] at member
    rcases member with old | new
    · exact kept.drained number tenantWide receipt old isEveryone before waited.2
    · rw [new] at isEveryone
      exact waited.1 (congrArg (redisKey tenantId) isEveryone.symm)

end Drain

theorem kept_step {state : TenantQueues} (kept : Kept tenantId state) (request : QueueRequest) :
    Kept tenantId (state.step tenantId request) := by
  cases request with
  | push userId event => exact kept_push kept userId event
  | drain userId => exact kept_drain kept userId

theorem kept_start : Kept tenantId {} := by
  constructor <;> simp [waiting]

theorem delivered_step_iff {state : TenantQueues} (kept : Kept tenantId state)
    (delivered : Delivered state) (request : QueueRequest) :
    Delivered (state.step tenantId request) ↔ Unaddressed state request := by
  rw [(kept_step kept request).delivered_iff]
  have only := kept.delivered_iff.mp delivered
  cases request with
  | push userId event =>
    apply iff_of_true _ trivial
    intro number tenantWide present receipt drained before
    rcases mem_broadcast_push.mp tenantWide with old | ⟨_, new⟩
    · apply only number old _ receipt drained before
      intro evicted
      exact present (List.mem_append_left _ evicted)
    · have most := kept.drainedBelow receipt drained
      omega
  | drain userId =>
    constructor
    · intro every
      by_contra addressed
      obtain ⟨other, missed⟩ := not_or.mp addressed
      push Not at missed
      obtain ⟨number, tenantWide, present⟩ := missed
      apply other
      apply every number tenantWide present
        { userId, pushed := state.pushed, numbers := state.handed userId tenantId }
      · rw [receipts_drain]
        exact List.mem_append_right _ (List.mem_singleton_self _)
      · exact kept.broadcastBelow number tenantWide
    · intro allowed number tenantWide present receipt member before
      rw [receipts_drain, List.mem_append, List.mem_singleton] at member
      rcases member with old | new
      · exact only number tenantWide present receipt old before
      · rw [new]
        exact allowed.resolve_right fun evicted => present (evicted number tenantWide)

/-- Every user gets every tenant-wide event exactly once, throughout a run, exactly when no
user but the one named for all drains while such an event was pushed and not evicted. -/
theorem broadcasts_delivered_iff (tenantId : String) (requests : List QueueRequest) :
    (∀ earlier later, requests = earlier ++ later → Delivered (run (step tenantId) {} earlier)) ↔
        Allowed (step tenantId) Unaddressed {} requests :=
  passed_supported_iff (step tenantId) (Kept tenantId) Delivered
    (fun _ request kept delivered => delivered_step_iff kept delivered request)
    (fun _ request kept _ _ => kept_step kept request)
    kept_start (by simp [Delivered]) requests

/-- An uploaded file, and a user who starts a session after it. -/
def uploadedThenDrained : List QueueRequest := [ingestionRequest (fun _ => "{}") 0
    { userId := "__all__", tenantId := "acme", eventType := "evidence_uploaded"
      summary := "New evidence uploaded: policy.pdf (pdf)", priority := "low"
      sourceService := "preprocessor", metadata := .obj [] },
   .drain "ada"]

/-- A user drains her queue after a tenant-wide event and does not get it, although nothing
was evicted. -/
theorem broadcast_not_delivered : (run (step "acme") {} uploadedThenDrained).broadcast = [0] ∧
      (run (step "acme") {} uploadedThenDrained).evicted = [] ∧
      (run (step "acme") {} uploadedThenDrained).received "ada" = [] ∧
      ¬ ∀ requests, Delivered (run (step "acme") {} requests) := by
  have places : (run (step "acme") {} uploadedThenDrained).broadcast = [0] ∧
      (run (step "acme") {} uploadedThenDrained).evicted = [] ∧
      (run (step "acme") {} uploadedThenDrained).receipts =
        [{ userId := "ada", pushed := 1, numbers := [] }] := by
    decide
  have nothing : (run (step "acme") {} uploadedThenDrained).received "ada" = [] := by
    rw [received, places.2.2]
    rfl
  refine ⟨places.1, places.2.1, nothing, ?_⟩
  intro always
  have once := always uploadedThenDrained 0 (by rw [places.1]; decide)
    (by rw [places.2.1]; decide) "ada" (by rw [places.2.2]; decide)
  rw [nothing] at once
  exact absurd once (by decide)

end TenantQueues

end Onpremai.Conversation
