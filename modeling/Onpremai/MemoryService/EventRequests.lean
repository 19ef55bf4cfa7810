import Mathlib.Data.List.Induction
import Onpremai.MemoryService.Events

/-!
# Whole requests on the event queues

Where the commands of one request meet no others, a push and a drain are single steps on the
queue of their user.
-/

namespace Onpremai.MemoryService

open Library

def redisKey (tenantId userId : String) : String := "event_queue:" ++ tenantId ++ ":" ++ userId

theorem redisKey_inj {tenantId first second : String} :
    redisKey tenantId first = redisKey tenantId second ↔ first = second := by
  constructor
  · intro same
    have texts := congrArg String.toList same
    simp only [redisKey, String.toList_append, List.append_cancel_left_eq] at texts
    exact String.toList_inj.mp texts
  · intro same
    rw [same]

section Queue

variable {Item : Type} (priority : Item → String)

/-- An element that goes first where room is needed. -/
def isLow (item : Item) : Bool := priorityRank (priority item) == 0

def evict (queue : List Item) : List Item × Option Item :=
  match queue.find? (isLow priority) with
  | some item => (queue.eraseP (isLow priority), some item)
  | none => (queue.tail, queue.head?)

def pushEvent (queue : List Item) (item : Item) : List Item × Option Item :=
  if maxEventsPerUser ≤ queue.length then
    ((evict priority queue).1 ++ [item], (evict priority queue).2)
  else (queue ++ [item], none)

theorem perm_eraseP_of_find? {kind : Item → Bool} {queue : List Item} {item : Item}
    (found : queue.find? kind = some item) : (item :: queue.eraseP kind).Perm queue := by
  induction queue with
  | nil => simp at found
  | cons first rest ih =>
    cases ofKind : kind first with
    | true =>
      rw [List.find?_cons_of_pos ofKind, Option.some.injEq] at found
      rw [List.eraseP_cons_of_pos ofKind, found]
    | false =>
      have later : ¬ kind first = true := by simp [ofKind]
      rw [List.find?_cons_of_neg later] at found
      rw [List.eraseP_cons_of_neg later]
      exact (List.Perm.swap first item _).trans ((ih found).cons first)

theorem evict_perm (queue : List Item) :
    ((evict priority queue).2.toList ++ (evict priority queue).1).Perm queue := by
  rw [evict]
  split
  · next item found => exact perm_eraseP_of_find? found
  · cases queue with
    | nil => rfl
    | cons oldest rest => rfl

theorem pushEvent_perm (queue : List Item) (item : Item) :
    ((pushEvent priority queue item).2.toList ++ (pushEvent priority queue item).1).Perm
      (queue ++ [item]) := by
  rw [pushEvent]
  split
  · rw [← List.append_assoc]
    exact (evict_perm priority queue).append_right [item]
  · rfl

end Queue

/-- `LREM` by value removes the element that the scan stopped at. -/
theorem erase_of_find? {kind : Event → Bool} {queue : List Event} {item : Event}
    (found : queue.find? kind = some item) : queue.erase item = queue.eraseP kind := by
  induction queue with
  | nil => rfl
  | cons first rest ih =>
    cases ofKind : kind first with
    | true =>
      rw [List.find?_cons_of_pos ofKind, Option.some.injEq] at found
      rw [List.eraseP_cons_of_pos ofKind, found, List.erase_cons_head]
    | false =>
      have later : ¬ kind first = true := by simp [ofKind]
      rw [List.find?_cons_of_neg later] at found
      have other : ¬ (first == item) = true := by
        rw [beq_iff_eq]
        intro same
        rw [same, List.find?_some found] at ofKind
        exact absurd ofKind.symm Bool.false_ne_true
      rw [List.eraseP_cons_of_neg later, List.erase_cons_tail other, ih found]

namespace QueueState

theorem run_push {state : QueueState} (idle : state.inFlight = []) (event : Event) :
    run step state [.push event, .next 0, .next 0, .next 0] =
      { state with
        queue := (pushEvent Event.priority state.queue event).1
        evicted := state.evicted ++ (pushEvent Event.priority state.queue event).2.toList
        acknowledged := state.acknowledged ++ [event] } := by
  obtain ⟨queue, inFlight, evicted, drained, acknowledged⟩ := state
  subst idle
  by_cases full : maxEventsPerUser ≤ queue.length
  · have filled : queue.isEmpty = false := by
      cases queue with
      | nil => simp [maxEventsPerUser] at full
      | cons oldest rest => rfl
    cases found : queue.find? (isLow Event.priority) with
    | none =>
      have scanned : evictLowestPriority event queue = .popping event := by
        rw [evictLowestPriority, filled]
        simp only [Bool.false_eq_true, if_false]
        rw [show (queue.find? fun raw => priorityRank raw.priority == 0) = none from found]
      simp [run, step, advance, full, scanned, pushEvent, evict, found]
    | some raw =>
      have scanned : evictLowestPriority event queue = .removing event raw := by
        rw [evictLowestPriority, filled]
        simp only [Bool.false_eq_true, if_false]
        rw [show (queue.find? fun raw => priorityRank raw.priority == 0) = some raw from found]
      have member : raw ∈ queue := List.mem_of_find?_eq_some found
      simp [run, step, advance, full, scanned, pushEvent, evict, found, member,
        erase_of_find? found]
  · simp [run, step, advance, full, pushEvent]

theorem run_drain {state : QueueState} (idle : state.inFlight = []) :
    run step state [.drain, .next 0] =
      { state with queue := [], drained := state.drained ++ [state.queue] } := by
  simp [run, step, advance, idle]

end QueueState

end Onpremai.MemoryService

/-!
## Histories of one event queue

Requests on the queue of one user that come one after the other, each of them finished before
the next begins.  What waits then was pushed after the last drain, in that order, and a push
that finds the queue full makes room for itself alone.
-/

namespace Onpremai.MemoryService

open Library

/-- A whole request on the queue. -/
inductive QueueRequest where
  | push (event : Event)
  | drain

def QueueRequest.commands : QueueRequest → List QueueCommand
  | .push event => [.push event, .next 0, .next 0, .next 0]
  | .drain => [.drain, .next 0]

def servedInTurn (requests : List QueueRequest) : QueueState :=
  run QueueState.step {} (requests.flatMap QueueRequest.commands)

def pushedSince (pushed : List Event) : QueueRequest → List Event
  | .push event => pushed ++ [event]
  | .drain => []

def pushedSinceDrain (requests : List QueueRequest) : List Event := run pushedSince [] requests

/-- One element gave way to an event: the oldest of low priority, or else the oldest. -/
inductive Evicts (queue : List Event) (event : Event) : List Event → Event → Prop
  | low {before after : List Event} {raw : Event} (found : queue = before ++ raw :: after)
      (isLow : raw.priority = "low") (first : ∀ older ∈ before, older.priority ≠ "low") :
      Evicts queue event (before ++ after ++ [event]) raw
  | oldest {after : List Event} {raw : Event} (found : queue = raw :: after)
      (noneLow : ∀ waiting ∈ queue, waiting.priority ≠ "low") :
      Evicts queue event (after ++ [event]) raw

/-- What is promised of a queue after a history, and of the push that comes next. -/
structure QueueLaw (requests : List QueueRequest) : Prop where
  inOrder : (servedInTurn requests).queue.Sublist (pushedSinceDrain requests)
  capped : (servedInTurn requests).queue.length ≤ maxEventsPerUser
  makesRoom : ∀ event, maxEventsPerUser ≤ (servedInTurn requests).queue.length →
    ∃ raw, Evicts (servedInTurn requests).queue event
        (servedInTurn (requests ++ [.push event])).queue raw ∧
      (servedInTurn (requests ++ [.push event])).evicted = (servedInTurn requests).evicted ++ [raw]

theorem isLow_iff (event : Event) : isLow Event.priority event = true ↔ event.priority = "low" := by
  rw [isLow, beq_iff_eq, priorityRank]
  split
  · next low => exact iff_of_true rfl low
  · next other =>
    apply iff_of_false
    · split_ifs <;> decide
    · exact other

theorem exists_split_of_find? {kind : Event → Bool} {queue : List Event} {raw : Event}
    (found : queue.find? kind = some raw) :
    ∃ before after, queue = before ++ raw :: after ∧ (∀ older ∈ before, ¬ kind older = true) ∧
      queue.eraseP kind = before ++ after := by
  rw [List.find?_eq_some_iff_append] at found
  rcases found with ⟨ofKind, before, after, split, passed⟩
  have others : ∀ older ∈ before, ¬ kind older = true := by
    intro older inside
    simpa using passed older inside
  refine ⟨before, after, split, others, ?_⟩
  rw [split, List.eraseP_append_right _ others, List.eraseP_cons_of_pos ofKind]

theorem evicts_evict {queue : List Event} (filled : queue ≠ []) (event : Event) :
    ∃ raw, (evict Event.priority queue).2 = some raw ∧
      Evicts queue event ((evict Event.priority queue).1 ++ [event]) raw := by
  rw [evict]
  split
  · next raw found =>
    rcases exists_split_of_find? found with ⟨before, after, split, passed, erased⟩
    refine ⟨raw, rfl, ?_⟩
    rw [erased]
    apply Evicts.low split
    · exact (isLow_iff raw).mp (List.find?_some found)
    · intro older inside low
      exact passed older inside ((isLow_iff older).mpr low)
  · next none =>
    cases queue with
    | nil => exact absurd rfl filled
    | cons oldest rest =>
      refine ⟨oldest, rfl, .oldest rfl ?_⟩
      intro waiting inside low
      exact List.find?_eq_none.mp none waiting inside ((isLow_iff waiting).mpr low)

theorem evict_sublist (queue : List Event) : (evict Event.priority queue).1.Sublist queue := by
  rw [evict]
  split
  · exact List.eraseP_sublist
  · exact List.tail_sublist queue

theorem pushEvent_sublist (queue : List Event) (event : Event) :
    (pushEvent Event.priority queue event).1.Sublist (queue ++ [event]) := by
  rw [pushEvent]
  split
  · exact (evict_sublist queue).append_right [event]
  · exact List.Sublist.refl _

theorem length_pushEvent_le {queue : List Event} (capped : queue.length ≤ maxEventsPerUser)
    (event : Event) :
    (pushEvent Event.priority queue event).1.length ≤ maxEventsPerUser := by
  have counted := (pushEvent_perm Event.priority queue event).length_eq
  rw [List.length_append, List.length_append, List.length_singleton] at counted
  by_cases full : maxEventsPerUser ≤ queue.length
  · have filled : queue ≠ [] := by
      rintro rfl
      exact absurd full (by decide)
    rcases evicts_evict filled event with ⟨raw, evicted, -⟩
    have one : (pushEvent Event.priority queue event).2 = some raw := by
      rw [pushEvent, if_pos full]
      exact evicted
    rw [one, Option.toList_some, List.length_singleton] at counted
    omega
  · omega

section

variable (requests : List QueueRequest)

theorem servedInTurn_concat (request : QueueRequest) : servedInTurn (requests ++ [request]) =
      run QueueState.step (servedInTurn requests) request.commands := by
  simp only [servedInTurn, List.flatMap_append, List.flatMap_singleton, run_append]

theorem pushedSinceDrain_concat (request : QueueRequest) :
    pushedSinceDrain (requests ++ [request]) = pushedSince (pushedSinceDrain requests) request :=
  run_concat pushedSince [] requests request

theorem inFlight_servedInTurn : (servedInTurn requests).inFlight = [] := by
  induction requests using List.reverseRecOn with
  | nil => rfl
  | append_singleton requests request ih =>
    rw [servedInTurn_concat]
    cases request with
    | push event =>
      rw [QueueRequest.commands, QueueState.run_push ih]
      exact ih
    | drain =>
      rw [QueueRequest.commands, QueueState.run_drain ih]
      exact ih

theorem servedInTurn_push (event : Event) : servedInTurn (requests ++ [.push event]) =
      { servedInTurn requests with
        queue := (pushEvent Event.priority (servedInTurn requests).queue event).1
        evicted := (servedInTurn requests).evicted ++
          (pushEvent Event.priority (servedInTurn requests).queue event).2.toList
        acknowledged := (servedInTurn requests).acknowledged ++ [event] } := by
  rw [servedInTurn_concat]
  exact QueueState.run_push (inFlight_servedInTurn requests) event

theorem servedInTurn_drain : servedInTurn (requests ++ [.drain]) =
      { servedInTurn requests with
        queue := []
        drained := (servedInTurn requests).drained ++ [(servedInTurn requests).queue] } := by
  rw [servedInTurn_concat]
  exact QueueState.run_drain (inFlight_servedInTurn requests)

theorem queue_servedInTurn : (servedInTurn requests).queue.Sublist (pushedSinceDrain requests) ∧
      (servedInTurn requests).queue.length ≤ maxEventsPerUser := by
  induction requests using List.reverseRecOn with
  | nil => exact ⟨List.Sublist.refl [], Nat.zero_le _⟩
  | append_singleton requests request ih =>
    rw [pushedSinceDrain_concat]
    cases request with
    | push event =>
      rw [servedInTurn_push]
      constructor
      · exact (pushEvent_sublist _ event).trans (ih.1.append_right [event])
      · exact length_pushEvent_le ih.2 event
    | drain =>
      rw [servedInTurn_drain]
      exact ⟨List.Sublist.refl [], Nat.zero_le _⟩

end

/-- After every history the queue has events pushed since the last drain, in their order and
within the cap, and a push onto a full queue evicts one event, the oldest of low priority
before the oldest of all. -/
theorem queueLaw (requests : List QueueRequest) : QueueLaw requests where
  inOrder := (queue_servedInTurn requests).1
  capped := (queue_servedInTurn requests).2
  makesRoom := by
    intro event full
    have filled : (servedInTurn requests).queue ≠ [] := by
      intro empty
      rw [empty] at full
      exact absurd full (by decide)
    rcases evicts_evict filled event with ⟨raw, evicted, evicts⟩
    refine ⟨raw, ?_, ?_⟩
    · rw [servedInTurn_push, pushEvent, if_pos full]
      exact evicts
    · rw [servedInTurn_push, pushEvent, if_pos full, evicted]
      rfl

end Onpremai.MemoryService
