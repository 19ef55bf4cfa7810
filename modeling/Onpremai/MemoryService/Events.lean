import Mathlib.Data.List.Nodup
import Mathlib.Data.List.Perm.Basic
import Mathlib.Data.Rat.Defs
import Onpremai.Library.Machine

/-!
# The event queue

Events pushed by the services wait in one Redis list for each user until they are
drained.  A push is up to four Redis commands, a drain is two, and commands of
other requests on the same queue may fall between them.
-/

namespace Onpremai.MemoryService

open Library

def maxEventsPerUser : Nat := 50

/-- An element of the queue; `metadata` is kept as the JSON text it is stored as. -/
structure Event where
  eventType : String
  summary : String
  priority : String := "medium"
  sourceService : String := ""
  metadata : String := "{}"
  timestamp : Rat
  deriving DecidableEq

/-- `priority_rank.get(priority, 1)`. -/
def priorityRank (priority : String) : Nat :=
  if priority = "low" then 0
  else if priority = "medium" then 1
  else if priority = "high" then 2
  else if priority = "critical" then 3
  else 1

/-- The next command of a request, with what the request remembers. -/
inductive Phase where
  /-- `_evict_lowest_priority`, before its `LRANGE`. -/
  | evicting (event : Event)
  /-- Before `LREM key 1 raw`. -/
  | removing (event raw : Event)
  /-- Before `LPOP`. -/
  | popping (event : Event)
  /-- Before `RPUSH`. -/
  | pushing (event : Event)
  /-- A drain, before its `DELETE`. -/
  | deleting (rawEvents : List Event)

/-- What `_evict_lowest_priority` does about the events that it read. -/
def evictLowestPriority (event : Event) (rawEvents : List Event) : Phase :=
  if rawEvents.isEmpty then .pushing event
  else match rawEvents.find? fun raw => priorityRank raw.priority == 0 with
    | some raw => .removing event raw
    | none => .popping event

/-- The queue, the requests under way, and where the events went. -/
structure QueueState where
  queue : List Event := []
  inFlight : List Phase := []
  evicted : List Event := []
  /-- What each drain returned. -/
  drained : List (List Event) := []
  /-- The events whose push was answered `ok`. -/
  acknowledged : List Event := []

inductive QueueCommand where
  /-- The `LLEN` of a push that just arrived. -/
  | push (event : Event)
  /-- The `LRANGE` of a drain that just arrived. -/
  | drain
  /-- The next command of a request under way. -/
  | next (index : Nat)

namespace QueueState

def advance (state : QueueState) (index : Nat) : Phase → QueueState
  | .evicting event =>
    { state with
      inFlight := state.inFlight.set index (evictLowestPriority event state.queue) }
  | .removing event raw =>
    { state with
      queue := state.queue.erase raw
      evicted := if raw ∈ state.queue then state.evicted ++ [raw] else state.evicted
      inFlight := state.inFlight.set index (.pushing event) }
  | .popping event =>
    { state with
      queue := state.queue.tail
      evicted := state.evicted ++ state.queue.head?.toList
      inFlight := state.inFlight.set index (.pushing event) }
  | .pushing event =>
    { state with
      queue := state.queue ++ [event]
      acknowledged := state.acknowledged ++ [event]
      inFlight := state.inFlight.eraseIdx index }
  | .deleting rawEvents =>
    { state with
      queue := []
      drained := state.drained ++ [rawEvents]
      inFlight := state.inFlight.eraseIdx index }

def step (state : QueueState) : QueueCommand → QueueState
  | .push event =>
    let phase : Phase :=
      if maxEventsPerUser ≤ state.queue.length then .evicting event else .pushing event
    { state with inFlight := state.inFlight ++ [phase] }
  | .drain => { state with inFlight := state.inFlight ++ [.deleting state.queue] }
  | .next index =>
    match state.inFlight[index]? with
    | none => state
    | some phase => state.advance index phase

/-- Every acknowledged event is in exactly one place, counted with multiplicity, and
the queue respects its cap. -/
structure Kept (state : QueueState) : Prop where
  onePlace : state.acknowledged.Perm (state.queue ++ state.evicted ++ state.drained.flatten)
  capped : state.queue.length ≤ maxEventsPerUser

/-- A `DELETE` finds in the queue what its drain read, and an `RPUSH` finds room. -/
def Orderly (state : QueueState) : QueueCommand → Prop
  | .push _ => True
  | .drain => True
  | .next index =>
    match state.inFlight[index]? with
    | some (.pushing _) => state.queue.length < maxEventsPerUser
    | some (.deleting rawEvents) => state.queue.Perm rawEvents
    | _ => True

end QueueState

/-!
## Delivery of events

An event moves from the queue to the evicted or the drained events one command at a
time.  Two commands act on what an earlier command of the same request saw: the
`DELETE` of a drain and the `RPUSH` of a push.
-/

namespace QueueState

section

variable {state : QueueState}

theorem kept_evict {queue evicted : List Event} (kept : Kept state)
    (moved : (queue ++ evicted).Perm (state.queue ++ state.evicted))
    (shorter : queue.length ≤ state.queue.length) (inFlight : List Phase) :
    Kept { state with queue := queue, evicted := evicted, inFlight := inFlight } where
  onePlace := kept.onePlace.trans ((moved.append_right _).symm)
  capped := shorter.trans kept.capped

theorem kept_removing (kept : Kept state) (index : Nat)
    (event raw : Event) : Kept (state.advance index (.removing event raw)) := by
  apply kept_evict kept
  · by_cases present : raw ∈ state.queue
    · rw [if_pos present]
      calc state.queue.erase raw ++ (state.evicted ++ [raw])
          _ = (state.queue.erase raw ++ state.evicted) ++ [raw] := by rw [List.append_assoc]
          _ |>.Perm (raw :: (state.queue.erase raw ++ state.evicted)) :=
            List.perm_append_singleton _ _
          _ |>.Perm (state.queue ++ state.evicted) :=
            (List.perm_cons_erase present).symm.append_right _
    · rw [if_neg present, List.erase_of_not_mem present]
  · exact List.length_erase_le

theorem kept_popping (kept : Kept state) (index : Nat) (event : Event) :
    Kept (state.advance index (.popping event)) := by
  apply kept_evict kept
  · cases state.queue with
    | nil => simp
    | cons oldest rest =>
      simp only [List.tail_cons, List.head?_cons, Option.toList_some, ← List.append_assoc]
      exact List.perm_append_singleton oldest (rest ++ state.evicted)
  · rw [List.length_tail]
    omega

theorem kept_pushing_iff (kept : Kept state) (index : Nat) (event : Event) :
    Kept (state.advance index (.pushing event)) ↔ state.queue.length < maxEventsPerUser := by
  constructor
  · intro after
    have capped := after.capped
    simp only [advance, List.length_append, List.length_singleton] at capped
    omega
  · intro room
    constructor
    · dsimp only [advance]
      have appended : (state.acknowledged ++ [event]).Perm
          (state.queue ++ state.evicted ++ state.drained.flatten ++ [event]) :=
        kept.onePlace.append_right [event]
      apply appended.trans
      simp only [List.append_assoc]
      apply List.Perm.append_left
      rw [← List.append_assoc]
      exact List.perm_append_comm
    · simp only [advance, List.length_append, List.length_singleton]
      omega

theorem kept_deleting_iff (kept : Kept state) (index : Nat) (rawEvents : List Event) :
    Kept (state.advance index (.deleting rawEvents)) ↔ state.queue.Perm rawEvents := by
  have places : (([] : List Event) ++ state.evicted ++ (state.drained ++ [rawEvents]).flatten).Perm
        (rawEvents ++ (state.evicted ++ state.drained.flatten)) := by
    simp only [List.nil_append, List.flatten_append, List.flatten_singleton]
    rw [← List.append_assoc]
    exact List.perm_append_comm
  have before := kept.onePlace
  rw [List.append_assoc] at before
  constructor
  · intro after
    have both := before.symm.trans (after.onePlace.trans places)
    exact (List.perm_append_right_iff _).mp both
  · intro same
    constructor
    · exact before.trans ((same.append_right _).trans places.symm)
    · exact Nat.zero_le _

theorem kept_step_iff (kept : Kept state) (command : QueueCommand) :
    Kept (step state command) ↔ Orderly state command := by
  cases command with
  | push event => exact iff_of_true ⟨kept.onePlace, kept.capped⟩ trivial
  | drain => exact iff_of_true ⟨kept.onePlace, kept.capped⟩ trivial
  | next index =>
    rw [step, Orderly]
    cases state.inFlight[index]? with
    | none => exact iff_of_true kept trivial
    | some phase =>
      cases phase with
      | evicting event => exact iff_of_true ⟨kept.onePlace, kept.capped⟩ trivial
      | removing event raw => exact iff_of_true (kept_removing kept index event raw) trivial
      | popping event => exact iff_of_true (kept_popping kept index event) trivial
      | pushing event => exact kept_pushing_iff kept index event
      | deleting rawEvents => exact kept_deleting_iff kept index rawEvents

end

theorem kept_start : Kept {} where
  onePlace := List.Perm.refl []
  capped := Nat.zero_le _

/-- Every acknowledged event is in exactly one place, and the queue respects its cap,
throughout a run exactly when its commands are orderly. -/
theorem delivery_iff (commands : List QueueCommand) :
    (∀ earlier later, commands = earlier ++ later → Kept (run step {} earlier)) ↔
      Allowed step Orderly {} commands := by
  apply passed_invariant_iff step Kept
  · intro state command kept
    exact kept_step_iff kept command
  · exact kept_start

/-- An event pushed between the two commands of a drain is acknowledged and gone. -/
theorem pushed_during_drain_lost : ¬ ∀ earlier later,
      [QueueCommand.push { eventType := "control_updated", summary := "CC6.1", timestamp := 1 },
        .next 0, .drain,
        .push { eventType := "policy_updated", summary := "CC6.2", timestamp := 2 },
        .next 1, .next 0] = earlier ++ later → Kept (run step {} earlier) := by
  intro every
  have kept := every _ [] (List.append_nil _).symm
  exact absurd kept.onePlace.length_eq (by decide)

end QueueState

end Onpremai.MemoryService
