import Mathlib.Data.List.Sort
import Onpremai.Library.Text
import Onpremai.MemoryService.EventRequests

/-!
# Event queue of the assistant

Events that other services pushed between two sessions.  At the start of a session they are
drained, sorted by priority, and written into the prompt and the opening message.
-/

namespace Onpremai.Conversation

open Onpremai.Library

namespace EventQueueHandler

/-- `PRIORITY_ORDER.get(priority, 2)`. -/
def priorityOrder (priority : String) : Nat :=
  if priority = "high" then 0
  else if priority = "medium" then 1
  else 2

def sortEvents {Item : Type} (priority : Item → String) (items : List Item) : List Item :=
  items.insertionSort fun first second =>
    priorityOrder (priority first) ≤ priorityOrder (priority second)

theorem sortEvents_perm {Item : Type} (priority : Item → String) (items : List Item) :
    (sortEvents priority items).Perm items := List.perm_insertionSort _ _

/-- A line of the section of the system prompt. -/
def contextLine (marker : String) (event : MemoryService.Event) : String :=
  (if event.priority = "high" then marker else "-") ++ " " ++ event.summary

def commitments (events : List MemoryService.Event) : List MemoryService.Event :=
  events.filter fun event => decide (event.eventType = "agent_commitment_due")

def eventBody (marker due : String) (events : List MemoryService.Event) : List String :=
  (events.take 10).map (contextLine marker) ++
    if (commitments events).isEmpty then []
    else ("\n" ++ due) :: (commitments events).map fun event => "  - " ++ event.summary

def formatForContext (events : List MemoryService.Event) : String :=
  if events.isEmpty then ""
  else Text.joinLines
    ("## Since Your Last Session" :: eventBody "!" "Due commitments:" events)

def openerLine (event : MemoryService.Event) : String := "- " ++ event.summary ++
    if event.sourceService = "" then "" else " (from " ++ event.sourceService ++ ")"

def formatForOpener (events : List MemoryService.Event) : String :=
  if events.isEmpty then ""
  else Text.joinLines
    ("Since your last session, the following happened:" :: (events.take 10).map openerLine)

end EventQueueHandler

end Onpremai.Conversation
