import Onpremai.Assistant.Moves
import Onpremai.Library.Machine

/-!
# Interleaved requests

The assistant serves many requests at once, of one session or of many.  They share
the process, and any one of them may move next.
-/

namespace Onpremai.Assistant

open Onpremai.Library

/-- A request under way. -/
structure Flight where
  request : Request
  phase : Phase := .loading

/-- All requests so far, in the order they arrived, and what they have done. -/
structure System where
  process : Process := {}
  flights : List Flight := []
  log : List Event := []

/-- What may happen next. -/
inductive Move where
  | arrive (request : Request)
  | resume (index : Nat) (outcome : Outcome)

namespace System

variable (settings : Settings) (system : System)

def turn (flight : Flight) (outcome : Outcome) : Turn :=
  advance settings flight.request system.process outcome flight.phase

def step : Move → System
  | .arrive request =>
    { system with
      flights := system.flights ++ [{ request }]
      log := system.log ++ [.requested request] }
  | .resume index outcome =>
    match system.flights[index]? with
    | none => system
    | some flight =>
      let turn := system.turn settings flight outcome
      { process := turn.process
        flights := system.flights.set index { flight with phase := turn.phase }
        log := system.log ++ turn.event.toList }

variable {settings system}

theorem step_resume_of_some {index : Nat} {flight : Flight}
    (found : system.flights[index]? = some flight) (outcome : Outcome) :
    system.step settings (.resume index outcome) =
      { process := (system.turn settings flight outcome).process
        flights :=
          system.flights.set index
            { flight with phase := (system.turn settings flight outcome).phase }
        log := system.log ++ (system.turn settings flight outcome).event.toList } := by
  simp only [step, found]

theorem step_resume_of_none {index : Nat} (missing : system.flights[index]? = none)
    (outcome : Outcome) : system.step settings (.resume index outcome) = system := by
  simp only [step, missing]

def rivals (system : System) (index : Nat) (sessionId : String) : List Flight :=
  (system.flights.eraseIdx index).filter fun flight => flight.request.sessionId = sessionId

theorem mem_rivals {index : Nat} {sessionId : String} {rival : Flight} :
    rival ∈ system.rivals index sessionId ↔
      (∃ other, other ≠ index ∧ system.flights[other]? = some rival) ∧
        rival.request.sessionId = sessionId := by
  rw [rivals, List.mem_filter, List.mem_eraseIdx_iff_getElem?, decide_eq_true_iff]

end System

def Event.issue? : Event → Option (PendingConfirmation × UserContext)
  | .issued _ pending user => some (pending, user)
  | _ => none

section Orderly

variable (system : System) (request : Request) (outcome : Outcome)

def OrderlyLoad (rivals : List Flight) : Prop := (∀ rival ∈ rivals, rival.phase.clears?.isNone) ∧
    ∀ pending ∈ takesUp? request system.process outcome,
      (∀ rival ∈ rivals, rival.phase.session? = none) ∧
        (request.action = .confirm pending.confirmationId →
          ∀ event ∈ system.log, ∀ issue ∈ event.issue?,
            issue.1.confirmationId = pending.confirmationId → issue.2.userId = request.user.userId ∧
                issue.2.tenantId = request.user.tenantId)

instance (rivals : List Flight) : Decidable (OrderlyLoad system request outcome rivals) :=
  inferInstanceAs (Decidable (_ ∧ _))

def OrderlySave (pending : PendingConfirmation) : Prop := (outcome.applied = false →
    ∀ stored ∈ system.process.sessions.memory.get? request.sessionId,
      stored.pendingId ≠ some pending.confirmationId) ∧
    (outcome.acknowledged = true →
      ∀ session ∈ system.process.sessions.fallbackSessions.get? request.sessionId,
        (system.process.sessions.read session).pendingId ≠ some pending.confirmationId)

instance (pending : PendingConfirmation) : Decidable (OrderlySave system request outcome pending) :=
  inferInstanceAs (Decidable (_ ∧ _))

/-- Requests neither cross each other's confirmations nor leave copies of them. -/
def Orderly : Move → Prop
  | .arrive _ => True
  | .resume index outcome =>
    ∀ flight ∈ system.flights[index]?,
      (flight.phase.isLoading = true → OrderlyLoad system flight.request outcome
        (system.rivals index flight.request.sessionId)) ∧
      ∀ pending ∈ flight.phase.finishes?, OrderlySave system flight.request outcome pending

instance (move : Move) : Decidable (Orderly system move) :=
  match move with
  | .arrive _ => .isTrue trivial
  | .resume index _ =>
    inferInstanceAs (Decidable (∀ flight ∈ system.flights[index]?, _ ∧ _))

end Orderly

/-!
## Lawful logs and coherent systems

A tool is executed as confirmed on the word of the session object that a request has
loaded.  In a coherent system, every session that still holds a used confirmation also
has a request that is about to clear it.
-/

open SessionManager

/-- A confirmation has been executed or cancelled. -/
def UsedUp (log : List Event) (confirmationId : ConfirmationId) : Prop :=
  ∃ event ∈ log, event.usesUp? = some confirmationId

/-- What must have happened before a tool is executed as confirmed. -/
structure Justified (log : List Event) (confirmationId : ConfirmationId) (toolName : String)
    (params : Json) (user : UserContext) : Prop where
  requested : ∃ request, .requested request ∈ log ∧
    request.action = .confirm confirmationId ∧ request.user = user
  issued : ∃ sessionId pending owner, .issued sessionId pending owner ∈ log ∧
    pending.confirmationId = confirmationId ∧ pending.toolName = toolName ∧
      pending.params = params ∧ owner.userId = user.userId ∧ owner.tenantId = user.tenantId
  first : ∀ otherTool otherParams other, .executed confirmationId otherTool otherParams other ∉ log
  standing : .cancelled confirmationId ∉ log

def Lawful (log : List Event) : Prop := ∀ before confirmationId toolName params user after,
    log = before ++ .executed confirmationId toolName params user :: after →
      Justified before confirmationId toolName params user

section Logs

variable {log more : List Event} {confirmationId : ConfirmationId}

theorem usedUp_append : UsedUp (log ++ more) confirmationId ↔
      UsedUp log confirmationId ∨ UsedUp more confirmationId := by
  constructor
  · rintro ⟨event, member, used⟩
    rcases List.mem_append.mp member with old | new
    · exact .inl ⟨event, old, used⟩
    · exact .inr ⟨event, new, used⟩
  · rintro (⟨event, member, used⟩ | ⟨event, member, used⟩)
    · exact ⟨event, List.mem_append_left _ member, used⟩
    · exact ⟨event, List.mem_append_right _ member, used⟩

theorem usedUp_toList {event : Option Event} :
    UsedUp event.toList confirmationId ↔ event.bind Event.usesUp? = some confirmationId := by
  cases event <;> simp [UsedUp]

theorem lawful_nil : Lawful [] := by
  intro before confirmationId toolName params user after split
  cases List.nil_eq_append_iff.mp split |>.2

theorem Lawful.append (lawful : Lawful log) {event : Option Event}
    (justified : ∀ confirmationId toolName params user,
      event = some (.executed confirmationId toolName params user) →
        Justified log confirmationId toolName params user) :
    Lawful (log ++ event.toList) := by
  cases event with
  | none => simpa using lawful
  | some event =>
    intro before confirmationId toolName params user after split
    rcases List.eq_nil_or_concat after with rfl | ⟨rest, last, rfl⟩
    · have ends := List.append_inj' split rfl
      rw [← ends.1]
      exact justified confirmationId toolName params user
        (congrArg some (List.singleton_inj.mp ends.2))
    · rw [List.concat_eq_append, ← List.cons_append, ← List.append_assoc] at split
      exact lawful before confirmationId toolName params user rest
        (List.append_inj' split rfl).1

end Logs

/-- A session state whose pending confirmation was issued in the session and, if used
up, is about to be cleared. -/
structure Backed (log : List Event) (flights : List Flight) (sessionId : String)
    (state : SessionState) : Prop where
  own : state.sessionId = sessionId
  issued : ∀ pending, state.pendingConfirmation = some pending →
    ∃ owner, .issued sessionId pending owner ∈ log
  clearing : ∀ pending, state.pendingConfirmation = some pending →
    UsedUp log pending.confirmationId → ∃ flight ∈ flights, flight.request.sessionId = sessionId ∧
        flight.phase.clears? = some pending

theorem backed_kind (log : List Event) (flights : List Flight) : Kind (Backed log flights) where
  own := fun _ _ backed => backed.own
  new := fun _ _ _ _ => ⟨rfl, nofun, nofun⟩
  changed := by
    intro sessionId state next backed same pending
    rcases pending with kept | cleared
    · refine ⟨same.trans backed.own, ?_, ?_⟩
      · rw [kept]
        exact backed.issued
      · rw [kept]
        exact backed.clearing
    · refine ⟨same.trans backed.own, ?_, ?_⟩
      · rw [cleared]
        exact nofun
      · rw [cleared]
        exact nofun

theorem owned_kind : Kind fun sessionId state => state.sessionId = sessionId where
  own := fun _ _ own => own
  new := fun _ _ _ _ => rfl
  changed := fun _ _ _ own same _ => same.trans own

/-- What holds in every state of the assistant whose moves have been orderly. -/
structure Coherent (system : System) : Prop where
  sessions : All (Backed system.log system.flights) system.process.sessions
  holds : ∀ flight ∈ system.flights,
    Holds (Backed system.log system.flights) system.process flight.request.sessionId flight.phase
  drawn : ∀ sessionId pending owner, .issued sessionId pending owner ∈ system.log →
    pending.confirmationId < system.process.nextId
  unique : ∀ sessionId pending owner, .issued sessionId pending owner ∈ system.log →
    ∀ otherId other otherOwner, .issued otherId other otherOwner ∈ system.log →
      pending.confirmationId = other.confirmationId → sessionId = otherId ∧ pending = other
  usedIssued : ∀ confirmationId, UsedUp system.log confirmationId →
    ∃ sessionId pending owner, .issued sessionId pending owner ∈ system.log ∧
      pending.confirmationId = confirmationId
  exclusive : ∀ index flight, system.flights[index]? = some flight → flight.phase.clears? ≠ none →
      ∀ rival ∈ system.rivals index flight.request.sessionId, rival.phase.session? = none
  cleared : ∀ flight ∈ system.flights, flight.phase.clears? ≠ none →
    ∀ session snapshot next, flight.phase = .saving session snapshot next →
      SentCleared system.process session snapshot
  requested : ∀ flight ∈ system.flights, .requested flight.request ∈ system.log
  lawful : Lawful system.log

theorem coherent_empty : Coherent {} where
  sessions := by
    constructor
    · intro sessionId state found
      simp at found
    · intro sessionId ref found
      simp at found
  holds := fun _ member => absurd member List.not_mem_nil
  drawn := fun _ _ _ member => absurd member List.not_mem_nil
  unique := fun _ _ _ member => absurd member List.not_mem_nil
  usedIssued := by
    rintro confirmationId ⟨event, member, used⟩
    cases member
  exclusive := by
    intro index flight found
    simp at found
  cleared := fun _ member => absurd member List.not_mem_nil
  requested := fun _ member => absurd member List.not_mem_nil
  lawful := lawful_nil

end Onpremai.Assistant
