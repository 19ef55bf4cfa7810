import Onpremai.Assistant.Kinds

/-!
# Moves on confirmations

Of all the moves of a request, few touch a confirmation: one issues it, one executes
it, one cancels it, and the saves that follow clear it from the session.
-/

namespace Onpremai.Assistant

open Onpremai.Library

open SessionManager

def Event.usesUp? : Event → Option ConfirmationId
  | .executed confirmationId _ _ _ | .cancelled confirmationId => some confirmationId
  | .requested _ | .issued _ _ _ => none

def AfterSave.clears? : AfterSave → Option PendingConfirmation
  | .executed pending | .cancelAgain pending | .cancelled pending => some pending
  | _ => none

def Phase.clears? : Phase → Option PendingConfirmation
  | .executing _ confirmed => some confirmed
  | .saving _ _ next => next.clears?
  | _ => none

theorem Phase.snapshot?_of_session? {phase : Phase} (idle : phase.session? = none) :
    phase.snapshot? = none := by
  cases phase with
  | saving session snapshot next => cases idle
  | _ => rfl

/-- The confirmation whose clearing is over when the request's save comes back. -/
def Phase.finishes? : Phase → Option PendingConfirmation
  | .saving _ _ (.executed pending) | .saving _ _ (.cancelled pending) => some pending
  | _ => none

/-- The request has not loaded its session yet. -/
def Phase.isLoading : Phase → Bool
  | .loading => true
  | _ => false

/-- A session object without a confirmation, just sent to the memory service. -/
structure SentCleared (process : Process) (session : SessionRef) (snapshot : SessionState) :
    Prop where
  object : (process.sessions.read session).pendingConfirmation = none
  sent : snapshot.pendingConfirmation = none

section Inversion

variable (request : Request) (process : Process) (outcome : Outcome)

def loadedProcess : Process :=
  { process with
    sessions :=
      (process.sessions.getOrCreate request.sessionId request.user outcome.recalled).2 }

def loadedSession : SessionRef :=
  (process.sessions.getOrCreate request.sessionId request.user outcome.recalled).1

def loadedPending : Option PendingConfirmation :=
  ((loadedProcess request process outcome).sessions.read
    (loadedSession request process outcome)).pendingConfirmation

def takesUp? : Option PendingConfirmation :=
  match request.action with
  | .confirm confirmationId =>
    (loadedPending request process outcome).filter fun pending =>
      pending.confirmationId = confirmationId
  | .cancel _ => loadedPending request process outcome
  | .init | .chat _ => none

/-- The moves of a request, by what they do to confirmations. -/
inductive Moves : Phase → Turn → Prop
  | plain {phase : Phase} {turn : Turn} (quiet : turn.event = none)
      (nextId : turn.process.nextId = process.nextId) (before : phase.clears? = none)
      (after : turn.phase.clears? = none) : Moves phase turn
  | issues {phase : Phase} {turn : Turn} {pending : PendingConfirmation}
      (shown : turn.event = some (.issued request.sessionId pending request.user))
      (fresh : pending.confirmationId = process.nextId)
      (nextId : turn.process.nextId = process.nextId + 1) (before : phase.clears? = none)
      (after : turn.phase.clears? = none) : Moves phase turn
  | executes {pending : PendingConfirmation}
      (asked : request.action = .confirm pending.confirmationId)
      (taken : takesUp? request process outcome = some pending) :
      Moves .loading
        { phase := .executing (loadedSession request process outcome) pending
          process := loadedProcess request process outcome
          event := some (.executed pending.confirmationId pending.toolName pending.params
            request.user) }
  | cancels {turn : Turn} {pending : PendingConfirmation} {session : SessionRef}
      {snapshot : SessionState} (taken : takesUp? request process outcome = some pending)
      (shown : turn.event = some (.cancelled pending.confirmationId))
      (nextId : turn.process.nextId = process.nextId)
      (phase : turn.phase = .saving session snapshot (.cancelAgain pending))
      (sent : SentCleared turn.process session snapshot) : Moves .loading turn
  | clears {phase : Phase} {turn : Turn} {pending : PendingConfirmation}
      {session : SessionRef} {snapshot : SessionState} {next : AfterSave}
      (before : phase.clears? = some pending) (lasting : phase.finishes? = none)
      (quiet : turn.event = none) (nextId : turn.process.nextId = process.nextId)
      (saving : turn.phase = .saving session snapshot next)
      (after : next.clears? = some pending)
      (sent : (∀ other old after, phase = .saving other old after → SentCleared process other old) →
        SentCleared turn.process session snapshot) : Moves phase turn
  | ends {session : SessionRef} {snapshot : SessionState} {next : AfterSave} {turn : Turn}
      {pending : PendingConfirmation}
      (last : next = .executed pending ∨ next = .cancelled pending)
      (quiet : turn.event = none)
      (saved : turn.process =
        { process with
          sessions := process.sessions.finishSave session snapshot outcome.applied
            outcome.acknowledged })
      (ended : turn.phase.clears? = none)
      (answers : (process.sessions.read session).pendingConfirmation = none →
        turn.phase.session? = none) : Moves (.saving session snapshot next) turn

variable {request process outcome}

theorem takesUp_confirm {pending : PendingConfirmation}
    (asked : request.action = .confirm pending.confirmationId)
    (found : loadedPending request process outcome = some pending) :
    takesUp? request process outcome = some pending := by
  simp [takesUp?, asked, found]

theorem loadedPending_of_takesUp {pending : PendingConfirmation}
    (taken : takesUp? request process outcome = some pending) :
    loadedPending request process outcome = some pending := by
  rw [takesUp?] at taken
  split at taken
  · exact (Option.filter_eq_some_iff.mp taken).1
  · exact taken
  · cases taken
  · cases taken

theorem moves_await {phase next : Phase} (before : phase.clears? = none)
    (after : next.clears? = none) {other : Process} (nextId : other.nextId = process.nextId) :
    Moves request process outcome phase (other.thenAwait next) :=
  .plain rfl nextId before after

theorem moves_answer {phase : Phase} (before : phase.clears? = none) (answer : Answer)
    {other : Process} (nextId : other.nextId = process.nextId) :
    Moves request process outcome phase (other.thenAnswer answer) :=
  .plain rfl nextId before rfl

theorem moves_save {phase : Phase} (before : phase.clears? = none) {session : SessionRef}
    {next : AfterSave} (after : next.clears? = none) {other : Process}
    (nextId : other.nextId = process.nextId) :
    Moves request process outcome phase (other.thenSave session next) :=
  .plain rfl nextId before after

theorem moves_handleMessage {phase : Phase} (before : phase.clears? = none)
    (session : SessionRef) (message : String) {other : Process}
    (nextId : other.nextId = process.nextId) :
    Moves request process outcome phase (handleMessage other session message) := by
  rw [handleMessage]
  split
  · exact moves_await before rfl nextId
  · split
    · exact moves_await before rfl nextId
    · exact moves_await before rfl nextId

theorem moves_askRound (settings : Settings) {phase : Phase} (before : phase.clears? = none)
    (session : SessionRef) (round : Nat) :
    Moves request process outcome phase (askRound settings process session round) := by
  rw [askRound]
  split
  · exact moves_await before rfl rfl
  · exact moves_save before rfl rfl

theorem pending_read_clear (sessions : SessionManager) (session : SessionRef) :
    ((sessions.mutate session fun state =>
      { state with pendingConfirmation := none }).read session).pendingConfirmation = none := by
  by_cases inside : session < sessions.objects.length
  · rw [read_mutate_self inside]
  · have outside : sessions.objects.length ≤ session := Nat.le_of_not_lt inside
    simp [SessionManager.mutate, SessionManager.read, outside]
    rfl

section

variable (settings : Settings) (request : Request) (process : Process) (outcome : Outcome)

theorem advance_moves (phase : Phase) :
    Moves request process outcome phase (advance settings request process outcome phase) := by
  cases phase with
  | loading =>
    rw [advance]
    cases action : request.action with
    | init => exact moves_await rfl rfl rfl
    | chat message => exact moves_handleMessage rfl _ message rfl
    | confirm confirmationId =>
      change Moves request process outcome .loading (handleConfirm request
        (loadedProcess request process outcome) (loadedSession request process outcome)
        confirmationId)
      rw [handleConfirm]
      split
      · exact moves_answer rfl _ rfl
      · next pending found =>
        split
        · exact moves_answer rfl _ rfl
        · next same =>
          rw [ne_eq, not_not] at same
          rw [← same] at action ⊢
          exact .executes action (takesUp_confirm action found)
    | cancel confirmationId =>
      change Moves request process outcome .loading (handleCancel
        (loadedProcess request process outcome) (loadedSession request process outcome))
      rw [handleCancel]
      split
      · exact moves_answer rfl _ rfl
      · next pending found =>
        have taken : takesUp? request process outcome = some pending := by
          rw [takesUp?, action]
          exact found
        exact .cancels taken rfl rfl rfl
          ⟨pending_read_clear _ _, pending_read_clear _ _⟩
  | introducing session => exact moves_await rfl rfl rfl
  | greeting session =>
    rw [advance]
    split
    · exact moves_save rfl rfl rfl
    · exact moves_save rfl rfl rfl
    · exact moves_save rfl rfl rfl
    · exact moves_answer rfl _ rfl
  | pinging session message =>
    rw [advance]
    split
    · exact moves_handleMessage rfl session message rfl
    · exact moves_handleMessage rfl session message rfl
    · exact moves_await rfl rfl rfl
    · exact moves_answer rfl _ rfl
  | naming session =>
    rw [advance]
    split
    · exact moves_save rfl rfl rfl
    · exact moves_save rfl rfl rfl
    · exact moves_save rfl rfl rfl
    · exact moves_answer rfl _ rfl
  | preparing session => exact moves_askRound settings rfl session 0
  | asking session round =>
    rw [advance]
    split
    · exact moves_save rfl rfl rfl
    · exact moves_await rfl rfl rfl
    · exact moves_save rfl rfl rfl
    · exact moves_answer rfl _ rfl
  | calling session round call rest =>
    rw [advance]
    cases outcome.tool with
    | confirmationRequired summary => exact .issues rfl rfl rfl rfl rfl
    | success | error =>
      cases rest with
      | nil => exact moves_askRound settings rfl session (round + 1)
      | cons next rest => exact moves_await rfl rfl rfl
  | executing session confirmed =>
    rw [advance]
    have before : (Phase.executing session confirmed).clears? = some confirmed := rfl
    have after : (AfterSave.executed confirmed).clears? = some confirmed := rfl
    exact .clears before rfl rfl rfl rfl after fun _ =>
      ⟨pending_read_clear _ _, pending_read_clear _ _⟩
  | summarizing session =>
    rw [advance]
    split
    · exact moves_save rfl rfl rfl
    · exact moves_save rfl rfl rfl
    · exact moves_save rfl rfl rfl
    · exact moves_answer rfl _ rfl
  | saving session snapshot next =>
    rw [advance]
    cases next with
    | reply => exact moves_answer rfl _ rfl
    | dataOnly => exact moves_await rfl rfl rfl
    | issueAgain pending => exact moves_save rfl rfl rfl
    | issued pending => exact moves_answer rfl _ rfl
    | executed confirmed =>
      apply Moves.ends (.inl rfl)
      · rw [handleSaved]
        split <;> rfl
      · rw [handleSaved]
        split <;> rfl
      · rw [handleSaved]
        split <;> rfl
      · intro none
        rw [handleSaved]
        split
        · rfl
        · next still =>
          rw [read_finishSave, none] at still
          cases still
    | cancelAgain cancelled =>
      have before : (Phase.saving session snapshot (.cancelAgain cancelled)).clears? =
          some cancelled := rfl
      have after : (AfterSave.cancelled cancelled).clears? = some cancelled := rfl
      exact .clears before rfl rfl rfl rfl after fun sent =>
        have here := sent session snapshot (.cancelAgain cancelled) rfl
        ⟨here.object, here.object⟩
    | cancelled cancelled =>
      exact .ends (.inr rfl) rfl rfl rfl fun _ => rfl
  | answeringDataOnly => exact moves_answer rfl _ rfl
  | answered answer => exact .plain rfl rfl rfl rfl

theorem advance_idle {phase : Phase} (idle : phase.session? = none)
    (loaded : phase.isLoading = false) :
    (advance settings request process outcome phase).process = process ∧
      (advance settings request process outcome phase).phase.session? = none := by
  cases phase with
  | loading => cases loaded
  | answeringDataOnly | answered _ => exact ⟨rfl, rfl⟩
  | introducing _ | greeting _ | pinging _ _ | naming _ | preparing _ | asking _ _
  | calling _ _ _ _ | executing _ _ | summarizing _ | saving _ _ _ => cases idle

end

end Inversion

section Consequences

variable {request : Request} {process : Process} {outcome : Outcome} {phase : Phase}
  {turn : Turn}

theorem Phase.clears?_of_finishes? {pending : PendingConfirmation}
    (last : phase.finishes? = some pending) : phase.clears? = some pending := by
  unfold Phase.finishes? at last
  split at last
  · exact last
  · exact last
  · cases last

theorem Moves.usesUp (moves : Moves request process outcome phase turn)
    {confirmationId : ConfirmationId}
    (used : turn.event.bind Event.usesUp? = some confirmationId) :
    phase.isLoading = true ∧ ∃ pending, takesUp? request process outcome = some pending ∧
      pending.confirmationId = confirmationId ∧ turn.phase.clears? = some pending := by
  cases moves with
  | plain quiet | clears _ _ quiet | ends _ quiet =>
    rw [quiet] at used
    cases used
  | issues shown =>
    rw [shown] at used
    cases used
  | executes asked taken => exact ⟨rfl, _, taken, Option.some.inj used, rfl⟩
  | cancels taken shown nextId saving =>
    rw [shown] at used
    exact ⟨rfl, _, taken, Option.some.inj used, by rw [saving]; rfl⟩

theorem Moves.executed (moves : Moves request process outcome phase turn)
    {confirmationId : ConfirmationId} {toolName : String} {params : Json} {user : UserContext}
    (shown : turn.event = some (.executed confirmationId toolName params user)) :
    phase.isLoading = true ∧ ∃ pending, takesUp? request process outcome = some pending ∧
      request.action = .confirm pending.confirmationId ∧
      pending.confirmationId = confirmationId ∧ pending.toolName = toolName ∧
      pending.params = params ∧ request.user = user := by
  cases moves with
  | plain quiet | clears _ _ quiet | ends _ quiet =>
    rw [quiet] at shown
    cases shown
  | issues other =>
    rw [other] at shown
    cases shown
  | cancels taken other =>
    rw [other] at shown
    cases shown
  | executes asked taken =>
    cases shown
    exact ⟨rfl, _, taken, asked, rfl, rfl, rfl, rfl⟩

theorem Moves.issued (moves : Moves request process outcome phase turn) {sessionId : String}
    {pending : PendingConfirmation} {owner : UserContext}
    (shown : turn.event = some (.issued sessionId pending owner)) :
    pending.confirmationId = process.nextId ∧ turn.process.nextId = process.nextId + 1 := by
  cases moves with
  | plain quiet | clears _ _ quiet | ends _ quiet =>
    rw [quiet] at shown
    cases shown
  | executes => cases shown
  | cancels taken other =>
    rw [other] at shown
    cases shown
  | issues other fresh nextId =>
    rw [other] at shown
    cases shown
    exact ⟨fresh, nextId⟩

theorem Moves.nextId_le (moves : Moves request process outcome phase turn) :
    process.nextId ≤ turn.process.nextId := by
  cases moves with
  | plain _ nextId | cancels _ _ nextId | clears _ _ _ nextId => exact nextId.ge
  | issues _ _ nextId =>
    rw [nextId]
    exact Nat.le_succ _
  | executes => exact Nat.le_refl _
  | ends _ _ saved =>
    rw [saved]

theorem Moves.clears?_of_lasting (moves : Moves request process outcome phase turn)
    (lasting : phase.finishes? = none) {pending : PendingConfirmation}
    (clearing : phase.clears? = some pending) : turn.phase.clears? = some pending := by
  cases moves with
  | plain _ _ before | issues _ _ _ before =>
    rw [before] at clearing
    cases clearing
  | executes | cancels => cases clearing
  | clears before _ _ _ saving after =>
    rw [saving, ← clearing, before]
    exact after
  | ends last =>
    rcases last with rfl | rfl
    · cases lasting
    · cases lasting

theorem Moves.clears?_of_turn (moves : Moves request process outcome phase turn)
    (clearing : turn.phase.clears? ≠ none) :
    phase.clears? ≠ none ∨ phase.isLoading = true ∧ takesUp? request process outcome ≠ none := by
  cases moves with
  | plain _ _ _ after | issues _ _ _ _ after => exact absurd after clearing
  | executes asked taken =>
    right
    simp [Phase.isLoading, taken]
  | cancels taken =>
    right
    simp [Phase.isLoading, taken]
  | clears before =>
    left
    simp [before]
  | ends _ _ _ ended => exact absurd ended clearing

theorem Moves.saved_of_finishes (moves : Moves request process outcome phase turn)
    {pending : PendingConfirmation} (last : phase.finishes? = some pending) :
    ∃ session snapshot next, phase = .saving session snapshot next ∧ turn.event = none ∧
      turn.process =
        { process with
          sessions := process.sessions.finishSave session snapshot outcome.applied
            outcome.acknowledged } ∧
      ((process.sessions.read session).pendingConfirmation = none →
        turn.phase.session? = none) := by
  cases moves with
  | plain _ _ before | issues _ _ _ before =>
    rw [Phase.clears?_of_finishes? last] at before
    cases before
  | executes | cancels => cases last
  | clears _ lasting =>
    rw [lasting] at last
    cases last
  | ends _ quiet saved _ answers => exact ⟨_, _, _, rfl, quiet, saved, answers⟩

theorem Moves.sentCleared (moves : Moves request process outcome phase turn)
    (old : phase.clears? ≠ none → ∀ session snapshot next,
      phase = .saving session snapshot next → SentCleared process session snapshot)
    (clearing : turn.phase.clears? ≠ none) {session : SessionRef} {snapshot : SessionState}
    {next : AfterSave} (saving : turn.phase = .saving session snapshot next) :
    SentCleared turn.process session snapshot := by
  cases moves with
  | plain _ _ _ after | issues _ _ _ _ after => exact absurd after clearing
  | executes => cases saving
  | cancels _ _ _ own sent =>
    rw [own] at saving
    cases saving
    exact sent
  | clears before _ _ _ own _ sent =>
    rw [own] at saving
    cases saving
    apply sent
    apply old
    simp [before]
  | ends _ _ _ ended => exact absurd ended clearing

end Consequences

end Onpremai.Assistant
