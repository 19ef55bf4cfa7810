import Onpremai.Assistant.AgentLoop

/-!
# Kinds of session states

A request copies, changes and saves session states.  A kind of session states that
is closed under what requests do to them is kept in every place by every move, apart
from the confirmation that a move may issue.
-/

namespace Onpremai.Assistant

open Onpremai.Library

open SessionManager

/-- A kind of session states, by session, closed under all changes that keep the
session and keep or clear its pending confirmation. -/
structure Kind (good : String → SessionState → Prop) : Prop where
  own : ∀ sessionId state, good sessionId state → state.sessionId = sessionId
  new : ∀ sessionId tenantId userId role, good sessionId { sessionId, tenantId, userId, role }
  changed : ∀ sessionId state next, good sessionId state → next.sessionId = state.sessionId →
    (next.pendingConfirmation = state.pendingConfirmation ∨ next.pendingConfirmation = none) →
    good sessionId next

/-- The session object that a request works on. -/
def Phase.session? : Phase → Option SessionRef
  | .introducing session | .greeting session | .pinging session _ | .naming session
  | .preparing session | .asking session _ | .calling session _ _ _
  | .executing session _ | .summarizing session | .saving session _ _ => some session
  | .loading | .answeringDataOnly | .answered _ => none

/-- The state that a request has sent to the memory service. -/
def Phase.snapshot? : Phase → Option SessionState
  | .saving _ snapshot _ => some snapshot
  | _ => none

/-- What a request holds is of a kind. -/
structure Holds (good : String → SessionState → Prop) (process : Process) (sessionId : String)
    (phase : Phase) : Prop where
  session : ∀ ref, phase.session? = some ref → Valid good process.sessions sessionId ref
  snapshot : ∀ state, phase.snapshot? = some state → good sessionId state

/-- What a process goes on to keeps a kind in every place and for every reference,
and leaves the objects of other sessions as they are. -/
structure Grows (good : String → SessionState → Prop) (sessionId : String)
    (process next : Process) : Prop where
  all : All good next.sessions
  valid : ∀ other ref, Valid good process.sessions other ref → Valid good next.sessions other ref
  frame : ∀ ref, ref < process.sessions.objects.length →
    (process.sessions.read ref).sessionId ≠ sessionId → ref < next.sessions.objects.length ∧
        next.sessions.read ref = process.sessions.read ref

/-- A turn that keeps a kind. -/
structure Keeps (good : String → SessionState → Prop) (sessionId : String) (process : Process)
    (turn : Turn) : Prop where
  grows : Grows good sessionId process turn.process
  holds : Holds good turn.process sessionId turn.phase

section Turns

variable {good : String → SessionState → Prop} {process next : Process} {sessionId : String}
  {session : SessionRef}

theorem grows_refl (all : All good process.sessions) : Grows good sessionId process process :=
  ⟨all, fun _ _ valid => valid, fun _ inside _ => ⟨inside, rfl⟩⟩

theorem Holds.mono {other : String → SessionState → Prop} {phase : Phase}
    (holds : Holds good process sessionId phase)
    (weaker : ∀ sessionId state, good sessionId state → other sessionId state) :
    Holds other process sessionId phase :=
  ⟨fun ref held => (holds.session ref held).mono weaker,
    fun state sent => weaker sessionId state (holds.snapshot state sent)⟩

theorem Grows.holds (grows : Grows good sessionId process next) {other : String} {phase : Phase}
    (holds : Holds good process other phase) : Holds good next other phase :=
  ⟨fun ref held => grows.valid other ref (holds.session ref held), holds.snapshot⟩

theorem Keeps.after {middle : Process} {turn : Turn}
    (grows : Grows good sessionId process middle) (keeps : Keeps good sessionId middle turn) :
    Keeps good sessionId process turn where
  grows := {
    all := keeps.grows.all
    valid := fun other ref valid => keeps.grows.valid other ref (grows.valid other ref valid)
    frame := by
      intro ref inside apart
      have first := grows.frame ref inside apart
      rw [← first.2] at apart
      have second := keeps.grows.frame ref first.1 apart
      exact ⟨second.1, second.2.trans first.2⟩ }
  holds := keeps.holds

theorem grows_mutate (kind : Kind good) (all : All good process.sessions)
    (valid : Valid good process.sessions sessionId session) (change : SessionState → SessionState)
    (changed : good sessionId (change (process.sessions.read session))) :
    Grows good sessionId process (process.mutate session change) where
  all := all.mutate kind.own valid changed
  valid := fun _ _ held => Valid.mutate kind.own valid changed held
  frame := by
    intro ref inside apart
    have other : session ≠ ref := by
      intro same
      apply apart
      rw [← same]
      exact kind.own sessionId _ valid.2
    refine ⟨?_, read_mutate_ne other change⟩
    rw [Process.mutate, length_mutate]
    exact inside

theorem grows_change (kind : Kind good) (all : All good process.sessions)
    (valid : Valid good process.sessions sessionId session) (change : SessionState → SessionState)
    (same : ∀ state, (change state).sessionId = state.sessionId)
    (pending : ∀ state, (change state).pendingConfirmation = state.pendingConfirmation ∨
      (change state).pendingConfirmation = none) :
    Grows good sessionId process (process.mutate session change) :=
  grows_mutate kind all valid change
    (kind.changed sessionId _ _ valid.2 (same _) (pending _))

theorem keeps_await (all : All good process.sessions) {phase : Phase}
    (held : ∀ ref, phase.session? = some ref → Valid good process.sessions sessionId ref)
    (unsent : phase.snapshot? = none) :
    Keeps good sessionId process (process.thenAwait phase) :=
  ⟨grows_refl all, held, fun state sent => by
    change phase.snapshot? = some state at sent
    rw [unsent] at sent
    cases sent⟩

theorem keeps_answer (all : All good process.sessions) (answer : Answer) :
    Keeps good sessionId process (process.thenAnswer answer) :=
  ⟨grows_refl all, nofun, nofun⟩

theorem keeps_save (all : All good process.sessions)
    (valid : Valid good process.sessions sessionId session) (next : AfterSave)
    (event : Option Event) :
    Keeps good sessionId process (process.thenSave session next event) := by
  refine ⟨grows_refl all, ?_, ?_⟩
  · intro ref held
    rw [← Option.some.inj held]
    exact valid
  · intro state sent
    rw [← Option.some.inj sent]
    exact valid.2

theorem valid_of_some (valid : Valid good process.sessions sessionId session) :
    ∀ ref, some session = some ref → Valid good process.sessions sessionId ref := by
  intro ref held
  rw [← Option.some.inj held]
  exact valid

theorem keeps_handleMessage (kind : Kind good) (all : All good process.sessions)
    (valid : Valid good process.sessions sessionId session) (message : String) :
    Keeps good sessionId process (handleMessage process session message) := by
  have counted := grows_change kind all valid
    (fun state => { state with messageCount := state.messageCount + 1 })
    (fun _ => rfl) (fun _ => .inl rfl)
  apply Keeps.after counted
  have here := counted.valid sessionId session valid
  rw [handleMessage]
  dsimp only
  split
  · exact keeps_await counted.all (valid_of_some here) rfl
  · split
    · have named := grows_change kind counted.all here
        (fun state => { state with agentName := agentNameOf message, isFirstLaunch := false })
        (fun _ => rfl) (fun _ => .inl rfl)
      apply Keeps.after named
      exact keeps_await named.all (valid_of_some (named.valid sessionId session here)) rfl
    · exact keeps_await counted.all (valid_of_some here) rfl

theorem keeps_handleConfirm (request : Request) (all : All good process.sessions)
    (valid : Valid good process.sessions sessionId session) (confirmationId : ConfirmationId) :
    Keeps good sessionId process (handleConfirm request process session confirmationId) := by
  rw [handleConfirm]
  split
  · exact keeps_answer all _
  · split
    · exact keeps_answer all _
    · exact ⟨grows_refl all, valid_of_some valid, nofun⟩

theorem keeps_handleCancel (kind : Kind good) (all : All good process.sessions)
    (valid : Valid good process.sessions sessionId session) :
    Keeps good sessionId process (handleCancel process session) := by
  rw [handleCancel]
  split
  · exact keeps_answer all _
  · have cleared := grows_change kind all valid
      (fun state => { state with pendingConfirmation := none }) (fun _ => rfl) (fun _ => .inr rfl)
    apply Keeps.after cleared
    exact keeps_save cleared.all (cleared.valid sessionId session valid) _ _

theorem keeps_askRound (settings : Settings) (all : All good process.sessions)
    (valid : Valid good process.sessions sessionId session) (round : Nat) :
    Keeps good sessionId process (askRound settings process session round) := by
  rw [askRound]
  split
  · exact keeps_await all (valid_of_some valid) rfl
  · exact keeps_save all valid _ _

theorem keeps_degrade (kind : Kind good) (all : All good process.sessions)
    (valid : Valid good process.sessions sessionId session) :
    Keeps good sessionId process (degrade process session) := by
  have degraded := grows_change kind all valid
    (fun state => { state with mode := .dataOnly }) (fun _ => rfl) (fun _ => .inl rfl)
  exact Keeps.after degraded
    (keeps_save degraded.all (degraded.valid sessionId session valid) _ _)

theorem keeps_issueConfirmation (kind : Kind good) {request : Request} {call : ToolCall}
    {summary : Option String}
    (issued : ∀ pending user, (issueConfirmation request process session call summary).event =
        some (.issued request.sessionId pending user) →
      ∀ state, good request.sessionId state →
        good request.sessionId { state with pendingConfirmation := some pending })
    (all : All good process.sessions)
    (valid : Valid good process.sessions request.sessionId session) :
    Keeps good request.sessionId process
      (issueConfirmation request process session call summary) := by
  have withPending := issued _ _ rfl _ valid.2
  rw [issueConfirmation]
  generalize PendingConfirmation.mk process.nextId call.name _ call.arguments = pending
    at withPending ⊢
  let counted : Process := { process with nextId := process.nextId + 1 }
  have allCounted : All good counted.sessions := all
  have changed := grows_mutate kind allCounted valid
    (fun state => { state with pendingConfirmation := some pending }) withPending
  have grows : Grows good request.sessionId process
      (({ process with nextId := process.nextId + 1 } : Process).mutate session fun state =>
        { state with pendingConfirmation := some pending }) :=
    ⟨changed.all, changed.valid, changed.frame⟩
  exact Keeps.after grows (keeps_save changed.all (changed.valid _ session valid) _ _)

theorem grows_finishSave (kind : Kind good) (all : All good process.sessions)
    (valid : Valid good process.sessions sessionId session) {snapshot : SessionState}
    (sent : good sessionId snapshot) (applied acknowledged : Bool) :
    Grows good sessionId process { process with
      sessions := process.sessions.finishSave session snapshot applied acknowledged } where
  all := all.finishSave kind.own valid sent applied acknowledged
  valid := fun _ _ held => held
  frame := fun _ inside _ => ⟨inside, rfl⟩

theorem grows_getOrCreate (kind : Kind good) (all : All good process.sessions)
    (sessionId : String) (user : UserContext) (recalled : Bool) :
    let loaded := process.sessions.getOrCreate sessionId user recalled
    Grows good sessionId process { process with sessions := loaded.2 } ∧
      Valid good loaded.2 sessionId loaded.1 := by
  have new := kind.new sessionId user.tenantId user.userId user.role
  have loaded := all.getOrCreate
    (fun state held => kind.changed sessionId state _ held (kind.own sessionId state held).symm
      (.inl rfl))
    new recalled
  refine ⟨⟨loaded.1, loaded.2.2, ?_⟩, loaded.2.1⟩
  intro ref inside _
  exact read_getOrCreate sessionId user recalled inside

theorem keeps_advance (kind : Kind good) (settings : Settings) (request : Request)
    (outcome : Outcome) {phase : Phase} (all : All good process.sessions)
    (holds : Holds good process request.sessionId phase)
    (issued : ∀ pending user, (advance settings request process outcome phase).event =
        some (.issued request.sessionId pending user) →
      ∀ state, good request.sessionId state →
        good request.sessionId { state with pendingConfirmation := some pending }) :
    Keeps good request.sessionId process (advance settings request process outcome phase) := by
  cases phase with
  | loading =>
    have loaded := grows_getOrCreate kind all request.sessionId request.user outcome.recalled
    rw [advance]
    apply Keeps.after loaded.1
    split
    · exact keeps_await loaded.1.all (valid_of_some loaded.2) rfl
    · exact keeps_handleMessage kind loaded.1.all loaded.2 _
    · exact keeps_handleConfirm request loaded.1.all loaded.2 _
    · exact keeps_handleCancel kind loaded.1.all loaded.2
  | introducing session =>
    have valid := holds.session session rfl
    have changed := grows_change kind all valid
      (introduce outcome.agentName) (fun _ => by cases outcome.agentName <;> rfl)
      (fun _ => by cases outcome.agentName <;> exact .inl rfl)
    rw [advance]
    apply Keeps.after changed
    exact keeps_await changed.all (valid_of_some (changed.valid _ session valid)) rfl
  | greeting session =>
    have valid := holds.session session rfl
    have changed := grows_change kind all valid
      (fun state => { state with messageCount := 1, mode := .full }) (fun _ => rfl)
      (fun _ => .inl rfl)
    have greeted := Keeps.after changed
      (keeps_save changed.all (changed.valid _ session valid) .reply none)
    rw [advance]
    split
    · exact greeted
    · exact greeted
    · exact keeps_degrade kind all valid
    · exact keeps_answer all _
  | pinging session message =>
    have valid := holds.session session rfl
    have changed := grows_change kind all valid
      (fun state => { state with mode := .full }) (fun _ => rfl) (fun _ => .inl rfl)
    have handled := Keeps.after changed
      (keeps_handleMessage kind changed.all (changed.valid _ session valid) message)
    rw [advance]
    split
    · exact handled
    · exact handled
    · exact keeps_await all nofun rfl
    · exact keeps_answer all _
  | naming session =>
    rw [advance]
    split
    · exact keeps_save all (holds.session session rfl) _ _
    · exact keeps_save all (holds.session session rfl) _ _
    · exact keeps_save all (holds.session session rfl) _ _
    · exact keeps_answer all _
  | preparing session => exact keeps_askRound settings all (holds.session session rfl) 0
  | asking session round =>
    have valid := holds.session session rfl
    rw [advance]
    split
    · exact keeps_save all valid _ _
    · exact keeps_await all (valid_of_some valid) rfl
    · exact keeps_degrade kind all valid
    · exact keeps_answer all _
  | calling session round call rest =>
    have valid := holds.session session rfl
    rw [advance] at issued ⊢
    generalize outcome.tool = result at issued ⊢
    cases result with
    | confirmationRequired summary => exact keeps_issueConfirmation kind issued all valid
    | success | error =>
      cases rest with
      | nil => exact keeps_askRound settings all valid _
      | cons next rest => exact keeps_await all (valid_of_some valid) rfl
  | executing session confirmed =>
    have valid := holds.session session rfl
    have cleared := grows_change kind all valid
      (fun state => { state with pendingConfirmation := none }) (fun _ => rfl) (fun _ => .inr rfl)
    rw [advance]
    apply Keeps.after cleared
    exact keeps_save cleared.all (cleared.valid _ session valid) _ _
  | summarizing session =>
    rw [advance]
    split
    · exact keeps_save all (holds.session session rfl) _ _
    · exact keeps_save all (holds.session session rfl) _ _
    · exact keeps_save all (holds.session session rfl) _ _
    · exact keeps_answer all _
  | saving session snapshot next =>
    have valid := holds.session session rfl
    have saved := grows_finishSave kind all valid (holds.snapshot snapshot rfl)
      outcome.applied outcome.acknowledged
    rw [advance]
    apply Keeps.after saved
    cases next with
    | reply => exact keeps_answer saved.all _
    | dataOnly => exact keeps_await saved.all nofun rfl
    | issueAgain pending => exact keeps_save saved.all (saved.valid _ session valid) _ _
    | issued pending => exact keeps_answer saved.all _
    | executed confirmed =>
      rw [handleSaved]
      split
      · exact keeps_answer saved.all _
      · exact keeps_await saved.all (valid_of_some (saved.valid _ session valid)) rfl
    | cancelAgain cancelled => exact keeps_save saved.all (saved.valid _ session valid) _ _
    | cancelled cancelled => exact keeps_answer saved.all _
  | answeringDataOnly => exact keeps_answer all _
  | answered answer => exact keeps_answer all _

end Turns

end Onpremai.Assistant
