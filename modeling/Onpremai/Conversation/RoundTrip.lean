import Onpremai.Conversation.Sessions
import Onpremai.Library.Machine

/-!
# Round trips of sessions

What is read back of a session after its last save, over any saves before, wherever each of
them got to.  A copy that the memory service gives out comes without its conversation, and it
wins over a session object that the process keeps, even where it is older.
-/

namespace Onpremai.Conversation

open Onpremai.Library
open Onpremai.Assistant (UserContext)

/-- Two session states are the same but for messages that are too old to be stored. -/
structure SameSession (first second : SessionState) : Prop where
  fields : { first with conversationHistory := [] } = { second with conversationHistory := [] }
  messages : lastItems storedHistory first.conversationHistory =
    lastItems storedHistory second.conversationHistory

/-- The session manager with the session object in use.  Nothing reads the states that were
stored last; they tell what the memory service has. -/
structure Desk where
  manager : SessionManager := {}
  loaded : Loaded
  stored : Dict String SessionState := .empty

/-- What happens to sessions: one is opened, its object changes, and it is saved. -/
inductive Move where
  | opens (sessionId : String) (user : UserContext) (recalled : Recall)
  | changes (state : SessionState)
  | saves (delivery : Delivery)

/-- A session object is left as it is, and another one is used. -/
def Desk.opened (desk : Desk) (sessionId : String) (user : UserContext) (recalled : Recall) :
    Desk :=
  let manager := desk.manager.release desk.loaded
  { desk with
    manager
    loaded := (manager.getOrCreate sessionId user recalled).getD desk.loaded }

/-- The session object in use changes; its identifier does not. -/
def Desk.changed (desk : Desk) (state : SessionState) : Desk :=
  { desk with
    loaded := { desk.loaded with
      state := { state with sessionId := desk.loaded.state.sessionId } } }

def Desk.saved (desk : Desk) (delivery : Delivery) : Desk where
  manager := desk.manager.save desk.loaded.state delivery
  loaded := desk.loaded.saved delivery
  stored :=
    if delivery.applied then desk.stored.set desk.loaded.state.sessionId desk.loaded.state
    else desk.stored

def Desk.step (desk : Desk) : Move → Desk
  | .opens sessionId user recalled => desk.opened sessionId user recalled
  | .changes state => desk.changed state
  | .saves delivery => desk.saved delivery

/-- What is loaded of the session in use by a request that comes next. -/
def Desk.readBack (desk : Desk) (user : UserContext) (recalled : Recall) : Option Loaded :=
  (desk.manager.release desk.loaded).getOrCreate desk.loaded.state.sessionId user recalled

def ReadsBack (desk : Desk) (delivery : Delivery) (user : UserContext) (recalled : Recall) : Prop :=
  ∃ loaded, (desk.saved delivery).readBack user recalled = some loaded ∧
    SameSession desk.loaded.state loaded.state

section Condition

/-- The memory service gives out the metadata of a copy. -/
def Recall.Answers (copy : SessionState) : Recall → Prop
  | .unavailable => False
  | .oldest => True
  | .newest => copy.conversationHistory = []

variable (desk : Desk) (delivery : Delivery) (user : UserContext) (recalled : Recall)

def Desk.copyAfter : Option SessionState :=
  if delivery.applied then some desk.loaded.state
  else desk.stored.get? desk.loaded.state.sessionId

/-- The session as the process has it where the memory service gives out no copy: another
object that it keeps, or a new one. -/
def Desk.otherState : SessionState :=
  (desk.manager.fallbackSessions.get? desk.loaded.state.sessionId).getD
    { sessionId := desk.loaded.state.sessionId
      tenantId := user.tenantId
      userId := user.userId
      role := user.role }

/-- The memory service gives out a copy that is the session, which has no conversation, or it
gives out none, and the process keeps the session object or has one that is the same. -/
def Returnable : Prop := (∃ copy, desk.copyAfter delivery = some copy ∧ recalled.Answers copy ∧
    desk.loaded.state.conversationHistory = [] ∧
    { copy with sessionId := desk.loaded.state.sessionId, conversationHistory := [] } =
      desk.loaded.state) ∨
  (∀ copy, desk.copyAfter delivery = some copy → ¬ recalled.Answers copy) ∧
    (desk.loaded.kept = true ∨ delivery.acknowledged = false ∨
      SameSession desk.loaded.state (desk.otherState user))

end Condition

def Desk.Faithful (desk : Desk) : Prop := ∀ sessionId, desk.manager.memory.get? sessionId =
    (desk.stored.get? sessionId).map SessionState.messagesToStore

section Copies

variable {desk : Desk} {state : SessionState}

theorem lastItems_eq_nil {α : Type} {limit : Nat} (positive : 0 < limit) (items : List α) :
    lastItems limit items = [] ↔ items = [] := by
  rw [lastItems, List.drop_eq_nil_iff]
  constructor
  · intro short
    exact List.length_eq_zero_iff.mp (by omega)
  · intro none
    simp [none]

theorem firstState?_of_answers {recalled : Recall} (answers : recalled.Answers state) :
    firstState? (recalled.messages 1 state.messagesToStore) = some state.metadata := by
  cases recalled with
  | unavailable => exact answers.elim
  | oldest => rfl
  | newest =>
    have none : state.conversationHistory = [] := answers
    rw [Recall.messages, SessionState.messagesToStore, none]
    rfl

theorem firstState?_of_not_answers {recalled : Recall} (silent : ¬ recalled.Answers state) :
    firstState? (recalled.messages 1 state.messagesToStore) = none := by
  cases recalled with
  | unavailable => rfl
  | oldest => exact absurd trivial silent
  | newest =>
    have some : lastItems storedHistory state.conversationHistory ≠ [] := by
      rw [ne_eq, lastItems_eq_nil (by decide)]
      exact silent
    rw [Recall.messages, SessionState.messagesToStore]
    cases List.eq_nil_or_concat (lastItems storedHistory state.conversationHistory) with
    | inl none => exact absurd none some
    | inr split =>
      have ⟨earlier, last, whole⟩ := split
      rw [whole, lastItems]
      simp [firstState?]

end Copies

section Moves

variable {desk : Desk}

section

variable {manager : SessionManager} {sessionId : String} {user : UserContext} {recalled : Recall}

theorem getOrCreate_of_some {metadata : Fields}
    (found : firstState? (recalled.messages 1 ((manager.memory.get? sessionId).getD [])) =
      some metadata) : manager.getOrCreate sessionId user recalled =
      (parseState metadata sessionId).map fun state => { state } := by
  rw [SessionManager.getOrCreate, found]

theorem getOrCreate_of_none
    (missing : firstState? (recalled.messages 1 ((manager.memory.get? sessionId).getD [])) = none) :
    ∃ loaded, manager.getOrCreate sessionId user recalled = some loaded ∧
      loaded.state = (manager.fallbackSessions.get? sessionId).getD
        { sessionId, tenantId := user.tenantId, userId := user.userId, role := user.role } := by
  rw [SessionManager.getOrCreate, missing]
  cases manager.fallbackSessions.get? sessionId with
  | none => exact ⟨_, rfl, rfl⟩
  | some state => exact ⟨_, rfl, rfl⟩

end

theorem memory_release (manager : SessionManager) (loaded : Loaded) :
    (manager.release loaded).memory = manager.memory := by
  rw [SessionManager.release]
  split
  · rfl
  · rfl

theorem Desk.Faithful.saved (faithful : desk.Faithful) (delivery : Delivery) :
    (desk.saved delivery).Faithful := by
  intro sessionId
  rw [Desk.saved, SessionManager.save]
  dsimp only
  split
  · rw [Dict.get?_set, Dict.get?_set]
    split
    · rfl
    · exact faithful sessionId
  · exact faithful sessionId

theorem Desk.Faithful.step (faithful : desk.Faithful) (move : Move) :
    (desk.step move).Faithful := by
  cases move with
  | opens sessionId user recalled =>
    intro other
    change (desk.manager.release desk.loaded).memory.get? other = _
    rw [memory_release]
    exact faithful other
  | changes state => exact faithful
  | saves delivery => exact faithful.saved delivery

theorem memory_copyAfter (faithful : desk.Faithful) (delivery : Delivery) :
    (desk.saved delivery).manager.memory.get? desk.loaded.state.sessionId =
      (desk.copyAfter delivery).map SessionState.messagesToStore := by
  rw [faithful.saved delivery, Desk.copyAfter, Desk.saved]
  dsimp only
  split
  · rw [Dict.get?_set, if_pos rfl]
  · rfl

theorem fallback_afterSave (delivery : Delivery) :
    ((desk.saved delivery).manager.release (desk.saved delivery).loaded).fallbackSessions.get?
        desk.loaded.state.sessionId =
      if desk.loaded.kept = true ∨ delivery.acknowledged = false then some desk.loaded.state
      else desk.manager.fallbackSessions.get? desk.loaded.state.sessionId := by
  have kept_eq : (desk.saved delivery).loaded.kept =
      (desk.loaded.kept || !delivery.acknowledged) := rfl
  rw [SessionManager.release, kept_eq]
  cases kept : desk.loaded.kept with
  | true =>
    rw [Bool.true_or, if_pos rfl, if_pos (.inl rfl)]
    exact (Dict.get?_set _ _ _ _).trans (if_pos rfl)
  | false =>
    rw [Bool.false_or]
    cases acknowledged : delivery.acknowledged with
    | true =>
      rw [Bool.not_true, if_neg Bool.false_ne_true, if_neg (by simp)]
      rw [Desk.saved, SessionManager.save, if_pos acknowledged]
    | false =>
      rw [Bool.not_false, if_pos rfl, if_pos (.inr rfl)]
      exact (Dict.get?_set _ _ _ _).trans (if_pos rfl)

section

variable {delivery : Delivery} {user : UserContext} {recalled : Recall}

theorem readsBack_of_answers {copy : SessionState} (faithful : desk.Faithful)
    (stored : desk.copyAfter delivery = some copy) (answers : recalled.Answers copy) :
    ReadsBack desk delivery user recalled ↔ desk.loaded.state.conversationHistory = [] ∧
        { copy with sessionId := desk.loaded.state.sessionId, conversationHistory := [] } =
          desk.loaded.state := by
  have found : firstState? (recalled.messages 1
      ((((desk.saved delivery).manager.release (desk.saved delivery).loaded).memory.get?
        desk.loaded.state.sessionId).getD [])) = some copy.metadata := by
    rw [memory_release, memory_copyAfter faithful, stored, Option.map_some, Option.getD_some,
      firstState?_of_answers answers]
  have reads := @getOrCreate_of_some _ desk.loaded.state.sessionId user recalled _ found
  rw [parseState_metadata, Option.map_some] at reads
  constructor
  · intro ⟨loaded, returned, same⟩
    cases reads.symm.trans returned
    have empty := (lastItems_eq_nil (by decide) _).mp same.messages
    refine ⟨empty, ?_⟩
    rw [same.fields.symm, ← empty]
  · intro ⟨empty, same⟩
    refine ⟨_, reads, ?_⟩
    dsimp only
    rw [same]
    exact ⟨rfl, rfl⟩

theorem readsBack_of_silent (faithful : desk.Faithful)
    (silent : ∀ copy, desk.copyAfter delivery = some copy → ¬ recalled.Answers copy) :
    ReadsBack desk delivery user recalled ↔
      desk.loaded.kept = true ∨ delivery.acknowledged = false ∨
        SameSession desk.loaded.state (desk.otherState user) := by
  have missing : firstState? (recalled.messages 1
      ((((desk.saved delivery).manager.release (desk.saved delivery).loaded).memory.get?
        desk.loaded.state.sessionId).getD [])) = none := by
    rw [memory_release, memory_copyAfter faithful]
    cases stored : desk.copyAfter delivery with
    | none =>
      rw [Option.map_none, Option.getD_none]
      cases recalled with
      | unavailable => rfl
      | oldest => rfl
      | newest => rfl
    | some copy =>
      rw [Option.map_some, Option.getD_some]
      exact firstState?_of_not_answers (silent copy stored)
  have ⟨loaded, reads, state_eq⟩ :=
    @getOrCreate_of_none _ desk.loaded.state.sessionId user recalled missing
  rw [fallback_afterSave] at state_eq
  have same_iff : ReadsBack desk delivery user recalled ↔
      SameSession desk.loaded.state loaded.state := by
    constructor
    · intro ⟨other, returned, same⟩
      cases reads.symm.trans returned
      exact same
    · exact fun same => ⟨loaded, reads, same⟩
  rw [same_iff, ← or_assoc]
  by_cases kept : desk.loaded.kept = true ∨ delivery.acknowledged = false
  · rw [if_pos kept] at state_eq
    apply iff_of_true
    · rw [state_eq]
      exact ⟨rfl, rfl⟩
    · exact .inl kept
  · rw [if_neg kept] at state_eq
    rw [state_eq, or_iff_right kept]
    rfl

end

theorem readsBack_iff (faithful : desk.Faithful) (delivery : Delivery) (user : UserContext)
    (recalled : Recall) :
    ReadsBack desk delivery user recalled ↔ Returnable desk delivery user recalled := by
  by_cases silent : ∀ copy, desk.copyAfter delivery = some copy → ¬ recalled.Answers copy
  · rw [readsBack_of_silent faithful silent, Returnable]
    constructor
    · exact fun returns => .inr ⟨silent, returns⟩
    · intro returnable
      cases returnable with
      | inl answered =>
        have ⟨copy, stored, answers, _⟩ := answered
        exact absurd answers (silent copy stored)
      | inr unanswered => exact unanswered.2
  · simp only [not_forall, not_not] at silent
    have ⟨copy, stored, answers⟩ := silent
    rw [readsBack_of_answers faithful stored answers, Returnable]
    constructor
    · exact fun returns => .inl ⟨copy, stored, answers, returns⟩
    · intro returnable
      cases returnable with
      | inl answered =>
        have ⟨other, same, _, returns⟩ := answered
        cases stored.symm.trans same
        exact returns
      | inr unanswered => exact absurd answers (unanswered.1 copy stored)

end Moves

/-- A session object in a process that has just been started. -/
def Desk.start (state : SessionState) : Desk where
  loaded := { state }

/-- After any moves and a last save, the session is read back as it was saved exactly when the
memory service gives out a copy of this very session, which has no conversation, or gives out
none and the process has the session. -/
theorem sessions_returned_iff (state : SessionState) (moves : List Move) (delivery : Delivery)
    (user : UserContext) (recalled : Recall) :
    ReadsBack (run Desk.step (Desk.start state) moves) delivery user recalled ↔
      Returnable (run Desk.step (Desk.start state) moves) delivery user recalled := by
  apply readsBack_iff
  apply run_always Desk.step Desk.Faithful
  · exact fun _ move faithful => faithful.step move
  · exact fun _ => rfl

def spokenSession : SessionState where
  sessionId := "s-1"
  tenantId := "acme"
  userId := "ann"
  role := "admin"
  conversationHistory := [.user "Are we covered?"]

/-- The session is saved in the memory service and read back without what was said. -/
theorem conversation_forgotten :
    ¬ (∀ (state : SessionState) (moves : List Move) (delivery : Delivery) (user : UserContext)
        (recalled : Recall),
        ReadsBack (run Desk.step (Desk.start state) moves) delivery user recalled) := by
  intro claimed
  have returned := claimed spokenSession [] {}
    { userId := "ann", tenantId := "acme", role := "admin" } .oldest
  have faithful : (Desk.start spokenSession).Faithful := fun _ => rfl
  have forgotten := (@readsBack_of_answers (Desk.start spokenSession) {} _ .oldest spokenSession
    faithful rfl trivial).mp returned
  cases forgotten.1

end Onpremai.Conversation
