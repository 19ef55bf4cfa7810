import Onpremai.Conversation.Models

/-!
# Session manager

A save writes the state of a session without its conversation, followed by the last messages
of the conversation, to the memory service, and keeps the session object when the service does
not acknowledge it.  A session is loaded from the first message that the service recalls, or
from the objects kept.
-/

namespace Onpremai.Conversation

open Onpremai.Library
open Onpremai.Assistant (UserContext Mode)

/-- Modes, written as texts. -/
def modeCodec : Codec Mode where
  encode := fun mode =>
    match mode with
    | .full => .str "full"
    | .dataOnly => .str "data_only"
  decode := fun value =>
    if value.isString "full" then some .full
    else if value.isString "data_only" then some .dataOnly
    else none
  decode_encode := fun mode => by cases mode <;> rfl

def PendingConfirmation.codec : Codec PendingConfirmation where
  encode := fun pending => .obj
    [("confirmation_id", Codec.str.encode pending.confirmationId),
     ("tool_name", Codec.str.encode pending.toolName),
     ("summary", Codec.str.encode pending.summary),
     ("params", Codec.fields.encode pending.params)]
  decode := fun value => do
    let entries ← Codec.fields.decode value
    let confirmationId ← Codec.str.required "confirmation_id" entries
    let toolName ← Codec.str.required "tool_name" entries
    let summary ← Codec.str.required "summary" entries
    let params ← Codec.fields.withDefault "params" [] entries
    return { confirmationId, toolName, summary, params }
  decode_encode := by
    intro pending
    simp [Codec.fields, Codec.required, Codec.withDefault]

theorem PendingConfirmation.solid_codec : PendingConfirmation.codec.Solid :=
  fun _ => Json.noConfusion

def textCodec : Codec (Option String) := Codec.str.nullable Codec.solid_str

def pendingCodec : Codec (Option PendingConfirmation) :=
  PendingConfirmation.codec.nullable PendingConfirmation.solid_codec

def SessionState.metadata (state : SessionState) : Fields :=
  [("session_id", Codec.str.encode state.sessionId), ("tenant_id", Codec.str.encode state.tenantId),
   ("user_id", Codec.str.encode state.userId),
   ("role", Codec.str.encode state.role),
   ("persona", Codec.str.encode state.persona),
   ("mode", modeCodec.encode state.mode),
   ("active_skill", textCodec.encode state.activeSkill),
   ("active_playbook", textCodec.encode state.activePlaybook),
   ("playbook_step", Codec.int.encode state.playbookStep),
   ("playbook_data", Codec.fields.encode state.playbookData),
   ("pending_confirmation", pendingCodec.encode state.pendingConfirmation),
   ("skills_loaded", Codec.str.list.encode state.skillsLoaded),
   ("tools_cache", Codec.fields.list.encode state.toolsCache),
   ("message_count", Codec.int.encode state.messageCount),
   ("is_first_launch", Codec.bool.encode state.isFirstLaunch),
   ("agent_name", Codec.str.encode state.agentName)]

def SessionState.ofMetadata? (entries : Fields) (sessionId : String) : Option SessionState := do
  let tenantId ← Codec.str.required "tenant_id" entries
  let userId ← Codec.str.required "user_id" entries
  let role ← Codec.str.required "role" entries
  let persona ← Codec.str.withDefault "persona" "" entries
  let mode ← modeCodec.withDefault "mode" .full entries
  let activeSkill ← textCodec.withDefault "active_skill" none entries
  let activePlaybook ← textCodec.withDefault "active_playbook" none entries
  let playbookStep ← Codec.int.withDefault "playbook_step" 0 entries
  let playbookData ← Codec.fields.withDefault "playbook_data" [] entries
  let pendingConfirmation ← pendingCodec.withDefault "pending_confirmation" none entries
  let skillsLoaded ← Codec.str.list.withDefault "skills_loaded" [] entries
  let toolsCache ← Codec.fields.list.withDefault "tools_cache" [] entries
  let messageCount ← Codec.int.withDefault "message_count" 0 entries
  let isFirstLaunch ← Codec.bool.withDefault "is_first_launch" false entries
  let agentName ← Codec.str.withDefault "agent_name" "" entries
  return {
    sessionId, tenantId, userId, role, persona, mode, activeSkill, activePlaybook, playbookStep,
    playbookData, pendingConfirmation, skillsLoaded, toolsCache, messageCount, isFirstLaunch,
    agentName }

def parseState (entries : Fields) (sessionId : String) : Option SessionState :=
  (SessionState.ofMetadata? entries sessionId).orElse fun _ => do
    let tenantId ← Codec.str.withDefault "tenant_id" "" entries
    let userId ← Codec.str.withDefault "user_id" "" entries
    let role ← Codec.str.withDefault "role" "viewer" entries
    return { sessionId, tenantId, userId, role }

/-- A message that the memory service stores for a session. -/
inductive StoredMessage where
  | state (metadata : Fields)
  | conversation (message : Message)

def lastItems {α : Type} (limit : Nat) (items : List α) : List α :=
  items.drop (items.length - limit)

/-- How many messages of the conversation are stored. -/
def storedHistory : Nat := 50

def SessionState.messagesToStore (state : SessionState) : List StoredMessage :=
  .state state.metadata ::
    (lastItems storedHistory state.conversationHistory).map StoredMessage.conversation

/-- How the memory service answers a recall: not at all, or with messages from either end. -/
inductive Recall where
  | unavailable
  | oldest
  | newest
  deriving DecidableEq

def Recall.messages (recalled : Recall) (limit : Nat) (stored : List StoredMessage) :
    List StoredMessage :=
  match recalled with
  | .unavailable => []
  | .oldest => stored.take limit
  | .newest => lastItems limit stored

def firstState? : List StoredMessage → Option Fields
  | [] => none
  | .state metadata :: _ => some metadata
  | .conversation _ :: rest => firstState? rest

/-- How a save comes back: the memory service has stored what was sent or not, and has said
so or not. -/
structure Delivery where
  applied : Bool := true
  acknowledged : Bool := true
  deriving DecidableEq

/-- What the memory service has stored, and the session objects kept by the process. -/
structure SessionManager where
  memory : Dict String (List StoredMessage) := .empty
  fallbackSessions : Dict String SessionState := .empty

/-- A session object in use; it may be one that the process keeps. -/
structure Loaded where
  state : SessionState
  kept : Bool := false

/-- A session object after a save; it is kept unless the save is acknowledged. -/
def Loaded.saved (loaded : Loaded) (delivery : Delivery) : Loaded :=
  { loaded with kept := loaded.kept || !delivery.acknowledged }

namespace SessionManager

variable (manager : SessionManager)

def getOrCreate (sessionId : String) (user : UserContext) (recalled : Recall) : Option Loaded :=
  let messages := recalled.messages 1 ((manager.memory.get? sessionId).getD [])
  match firstState? messages with
  | some metadata => (parseState metadata sessionId).map fun state => { state }
  | none =>
    match manager.fallbackSessions.get? sessionId with
    | some state => some { state, kept := true }
    | none =>
      some { state :=
        { sessionId, tenantId := user.tenantId, userId := user.userId, role := user.role } }

def save (state : SessionState) (delivery : Delivery) : SessionManager where
  memory :=
    if delivery.applied then manager.memory.set state.sessionId state.messagesToStore
    else manager.memory
  fallbackSessions :=
    if delivery.acknowledged then manager.fallbackSessions
    else manager.fallbackSessions.set state.sessionId state

/-- A session object is in use no more; an object that is kept is left as it has become. -/
def release (loaded : Loaded) : SessionManager :=
  if loaded.kept then
    { manager with
      fallbackSessions := manager.fallbackSessions.set loaded.state.sessionId loaded.state }
  else manager

end SessionManager

section RoundTrip

variable {state : SessionState}

section

variable (state : SessionState) (sessionId : String)

theorem ofMetadata?_metadata : SessionState.ofMetadata? state.metadata sessionId =
      some { state with sessionId, conversationHistory := [] } := by
  have tenantId : Codec.str.required "tenant_id" state.metadata = some state.tenantId :=
    Codec.required_eq (by simp [SessionState.metadata])
  have userId : Codec.str.required "user_id" state.metadata = some state.userId :=
    Codec.required_eq (by simp [SessionState.metadata])
  have role : Codec.str.required "role" state.metadata = some state.role :=
    Codec.required_eq (by simp [SessionState.metadata])
  have persona : Codec.str.withDefault "persona" "" state.metadata = some state.persona :=
    Codec.withDefault_eq _ (by simp [SessionState.metadata])
  have mode : modeCodec.withDefault "mode" .full state.metadata = some state.mode :=
    Codec.withDefault_eq _ (by simp [SessionState.metadata])
  have activeSkill : textCodec.withDefault "active_skill" none state.metadata =
      some state.activeSkill := Codec.withDefault_eq _ (by simp [SessionState.metadata])
  have activePlaybook : textCodec.withDefault "active_playbook" none state.metadata =
      some state.activePlaybook := Codec.withDefault_eq _ (by simp [SessionState.metadata])
  have playbookStep : Codec.int.withDefault "playbook_step" 0 state.metadata =
      some state.playbookStep := Codec.withDefault_eq _ (by simp [SessionState.metadata])
  have playbookData : Codec.fields.withDefault "playbook_data" [] state.metadata =
      some state.playbookData := Codec.withDefault_eq _ (by simp [SessionState.metadata])
  have pending : pendingCodec.withDefault "pending_confirmation" none state.metadata =
      some state.pendingConfirmation := Codec.withDefault_eq _ (by simp [SessionState.metadata])
  have skillsLoaded : Codec.str.list.withDefault "skills_loaded" [] state.metadata =
      some state.skillsLoaded := Codec.withDefault_eq _ (by simp [SessionState.metadata])
  have toolsCache : Codec.fields.list.withDefault "tools_cache" [] state.metadata =
      some state.toolsCache := Codec.withDefault_eq _ (by simp [SessionState.metadata])
  have messageCount : Codec.int.withDefault "message_count" 0 state.metadata =
      some state.messageCount := Codec.withDefault_eq _ (by simp [SessionState.metadata])
  have isFirstLaunch : Codec.bool.withDefault "is_first_launch" false state.metadata =
      some state.isFirstLaunch := Codec.withDefault_eq _ (by simp [SessionState.metadata])
  have agentName : Codec.str.withDefault "agent_name" "" state.metadata = some state.agentName :=
    Codec.withDefault_eq _ (by simp [SessionState.metadata])
  simp only [SessionState.ofMetadata?, tenantId, userId, role, persona, mode, activeSkill,
    activePlaybook, playbookStep, playbookData, pending, skillsLoaded, toolsCache, messageCount,
    isFirstLaunch, agentName, Option.pure_def, Option.bind_eq_bind, Option.bind_some]

theorem parseState_metadata : parseState state.metadata sessionId =
      some { state with sessionId, conversationHistory := [] } := by
  rw [parseState, ofMetadata?_metadata]
  rfl

end

theorem exists_of_bind {α β : Type} {first : Option α} {next : α → Option β} {result : β}
    (found : (first >>= next) = some result) : ∃ value, next value = some result := by
  cases first with
  | none => cases found
  | some value => exact ⟨value, found⟩

theorem history_ofMetadata? {entries : Fields} {sessionId : String}
    (found : SessionState.ofMetadata? entries sessionId = some state) :
    state.conversationHistory = [] := by
  rw [SessionState.ofMetadata?] at found
  -- one step for each field that is read
  iterate 15 obtain ⟨_, found⟩ := exists_of_bind found
  cases found
  rfl

theorem history_parseState {entries : Fields} {sessionId : String}
    (found : parseState entries sessionId = some state) : state.conversationHistory = [] := by
  rw [parseState] at found
  cases whole : SessionState.ofMetadata? entries sessionId with
  | some parsed =>
    rw [whole] at found
    cases found
    exact history_ofMetadata? whole
  | none =>
    rw [whole, Option.orElse_none] at found
    iterate 3 obtain ⟨_, found⟩ := exists_of_bind found
    cases found
    rfl

end RoundTrip

end Onpremai.Conversation
