import Onpremai.Library.Json

/-!
# Data model of the compliance assistant

Users, sessions and pending confirmations.  A session's conversation, skills and
playbook only feed the prompts and are left out.
-/

namespace Onpremai.Assistant

open Onpremai.Library

/-- User context extracted from the JWT. -/
structure UserContext where
  tenantId : String
  userId : String
  role : String := "viewer"
  jwtToken : String := ""
  deriving DecidableEq, Repr

/-- Identifiers of confirmations, drawn without repetition. -/
abbrev ConfirmationId := Nat

/-- A pending human-in-the-loop confirmation. -/
structure PendingConfirmation where
  confirmationId : ConfirmationId
  toolName : String
  summary : String
  params : Json
  deriving Repr

/-- With or without the language model. -/
inductive Mode where
  | full
  | dataOnly
  deriving DecidableEq, Repr

/-- Session state. -/
structure SessionState where
  sessionId : String
  tenantId : String
  userId : String
  role : String
  mode : Mode := .full
  messageCount : Nat := 0
  isFirstLaunch : Bool := false
  agentName : String := ""
  pendingConfirmation : Option PendingConfirmation := none
  deriving Inhabited, Repr

def SessionState.pendingId (state : SessionState) : Option ConfirmationId :=
  state.pendingConfirmation.map (·.confirmationId)

/-- What a request asks for. -/
inductive Action where
  | init
  | chat (message : String)
  | confirm (confirmationId : ConfirmationId)
  | cancel (confirmationId : ConfirmationId)
  deriving DecidableEq, Repr

/-- A request with the user its JWT names. -/
structure Request where
  sessionId : String
  user : UserContext
  action : Action
  deriving DecidableEq, Repr

/-- A tool call that the language model asks for. -/
structure ToolCall where
  name : String
  arguments : Json
  deriving Repr

/-- What the language model answers. -/
inductive LlmReply where
  | text
  | toolCalls (first : ToolCall) (rest : List ToolCall)
  | unavailable
  | raises
  deriving Repr

/-- What a tool call without a confirmation comes back with. -/
inductive ToolResult where
  | success
  | error
  | confirmationRequired (summary : Option String)
  deriving DecidableEq, Repr

/-- What the caller gets. -/
inductive Answer where
  | reply
  | dataOnly
  | confirmationRequired (pending : PendingConfirmation)
  | nothingPending
  | idMismatch
  | cancelled (toolName : String)
  | serverError
  deriving Repr

/-- Settings of the assistant. -/
structure Settings where
  maxToolRounds : Nat := 5

end Onpremai.Assistant
