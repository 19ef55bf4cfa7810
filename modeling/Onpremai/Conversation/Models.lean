import Onpremai.Assistant.Models
import Onpremai.Library.Codec

/-!
# Data model of a conversation

Messages, tool calls and sessions with the conversation that they hold, as the language
model, the tools and the memory service see them.
-/

namespace Onpremai.Conversation

open Onpremai.Library
open Onpremai.Assistant (UserContext Mode)

abbrev Fields := List (String × Json)

/-- The function of a tool call. -/
structure FunctionCall where
  name : Option String := none
  arguments : Option Json := none

/-- A tool call that the language model asks for; its name and arguments stand in the call
or in its function. -/
structure ToolCall where
  id : Option String := none
  name : Option String := none
  arguments : Option Json := none
  function : FunctionCall := {}

def ToolCall.toolName (call : ToolCall) : String := call.name.getD (call.function.name.getD "")

def ToolCall.toolParams (loads : String → Option Json) (call : ToolCall) : Json :=
  match call.arguments.getD (call.function.arguments.getD (.obj [])) with
  | .str text => (loads text).getD (.obj [])
  | params => params

/-- A message of a conversation. -/
inductive Message where
  | system (content : String)
  | user (content : String)
  | assistant (content : String) (toolCalls : List ToolCall := [])
  | tool (toolCallId toolName : Option String) (content : String)

/-- A pending human-in-the-loop confirmation. -/
structure PendingConfirmation where
  confirmationId : String
  toolName : String
  summary : String
  params : Fields

/-- A confirmation is made of a text and a dictionary. -/
def PendingConfirmation.validate (confirmationId toolName : String) :
    Json → Json → Option PendingConfirmation
  | .str summary, .obj params => some { confirmationId, toolName, summary, params }
  | _, _ => none

theorem PendingConfirmation.of_validate {confirmationId toolName : String} {summary params : Json}
    {pending : PendingConfirmation}
    (made : validate confirmationId toolName summary params = some pending) :
    pending.toolName = toolName ∧ .obj pending.params = params := by
  cases summary with
  | str text =>
    cases params with
    | obj fields =>
      cases made
      exact ⟨rfl, rfl⟩
    | null | bool _ | num _ | str _ | arr _ => cases made
  | null | bool _ | num _ | arr _ | obj _ => cases made

/-- A tool action that was executed during the chat turn. -/
structure ToolAction where
  toolName : String
  success : Bool
  resultSummary : String := ""
  deriving DecidableEq

/-- Response of the chat endpoints. -/
structure ChatResponse where
  message : String
  sessionId : String
  actions : List ToolAction := []
  pendingConfirmation : Option PendingConfirmation := none
  dataOnlyMode : Bool := false

/-- Session state. -/
structure SessionState where
  sessionId : String
  tenantId : String
  userId : String
  role : String
  persona : String := ""
  mode : Mode := .full
  activeSkill : Option String := none
  activePlaybook : Option String := none
  playbookStep : Int := 0
  playbookData : Fields := []
  conversationHistory : List Message := []
  pendingConfirmation : Option PendingConfirmation := none
  skillsLoaded : List String := []
  toolsCache : List Fields := []
  messageCount : Int := 0
  isFirstLaunch : Bool := false
  agentName : String := ""

/-- What the language model answers, or how a call of it fails. -/
inductive LlmOutcome where
  | response (content : String) (toolCalls : List ToolCall)
  | creditExhausted (estimatedRecovery : Option String)
  | unavailable
  | error

/-- What a tool call comes back with. -/
inductive ToolResult where
  | success (data : Json)
  | error (message : String)
  | confirmationRequired (summary : Json)

def ToolResult.isConfirmation : ToolResult → Bool
  | .confirmationRequired _ => true
  | _ => false

/-- Does the result say that the call failed? -/
def ToolResult.isError : ToolResult → Bool
  | .error _ => true
  | _ => false

def ToolResult.data (toolName : String) (params : Json) : ToolResult → Json
  | .success data => data
  | .error message => .obj [("status", .str "error"), ("message", .str message)]
  | .confirmationRequired summary =>
    .obj [("status", .str "confirmation_required"), ("summary", summary),
      ("tool_name", .str toolName), ("params", params)]

def ToolResult.shown : ToolResult → Json
  | .success data => data
  | .error message => .str message
  | .confirmationRequired _ => .str ""

/-- What a request asks for. -/
inductive Action where
  | init
  | chat (message : String)
  | confirm (confirmationId : String)
  | cancel (confirmationId : String)

/-- A request with the user its JWT names. -/
structure Request where
  sessionId : String
  user : UserContext
  action : Action

end Onpremai.Conversation

/-!
## User state document

One record per user, from which the assistant takes up where it left off.
-/

namespace Onpremai.Conversation

/-- An action that is still to be done. -/
structure PendingAction where
  action : String
  created : String
  source : String
  dueDate : Option String := none
  deriving DecidableEq, Repr

/-- What the last session was about. -/
structure LastSession where
  date : String
  summary : String
  deriving DecidableEq, Repr

/-- How the user works with the assistant. -/
structure WorkingPatterns where
  avgSessionLength : Int := 0
  typicalSessionTime : String := ""
  skillsMostUsed : List String := []
  deriving DecidableEq, Repr

/-- The document of a user. -/
structure UserStateDoc where
  userId : String
  tenantId : String
  updatedAt : String := ""
  agentName : String := ""
  currentFocus : String := ""
  lastSession : Option LastSession := none
  pendingActions : List PendingAction := []
  preferences : List String := []
  workingPatterns : WorkingPatterns := {}
  deriving DecidableEq, Repr

end Onpremai.Conversation
