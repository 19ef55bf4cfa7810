import Onpremai.Assistant.AgentLoop
import Onpremai.Conversation.Skills

/-!
# Agent loop of a conversation

The handlers of the chat endpoints, with the conversation that they send to the language
model and keep in the session.
-/

namespace Onpremai.Conversation

open Onpremai.Library
open Onpremai.Assistant (UserContext Mode agentNameOf)

def Fields.getOr (key : String) (default : Json) (entries : Fields) : Json :=
  (Json.field? key entries).getD default

def toolParameters (tool : Fields) : Json :=
  let params := Fields.getOr "inputSchema" (Fields.getOr "parameters" (.obj []) tool) tool
  if Python.truthy params then params
  else .obj [("type", .str "object"), ("properties", .obj [])]

def formatToolsForLlm (mcpTools : List Fields) : List Json :=
  mcpTools.map fun tool =>
    .obj [("type", .str "function"), ("function", .obj
        [("name", Fields.getOr "name" (.str "") tool),
         ("description", Fields.getOr "description" (.str "") tool),
         ("parameters", toolParameters tool)])]

def present (text : Option String) : Option String := text.filter fun text => decide (text ≠ "")

def clip (length : Nat) (text : String) : String := String.ofList (text.toList.take length)

namespace Chat

open Handler

variable (config : Config) (world : World) (user : UserContext)

def handleDataOnlyMessage (message : String) (estimatedRecovery : Option String) :
    Chat String := do
  match config.matchKeywordIntent message with
  | none => return config.menuText estimatedRecovery
  | some intent =>
    match ← callTool world (.fetched intent) with
    | .error reason => return config.failureText intent reason
    | result =>
      return config.dataText intent (result.data intent.toolName intent.params)
        estimatedRecovery

/-- Go on without the language model. -/
def degrade (message : String) (estimatedRecovery : Option String) : Chat ChatResponse := do
  modifySession fun state => { state with mode := .dataOnly }
  save world
  let result ← handleDataOnlyMessage config world message estimatedRecovery
  let state ← session
  return { message := result, sessionId := state.sessionId, dataOnlyMode := true }

def resumedPlaybookPrompt (tenantId : String) : Chat String := do
  let state ← session
  match present state.activePlaybook with
  | none => return ""
  | some playbookId =>
    if 0 < state.playbookStep then
      getStepPrompt config world playbookId state.playbookStep state.playbookData tenantId
    else return ""

def activeSkillPrompt (tenantId : String) : Chat String := do
  let state ← session
  match present state.activeSkill with
  | none => return ""
  | some skillId => getSkillPrompt config world skillId tenantId

def firstLaunchPrompt : String := "\n\n## First Launch\n" ++
  "This is a brand new user. Welcome them warmly and ask what they " ++
  "would like to call you. You are their personal compliance agent — " ++
  "let them pick a name for you. Keep it brief and friendly."

def greet (systemPrompt : String) : Chat ChatResponse := do
  let state ← session
  let task :=
    if (present state.activePlaybook).isSome then "skill_execution" else "chat_response"
  let (content, _) ← askLlm world task [.system systemPrompt, .user world.opener]
    (some (formatToolsForLlm world.tools))
  modifySession fun state =>
    { state with
      conversationHistory := [.system systemPrompt, .assistant content]
      messageCount := 1
      mode := .full }
  save world
  return { message := content, sessionId := state.sessionId }

def introduce : Chat Unit :=
  match world.userState with
  | none => modifySession fun state => { state with isFirstLaunch := true }
  | some agentName => modifySession fun state => { state with agentName }

def handleInit : Chat ChatResponse := do
  introduce world
  let skills ← loadForRole config world user.role user.tenantId
  modifySession fun state =>
    { state with
      skillsLoaded := skills.map Skill.id
      toolsCache := world.tools
      persona := config.personaOf user.role }
  let playbookPrompt ← resumedPlaybookPrompt config world user.tenantId
  let skillPrompt ← activeSkillPrompt config world user.tenantId
  let state ← session
  let systemPrompt := world.prompt state skillPrompt playbookPrompt ++
      (if state.isFirstLaunch then firstLaunchPrompt else "")
  rescue (greet world systemPrompt) fun exn =>
    match exn with
    | .creditExhausted estimatedRecovery => degrade config world "init" estimatedRecovery
    | .unavailable => do
      modifySession fun state => { state with mode := .dataOnly }
      save world
      return {
        message :=
          "I'm having trouble connecting to the AI service. " ++
          "I can still help with data queries. " ++
          "Type STATUS, TASKS, OVERDUE, EVIDENCE, RISKS, or AUDIT."
        sessionId := state.sessionId
        dataOnlyMode := true }
    | .error => raise .error

def resolveSkillContext (message : String) : Chat (String × String) := do
  let playbookPrompt ← resumedPlaybookPrompt config world user.tenantId
  let state ← session
  match present (config.matchSkill message user.role state.activeSkill) with
  | some skillId => do
    modifySession fun state => { state with activeSkill := some skillId }
    let skillPrompt ← getSkillPrompt config world skillId user.tenantId
    let playbookId ← getSkillPlaybook config world skillId user.tenantId
    match present playbookId, present state.activePlaybook with
    | some playbookId, none => do
      modifySession fun state =>
        { state with
          activePlaybook := some playbookId, playbookStep := 1, playbookData := [] }
      let playbookPrompt ← getStepPrompt config world playbookId 1 [] user.tenantId
      return (skillPrompt, playbookPrompt)
    | _, _ => return (skillPrompt, playbookPrompt)
  | none => do
    let skillPrompt ← activeSkillPrompt config world user.tenantId
    return (skillPrompt, playbookPrompt)

/-- Answer with a text that takes the place of the request to acknowledge the name. -/
def acknowledgeName (content : String) : Chat ChatResponse := do
  modifySession fun state =>
    { state with conversationHistory := state.conversationHistory.dropLast }
  append (.assistant content)
  save world
  let state ← session
  return { message := content, sessionId := state.sessionId }

def handleAgentNaming (message : String) : Chat ChatResponse := do
  let name := agentNameOf message
  modifySession fun state => { state with agentName := name, isFirstLaunch := false }
  append (.user message)
  append (.user ("The user has chosen to name you '" ++ name ++ "'. " ++
    "Acknowledge the name warmly (one sentence), then transition to " ++
    "showing their current compliance status and priorities."))
  rescue (do
    let state ← session
    let (content, _) ← askLlm world "chat_response" state.conversationHistory
      (some (formatToolsForLlm state.toolsCache))
    acknowledgeName world content) fun exn =>
    match exn with
    | .creditExhausted _ | .unavailable =>
      acknowledgeName world (name ++ " it is! Let me show you where things stand.")
    | .error => raise .error

/-- What the calls of a response come to: the turn is over, or goes on with the actions so
far. -/
inductive BatchEnd where
  | paused (response : ChatResponse)
  | completed (actions : List ToolAction)

def pauseFor (content : String) (toolCalls : List ToolCall) (actions : List ToolAction)
    (call : ToolCall) (params summary : Json) : Chat BatchEnd := do
  let confirmationId ← look fun turn => world.freshId turn.called
  match PendingConfirmation.validate confirmationId call.toolName summary params with
  | none => raise .error
  | some confirmation => do
    setPendingConfirmation world confirmation
    append (.assistant content toolCalls)
    save world
    let state ← session
    return .paused
      { message := confirmation.summary
        sessionId := state.sessionId
        actions
        pendingConfirmation := some confirmation }

def recordCall (content : String) (call : ToolCall) (toolId resultText : String) : Chat Unit := do
  append (.assistant content [call])
  append (.tool (some toolId) none (clip 4000 resultText))

def runCalls (content : String) (toolCalls : List ToolCall) :
    List ToolCall → List ToolAction → Chat BatchEnd
  | [], actions => return .completed actions
  | call :: rest, actions => do
    let params := call.toolParams config.loads
    let toolId ← look fun turn => call.id.getD (world.freshId turn.called)
    let result ← callTool world (.called call params)
    match result with
    | .confirmationRequired summary =>
      pauseFor world content toolCalls actions call params summary
    | .success _ | .error _ => do
      let resultText := config.str (result.data call.toolName params)
      let action : ToolAction :=
        { toolName := call.toolName
          success := !result.isError
          resultSummary := clip 200 resultText }
      recordCall content call toolId resultText
      runCalls content toolCalls rest (actions ++ [action])

/-- Answer with a text of the language model. -/
def finish (content : String) (actions : List ToolAction) : Chat ChatResponse := do
  append (.assistant content)
  save world
  advanceStep config world
  let state ← session
  return { message := content, sessionId := state.sessionId, actions }

/-- Answer that no more tool calls are made. -/
def giveUp (actions : List ToolAction) : Chat ChatResponse := do
  append (.assistant
    ("I've reached the maximum number of tool operations for this turn. " ++
     "Here's what I was able to accomplish so far."))
  save world
  let state ← session
  return {
    message :=
      "I've completed several actions but reached my processing limit. " ++
      "Let me know if you'd like me to continue."
    sessionId := state.sessionId
    actions }

def runRounds (tools : List Fields) : Nat → String → List ToolAction → Chat ChatResponse
  | 0, _, actions => giveUp world actions
  | rounds + 1, task, actions => do
    let state ← session
    let (content, toolCalls) ← askLlm world task state.conversationHistory
      (if tools.isEmpty then none else some (formatToolsForLlm tools))
    match toolCalls with
    | [] => finish config world content actions
    | call :: rest =>
      match ← runCalls config world content (call :: rest) (call :: rest) actions with
      | .paused response => return response
      | .completed actions => runRounds tools rounds "skill_execution" actions

def runLoop : Chat ChatResponse := do
  let state ← session
  runRounds config world state.toolsCache config.settings.maxToolRounds "tool_selection" []

def beginConversation (skillPrompt playbookPrompt : String) : Chat Unit := do
  let state ← session
  match state.conversationHistory with
  | [] => append (.system (world.prompt state skillPrompt playbookPrompt))
  | _ :: _ => pure ⟨⟩

def respond (message skillPrompt playbookPrompt : String) : Chat ChatResponse := do
  beginConversation world skillPrompt playbookPrompt
  append (.user message)
  rescue (runLoop config world) fun exn =>
    match exn with
    | .creditExhausted estimatedRecovery => degrade config world message estimatedRecovery
    | .unavailable => degrade config world message none
    | .error => raise .error

def converse (message : String) : Chat ChatResponse := do
  let state ← session
  if state.isFirstLaunch ∧ state.agentName = "" then handleAgentNaming world message
  else do
    let (skillPrompt, playbookPrompt) ← resolveSkillContext config world user message
    respond config world message skillPrompt playbookPrompt

def countMessage : Chat Unit :=
  modifySession fun state => { state with messageCount := state.messageCount + 1 }

def stayDataOnly (message : String) : Chat ChatResponse := do
  let result ← handleDataOnlyMessage config world message none
  let state ← session
  return { message := result, sessionId := state.sessionId, dataOnlyMode := true }

/-- Route message through data-only mode, unless the language model is back. -/
def handleDataOnly (message : String) : Chat ChatResponse := rescue (do
    let _ ← askLlm world "chat_response" [.user "ping"] none
    modifySession fun state => { state with mode := .full }
    -- the message is handled anew, now in full mode
    countMessage
    converse config world user message) fun exn =>
    match exn with
    | .creditExhausted _ | .unavailable => stayDataOnly config world message
    | .error => raise .error

def handleMessage (message : String) : Chat ChatResponse := do
  countMessage
  let state ← session
  match state.mode with
  | .dataOnly => handleDataOnly config world user message
  | .full => converse config world user message

def handleConfirm (confirmationId : String) : Chat ChatResponse := do
  let state ← session
  match state.pendingConfirmation with
  | none => return { message := "No pending action to confirm.", sessionId := state.sessionId }
  | some pending =>
    if pending.confirmationId ≠ confirmationId then
      return { message := "Confirmation ID does not match the pending action."
               sessionId := state.sessionId }
    else do
      let result ← callTool world (.confirmed pending)
      clearPendingConfirmation world
      let state ← session
      -- the tool name is read from the confirmation that was just cleared
      match state.pendingConfirmation with
      | none => raise .error
      | some pending => do
        let action : ToolAction :=
          { toolName := pending.toolName
            success := !result.isError
            resultSummary := clip 200 (config.str result.shown) }
        append (.tool none (some pending.toolName)
          (config.str (result.data pending.toolName (.obj pending.params))))
        let state ← session
        let responseText ← rescue (do
            let (content, _) ← askLlm world "summarize_results" state.conversationHistory none
            return content) fun exn =>
          match exn with
          | .creditExhausted _ | .unavailable =>
            return "Action completed: " ++
              (if action.resultSummary = "" then "success" else action.resultSummary)
          | .error => raise .error
        append (.assistant responseText)
        save world
        return { message := responseText, sessionId := state.sessionId, actions := [action] }

def handleCancel (_confirmationId : String) : Chat ChatResponse := do
  let state ← session
  match state.pendingConfirmation with
  | none => return { message := "No pending action to cancel.", sessionId := state.sessionId }
  | some pending => do
    clearPendingConfirmation world
    let responseText := "Cancelled. The " ++ pending.toolName ++ " action was not executed."
    append (.assistant responseText)
    save world
    return { message := responseText, sessionId := state.sessionId }

def handle : Action → Chat ChatResponse
  | .init => handleInit config world user
  | .chat message => handleMessage config world user message
  | .confirm confirmationId => handleConfirm config world confirmationId
  | .cancel confirmationId => handleCancel world confirmationId

section Consults

variable {config world}

theorem consults_resumedPlaybookPrompt (tenantId : String) :
    Consults (resumedPlaybookPrompt config world tenantId) := by
  rw [resumedPlaybookPrompt]
  apply Consults.bind .session
  intro state
  split
  · exact .pure _
  · split
    · exact consults_getStepPrompt _ _ _ _
    · exact .pure _

theorem consults_activeSkillPrompt (tenantId : String) :
    Consults (activeSkillPrompt config world tenantId) := by
  rw [activeSkillPrompt]
  apply Consults.bind .session
  intro state
  split
  · exact .pure _
  · exact consults_getSkillPrompt _ _

def Resolves (update : SessionState → SessionState) : Prop :=
  ∀ state, ∃ activeSkill activePlaybook playbookStep playbookData,
    update state = { state with activeSkill, activePlaybook, playbookStep, playbookData }

theorem keeps_resolveSkillContext {user : UserContext} {invariant : Turn → Prop}
    (consults : ∀ {α : Type} {handler : Chat α}, Consults handler → Keeps invariant handler)
    (resolves : ∀ update, Resolves update → Keeps invariant (modifySession update))
    (message : String) : Keeps invariant (resolveSkillContext config world user message) := by
  rw [resolveSkillContext]
  refine keeps_bind (consults (consults_resumedPlaybookPrompt _)) fun playbookPrompt => ?_
  refine keeps_bind (keeps_look _) fun state => ?_
  split
  · refine keeps_bind (resolves _ fun _ => ⟨_, _, _, _, rfl⟩) fun _ => ?_
    refine keeps_bind (consults (consults_getSkillPrompt _ _)) fun skillPrompt => ?_
    refine keeps_bind (consults (consults_getSkillPlaybook _ _)) fun playbookId => ?_
    split
    · refine keeps_bind (resolves _ fun _ => ⟨_, _, _, _, rfl⟩) fun _ => ?_
      exact keeps_bind (consults (consults_getStepPrompt _ _ _ _)) fun _ => keeps_pure _
    · exact keeps_pure _
  · exact keeps_bind (consults (consults_activeSkillPrompt _)) fun _ => keeps_pure _

end Consults

end Chat

/-- What a request comes to: a response or an internal error, what it has left of the process,
and what went out and came back. -/
structure Served where
  response : Option ChatResponse
  process : Process
  log : List Event := []

def serve (config : Config) (process : Process) (request : Request) (world : World) : Served :=
  match process.sessions.getOrCreate request.sessionId request.user world.recalled with
  | none => { response := none, process }
  | some loaded =>
    let (result, turn) := Chat.handle config world request.user request.action
        { process, loaded, log := [.loaded loaded.kept] }
    { response := result.toOption
      process := { turn.process with sessions := turn.process.sessions.release turn.loaded }
      log := turn.log }

def started (memory : Dict String (List StoredMessage)) : Process where
  sessions := { memory }

def react (config : Config) (process : Process) (request : Request × World) :
    Process × (Option ChatResponse × List Event) :=
  let served := serve config process request.1 request.2
  (served.process, served.response, served.log)

def bareConfig : Config where
  loads := fun _ => none
  render := fun _ => ""
  personaOf := id
  skillPrefixes := fun _ => []
  matchSkill := fun _ _ _ => none
  defaultSkills := []
  defaultPlaybook := fun _ => none
  stepText := fun _ _ _ _ => ""
  matchKeywordIntent := fun _ => none
  failureText := fun _ _ => ""
  dataText := fun _ _ _ => ""
  menuText := fun _ => ""

/-- A world in which everything works and the language model answers with a text. -/
def calmWorld : World where
  recalled := .oldest
  llm := fun _ => .response "Done." []
  tool := fun _ => .success (.str "deleted")
  store := fun _ => {}
  skillRecall := fun _ _ => []
  playbookRecall := fun _ _ => none
  userState := some "Shadow"
  tools := []
  opener := "Greet me."
  prompt := fun _ _ _ => "You are a compliance agent."
  freshId := fun _ => "id-1"

def newSession : SessionState where
  sessionId := "s-1"
  tenantId := "acme"
  userId := "ann"
  role := "admin"

end Onpremai.Conversation

/-!
## Confirming

A confirmed tool is executed once and its confirmation is cleared, and then the handler reads
the tool's name from the confirmation that is not there any more: the request ends with an
internal error, whatever the tool answered.
-/

namespace Onpremai.Conversation

open Onpremai.Library

namespace Chat

open Handler

variable {config : Config} {world : World} {turn : Turn}

def confirmations (log : List Event) : List (PendingConfirmation × ToolResult) :=
  log.filterMap fun event =>
    match event with
    | .confirmed pending result => some (pending, result)
    | _ => none

def confirmedAction (config : Config) (pending : PendingConfirmation) (result : ToolResult) :
    ToolAction where
  toolName := pending.toolName
  success := !result.isError
  resultSummary := clip 200 (config.str result.shown)

/-- A confirm request did all that it has to: the tool was executed once, the response names
it with its outcome, nothing is pending, and the conversation has the tool's result. -/
structure Reported (config : Config) (pending : PendingConfirmation) (before : Turn)
    (result : ToolResult) (outcome : Except Failure ChatResponse × Turn) : Prop where
  executed : confirmations outcome.2.log = confirmations before.log ++ [(pending, result)]
  responded : ∃ response, outcome.1 = .ok response ∧
    response.actions = [confirmedAction config pending result]
  cleared : outcome.2.session.pendingConfirmation = none
  recorded : .tool none (some pending.toolName)
    (config.str (result.data pending.toolName (.obj pending.params))) ∈
      outcome.2.session.conversationHistory

def executed (world : World) (pending : PendingConfirmation) (turn : Turn) : Turn :=
  (callTool world (.confirmed pending) turn).2

theorem handleConfirm_eq {pending : PendingConfirmation}
    (waiting : turn.session.pendingConfirmation = some pending) :
    handleConfirm config world pending.confirmationId turn =
      (.error .error, (clearPendingConfirmation world (executed world pending turn)).2) := by
  rw [handleConfirm, session_bind, waiting]
  dsimp only
  rw [if_neg (not_not.mpr rfl)]
  rfl

/-- No confirm request that matches does all that it has to. -/
theorem confirm_never_reported (config : Config) (world : World) (turn : Turn)
    (pending : PendingConfirmation) (result : ToolResult)
    (waiting : turn.session.pendingConfirmation = some pending) :
    ¬ Reported config pending turn result
      (handleConfirm config world pending.confirmationId turn) := by
  intro reported
  have ⟨response, responded, _⟩ := reported.responded
  rw [handleConfirm_eq waiting] at responded
  cases responded

def pendingDeletion : PendingConfirmation where
  confirmationId := "confirmation-1"
  toolName := "evidence.delete"
  summary := "Delete evidence 7?"
  params := [("evidence_id", .num 7)]

def waitingTurn : Turn where
  process := {}
  loaded := { state := { newSession with pendingConfirmation := some pendingDeletion } }

theorem confirm_never_reported_deletion :
    waitingTurn.session.pendingConfirmation = some pendingDeletion ∧
      ¬ Reported bareConfig pendingDeletion waitingTurn (.success (.str "deleted"))
        (handleConfirm bareConfig calmWorld pendingDeletion.confirmationId waitingTurn) :=
  ⟨rfl, confirm_never_reported bareConfig calmWorld waitingTurn pendingDeletion _ rfl⟩

/-- The deletion is confirmed and executed, and the user is told of an internal error. -/
theorem deletion_executed_unseen : confirmations
        (handleConfirm bareConfig calmWorld pendingDeletion.confirmationId waitingTurn).2.log =
          [(pendingDeletion, .success (.str "deleted"))] ∧
      ¬ (∀ (config : Config) (world : World) (turn : Turn) (pending : PendingConfirmation),
          turn.session.pendingConfirmation = some pending →
            ∃ result, Reported config pending turn result
              (handleConfirm config world pending.confirmationId turn)) := by
  constructor
  · rfl
  · intro claimed
    have ⟨_, reported⟩ := claimed bareConfig calmWorld waitingTurn pendingDeletion rfl
    have ⟨response, responded, _⟩ := reported.responded
    cases responded

end Chat

end Onpremai.Conversation
