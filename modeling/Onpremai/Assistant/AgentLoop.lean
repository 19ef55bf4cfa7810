import Onpremai.Assistant.Sessions

/-!
# Agent loop

A request is a machine that moves whenever something it awaits comes back: the
memory service, the language model or a tool.  Awaits between which no session
changes are one.  What a request does that confirmations depend on is written to
the log of the process.
-/

namespace Onpremai.Assistant

open Onpremai.Library

/-- What a save was made for. -/
inductive AfterSave where
  | reply
  | dataOnly
  | issueAgain (pending : PendingConfirmation)
  | issued (pending : PendingConfirmation)
  | executed (confirmed : PendingConfirmation)
  | cancelAgain (cancelled : PendingConfirmation)
  | cancelled (cancelled : PendingConfirmation)

/-- Where a request stands: what it awaits, with the variables it still needs. -/
inductive Phase where
  | loading
  | introducing (session : SessionRef)
  | greeting (session : SessionRef)
  | pinging (session : SessionRef) (message : String)
  | naming (session : SessionRef)
  | preparing (session : SessionRef)
  | asking (session : SessionRef) (round : Nat)
  | calling (session : SessionRef) (round : Nat) (call : ToolCall) (rest : List ToolCall)
  | executing (session : SessionRef) (confirmed : PendingConfirmation)
  | summarizing (session : SessionRef)
  | saving (session : SessionRef) (snapshot : SessionState) (next : AfterSave)
  | answeringDataOnly
  | answered (answer : Answer)

/-- What a request does that confirmations depend on.  An execution carries what the
tool is called with. -/
inductive Event where
  | requested (request : Request)
  | issued (sessionId : String) (pending : PendingConfirmation) (user : UserContext)
  | executed (confirmationId : ConfirmationId) (toolName : String) (params : Json)
      (user : UserContext)
  | cancelled (confirmationId : ConfirmationId)

/-- What comes back from an await. -/
structure Outcome where
  recalled : Bool := true
  applied : Bool := true
  acknowledged : Bool := true
  agentName : Option String := none
  llm : LlmReply := .text
  tool : ToolResult := .success

/-- The session objects and the supply of identifiers. -/
structure Process where
  sessions : SessionManager := {}
  nextId : ConfirmationId := 0

/-- The next phase of a request, what it leaves of the process and what it shows. -/
structure Turn where
  phase : Phase
  process : Process
  event : Option Event := none

namespace Process

variable (process : Process)

def mutate (session : SessionRef) (change : SessionState → SessionState) : Process :=
  { process with sessions := process.sessions.mutate session change }

/-- Send the session's present state to the memory service. -/
def save (session : SessionRef) (next : AfterSave) : Phase :=
  .saving session (process.sessions.read session) next

def thenSave (session : SessionRef) (next : AfterSave) (event : Option Event := none) : Turn where
  phase := process.save session next
  process := process
  event := event

def thenAwait (phase : Phase) : Turn where
  phase := phase
  process := process

def thenAnswer (answer : Answer) : Turn where
  phase := .answered answer
  process := process

end Process

def agentNameOf (message : String) : String :=
  -- quotation marks, apostrophes and final punctuation are dropped
  let kept := message.toList.filter fun char => !([34, 39, 46, 33, 63].contains char.toNat)
  let name := String.ofList ((Text.strip (String.ofList kept)).toList.take 30)
  if name = "" then "Assistant" else name

def introduce (agentName : Option String) (state : SessionState) : SessionState :=
  match agentName with
  | none => { state with isFirstLaunch := true }
  | some agentName => { state with agentName }

section Handlers

variable (settings : Settings) (request : Request)

def handleMessage (process : Process) (session : SessionRef) (message : String) : Turn :=
  let process := process.mutate session fun state =>
    { state with messageCount := state.messageCount + 1 }
  let state := process.sessions.read session
  if state.mode = .dataOnly then process.thenAwait (.pinging session message)
  else if state.isFirstLaunch ∧ state.agentName = "" then
    let process := process.mutate session fun state =>
      { state with agentName := agentNameOf message, isFirstLaunch := false }
    process.thenAwait (.naming session)
  else process.thenAwait (.preparing session)

def handleConfirm (process : Process) (session : SessionRef) (confirmationId : ConfirmationId) :
    Turn :=
  match (process.sessions.read session).pendingConfirmation with
  | none => process.thenAnswer .nothingPending
  | some pending =>
    if pending.confirmationId ≠ confirmationId then process.thenAnswer .idMismatch
    else { phase := .executing session pending
           process := process
           event := some
            (.executed confirmationId pending.toolName pending.params request.user) }

def handleCancel (process : Process) (session : SessionRef) : Turn :=
  match (process.sessions.read session).pendingConfirmation with
  | none => process.thenAnswer .nothingPending
  | some pending =>
    let process := process.mutate session fun state => { state with pendingConfirmation := none }
    process.thenSave session (.cancelAgain pending) (some (.cancelled pending.confirmationId))

/-- The next round of the loop, if one is left. -/
def askRound (process : Process) (session : SessionRef) (round : Nat) : Turn :=
  if round < settings.maxToolRounds then process.thenAwait (.asking session round)
  else process.thenSave session .reply

/-- The model is unavailable. -/
def degrade (process : Process) (session : SessionRef) : Turn :=
  (process.mutate session fun state => { state with mode := .dataOnly }).thenSave session .dataOnly

def issueConfirmation (process : Process) (session : SessionRef) (call : ToolCall)
    (summary : Option String) : Turn :=
  let pending : PendingConfirmation :=
    { confirmationId := process.nextId
      toolName := call.name
      summary := summary.getD ("Confirm execution of " ++ call.name)
      params := call.arguments }
  let process := { process with nextId := process.nextId + 1 }
  let process := process.mutate session fun state =>
    { state with pendingConfirmation := some pending }
  process.thenSave session (.issueAgain pending)
    (some (.issued request.sessionId pending request.user))

def handleToolResult (process : Process) (session : SessionRef) (round : Nat) (call : ToolCall)
    (rest : List ToolCall) : ToolResult → Turn
  | .confirmationRequired summary => issueConfirmation request process session call summary
  | .success | .error =>
    match rest with
    | [] => askRound settings process session (round + 1)
    | next :: rest => process.thenAwait (.calling session round next rest)

def handleSaved (process : Process) (session : SessionRef) : AfterSave → Turn
  | .reply => process.thenAnswer .reply
  | .dataOnly => process.thenAwait .answeringDataOnly
  | .issueAgain pending => process.thenSave session (.issued pending)
  | .issued pending => process.thenAnswer (.confirmationRequired pending)
  | .executed _ =>
    -- the tool name is read from the confirmation that was just cleared
    match (process.sessions.read session).pendingConfirmation with
    | none => process.thenAnswer .serverError
    | some _ => process.thenAwait (.summarizing session)
  | .cancelAgain cancelled => process.thenSave session (.cancelled cancelled)
  | .cancelled cancelled => process.thenAnswer (.cancelled cancelled.toolName)

def advance (process : Process) (outcome : Outcome) : Phase → Turn
  | .loading =>
    let loaded := process.sessions.getOrCreate request.sessionId request.user outcome.recalled
    let session := loaded.1
    let process := { process with sessions := loaded.2 }
    match request.action with
    | .init => process.thenAwait (.introducing session)
    | .chat message => handleMessage process session message
    | .confirm confirmationId => handleConfirm request process session confirmationId
    | .cancel _ => handleCancel process session
  | .introducing session =>
    let process := process.mutate session (introduce outcome.agentName)
    process.thenAwait (.greeting session)
  | .greeting session =>
    match outcome.llm with
    | .text | .toolCalls _ _ =>
      let process := process.mutate session fun state =>
        { state with messageCount := 1, mode := .full }
      process.thenSave session .reply
    | .unavailable => degrade process session
    | .raises => process.thenAnswer .serverError
  | .pinging session message =>
    match outcome.llm with
    | .text | .toolCalls _ _ =>
      let process := process.mutate session fun state => { state with mode := .full }
      handleMessage process session message
    | .unavailable => process.thenAwait .answeringDataOnly
    | .raises => process.thenAnswer .serverError
  | .naming session =>
    match outcome.llm with
    | .text | .toolCalls _ _ | .unavailable => process.thenSave session .reply
    | .raises => process.thenAnswer .serverError
  | .preparing session => askRound settings process session 0
  | .asking session round =>
    match outcome.llm with
    | .text => process.thenSave session .reply
    | .toolCalls call rest => process.thenAwait (.calling session round call rest)
    | .unavailable => degrade process session
    | .raises => process.thenAnswer .serverError
  | .calling session round call rest =>
    handleToolResult settings request process session round call rest outcome.tool
  | .executing session confirmed =>
    let process := process.mutate session fun state => { state with pendingConfirmation := none }
    process.thenSave session (.executed confirmed)
  | .summarizing session =>
    match outcome.llm with
    | .text | .toolCalls _ _ | .unavailable => process.thenSave session .reply
    | .raises => process.thenAnswer .serverError
  | .saving session snapshot next =>
    let process := { process with
      sessions :=
        process.sessions.finishSave session snapshot outcome.applied outcome.acknowledged }
    handleSaved process session next
  | .answeringDataOnly => process.thenAnswer .dataOnly
  | .answered answer => process.thenAnswer answer

end Handlers

end Onpremai.Assistant
