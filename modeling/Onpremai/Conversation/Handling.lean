import Onpremai.Conversation.Sessions
import Onpremai.Library.Handlers

/-!
# Handling a request

A request is handled in a process that it shares with all other ones.  Every answer that it
awaits comes from the world around it, and what goes out and comes back is written to its log.
-/

namespace Onpremai.Conversation

open Onpremai.Library
open Onpremai.Assistant (UserContext Mode Settings)

/-- A skill, with the fields that are read of it. -/
structure Skill where
  id : String
  roles : List String := [""]
  systemPrompt : Option String := none
  nestedPrompt : String := ""
  playbookId : Option String := none

/-- A step of a playbook.  Its texts only go into a prompt. -/
structure PlaybookStep where
  step : Option Int := none
  loopTo : Option Int := none
  texts : Json := .null

/-- A playbook.  Its texts only go into a prompt. -/
structure Playbook where
  steps : List PlaybookStep := []
  texts : Json := .null

/-- A tool that a keyword stands for while there is no language model. -/
structure KeywordIntent where
  toolName : String
  params : Json
  description : String

/-- What the assistant is set up with: its settings, its built-in skills and playbooks, the
triggers loaded at the start, and its ways to write texts. -/
structure Config where
  settings : Settings := {}
  loads : String → Option Json
  render : Json → String
  personaOf : String → String
  skillPrefixes : String → List String
  matchSkill : String → String → Option String → Option String
  defaultSkills : List Skill
  defaultPlaybook : String → Option Playbook
  stepText : String → Playbook → PlaybookStep → Fields → String
  matchKeywordIntent : String → Option KeywordIntent
  failureText : KeywordIntent → String → String
  dataText : KeywordIntent → Json → Option String → String
  menuText : Option String → String

def Config.str (config : Config) : Json → String
  | .str text => text
  | value => config.render value

/-- The answers of the world around a request: the memory service, the language model, the
tools and the sources of prompts and identifiers. -/
structure World where
  recalled : Recall
  llm : Nat → LlmOutcome
  tool : Nat → ToolResult
  store : Nat → Delivery
  skillRecall : String → Option String → List Skill
  playbookRecall : String → String → Option Playbook
  userState : Option String
  tools : List Fields
  opener : String
  prompt : SessionState → String → String → String
  freshId : Nat → String

/-- An entry of the caches that all requests of the process share. -/
inductive CacheKey where
  | skill (id : String)
  | playbook (id : String)
  deriving DecidableEq

/-- What goes out of a request and comes back to it. -/
inductive Event where
  | loaded (kept : Bool)
  | asked (task : String) (messages : List Message) (tools : Option (List Json))
      (outcome : LlmOutcome)
  | called (call : ToolCall) (params : Json) (result : ToolResult)
  | confirmed (pending : PendingConfirmation) (result : ToolResult)
  | fetched (intent : KeywordIntent) (result : ToolResult)
  | stored (sessionId : String) (messages : List StoredMessage) (delivery : Delivery)
  | lookedUp (key : CacheKey)
  | cached (key : CacheKey)

/-- The sessions and the caches of the process. -/
structure Process where
  sessions : SessionManager := {}
  skills : Dict String Skill := .empty
  playbooks : Dict String Playbook := .empty

/-- A request that is being handled. -/
structure Turn where
  process : Process
  loaded : Loaded
  log : List Event := []
  asked : Nat := 0
  called : Nat := 0
  stored : Nat := 0

def Turn.session (turn : Turn) : SessionState := turn.loaded.state

/-- What a request raises. -/
inductive Failure where
  | creditExhausted (estimatedRecovery : Option String)
  | unavailable
  | error

abbrev Chat (α : Type) : Type := Handler Turn Failure α

namespace Chat

open Handler

def note (event : Event) : Chat Unit := change fun turn => { turn with log := turn.log ++ [event] }

def session : Chat SessionState := look Turn.session

theorem session_bind {α : Type} (next : SessionState → Chat α) (turn : Turn) :
    (session >>= next) turn = next turn.session turn := rfl

def modifySession (update : SessionState → SessionState) : Chat Unit :=
  change fun turn =>
    { turn with loaded := { turn.loaded with state := update turn.loaded.state } }

def append (message : Message) : Chat Unit :=
  modifySession fun state =>
    { state with conversationHistory := state.conversationHistory ++ [message] }

variable (world : World)

/-- Send messages to the language model. -/
def askLlm (task : String) (messages : List Message) (tools : Option (List Json)) :
    Chat (String × List ToolCall) := do
  let outcome ← look fun turn => world.llm turn.asked
  change fun turn => { turn with asked := turn.asked + 1 }
  note (.asked task messages tools outcome)
  match outcome with
  | .response content toolCalls => return (content, toolCalls)
  | .creditExhausted estimatedRecovery => raise (.creditExhausted estimatedRecovery)
  | .unavailable => raise .unavailable
  | .error => raise .error

/-- What an answer of the language model comes to. -/
def answerOf : LlmOutcome → Except Failure (String × List ToolCall)
  | .response content toolCalls => .ok (content, toolCalls)
  | .creditExhausted estimatedRecovery => .error (.creditExhausted estimatedRecovery)
  | .unavailable => .error .unavailable
  | .error => .error .error

theorem askLlm_eq (task : String) (messages : List Message) (tools : Option (List Json))
    (turn : Turn) :
    askLlm world task messages tools turn = (answerOf (world.llm turn.asked),
        { turn with
          asked := turn.asked + 1
          log := turn.log ++ [.asked task messages tools (world.llm turn.asked)] }) := by
  have unfolds : askLlm world task messages tools turn = (match world.llm turn.asked with
        | .response content toolCalls => pure (content, toolCalls)
        | .creditExhausted estimatedRecovery => raise (.creditExhausted estimatedRecovery)
        | .unavailable => raise .unavailable
        | .error => raise .error : Chat (String × List ToolCall))
          { turn with
            asked := turn.asked + 1
            log := turn.log ++ [.asked task messages tools (world.llm turn.asked)] } := rfl
  rw [unfolds]
  cases world.llm turn.asked with
  | response content toolCalls => rfl
  | creditExhausted estimatedRecovery => rfl
  | unavailable => rfl
  | error => rfl

def callTool (event : ToolResult → Event) : Chat ToolResult := do
  let result ← look fun turn => world.tool turn.called
  change fun turn => { turn with called := turn.called + 1 }
  note (event result)
  return result

/-- Persist the session; an object that is not acknowledged is kept. -/
def save : Chat Unit := do
  let delivery ← look fun turn => world.store turn.stored
  let state ← session
  change fun turn =>
    { turn with
      stored := turn.stored + 1
      process := { turn.process with sessions := turn.process.sessions.save state delivery }
      loaded := turn.loaded.saved delivery }
  note (.stored state.sessionId state.messagesToStore delivery)

def setPendingConfirmation (confirmation : PendingConfirmation) : Chat Unit := do
  modifySession fun state => { state with pendingConfirmation := some confirmation }
  save world

def clearPendingConfirmation : Chat Unit := do
  modifySession fun state => { state with pendingConfirmation := none }
  save world

def cachedSkill (skillId : String) : Chat (Option Skill) := do
  note (.lookedUp (.skill skillId))
  look fun turn => turn.process.skills.get? skillId

def cacheSkill (skillId : String) (skill : Skill) : Chat Unit :=
  change fun turn =>
    { turn with
      process := { turn.process with skills := turn.process.skills.set skillId skill }
      log := turn.log ++ [.cached (.skill skillId)] }

def cachedPlaybook (playbookId : String) : Chat (Option Playbook) := do
  note (.lookedUp (.playbook playbookId))
  look fun turn => turn.process.playbooks.get? playbookId

def cachePlaybook (playbookId : String) (playbook : Playbook) : Chat Unit :=
  change fun turn =>
    { turn with
      process := { turn.process with playbooks := turn.process.playbooks.set playbookId playbook }
      log := turn.log ++ [.cached (.playbook playbookId)] }

end Chat

end Onpremai.Conversation
