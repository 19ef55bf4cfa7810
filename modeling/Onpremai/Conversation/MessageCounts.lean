import Onpremai.Conversation.PlaybookRuns

/-!
# Counting the messages of a session

A message that is answered in full mode is counted and saved once.  In data-only mode nothing is
saved, a message that finds the language model back is counted twice, and one that does not is
not added to the conversation.
-/

namespace Onpremai.Conversation

open Onpremai.Library
open Onpremai.Assistant (UserContext Mode agentNameOf)

def Message.isUser (text : String) : Message → Bool
  | .user content => content == text
  | _ => false

/-- The question whether the language model is back, which shows it no conversation. -/
def isPing : List Message → Bool
  | [.user content] => content == "ping"
  | _ => false

/-- The conversation that the next call of the language model shows it: the first one that was
sent, or else the one with which the session goes on. -/
def shownNext (log : List Event) (later : List Message) : List Message :=
  ((sentMessages log).find? fun messages => !isPing messages).getD later

def namingRequest (message : String) : String :=
  "The user has chosen to name you '" ++ agentNameOf message ++ "'. " ++
  "Acknowledge the name warmly (one sentence), then transition to " ++
  "showing their current compliance status and priorities."

section Property

variable (config : Config) (sessionId : String) (user : UserContext)

def afterMessage (process : Process) (input : String × World) : Process :=
  (serve config process { sessionId, user, action := .chat input.1 } (storing input.2)).process

/-- What is promised of a message, for the turn in which it begins, how the turn has ended, and
the session that is loaded next. -/
structure CountedOnce (message : String) (turn ended : Turn) (reloaded : SessionState) : Prop where
  counted : reloaded.messageCount = turn.session.messageCount + 1
  shown : (shownNext ended.log reloaded.conversationHistory).countP (Message.isUser message) = 1
  mode : reloaded.mode = ended.session.mode

/-- A message is counted once, is shown to the language model once in the next conversation that
it sees, and leaves its mode to the session that is loaded next. -/
def Accounted (process : Process) (input : String × World) : Prop :=
  ∀ turn, reloadedTurn sessionId user process (.chat input.1, input.2) = some turn →
    ∃ reloaded, readBack sessionId user (afterMessage config sessionId user process input) =
        some reloaded ∧
      CountedOnce input.1 turn
        (Chat.handle config (storing input.2) user (.chat input.1) turn).2 reloaded

/-- A message comes in full mode and is answered without an internal error, with a conversation
shown to the language model.  The text of a naming answer is not that of the request for its
acknowledgement. -/
def Steady (process : Process) (input : String × World) : Prop :=
  ∀ turn, reloadedTurn sessionId user process (.chat input.1, input.2) = some turn →
    turn.session.mode = .full ∧
      if IsNaming turn.session then
        input.2.llm 0 ≠ .error ∧ input.1 ≠ namingRequest input.1
      else
        config.settings.maxToolRounds ≠ 0 ∧
          roundsEnd config (storing input.2) config.settings.maxToolRounds 0 0 ≠ .raised

end Property

def Tracked (sessionId : String) (process : Process) : Prop := (∃ saved : SessionState,
      process.sessions.memory.get? sessionId = some saved.messagesToStore) ∨
    process.sessions.memory.get? sessionId = none ∧
      process.sessions.fallbackSessions.get? sessionId = none

/-- What of the session and the session stores is no matter of prompts and conversations. -/
structure Footing where
  sessions : SessionManager
  kept : Bool
  sessionId : String
  count : Int
  mode : Mode

def Turn.footing (turn : Turn) : Footing where
  sessions := turn.process.sessions
  kept := turn.loaded.kept
  sessionId := turn.session.sessionId
  count := turn.session.messageCount
  mode := turn.session.mode

/-- The memory service has a copy of the session with its count and its mode. -/
structure Filed (sessionId : String) (count : Int) (turn : Turn) : Prop where
  named : turn.session.sessionId = sessionId
  counted : turn.session.messageCount = count
  stored : ∃ saved : SessionState, turn.process.sessions.memory.get? sessionId =
    some saved.messagesToStore ∧ saved.messageCount = count ∧ saved.mode = turn.session.mode

theorem Filed.congr {sessionId : String} {count : Int} {first second : Turn}
    (filed : Filed sessionId count first) (same : second.footing = first.footing) :
    Filed sessionId count second := by
  have sessions : second.process.sessions = first.process.sessions := congrArg Footing.sessions same
  have mode : second.session.mode = first.session.mode := congrArg Footing.mode same
  constructor
  · exact (congrArg Footing.sessionId same).trans filed.named
  · exact (congrArg Footing.count same).trans filed.counted
  · rw [sessions, mode]
    exact filed.stored

namespace Chat

open Handler

variable {config : Config} {world : World} {user : UserContext} {start : Footing}

/-- Code that leaves a turn where it stands. -/
def Idle {α : Type} (handler : Chat α) : Prop :=
  ∀ footing, Keeps (fun turn : Turn => turn.footing = footing) handler

section Idle

variable {α β : Type} {handler : Chat α}

theorem idle_pure (value : α) : Idle (pure value : Chat α) := fun _ => keeps_pure value

theorem idle_look (view : Turn → α) : Idle (look view : Chat α) := fun _ => keeps_look view

theorem Idle.bind {next : α → Chat β} (first : Idle handler) (second : ∀ value, Idle (next value)) :
    Idle (handler >>= next) :=
  fun footing => keeps_bind (first footing) fun value => second value footing

theorem idle_modifySession {update : SessionState → SessionState}
    (same : ∀ state, (update state).sessionId = state.sessionId ∧
      (update state).messageCount = state.messageCount ∧ (update state).mode = state.mode) :
    Idle (modifySession update) := by
  intro footing turn stands
  obtain ⟨sessionId, count, mode⟩ := same turn.session
  rw [← stands]
  change Footing.mk _ _ (update turn.session).sessionId (update turn.session).messageCount
    (update turn.session).mode = _
  rw [sessionId, count, mode]
  rfl

theorem Consults.idle (consults : Consults handler) : Idle handler := by
  intro footing turn stands
  have left := consults.leaves turn turn ⟨rfl, rfl, rfl, rfl, rfl⟩
  rw [← stands, Turn.footing, Turn.session, left.sessions, left.loaded]
  rfl

theorem idle_append (message : Message) : Idle (append message) :=
  idle_modifySession fun _ => ⟨rfl, rfl, rfl⟩

theorem idle_askLlm (task : String) (messages : List Message) (tools : Option (List Json)) :
    Idle (askLlm world task messages tools) := by
  intro footing turn stands
  rw [askLlm_eq]
  exact stands

theorem idle_callTool (event : ToolResult → Event) : Idle (callTool world event) :=
  fun _ _ stands => stands

theorem idle_handleDataOnlyMessage (message : String) (estimatedRecovery : Option String) :
    Idle (handleDataOnlyMessage config world message estimatedRecovery) := by
  rw [handleDataOnlyMessage]
  cases config.matchKeywordIntent message with
  | none => exact idle_pure _
  | some intent =>
    refine (idle_callTool _).bind fun result => ?_
    cases result with
    | success data => exact idle_pure _
    | error reason => exact idle_pure _
    | confirmationRequired summary => exact idle_pure _

theorem idle_advanceStep : Idle (advanceStep config world) := by
  have moves : ∀ playbook, Idle (modifySession (nextStep playbook)) := by
    intro playbook
    apply idle_modifySession
    intro state
    rw [nextStep]
    split
    · exact ⟨rfl, rfl, rfl⟩
    · split
      · exact ⟨rfl, rfl, rfl⟩
      · split
        · exact ⟨rfl, rfl, rfl⟩
        · exact ⟨rfl, rfl, rfl⟩
  rw [advanceStep]
  refine (idle_look _).bind fun state => ?_
  cases state.activePlaybook.filter fun id => decide (id ≠ "") with
  | none => exact idle_pure _
  | some playbookId =>
    refine (consults_loadPlaybook _ _).idle.bind fun found => ?_
    cases found with
    | none => exact idle_pure _
    | some playbook => exact moves playbook

theorem idle_resolveSkillContext (message : String) :
    Idle (resolveSkillContext config world user message) := fun footing =>
  keeps_resolveSkillContext (fun consults => consults.idle footing) (fun update resolves =>
    idle_modifySession (fun state => by
      obtain ⟨_, _, _, _, changed⟩ := resolves state
      rw [changed]
      exact ⟨rfl, rfl, rfl⟩) footing) message

theorem idle_beginConversation (skillPrompt playbookPrompt : String) :
    Idle (beginConversation world skillPrompt playbookPrompt) := by
  refine (idle_look _).bind fun state => ?_
  cases state.conversationHistory with
  | nil => exact idle_append _
  | cons message rest => exact idle_pure _

end Idle

/-! ## Saving once -/

/-- From a turn that stands somewhere, code returns with the session saved, or raises where the
turn stood. -/
def Files {α : Type} (start : Footing) (handler : Chat α) : Prop :=
  Ensures (fun turn : Turn => turn.footing = start) handler
    (fun _ => Filed start.sessionId start.count) fun _ turn => turn.footing = start

/-- Code that goes on from a saved session, and returns with it. -/
def StaysFiled {α : Type} (start : Footing) (handler : Chat α) : Prop :=
  Ensures (Filed start.sessionId start.count) handler
    (fun _ => Filed start.sessionId start.count) fun _ _ => False

section Files

variable {α β : Type} {handler : Chat α}

theorem Idle.files {next : α → Chat β} (idle : Idle handler)
    (files : ∀ value, Files start (next value)) : Files start (handler >>= next) :=
  ensures_bind (idle start).ensures files

theorem Idle.staysFiled (idle : Idle handler) (raises : Raises (fun _ => False) handler) :
    StaysFiled start handler := by
  intro turn filed
  have stands := idle turn.footing turn rfl
  have done := raises turn trivial
  cases outcome : handler turn with
  | mk result after =>
    rw [outcome] at stands done
    cases result with
    | ok value => exact filed.congr stands
    | error exn => exact done

theorem filed_save {turn : Turn} (sessionId : turn.session.sessionId = start.sessionId)
    (count : turn.session.messageCount = start.count) :
    Filed start.sessionId start.count (save (storing world) turn).2 := by
  refine ⟨sessionId, count, turn.session, ?_, count, rfl⟩
  rw [← sessionId]
  exact (Dict.get?_set _ _ _ _).trans (if_pos rfl)

theorem ensures_save_bind {before : Turn → Prop} {next : Unit → Chat β}
    (right : ∀ turn, before turn →
      turn.session.sessionId = start.sessionId ∧ turn.session.messageCount = start.count)
    (rests : ∀ value, StaysFiled start (next value)) {raised : Failure → Turn → Prop} :
    Ensures before (save (storing world) >>= next)
      (fun _ => Filed start.sessionId start.count) raised := by
  have saves : Ensures before (save (storing world))
      (fun _ => Filed start.sessionId start.count) raised := by
    intro turn holds
    obtain ⟨sessionId, count⟩ := right turn holds
    exact filed_save sessionId count
  refine ensures_bind saves fun value => ?_
  exact (rests value).weaken (fun _ filed => filed) (fun _ _ filed => filed)
    fun _ _ impossible => impossible.elim

theorem files_save_bind {next : Unit → Chat β} (rests : ∀ value, StaysFiled start (next value)) :
    Files start (save (storing world) >>= next) := by
  apply ensures_save_bind _ rests
  intro turn stands
  exact ⟨congrArg Footing.sessionId stands, congrArg Footing.count stands⟩

theorem staysFiled_save_bind {next : Unit → Chat β}
    (rests : ∀ value, StaysFiled start (next value)) :
    StaysFiled start (save (storing world) >>= next) :=
  ensures_save_bind (fun _ filed => ⟨filed.named, filed.counted⟩) rests

theorem StaysFiled.bind {next : α → Chat β} (first : StaysFiled start handler)
    (second : ∀ value, StaysFiled start (next value)) : StaysFiled start (handler >>= next) :=
  ensures_bind first second

theorem files_save : Files start (save (storing world)) := by
  intro turn stands
  exact filed_save (congrArg Footing.sessionId stands) (congrArg Footing.count stands)

theorem Files.bind {next : α → Chat β} (first : Files start handler)
    (second : ∀ value, StaysFiled start (next value)) : Files start (handler >>= next) := by
  refine ensures_bind first fun value => ?_
  exact (second value).weaken (fun _ filed => filed) (fun _ _ filed => filed)
    fun _ _ impossible => impossible.elim

theorem staysFiled_session_pure (value : SessionState → α) :
    StaysFiled start (session >>= fun state => pure (value state)) :=
  ((idle_look _).bind fun _ => idle_pure _).staysFiled (raises_session.bind fun _ => raises_pure _)

theorem staysFiled_append (message : Message) : StaysFiled start (append message) :=
  (idle_append message).staysFiled (raises_modifySession _)

theorem raises_advanceStep : Raises (fun _ => False) (advanceStep config world) := by
  intro turn _
  rw [advanceStep_ran]
  trivial

end Files

section Loop

variable {content : String} {toolCalls : List ToolCall}

section

variable (actions : List ToolAction)

theorem files_finish : Files start (finish config (storing world) content actions) := by
  refine (idle_append _).files fun _ => files_save_bind fun _ => ?_
  exact StaysFiled.bind (idle_advanceStep.staysFiled raises_advanceStep) fun _ =>
    staysFiled_session_pure _

theorem files_giveUp : Files start (giveUp (storing world) actions) :=
  (idle_append _).files fun _ => files_save_bind fun _ => staysFiled_session_pure _

theorem files_pauseFor (call : ToolCall) (params summary : Json) :
    Files start (pauseFor (storing world) content toolCalls actions call params summary) := by
  rw [pauseFor]
  refine (idle_look _).files fun confirmationId => ?_
  split
  · exact ensures_raise fun _ stands => stands
  · next confirmation _ =>
    have held : Files start (setPendingConfirmation (storing world) confirmation) :=
      Idle.files (idle_modifySession fun _ => ⟨rfl, rfl, rfl⟩) fun _ => files_save
    refine held.bind fun _ => (staysFiled_append _).bind fun _ => ?_
    exact staysFiled_save_bind fun _ => staysFiled_session_pure _

end

section

variable {next : List ToolAction → Chat ChatResponse}

theorem files_paused (actions : List ToolAction) (call : ToolCall) (params summary : Json) :
    Files start
      (pauseFor (storing world) content toolCalls actions call params summary >>= goOn next) := by
  intro turn stands
  have done := @files_pauseFor world start content toolCalls actions call params summary turn stands
  cases made : PendingConfirmation.validate ((storing world).freshId turn.called) call.toolName
      summary params with
  | none =>
    have unmade := @pauseFor_of_invalid (storing world) content toolCalls actions call params
      summary turn made
    rw [bind_of_error unmade]
    exact stands
  | some confirmation =>
    obtain ⟨response, after, paused, -⟩ := @pauseFor_of_valid (storing world) content toolCalls
      actions call params summary turn confirmation made
    rw [bind_of_ok paused]
    rw [paused] at done
    exact done

theorem files_runCalls (goesOn : ∀ actions, Files start (next actions)) (calls : List ToolCall)
    (actions : List ToolAction) : Files start
      (runCalls config (storing world) content toolCalls calls actions >>= goOn next) := by
  intro turn stands
  induction calls generalizing turn actions with
  | nil => exact goesOn actions turn stands
  | cons call rest ih =>
    cases result : (storing world).tool turn.called with
    | success data =>
      rw [runCalls_executed (congrArg ToolResult.isConfirmation result)]
      exact ih _ _ stands
    | error reason =>
      rw [runCalls_executed (congrArg ToolResult.isConfirmation result)]
      exact ih _ _ stands
    | confirmationRequired summary =>
      rw [runCalls_paused result]
      exact files_paused _ _ _ _ _ stands

end

theorem files_runRounds {tools : List Fields} (rounds : Nat) (task : String)
    (actions : List ToolAction) :
    Files start (runRounds config (storing world) tools rounds task actions) := by
  induction rounds generalizing task actions with
  | zero => exact files_giveUp actions
  | succ rounds ih =>
    rw [runRounds]
    refine (idle_look _).files fun state => (idle_askLlm _ _ _).files fun answer => ?_
    obtain ⟨content, toolCalls⟩ := answer
    cases toolCalls with
    | nil => exact files_finish actions
    | cons call others => exact files_runCalls (ih "skill_execution") _ actions

end Loop

theorem files_degrade (message : String) (estimatedRecovery : Option String) :
    Files start (degrade config (storing world) message estimatedRecovery) := by
  have rests : StaysFiled start
      (handleDataOnlyMessage config (storing world) message estimatedRecovery) :=
    (idle_handleDataOnlyMessage _ _).staysFiled (raises_handleDataOnlyMessage _ _)
  intro turn stands
  rw [degrade, modifySession_bind]
  refine @ensures_save_bind world start _ (fun turn => turn.session.sessionId = start.sessionId ∧
    turn.session.messageCount = start.count) _ (fun _ holds => holds)
      (fun _ => rests.bind fun _ => staysFiled_session_pure _) _ _ ?_
  exact ⟨congrArg Footing.sessionId stands, congrArg Footing.count stands⟩

theorem files_respond (message skillPrompt playbookPrompt : String) :
    Files start (respond config (storing world) message skillPrompt playbookPrompt) := by
  refine (idle_beginConversation _ _).files fun _ => (idle_append _).files fun _ => ?_
  refine ensures_rescue ((idle_look _).files fun state => files_runRounds _ _ _) fun exn => ?_
  cases exn with
  | creditExhausted estimatedRecovery => exact files_degrade _ _
  | unavailable => exact files_degrade _ _
  | error => exact ensures_raise fun _ stands => stands

theorem files_acknowledgeName (content : String) :
    Files start (acknowledgeName (storing world) content) := by
  refine Idle.files (idle_modifySession fun _ => ⟨rfl, rfl, rfl⟩) fun _ => ?_
  exact (idle_append _).files fun _ => files_save_bind fun _ => staysFiled_session_pure _

theorem files_handleAgentNaming (message : String) :
    Files start (handleAgentNaming (storing world) message) := by
  refine Idle.files (idle_modifySession fun _ => ⟨rfl, rfl, rfl⟩) fun _ => ?_
  refine (idle_append _).files fun _ => (idle_append _).files fun _ => ?_
  refine ensures_rescue ((idle_look _).files fun state => (idle_askLlm _ _ _).files fun answer =>
    files_acknowledgeName answer.1) fun exn => ?_
  cases exn with
  | creditExhausted estimatedRecovery => exact files_acknowledgeName _
  | unavailable => exact files_acknowledgeName _
  | error => exact ensures_raise fun _ stands => stands

theorem files_converse (message : String) :
    Files start (converse config (storing world) user message) := by
  rw [converse]
  refine (idle_look _).files fun state => ?_
  split
  · exact files_handleAgentNaming message
  · exact (idle_resolveSkillContext message).files fun _ => files_respond _ _ _

theorem returned_handleAgentNaming_iff (message : String) (turn : Turn) :
    (∃ response, (handleAgentNaming world message turn).1 = .ok response) ↔
      world.llm turn.asked ≠ .error := by
  obtain ⟨answering, same, -, asked⟩ := @handleAgentNaming_still world turn message
  have asks := askLlm_eq world "chat_response" answering.session.conversationHistory
    (some (formatToolsForLlm answering.session.toolsCache)) answering
  rw [same, answerNaming, ← asked]
  cases outcome : world.llm answering.asked with
  | response content toolCalls =>
    rw [outcome] at asks
    have answers := bind_of_ok asks fun answer => acknowledgeName world answer.1
    rw [rescue_of_ok ((session_bind _ answering).trans (answers.trans rfl))]
    exact iff_of_true ⟨_, rfl⟩ LlmOutcome.noConfusion
  | creditExhausted estimatedRecovery =>
    rw [outcome] at asks
    rw [rescue_of_error ((session_bind _ answering).trans (bind_of_error asks _))]
    exact iff_of_true ⟨_, rfl⟩ LlmOutcome.noConfusion
  | unavailable =>
    rw [outcome] at asks
    rw [rescue_of_error ((session_bind _ answering).trans (bind_of_error asks _))]
    exact iff_of_true ⟨_, rfl⟩ LlmOutcome.noConfusion
  | error =>
    rw [outcome] at asks
    rw [rescue_of_error ((session_bind _ answering).trans (bind_of_error asks _))]
    refine iff_of_false ?_ fun other => other rfl
    rintro ⟨response, returned⟩
    cases returned

theorem returned_of_raises {handler : Chat ChatResponse}
    (raises : Raises (fun _ => False) handler) (turn : Turn) :
    ∃ response, (handler turn).1 = .ok response := by
  have done := raises turn trivial
  cases outcome : handler turn with
  | mk result after =>
    cases result with
    | ok response => exact ⟨response, rfl⟩
    | error exn =>
      rw [outcome] at done
      exact done.elim

theorem returned_respond_iff (message skillPrompt playbookPrompt : String) (turn : Turn) :
    (∃ response,
        (respond config (storing world) message skillPrompt playbookPrompt turn).1 = .ok response) ↔
      roundsEnd config (storing world) config.settings.maxToolRounds turn.asked turn.called ≠
        .raised := by
  obtain ⟨after, still, asked, called, same⟩ := @respond_still config (storing world) turn message
    skillPrompt playbookPrompt
  have ends : EndsAs config world turn (runLoop config (storing world) after)
      (roundsEnd config (storing world) config.settings.maxToolRounds after.asked after.called) :=
    endsAs_runRounds still
  rw [same]
  rw [asked, called] at ends
  cases ending : roundsEnd config (storing world) config.settings.maxToolRounds turn.asked
      turn.called with
  | failed =>
    rw [ending] at ends
    obtain ⟨exn, raised, other⟩ := ends
    rw [rescue_of_error (Prod.ext raised rfl)]
    refine iff_of_true ?_ LoopEnd.noConfusion
    cases exn with
    | creditExhausted estimatedRecovery => exact returned_of_raises (raises_degrade _ _) _
    | unavailable => exact returned_of_raises (raises_degrade _ _) _
    | error => exact absurd rfl other
  | answered =>
    rw [ending] at ends
    obtain ⟨response, returned⟩ := ends.1
    rw [rescue_of_ok (Prod.ext returned rfl)]
    exact iff_of_true ⟨response, rfl⟩ LoopEnd.noConfusion
  | saved =>
    rw [ending] at ends
    obtain ⟨response, returned⟩ := ends.1
    rw [rescue_of_ok (Prod.ext returned rfl)]
    exact iff_of_true ⟨response, rfl⟩ LoopEnd.noConfusion
  | raised =>
    rw [ending] at ends
    rw [rescue_of_error (Prod.ext ends.1 rfl)]
    refine iff_of_false ?_ fun other => other rfl
    rintro ⟨response, returned⟩
    cases returned

/-! ## What the language model is shown -/

theorem sends_rescue {handler : Chat ChatResponse} {recover : Failure → Chat ChatResponse}
    {turn : Turn} {sent : List (List Message)}
    (first : sent <+: sentMessages (handler turn).2.log)
    (second : ∀ exn, Orderly world (recover exn)) :
    sent <+: sentMessages (handler.rescue recover turn).2.log :=
  @keeps_rescue_at _ _ _ (fun turn : Turn => sent <+: sentMessages turn.log) _ _ _ first
    fun exn => (second exn).sends sent

theorem asks_first {α : Type} (task : String) (tools : SessionState → Option (List Json))
    {next : SessionState → String × List ToolCall → Chat α}
    (orderly : ∀ state answer, Orderly world (next state answer)) {turn : Turn}
    (silent : sentMessages turn.log = []) :
    [turn.session.conversationHistory] <+: sentMessages ((session >>= fun state =>
      askLlm world task state.conversationHistory (tools state) >>= next state) turn).2.log := by
  rw [session_bind]
  have first : (fun after : Turn => [turn.session.conversationHistory] <+: sentMessages after.log)
      (askLlm world task turn.session.conversationHistory (tools turn.session) turn).2 := by
    have sent : sentMessages (turn.log ++ [.asked task turn.session.conversationHistory
        (tools turn.session) (world.llm turn.asked)]) =
          sentMessages turn.log ++ [turn.session.conversationHistory] := List.filterMap_append
    rw [askLlm_eq]
    change _ <+: sentMessages (turn.log ++ _)
    rw [sent, silent]
    exact List.prefix_refl _
  exact keeps_bind_at first fun answer => (orderly turn.session answer).sends _

theorem sends_handleAgentNaming {turn : Turn} (silent : sentMessages turn.log = [])
    (fresh : turn.session.conversationHistory = []) (message : String) :
    [[.user message, .user (namingRequest message)]] <+:
      sentMessages (handleAgentNaming world message turn).2.log := by
  obtain ⟨answering, same, sent, history⟩ : ∃ answering, handleAgentNaming world message turn =
      answerNaming world (agentNameOf message) answering ∧
        sentMessages answering.log = sentMessages turn.log ∧
          answering.session.conversationHistory = turn.session.conversationHistory ++
            [.user message] ++ [.user (namingRequest message)] := ⟨_, rfl, rfl, rfl⟩
  rw [fresh] at history
  rw [same, answerNaming]
  refine @sends_rescue world _ _ _ _ ?_ fun exn => ?_
  · have first := @asks_first world _ "chat_response"
      (fun state => some (formatToolsForLlm state.toolsCache))
      (fun _ answer => acknowledgeName world answer.1) (fun _ _ => orderly_acknowledgeName _)
      answering (sent.trans silent)
    rw [history] at first
    exact first
  · cases exn with
    | creditExhausted estimatedRecovery => exact orderly_acknowledgeName _
    | unavailable => exact orderly_acknowledgeName _
    | error => exact .raise _

theorem sends_respond {turn : Turn} (silent : sentMessages turn.log = [])
    (fresh : turn.session.conversationHistory = []) (rounds : config.settings.maxToolRounds ≠ 0)
    (message skillPrompt playbookPrompt : String) :
    [[.system (world.prompt turn.session skillPrompt playbookPrompt), .user message]] <+:
      sentMessages (respond config world message skillPrompt playbookPrompt turn).2.log := by
  have begun : beginConversation world skillPrompt playbookPrompt turn = (.ok ⟨⟩,
      (append (.system (world.prompt turn.session skillPrompt playbookPrompt)) turn).2) :=
    (beginConversation_nil skillPrompt playbookPrompt fresh).trans rfl
  obtain ⟨after, same, sent, history⟩ : ∃ after,
      respond config world message skillPrompt playbookPrompt turn =
        (runLoop config world).rescue (goOnWithout config world message) after ∧
      sentMessages after.log = sentMessages turn.log ∧
      after.session.conversationHistory = turn.session.conversationHistory ++
        [.system (world.prompt turn.session skillPrompt playbookPrompt)] ++ [.user message] := by
    rw [respond, bind_of_ok begun]
    exact ⟨_, rfl, rfl, rfl⟩
  rw [fresh, List.nil_append, List.singleton_append] at history
  rw [same]
  refine @sends_rescue world _ _ _ _ ?_ fun exn => ?_
  · obtain ⟨others, some⟩ := Nat.exists_eq_succ_of_ne_zero rounds
    rw [runLoop, session_bind, some, runRounds, ← history]
    apply @asks_first world _ "tool_selection" (fun _ =>
      if after.session.toolsCache.isEmpty then none
      else Option.some (formatToolsForLlm after.session.toolsCache))
    · intro state answer
      obtain ⟨content, toolCalls⟩ := answer
      cases toolCalls with
      | nil => exact orderly_finish _
      | cons call others =>
        refine .bind (orderly_runCalls _ _) fun ended => ?_
        cases ended with
        | paused response => exact .pure _
        | completed actions => exact orderly_runRounds _ _ _
    · exact sent.trans silent
  · cases exn with
    | creditExhausted estimatedRecovery => exact orderly_degrade _ _
    | unavailable => exact orderly_degrade _ _
    | error => exact .raise _

theorem unasking_respond (rounds : config.settings.maxToolRounds = 0)
    (message skillPrompt playbookPrompt : String) :
    Unasking (respond config world message skillPrompt playbookPrompt) := by
  have begins : Unasking (beginConversation world skillPrompt playbookPrompt) := by
    refine (unasking_look _).bind fun state => ?_
    cases state.conversationHistory with
    | nil => exact unasking_append _
    | cons first rest => exact unasking_pure _
  have loops : Unasking (runLoop config world) := by
    refine (unasking_look _).bind fun state => ?_
    rw [rounds]
    exact unasking_giveUp _
  refine begins.bind fun _ => (unasking_append _).bind fun _ => fun sent => ?_
  refine keeps_rescue (loops sent) fun exn => ?_
  cases exn with
  | creditExhausted estimatedRecovery => exact unasking_degrade _ _ sent
  | unavailable => exact unasking_degrade _ _ sent
  | error => exact keeps_raise _

end Chat

theorem shownNext_of_first {log : List Event} {messages later : List Message}
    (first : [messages] <+: sentMessages log) (conversation : isPing messages = false) :
    shownNext log later = messages := by
  obtain ⟨more, same⟩ := first
  rw [shownNext, ← same, List.singleton_append,
    List.find?_cons_of_pos (by rw [conversation]; rfl), Option.getD_some]

theorem shownNext_of_silent {log : List Event} {later : List Message}
    (silent : sentMessages log = []) : shownNext log later = later := by
  rw [shownNext, silent]
  rfl

theorem countP_named (message other : String) :
    [Message.user message, Message.user other].countP (Message.isUser message) = 1 ↔
      message ≠ other := by
  simp only [List.countP_cons, List.countP_nil, Message.isUser, beq_self_eq_true, if_true,
    beq_iff_eq]
  by_cases same : other = message
  · simp [same]
  · simp [same, Ne.symm same]

section Shown

variable {config : Config} {world : World} {user : UserContext} {turn : Turn}

open Chat Handler

theorem shown_converse_iff (silent : sentMessages turn.log = [])
    (fresh : turn.session.conversationHistory = []) (unasked : turn.asked = 0)
    (uncalled : turn.called = 0) (message : String) :
    ((∃ response, (converse config (storing world) user message turn).1 = .ok response) ∧
      (shownNext (converse config (storing world) user message turn).2.log []).countP
        (Message.isUser message) = 1) ↔
      if IsNaming turn.session then
        world.llm 0 ≠ .error ∧ message ≠ namingRequest message
      else
        config.settings.maxToolRounds ≠ 0 ∧
          roundsEnd config (storing world) config.settings.maxToolRounds 0 0 ≠ .raised := by
  rw [converse, session_bind]
  by_cases naming : IsNaming turn.session
  · have first := @sends_handleAgentNaming (storing world) turn silent fresh message
    rw [if_pos naming, if_pos naming, returned_handleAgentNaming_iff, unasked,
      shownNext_of_first first rfl, countP_named]
    exact Iff.rfl
  · rw [if_neg naming, if_neg naming]
    obtain ⟨prompts, after, ran⟩ : ∃ prompts after,
        resolveSkillContext config (storing world) user message turn = (.ok prompts, after) := by
      have done := @raises_resolveSkillContext config (storing world) user (fun _ => False)
        message turn trivial
      cases outcome : resolveSkillContext config (storing world) user message turn with
      | mk result after =>
        rw [outcome] at done
        cases result with
        | ok prompts => exact ⟨prompts, after, rfl⟩
        | error exn => exact done.elim
    have stillSilent := @unasking_resolveSkillContext config (storing world) user message [] turn
      silent
    have stillFresh := @history_resolveSkillContext config (storing world) user message [] turn
      fresh
    have counters : Keeps (fun turn : Turn => turn.asked = 0 ∧ turn.called = 0)
        (resolveSkillContext config (storing world) user message) := by
      refine keeps_resolveSkillContext (fun consults => ?_) (fun _ _ => keeps_change fun _ same =>
        same) message
      intro turn same
      have left := consults.leaves turn turn ⟨rfl, rfl, rfl, rfl, rfl⟩
      exact ⟨left.asked.trans same.1, left.called.trans same.2⟩
    have counted := counters turn ⟨unasked, uncalled⟩
    rw [ran] at stillSilent stillFresh counted
    rw [bind_of_ok ran]
    dsimp only
    rw [returned_respond_iff, counted.1, counted.2, and_comm]
    apply and_congr_left
    intro _
    by_cases rounds : config.settings.maxToolRounds = 0
    · rw [shownNext_of_silent (unasking_respond rounds _ _ _ [] after stillSilent)]
      exact iff_of_false (by simp) fun other => other rounds
    · have first := @sends_respond config (storing world) after stillSilent stillFresh rounds
        message prompts.1 prompts.2
      rw [shownNext_of_first first rfl]
      refine iff_of_true ?_ rounds
      simp [Message.isUser]

end Shown

/-! ## One message -/

section Message

variable {config : Config} {sessionId : String} {user : UserContext} {process : Process}
  {input : String × World}

open Chat Handler

theorem Tracked.begins (tracked : Tracked sessionId process) :
    ∃ state : SessionState, readBack sessionId user process = some state ∧
      reloadedTurn sessionId user process (.chat input.1, input.2) =
        some { process, loaded := { state }, log := [.loaded false] } ∧
      state.conversationHistory = [] ∧ state.sessionId = sessionId := by
  have opens : ∀ state : SessionState,
      process.sessions.getOrCreate sessionId user .oldest = some { state } →
      readBack sessionId user process = some state ∧
        reloadedTurn sessionId user process (.chat input.1, input.2) =
          some { process, loaded := { state }, log := [.loaded false] } := by
    intro state loads
    have recalled : (storing input.2).recalled = .oldest := rfl
    rw [readBack, reloadedTurn, startTurn, recalled, loads]
    exact ⟨rfl, rfl⟩
  rcases tracked with ⟨saved, stored⟩ | ⟨unsaved, unkept⟩
  · obtain ⟨back, starts⟩ := opens _ (getOrCreate_of_stored stored)
    exact ⟨_, back, starts, rfl, rfl⟩
  · have loads : process.sessions.getOrCreate sessionId user .oldest =
        some { state := { sessionId, tenantId := user.tenantId, userId := user.userId
                          role := user.role } } := by
      rw [SessionManager.getOrCreate, unsaved, unkept]
      rfl
    obtain ⟨back, starts⟩ := opens _ loads
    exact ⟨_, back, starts, rfl, rfl⟩

theorem afterMessage_eq {state : SessionState} (back : readBack sessionId user process = some state)
    (starts : reloadedTurn sessionId user process (.chat input.1, input.2) =
      some { process, loaded := { state }, log := [.loaded false] }) :
    afterMessage config sessionId user process input =
      released (handle config (storing input.2) user (.chat input.1)
        { process, loaded := { state }, log := [.loaded false] }).2 := by
  rw [reloadedTurn, startTurn, Option.map_eq_some_iff] at starts
  obtain ⟨loaded, loads, same⟩ := starts
  cases same
  rw [afterMessage, serve, loads]
  rfl

theorem Filed.readBack {count : Int} {ended : Turn} (filed : Filed sessionId count ended) :
    ∃ reloaded, readBack sessionId user (released ended) = some reloaded ∧
      reloaded.messageCount = count ∧ reloaded.mode = ended.session.mode ∧
        reloaded.conversationHistory = [] := by
  obtain ⟨saved, stored, counted, mode⟩ := filed.stored
  have kept : (released ended).sessions.memory.get? sessionId = some saved.messagesToStore := by
    rw [released, memory_release]
    exact stored
  rw [Onpremai.Conversation.readBack, getOrCreate_of_stored kept]
  exact ⟨_, rfl, counted, mode, rfl⟩

theorem Filed.tracked {count : Int} {ended : Turn} (filed : Filed sessionId count ended) :
    Tracked sessionId (released ended) := by
  obtain ⟨saved, stored, -⟩ := filed.stored
  left
  refine ⟨saved, ?_⟩
  rw [released, memory_release]
  exact stored

theorem sessions_released {ended : Turn} (sessions : ended.process.sessions = process.sessions)
    (unkept : ended.loaded.kept = false) : (released ended).sessions = process.sessions := by
  rw [released, SessionManager.release, unkept]
  exact sessions

theorem files_full {turn : Turn} (full : turn.session.mode = .full) (message : String) :
    handleMessage config (storing input.2) user message turn =
        converse config (storing input.2) user message (countMessage turn).2 ∧
      After (fun _ => Filed turn.session.sessionId (turn.session.messageCount + 1))
        (fun _ after => after.footing = (countMessage turn).2.footing)
        (converse config (storing input.2) user message (countMessage turn).2) := by
  constructor
  · have counts {α : Type} (next : Unit → Chat α) :
        (countMessage >>= next) turn = next () (countMessage turn).2 := rfl
    have same : (countMessage turn).2.session.mode = .full := full
    rw [handleMessage, counts, session_bind, same]
  · exact @files_converse config input.2 user (countMessage turn).2.footing message _ rfl

theorem filed_dataOnly {turn : Turn} (dataOnly : turn.session.mode = .dataOnly)
    (message : String) :
    Filed turn.session.sessionId (turn.session.messageCount + 1 + 1)
        (handleMessage config (storing input.2) user message turn).2 ∨
      (handleMessage config (storing input.2) user message turn).2.process.sessions =
          turn.process.sessions ∧
        (handleMessage config (storing input.2) user message turn).2.loaded.kept =
          turn.loaded.kept := by
  have counts {α : Type} (next : Unit → Chat α) (turn : Turn) :
      (countMessage >>= next) turn = next () (countMessage turn).2 := rfl
  have same : (countMessage turn).2.session.mode = .dataOnly := dataOnly
  have asks := askLlm_eq (storing input.2) "chat_response" ping none (countMessage turn).2
  rw [handleMessage, counts, session_bind, same]
  dsimp only
  rw [handleDataOnly]
  change Filed _ _ (rescue (askLlm (storing input.2) "chat_response" ping none >>= _)
      (stayWithout config (storing input.2) message) _).2 ∨
    (rescue (askLlm (storing input.2) "chat_response" ping none >>= _)
      (stayWithout config (storing input.2) message) _).2.process.sessions = _ ∧
    (rescue (askLlm (storing input.2) "chat_response" ping none >>= _)
      (stayWithout config (storing input.2) message) _).2.loaded.kept = _
  cases answer : answerOf ((storing input.2).llm (countMessage turn).2.asked) with
  | error exn =>
    right
    rw [answer] at asks
    rw [rescue_of_error (bind_of_error asks _)]
    have stays : Idle (stayDataOnly config (storing input.2) message) :=
      (idle_handleDataOnlyMessage _ _).bind fun _ => (idle_look _).bind fun _ => idle_pure _
    have unmoved : ∀ after : Turn, (stayWithout config (storing input.2) message exn
        after).2.footing = after.footing := by
      intro after
      cases exn with
      | creditExhausted estimatedRecovery => exact stays _ after rfl
      | unavailable => exact stays _ after rfl
      | error => rfl
    exact ⟨congrArg Footing.sessions (unmoved _), congrArg Footing.kept (unmoved _)⟩
  | ok reply =>
    rw [answer] at asks
    generalize ready : (countMessage (modifySession (fun state => { state with mode := .full })
      { (countMessage turn).2 with
        asked := (countMessage turn).2.asked + 1
        log := (countMessage turn).2.log ++ [.asked "chat_response" ping none
          ((storing input.2).llm (countMessage turn).2.asked)] }).2).2 = before
    have goesOn : (askLlm (storing input.2) "chat_response" ping none >>= fun _ => do
        modifySession fun state => { state with mode := .full }
        countMessage
        converse config (storing input.2) user message) (countMessage turn).2 =
          converse config (storing input.2) user message before := by
      rw [bind_of_ok asks, ← ready]
      rfl
    have done := @files_converse config input.2 user before.footing message before rfl
    have sessionId : before.session.sessionId = turn.session.sessionId := by
      rw [← ready]
      rfl
    have count : before.session.messageCount = turn.session.messageCount + 1 + 1 := by
      rw [← ready]
      rfl
    have footing : before.process.sessions = turn.process.sessions ∧
        before.loaded.kept = turn.loaded.kept := by
      rw [← ready]
      exact ⟨rfl, rfl⟩
    cases outcome : converse config (storing input.2) user message before with
    | mk result after =>
      rw [outcome] at done goesOn
      cases result with
      | ok response =>
        left
        rw [rescue_of_ok goesOn, ← sessionId, ← count]
        exact done
      | error exn =>
        right
        have failed : exn = .error := (raises_converse message).raised (congrArg Prod.fst outcome)
        rw [rescue_of_error goesOn, failed]
        exact ⟨(congrArg Footing.sessions done).trans footing.1,
          (congrArg Footing.kept done).trans footing.2⟩

theorem accounted_iff (tracked : Tracked sessionId process) :
    Accounted config sessionId user process input ↔
      Steady config sessionId user process input := by
  obtain ⟨state, back, starts, fresh, named⟩ := @Tracked.begins sessionId user process input tracked
  have after := @afterMessage_eq config sessionId user process input state back starts
  generalize started :
    ({ process, loaded := { state }, log := [.loaded false] } : Turn) = turn at starts after
  have begins : turn.process = process ∧ turn.session = state ∧ turn.loaded.kept = false ∧
      sentMessages turn.log = [] ∧ turn.asked = 0 ∧ turn.called = 0 := by
    rw [← started]
    exact ⟨rfl, rfl, rfl, rfl, rfl, rfl⟩
  obtain ⟨ofProcess, ofState, unkept, silent, unasked, uncalled⟩ := begins
  have accounted : Accounted config sessionId user process input ↔
      ∃ reloaded, readBack sessionId user
          (released (handle config (storing input.2) user (.chat input.1) turn).2) = some reloaded ∧
        CountedOnce input.1 turn
          (handle config (storing input.2) user (.chat input.1) turn).2 reloaded := by
    rw [Accounted, after]
    constructor
    · exact fun all => all turn starts
    · intro holds other otherStarts
      cases starts.symm.trans otherStarts
      exact holds
  have steady : Steady config sessionId user process input ↔ turn.session.mode = .full ∧
      if IsNaming turn.session then
        input.2.llm 0 ≠ .error ∧ input.1 ≠ namingRequest input.1
      else
        config.settings.maxToolRounds ≠ 0 ∧
          roundsEnd config (storing input.2) config.settings.maxToolRounds 0 0 ≠ .raised := by
    constructor
    · exact fun all => all turn starts
    · intro holds other otherStarts
      cases starts.symm.trans otherStarts
      exact holds
  have unchanged : ∀ ended : Turn, ended.process.sessions = process.sessions →
      ended.loaded.kept = false → ∀ reloaded,
        readBack sessionId user (released ended) = some reloaded → reloaded = state := by
    intro ended sessions unkeptEnd reloaded found
    rw [readBack, sessions_released sessions unkeptEnd] at found
    exact (Option.some.inj (back.symm.trans found)).symm
  rw [accounted, steady, handle]
  cases mode : turn.session.mode with
  | dataOnly =>
    refine iff_of_false ?_ fun both => Mode.noConfusion both.1
    rintro ⟨reloaded, found, counts⟩
    have counted := counts.counted
    rcases @filed_dataOnly config user input turn mode input.1 with filed | ⟨sessions, kept⟩
    · rw [ofState, named] at filed
      obtain ⟨other, otherFound, count, -⟩ := filed.readBack
      cases otherFound.symm.trans found
      rw [ofState] at counted
      omega
    · have same := unchanged _ (sessions.trans (congrArg Process.sessions ofProcess))
        (kept.trans unkept) reloaded found
      rw [same, ofState] at counted
      omega
  | full =>
    rw [and_iff_right rfl]
    obtain ⟨same, done⟩ := @files_full config user input turn mode input.1
    have shown := @shown_converse_iff config input.2 user (countMessage turn).2 silent
      (by rw [← fresh, ← ofState]; rfl) unasked uncalled input.1
    have naming : IsNaming (countMessage turn).2.session ↔ IsNaming turn.session := Iff.rfl
    rw [same]
    simp only [naming] at shown
    rw [← shown]
    cases outcome : converse config (storing input.2) user input.1 (countMessage turn).2 with
    | mk result ended =>
      rw [outcome] at done
      cases result with
      | ok response =>
        rw [ofState, named] at done
        obtain ⟨reloaded, found, count, sameMode, forgotten⟩ := Filed.readBack done
        rw [and_iff_right ⟨response, rfl⟩]
        constructor
        · rintro ⟨other, otherFound, counts⟩
          cases found.symm.trans otherFound
          rw [← forgotten]
          exact counts.shown
        · intro once
          refine ⟨reloaded, found, ?_, ?_, sameMode⟩
          · rw [count, ofState]
          · rw [forgotten]
            exact once
      | error exn =>
        refine iff_of_false ?_ ?_
        · rintro ⟨reloaded, found, counts⟩
          have counted := counts.counted
          rw [unchanged ended ((congrArg Footing.sessions done).trans
            (congrArg Process.sessions ofProcess)) ((congrArg Footing.kept done).trans unkept)
              reloaded found, ofState] at counted
          omega
        · rintro ⟨⟨response, returned⟩, -⟩
          cases returned

theorem Tracked.after (tracked : Tracked sessionId process) :
    Tracked sessionId (afterMessage config sessionId user process input) := by
  obtain ⟨state, back, starts, -, named⟩ := @Tracked.begins sessionId user process input tracked
  rw [afterMessage_eq back starts, handle]
  have unchanged : ∀ ended : Turn, ended.process.sessions = process.sessions →
      ended.loaded.kept = false → Tracked sessionId (released ended) := by
    intro ended sessions unkept
    rw [Tracked, sessions_released sessions unkept]
    exact tracked
  cases mode : state.mode with
  | dataOnly =>
    rcases @filed_dataOnly config user input
      { process, loaded := { state }, log := [.loaded false] } mode input.1 with
        filed | ⟨sessions, kept⟩
    · exact Filed.tracked (named ▸ filed)
    · exact unchanged _ sessions kept
  | full =>
    obtain ⟨same, done⟩ := @files_full config user input
      { process, loaded := { state }, log := [.loaded false] } mode input.1
    rw [same]
    generalize converse config (storing input.2) user input.1 _ = outcome at done ⊢
    obtain ⟨result, ended⟩ := outcome
    cases result with
    | ok response => exact Filed.tracked (named ▸ done)
    | error exn =>
      exact unchanged ended (congrArg Footing.sessions done) (congrArg Footing.kept done)

/-- In every run over the messages of a session, each message is counted once, shown once and
leaves its mode, exactly when each of them comes in full mode and is answered without an internal
error. -/
theorem accounted_always_iff (config : Config) (user : UserContext)
    (tracked : Tracked sessionId process) (messages : List (String × World)) :
    Allowed (afterMessage config sessionId user) (Accounted config sessionId user) process
        messages ↔
      Allowed (afterMessage config sessionId user) (Steady config sessionId user) process
        messages := by
  apply allowed_iff _ (Tracked sessionId)
  · exact fun _ _ tracked => tracked.after
  · exact fun _ _ tracked => accounted_iff tracked
  · exact tracked

end Message

theorem accounted_always_iff_calm : Allowed (afterMessage bareConfig "s-1" playbookUser)
        (Accounted bareConfig "s-1" playbookUser) {} [("Hello.", calmWorld)] ↔
      Allowed (afterMessage bareConfig "s-1" playbookUser)
        (Steady bareConfig "s-1" playbookUser) {} [("Hello.", calmWorld)] :=
  accounted_always_iff bareConfig playbookUser (.inr ⟨rfl, rfl⟩) _

/-- A world in which the language model is not available. -/
def silentWorld : World := { calmWorld with llm := fun _ => .unavailable }

/-- The message with which the language model comes back is counted twice. -/
theorem not_accounted_recovery : ¬ Allowed (afterMessage bareConfig "s-1" playbookUser)
      (Accounted bareConfig "s-1" playbookUser) {}
        [("Hello.", silentWorld), ("Hello again.", calmWorld)] := by
  intro all
  obtain ⟨reloaded, found, counts⟩ := all.2.1 _ rfl
  have counted := counts.counted
  cases found
  exact absurd counted (by decide)

end Onpremai.Conversation
