import Onpremai.Conversation.Accounts
import Onpremai.Conversation.Transcripts
import Onpremai.Library.Transducer

/-!
# Runs of conversations

The conversation that is sent to the language model is well formed as long as no tool call goes
without an answer to it: a call without an identifier is answered under one of the handler's
own, and a call that has to be confirmed is not answered at all.
-/

namespace Onpremai.Conversation

open Onpremai.Library
open Onpremai.Assistant (UserContext)

section Condition

variable (config : Config) (world : World) (kept : Bool)

/-- The process does not keep the session object, also not over some saves. -/
def Unkept (saves : Nat) : Prop :=
  kept = false ∧ ∀ save < saves, (world.store save).acknowledged = true

/-- No call of a response that has to be confirmed stays in a session object that is kept.
Whether some call has been left without its answer is told to what comes later. -/
def BatchAnswered (later : Nat → Prop → Prop) : List ToolCall → Nat → Prop → Prop
  | [], called, unanswered => later called unanswered
  | call :: rest, called, unanswered =>
    match world.tool called with
    | .confirmationRequired summary =>
      match PendingConfirmation.validate (world.freshId (called + 1)) call.toolName summary
          (call.toolParams config.loads) with
      | some _ => Unkept world kept 2
      | none => unanswered → Unkept world kept 0
    | .success _ | .error _ =>
      BatchAnswered later rest (called + 1) (unanswered ∨ call.id = none)

/-- The language model is not asked after a call that was left without its answer, and the
session object is not kept after one. -/
def RoundsAnswered : Nat → Nat → Nat → Prop → Prop
  | 0, _, _, unanswered => unanswered → Unkept world kept 1
  | rounds + 1, asked, called, unanswered =>
    ¬ unanswered ∧
      match world.llm asked with
      | .response _ (call :: rest) =>
        BatchAnswered config world kept (RoundsAnswered rounds (asked + 1)) (call :: rest)
          called False
      | .response _ [] | .creditExhausted _ | .unavailable | .error => True

abbrev IsNaming (state : SessionState) : Prop := state.isFirstLaunch ∧ state.agentName = ""

/-- How often the language model is asked before the tool loop, where a message gets there. -/
def askedBefore (state : SessionState) : Option Nat :=
  if IsNaming state then none
  else
    match state.mode, world.llm 0 with
    | .full, _ => some 0
    | .dataOnly, .response _ _ => some 1
    | .dataOnly, .creditExhausted _ | .dataOnly, .unavailable | .dataOnly, .error => none

end Condition

/-- A request leaves no call without its answer where it is shown to the language model. -/
def Answered (config : Config) (process : Process) (request : Request × World) : Prop :=
  ∀ message loaded, request.1.action = .chat message →
    process.sessions.getOrCreate request.1.sessionId request.1.user request.2.recalled =
      some loaded →
    ∀ asked, askedBefore request.2 loaded.state = some asked →
      RoundsAnswered config request.2 loaded.kept config.settings.maxToolRounds asked 0 False

namespace Chat

open Handler

variable {config : Config} {world : World} {user : UserContext} {turn : Turn}

section Loop

variable {kept : Bool} {asked : Nat} {unanswered : Prop} {content : String}
  {toolCalls : List ToolCall} {actions : List ToolAction} {call : ToolCall} {params summary : Json}
  {next : List ToolAction → Chat ChatResponse}

/-- A turn in the tool loop, where nothing has been saved and some call may have been left
without its answer. -/
structure Underway (kept : Bool) (asked : Nat) (unanswered : Prop) (turn : Turn) : Prop extends
    Sent turn where
  history : WellFormedMessages turn.session.conversationHistory ∨ unanswered
  kept_eq : turn.loaded.kept = kept
  asked_eq : turn.asked = asked
  stored_eq : turn.stored = 0

/-- A turn that is over; where the language model has failed, the conversation is sound. -/
def Ended : Except Failure ChatResponse × Turn → Prop :=
  After (fun _ turn => Left turn) fun exn turn => Left turn ∧ (exn ≠ .error → Sound turn)

theorem ended_of_sound {outcome : Except Failure ChatResponse × Turn} (sound : Sound outcome.2) :
    Ended outcome := by
  cases outcome with
  | mk result turn =>
    cases result with
    | ok response => exact sound.left
    | error exn => exact ⟨sound.left, fun _ => sound⟩

theorem discarded_save (discarded : Discarded turn)
    (acknowledged : (world.store turn.stored).acknowledged = true) :
    Discarded (save world turn).2 := by
  refine ⟨⟨?_, ?_⟩, ?_⟩
  · apply SendsWellFormed.concat discarded.sends
    intro _ _ _ _ same
    cases same
  · change KeepsWellFormed (if (world.store turn.stored).acknowledged then
      turn.process.sessions.fallbackSessions else _)
    rw [if_pos acknowledged]
    exact discarded.others
  · change (turn.loaded.kept || !(world.store turn.stored).acknowledged) = false
    rw [discarded.unkept, acknowledged]
    rfl

theorem Underway.left (underway : Underway kept asked unanswered turn)
    (unkept : unanswered → Unkept world kept 0) : Left turn := by
  cases underway.history with
  | inl fine => exact Sound.left ⟨underway.toSent, fine⟩
  | inr missing =>
    apply Discarded.left
    exact ⟨underway.toSent, underway.kept_eq.trans (unkept missing).1⟩

theorem ended_pauseFor (underway : Underway kept asked unanswered turn)
    (answered : match PendingConfirmation.validate (world.freshId turn.called) call.toolName
        summary params with
      | some _ => Unkept world kept 2
      | none => unanswered → Unkept world kept 0) :
    Ended ((pauseFor world content toolCalls actions call params summary >>= goOn next) turn) := by
  change Ended (Handler.andThen _ _ turn)
  cases made : PendingConfirmation.validate (world.freshId turn.called) call.toolName summary
      params with
  | none =>
    rw [made] at answered
    rw [andThen, pauseFor_of_invalid made]
    exact ⟨underway.left answered, fun other => absurd rfl other⟩
  | some confirmation =>
    rw [made] at answered
    rw [andThen, pauseFor_eq, made]
    have discarded : Discarded turn := ⟨underway.toSent, underway.kept_eq.trans answered.1⟩
    have once : Discarded (setPendingConfirmation world confirmation turn).2 := by
      apply @discarded_save world
      · exact ⟨⟨discarded.sends, discarded.others⟩, discarded.unkept⟩
      · change (world.store turn.stored).acknowledged = true
        rw [underway.stored_eq]
        exact answered.2 0 (by omega)
    apply Discarded.left
    apply @discarded_save world
    · exact ⟨⟨once.sends, once.others⟩, once.unkept⟩
    · change (world.store (turn.stored + 1)).acknowledged = true
      rw [underway.stored_eq]
      exact answered.2 1 (by omega)

theorem underway_afterExecuted (underway : Underway kept asked unanswered turn) :
    Underway kept asked (unanswered ∨ call.id = none)
      (afterExecuted config world content call turn) := by
  refine ⟨⟨?_, underway.others⟩, ?_, underway.kept_eq, underway.asked_eq, underway.stored_eq⟩
  · apply SendsWellFormed.concat underway.sends
    intro _ _ _ _ same
    cases same
  · cases underway.history with
    | inr missing => exact .inr (.inl missing)
    | inl fine =>
      cases named : call.id with
      | none => exact .inr (.inr rfl)
      | some id =>
        left
        change WellFormedMessages (turn.session.conversationHistory ++
          [.assistant content [call]] ++ [.tool (call.id.getD _) none _])
        rw [WellFormedMessages, List.map_append, List.map_append, List.map_singleton,
          List.map_singleton, Message.utterance, Message.utterance, List.map_singleton, named]
        exact WellFormed.concat_exchange fine id

theorem ended_runCalls {later : Nat → Prop → Prop}
    (goesOn : ∀ actions turn unanswered, Underway kept asked unanswered turn →
      later turn.called unanswered → Ended (next actions turn))
    {calls : List ToolCall} (underway : Underway kept asked unanswered turn)
    (answered : BatchAnswered config world kept later calls turn.called unanswered) :
    Ended ((runCalls config world content toolCalls calls actions >>= goOn next) turn) := by
  induction calls generalizing turn unanswered actions with
  | nil => exact goesOn actions turn unanswered underway answered
  | cons call rest ih =>
    rw [BatchAnswered] at answered
    cases result : world.tool turn.called with
    | success data =>
      rw [result] at answered
      rw [runCalls_executed (by rw [result]; rfl)]
      exact ih (underway_afterExecuted underway) answered
    | error reason =>
      rw [result] at answered
      rw [runCalls_executed (by rw [result]; rfl)]
      exact ih (underway_afterExecuted underway) answered
    | confirmationRequired summary =>
      rw [result] at answered
      rw [runCalls_paused result]
      refine @ended_pauseFor world (afterCall config world call turn) kept asked unanswered _ _
        _ _ _ _ _ ⟨⟨?_, underway.others⟩, underway.history, underway.kept_eq,
          underway.asked_eq, underway.stored_eq⟩ answered
      apply SendsWellFormed.concat underway.sends
      intro _ _ _ _ same
      cases same

theorem keeps_finish (content : String) (actions : List ToolAction) :
    Keeps Sound (finish config world content actions) := by
  refine keeps_bind (keeps_append rfl) fun _ => ?_
  refine keeps_bind keeps_save fun _ => ?_
  refine keeps_bind keeps_advanceStep fun _ => ?_
  exact keeps_bind (keeps_look _) fun _ => keeps_pure _

theorem left_giveUp (underway : Underway kept asked unanswered turn)
    (unkept : unanswered → Unkept world kept 1) : Left (giveUp world actions turn).2 := by
  cases underway.history with
  | inl fine =>
    have keeps : Keeps Sound (giveUp world actions) := by
      refine keeps_bind (keeps_append rfl) fun _ => ?_
      exact keeps_bind keeps_save fun _ => keeps_bind (keeps_look _) fun _ => keeps_pure _
    exact (keeps turn ⟨underway.toSent, fine⟩).left
  | inr missing =>
    have unkept := unkept missing
    apply Discarded.left
    apply @discarded_save world
    · exact ⟨⟨underway.sends, underway.others⟩, underway.kept_eq.trans unkept.1⟩
    · change (world.store turn.stored).acknowledged = true
      rw [underway.stored_eq]
      exact unkept.2 0 (by omega)

theorem ended_runRounds {tools : List Fields} {rounds : Nat} {task : String}
    (underway : Underway kept asked unanswered turn)
    (answered : RoundsAnswered config world kept rounds asked turn.called unanswered) :
    Ended (runRounds config world tools rounds task actions turn) := by
  induction rounds generalizing task actions turn asked unanswered with
  | zero => exact @left_giveUp world turn kept asked unanswered actions underway answered
  | succ rounds ih =>
    have ⟨complete, rest⟩ := answered
    have fine := underway.history.resolve_right complete
    have sound := @sound_askLlm world turn task _
      (if tools.isEmpty then none else some (formatToolsForLlm tools))
      ⟨underway.toSent, fine⟩ fine
    rw [runRounds_succ]
    change Ended (Handler.andThen _ _ turn)
    rw [askLlm_eq] at sound
    rw [andThen, askLlm_eq]
    rw [← underway.asked_eq] at rest
    cases outcome : world.llm turn.asked with
    | creditExhausted estimatedRecovery =>
      rw [outcome] at sound
      exact ended_of_sound sound
    | unavailable =>
      rw [outcome] at sound
      exact ended_of_sound sound
    | error =>
      rw [outcome] at sound
      exact ended_of_sound sound
    | response content toolCalls =>
      rw [outcome] at sound rest
      cases toolCalls with
      | nil =>
        exact ended_of_sound (keeps_finish content actions _ sound)
      | cons call others =>
        refine @ended_runCalls config world _ kept (turn.asked + 1) False _ _ _ _
          (RoundsAnswered config world kept rounds (turn.asked + 1)) ?_ _ ?_ rest
        · intro actions turn unanswered underway answered
          exact ih underway answered
        · exact ⟨sound.toSent, .inl sound.history, underway.kept_eq, rfl, underway.stored_eq⟩

end Loop

section Message

variable {kept : Bool} {asked : Nat}

/-- A message on its way to the tool loop, for which no tool was called and nothing saved. -/
structure Ready (kept : Bool) (asked : Nat) (turn : Turn) : Prop extends Sound turn where
  kept_eq : turn.loaded.kept = kept
  asked_eq : turn.asked = asked
  called_eq : turn.called = 0
  stored_eq : turn.stored = 0

theorem ready_modifySession {update : SessionState → SessionState}
    (fine : ∀ state, WellFormedMessages state.conversationHistory →
      WellFormedMessages (update state).conversationHistory) :
    Keeps (Ready kept asked) (modifySession update) :=
  fun turn ready => ⟨keeps_modifySession fine turn ready.toSound, ready.kept_eq, ready.asked_eq,
    ready.called_eq, ready.stored_eq⟩

theorem ready_append {message : Message} (speaks : message.utterance = .speaks) :
    Keeps (Ready kept asked) (append message) :=
  ready_modifySession fun _ fine => fine.concat speaks

theorem Consults.ready {α : Type} {handler : Chat α} (consults : Consults handler) :
    Keeps (Ready kept asked) handler := by
  intro turn ready
  have same := consults.leaves turn turn ⟨rfl, rfl, rfl, rfl, rfl⟩
  refine ⟨consults.sound turn ready.toSound, ?_, ?_, ?_, ?_⟩
  · rw [same.loaded, ready.kept_eq]
  · rw [same.asked, ready.asked_eq]
  · rw [same.called, ready.called_eq]
  · rw [same.stored, ready.stored_eq]

theorem ready_resolveSkillContext (message : String) :
    Keeps (Ready kept asked) (resolveSkillContext config world user message) := by
  rw [resolveSkillContext]
  refine keeps_bind (consults_resumedPlaybookPrompt _).ready fun playbookPrompt => ?_
  refine keeps_bind (keeps_look _) fun state => ?_
  split
  · refine keeps_bind (ready_modifySession fun _ fine => fine) fun _ => ?_
    refine keeps_bind (consults_getSkillPrompt _ _).ready fun skillPrompt => ?_
    refine keeps_bind (consults_getSkillPlaybook _ _).ready fun playbookId => ?_
    split
    · refine keeps_bind (ready_modifySession fun _ fine => fine) fun _ => ?_
      exact keeps_bind (consults_getStepPrompt _ _ _ _).ready fun _ => keeps_pure _
    · exact keeps_pure _
  · exact keeps_bind (consults_activeSkillPrompt _).ready fun _ => keeps_pure _

theorem ready_beginConversation (skillPrompt playbookPrompt : String) :
    Keeps (Ready kept asked) (beginConversation world skillPrompt playbookPrompt) := by
  refine keeps_bind (keeps_look _) fun state => ?_
  split
  · exact ready_append rfl
  · exact keeps_pure _

theorem left_degrading {handler : Chat ChatResponse} (message : String)
    (ended : Ended (handler turn)) :
    Left (rescue handler (fun exn =>
      match exn with
      | .creditExhausted estimatedRecovery => degrade config world message estimatedRecovery
      | .unavailable => degrade config world message none
      | .error => raise .error) turn).2 := by
  rw [rescue]
  cases outcome : handler turn with
  | mk result after =>
    rw [outcome] at ended
    cases result with
    | ok response => exact ended
    | error exn =>
      cases exn with
      | creditExhausted estimatedRecovery =>
        exact (keeps_degrade message _ after (ended.2 Failure.noConfusion)).left
      | unavailable => exact (keeps_degrade message _ after (ended.2 Failure.noConfusion)).left
      | error => exact ended.1

def LeavesWell (kept : Bool) (asked : Nat) {α : Type} (handler : Chat α) : Prop :=
  ∀ turn, Ready kept asked turn → Left (handler turn).2

theorem leavesWell_bind {α β : Type} {handler : Chat α} {next : α → Chat β}
    (first : Keeps (Ready kept asked) handler)
    (second : ∀ value, LeavesWell kept asked (next value)) :
    LeavesWell kept asked (handler >>= next) := by
  intro turn ready
  have middle := first turn ready
  change Left (handler.andThen next turn).2
  rw [andThen]
  cases outcome : handler turn with
  | mk result after =>
    rw [outcome] at middle
    cases result with
    | ok value => exact second value after middle
    | error exn => exact middle.toSound.left

theorem leavesWell_respond (message skillPrompt playbookPrompt : String)
    (answered : RoundsAnswered config world kept config.settings.maxToolRounds asked 0 False) :
    LeavesWell kept asked (respond config world message skillPrompt playbookPrompt) := by
  refine leavesWell_bind (ready_beginConversation _ _) fun _ => ?_
  refine leavesWell_bind (ready_append rfl) fun _ => ?_
  intro turn ready
  apply left_degrading
  rw [← ready.called_eq] at answered
  exact ended_runRounds ⟨ready.toSent, .inl ready.history, ready.kept_eq, ready.asked_eq,
    ready.stored_eq⟩ answered

theorem left_converse {message : String} (ready : Ready kept asked turn)
    (answered : ¬ IsNaming turn.session →
      RoundsAnswered config world kept config.settings.maxToolRounds asked 0 False) :
    Left (converse config world user message turn).2 := by
  rw [converse, session_bind]
  split
  · exact (keeps_handleAgentNaming message turn ready.toSound).left
  · next other =>
    apply leavesWell_bind (ready_resolveSkillContext message) _ turn ready
    intro prompts
    exact leavesWell_respond message prompts.1 prompts.2 (answered other)

theorem keeps_left_callTool {event : ToolResult → Event}
    (quiet : ∀ result task messages tools outcome,
      event result ≠ .asked task messages tools outcome) : Keeps Left (callTool world event) := by
  intro turn left
  refine ⟨?_, left.kept⟩
  apply SendsWellFormed.concat left.sends
  intro task messages tools outcome same
  exact absurd same (quiet _ task messages tools outcome)

theorem left_handleDataOnly {message : String} (ready : Ready kept 0 turn)
    (answered : ∀ content toolCalls, world.llm 0 = .response content toolCalls →
      ¬ IsNaming turn.session →
        RoundsAnswered config world kept config.settings.maxToolRounds 1 0 False) :
    Left (handleDataOnly config world user message turn).2 := by
  have fetched (intent : KeywordIntent) : Keeps Left (callTool world (.fetched intent)) :=
    keeps_left_callTool fun _ _ _ _ _ => Event.noConfusion
  have stays : Keeps Left (stayDataOnly config world message) :=
    keeps_bind (keeps_handleDataOnlyMessage fetched message none) fun _ =>
      keeps_bind (keeps_look _) fun _ => keeps_pure _
  rw [handleDataOnly]
  apply keeps_rescue_at
  · have sound := @sound_askLlm world turn "chat_response" [.user "ping"] none ready.toSound
      (.speaks .nil)
    change Left (Handler.andThen _ _ turn).2
    rw [andThen, askLlm_eq]
    rw [askLlm_eq] at sound
    cases outcome : world.llm turn.asked with
    | creditExhausted estimatedRecovery =>
      rw [outcome] at sound
      exact sound.left
    | unavailable =>
      rw [outcome] at sound
      exact sound.left
    | error =>
      rw [outcome] at sound
      exact sound.left
    | response content toolCalls =>
      rw [outcome] at sound
      rw [ready.asked_eq] at outcome
      refine @left_converse config world user _ kept 1 message
        ⟨⟨⟨sound.sends, sound.others⟩, sound.history⟩, ready.kept_eq, ?_, ready.called_eq,
          ready.stored_eq⟩ (answered content toolCalls outcome)
      change turn.asked + 1 = 1
      rw [ready.asked_eq]
  · intro exn
    cases exn with
    | creditExhausted estimatedRecovery => exact stays
    | unavailable => exact stays
    | error => exact keeps_raise _

theorem left_handleMessage {message : String} (ready : Ready kept 0 turn)
    (answered : ∀ asked, askedBefore world turn.session = some asked →
      RoundsAnswered config world kept config.settings.maxToolRounds asked 0 False) :
    Left (handleMessage config world user message turn).2 := by
  have counts : Keeps (Ready kept 0) countMessage := ready_modifySession fun _ fine => fine
  have counted := counts turn ready
  have goesOn {α : Type} (next : Unit → Chat α) :
      (countMessage >>= next) turn = next () (countMessage turn).2 := rfl
  rw [handleMessage, goesOn, session_bind]
  have same : (countMessage turn).2.session.mode = turn.session.mode := rfl
  cases mode : turn.session.mode with
  | full =>
    rw [same, mode]
    apply left_converse counted
    intro other
    have other : ¬ IsNaming turn.session := other
    apply answered 0
    rw [askedBefore, if_neg other, mode]
  | dataOnly =>
    rw [same, mode]
    apply left_handleDataOnly counted
    intro content toolCalls outcome other
    have other : ¬ IsNaming turn.session := other
    apply answered 1
    rw [askedBefore, if_neg other, mode, outcome]

end Message

/-- A request that leaves no call without its answer leaves well-formed conversations. -/
theorem left_handle {action : Action} (ready : Ready turn.loaded.kept 0 turn)
    (answered : ∀ message, action = .chat message →
      ∀ asked, askedBefore world turn.session = some asked →
        RoundsAnswered config world turn.loaded.kept config.settings.maxToolRounds asked 0
          False) :
    Left (handle config world user action turn).2 := by
  cases action with
  | init => exact (keeps_handleInit turn ready.toSound).left
  | chat message => exact left_handleMessage ready (answered message rfl)
  | confirm confirmationId => exact (keeps_handleConfirm confirmationId turn ready.toSound).left
  | cancel confirmationId => exact (keeps_handleCancel confirmationId turn ready.toSound).left

end Chat

open Chat

theorem history_getOrCreate {sessions : SessionManager} {sessionId : String} {user : UserContext}
    {recalled : Recall} {loaded : Loaded} (kept : KeepsWellFormed sessions.fallbackSessions)
    (loads : sessions.getOrCreate sessionId user recalled = some loaded) :
    WellFormedMessages loaded.state.conversationHistory := by
  rw [SessionManager.getOrCreate] at loads
  split at loads
  · rw [Option.map_eq_some_iff] at loads
    obtain ⟨state, parsed, same⟩ := loads
    rw [← same, history_parseState parsed]
    exact .nil
  · split at loads
    · next found =>
      cases loads
      exact kept _ _ found
    · cases loads
      exact .nil

theorem serve_wellFormed {config : Config} {process : Process} {request : Request × World}
    (answered : Answered config process request)
    (kept : KeepsWellFormed process.sessions.fallbackSessions) :
    KeepsWellFormed (next (react config) process request).sessions.fallbackSessions ∧
      SendsWellFormed (react config process request).2.2 := by
  rw [next, react, serve]
  split
  · exact ⟨kept, fun _ _ _ _ none => absurd none List.not_mem_nil⟩
  · next loaded loads =>
    have sends : SendsWellFormed [.loaded loaded.kept] := by
      intro _ _ _ _ member
      cases List.mem_singleton.mp member
    let turn : Turn := { process, loaded, log := [.loaded loaded.kept] }
    have ready : Ready turn.loaded.kept 0 turn :=
      ⟨⟨⟨sends, kept⟩, history_getOrCreate kept loads⟩, rfl, rfl, rfl, rfl⟩
    have left := @left_handle config request.2 request.1.user turn request.1.action ready
      fun message chat => answered message loaded chat loads
    exact ⟨left.kept, left.sends⟩

/-- In a run whose requests leave no call without its answer where it is shown to the language
model, every conversation that is sent is well formed. -/
theorem transcripts_wellFormed (config : Config) (memory : Dict String (List StoredMessage))
    (requests : List (Request × World))
    (answered : Allowed (next (react config)) (Answered config) (started memory) requests) :
    ∀ answer ∈ answers (react config) (started memory) requests, SendsWellFormed answer.2 := by
  apply answers_allowed (react config) (fun process =>
    KeepsWellFormed process.sessions.fallbackSessions) (fun answer => SendsWellFormed answer.2)
  · intro process request answered kept
    exact serve_wellFormed answered kept
  · exact answered
  · intro sessionId state found
    cases found

/-- A world in which the language model makes a call first, and then answers. -/
def checkingWorld (id : Option String) : World :=
  { calmWorld with
    llm := fun asked =>
      if asked = 0 then .response "Checking." [{ id, name := some "evidence.check_coverage" }]
      else .response "Done." [] }

def question : Request where
  sessionId := "s-1"
  user := { userId := "ann", tenantId := "acme", role := "admin" }
  action := .chat "Are we covered?"

theorem transcripts_wellFormed_question : SendsWellFormed
      (react bareConfig (started .empty) (question, checkingWorld (some "call-1"))).2.2 := by
  apply transcripts_wellFormed bareConfig .empty [(question, checkingWorld (some "call-1"))] _ _
    (List.mem_singleton_self _)
  refine ⟨?_, trivial⟩
  intro message loaded _ loads asked before
  cases loads
  cases before
  exact ⟨id, fun missing => missing.elim id (Option.some_ne_none _), trivial⟩

/-- The call without an identifier is answered under another one. -/
theorem unnamed_call_misanswered :
    ¬ (∀ (config : Config) (memory : Dict String (List StoredMessage))
        (requests : List (Request × World)),
        ∀ answer ∈ answers (react config) (started memory) requests,
          SendsWellFormed answer.2) := by
  intro claimed
  have sends := claimed bareConfig .empty [(question, checkingWorld none)] _
    (List.mem_singleton_self _)
  have malformed := sends "skill_execution" _ _ _ (@List.mem_of_getElem? _ _ 3 _ rfl)
  have call := WellFormed.of_speaks_cons (WellFormed.of_speaks_cons malformed)
  exact WellFormed.identified call (List.mem_singleton_self _)

end Onpremai.Conversation
