import Onpremai.Conversation.Forgetful
import Onpremai.Conversation.PromptRuns
import Onpremai.Conversation.RoundTrip

/-!
# What a turn leaves in the session store

Every way out of a turn saves the session, or has changed nothing of it, with two exceptions:
the text that ends the tool loop is saved before the playbook's step is advanced, and an
internal error leaves what was changed before it.
-/

namespace Onpremai.Conversation

open Onpremai.Library
open Onpremai.Assistant (UserContext agentNameOf)

/-- The world around a request with a session store that works. -/
def storing (world : World) : World := { world with recalled := .oldest, store := fun _ => {} }

def Playbook.Stays (playbook : Playbook) (step : Int) : Prop :=
  ∃ current, playbook.stepAt step = some current ∧ current.loopTo = some step ∧ step ≠ 0

theorem core_nextStep_iff {playbook : Playbook} {state : SessionState} {playbookId : String}
    (active : state.activePlaybook = some playbookId) :
    (nextStep playbook state).core = state.core ↔ playbook.Stays state.playbookStep := by
  have completes : (completePlaybook state).core ≠ state.core := by
    intro same
    have none : none = state.activePlaybook := congrArg SessionState.activePlaybook same
    rw [active] at none
    cases none
  rw [nextStep, Playbook.Stays]
  cases found : playbook.stepAt state.playbookStep with
  | none =>
    apply iff_of_false completes
    intro stays
    obtain ⟨current, same, -⟩ := stays
    cases same
  | some current =>
    dsimp only
    cases loops : current.loopTo.filter fun step => decide (step ≠ 0) with
    | some step =>
      obtain ⟨target, other⟩ := Option.filter_eq_some_iff.mp loops
      dsimp only
      constructor
      · intro same
        have here : step = state.playbookStep := congrArg SessionState.playbookStep same
        rw [here] at target other
        exact ⟨current, rfl, target, of_decide_eq_true other⟩
      · intro stays
        obtain ⟨same, isCurrent, here, -⟩ := stays
        cases isCurrent
        cases target.symm.trans here
        rfl
    | none =>
      apply iff_of_false
      · dsimp only
        split
        · exact completes
        · intro same
          have step : state.playbookStep + 1 = state.playbookStep :=
            congrArg SessionState.playbookStep same
          omega
      · intro stays
        obtain ⟨same, isCurrent, here, other⟩ := stays
        cases isCurrent
        rw [here, Option.filter_some, if_pos (decide_eq_true other)] at loops
        cases loops

/-- How the tool loop ends: with a text of the language model, after another save, with an
error, or with a failure that is answered without the language model. -/
inductive LoopEnd where
  | answered
  | saved
  | raised
  | failed
  deriving DecidableEq

section Ends

variable (config : Config) (world : World)

def batchEnd (later : Nat → LoopEnd) : List ToolCall → Nat → LoopEnd
  | [], called => later called
  | call :: rest, called =>
    match world.tool called with
    | .confirmationRequired summary =>
      match PendingConfirmation.validate (world.freshId (called + 1)) call.toolName summary
          (call.toolParams config.loads) with
      | some _ => .saved
      | none => .raised
    | .success _ | .error _ => batchEnd later rest (called + 1)

def roundsEnd : Nat → Nat → Nat → LoopEnd
  | 0, _, _ => .saved
  | rounds + 1, asked, called =>
    match world.llm asked with
    | .response _ [] => .answered
    | .response _ (call :: rest) =>
      batchEnd config world (roundsEnd rounds (asked + 1)) (call :: rest) called
    | .creditExhausted _ | .unavailable => .failed
    | .error => .raised

end Ends

namespace Chat

open Handler

def Persisted (turn : Turn) (core : SessionState) : Prop :=
  ∃ saved : SessionState, turn.process.sessions.memory.get? turn.session.sessionId =
    some saved.messagesToStore ∧ saved.core = core

/-- The memory service has the session as it is, but for the conversation. -/
def Synced (turn : Turn) : Prop := Persisted turn turn.session.core

theorem core_of_messagesToStore {first second : SessionState}
    (same : first.messagesToStore = second.messagesToStore) : first.core = second.core := by
  have metadata : first.metadata = second.metadata := StoredMessage.state.inj (List.cons.inj same).1
  have sessionId : first.sessionId = second.sessionId :=
    Codec.str.encode_injective (congrArg Prod.snd (List.cons.inj metadata).1)
  have parsed := parseState_metadata first first.sessionId
  rw [metadata, parseState_metadata second] at parsed
  have fields : { second.core with sessionId := first.sessionId } = first.core :=
    congrArg SessionState.core (Option.some.inj parsed)
  rw [← fields, sessionId]
  rfl

theorem synced_iff {turn : Turn} {core : SessionState} (persisted : Persisted turn core) :
    Synced turn ↔ core = turn.session.core := by
  obtain ⟨saved, stored, same⟩ := persisted
  constructor
  · intro synced
    obtain ⟨other, found, agrees⟩ := synced
    rw [stored] at found
    rw [← same, ← agrees, core_of_messagesToStore (Option.some.inj found)]
  · intro agrees
    exact ⟨saved, stored, same.trans agrees⟩

/-- A turn goes on from another one without having changed its process or its session, but for
the conversation. -/
structure Still (before turn : Turn) : Prop where
  process : turn.process = before.process
  core : turn.session.core = before.session.core

theorem Still.refl (turn : Turn) : Still turn turn := ⟨rfl, rfl⟩

section

variable {before turn : Turn}

theorem Still.sessionId (still : Still before turn) :
    turn.session.sessionId = before.session.sessionId :=
  read_of_core SessionState.sessionId (fun _ => rfl) still.core

theorem Still.persisted (still : Still before turn) {core : SessionState}
    (persisted : Persisted before core) : Persisted turn core := by
  rw [Persisted, still.process, still.sessionId]
  exact persisted

theorem Still.synced (still : Still before turn) (synced : Synced before) : Synced turn := by
  rw [Synced, still.core]
  exact still.persisted synced

theorem Still.paired (still : Still before turn) :
    Paired False turn before where
  core := still.core
  skills := congrArg Process.skills still.process
  playbooks := congrArg Process.playbooks still.process
  counters := False.elim

end

section Saving

variable {config : Config} {world : World} {before turn : Turn} {α : Type}

theorem synced_save (turn : Turn) : Synced (save (storing world) turn).2 :=
  ⟨turn.session, (Dict.get?_set _ _ _ _).trans (if_pos rfl), rfl⟩

theorem synced_save_bind {next : Unit → Chat α} (rests : ∀ value, Keeps Synced (next value))
    (turn : Turn) : Synced ((save (storing world) >>= next) turn).2 :=
  keeps_bind_at (synced_save turn) rests

/-- Code that goes on from a turn as it is. -/
theorem still_append (message : Message) : Keeps (Still before) (append message) :=
  fun _ still => ⟨still.process, still.core⟩

theorem still_countMessage : Keeps (Still before) countMessage :=
  fun _ still => ⟨still.process, still.core⟩

theorem still_askLlm (task : String) (messages : List Message) (tools : Option (List Json)) :
    Keeps (Still before) (askLlm world task messages tools) := by
  intro turn still
  rw [askLlm_eq]
  exact ⟨still.process, still.core⟩

theorem still_callTool (event : ToolResult → Event) :
    Keeps (Still before) (callTool world event) := fun _ still => ⟨still.process, still.core⟩

theorem still_handleDataOnlyMessage (message : String) (estimatedRecovery : Option String) :
    Keeps (Still before) (handleDataOnlyMessage config world message estimatedRecovery) := by
  rw [handleDataOnlyMessage]
  cases config.matchKeywordIntent message with
  | none => exact keeps_pure _
  | some intent =>
    refine keeps_bind (still_callTool _) fun result => ?_
    cases result with
    | success data => exact keeps_pure _
    | error reason => exact keeps_pure _
    | confirmationRequired summary => exact keeps_pure _

theorem keeps_synced {handler : Chat α} (still : ∀ before, Keeps (Still before) handler) :
    Keeps Synced handler := fun turn synced => (still turn turn (.refl turn)).synced synced

theorem synced_degrade (message : String) (estimatedRecovery : Option String) (turn : Turn) :
    Synced (degrade config (storing world) message estimatedRecovery turn).2 := by
  rw [degrade, modifySession_bind]
  apply synced_save_bind
  intro _
  exact keeps_bind (keeps_synced fun _ => still_handleDataOnlyMessage _ _) fun _ =>
    keeps_bind (keeps_look _) fun _ => keeps_pure _

theorem synced_acknowledgeName (content : String) (turn : Turn) :
    Synced (acknowledgeName (storing world) content turn).2 := by
  rw [acknowledgeName, modifySession_bind, append, modifySession_bind]
  exact synced_save_bind (fun _ => keeps_bind (keeps_look _) fun _ => keeps_pure _) _

theorem synced_giveUp (actions : List ToolAction) (turn : Turn) :
    Synced (giveUp (storing world) actions turn).2 := by
  rw [giveUp, append, modifySession_bind]
  exact synced_save_bind (fun _ => keeps_bind (keeps_look _) fun _ => keeps_pure _) _

end Saving

section Loop

variable {config : Config} {world : World} {before turn : Turn} {content : String}
  {toolCalls : List ToolCall} {actions : List ToolAction}

def EndsAs (config : Config) (world : World) (before : Turn)
    (outcome : Except Failure ChatResponse × Turn) : LoopEnd → Prop
  | .answered => (∃ response, outcome.1 = .ok response) ∧ ∃ middle, Paired False middle before ∧
      Synced middle ∧ outcome.2 = (advanceStep config (storing world) middle).2
  | .saved => (∃ response, outcome.1 = .ok response) ∧ Synced outcome.2
  | .raised => outcome.1 = .error .error ∧ Still before outcome.2
  | .failed => ∃ exn, outcome.1 = .error exn ∧ exn ≠ .error

theorem advanceStep_ran (turn : Turn) :
    advanceStep config world turn = (.ok ⟨⟩, (advanceStep config world turn).2) := by
  rw [advanceStep, session_bind]
  cases turn.session.activePlaybook.filter fun id => decide (id ≠ "") with
  | none => rfl
  | some playbookId =>
    dsimp only
    obtain ⟨found, after, ran, -⟩ :=
      (@consults_loadPlaybook config world playbookId turn.session.tenantId).ran turn
    rw [bind_of_ok ran]
    cases found with
    | none => rfl
    | some playbook => rfl

theorem endsAs_finish (still : Still before turn) :
    EndsAs config world before (finish config (storing world) content actions turn)
      .answered := by
  have added := still_append (.assistant content) turn still
  have saved : save (storing world) (append (.assistant content) turn).2 =
      (.ok ⟨⟩, (save (storing world) (append (.assistant content) turn).2).2) := rfl
  have ran : finish config (storing world) content actions turn =
      (advanceStep config (storing world) >>= fun _ => session >>= fun state =>
        pure { message := content, sessionId := state.sessionId, actions })
        (save (storing world) (append (.assistant content) turn).2).2 := by
    rw [finish, append, modifySession_bind]
    exact bind_of_ok saved _
  rw [ran, bind_of_ok (advanceStep_ran _)]
  exact ⟨⟨_, rfl⟩, (save (storing world) (append (.assistant content) turn).2).2,
    { added.paired with }, synced_save _, rfl⟩

theorem endsAs_giveUp (actions : List ToolAction) (turn : Turn) :
    EndsAs config world before (giveUp (storing world) actions turn) .saved :=
  ⟨⟨_, rfl⟩, synced_giveUp actions turn⟩

theorem endsAs_pauseFor (still : Still before turn) (call : ToolCall) (params summary : Json)
    (next : List ToolAction → Chat ChatResponse) :
    EndsAs config world before
      ((pauseFor (storing world) content toolCalls actions call params summary >>= goOn next) turn)
      (match PendingConfirmation.validate ((storing world).freshId turn.called) call.toolName
          summary params with
        | some _ => .saved
        | none => .raised) := by
  cases made : PendingConfirmation.validate ((storing world).freshId turn.called) call.toolName
      summary params with
  | none =>
    have unmade : pauseFor (storing world) content toolCalls actions call params summary turn =
      (.error .error, turn) := pauseFor_of_invalid made
    rw [bind_of_error unmade]
    exact ⟨rfl, still⟩
  | some confirmation =>
    change EndsAs config world before (Handler.andThen _ _ turn) .saved
    rw [andThen, pauseFor_eq, made]
    exact ⟨⟨_, rfl⟩, synced_save (append (.assistant content toolCalls)
      (setPendingConfirmation (storing world) confirmation turn).2).2⟩

theorem endsAs_runCalls {next : List ToolAction → Chat ChatResponse} {later : Nat → LoopEnd}
    {asked : Nat}
    (goesOn : ∀ actions turn, Still before turn → turn.asked = asked →
      EndsAs config world before (next actions turn) (later turn.called))
    {calls : List ToolCall} (still : Still before turn) (same : turn.asked = asked) :
    EndsAs config world before
      ((runCalls config (storing world) content toolCalls calls actions >>= goOn next) turn)
      (batchEnd config (storing world) later calls turn.called) := by
  induction calls generalizing turn actions with
  | nil => exact goesOn actions turn still same
  | cons call rest ih =>
    rw [batchEnd]
    cases result : (storing world).tool turn.called with
    | success data =>
      rw [runCalls_executed (congrArg ToolResult.isConfirmation result)]
      exact ih ⟨still.process, still.core⟩ same
    | error reason =>
      rw [runCalls_executed (congrArg ToolResult.isConfirmation result)]
      exact ih ⟨still.process, still.core⟩ same
    | confirmationRequired summary =>
      rw [runCalls_paused result]
      have called : Still before (afterCall config (storing world) call turn) :=
        ⟨still.process, still.core⟩
      exact endsAs_pauseFor called call _ summary next

theorem endsAs_runRounds {tools : List Fields} {rounds : Nat} {task : String}
    (still : Still before turn) :
    EndsAs config world before (runRounds config (storing world) tools rounds task actions turn)
      (roundsEnd config (storing world) rounds turn.asked turn.called) := by
  induction rounds generalizing task actions turn with
  | zero => exact endsAs_giveUp actions turn
  | succ rounds ih =>
    have asks := askLlm_eq (storing world) task turn.session.conversationHistory
      (if tools.isEmpty then none else some (formatToolsForLlm tools)) turn
    rw [runRounds_succ, roundsEnd]
    cases outcome : (storing world).llm turn.asked with
    | creditExhausted estimatedRecovery =>
      rw [outcome] at asks
      rw [bind_of_error asks]
      exact ⟨_, rfl, Failure.noConfusion⟩
    | unavailable =>
      rw [outcome] at asks
      rw [bind_of_error asks]
      exact ⟨_, rfl, Failure.noConfusion⟩
    | error =>
      rw [outcome] at asks
      rw [bind_of_error asks]
      exact ⟨rfl, still.process, still.core⟩
    | response content toolCalls =>
      rw [outcome] at asks
      rw [bind_of_ok asks]
      cases toolCalls with
      | nil => exact endsAs_finish ⟨still.process, still.core⟩
      | cons call others =>
        refine @endsAs_runCalls config world before _ content _ actions _
          (roundsEnd config (storing world) rounds (turn.asked + 1)) (turn.asked + 1) ?_ _
          ⟨still.process, still.core⟩ rfl
        intro actions after unchanged counted
        rw [← counted]
        exact ih unchanged

end Loop

section Message

variable (config : Config) (world : World) (user : UserContext)

def StandsStill (turn : Turn) : Prop :=
  ∀ playbookId, turn.session.activePlaybook.filter (fun id => decide (id ≠ "")) = some playbookId →
      ∀ playbook, (loadPlaybook config world playbookId turn.session.tenantId turn).1 =
        .ok (some playbook) → playbook.Stays turn.session.playbookStep

/-- What is needed for a tool loop that ends so to leave in the memory service what the session
becomes, where the memory service has the fields of an earlier state. -/
def LeavesLoop (earlier : SessionState) (prepared : Turn) : LoopEnd → Prop
  | .answered => StandsStill config world prepared
  | .raised => earlier = prepared.session.core
  | .saved | .failed => True

/-- The same of a message whose prompts have been resolved. -/
def LeavesMessage (earlier : SessionState) (prepared : Turn) : Prop :=
  if IsNaming prepared.session then world.llm prepared.asked ≠ .error
  else LeavesLoop config world earlier prepared
    (roundsEnd config world config.settings.maxToolRounds prepared.asked prepared.called)

/-- What is needed for a turn to leave in the memory service what the session becomes: the
language model does not fail after the session has been changed, and a text that ends the tool
loop finds no step of a playbook to advance. -/
def LeavesAll (turn : Turn) : Action → Prop
  | .init => ∀ prompts prepared,
      turnPrompts config world user .init turn = (.ok prompts, prepared) →
        world.llm prepared.asked = .error → turn.session.core = prepared.session.core
  | .chat message => ∀ prompts prepared,
      turnPrompts config world user (.chat message) turn = (.ok prompts, prepared) →
        LeavesMessage config world turn.session.core prepared
  | .confirm _ | .cancel _ => True

variable {config world user} {turn : Turn}

theorem core_advanceStep_iff : (advanceStep config world turn).2.session.core = turn.session.core ↔
      StandsStill config world turn := by
  rw [StandsStill, advanceStep, session_bind]
  cases active : turn.session.activePlaybook.filter fun id => decide (id ≠ "") with
  | none =>
    apply iff_of_true rfl
    intro playbookId other
    cases other
  | some playbookId =>
    dsimp only
    obtain ⟨found, after, ran, left⟩ :=
      (@consults_loadPlaybook config world playbookId turn.session.tenantId).ran turn
    have same : after.session = turn.session := congrArg Loaded.state left.loaded
    rw [bind_of_ok ran]
    cases found with
    | none =>
      apply iff_of_true
      · exact congrArg SessionState.core same
      · intro other isOther playbook loaded
        cases isOther
        rw [ran] at loaded
        cases loaded
    | some playbook =>
      have isActive := (Option.filter_eq_some_iff.mp active).1
      change (nextStep playbook after.session).core = _ ↔ _
      rw [same, core_nextStep_iff isActive]
      constructor
      · intro stays other isOther playbook loaded
        cases isOther
        rw [ran] at loaded
        cases loaded
        exact stays
      · intro stays
        exact stays playbookId rfl playbook (by rw [ran])

end Message

section Turns

variable {config : Config} {world : World} {user : UserContext} {earlier : SessionState}
  {before turn : Turn} {α : Type}

theorem persisted_consults {handler : Chat α} (consults : Consults handler) :
    Keeps (Persisted · earlier) handler := by
  intro turn persisted
  have left := consults.leaves turn turn ⟨rfl, rfl, rfl, rfl, rfl⟩
  rw [Persisted, left.sessions, Turn.session, left.loaded]
  exact persisted

theorem persisted_modifySession {update : SessionState → SessionState}
    (same : ∀ state, (update state).sessionId = state.sessionId) :
    Keeps (Persisted · earlier) (modifySession update) := by
  intro turn persisted
  change ∃ saved : SessionState, turn.process.sessions.memory.get?
    (update turn.session).sessionId = _ ∧ _
  rw [same]
  exact persisted

theorem persisted_advanceStep : Keeps (Persisted · earlier) (advanceStep config world) := by
  rw [advanceStep]
  refine keeps_bind (keeps_look _) fun state => ?_
  cases state.activePlaybook.filter fun id => decide (id ≠ "") with
  | none => exact keeps_pure _
  | some playbookId =>
    refine keeps_bind (persisted_consults (consults_loadPlaybook _ _)) fun found => ?_
    cases found with
    | none => exact keeps_pure _
    | some playbook =>
      exact persisted_modifySession fun state => (sameOwner_nextStep playbook state).sessionId

theorem persisted_resolveSkillContext (message : String) :
    Keeps (Persisted · earlier) (resolveSkillContext config world user message) := by
  refine keeps_resolveSkillContext persisted_consults (fun update resolves => ?_) message
  apply persisted_modifySession
  intro state
  obtain ⟨_, _, _, _, changed⟩ := resolves state
  rw [changed]

theorem named_resolveSkillContext (message : String) (state : SessionState) :
    Keeps (fun turn : Turn => turn.session.isFirstLaunch = state.isFirstLaunch ∧
      turn.session.agentName = state.agentName)
        (resolveSkillContext config world user message) := by
  refine keeps_resolveSkillContext (fun consults => consults.keepsLoaded fun loaded =>
    loaded.state.isFirstLaunch = state.isFirstLaunch ∧ loaded.state.agentName = state.agentName)
      (fun update resolves => ?_) message
  intro turn same
  obtain ⟨_, _, _, _, changed⟩ := resolves turn.session
  exact ⟨(congrArg SessionState.isFirstLaunch changed).trans same.1,
    (congrArg SessionState.agentName changed).trans same.2⟩

theorem synced_endsAs_iff {outcome : Except Failure ChatResponse × Turn} {ending : LoopEnd}
    (persisted : Persisted before earlier) (unfailed : ending ≠ .failed)
    (ends : EndsAs config world before outcome ending) :
    Synced outcome.2 ↔ LeavesLoop config (storing world) earlier before ending := by
  cases ending with
  | answered =>
    obtain ⟨-, middle, paired, synced, same⟩ := ends
    have stays := @persisted_advanceStep config (storing world) _ middle synced
    have alike := (@twins_advanceStep config (storing world) _ middle before paired).2.core
    rw [same, synced_iff stays, alike, paired.core, eq_comm]
    exact core_advanceStep_iff
  | saved => exact iff_of_true ends.2 trivial
  | raised =>
    obtain ⟨-, still⟩ := ends
    rw [synced_iff (still.persisted persisted), still.core]
    exact Iff.rfl
  | failed => exact absurd rfl unfailed

end Turns

section Raising

variable {config : Config} {world : World} {user : UserContext} {allowed : Failure → Prop}
  {α β : Type}

def Raises (allowed : Failure → Prop) (handler : Chat α) : Prop :=
  Ensures (fun _ => True) handler (fun _ _ => True) fun exn _ => allowed exn

theorem raises_pure (value : α) : Raises allowed (pure value : Chat α) :=
  ensures_pure fun _ _ => trivial

theorem raises_session : Raises allowed session := ensures_look fun _ _ => trivial

theorem raises_modifySession (update : SessionState → SessionState) :
    Raises allowed (modifySession update) := fun _ _ => trivial

theorem raises_save : Raises allowed (save world) := fun _ _ => trivial

theorem Raises.bind {handler : Chat α} {next : α → Chat β} (first : Raises allowed handler)
    (second : ∀ value, Raises allowed (next value)) : Raises allowed (handler >>= next) :=
  ensures_bind first second

theorem raises_rescue {handler : Chat α} {recover : Failure → Chat α}
    (second : ∀ exn, Raises allowed (recover exn)) : Raises allowed (handler.rescue recover) := by
  have first : Ensures (fun _ => True) handler (fun _ _ => True) (fun _ _ => True) := by
    intro turn _
    cases handler turn with
    | mk result after =>
      cases result with
      | ok value => trivial
      | error exn => trivial
  exact ensures_rescue first second

theorem Consults.raises {handler : Chat α} (consults : Consults handler) :
    Raises allowed handler := by
  intro turn _
  obtain ⟨value, after, ran, -⟩ := consults.ran turn
  rw [ran]
  trivial

section

variable (message : String) (estimatedRecovery : Option String)

theorem raises_handleDataOnlyMessage :
    Raises allowed (handleDataOnlyMessage config world message estimatedRecovery) := by
  rw [handleDataOnlyMessage]
  cases config.matchKeywordIntent message with
  | none => exact raises_pure _
  | some intent =>
    refine Raises.bind (fun _ _ => trivial) fun result => ?_
    cases result with
    | success data => exact raises_pure _
    | error reason => exact raises_pure _
    | confirmationRequired summary => exact raises_pure _

theorem raises_degrade : Raises allowed (degrade config world message estimatedRecovery) :=
  (raises_modifySession _).bind fun _ => raises_save.bind fun _ =>
    (raises_handleDataOnlyMessage _ _).bind fun _ => raises_session.bind fun _ => raises_pure _

end

theorem raises_resolveSkillContext (message : String) :
    Raises allowed (resolveSkillContext config world user message) := by
  rw [resolveSkillContext]
  refine (consults_resumedPlaybookPrompt _).raises.bind fun playbookPrompt => ?_
  refine raises_session.bind fun state => ?_
  split
  · refine (raises_modifySession _).bind fun _ => ?_
    refine (consults_getSkillPrompt _ _).raises.bind fun skillPrompt => ?_
    refine (consults_getSkillPlaybook _ _).raises.bind fun playbookId => ?_
    split
    · refine (raises_modifySession _).bind fun _ => ?_
      exact (consults_getStepPrompt _ _ _ _).raises.bind fun _ => raises_pure _
    · exact raises_pure _
  · exact (consults_activeSkillPrompt _).raises.bind fun _ => raises_pure _

theorem raises_respond (message skillPrompt playbookPrompt : String) :
    Raises (· = .error) (respond config world message skillPrompt playbookPrompt) := by
  have begins : Raises (· = .error) (beginConversation world skillPrompt playbookPrompt) := by
    intro turn _
    obtain ⟨history, begun⟩ := @beginConversation_core world skillPrompt playbookPrompt turn
    rw [begun]
    trivial
  refine begins.bind fun _ => (raises_modifySession _).bind fun _ => raises_rescue fun exn => ?_
  cases exn with
  | creditExhausted estimatedRecovery => exact raises_degrade _ _
  | unavailable => exact raises_degrade _ _
  | error => exact fun _ _ => rfl

theorem raises_acknowledgeName (content : String) :
    Raises allowed (acknowledgeName world content) :=
  (raises_modifySession _).bind fun _ => (raises_modifySession _).bind fun _ =>
    raises_save.bind fun _ => raises_session.bind fun _ => raises_pure _

theorem raises_converse (message : String) :
    Raises (· = .error) (converse config world user message) := by
  rw [converse]
  refine raises_session.bind fun state => ?_
  split
  · refine (raises_modifySession _).bind fun _ => (raises_modifySession _).bind fun _ =>
      (raises_modifySession _).bind fun _ => raises_rescue fun exn => ?_
    cases exn with
    | creditExhausted estimatedRecovery => exact raises_acknowledgeName _
    | unavailable => exact raises_acknowledgeName _
    | error => exact fun _ _ => rfl
  · exact (raises_resolveSkillContext message).bind fun _ => raises_respond _ _ _

theorem Raises.raised {handler : Chat α} (raises : Raises allowed handler) {turn : Turn}
    {exn : Failure} (raised : (handler turn).1 = .error exn) : allowed exn := by
  have done := raises turn trivial
  cases outcome : handler turn with
  | mk result after =>
    rw [outcome] at raised done
    dsimp only at raised
    rw [raised] at done
    exact done

theorem rescue_of_raised {handler : Chat α} {recover : Failure → Chat α} {turn : Turn}
    (raised : ∀ exn, (handler turn).1 = .error exn → exn = .error)
    (again : recover .error = raise .error) : handler.rescue recover turn = handler turn := by
  rw [rescue]
  cases outcome : handler turn with
  | mk result after =>
    rw [outcome] at raised
    cases result with
    | ok value => rfl
    | error exn =>
      dsimp only
      rw [raised exn rfl, again]
      rfl

end Raising

section Turns

variable {config : Config} {world : World} {user : UserContext} {earlier : SessionState}
  {turn : Turn}

theorem respond_still (message skillPrompt playbookPrompt : String) :
    ∃ after, Still turn after ∧ after.asked = turn.asked ∧ after.called = turn.called ∧
      respond config world message skillPrompt playbookPrompt turn =
        (runLoop config world).rescue (goOnWithout config world message) after := by
  obtain ⟨history, begun⟩ := @beginConversation_core world skillPrompt playbookPrompt turn
  rw [respond, bind_of_ok begun, append, modifySession_bind]
  refine ⟨_, ?_, ?_, ?_, rfl⟩
  · exact ⟨rfl, rfl⟩
  · rfl
  · rfl

theorem synced_respond_iff (persisted : Persisted turn earlier)
    (message skillPrompt playbookPrompt : String) :
    Synced (respond config (storing world) message skillPrompt playbookPrompt turn).2 ↔
      LeavesLoop config (storing world) earlier turn
        (roundsEnd config (storing world) config.settings.maxToolRounds turn.asked
          turn.called) := by
  obtain ⟨after, still, asked, called, same⟩ := @respond_still config (storing world) turn message
    skillPrompt playbookPrompt
  have ends : EndsAs config world turn (runLoop config (storing world) after)
      (roundsEnd config (storing world) config.settings.maxToolRounds after.asked after.called) :=
    endsAs_runRounds still
  rw [same]
  rw [asked, called] at ends
  cases ending : roundsEnd config (storing world) config.settings.maxToolRounds turn.asked
      turn.called with
  | failed =>
    rw [ending] at ends
    obtain ⟨exn, raised, other⟩ := ends
    rw [rescue_of_error (Prod.ext raised rfl)]
    apply iff_of_true _ trivial
    cases exn with
    | creditExhausted estimatedRecovery => exact synced_degrade _ _ _
    | unavailable => exact synced_degrade _ _ _
    | error => exact absurd rfl other
  | answered =>
    rw [ending] at ends
    obtain ⟨response, returned⟩ := ends.1
    have fate := synced_endsAs_iff persisted LoopEnd.noConfusion ends
    rw [rescue_of_ok (Prod.ext returned rfl)]
    exact fate
  | saved =>
    rw [ending] at ends
    obtain ⟨response, returned⟩ := ends.1
    have fate := synced_endsAs_iff persisted LoopEnd.noConfusion ends
    rw [rescue_of_ok (Prod.ext returned rfl)]
    exact fate
  | raised =>
    rw [ending] at ends
    have fate := synced_endsAs_iff persisted LoopEnd.noConfusion ends
    rw [rescue_of_error (Prod.ext ends.1 rfl)]
    exact fate

def answerNaming (world : World) (name : String) : Chat ChatResponse := rescue (do
    let state ← session
    let (content, _) ← askLlm world "chat_response" state.conversationHistory
      (some (formatToolsForLlm state.toolsCache))
    acknowledgeName world content) fun exn =>
    match exn with
    | .creditExhausted _ | .unavailable =>
      acknowledgeName world (name ++ " it is! Let me show you where things stand.")
    | .error => raise .error

theorem synced_answerNaming_iff (name : String) (turn : Turn) :
    Synced (answerNaming (storing world) name turn).2 ↔
      (storing world).llm turn.asked = .error → Synced turn := by
  have asks := askLlm_eq (storing world) "chat_response" turn.session.conversationHistory
    (some (formatToolsForLlm turn.session.toolsCache)) turn
  rw [answerNaming]
  cases outcome : (storing world).llm turn.asked with
  | response content toolCalls =>
    apply iff_of_true _ fun other => LlmOutcome.noConfusion other
    rw [outcome] at asks
    have answers := bind_of_ok asks fun answer => acknowledgeName (storing world) answer.1
    rw [rescue_of_ok ((session_bind _ turn).trans (answers.trans rfl))]
    exact synced_acknowledgeName _ _
  | creditExhausted estimatedRecovery =>
    apply iff_of_true _ fun other => LlmOutcome.noConfusion other
    rw [outcome] at asks
    rw [rescue_of_error ((session_bind _ turn).trans (bind_of_error asks _))]
    exact synced_acknowledgeName _ _
  | unavailable =>
    apply iff_of_true _ fun other => LlmOutcome.noConfusion other
    rw [outcome] at asks
    rw [rescue_of_error ((session_bind _ turn).trans (bind_of_error asks _))]
    exact synced_acknowledgeName _ _
  | error =>
    rw [outcome] at asks
    rw [rescue_of_error ((session_bind _ turn).trans (bind_of_error asks _)), imp_iff_right rfl]
    exact Iff.rfl

theorem handleAgentNaming_still (message : String) :
    ∃ answering, handleAgentNaming world message turn =
      answerNaming world (agentNameOf message) answering ∧
        Still (modifySession (fun state =>
          { state with agentName := agentNameOf message, isFirstLaunch := false }) turn).2
            answering ∧ answering.asked = turn.asked := by
  generalize named : (modifySession (fun state =>
    { state with agentName := agentNameOf message, isFirstLaunch := false }) turn).2 = after
  have asked : after.asked = turn.asked := by
    rw [← named]
    rfl
  rw [handleAgentNaming]
  dsimp only
  have begins : ∀ {next : Unit → Chat ChatResponse}, (modifySession (fun state =>
      { state with agentName := agentNameOf message, isFirstLaunch := false }) >>= next) turn =
        next () after := by
    intro next
    rw [← named]
    rfl
  rw [begins]
  refine ⟨_, rfl, still_append _ _ (still_append _ _ (.refl after)), ?_⟩
  exact asked

theorem synced_handleAgentNaming_iff (persisted : Persisted turn earlier)
    (launch : earlier.isFirstLaunch = true) (message : String) :
    Synced (handleAgentNaming (storing world) message turn).2 ↔
      (storing world).llm turn.asked ≠ .error := by
  generalize named : (modifySession (fun state =>
    { state with agentName := agentNameOf message, isFirstLaunch := false }) turn).2 = after
  have kept : Persisted after earlier := by
    rw [← named]
    exact persisted_modifySession (fun _ => rfl) turn persisted
  have other : earlier ≠ after.session.core := by
    intro same
    rw [same, ← named] at launch
    cases launch
  obtain ⟨answering, same, still, asked⟩ := @handleAgentNaming_still (storing world) turn message
  rw [named] at still
  rw [same, synced_answerNaming_iff, asked, synced_iff (still.persisted kept), still.core]
  exact imp_congr_right fun _ => iff_false_intro other

theorem messagePrompts_cases {message : String} {prompts : String × String} {prepared : Turn}
    (resolved : messagePrompts config world user message turn = (.ok prompts, prepared)) :
    IsNaming turn.session ∧ Leaves turn prepared ∨
      ¬ IsNaming turn.session ∧ ¬ IsNaming prepared.session ∧
        resolveSkillContext config world user message turn = (.ok prompts, prepared) := by
  rw [messagePrompts, session_bind] at resolved
  by_cases naming : IsNaming turn.session
  · rw [if_pos naming] at resolved
    have consults : Consults (sessionPrompts config world user) :=
      .bind (consults_resumedPlaybookPrompt _) fun _ =>
        .bind (consults_activeSkillPrompt _) fun _ => .pure _
    have left := consults.leaves turn turn ⟨rfl, rfl, rfl, rfl, rfl⟩
    rw [resolved] at left
    exact .inl ⟨naming, left⟩
  · rw [if_neg naming] at resolved
    have same := @named_resolveSkillContext config world user message turn.session turn ⟨rfl, rfl⟩
    rw [resolved] at same
    refine .inr ⟨naming, ?_, resolved⟩
    rw [IsNaming, same.1, same.2]
    exact naming

theorem synced_converse_iff (persisted : Persisted turn earlier)
    (launch : earlier.isFirstLaunch = turn.session.isFirstLaunch) {message : String}
    {prompts : String × String} {prepared : Turn}
    (resolved : messagePrompts config (storing world) user message turn = (.ok prompts, prepared)) :
    Synced (converse config (storing world) user message turn).2 ↔
      LeavesMessage config (storing world) earlier prepared := by
  rw [converse, session_bind, LeavesMessage]
  cases messagePrompts_cases resolved with
  | inl names =>
    obtain ⟨naming, left⟩ := names
    have same : prepared.session = turn.session := congrArg Loaded.state left.loaded
    rw [same, if_pos naming, if_pos naming, left.asked]
    exact synced_handleAgentNaming_iff persisted (launch.trans naming.1) message
  | inr answers =>
    obtain ⟨naming, unnamed, ran⟩ := answers
    have kept := @persisted_resolveSkillContext config (storing world) user earlier message turn
      persisted
    rw [ran] at kept
    rw [if_neg naming, if_neg unnamed, bind_of_ok ran]
    exact synced_respond_iff kept message _ _

theorem messagePrompts_ran (message : String) (turn : Turn) :
    ∃ prompts prepared, messagePrompts config world user message turn =
      (.ok prompts, prepared) := by
  have raises : Raises (fun _ => False) (messagePrompts config world user message) := by
    refine raises_session.bind fun state => ?_
    split
    · exact (consults_resumedPlaybookPrompt _).raises.bind fun _ =>
        (consults_activeSkillPrompt _).raises.bind fun _ => raises_pure _
    · exact raises_resolveSkillContext message
  cases outcome : messagePrompts config world user message turn with
  | mk result prepared =>
    cases result with
    | ok prompts => exact ⟨prompts, prepared, rfl⟩
    | error exn => exact (raises.raised (congrArg Prod.fst outcome)).elim

theorem synced_converse_iff_all (persisted : Persisted turn earlier)
    (launch : earlier.isFirstLaunch = turn.session.isFirstLaunch) {message : String} :
    Synced (converse config (storing world) user message turn).2 ↔ ∀ prompts prepared,
        messagePrompts config (storing world) user message turn = (.ok prompts, prepared) →
          LeavesMessage config (storing world) earlier prepared := by
  obtain ⟨prompts, prepared, resolved⟩ :=
    @messagePrompts_ran config (storing world) user message turn
  refine (synced_converse_iff persisted launch resolved).trans ?_
  constructor
  · intro leaves others other ran
    cases resolved.symm.trans ran
    exact leaves
  · exact fun leaves => leaves prompts prepared resolved

theorem handleMessage_eq (message : String) (turn : Turn) : (∃ ready, ready.process = turn.process ∧
      ready.session.sessionId = turn.session.sessionId ∧
      ready.session.isFirstLaunch = turn.session.isFirstLaunch ∧
      turnPrompts config world user (.chat message) turn =
        messagePrompts config world user message ready ∧
      handleMessage config world user message turn = converse config world user message ready) ∨
    (∃ exn after, turnPrompts config world user (.chat message) turn = (.error exn, after)) ∧
      Still turn (handleMessage config world user message turn).2 := by
  have counts {α : Type} (next : Unit → Chat α) (turn : Turn) :
      (countMessage >>= next) turn = next () (countMessage turn).2 := rfl
  have still := still_countMessage turn (.refl turn)
  have same : (countMessage turn).2.session.mode = turn.session.mode := rfl
  rw [handleMessage, turnPrompts, counts, counts, session_bind, session_bind, same]
  cases mode : turn.session.mode with
  | full => exact .inl ⟨(countMessage turn).2, rfl, rfl, rfl, rfl, rfl⟩
  | dataOnly =>
    have stillAsked := @still_askLlm world turn "chat_response" ping none _ still
    generalize asked : askLlm world "chat_response" ping none (countMessage turn).2 =
      outcome at stillAsked
    dsimp only
    rw [handleDataOnly]
    change (∃ ready, _ ∧ _ ∧ _ ∧ _ ∧ rescue (askLlm world "chat_response" ping none >>= _)
        (stayWithout config world message) _ = _) ∨
      _ ∧ Still turn (rescue (askLlm world "chat_response" ping none >>= _)
        (stayWithout config world message) _).2
    cases outcome with
    | mk result after =>
      cases result with
      | error exn =>
        right
        rw [bind_of_error asked, rescue_of_error (bind_of_error asked _)]
        refine ⟨⟨exn, after, rfl⟩, ?_⟩
        have stays : Keeps (Still turn) (stayDataOnly config world message) :=
          keeps_bind (still_handleDataOnlyMessage _ _) fun _ =>
            keeps_bind (keeps_look _) fun _ => keeps_pure _
        cases exn with
        | creditExhausted estimatedRecovery => exact stays after stillAsked
        | unavailable => exact stays after stillAsked
        | error => exact stillAsked
      | ok reply =>
        left
        have raises : Raises (· = .error) (modifySession (fun state =>
            { state with mode := .full }) >>= fun _ => countMessage >>= fun _ =>
              converse config world user message) :=
          (raises_modifySession _).bind fun _ => (raises_modifySession _).bind fun _ =>
            raises_converse message
        have again : stayWithout config world message .error = raise .error := rfl
        have launch : after.session.isFirstLaunch = turn.session.isFirstLaunch :=
          read_of_core SessionState.isFirstLaunch (fun _ => rfl) stillAsked.core
        rw [rescue_of_raised ?_ again, bind_of_ok asked, bind_of_ok asked]
        · refine ⟨_, ?_, ?_, ?_, rfl, rfl⟩
          · exact stillAsked.process
          · exact stillAsked.sessionId
          · exact launch
        · intro exn raised
          rw [bind_of_ok asked] at raised
          exact raises.raised raised

theorem synced_handleMessage_iff (synced : Synced turn) (message : String) :
    Synced (handleMessage config (storing world) user message turn).2 ↔
      LeavesAll config (storing world) user turn (.chat message) := by
  rw [LeavesAll]
  cases @handleMessage_eq config (storing world) user message turn with
  | inl goesOn =>
    obtain ⟨ready, process, sessionId, launch, resolves, same⟩ := goesOn
    have persisted : Persisted ready turn.session.core := by
      rw [Persisted, process, sessionId]
      exact synced
    rw [same, resolves]
    exact synced_converse_iff_all persisted launch.symm
  | inr stays =>
    obtain ⟨⟨exn, after, fails⟩, still⟩ := stays
    apply iff_of_true (still.synced synced)
    intro prompts prepared resolved
    cases fails.symm.trans resolved

theorem handleInit_prepared (turn : Turn) :
    ∃ prompts prepared, turnPrompts config world user .init turn = (.ok prompts, prepared) ∧
      handleInit config world user turn =
        openWith config world prepared.session prompts.1 prompts.2 prepared := by
  obtain ⟨skills, loaded, loadRan, -⟩ :=
    (@consults_loadForRole config world user.role user.tenantId).ran (introduce world turn).2
  have noted : modifySession (fun state =>
      { state with
        skillsLoaded := skills.map Skill.id
        toolsCache := world.tools
        persona := config.personaOf user.role }) loaded = (.ok ⟨⟩, _) := rfl
  obtain ⟨playbookPrompt, resumed, resumeRan, -⟩ :=
    (@consults_resumedPlaybookPrompt config world user.tenantId).ran _
  obtain ⟨skillPrompt, ready, readyRan, -⟩ :=
    (@consults_activeSkillPrompt config world user.tenantId).ran resumed
  have prompts : sessionPrompts config world user _ = (.ok (skillPrompt, playbookPrompt), ready) :=
    (bind_of_ok resumeRan _).trans ((bind_of_ok readyRan _).trans rfl)
  refine ⟨(skillPrompt, playbookPrompt), ready, ?_, ?_⟩
  · rw [turnPrompts, bind_of_ok (introduce_ran turn), bind_of_ok loadRan, bind_of_ok noted]
    exact prompts
  · rw [handleInit, bind_of_ok (introduce_ran turn), bind_of_ok loadRan, bind_of_ok noted,
      bind_of_ok resumeRan, bind_of_ok readyRan]
    rfl

theorem synced_greet {content : String} {toolCalls : List ToolCall}
    (answer : (storing world).llm turn.asked = .response content toolCalls)
    (systemPrompt : String) :
    ∃ response after, greet (storing world) systemPrompt turn = (.ok response, after) ∧
      Synced after := by
  have asks := fun task => askLlm_eq (storing world) task
    [.system systemPrompt, .user (storing world).opener]
    (some (formatToolsForLlm (storing world).tools)) turn
  rw [answer] at asks
  rw [greet, session_bind]
  exact ⟨_, _, bind_of_ok (asks _) _, synced_save _⟩

theorem greet_raises {failure : Failure}
    (fails : answerOf (world.llm turn.asked) = .error failure) (systemPrompt : String) :
    greet world systemPrompt turn = (.error failure,
      { turn with
        asked := turn.asked + 1
        log := turn.log ++ [.asked
          (if (present turn.session.activePlaybook).isSome then "skill_execution"
            else "chat_response")
          [.system systemPrompt, .user world.opener] (some (formatToolsForLlm world.tools))
          (world.llm turn.asked)] }) := by
  have asks := fun task => askLlm_eq world task [.system systemPrompt, .user world.opener]
    (some (formatToolsForLlm world.tools)) turn
  rw [fails] at asks
  rw [greet, session_bind]
  exact bind_of_error (asks _) _

theorem persisted_init : Keeps (Persisted · earlier) (turnPrompts config world user .init) := by
  have introduces : Keeps (Persisted · earlier) (introduce world) := by
    rw [introduce]
    cases world.userState with
    | none => exact persisted_modifySession fun _ => rfl
    | some agentName => exact persisted_modifySession fun _ => rfl
  refine keeps_bind introduces fun _ => ?_
  refine keeps_bind (persisted_consults (consults_loadForRole _ _)) fun skills => ?_
  refine keeps_bind (persisted_modifySession fun _ => rfl) fun _ => ?_
  refine keeps_bind (persisted_consults (consults_resumedPlaybookPrompt _)) fun _ => ?_
  exact keeps_bind (persisted_consults (consults_activeSkillPrompt _)) fun _ => keeps_pure _

theorem synced_handleInit_iff (synced : Synced turn) :
    Synced (handleInit config (storing world) user turn).2 ↔
      LeavesAll config (storing world) user turn .init := by
  obtain ⟨prompts, prepared, resolved, same⟩ :=
    @handleInit_prepared config (storing world) user turn
  have persisted : Persisted prepared turn.session.core := by
    have kept := @persisted_init config (storing world) user turn.session.core turn synced
    rw [resolved] at kept
    exact kept
  have leaves_iff : LeavesAll config (storing world) user turn .init ↔
      ((storing world).llm prepared.asked = .error →
        turn.session.core = prepared.session.core) := by
    constructor
    · exact fun leaves => leaves prompts prepared resolved
    · intro leaves others other ran
      cases resolved.symm.trans ran
      exact leaves
  rw [same, leaves_iff, openWith]
  cases outcome : (storing world).llm prepared.asked with
  | response content toolCalls =>
    obtain ⟨response, after, greeted, stored⟩ := synced_greet outcome
      (firstPrompt (storing world) prepared.session prompts.1 prompts.2)
    rw [rescue_of_ok greeted]
    exact iff_of_true stored fun other => LlmOutcome.noConfusion other
  | creditExhausted estimatedRecovery =>
    rw [rescue_of_error (greet_raises (congrArg answerOf outcome) _)]
    exact iff_of_true (synced_degrade _ _ _) fun other => LlmOutcome.noConfusion other
  | unavailable =>
    rw [rescue_of_error (greet_raises (congrArg answerOf outcome) _)]
    apply iff_of_true _ fun other => LlmOutcome.noConfusion other
    rw [recovery, modifySession_bind]
    exact synced_save_bind (fun _ => keeps_pure _) _
  | error =>
    rw [rescue_of_error (greet_raises (congrArg answerOf outcome) _), imp_iff_right rfl]
    exact synced_iff persisted

theorem synced_handleConfirm (synced : Synced turn) (confirmationId : String) :
    Synced (handleConfirm config (storing world) confirmationId turn).2 := by
  cases waiting : turn.session.pendingConfirmation with
  | none =>
    rw [handleConfirm, session_bind, waiting]
    exact synced
  | some pending =>
    by_cases matching : pending.confirmationId = confirmationId
    · rw [← matching, handleConfirm_eq waiting, clearPendingConfirmation, modifySession_bind]
      exact synced_save _
    · rw [handleConfirm, session_bind, waiting]
      dsimp only
      rw [if_pos matching]
      exact synced

theorem synced_handleCancel (synced : Synced turn) (confirmationId : String) :
    Synced (handleCancel (storing world) confirmationId turn).2 := by
  rw [handleCancel, session_bind]
  cases turn.session.pendingConfirmation with
  | none => exact synced
  | some pending =>
    rw [clearPendingConfirmation]
    exact synced_save_bind (fun _ => keeps_pure _) _

theorem synced_handle_iff (synced : Synced turn) (action : Action) :
    Synced (handle config (storing world) user action turn).2 ↔
      LeavesAll config (storing world) user turn action := by
  cases action with
  | init => exact synced_handleInit_iff synced
  | chat message => exact synced_handleMessage_iff synced message
  | confirm confirmationId => exact iff_of_true (synced_handleConfirm synced _) trivial
  | cancel confirmationId => exact iff_of_true (synced_handleCancel synced confirmationId) trivial

theorem core_handleMessage {message : String} {prompts : String × String} {prepared : Turn}
    (resolved : turnPrompts config (storing world) user (.chat message) turn =
      (.ok prompts, prepared)) (unnamed : ¬ IsNaming prepared.session)
    (answered : roundsEnd config (storing world) config.settings.maxToolRounds prepared.asked
      prepared.called = .answered) :
    (handleMessage config (storing world) user message turn).2.session.core =
      (advanceStep config (storing world) prepared).2.session.core := by
  cases @handleMessage_eq config (storing world) user message turn with
  | inr stays =>
    obtain ⟨⟨exn, after, fails⟩, -⟩ := stays
    cases fails.symm.trans resolved
  | inl goesOn =>
    obtain ⟨ready, -, -, -, resolves, same⟩ := goesOn
    rw [resolves] at resolved
    rw [same, converse, session_bind]
    cases messagePrompts_cases resolved with
    | inl names =>
      have kept : prepared.session = ready.session := congrArg Loaded.state names.2.loaded
      rw [kept] at unnamed
      exact absurd names.1 unnamed
    | inr answers =>
      obtain ⟨naming, -, ran⟩ := answers
      rw [if_neg naming, bind_of_ok ran]
      dsimp only
      obtain ⟨after, still, asked, called, whole⟩ :=
        @respond_still config (storing world) prepared message prompts.1 prompts.2
      have ends : EndsAs config world prepared (runLoop config (storing world) after)
          (roundsEnd config (storing world) config.settings.maxToolRounds after.asked
            after.called) := endsAs_runRounds still
      rw [asked, called, answered] at ends
      obtain ⟨⟨response, returned⟩, middle, paired, -, last⟩ := ends
      rw [whole, rescue_of_ok (Prod.ext returned rfl)]
      exact (congrArg (fun turn : Turn => turn.session.core) last).trans
        (@twins_advanceStep config (storing world) _ middle prepared paired).2.core

end Turns

end Chat

end Onpremai.Conversation
