import Onpremai.Conversation.Tallies

/-!
# Accounts of a chat turn

A turn should execute or hold every tool call that the language model requests, and tell the
user of the calls that were executed.  It does so unless the language model fails after a call
was executed, or a call has to be confirmed that is not the last one of its response.
-/

namespace Onpremai.Conversation

open Onpremai.Library

def executedAction (config : Config) (executed : ToolCall × ToolResult) : ToolAction where
  toolName := executed.1.toolName
  success := !executed.2.isError
  resultSummary := clip 200 (config.str
    (executed.2.data executed.1.toolName (executed.1.toolParams config.loads)))

/-- The actions that the user is told of. -/
def reportedActions : Except Failure ChatResponse → List ToolAction
  | .ok response => response.actions
  | .error _ => []

def IsHeld (config : Config) (call : ToolCall) (outcome : Except Failure ChatResponse × Turn) :
    Prop :=
  ∃ response pending, outcome.1 = .ok response ∧ response.pendingConfirmation = some pending ∧
    outcome.2.session.pendingConfirmation = some pending ∧ pending.toolName = call.toolName ∧
    .obj pending.params = call.toolParams config.loads

/-- A turn accounts for its tool calls: the language model was asked at most as often as it may
be, every call that it requested was executed, in order and once, or is held, and the user is
told of the calls that were executed. -/
structure Accounts (config : Config) (outcome : Except Failure ChatResponse × Turn) : Prop where
  rounds : outcome.2.tally.asks ≤ config.settings.maxToolRounds
  settled : outcome.2.tally.requested = outcome.2.tally.executed.map Prod.fst ∨
    ∃ call, outcome.2.tally.requested = outcome.2.tally.executed.map Prod.fst ++ [call] ∧
      IsHeld config call outcome
  reported : reportedActions outcome.1 = outcome.2.tally.executed.map (executedAction config)

section Condition

variable (config : Config) (world : World)

def BatchAccountable (later : Nat → Prop) : List ToolCall → Nat → Prop
  | [], called => later called
  | call :: rest, called =>
    match world.tool called with
    | .confirmationRequired summary =>
      rest = [] ∧ (PendingConfirmation.validate (world.freshId (called + 1)) call.toolName
        summary (call.toolParams config.loads)).isSome = true
    | .success _ | .error _ => BatchAccountable later rest (called + 1)

/-- The language model does not fail after a call was executed, and no call that has to be
confirmed is left behind. -/
def Accountable : Nat → Nat → Nat → Prop → Prop
  | 0, _, _, _ => True
  | rounds + 1, asked, called, executed =>
    match world.llm asked with
    | .response _ [] => True
    | .response _ (call :: rest) =>
      BatchAccountable config world (fun called => Accountable rounds (asked + 1) called True)
        (call :: rest) called
    | .creditExhausted _ | .unavailable | .error => ¬ executed

end Condition

namespace Chat

open Handler

variable {config : Config} {world : World}

section Batches

def afterCall (config : Config) (world : World) (call : ToolCall) (turn : Turn) : Turn :=
  { turn with
    called := turn.called + 1
    log := turn.log ++ [.called call (call.toolParams config.loads) (world.tool turn.called)] }

def afterExecuted (config : Config) (world : World) (content : String) (call : ToolCall)
    (turn : Turn) : Turn :=
  (recordCall content call (call.id.getD (world.freshId turn.called))
    (config.str ((world.tool turn.called).data call.toolName (call.toolParams config.loads)))
    (afterCall config world call turn)).2

def goOn (next : List ToolAction → Chat ChatResponse) : BatchEnd → Chat ChatResponse
  | .paused response => pure response
  | .completed actions => next actions

variable {content : String} {toolCalls rest : List ToolCall} {actions : List ToolAction}
  {call : ToolCall} {turn : Turn} {next : List ToolAction → Chat ChatResponse}

theorem runCalls_cons (turn : Turn) :
    (runCalls config world content toolCalls (call :: rest) actions >>= goOn next) turn =
      ((match world.tool turn.called with
        | .confirmationRequired summary =>
          pauseFor world content toolCalls actions call (call.toolParams config.loads) summary
        | .success _ | .error _ => do
            recordCall content call (call.id.getD (world.freshId turn.called))
              (config.str ((world.tool turn.called).data call.toolName
                (call.toolParams config.loads)))
            runCalls config world content toolCalls rest
              (actions ++ [executedAction config (call, world.tool turn.called)]) :
          Chat BatchEnd) >>= goOn next) (afterCall config world call turn) := rfl

theorem runCalls_executed (plain : (world.tool turn.called).isConfirmation = false) :
    (runCalls config world content toolCalls (call :: rest) actions >>= goOn next) turn =
      (runCalls config world content toolCalls rest
        (actions ++ [executedAction config (call, world.tool turn.called)]) >>= goOn next)
        (afterExecuted config world content call turn) := by
  rw [runCalls_cons, afterExecuted]
  cases result : world.tool turn.called with
  | success data => rfl
  | error reason => rfl
  | confirmationRequired summary =>
    rw [result] at plain
    cases plain

theorem runCalls_paused {summary : Json}
    (asks : world.tool turn.called = .confirmationRequired summary) :
    (runCalls config world content toolCalls (call :: rest) actions >>= goOn next) turn =
      (pauseFor world content toolCalls actions call (call.toolParams config.loads) summary >>=
        goOn next) (afterCall config world call turn) := by
  rw [runCalls_cons, asks]

theorem tally_afterCall (turn : Turn) : (afterCall config world call turn).tally =
      turn.tally.add (.called call (call.toolParams config.loads) (world.tool turn.called)) := by
  have same := tally_concat turn
    (.called call (call.toolParams config.loads) (world.tool turn.called))
  exact same

theorem tally_afterExecuted (plain : (world.tool turn.called).isConfirmation = false) :
    (afterExecuted config world content call turn).tally =
      { turn.tally with
        executed := turn.tally.executed ++ [(call, world.tool turn.called)] } := by
  change (afterCall config world call turn).tally = _
  rw [tally_afterCall, Tally.add, if_neg (Bool.eq_false_iff.mp plain)]

end Batches

/-- The calls requested and not yet executed, and the actions for the executed ones. -/
structure Owes (config : Config) (turn : Turn) (actions : List ToolAction)
    (calls : List ToolCall) : Prop where
  requested : turn.tally.requested = turn.tally.executed.map Prod.fst ++ calls
  actions : actions = turn.tally.executed.map (executedAction config)

/-- Every requested call was executed or is held, and the user is told of the executed ones. -/
structure Settled (config : Config) (outcome : Except Failure ChatResponse × Turn) : Prop where
  settled : outcome.2.tally.requested = outcome.2.tally.executed.map Prod.fst ∨
    ∃ call, outcome.2.tally.requested = outcome.2.tally.executed.map Prod.fst ++ [call] ∧
      IsHeld config call outcome
  reported : reportedActions outcome.1 = outcome.2.tally.executed.map (executedAction config)

theorem settled_iff_of_unheld {outcome : Except Failure ChatResponse × Turn}
    (unheld : ∀ call, ¬ IsHeld config call outcome) :
    Settled config outcome ↔ outcome.2.tally.requested = outcome.2.tally.executed.map Prod.fst ∧
        reportedActions outcome.1 = outcome.2.tally.executed.map (executedAction config) := by
  constructor
  · intro settles
    constructor
    · cases settles.settled with
      | inl all => exact all
      | inr held =>
        have ⟨call, _, holds⟩ := held
        exact absurd holds (unheld call)
    · exact settles.reported
  · intro ⟨all, reported⟩
    exact ⟨.inl all, reported⟩

theorem settled_error_iff {failure : Failure} {turn : Turn} :
    Settled config (.error failure, turn) ↔
      turn.tally.requested = turn.tally.executed.map Prod.fst ∧
        [] = turn.tally.executed.map (executedAction config) := by
  apply settled_iff_of_unheld
  intro call held
  have ⟨_, _, responded, _⟩ := held
  cases responded

theorem settled_ok_iff {response : ChatResponse} {turn : Turn}
    (unheld : response.pendingConfirmation = none) :
    Settled config (.ok response, turn) ↔ turn.tally.requested = turn.tally.executed.map Prod.fst ∧
        response.actions = turn.tally.executed.map (executedAction config) := by
  apply settled_iff_of_unheld
  intro call held
  have ⟨_, _, responded, pending, _⟩ := held
  cases responded
  cases unheld.symm.trans pending

section

variable {handler : Chat ChatResponse} {turn : Turn}

theorem settled_of_tells {actions : List ToolAction}
    (tells : Ensures (fun other => other.tally = turn.tally) handler (Tells turn.tally actions)
      (fun _ _ => False)) (owes : Owes config turn actions []) : Settled config (handler turn) := by
  have done := tells turn rfl
  cases outcome : handler turn with
  | mk result after =>
    rw [outcome] at done
    cases result with
    | error exn => exact done.elim
    | ok response =>
      have ⟨same, told, unheld⟩ := done
      rw [settled_ok_iff unheld, same, told]
      exact ⟨by simpa using owes.requested, owes.actions⟩

theorem settled_rescue_iff {message : String} : Settled config (rescue handler (fun exn =>
          match exn with
          | .creditExhausted estimatedRecovery => degrade config world message estimatedRecovery
          | .unavailable => degrade config world message none
          | .error => raise .error) turn) ↔ Settled config (handler turn) := by
  have degraded (estimatedRecovery : Option String) (failure : Failure) (after : Turn) :
      Settled config (degrade config world message estimatedRecovery after) ↔
        Settled config (.error failure, after) := by
    have done := @ensures_degrade config world message estimatedRecovery after.tally after rfl
    cases outcome : degrade config world message estimatedRecovery after with
    | mk result later =>
      rw [outcome] at done
      cases result with
      | error exn => exact done.elim
      | ok response =>
        have ⟨same, told, unheld⟩ := done
        rw [settled_ok_iff unheld, settled_error_iff, same, told]
  rw [rescue]
  cases handler turn with
  | mk result after =>
    cases result with
    | ok response => exact Iff.rfl
    | error exn =>
      cases exn with
      | creditExhausted estimatedRecovery => exact degraded estimatedRecovery _ after
      | unavailable => exact degraded none _ after
      | error => exact Iff.rfl

end

section Pause

variable {content : String} {toolCalls rest : List ToolCall} {actions : List ToolAction}
  {call : ToolCall} {params summary : Json} {turn : Turn}

theorem pauseFor_eq (turn : Turn) :
    pauseFor world content toolCalls actions call params summary turn =
      (match PendingConfirmation.validate (world.freshId turn.called) call.toolName summary
          params with
        | none => raise .error
        | some confirmation => do
          setPendingConfirmation world confirmation
          append (.assistant content toolCalls)
          save world
          let state ← session
          return .paused
            { message := confirmation.summary
              sessionId := state.sessionId
              actions
              pendingConfirmation := some confirmation } : Chat BatchEnd) turn := rfl

theorem pauseFor_of_valid {confirmation : PendingConfirmation}
    (made : PendingConfirmation.validate (world.freshId turn.called) call.toolName summary params =
      some confirmation) :
    ∃ response after, pauseFor world content toolCalls actions call params summary turn =
        (.ok (.paused response), after) ∧
      response.actions = actions ∧ response.pendingConfirmation = some confirmation ∧
      after.session.pendingConfirmation = some confirmation ∧ after.tally = turn.tally := by
  rw [pauseFor_eq, made]
  refine ⟨_, _, rfl, rfl, rfl, rfl, ?_⟩
  change Turn.tally { turn with log := (turn.log ++ [.stored _ _ _]) ++ [.stored _ _ _] } = _
  simp [Turn.tally, Tally.add]

theorem pauseFor_of_invalid
    (unmade : PendingConfirmation.validate (world.freshId turn.called) call.toolName summary
      params = none) :
    pauseFor world content toolCalls actions call params summary turn = (.error .error, turn) := by
  rw [pauseFor_eq, unmade]
  rfl

theorem settled_pause_iff {next : List ToolAction → Chat ChatResponse}
    (owes : Owes config turn actions (call :: rest))
    (asks : world.tool turn.called = .confirmationRequired summary) :
    Settled config
        ((pauseFor world content toolCalls actions call (call.toolParams config.loads) summary >>=
          goOn next) (afterCall config world call turn)) ↔
      rest = [] ∧ (PendingConfirmation.validate (world.freshId (turn.called + 1)) call.toolName
        summary (call.toolParams config.loads)).isSome = true := by
  have same : (afterCall config world call turn).tally = turn.tally := by
    rw [tally_afterCall, asks]
    rfl
  have unfolds : (pauseFor world content toolCalls actions call (call.toolParams config.loads)
      summary >>= goOn next) (afterCall config world call turn) =
        Handler.andThen (pauseFor world content toolCalls actions call
          (call.toolParams config.loads) summary) (goOn next) (afterCall config world call turn) :=
    rfl
  rw [unfolds, andThen]
  cases made : PendingConfirmation.validate (world.freshId (turn.called + 1)) call.toolName summary
      (call.toolParams config.loads) with
  | none =>
    rw [pauseFor_of_invalid made]
    apply iff_of_false
    · intro settles
      obtain ⟨all, _⟩ := settled_error_iff.mp settles
      rw [same, owes.requested] at all
      simp at all
    · simp
  | some confirmation =>
    have valid : PendingConfirmation.validate
        (world.freshId (afterCall config world call turn).called) call.toolName summary
        (call.toolParams config.loads) = some confirmation := made
    obtain ⟨response, after, paused, told, holds, pending, tally⟩ :=
      @pauseFor_of_valid world content toolCalls actions call _ _ _ _ valid
    rw [same] at tally
    rw [paused]
    change Settled config (.ok response, after) ↔ _
    constructor
    · intro settles
      refine ⟨?_, rfl⟩
      cases settles.settled with
      | inl all =>
        rw [tally, owes.requested] at all
        simp at all
      | inr held =>
        obtain ⟨other, requested, _⟩ := held
        rw [tally, owes.requested] at requested
        have single := List.append_cancel_left requested
        exact (List.cons.inj single).2
    · intro last
      have named := PendingConfirmation.of_validate made
      constructor
      · right
        refine ⟨call, ?_, response, confirmation, rfl, holds, pending, named⟩
        rw [tally, owes.requested, last.1]
      · change response.actions = _
        rw [told, tally]
        exact owes.actions

end Pause

theorem settled_runCalls_iff {content : String} {toolCalls : List ToolCall} {asked : Nat}
    {later : Nat → Prop} {next : List ToolAction → Chat ChatResponse}
    (continues : ∀ actions turn, turn.asked = asked → Owes config turn actions [] →
      turn.tally.executed ≠ [] → (Settled config (next actions turn) ↔ later turn.called))
    {calls : List ToolCall} {actions : List ToolAction} {turn : Turn} (round : turn.asked = asked)
    (owes : Owes config turn actions calls) (some : calls ≠ [] ∨ turn.tally.executed ≠ []) :
    Settled config
        ((runCalls config world content toolCalls calls actions >>= goOn next) turn) ↔
      BatchAccountable config world later calls turn.called := by
  induction calls generalizing actions turn with
  | nil => exact continues actions turn round owes (some.resolve_left fun none => none rfl)
  | cons call rest ih =>
    have executes (plain : (world.tool turn.called).isConfirmation = false) : Settled config
            ((runCalls config world content toolCalls (call :: rest) actions >>= goOn next)
              turn) ↔
          BatchAccountable config world later rest (turn.called + 1) := by
      have tally := @tally_afterExecuted config world content call turn plain
      rw [runCalls_executed plain]
      refine @ih _ (afterExecuted config world content call turn) round ?_ ?_
      · constructor
        · rw [tally]
          change turn.tally.requested = _
          rw [owes.requested]
          simp
        · rw [tally, owes.actions]
          simp
      · right
        rw [tally]
        simp
    cases result : world.tool turn.called with
    | success data =>
      rw [BatchAccountable, result]
      apply executes
      rw [result]
      rfl
    | error reason =>
      rw [BatchAccountable, result]
      apply executes
      rw [result]
      rfl
    | confirmationRequired summary =>
      rw [BatchAccountable, result, runCalls_paused result]
      exact settled_pause_iff owes result

section Rounds

variable {tools : List Fields} {task : String} {content : String}

theorem askLlm_spec (task : String) (messages : List Message) (shown : Option (List Json))
    (turn : Turn) :
    ∃ after, askLlm world task messages shown turn = (answerOf (world.llm turn.asked), after) ∧
      after.tally = turn.tally.add (.asked task messages shown (world.llm turn.asked)) ∧
      after.asked = turn.asked + 1 ∧ after.called = turn.called :=
  ⟨_, askLlm_eq world task messages shown turn,
    tally_concat { turn with asked := turn.asked + 1 } _, rfl, rfl⟩

theorem runRounds_succ (rounds : Nat) (actions : List ToolAction) (turn : Turn) :
    runRounds config world tools (rounds + 1) task actions turn =
      (askLlm world task turn.session.conversationHistory
          (if tools.isEmpty then none else some (formatToolsForLlm tools)) >>= fun answer =>
        match answer.2 with
        | [] => finish config world answer.1 actions
        | call :: rest =>
          runCalls config world answer.1 (call :: rest) (call :: rest) actions >>=
            goOn (runRounds config world tools rounds "skill_execution")) turn := rfl

theorem settled_runRounds_iff {rounds : Nat} {actions : List ToolAction} {turn : Turn}
    (owes : Owes config turn actions []) :
    Settled config (runRounds config world tools rounds task actions turn) ↔
      Accountable config world rounds turn.asked turn.called (turn.tally.executed ≠ []) := by
  induction rounds generalizing task actions turn with
  | zero =>
    apply iff_of_true
    · exact settled_of_tells (ensures_giveUp actions turn.tally) owes
    · trivial
  | succ rounds ih =>
    rw [runRounds_succ]
    change Settled config (Handler.andThen _ _ turn) ↔ _
    obtain ⟨after, answered, tally, asked, called⟩ :=
      @askLlm_spec world task turn.session.conversationHistory
        (if tools.isEmpty then none else some (formatToolsForLlm tools)) turn
    rw [andThen, answered, Accountable]
    -- a failure tells the user of no action
    have failing (failure : Failure)
        (same : after.tally = { turn.tally with asks := turn.tally.asks + 1 }) :
        Settled config (.error failure, after) ↔ ¬ turn.tally.executed ≠ [] := by
      rw [settled_error_iff, same, not_not]
      constructor
      · intro settles
        exact List.map_eq_nil_iff.mp settles.2.symm
      · intro none
        exact ⟨by simpa using owes.requested, by simp [none]⟩
    cases outcome : world.llm turn.asked with
    | creditExhausted estimatedRecovery =>
      rw [outcome] at tally
      exact failing _ tally
    | unavailable =>
      rw [outcome] at tally
      exact failing _ tally
    | error =>
      rw [outcome] at tally
      exact failing _ tally
    | response content toolCalls =>
      rw [outcome] at tally
      have owed : Owes config after actions toolCalls := by
        constructor
        · rw [tally]
          change turn.tally.requested ++ toolCalls = _
          rw [owes.requested, List.append_nil]
          rfl
        · rw [tally]
          exact owes.actions
      cases toolCalls with
      | nil =>
        apply iff_of_true
        · exact settled_of_tells (ensures_finish content actions after.tally) owed
        · trivial
      | cons call rest =>
        rw [← called]
        refine @settled_runCalls_iff config world content (call :: rest) (turn.asked + 1)
          (fun called => Accountable config world rounds (turn.asked + 1) called True)
          (runRounds config world tools rounds "skill_execution") ?_ (call :: rest) actions
          after asked owed (.inl (List.cons_ne_nil call rest))
        intro actions later round owes any
        rw [ih owes, round, eq_true any]

end Rounds

section Asks

variable {α β : Type} {tools : List Fields} {task content : String}

theorem keeps_asks_pauseFor (bound : Nat) (toolCalls : List ToolCall) (actions : List ToolAction)
    (call : ToolCall) (params summary : Json) :
    Keeps (fun turn => turn.tally.asks ≤ bound)
      (pauseFor world content toolCalls actions call params summary) := by
  intro turn few
  cases made : PendingConfirmation.validate (world.freshId turn.called) call.toolName summary
      params with
  | none =>
    rw [pauseFor_of_invalid made]
    exact few
  | some confirmation =>
    have ⟨_, after, paused, _, _, _, tally⟩ :=
      @pauseFor_of_valid world content toolCalls actions call _ _ _ _ made
    rw [paused]
    change after.tally.asks ≤ bound
    rw [tally]
    exact few

theorem keeps_asks_runCalls (bound : Nat) (toolCalls calls : List ToolCall)
    (actions : List ToolAction) :
    Keeps (fun turn => turn.tally.asks ≤ bound)
      (runCalls config world content toolCalls calls actions) := by
  induction calls generalizing actions with
  | nil => exact keeps_pure _
  | cons call rest ih =>
    rw [runCalls]
    refine keeps_bind (keeps_look _) fun toolId => ?_
    apply keeps_bind
    · intro turn few
      have tally := @tally_afterCall config world call turn
      change (afterCall config world call turn).tally.asks ≤ bound
      rw [tally, Tally.add]
      split
      · exact few
      · exact few
    · intro result
      have recorded := (silent_recordCall content call toolId (config.str
        (result.data call.toolName (call.toolParams config.loads)))).keeps
          (fun tally => tally.asks ≤ bound)
      cases result with
      | confirmationRequired summary => exact keeps_asks_pauseFor bound _ _ _ _ _
      | success data => exact keeps_bind recorded fun _ => ih _
      | error reason => exact keeps_bind recorded fun _ => ih _

theorem asks_runRounds {bound rounds : Nat} {actions : List ToolAction} {turn : Turn}
    (few : turn.tally.asks + rounds ≤ bound) :
    (runRounds config world tools rounds task actions turn).2.tally.asks ≤ bound := by
  induction rounds generalizing task actions turn with
  | zero =>
    exact (silent_giveUp actions).keeps (fun tally => tally.asks ≤ bound) turn
      (by simpa using few)
  | succ rounds ih =>
    rw [runRounds_succ]
    change (Handler.andThen _ _ turn).2.tally.asks ≤ bound
    have ⟨after, answered, tally, _, _⟩ := @askLlm_spec world task turn.session.conversationHistory
        (if tools.isEmpty then none else some (formatToolsForLlm tools)) turn
    rw [andThen, answered]
    have once : after.tally.asks = turn.tally.asks + 1 := by
      rw [tally]
      cases world.llm turn.asked with
      | response content toolCalls => rfl
      | creditExhausted estimatedRecovery => rfl
      | unavailable => rfl
      | error => rfl
    have fewer : after.tally.asks ≤ bound - rounds := by omega
    cases world.llm turn.asked with
    | creditExhausted estimatedRecovery => exact fewer.trans (Nat.sub_le bound rounds)
    | unavailable => exact fewer.trans (Nat.sub_le bound rounds)
    | error => exact fewer.trans (Nat.sub_le bound rounds)
    | response content toolCalls =>
      cases toolCalls with
      | nil =>
        exact (silent_finish content actions).keeps (fun tally => tally.asks ≤ bound) after
          (fewer.trans (Nat.sub_le bound rounds))
      | cons call rest =>
        have called := @keeps_asks_runCalls config world content (bound - rounds)
          (call :: rest) (call :: rest) actions after fewer
        change (Handler.andThen _ _ after).2.tally.asks ≤ bound
        rw [andThen]
        cases outcome : runCalls config world content (call :: rest) (call :: rest) actions
            after with
        | mk result later =>
          rw [outcome] at called
          have fewer : later.tally.asks ≤ bound - rounds := called
          cases result with
          | error exn => exact fewer.trans (Nat.sub_le bound rounds)
          | ok batch =>
            cases batch with
            | paused response => exact fewer.trans (Nat.sub_le bound rounds)
            | completed actions =>
              apply ih
              omega

theorem asks_rescue {handler : Chat ChatResponse} {message : String} {bound : Nat} {turn : Turn}
    (few : (handler turn).2.tally.asks ≤ bound) :
    (rescue handler (fun exn =>
      match exn with
      | .creditExhausted estimatedRecovery => degrade config world message estimatedRecovery
      | .unavailable => degrade config world message none
      | .error => raise .error) turn).2.tally.asks ≤ bound := by
  rw [rescue]
  cases outcome : handler turn with
  | mk result after =>
    rw [outcome] at few
    cases result with
    | ok response => exact few
    | error exn =>
      cases exn with
      | creditExhausted estimatedRecovery =>
        exact (silent_degrade message _).keeps (fun tally => tally.asks ≤ bound) after few
      | unavailable =>
        exact (silent_degrade message _).keeps (fun tally => tally.asks ≤ bound) after few
      | error => exact few

end Asks

theorem beginConversation_eq (skillPrompt playbookPrompt : String) (turn : Turn) :
    ∃ begun, beginConversation world skillPrompt playbookPrompt turn = (.ok ⟨⟩, begun) ∧
      begun.log = turn.log ∧ begun.asked = turn.asked ∧ begun.called = turn.called := by
  rw [beginConversation, session_bind]
  cases turn.session.conversationHistory with
  | nil => exact ⟨_, rfl, rfl, rfl, rfl⟩
  | cons first rest => exact ⟨_, rfl, rfl, rfl, rfl⟩

theorem respond_eq (message skillPrompt playbookPrompt : String) (turn : Turn) :
    ∃ begun, respond config world message skillPrompt playbookPrompt turn =
        rescue (runRounds config world begun.session.toolsCache config.settings.maxToolRounds
          "tool_selection" []) (fun exn =>
            match exn with
            | .creditExhausted estimatedRecovery => degrade config world message estimatedRecovery
            | .unavailable => degrade config world message none
            | .error => raise .error) begun ∧
      begun.log = turn.log ∧ begun.asked = turn.asked ∧ begun.called = turn.called := by
  have ⟨begun, begins, log, asked, called⟩ :=
    @beginConversation_eq world skillPrompt playbookPrompt turn
  refine ⟨(append (.user message) begun).2, ?_, log, asked, called⟩
  rw [respond]
  change Handler.andThen _ _ turn = _
  rw [andThen, begins]
  rfl

/-- A turn accounts for its tool calls exactly when the language model does not fail after a
call was executed and no call that has to be confirmed is left behind. -/
theorem accounts_iff (config : Config) (world : World)
    (message skillPrompt playbookPrompt : String) (turn : Turn) :
    Accounts config
        (respond config world message skillPrompt playbookPrompt { turn with log := [] }) ↔
      Accountable config world config.settings.maxToolRounds turn.asked turn.called False := by
  have ⟨begun, responds, log, asked, called⟩ :=
    @respond_eq config world message skillPrompt playbookPrompt { turn with log := [] }
  have fresh : begun.tally = {} := by
    rw [Turn.tally, log]
    rfl
  have owes : Owes config begun [] [] := by
    constructor
    · simp [fresh]
    · simp [fresh]
  have settled := @settled_runRounds_iff config world begun.session.toolsCache "tool_selection"
    config.settings.maxToolRounds [] begun owes
  have few : begun.tally.asks + config.settings.maxToolRounds ≤
      config.settings.maxToolRounds := by
    simp [fresh]
  rw [fresh, asked, called, ← settled_rescue_iff, ← responds] at settled
  have unexecuted : ¬ ({} : Tally).executed ≠ [] := fun any => any rfl
  rw [eq_false unexecuted] at settled
  rw [← settled]
  constructor
  · intro accounts
    exact ⟨accounts.settled, accounts.reported⟩
  · intro settles
    refine ⟨?_, settles.settled, settles.reported⟩
    rw [responds]
    exact asks_rescue (asks_runRounds few)

def deleteThenStatus : World :=
  { calmWorld with
    llm := fun _ => .response "Deleting." [
      { id := some "call-1", name := some "evidence.delete" },
      { id := some "call-2", name := some "evidence.check_coverage" }]
    tool := fun _ => .confirmationRequired (.str "Delete evidence 7?") }

/-- The status request is neither executed nor held. -/
theorem call_after_confirmation_dropped :
    ¬ (∀ (config : Config) (world : World) (message skillPrompt playbookPrompt : String)
        (turn : Turn), Accounts config
          (respond config world message skillPrompt playbookPrompt { turn with log := [] })) := by
  intro claimed
  have accounts := claimed bareConfig deleteThenStatus "Clean up." "" ""
    { process := {}, loaded := { state := newSession } }
  cases accounts.settled with
  | inl all => exact absurd (congrArg List.length all) (by decide)
  | inr held =>
    have ⟨call, requested, _⟩ := held
    have two := congrArg List.length requested
    rw [List.length_append, List.length_singleton] at two
    exact absurd two (by decide)

end Chat

end Onpremai.Conversation
