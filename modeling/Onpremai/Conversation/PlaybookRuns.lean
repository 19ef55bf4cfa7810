import Onpremai.Conversation.SavedTurns

/-!
# Playbooks over the turns of a session

The turns of a session, once with its object held in memory and once read back from the
session store for each of them.
-/

namespace Onpremai.Conversation

open Onpremai.Library
open Onpremai.Assistant (UserContext)

/-- Where a session is in a playbook. -/
structure Position where
  playbook : Option String
  step : Int
  deriving DecidableEq

def SessionState.position (state : SessionState) : Position where
  playbook := state.activePlaybook
  step := state.playbookStep

/-- Where a turn works, and where it leaves the session. -/
structure Visit where
  works : Option Position
  leaves : Option Position
  deriving DecidableEq

/-- A session that is held in memory. -/
structure Held where
  process : Process
  state : SessionState

/-- The turn that goes on with the session. -/
def Held.turn (held : Held) : Turn where
  process := held.process
  loaded := { state := held.state }

section Machines

variable (config : Config) (sessionId : String) (user : UserContext)

def playInMemory (held : Held) (input : Action × World) : Held × Visit :=
  let world := storing input.2
  let turn := (Chat.handle config world user input.1 held.turn).2
  ({ process := turn.process, state := turn.session },
    { works := some (Chat.turnPrompts config world user input.1 held.turn).2.session.position
      leaves := some turn.session.position })

def readBack (process : Process) : Option SessionState :=
  (process.sessions.getOrCreate sessionId user .oldest).map Loaded.state

def reloadedTurn (process : Process) (input : Action × World) : Option Turn :=
  startTurn process { sessionId, user, action := input.1 } (storing input.2)

def playReloaded (process : Process) (input : Action × World) : Process × Visit :=
  let world := storing input.2
  let after := (serve config process { sessionId, user, action := input.1 } world).process
  (after,
    { works := (reloadedTurn sessionId user process input).map fun turn =>
        (Chat.turnPrompts config world user input.1 turn).2.session.position
      leaves := (readBack sessionId user after).map SessionState.position })

def LeavesTurn (process : Process) (input : Action × World) : Prop :=
  ∀ turn, reloadedTurn sessionId user process input = some turn →
    Chat.LeavesAll config (storing input.2) user turn input.1

def AdvancesOnce (process : Process) (input : Action × World) : Prop :=
  ∀ turn message prompts prepared, reloadedTurn sessionId user process input = some turn →
    input.1 = .chat message →
    Chat.turnPrompts config (storing input.2) user (.chat message) turn = (.ok prompts, prepared) →
    ¬ IsNaming prepared.session →
    roundsEnd config (storing input.2) config.settings.maxToolRounds prepared.asked
      prepared.called = .answered →
    (playReloaded config sessionId user process input).2.leaves =
      some (Chat.advanceStep config (storing input.2) prepared).2.session.position

end Machines

/-- The process has the session in its session store, and caches like those of another one that
holds the session in memory. -/
structure Mirrors (sessionId : String) (process : Process) (held : Held) : Prop where
  stored : ∃ saved : SessionState, process.sessions.memory.get? sessionId =
    some saved.messagesToStore ∧ saved.core = held.state.core
  sessionId : held.state.sessionId = sessionId
  skills : process.skills = held.process.skills
  playbooks : process.playbooks = held.process.playbooks

section Runs

variable {config : Config} {sessionId : String} {user : UserContext} {process : Process}
  {held : Held} {input : Action × World} {world : World}

open Chat

theorem twins_turnPrompts {counts : Prop} (counted : counts) (action : Action) :
    Handler.Twins (Paired counts) (turnPrompts config world user action)
      (turnPrompts config world user action) := by
  have sessions : Handler.Twins (Paired counts) (sessionPrompts config world user)
      (sessionPrompts config world user) :=
    Handler.twins_bind (twins_resumedPlaybookPrompt _) fun _ =>
      Handler.twins_bind (twins_activeSkillPrompt _) fun _ => Handler.twins_pure _
  have messages (message : String) : Handler.Twins (Paired counts)
      (messagePrompts config world user message) (messagePrompts config world user message) := by
    rw [messagePrompts]
    apply twins_session
    intro first second same
    rw [read_of_core SessionState.isFirstLaunch (fun _ => rfl) same,
      read_of_core SessionState.agentName (fun _ => rfl) same]
    by_cases naming : second.isFirstLaunch ∧ second.agentName = ""
    · rw [if_pos naming]
      exact sessions
    · rw [if_neg naming]
      exact twins_resolveSkillContext message
  cases action with
  | init =>
    exact Handler.twins_bind twins_introduce fun _ =>
      Handler.twins_bind (twins_loadForRole _ _) fun _ =>
        Handler.twins_bind (twins_update fun _ => rfl) fun _ => sessions
  | chat message =>
    refine Handler.twins_bind twins_countMessage fun _ => ?_
    apply twins_session
    intro first second same
    rw [read_of_core SessionState.mode (fun _ => rfl) same]
    cases second.mode with
    | full => exact messages message
    | dataOnly =>
      exact Handler.twins_bind (twins_askLlm counted _ _ _ _ _ _) fun _ =>
        Handler.twins_bind (twins_update fun _ => rfl) fun _ =>
          Handler.twins_bind twins_countMessage fun _ => messages message
  | confirm confirmationId => exact sessions
  | cancel confirmationId => exact sessions

theorem position_of_core {first second : SessionState} (same : first.core = second.core) :
    first.position = second.position :=
  read_of_core SessionState.position (fun _ => rfl) same

theorem getOrCreate_of_stored {saved : SessionState}
    (stored : process.sessions.memory.get? sessionId = some saved.messagesToStore) :
    process.sessions.getOrCreate sessionId user .oldest =
      some { state := { saved with sessionId, conversationHistory := [] } } := by
  have found : firstState? (Recall.messages .oldest 1
      ((process.sessions.memory.get? sessionId).getD [])) = some saved.metadata := by
    rw [stored]
    rfl
  rw [getOrCreate_of_some found, parseState_metadata]
  rfl

theorem core_of_stored {saved state : SessionState} (same : saved.core = state.core)
    (named : state.sessionId = sessionId) :
    ({ saved with sessionId, conversationHistory := [] } : SessionState).core = state.core := by
  have sessionId : saved.sessionId = sessionId :=
    (read_of_core SessionState.sessionId (fun _ => rfl) same).trans named
  rw [← sessionId]
  exact same

theorem position_readBack {state : SessionState} (named : state.sessionId = sessionId)
    (stored : ∃ saved : SessionState, process.sessions.memory.get? sessionId =
      some saved.messagesToStore ∧ saved.core = state.core) :
    (readBack sessionId user process).map SessionState.position = some state.position := by
  obtain ⟨saved, found, same⟩ := stored
  rw [readBack, getOrCreate_of_stored found]
  exact congrArg some (position_of_core (core_of_stored same named))

def released (turn : Turn) : Process :=
  { turn.process with sessions := turn.process.sessions.release turn.loaded }

theorem Mirrors.turn (mirrors : Mirrors sessionId process held) :
    ∃ turn, reloadedTurn sessionId user process input = some turn ∧ Synced turn ∧
      Paired True turn held.turn ∧
        (serve config process { sessionId, user, action := input.1 } (storing input.2)).process =
          released (handle config (storing input.2) user input.1 turn).2 := by
  obtain ⟨saved, found, same⟩ := mirrors.stored
  have loads := @getOrCreate_of_stored sessionId user process saved found
  have recalled : (storing input.2).recalled = .oldest := rfl
  have core := core_of_stored same mirrors.sessionId
  have starts : reloadedTurn sessionId user process input = some
      { process, loaded := { state := { saved with sessionId, conversationHistory := [] } }
        log := [.loaded false] } := by
    rw [reloadedTurn, startTurn, recalled, loads]
    rfl
  refine ⟨_, starts, ?_, ?_, ?_⟩
  · exact ⟨saved, found, same.trans core.symm⟩
  · exact ⟨core, mirrors.skills, mirrors.playbooks, fun _ => ⟨rfl, rfl⟩⟩
  · rw [serve, recalled, loads]
    rfl

theorem Mirrors.next (mirrors : Mirrors sessionId process held)
    (leaves : LeavesTurn config sessionId user process input) :
    Mirrors sessionId (next (playReloaded config sessionId user) process input)
        (next (playInMemory config user) held input) ∧
      (playReloaded config sessionId user process input).2 =
        (playInMemory config user held input).2 := by
  obtain ⟨turn, starts, synced, paired, ends⟩ := @Mirrors.turn config sessionId user process held
    input mirrors
  have alike := (@twins_handle config (storing input.2) user True trivial input.1 turn held.turn
    paired).2
  have saves := (synced_handle_iff synced input.1).mpr (leaves turn starts)
  have named : (handle config (storing input.2) user input.1 held.turn).2.session.sessionId =
      sessionId := (orderly_handle input.1).sessionId sessionId held.turn mirrors.sessionId
  have prompts := (@twins_turnPrompts config user (storing input.2) True trivial input.1 turn
    held.turn paired).2.core
  have stored : ∃ saved : SessionState, (serve config process
      { sessionId, user, action := input.1 } (storing input.2)).process.sessions.memory.get?
        sessionId = some saved.messagesToStore ∧ saved.core =
          (handle config (storing input.2) user input.1 held.turn).2.session.core := by
    rw [ends, released, memory_release]
    obtain ⟨saved, found, same⟩ := saves
    rw [read_of_core SessionState.sessionId (fun _ => rfl) alike.core, named] at found
    exact ⟨saved, found, same.trans alike.core⟩
  constructor
  · refine ⟨stored, named, ?_, ?_⟩
    · exact (congrArg Process.skills ends).trans alike.skills
    · exact (congrArg Process.playbooks ends).trans alike.playbooks
  · rw [playReloaded, playInMemory, position_readBack named stored, starts, Option.map_some,
      position_of_core prompts]

theorem Mirrors.advancesOnce (mirrors : Mirrors sessionId process held)
    (leaves : LeavesTurn config sessionId user process input) :
    AdvancesOnce config sessionId user process input := by
  intro turn message prompts prepared starts chats resolved unnamed answered
  obtain ⟨other, otherStarts, -, paired, -⟩ := @Mirrors.turn config sessionId user process held
    input mirrors
  cases starts.symm.trans otherStarts
  have alike := (@twins_handle config (storing input.2) user True trivial input.1 turn held.turn
    paired).2
  have advances := @core_handleMessage config input.2 user turn message prompts prepared resolved
    unnamed answered
  rw [(mirrors.next leaves).2, playInMemory]
  rw [chats] at alike ⊢
  exact congrArg some (position_of_core (alike.core.symm.trans advances))

def Process.storing (process : Process) (state : SessionState) : Process :=
  { process with sessions := process.sessions.save state {} }

theorem mirrors_storing (process : Process) (state : SessionState) :
    Mirrors state.sessionId (process.storing state) { process, state } where
  stored := ⟨state, (Dict.get?_set _ _ _ _).trans (if_pos rfl), rfl⟩
  sessionId := rfl
  skills := rfl
  playbooks := rfl

/-- In every run whose turns leave in the session store what the session becomes, a session that
is read back for each turn visits the steps that it visits when it is held in memory, and each
text of the language model that ends a turn advances the stored step once. -/
theorem steps_survive_reloads (config : Config) (user : UserContext) (process : Process)
    (state : SessionState) (turns : List (Action × World))
    (leaves : Allowed (next (playReloaded config state.sessionId user))
      (LeavesTurn config state.sessionId user) (process.storing state) turns) :
    answers (playReloaded config state.sessionId user) (process.storing state) turns =
        answers (playInMemory config user) { process, state } turns ∧
      Allowed (next (playReloaded config state.sessionId user))
        (AdvancesOnce config state.sessionId user) (process.storing state) turns := by
  have mirrors := mirrors_storing process state
  constructor
  · apply answers_eq_of_allowed _ _ (Mirrors state.sessionId) _ leaves mirrors
    exact fun _ _ _ leaves mirrors => mirrors.next leaves
  · apply Allowed.imp _ (fun process => ∃ held, Mirrors state.sessionId process held) _ leaves
      ⟨_, mirrors⟩
    intro process input leaves holds
    obtain ⟨held, mirrors⟩ := holds
    exact ⟨⟨_, (mirrors.next leaves).1⟩, mirrors.advancesOnce leaves⟩

end Runs

def playbookSession : SessionState :=
  { newSession with activePlaybook := some "onboarding", playbookStep := 1 }

def playbookUser : UserContext := { tenantId := "acme", userId := "ann", role := "admin" }

def loopingConfig : Config :=
  { bareConfig with
    defaultPlaybook := fun _ => some { steps := [{ step := some 1, loopTo := some 1 }] } }

theorem steps_survive_reloads_loop :
    answers (playReloaded loopingConfig playbookSession.sessionId playbookUser)
          (({} : Process).storing playbookSession) [(.chat "Next.", calmWorld)] =
        answers (playInMemory loopingConfig playbookUser)
          { process := {}, state := playbookSession } [(.chat "Next.", calmWorld)] ∧
      Allowed (next (playReloaded loopingConfig playbookSession.sessionId playbookUser))
        (AdvancesOnce loopingConfig playbookSession.sessionId playbookUser)
        (({} : Process).storing playbookSession) [(.chat "Next.", calmWorld)] := by
  apply steps_survive_reloads
  refine ⟨?_, trivial⟩
  intro turn starts prompts prepared resolved
  cases starts
  cases resolved
  rw [Chat.LeavesMessage, if_neg (by decide)]
  intro playbookId active playbook loaded
  cases active
  cases loaded
  exact ⟨_, rfl, rfl, by decide⟩

def playbookConfig : Config :=
  { bareConfig with
    defaultPlaybook := fun _ =>
      some { steps := [{ step := some 1 }, { step := some 2 }, { step := some 3 }] } }

/-- The text is saved before the step is advanced: read back, the session repeats its step. -/
theorem step_repeated :
    ¬ (∀ (config : Config) (user : UserContext) (process : Process) (state : SessionState)
        (turns : List (Action × World)),
        answers (playReloaded config state.sessionId user) (process.storing state) turns =
          answers (playInMemory config user) { process, state } turns) := by
  intro claimed
  have same := claimed playbookConfig playbookUser {} playbookSession
    [(.chat "Next.", calmWorld), (.chat "Next.", calmWorld)]
  have reloaded : answers (playReloaded playbookConfig "s-1" playbookUser)
      (({} : Process).storing playbookSession)
      [(.chat "Next.", calmWorld), (.chat "Next.", calmWorld)] =
      [{ works := some ⟨some "onboarding", 1⟩, leaves := some ⟨some "onboarding", 1⟩ },
       { works := some ⟨some "onboarding", 1⟩, leaves := some ⟨some "onboarding", 1⟩ }] := by
    rfl
  have inMemory : answers (playInMemory playbookConfig playbookUser)
      { process := {}, state := playbookSession }
      [(.chat "Next.", calmWorld), (.chat "Next.", calmWorld)] =
      [{ works := some ⟨some "onboarding", 1⟩, leaves := some ⟨some "onboarding", 2⟩ },
       { works := some ⟨some "onboarding", 2⟩, leaves := some ⟨some "onboarding", 3⟩ }] := by
    rfl
  exact absurd (reloaded.symm.trans (same.trans inMemory)) (by decide)

end Onpremai.Conversation

/-!
## Walks through a playbook

A session's place in a playbook is a number, and advancing adds one to it.  A step is found by
its number, so a walk goes through the whole playbook only where the numbers leave no gap.
-/

namespace Onpremai.Conversation

open Onpremai.Library

namespace Playbook

def numbers (playbook : Playbook) : List Int :=
  (playbook.steps.filterMap PlaybookStep.step).insertionSort (· ≤ ·)

/-- The steps carry distinct positive numbers. -/
structure Numbered (playbook : Playbook) : Prop where
  positive : ∀ step ∈ playbook.steps, ∃ number, step.step = some number ∧ 0 < number
  distinct : (playbook.steps.map PlaybookStep.step).Nodup

/-- No step leads back to another one. -/
def NoLoops (playbook : Playbook) : Prop := ∀ step ∈ playbook.steps, step.loopTo = none

def NoGaps (playbook : Playbook) : Prop :=
  ∀ number ∈ playbook.numbers, number < playbook.maxStep → number + 1 ∈ playbook.numbers

section

variable {playbook : Playbook}

theorem mem_numbers {number : Int} :
    number ∈ playbook.numbers ↔ ∃ step ∈ playbook.steps, step.step = some number := by
  rw [numbers, List.mem_insertionSort, List.mem_filterMap]

theorem length_numbers (numbered : playbook.Numbered) :
    playbook.numbers.length = playbook.steps.length := by
  have all : (playbook.steps.filterMap PlaybookStep.step).length = playbook.steps.length := by
    rw [List.filterMap_length_eq_length]
    intro step inside
    rcases numbered.positive step inside with ⟨number, carries, -⟩
    rw [carries]
    rfl
  rw [numbers, List.length_insertionSort, all]

theorem steps_ne_nil_of_first (numbered : playbook.Numbered) {number : Int}
    (first : playbook.numbers.head? = some number) : playbook.steps ≠ [] := by
  intro none
  have empty := length_numbers numbered
  rw [none, List.length_nil, List.length_eq_zero_iff] at empty
  rw [empty] at first
  cases first

theorem nodup_numbers (numbered : playbook.Numbered) : playbook.numbers.Nodup := by
  rw [numbers, (List.perm_insertionSort _ _).nodup_iff]
  have distinct := numbered.distinct
  rw [List.Nodup, List.pairwise_map] at distinct
  apply List.Pairwise.filterMap PlaybookStep.step _ distinct
  intro one two apart number carries other alsoCarries same
  apply apart
  rw [carries, alsoCarries, same]

theorem pairwise_numbers (numbered : playbook.Numbered) :
    playbook.numbers.Pairwise (· < ·) := by
  have sorted : playbook.numbers.Pairwise (· ≤ ·) := List.pairwise_insertionSort _ _
  exact (sorted.and (nodup_numbers numbered)).imp fun both => lt_of_le_of_ne both.1 both.2

theorem stepAt_eq_none_iff {number : Int} :
    playbook.stepAt number = none ↔ number ∉ playbook.numbers := by
  rw [stepAt, List.find?_eq_none, mem_numbers]
  simp

theorem le_maxStep {number : Int} (inside : number ∈ playbook.numbers) :
    number ≤ playbook.maxStep := by
  rcases mem_numbers.mp inside with ⟨step, member, carries⟩
  rw [maxStep]
  cases found : (playbook.steps.map fun step => step.step.getD 0).max? with
  | none =>
    rw [List.max?_eq_none_iff, List.map_eq_nil_iff] at found
    rw [found] at member
    cases member
  | some most =>
    apply (List.max?_eq_some_iff.mp found).2
    rw [List.mem_map]
    exact ⟨step, member, by rw [carries]; rfl⟩

theorem maxStep_mem (numbered : playbook.Numbered) (steps : playbook.steps ≠ []) :
    playbook.maxStep ∈ playbook.numbers := by
  rw [maxStep]
  cases found : (playbook.steps.map fun step => step.step.getD 0).max? with
  | none =>
    rw [List.max?_eq_none_iff, List.map_eq_nil_iff] at found
    exact absurd found steps
  | some most =>
    rcases List.mem_map.mp (List.max?_eq_some_iff.mp found).1 with ⟨step, member, same⟩
    rcases numbered.positive step member with ⟨number, carries, -⟩
    rw [carries, Option.getD_some] at same
    rw [Option.getD_some, ← same]
    exact mem_numbers.mpr ⟨step, member, carries⟩

theorem maxStep_eq (numbered : playbook.Numbered) {index : Nat}
    (last : index + 1 = playbook.numbers.length) :
    playbook.numbers[index]? = some playbook.maxStep := by
  have inside : index < playbook.numbers.length := by omega
  have steps : playbook.steps ≠ [] := by
    intro none
    rw [length_numbers numbered, none] at last
    cases last
  rcases List.mem_iff_getElem.mp (maxStep_mem numbered steps) with ⟨place, within, same⟩
  rw [List.getElem?_eq_getElem inside, Option.some.injEq]
  apply le_antisymm
  · exact le_maxStep (List.getElem_mem inside)
  · rw [← same]
    rcases Nat.lt_or_ge place index with earlier | here
    · exact (List.pairwise_iff_getElem.mp (pairwise_numbers numbered) _ _ within inside
        earlier).le
    · have place_eq : place = index := by omega
      subst place_eq
      exact le_refl _

theorem getElem_succ_of_noGaps (numbered : playbook.Numbered) (noGaps : playbook.NoGaps)
    {index : Nat} (inside : index + 1 < playbook.numbers.length) :
    playbook.numbers[index + 1] = playbook.numbers[index] + 1 := by
  have sorted := List.pairwise_iff_getElem.mp (pairwise_numbers numbered)
  have rises := sorted index (index + 1) (by omega) inside (Nat.lt_succ_self index)
  have below : playbook.numbers[index] < playbook.maxStep :=
    lt_of_lt_of_le rises (le_maxStep (List.getElem_mem inside))
  rcases List.mem_iff_getElem.mp (noGaps _ (List.getElem_mem _) below) with ⟨place, within, same⟩
  rcases Nat.lt_trichotomy place (index + 1) with earlier | here | later
  · rcases Nat.lt_or_ge place index with before | at_
    · have less := sorted place index within (by omega) before
      omega
    · have place_eq : place = index := by omega
      subst place_eq
      omega
  · subst here
    exact same
  · have less := sorted (index + 1) place inside within later
    omega

theorem nextStep_of_mem (noLoops : playbook.NoLoops) {state : SessionState}
    (inside : state.playbookStep ∈ playbook.numbers) :
    nextStep playbook state =
      if playbook.maxStep < state.playbookStep + 1 then completePlaybook state
      else { state with playbookStep := state.playbookStep + 1 } := by
  rw [nextStep]
  cases found : playbook.stepAt state.playbookStep with
  | none => exact absurd inside (stepAt_eq_none_iff.mp found)
  | some current =>
    have straight : current.loopTo = none := noLoops current (List.mem_of_find?_eq_some found)
    simp only [straight, Option.filter_none]

theorem activePlaybook_nextStep (playbook : Playbook) (state : SessionState) :
    (nextStep playbook state).activePlaybook = state.activePlaybook ∨
      (nextStep playbook state).activePlaybook = none := by
  rw [nextStep]
  split
  · exact .inr rfl
  · split
    · exact .inl rfl
    · split
      · exact .inr rfl
      · exact .inl rfl

theorem nextStep_of_loop {state : SessionState} {current : PlaybookStep} {target : Int}
    (at_ : playbook.stepAt state.playbookStep = some current)
    (loops : current.loopTo = some target) (named : target ≠ 0) :
    nextStep playbook state = { state with playbookStep := target } := by
  rw [nextStep, at_]
  simp only [loops, Option.filter_some, named, ne_eq, not_false_eq_true, decide_true, if_true]

end

end Playbook

namespace Chat

open Handler

/-! ## The engine of a process -/

section

variable (config : Config) (world : World)

/-- A request after its playbook was advanced some times. -/
def advances (count : Nat) (turn : Turn) : Turn :=
  (fun turn => (advanceStep config world turn).2)^[count] turn

/-- A session plays a playbook that the engine finds. -/
structure Plays (playbookId : String) (playbook : Playbook) (turn : Turn) : Prop where
  named : playbookId ≠ ""
  active : turn.session.activePlaybook = some playbookId
  found : (loadPlaybook config world playbookId turn.session.tenantId turn).1 = .ok (some playbook)

variable {config world} {playbookId : String} {playbook : Playbook} {turn : Turn}

theorem loadPlaybook_caches {tenantId : String}
    (found : (loadPlaybook config world playbookId tenantId turn).1 = .ok (some playbook)) :
    (loadPlaybook config world playbookId tenantId turn).2.process.playbooks.get? playbookId =
      some playbook := by
  rw [loadPlaybook] at found ⊢
  have looked : cachedPlaybook playbookId turn = (.ok (turn.process.playbooks.get? playbookId),
        { turn with log := turn.log ++ [.lookedUp (.playbook playbookId)] }) := rfl
  rw [bind_of_ok looked] at found ⊢
  cases cached : turn.process.playbooks.get? playbookId with
  | some held =>
    rw [cached] at found
    have same : held = playbook := Option.some.inj (Except.ok.inj found)
    rw [← same]
    exact cached
  | none =>
    rw [cached] at found
    dsimp only at found ⊢
    cases recalled : world.playbookRecall tenantId playbookId with
    | some answer =>
      rw [recalled] at found
      have same : answer = playbook := Option.some.inj (Except.ok.inj found)
      rw [← same]
      exact (Dict.get?_set _ _ _ _).trans (if_pos rfl)
    | none =>
      rw [recalled] at found
      dsimp only at found ⊢
      cases builtIn : config.defaultPlaybook playbookId with
      | some held =>
        rw [builtIn] at found
        have same : held = playbook := Option.some.inj (Except.ok.inj found)
        rw [← same]
        exact (Dict.get?_set _ _ _ _).trans (if_pos rfl)
      | none =>
        rw [builtIn] at found
        exact absurd (Except.ok.inj found) (Option.some_ne_none _).symm

theorem loadPlaybook_of_cached {tenantId : String}
    (cached : turn.process.playbooks.get? playbookId = some playbook) :
    (loadPlaybook config world playbookId tenantId turn).1 = .ok (some playbook) := by
  rw [loadPlaybook]
  have looked : cachedPlaybook playbookId turn = (.ok (some playbook),
        { turn with log := turn.log ++ [.lookedUp (.playbook playbookId)] }) := by
    rw [← cached]
    rfl
  rw [bind_of_ok looked]
  rfl

theorem advanceStep_plays (plays : Plays config world playbookId playbook turn) :
    (advanceStep config world turn).2.session = nextStep playbook turn.session ∧
      (advanceStep config world turn).2.process.playbooks.get? playbookId = some playbook := by
  have caches := loadPlaybook_caches plays.found
  obtain ⟨value, after, ran, leaves⟩ :=
    (@consults_loadPlaybook config world playbookId turn.session.tenantId).ran turn
  have found := plays.found
  rw [ran] at found caches
  have value_eq : value = some playbook := Except.ok.inj found
  subst value_eq
  have active : (turn.session.activePlaybook.filter fun id => decide (id ≠ "")) =
      some playbookId := by
    rw [plays.active, Option.filter_some]
    simp [plays.named]
  have stepped : advanceStep config world turn = modifySession (nextStep playbook) after := by
    rw [advanceStep, session_bind, active]
    exact bind_of_ok ran _
  rw [stepped]
  have same : after.session = turn.session := congrArg Loaded.state leaves.loaded
  exact ⟨congrArg (nextStep playbook) same, caches⟩

theorem advanceStep_idle (idle : turn.session.activePlaybook = none) :
    (advanceStep config world turn).2 = turn := by
  rw [advanceStep, session_bind, idle]
  rfl

theorem advances_succ (count : Nat) : advances config world (count + 1) turn =
      (advanceStep config world (advances config world count turn)).2 :=
  Function.iterate_succ_apply' _ _ _

end

/-- A session has no active playbook any more. -/
structure Completed (state : SessionState) : Prop where
  inactive : state.activePlaybook = none
  step : state.playbookStep = 0
  data : state.playbookData = []

/-- A session visits the steps of its playbook one after the other, by their numbers, and then
the playbook is complete. -/
structure WalksThrough (config : Config) (world : World) (playbookId : String)
    (playbook : Playbook) (turn : Turn) : Prop where
  visits : ∀ index number, playbook.numbers[index]? = some number →
    (advances config world index turn).session.position =
      { playbook := some playbookId, step := number }
  completes : Completed (advances config world playbook.numbers.length turn).session

/-- What is promised of a session with a playbook: from the first step of a playbook without
loops it walks through all steps, and from a step with a loop it goes to the step that the loop
names. -/
structure GoesByNumbers (config : Config) (world : World) (playbookId : String)
    (playbook : Playbook) (turn : Turn) : Prop where
  walks : playbook.NoLoops → playbook.numbers.head? = some turn.session.playbookStep →
    WalksThrough config world playbookId playbook turn
  loops : ∀ current target, playbook.stepAt turn.session.playbookStep = some current →
    current.loopTo = some target → target ∈ playbook.numbers →
      (advanceStep config world turn).2.session = { turn.session with playbookStep := target }

section

variable {config : Config} {world : World} {playbookId : String} {playbook : Playbook}
  {turn : Turn}

theorem plays_or_idle (plays : Plays config world playbookId playbook turn) (count : Nat) :
    Plays config world playbookId playbook (advances config world count turn) ∨
      (advances config world count turn).session.activePlaybook = none := by
  induction count with
  | zero => exact .inl plays
  | succ count ih =>
    rw [advances_succ]
    rcases ih with still | idle
    · obtain ⟨moved, cached⟩ := advanceStep_plays still
      rcases Playbook.activePlaybook_nextStep playbook (advances config world count turn).session with
        same | none
      · left
        constructor
        · exact still.named
        · rw [moved, same]
          exact still.active
        · exact loadPlaybook_of_cached cached
      · right
        rw [moved, none]
    · right
      rw [advanceStep_idle idle]
      exact idle

theorem plays_advanceStep (plays : Plays config world playbookId playbook turn)
    (noLoops : playbook.NoLoops) (inside : turn.session.playbookStep ∈ playbook.numbers)
    (before : turn.session.playbookStep < playbook.maxStep) :
    Plays config world playbookId playbook (advanceStep config world turn).2 ∧
      (advanceStep config world turn).2.session.playbookStep =
        turn.session.playbookStep + 1 := by
  obtain ⟨moved, cached⟩ := advanceStep_plays plays
  rw [Playbook.nextStep_of_mem noLoops inside, if_neg (by omega)] at moved
  constructor
  · constructor
    · exact plays.named
    · rw [moved]
      exact plays.active
    · exact loadPlaybook_of_cached cached
  · rw [moved]

theorem plays_advances (numbered : playbook.Numbered) (noLoops : playbook.NoLoops)
    (noGaps : playbook.NoGaps) (plays : Plays config world playbookId playbook turn)
    (first : playbook.numbers.head? = some turn.session.playbookStep) {index : Nat}
    (inside : index < playbook.numbers.length) :
    Plays config world playbookId playbook (advances config world index turn) ∧
      (advances config world index turn).session.playbookStep = playbook.numbers[index] := by
  induction index with
  | zero =>
    refine ⟨plays, ?_⟩
    rw [List.head?_eq_getElem?, List.getElem?_eq_getElem inside, Option.some.injEq] at first
    exact first.symm
  | succ index ih =>
    obtain ⟨still, here⟩ := ih (by omega)
    have next := Playbook.getElem_succ_of_noGaps numbered noGaps inside
    have most := Playbook.le_maxStep (List.getElem_mem inside)
    rw [advances_succ, next, ← here]
    apply plays_advanceStep still noLoops
    · rw [here]
      exact List.getElem_mem _
    · omega

theorem walksThrough_iff (numbered : playbook.Numbered) (steps : playbook.steps ≠ [])
    (noLoops : playbook.NoLoops) (plays : Plays config world playbookId playbook turn) :
    WalksThrough config world playbookId playbook turn ↔
      playbook.numbers.head? = some turn.session.playbookStep ∧ playbook.NoGaps := by
  have filled : 0 < playbook.numbers.length := by
    rw [Playbook.length_numbers numbered]
    exact List.length_pos_of_ne_nil steps
  constructor
  · intro walks
    constructor
    · have start := walks.visits 0 _ (List.getElem?_eq_getElem filled)
      rw [List.head?_eq_getElem?, List.getElem?_eq_getElem filled]
      exact congrArg some (congrArg Position.step start).symm
    · intro number member below
      obtain ⟨index, inside, same⟩ := List.mem_iff_getElem.mp member
      -- a number below the last one has another one behind it
      have later : index + 1 < playbook.numbers.length := by
        by_contra last
        have atEnd : playbook.numbers[index]? = some playbook.maxStep :=
          Playbook.maxStep_eq numbered (by omega)
        rw [List.getElem?_eq_getElem inside, Option.some.injEq, same] at atEnd
        omega
      have here := walks.visits index _ (List.getElem?_eq_getElem inside)
      have next := walks.visits (index + 1) _ (List.getElem?_eq_getElem later)
      have atHere : (advances config world index turn).session.playbookStep = number :=
        (congrArg Position.step here).trans same
      have still : Plays config world playbookId playbook (advances config world index turn) := by
        rcases plays_or_idle plays index with still | idle
        · exact still
        · exact absurd (idle.symm.trans (congrArg Position.playbook here)) (by simp)
      have stepped := plays_advanceStep still noLoops (by rwa [atHere]) (by rwa [atHere])
      rw [advances_succ] at next
      have there := (congrArg Position.step next).symm.trans stepped.2
      rw [atHere] at there
      rw [← there]
      exact List.getElem_mem later
  · rintro ⟨first, noGaps⟩
    constructor
    · intro index number at_
      rw [List.getElem?_eq_some_iff] at at_
      obtain ⟨inside, same⟩ := at_
      obtain ⟨still, here⟩ := plays_advances numbered noLoops noGaps plays first inside
      rw [SessionState.position, still.active, here, same]
    · obtain ⟨last, count⟩ : ∃ last, playbook.numbers.length = last + 1 :=
        ⟨playbook.numbers.length - 1, by omega⟩
      have inside : last < playbook.numbers.length := by omega
      obtain ⟨still, here⟩ := plays_advances numbered noLoops noGaps plays first inside
      have most := Playbook.maxStep_eq numbered count.symm
      rw [List.getElem?_eq_getElem (by omega), Option.some.injEq] at most
      have ended := (advanceStep_plays still).1
      rw [Playbook.nextStep_of_mem noLoops (by rw [here]; exact List.getElem_mem _),
        if_pos (by omega)] at ended
      rw [count, advances_succ, ended]
      exact ⟨rfl, rfl, rfl⟩

/-- A session goes by the numbers of its playbook exactly when, if it is at the first step and
no step has a loop, the numbers leave no gap. -/
theorem goesByNumbers_iff (numbered : playbook.Numbered)
    (plays : Plays config world playbookId playbook turn) :
    GoesByNumbers config world playbookId playbook turn ↔
      (playbook.NoLoops → playbook.numbers.head? = some turn.session.playbookStep →
        playbook.NoGaps) := by
  constructor
  · intro goes noLoops first
    have steps := Playbook.steps_ne_nil_of_first numbered first
    exact ((walksThrough_iff numbered steps noLoops plays).mp (goes.walks noLoops first)).2
  · intro noGaps
    constructor
    · intro noLoops first
      have steps := Playbook.steps_ne_nil_of_first numbered first
      exact (walksThrough_iff numbered steps noLoops plays).mpr ⟨first, noGaps noLoops first⟩
    · intro current target at_ loops existing
      rw [(advanceStep_plays plays).1]
      apply Playbook.nextStep_of_loop at_ loops
      rcases Playbook.mem_numbers.mp existing with ⟨step, member, carries⟩
      rcases numbered.positive step member with ⟨number, same, positive⟩
      rw [carries, Option.some.injEq] at same
      omega

end

def gappedPlaybook : Playbook where
  steps := [{ step := some 1 }, { step := some 3 }]

/-- An assistant with it. -/
def gappedConfig : Config :=
  { bareConfig with defaultPlaybook := fun _ => some gappedPlaybook }

def gappedTurn : Turn where
  process := {}
  loaded := { state := playbookSession }

theorem numbered_gappedPlaybook : gappedPlaybook.Numbered where
  positive := by
    intro step member
    rcases List.mem_pair.mp member with rfl | rfl
    · exact ⟨1, rfl, by decide⟩
    · exact ⟨3, rfl, by decide⟩
  distinct := by decide

theorem plays_gappedTurn :
    Plays gappedConfig calmWorld "onboarding" gappedPlaybook gappedTurn where
  named := by decide
  active := rfl
  found := rfl

theorem goesByNumbers_iff_gapped :
    GoesByNumbers gappedConfig calmWorld "onboarding" gappedPlaybook gappedTurn ↔
      (gappedPlaybook.NoLoops →
        gappedPlaybook.numbers.head? = some gappedTurn.session.playbookStep →
          gappedPlaybook.NoGaps) :=
  goesByNumbers_iff numbered_gappedPlaybook plays_gappedTurn

theorem last_step_never_visited :
    ¬ GoesByNumbers gappedConfig calmWorld "onboarding" gappedPlaybook gappedTurn := by
  intro goes
  have noLoops : gappedPlaybook.NoLoops := by
    intro step member
    rcases List.mem_pair.mp member with rfl | rfl <;> rfl
  have last := (goes.walks noLoops (by decide)).visits 1 3 (by decide)
  exact absurd last (by decide)

end Chat

end Onpremai.Conversation
