import Onpremai.Conversation.Parties
import Onpremai.Library.Transducer

/-!
# Tenants

Sessions are found by an identifier that the caller supplies, whoever has created them, and
the caches of skills and playbooks are shared by all tenants.  A user's requests do not depend
on those of others as long as they come across nothing that somebody else has left.
-/

namespace Onpremai.Conversation

open Onpremai.Library

/-- The process, with the entries that a party's own requests have left in its caches. -/
structure Watch where
  process : Process := {}
  own : CacheKey → Option (Skill ⊕ Playbook) := fun _ => none

def watched (config : Config) (party : Party) (watch : Watch) (request : Request × World) :
    Watch × (Option ChatResponse × List Event) :=
  let served := serve config watch.process request.1 request.2
  ({ process := served.process
     own := fun key =>
       if request.1.party = party ∧ key ∈ cachedKeys served.log then served.process.entry key
       else watch.own key },
    served.response, served.log)

def Separate (config : Config) (party : Party) (watch : Watch) (request : Request × World) : Prop :=
  if request.1.party = party then
    (∀ owner ∈ watch.process.sessions.owners request.1.sessionId, owner = party) ∧
      Heeds (fun key => watch.process.entry key = watch.own key)
        (serve config watch.process request.1 request.2).log
  else party ∉ watch.process.sessions.owners request.1.sessionId

namespace Chat

open Handler

variable {world : World} {party : Party} {sound : CacheKey → Prop} {before : Process}

/-- Two requests of a party that have come equally far, the second one in a process that has
only the party's sessions.  The caches agree on the entries that may be looked up, and the
second request has changed no others. -/
structure Alike (party : Party) (sound : CacheKey → Prop) (before : Process)
    (first second : Turn) : Prop where
  loaded : first.loaded = second.loaded
  log : first.log = second.log
  asked : first.asked = second.asked
  called : first.called = second.called
  stored : first.stored = second.stored
  mine : first.session.party = party
  sees : Sees party first.process.sessions second.process.sessions
  consistent : Consistent first.process.sessions
  entries : ∀ key, sound key ∨ key ∈ cachedKeys first.log →
    first.process.entry key = second.process.entry key
  others : ∀ key, key ∉ cachedKeys second.log → second.process.entry key = before.entry key

def InStep (party : Party) (sound : CacheKey → Prop) (before : Process) {α : Type}
    (handler : Chat α) : Prop :=
  Lockstep (fun turn => Heeds sound turn.log) (Alike party sound before) handler

theorem inStep_session : InStep party sound before session :=
  lockstep_look fun _ _ same _ => congrArg Loaded.state same.loaded

theorem inStep_counted {α : Type} (view : Nat → α) :
    InStep party sound before (look fun turn => view turn.called) :=
  lockstep_look fun _ _ same _ => congrArg view same.called

theorem party_of_sameOwner {first second : SessionState} (same : SameOwner first second) :
    first.party = second.party := by
  rw [SessionState.party, SessionState.party, same.tenantId, same.userId]

theorem inStep_modifySession {update : SessionState → SessionState}
    (owner : ∀ state, SameOwner (update state) state) :
    InStep party sound before (modifySession update) := by
  apply lockstep_change
  · exact fun _ fine => fine
  · intro first second same _
    refine { same with loaded := ?_, mine := ?_ }
    · rw [same.loaded]
    · exact (party_of_sameOwner (owner first.session)).trans same.mine

theorem Alike.noted {first second : Turn} (same : Alike party sound before first second)
    {event : Event} (plain : event.Plain) :
    Alike party sound before { first with log := first.log ++ [event] }
      { second with log := second.log ++ [event] } := by
  refine { same with log := ?_, entries := ?_, others := ?_ }
  · rw [same.log]
  · intro key known
    apply same.entries key
    rw [cachedKeys_concat_plain plain] at known
    exact known
  · intro key unknown
    apply same.others key
    rw [cachedKeys_concat_plain plain] at unknown
    exact unknown

theorem inStep_askLlm (task : String) (messages : List Message) (tools : Option (List Json)) :
    InStep party sound before (askLlm world task messages tools) := by
  constructor
  · intro turn heeds
    rw [askLlm_eq] at heeds
    exact heeds.of_concat
  · intro first second same _
    rw [askLlm_eq, askLlm_eq, ← same.asked]
    have noted := @Alike.noted party sound before first second same
      (.asked task messages tools (world.llm first.asked)) fun _ =>
        ⟨Event.noConfusion, Event.noConfusion⟩
    exact ⟨rfl, { noted with asked := congrArg (· + 1) rfl }⟩

theorem inStep_callTool {event : ToolResult → Event} (plain : ∀ result, (event result).Plain) :
    InStep party sound before (callTool world event) := by
  have unfolds (turn : Turn) : callTool world event turn = (.ok (world.tool turn.called),
        { turn with
          called := turn.called + 1
          log := turn.log ++ [event (world.tool turn.called)] }) := rfl
  constructor
  · intro turn heeds
    exact Heeds.of_concat heeds
  · intro first second same _
    rw [unfolds, unfolds, ← same.called]
    exact ⟨rfl, { same.noted (plain _) with called := congrArg (· + 1) rfl }⟩

theorem inStep_save : InStep party sound before (save world) := by
  have unfolds (turn : Turn) : save world turn = (.ok ⟨⟩,
        { turn with
          stored := turn.stored + 1
          process := { turn.process with
            sessions := turn.process.sessions.save turn.session (world.store turn.stored) }
          loaded := turn.loaded.saved (world.store turn.stored)
          log := turn.log ++ [.stored turn.session.sessionId turn.session.messagesToStore
            (world.store turn.stored)] }) := rfl
  constructor
  · intro turn heeds
    exact Heeds.of_concat heeds
  · intro first second same _
    have sessions : first.session = second.session := congrArg Loaded.state same.loaded
    rw [unfolds, unfolds, ← same.stored, ← sessions]
    have noted := @Alike.noted party sound before first second same
      (.stored first.session.sessionId first.session.messagesToStore (world.store first.stored))
      fun _ => ⟨Event.noConfusion, Event.noConfusion⟩
    refine ⟨rfl, { noted with
      loaded := ?_, stored := congrArg (· + 1) rfl, sees := ?_, consistent := ?_ }⟩
    · rw [same.loaded]
    · exact same.sees.save same.mine _
    · exact same.consistent.save _ _

section Caches

theorem Alike.lookedUp {first second : Turn} (same : Alike party sound before first second)
    (key : CacheKey) :
    Alike party sound before { first with log := first.log ++ [.lookedUp key] }
      { second with log := second.log ++ [.lookedUp key] } := by
  refine { same with log := ?_, entries := ?_, others := ?_ }
  · rw [same.log]
  · intro other known
    apply same.entries other
    rw [cachedKeys_concat_lookedUp] at known
    exact known
  · intro other unknown
    apply same.others other
    rw [cachedKeys_concat_lookedUp] at unknown
    exact unknown

theorem inStep_cachedSkill (skillId : String) :
    InStep party sound before (cachedSkill skillId) := by
  constructor
  · intro turn heeds
    exact Heeds.of_concat heeds
  · intro first second same heeds
    have found := same.entries (.skill skillId) (Heeds.last heeds)
    constructor
    · exact congrArg Except.ok (Option.map_injective Sum.inl_injective found)
    · exact same.lookedUp (.skill skillId)

theorem inStep_cachedPlaybook (playbookId : String) :
    InStep party sound before (cachedPlaybook playbookId) := by
  constructor
  · intro turn heeds
    exact Heeds.of_concat heeds
  · intro first second same heeds
    have found := same.entries (.playbook playbookId) (Heeds.last heeds)
    constructor
    · exact congrArg Except.ok (Option.map_injective Sum.inr_injective found)
    · exact same.lookedUp (.playbook playbookId)

theorem Alike.cached {first second : Turn} (same : Alike party sound before first second)
    {key : CacheKey} {value : Skill ⊕ Playbook} {firstAfter secondAfter : Process}
    (sessions : firstAfter.sessions = first.process.sessions)
    (otherSessions : secondAfter.sessions = second.process.sessions)
    (writes : ∀ other, firstAfter.entry other =
      if key = other then some value else first.process.entry other)
    (otherWrites : ∀ other, secondAfter.entry other =
      if key = other then some value else second.process.entry other) :
    Alike party sound before
      { first with process := firstAfter, log := first.log ++ [.cached key] }
      { second with process := secondAfter, log := second.log ++ [.cached key] } := by
  refine { same with log := ?_, sees := ?_, consistent := ?_, entries := ?_, others := ?_ }
  · rw [same.log]
  · rw [sessions, otherSessions]
    exact same.sees
  · rw [sessions]
    exact same.consistent
  · intro other known
    rw [cachedKeys_concat_cached, List.mem_append, List.mem_singleton] at known
    rw [writes, otherWrites]
    split
    · rfl
    · next differs =>
      apply same.entries other
      exact known.imp id fun cached => cached.resolve_right (Ne.symm differs)
  · intro other unknown
    rw [cachedKeys_concat_cached, List.mem_append, List.mem_singleton, not_or] at unknown
    rw [otherWrites, if_neg (Ne.symm unknown.2)]
    exact same.others other unknown.1

theorem inStep_cacheSkill (skillId : String) (skill : Skill) :
    InStep party sound before (cacheSkill skillId skill) := by
  apply lockstep_change
  · intro turn heeds
    exact Heeds.of_concat heeds
  · intro first second same _
    refine same.cached ?_ ?_ (entry_setSkill skillId skill) (entry_setSkill skillId skill)
    · rfl
    · rfl

theorem inStep_cachePlaybook (playbookId : String) (playbook : Playbook) :
    InStep party sound before (cachePlaybook playbookId playbook) := by
  apply lockstep_change
  · intro turn heeds
    exact Heeds.of_concat heeds
  · intro first second same _
    refine same.cached ?_ ?_ (entry_setPlaybook playbookId playbook)
      (entry_setPlaybook playbookId playbook)
    · rfl
    · rfl

end Caches

theorem Orderly.inStep {α : Type} {handler : Chat α} (orderly : Orderly world handler) :
    InStep party sound before handler := by
  induction orderly with
  | pure value => exact lockstep_pure value
  | raise failure => exact lockstep_raise failure
  | bind _ _ ih₁ ih₂ => exact lockstep_bind ih₁ ih₂
  | rescue _ _ ih₁ ih₂ => exact lockstep_rescue ih₁ ih₂
  | session => exact inStep_session
  | counted view => exact inStep_counted view
  | modifySession owner => exact inStep_modifySession owner
  | askLlm task messages tools => exact inStep_askLlm task messages tools
  | callTool plain => exact inStep_callTool plain
  | save => exact inStep_save
  | cachedSkill skillId => exact inStep_cachedSkill skillId
  | cacheSkill skillId skill => exact inStep_cacheSkill skillId skill
  | cachedPlaybook playbookId => exact inStep_cachedPlaybook playbookId
  | cachePlaybook playbookId playbook => exact inStep_cachePlaybook playbookId playbook

section Others

variable {own : SessionManager} {sessionId : String}

/-- A request works on a session of somebody else than the party, which has none under its
identifier. -/
structure Stranger (party : Party) (own : SessionManager) (sessionId : String) (turn : Turn) :
    Prop where
  other : turn.session.party ≠ party
  found : turn.session.sessionId = sessionId
  sees : Sees party turn.process.sessions own
  consistent : Consistent turn.process.sessions

theorem Orderly.stranger (noCopy : own.memory.get? sessionId = none)
    (noObject : own.fallbackSessions.get? sessionId = none) {α : Type} {handler : Chat α}
    (orderly : Orderly world handler) : Keeps (Stranger party own sessionId) handler := by
  induction orderly with
  | pure value => exact keeps_pure value
  | raise failure => exact keeps_raise failure
  | bind _ _ ih₁ ih₂ => exact keeps_bind ih₁ ih₂
  | rescue _ _ ih₁ ih₂ => exact keeps_rescue ih₁ ih₂
  | session => exact keeps_look _
  | counted view => exact keeps_look _
  | modifySession owner =>
    intro turn stranger
    have same := owner turn.session
    refine { stranger with other := ?_, found := same.sessionId.trans stranger.found }
    exact fun mine => stranger.other ((party_of_sameOwner same).symm.trans mine)
  | askLlm task messages tools =>
    intro turn stranger
    rw [askLlm_eq]
    exact { stranger with }
  | callTool plain => exact fun turn stranger => { stranger with }
  | save =>
    intro turn stranger
    refine { stranger with sees := ?_, consistent := stranger.consistent.save _ _ }
    apply stranger.sees.save_other stranger.other
    · rw [stranger.found]
      exact noCopy
    · rw [stranger.found]
      exact noObject
  | cachedSkill skillId => exact fun turn stranger => { stranger with }
  | cacheSkill skillId skill => exact fun turn stranger => { stranger with }
  | cachedPlaybook playbookId => exact fun turn stranger => { stranger with }
  | cachePlaybook playbookId playbook => exact fun turn stranger => { stranger with }

end Others

end Chat

open Chat

section Serving

variable {config : Config} {party : Party} {watch : Watch} {alone : Process}
  {request : Request × World}

/-- A request that has loaded its session. -/
def begun (process : Process) (loaded : Loaded) : Turn :=
  { process, loaded, log := [.loaded loaded.kept] }

def handled (config : Config) (process : Process) (loaded : Loaded) (request : Request × World) :
    Except Failure ChatResponse × Turn :=
  handle config request.2 request.1.user request.1.action (begun process loaded)

theorem serve_of_some {process : Process} {loaded : Loaded}
    (loads : process.sessions.getOrCreate request.1.sessionId request.1.user request.2.recalled =
      some loaded) :
    serve config process request.1 request.2 =
      { response := (handled config process loaded request).1.toOption
        process := { (handled config process loaded request).2.process with
          sessions := (handled config process loaded request).2.process.sessions.release
            (handled config process loaded request).2.loaded }
        log := (handled config process loaded request).2.log } := by
  rw [serve, loads]
  rfl

theorem serve_of_none {process : Process}
    (loads : process.sessions.getOrCreate request.1.sessionId request.1.user request.2.recalled =
      none) :
    serve config process request.1 request.2 = { response := none, process } := by
  rw [serve, loads]

/-- The other process has just the party's sessions, and the cache entries that the party's own
requests have left. -/
structure Related (party : Party) (watch : Watch) (alone : Process) : Prop where
  sees : Sees party watch.process.sessions alone.sessions
  consistent : Consistent watch.process.sessions
  entries : ∀ key, alone.entry key = watch.own key

section

variable {manager : SessionManager} {sessionId : String}

theorem mem_owners_of_memory
    {messages : List StoredMessage} (found : manager.memory.get? sessionId = some messages)
    (created : copyParty messages = some party) : party ∈ manager.owners sessionId := by
  rw [SessionManager.owners, found, Option.bind_some, created]
  exact List.mem_append_left _ (List.mem_singleton_self party)

theorem mem_owners_of_fallback
    {state : SessionState} (found : manager.fallbackSessions.get? sessionId = some state) :
    state.party ∈ manager.owners sessionId := by
  rw [SessionManager.owners, found]
  exact List.mem_append_right _ (List.mem_singleton_self state.party)

end

theorem loads_alike (related : Related party watch alone)
    (owners : ∀ owner ∈ watch.process.sessions.owners request.1.sessionId, owner = party) :
    alone.sessions.getOrCreate request.1.sessionId request.1.user request.2.recalled =
      watch.process.sessions.getOrCreate request.1.sessionId request.1.user
        request.2.recalled := by
  apply getOrCreate_congr
  · apply related.sees.memory.get?_eq
    intro messages found
    obtain ⟨state, same⟩ := related.consistent.memory _ _ found
    have created : copyParty messages = some state.party := by
      rw [same, copyParty_messagesToStore]
    rw [created, owners _ (mem_owners_of_memory found created)]
  · apply related.sees.fallback.get?_eq
    exact fun state found => owners _ (mem_owners_of_fallback found)

theorem served_alike (related : Related party watch alone) (mine : request.1.party = party)
    (separate : Separate config party watch request) :
    (watched config party watch request).2 = (react config alone request).2 ∧
      Related party (next (watched config party) watch request)
        (next (react config) alone request) := by
  rw [Separate, if_pos mine] at separate
  have same := loads_alike related separate.1
  cases loads : watch.process.sessions.getOrCreate request.1.sessionId request.1.user
      request.2.recalled with
  | none =>
    rw [loads] at same
    rw [next, next, watched, react, serve_of_none loads, serve_of_none same]
    refine ⟨rfl, related.sees, related.consistent, ?_⟩
    intro key
    rw [related.entries key]
    exact (if_neg fun both => List.not_mem_nil both.2).symm
  | some loaded =>
    rw [loads] at same
    have owner := owner_getOrCreate related.consistent loads
    have created : loaded.state.party = party :=
      owner.2.elim (separate.1 _) fun fresh => fresh.trans mine
    have heeds := separate.2
    rw [serve_of_some loads] at heeds
    have alike : Alike party (fun key => watch.process.entry key = watch.own key) alone
        (begun watch.process loaded) (begun alone loaded) :=
      ⟨rfl, rfl, rfl, rfl, rfl, created, related.sees, related.consistent,
        fun key known => (known.resolve_right List.not_mem_nil).trans
          (related.entries key).symm, fun _ _ => rfl⟩
    obtain ⟨results, ended⟩ := (orderly_handle request.1.action).inStep.alike _ _ alike heeds
    have after : Alike party (fun key => watch.process.entry key = watch.own key) alone
      (handled config watch.process loaded request).2
      (handled config alone loaded request).2 := ended
    rw [next, next, watched, react, serve_of_some loads, serve_of_some same]
    refine ⟨Prod.ext (congrArg Except.toOption results) after.log, ?_, ?_, ?_⟩
    · change Sees party _ ((handled config alone loaded request).2.process.sessions.release
        (handled config alone loaded request).2.loaded)
      rw [← after.loaded]
      exact after.sees.release after.mine
    · exact after.consistent.release _
    · intro key
      change (handled config alone loaded request).2.process.entry key =
        if request.1.party = party ∧
            key ∈ cachedKeys (handled config watch.process loaded request).2.log then
          (handled config watch.process loaded request).2.process.entry key
        else watch.own key
      split
      · next written => exact (after.entries key (.inr written.2)).symm
      · next unwritten =>
        rw [← related.entries key]
        apply after.others key
        rw [← after.log]
        exact fun written => unwritten ⟨mine, written⟩

theorem served_apart (related : Related party watch alone) (other : request.1.party ≠ party)
    (separate : Separate config party watch request) :
    Related party (next (watched config party) watch request) alone := by
  rw [Separate, if_neg other] at separate
  have noCopy := related.sees.memory.get?_eq_none fun messages found created =>
    separate (mem_owners_of_memory found created)
  have noObject : alone.sessions.fallbackSessions.get? request.1.sessionId = none :=
    related.sees.fallback.get?_eq_none fun state found created =>
      separate (created ▸ mem_owners_of_fallback found)
  have entries (key : CacheKey) : alone.entry key =
      (next (watched config party) watch request).own key :=
    (related.entries key).trans (if_neg fun both => other both.1).symm
  cases loads : watch.process.sessions.getOrCreate request.1.sessionId request.1.user
      request.2.recalled with
  | none =>
    refine ⟨?_, ?_, entries⟩
    · rw [next, watched, serve_of_none loads]
      exact related.sees
    · rw [next, watched, serve_of_none loads]
      exact related.consistent
  | some loaded =>
    obtain ⟨found, owner⟩ := owner_getOrCreate related.consistent loads
    have foreign : loaded.state.party ≠ party := by
      cases owner with
      | inl owned => exact fun mine => separate (mine ▸ owned)
      | inr fresh => exact fun mine => other (fresh.symm.trans mine)
    have start : Stranger party alone.sessions request.1.sessionId (begun watch.process loaded) :=
      ⟨foreign, found, related.sees, related.consistent⟩
    have after : Stranger party alone.sessions request.1.sessionId
        (handled config watch.process loaded request).2 :=
      (orderly_handle request.1.action).stranger noCopy noObject _ start
    refine ⟨?_, ?_, entries⟩
    · rw [next, watched, serve_of_some loads]
      apply after.sees.release_other after.other
      rw [← after.found] at noObject
      exact noObject
    · rw [next, watched, serve_of_some loads]
      exact after.consistent.release _

end Serving

theorem related_start (party : Party) : Related party {} {} where
  sees := ⟨.empty, .empty⟩
  consistent := ⟨fun _ _ none => absurd none (Option.some_ne_none _).symm,
    fun _ _ none => absurd none (Option.some_ne_none _).symm⟩
  entries := fun key => by
    cases key with
    | skill id => rfl
    | playbook id => rfl

theorem answers_watched (config : Config) (party : Party) (watch : Watch)
    (requests : List (Request × World)) :
    answers (watched config party) watch requests =
      answers (react config) watch.process requests := by
  induction requests generalizing watch with
  | nil => rfl
  | cons request rest ih =>
    rw [answers, answers, ih]
    rfl

/-- In a run in which a party's requests come across nothing of others and those of others come
across none of its sessions, the party's requests are answered, and do, just as in the run
without the others. -/
theorem tenants_separate (config : Config) (party : Party) (requests : List (Request × World))
    (separate : Allowed (next (watched config party)) (Separate config party) {} requests) :
    observed (fun request => decide (request.1.party = party)) requests
        (answers (react config) {} requests) =
      answers (react config) {}
        (requests.filter fun request => decide (request.1.party = party)) := by
  have watching := observed_eq (fun request => decide (request.1.party = party))
    (watched config party) (react config) (Related party)
    (fun _ _ _ related fine mine => served_alike related (of_decide_eq_true mine) fine)
    (fun _ _ _ related fine other => served_apart related (of_decide_eq_false other) fine)
    (related_start party) separate
  rw [answers_watched] at watching
  exact watching

def asks (tenantId userId sessionId : String) : Request × World :=
  ({ sessionId
     user := { userId, tenantId, role := "admin" }
     action := .chat "Are we covered?" }, calmWorld)

theorem tenants_separate_questions :
    observed (fun request => decide (request.1.party = { tenantId := "acme", userId := "ann" }))
        [asks "acme" "ann" "s-1", asks "globex" "bob" "s-2"]
        (answers (react bareConfig) {} [asks "acme" "ann" "s-1", asks "globex" "bob" "s-2"]) =
      answers (react bareConfig) {} [asks "acme" "ann" "s-1"] := by
  apply tenants_separate bareConfig _ [asks "acme" "ann" "s-1", asks "globex" "bob" "s-2"]
  refine ⟨?_, ?_, trivial⟩
  · have mine : (asks "acme" "ann" "s-1").1.party = { tenantId := "acme", userId := "ann" } := rfl
    rw [Separate, if_pos mine]
    constructor
    · intro owner none
      cases none
    · apply heeds_of_not_mem
      intro key member
      -- the session is loaded, the question is asked, and the session is stored
      cases member with
      | tail _ member =>
        cases member with
        | tail _ member =>
          cases member with
          | tail _ none => cases none
  · have other : (asks "globex" "bob" "s-2").1.party ≠
        { tenantId := "acme", userId := "ann" } := by decide
    rw [Separate, if_neg other]
    exact List.not_mem_nil

def deletesAndCancels : List (Request × World) :=
  [({ sessionId := "s-1"
      user := { userId := "ann", tenantId := "acme", role := "admin" }
      action := .chat "Delete evidence 7." },
    { calmWorld with
      llm := fun _ =>
        .response "Deleting." [{ id := some "call-1", name := some "evidence.delete" }]
      tool := fun _ => .confirmationRequired (.str "Delete evidence 7?") }),
   ({ sessionId := "s-1"
      user := { userId := "bob", tenantId := "globex", role := "viewer" }
      action := .cancel "id-1" }, calmWorld)]

theorem session_of_other_tenant_cancelled :
    ¬ (∀ (config : Config) (party : Party) (requests : List (Request × World)),
        observed (fun request => decide (request.1.party = party)) requests
            (answers (react config) {} requests) =
          answers (react config) {}
            (requests.filter fun request => decide (request.1.party = party))) := by
  intro claimed
  have same := claimed bareConfig { tenantId := "globex", userId := "bob" } deletesAndCancels
  have messages := congrArg
    (List.map fun answer => answer.1.map fun response => response.message) same
  exact absurd messages (by decide)

end Onpremai.Conversation
