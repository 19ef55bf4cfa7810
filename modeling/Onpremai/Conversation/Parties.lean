import Onpremai.Conversation.Orderly
import Onpremai.Conversation.RoundTrip

/-!
# Parties

Who has created the sessions that a session manager has, and what the requests of a party leave
in the stores and the caches that all parties share.
-/

namespace Onpremai.Conversation

open Onpremai.Library
open Onpremai.Assistant (UserContext)

/-- A user of a tenant. -/
structure Party where
  tenantId : String
  userId : String
  deriving DecidableEq

def SessionState.party (state : SessionState) : Party where
  tenantId := state.tenantId
  userId := state.userId

def Request.party (request : Request) : Party where
  tenantId := request.user.tenantId
  userId := request.user.userId

def copyParty (messages : List StoredMessage) : Option Party :=
  ((firstState? messages).bind fun metadata => parseState metadata "").map SessionState.party

/-- Who has created the sessions that are found under an identifier. -/
def SessionManager.owners (manager : SessionManager) (sessionId : String) : List Party :=
  ((manager.memory.get? sessionId).bind copyParty).toList ++
    ((manager.fallbackSessions.get? sessionId).map SessionState.party).toList

def Process.entry (process : Process) : CacheKey → Option (Skill ⊕ Playbook)
  | .skill id => (process.skills.get? id).map .inl
  | .playbook id => (process.playbooks.get? id).map .inr

/-- The entries that a request writes to the caches. -/
def cachedKeys (log : List Event) : List CacheKey :=
  log.filterMap fun event =>
    match event with
    | .cached key => some key
    | _ => none

/-- Every entry that a request looks up is a sound one, or one that it has written itself. -/
def Heeds (sound : CacheKey → Prop) (log : List Event) : Prop :=
  ∀ earlier key later, log = earlier ++ .lookedUp key :: later →
    sound key ∨ key ∈ cachedKeys earlier

section Logs

variable {sound : CacheKey → Prop} {log : List Event} {event : Event}

theorem Heeds.of_concat (heeds : Heeds sound (log ++ [event])) : Heeds sound log := by
  intro earlier key later split
  apply heeds earlier key (later ++ [event])
  rw [split, List.append_assoc, List.cons_append]

theorem Heeds.last {key : CacheKey} (heeds : Heeds sound (log ++ [.lookedUp key])) :
    sound key ∨ key ∈ cachedKeys log := heeds log key [] rfl

theorem heeds_of_not_mem (none : ∀ key, .lookedUp key ∉ log) : Heeds sound log := by
  intro earlier key later split
  exfalso
  apply none key
  rw [split]
  exact List.mem_append_right _ List.mem_cons_self

theorem cachedKeys_concat_plain (plain : event.Plain) :
    cachedKeys (log ++ [event]) = cachedKeys log := by
  rw [cachedKeys, List.filterMap_append]
  cases event with
  | cached key => exact absurd rfl (plain key).2
  | loaded _ | asked _ _ _ _ | called _ _ _ | confirmed _ _ | fetched _ _ | stored _ _ _
  | lookedUp _ => exact List.append_nil _

theorem cachedKeys_concat_lookedUp (key : CacheKey) :
    cachedKeys (log ++ [.lookedUp key]) = cachedKeys log := by
  rw [cachedKeys, List.filterMap_append]
  exact List.append_nil _

theorem cachedKeys_concat_cached (key : CacheKey) :
    cachedKeys (log ++ [.cached key]) = cachedKeys log ++ [key] := by
  rw [cachedKeys, List.filterMap_append]
  rfl

end Logs

section Stores

variable {party : Party} {full own : SessionManager}

/-- A session manager has just the sessions that a party has created. -/
structure Sees (party : Party) (full own : SessionManager) : Prop where
  memory : Dict.IsPart (fun messages => copyParty messages = some party) full.memory own.memory
  fallback : Dict.IsPart (fun state => SessionState.party state = party) full.fallbackSessions
    own.fallbackSessions

/-- What is stored are copies of session states, and what is kept stands under its own
identifier. -/
structure Consistent (manager : SessionManager) : Prop where
  memory : ∀ sessionId messages, manager.memory.get? sessionId = some messages →
    ∃ state : SessionState, messages = state.messagesToStore
  fallback : ∀ sessionId state, manager.fallbackSessions.get? sessionId = some state →
    state.sessionId = sessionId

theorem copyParty_messagesToStore (state : SessionState) :
    copyParty state.messagesToStore = some state.party := by
  rw [copyParty, SessionState.messagesToStore, firstState?, Option.bind_some, parseState_metadata]
  rfl

theorem Sees.save (sees : Sees party full own) {state : SessionState} (mine : state.party = party)
    (delivery : Delivery) : Sees party (full.save state delivery) (own.save state delivery) := by
  rw [SessionManager.save, SessionManager.save]
  constructor
  · dsimp only
    split
    · exact sees.memory.set _ ((copyParty_messagesToStore state).trans (congrArg some mine))
    · exact sees.memory
  · dsimp only
    split
    · exact sees.fallback
    · exact sees.fallback.set _ mine

theorem Sees.save_other (sees : Sees party full own) {state : SessionState}
    (other : state.party ≠ party) (noCopy : own.memory.get? state.sessionId = none)
    (noObject : own.fallbackSessions.get? state.sessionId = none) (delivery : Delivery) :
    Sees party (full.save state delivery) own := by
  rw [SessionManager.save]
  constructor
  · dsimp only
    split
    · apply sees.memory.set_other _ noCopy
      rw [copyParty_messagesToStore]
      exact fun same => other (Option.some.inj same)
    · exact sees.memory
  · dsimp only
    split
    · exact sees.fallback
    · exact sees.fallback.set_other other noObject

theorem Sees.release (sees : Sees party full own) {loaded : Loaded}
    (mine : loaded.state.party = party) :
    Sees party (full.release loaded) (own.release loaded) := by
  rw [SessionManager.release, SessionManager.release]
  split
  · exact ⟨sees.memory, sees.fallback.set _ mine⟩
  · exact sees

theorem Sees.release_other (sees : Sees party full own) {loaded : Loaded}
    (other : loaded.state.party ≠ party)
    (noObject : own.fallbackSessions.get? loaded.state.sessionId = none) :
    Sees party (full.release loaded) own := by
  rw [SessionManager.release]
  split
  · exact ⟨sees.memory, sees.fallback.set_other other noObject⟩
  · exact sees

theorem Consistent.save {manager : SessionManager} (consistent : Consistent manager)
    (state : SessionState) (delivery : Delivery) : Consistent (manager.save state delivery) := by
  rw [SessionManager.save]
  constructor
  · intro sessionId messages found
    dsimp only at found
    split at found
    · rw [Dict.get?_set] at found
      split at found
      · cases found
        exact ⟨state, rfl⟩
      · exact consistent.memory sessionId messages found
    · exact consistent.memory sessionId messages found
  · intro sessionId other found
    dsimp only at found
    split at found
    · exact consistent.fallback sessionId other found
    · rw [Dict.get?_set] at found
      split at found
      · next same =>
        cases found
        exact same
      · exact consistent.fallback sessionId other found

theorem Consistent.release {manager : SessionManager} (consistent : Consistent manager)
    (loaded : Loaded) : Consistent (manager.release loaded) := by
  rw [SessionManager.release]
  split
  · refine ⟨consistent.memory, ?_⟩
    intro sessionId other found
    dsimp only at found
    rw [Dict.get?_set] at found
    split at found
    · next same =>
      cases found
      exact same
    · exact consistent.fallback sessionId other found
  · exact consistent

end Stores

section Loading

variable {sessionId : String} {user : UserContext} {recalled : Recall}

/-- What is loaded depends on what is found under the identifier only. -/
theorem getOrCreate_congr {full own : SessionManager}
    (memory : own.memory.get? sessionId = full.memory.get? sessionId)
    (fallback : own.fallbackSessions.get? sessionId = full.fallbackSessions.get? sessionId) :
    own.getOrCreate sessionId user recalled = full.getOrCreate sessionId user recalled := by
  rw [SessionManager.getOrCreate, SessionManager.getOrCreate, memory, fallback]

theorem owner_getOrCreate {manager : SessionManager} {loaded : Loaded}
    (consistent : Consistent manager)
    (loads : manager.getOrCreate sessionId user recalled = some loaded) :
    loaded.state.sessionId = sessionId ∧ (loaded.state.party ∈ manager.owners sessionId ∨
        loaded.state.party = { tenantId := user.tenantId, userId := user.userId }) := by
  cases metadata : firstState? (recalled.messages 1 ((manager.memory.get? sessionId).getD []))
    with
  | some entries =>
    rw [getOrCreate_of_some metadata] at loads
    cases found : manager.memory.get? sessionId with
    | none =>
      rw [found, Option.getD_none] at metadata
      cases recalled with
      | unavailable => cases metadata
      | oldest => cases metadata
      | newest => cases metadata
    | some messages =>
      obtain ⟨copy, same⟩ := consistent.memory sessionId messages found
      rw [found, Option.getD_some, same] at metadata
      by_cases answers : recalled.Answers copy
      · rw [firstState?_of_answers answers] at metadata
        cases metadata
        rw [parseState_metadata, Option.map_some] at loads
        cases loads
        refine ⟨rfl, .inl ?_⟩
        rw [SessionManager.owners, found, Option.bind_some, same, copyParty_messagesToStore]
        exact List.mem_append_left _ (List.mem_singleton_self _)
      · rw [firstState?_of_not_answers answers] at metadata
        cases metadata
  | none =>
    rw [SessionManager.getOrCreate, metadata] at loads
    cases found : manager.fallbackSessions.get? sessionId with
    | some state =>
      rw [found] at loads
      cases loads
      refine ⟨consistent.fallback sessionId state found, .inl ?_⟩
      rw [SessionManager.owners, found]
      exact List.mem_append_right _ (List.mem_singleton_self _)
    | none =>
      rw [found] at loads
      cases loads
      exact ⟨rfl, .inr rfl⟩

end Loading

section Entries

variable {process : Process}

theorem entry_setSkill (id : String) (skill : Skill) (key : CacheKey) :
    Process.entry { process with skills := process.skills.set id skill } key =
      if .skill id = key then some (.inl skill) else process.entry key := by
  cases key with
  | playbook other => exact (if_neg CacheKey.noConfusion).symm
  | skill other =>
    rw [Process.entry, Dict.get?_set]
    by_cases same : id = other
    · rw [if_pos same, if_pos (congrArg CacheKey.skill same)]
      rfl
    · rw [if_neg same, if_neg fun keys => same (CacheKey.skill.inj keys)]
      rfl

theorem entry_setPlaybook (id : String) (playbook : Playbook) (key : CacheKey) :
    Process.entry { process with playbooks := process.playbooks.set id playbook } key =
      if .playbook id = key then some (.inr playbook) else process.entry key := by
  cases key with
  | skill other => exact (if_neg CacheKey.noConfusion).symm
  | playbook other =>
    rw [Process.entry, Dict.get?_set]
    by_cases same : id = other
    · rw [if_pos same, if_pos (congrArg CacheKey.playbook same)]
      rfl
    · rw [if_neg same, if_neg fun keys => same (CacheKey.playbook.inj keys)]
      rfl

end Entries

end Onpremai.Conversation
