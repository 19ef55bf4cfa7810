import Onpremai.Assistant.Models

/-!
# Session manager

Sessions are stored in the memory service and, when a save fails, kept as objects
of the process.  A request works on an object: one that it made from the stored
copy, or the one that the fallback cache holds.
-/

namespace Onpremai.Assistant

open Onpremai.Library

/-- A reference to a session object of the process. -/
abbrev SessionRef := Nat

/-- The objects of the process, what the memory service has stored, and the
fallback cache. -/
structure SessionManager where
  objects : List SessionState := []
  memory : Dict String SessionState := .empty
  fallbackSessions : Dict String SessionRef := .empty

namespace SessionManager

def read (manager : SessionManager) (ref : SessionRef) : SessionState :=
  manager.objects.getD ref default

def allocate (manager : SessionManager) (state : SessionState) : SessionRef × SessionManager :=
  (manager.objects.length, { manager with objects := manager.objects ++ [state] })

def mutate (manager : SessionManager) (ref : SessionRef)
    (change : SessionState → SessionState) : SessionManager :=
  { manager with objects := manager.objects.set ref (change (manager.read ref)) }

def getOrCreate (manager : SessionManager) (sessionId : String) (user : UserContext)
    (recalled : Bool) : SessionRef × SessionManager :=
  match if recalled then manager.memory.get? sessionId else none with
  | some stored => manager.allocate { stored with sessionId }
  | none =>
    match manager.fallbackSessions.get? sessionId with
    | some ref => (ref, manager)
    | none =>
      manager.allocate
        { sessionId, tenantId := user.tenantId, userId := user.userId, role := user.role }

/-- A save that comes back: what was sent has reached the memory service or not, and
the service has said so or not. -/
def finishSave (manager : SessionManager) (ref : SessionRef) (snapshot : SessionState)
    (applied acknowledged : Bool) : SessionManager :=
  let memory :=
    if applied then manager.memory.set snapshot.sessionId snapshot else manager.memory
  let fallbackSessions :=
    if acknowledged then manager.fallbackSessions
    else manager.fallbackSessions.set (manager.read ref).sessionId ref
  { manager with memory, fallbackSessions }

variable {manager : SessionManager}

@[simp] theorem read_finishSave (ref other : SessionRef) (snapshot : SessionState)
    (applied acknowledged : Bool) :
    (manager.finishSave ref snapshot applied acknowledged).read other = manager.read other := rfl

section

variable (ref : SessionRef) (snapshot : SessionState) (applied acknowledged : Bool)

theorem stored_finishSave :
    (manager.finishSave ref snapshot applied acknowledged).memory.get? snapshot.sessionId =
      if applied then some snapshot else manager.memory.get? snapshot.sessionId := by
  cases applied with
  | false => rfl
  | true => simp [finishSave, Dict.get?_set]

theorem cached_finishSave :
    (manager.finishSave ref snapshot applied acknowledged).fallbackSessions.get?
        (manager.read ref).sessionId =
      if acknowledged then manager.fallbackSessions.get? (manager.read ref).sessionId
      else some ref := by
  cases acknowledged with
  | true => rfl
  | false => simp [finishSave, Dict.get?_set]

end

@[simp] theorem length_mutate (ref : SessionRef) (change : SessionState → SessionState) :
    (manager.mutate ref change).objects.length = manager.objects.length := by
  simp [mutate]

theorem read_mutate_self {ref : SessionRef} (inside : ref < manager.objects.length)
    (change : SessionState → SessionState) :
    (manager.mutate ref change).read ref = change (manager.read ref) := by
  simp [mutate, read, inside]

theorem read_mutate_ne {ref other : SessionRef} (apart : ref ≠ other)
    (change : SessionState → SessionState) :
    (manager.mutate ref change).read other = manager.read other := by
  simp [mutate, read, apart]

theorem read_allocate_old (state : SessionState) {ref : SessionRef}
    (inside : ref < manager.objects.length) :
    (manager.allocate state).2.read ref = manager.read ref := by
  simp [allocate, read, List.getElem?_append_left inside]

theorem read_allocate_new (state : SessionState) :
    (manager.allocate state).2.read (manager.allocate state).1 = state := by
  simp [allocate, read]

theorem read_getOrCreate (sessionId : String) (user : UserContext) (recalled : Bool)
    {ref : SessionRef} (inside : ref < manager.objects.length) :
    ref < (manager.getOrCreate sessionId user recalled).2.objects.length ∧
      (manager.getOrCreate sessionId user recalled).2.read ref = manager.read ref := by
  have more : ∀ state, ref < (manager.allocate state).2.objects.length := by
    intro state
    simp only [allocate, List.length_append, List.length_singleton]
    exact Nat.lt_succ_of_lt inside
  rw [getOrCreate]
  split
  · exact ⟨more _, read_allocate_old _ inside⟩
  · split
    · exact ⟨inside, rfl⟩
    · exact ⟨more _, read_allocate_old _ inside⟩

/-- Every place of the manager holds sessions of a kind. -/
structure All (good : String → SessionState → Prop) (manager : SessionManager) : Prop where
  stored : ∀ sessionId state, manager.memory.get? sessionId = some state → good sessionId state
  cached : ∀ sessionId ref, manager.fallbackSessions.get? sessionId = some ref →
    ref < manager.objects.length ∧ good sessionId (manager.read ref)

def Valid (good : String → SessionState → Prop) (manager : SessionManager) (sessionId : String)
    (ref : SessionRef) : Prop :=
  ref < manager.objects.length ∧ good sessionId (manager.read ref)

variable {good : String → SessionState → Prop}

theorem Valid.mono {other : String → SessionState → Prop} {sessionId : String} {ref : SessionRef}
    (valid : Valid good manager sessionId ref)
    (weaker : ∀ sessionId state, good sessionId state → other sessionId state) :
    Valid other manager sessionId ref :=
  ⟨valid.1, weaker sessionId _ valid.2⟩

theorem All.mono {other : String → SessionState → Prop} (all : All good manager)
    (weaker : ∀ sessionId state, good sessionId state → other sessionId state) :
    All other manager where
  stored := fun sessionId state found => weaker sessionId state (all.stored sessionId state found)
  cached := fun sessionId ref found => Valid.mono (all.cached sessionId ref found) weaker

theorem Valid.allocate {sessionId : String} {ref : SessionRef}
    (valid : Valid good manager sessionId ref) (state : SessionState) :
    Valid good (manager.allocate state).2 sessionId ref := by
  constructor
  · simp only [SessionManager.allocate, List.length_append, List.length_singleton]
    exact Nat.lt_succ_of_lt valid.1
  · rw [read_allocate_old state valid.1]
    exact valid.2

theorem valid_allocate_new {sessionId : String} {state : SessionState}
    (new : good sessionId state) :
    Valid good (manager.allocate state).2 sessionId (manager.allocate state).1 := by
  constructor
  · simp [SessionManager.allocate]
  · rw [read_allocate_new]
    exact new

theorem Valid.mutate (own : ∀ sessionId state, good sessionId state → state.sessionId = sessionId)
    {sessionId other : String} {ref held : SessionRef} {change : SessionState → SessionState}
    (valid : Valid good manager sessionId ref)
    (changed : good sessionId (change (manager.read ref)))
    (heldValid : Valid good manager other held) :
    Valid good (manager.mutate ref change) other held := by
  constructor
  · rw [length_mutate]
    exact heldValid.1
  · by_cases same : ref = held
    · rw [← same, read_mutate_self valid.1]
      have owner := own other _ heldValid.2
      rw [← same, own sessionId _ valid.2] at owner
      rw [← owner]
      exact changed
    · rw [read_mutate_ne same]
      exact heldValid.2

theorem All.allocate (all : All good manager) (state : SessionState) :
    All good (manager.allocate state).2 where
  stored := all.stored
  cached := fun sessionId ref found => Valid.allocate (all.cached sessionId ref found) state

theorem All.mutate (own : ∀ sessionId state, good sessionId state → state.sessionId = sessionId)
    (all : All good manager) {sessionId : String} {ref : SessionRef}
    {change : SessionState → SessionState} (valid : Valid good manager sessionId ref)
    (changed : good sessionId (change (manager.read ref))) :
    All good (manager.mutate ref change) where
  stored := all.stored
  cached := fun other held found => Valid.mutate own valid changed (all.cached other held found)

theorem All.getOrCreate (all : All good manager) {sessionId : String} {user : UserContext}
    (loaded : ∀ state, good sessionId state → good sessionId { state with sessionId })
    (new : good sessionId
      { sessionId, tenantId := user.tenantId, userId := user.userId, role := user.role })
    (recalled : Bool) :
    All good (manager.getOrCreate sessionId user recalled).2 ∧
      Valid good (manager.getOrCreate sessionId user recalled).2 sessionId
        (manager.getOrCreate sessionId user recalled).1 ∧
      ∀ other ref, Valid good manager other ref →
        Valid good (manager.getOrCreate sessionId user recalled).2 other ref := by
  rw [SessionManager.getOrCreate]
  split
  · next stored found =>
    have kept : good sessionId stored := by
      cases recalled with
      | false => simp at found
      | true => exact all.stored sessionId stored found
    exact ⟨all.allocate _, valid_allocate_new (loaded stored kept),
      fun _ _ valid => valid.allocate _⟩
  · split
    · next ref found => exact ⟨all, all.cached sessionId ref found, fun _ _ valid => valid⟩
    · exact ⟨all.allocate _, valid_allocate_new new, fun _ _ valid => valid.allocate _⟩

theorem All.finishSave
    (own : ∀ sessionId state, good sessionId state → state.sessionId = sessionId)
    (all : All good manager) {sessionId : String} {ref : SessionRef} {snapshot : SessionState}
    (valid : Valid good manager sessionId ref) (saved : good sessionId snapshot)
    (applied acknowledged : Bool) :
    All good (manager.finishSave ref snapshot applied acknowledged) where
  stored := by
    intro other state found
    cases applied with
    | false => exact all.stored other state found
    | true =>
      simp only [SessionManager.finishSave, if_true, Dict.get?_set] at found
      split at found
      · next same =>
        rw [← Option.some.inj found, ← same, own sessionId snapshot saved]
        exact saved
      · exact all.stored other state found
  cached := by
    intro other held found
    cases acknowledged with
    | true => exact all.cached other held found
    | false =>
      simp only [SessionManager.finishSave, Bool.false_eq_true, if_false, Dict.get?_set]
        at found
      split at found
      · next same =>
        rw [← Option.some.inj found, ← same, own sessionId _ valid.2]
        exact valid
      · exact all.cached other held found

end SessionManager

end Onpremai.Assistant
