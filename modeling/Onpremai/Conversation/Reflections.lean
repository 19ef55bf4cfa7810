import Mathlib.Algebra.Order.BigOperators.Group.List
import Mathlib.Algebra.Order.Ring.Nat
import Onpremai.Conversation.UserStateManager
import Onpremai.Library.Machine

/-!
# Writers of the user state document

Reflections and the naming of the agent run beside each other.  Each loads the document of the
user, changes it, and puts the whole of it back.
-/

namespace Onpremai.Conversation

open Onpremai.Library
open Onpremai.Assistant (agentNameOf)

/-- The user whose document it is, and how the document is kept. -/
structure Keeper where
  settings : UserStateSettings := {}
  lower : String → String
  userId : String
  tenantId : String

/-- What a task has to merge. -/
inductive Work where
  | naming (name : String)
  | reflection (sessionId : String) (reflection : Reflection)

def Work.name? : Work → Option String
  | .naming name => some name
  | .reflection _ _ => none

def Work.sessionId? : Work → Option String
  | .naming _ => none
  | .reflection sessionId _ => some sessionId

/-- What the session has brought. -/
def Work.found : Work → Reflection
  | .naming _ => {}
  | .reflection _ found => found

/-- What is read of a session when the reflection on it is merged. -/
structure Seen where
  agentName : String := ""
  activeSkill : Option String := none
  messageCount : Int := 0

/-- A change of the document, with the days on which it is made and saved. -/
structure Merge where
  work : Work
  seen : Seen := {}
  mergedOn : String
  savedOn : String

/-- A naming or a reflection: it waits for the language model, for the document, or for the
changed document to be stored. -/
inductive Task where
  | reflecting (sessionId : String)
  | loading (work : Work)
  | putting (loaded : Option UserStateDoc) (merge : Merge)

def Task.sessionId? : Task → Option String
  | .reflecting sessionId => some sessionId
  | .loading work => work.sessionId?
  | .putting _ merge => merge.work.sessionId?

/-- The stored document and the tasks that are under way, with the merges that were stored, in
order. -/
structure Writers where
  stored : Option UserStateDoc := none
  tasks : List Task := []
  merged : List Merge := []

/-- What happens to the writers.  A session can have changed when the reflection on it is
merged; a document that cannot be loaded is taken for one that is not there. -/
inductive WriterEvent where
  | answered (session : SessionState) (message : String)
  | named (message : String)
  | reflected (task : Nat) (outcome : Option Reflection)
  | loaded (task : Nat) (heard : Bool) (seen : Seen) (mergedOn savedOn : String)
  | put (task : Nat) (kept : Bool)

namespace Merge

variable (keeper : Keeper) (merge : Merge)

/-- The documents that a merge makes of the one it has loaded, before they are compacted. -/
def drafts (loaded : Option UserStateDoc) : List UserStateDoc :=
  match merge.work with
  | .naming name =>
    [{ UserStateDoc.setAgentName keeper.userId keeper.tenantId name loaded with
        updatedAt := merge.savedOn }]
  | .reflection _ reflection =>
    let doc := loaded.getD {
      userId := keeper.userId
      tenantId := keeper.tenantId
      agentName := merge.seen.agentName }
    [doc.absorb keeper.settings keeper.lower reflection merge.seen.activeSkill
        merge.seen.messageCount merge.mergedOn,
      { doc.mergeReflection keeper.settings keeper.lower reflection merge.seen.activeSkill
          merge.seen.messageCount merge.mergedOn with updatedAt := merge.savedOn }]

/-- The document that is put. -/
def into (loaded : Option UserStateDoc) : UserStateDoc :=
  match merge.work with
  | .naming name =>
    (UserStateDoc.setAgentName keeper.userId keeper.tenantId name loaded).save
      keeper.settings merge.savedOn
  | .reflection _ reflection =>
    let doc := loaded.getD {
      userId := keeper.userId
      tenantId := keeper.tenantId
      agentName := merge.seen.agentName }
    (doc.mergeReflection keeper.settings keeper.lower reflection merge.seen.activeSkill
      merge.seen.messageCount merge.mergedOn).save keeper.settings merge.savedOn

/-- A merge at once: the document is loaded, changed and stored. -/
def store (keeper : Keeper) (loaded : Option UserStateDoc) (merge : Merge) : Option UserStateDoc :=
  some (merge.into keeper loaded)

def actions : List PendingAction := merge.work.found.actions merge.mergedOn

def names (loaded : Option UserStateDoc) : Option String :=
  match merge.work with
  | .naming name => some (Text.strip (clip 30 name))
  | .reflection _ _ => if loaded.isNone then some merge.seen.agentName else none

end Merge

namespace Writers

variable (keeper : Keeper)

def step (writers : Writers) : WriterEvent → Writers
  | .answered session message =>
    if shouldReflect keeper.settings session message then
      { writers with tasks := writers.tasks ++ [.reflecting session.sessionId] }
    else writers
  | .named message =>
    { writers with tasks := writers.tasks ++ [.loading (.naming (agentNameOf message))] }
  | .reflected task outcome =>
    match writers.tasks[task]? with
    | some (.reflecting sessionId) =>
      match outcome with
      | none => { writers with tasks := writers.tasks.eraseIdx task }
      | some reflection =>
        { writers with
          tasks := writers.tasks.set task (.loading (.reflection sessionId reflection)) }
    | _ => writers
  | .loaded task heard seen mergedOn savedOn =>
    match writers.tasks[task]? with
    | some (.loading work) =>
      { writers with
        tasks := writers.tasks.set task
          (.putting (if heard then writers.stored else none)
            { work, seen, mergedOn, savedOn }) }
    | _ => writers
  | .put task kept =>
    match writers.tasks[task]? with
    | some (.putting loaded merge) =>
      if kept then
        { writers with
          stored := some (merge.into keeper loaded)
          tasks := writers.tasks.eraseIdx task
          merged := writers.merged ++ [merge] }
      else { writers with tasks := writers.tasks.eraseIdx task }
    | _ => writers

/-- The sessions whose reflection has been merged or is under way. -/
def pledged (merged : List Merge) (tasks : List Task) : List String :=
  merged.filterMap (fun merge => merge.work.sessionId?) ++ tasks.filterMap Task.sessionId?

/-- A reflection is only started for a session of which none is merged or under way, and a
document is only stored over the one it was made from. -/
def Careful (writers : Writers) : WriterEvent → Prop
  | .answered session message =>
    shouldReflect keeper.settings session message = true →
      session.sessionId ∉ pledged writers.merged writers.tasks
  | .put task kept =>
    kept = true → ∀ loaded merge, writers.tasks[task]? = some (.putting loaded merge) →
      loaded = writers.stored
  | .named _ | .reflected _ _ | .loaded _ _ _ _ _ => True

end Writers

/-- The document after merges that were made one after the other. -/
def mergedInTurn (keeper : Keeper) (merges : List Merge) : Option UserStateDoc :=
  run (Merge.store keeper) none merges

/-- A document is too long even with a pending action as the oldest one. -/
def UserStateDoc.Overfull (settings : UserStateSettings) (doc : UserStateDoc)
    (pending : PendingAction) : Prop :=
  ∃ older newer, doc.pendingActions = older ++ pending :: newer ∧
    settings.userStateMaxChars < { doc with pendingActions := pending :: newer }.length

def Merge.Drops (keeper : Keeper) (merge : Merge) (loaded : Option UserStateDoc)
    (pending : PendingAction) : Prop :=
  merge.work.found.accomplishes keeper.lower pending = true ∨
    ∃ draft ∈ merge.drafts keeper loaded, draft.Overfull keeper.settings pending

/-- A document has what was merged: every pending action that no merge has dropped, every
preference up to case as long as there is room for it, and the last name. -/
structure HasMerged (keeper : Keeper) (merges : List Merge) (stored : Option UserStateDoc) :
    Prop where
  actions : ∀ earlier merge later, merges = earlier ++ merge :: later → ∀ pending ∈ merge.actions,
      (∃ doc ∈ stored, pending ∈ doc.pendingActions) ∨
        ∃ between dropping rest, merge :: later = between ++ dropping :: rest ∧
          dropping.Drops keeper (mergedInTurn keeper (earlier ++ between)) pending
  preferences : ∀ merge ∈ merges, ∀ preference ∈ merge.work.found.preferences.take 3,
    ∃ doc ∈ stored, (∃ other ∈ doc.preferences, keeper.lower other = keeper.lower preference) ∨
        doc.preferences.length = keeper.settings.maxPreferences
  names : ∀ earlier merge later, merges = earlier ++ merge :: later →
    ∀ name ∈ merge.names (mergedInTurn keeper earlier), (∀ other ∈ later, other.work.name? = none) →
        ∃ doc ∈ stored, doc.agentName = name

namespace UserStateDoc

variable {settings : UserStateSettings}

section

variable {doc : UserStateDoc} {pending : PendingAction}

theorem mem_evict {actions : List PendingAction} (member : pending ∈ actions) :
    pending ∈ evict settings doc actions ∨ ∃ older newer, actions = older ++ pending :: newer ∧
      settings.userStateMaxChars < { doc with pendingActions := pending :: newer }.length := by
  induction actions with
  | nil => cases member
  | cons oldest rest ih =>
    rw [evict]
    split
    case isFalse => exact .inl member
    case isTrue long =>
      cases member with
      | head => exact .inr ⟨[], rest, rfl, long⟩
      | tail _ member =>
        rcases ih member with kept | ⟨older, newer, split, long⟩
        · exact .inl kept
        · exact .inr ⟨oldest :: older, newer, by rw [split]; rfl, long⟩

theorem mem_compact (member : pending ∈ doc.pendingActions) :
    pending ∈ (doc.compact settings).pendingActions ∨ doc.Overfull settings pending :=
  mem_evict member

theorem mem_save {today : String} (member : pending ∈ doc.pendingActions) :
    pending ∈ (doc.save settings today).pendingActions ∨
      { doc with updatedAt := today }.Overfull settings pending := by
  rw [save]
  split
  · exact mem_compact member
  · exact .inl member

end

theorem length_newer (doc : UserStateDoc) (older newer : List PendingAction) :
    { doc with pendingActions := newer }.length ≤
      { doc with pendingActions := older ++ newer }.length := by
  have shorter : JsonLength.bracketed (newer.map PendingAction.length) ≤
      JsonLength.bracketed ((older ++ newer).map PendingAction.length) := by
    rw [JsonLength.bracketed, JsonLength.bracketed, List.map_append, List.sum_append,
      List.length_append]
    omega
  apply JsonLength.bracketed_mono [_, _, _, _, _, _] [_, _]
  exact Nat.add_le_add_left shorter _

theorem Overfull.long {doc : UserStateDoc} {pending : PendingAction}
    (full : doc.Overfull settings pending) : settings.userStateMaxChars < doc.length := by
  obtain ⟨older, newer, split, long⟩ := full
  apply lt_of_lt_of_le long
  have shorter := length_newer doc older (pending :: newer)
  rw [← split] at shorter
  exact shorter

section

variable (doc : UserStateDoc)

@[simp] theorem preferences_compact : (doc.compact settings).preferences = doc.preferences := rfl

@[simp] theorem agentName_compact : (doc.compact settings).agentName = doc.agentName := rfl

@[simp] theorem preferences_save (today : String) :
    (doc.save settings today).preferences = doc.preferences := by
  rw [save]
  split <;> rfl

@[simp] theorem agentName_save (today : String) :
    (doc.save settings today).agentName = doc.agentName := by
  rw [save]
  split <;> rfl

end

end UserStateDoc

section Preferences

variable (lower : String → String)

theorem prefix_addPreferences (preferences new : List String) :
    preferences <+: new.foldl (addPreference lower) preferences := by
  induction new generalizing preferences with
  | nil => exact List.prefix_rfl
  | cons preference rest ih =>
    refine List.IsPrefix.trans ?_ (ih (addPreference lower preferences preference))
    rw [addPreference]
    split
    · exact List.prefix_rfl
    · exact List.prefix_append _ _

theorem mem_addPreferences {preference : String} (preferences : List String) {new : List String}
    (member : preference ∈ new) :
    ∃ other ∈ new.foldl (addPreference lower) preferences,
      lower other = lower preference := by
  induction new generalizing preferences with
  | nil => cases member
  | cons first rest ih =>
    cases member with
    | tail _ member => exact ih _ member
    | head =>
      have added : ∃ other ∈ addPreference lower preferences preference,
          lower other = lower preference := by
        rw [addPreference]
        split
        case isTrue known =>
          rw [List.contains_iff_mem, List.mem_map] at known
          exact known
        case isFalse =>
          exact ⟨preference, List.mem_append_right _ List.mem_cons_self, rfl⟩
      obtain ⟨other, among, same⟩ := added
      exact ⟨other, (prefix_addPreferences lower _ rest).subset among, same⟩

end Preferences

def preferencesOf (stored : Option UserStateDoc) : List String :=
  stored.elim [] UserStateDoc.preferences

def pendingOf (stored : Option UserStateDoc) : List PendingAction :=
  stored.elim [] UserStateDoc.pendingActions

namespace UserStateDoc

section

variable (userId tenantId name : String) (loaded : Option UserStateDoc)

theorem preferences_setAgentName :
    (setAgentName userId tenantId name loaded).preferences = preferencesOf loaded := by
  cases loaded with
  | none => rfl
  | some doc => rw [setAgentName, Option.getD_some, preferencesOf, Option.elim_some]

theorem pendingActions_setAgentName :
    (setAgentName userId tenantId name loaded).pendingActions = pendingOf loaded := by
  cases loaded with
  | none => rfl
  | some doc => rw [setAgentName, Option.getD_some, pendingOf, Option.elim_some]

end

end UserStateDoc

/-- A preference is known up to case, unless there is no room for it. -/
def Knows (keeper : Keeper) (preference : String) (preferences : List String) : Prop :=
  (∃ other ∈ preferences, keeper.lower other = keeper.lower preference) ∨
    preferences.length = keeper.settings.maxPreferences

namespace Merge

variable {keeper : Keeper}

theorem mem_into {merge : Merge} {loaded : Option UserStateDoc} {pending : PendingAction}
    (member : pending ∈ pendingOf loaded ++ merge.actions) :
    pending ∈ pendingOf (store keeper loaded merge) ∨ merge.Drops keeper loaded pending := by
  obtain ⟨work, seen, mergedOn, savedOn⟩ := merge
  cases work with
  | naming name =>
    rw [actions, Work.found, Reflection.actions, List.take_nil, List.take_nil, List.map_nil,
      List.map_nil, List.append_nil, List.append_nil] at member
    rw [← UserStateDoc.pendingActions_setAgentName keeper.userId keeper.tenantId name]
      at member
    rcases UserStateDoc.mem_save member with kept | long
    · exact .inl kept
    · exact .inr (.inr ⟨_, List.mem_singleton_self _, long⟩)
  | reflection sessionId found =>
    cases accomplished : found.accomplishes keeper.lower pending with
    | true => exact .inr (.inl accomplished)
    | false =>
      have among : pending ∈ ((loaded.getD {
          userId := keeper.userId
          tenantId := keeper.tenantId
          agentName := seen.agentName }).absorb keeper.settings keeper.lower found
            seen.activeSkill seen.messageCount mergedOn).pendingActions := by
        apply List.mem_filter.mpr
        constructor
        · cases loaded with
          | none => exact member
          | some doc => exact member
        · rw [accomplished]
          rfl
      rcases UserStateDoc.mem_compact among with compacted | long
      · rcases UserStateDoc.mem_save compacted with kept | long
        · exact .inl kept
        · exact .inr (.inr ⟨_, List.mem_cons_of_mem _ (List.mem_singleton_self _), long⟩)
      · exact .inr (.inr ⟨_, List.mem_cons_self, long⟩)

theorem preferences_into (merge : Merge) {loaded : Option UserStateDoc}
    (room : (preferencesOf loaded).length ≤ keeper.settings.maxPreferences) :
    (merge.into keeper loaded).preferences =
      ((merge.work.found.preferences.take 3).foldl (addPreference keeper.lower)
        (preferencesOf loaded)).take keeper.settings.maxPreferences := by
  obtain ⟨work, seen, mergedOn, savedOn⟩ := merge
  cases work with
  | naming name =>
    rw [into, UserStateDoc.preferences_save, UserStateDoc.preferences_setAgentName,
      Work.found, List.take_nil, List.foldl_nil, List.take_of_length_le room]
  | reflection sessionId found =>
    rw [into, UserStateDoc.preferences_save, UserStateDoc.mergeReflection,
      UserStateDoc.preferences_compact]
    cases loaded <;> rfl

theorem agentName_into (merge : Merge) (loaded : Option UserStateDoc) :
    (merge.into keeper loaded).agentName =
      (merge.names loaded).getD (loaded.elim "" UserStateDoc.agentName) := by
  obtain ⟨work, seen, mergedOn, savedOn⟩ := merge
  cases work with
  | naming name => exact UserStateDoc.agentName_save _ _
  | reflection sessionId found =>
    rw [into, UserStateDoc.agentName_save, UserStateDoc.mergeReflection,
      UserStateDoc.agentName_compact]
    cases loaded <;> rfl

variable {loaded : Option UserStateDoc} (merge : Merge)

theorem length_preferences_into
    (room : (preferencesOf loaded).length ≤ keeper.settings.maxPreferences) :
    (merge.into keeper loaded).preferences.length ≤ keeper.settings.maxPreferences := by
  rw [merge.preferences_into room]
  exact List.length_take_le _ _

theorem knows_into {preference : String}
    (room : (preferencesOf loaded).length ≤ keeper.settings.maxPreferences)
    (known : Knows keeper preference (preferencesOf loaded)) :
    Knows keeper preference (merge.into keeper loaded).preferences := by
  have longer : preferencesOf loaded <+: (merge.into keeper loaded).preferences := by
    rw [merge.preferences_into room, List.prefix_take_iff]
    exact ⟨prefix_addPreferences _ _ _, room⟩
  rcases known with ⟨other, among, same⟩ | full
  · exact .inl ⟨other, longer.subset among, same⟩
  · right
    apply le_antisymm (merge.length_preferences_into room)
    rw [← full]
    exact longer.length_le

theorem knows_new {preference : String}
    (room : (preferencesOf loaded).length ≤ keeper.settings.maxPreferences)
    (new : preference ∈ merge.work.found.preferences.take 3) :
    Knows keeper preference (merge.into keeper loaded).preferences := by
  rw [merge.preferences_into room, Knows]
  obtain ⟨other, among, same⟩ := mem_addPreferences keeper.lower (preferencesOf loaded) new
  generalize (merge.work.found.preferences.take 3).foldl (addPreference keeper.lower)
    (preferencesOf loaded) = preferences at among
  rcases Nat.le_total preferences.length keeper.settings.maxPreferences with short | long
  · rw [List.take_of_length_le short]
    exact .inl ⟨other, among, same⟩
  · right
    rw [List.length_take, Nat.min_eq_left long]

theorem not_drops {merge : Merge} {pending : PendingAction}
    (remaining : merge.work.found.accomplishes keeper.lower pending = false)
    (short : ∀ draft ∈ merge.drafts keeper loaded,
      draft.length ≤ keeper.settings.userStateMaxChars) :
    ¬ merge.Drops keeper loaded pending := by
  rintro (accomplished | ⟨draft, among, full⟩)
  · rw [remaining] at accomplished
    cases accomplished
  · exact absurd full.long (not_lt.mpr (short draft among))

end Merge

section Turns

variable (keeper : Keeper)

theorem mergedInTurn_append (earlier later : List Merge) : mergedInTurn keeper (earlier ++ later) =
      run (Merge.store keeper) (mergedInTurn keeper earlier) later :=
  run_append _ none earlier later

theorem mergedInTurn_concat (earlier : List Merge) (merge : Merge) :
    mergedInTurn keeper (earlier ++ [merge]) =
      some (merge.into keeper (mergedInTurn keeper earlier)) :=
  run_concat _ none earlier merge

theorem room_mergedInTurn (merges : List Merge) :
    (preferencesOf (mergedInTurn keeper merges)).length ≤ keeper.settings.maxPreferences := by
  apply run_always (Merge.store keeper) fun stored =>
    (preferencesOf stored).length ≤ keeper.settings.maxPreferences
  · exact fun loaded merge => merge.length_preferences_into
  · exact Nat.zero_le _

theorem action_mergedInTurn (earlier later : List Merge) {merge : Merge}
    {pending : PendingAction} (member : pending ∈ merge.actions) :
    pending ∈ pendingOf (mergedInTurn keeper (earlier ++ merge :: later)) ∨
      ∃ between dropping rest, merge :: later = between ++ dropping :: rest ∧
        dropping.Drops keeper (mergedInTurn keeper (earlier ++ between)) pending := by
  rcases merge.mem_into (List.mem_append_right _ member) with kept | dropped
  · by_cases last : pending ∈ pendingOf (mergedInTurn keeper (earlier ++ merge :: later))
    · exact .inl last
    · right
      rw [List.append_cons, mergedInTurn_append, mergedInTurn_concat] at last
      obtain ⟨between, dropping, rest, split, before, after⟩ :=
        exists_crossing (Merge.store keeper) (fun stored => pending ∉ pendingOf stored)
          (not_not_intro kept) last
      refine ⟨merge :: between, dropping, rest, by rw [split]; rfl, ?_⟩
      rw [List.append_cons, mergedInTurn_append, mergedInTurn_concat]
      rcases dropping.mem_into (List.mem_append_left _ (not_not.mp before)) with kept | dropped
      · exact absurd kept after
      · exact dropped
  · exact .inr ⟨[], merge, later, rfl, by rw [List.append_nil]; exact dropped⟩

theorem knows_mergedInTurn {merges : List Merge} {merge : Merge} (among : merge ∈ merges)
    {preference : String} (new : preference ∈ merge.work.found.preferences.take 3) :
    Knows keeper preference (preferencesOf (mergedInTurn keeper merges)) := by
  obtain ⟨earlier, later, split⟩ := List.append_of_mem among
  rw [split, List.append_cons, mergedInTurn_append, mergedInTurn_concat]
  have room := room_mergedInTurn keeper earlier
  apply And.right
  apply run_always (Merge.store keeper) fun stored =>
    (preferencesOf stored).length ≤ keeper.settings.maxPreferences ∧
      Knows keeper preference (preferencesOf stored)
  · intro loaded other holds
    exact ⟨other.length_preferences_into holds.1, other.knows_into holds.1 holds.2⟩
  · exact ⟨merge.length_preferences_into room, merge.knows_new room new⟩

theorem name_mergedInTurn {earlier later : List Merge} {merge : Merge} {name : String}
    (given : name ∈ merge.names (mergedInTurn keeper earlier))
    (last : ∀ other ∈ later, other.work.name? = none) :
    ∃ doc ∈ mergedInTurn keeper (earlier ++ merge :: later), doc.agentName = name := by
  rw [List.append_cons, mergedInTurn_append, mergedInTurn_concat]
  apply run_invariant (Merge.store keeper) (fun other => other.work.name? = none)
    (fun stored => ∃ doc ∈ stored, doc.agentName = name)
  · rintro _ ⟨work, seen, mergedOn, savedOn⟩ nameless ⟨doc, rfl, named⟩
    refine ⟨_, rfl, ?_⟩
    rw [Merge.agentName_into]
    cases work with
    | naming => cases nameless
    | reflection => exact named
  · exact last
  · refine ⟨_, rfl, ?_⟩
    rw [Merge.agentName_into, given, Option.getD_some]

theorem hasMerged_mergedInTurn (merges : List Merge) :
    HasMerged keeper merges (mergedInTurn keeper merges) := by
  have stored : merges ≠ [] → ∃ doc, mergedInTurn keeper merges = some doc := by
    intro some
    obtain ⟨earlier, merge, split⟩ := List.eq_nil_or_concat merges |>.resolve_left some
    exact ⟨_, by rw [split, List.concat_eq_append, mergedInTurn_concat]⟩
  constructor
  · intro earlier merge later split pending member
    rcases action_mergedInTurn keeper earlier later member with kept | dropped
    · obtain ⟨doc, same⟩ := stored (by rw [split]; simp)
      rw [← split, same] at kept
      exact .inl ⟨doc, same, kept⟩
    · exact .inr dropped
  · intro merge among preference new
    obtain ⟨doc, same⟩ := stored (List.ne_nil_of_mem among)
    have known := knows_mergedInTurn keeper among new
    rw [same] at known
    exact ⟨doc, same, known⟩
  · intro earlier merge later split name given last
    rw [split]
    exact name_mergedInTurn keeper given last

end Turns

theorem tasks_at {tasks : List Task} {index : Nat} {task : Task}
    (found : tasks[index]? = some task) :
    ∃ before after, tasks = before ++ task :: after ∧
      (∀ other, tasks.set index other = before ++ other :: after) ∧
      tasks.eraseIdx index = before ++ after := by
  obtain ⟨inside, same⟩ := List.getElem?_eq_some_iff.mp found
  refine ⟨tasks.take index, tasks.drop (index + 1), ?_, ?_, ?_⟩
  · rw [← same, List.getElem_cons_drop, List.take_append_drop]
  · intro other
    rw [List.set_eq_take_append_cons_drop, if_pos inside]
  · exact List.eraseIdx_eq_take_drop_succ _ _

namespace Writers

variable {keeper : Keeper}

/-- The stored document has what was merged, and no session has two reflections. -/
structure Sound (keeper : Keeper) (writers : Writers) : Prop where
  stored : writers.stored = mergedInTurn keeper writers.merged
  once : (pledged writers.merged writers.tasks).Nodup

theorem sound_start : Sound keeper {} where
  stored := rfl
  once := List.nodup_nil

section

variable {writers : Writers}

theorem Sound.goOn {index : Nat} {task next : Task}
    (sound : Sound keeper writers) (found : writers.tasks[index]? = some task)
    (same : next.sessionId? = task.sessionId?) :
    Sound keeper { writers with tasks := writers.tasks.set index next } := by
  obtain ⟨before, after, split, set, -⟩ := tasks_at found
  have pledges : pledged writers.merged (writers.tasks.set index next) =
      pledged writers.merged writers.tasks := by
    rw [set, split, pledged, pledged, List.filterMap_append, List.filterMap_append,
      List.filterMap_cons, List.filterMap_cons, same]
  exact ⟨sound.stored, pledges ▸ sound.once⟩

theorem Sound.giveUp (sound : Sound keeper writers) (index : Nat) :
    Sound keeper { writers with tasks := writers.tasks.eraseIdx index } := by
  have fewer : (pledged writers.merged (writers.tasks.eraseIdx index)).Sublist
      (pledged writers.merged writers.tasks) :=
    ((List.eraseIdx_sublist _ _).filterMap _).append_left _
  exact ⟨sound.stored, sound.once.sublist fewer⟩

theorem Sound.merge {index : Nat} {loaded : Option UserStateDoc}
    {merge : Merge} (sound : Sound keeper writers)
    (found : writers.tasks[index]? = some (.putting loaded merge))
    (current : loaded = writers.stored) : Sound keeper
      { writers with
        stored := some (merge.into keeper loaded)
        tasks := writers.tasks.eraseIdx index
        merged := writers.merged ++ [merge] } := by
  obtain ⟨before, after, split, -, erased⟩ := tasks_at found
  have pledges : (pledged (writers.merged ++ [merge]) (writers.tasks.eraseIdx index)).Perm
      (pledged writers.merged writers.tasks) := by
    have ended : (Task.putting loaded merge :: after).filterMap Task.sessionId? =
        [merge].filterMap (fun merge => merge.work.sessionId?) ++
          after.filterMap Task.sessionId? := by
      rw [List.filterMap_cons, List.filterMap_cons, Task.sessionId?]
      cases merge.work.sessionId? <;> rfl
    rw [erased, split, pledged, pledged, List.filterMap_append, List.filterMap_append,
      List.filterMap_append, ended, List.append_assoc]
    exact (List.perm_append_comm_assoc _ _ _).append_left _
  constructor
  · rw [mergedInTurn_concat, ← sound.stored, current]
  · exact pledges.nodup_iff.mpr sound.once

theorem sound_step {event : WriterEvent}
    (careful : writers.Careful keeper event) (sound : Sound keeper writers) :
    Sound keeper (writers.step keeper event) := by
  cases event with
  | answered session message =>
    rw [step]
    split
    case isFalse => exact sound
    case isTrue reflects =>
      have pledges : pledged writers.merged (writers.tasks ++ [.reflecting session.sessionId]) =
          pledged writers.merged writers.tasks ++ [session.sessionId] := by
        rw [pledged, pledged, List.filterMap_append, List.append_assoc]
        rfl
      constructor
      · exact sound.stored
      · rw [pledges, ← List.concat_eq_append]
        exact sound.once.concat (careful reflects)
  | named message =>
    have pledges : pledged writers.merged
        (writers.tasks ++ [.loading (.naming (agentNameOf message))]) =
          pledged writers.merged writers.tasks := by
      rw [pledged, pledged, List.filterMap_append]
      exact congrArg _ (List.append_nil _)
    exact ⟨sound.stored, pledges ▸ sound.once⟩
  | reflected task outcome =>
    rw [step]
    split
    case h_1 sessionId found =>
      cases outcome with
      | none => exact sound.giveUp task
      | some reflection => exact sound.goOn found rfl
    case h_2 => exact sound
  | loaded task heard seen mergedOn savedOn =>
    rw [step]
    split
    case h_1 work found => exact sound.goOn found rfl
    case h_2 => exact sound
  | put task kept =>
    rw [step]
    split
    case h_1 loaded merge found =>
      split
      case isTrue applied => exact sound.merge found (careful applied loaded merge found)
      case isFalse => exact sound.giveUp task
    case h_2 => exact sound

end

/-- In every run in which a reflection is only started for a session of which none is merged or
under way, and every document is stored over the one it was made from, the stored document has
what was merged, and no session's reflection is merged twice. -/
theorem merges_survive {events : List WriterEvent}
    (careful : Allowed (step keeper) (Careful keeper) {} events) :
    HasMerged keeper (run (step keeper) {} events).merged (run (step keeper) {} events).stored ∧
      ((run (step keeper) {} events).merged.filterMap fun merge =>
        merge.work.sessionId?).Nodup := by
  have sound : Sound keeper (run (step keeper) {} events) :=
    run_allowed (step keeper) (Sound keeper) (fun _ _ => sound_step) careful sound_start
  constructor
  · rw [sound.stored]
    exact hasMerged_mergedInTurn keeper _
  · exact sound.once.of_append_left

/-- The document of a user, held to the default sizes. -/
def annKeeper : Keeper := { lower := Text.lower, userId := "ann", tenantId := "acme" }

def longSession (sessionId : String) : SessionState :=
  { newSession with sessionId, messageCount := 6 }

/-- What is read of such a session. -/
def seenLong : Seen := { agentName := "Shadow", messageCount := 6 }

def deferring (action : String) : Reflection := { pending := [action] }

def orderlyEvents : List WriterEvent := [
  .answered (longSession "s-1") "What is left?", .reflected 0 (some (deferring "Review access")),
  .loaded 0 true seenLong "2024-05-01" "2024-05-01", .put 0 true,
  .named "Shadow", .loaded 0 true seenLong "2024-05-01" "2024-05-01", .put 0 true,
  .answered (longSession "s-2") "And now?", .reflected 0 (some (deferring "Upload policy")),
  .loaded 0 true seenLong "2024-05-02" "2024-05-02", .put 0 true]

theorem merges_survive_orderly : HasMerged annKeeper (run (step annKeeper) {} orderlyEvents).merged
        (run (step annKeeper) {} orderlyEvents).stored ∧
      ((run (step annKeeper) {} orderlyEvents).merged.filterMap fun merge =>
        merge.work.sessionId?).Nodup := by
  apply merges_survive
  refine ⟨fun _ => List.not_mem_nil, trivial, trivial, ?_, trivial, trivial, ?_, fun _ => ?_,
    trivial, trivial, ?_, trivial⟩
  · rintro - loaded merge found
    cases found
    rfl
  · rintro - loaded merge found
    cases found
    rfl
  · decide
  · rintro - loaded merge found
    cases found
    rfl

/-- Two sessions of a user are reflected on at the same time: each loads the document before the
other has stored it. -/
def crossingEvents : List WriterEvent := [
  .answered (longSession "s-1") "What is left?", .answered (longSession "s-2") "And now?",
  .reflected 0 (some (deferring "Review access")),
  .reflected 1 (some (deferring "Upload policy")),
  .loaded 0 true seenLong "2024-05-01" "2024-05-01",
  .loaded 1 true seenLong "2024-05-01" "2024-05-01",
  .put 0 true, .put 0 true]

def goingOnEvents : List WriterEvent := [
  .answered (longSession "s-1") "What is left?", .reflected 0 (some (deferring "Review access")),
  .loaded 0 true seenLong "2024-05-01" "2024-05-01", .put 0 true,
  .answered { longSession "s-1" with messageCount := 7 } "And now?",
  .reflected 0 (some (deferring "Review access")),
  .loaded 0 true { seenLong with messageCount := 7 } "2024-05-01" "2024-05-01", .put 0 true]

theorem merges_lost_and_doubled :
    ¬ HasMerged annKeeper (run (step annKeeper) {} crossingEvents).merged
        (run (step annKeeper) {} crossingEvents).stored ∧
      ¬ ((run (step annKeeper) {} goingOnEvents).merged.filterMap fun merge =>
        merge.work.sessionId?).Nodup := by
  constructor
  · intro has
    rcases has.actions [] _ [_] rfl _ List.mem_cons_self with
      ⟨doc, stored, member⟩ | ⟨between, dropping, rest, split, drops⟩
    · cases stored
      revert member
      decide
    · revert drops
      cases between with
      | nil =>
        cases split
        exact Merge.not_drops rfl (by decide)
      | cons first between =>
        cases between with
        | nil =>
          cases split
          exact Merge.not_drops rfl (by decide)
        | cons second between => simp at split
  · decide
end Writers

end Onpremai.Conversation

/-!
## Merged documents

What a reflection leaves in the document of a user.  The pending actions alone give way when the
document is too long, and a preference that is already listed takes precedence over a new one; the
reflection's own actions are appended each time that it is merged.
-/

namespace Onpremai.Conversation

open Onpremai.Library

/-- When a reflection is merged and saved, and what is known of its session. -/
structure Occasion where
  activeSkill : Option String := none
  messageCount : Int := 0
  mergedOn : String
  savedOn : String

namespace UserStateDoc

section

variable (settings : UserStateSettings) (lower : String → String)

def storeMerged (doc : UserStateDoc) (reflection : Reflection) (occasion : Occasion) :
    UserStateDoc :=
  (doc.mergeReflection settings lower reflection occasion.activeSkill occasion.messageCount
    occasion.mergedOn).save settings occasion.savedOn

/-- What a reflection could be expected to leave: a short document with all the preferences that
it states, into which it can be merged again without a trace. -/
structure Ideal (reflection : Reflection) (stored again : UserStateDoc) : Prop where
  short : stored.length ≤ settings.userStateMaxChars
  distinct : (stored.preferences.map lower).Nodup
  few : stored.preferences.length ≤ settings.maxPreferences
  cleared : ∀ pending ∈ stored.pendingActions, reflection.accomplishes lower pending = false
  stated : ∀ preference ∈ reflection.preferences,
    ∃ other ∈ stored.preferences, lower other = lower preference
  pendingAgain : again.pendingActions.Sublist stored.pendingActions
  preferencesAgain : again.preferences.Sublist stored.preferences

/-- What a reflection leaves of a document, and what is left of that when it is merged once
more. -/
structure Merged (doc : UserStateDoc) (reflection : Reflection) (second : Occasion)
    (stored again : UserStateDoc) : Prop where
  /-- The document is short enough, or all pending actions have given way. -/
  short : stored.length ≤ settings.userStateMaxChars ∨ stored.pendingActions = []
  distinct : (doc.preferences.map lower).Nodup → (stored.preferences.map lower).Nodup
  few : stored.preferences.length ≤ settings.maxPreferences
  cleared : ∀ pending ∈ stored.pendingActions, reflection.accomplishes lower pending = false
  /-- New preferences come after the ones that are listed, as far as there is room. -/
  stated : ∃ added : List String,
    stored.preferences = (doc.preferences ++ added).take settings.maxPreferences ∧
      added.Sublist (reflection.preferences.take 3) ∧
      List.Disjoint (doc.preferences.map lower) (added.map lower) ∧
      ∀ preference ∈ reflection.preferences.take 3,
        ∃ other ∈ doc.preferences ++ added, lower other = lower preference
  /-- Only the reflection's own actions that are not accomplished are appended again. -/
  pendingAgain : again.pendingActions <:+ stored.pendingActions ++
    (reflection.actions second.mergedOn).filter fun pending =>
      !reflection.accomplishes lower pending
  preferencesAgain : again.preferences = stored.preferences

end

section

variable {settings : UserStateSettings} {lower : String → String} {reflection : Reflection}

section

variable (doc : UserStateDoc)

theorem evict_suffix (actions : List PendingAction) : evict settings doc actions <:+ actions := by
  induction actions with
  | nil => exact List.suffix_rfl
  | cons oldest rest ih =>
    rw [evict]
    split
    · exact ih.trans (List.suffix_cons oldest rest)
    · exact List.suffix_rfl

theorem evict_short (actions : List PendingAction) :
    { doc with pendingActions := evict settings doc actions }.length ≤ settings.userStateMaxChars ∨
      evict settings doc actions = [] := by
  induction actions with
  | nil => exact .inr rfl
  | cons oldest rest ih =>
    rw [evict]
    split
    case isTrue => exact ih
    case isFalse short => exact .inl (not_lt.mp short)

theorem pendingActions_save_suffix (today : String) :
    (doc.save settings today).pendingActions <:+ doc.pendingActions := by
  rw [save]
  split
  · exact evict_suffix _ _
  · exact List.suffix_rfl

theorem save_short (today : String) :
    (doc.save settings today).length ≤ settings.userStateMaxChars ∨
      (doc.save settings today).pendingActions = [] := by
  rw [save]
  split
  case isTrue => exact evict_short _ _
  case isFalse short => exact .inl (not_lt.mp short)

theorem pendingActions_storeMerged_suffix (occasion : Occasion) :
    (doc.storeMerged settings lower reflection occasion).pendingActions <:+
      (doc.pendingActions ++ reflection.actions occasion.mergedOn).filter fun pending =>
        !reflection.accomplishes lower pending :=
  (pendingActions_save_suffix _ _).trans (evict_suffix _ _)

theorem not_accomplishes_storeMerged (occasion : Occasion) :
    ∀ pending ∈ (doc.storeMerged settings lower reflection occasion).pendingActions,
      reflection.accomplishes lower pending = false := by
  intro pending member
  have among := (pendingActions_storeMerged_suffix doc occasion).subset member
  rw [List.mem_filter, Bool.not_eq_true'] at among
  exact among.2

end

end

end UserStateDoc

namespace JsonLength

theorem le_bracketed {item : Nat} {items : List Nat} (member : item ∈ items) :
    item ≤ bracketed items := by
  have within := List.single_le_sum (fun _ _ => Nat.zero_le _) item member
  rw [bracketed]
  omega

theorem length_lt_text (value : String) : value.toList.length < text value := by
  have some : ∀ count ∈ value.toList.map escaped, 1 ≤ count := by
    intro count member
    obtain ⟨char, -, rfl⟩ := List.mem_map.mp member
    rw [escaped]
    split_ifs <;> omega
  have least := List.length_le_sum_of_one_le _ some
  rw [List.length_map] at least
  rw [text]
  omega

end JsonLength

theorem UserStateDoc.length_preference_lt {doc : UserStateDoc} {preference : String}
    (member : preference ∈ doc.preferences) : preference.toList.length < doc.length := by
  have inList : JsonLength.text preference ≤ JsonLength.texts doc.preferences :=
    JsonLength.le_bracketed (List.mem_map_of_mem member)
  have inField : JsonLength.field "preferences" (JsonLength.texts doc.preferences) ≤ doc.length :=
    JsonLength.le_bracketed (by simp)
  rw [JsonLength.field] at inField
  have quoted := JsonLength.length_lt_text preference
  omega

section

variable {lower : String → String}

theorem exists_added (preferences new : List String) :
    ∃ added : List String, new.foldl (addPreference lower) preferences = preferences ++ added ∧
      added.Sublist new ∧ (added.map lower).Nodup ∧
      List.Disjoint (preferences.map lower) (added.map lower) := by
  induction new generalizing preferences with
  | nil =>
    exact ⟨[], (List.append_nil _).symm, List.Sublist.slnil, List.nodup_nil,
      List.disjoint_nil_right _⟩
  | cons preference new ih =>
    rw [List.foldl_cons, addPreference]
    split
    case isTrue =>
      obtain ⟨added, whole, among, distinct⟩ := ih preferences
      exact ⟨added, whole, among.cons preference, distinct⟩
    case isFalse unknown =>
      obtain ⟨added, whole, among, distinct, apart⟩ := ih (preferences ++ [preference])
      rw [List.contains_iff_mem] at unknown
      rw [List.map_append, List.map_singleton, List.disjoint_append_left,
        List.singleton_disjoint] at apart
      refine ⟨preference :: added, ?_, among.cons_cons preference, ?_, ?_⟩
      · rw [whole, List.append_assoc, List.singleton_append]
      · rw [List.map_cons, List.nodup_cons]
        exact ⟨apart.2, distinct⟩
      · rw [List.map_cons, List.disjoint_cons_right]
        exact ⟨unknown, apart.1⟩

theorem addPreferences_known {preferences new : List String}
    (known : ∀ preference ∈ new, ∃ other ∈ preferences, lower other = lower preference) :
    new.foldl (addPreference lower) preferences = preferences := by
  induction new with
  | nil => rfl
  | cons preference new ih =>
    rw [List.forall_mem_cons] at known
    have listed : (preferences.map lower).contains (lower preference) = true := by
      rw [List.contains_iff_mem, List.mem_map]
      exact known.1
    rw [List.foldl_cons, addPreference, if_pos listed]
    exact ih known.2

theorem take_addPreferences (preferences new : List String) (room : Nat) :
    (new.foldl (addPreference lower)
        ((new.foldl (addPreference lower) preferences).take room)).take room =
      (new.foldl (addPreference lower) preferences).take room := by
  rcases Nat.lt_or_ge room (new.foldl (addPreference lower) preferences).length with full | short
  · obtain ⟨more, parts⟩ := prefix_addPreferences lower
      ((new.foldl (addPreference lower) preferences).take room) new
    have count := List.length_take_of_le (Nat.le_of_lt full)
    rw [← parts]
    nth_rewrite 1 [← count]
    exact List.take_left
  · rw [List.take_of_length_le short, addPreferences_known, List.take_of_length_le short]
    exact fun preference member => mem_addPreferences lower preferences member

end

namespace UserStateDoc

variable {settings : UserStateSettings} {lower : String → String}

theorem preferences_storeMerged (doc : UserStateDoc) (reflection : Reflection)
    (occasion : Occasion) :
    (doc.storeMerged settings lower reflection occasion).preferences =
      ((reflection.preferences.take 3).foldl (addPreference lower) doc.preferences).take
        settings.maxPreferences := by
  rw [storeMerged, preferences_save]
  rfl

/-- Every merge leaves a document within its sizes, without accomplished actions, and with the new
preferences that there is room for; a second merge appends nothing but the reflection's own
actions. -/
theorem merged_storeMerged (settings : UserStateSettings) (lower : String → String)
    (doc : UserStateDoc) (reflection : Reflection) (first second : Occasion) :
    Merged settings lower doc reflection second
      (doc.storeMerged settings lower reflection first)
      ((doc.storeMerged settings lower reflection first).storeMerged settings lower reflection
        second) := by
  obtain ⟨added, whole, among, distinct, apart⟩ :=
    @exists_added lower doc.preferences (reflection.preferences.take 3)
  constructor
  · exact save_short _ _
  · intro listed
    have all : ((doc.preferences ++ added).map lower).Nodup := by
      rw [List.map_append]
      exact listed.append distinct apart
    rw [preferences_storeMerged, whole]
    exact all.sublist ((List.take_sublist _ _).map lower)
  · rw [preferences_storeMerged, List.length_take]
    exact Nat.min_le_left _ _
  · exact not_accomplishes_storeMerged doc first
  · refine ⟨added, by rw [preferences_storeMerged, whole], among, apart, ?_⟩
    rw [← whole]
    exact fun preference member => mem_addPreferences lower doc.preferences member
  · have suffix := @pendingActions_storeMerged_suffix settings lower reflection
      (doc.storeMerged settings lower reflection first) second
    rw [List.filter_append, List.filter_eq_self.mpr] at suffix
    · exact suffix
    · intro pending member
      rw [not_accomplishes_storeMerged doc first pending member]
      rfl
  · rw [preferences_storeMerged, preferences_storeMerged, take_addPreferences]

def settledDoc : UserStateDoc where
  userId := "ann"
  tenantId := "acme"
  preferences := ["brief", "tables", "bullets", "charts", "examples", "links", "dates", "owners",
    "steps", "numbers"]

/-- A document whose one preference is longer than a document may be. -/
def wordyDoc : UserStateDoc where
  userId := "ann"
  tenantId := "acme"
  preferences := [String.ofList (List.replicate 2000 'a')]

def someDay : Occasion := { mergedOn := "2024-05-01", savedOn := "2024-05-01" }

/-- Merged under the default sizes. -/
def mergedOnce (doc : UserStateDoc) (reflection : Reflection) : UserStateDoc :=
  doc.storeMerged {} Text.lower reflection someDay

def mornings : Reflection := { preferences := ["Prefers mornings"] }

def review : Reflection := { pending := ["Review access"] }

/-- A new preference finds no room, a pending item is appended a second time, and a document
without pending actions stays too long. -/
theorem merge_not_ideal :
    (∀ again, ¬ Ideal {} Text.lower mornings (mergedOnce settledDoc mornings) again) ∧
      ¬ Ideal {} Text.lower review (mergedOnce settledDoc review)
        (mergedOnce (mergedOnce settledDoc review) review) ∧
      ∀ again, ¬ Ideal {} Text.lower {} (mergedOnce wordyDoc {}) again := by
  refine ⟨?_, ?_, ?_⟩
  · intro again ideal
    have stated := ideal.stated "Prefers mornings" (by decide)
    revert stated
    decide +kernel
  · intro ideal
    have shorter := ideal.pendingAgain.length_le
    revert shorter
    decide +kernel
  · intro again ideal
    have long := @length_preference_lt (mergedOnce wordyDoc {})
      (String.ofList (List.replicate 2000 'a')) (by
        rw [mergedOnce, preferences_storeMerged]
        exact List.mem_cons_self)
    rw [String.toList_ofList, List.length_replicate] at long
    exact absurd ideal.short (not_le.mpr long)

end UserStateDoc

end Onpremai.Conversation
