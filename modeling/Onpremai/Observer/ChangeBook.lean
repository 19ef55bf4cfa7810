import Onpremai.Observer.AutonomyLimits

/-!
# What becomes of proposed changes

The applier, the human queue and the rollback engine share the objects of the changes, and
each sets their status on its own.  Every change should stay accounted for: waiting for a
human, in effect, or settled.
-/

namespace Onpremai.Observer

open Onpremai.Library

/-- A change as it is proposed. -/
structure Proposal where
  change : Change
  proposed : change.status = .proposed
  fresh : change.snapshot = .obj []

/-- The objects of all changes that were proposed, and the queue of those that wait for a
human, which refers to them. -/
structure ChangeBook where
  changes : List Change := []
  humanQueue : List Nat := []
  pendingValidations : List (String × Time × Int) := []

/-- What happens to changes: a new one is applied, the human decides on one in the queue by its
id, one is validated, and one is rolled back, itself or as a canary. -/
inductive BookMove where
  | apply (proposal : Proposal) (circuitBreakerOpen : Bool) (replies : Replies)
  | approve (changeId : String)
  | reject (changeId : String)
  | validate (index : Nat)
  | rollback (index : Nat) (reply : HttpReply)
  | rollbackCanary (index : Nat) (reply : HttpReply)

namespace ChangeBook

variable (settings : ObserverSettings) (book : ChangeBook)

def applier : ApplierState where
  pendingValidations := book.pendingValidations
  humanQueue := book.humanQueue.filterMap fun index => book.changes[index]?

/-- The object of a change when an exception leaves its application: the snapshot is set
already if it was taken. -/
def interrupted (change : Change) (replies : Replies) : Change :=
  match change.applyTier, takeSnapshot change replies with
  | .auto, .ok snapshot => { change with snapshot }
  | _, _ => change

def apply (change : Change) (circuitBreakerOpen : Bool) (replies : Replies) : ChangeBook :=
  match Observer.apply settings book.applier change circuitBreakerOpen replies with
  | .error _ => { book with changes := book.changes ++ [interrupted change replies] }
  | .ok (changed, applier) =>
    { changes := book.changes ++ [changed]
      humanQueue :=
        if applier.humanQueue.length = book.applier.humanQueue.length then book.humanQueue
        else book.humanQueue ++ [book.changes.length]
      pendingValidations := applier.pendingValidations }

def hasId (changeId : String) (index : Nat) : Bool :=
  book.changes[index]?.any fun change => decide (change.id = changeId)

def decide (status : ChangeStatus) (changeId : String) : ChangeBook :=
  match book.humanQueue.find? (book.hasId changeId) with
  | none => book
  | some index =>
    { book with
      changes := book.changes.modify index fun change => { change with status }
      humanQueue := book.humanQueue.erase index }

def approveChange (changeId : String) : ChangeBook := book.decide .approved changeId

def rejectChange (changeId : String) : ChangeBook := book.decide .rejected changeId

def step : BookMove → ChangeBook
  | .apply proposal circuitBreakerOpen replies =>
    book.apply settings proposal.change circuitBreakerOpen replies
  | .approve changeId => book.approveChange changeId
  | .reject changeId => book.rejectChange changeId
  | .validate _ => book
  | .rollback index reply =>
    { book with
      changes := book.changes.modify index fun change =>
        afterCall change (Observer.rollback change reply) }
  | .rollbackCanary index reply =>
    { book with
      changes := book.changes.modify index fun change =>
        afterCall change (Observer.rollbackCanary change reply) }

end ChangeBook

def ChangeStatus.inEffect (status : ChangeStatus) : Prop :=
  status = .applied ∨ status = .canaryRunning

/-- The change is settled for good. -/
def ChangeStatus.terminal (status : ChangeStatus) : Prop :=
  status = .rejected ∨ status = .validated ∨ status = .rolledBack ∨ status = .canaryPassed ∨
    status = .canaryFailed

namespace ChangeBook

variable (settings : ObserverSettings) (book : ChangeBook)

def status? (index : Nat) : Option ChangeStatus := book.changes[index]?.map Change.status

/-- Every change waits in the queue, is in effect or is settled, and the queue holds exactly
those that are proposed. -/
structure Accounted : Prop where
  kept : ∀ index status, book.status? index = some status →
    (index ∈ book.humanQueue ∧ status = .proposed) ∨ status.inEffect ∨ status.terminal
  queued : ∀ index status, book.status? index = some status →
    (status = .proposed ↔ index ∈ book.humanQueue)

def RollsBackInEffect (move : BookMove) : Prop :=
  ∀ index, (book.step settings move).status? index = some .rolledBack →
    ∃ status, book.status? index = some status ∧ (status.inEffect ∨ status = .rolledBack)

/-- The move keeps every change accounted for. -/
structure KeepsAccount (move : BookMove) : Prop where
  accounted : (book.step settings move).Accounted
  rolledBack : book.RollsBackInEffect settings move

def TakesEffect (change : Change) (replies : Replies) : Prop :=
  match change.applyTier with
  | .human => True
  | .canary => replies.execute.hasStatus 200 = true
  | .auto =>
    defaultTier change.changeType = .auto ∧ snapshotReads replies = true ∧
      accepts change.changeType replies.execute = true

def Orderly : BookMove → Prop
  | .apply proposal circuitBreakerOpen replies =>
    TakesEffect (underBreaker circuitBreakerOpen proposal.change) replies
  | .approve changeId => ∀ index ∈ book.humanQueue, book.hasId changeId index = false
  | .reject _ => True
  | .validate _ => True
  | .rollback index reply => ∀ change, book.changes[index]? = some change →
      restores change reply = true → change.status.inEffect ∨ change.status = .rolledBack
  | .rollbackCanary index reply => reply.hasStatus 200 = true → index ∉ book.humanQueue

/-- In a run from an empty book every change is accounted for at all times, and only changes in
effect are rolled back. -/
structure NothingLost (moves : List BookMove) : Prop where
  accounted : ∀ earlier later, moves = earlier ++ later → (run (step settings) {} earlier).Accounted
  rolledBack : ∀ earlier move later, moves = earlier ++ move :: later →
    (run (step settings) {} earlier).RollsBackInEffect settings move

/-- The queue refers to objects, to each of them once. -/
structure Sound : Prop where
  refers : ∀ index ∈ book.humanQueue, index < book.changes.length
  once : book.humanQueue.Nodup

variable {settings} {book}

theorem interrupted_status (change : Change) (replies : Replies) :
    (interrupted change replies).status = change.status := by
  rw [interrupted.eq_def]
  split
  · rfl
  · rfl

/-- What an application adds to the book: a change that waits in the queue, one that is in
effect, or one that is neither. -/
inductive Adds (book after : ChangeBook) (change : Change) (replies : Replies) : Prop
  | waits (object : Change) (changes : after.changes = book.changes ++ [object])
      (queue : after.humanQueue = book.humanQueue ++ [book.changes.length])
      (status : object.status = .proposed) (takes : TakesEffect change replies)
  | takes (object : Change) (changes : after.changes = book.changes ++ [object])
      (queue : after.humanQueue = book.humanQueue) (status : object.status.inEffect)
      (takes : TakesEffect change replies)
  | fails (object : Change) (changes : after.changes = book.changes ++ [object])
      (queue : after.humanQueue = book.humanQueue)
      (status : object.status = .proposed ∨ object.status = .rolledBack)
      (fails : ¬ TakesEffect change replies)

theorem applyAuto_status {applier : ApplierState} {change : Change} {replies : Replies}
    {outcome : Change × ApplierState}
    (returned : applyAuto settings applier change replies = .ok outcome) :
    (outcome.1.status = .applied ∨ outcome.1.status = .rolledBack) ∧
      outcome.2.humanQueue = applier.humanQueue := by
  simp only [applyAuto, bind_eq_ok] at returned
  obtain ⟨snapshot, -, success, -, made⟩ := returned
  cases success with
  | true =>
    cases made
    exact ⟨.inl rfl, rfl⟩
  | false =>
    cases made
    exact ⟨.inr rfl, rfl⟩

theorem applyCanary_status {change changed : Change} {replies : Replies}
    (returned : applyCanary change replies = .ok changed) :
    changed.status = .canaryRunning ∨ changed.status = .proposed := by
  rw [applyCanary] at returned
  cases executed : replies.execute with
  | raised error =>
    rw [executed] at returned
    cases returned
  | httpError =>
    rw [executed] at returned
    cases returned
    exact .inr rfl
  | answered status body =>
    rw [executed] at returned
    dsimp only at returned
    split at returned
    · cases returned
      exact .inl rfl
    · cases returned
      exact .inr rfl

theorem applyAuto_of_unsupported {applier : ApplierState} {change : Change} {replies : Replies}
    {outcome : Change × ApplierState} (unsupported : defaultTier change.changeType ≠ .auto)
    (returned : applyAuto settings applier change replies = .ok outcome) :
    outcome.1.status = .rolledBack := by
  simp only [applyAuto, bind_eq_ok] at returned
  obtain ⟨snapshot, -, success, executed, made⟩ := returned
  have failed : success = false := by
    rw [executeChange] at executed
    cases typed : change.changeType with
    | prompt | model =>
      rw [typed] at executed
      cases executed
      rfl
    | routing | threshold | pattern =>
      rw [typed] at unsupported
      exact absurd rfl unsupported
  rw [failed] at made
  cases made
  rfl

theorem apply_adds (proposal : Proposal) (circuitBreakerOpen : Bool) (replies : Replies) :
    Adds book (book.apply settings proposal.change circuitBreakerOpen replies)
      (underBreaker circuitBreakerOpen proposal.change) replies := by
  have fresh : (interrupted proposal.change replies).status = .proposed :=
    (interrupted_status proposal.change replies).trans proposal.proposed
  rw [apply, apply_eq]
  cases tier : (underBreaker circuitBreakerOpen proposal.change).applyTier with
  | auto =>
    dsimp only
    have fails : ∀ outcome, applyAuto settings book.applier
        (underBreaker circuitBreakerOpen proposal.change) replies = .ok outcome →
          outcome.1.status ≠ .applied →
          ¬ TakesEffect (underBreaker circuitBreakerOpen proposal.change) replies := by
      intro outcome returned failed takes
      rw [TakesEffect, tier] at takes
      obtain ⟨other, ran, applied⟩ := (applyAuto_applied_iff takes.1 replies).mpr takes.2
      rw [returned] at ran
      cases ran
      exact failed applied
    cases returned : applyAuto settings book.applier
        (underBreaker circuitBreakerOpen proposal.change) replies with
    | error error =>
      refine Adds.fails (interrupted proposal.change replies) (by rfl) (by rfl) (.inl fresh) ?_
      intro takes
      rw [TakesEffect, tier] at takes
      obtain ⟨other, ran, _⟩ := (applyAuto_applied_iff takes.1 replies).mpr takes.2
      rw [returned] at ran
      cases ran
    | ok outcome =>
      have kept := applyAuto_status returned
      have queue : (if outcome.2.humanQueue.length = book.applier.humanQueue.length then
          book.humanQueue else book.humanQueue ++ [book.changes.length]) =
            book.humanQueue := if_pos (congrArg List.length kept.2)
      rcases kept.1 with applied | rolledBack
      · refine Adds.takes _ rfl queue (.inl applied) ?_
        rw [TakesEffect, tier]
        have supported : defaultTier (underBreaker circuitBreakerOpen
            proposal.change).changeType = .auto := by
          by_contra unsupported
          have failed := applyAuto_of_unsupported unsupported returned
          exact absurd (applied.symm.trans failed) (by simp)
        exact ⟨supported, (applyAuto_applied_iff supported replies).mp
          ⟨outcome, returned, applied⟩⟩
      · refine Adds.fails _ rfl queue (.inr rolledBack) (fails outcome returned ?_)
        rw [rolledBack]
        simp
  | canary =>
    dsimp only
    cases returned : applyCanary (underBreaker circuitBreakerOpen proposal.change) replies with
    | error error =>
      refine Adds.fails (interrupted proposal.change replies) (by rfl) (by rfl) (.inl fresh) ?_
      intro takes
      rw [TakesEffect, tier] at takes
      obtain ⟨changed, ran⟩ := @applyCanary_returns
        (underBreaker circuitBreakerOpen proposal.change) replies takes
      rw [returned] at ran
      cases ran
    | ok changed =>
      have runs := (applyCanary_keeps returned).2.2.2.2
      have queue : (if book.applier.humanQueue.length = book.applier.humanQueue.length then
          book.humanQueue else book.humanQueue ++ [book.changes.length]) =
            book.humanQueue := if_pos rfl
      rcases applyCanary_status returned with running | failed
      · refine Adds.takes changed rfl queue (.inr running) ?_
        rw [TakesEffect, tier]
        exact runs.mp running
      · refine Adds.fails changed rfl queue (.inl failed) ?_
        rw [TakesEffect, tier]
        intro accepted
        exact absurd (failed.symm.trans (runs.mpr accepted)) (by simp)
  | human =>
    dsimp only
    apply Adds.waits _ rfl _ rfl
    · rw [TakesEffect, tier]
      trivial
    · exact if_neg (by simp [queueForHuman])

/-! ## Statuses after a move -/

variable {after : ChangeBook} {object : Change} {index other : Nat}

theorem status?_append (changes : after.changes = book.changes ++ [object]) (index : Nat) :
    after.status? index =
      if index = book.changes.length then some object.status else book.status? index := by
  rw [status?, status?, changes]
  split
  · next last =>
    rw [last, List.getElem?_concat_length]
    rfl
  · next older =>
    rw [List.getElem?_append]
    split
    · rfl
    · next beyond =>
      have past : book.changes.length < index := by omega
      rw [List.getElem?_eq_none (by simp; omega), List.getElem?_eq_none (by omega)]

theorem status?_length (book : ChangeBook) : book.status? book.changes.length = none := by
  rw [status?, List.getElem?_eq_none le_rfl]
  rfl

theorem status?_modify {change : Change → Change}
    (changes : after.changes = book.changes.modify index change) (other : Nat) :
    after.status? other =
      if index = other then book.changes[index]?.map fun object => (change object).status
      else book.status? other := by
  rw [status?, status?, changes, List.getElem?_modify]
  split
  · next same =>
    rw [same]
    cases book.changes[other]? with
    | none => rfl
    | some object => rfl
  · cases book.changes[other]? with
    | none => rfl
    | some object => rfl

theorem Sound.not_last (sound : book.Sound) : book.changes.length ∉ book.humanQueue :=
  fun queued => absurd (sound.refers _ queued) (lt_irrefl _)

theorem accounted_of_adds (sound : book.Sound) (accounted : book.Accounted) {change : Change}
    {replies : Replies} (adds : Adds book after change replies) :
    after.Accounted ∧ (∀ index, after.status? index = some .rolledBack →
        ∃ status, book.status? index = some status ∧ (status.inEffect ∨ status = .rolledBack)) ↔
      TakesEffect change replies := by
  cases adds with
  | waits object changes queue status takes =>
    have statuses := status?_append changes
    apply iff_of_true _ takes
    have inQueue : ∀ index, index ∈ after.humanQueue ↔
        index ∈ book.humanQueue ∨ index = book.changes.length := by
      intro index
      rw [queue, List.mem_append, List.mem_singleton]
    refine ⟨⟨?_, ?_⟩, ?_⟩
    · intro index current found
      rw [statuses] at found
      rw [inQueue]
      split at found
      · next last =>
        cases found
        exact .inl ⟨.inr last, status⟩
      · rcases accounted.kept index current found with waits | settled
        · exact .inl ⟨.inl waits.1, waits.2⟩
        · exact .inr settled
    · intro index current found
      rw [statuses] at found
      rw [inQueue]
      split at found
      · next last =>
        cases found
        exact iff_of_true status (.inr last)
      · next earlier =>
        rw [or_iff_left earlier]
        exact accounted.queued index current found
    · intro index found
      rw [statuses] at found
      split at found
      · rw [status] at found
        cases found
      · exact ⟨_, found, .inr rfl⟩
  | takes object changes queue status takes =>
    have statuses := status?_append changes
    apply iff_of_true _ takes
    refine ⟨⟨?_, ?_⟩, ?_⟩
    · intro index current found
      rw [statuses] at found
      rw [queue]
      split at found
      · cases found
        exact .inr (.inl status)
      · exact accounted.kept index current found
    · intro index current found
      rw [statuses] at found
      rw [queue]
      split at found
      · next last =>
        cases found
        apply iff_of_false
        · intro proposed
          rw [proposed] at status
          rcases status with applied | running
          · cases applied
          · cases running
        · rw [last]
          exact sound.not_last
      · exact accounted.queued index current found
    · intro index found
      rw [statuses] at found
      split at found
      · have rolledBack := Option.some.inj found
        rw [rolledBack] at status
        rcases status with applied | running
        · cases applied
        · cases running
      · exact ⟨_, found, .inr rfl⟩
  | fails object changes queue status fails =>
    have last : after.status? book.changes.length = some object.status := by
      rw [status?_append changes, if_pos rfl]
    apply iff_of_false _ fails
    rintro ⟨kept, rolls⟩
    rcases status with proposed | rolledBack
    · have queued := (kept.queued _ _ last).mp proposed
      rw [queue] at queued
      exact sound.not_last queued
    · rw [rolledBack] at last
      obtain ⟨status, found, _⟩ := rolls _ last
      rw [status?_length] at found
      cases found

theorem accounted_of_decide (sound : book.Sound) (accounted : book.Accounted)
    {status : ChangeStatus} {changeId : String} (decided : status ≠ .proposed)
    (settled : status.terminal ∨ ¬ status.inEffect) :
    (book.decide status changeId).Accounted ↔
      status.terminal ∨ ∀ index ∈ book.humanQueue, book.hasId changeId index = false := by
  rw [decide]
  cases found : book.humanQueue.find? (book.hasId changeId) with
  | none =>
    apply iff_of_true accounted
    right
    intro index queued
    exact Bool.eq_false_iff.mpr (List.find?_eq_none.mp found index queued)
  | some index =>
    have queued := List.mem_of_find?_eq_some found
    have named := List.find?_some found
    have inside := sound.refers index queued
    have statuses : ∀ other, ChangeBook.status?
        { book with
          changes := book.changes.modify index fun change => { change with status }
          humanQueue := book.humanQueue.erase index } other =
        if index = other then some status else book.status? other := by
      intro other
      rw [status?_modify rfl, List.getElem?_eq_getElem inside]
      rfl
    have inQueue : ∀ other, other ∈ book.humanQueue.erase index ↔
        other ≠ index ∧ other ∈ book.humanQueue := fun other => sound.once.mem_erase_iff
    constructor
    · intro kept
      left
      have after := kept.kept index status (by rw [statuses, if_pos rfl])
      rcases after with waits | inEffect | terminal
      · exact absurd waits.2 decided
      · exact settled.resolve_right (fun idle => idle inEffect)
      · exact terminal
    · rintro (terminal | unnamed)
      · constructor
        · intro other current current_
          rw [statuses] at current_
          split at current_
          · cases current_
            exact .inr (.inr terminal)
          · next differs =>
            rcases accounted.kept other current current_ with waits | rest
            · exact .inl ⟨(inQueue other).mpr ⟨Ne.symm differs, waits.1⟩, waits.2⟩
            · exact .inr rest
        · intro other current current_
          rw [statuses] at current_
          split at current_
          · next same =>
            cases current_
            apply iff_of_false decided
            intro queued
            exact ((inQueue other).mp queued).1 same.symm
          · next differs =>
            rw [accounted.queued other current current_]
            exact ⟨fun queued => (inQueue other).mpr ⟨Ne.symm differs, queued⟩,
              fun queued => ((inQueue other).mp queued).2⟩
      · rw [unnamed index queued] at named
        cases named

theorem accounted_of_settle (accounted : book.Accounted) {status : ChangeStatus}
    (terminal : status.terminal) {settles : Change → Bool}
    (changes : after.changes = book.changes.modify index fun change =>
      if settles change = true then { change with status } else change)
    (queue : after.humanQueue = book.humanQueue) :
    after.Accounted ↔ ∀ change, book.changes[index]? = some change → settles change = true →
      index ∉ book.humanQueue := by
  have idle : status ≠ .proposed := by
    intro proposed
    rw [proposed] at terminal
    simp [ChangeStatus.terminal] at terminal
  have statuses : ∀ other, after.status? other = if index = other then
      book.changes[index]?.map fun change =>
        if settles change = true then status else change.status
      else book.status? other := by
    intro other
    rw [status?_modify changes]
    cases book.changes[index]? with
    | none => rfl
    | some change =>
      by_cases settle : settles change = true
      · simp only [Option.map_some, if_pos settle]
      · simp only [Option.map_some, if_neg settle]
  constructor
  · intro kept change found settle queued
    have current : after.status? index = some status := by
      rw [statuses, if_pos rfl, found, Option.map_some, if_pos settle]
    rw [← queue] at queued
    exact idle ((kept.queued index status current).mpr queued)
  · intro free
    have cases_ : ∀ other current, after.status? other = some current →
        book.status? other = some current ∨
          (current = status ∧ other ∉ book.humanQueue) := by
      intro other current found
      rw [statuses] at found
      split at found
      · next same =>
        cases object : book.changes[index]? with
        | none =>
          rw [object] at found
          cases found
        | some change =>
          rw [object, Option.map_some] at found
          by_cases settle : settles change = true
          · rw [if_pos settle] at found
            exact .inr ⟨(Option.some.inj found).symm, same ▸ free change object settle⟩
          · rw [if_neg settle] at found
            left
            rw [status?, ← same, object]
            exact found
      · exact .inl found
    constructor
    · intro other current found
      rw [queue]
      rcases cases_ other current found with older | ⟨same, _⟩
      · exact accounted.kept other current older
      · rw [same]
        exact .inr (.inr terminal)
    · intro other current found
      rw [queue]
      rcases cases_ other current found with older | ⟨same, free⟩
      · exact accounted.queued other current older
      · rw [same]
        exact iff_of_false idle free

theorem decide_rolls_nothing {status : ChangeStatus} (changeId : String)
    (other : status ≠ .rolledBack)
    (rolledBack : (book.decide status changeId).status? index = some .rolledBack) :
    book.status? index = some .rolledBack := by
  rw [decide] at rolledBack
  cases found : book.humanQueue.find? (book.hasId changeId) with
  | none =>
    rw [found] at rolledBack
    exact rolledBack
  | some decided =>
    rw [found] at rolledBack
    rw [status?_modify rfl] at rolledBack
    split at rolledBack
    · obtain ⟨change, _, same⟩ := Option.map_eq_some_iff.mp rolledBack
      exact absurd same other
    · exact rolledBack

theorem keepsAccount_iff_and {move : BookMove} : book.KeepsAccount settings move ↔
    (book.step settings move).Accounted ∧ book.RollsBackInEffect settings move :=
  ⟨fun keeps => ⟨keeps.accounted, keeps.rolledBack⟩, fun both => ⟨both.1, both.2⟩⟩

theorem keepsAccount_decide_iff (sound : book.Sound) (accounted : book.Accounted)
    {move : BookMove} {status : ChangeStatus} {changeId : String}
    (decides : book.step settings move = book.decide status changeId)
    (decided : status ≠ .proposed) (other : status ≠ .rolledBack)
    (settled : status.terminal ∨ ¬ status.inEffect) :
    book.KeepsAccount settings move ↔
      status.terminal ∨ ∀ index ∈ book.humanQueue, book.hasId changeId index = false := by
  rw [keepsAccount_iff_and, RollsBackInEffect, decides,
    accounted_of_decide sound accounted decided settled]
  apply and_iff_left
  intro index rolledBack
  exact ⟨_, decide_rolls_nothing changeId other rolledBack, .inr rfl⟩

theorem keepsAccount_rollback_iff (accounted : book.Accounted) (index : Nat)
    (reply : HttpReply) :
    book.KeepsAccount settings (.rollback index reply) ↔
      book.Orderly (.rollback index reply) := by
  have changes : (book.step settings (.rollback index reply)).changes =
      book.changes.modify index fun change =>
        if restores change reply = true then { change with status := .rolledBack }
        else change := by
    change book.changes.modify index (fun change =>
      afterCall change (Observer.rollback change reply)) = _
    congr 1
    funext change
    exact afterCall_rollback change reply
  rw [keepsAccount_iff_and, accounted_of_settle accounted (.inr (.inr (.inl rfl))) changes rfl]
  constructor
  · rintro ⟨_, rolls⟩ change found restored
    have current : (book.step settings (.rollback index reply)).status? index =
        some .rolledBack := by
      rw [status?_modify changes, if_pos rfl, found, Option.map_some, if_pos restored]
    obtain ⟨status, before, was⟩ := rolls index current
    rw [status?, found] at before
    cases before
    exact was
  · intro orderly
    constructor
    · intro change found restored queued
      have status : book.status? index = some change.status := by
        rw [status?, found]
        rfl
      have waits := (accounted.queued index _ status).mpr queued
      rcases orderly change found restored with inEffect | rolledBack
      · rw [waits] at inEffect
        simp [ChangeStatus.inEffect] at inEffect
      · rw [waits] at rolledBack
        cases rolledBack
    · intro other rolledBack
      rw [status?_modify changes] at rolledBack
      split at rolledBack
      · next same =>
        obtain ⟨change, found, status⟩ := Option.map_eq_some_iff.mp rolledBack
        refine ⟨change.status, ?_, ?_⟩
        · rw [status?, ← same, found]
          rfl
        · by_cases restored : restores change reply = true
          · exact orderly change found restored
          · rw [if_neg restored] at status
            exact .inr status
      · exact ⟨_, rolledBack, .inr rfl⟩

theorem keepsAccount_rollbackCanary_iff (sound : book.Sound) (accounted : book.Accounted)
    (index : Nat) (reply : HttpReply) :
    book.KeepsAccount settings (.rollbackCanary index reply) ↔
      book.Orderly (.rollbackCanary index reply) := by
  have changes : (book.step settings (.rollbackCanary index reply)).changes =
      book.changes.modify index fun change =>
        if (fun _ : Change => reply.hasStatus 200) change = true then
          { change with status := .canaryFailed }
        else change := by
    change book.changes.modify index (fun change =>
      afterCall change (Observer.rollbackCanary change reply)) = _
    congr 1
    funext change
    exact afterCall_rollbackCanary change reply
  rw [keepsAccount_iff_and,
    accounted_of_settle accounted (.inr (.inr (.inr (.inr rfl)))) changes rfl]
  constructor
  · rintro ⟨free, _⟩ accepted queued
    have inside := sound.refers index queued
    exact free _ (List.getElem?_eq_getElem inside) accepted queued
  · intro orderly
    constructor
    · exact fun change found accepted => orderly accepted
    · intro other rolledBack
      rw [status?_modify changes] at rolledBack
      split at rolledBack
      · next same =>
        obtain ⟨change, found, status⟩ := Option.map_eq_some_iff.mp rolledBack
        by_cases accepted : reply.hasStatus 200 = true
        · rw [if_pos accepted] at status
          cases status
        · rw [if_neg accepted] at status
          refine ⟨change.status, ?_, .inr status⟩
          rw [status?, ← same, found]
          rfl
      · exact ⟨_, rolledBack, .inr rfl⟩

theorem keepsAccount_iff (sound : book.Sound) (accounted : book.Accounted) (move : BookMove) :
    book.KeepsAccount settings move ↔ book.Orderly move := by
  cases move with
  | apply proposal circuitBreakerOpen replies =>
    rw [keepsAccount_iff_and]
    exact accounted_of_adds sound accounted (apply_adds proposal circuitBreakerOpen replies)
  | approve changeId =>
    rw [keepsAccount_decide_iff sound accounted rfl (by simp) (by simp)
      (.inr (by simp [ChangeStatus.inEffect]))]
    exact or_iff_right (by simp [ChangeStatus.terminal])
  | reject changeId =>
    rw [keepsAccount_decide_iff sound accounted rfl (by simp) (by simp) (.inl (.inl rfl))]
    exact iff_of_true (.inl (.inl rfl)) trivial
  | validate index =>
    exact iff_of_true ⟨accounted, fun _ rolledBack => ⟨_, rolledBack, .inr rfl⟩⟩ trivial
  | rollback index reply => exact keepsAccount_rollback_iff accounted index reply
  | rollbackCanary index reply =>
    exact keepsAccount_rollbackCanary_iff sound accounted index reply

theorem Sound.step (sound : book.Sound) (move : BookMove) : (book.step settings move).Sound := by
  have decided : ∀ status changeId, (book.decide status changeId).Sound := by
    intro status changeId
    rw [decide]
    cases book.humanQueue.find? (book.hasId changeId) with
    | none => exact sound
    | some index =>
      constructor
      · intro other queued
        have before := sound.refers other (List.mem_of_mem_erase queued)
        simpa using before
      · exact sound.once.erase index
  cases move with
  | apply proposal circuitBreakerOpen replies =>
    have last := sound.not_last
    cases @apply_adds settings book proposal circuitBreakerOpen replies with
    | waits object changes queue _ _ =>
      constructor
      · intro index queued
        rw [ChangeBook.step, queue, List.mem_append, List.mem_singleton] at queued
        rw [ChangeBook.step, changes, List.length_append, List.length_singleton]
        rcases queued with older | newest
        · have inside := sound.refers index older
          omega
        · omega
      · rw [ChangeBook.step, queue]
        exact List.Nodup.append sound.once (List.nodup_singleton _) (by simpa using last)
    | takes object changes queue _ _ | fails object changes queue _ _ =>
      constructor
      · intro index queued
        rw [ChangeBook.step, queue] at queued
        rw [ChangeBook.step, changes, List.length_append]
        have inside := sound.refers index queued
        omega
      · rw [ChangeBook.step, queue]
        exact sound.once
  | approve changeId => exact decided .approved changeId
  | reject changeId => exact decided .rejected changeId
  | validate index => exact sound
  | rollback index reply | rollbackCanary index reply =>
    constructor
    · intro other queued
      have before := sound.refers other queued
      simpa [ChangeBook.step] using before
    · exact sound.once

theorem accounted_empty : ({} : ChangeBook).Accounted := by
  constructor
  · intro index status found
    simp [status?] at found
  · intro index status found
    simp [status?] at found

theorem nothingLost_iff_allowed (moves : List BookMove) :
    NothingLost settings moves ↔ Allowed (step settings) (KeepsAccount settings) {} moves := by
  rw [allowed_iff_passed]
  constructor
  · intro kept earlier move later split
    have after := kept.accounted (earlier ++ [move]) later (by simp [split])
    rw [run_concat] at after
    exact ⟨after, kept.rolledBack earlier move later split⟩
  · intro every
    constructor
    · intro earlier later split
      rcases List.eq_nil_or_concat earlier with empty | ⟨before, move, last⟩
      · rw [empty]
        exact accounted_empty
      · rw [last, List.concat_eq_append] at split ⊢
        rw [run_concat]
        exact (every before move later (by simp [split])).accounted
    · intro earlier move later split
      exact (every earlier move later split).rolledBack

end ChangeBook

open ChangeBook

/-- In a run no change is lost exactly if no application fails, no change is approved, and the
gateway takes rollbacks only of changes in effect, and of canaries only for changes that do
not wait. -/
theorem nothingLost_iff (settings : ObserverSettings) (moves : List BookMove) :
    NothingLost settings moves ↔ Allowed (step settings) Orderly {} moves := by
  rw [nothingLost_iff_allowed]
  have start : ({} : ChangeBook).Sound ∧ ({} : ChangeBook).Accounted :=
    ⟨⟨by simp, List.nodup_nil⟩, accounted_empty⟩
  constructor
  · intro all
    refine all.imp (step settings) (fun book => book.Sound ∧ book.Accounted) ?_ start
    intro book move keeps holds
    exact ⟨⟨holds.1.step move, keeps.accounted⟩, (keepsAccount_iff holds.1 holds.2 move).mp keeps⟩
  · intro all
    refine all.imp (step settings) (fun book => book.Sound ∧ book.Accounted) ?_ start
    intro book move orderly holds
    have keeps := (@keepsAccount_iff settings book holds.1 holds.2 move).mpr orderly
    exact ⟨⟨holds.1.step move, keeps.accounted⟩, keeps⟩

def proposalIn (applyTier : ApplyTier) : Proposal where
  change := { id := "chg_1", changeType := .routing, applyTier, proposedAt := 0 }
  proposed := rfl
  fresh := rfl

/-- A gateway that refuses every request. -/
def refusals : Replies where
  metrics := .answered 422 (.obj [])
  routing := .answered 405 (.obj [])
  execute := .answered 422 (.obj [])
  appliedAt := 0

/-- A canary that the gateway refuses stays proposed outside the queue, a change that it
refuses is rolled back without having been in effect, and an approved change is nowhere. -/
theorem changes_are_lost : ¬ NothingLost {} [.apply (proposalIn .canary) false refusals] ∧
      ¬ NothingLost {} [.apply (proposalIn .auto) false refusals] ∧
      ¬ NothingLost {} [.apply (proposalIn .human) false refusals, .approve "chg_1"] := by
  refine ⟨?_, ?_, ?_⟩
  · intro kept
    have accounted := kept.accounted [.apply (proposalIn .canary) false refusals] [] rfl
    have queued := (accounted.queued 0 .proposed rfl).mp rfl
    cases queued
  · intro kept
    have rolls := kept.rolledBack [] (.apply (proposalIn .auto) false refusals) [] rfl
    obtain ⟨status, before, _⟩ := rolls 0 rfl
    cases before
  · intro kept
    have accounted := kept.accounted
      [.apply (proposalIn .human) false refusals, .approve "chg_1"] [] rfl
    rcases accounted.kept 0 .approved (by decide) with waits | inEffect | terminal
    · cases waits.2
    · simp [ChangeStatus.inEffect] at inEffect
    · simp [ChangeStatus.terminal] at terminal

end Onpremai.Observer
