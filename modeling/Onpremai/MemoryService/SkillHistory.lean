import Onpremai.MemoryService.Skills

/-!
# Histories of skill versions

`rollback` moves `current_version` back and leaves the later rows in the table, so
the number that `create_version` takes next may belong to one of them.  The
numbers of a skill have no gap, which makes the converse true as well: from the
newest version on, the next number is free.
-/

namespace Onpremai.MemoryService

open Library

def IsActive (tables : SkillTables) (skillId : String) (number : Int) : Prop :=
  ∃ version, tables.skillVersions.get? (skillId, number) = some version ∧ version.status = "active"

theorem isActive_createVersion {skillId : String} {version : SkillVersion}
    {tables written : SkillTables} {number : Int}
    (created : createVersion skillId version tables = .ok (number, written))
    {other : String} {query : Int} (active : IsActive written other query) :
    (other = skillId ∧ query = number ∧ version.status = "active") ∨
      (¬ (other = skillId ∧ version.status = "active") ∧ IsActive tables other query) := by
  rcases createVersion_eq_ok.mp created with ⟨-, -, -, rfl⟩
  rcases active with ⟨row, found, rowActive⟩
  simp only [Dict.get?_set, Prod.mk.injEq] at found
  split at found
  · next here =>
    rw [← Option.some.inj found] at rowActive
    exact Or.inl ⟨here.1.symm, here.2.symm, rowActive⟩
  · right
    constructor
    · rintro ⟨rfl, versionActive⟩
      rw [retireFor, if_pos versionActive] at found
      exact not_active_retireActive found rowActive
    · refine ⟨row, ?_, rowActive⟩
      rw [retireFor] at found
      split at found
      · by_cases same : other = skillId
        · subst same
          exact absurd rowActive (not_active_retireActive found)
        · rwa [get?_retireActive_other same] at found
      · exact found

theorem isActive_rollback {skillId : String} {target : Int} {tables written : SkillTables}
    (rolledBack : rollback skillId target tables = some written) (other : String)
    (query : Int) :
    IsActive written other query ↔
      if other = skillId then query = target else IsActive tables other query := by
  rcases rollback_eq_some.mp rolledBack with ⟨version, -, rfl⟩
  simp only [IsActive, Dict.get?_set, Prod.mk.injEq]
  by_cases same : other = skillId
  · subst same
    rw [if_pos rfl]
    constructor
    · rintro ⟨row, found, rowActive⟩
      split at found
      · next here => exact here.2.symm
      · exact absurd rowActive (not_active_retireActive found)
    · rintro rfl
      exact ⟨_, if_pos ⟨rfl, rfl⟩, rfl⟩
  · simp only [Ne.symm same, false_and, if_false, get?_retireActive_other same, same]

/-- What a state of the tables has to be for the operations to behave. -/
structure Versioned (tables : SkillTables) : Prop where
  unknown : ∀ skillId number, tables.skills.get? skillId = none →
    (skillId, number) ∉ tables.skillVersions.keys
  current : ∀ skillId number, tables.skills.get? skillId = some number →
    (skillId, number) ∈ tables.skillVersions.keys
  positive : ∀ skillId number, (skillId, number) ∈ tables.skillVersions.keys → 1 ≤ number
  unbroken : ∀ skillId number, (skillId, number) ∈ tables.skillVersions.keys →
    ∀ earlier, 1 ≤ earlier → earlier ≤ number → (skillId, earlier) ∈ tables.skillVersions.keys
  oneActive : ∀ skillId first second, IsActive tables skillId first →
    IsActive tables skillId second → first = second

theorem versioned_empty : Versioned SkillTables.empty where
  unknown := by simp [SkillTables.empty]
  current := by simp [SkillTables.empty]
  positive := by simp [SkillTables.empty]
  unbroken := by simp [SkillTables.empty]
  oneActive := by simp [SkillTables.empty, IsActive]

/-- The number that `create_version` takes is at most one past a taken number. -/
theorem newVersion_pred {tables : SkillTables} (versioned : Versioned tables)
    (skillId : String) :
    newVersion skillId tables = 1 ∨
      (skillId, newVersion skillId tables - 1) ∈ tables.skillVersions.keys := by
  rw [newVersion]
  cases found : tables.skills.get? skillId with
  | none => exact Or.inl rfl
  | some current =>
    right
    dsimp only
    rw [show current + 1 - 1 = current by omega]
    exact versioned.current skillId current found

theorem newVersion_pos {tables : SkillTables} (versioned : Versioned tables)
    (skillId : String) : 1 ≤ newVersion skillId tables := by
  rcases newVersion_pred versioned skillId with first | taken
  · omega
  · have := versioned.positive skillId _ taken
    omega

theorem versioned_createVersion {skillId : String} {version : SkillVersion}
    {tables written : SkillTables} {number : Int} (versioned : Versioned tables)
    (created : createVersion skillId version tables = .ok (number, written)) :
    Versioned written := by
  have pred := newVersion_pred versioned skillId
  have pos := newVersion_pos versioned skillId
  rcases createVersion_eq_ok.mp created with ⟨taken, -, fresh, shape⟩
  rw [← taken] at pred pos
  have keys : ∀ other query, (other, query) ∈ written.skillVersions.keys ↔
      (other = skillId ∧ query = number) ∨ (other, query) ∈ tables.skillVersions.keys := by
    simp [shape]
  have skills : ∀ other, written.skills.get? other =
      if skillId = other then some number else tables.skills.get? other := by
    simp [shape]
  constructor
  · intro other query missing present
    rw [skills] at missing
    split at missing
    · cases missing
    · next apart =>
      rcases (keys other query).mp present with here | old
      · exact apart here.1.symm
      · exact versioned.unknown other query missing old
  · intro other query found
    rw [keys]
    rw [skills] at found
    split at found
    · next same => exact Or.inl ⟨same.symm, (Option.some.inj found).symm⟩
    · exact Or.inr (versioned.current other query found)
  · intro other query present
    rcases (keys other query).mp present with ⟨-, rfl⟩ | old
    · exact pos
    · exact versioned.positive other query old
  · intro other query present earlier fromOne upto
    rw [keys]
    rcases (keys other query).mp present with ⟨rfl, rfl⟩ | old
    · by_cases same : earlier = query
      · exact Or.inl ⟨rfl, same⟩
      · right
        rcases pred with first | before
        · omega
        · exact versioned.unbroken other _ before earlier fromOne (by omega)
    · exact Or.inr (versioned.unbroken other query old earlier fromOne upto)
  · intro other first second firstActive secondActive
    rcases isActive_createVersion created firstActive with
      ⟨rfl, rfl, active⟩ | ⟨apart, firstOld⟩
    · rcases isActive_createVersion created secondActive with ⟨-, rfl, -⟩ | ⟨apart, -⟩
      · rfl
      · exact absurd ⟨rfl, active⟩ apart
    · rcases isActive_createVersion created secondActive with
        ⟨rfl, -, active⟩ | ⟨-, secondOld⟩
      · exact absurd ⟨rfl, active⟩ apart
      · exact versioned.oneActive other first second firstOld secondOld

theorem versioned_rollback {skillId : String} {target : Int} {tables written : SkillTables}
    (versioned : Versioned tables)
    (rolledBack : rollback skillId target tables = some written) : Versioned written := by
  rcases rollback_eq_some.mp rolledBack with ⟨version, found, shape⟩
  have present : (skillId, target) ∈ tables.skillVersions.keys := by
    rw [Dict.mem_keys_iff, found]
    rfl
  have keys : ∀ other query, (other, query) ∈ written.skillVersions.keys ↔
      (other, query) ∈ tables.skillVersions.keys := by
    intro other query
    simp only [shape, Dict.mem_keys_set, keys_retireActive, or_iff_right_iff_imp]
    rintro ⟨rfl, rfl⟩
    exact present
  have known : (tables.skills.get? skillId).isSome := by
    cases missing : tables.skills.get? skillId with
    | none => exact absurd present (versioned.unknown skillId target missing)
    | some _ => rfl
  have skills : ∀ other, written.skills.get? other =
      if skillId = other then some target else tables.skills.get? other := by
    simp [shape, known]
  constructor
  · intro other query missing
    rw [keys]
    rw [skills] at missing
    split at missing
    · cases missing
    · exact versioned.unknown other query missing
  · intro other query current
    rw [keys]
    rw [skills] at current
    split at current
    · next same =>
      rw [← same, ← Option.some.inj current]
      exact present
    · exact versioned.current other query current
  · intro other query
    rw [keys]
    exact versioned.positive other query
  · intro other query
    simp only [keys]
    exact versioned.unbroken other query
  · intro other first second
    simp only [isActive_rollback rolledBack]
    split
    · rintro rfl rfl
      rfl
    · exact versioned.oneActive other first second

theorem versioned_perform {tables : SkillTables} (operation : SkillOperation)
    (versioned : Versioned tables) : Versioned (perform tables operation) := by
  cases operation with
  | createVersion skillId version =>
    rw [perform]
    split
    · next created => exact versioned_createVersion versioned created
    · exact versioned
  | rollback skillId target =>
    rw [perform]
    cases rolledBack : rollback skillId target tables with
    | none => exact versioned
    | some written => exact versioned_rollback versioned rolledBack

/-- The promise of one operation: a creation succeeds with a fresh number, a rollback
of an existing version leaves exactly that one active, no skill has two active
versions, and the versions of the other skills stay. -/
structure OperationKept (tables : SkillTables) (operation : SkillOperation) : Prop where
  created : ∀ skillId version, operation = .createVersion skillId version →
    ∃ number written, createVersion skillId version tables = .ok (number, written) ∧
      (skillId, number) ∉ tables.skillVersions.keys
  rolledBack : ∀ skillId target, operation = .rollback skillId target →
    (skillId, target) ∈ tables.skillVersions.keys →
      ∀ number, IsActive (perform tables operation) skillId number ↔ number = target
  oneActive : ∀ skillId first second, IsActive (perform tables operation) skillId first →
    IsActive (perform tables operation) skillId second → first = second
  others : ∀ other number, other ≠ operation.skillId →
    (perform tables operation).skillVersions.get? (other, number) =
      tables.skillVersions.get? (other, number)

def CurrentIsNewest (tables : SkillTables) (skillId : String) : Prop :=
  ∀ current ∈ tables.skills.get? skillId, current < integerMax ∧
    ∀ key ∈ tables.skillVersions.keys, key.1 = skillId → key.2 ≤ current

def CreatesAfterNewest (tables : SkillTables) : SkillOperation → Prop
  | .createVersion skillId _ => CurrentIsNewest tables skillId
  | .rollback _ _ => True

theorem newVersion_free_iff {tables : SkillTables} (versioned : Versioned tables)
    (skillId : String) :
    (newVersion skillId tables ≤ integerMax ∧
      (skillId, newVersion skillId tables) ∉ tables.skillVersions.keys) ↔
        CurrentIsNewest tables skillId := by
  rw [CurrentIsNewest, newVersion]
  cases found : tables.skills.get? skillId with
  | none =>
    simp only [reduceCtorEq, Option.mem_def, false_implies, implies_true, iff_true]
    exact ⟨by decide, versioned.unknown skillId 1 found⟩
  | some current =>
    have pos := versioned.positive skillId current (versioned.current skillId current found)
    simp only [Option.mem_def, Option.some.injEq, forall_eq']
    constructor
    · rintro ⟨fits, free⟩
      constructor
      · omega
      · rintro ⟨_, number⟩ present rfl
        by_contra! later
        exact free (versioned.unbroken _ number present (current + 1) (by omega) (by
          dsimp only at later
          omega))
    · rintro ⟨fits, newest⟩
      constructor
      · omega
      · intro taken
        have := newest _ taken rfl
        dsimp only at this
        omega

theorem perform_others (tables : SkillTables) (operation : SkillOperation) {other : String}
    (apart : other ≠ operation.skillId) (number : Int) :
    (perform tables operation).skillVersions.get? (other, number) =
      tables.skillVersions.get? (other, number) := by
  cases operation with
  | createVersion skillId version =>
    have away : ¬ skillId = other := Ne.symm apart
    rw [perform]
    split
    · next created =>
      rcases createVersion_eq_ok.mp created with ⟨-, -, -, rfl⟩
      simp only [Dict.get?_set, Prod.mk.injEq, away, false_and, if_false]
      exact get?_retireFor_other apart version _ number
    · rfl
  | rollback skillId target =>
    have away : ¬ skillId = other := Ne.symm apart
    rw [perform]
    cases rolledBack : rollback skillId target tables with
    | none => rfl
    | some written =>
      rcases rollback_eq_some.mp rolledBack with ⟨version, -, rfl⟩
      simp only [Option.getD_some, Dict.get?_set, Prod.mk.injEq, away, false_and, if_false]
      exact get?_retireActive_other apart _ number

theorem operationKept_iff {tables : SkillTables} (versioned : Versioned tables)
    (operation : SkillOperation) :
    OperationKept tables operation ↔ CreatesAfterNewest tables operation := by
  constructor
  · intro kept
    cases operation with
    | createVersion skillId version =>
      rcases kept.created skillId version rfl with ⟨number, written, created, -⟩
      rcases createVersion_eq_ok.mp created with ⟨rfl, fits, free, -⟩
      exact (newVersion_free_iff versioned skillId).mp ⟨fits, free⟩
    | rollback skillId target => trivial
  · intro newest
    constructor
    · rintro skillId version rfl
      rcases (newVersion_free_iff versioned skillId).mpr newest with ⟨fits, free⟩
      exact ⟨_, _, createVersion_eq_ok.mpr ⟨rfl, fits, free, rfl⟩, free⟩
    · rintro skillId target rfl present number
      rw [Dict.mem_keys_iff] at present
      rcases Option.isSome_iff_exists.mp present with ⟨version, found⟩
      have rolledBack := rollback_eq_some.mpr ⟨version, found, rfl⟩
      rw [perform, rolledBack, Option.getD_some, isActive_rollback rolledBack, if_pos rfl]
    · exact (versioned_perform operation versioned).oneActive
    · intro other number apart
      exact perform_others tables operation apart number

/-- A history keeps every promise exactly when each of its creations comes at the
skill's newest version. -/
theorem history_kept_iff (operations : List SkillOperation) :
    Allowed perform OperationKept SkillTables.empty operations ↔
      Allowed perform CreatesAfterNewest SkillTables.empty operations := by
  apply allowed_iff perform Versioned
  · intro tables operation versioned
    exact versioned_perform operation versioned
  · intro tables operation versioned
    exact operationKept_iff versioned operation
  · exact versioned_empty

def evaluatePrompt : SkillVersion where
  promptTemplate := "Evaluate {control}"
  config := none
  author := "observer"
  reason := none
  status := "active"

/-- Two versions, a rollback to the first, and a third version: the third creation
takes the number of the second version. -/
theorem create_after_rollback_collides : ¬ Allowed perform OperationKept SkillTables.empty
      [.createVersion "prompt" evaluatePrompt, .createVersion "prompt" evaluatePrompt,
        .rollback "prompt" 1, .createVersion "prompt" evaluatePrompt] := by
  rintro ⟨-, -, -, last, -⟩
  rcases last.created "prompt" evaluatePrompt rfl with ⟨number, written, created, -⟩
  rcases createVersion_eq_ok.mp created with ⟨rfl, -, free, -⟩
  revert free
  decide

end Onpremai.MemoryService
