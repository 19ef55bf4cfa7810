import Onpremai.Library.Json
import Onpremai.Library.Machine

/-!
# Skill versions

The two tables behind the skill registry and the two operations that write them.
Every operation is one transaction: an operation that raises leaves the tables
as they were.
-/

namespace Onpremai.MemoryService

open Library

/-- A row of `skill_versions`, without its key and the columns that no operation
reads. -/
structure SkillVersion where
  promptTemplate : String
  config : Option Json
  author : String
  reason : Option String
  status : String

/-- The tables `skills`, of a skill's `current_version`, and `skill_versions` with
the primary key `(skill_id, version)`. -/
structure SkillTables where
  skills : Dict String Int
  skillVersions : Dict (String × Int) SkillVersion

/-- The tables after the migration that creates them. -/
def SkillTables.empty : SkillTables := ⟨Dict.empty, Dict.empty⟩

inductive DatabaseError where
  /-- A second row under a primary key. -/
  | integrityError
  /-- A value that its column does not hold. -/
  | dataError
  deriving DecidableEq

/-- The largest value of an `Integer` column. -/
def integerMax : Int := 2147483647

/-- `update(SkillVersion).where(skill_id, status == "active").values(status="retired")`. -/
def retireActive (skillId : String) (versions : Dict (String × Int) SkillVersion) :
    Dict (String × Int) SkillVersion :=
  versions.mapEntries fun key version =>
    if key.1 = skillId ∧ version.status = "active" then { version with status := "retired" }
    else version

/-- The number `create_version` takes: the one after `current_version`, or the first. -/
def newVersion (skillId : String) (tables : SkillTables) : Int :=
  match tables.skills.get? skillId with
  | none => 1
  | some current => current + 1

/-- If the new version is `"active"`, retire the current active version. -/
def retireFor (skillId : String) (version : SkillVersion)
    (versions : Dict (String × Int) SkillVersion) : Dict (String × Int) SkillVersion :=
  if version.status = "active" then retireActive skillId versions else versions

def createVersion (skillId : String) (version : SkillVersion) (tables : SkillTables) :
    Except DatabaseError (Int × SkillTables) :=
  let number := newVersion skillId tables
  let others := retireFor skillId version tables.skillVersions
  if integerMax < number then .error .dataError
  else if (others.get? (skillId, number)).isSome then .error .integrityError
  else .ok (number,
    { skills := tables.skills.set skillId number
      skillVersions := others.set (skillId, number) version })

/-- `None` when the skill has no such version. -/
def rollback (skillId : String) (targetVersion : Int) (tables : SkillTables) : Option SkillTables :=
  match tables.skillVersions.get? (skillId, targetVersion) with
  | none => none
  | some target => some
      { skills :=
          if (tables.skills.get? skillId).isSome then tables.skills.set skillId targetVersion
          else tables.skills
        skillVersions := (retireActive skillId tables.skillVersions).set
          (skillId, targetVersion) { target with status := "active" } }

inductive SkillOperation where
  | createVersion (skillId : String) (version : SkillVersion)
  | rollback (skillId : String) (targetVersion : Int)

def SkillOperation.skillId : SkillOperation → String
  | .createVersion skillId _ => skillId
  | .rollback skillId _ => skillId

def perform (tables : SkillTables) : SkillOperation → SkillTables
  | .createVersion skillId version =>
    match createVersion skillId version tables with
    | .ok (_, written) => written
    | .error _ => tables
  | .rollback skillId targetVersion => (rollback skillId targetVersion tables).getD tables

@[simp] theorem keys_retireActive (skillId : String)
    (versions : Dict (String × Int) SkillVersion) :
    (retireActive skillId versions).keys = versions.keys := by
  rw [retireActive, Dict.keys_mapEntries]

theorem get?_retireActive_other {skillId other : String} (apart : other ≠ skillId)
    (versions : Dict (String × Int) SkillVersion) (number : Int) :
    (retireActive skillId versions).get? (other, number) = versions.get? (other, number) := by
  rw [retireActive, Dict.get?_mapEntries]
  cases versions.get? (other, number) with
  | none => rfl
  | some version => simp [apart]

theorem not_active_retireActive {skillId : String}
    {versions : Dict (String × Int) SkillVersion} {number : Int} {version : SkillVersion}
    (found : (retireActive skillId versions).get? (skillId, number) = some version) :
    version.status ≠ "active" := by
  rw [retireActive, Dict.get?_mapEntries] at found
  rcases Option.map_eq_some_iff.mp found with ⟨before, -, changed⟩
  subst changed
  dsimp only
  split
  · simp
  · next kept => exact fun active => kept ⟨rfl, active⟩

@[simp] theorem keys_retireFor (skillId : String) (version : SkillVersion)
    (versions : Dict (String × Int) SkillVersion) :
    (retireFor skillId version versions).keys = versions.keys := by
  rw [retireFor]
  split
  · exact keys_retireActive skillId versions
  · rfl

theorem get?_retireFor_other {skillId other : String} (apart : other ≠ skillId)
    (version : SkillVersion) (versions : Dict (String × Int) SkillVersion) (number : Int) :
    (retireFor skillId version versions).get? (other, number) =
      versions.get? (other, number) := by
  rw [retireFor]
  split
  · exact get?_retireActive_other apart versions number
  · rfl

/-- `create_version` returns exactly when its number fits the column and is not
taken; it then adds the one row. -/
theorem createVersion_eq_ok {skillId : String} {version : SkillVersion}
    {tables written : SkillTables} {number : Int} :
    createVersion skillId version tables = .ok (number, written) ↔
      number = newVersion skillId tables ∧ number ≤ integerMax ∧
        (skillId, number) ∉ tables.skillVersions.keys ∧
        written =
          { skills := tables.skills.set skillId number
            skillVersions := (retireFor skillId version tables.skillVersions).set
              (skillId, number) version } := by
  have taken : ((retireFor skillId version tables.skillVersions).get?
      (skillId, newVersion skillId tables)).isSome = true ↔
        (skillId, newVersion skillId tables) ∈ tables.skillVersions.keys := by
    rw [← Dict.mem_keys_iff, keys_retireFor]
  simp only [createVersion, taken]
  split
  · next large =>
    simp only [reduceCtorEq, false_iff]
    rintro ⟨rfl, fits, -⟩
    omega
  · next fits =>
    split
    · next present =>
      simp only [reduceCtorEq, false_iff]
      rintro ⟨rfl, -, fresh, -⟩
      exact fresh present
    · next fresh =>
      simp only [Except.ok.injEq, Prod.mk.injEq]
      constructor
      · rintro ⟨rfl, rfl⟩
        exact ⟨rfl, by omega, fresh, rfl⟩
      · rintro ⟨rfl, -, -, rfl⟩
        exact ⟨rfl, rfl⟩

/-- `rollback` of an existing version makes it the one the others give way to. -/
theorem rollback_eq_some {skillId : String} {target : Int} {tables written : SkillTables} :
    rollback skillId target tables = some written ↔
      ∃ version, tables.skillVersions.get? (skillId, target) = some version ∧ written =
          { skills :=
              if (tables.skills.get? skillId).isSome then tables.skills.set skillId target
              else tables.skills
            skillVersions := (retireActive skillId tables.skillVersions).set
              (skillId, target) { version with status := "active" } } := by
  rw [rollback]
  cases tables.skillVersions.get? (skillId, target) with
  | none => simp
  | some version =>
    constructor
    · intro same
      exact ⟨version, rfl, (Option.some.inj same).symm⟩
    · rintro ⟨_, ⟨⟩, rfl⟩
      rfl

end Onpremai.MemoryService
