import Mathlib.Tactic.NormNum
import Onpremai.Preprocessor.Models

/-!
# Join detection

Two tabular files can be joined on a column that both of them name.  Which columns are proposed,
and how confidently, is the same from either side, in whatever order the common names are met.
-/

namespace Onpremai.Preprocessor.JoinDetector

open Onpremai.Library

/-- The metadata of a file, with the values that stand for missing fields. -/
structure FileColumns where
  fileKey : String := ""
  sheets : List (List String) := []
  columns : List String := []

/-- The order in which the names of a set are met. -/
structure SetOrder where
  arrange : List String → List String
  perm : ∀ names, (arrange names).Perm names

def minConfidence : Rat := 1 / 2

def excludedColumns : List String := ["id", "row_number", "index", "unnamed: 0", ""]

def highConfidencePatterns : List String :=
  ["user_id", "employee_id", "account_id", "vendor_id", "control_id", "asset_id", "ticket_id",
    "incident_id", "email", "username", "hostname", "ip_address"]

def scoreJoinConfidence (columnName : String) : Rat :=
  if columnName ∈ highConfidencePatterns then 19 / 20
  else if Text.endsWith "_id" columnName then 9 / 10
  else if Text.contains "id" columnName ∧ columnName ≠ "id" then 4 / 5
  else if ["email", "name", "code", "number", "key"].any (Text.contains · columnName) then 7 / 10
  else 11 / 20

def extractColumnsFromMetadata (metadata : FileColumns) : List String :=
  let columns := metadata.sheets.flatten
  if columns = [] then metadata.columns else columns

section

variable (lower : String → String) (order : SetOrder)

/-- `col.lower().strip()`. -/
def normalized (column : String) : String := Text.strip (lower column)

def columnsLower (columns : List String) : Dict String String :=
  .ofList ((columns.filter fun column => normalized lower column ∉ excludedColumns).map
    fun column => (normalized lower column, column))

def commonColumns (current other : Dict String String) : List String :=
  order.arrange (current.keys.filter (· ∈ other.keys))

def joinsWith (current : Dict String String) (otherMeta : FileColumns) : List JoinCandidate :=
  (commonColumns order current
    (columnsLower lower (extractColumnsFromMetadata otherMeta))).filterMap fun name =>
      if minConfidence ≤ scoreJoinConfidence name then
        (current.get? name).map fun column => {
          otherFile := otherMeta.fileKey
          joinColumn := column
          confidence := scoreJoinConfidence name }
      else none

def detectJoins (currentFileKey : String) (currentColumns : List String)
    (otherFiles : List FileColumns) : List JoinCandidate :=
  if currentColumns = [] ∨ otherFiles = [] then []
  else
    (otherFiles.flatMap fun otherMeta =>
      if otherMeta.fileKey = currentFileKey ∨ extractColumnsFromMetadata otherMeta = [] then []
      else joinsWith lower order (columnsLower lower currentColumns) otherMeta).mergeSort
        fun first second => decide (second.confidence ≤ first.confidence)

def joinsOf (file : FileColumns) (otherFiles : List FileColumns) : List JoinCandidate :=
  detectJoins lower order file.fileKey (extractColumnsFromMetadata file) otherFiles

def Proposes (joins : List JoinCandidate) (otherFile name : String) (confidence : Rat) : Prop :=
  ∃ candidate ∈ joins, candidate.otherFile = otherFile ∧
    normalized lower candidate.joinColumn = name ∧ candidate.confidence = confidence

/-- The joins of two files, each processed beside the other one and any further files. -/
structure JoinsWell (first second : FileColumns) (firstOthers secondOthers : List FileColumns) :
    Prop where
  symmetric : ∀ name confidence,
    Proposes lower (joinsOf lower order first firstOthers) second.fileKey name confidence ↔
      Proposes lower (joinsOf lower order second secondOthers) first.fileKey name confidence
  once : ((joinsOf lower order first firstOthers).map fun candidate =>
    (candidate.otherFile, normalized lower candidate.joinColumn)).Nodup
  complete : ∀ column ∈ extractColumnsFromMetadata first,
    ∀ other ∈ extractColumnsFromMetadata second,
      normalized lower column = normalized lower other →
      normalized lower column ∉ excludedColumns → ∃ confidence,
        Proposes lower (joinsOf lower order first firstOthers) second.fileKey
          (normalized lower column) confidence
  sorted : (joinsOf lower order first firstOthers).Pairwise fun earlier later =>
    later.confidence ≤ earlier.confidence

end

section

variable {lower : String → String} {order : SetOrder}

theorem minConfidence_le_score (name : String) : minConfidence ≤ scoreJoinConfidence name := by
  rw [minConfidence, scoreJoinConfidence]
  split_ifs <;> norm_num

@[simp] theorem mem_keys_columnsLower {columns : List String} {name : String} :
    name ∈ (columnsLower lower columns).keys ↔
      name ∉ excludedColumns ∧ ∃ column ∈ columns, normalized lower column = name := by
  simp only [columnsLower, Dict.mem_keys_ofList, List.map_map, List.mem_map, List.mem_filter,
    decide_eq_true_eq, Function.comp_apply]
  constructor
  · rintro ⟨column, ⟨member, useful⟩, rfl⟩
    exact ⟨useful, column, member, rfl⟩
  · rintro ⟨useful, column, member, rfl⟩
    exact ⟨column, ⟨member, useful⟩, rfl⟩

theorem normalized_of_get? {columns : List String} {name column : String}
    (found : (columnsLower lower columns).get? name = some column) :
    normalized lower column = name := by
  rcases List.mem_map.mp (Dict.mem_of_get?_ofList found) with ⟨origin, -, same⟩
  cases same
  rfl

theorem mem_commonColumns {current other : Dict String String} {name : String} :
    name ∈ commonColumns order current other ↔ name ∈ current.keys ∧ name ∈ other.keys := by
  simp [commonColumns, (order.perm _).mem_iff]

def proposal (lower : String → String) (candidate : JoinCandidate) : String × String × Rat :=
  (candidate.otherFile, normalized lower candidate.joinColumn, candidate.confidence)

def proposals (lower : String → String) (order : SetOrder) (columns : List String)
    (otherMeta : FileColumns) : List (String × String × Rat) :=
  (commonColumns order (columnsLower lower columns)
    (columnsLower lower (extractColumnsFromMetadata otherMeta))).map fun name =>
      (otherMeta.fileKey, name, scoreJoinConfidence name)

theorem map_joinsWith (columns : List String) (otherMeta : FileColumns) :
    (joinsWith lower order (columnsLower lower columns) otherMeta).map (proposal lower) =
      proposals lower order columns otherMeta := by
  rw [joinsWith, proposals, List.map_filterMap, ← List.filterMap_eq_map]
  apply List.filterMap_congr
  intro name member
  rw [if_pos (minConfidence_le_score name)]
  cases found : (columnsLower lower columns).get? name with
  | none =>
    have named := (Dict.mem_keys_iff _ name).mp (mem_commonColumns.mp member).1
    simp [found] at named
  | some column => simp [proposal, normalized_of_get? found]

theorem proposals_nil (columns : List String) (otherMeta : FileColumns)
    (empty : columns = [] ∨ extractColumnsFromMetadata otherMeta = []) :
    proposals lower order columns otherMeta = [] := by
  rw [proposals, List.map_eq_nil_iff, List.eq_nil_iff_forall_not_mem]
  intro name member
  rw [mem_commonColumns, mem_keys_columnsLower, mem_keys_columnsLower] at member
  rcases member with ⟨⟨-, column, here, -⟩, -, other, there, -⟩
  cases empty with
  | inl none => simp [none] at here
  | inr none => simp [none] at there

theorem map_flatMap_joinsWith (key : String) (columns : List String)
    (otherFiles : List FileColumns) :
    (otherFiles.flatMap fun otherMeta =>
        if otherMeta.fileKey = key ∨ extractColumnsFromMetadata otherMeta = [] then []
        else joinsWith lower order (columnsLower lower columns) otherMeta).map (proposal lower) =
      (otherFiles.filter (·.fileKey ≠ key)).flatMap (proposals lower order columns) := by
  induction otherFiles with
  | nil => rfl
  | cons otherMeta rest ih =>
    rw [List.flatMap_cons, List.map_append, ih]
    by_cases own : otherMeta.fileKey = key
    · simp [own]
    · rw [List.filter_cons_of_pos (by simpa using own), List.flatMap_cons]
      congr 1
      split
      · next skipped =>
        exact (proposals_nil columns otherMeta (.inr (skipped.resolve_left own))).symm
      · exact map_joinsWith columns otherMeta

theorem map_joinsOf_perm (file : FileColumns) (otherFiles : List FileColumns) :
    ((joinsOf lower order file otherFiles).map (proposal lower)).Perm
      ((otherFiles.filter (·.fileKey ≠ file.fileKey)).flatMap
        (proposals lower order (extractColumnsFromMetadata file))) := by
  rw [joinsOf, detectJoins]
  split
  · next empty =>
    rcases empty with empty | rfl
    · have none : ∀ otherMeta, proposals lower order (extractColumnsFromMetadata file)
          otherMeta = [] := fun otherMeta => proposals_nil _ otherMeta (.inl empty)
      simp [none]
    · simp
  · rw [← map_flatMap_joinsWith]
    exact (List.mergeSort_perm _ _).map _

theorem proposes_iff_mem {joins : List JoinCandidate} {otherFile name : String}
    {confidence : Rat} : Proposes lower joins otherFile name confidence ↔
      (otherFile, name, confidence) ∈ joins.map (proposal lower) := by
  simp [Proposes, proposal]

theorem proposes_joinsOf {file other : FileColumns} {otherFiles : List FileColumns}
    (differ : file.fileKey ≠ other.fileKey) (member : other ∈ otherFiles)
    (distinct : (otherFiles.map FileColumns.fileKey).Nodup) {name : String} {confidence : Rat} :
    Proposes lower (joinsOf lower order file otherFiles) other.fileKey name confidence ↔
      name ∈ (columnsLower lower (extractColumnsFromMetadata file)).keys ∧
        name ∈ (columnsLower lower (extractColumnsFromMetadata other)).keys ∧
          scoreJoinConfidence name = confidence := by
  rw [proposes_iff_mem, (map_joinsOf_perm file otherFiles).mem_iff, List.mem_flatMap]
  constructor
  · rintro ⟨found, inside, proposed⟩
    rcases List.mem_map.mp proposed with ⟨common, shared, same⟩
    simp only [Prod.mk.injEq] at same
    rcases same with ⟨key, rfl, score⟩
    have here := List.inj_on_of_nodup_map distinct (List.mem_of_mem_filter inside) member key
    rw [here, mem_commonColumns] at shared
    exact ⟨shared.1, shared.2, score⟩
  · rintro ⟨here, there, rfl⟩
    refine ⟨other, ?_, List.mem_map.mpr ⟨name, mem_commonColumns.mpr ⟨here, there⟩, rfl⟩⟩
    simpa [member] using differ.symm

theorem nodup_commonColumns (current other : Dict String String) :
    (commonColumns order current other).Nodup :=
  (order.perm _).nodup_iff.mpr (current.nodupKeys.filter _)

theorem nodup_proposals (columns : List String) {otherFiles : List FileColumns}
    (distinct : (otherFiles.map FileColumns.fileKey).Nodup) :
    ((otherFiles.flatMap (proposals lower order columns)).map fun entry =>
      (entry.1, entry.2.1)).Nodup := by
  rw [List.map_flatMap, List.nodup_flatMap]
  constructor
  · intro otherMeta _
    rw [proposals, List.map_map]
    apply (nodup_commonColumns _ _).map
    exact fun first second same => congrArg Prod.snd same
  · apply (List.pairwise_map.mp distinct).imp
    intro first second differ entry here there
    simp only [proposals, List.map_map, List.mem_map, Function.comp_apply] at here there
    rcases here with ⟨name, -, rfl⟩
    rcases there with ⟨other, -, same⟩
    exact differ (congrArg Prod.fst same).symm

/-- Joins of two files are the same from either side, proposed once for every useful name that
the files share, the most confident first. -/
theorem joinsWell {first second : FileColumns} {firstOthers secondOthers : List FileColumns}
    (differ : first.fileKey ≠ second.fileKey)
    (inFirst : second ∈ firstOthers) (inSecond : first ∈ secondOthers)
    (distinctFirst : (firstOthers.map FileColumns.fileKey).Nodup)
    (distinctSecond : (secondOthers.map FileColumns.fileKey).Nodup) :
    JoinsWell lower order first second firstOthers secondOthers := by
  constructor
  · intro name confidence
    rw [proposes_joinsOf differ inFirst distinctFirst,
      proposes_joinsOf differ.symm inSecond distinctSecond]
    exact and_left_comm
  · have others := distinctFirst.sublist
      ((List.filter_sublist (p := (·.fileKey ≠ first.fileKey))).map FileColumns.fileKey)
    have proposed := (@map_joinsOf_perm lower order first firstOthers).map
      fun entry => (entry.1, entry.2.1)
    rw [List.map_map] at proposed
    exact proposed.nodup_iff.mpr (nodup_proposals _ others)
  · intro column here other there same useful
    refine ⟨_, (proposes_joinsOf differ inFirst distinctFirst).mpr ⟨?_, ?_, rfl⟩⟩
    · exact mem_keys_columnsLower.mpr ⟨useful, column, here, rfl⟩
    · exact mem_keys_columnsLower.mpr ⟨useful, other, there, same.symm⟩
  · rw [joinsOf, detectJoins]
    split
    · exact .nil
    · apply (List.pairwise_mergeSort _ _ _).imp
      · intro earlier later le
        exact of_decide_eq_true le
      · intro a b c
        simpa using fun first second => le_trans second first
      · intro a b
        simpa using le_total b.confidence a.confidence

theorem joinsWell_users : JoinsWell Text.lower ⟨id, fun _ => .refl _⟩
    { fileKey := "t/users.csv", sheets := [["User_ID", "Name"]] }
    { fileKey := "t/tickets.csv", sheets := [["ticket_id", "user_id "]] }
    [{ fileKey := "t/tickets.csv", sheets := [["ticket_id", "user_id "]] }]
    [{ fileKey := "t/users.csv", sheets := [["User_ID", "Name"]] }] :=
  joinsWell (by decide) (by simp) (by simp) (by simp) (by simp)

end

end Onpremai.Preprocessor.JoinDetector
