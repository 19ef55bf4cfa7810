import Mathlib.Data.List.Pairwise
import Onpremai.Preprocessor.SoaParser

/-!
# Coverage of a statement of applicability

The stored sheets keep the first rows of each table.  Every control of a file has its entry
exactly when all controls stand among these rows, and no cell that is read for them is empty in
the sense of the reader, which is written as a word of its own.
-/

namespace Onpremai.Preprocessor

open Onpremai.Library

section

variable (reprOf : Json → String) (columns : List String) (row : Record)

def cellOf (column : String) : Json := (Json.field? column row).getD .null

/-- The text of a cell without its outer spaces; an empty cell has the empty text. -/
def toldText : Json → String
  | .null => ""
  | value => Text.strip (strOf reprOf value)

def told (field : SoaField) : String :=
  ((findColumn columns field).map fun column => toldText reprOf (cellOf row column)).getD ""

def controlOf : Option String :=
  let controlId := told reprOf columns row .controlId
  if controlId = "" ∨ controlId = "None" then none else some controlId

def toldEntry : SoaEntry :=
  soaEntry (told reprOf columns row .applicable) (told reprOf columns row .justification)
    (told reprOf columns row .scope)

def Table.controls (table : Table) : List String :=
  table.rows.filterMap (controlOf reprOf table.columns)

def CoversControls (tables : List (String × Table)) : Prop :=
  ∀ table ∈ tables, ∀ row ∈ table.2.rows, ∀ controlId,
    controlOf reprOf table.2.columns row = some controlId →
      (parseSoa reprOf (storedSheets tables) "").get? controlId =
        some (toldEntry reprOf table.2.columns row)

/-- The cells that are kept as texts are not empty. -/
def IsFilled : Prop :=
  ∀ field ∈ [SoaField.justification, .scope], ∀ column ∈ findColumn columns field,
    cellOf row column ≠ .null

def Table.IsSampled (table : Table) : Prop :=
  (∀ row ∈ table.rows.drop sampleRowCount, controlOf reprOf table.columns row = none) ∧
    ∀ row ∈ table.rows, controlOf reprOf table.columns row ≠ none → IsFilled table.columns row

variable {reprOf columns row}

theorem mem_of_findColumn {field : SoaField} {column : String}
    (found : findColumn columns field = some column) : column ∈ columns :=
  List.mem_of_find?_eq_some found

theorem field?_sanitizeRow {column : String} (member : column ∈ columns) :
    Json.field? column (sanitizeRow columns row) = some (cellOf row column) := by
  rw [Json.field?_eq_findEntry]
  have agree : ∀ entry ∈ columns.map (fun column =>
      (column, (Json.field? column row).getD .null)), entry.1 = column →
        entry.2 = cellOf row column := by
    intro entry inside same
    obtain ⟨other, -, made⟩ := List.mem_map.mp inside
    rw [← made] at same ⊢
    rw [← same]
    rfl
  exact Dict.get?_setAll_of_agree .empty agree
    (List.mem_map.mpr ⟨_, List.mem_map.mpr ⟨column, member, rfl⟩, rfl⟩)

def readText (reprOf : Json → String) (cell : Json) : String := Text.strip (strOf reprOf cell)

theorem fieldText_sanitizeRow (field : SoaField) :
    fieldText reprOf columns (sanitizeRow columns row) field =
      ((findColumn columns field).map fun column =>
        readText reprOf (cellOf row column)).getD "" := by
  rw [fieldText]
  cases found : findColumn columns field with
  | none => rfl
  | some column =>
    rw [Option.map_some, Option.map_some, cellText, field?_sanitizeRow (mem_of_findColumn found)]
    rfl

theorem readText_null : readText reprOf .null = "None" := by
  rw [readText, strOf]
  decide

theorem readText_of_ne {cell : Json} (filled : cell ≠ .null) :
    readText reprOf cell = toldText reprOf cell := by
  cases cell with
  | null => exact absurd rfl filled
  | _ => rfl

theorem readText_eq_toldText_iff {cell : Json} :
    readText reprOf cell = toldText reprOf cell ↔ cell ≠ .null := by
  constructor
  · intro same empty
    rw [empty, readText_null, toldText] at same
    exact absurd same (by decide)
  · exact readText_of_ne

theorem controlOf_eq_some_iff {controlId : String} : controlOf reprOf columns row = some controlId ↔
      fieldText reprOf columns (sanitizeRow columns row) .controlId = controlId ∧
        controlId ≠ "" ∧ controlId ≠ "None" := by
  have read : controlOf reprOf columns row = some controlId ↔
      told reprOf columns row .controlId = controlId ∧ controlId ≠ "" ∧ controlId ≠ "None" := by
    rw [controlOf]
    simp only [ite_eq_iff, reduceCtorEq, and_false, false_or, Option.some.injEq, not_or]
    constructor
    · intro given
      obtain ⟨some, same⟩ := given
      exact ⟨same, same ▸ some⟩
    · intro given
      obtain ⟨same, some⟩ := given
      exact ⟨same ▸ some, same⟩
  rw [read, fieldText_sanitizeRow, told]
  cases findColumn columns .controlId with
  | none => rfl
  | some column =>
    rw [Option.map_some, Option.map_some, Option.getD_some, Option.getD_some]
    by_cases empty : cellOf row column = .null
    · rw [empty, readText_null]
      apply iff_of_false
      · intro given
        exact given.2.1 given.1.symm
      · intro given
        exact given.2.2 given.1.symm
    · rw [readText_of_ne empty]

variable (reprOf columns row) in
def readEntry : SoaEntry :=
  soaEntry (fieldText reprOf columns (sanitizeRow columns row) .applicable)
    (fieldText reprOf columns (sanitizeRow columns row) .justification)
    (fieldText reprOf columns (sanitizeRow columns row) .scope)

theorem fieldText_eq_told_iff (field : SoaField) :
    fieldText reprOf columns (sanitizeRow columns row) field = told reprOf columns row field ↔
      ∀ column ∈ findColumn columns field, cellOf row column ≠ .null := by
  rw [fieldText_sanitizeRow, told]
  cases findColumn columns field with
  | none => exact iff_of_true rfl fun column absent => by cases absent
  | some column =>
    rw [Option.map_some, Option.map_some, Option.getD_some, Option.getD_some,
      readText_eq_toldText_iff]
    constructor
    · intro filled other same
      cases same
      exact filled
    · intro filled
      exact filled column rfl

theorem normalizeApplicable_fieldText :
    normalizeApplicable (fieldText reprOf columns (sanitizeRow columns row) .applicable) =
      normalizeApplicable (told reprOf columns row .applicable) := by
  rw [fieldText_sanitizeRow, told]
  cases findColumn columns .applicable with
  | none => rfl
  | some column =>
    rw [Option.map_some, Option.map_some, Option.getD_some, Option.getD_some]
    by_cases empty : cellOf row column = .null
    · rw [empty, readText_null, toldText]
      decide
    · rw [readText_of_ne empty]

theorem readEntry_eq_toldEntry_iff :
    readEntry reprOf columns row = toldEntry reprOf columns row ↔ IsFilled columns row := by
  rw [readEntry, toldEntry, soaEntry, soaEntry, SoaEntry.mk.injEq, normalizeApplicable_fieldText,
    fieldText_eq_told_iff, fieldText_eq_told_iff, IsFilled, List.forall_mem_cons,
    List.forall_mem_singleton]
  exact and_iff_right rfl

theorem rowEntry_sanitizeRow {controlId : String} (isControl : controlId ≠ "None")
    {entry : SoaEntry} :
    rowEntry reprOf columns (sanitizeRow columns row) = some (controlId, entry) ↔
      controlOf reprOf columns row = some controlId ∧ readEntry reprOf columns row = entry := by
  rw [controlOf_eq_some_iff, rowEntry]
  simp only [ite_eq_iff, reduceCtorEq, and_false, false_or, Option.some.injEq, Prod.mk.injEq]
  constructor
  · intro given
    obtain ⟨some, same, entries⟩ := given
    exact ⟨⟨same, same ▸ some, isControl⟩, entries⟩
  · intro given
    obtain ⟨⟨same, some, -⟩, entries⟩ := given
    exact ⟨same ▸ some, same, entries⟩

/-! ## The entries of all tables -/

theorem sheetEntries_sampled (table : Table) (name : String) :
    sheetEntries reprOf (table.sampled name) =
      ((table.rows.take sampleRowCount).map (sanitizeRow table.columns)).filterMap
        (rowEntry reprOf table.columns) :=
  sheetEntries_eq reprOf (table.sampled name)

variable {tables : List (String × Table)}

theorem exists_of_get?_parseSoa {controlId : String} (isControl : controlId ≠ "None")
    {entry : SoaEntry}
    (found : (parseFromSheets reprOf (storedSheets tables)).get? controlId = some entry) :
    ∃ table ∈ tables, ∃ row ∈ table.2.rows.take sampleRowCount,
      controlOf reprOf table.2.columns row = some controlId ∧
        readEntry reprOf table.2.columns row = entry := by
  have member := Dict.mem_of_get?_ofList found
  rw [storedSheets, List.flatMap_map] at member
  obtain ⟨table, inTables, inside⟩ := List.mem_flatMap.mp member
  rw [sheetEntries_sampled] at inside
  obtain ⟨stored, sampled, read⟩ := List.mem_filterMap.mp inside
  obtain ⟨row, taken, same⟩ := List.mem_map.mp sampled
  rw [← same] at read
  exact ⟨table, inTables, row, taken, (rowEntry_sanitizeRow isControl).mp read⟩

theorem mem_controls {table : Table} {row : Record} {controlId : String}
    (member : row ∈ table.rows) (told : controlOf reprOf table.columns row = some controlId) :
    controlId ∈ table.controls reprOf :=
  List.mem_filterMap.mpr ⟨row, member, told⟩

variable (reprOf tables) in
def DistinctControls : Prop := (tables.flatMap fun table => table.2.controls reprOf).Nodup

variable (reprOf) in
def Table.readings (table : Table) : List (String × SoaEntry) :=
  table.rows.filterMap fun row =>
    (controlOf reprOf table.columns row).map fun controlId =>
      (controlId, readEntry reprOf table.columns row)

theorem map_fst_readings (table : Table) :
    (table.readings reprOf).map Prod.fst = table.controls reprOf := by
  rw [Table.readings, Table.controls, List.map_filterMap]
  refine List.filterMap_congr fun row _ => ?_
  cases controlOf reprOf table.columns row with
  | none => rfl
  | some controlId => rfl

theorem mem_readings {table : Table} {row : Record} {controlId : String}
    (member : row ∈ table.rows) (told : controlOf reprOf table.columns row = some controlId) :
    (controlId, readEntry reprOf table.columns row) ∈ table.readings reprOf :=
  List.mem_filterMap.mpr ⟨row, member, by rw [told]; rfl⟩

theorem readEntry_unique (distinct : DistinctControls reprOf tables)
    {table other : String × Table} (inTables : table ∈ tables) (otherIn : other ∈ tables)
    {row otherRow : Record} (member : row ∈ table.2.rows) (otherMember : otherRow ∈ other.2.rows)
    {controlId : String} (told : controlOf reprOf table.2.columns row = some controlId)
    (otherTold : controlOf reprOf other.2.columns otherRow = some controlId) :
    readEntry reprOf table.2.columns row = readEntry reprOf other.2.columns otherRow := by
  have keys : (tables.flatMap fun table => table.2.readings reprOf).map Prod.fst =
      tables.flatMap fun table => table.2.controls reprOf := by
    rw [List.map_flatMap]
    exact List.flatMap_congr fun table _ => map_fst_readings table.2
  rw [DistinctControls, ← keys] at distinct
  have inPairs {table : String × Table} {pair : String × SoaEntry} (inTables : table ∈ tables)
      (inside : pair ∈ table.2.readings reprOf) :
      pair ∈ tables.flatMap fun table => table.2.readings reprOf :=
    List.mem_flatMap.mpr ⟨table, inTables, inside⟩
  have first := inPairs inTables (mem_readings member told)
  have second := inPairs otherIn (mem_readings otherMember otherTold)
  have same := List.inj_on_of_nodup_map distinct first second rfl
  exact (Prod.mk.inj same).2

theorem not_sampled_of_dropped (distinct : DistinctControls reprOf tables)
    {table other : String × Table} (inTables : table ∈ tables) (otherIn : other ∈ tables)
    {row otherRow : Record} (dropped : row ∈ table.2.rows.drop sampleRowCount)
    (sampled : otherRow ∈ other.2.rows.take sampleRowCount) {controlId : String}
    (told : controlOf reprOf table.2.columns row = some controlId) :
    controlOf reprOf other.2.columns otherRow ≠ some controlId := by
  intro otherTold
  obtain ⟨each, apart⟩ := List.nodup_flatMap.mp distinct
  by_cases same : table = other
  · rw [← same] at sampled otherTold
    have whole := each table inTables
    rw [Table.controls, ← List.take_append_drop sampleRowCount table.2.rows,
      List.filterMap_append] at whole
    exact List.disjoint_of_nodup_append whole
      (List.mem_filterMap.mpr ⟨otherRow, sampled, otherTold⟩)
      (List.mem_filterMap.mpr ⟨row, dropped, told⟩)
  · have symm : Std.Symm (Function.onFun List.Disjoint fun table : String × Table =>
        table.2.controls reprOf) := ⟨fun _ _ disjoint _ inFirst inSecond => disjoint inSecond inFirst⟩
    have disjoint := apart.forall inTables otherIn same
    exact disjoint (mem_controls (List.mem_of_mem_drop dropped) told)
      (mem_controls (List.mem_of_mem_take sampled) otherTold)

theorem get?_parseFromSheets (distinct : DistinctControls reprOf tables)
    {table : String × Table} (inTables : table ∈ tables) {row : Record}
    (sampled : row ∈ table.2.rows.take sampleRowCount) {controlId : String}
    (told : controlOf reprOf table.2.columns row = some controlId) :
    (parseFromSheets reprOf (storedSheets tables)).get? controlId =
      some (readEntry reprOf table.2.columns row) := by
  have isControl := (controlOf_eq_some_iff.mp told).2.2
  rw [parseFromSheets, storedSheets, List.flatMap_map]
  apply Dict.get?_setAll_of_agree
  · intro entry member same
    obtain ⟨other, otherIn, inside⟩ := List.mem_flatMap.mp member
    rw [sheetEntries_sampled] at inside
    obtain ⟨stored, inSample, read⟩ := List.mem_filterMap.mp inside
    obtain ⟨otherRow, taken, made⟩ := List.mem_map.mp inSample
    rw [← made] at read
    obtain ⟨otherTold, entries⟩ := (@rowEntry_sanitizeRow reprOf other.2.columns otherRow
      entry.1 (same ▸ isControl) entry.2).mp read
    rw [same] at otherTold
    rw [← entries]
    exact readEntry_unique distinct otherIn inTables (List.mem_of_mem_take taken)
      (List.mem_of_mem_take sampled) otherTold told
  · refine List.mem_map.mpr ⟨(controlId, readEntry reprOf table.2.columns row), ?_, rfl⟩
    refine List.mem_flatMap.mpr ⟨table, inTables, ?_⟩
    rw [sheetEntries_sampled]
    exact List.mem_filterMap.mpr ⟨_, List.mem_map.mpr ⟨row, sampled, rfl⟩,
      (rowEntry_sanitizeRow isControl).mpr ⟨told, rfl⟩⟩

theorem get?_parseSoa (sheets : List SampledSheet) (controlId : String) :
    (parseSoa reprOf sheets "").get? controlId = (parseFromSheets reprOf sheets).get? controlId := by
  simp only [parseSoa, if_true]
  split
  · rfl
  · next empty =>
    have none : (parseFromSheets reprOf sheets).entries = [] :=
      List.isEmpty_iff.mp ((Bool.not_eq_false _).mp empty)
    rw [Dict.get?, Dict.get?, none]
    rfl

theorem coversControls_iff (distinct : DistinctControls reprOf tables) :
    CoversControls reprOf tables ↔ ∀ table ∈ tables, table.2.IsSampled reprOf := by
  simp only [CoversControls, get?_parseSoa]
  constructor
  · intro covers table inTables
    have kept : ∀ row ∈ table.2.rows.drop sampleRowCount,
        controlOf reprOf table.2.columns row = none := by
      intro row dropped
      rw [Option.eq_none_iff_forall_ne_some]
      intro controlId told
      have found := covers table inTables row (List.mem_of_mem_drop dropped) controlId told
      have isControl := (controlOf_eq_some_iff.mp told).2.2
      obtain ⟨other, otherIn, otherRow, sampled, otherTold, -⟩ :=
        exists_of_get?_parseSoa isControl found
      exact not_sampled_of_dropped distinct inTables otherIn dropped sampled told otherTold
    refine ⟨kept, fun row member isControl => ?_⟩
    obtain ⟨controlId, told⟩ := Option.ne_none_iff_exists'.mp isControl
    rw [← List.take_append_drop sampleRowCount table.2.rows, List.mem_append] at member
    rcases member with sampled | dropped
    · have found := covers table inTables row (List.mem_of_mem_take sampled) controlId told
      rw [get?_parseFromSheets distinct inTables sampled told, Option.some.injEq] at found
      exact readEntry_eq_toldEntry_iff.mp found
    · exact absurd (kept row dropped) isControl
  · intro condition table inTables row member controlId told
    obtain ⟨kept, filled⟩ := condition table inTables
    have isControl : controlOf reprOf table.2.columns row ≠ none := by
      rw [told]
      exact Option.some_ne_none controlId
    have entry := (@readEntry_eq_toldEntry_iff reprOf _ _).mpr (filled row member isControl)
    rw [← List.take_append_drop sampleRowCount table.2.rows, List.mem_append] at member
    rcases member with sampled | dropped
    · rw [get?_parseFromSheets distinct inTables sampled told, entry]
    · exact absurd (kept row dropped) isControl

variable (reprOf) in
/-- The reader yields the tables of a file, and parsing what is stored of them yields an entry
for every control row. -/
def FileCovers (services : PipelineServices) (fileType : FileType) (fileBytes : Bytes) : Prop :=
  ∃ tables, readTables services fileType fileBytes = .ok tables ∧ CoversControls reprOf tables

theorem fileCovers_iff {services : PipelineServices} {fileType : FileType} {fileBytes : Bytes}
    (yields : readTables services fileType fileBytes = .ok tables)
    (distinct : DistinctControls reprOf tables) :
    FileCovers reprOf services fileType fileBytes ↔
      ∀ table ∈ tables, table.2.IsSampled reprOf := by
  rw [← coversControls_iff distinct]
  constructor
  · intro covered
    obtain ⟨others, same, covers⟩ := covered
    cases yields.symm.trans same
    exact covers
  · intro covers
    exact ⟨tables, yields, covers⟩

end

def soaColumns : List String := ["Control ID", "Justification"]

def soaRow (control : String) : Record :=
  [("Control ID", .str control), ("Justification", .str "in use")]

/-- Readers that yield a table of some controls for every delimited file. -/
def soaServices (controls : List String) : PipelineServices where
  loadWorkbook _ := .ok []
  readCsv _ := .ok (soaColumns, controls.map soaRow)
  loadsUtf8 _ := .error "not a document"
  jsonWriter := { dumps := fun _ _ => "document", dumps_ne_empty := fun _ _ => by decide }
  pdfBackend _ := .error "no backend"
  ocrAvailable := false
  ocrName := "none"
  ocrBackend _ := .error "no backend"
  docBackend _ _ := .error "no backend"
  detectJoins _ _ := .ok []
  mimeType _ := none
  sha256Hex _ := ""
  now := ""

/-- The tables that the readers yield. -/
def soaTables (controls : List String) : List (String × Table) :=
  [("data", { columns := soaColumns, rows := controls.map soaRow })]

theorem isFilled_soaRow (control : String) : IsFilled soaColumns (soaRow control) := by
  have justified : findColumn soaColumns .justification = some "Justification" := by decide
  have unscoped : findColumn soaColumns .scope = none := by decide
  rw [IsFilled, List.forall_mem_cons, List.forall_mem_singleton, justified, unscoped]
  constructor
  · intro column found empty
    cases found
    cases empty
  · intro column found
    cases found

theorem fileCovers_two :
    FileCovers (fun _ => "") (soaServices ["A.5", "A.6"]) .csv [] := by
  refine (@fileCovers_iff (fun _ => "") (soaTables ["A.5", "A.6"]) _ .csv [] rfl ?_).mpr ?_
  · rw [DistinctControls]
    decide
  · intro table member
    rw [List.mem_singleton.mp member]
    refine ⟨List.forall_mem_nil _, fun row inRows _ => ?_⟩
    obtain ⟨control, -, same⟩ := List.mem_map.mp inRows
    rw [← same]
    exact isFilled_soaRow control

/-- The sixth control of a file has no entry. -/
theorem not_fileCovers_six : (soaTables ["A.1", "A.2", "A.3", "A.4", "A.5", "A.6"]).flatMap
        (fun table => table.2.controls fun _ => "") =
      ["A.1", "A.2", "A.3", "A.4", "A.5", "A.6"] ∧
    ¬ FileCovers (fun _ => "") (soaServices ["A.1", "A.2", "A.3", "A.4", "A.5", "A.6"])
      .csv [] := by
  constructor
  · decide
  · intro covered
    obtain ⟨tables, yields, covers⟩ := covered
    cases yields
    have sixth := covers _ List.mem_cons_self (soaRow "A.6")
      (List.mem_map.mpr ⟨"A.6", by decide, rfl⟩) "A.6" (by decide)
    have lost : (parseSoa (fun _ => "")
        (storedSheets (soaTables ["A.1", "A.2", "A.3", "A.4", "A.5", "A.6"])) "").get? "A.6" =
          none := by
      decide
    exact absurd (lost.symm.trans sixth) (by simp)

end Onpremai.Preprocessor
