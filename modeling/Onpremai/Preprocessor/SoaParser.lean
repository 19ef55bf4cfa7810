import Onpremai.Library.Collecting
import Onpremai.Library.VisibleLines
import Onpremai.Preprocessor.Pipeline

/-!
# Statement of applicability

A statement of applicability tells for each control whether it applies, and why.  It is read
from the sheets of the stored metadata, which keep the first rows of a table, else from text
with delimiters.  `reprOf` is the text of a value that is no text.
-/

namespace Onpremai.Preprocessor

open Onpremai.Library

/-- A table of an uploaded file: its columns and its rows, by column. -/
structure Table where
  columns : List String
  rows : List Record

/-- A sheet of the stored metadata with its sample rows. -/
structure SampledSheet extends SheetSchema where
  sampleRows : List Record := []

def sampleRowCount : Nat := 5

def sanitizeRow (columns : List String) (row : Record) : Record :=
  (Dict.ofList (columns.map fun column => (column, (Json.field? column row).getD .null))).entries

def Table.sampled (table : Table) (name : String) : SampledSheet where
  name
  columns := table.columns
  rowCount := table.rows.length
  sampleRows := (table.rows.take sampleRowCount).map (sanitizeRow table.columns)

def workbookTables (worksheets : List Worksheet) : List (String × Table) :=
  worksheets.filterMap fun worksheet =>
    worksheet.rows.map fun rows =>
      let columns := headerColumns rows.1
      (worksheet.name,
        { columns, rows := rows.2.map fun cells => (Dict.ofList (columns.zip cells)).entries })

def readTables (services : PipelineServices) (fileType : FileType) (fileBytes : Bytes) :
    Except String (List (String × Table)) :=
  match fileType with
  | .excel => (services.loadWorkbook fileBytes).map workbookTables
  | .csv => (services.readCsv fileBytes).map fun table =>
    [("data", { columns := table.1, rows := table.2 })]
  | _ => .ok []

def storedSheets (tables : List (String × Table)) : List SampledSheet :=
  tables.map fun table => table.2.sampled table.1

theorem detectSchema_table (table : Table) (name : String) :
    detectSchema table.columns (table.rows.map .obj) name =
      .ok (table.sampled name).toSheetSchema := by
  rw [detectSchema, if_neg, List.length_map]
  · rfl
  · intro raises
    obtain ⟨row, member, bad⟩ := List.any_eq_true.mp raises.2
    obtain ⟨record, -, same⟩ := List.mem_map.mp (List.mem_of_mem_take member)
    rw [← same] at bad
    exact Bool.false_ne_true bad

section

variable (services : PipelineServices) (fileBytes : Bytes)

theorem parseCsv_eq :
    parseCsv services fileBytes = (readTables services .csv fileBytes).map fun tables =>
      (storedSheets tables).map SampledSheet.toSheetSchema := by
  rw [parseCsv, readTables]
  cases services.readCsv fileBytes with
  | error message => rfl
  | ok table =>
    change (detectSchema table.1 (table.2.map .obj) "data" >>= fun schema => pure [schema]) = _
    rw [detectSchema_table { columns := table.1, rows := table.2 } "data"]
    rfl

theorem parseExcel_eq :
    parseExcel services fileBytes = (readTables services .excel fileBytes).map fun tables =>
      (storedSheets tables).map SampledSheet.toSheetSchema := by
  rw [parseExcel, readTables]
  cases services.loadWorkbook fileBytes with
  | error message => rfl
  | ok worksheets =>
    rw [ok_bind]
    simp only [Except.map, storedSheets, workbookTables, List.map_map, List.map_filterMap]
    apply filterMapM_of_ok
    intro worksheet _
    cases worksheet.rows with
    | none => rfl
    | some rows =>
      have detected := detectSchema_table
        { columns := headerColumns rows.1
          rows := rows.2.map fun cells =>
            (Dict.ofList ((headerColumns rows.1).zip cells)).entries } worksheet.name
      rw [List.map_map] at detected
      exact congrArg (fun schema => schema.map some) detected

end

/-- What is read for a control. -/
inductive SoaField where
  | controlId
  | applicable
  | justification
  | scope
  deriving DecidableEq, Repr

/-- The names of the columns of a field: words with an optional separator between them. -/
def SoaField.phrases : SoaField → List (List String)
  | .controlId =>
    [["control", "id"], ["control", "number"], ["control", "ref"], ["ref"], ["reference"],
     ["id"], ["annex", "a", "ref"], ["clause"], ["control"], ["control", "identifier"],
     ["iso", "control"]]
  | .applicable =>
    [["applicable"], ["applicability"], ["status"], ["included"], ["in", "scope"],
     ["applicable?"], ["apply"], ["relevant"]]
  | .justification =>
    [["justification"], ["reason"], ["rationale"], ["explanation"], ["note"], ["notes"],
     ["remark"], ["remarks"], ["description"], ["comment"], ["exclusion", "reason"]]
  | .scope =>
    [["scope"], ["boundary"], ["department"], ["owner"], ["responsible", "party"],
     ["implementation", "status"], ["impl", "status"]]

/-- A character without its case: the letters that an expression without case matches. -/
def foldCase (char : Char) : Char :=
  if char.toNat = 0x130 ∨ char.toNat = 0x131 then 'i'
  else if char.toNat = 0x17f then 's'
  else if char.toNat = 0x212a then 'k'
  else char.toLower

def isSeparator (char : Char) : Bool := Text.isSpace char || char == '_' || char == '-'

def matchesPhrase : List (List Char) → List Char → Bool
  | [], text => text.isEmpty
  | [word], text => text == word
  | word :: next :: rest, text =>
    word.isPrefixOf text && (matchesPhrase (next :: rest) (text.drop word.length) ||
        ((text.drop word.length).head?.any isSeparator &&
          matchesPhrase (next :: rest) (text.drop word.length).tail))

/-- A column name without its outer spaces is one of the names of a field. -/
def SoaField.matches (field : SoaField) (name : String) : Bool :=
  field.phrases.any fun phrase =>
    matchesPhrase (phrase.map String.toList) (name.toList.map foldCase)

def findColumn (columns : List String) (field : SoaField) : Option String :=
  columns.find? fun column => field.matches (Text.strip column)

def truthyValues : List String :=
  ["yes", "y", "true", "1", "applicable", "included", "in scope", "in-scope", "inscope",
   "selected", "active", "implemented"]

def falsyValues : List String :=
  ["no", "n", "false", "0", "not applicable", "n/a", "na", "excluded", "out of scope",
   "out-of-scope", "not included", "not selected", "removed"]

/-- Normalize an applicability cell value; `none` where it cannot be determined. -/
def normalizeApplicable (value : String) : Option Bool :=
  let cleaned := Text.lower (Text.strip value)
  if cleaned ∈ truthyValues then some true
  else if cleaned ∈ falsyValues then some false
  else none

/-- What is known of a control. -/
structure SoaEntry where
  applicable : Bool
  justification : String
  scope : String
  deriving DecidableEq, Repr

/-- The entry of the texts of its cells; a column that is missing has the empty text. -/
def soaEntry (applicable justification scope : String) : SoaEntry where
  applicable := (normalizeApplicable applicable).getD true
  justification
  scope

section

variable (reprOf : Json → String)

/-- `str(value)`. -/
def strOf : Json → String
  | .str text => text
  | .null => "None"
  | .bool true => "True"
  | .bool false => "False"
  | value => reprOf value

/-- `str(row.get(column, "")).strip()`. -/
def cellText (row : Record) (column : String) : String :=
  Text.strip (strOf reprOf ((Json.field? column row).getD (.str "")))

def fieldText (columns : List String) (row : Record) (field : SoaField) : String :=
  ((findColumn columns field).map (cellText reprOf row)).getD ""

def rowEntry (columns : List String) (row : Record) : Option (String × SoaEntry) :=
  let controlId := fieldText reprOf columns row .controlId
  if controlId = "" then none
  else
    some (controlId, soaEntry (fieldText reprOf columns row .applicable)
      (fieldText reprOf columns row .justification) (fieldText reprOf columns row .scope))

def sheetEntries (sheet : SampledSheet) : List (String × SoaEntry) :=
  if sheet.columns.isEmpty || sheet.sampleRows.isEmpty then []
  else
    match findColumn sheet.columns .controlId with
    | none => []
    | some _ => sheet.sampleRows.filterMap (rowEntry reprOf sheet.columns)

theorem sheetEntries_eq (sheet : SampledSheet) :
    sheetEntries reprOf sheet = sheet.sampleRows.filterMap (rowEntry reprOf sheet.columns) := by
  have lost (absent : findColumn sheet.columns .controlId = none) :
      sheet.sampleRows.filterMap (rowEntry reprOf sheet.columns) = [] := by
    rw [List.filterMap_eq_nil_iff]
    intro row _
    rw [rowEntry, fieldText, absent]
    rfl
  rw [sheetEntries]
  split
  · next empty =>
    rcases (Bool.or_eq_true _ _).mp empty with noColumns | noRows
    · refine (lost ?_).symm
      rw [List.isEmpty_iff.mp noColumns]
      rfl
    · rw [List.isEmpty_iff.mp noRows]
      rfl
  · cases found : findColumn sheet.columns .controlId with
    | none => exact (lost found).symm
    | some column => rfl

def parseFromSheets (sheets : List SampledSheet) : Dict String SoaEntry :=
  .ofList (sheets.flatMap (sheetEntries reprOf))

end

/-- `cell.strip().strip("|").strip()`. -/
def trimCell (cell : String) : String := Text.strip (String.ofList
    (Text.stripChars (fun char => char == '|') (Text.strip cell).toList))

/-- Where the columns of the fields stand. -/
structure TextColumns where
  controlId : Option Nat := none
  applicable : Option Nat := none
  justification : Option Nat := none
  scope : Option Nat := none

def TextColumns.note (found : TextColumns) (header : String × Nat) : TextColumns :=
  if found.controlId.isNone && SoaField.controlId.matches header.1 then
    { found with controlId := some header.2 }
  else if found.applicable.isNone && SoaField.applicable.matches header.1 then
    { found with applicable := some header.2 }
  else if found.justification.isNone && SoaField.justification.matches header.1 then
    { found with justification := some header.2 }
  else if found.scope.isNone && SoaField.scope.matches header.1 then
    { found with scope := some header.2 }
  else found

/-- A line that is blank or made of rules only, such as the one below a header. -/
def isRule (line : String) : Bool :=
  (Text.strip line).toList.all fun char => Text.isSpace char || "|:-+".toList.contains char

def lineEntry (found : TextColumns) (controlIdx : Nat) (cells : List String) :
    Option (String × SoaEntry) :=
  let cellAt := fun column : Option Nat => (column.bind fun index => cells[index]?).getD ""
  if cells.length ≤ controlIdx then none
  else
    let controlId := Text.strip (cellAt (some controlIdx))
    if controlId = "" then none
    else
      some (controlId, soaEntry (cellAt found.applicable) (Text.strip (cellAt found.justification))
        (Text.strip (cellAt found.scope)))

def headersIn (delimiter : Char) (line : String) : List String :=
  ((Text.pieces delimiter line).map trimCell).filter fun header => decide (header ≠ "")

/-- Parse the lines of a table with pipes, tabs or commas. -/
def parseLines : List String → Dict String SoaEntry
  | firstLine :: second :: rest =>
    match ['|', '\t', ','].find? fun delim => firstLine.toList.contains delim with
    | none => .empty
    | some delimiter =>
      let found := (headersIn delimiter firstLine).zipIdx.foldl TextColumns.note {}
      match found.controlId with
      | none => .empty
      | some controlIdx =>
        .ofList (((second :: rest).filter fun line => !isRule line).filterMap fun line =>
          lineEntry found controlIdx ((Text.pieces delimiter line).map trimCell))
  | _ => .empty

def parseFromText (textContent : String) : Dict String SoaEntry :=
  if textContent = "" ∨ Text.strip textContent = "" then .empty
  else parseLines (Text.lines (Text.strip textContent))

def parseSoa (reprOf : Json → String) (sheets : List SampledSheet) (textContent : String) :
    Dict String SoaEntry :=
  let fromSheets := parseFromSheets reprOf sheets
  if fromSheets.entries.isEmpty = false then fromSheets
  else if textContent = "" then .empty
  else parseFromText textContent

example :
    (parseFromText "Control ID | Status\n---|---\nA.5.1 | No").entries =
      [("A.5.1", { applicable := false, justification := "", scope := "" })] := by
  decide +kernel

end Onpremai.Preprocessor
