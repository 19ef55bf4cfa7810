import Onpremai.Library.Collecting
import Onpremai.Library.Delimited
import Onpremai.Library.Regex
import Onpremai.Preprocessor.Pipeline

/-!
# Schema detection

The columns of a table, their types and its first rows, from the rows that a parser hands over.
A worksheet, a delimited file and a list of objects are each turned into such rows.
-/

namespace Onpremai.Preprocessor.SchemaDetector

open Onpremai.Library

/-- A value in a row.  Texts stand for what no rule looks into: the digits of a float, the ISO
form of a time, what is shown of anything else. -/
inductive CellValue where
  | none
  | bool (value : Bool)
  | int (value : Int)
  | float (text : String)
  | datetime (text : String)
  | text (value : String)
  | list (items : List CellValue)
  | dict (fields : List (Option String × CellValue))
  | other (text : String)

/-- Types of columns. -/
inductive ColumnType where
  | string
  | integer
  | float
  | date
  | boolean
  | email
  | id
  | unknown
  deriving DecidableEq, Repr

/-- What the detection asks of the runtime and of the readers of file formats.  The sniffer
finds a delimiter or gives up. -/
structure SchemaServices where
  isDecimal : Char → Bool
  readsInt : String → Bool
  readsFloat : String → Bool
  strOf : CellValue → String
  sniff : String → Option Char
  loadWorkbook : Bytes →
    Except String (List (String × Option (List CellValue × List (List CellValue))))
  loadsUtf8 : Bytes → Except String CellValue

/-- The schema of a table. -/
structure DetectedSchema extends SheetSchema where
  sampleRows : List (Dict String CellValue) := []
  columnTypes : Dict String ColumnType := .empty

def idColumnNames : List String :=
  ["id", "user_id", "employee_id", "account_id", "record_id", "uuid", "guid", "ref", "reference",
   "key", "pk", "ticket_id", "case_id", "incident_id", "control_id"]

def dateColumnNames : List String :=
  ["date", "created_at", "updated_at", "timestamp", "datetime", "review_date", "start_date",
   "end_date", "due_date", "created", "modified", "last_login", "expires_at"]

def isAsciiLetter (char : Char) : Bool := ('a' ≤ char && char ≤ 'z') || ('A' ≤ char && char ≤ 'Z')

def isAsciiAlnum (char : Char) : Bool := isAsciiLetter char || ('0' ≤ char && char ≤ '9')

def emailPattern : Regex := Regex.sequence
    [Regex.some1 fun char => isAsciiAlnum char || "._%+-".toList.contains char,
     .one fun char => char == '@',
     Regex.some1 fun char => isAsciiAlnum char || ".-".toList.contains char,
     .one fun char => char == '.', .one isAsciiLetter, Regex.some1 isAsciiLetter, .atEnd]

section

variable (services : SchemaServices)

def datePattern (groups : List Nat) (separator : Char) : Regex :=
  Regex.sequence (((groups.map fun count =>
    List.replicate count (Regex.one services.isDecimal)).intersperse
      [.one fun char => char == separator]).flatten)

def datePatterns : List Regex :=
  [datePattern services [4, 2, 2] '-', datePattern services [2, 2, 4] '/',
   datePattern services [2, 2, 4] '-', datePattern services [2, 2, 4] '.']

def detectTextType (text : String) : ColumnType :=
  let text := Text.strip text
  if text = "" then .unknown
  else if Text.lower text ∈ ["true", "false", "yes", "no", "y", "n", "1", "0"] then .boolean
  else if (emailPattern.matchFrom some ⟨none, text.toList, []⟩).isSome then .email
  else if (datePatterns services).any fun pattern => (pattern.search text.toList).isSome then .date
  else if services.readsInt text then .integer
  else if services.readsFloat text then .float
  else .string

def detectValueType : CellValue → ColumnType
  | .none => .unknown
  | .bool _ => .boolean
  | .int _ => .integer
  | .float _ => .float
  | .datetime _ => .date
  | .text text => detectTextType services text
  | value => detectTextType services (services.strOf value)

/-- The type that occurs most often, of several the one that occurs first. -/
def mostCommon (types : List ColumnType) : ColumnType :=
  let counts : Dict ColumnType Nat := types.foldl
    (fun counts type => counts.set type ((counts.get? type).getD 0 + 1)) .empty
  match counts.entries with
  | [] => .string
  | first :: rest =>
    (rest.foldl (fun best entry => if best.2 < entry.2 then entry else best) first).1

def inferColumnType (columnName : String) (values : List CellValue) : ColumnType :=
  let colLower := Text.strip (Text.lower columnName)
  if colLower ∈ idColumnNames ∨ Text.endsWith "_id" colLower then .id
  else if colLower ∈ dateColumnNames ∨ Text.contains "date" colLower ∨
      Text.contains "time" colLower then .date
  else if values.isEmpty then .unknown
  else mostCommon ((values.take 50).map (detectValueType services))

/-- `row.get(column)`; only a dictionary has it. -/
def CellValue.get (column : String) : CellValue → Except String CellValue
  | .dict fields => .ok (((Dict.ofList fields).get? (some column)).getD .none)
  | _ => .error "object has no attribute 'get'"

def CellValue.isNone : CellValue → Bool
  | .none => true
  | _ => false

/-- A sample value as it is stored. -/
def sanitizeValue : CellValue → CellValue
  | .datetime text => .text text
  | .text value => .text value
  | .int value => .int value
  | .float text => .float text
  | .bool value => .bool value
  | .none => .none
  | value => .text (services.strOf value)

def sampleRowCount : Nat := 5

def sanitizeSampleRows (rows : List CellValue) (columns : List String) :
    Except String (List (Dict String CellValue)) :=
  rows.mapM fun row => do
    let cleanRow ← columns.mapM fun column => do
      let value ← row.get column
      return (column, sanitizeValue services value)
    return Dict.ofList cleanRow

def detectSchema (columns : List String) (rows : List CellValue) (sheetName : String) :
    Except String DetectedSchema := do
  let columnTypes ← columns.mapM fun column => do
    let values ← (rows.take 100).mapM (CellValue.get column)
    return (column, inferColumnType services column (values.filter fun value => !value.isNone))
  let sampleRows ← sanitizeSampleRows services (rows.take sampleRowCount) columns
  return { name := sheetName, columns, rowCount := rows.length, sampleRows
           columnTypes := Dict.ofList columnTypes }

def columnNames (header : List CellValue) : List String :=
  header.mapIdx fun index cell =>
    match cell with
    | .none => "column_" ++ toString index
    | .text text => text
    | cell => services.strOf cell

def sheetRow (columns : List String) (cells : List CellValue) : Dict (Option String) CellValue :=
  Dict.ofList ((columns.map some).zip cells)

def parseExcel (fileBytes : Bytes) : Except String (List DetectedSchema) := do
  let worksheets ← services.loadWorkbook fileBytes
  worksheets.filterMapM fun worksheet =>
    match worksheet.2 with
    | none => pure none
    | some (header, dataRows) => do
      let columns := columnNames services header
      let rows := dataRows.map fun cells => CellValue.dict (sheetRow columns cells).entries
      let schema ← detectSchema services columns rows worksheet.1
      return some schema

def decodeText (fileBytes : Bytes) : String := (String.fromUTF8? ⟨fileBytes.toArray⟩).getD
    (String.ofList (fileBytes.map fun byte => Char.ofNat byte.toNat))

def delimiterOf (text : String) : Char := (services.sniff (Text.truncate 4096 text)).getD
    (if Text.contains "," (Text.truncate 1000 text) then ',' else '\t')

def readRows (fileBytes : Bytes) : Except String (List (List String)) :=
  let text := decodeText fileBytes
  Delimited.rows (delimiterOf services text) text

/-- What a record holds under a name, as a value. -/
def cellOf : Delimited.Field → CellValue
  | .text value => .text value
  | .rest values => .list (values.map .text)
  | .missing => .none

def parseCsv (fileBytes : Bytes) : Except String (List DetectedSchema) := do
  let rows ← readRows services fileBytes
  let (columns, records) := Delimited.records rows
  let dataRows := records.map fun record =>
    CellValue.dict (record.entries.map fun entry => (entry.1, cellOf entry.2))
  let schema ← detectSchema services columns dataRows "data"
  return [schema]

/-- The sheets of a JSON file: a list that begins with an object is a table.  A file that cannot
be read, and any other document, has none. -/
def processJson (fileBytes : Bytes) : Except String (List DetectedSchema) :=
  match services.loadsUtf8 fileBytes with
  | .ok (.list (.dict fields :: rest)) => do
    let columns := fields.filterMap Prod.fst
    let rows := (CellValue.dict fields :: rest).take 1000
    let schema ← detectSchema services columns rows "root"
    return [schema]
  | _ => .ok []

def storedSheets (fileType : FileType) (fileBytes : Bytes) : Except String (List DetectedSchema) :=
  match fileType with
  | .excel => parseExcel services fileBytes
  | .csv => parseCsv services fileBytes
  | .json => processJson services fileBytes
  | _ => .ok []

end

/-! ## Rows that are dictionaries -/

section

variable (services : SchemaServices)

/-- What a row holds in a column. -/
def valueAt (column : String) (fields : List (Option String × CellValue)) : CellValue :=
  ((Dict.ofList fields).get? (some column)).getD .none

def schemaOf (columns : List String) (rows : List (List (Option String × CellValue)))
    (sheetName : String) : DetectedSchema where
  name := sheetName
  columns := columns
  rowCount := rows.length
  sampleRows := (rows.take sampleRowCount).map fun fields =>
    Dict.ofList (columns.map fun column => (column, sanitizeValue services (valueAt column fields)))
  columnTypes := Dict.ofList (columns.map fun column =>
    (column, inferColumnType services column
      (((rows.take 100).map (valueAt column)).filter fun value => !value.isNone)))

section

variable (columns : List String) (rows : List (List (Option String × CellValue)))

theorem detectSchema_eq (sheetName : String) :
    detectSchema services columns (rows.map .dict) sheetName =
      .ok (schemaOf services columns rows sheetName) := by
  have values : ∀ column, ((rows.map CellValue.dict).take 100).mapM (CellValue.get column) =
      .ok ((rows.take 100).map (valueAt column)) := by
    intro column
    rw [← List.map_take, List.mapM_map]
    exact mapM_of_ok fun _ _ => rfl
  have types : (columns.mapM fun column => do
      let values ← ((rows.map CellValue.dict).take 100).mapM (CellValue.get column)
      return (column, inferColumnType services column
        (values.filter fun value => !value.isNone)) : Except String _) =
      .ok (columns.map fun column => (column, inferColumnType services column
        (((rows.take 100).map (valueAt column)).filter fun value => !value.isNone))) := by
    apply mapM_of_ok
    intro column _
    rw [values, ok_bind]
    rfl
  have samples : sanitizeSampleRows services ((rows.map CellValue.dict).take sampleRowCount)
      columns = .ok (schemaOf services columns rows sheetName).sampleRows := by
    rw [sanitizeSampleRows, ← List.map_take, List.mapM_map]
    apply mapM_of_ok
    intro fields _
    have clean : (columns.mapM fun column => do
        let value ← (CellValue.dict fields).get column
        return (column, sanitizeValue services value) : Except String _) =
        .ok (columns.map fun column => (column, sanitizeValue services (valueAt column fields))) :=
      mapM_of_ok fun _ _ => rfl
    rw [Function.comp_apply, clean, ok_bind]
    rfl
  rw [detectSchema, types, ok_bind, samples, ok_bind, List.length_map]
  rfl

theorem mem_keys_schemaOf (sheetName column : String) :
    column ∈ (schemaOf services columns rows sheetName).columnTypes.keys ↔ column ∈ columns := by
  rw [schemaOf, Dict.mem_keys_ofList, List.map_map]
  simp

theorem detectSchema_sheet (objects : List (List (String × Json)))
    (sheetName : String) (length : objects.length = rows.length) :
    (detectSchema services columns (rows.map .dict) sheetName).map DetectedSchema.toSheetSchema =
      Preprocessor.detectSchema columns (objects.map .obj) sheetName := by
  rw [detectSchema_eq, Preprocessor.detectSchema, if_neg, List.length_map, length]
  · rfl
  · rintro ⟨-, raises⟩
    rw [← List.map_take, List.any_map] at raises
    obtain ⟨fields, -, wrong⟩ := List.any_eq_true.mp raises
    cases wrong

end

end

end Onpremai.Preprocessor.SchemaDetector

/-!
## Faithful schemas

A stored schema is faithful to its table when it counts the records, names every field that
occurs in one of them, and gives a type to exactly its columns.  Worksheets and delimited files
always have faithful schemas; a list of objects is cut, and described by its first object alone.
-/

namespace Onpremai.Preprocessor.SchemaDetector

open Onpremai.Library

/-- A table of a file: the names of the fields that occur in each of its records. -/
structure GivenTable where
  records : List (List String)
  deriving DecidableEq, Repr

/-- The schema says of its table what is so. -/
structure IsFaithful (table : GivenTable) (schema : DetectedSchema) : Prop where
  rowCount : schema.rowCount = table.records.length
  columns : ∀ record ∈ table.records, ∀ field ∈ record, field ∈ schema.columns
  types : ∀ column, column ∈ schema.columnTypes.keys ↔ column ∈ schema.columns

def worksheetTable (services : SchemaServices) (header : List CellValue)
    (rows : List (List CellValue)) : GivenTable where
  records := rows.map fun cells =>
    ((columnNames services header).zip cells).map Prod.fst

def delimitedTable (rows : List (List String)) : GivenTable where
  records := (Delimited.records rows).2.map fun record => record.keys.filterMap id

def objectsTable (objects : List (List (Option String × CellValue))) : GivenTable where
  records := objects.map fun fields => fields.filterMap Prod.fst

/-- The tables of a file, as its format is read. -/
inductive Given (services : SchemaServices) (fileBytes : Bytes) : FileType → List GivenTable → Prop
  | delimited {rows : List (List String)} (read : readRows services fileBytes = .ok rows) :
      Given services fileBytes .csv [delimitedTable rows]
  | workbook {worksheets : List (String × Option (List CellValue × List (List CellValue)))}
      (read : services.loadWorkbook fileBytes = .ok worksheets) :
      Given services fileBytes .excel (worksheets.filterMap fun worksheet =>
        worksheet.2.map fun rows => worksheetTable services rows.1 rows.2)
  | objects {first : List (Option String × CellValue)}
      {rest : List (List (Option String × CellValue))}
      (read : services.loadsUtf8 fileBytes = .ok (.list ((first :: rest).map .dict))) :
      Given services fileBytes .json [objectsTable (first :: rest)]

def StoresFaithfully (services : SchemaServices) (fileType : FileType) (fileBytes : Bytes)
    (tables : List GivenTable) : Prop :=
  ∃ schemas, storedSheets services fileType fileBytes = .ok schemas ∧
    List.Forall₂ IsFaithful tables schemas

/-- A list of objects that is not cut, and whose first object has all fields. -/
structure IsCovered (table : GivenTable) : Prop where
  length : table.records.length ≤ 1000
  fields : ∀ record ∈ table.records, ∀ field ∈ record, field ∈ table.records.head?.getD []

section

variable (services : SchemaServices)

theorem faithful_worksheet (header : List CellValue) (rows : List (List CellValue))
    (name : String) :
    IsFaithful (worksheetTable services header rows)
      (schemaOf services (columnNames services header)
        (rows.map fun cells => (sheetRow (columnNames services header) cells).entries) name) where
  rowCount := by rw [schemaOf, worksheetTable, List.length_map, List.length_map]
  columns := by
    intro record inside field member
    obtain ⟨cells, -, rfl⟩ := List.mem_map.mp inside
    obtain ⟨entry, zipped, rfl⟩ := List.mem_map.mp member
    exact (List.of_mem_zip zipped).1
  types := mem_keys_schemaOf services _ _ _

theorem faithful_delimited (rows : List (List String)) : IsFaithful (delimitedTable rows)
      (schemaOf services (Delimited.records rows).1
        ((Delimited.records rows).2.map fun record =>
          record.entries.map fun entry => (entry.1, cellOf entry.2)) "data") where
  rowCount := by rw [schemaOf, delimitedTable, List.length_map, List.length_map]
  columns := by
    intro record inside field member
    obtain ⟨found, listed, rfl⟩ := List.mem_map.mp inside
    obtain ⟨key, named, same⟩ := List.mem_filterMap.mp member
    rw [id_eq] at same
    rw [same] at named
    cases rows with
    | nil => cases listed
    | cons header rest =>
      obtain ⟨row, -, rfl⟩ := List.mem_map.mp listed
      exact Delimited.mem_header_of_record named
  types := mem_keys_schemaOf services _ _ _

theorem storedSheets_delimited {fileBytes : Bytes} {rows : List (List String)}
    (read : readRows services fileBytes = .ok rows) :
    storedSheets services .csv fileBytes = .ok [schemaOf services (Delimited.records rows).1
        ((Delimited.records rows).2.map fun record =>
          record.entries.map fun entry => (entry.1, cellOf entry.2)) "data"] := by
  rw [storedSheets, parseCsv, read, ok_bind]
  have detected := detectSchema_eq services (Delimited.records rows).1
    ((Delimited.records rows).2.map fun record =>
      record.entries.map fun entry => (entry.1, cellOf entry.2)) "data"
  rw [List.map_map] at detected
  exact congrArg (fun schema => schema >>= fun schema => Except.ok [schema]) detected

def worksheetSchema (name : String) (rows : List CellValue × List (List CellValue)) :
    DetectedSchema :=
  schemaOf services (columnNames services rows.1)
    (rows.2.map fun cells => (sheetRow (columnNames services rows.1) cells).entries) name

theorem storedSheets_workbook {fileBytes : Bytes}
    {worksheets : List (String × Option (List CellValue × List (List CellValue)))}
    (read : services.loadWorkbook fileBytes = .ok worksheets) :
    storedSheets services .excel fileBytes =
      .ok (worksheets.filterMap fun worksheet =>
        worksheet.2.map (worksheetSchema services worksheet.1)) := by
  rw [storedSheets, parseExcel, read, ok_bind]
  apply filterMapM_of_ok
  intro worksheet _
  cases worksheet.2 with
  | none => rfl
  | some rows =>
    have detected := detectSchema_eq services (columnNames services rows.1)
      (rows.2.map fun cells => (sheetRow (columnNames services rows.1) cells).entries)
        worksheet.1
    rw [List.map_map] at detected
    exact congrArg (fun schema => schema >>= fun schema => Except.ok (some schema)) detected

theorem faithful_workbook
    (worksheets : List (String × Option (List CellValue × List (List CellValue)))) :
    List.Forall₂ IsFaithful
      (worksheets.filterMap fun worksheet =>
        worksheet.2.map fun rows => worksheetTable services rows.1 rows.2)
      (worksheets.filterMap fun worksheet =>
        worksheet.2.map (worksheetSchema services worksheet.1)) := by
  induction worksheets with
  | nil => exact .nil
  | cons worksheet rest ih =>
    rw [List.filterMap_cons, List.filterMap_cons]
    cases worksheet.2 with
    | none => exact ih
    | some rows => exact .cons (faithful_worksheet services rows.1 rows.2 worksheet.1) ih

theorem storedSheets_objects {fileBytes : Bytes} (first : List (Option String × CellValue))
    (rest : List (List (Option String × CellValue)))
    (read : services.loadsUtf8 fileBytes = .ok (.list ((first :: rest).map .dict))) :
    storedSheets services .json fileBytes =
      .ok [schemaOf services (first.filterMap Prod.fst) ((first :: rest).take 1000) "root"] := by
  rw [storedSheets, processJson, read, List.map_cons]
  dsimp only
  rw [← List.map_cons, ← List.map_take, detectSchema_eq, ok_bind]
  rfl

theorem faithful_objects_iff (first : List (Option String × CellValue))
    (rest : List (List (Option String × CellValue))) :
    IsFaithful (objectsTable (first :: rest))
        (schemaOf services (first.filterMap Prod.fst) ((first :: rest).take 1000) "root") ↔
      IsCovered (objectsTable (first :: rest)) := by
  have count : (schemaOf services (first.filterMap Prod.fst) ((first :: rest).take 1000)
      "root").rowCount = min 1000 (first :: rest).length := List.length_take
  have records : (objectsTable (first :: rest)).records.length = (first :: rest).length :=
    List.length_map _
  constructor
  · intro faithful
    refine ⟨?_, faithful.columns⟩
    have same := faithful.rowCount
    omega
  · intro covered
    refine ⟨?_, covered.fields, mem_keys_schemaOf services _ _ _⟩
    have short := covered.length
    omega

end

/-- The stored schemas are faithful, but for a list of objects that is cut or whose first object
lacks a field. -/
theorem storesFaithfully_iff {services : SchemaServices} {fileBytes : Bytes} {fileType : FileType}
    {tables : List GivenTable} (given : Given services fileBytes fileType tables) :
    StoresFaithfully services fileType fileBytes tables ↔
      (fileType = .json → ∀ table ∈ tables, IsCovered table) := by
  cases given with
  | @delimited rows read =>
    refine iff_of_true ⟨_, storedSheets_delimited services read, ?_⟩ nofun
    exact .cons (faithful_delimited services rows) .nil
  | @workbook worksheets read =>
    exact iff_of_true ⟨_, storedSheets_workbook services read, faithful_workbook services _⟩ nofun
  | @objects first rest read =>
    rw [StoresFaithfully, storedSheets_objects services first rest read]
    constructor
    · rintro ⟨schemas, same, faithful⟩ -
      cases same
      rw [List.forall₂_cons] at faithful
      rw [List.forall_mem_singleton]
      exact (faithful_objects_iff services first rest).mp faithful.1
    · intro covered
      have one := List.forall_mem_singleton.mp (covered rfl)
      exact ⟨_, rfl, .cons ((faithful_objects_iff services first rest).mpr one) .nil⟩

section

def bytesOf (text : String) : Bytes := text.toUTF8.toList

abbrev Fields := List (Option String × CellValue)

def ticketServices (text : String) (second : Fields) : SchemaServices where
  isDecimal := Char.isDigit
  readsInt := fun text => text.toInt?.isSome
  readsFloat := fun text => text.toInt?.isSome
  strOf := fun _ => ""
  sniff := fun _ => none
  loadWorkbook := fun _ => .error "File is not a zip file"
  loadsUtf8 := fun bytes =>
    if bytes = bytesOf text then .ok (.list [.dict [(some "id", .int 1)], .dict second])
    else .error "Expecting value"

def plainText : String := "[\x7b\"id\": 1\x7d, \x7b\"id\": 2\x7d]"

def plainTicket : Fields := [(some "id", .int 2)]

def ownedText : String := "[\x7b\"id\": 1\x7d, \x7b\"id\": 2, \"owner\": \"kim\"\x7d]"

def ownedTicket : Fields := [(some "id", .int 2), (some "owner", .text "kim")]

def ticketTable (second : Fields) : GivenTable := objectsTable [[(some "id", .int 1)], second]

theorem given_tickets (text : String) (second : Fields) :
    Given (ticketServices text second) (bytesOf text) .json [ticketTable second] :=
  .objects (if_pos rfl)

theorem storesFaithfully_iff_tickets :
    StoresFaithfully (ticketServices plainText plainTicket) .json (bytesOf plainText)
        [ticketTable plainTicket] ↔
      (FileType.json = .json → ∀ table ∈ [ticketTable plainTicket], IsCovered table) :=
  storesFaithfully_iff (given_tickets plainText plainTicket)

theorem owner_in_no_column : Given (ticketServices ownedText ownedTicket) (bytesOf ownedText) .json
        [ticketTable ownedTicket] ∧
      ¬ StoresFaithfully (ticketServices ownedText ownedTicket) .json (bytesOf ownedText)
        [ticketTable ownedTicket] := by
  refine ⟨given_tickets ownedText ownedTicket, ?_⟩
  rintro ⟨schemas, stored, faithful⟩
  rw [storedSheets_objects _ [(some "id", .int 1)] [ownedTicket] (if_pos rfl)] at stored
  cases stored
  rw [List.forall₂_cons] at faithful
  have named := faithful.1.columns ["id", "owner"] (by decide) "owner" (by decide)
  revert named
  decide

end

end Onpremai.Preprocessor.SchemaDetector
