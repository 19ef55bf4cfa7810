import Onpremai.Library.Dict

/-!
# Delimited texts

The rows of a text with delimiters, read character by character: a quoted field may hold the
delimiter, line breaks and doubled quotes.  The first row names the fields of the others.
-/

namespace Onpremai.Library.Delimited

/-- Where the reader stands. -/
inductive Mode where
  | startRecord
  | startField
  | inField
  | inQuotedField
  | quoteInQuotedField
  | eatLineBreak
  deriving DecidableEq, Repr

/-- A row while it is read.  The characters of the field stand in reverse. -/
structure Reader where
  fields : List String := []
  field : List Char := []
  mode : Mode := .startRecord
  deriving DecidableEq, Repr

def fieldLimit : Nat := 131072

namespace Reader

variable (delimiter : Char) (reader : Reader)

/-- The row with the field that ends here. -/
def saved : List String := reader.fields ++ [String.ofList reader.field.reverse]

def save (mode : Mode) : Reader where
  fields := reader.saved
  mode := mode

def add (char : Char) (mode : Mode) : Except String Reader :=
  if fieldLimit ≤ reader.field.length then .error "field larger than field limit (131072)"
  else .ok { reader with field := char :: reader.field, mode }

def beginField (char : Char) : Except String Reader :=
  if char = '"' then .ok { reader with mode := .inQuotedField }
  else if char = delimiter then .ok (reader.save .startField)
  else reader.add char .inField

def step (char : Char) : Except String Reader :=
  let isBreak := char = '\n' ∨ char = '\r'
  match reader.mode with
  | .startRecord =>
    if isBreak then .ok { reader with mode := .eatLineBreak }
    else reader.beginField delimiter char
  | .startField =>
    if isBreak then .ok (reader.save .eatLineBreak) else reader.beginField delimiter char
  | .inField =>
    if isBreak then .ok (reader.save .eatLineBreak)
    else if char = delimiter then .ok (reader.save .startField)
    else reader.add char .inField
  | .inQuotedField =>
    if char = '"' then .ok { reader with mode := .quoteInQuotedField }
    else reader.add char .inQuotedField
  | .quoteInQuotedField =>
    if char = '"' then reader.add char .inQuotedField
    else if char = delimiter then .ok (reader.save .startField)
    else if isBreak then .ok (reader.save .eatLineBreak)
    else reader.add char .inField
  | .eatLineBreak =>
    if isBreak then .ok reader
    else .error ("new-line character seen in unquoted field - " ++
      "do you need to open the file in universal-newline mode?")

def endLine : Reader :=
  match reader.mode with
  | .startRecord | .inQuotedField => reader
  | .startField | .inField | .quoteInQuotedField => reader.save .startRecord
  | .eatLineBreak => { reader with mode := .startRecord }

end Reader

/-- The lines of a text, each with its end. -/
def lines : List Char → List (List Char)
  | [] => []
  | char :: rest =>
    if char = '\n' then [char] :: lines rest
    else
      match lines rest with
      | [] => [[char]]
      | line :: more => (char :: line) :: more

def rowsFrom (delimiter : Char) : Reader → List (List Char) → Except String (List (List String))
  | reader, [] =>
    .ok (if reader.mode = .inQuotedField ∨ reader.field ≠ [] then [reader.saved] else [])
  | reader, line :: rest => do
    let reader ← line.foldlM (fun reader char => reader.step delimiter char) reader
    let reader := reader.endLine
    if reader.mode = .startRecord then
      let rows ← rowsFrom delimiter {} rest
      return reader.fields :: rows
    else rowsFrom delimiter reader rest

/-- `csv.reader`: the rows of a text; a blank line is a row without fields. -/
def rows (delimiter : Char) (text : String) : Except String (List (List String)) :=
  rowsFrom delimiter {} (lines text.toList)

/-- What a record holds under a name. -/
inductive Field where
  | text (value : String)
  | rest (values : List String)
  | missing
  deriving DecidableEq, Repr

def record (header row : List String) : Dict (Option String) Field :=
  let named : Dict (Option String) Field := Dict.ofList ((header.map some).zip (row.map .text))
  if header.length < row.length then named.set none (.rest (row.drop header.length))
  else named.setAll ((header.drop row.length).map fun name => (some name, .missing))

/-- `csv.DictReader`: the header and the records; rows without fields are skipped. -/
def records : List (List String) → List String × List (Dict (Option String) Field)
  | [] => ([], [])
  | header :: rest => (header, (rest.filter fun row => !row.isEmpty).map (record header))

theorem mem_header_of_record {header row : List String} {name : String}
    (inside : some name ∈ (record header row).keys) : name ∈ header := by
  have named : some name ∈ (Dict.ofList ((header.map some).zip (row.map Field.text))).keys →
      name ∈ header := by
    intro inside
    obtain ⟨entry, zipped, same⟩ := List.mem_map.mp ((Dict.mem_keys_ofList _ _).mp inside)
    obtain ⟨column, found, equal⟩ := List.mem_map.mp (List.of_mem_zip zipped).1
    rw [← equal] at same
    exact Option.some.inj same ▸ found
  rw [record] at inside
  split at inside
  · rw [Dict.mem_keys_set] at inside
    exact named (inside.resolve_left (Option.some_ne_none name))
  · rcases (Dict.mem_keys_setAll _ _ _).mp inside with early | late
    · exact named early
    · simp only [List.map_map, List.mem_map, Function.comp_apply, Option.some.injEq] at late
      obtain ⟨column, found, rfl⟩ := late
      exact List.mem_of_mem_drop found

example : rows ',' "name,note\r\n\"a\",\"x \"\"y\"\",\nz\"\n\nb\n" =
    .ok [["name", "note"], ["a", "x \"y\",\nz"], [], ["b"]] := by
  decide

end Onpremai.Library.Delimited
