import Onpremai.Preprocessor.SoaText

/-!
# Sheets and text of one table

A table can be parsed from its sheet or from its text.  The text drops the empty headers before it
counts the columns, but not the empty cells, and the sheet finds a cell by the name of its column.
-/

namespace Onpremai.Preprocessor

open Onpremai.Library
open Onpremai.Library.Text (isSpace)

def recordOf (columns row : List String) : Record :=
  (Dict.ofList (columns.zip (row.map Json.str))).entries

def TextTable.sheet (table : TextTable) : SampledSheet where
  name := "data"
  columns := table.columns
  rowCount := table.rows.length
  sampleRows := table.rows.map (recordOf table.columns)

/-- The text and the sheet have the column of a field at the same place. -/
structure KeepsColumn (columns : List String) (field : SoaField) : Prop where
  leading : ∀ column ∈ columnsBefore columns field, Text.strip column ≠ ""
  unique : ∀ name ∈ findColumn columns field, name ∉ columnsAfter columns field

def KeepsHeader (delimiter : Char) (columns : List String) : Prop :=
  if findColumn columns .controlId = none then
    delimiter = '\t' → columns.length ≤ 1 ∨ ∃ column ∈ columns, Text.strip column ≠ ""
  else columns.length ≠ 1 ∧ ∀ field, findColumn columns field ≠ none → KeepsColumn columns field

def TextTable.Unruled (table : TextTable) (delimiter : Char) : Prop :=
  ∀ row ∈ table.rows, isRule (joinCells delimiter row) = true →
    Text.strip ((row[(columnsBefore table.columns .controlId).length]?).getD "") = ""

def TextTable.ReadsAlike (table : TextTable) (reprOf : Json → String) (delimiter : Char) : Prop :=
  parseFromText (table.text delimiter) = parseFromSheets reprOf [table.sheet]

section

variable {reprOf : Json → String} {columns row : List String} {field : SoaField} {name : String}

theorem matches_of_findColumn (found : findColumn columns field = some name) :
    field.matches (Text.strip name) = true :=
  @List.find?_some _ (fun column => field.matches (Text.strip column)) _ _ found

theorem fieldText_of_none {record : Record} (absent : findColumn columns field = none) :
    fieldText reprOf columns record field = "" := by
  rw [fieldText, absent]
  rfl

theorem fieldText_recordOf {before after : List String}
    (found : findColumn columns field = some name) (whole : columns = before ++ name :: after)
    (last : name ∉ after) (width : row.length = columns.length) :
    fieldText reprOf columns (recordOf columns row) field =
      Text.strip ((row[before.length]?).getD "") := by
  have inside : before.length < row.length := by
    rw [width, whole, List.length_append, List.length_cons]
    omega
  have split : row = row.take before.length ++ row[before.length] :: row.drop (before.length + 1) :=
    by rw [← List.drop_eq_getElem_cons inside, List.take_append_drop]
  have entries : columns.zip (row.map Json.str) =
      before.zip ((row.take before.length).map Json.str) ++ (name, .str row[before.length]) ::
        after.zip ((row.drop (before.length + 1)).map Json.str) := by
    have lengths : before.length = ((row.take before.length).map Json.str).length := by
      rw [List.length_map, List.length_take]
      omega
    calc
      columns.zip (row.map Json.str)
          = (before ++ name :: after).zip ((row.take before.length ++
              row[before.length] :: row.drop (before.length + 1)).map Json.str) := by
            rw [← split, ← whole]
      _ = _ := by rw [List.map_append, List.map_cons, List.zip_append lengths, List.zip_cons_cons]
  have cell : Json.field? name (recordOf columns row) = some (.str row[before.length]) := by
    rw [Json.field?_eq_findEntry, recordOf, entries]
    change (Dict.ofList _).get? name = _
    rw [Dict.ofList, Dict.setAll, List.foldl_append, List.foldl_cons]
    change (Dict.setAll _ _).get? name = _
    rw [Dict.get?_setAll_of_notMem, Dict.get?_set, if_pos rfl]
    intro later
    obtain ⟨entry, member, same⟩ := List.mem_map.mp later
    exact last (same ▸ (List.of_mem_zip (Prod.eta entry ▸ member)).1)
  rw [fieldText, found, Option.map_some, Option.getD_some, cellText, cell,
    List.getElem?_eq_getElem inside]
  rfl

theorem fieldText_of_keepsColumn (found : findColumn columns field = some name)
    (keeps : KeepsColumn columns field) (width : row.length = columns.length) :
    fieldText reprOf columns (recordOf columns row) field =
      Text.strip ((row[(columnsBefore columns field).length]?).getD "") := by
  obtain ⟨before, after, whole, start, rest⟩ := split_columns found
  rw [start]
  exact fieldText_recordOf found whole (rest ▸ keeps.unique name found) width

def textCell (columns row : List String) (field : SoaField) : String :=
  (((headersOf columns).findIdx? field.matches).bind fun index =>
    (row.map Text.strip)[index]?).getD ""

theorem strip_textCell : Text.strip (textCell columns row field) = textCell columns row field := by
  rw [textCell]
  cases (headersOf columns).findIdx? field.matches with
  | none =>
    rw [Option.bind_none, Option.getD_none]
    decide
  | some index =>
    rw [Option.bind_some, List.getElem?_map]
    cases row[index]? with
    | none => decide
    | some cell => exact Text.strip_strip cell

theorem textCell_of_some (found : findColumn columns field = some name) :
    textCell columns row field =
      Text.strip ((row[(headersOf (columnsBefore columns field)).length]?).getD "") := by
  rw [textCell, findIdx?_headersOf found, Option.bind_some, List.getElem?_map]
  cases row[(headersOf (columnsBefore columns field)).length]? with
  | none => decide
  | some cell => rfl

theorem textCell_of_none (absent : findColumn columns field = none) :
    textCell columns row field = "" := by
  rw [textCell, findIdx?_headersOf_of_none absent]
  rfl

def textRow (columns row : List String) : Option (String × SoaEntry) :=
  if textCell columns row .controlId = "" then none
  else
    some (textCell columns row .controlId, soaEntry (textCell columns row .applicable)
      (textCell columns row .justification) (textCell columns row .scope))

theorem readLine_joinCells {delimiter : Char} {controlIdx : Nat}
    (isDelimiter : delimiter ∈ delimiters) (plain : ∀ cell ∈ row, IsCell cell) (some : row ≠ [])
    (control : (positions columns).controlId = .some controlIdx) :
    readLine delimiter (positions columns) controlIdx (joinCells delimiter row) =
      if isRule (joinCells delimiter row) = true then [] else (textRow columns row).toList := by
  have trimmed : row.map trimCell = row.map Text.strip :=
    List.map_congr_left fun cell member => trimCell_of_isCell (plain cell member)
  have at_eq (field : SoaField) :
      (((positions columns).at field).bind fun index => (row.map Text.strip)[index]?).getD "" =
        textCell columns row field := by
    rw [positions, at_foldl_note, textCell]
  have controlCell : ((row.map Text.strip)[controlIdx]?).getD "" =
      textCell columns row .controlId := by
    rw [← at_eq, TextColumns.at, control, Option.bind_some]
  have applicable := at_eq .applicable
  have justification := at_eq .justification
  have scope := at_eq .scope
  simp only [TextColumns.at] at applicable justification scope
  rw [readLine, pieces_joinCells isDelimiter some plain, trimmed, lineEntry_eq, controlCell,
    strip_textCell, applicable, justification, scope, strip_textCell, strip_textCell, textRow]

theorem textRow_eq_rowEntry
    (keeps : ∀ field, findColumn columns field ≠ none → KeepsColumn columns field)
    (width : row.length = columns.length) :
    textRow columns row = rowEntry reprOf columns (recordOf columns row) := by
  have sameCell (field : SoaField) :
      textCell columns row field = fieldText reprOf columns (recordOf columns row) field := by
    cases found : findColumn columns field with
    | none => rw [textCell_of_none found, fieldText_of_none found]
    | some name =>
      have kept := keeps field (found ▸ Option.some_ne_none name)
      rw [textCell_of_some found, fieldText_of_keepsColumn found kept width,
        length_headersOf_eq_iff.mpr kept.leading]
  rw [textRow, sameCell, sameCell, sameCell, sameCell, rowEntry]

end

/-! ## Whole tables -/

section

variable {reprOf : Json → String} {delimiter : Char} {table : TextTable} {name : String}

theorem parseFromSheets_sheet : parseFromSheets reprOf [table.sheet] =
    .ofList (table.rows.flatMap fun row =>
      (rowEntry reprOf table.columns (recordOf table.columns row)).toList) := by
  rw [parseFromSheets, List.flatMap_singleton, sheetEntries_eq, TextTable.sheet,
    List.filterMap_map, List.filterMap_eq_flatMap_toList]
  rfl

theorem parseFromSheets_of_none (absent : findColumn table.columns .controlId = none) :
    parseFromSheets reprOf [table.sheet] = .empty := by
  have none : (table.rows.flatMap fun row =>
      (rowEntry reprOf table.columns (recordOf table.columns row)).toList) = [] := by
    refine List.flatMap_eq_nil_iff.mpr fun row _ => ?_
    rw [rowEntry, fieldText_of_none absent]
    rfl
  rw [parseFromSheets_sheet, none]
  rfl

theorem textEntries_of_none {columns lines : List String}
    (absent : findColumn columns .controlId = none) :
    textEntries delimiter columns lines = [] := by
  have control : (positions columns).controlId = none :=
    (at_foldl_note _ .controlId).trans (findIdx?_headersOf_of_none absent)
  rw [textEntries, control]
  rfl

theorem textEntries_rows (isTable : table.IsTable) (isDelimiter : delimiter ∈ delimiters)
    (found : findColumn table.columns .controlId = some name) :
    textEntries delimiter table.columns (table.rows.map (joinCells delimiter)) =
      table.rows.flatMap fun row => if isRule (joinCells delimiter row) = true then []
        else (textRow table.columns row).toList := by
  have control : (positions table.columns).controlId = _ :=
    (at_foldl_note _ .controlId).trans (findIdx?_headersOf found)
  obtain ⟨before, after, whole, -, -⟩ := split_columns found
  rw [textEntries, control, Option.map_some, Option.getD_some, List.flatMap_map]
  refine List.flatMap_congr fun row member => ?_
  rw [readLine_joinCells isDelimiter (isTable.cells row member) _ control]
  intro none
  have width := isTable.widths row member
  rw [none, whole, List.length_append, List.length_cons, List.length_nil] at width
  omega

section

variable {columns : List String} {field : SoaField}

theorem shown_header (found : findColumn columns field = some name) :
    ∃ char ∈ (joinCells delimiter columns).toList, isSpace char = false := by
  refine exists_joinCells ⟨name, List.mem_of_find?_eq_some found, fun blank => ?_⟩
  have named := matches_of_findColumn found
  rw [blank, matches_empty] at named
  cases named

theorem delimiter_mem_header
    (found : findColumn columns field = some name) (keeps : KeepsColumn columns field)
    (many : columns.length ≠ 1) :
    delimiter ∈ (joinCells delimiter columns).toList.dropWhile isSpace := by
  obtain ⟨before, after, whole, start, -⟩ := split_columns found
  have leading : ∀ column ∈ columns.head?, Text.strip column ≠ "" := by
    intro column isHead
    cases before with
    | nil =>
      rw [whole] at isHead
      have same : name = column := Option.some_inj.mp isHead
      intro blank
      have named := matches_of_findColumn found
      rw [same, blank, matches_empty] at named
      cases named
    | cons first others =>
      rw [whole] at isHead
      have same : first = column := Option.some_inj.mp isHead
      exact same ▸ keeps.leading first (start ▸ List.mem_cons_self)
  have length : 2 ≤ columns.length := by
    have lengths := congrArg List.length whole
    rw [List.length_append, List.length_cons] at lengths
    omega
  obtain ⟨column, others, first⟩ := List.exists_cons_of_length_pos (by omega : 0 < columns.length)
  rw [first, List.length_cons] at length
  obtain ⟨next, rest, second⟩ := List.exists_cons_of_length_pos (by omega : 0 < others.length)
  have nonblank := leading column (first ▸ rfl)
  rw [ne_eq, Text.strip_eq_empty_iff] at nonblank
  simp only [not_forall, Bool.not_eq_true, exists_prop] at nonblank
  rw [first, second, toList_joinCells_cons, Text.dropWhile_append_of_exists nonblank]
  exact List.mem_append_right _ List.mem_cons_self

end

theorem readsAlike_of_keepsHeader (isTable : table.IsTable) (isDelimiter : delimiter ∈ delimiters)
    (unruled : table.Unruled delimiter) (keeps : KeepsHeader delimiter table.columns) :
    table.ReadsAlike reprOf delimiter := by
  rw [KeepsHeader] at keeps
  rw [TextTable.ReadsAlike]
  split at keeps
  · next absent =>
    rw [parseFromSheets_of_none absent]
    by_cases shown : ∃ char ∈ (joinCells delimiter table.columns).toList, isSpace char = false
    · rw [parseFromText_text isTable isDelimiter shown, textEntries_of_none absent]
      split <;> rfl
    · have few : table.columns.length ≤ 1 := by
        by_contra many
        have blank : isSpace delimiter = true := by
          by_contra visible
          exact shown ⟨delimiter, delimiter_mem_joinCells (by omega),
            Bool.eq_false_iff.mpr visible⟩
        have isTab : delimiter = '\t' := by
          rcases List.mem_cons.mp isDelimiter with isPipe | other
          · exact absurd blank (isPipe ▸ by decide)
          · rcases List.mem_cons.mp other with isTab | isComma
            · exact isTab
            · exact absurd blank (List.mem_singleton.mp isComma ▸ by decide)
        rcases keeps isTab with few | named
        · exact many few
        · exact shown (exists_joinCells named)
      -- a table of one column has no delimiters
      apply parseFromText_of_undivided
      intro delim isDelim inside
      obtain newline | ⟨line, member, inLine⟩ := @mem_joinCells '\n' _ _ inside
      · exact newline_notMem_delimiters (newline ▸ isDelim)
      · obtain ⟨cells, isRow, same⟩ := List.mem_map.mp member
        rw [← same] at inLine
        rcases List.mem_cons.mp isRow with header | row
        · rw [header] at inLine
          exact undivided_joinCells few isTable.headers isDelim inLine
        · exact undivided_joinCells (isTable.widths cells row ▸ few) (isTable.cells cells row)
            isDelim inLine
  · next present =>
    obtain ⟨name, found⟩ := Option.ne_none_iff_exists'.mp present
    obtain ⟨many, kept⟩ := keeps
    rw [parseFromText_text isTable isDelimiter (shown_header found), if_pos,
      textEntries_rows isTable isDelimiter found, parseFromSheets_sheet]
    · refine congrArg _ (List.flatMap_congr fun row member => ?_)
      have width := isTable.widths row member
      rw [textRow_eq_rowEntry kept width]
      split
      · next rule =>
        rw [rowEntry, fieldText_of_keepsColumn found (kept .controlId present) width,
          unruled row member rule]
        rfl
      · rfl
    · exact delimiter_mem_header found (kept .controlId present) many

end

/-- A row that is empty but for two cells. -/
def markedRow (width place other : Nat) : List String :=
  ((List.replicate width "").set other "no").set place "x"

section

variable {width place other : Nat}

theorem length_markedRow : (markedRow width place other).length = width := by
  rw [markedRow, List.length_set, List.length_set, List.length_replicate]

theorem getD_markedRow (place_lt : place < width) (other_lt : other < width) (index : Nat) :
    ((markedRow width place other)[index]?).getD "" =
      if place = index then "x" else if other = index then "no" else "" := by
  rw [markedRow, List.getElem?_set, List.getElem?_set, List.getElem?_replicate, List.length_set,
    List.length_replicate]
  by_cases isPlace : place = index
  · rw [if_pos isPlace, if_pos place_lt, if_pos isPlace, Option.getD_some]
  · rw [if_neg isPlace, if_neg isPlace]
    by_cases isOther : other = index
    · rw [if_pos isOther, if_pos other_lt, if_pos isOther, Option.getD_some]
    · rw [if_neg isOther, if_neg isOther]
      split <;> rfl

theorem isCell_markedRow : ∀ cell ∈ markedRow width place other, IsCell cell := by
  have marks : IsCell "x" ∧ IsCell "no" ∧ IsCell "" := by decide
  intro cell member
  rcases List.mem_or_eq_of_mem_set member with inner | same
  · rcases List.mem_or_eq_of_mem_set inner with empty | same
    · rw [List.eq_of_mem_replicate empty]
      exact marks.2.2
    · exact same ▸ marks.2.1
  · exact same ▸ marks.1

theorem isRule_of_mem {line : String} {char : Char} (inside : char ∈ line.toList)
    (letter : (isSpace char || "|:-+".toList.contains char) = false) : isRule line = false := by
  rw [isRule, List.all_eq_false]
  refine ⟨char, ?_, Bool.eq_false_iff.mp letter⟩
  rw [Text.strip, String.toList_ofList]
  exact Text.mem_stripChars inside (Bool.or_eq_false_iff.mp letter).1

theorem isRule_markedRow {delimiter : Char} (place_lt : place < width) :
    isRule (joinCells delimiter (markedRow width place other)) = false := by
  have inside : "x" ∈ markedRow width place other := by
    rw [markedRow]
    apply List.mem_set
    rw [List.length_set, List.length_replicate]
    exact place_lt
  have letter : 'x' ∈ "x".toList := by decide
  exact isRule_of_mem (mem_joinCells_of_mem inside letter) (by decide)

end

/-! ## Headers that are not kept -/

theorem ofList_toList_injective {first second : Option (String × SoaEntry)}
    (same : Dict.ofList first.toList = Dict.ofList second.toList) : first = second := by
  have entries := congrArg Dict.entries same
  cases first with
  | none =>
    cases second with
    | none => rfl
    | some entry => cases entries
  | some entry =>
    cases second with
    | none => cases entries
    | some other => exact congrArg some (List.singleton_inj.mp entries)

section

variable {columns before after : List String} {field : SoaField} {name : String}

theorem exists_last (member : name ∈ columns) :
    ∃ before after, columns = before ++ name :: after ∧ name ∉ after := by
  obtain ⟨after, before, whole, last⟩ := List.eq_append_cons_of_mem (List.mem_reverse.mpr member)
  refine ⟨before.reverse, after.reverse, ?_, fun inside => last (List.mem_reverse.mp inside)⟩
  rw [← List.reverse_reverse columns, whole, List.reverse_append, List.reverse_cons,
    List.append_assoc, List.singleton_append]

theorem keepsColumn_of_place (found : findColumn columns field = some name)
    (whole : columns = before ++ name :: after) (last : name ∉ after)
    (place : (headersOf (columnsBefore columns field)).length = before.length) :
    KeepsColumn columns field := by
  obtain ⟨start, rest, split, isStart, isRest⟩ := split_columns found
  have most := length_headersOf_le start
  have first : start.length ≤ before.length := by
    by_contra later
    have here : name ∈ start := by
      have inStart : (before ++ [name]) <+: start := by
        have isPrefix : (before ++ [name]) <+: columns :=
          ⟨after, by rw [whole, List.append_assoc, List.singleton_append]⟩
        refine List.prefix_of_prefix_length_le isPrefix ⟨name :: rest, split.symm⟩ ?_
        rw [List.length_append, List.length_singleton]
        omega
      exact inStart.subset (List.mem_append_right _ (List.mem_singleton_self _))
    rw [← isStart] at here
    have unnamed := @List.mem_takeWhile_imp _
      (fun column => !field.matches (Text.strip column)) _ _ here
    rw [matches_of_findColumn found] at unnamed
    cases unnamed
  rw [isStart] at place
  obtain ⟨-, ends⟩ := List.append_inj (split.symm.trans whole) (by omega)
  refine ⟨?_, ?_⟩
  · rw [isStart]
    exact length_headersOf_eq_iff.mp (by omega)
  · intro other isOther
    rw [found] at isOther
    rw [isRest, ← Option.some_inj.mp isOther, (List.cons.inj ends).2]
    exact last

end

def headedRow (width : Nat) (cell : String) : List String := cell :: List.replicate (width - 1) ""

theorem length_headedRow {width : Nat} {cell : String} (some : 0 < width) :
    (headedRow width cell).length = width := by
  rw [headedRow, List.length_cons, List.length_replicate]
  omega

theorem isCell_headedRow {width : Nat} {cell : String} (isCell : IsCell cell) :
    ∀ other ∈ headedRow width cell, IsCell other := by
  have empty : IsCell "" := by decide
  refine List.forall_mem_cons.mpr ⟨isCell, fun other member => ?_⟩
  exact List.eq_of_mem_replicate member ▸ empty

theorem parseFromText_headedRow {delimiter : Char} {width : Nat}
    (isDelimiter : delimiter ∈ delimiters) (many : 2 ≤ width) :
    parseFromText
      (TextTable.text ⟨headedRow width "id", [headedRow width "x"]⟩ delimiter) ≠ .empty := by
  have named : SoaField.controlId.matches (Text.strip "id") = true := by decide
  have found : findColumn (headedRow width "id") .controlId = some "id" :=
    List.find?_cons_of_pos named
  have before : columnsBefore (headedRow width "id") .controlId = [] := by
    rw [columnsBefore, headedRow, List.takeWhile_cons_of_neg]
    rw [named]
    decide
  have keeps : KeepsColumn (headedRow width "id") .controlId := by
    refine ⟨?_, ?_⟩
    · rw [before]
      exact fun column member => absurd member List.not_mem_nil
    · intro name isName later
      rw [found] at isName
      rw [columnsAfter, before, headedRow, List.length_nil, List.drop_succ_cons, List.drop_zero,
        ← Option.some_inj.mp isName] at later
      have empty := List.eq_of_mem_replicate later
      revert empty
      decide
  have sizes : (headedRow width "id").length = width := length_headedRow (by omega)
  have isTable : TextTable.IsTable ⟨headedRow width "id", [headedRow width "x"]⟩ := by
    refine ⟨isCell_headedRow (by decide), ?_, ?_⟩
    · exact List.forall_mem_singleton.mpr (isCell_headedRow (by decide))
    · exact List.forall_mem_singleton.mpr ((length_headedRow (by omega)).trans sizes.symm)
  have letter : 'x' ∈ "x".toList := by decide
  have unruled : isRule (joinCells delimiter (headedRow width "x")) = false :=
    isRule_of_mem (mem_joinCells_of_mem List.mem_cons_self letter) (by decide)
  have cell : textCell (headedRow width "id") (headedRow width "x") .controlId = "x" := by
    rw [textCell_of_some found, before]
    exact (by decide : Text.strip "x" = "x")
  have severed : (headedRow width "id").length ≠ 1 := by
    rw [sizes]
    omega
  rw [parseFromText_text isTable isDelimiter (shown_header found),
    if_pos (delimiter_mem_header found keeps severed), textEntries_rows isTable isDelimiter found,
    List.flatMap_singleton, unruled, if_neg Bool.false_ne_true, textRow, cell,
    if_neg (by decide)]
  exact fun same => List.cons_ne_nil _ _ (congrArg Dict.entries same)

section

variable {reprOf : Json → String} {delimiter : Char} {columns : List String}
  (isDelimiter : delimiter ∈ delimiters) (headers : ∀ column ∈ columns, IsCell column)
  (alike : ∀ rows, TextTable.IsTable ⟨columns, rows⟩ → TextTable.Unruled ⟨columns, rows⟩ delimiter →
    TextTable.ReadsAlike ⟨columns, rows⟩ reprOf delimiter)

include isDelimiter headers alike

theorem rowEntry_of_alike {name : String} {row : List String}
    (found : findColumn columns .controlId = some name) (plain : ∀ cell ∈ row, IsCell cell)
    (width : row.length = columns.length) (unruled : isRule (joinCells delimiter row) = false) :
    rowEntry reprOf columns (recordOf columns row) =
      if delimiter ∈ (joinCells delimiter columns).toList.dropWhile isSpace then
        textRow columns row else none := by
  have isTable : TextTable.IsTable ⟨columns, [row]⟩ :=
    ⟨headers, List.forall_mem_singleton.mpr plain, List.forall_mem_singleton.mpr width⟩
  have noRules : TextTable.Unruled ⟨columns, [row]⟩ delimiter := by
    refine List.forall_mem_singleton.mpr fun rule => ?_
    rw [unruled] at rule
    cases rule
  have same := alike [row] isTable noRules
  rw [TextTable.ReadsAlike, parseFromText_text isTable isDelimiter (shown_header found),
    textEntries_rows isTable isDelimiter found, parseFromSheets_sheet, List.flatMap_singleton,
    List.flatMap_singleton, unruled, if_neg Bool.false_ne_true] at same
  apply ofList_toList_injective
  rw [← same]
  split <;> rfl

theorem control_of_alike {before after : List String} {name : String}
    (found : findColumn columns .controlId = some name)
    (whole : columns = before ++ name :: after) (last : name ∉ after) :
    delimiter ∈ (joinCells delimiter columns).toList.dropWhile isSpace ∧
      (headersOf (columnsBefore columns .controlId)).length = before.length := by
  have inside : before.length < columns.length := by
    rw [whole, List.length_append, List.length_cons]
    omega
  have marked := getD_markedRow inside inside
  have entry := rowEntry_of_alike isDelimiter headers alike found
    (@isCell_markedRow _ before.length before.length) length_markedRow (isRule_markedRow inside)
  have cell : fieldText reprOf columns
      (recordOf columns (markedRow columns.length before.length before.length)) .controlId =
        "x" := by
    rw [fieldText_recordOf found whole last length_markedRow, marked, if_pos rfl]
    decide
  rw [rowEntry, cell, if_neg (by decide)] at entry
  split at entry
  · next divided =>
    refine ⟨divided, ?_⟩
    by_contra apart
    have blank : textCell columns (markedRow columns.length before.length before.length)
        .controlId = "" := by
      rw [textCell_of_some found, marked, if_neg (Ne.symm apart), if_neg (Ne.symm apart)]
      decide
    rw [textRow, if_pos blank] at entry
    cases entry
  · cases entry

theorem place_of_alike {before after start rest : List String} {field : SoaField}
    {name control : String} (present : findColumn columns .controlId = some control)
    (split : columns = start ++ control :: rest) (lastControl : control ∉ rest)
    (found : findColumn columns field = some name) (whole : columns = before ++ name :: after)
    (last : name ∉ after) (other : field ≠ .controlId) :
    (headersOf (columnsBefore columns field)).length = before.length := by
  have inside : before.length < columns.length := by
    rw [whole, List.length_append, List.length_cons]
    omega
  have insideControl : start.length < columns.length := by
    rw [split, List.length_append, List.length_cons]
    omega
  have different : start.length ≠ before.length := by
    intro same
    obtain ⟨-, ends⟩ := List.append_inj (split.symm.trans whole) same
    have sameName : control = name := (List.cons.inj ends).1
    exact other (field_unique (matches_of_findColumn found)
      (sameName ▸ matches_of_findColumn present))
  obtain ⟨divided, place⟩ := control_of_alike isDelimiter headers alike present split lastControl
  let row := markedRow columns.length start.length before.length
  have marked : ∀ index, (row[index]?).getD "" = _ := getD_markedRow insideControl inside
  have entry := rowEntry_of_alike isDelimiter headers alike present
    (isCell_markedRow : ∀ cell ∈ row, IsCell cell) length_markedRow (isRule_markedRow insideControl)
  have sheetControl : fieldText reprOf columns (recordOf columns row) .controlId = "x" := by
    rw [fieldText_recordOf present split lastControl length_markedRow, marked, if_pos rfl]
    decide
  have textControl : textCell columns row .controlId = "x" := by
    rw [textCell_of_some present, place, marked, if_pos rfl]
    decide
  have sheetCell : fieldText reprOf columns (recordOf columns row) field = "no" := by
    rw [fieldText_recordOf found whole last length_markedRow, marked, if_neg different, if_pos rfl]
    decide
  by_contra apart
  have textOther : textCell columns row field = "x" ∨ textCell columns row field = "" := by
    rw [textCell_of_some found, marked]
    split
    · exact .inl (by decide)
    · rw [if_neg (Ne.symm apart)]
      exact .inr (by decide)
  rw [rowEntry, sheetControl, if_neg (by decide), if_pos divided, textRow, textControl,
    if_neg (by decide), Option.some_inj, Prod.mk.injEq] at entry
  obtain ⟨-, entry⟩ := entry
  have applicable := congrArg SoaEntry.applicable entry
  have justification := congrArg SoaEntry.justification entry
  have scope := congrArg SoaEntry.scope entry
  simp only [soaEntry] at applicable justification scope
  cases field with
  | controlId => exact other rfl
  | applicable =>
    rw [sheetCell] at applicable
    rcases textOther with marks | blank
    · rw [marks] at applicable
      revert applicable
      decide
    · rw [blank] at applicable
      revert applicable
      decide
  | justification =>
    rw [sheetCell] at justification
    rw [← justification] at textOther
    revert textOther
    decide
  | scope =>
    rw [sheetCell] at scope
    rw [← scope] at textOther
    revert textOther
    decide

theorem keepsColumns_of_alike {control : String}
    (present : findColumn columns .controlId = some control) :
    columns.length ≠ 1 ∧ ∀ field, findColumn columns field ≠ none → KeepsColumn columns field := by
  obtain ⟨start, rest, split, lastControl⟩ := exists_last (List.mem_of_find?_eq_some present)
  obtain ⟨divided, place⟩ := control_of_alike isDelimiter headers alike present split lastControl
  refine ⟨fun one => ?_, fun field some => ?_⟩
  · exact undivided_joinCells (Nat.le_of_eq one) headers isDelimiter
      ((List.dropWhile_suffix isSpace).subset divided)
  · obtain ⟨name, found⟩ := Option.ne_none_iff_exists'.mp some
    obtain ⟨before, after, whole, last⟩ := exists_last (List.mem_of_find?_eq_some found)
    by_cases isControl : field = .controlId
    · rw [isControl] at found ⊢
      have sameName : control = name := Option.some_inj.mp (present.symm.trans found)
      exact keepsColumn_of_place present split lastControl place
    · exact keepsColumn_of_place found whole last (place_of_alike isDelimiter headers alike present
        split lastControl found whole last isControl)

theorem shown_of_alike (absent : findColumn columns .controlId = none)
    (isTab : delimiter = '\t') :
    columns.length ≤ 1 ∨ ∃ column ∈ columns, Text.strip column ≠ "" := by
  by_contra blank
  rw [not_or, not_exists] at blank
  obtain ⟨many, blank⟩ := blank
  have blankLine : ∀ char ∈ (joinCells delimiter columns).toList, isSpace char = true := by
    intro char inside
    obtain same | ⟨column, member, inColumn⟩ := mem_joinCells inside
    · rw [same, isTab]
      decide
    · have spaces : Text.strip column = "" := not_not.mp fun shown => blank column ⟨member, shown⟩
      exact Text.strip_eq_empty_iff.mp spaces char inColumn
  let rows := [headedRow columns.length "id", headedRow columns.length "x"]
  have isTable : TextTable.IsTable ⟨columns, rows⟩ := by
    have sizes (cell : String) : (headedRow columns.length cell).length = columns.length :=
      length_headedRow (by omega)
    refine ⟨headers, ?_, ?_⟩
    · exact List.forall_mem_cons.mpr ⟨isCell_headedRow (by decide),
        List.forall_mem_singleton.mpr (isCell_headedRow (by decide))⟩
    · exact List.forall_mem_cons.mpr ⟨sizes _, List.forall_mem_singleton.mpr (sizes _)⟩
  have ruleless (cell : String) (letter : Char) (inside : letter ∈ cell.toList)
      (isLetter : (isSpace letter || "|:-+".toList.contains letter) = false) :
      isRule (joinCells delimiter (headedRow columns.length cell)) ≠ true := by
    have first : cell ∈ headedRow columns.length cell := List.mem_cons_self
    rw [isRule_of_mem (mem_joinCells_of_mem first inside) isLetter]
    exact Bool.false_ne_true
  have unruled : TextTable.Unruled ⟨columns, rows⟩ delimiter := by
    refine List.forall_mem_cons.mpr ⟨fun rule => ?_, List.forall_mem_singleton.mpr fun rule => ?_⟩
    · exact absurd rule (ruleless "id" 'd' (by decide) (by decide))
    · exact absurd rule (ruleless "x" 'x' (by decide) (by decide))
  have same := alike rows isTable unruled
  rw [TextTable.ReadsAlike, parseFromSheets_of_none absent] at same
  apply parseFromText_headedRow isDelimiter (by omega : 2 ≤ columns.length)
  rw [← same]
  apply parseFromText_congr
  exact (Text.strip_joinLines_of_blank_first (List.cons_ne_nil _ _) blankLine).symm

end

section

variable {reprOf : Json → String} {delimiter : Char} {columns : List String}

theorem readsAlike_iff_keepsHeader (isDelimiter : delimiter ∈ delimiters)
    (headers : ∀ column ∈ columns, IsCell column) :
    (∀ rows, TextTable.IsTable ⟨columns, rows⟩ → TextTable.Unruled ⟨columns, rows⟩ delimiter →
        TextTable.ReadsAlike ⟨columns, rows⟩ reprOf delimiter) ↔
      KeepsHeader delimiter columns := by
  constructor
  · intro alike
    rw [KeepsHeader]
    split
    · next absent => exact shown_of_alike isDelimiter headers alike absent
    · next present =>
      obtain ⟨control, found⟩ := Option.ne_none_iff_exists'.mp present
      exact keepsColumns_of_alike isDelimiter headers alike found
  · intro keeps rows isTable unruled
    exact readsAlike_of_keepsHeader isTable isDelimiter unruled keeps

/-- An empty header in front moves every cell of the text by one column. -/
theorem readsApart_of_empty_header :
    TextTable.IsTable ⟨["", "Control ID", "Status"], [["1", "A.5.1", "No"]]⟩ ∧
      ¬ TextTable.ReadsAlike ⟨["", "Control ID", "Status"], [["1", "A.5.1", "No"]]⟩
        (fun _ => "") '|' := by
  refine ⟨⟨by decide, by decide, by decide⟩, fun same => ?_⟩
  have entries := congrArg Dict.entries same
  revert entries
  decide

theorem readsAlike_of_plain_header :
    TextTable.ReadsAlike ⟨["Control ID", "Status", ""], [["A.5.1", "No", ""], ["", "Yes", "1"]]⟩
      (fun _ => "") '|' := by
  have keeps : KeepsHeader '|' ["Control ID", "Status", ""] := by
    rw [KeepsHeader, if_neg (by decide)]
    refine ⟨by decide, fun field present => ?_⟩
    cases field with
    | controlId => exact ⟨by decide, by decide⟩
    | applicable => exact ⟨by decide, by decide⟩
    | justification => exact absurd (by decide) present
    | scope => exact absurd (by decide) present
  apply (readsAlike_iff_keepsHeader (by decide) (by decide)).mpr keeps
  · exact ⟨by decide, by decide, by decide⟩
  · exact fun row member rule => absurd rule (by revert row; decide)

end

end Onpremai.Preprocessor
