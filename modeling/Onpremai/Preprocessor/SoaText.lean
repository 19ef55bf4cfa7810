import Onpremai.Preprocessor.SoaColumns

/-!
# Text of a table

A table of texts is written with a delimiter, one line for the header and one for each row.  What
is read of such a text is what its header and its rows say: stripping the whole text neither joins
two lines nor moves a cell.
-/

namespace Onpremai.Preprocessor

open Onpremai.Library
open Onpremai.Library.Text (isSpace)

/-! ## Tables of texts -/

def delimiters : List Char := ['|', '\t', ',']

def IsCell (cell : String) : Prop := ∀ char ∈ cell.toList, char ∉ delimiters ∧ char ≠ '\n'

instance (cell : String) : Decidable (IsCell cell) :=
  List.decidableBAll (fun char => char ∉ delimiters ∧ char ≠ '\n') cell.toList

/-- A table of texts. -/
structure TextTable where
  columns : List String
  rows : List (List String)
  deriving DecidableEq, Repr

/-- Every row has a cell for each column, and all headers and cells are without delimiters. -/
structure TextTable.IsTable (table : TextTable) : Prop where
  headers : ∀ column ∈ table.columns, IsCell column
  cells : ∀ row ∈ table.rows, ∀ cell ∈ row, IsCell cell
  widths : ∀ row ∈ table.rows, row.length = table.columns.length

/-- `delimiter.join(cells)`. -/
def joinCells (delimiter : Char) (cells : List String) : String :=
  String.ofList (List.intercalate [delimiter] (cells.map String.toList))

def TextTable.text (table : TextTable) (delimiter : Char) : String :=
  Text.joinLines ((table.columns :: table.rows).map (joinCells delimiter))

section

variable {delimiter : Char} {cells : List String}

theorem newline_notMem_delimiters : '\n' ∉ delimiters := by decide

theorem trimCell_of_isCell {cell : String} (isCell : IsCell cell) :
    trimCell cell = Text.strip cell := by
  rw [trimCell, Text.stripChars_eq_self, String.ofList_toList, Text.strip_strip]
  intro char inside
  rw [Text.strip, String.toList_ofList] at inside
  have allowed := (isCell char (Text.stripChars_subset inside)).1
  rw [beq_eq_false_iff_ne]
  intro isPipe
  exact allowed (isPipe ▸ List.mem_cons_self)

theorem pieces_joinCells (isDelimiter : delimiter ∈ delimiters) (some : cells ≠ [])
    (plain : ∀ cell ∈ cells, IsCell cell) :
    Text.pieces delimiter (joinCells delimiter cells) = cells := by
  rw [Text.pieces, joinCells, String.toList_ofList, List.splitOn_intercalate, List.map_map]
  · exact List.map_id'' (fun cell => String.ofList_toList) cells
  · rw [List.forall_mem_map]
    exact fun cell member inside => (plain cell member delimiter inside).1 isDelimiter
  · exact fun none => some (List.map_eq_nil_iff.mp none)

theorem toList_joinCells_cons (cell next : String) (rest : List String) :
    (joinCells delimiter (cell :: next :: rest)).toList =
      cell.toList ++ delimiter :: (joinCells delimiter (next :: rest)).toList := by
  simp [joinCells, List.intercalate_cons_cons]

theorem mem_joinCells {char : Char} (inside : char ∈ (joinCells delimiter cells).toList) :
    char = delimiter ∨ ∃ cell ∈ cells, char ∈ cell.toList := by
  induction cells with
  | nil => cases inside
  | cons cell rest ih =>
    cases rest with
    | nil =>
      refine .inr ⟨cell, List.mem_singleton_self _, ?_⟩
      simpa [joinCells] using inside
    | cons next rest =>
      rw [toList_joinCells_cons, List.mem_append, List.mem_cons] at inside
      rcases inside with inCell | isDelimiter | later
      · exact .inr ⟨cell, List.mem_cons_self, inCell⟩
      · exact .inl isDelimiter
      · obtain same | ⟨other, member, inOther⟩ := ih later
        · exact .inl same
        · exact .inr ⟨other, List.mem_cons_of_mem _ member, inOther⟩

theorem mem_joinCells_of_mem {cell : String} {char : Char} (member : cell ∈ cells)
    (inside : char ∈ cell.toList) : char ∈ (joinCells delimiter cells).toList := by
  induction cells with
  | nil => cases member
  | cons first rest ih =>
    cases rest with
    | nil =>
      rw [List.mem_singleton.mp member] at inside
      simpa [joinCells] using inside
    | cons next rest =>
      rw [toList_joinCells_cons, List.mem_append, List.mem_cons]
      rcases List.mem_cons.mp member with here | there
      · exact .inl (here ▸ inside)
      · exact .inr (.inr (ih there))

theorem delimiter_mem_joinCells (many : 2 ≤ cells.length) :
    delimiter ∈ (joinCells delimiter cells).toList := by
  obtain ⟨cell, others, whole⟩ := List.exists_cons_of_length_pos (by omega : 0 < cells.length)
  rw [whole, List.length_cons] at many
  obtain ⟨next, rest, more⟩ := List.exists_cons_of_length_pos (by omega : 0 < others.length)
  rw [whole, more, toList_joinCells_cons]
  exact List.mem_append_right _ List.mem_cons_self

theorem undivided_joinCells {delim : Char} (few : cells.length ≤ 1)
    (plain : ∀ cell ∈ cells, IsCell cell) (isDelimiter : delim ∈ delimiters) :
    delim ∉ (joinCells delimiter cells).toList := by
  cases cells with
  | nil => exact List.not_mem_nil
  | cons cell rest =>
    intro inside
    have single : rest = [] := by
      rw [List.length_cons] at few
      exact List.length_eq_zero_iff.mp (by omega)
    have inCell : delim ∈ cell.toList := by simpa [joinCells, single] using inside
    exact (plain cell List.mem_cons_self delim inCell).1 isDelimiter

theorem isLine_joinCells (isDelimiter : delimiter ∈ delimiters)
    (plain : ∀ cell ∈ cells, IsCell cell) : Text.IsLine (joinCells delimiter cells) := by
  intro inside
  obtain same | ⟨cell, member, inCell⟩ := mem_joinCells inside
  · exact newline_notMem_delimiters (same ▸ isDelimiter)
  · exact (plain cell member '\n' inCell).2 rfl

theorem exists_joinCells (shown : ∃ cell ∈ cells, Text.strip cell ≠ "") :
    ∃ char ∈ (joinCells delimiter cells).toList, isSpace char = false := by
  obtain ⟨cell, member, nonblank⟩ := shown
  rw [ne_eq, Text.strip_eq_empty_iff] at nonblank
  simp only [not_forall, Bool.not_eq_true] at nonblank
  obtain ⟨char, inside, visible⟩ := nonblank
  exact ⟨char, mem_joinCells_of_mem member inside, visible⟩

end

theorem lineEntry_eq (found : TextColumns) (controlIdx : Nat) (cells : List String) :
    lineEntry found controlIdx cells =
      if Text.strip ((cells[controlIdx]?).getD "") = "" then none
      else some (Text.strip ((cells[controlIdx]?).getD ""),
        soaEntry ((found.applicable.bind fun index => cells[index]?).getD "")
          (Text.strip ((found.justification.bind fun index => cells[index]?).getD ""))
          (Text.strip ((found.scope.bind fun index => cells[index]?).getD ""))) := by
  rw [lineEntry]
  split
  · next short =>
    rw [List.getElem?_eq_none short, Option.getD_none, if_pos (by decide)]
  · rfl

def readLine (delimiter : Char) (found : TextColumns) (controlIdx : Nat) (line : String) :
    List (String × SoaEntry) :=
  if isRule line then []
  else (lineEntry found controlIdx ((Text.pieces delimiter line).map trimCell)).toList

theorem flatMap_readLine (delimiter : Char) (found : TextColumns) (controlIdx : Nat)
    (lines : List String) :
    (lines.filter fun line => !isRule line).filterMap (fun line =>
        lineEntry found controlIdx ((Text.pieces delimiter line).map trimCell)) =
      lines.flatMap (readLine delimiter found controlIdx) := by
  induction lines with
  | nil => rfl
  | cons line rest ih =>
    rw [List.flatMap_cons, ← ih, readLine]
    by_cases rule : isRule line = true
    · rw [if_pos rule, List.nil_append, List.filter_cons, rule]
      rfl
    · have plain : (!isRule line) = true := by
        rw [Bool.eq_false_iff.mpr rule]
        rfl
      rw [if_neg rule, List.filter_cons, if_pos plain, List.filterMap_cons]
      cases lineEntry found controlIdx ((Text.pieces delimiter line).map trimCell) with
      | none => rfl
      | some entry => rfl

theorem lineEntry_append_empty (found : TextColumns) (controlIdx : Nat) (cells : List String) :
    lineEntry found controlIdx (cells ++ [""]) = lineEntry found controlIdx cells := by
  have cellAt (index : Nat) : ((cells ++ [""])[index]?).getD "" = (cells[index]?).getD "" := by
    rw [List.getElem?_append]
    split
    · rfl
    · next beyond =>
      rw [List.getElem?_eq_none (Nat.le_of_not_lt beyond)]
      cases index - cells.length with
      | zero => rfl
      | succ more => rfl
  have columnAt (column : Option Nat) : (column.bind fun index => (cells ++ [""])[index]?).getD "" =
        (column.bind fun index => cells[index]?).getD "" := by
    cases column with
    | none => rfl
    | some index => exact cellAt index
  rw [lineEntry_eq, lineEntry_eq, cellAt, columnAt, columnAt, columnAt]

theorem trimCell_append_singleton {chars : List Char} {space : Char}
    (isSpace : isSpace space = true) :
    trimCell (String.ofList (chars ++ [space])) = trimCell (String.ofList chars) := by
  rw [trimCell, Text.strip_append_singleton isSpace, trimCell]

section

variable {delimiter : Char} {found : TextColumns} {controlIdx : Nat} {chars : List Char}
  {space : Char}

theorem lineEntry_append_singleton (isSpace : isSpace space = true) : lineEntry found controlIdx
        ((Text.pieces delimiter (String.ofList (chars ++ [space]))).map trimCell) =
      lineEntry found controlIdx ((Text.pieces delimiter (String.ofList chars)).map trimCell) := by
  simp only [Text.pieces, String.toList_ofList]
  by_cases same : space = delimiter
  · have empty : trimCell (String.ofList []) = "" := by decide
    rw [same, List.splitOn_append_cons_self, List.splitOn_nil, List.map_append, List.map_append,
      List.map_singleton, List.map_singleton, empty, lineEntry_append_empty]
  · obtain ⟨before, last, split, extended⟩ :=
      @Text.splitOn_append_singleton delimiter space chars same
    rw [split, extended]
    simp only [List.map_append, List.map_singleton, trimCell_append_singleton isSpace]

theorem readLine_append_singleton (isSpace : isSpace space = true) :
    readLine delimiter found controlIdx (String.ofList (chars ++ [space])) =
      readLine delimiter found controlIdx (String.ofList chars) := by
  rw [readLine, readLine, lineEntry_append_singleton isSpace, isRule, isRule,
    Text.strip_append_singleton isSpace]

end

theorem readLine_empty (delimiter : Char) (found : TextColumns) (controlIdx : Nat) :
    readLine delimiter found controlIdx "" = [] := by
  have rule : isRule "" = true := by decide
  rw [readLine, rule, if_pos rfl]

/-! ## The whole text -/

section

variable {delimiter : Char} {columns : List String}

theorem headersIn_joinCells (isDelimiter : delimiter ∈ delimiters) (some : columns ≠ [])
    (plain : ∀ column ∈ columns, IsCell column) :
    headersIn delimiter
        (String.ofList ((joinCells delimiter columns).toList.dropWhile isSpace)) =
      headersOf columns := by
  let read := fun piece => [trimCell piece].filter fun header => decide (header ≠ "")
  have asRead (line : String) :
      headersIn delimiter line = (Text.pieces delimiter line).flatMap read := by
    rw [headersIn, List.map_eq_flatMap, List.filter_flatMap]
  have empty : read "" = [] := by decide
  rw [asRead, Text.flatMap_pieces_dropWhile empty, String.ofList_toList,
    pieces_joinCells isDelimiter some plain, headersOf]
  · refine List.flatMap_congr fun column member => ?_
    change [trimCell column].filter _ = _
    rw [trimCell_of_isCell (plain column member), Text.shown, List.filter_singleton]
    split <;> simp_all
  · intro space chars isSpace
    change [trimCell _].filter _ = [trimCell _].filter _
    rw [trimCell, Text.strip_cons isSpace, trimCell]

def positions (columns : List String) : TextColumns :=
  (headersOf columns).zipIdx.foldl TextColumns.note {}

/-- The entries of the rows of a table. -/
def textEntries (delimiter : Char) (columns : List String) (lines : List String) :
    List (String × SoaEntry) :=
  ((positions columns).controlId.map fun controlIdx =>
    lines.flatMap (readLine delimiter (positions columns) controlIdx)).getD []

section

variable {firstLine : String} {rest : List String}

theorem parseLines_of_find (some : rest ≠ [])
    (divided : delimiters.find? (fun delim => firstLine.toList.contains delim) = .some delimiter)
    (headers : headersIn delimiter firstLine = headersOf columns) :
    parseLines (firstLine :: rest) = .ofList (textEntries delimiter columns rest) := by
  obtain ⟨second, others, more⟩ := List.exists_cons_of_ne_nil some
  have divided : ['|', '\t', ','].find? (fun delim => firstLine.toList.contains delim) =
      .some delimiter := divided
  rw [more, textEntries, positions]
  simp only [parseLines, divided, headers, flatMap_readLine]
  cases ((headersOf columns).zipIdx.foldl TextColumns.note {}).controlId with
  | none => rfl
  | some controlIdx => rfl

theorem parseLines_of_notMem (undivided : ∀ delim ∈ delimiters, delim ∉ firstLine.toList) :
    parseLines (firstLine :: rest) = .empty := by
  have none : ['|', '\t', ','].find? (fun delim => firstLine.toList.contains delim) = none := by
    rw [List.find?_eq_none]
    intro delim member inside
    exact undivided delim member (List.contains_iff_mem.mp inside)
  cases rest with
  | nil => rfl
  | cons second others => simp only [parseLines, none]

end

section

variable {text : String}

theorem parseFromText_of_isLine (isLine : Text.IsLine (Text.strip text)) :
    parseFromText text = .empty := by
  rw [parseFromText]
  split
  · rfl
  · rw [Text.lines_of_isLine isLine]
    rfl

theorem parseFromText_of_undivided
    (undivided : ∀ delim ∈ delimiters, delim ∉ text.toList) : parseFromText text = .empty := by
  rw [parseFromText]
  split
  · rfl
  · obtain ⟨first, rest, whole⟩ := List.exists_cons_of_ne_nil
      (fun none => List.splitOn_ne_nil _ _ (List.map_eq_nil_iff.mp none) :
        Text.lines (Text.strip text) ≠ [])
    rw [whole, parseLines_of_notMem]
    intro delim isDelim inside
    have inText := Text.mem_of_mem_lines (whole ▸ List.mem_cons_self) inside
    rw [Text.strip, String.toList_ofList] at inText
    exact undivided delim isDelim (Text.stripChars_subset inText)

theorem isLine_strip (isLine : Text.IsLine text) : Text.IsLine (Text.strip text) := by
  rw [Text.IsLine, Text.strip, String.toList_ofList]
  exact fun inside => isLine (Text.stripChars_subset inside)

theorem parseFromText_of_ne (some : Text.strip text ≠ "") :
    parseFromText text = parseLines (Text.lines (Text.strip text)) := by
  rw [parseFromText, if_neg]
  intro blank
  rcases blank with empty | blank
  · rw [empty] at some
    exact some (by decide)
  · exact some blank

end

theorem textEntries_of_blank {lines : List String}
    (blank : ∀ char ∈ (Text.joinLines lines).toList, isSpace char = true) :
    textEntries delimiter columns lines = [] := by
  rw [textEntries]
  cases (positions columns).controlId with
  | none => rfl
  | some controlIdx =>
    refine List.flatMap_eq_nil_iff.mpr fun line member => ?_
    have spaces : Text.strip line = "" := Text.strip_eq_empty_iff.mpr fun char inside =>
      blank char ((Text.infix_joinLines member).subset inside)
    have rule : isRule line = true := by
      rw [isRule, spaces]
      rfl
    rw [readLine, rule, if_pos rfl]

theorem textEntries_rdropWhile {lines : List String} (some : lines ≠ [])
    (areLines : ∀ line ∈ lines, Text.IsLine line) :
    textEntries delimiter columns
        (Text.lines (String.ofList ((Text.joinLines lines).toList.rdropWhile isSpace))) =
      textEntries delimiter columns lines := by
  rw [textEntries, textEntries]
  cases (positions columns).controlId with
  | none => rw [Option.map_none, Option.map_none]
  | some controlIdx =>
    rw [Option.map_some, Option.map_some, Option.getD_some, Option.getD_some,
      Text.lines_eq_pieces, Text.flatMap_pieces_rdropWhile (readLine_empty _ _ _),
      String.ofList_toList, ← Text.lines_eq_pieces, Text.lines_joinLines some areLines]
    exact fun space chars isSpace => readLine_append_singleton isSpace

theorem eq_of_mem_header {delim : Char} (plain : ∀ column ∈ columns, IsCell column)
    (isDelimiter : delim ∈ delimiters)
    (inside : delim ∈ (joinCells delimiter columns).toList.dropWhile isSpace) :
    delim = delimiter := by
  obtain same | ⟨cell, member, inCell⟩ :=
    mem_joinCells ((List.dropWhile_suffix isSpace).subset inside)
  · exact same
  · exact absurd isDelimiter (plain cell member delim inCell).1

theorem find?_delimiters {chars : List Char} (isDelimiter : delimiter ∈ delimiters)
    (divided : delimiter ∈ chars) (only : ∀ delim ∈ delimiters, delim ∈ chars → delim = delimiter) :
    delimiters.find? (fun delim => chars.contains delim) = some delimiter := by
  cases result : delimiters.find? fun delim => chars.contains delim with
  | none =>
    exact absurd (List.contains_iff_mem.mpr divided)
      (List.find?_eq_none.mp result delimiter isDelimiter)
  | some delim =>
    have contained : chars.contains delim = true :=
      @List.find?_some _ (fun delim => chars.contains delim) _ _ result
    rw [only delim (List.mem_of_find?_eq_some result) (List.contains_iff_mem.mp contained)]

theorem parseLines_header {rest : List String} (isDelimiter : delimiter ∈ delimiters)
    (plain : ∀ column ∈ columns, IsCell column) (someColumns : columns ≠ []) (some : rest ≠ []) :
    parseLines (String.ofList ((joinCells delimiter columns).toList.dropWhile isSpace) :: rest) =
      if delimiter ∈ (joinCells delimiter columns).toList.dropWhile isSpace then
        .ofList (textEntries delimiter columns rest)
      else .empty := by
  split
  · next divided =>
    apply parseLines_of_find some
    · rw [String.toList_ofList]
      exact find?_delimiters isDelimiter divided fun delim isDelim inside =>
        eq_of_mem_header plain isDelim inside
    · exact headersIn_joinCells isDelimiter someColumns plain
  · next undivided =>
    apply parseLines_of_notMem
    intro delim isDelim inside
    rw [String.toList_ofList] at inside
    exact undivided (eq_of_mem_header plain isDelim inside ▸ inside)

theorem parseFromText_congr {first second : String} (same : Text.strip first = Text.strip second) :
    parseFromText first = parseFromText second := by
  by_cases blank : Text.strip first = ""
  · rw [parseFromText, if_pos (.inr blank), parseFromText, if_pos (.inr (same ▸ blank))]
  · rw [parseFromText_of_ne blank, parseFromText_of_ne (same ▸ blank), same]

variable {table : TextTable}

theorem parseFromText_text (isTable : table.IsTable) (isDelimiter : delimiter ∈ delimiters)
    (shown : ∃ char ∈ (joinCells delimiter table.columns).toList, isSpace char = false) :
    parseFromText (table.text delimiter) =
      if delimiter ∈ (joinCells delimiter table.columns).toList.dropWhile isSpace then
        .ofList (textEntries delimiter table.columns (table.rows.map (joinCells delimiter)))
      else .empty := by
  have isHeader := isLine_joinCells isDelimiter isTable.headers
  have areLines : ∀ line ∈ table.rows.map (joinCells delimiter), Text.IsLine line :=
    List.forall_mem_map.mpr fun row member =>
      isLine_joinCells isDelimiter (isTable.cells row member)
  rw [TextTable.text, List.map_cons]
  by_cases blank : ∀ char ∈ (Text.joinLines (table.rows.map (joinCells delimiter))).toList,
      isSpace char = true
  · -- only the header is left, and the rows have no entries
    rw [parseFromText_of_isLine, textEntries_of_blank blank]
    · split <;> rfl
    · rw [Text.strip_joinLines_of_blank_rest blank]
      exact isLine_strip isHeader
  · simp only [not_forall, Bool.not_eq_true, exists_prop] at blank
    have someColumns : table.columns ≠ [] := by
      intro none
      obtain ⟨char, inside, -⟩ := shown
      rw [none] at inside
      cases inside
    have someRows : table.rows.map (joinCells delimiter) ≠ [] := by
      intro none
      rw [none] at blank
      obtain ⟨char, inside, -⟩ := blank
      cases inside
    have someLines : Text.lines (String.ofList ((Text.joinLines
        (table.rows.map (joinCells delimiter))).toList.rdropWhile isSpace)) ≠ [] :=
      fun none => List.splitOn_ne_nil _ _ (List.map_eq_nil_iff.mp none)
    rw [parseFromText_of_ne, Text.lines_strip_joinLines isHeader shown blank,
      parseLines_header isDelimiter isTable.headers someColumns someLines,
      textEntries_rdropWhile someRows areLines]
    obtain ⟨char, inside, visible⟩ := shown
    rw [ne_eq, Text.strip_eq_empty_iff]
    intro spaces
    rw [spaces char ((Text.infix_joinLines List.mem_cons_self).subset inside)] at visible
    cases visible

end

end Onpremai.Preprocessor
