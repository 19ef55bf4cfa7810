import Onpremai.Observer.LogIngestor

/-!
# Cycles of the log ingestor

A cycle should return the entries of all lines that were not read yet, whatever the other
lines hold.  A line whose decoding raises takes the whole cycle with it, and as the offset
of its file stays before it, the cycles after it as well.
-/

namespace Onpremai.Observer

open Onpremai.Library

namespace LogDecoders

variable (decoders : LogDecoders) (cutoffTime : Option Rat)

def Reads (line : List UInt8) : Prop :=
  ∃ row, decodeUtf8 line = some row ∧ Returns (decoders.readLine cutoffTime row)

def rowEntry (row : List Char) : Option LogEntry :=
  match decoders.readLine cutoffTime row with
  | .ok entry => entry
  | .error _ => none

def lineEntry (line : List UInt8) : Option LogEntry :=
  (decodeUtf8 line).bind (decoders.rowEntry cutoffTime)

variable {decoders cutoffTime}

theorem rowEntry_of_ok {row : List Char} {entry : Option LogEntry}
    (read : decoders.readLine cutoffTime row = .ok entry) :
    decoders.rowEntry cutoffTime row = entry := by
  rw [rowEntry, read]

@[simp] theorem lineEntry_encodeUtf8 (row : List Char) :
    decoders.lineEntry cutoffTime (encodeUtf8 row) = decoders.rowEntry cutoffTime row := by
  rw [lineEntry, decodeUtf8_encodeUtf8, Option.bind_some]

theorem reads_encodeUtf8 {row : List Char} : decoders.Reads cutoffTime (encodeUtf8 row) ↔
      Returns (decoders.readLine cutoffTime row) := by
  constructor
  · rintro ⟨other, decoded, returns⟩
    rw [decodeUtf8_encodeUtf8] at decoded
    cases decoded
    exact returns
  · exact fun returns => ⟨row, decodeUtf8_encodeUtf8 row, returns⟩

section

variable (cutoffTime : Option Rat)

theorem readLine_nil : decoders.readLine cutoffTime [] = .ok none := by
  have blank : Text.strip (String.ofList []) = "" := by decide
  rw [readLine, if_pos blank]

theorem reads_nil : decoders.Reads cutoffTime [] :=
  (@reads_encodeUtf8 decoders cutoffTime []).mpr ⟨none, readLine_nil cutoffTime⟩

theorem lineEntry_nil : decoders.lineEntry cutoffTime [] = none :=
  (@lineEntry_encodeUtf8 decoders cutoffTime []).trans
    (rowEntry_of_ok (readLine_nil cutoffTime))

end

theorem not_returns_readLine {row : List Char} {data : LogValue}
    (filled : Text.strip (String.ofList row) ≠ "")
    (loaded : decoders.loads (Text.strip (String.ofList row)) = .ok data)
    (other : ∀ fields, data ≠ .obj fields) :
    ¬ Returns (decoders.readLine cutoffTime row) := by
  have noGet : ∀ key default, data.get key default = .error .attributeError := by
    intro key default
    cases data with
    | obj fields => exact absurd rfl (other fields)
    | _ => rfl
  rw [readLine, if_neg filled, loaded]
  dsimp only
  cases cutoffTime with
  | none =>
    rw [readDocument, fromDict, entryOfFields, noGet]
    exact not_returns_error _
  | some cutoffTime =>
    rw [readDocument, noGet]
    exact not_returns_error _

theorem mapM_readLine {rows : List (List Char)} {read : List (Option LogEntry)}
    (ran : rows.mapM (decoders.readLine cutoffTime) = .ok read) :
    read = rows.map (decoders.rowEntry cutoffTime) := by
  induction rows generalizing read with
  | nil =>
    cases ran
    rfl
  | cons row rows ih =>
    rw [List.mapM_cons, bind_eq_ok] at ran
    obtain ⟨entry, rowRan, restRan⟩ := ran
    obtain ⟨others, othersRan, returned⟩ := bind_eq_ok.mp restRan
    cases returned
    rw [List.map_cons, rowEntry_of_ok rowRan, ← ih othersRan]

theorem readText_eq_ok {text : List Char} {entries : List LogEntry} :
    decoders.readText cutoffTime text = .ok entries ↔
      (∀ row ∈ textLines text, Returns (decoders.readLine cutoffTime row)) ∧
        entries = (textLines text).filterMap (decoders.rowEntry cutoffTime) := by
  have kept (rows : List (List Char)) : (rows.map (decoders.rowEntry cutoffTime)).reduceOption =
        rows.filterMap (decoders.rowEntry cutoffTime) :=
    List.filterMap_map
  rw [← returns_mapM, readText, bind_eq_ok]
  constructor
  · intro whole
    obtain ⟨read, ran, returned⟩ := whole
    cases returned
    constructor
    · exact ⟨read, ran⟩
    · rw [mapM_readLine ran, kept]
  · intro parts
    obtain ⟨⟨read, ran⟩, same⟩ := parts
    apply Exists.intro read
    rw [same, ← kept, ← mapM_readLine ran]
    exact ⟨ran, rfl⟩

end LogDecoders

def unreadLines (info : Option FileOffset) (file : LogFile) : List (List UInt8) :=
  byteLines (file.content.drop (startOffset info))

def nextOffset (info : Option FileOffset) (file : LogFile) : FileOffset where
  inode := file.inode
  offset := max (startOffset info) file.content.length

section

variable {decoders : LogDecoders} {cutoffTime : Rat}

section

variable {info : Option FileOffset} {file : LogFile}

theorem readFile_eq_ok {result : List LogEntry × FileOffset} :
    readFile decoders cutoffTime info file = .ok result ↔
      (∀ line ∈ unreadLines info file, decoders.Reads (firstCutoff cutoffTime info) line) ∧
        result = ((unreadLines info file).filterMap
          (decoders.lineEntry (firstCutoff cutoffTime info)), nextOffset info file) := by
  rw [readFile, unreadLines]
  cases decoded : decodeUtf8 (file.content.drop (startOffset info)) with
  | none =>
    obtain ⟨line, member, undecodable⟩ := exists_undecodable_line decoded
    constructor
    · intro read
      cases read
    · rintro ⟨every, -⟩
      obtain ⟨row, decodedLine, -⟩ := every line member
      rw [undecodable] at decodedLine
      cases decodedLine
  | some text =>
    have reads : (∀ line ∈ (textLines text).map encodeUtf8,
        decoders.Reads (firstCutoff cutoffTime info) line) ↔ ∀ row ∈ textLines text,
            Returns (decoders.readLine (firstCutoff cutoffTime info) row) := by
      simp only [List.forall_mem_map, LogDecoders.reads_encodeUtf8]
    have entries : ((textLines text).map encodeUtf8).filterMap
        (decoders.lineEntry (firstCutoff cutoffTime info)) =
          (textLines text).filterMap (decoders.rowEntry (firstCutoff cutoffTime info)) := by
      rw [List.filterMap_map]
      exact List.filterMap_congr fun row _ => LogDecoders.lineEntry_encodeUtf8 row
    rw [byteLines_of_decodeUtf8 decoded, reads, entries]
    dsimp only
    rw [bind_eq_ok]
    constructor
    · rintro ⟨read, ran, returned⟩
      obtain ⟨every, rfl⟩ := LogDecoders.readText_eq_ok.mp ran
      cases returned
      exact ⟨every, rfl⟩
    · rintro ⟨every, rfl⟩
      exact ⟨_, LogDecoders.readText_eq_ok.mpr ⟨every, rfl⟩, rfl⟩

theorem exists_readFile_error (stuck : ¬ ∀ line ∈ unreadLines info file,
      decoders.Reads (firstCutoff cutoffTime info) line) :
    ∃ error, readFile decoders cutoffTime info file = .error error := by
  cases read : readFile decoders cutoffTime info file with
  | error error => exact ⟨error, rfl⟩
  | ok result => exact absurd (readFile_eq_ok.mp read).1 stuck

end

end

section

variable (decoders : LogDecoders) (cutoffTime : Rat) (offsets : Dict String FileOffset)

def FileReads (entry : String × LogFile) : Prop :=
  let info := offsetInfo offsets entry.1 entry.2
  ∀ line ∈ unreadLines info entry.2, decoders.Reads (firstCutoff cutoffTime info) line

def fileEntries (entry : String × LogFile) : List LogEntry :=
  let info := offsetInfo offsets entry.1 entry.2
  (unreadLines info entry.2).filterMap (decoders.lineEntry (firstCutoff cutoffTime info))

end

section

variable {decoders : LogDecoders} {cutoffTime : Rat} {offsets : Dict String FileOffset}

section

variable {path : String} {entry : String × LogFile}

theorem offsetInfo_set_of_ne (apart : path ≠ entry.1) (offset : FileOffset) :
    offsetInfo (offsets.set path offset) entry.1 entry.2 = offsetInfo offsets entry.1 entry.2 := by
  rw [offsetInfo, offsetInfo, Dict.get?_set, if_neg apart]

theorem fileReads_set_of_ne (apart : path ≠ entry.1) (offset : FileOffset) :
    FileReads decoders cutoffTime (offsets.set path offset) entry ↔
      FileReads decoders cutoffTime offsets entry := by
  rw [FileReads, FileReads, offsetInfo_set_of_ne apart]

theorem fileEntries_set_of_ne (apart : path ≠ entry.1) (offset : FileOffset) :
    fileEntries decoders cutoffTime (offsets.set path offset) entry =
      fileEntries decoders cutoffTime offsets entry := by
  rw [fileEntries, fileEntries, offsetInfo_set_of_ne apart]

end

theorem readFiles_eq_ok {files : List (String × LogFile)}
    (apart : (files.map Prod.fst).Nodup) {read : List (List LogEntry)} :
    (readFiles decoders cutoffTime files offsets).1 = .ok read ↔
      (∀ entry ∈ files, FileReads decoders cutoffTime offsets entry) ∧
        read = files.map (fileEntries decoders cutoffTime offsets) := by
  induction files generalizing offsets read with
  | nil =>
    rw [readFiles]
    constructor
    · intro returned
      cases returned
      exact ⟨fun _ member => absurd member List.not_mem_nil, rfl⟩
    · rintro ⟨-, rfl⟩
      rfl
  | cons entry files ih =>
    obtain ⟨path, file⟩ := entry
    rw [List.map_cons, List.nodup_cons] at apart
    have other : ∀ entry ∈ files, path ≠ entry.1 := fun entry member same =>
      apart.1 (List.mem_map.mpr ⟨entry, member, same.symm⟩)
    rw [readFiles, List.forall_mem_cons]
    by_cases reads : FileReads decoders cutoffTime offsets (path, file)
    · rw [readFile_eq_ok.mpr ⟨reads, rfl⟩]
      dsimp only
      have later := @ih (offsets.set path (nextOffset (offsetInfo offsets path file) file))
      have sameReads : (∀ entry ∈ files, FileReads decoders cutoffTime
          (offsets.set path (nextOffset (offsetInfo offsets path file) file)) entry) ↔
            ∀ entry ∈ files, FileReads decoders cutoffTime offsets entry :=
        forall₂_congr fun entry member => fileReads_set_of_ne (other entry member) _
      have sameEntries : files.map (fileEntries decoders cutoffTime
          (offsets.set path (nextOffset (offsetInfo offsets path file) file))) =
            files.map (fileEntries decoders cutoffTime offsets) :=
        List.map_congr_left fun entry member => fileEntries_set_of_ne (other entry member) _
      rw [map_eq_ok, and_iff_right reads]
      constructor
      · rintro ⟨others, returned, rfl⟩
        obtain ⟨every, rfl⟩ := (later apart.2).mp returned
        exact ⟨sameReads.mp every, congrArg₂ List.cons rfl sameEntries⟩
      · rintro ⟨every, rfl⟩
        exact ⟨_, (later apart.2).mpr ⟨sameReads.mpr every, rfl⟩,
          congrArg₂ List.cons rfl sameEntries⟩
    · obtain ⟨error, raised⟩ := exists_readFile_error reads
      rw [raised]
      constructor
      · intro returned
        cases returned
      · exact fun every => absurd every.1.1 reads

end

theorem nodup_logFiles (directory : Dict String LogFile) :
    ((logFiles directory).map Prod.fst).Nodup := by
  have sorted := (List.mergeSort_perm
    (directory.entries.filter fun entry => Text.endsWith ".jsonl" entry.1)
    fun first second => decide (first.1 ≤ second.1)).map Prod.fst
  exact sorted.nodup_iff.mpr (directory.nodupKeys.sublist (List.filter_sublist.map Prod.fst))

theorem mem_logFiles {directory : Dict String LogFile} {entry : String × LogFile} :
    entry ∈ logFiles directory ↔
      directory.get? entry.1 = some entry.2 ∧ Text.endsWith ".jsonl" entry.1 = true := by
  rw [logFiles, List.mem_mergeSort, List.mem_filter, ← Dict.mem_entries_iff]

/-- The log files and the offsets at which the ingestor stopped. -/
structure LogSystem where
  directory : Dict String LogFile := .empty
  offsets : Dict String FileOffset := .empty

/-- A writer appends bytes to a file, a file is replaced by a new one and kept under another
name or not at all, a file is truncated, and the ingestor runs. -/
inductive LogMove where
  | append (path : String) (bytes : List UInt8)
  | rotate (path : String) (inode : Nat) (archive : Option String)
  | truncate (path : String)
  | ingest (now : Rat) (sinceMinutes : Int)

namespace LogSystem

variable (decoders : LogDecoders) (system : LogSystem)

def rewrite (path : String) (change : List UInt8 → List UInt8) : LogSystem :=
  match system.directory.get? path with
  | none => system
  | some file =>
    { system with
      directory := system.directory.set path { file with content := change file.content } }

/-- The directory after a file was moved to another name. -/
def archived (path : String) : Option String → Dict String LogFile
  | none => system.directory
  | some other =>
    match system.directory.get? path with
    | none => system.directory
    | some file => system.directory.set other file

def step : LogMove → LogSystem
  | .append path bytes => system.rewrite path (· ++ bytes)
  | .rotate path inode archive =>
    { system with directory := (system.archived path archive).set path { inode } }
  | .truncate path => system.rewrite path fun _ => []
  | .ingest now sinceMinutes =>
    { system with
      offsets := (ingest decoders now sinceMinutes system.directory system.offsets).2 }

/-- The entries that a cycle hands on; an exception leaves none. -/
def returned (now : Rat) (sinceMinutes : Int) : List LogEntry :=
  match (ingest decoders now sinceMinutes system.directory system.offsets).1 with
  | .ok entries => entries
  | .error _ => []

/-- The entries in all lines that are not read yet. -/
def dueEntries (now : Rat) (sinceMinutes : Int) : List LogEntry :=
  (logFiles system.directory).flatMap
    (fileEntries decoders (now - sinceMinutes * 60) system.offsets)

def NothingRaises (now : Rat) (sinceMinutes : Int) : Prop := ∀ entry ∈ logFiles system.directory,
    FileReads decoders (now - sinceMinutes * 60) system.offsets entry

variable {decoders system}

section

variable {now : Rat} {sinceMinutes : Int}

theorem returned_of_nothingRaises (quiet : system.NothingRaises decoders now sinceMinutes) :
    system.returned decoders now sinceMinutes = system.dueEntries decoders now sinceMinutes := by
  have read := (readFiles_eq_ok (nodup_logFiles system.directory)).mpr ⟨quiet, rfl⟩
  rw [returned, ingest, map_eq_ok.mpr ⟨_, read, rfl⟩, dueEntries, List.flatMap_def]

theorem returned_of_raises (raises : ¬ system.NothingRaises decoders now sinceMinutes) :
    system.returned decoders now sinceMinutes = [] := by
  rw [returned, ingest]
  cases read : (readFiles decoders (now - sinceMinutes * 60) (logFiles system.directory)
      system.offsets).1 with
  | error error => rfl
  | ok entries =>
    exact absurd ((readFiles_eq_ok (nodup_logFiles system.directory)).mp read).1 raises

theorem ingest_offsets_singleton {entry : String × LogFile}
    (only : logFiles system.directory = [entry])
    (reads : FileReads decoders (now - sinceMinutes * 60) system.offsets entry) :
    (ingest decoders now sinceMinutes system.directory system.offsets).2 =
      system.offsets.set entry.1
        (nextOffset (offsetInfo system.offsets entry.1 entry.2) entry.2) := by
  rw [ingest, only, readFiles, readFile_eq_ok.mpr ⟨reads, rfl⟩]
  rfl

theorem returned_eq_dueEntries_iff :
    system.returned decoders now sinceMinutes = system.dueEntries decoders now sinceMinutes ↔
      system.NothingRaises decoders now sinceMinutes ∨
        system.dueEntries decoders now sinceMinutes = [] := by
  by_cases quiet : system.NothingRaises decoders now sinceMinutes
  · exact iff_of_true (returned_of_nothingRaises quiet) (.inl quiet)
  · rw [returned_of_raises quiet, eq_comm, or_iff_right quiet]

end

/-- In a run from the first start on, every cycle hands on the entries of all well-formed
lines that are not read yet exactly when, in every cycle, no such line raises or none is
well-formed. -/
theorem cycles_hand_on_iff (decoders : LogDecoders) (moves : List LogMove) :
    (∀ earlier now sinceMinutes later, moves = earlier ++ .ingest now sinceMinutes :: later →
        (run (step decoders) {} earlier).returned decoders now sinceMinutes =
          (run (step decoders) {} earlier).dueEntries decoders now sinceMinutes) ↔
      ∀ earlier now sinceMinutes later, moves = earlier ++ .ingest now sinceMinutes :: later →
          (run (step decoders) {} earlier).NothingRaises decoders now sinceMinutes ∨
            (run (step decoders) {} earlier).dueEntries decoders now sinceMinutes = [] := by
  simp only [returned_eq_dueEntries_iff]

/-- A decoder of the two documents that the run below holds. -/
def bareDecoders : LogDecoders where
  loads text :=
    if text = "[]" then .ok (.arr [])
    else if text = "\x7b\x7d" then .ok (.obj [])
    else .error .jsonDecodeError
  fromIsoFormat _ := .error .valueError
  intOfString _ := none
  floatOfString _ := none
  reprOf _ := ""

/-- The entry of an empty object. -/
def bareEntry : LogEntry where
  timestamp := ""
  traceId := ""
  agent := ""
  task := ""
  tierRequested := ""
  tierUsed := ""
  modelUsed := ""
  escalated := false
  inputTokens := 0
  outputTokens := 0
  latencyMs := 0
  confidence := .finite 0
  success := true
  error := .null
  tenantId := ""
  toolCallsCount := 0
  parseSuccess := true
  costUsd := .finite 0

/-- A log file that begins with an empty array and goes on with an entry. -/
def wedgedFile : LogFile where
  inode := 1
  content := encodeUtf8 "[]\n\x7b\x7d\n".toList

/-- The file is written and read. -/
def wedgedMoves : List LogMove :=
  [.rotate "gateway.jsonl" 1 none, .append "gateway.jsonl" wedgedFile.content, .ingest 3600 60]

theorem logFiles_singleton {directory : Dict String LogFile} {entry : String × LogFile}
    (only : directory.entries = [entry]) (named : Text.endsWith ".jsonl" entry.1 = true) :
    logFiles directory = [entry] := by
  rw [logFiles, only, List.filter_singleton, named, cond_true, List.mergeSort_singleton]

theorem unreadLines_wedgedFile : unreadLines none wedgedFile =
    (textLines "[]\n\x7b\x7d\n".toList).map encodeUtf8 :=
  byteLines_encodeUtf8 _

/-- The array takes the entry after it with it. -/
theorem array_wedges_the_log : ¬ ∀ earlier now sinceMinutes later,
      wedgedMoves = earlier ++ .ingest now sinceMinutes :: later →
        (run (step bareDecoders) {} earlier).returned bareDecoders now sinceMinutes =
          (run (step bareDecoders) {} earlier).dueEntries bareDecoders now sinceMinutes := by
  intro every
  have cycle := every (wedgedMoves.take 2) 3600 60 [] rfl
  have files : logFiles (run (step bareDecoders) {} (wedgedMoves.take 2)).directory =
      [("gateway.jsonl", wedgedFile)] :=
    logFiles_singleton rfl rfl
  rcases returned_eq_dueEntries_iff.mp cycle with quiet | nothing
  · rw [NothingRaises, files, List.forall_mem_singleton] at quiet
    have reads := quiet (encodeUtf8 "[]".toList) (by
      change _ ∈ unreadLines none wedgedFile
      rw [unreadLines_wedgedFile]
      exact List.mem_map_of_mem List.mem_cons_self)
    exact LogDecoders.not_returns_readLine (by decide) rfl (fun _ same => by cases same)
      (LogDecoders.reads_encodeUtf8.mp reads)
  · rw [dueEntries, files, List.flatMap_singleton, fileEntries] at nothing
    change (unreadLines none wedgedFile).filterMap _ = [] at nothing
    rw [unreadLines_wedgedFile, List.filterMap_map, List.filterMap_eq_nil_iff] at nothing
    have empty := nothing "\x7b\x7d".toList (List.mem_cons_of_mem _ List.mem_cons_self)
    rw [Function.comp_apply, LogDecoders.lineEntry_encodeUtf8] at empty
    cases empty

end LogSystem

end Onpremai.Observer
