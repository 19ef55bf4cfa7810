import Onpremai.Observer.IngestCycles

/-!
# Lines of a log that is being written

A writer appends bytes to the log files in any portions, and the files are rotated and truncated.
Every line that is complete should be ingested exactly once.
-/

namespace Onpremai.Observer

open Onpremai.Library

/-! ## Histories -/

/-- The log files and the ingestor, with the number of bytes of each file whose lines were
handed on, all lines that were completed, and all entries that were handed on. -/
structure LogHistory extends LogSystem where
  taken : String → Nat := fun _ => 0
  written : String → List (List UInt8) := fun _ => []
  ingested : String → List LogEntry := fun _ => []

namespace LogSystem

variable (decoders : LogDecoders) (system : LogSystem)

def completes (path : String) (bytes : List UInt8) : List (List UInt8) :=
  match system.directory.get? path with
  | none => []
  | some file => completeLines (openLine file.content ++ bytes)

/-- The entries of a file that a cycle hands on. -/
def delivered (now : Rat) (sinceMinutes : Int) (path : String) : List LogEntry :=
  let files := logFiles system.directory
  match (readFiles decoders (now - sinceMinutes * 60) files system.offsets).1 with
  | .ok read => (Dict.findEntry path ((files.map Prod.fst).zip read)).getD []
  | .error _ => []

/-- The bytes of a file whose lines were handed on, after a cycle. -/
def takenAfter (now : Rat) (sinceMinutes : Int) (taken : String → Nat) (path : String) : Nat :=
  let files := logFiles system.directory
  match (readFiles decoders (now - sinceMinutes * 60) files system.offsets).1 with
  | .ok _ => ((Dict.findEntry path files).map fun file => file.content.length).getD (taken path)
  | .error _ => taken path

variable {decoders system}

theorem findEntry_logFiles (path : String) : Dict.findEntry path (logFiles system.directory) =
      if Text.endsWith ".jsonl" path = true then system.directory.get? path else none := by
  have found : ∀ file, Dict.findEntry path (logFiles system.directory) = some file ↔
      system.directory.get? path = some file ∧ Text.endsWith ".jsonl" path = true := by
    intro file
    rw [← @mem_logFiles system.directory (path, file)]
    exact ⟨Dict.mem_of_findEntry_eq_some,
      Dict.findEntry_eq_some_of_mem (nodup_logFiles system.directory)⟩
  ext file
  rw [found]
  split
  next named => exact and_iff_left named
  next unnamed => exact iff_of_false (fun both => unnamed both.2) (fun none => by cases none)

section

variable {now : Rat} {sinceMinutes : Int}

theorem readFiles_of_nothingRaises (quiet : system.NothingRaises decoders now sinceMinutes) :
    (readFiles decoders (now - sinceMinutes * 60) (logFiles system.directory) system.offsets).1 =
      .ok ((logFiles system.directory).map
        (fileEntries decoders (now - sinceMinutes * 60) system.offsets)) :=
  (readFiles_eq_ok (nodup_logFiles system.directory)).mpr ⟨quiet, rfl⟩

theorem delivered_of_nothingRaises
    (quiet : system.NothingRaises decoders now sinceMinutes) (path : String) :
    system.delivered decoders now sinceMinutes path =
      ((Dict.findEntry path (logFiles system.directory)).map fun file =>
        fileEntries decoders (now - sinceMinutes * 60) system.offsets (path, file)).getD [] := by
  rw [delivered, readFiles_of_nothingRaises quiet]
  dsimp only
  have looked := Dict.findEntry_map (fun name file => fileEntries decoders
    (now - sinceMinutes * 60) system.offsets (name, file)) path (logFiles system.directory)
  rw [List.zip_map', ← looked]

theorem takenAfter_of_nothingRaises
    (quiet : system.NothingRaises decoders now sinceMinutes) (taken : String → Nat)
    (path : String) : system.takenAfter decoders now sinceMinutes taken path =
      ((Dict.findEntry path (logFiles system.directory)).map fun file =>
        file.content.length).getD (taken path) := by
  rw [takenAfter, readFiles_of_nothingRaises quiet]

end

end LogSystem

def freshOf : Option LogFile → Nat → List (List UInt8)
  | none, _ => []
  | some file, taken => completeLines (file.content.drop taken)

def StartsLine (file : Option LogFile) (taken : Nat) : Prop := ∀ found, file = some found →
    taken ≤ found.content.length ∧ openLine (found.content.take taken) = []

namespace LogHistory

section

variable (decoders : LogDecoders) (history : LogHistory)

/-- What was handed on of a file moves with it. -/
def movedTaken (path : String) : Option String → String → Nat
  | none => history.taken
  | some other =>
    match history.directory.get? path with
    | none => history.taken
    | some _ => Function.update history.taken other (history.taken path)

def step (move : LogMove) : LogHistory :=
  let system := history.toLogSystem.step decoders move
  match move with
  | .append path bytes =>
    { history with
      toLogSystem := system
      written := Function.update history.written path
        (history.written path ++ history.completes path bytes) }
  | .rotate path _ archive =>
    { history with
      toLogSystem := system
      taken := Function.update (history.movedTaken path archive) path 0 }
  | .truncate path =>
    { history with toLogSystem := system, taken := Function.update history.taken path 0 }
  | .ingest now sinceMinutes =>
    { toLogSystem := system
      taken := history.takenAfter decoders now sinceMinutes history.taken
      written := history.written
      ingested := fun path =>
        history.ingested path ++ history.delivered decoders now sinceMinutes path }

/-- The complete lines of a file that were not handed on. -/
def freshLines (path : String) : List (List UInt8) :=
  freshOf (history.directory.get? path) (history.taken path)

def entriesOf (lines : List (List UInt8)) : List LogEntry :=
  lines.filterMap (decoders.lineEntry none)

/-- A cycle reads a file cleanly: it does not end in an unfinished line, the offset is where
the lines begin that were not handed on, and these lines raise nothing and are not skipped
as too old. -/
structure ReadsCleanly (cutoffTime : Rat) (path : String) (file : LogFile) : Prop where
  ended : openLine file.content = []
  placed : startOffset (offsetInfo history.offsets path file) = history.taken path ∨
    file.content = []
  reads : ∀ line ∈ history.freshLines path,
    decoders.Reads (firstCutoff cutoffTime (offsetInfo history.offsets path file)) line
  recent : ∀ line ∈ history.freshLines path,
    decoders.lineEntry (firstCutoff cutoffTime (offsetInfo history.offsets path file)) line =
      decoders.lineEntry none line

/-- A file is replaced, moved or truncated only after its complete lines were handed on, and
a cycle reads every file cleanly. -/
def Careful : LogMove → Prop
  | .append _ _ => True
  | .rotate path _ archive =>
    history.freshLines path = [] ∧ ∀ other ∈ archive, history.freshLines other = []
  | .truncate path => history.freshLines path = []
  | .ingest now sinceMinutes => ∀ entry ∈ logFiles history.directory,
      history.ReadsCleanly decoders (now - sinceMinutes * 60) entry.1 entry.2

/-- What was handed on of a file ends with a line, and every completed line was handed on or
waits for it. -/
structure Consistent : Prop where
  placed : ∀ path, StartsLine (history.directory.get? path) (history.taken path)
  account : ∀ path, entriesOf decoders (history.written path) =
    history.ingested path ++ entriesOf decoders (history.freshLines path)

end

end LogHistory

section

variable {file : LogFile} {taken : Nat}

theorem openLine_of_startsLine (starts : StartsLine (some file) taken) :
    openLine (file.content.drop taken) = openLine file.content := by
  have whole := openLine_append (file.content.take taken) (file.content.drop taken)
  rw [List.take_append_drop, (starts file rfl).2, List.nil_append] at whole
  exact whole.symm

theorem startsLine_zero (file : Option LogFile) : StartsLine file 0 :=
  fun _ _ => ⟨Nat.zero_le _, rfl⟩

theorem startsLine_length (ended : openLine file.content = []) :
    StartsLine (some file) file.content.length := by
  intro found same
  cases same
  exact ⟨Nat.le_refl _, by rw [List.take_length, ended]⟩

theorem StartsLine.append (starts : StartsLine (some file) taken) (bytes : List UInt8) :
    StartsLine (some { file with content := file.content ++ bytes }) taken := by
  intro found same
  cases same
  obtain ⟨within, aligned⟩ := starts file rfl
  constructor
  · exact within.trans (List.length_append ▸ Nat.le_add_right _ _)
  · rw [List.take_append_of_le_length within, aligned]

theorem freshOf_append (starts : StartsLine (some file) taken) (bytes : List UInt8) :
    freshOf (some { file with content := file.content ++ bytes }) taken =
      freshOf (some file) taken ++ completeLines (openLine file.content ++ bytes) := by
  rw [freshOf, freshOf, List.drop_append_of_le_length (starts file rfl).1, completeLines_append,
    openLine_of_startsLine starts]

theorem freshOf_length : freshOf (some file) file.content.length = [] := by
  rw [freshOf, List.drop_length]
  rfl

end

theorem LogSystem.get?_rewrite (system : LogSystem) (path : String)
    (change : List UInt8 → List UInt8) (query : String) :
    (system.rewrite path change).directory.get? query =
      if path = query then
        (system.directory.get? path).map fun file =>
          { file with content := change file.content }
      else system.directory.get? query := by
  rw [LogSystem.rewrite]
  cases found : system.directory.get? path with
  | none =>
    by_cases same : path = query
    · rw [if_pos same, ← same]
      exact found
    · rw [if_neg same]
  | some file => exact Dict.get?_set _ _ _ _

namespace LogHistory

variable {decoders : LogDecoders} {history : LogHistory}

theorem entriesOf_append (first second : List (List UInt8)) : entriesOf decoders (first ++ second) =
      entriesOf decoders first ++ entriesOf decoders second :=
  List.filterMap_append

theorem Consistent.append (consistent : history.Consistent decoders) (path : String)
    (bytes : List UInt8) : (history.step decoders (.append path bytes)).Consistent decoders := by
  have after : ∀ query, (history.step decoders (.append path bytes)).directory.get? query =
      if path = query then (history.directory.get? path).map fun file =>
        { file with content := file.content ++ bytes } else history.directory.get? query :=
    history.toLogSystem.get?_rewrite path (· ++ bytes)
  constructor
  · intro query
    rw [after]
    split
    next same =>
      cases same
      have placed := consistent.placed path
      cases found : history.directory.get? path with
      | none => exact fun _ none => by cases none
      | some file =>
        rw [found] at placed
        exact placed.append bytes
    next => exact consistent.placed query
  · intro query
    have account := consistent.account query
    rw [freshLines, after]
    by_cases same : path = query
    · cases same
      rw [if_pos rfl]
      change entriesOf decoders (Function.update history.written path _ path) = _
      rw [Function.update_self, entriesOf_append, account, freshLines]
      have placed := consistent.placed path
      change _ = history.ingested path ++ _
      rw [List.append_assoc, LogSystem.completes]
      change _ ++ (entriesOf decoders (freshOf _ _) ++ _) =
        _ ++ entriesOf decoders (freshOf _ (history.taken path))
      cases found : history.directory.get? path with
      | none => rfl
      | some file =>
        rw [found] at placed
        rw [Option.map_some, freshOf_append placed, entriesOf_append]
    · rw [if_neg same]
      change entriesOf decoders (Function.update history.written path _ query) = _
      rw [Function.update_of_ne (Ne.symm same), account]
      rfl

theorem Consistent.truncate (consistent : history.Consistent decoders) {path : String}
    (settled : history.freshLines path = []) :
    (history.step decoders (.truncate path)).Consistent decoders := by
  have after : ∀ query, (history.step decoders (.truncate path)).directory.get? query =
      if path = query then (history.directory.get? path).map fun file =>
        { file with content := [] } else history.directory.get? query :=
    history.toLogSystem.get?_rewrite path fun _ => []
  have taken : (history.step decoders (.truncate path)).taken =
    Function.update history.taken path 0 := rfl
  constructor
  · intro query
    rw [after, taken]
    by_cases same : path = query
    · rw [← same, Function.update_self]
      exact startsLine_zero _
    · rw [if_neg same, Function.update_of_ne (Ne.symm same)]
      exact consistent.placed query
  · intro query
    refine (consistent.account query).trans (congrArg (history.ingested query ++ ·) ?_)
    rw [freshLines, freshLines, after, taken]
    by_cases same : path = query
    · rw [← same, if_pos rfl, Function.update_self, ← freshLines, settled]
      cases history.directory.get? path with
      | none => rfl
      | some file => rfl
    · rw [if_neg same, Function.update_of_ne (Ne.symm same)]

theorem Consistent.rotate (consistent : history.Consistent decoders) {path : String}
    (inode : Nat) {archive : Option String} (settled : history.freshLines path = [])
    (replaced : ∀ other ∈ archive, history.freshLines other = []) :
    (history.step decoders (.rotate path inode archive)).Consistent decoders := by
  have fromPath : ∀ query, query ≠ path →
      ((history.step decoders (.rotate path inode archive)).directory.get? query =
          history.directory.get? query ∧
        (history.step decoders (.rotate path inode archive)).taken query = history.taken query) ∨
      ((history.step decoders (.rotate path inode archive)).directory.get? query =
          history.directory.get? path ∧
        (history.step decoders (.rotate path inode archive)).taken query =
          history.taken path ∧ history.freshLines query = []) := by
    intro query apart
    have behind : (history.step decoders (.rotate path inode archive)).directory.get? query =
        (history.archived path archive).get? query :=
      (Dict.get?_set _ _ _ _).trans (if_neg (Ne.symm apart))
    have taken : (history.step decoders (.rotate path inode archive)).taken query =
        history.movedTaken path archive query :=
      Function.update_of_ne apart _ _
    rw [behind, taken]
    cases archive with
    | none => exact .inl ⟨rfl, rfl⟩
    | some other =>
      rw [LogSystem.archived, movedTaken]
      cases found : history.directory.get? path with
      | none => exact .inl ⟨rfl, rfl⟩
      | some file =>
        dsimp only
        rw [Dict.get?_set]
        by_cases same : other = query
        · rw [← same, if_pos rfl, Function.update_self]
          exact .inr ⟨rfl, rfl, replaced other rfl⟩
        · rw [if_neg same, Function.update_of_ne (Ne.symm same)]
          exact .inl ⟨rfl, rfl⟩
  have fresh : (history.step decoders (.rotate path inode archive)).directory.get? path =
      some { inode } :=
    (Dict.get?_set _ _ _ _).trans (if_pos rfl)
  have start : (history.step decoders (.rotate path inode archive)).taken path = 0 :=
    Function.update_self _ _ _
  constructor
  · intro query
    by_cases same : query = path
    · rw [same, start]
      exact startsLine_zero _
    · rcases fromPath query same with ⟨file, taken⟩ | ⟨file, taken, -⟩
      · rw [file, taken]
        exact consistent.placed query
      · rw [file, taken]
        exact consistent.placed path
  · intro query
    refine (consistent.account query).trans (congrArg (history.ingested query ++ ·) ?_)
    by_cases same : query = path
    · rw [same, settled, freshLines, fresh, start]
      rfl
    · rcases fromPath query same with ⟨file, taken⟩ | ⟨file, taken, waiting⟩
      · rw [freshLines, freshLines, file, taken]
      · rw [waiting, freshLines, file, taken, ← freshLines, settled]

section

variable {cutoffTime : Rat} {path : String} {file : LogFile}

theorem ReadsCleanly.unreadLines_eq (clean : history.ReadsCleanly decoders cutoffTime path file)
    (placed : StartsLine (some file) (history.taken path))
    (found : history.directory.get? path = some file) :
    unreadLines (offsetInfo history.offsets path file) file =
      history.freshLines path ++ [[]] := by
  rw [freshLines, found, unreadLines]
  rcases clean.placed with same | empty
  · rw [same, byteLines_eq_append, openLine_of_startsLine placed, clean.ended]
    rfl
  · rw [freshOf, empty, List.drop_nil, List.drop_nil]
    rfl

theorem ReadsCleanly.fileReads (clean : history.ReadsCleanly decoders cutoffTime path file)
    (placed : StartsLine (some file) (history.taken path))
    (found : history.directory.get? path = some file) :
    FileReads decoders cutoffTime history.offsets (path, file) := by
  rw [FileReads]
  dsimp only
  rw [clean.unreadLines_eq placed found, List.forall_mem_append, List.forall_mem_singleton]
  exact ⟨clean.reads, LogDecoders.reads_nil _⟩

theorem ReadsCleanly.fileEntries_eq (clean : history.ReadsCleanly decoders cutoffTime path file)
    (placed : StartsLine (some file) (history.taken path))
    (found : history.directory.get? path = some file) :
    fileEntries decoders cutoffTime history.offsets (path, file) =
      entriesOf decoders (history.freshLines path) := by
  rw [fileEntries]
  dsimp only
  rw [clean.unreadLines_eq placed found, List.filterMap_append, List.filterMap_cons_none
    (LogDecoders.lineEntry_nil _), List.filterMap_nil, List.append_nil]
  exact List.filterMap_congr clean.recent

end

section

variable {now : Rat} {sinceMinutes : Int}

theorem Consistent.nothingRaises (consistent : history.Consistent decoders)
    (careful : history.Careful decoders (.ingest now sinceMinutes)) :
    history.NothingRaises decoders now sinceMinutes := by
  intro entry member
  obtain ⟨found, -⟩ := mem_logFiles.mp member
  exact (careful entry member).fileReads (found ▸ consistent.placed entry.1) found

theorem Consistent.ingest_path (consistent : history.Consistent decoders)
    (careful : history.Careful decoders (.ingest now sinceMinutes)) (path : String) :
    StartsLine (history.directory.get? path)
        ((history.step decoders (.ingest now sinceMinutes)).taken path) ∧
      entriesOf decoders (history.freshLines path) =
        history.delivered decoders now sinceMinutes path ++ entriesOf decoders
            ((history.step decoders (.ingest now sinceMinutes)).freshLines path) ∧
      (Text.endsWith ".jsonl" path = true →
        (history.step decoders (.ingest now sinceMinutes)).freshLines path = []) := by
  have quiet := consistent.nothingRaises careful
  have taken : (history.step decoders (.ingest now sinceMinutes)).taken path =
      history.takenAfter decoders now sinceMinutes history.taken path := rfl
  have fresh : (history.step decoders (.ingest now sinceMinutes)).freshLines path =
      freshOf (history.directory.get? path)
        ((history.step decoders (.ingest now sinceMinutes)).taken path) := rfl
  rw [LogSystem.takenAfter_of_nothingRaises quiet, LogSystem.findEntry_logFiles] at taken
  rw [LogSystem.delivered_of_nothingRaises quiet, LogSystem.findEntry_logFiles]
  have placed := consistent.placed path
  by_cases named : Text.endsWith ".jsonl" path = true
  · rw [if_pos named] at taken ⊢
    cases found : history.directory.get? path with
    | none =>
      rw [fresh, freshLines, found]
      exact ⟨fun _ absent => absurd absent (by simp), rfl, fun _ => rfl⟩
    | some file =>
      rw [found, Option.map_some, Option.getD_some] at taken
      rw [found] at placed
      have clean := careful (path, file) (mem_logFiles.mpr ⟨found, named⟩)
      rw [found, taken, freshOf_length] at fresh
      rw [taken, fresh, Option.map_some, Option.getD_some, clean.fileEntries_eq placed found]
      exact ⟨startsLine_length clean.ended, (List.append_nil _).symm, fun _ => rfl⟩
  · rw [if_neg named] at taken ⊢
    rw [Option.map_none, Option.getD_none] at taken
    rw [fresh, taken]
    exact ⟨placed, rfl, fun jsonl => absurd jsonl named⟩

theorem Consistent.ingest (consistent : history.Consistent decoders)
    (careful : history.Careful decoders (.ingest now sinceMinutes)) :
    (history.step decoders (.ingest now sinceMinutes)).Consistent decoders where
  placed := fun path => (consistent.ingest_path careful path).1
  account := by
    intro path
    have account := consistent.account path
    rw [(consistent.ingest_path careful path).2.1, ← List.append_assoc] at account
    exact account

end

theorem Consistent.step (consistent : history.Consistent decoders) (move : LogMove)
    (careful : history.Careful decoders move) :
    (history.step decoders move).Consistent decoders := by
  cases move with
  | append path bytes => exact consistent.append path bytes
  | rotate path inode archive => exact consistent.rotate inode careful.1 careful.2
  | truncate path => exact consistent.truncate careful
  | ingest now sinceMinutes => exact consistent.ingest careful

theorem consistent_start : ({} : LogHistory).Consistent decoders where
  placed := fun _ _ none => by cases none
  account := fun _ => rfl

/-- In a run whose moves are all careful, the entries that were handed on of every file are
those of its first complete lines, in their order and each once, and after a cycle those of
all complete lines. -/
theorem ingested_exactly_once (decoders : LogDecoders) (moves : List LogMove)
    (careful : Allowed (step decoders) (Careful decoders) {} moves) :
    (∀ earlier later, moves = earlier ++ later → ∀ path,
      (run (step decoders) {} earlier).ingested path <+:
        entriesOf decoders ((run (step decoders) {} earlier).written path)) ∧
    ∀ earlier now sinceMinutes later, moves = earlier ++ .ingest now sinceMinutes :: later →
        ∀ path, Text.endsWith ".jsonl" path = true →
          (run (step decoders) {} (earlier ++ [.ingest now sinceMinutes])).ingested path =
            entriesOf decoders
              ((run (step decoders) {} (earlier ++ [.ingest now sinceMinutes])).written
                path) := by
  have consistent : ∀ earlier later, moves = earlier ++ later →
      (run (step decoders) {} earlier).Consistent decoders := by
    intro earlier later split
    rw [split, allowed_append] at careful
    exact run_allowed (step decoders) (fun history => history.Consistent decoders)
      (fun _ move allowed holds => holds.step move allowed) careful.1 consistent_start
  constructor
  · intro earlier later split path
    rw [(consistent earlier later split).account path]
    exact List.prefix_append _ _
  · intro earlier now sinceMinutes later split path named
    have before := consistent earlier _ split
    have allowed := (allowed_iff_passed _ _ _ _).mp careful earlier _ later split
    have after := (before.ingest allowed).account path
    rw [run_concat]
    rw [(before.ingest_path allowed path).2.2 named] at after
    exact (after.trans (List.append_nil _)).symm

/-- The file that is written below. -/
def gatewayLog : String := "gateway.jsonl"

def wholeLine : List LogMove :=
  [.rotate gatewayLog 1 none, .append gatewayLog (encodeUtf8 "\x7b\x7d\n".toList), .ingest 3600 60]

/-- A line is read between its two halves and again after it. -/
def splitLine : List LogMove :=
  [.rotate gatewayLog 1 none, .append gatewayLog (encodeUtf8 "\x7b".toList), .ingest 3600 60,
    .append gatewayLog (encodeUtf8 "\x7d\n".toList), .ingest 7200 60]

theorem readLine_object (cutoffTime : Option Rat) :
    LogSystem.bareDecoders.readLine cutoffTime "\x7b\x7d".toList =
      .ok (some LogSystem.bareEntry) := by
  cases cutoffTime with
  | none => rfl
  | some cutoffTime => rfl

theorem lineEntry_object (cutoffTime : Option Rat) :
    LogSystem.bareDecoders.lineEntry cutoffTime (encodeUtf8 "\x7b\x7d".toList) =
      some LogSystem.bareEntry :=
  (LogDecoders.lineEntry_encodeUtf8 _).trans (LogDecoders.rowEntry_of_ok (readLine_object _))

theorem careful_wholeLine :
    Allowed (step LogSystem.bareDecoders) (Careful LogSystem.bareDecoders) {} wholeLine := by
  refine ⟨⟨rfl, fun _ none => by cases none⟩, trivial, ?_, trivial⟩
  intro entry member
  have files : logFiles (run (step LogSystem.bareDecoders) {} (wholeLine.take 2)).directory =
      [(gatewayLog, { inode := 1, content := encodeUtf8 "\x7b\x7d\n".toList })] :=
    LogSystem.logFiles_singleton rfl rfl
  cases List.mem_singleton.mp (files ▸ member)
  have fresh : (run (step LogSystem.bareDecoders) {} (wholeLine.take 2)).freshLines gatewayLog =
      [encodeUtf8 "\x7b\x7d".toList] := by
    decide
  constructor
  · decide
  · exact .inl rfl
  · intro line waiting
    cases List.mem_singleton.mp (fresh ▸ waiting)
    exact LogDecoders.reads_encodeUtf8.mpr ⟨_, readLine_object _⟩
  · intro line waiting
    cases List.mem_singleton.mp (fresh ▸ waiting)
    rw [lineEntry_object, lineEntry_object]

theorem ingested_exactly_once_wholeLine :
    (run (step LogSystem.bareDecoders) {} wholeLine).ingested gatewayLog =
      entriesOf LogSystem.bareDecoders
        ((run (step LogSystem.bareDecoders) {} wholeLine).written gatewayLog) :=
  (ingested_exactly_once LogSystem.bareDecoders wholeLine careful_wholeLine).2
    (wholeLine.take 2) 3600 60 [] rfl gatewayLog rfl

section

variable {system : LogSystem} {now : Rat} {sinceMinutes : Int} {path : String} {file : LogFile}

theorem ingest_of_no_document (only : logFiles system.directory = [(path, file)])
    (skipped : ∀ line ∈ unreadLines (offsetInfo system.offsets path file) file,
      ∃ row, encodeUtf8 row = line ∧ ∀ cutoffTime, decoders.readLine cutoffTime row = .ok none) :
    system.delivered decoders now sinceMinutes path = [] ∧
      (ingest decoders now sinceMinutes system.directory system.offsets).2 =
        system.offsets.set path (nextOffset (offsetInfo system.offsets path file) file) := by
  have reads : FileReads decoders (now - sinceMinutes * 60) system.offsets (path, file) := by
    intro line member
    obtain ⟨row, rfl, skips⟩ := skipped line member
    exact LogDecoders.reads_encodeUtf8.mpr ⟨none, skips _⟩
  have nothing : fileEntries decoders (now - sinceMinutes * 60) system.offsets (path, file) =
      [] := by
    rw [fileEntries, List.filterMap_eq_nil_iff]
    intro line member
    obtain ⟨row, rfl, skips⟩ := skipped line member
    rw [LogDecoders.lineEntry_encodeUtf8, LogDecoders.rowEntry_of_ok (skips _)]
  have quiet : system.NothingRaises decoders now sinceMinutes := by
    rw [LogSystem.NothingRaises, only, List.forall_mem_singleton]
    exact reads
  constructor
  · rw [LogSystem.delivered_of_nothingRaises quiet, only, Dict.findEntry, if_pos rfl,
      Option.map_some, Option.getD_some, nothing]
  · exact LogSystem.ingest_offsets_singleton only reads

end

theorem readLine_half {text : String} (half : text = "\x7b" ∨ text = "\x7d" ∨ text = "")
    (cutoffTime : Option Rat) :
    LogSystem.bareDecoders.readLine cutoffTime text.toList = .ok none := by
  rcases half with rfl | rfl | rfl <;> rfl

theorem forall_half {lines : List String} {unread : List (List UInt8)}
    (split : unread = lines.map fun text => encodeUtf8 text.toList)
    (halves : ∀ text ∈ lines, text = "\x7b" ∨ text = "\x7d" ∨ text = "") :
    ∀ line ∈ unread, ∃ row, encodeUtf8 row = line ∧
      ∀ cutoffTime, LogSystem.bareDecoders.readLine cutoffTime row = .ok none := by
  intro line member
  obtain ⟨text, inside, rfl⟩ := List.mem_map.mp (split ▸ member)
  exact ⟨text.toList, rfl, readLine_half (halves text inside)⟩

/-- The line is complete after its second half, and is never ingested. -/
theorem split_line_is_lost : ¬ ((∀ earlier later, splitLine = earlier ++ later → ∀ path,
        (run (step LogSystem.bareDecoders) {} earlier).ingested path <+:
          entriesOf LogSystem.bareDecoders
            ((run (step LogSystem.bareDecoders) {} earlier).written path)) ∧
      ∀ earlier now sinceMinutes later, splitLine = earlier ++ .ingest now sinceMinutes :: later →
          ∀ path, Text.endsWith ".jsonl" path = true → (run (step LogSystem.bareDecoders) {}
                (earlier ++ [.ingest now sinceMinutes])).ingested path =
              entriesOf LogSystem.bareDecoders
                ((run (step LogSystem.bareDecoders) {}
                  (earlier ++ [.ingest now sinceMinutes])).written path)) := by
  rintro ⟨-, every⟩
  have complete := every (splitLine.take 4) 7200 60 [] rfl gatewayLog rfl
  have first := @ingest_of_no_document LogSystem.bareDecoders
    (run (step LogSystem.bareDecoders) {} (splitLine.take 2)).toLogSystem 3600 60 gatewayLog
    { inode := 1, content := encodeUtf8 "\x7b".toList } (LogSystem.logFiles_singleton rfl rfl)
    (@forall_half ["\x7b"] _ (byteLines_encodeUtf8 "\x7b".toList) (by decide))
  have offsets : (run (step LogSystem.bareDecoders) {} (splitLine.take 4)).offsets =
      Dict.empty.set gatewayLog { inode := 1, offset := 1 } :=
    first.2
  have second := @ingest_of_no_document LogSystem.bareDecoders
    (run (step LogSystem.bareDecoders) {} (splitLine.take 4)).toLogSystem 7200 60 gatewayLog
    { inode := 1, content := encodeUtf8 "\x7b\x7d\n".toList }
    (LogSystem.logFiles_singleton rfl rfl)
    (by
      rw [offsets]
      exact @forall_half ["\x7d", ""] _ (byteLines_encodeUtf8 "\x7d\n".toList) (by decide))
  have ingested : (run (step LogSystem.bareDecoders) {}
      (splitLine.take 4 ++ [.ingest 7200 60])).ingested gatewayLog = [] :=
    congrArg₂ (fun before after : List LogEntry => [] ++ before ++ after) first.1 second.1
  have written : (run (step LogSystem.bareDecoders) {}
      (splitLine.take 4 ++ [.ingest 7200 60])).written gatewayLog =
        [encodeUtf8 "\x7b\x7d".toList] := by
    decide
  rw [ingested, written, entriesOf, List.filterMap_cons_some (lineEntry_object none)] at complete
  cases complete

end LogHistory

end Onpremai.Observer
