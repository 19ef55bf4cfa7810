import Onpremai.Observer.IngestCycles

/-!
# Jobs that share the log ingestor

The quality check, the prompt optimization and the model fit each analyse a window of the log
of their own, through one ingestor.  What one of them has read is behind the offset for the
others, so that a job sees only what no other job has read before.
-/

namespace Onpremai.Observer

open Onpremai.Library

namespace LogDecoders

variable (decoders : LogDecoders)

def InWindow (now : Rat) (sinceMinutes : Int) (entry : LogEntry) : Prop :=
  ∃ time, decoders.fromIsoFormat (replaceZ entry.timestamp) = .ok time ∧
    now - sinceMinutes * 60 ≤ time ∧ time ≤ now

variable {decoders}

theorem timestamp_of_entryOfFields {data : LogValue} {entry : LogEntry}
    (ran : decoders.entryOfFields data = .ok entry) :
    ∃ timestamp, data.get "timestamp" (.str "") = .ok timestamp ∧
      entry.timestamp = decoders.strOf timestamp := by
  rw [entryOfFields] at ran
  obtain ⟨timestamp, got, ran⟩ := bind_eq_ok.mp ran
  refine ⟨timestamp, got, ?_⟩
  -- the other fields are read after the time and leave it as it is
  repeat
    obtain ⟨_, -, ran⟩ := bind_eq_ok.mp ran
  cases ran
  rfl

theorem entryOfFields_of_fromDict {data : LogValue} {entry : LogEntry}
    (ran : decoders.fromDict data = .ok (some entry)) :
    decoders.entryOfFields data = .ok entry := by
  rw [fromDict] at ran
  cases fields : decoders.entryOfFields data with
  | ok read =>
    rw [fields] at ran
    cases ran
    rfl
  | error error =>
    rw [fields] at ran
    dsimp only at ran
    split at ran <;> cases ran

theorem readDocument_of_inWindow {now : Rat} {sinceMinutes : Int} {data : LogValue}
    {entry : LogEntry} (returns : Returns (decoders.readDocument
      (some (now - sinceMinutes * 60)) data))
    (read : decoders.readDocument none data = .ok (some entry))
    (inside : decoders.InWindow now sinceMinutes entry) :
    decoders.readDocument (some (now - sinceMinutes * 60)) data = .ok (some entry) := by
  obtain ⟨timestamp, got, same⟩ := timestamp_of_entryOfFields (entryOfFields_of_fromDict read)
  obtain ⟨time, parsed, recent, -⟩ := inside
  rw [readDocument, returns_bind] at returns
  obtain ⟨_, gotAgain, returns⟩ := returns
  rw [got] at gotAgain
  cases gotAgain
  rw [readDocument, got]
  cases timestamp with
  | str text =>
    have current : decoders.isOlder (now - sinceMinutes * 60) (.str text) = .ok false := by
      rw [same, strOf] at parsed
      rw [isOlder, parsed]
      exact congrArg Except.ok (decide_eq_false (not_lt.mpr recent))
    change (decoders.isOlder (now - sinceMinutes * 60) (.str text) >>= _) = _
    rw [current]
    exact read
  | _ => exact absurd returns (not_returns_error _)

section

variable {cutoffTime : Option Rat}

theorem readDocument_none {data : LogValue} {entry : LogEntry}
    (read : decoders.readDocument cutoffTime data = .ok (some entry)) :
    decoders.readDocument none data = .ok (some entry) := by
  cases cutoffTime with
  | none => exact read
  | some cutoffTime =>
    rw [readDocument] at read
    obtain ⟨timestamp, -, read⟩ := bind_eq_ok.mp read
    obtain ⟨older, -, read⟩ := bind_eq_ok.mp read
    cases older with
    | true => cases read
    | false => exact read

theorem rowEntry_eq_some {row : List Char} {entry : LogEntry} :
    decoders.rowEntry cutoffTime row = some entry ↔
      decoders.readLine cutoffTime row = .ok (some entry) := by
  rw [rowEntry]
  cases decoders.readLine cutoffTime row with
  | ok read => exact Except.ok.injEq read (some entry) ▸ Iff.rfl
  | error error => exact iff_of_false (fun same => by cases same) (fun same => by cases same)

theorem exists_document {row : List Char} {entry : LogEntry}
    (read : decoders.readLine cutoffTime row = .ok (some entry)) :
    ∃ data, ∀ other, decoders.readLine other row = decoders.readDocument other data := by
  by_cases blank : Text.strip (String.ofList row) = ""
  · rw [readLine, if_pos blank] at read
    cases read
  · rw [readLine, if_neg blank] at read
    cases loaded : decoders.loads (Text.strip (String.ofList row)) with
    | ok data =>
      refine ⟨data, fun other => ?_⟩
      rw [readLine, if_neg blank, loaded]
    | error error =>
      rw [loaded] at read
      cases error <;> cases read

end

theorem lineEntry_iff_of_inWindow {now : Rat} {sinceMinutes : Int} {info : Option FileOffset}
    {line : List UInt8} {entry : LogEntry}
    (reads : decoders.Reads (firstCutoff (now - sinceMinutes * 60) info) line)
    (inside : decoders.InWindow now sinceMinutes entry) :
    decoders.lineEntry (firstCutoff (now - sinceMinutes * 60) info) line = some entry ↔
      decoders.lineEntry none line = some entry := by
  obtain ⟨row, decoded, returns⟩ := reads
  rw [lineEntry, lineEntry, decoded, Option.bind_some, Option.bind_some, rowEntry_eq_some,
    rowEntry_eq_some]
  constructor
  · intro read
    obtain ⟨data, same⟩ := exists_document read
    rw [same] at read ⊢
    exact readDocument_none read
  · intro read
    obtain ⟨data, same⟩ := exists_document read
    rw [same] at read returns ⊢
    rw [firstCutoff] at returns ⊢
    split at returns
    next known => rw [if_pos known, read]
    next first => rw [if_neg first, readDocument_of_inWindow returns read inside]

end LogDecoders

/-! ## Jobs -/

/-- The scheduled jobs that analyse the log. -/
inductive ObserverJob where
  | qualityCheck
  | promptOptimization
  | modelFit
  deriving DecidableEq

def ObserverJob.windowMinutes (driftDetectionWindowDays : Int) : ObserverJob → Int
  | .qualityCheck => 60
  | .promptOptimization => 360
  | .modelFit => driftDetectionWindowDays * 24 * 60

/-- The log files and the shared ingestor, with the entries that each job was given. -/
structure SharedLog extends LogSystem where
  seen : ObserverJob → List LogEntry := fun _ => []

/-- The log is written, rotated or truncated, or a job runs. -/
inductive SharedMove where
  | append (path : String) (bytes : List UInt8)
  | rotate (path : String) (inode : Nat) (archive : Option String)
  | truncate (path : String)
  | runJob (job : ObserverJob) (now : Rat)

namespace SharedLog

section

variable (decoders : LogDecoders) (driftDetectionWindowDays : Int) (shared : SharedLog)

def step : SharedMove → SharedLog
  | .append path bytes =>
    { shared with toLogSystem := shared.toLogSystem.step decoders (.append path bytes) }
  | .rotate path inode archive =>
    { shared with toLogSystem := shared.toLogSystem.step decoders (.rotate path inode archive) }
  | .truncate path =>
    { shared with toLogSystem := shared.toLogSystem.step decoders (.truncate path) }
  | .runJob job now =>
    let minutes := job.windowMinutes driftDetectionWindowDays
    { toLogSystem := shared.toLogSystem.step decoders (.ingest now minutes)
      seen := Function.update shared.seen job
        (shared.seen job ++ shared.returned decoders now minutes) }

def Logged (entry : LogEntry) : Prop :=
  ∃ item ∈ logFiles shared.directory, ∃ line ∈ completeLines item.2.content,
    decoders.lineEntry none line = some entry

def Unread (entry : LogEntry) : Prop := ∃ item ∈ logFiles shared.directory,
    ∃ line ∈ unreadLines (offsetInfo shared.offsets item.1 item.2) item.2,
      decoders.lineEntry none line = some entry

def SeesWindow (job : ObserverJob) (now : Rat) : Prop := ∀ entry, shared.Logged decoders entry →
    decoders.InWindow now (job.windowMinutes driftDetectionWindowDays) entry →
      entry ∈ (shared.step decoders driftDetectionWindowDays (.runJob job now)).seen job

def LeftForJob (job : ObserverJob) (now : Rat) : Prop := ∀ entry, shared.Logged decoders entry →
    decoders.InWindow now (job.windowMinutes driftDetectionWindowDays) entry →
      entry ∈ shared.seen job ∨ shared.Unread decoders entry ∧
        shared.NothingRaises decoders now (job.windowMinutes driftDetectionWindowDays)

end

section

variable {decoders : LogDecoders} {driftDetectionWindowDays : Int} {shared : SharedLog}

theorem mem_returned_iff {now : Rat} {sinceMinutes : Int} {entry : LogEntry}
    (inside : decoders.InWindow now sinceMinutes entry) :
    entry ∈ shared.returned decoders now sinceMinutes ↔
      shared.Unread decoders entry ∧ shared.NothingRaises decoders now sinceMinutes := by
  by_cases quiet : shared.NothingRaises decoders now sinceMinutes
  · rw [LogSystem.returned_of_nothingRaises quiet, and_iff_left quiet, LogSystem.dueEntries,
      List.mem_flatMap, Unread]
    apply exists_congr
    intro item
    apply and_congr_right
    intro member
    rw [fileEntries, List.mem_filterMap]
    apply exists_congr
    intro line
    apply and_congr_right
    intro unread
    exact LogDecoders.lineEntry_iff_of_inWindow (quiet item member line unread) inside
  · rw [LogSystem.returned_of_raises quiet]
    exact iff_of_false List.not_mem_nil (fun both => quiet both.2)

theorem seesWindow_iff (job : ObserverJob) (now : Rat) :
    shared.SeesWindow decoders driftDetectionWindowDays job now ↔
      shared.LeftForJob decoders driftDetectionWindowDays job now := by
  have seen : (shared.step decoders driftDetectionWindowDays (.runJob job now)).seen job =
      shared.seen job ++
        shared.returned decoders now (job.windowMinutes driftDetectionWindowDays) :=
    Function.update_self _ _ _
  rw [SeesWindow, LeftForJob, seen]
  apply forall_congr'
  intro entry
  apply forall₂_congr
  intro _ inside
  rw [List.mem_append, mem_returned_iff inside]

end

/-- In a run from the first start on, every run of a job leaves it with all entries of its
window exactly when each of them was given to the same job before, or it is unread and no
unread line raises. -/
theorem jobs_see_windows_iff (decoders : LogDecoders) (driftDetectionWindowDays : Int)
    (moves : List SharedMove) :
    (∀ earlier job now later, moves = earlier ++ .runJob job now :: later →
      (run (step decoders driftDetectionWindowDays) {} earlier).SeesWindow decoders
        driftDetectionWindowDays job now) ↔
      ∀ earlier job now later, moves = earlier ++ .runJob job now :: later →
        (run (step decoders driftDetectionWindowDays) {} earlier).LeftForJob decoders
          driftDetectionWindowDays job now := by
  simp only [seesWindow_iff]

/-- A line of the log with a time. -/
def stampedLine : String := "\x7b\"timestamp\": \"1970-01-01T00:50:00Z\"\x7d"

def stampedDecoders : LogDecoders where
  loads text :=
    if text = stampedLine then .ok (.obj [("timestamp", .str "1970-01-01T00:50:00Z")])
    else .error .jsonDecodeError
  fromIsoFormat text :=
    if text = "1970-01-01T00:50:00+00:00" then .ok 3000 else .error .valueError
  intOfString _ := none
  floatOfString _ := none
  reprOf _ := ""

def stampedFile : LogFile where
  inode := 1
  content := encodeUtf8 (stampedLine ++ "\n").toList

def competingJobs : List SharedMove :=
  [.rotate "gateway.jsonl" 1 none, .append "gateway.jsonl" stampedFile.content,
    .runJob .qualityCheck 3600, .runJob .promptOptimization 3600]

theorem byteLines_stampedFile :
    byteLines stampedFile.content = [encodeUtf8 stampedLine.toList, []] :=
  byteLines_encodeUtf8 _

def stampedEntry : LogEntry :=
  { LogSystem.bareEntry with timestamp := "1970-01-01T00:50:00Z" }

theorem readLine_stampedLine :
    stampedDecoders.readLine none stampedLine.toList = .ok (some stampedEntry) := rfl

theorem inWindow_stampedEntry (job : ObserverJob) :
    stampedDecoders.InWindow 3600 (job.windowMinutes 7) stampedEntry := by
  refine ⟨3000, rfl, ?_, by decide⟩
  cases job <;> decide +kernel

theorem returns_stampedLine (cutoffTime : Rat) :
    Returns (stampedDecoders.readLine (some cutoffTime) stampedLine.toList) := by
  have read : stampedDecoders.readLine (some cutoffTime) stampedLine.toList =
      if decide (3000 < cutoffTime) = true then .ok none else .ok (some stampedEntry) := rfl
  rw [read]
  split
  · exact returns_ok _
  · exact returns_ok _

theorem unreadLines_stampedFile :
    unreadLines none stampedFile = [encodeUtf8 stampedLine.toList, []] :=
  byteLines_encodeUtf8 _

theorem fileReads_stampedFile (cutoffTime : Rat) :
    FileReads stampedDecoders cutoffTime .empty ("gateway.jsonl", stampedFile) := by
  intro line member
  change line ∈ unreadLines none stampedFile at member
  rw [unreadLines_stampedFile, List.mem_cons, List.mem_singleton] at member
  rcases member with rfl | rfl
  · exact LogDecoders.reads_encodeUtf8.mpr (returns_stampedLine cutoffTime)
  · exact LogDecoders.reads_nil _

/-- The prompt optimization does not see the line, which lies in its window: the quality check
has read it. -/
theorem window_is_taken :
    ¬ ∀ earlier job now later, competingJobs = earlier ++ .runJob job now :: later →
      (run (step stampedDecoders 7) {} earlier).SeesWindow stampedDecoders 7 job now := by
  intro every
  have left := (seesWindow_iff _ _).mp
    (every (competingJobs.take 3) .promptOptimization 3600 [] rfl)
  have files : logFiles (run (step stampedDecoders 7) {} (competingJobs.take 3)).directory =
      [("gateway.jsonl", stampedFile)] :=
    LogSystem.logFiles_singleton rfl rfl
  have offsets : (run (step stampedDecoders 7) {} (competingJobs.take 3)).offsets =
      Dict.empty.set "gateway.jsonl" (nextOffset none stampedFile) :=
    @LogSystem.ingest_offsets_singleton stampedDecoders
      (run (step stampedDecoders 7) {} (competingJobs.take 2)).toLogSystem 3600 60
      ("gateway.jsonl", stampedFile) (LogSystem.logFiles_singleton rfl rfl)
      (fileReads_stampedFile _)
  have logged : (run (step stampedDecoders 7) {} (competingJobs.take 3)).Logged
      stampedDecoders stampedEntry := by
    refine ⟨_, files ▸ List.mem_cons_self, encodeUtf8 stampedLine.toList, ?_, ?_⟩
    · rw [completeLines, byteLines_stampedFile]
      exact List.mem_cons_self
    · rw [LogDecoders.lineEntry_encodeUtf8]
      exact LogDecoders.rowEntry_of_ok readLine_stampedLine
  rcases left stampedEntry logged (inWindow_stampedEntry _) with given | ⟨unread, -⟩
  · exact absurd given List.not_mem_nil
  · obtain ⟨item, member, line, waiting, held⟩ := unread
    cases List.mem_singleton.mp (files ▸ member)
    have behind : unreadLines (some (nextOffset none stampedFile)) stampedFile = [[]] := by
      rw [unreadLines, startOffset, nextOffset, startOffset, Option.elim_none,
        Option.elim_some, Nat.max_eq_right (Nat.zero_le _), List.drop_length]
      rfl
    have info : offsetInfo (run (step stampedDecoders 7) {} (competingJobs.take 3)).offsets
        "gateway.jsonl" stampedFile = some (nextOffset none stampedFile) := by
      rw [offsets]
      rfl
    rw [info, behind, List.mem_singleton] at waiting
    rw [waiting, LogDecoders.lineEntry_nil] at held
    cases held

end SharedLog

end Onpremai.Observer
