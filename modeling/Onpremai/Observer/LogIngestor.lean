import Mathlib.Data.List.Sort
import Onpremai.Observer.Diagnosis

/-!
# Log ingestor

The ingestor reads the log files of a directory from the offsets at which it stopped, each
line as a JSON document with the fields of an entry.  An exception that is not caught at
the line leaves the whole call.
-/

namespace Onpremai.Observer

open Onpremai.Library

/-- A decoded document of the log.  The decoder yields infinite numbers and such that are
not a number, too. -/
inductive LogValue where
  | null
  | bool (value : Bool)
  | int (value : Int)
  | float (value : FloatValue)
  | str (text : String)
  | arr (items : List LogValue)
  | obj (fields : List (String × LogValue))

/-- Decoding functions of the runtime: documents, times in ISO format, numbers written in a
string, and the text of a decoded value that is no string. -/
structure LogDecoders where
  loads : String → Except PyError LogValue
  fromIsoFormat : String → Except PyError Rat
  intOfString : String → Option Int
  floatOfString : String → Option FloatValue
  reprOf : LogValue → String

/-- Parsed gateway log entry. -/
structure LogEntry where
  timestamp : String
  traceId : String
  agent : String
  task : String
  tierRequested : String
  tierUsed : String
  modelUsed : String
  escalated : Bool
  inputTokens : Int
  outputTokens : Int
  latencyMs : Int
  confidence : FloatValue
  success : Bool
  error : LogValue
  tenantId : String
  toolCallsCount : Int
  parseSuccess : Bool
  costUsd : FloatValue

namespace LogValue

/-- `value.get(key, default)`: a value that is no dictionary has no `get`. -/
def get (value : LogValue) (key : String) (default : LogValue) : Except PyError LogValue :=
  match value with
  | .obj fields => .ok ((fields.lookup key).getD default)
  | _ => .error .attributeError

/-- `bool(value)`. -/
def truthy : LogValue → Bool
  | .null => false
  | .bool value => value
  | .int value => decide (value ≠ 0)
  | .float value => decide (value ≠ .finite 0)
  | .str text => decide (text ≠ "")
  | .arr items => !items.isEmpty
  | .obj fields => !fields.isEmpty

end LogValue

namespace LogDecoders

variable (decoders : LogDecoders)

/-- `str(value)`. -/
def strOf : LogValue → String
  | .str text => text
  | value => decoders.reprOf value

/-- `int(value)`: a float is cut off towards zero. -/
def intOf : LogValue → Except PyError Int
  | .int value => .ok value
  | .bool value => .ok (if value then 1 else 0)
  | .float (.finite value) => .ok (value.num.tdiv value.den)
  | .float (.infinite _) => .error .overflowError
  | .float .nan => .error .valueError
  | .str text =>
    match decoders.intOfString text with
    | some value => .ok value
    | none => .error .valueError
  | _ => .error .typeError

/-- `float(value)`. -/
def floatOf : LogValue → Except PyError FloatValue
  | .int value =>
    if floatLimit ≤ value ∨ (value : Rat) ≤ -floatLimit then .error .overflowError
    else .ok (.finite value)
  | .bool value => .ok (.finite (if value then 1 else 0))
  | .float value => .ok value
  | .str text =>
    match decoders.floatOfString text with
    | some value => .ok value
    | none => .error .valueError
  | _ => .error .typeError

def entryOfFields (data : LogValue) : Except PyError LogEntry := do
  let timestamp ← data.get "timestamp" (.str "")
  let traceId ← data.get "trace_id" (.str "")
  let agent ← data.get "agent" (.str "")
  let task ← data.get "task" (.str "")
  let tierRequested ← data.get "tier_requested" (.str "")
  let tierUsed ← data.get "tier_used" (.str "")
  let modelUsed ← data.get "model_used" (.str "")
  let escalated ← data.get "escalated" (.bool false)
  let inputTokens ← decoders.intOf (← data.get "input_tokens" (.int 0))
  let outputTokens ← decoders.intOf (← data.get "output_tokens" (.int 0))
  let latencyMs ← decoders.intOf (← data.get "latency_ms" (.int 0))
  let confidence ← decoders.floatOf (← data.get "confidence" (.float (.finite 0)))
  let success ← data.get "success" (.bool true)
  let error ← data.get "error" .null
  let tenantId ← data.get "tenant_id" (.str "")
  let toolCallsCount ← decoders.intOf (← data.get "tool_calls_count" (.int 0))
  let parseSuccess ← data.get "parse_success" (.bool true)
  let costUsd ← decoders.floatOf (← data.get "cost_usd" (.float (.finite 0)))
  return {
    timestamp := decoders.strOf timestamp
    traceId := decoders.strOf traceId
    agent := decoders.strOf agent
    task := decoders.strOf task
    tierRequested := decoders.strOf tierRequested
    tierUsed := decoders.strOf tierUsed
    modelUsed := decoders.strOf modelUsed
    escalated := escalated.truthy
    inputTokens, outputTokens, latencyMs, confidence
    success := success.truthy
    error
    tenantId := decoders.strOf tenantId
    toolCallsCount
    parseSuccess := parseSuccess.truthy
    costUsd }

def isInvalidData : PyError → Bool
  | .valueError => true
  | .typeError => true
  | _ => false

def fromDict (data : LogValue) : Except PyError (Option LogEntry) :=
  match decoders.entryOfFields data with
  | .ok entry => .ok (some entry)
  | .error error => if isInvalidData error then .ok none else .error error

/-- `text.replace("Z", "+00:00")`. -/
def replaceZ (text : String) : String :=
  String.ofList (text.toList.flatMap fun char =>
    if char = 'Z' then "+00:00".toList else [char])

def isOlder (cutoffTime : Rat) : LogValue → Except PyError Bool
  | .str text =>
    match decoders.fromIsoFormat (replaceZ text) with
    | .ok entryTime => .ok (decide (entryTime < cutoffTime))
    | .error error => if isInvalidData error then .ok false else .error error
  | _ => .error .attributeError

def readDocument (cutoffTime : Option Rat) (data : LogValue) : Except PyError (Option LogEntry) :=
  match cutoffTime with
  | none => decoders.fromDict data
  | some cutoffTime => do
    let timestamp ← data.get "timestamp" (.str "")
    let older ← decoders.isOlder cutoffTime timestamp
    if older then return none
    decoders.fromDict data

def readLine (cutoffTime : Option Rat) (row : List Char) : Except PyError (Option LogEntry) :=
  let line := Text.strip (String.ofList row)
  if line = "" then .ok none
  else
    match decoders.loads line with
    | .error .jsonDecodeError => .ok none
    | .error error => .error error
    | .ok data => decoders.readDocument cutoffTime data

def readText (cutoffTime : Option Rat) (text : List Char) : Except PyError (List LogEntry) := do
  let read ← (textLines text).mapM (decoders.readLine cutoffTime)
  return read.reduceOption

end LogDecoders

/-- A log file: the number that the file system knows it by, and its bytes. -/
structure LogFile where
  inode : Nat
  content : List UInt8 := []
  deriving DecidableEq

/-- Tracks the read position in a log file. -/
structure FileOffset where
  inode : Nat
  offset : Nat
  deriving DecidableEq

def offsetInfo (offsets : Dict String FileOffset) (path : String) (file : LogFile) :
    Option FileOffset :=
  (offsets.get? path).filter fun info => decide (info.inode = file.inode)

/-- Where the ingestor starts to read. -/
def startOffset (info : Option FileOffset) : Nat := info.elim 0 FileOffset.offset

def firstCutoff (cutoffTime : Rat) (info : Option FileOffset) : Option Rat :=
  if info.isSome then none else some cutoffTime

section

variable (decoders : LogDecoders)

def readFile (cutoffTime : Rat) (info : Option FileOffset) (file : LogFile) :
    Except PyError (List LogEntry × FileOffset) :=
  match decodeUtf8 (file.content.drop (startOffset info)) with
  | none => .error .valueError
  | some text => do
    let entries ← decoders.readText (firstCutoff cutoffTime info) text
    return (entries,
      { inode := file.inode, offset := max (startOffset info) file.content.length })

def readFiles (cutoffTime : Rat) : List (String × LogFile) → Dict String FileOffset →
    Except PyError (List (List LogEntry)) × Dict String FileOffset
  | [], offsets => (.ok [], offsets)
  | (path, file) :: rest, offsets =>
    match readFile decoders cutoffTime (offsetInfo offsets path file) file with
    | .error error => (.error error, offsets)
    | .ok (entries, offset) =>
      let others := readFiles cutoffTime rest (offsets.set path offset)
      (others.1.map (entries :: ·), others.2)

def logFiles (directory : Dict String LogFile) : List (String × LogFile) :=
  (directory.entries.filter fun entry => Text.endsWith ".jsonl" entry.1).mergeSort
    fun first second => decide (first.1 ≤ second.1)

def ingest (now : Rat) (sinceMinutes : Int) (directory : Dict String LogFile)
    (offsets : Dict String FileOffset) :
    Except PyError (List LogEntry) × Dict String FileOffset :=
  let read := readFiles decoders (now - sinceMinutes * 60) (logFiles directory) offsets
  (read.1.map List.flatten, read.2)

end

end Onpremai.Observer
