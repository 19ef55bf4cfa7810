import Mathlib.Algebra.GroupWithZero.Nat
import Onpremai.Library.Except
import Onpremai.Preprocessor.ServiceRuns

/-!
# Triggers

The polling trigger lists the storage and leaves directories, metadata and markers out.
The webhook processes every object that a notification of a creation names.
-/

namespace Onpremai.Preprocessor

open Onpremai.Library Onpremai.Library.Python

/-- Filter to actual files: no directories and no metadata files. -/
def pollFileKeys (keys : List String) : List String :=
  keys.filter fun key =>
    !Text.endsWith "/" key && !Text.endsWith "metadata.json" key && !Text.endsWith ".processed" key

def pollOnce (platform : Platform) (surroundings : String → Surroundings) :
    ServiceState → List String → ServiceState
  | state, [] => state
  | state, fileKey :: rest =>
    pollOnce platform surroundings
      (afterTrigger platform state fileKey (surroundings fileKey)) rest

/-! ## Notifications -/

/-- A notification of a bucket. -/
structure WebhookNotification where
  eventName : String
  bucketName : String
  objectKey : String
  objectSize : Int
  contentType : String
  deriving DecidableEq, Repr

def recordFields (record bucketInfo objectInfo : Json) : Except String (Json × Json × Json) :=
  if truthy objectInfo = false ∧ (record.get? "Key").isSome = true then do
    let objectKey ← getOr "Key" (.str "") record
    let objectSize ← getOr "Size" (.num 0) record
    let bucketName ← getOr "Bucket" (.str "") record
    return (objectKey, objectSize, bucketName)
  else do
    let objectKey ← getOr "key" (.str "") objectInfo
    let objectSize ← getOr "size" (.num 0) objectInfo
    let bucketName ← getOr "name" (.str "") bucketInfo
    return (objectKey, objectSize, bucketName)

def notificationOf (record : Json) (eventName : Json) :
    Except String (Option WebhookNotification) := do
  let s3Data ← getOr "s3" (.obj []) record
  let bucketInfo ← getOr "bucket" (.obj []) s3Data
  let objectInfo ← getOr "object" (.obj []) s3Data
  let fields ← recordFields record bucketInfo objectInfo
  if truthy fields.1 then do
    let contentType ← getOr "contentType" (.str "") objectInfo
    let eventName ← textField eventName
    let bucketName ← textField fields.2.2
    let objectKey ← textField fields.1
    let objectSize ← intField fields.2.1
    let contentType ← textField contentType
    return some { eventName, bucketName, objectKey, objectSize, contentType }
  else return none

def parseRecord (record : Json) : Except String (Option WebhookNotification) := do
  let otherName ← getOr "EventName" (.str "") record
  let eventName ← getOr "eventName" otherName record
  let created ← occursInValue "ObjectCreated" eventName
  if created then notificationOf record eventName
  else do
    let put ← occursInValue "Put" eventName
    if put then notificationOf record eventName else return none

def parseNotifications (body : Json) : Except String (List WebhookNotification) := do
  let records ← getOr "Records" (.arr []) body
  let records ←
    (if truthy records = false ∧ (body.get? "EventName").isSome = true then .ok [body]
    else iterated records)
  records.filterMapM parseRecord

def processNotified (platform : Platform) (surroundings : Surroundings) :
    ServiceState → List WebhookNotification → ServiceState × List (String × Json)
  | state, [] => (state, [])
  | state, notification :: rest =>
    let written :=
      (processFileOn platform state notification.objectKey surroundings).2.metadataWrites
    let after := processNotified platform surroundings
      (afterTrigger platform state notification.objectKey surroundings) rest
    (after.1, written ++ after.2)

def handleNotification (platform : Platform) (surroundings : Surroundings)
    (state : ServiceState) (body : Json) : ServiceState × List (String × Json) :=
  match parseNotifications body with
  | .error _ => (state, [])
  | .ok notifications => processNotified platform surroundings state notifications

def createdPayload (bucketName objectKey : String) (objectSize : Nat) : Json := .obj
    [("EventName", .str "s3:ObjectCreated:Put"), ("Key", .str (bucketName ++ "/" ++ objectKey)),
     ("Records", .arr [.obj
       [("eventName", .str "s3:ObjectCreated:Put"), ("s3", .obj
          [("bucket", .obj [("name", .str bucketName)]),
           ("object", .obj [("key", .str objectKey), ("size", .num objectSize)])])]])]

section

variable (bucketName : String) {objectKey : String} (objectSize : Nat)

theorem parseRecord_created (named : objectKey ≠ "") : parseRecord (.obj
        [("eventName", .str "s3:ObjectCreated:Put"), ("s3", .obj
           [("bucket", .obj [("name", .str bucketName)]),
            ("object", .obj [("key", .str objectKey), ("size", .num objectSize)])])]) = .ok (some
        { eventName := "s3:ObjectCreated:Put", bucketName, objectKey
          objectSize, contentType := "" }) := by
  have created : Text.contains "ObjectCreated" "s3:ObjectCreated:Put" = true := by
    decide
  simp [parseRecord, notificationOf, recordFields, getOr, occursInValue, textField, intField,
    created, named, truthy, bind, Except.bind, pure, Except.pure]

theorem parseNotifications_created (named : objectKey ≠ "") :
    parseNotifications (createdPayload bucketName objectKey objectSize) =
      .ok [{ eventName := "s3:ObjectCreated:Put", bucketName, objectKey
             objectSize, contentType := "" }] := by
  rw [parseNotifications, createdPayload]
  simp [getOr, truthy, iterated, bind, Except.bind, List.filterMapM_cons,
    parseRecord_created bucketName objectSize named, pure, Except.pure]

end

end Onpremai.Preprocessor

/-!
## Runs in webhook mode

The bucket posts one notification for every object that is created, also for the metadata
that the pipeline writes, and delivers them in any order.  The webhook has no filter on
keys, so metadata is processed like an uploaded file and gets metadata of its own.
-/

namespace Onpremai.Preprocessor

open Onpremai.Library Onpremai.Library.Python

/-- A notification that the bucket has still to deliver.  The mark tells whether the
service itself wrote the object. -/
structure BucketEvent where
  objectKey : String
  objectSize : Nat
  written : Bool
  deriving DecidableEq, Repr

/-- The service, and the notifications that are on their way. -/
structure BucketState where
  service : ServiceState := {}
  pending : List BucketEvent := []

/-- A move of a run in webhook mode: an upload, or the delivery of one of the
notifications. -/
inductive BucketMove where
  | upload (objectKey : String) (fileBytes : Bytes)
  | deliver (index : Nat) (surroundings : Surroundings)
  | restart

section

variable (platform : Platform) (bucketName : String)

def deliverEvent (surroundings : Surroundings) (state : ServiceState) (event : BucketEvent) :
    ServiceState × List (String × Json) :=
  handleNotification platform surroundings state
    (createdPayload bucketName event.objectKey event.objectSize)

/-- The notifications for the documents that the service wrote. -/
def writtenEvents (writes : List (String × Json)) : List BucketEvent :=
  writes.map fun write =>
    { objectKey := write.1, objectSize := (platform.dumps write.2).length, written := true }

def bucketStep (state : BucketState) : BucketMove → BucketState
  | .upload objectKey fileBytes =>
    { service := serviceStep platform state.service (.upload objectKey fileBytes)
      pending := state.pending ++
        [{ objectKey, objectSize := fileBytes.length, written := false }] }
  | .deliver index surroundings =>
    match state.pending[index]? with
    | none => state
    | some event =>
      let delivered := deliverEvent platform bucketName surroundings state.service event
      { service := delivered.1
        pending := state.pending.eraseIdx index ++ writtenEvents platform delivered.2 }
  | .restart => { state with service := serviceStep platform state.service .restart }

def deliveredWrites (state : BucketState) (index : Nat) (surroundings : Surroundings) :
    List (String × Json) :=
  match state.pending[index]? with
  | none => []
  | some event => (deliverEvent platform bucketName surroundings state.service event).2

/-- Does the move deliver a notification, and so run the pipeline? -/
def deliversEvent (state : BucketState) : BucketMove → Bool
  | .deliver index _ => state.pending[index]?.isSome
  | _ => false

def processingRuns (state : BucketState) : List BucketMove → Nat
  | [] => 0
  | move :: rest =>
    (deliversEvent state move).toNat +
      processingRuns (bucketStep platform bucketName state move) rest

/-- The number of uploads of a run. -/
def uploads : List BucketMove → Nat
  | [] => 0
  | .upload _ _ :: rest => uploads rest + 1
  | _ :: rest => uploads rest

/-- Uploads settle: what the pipeline wrote never makes it write again, so that an upload
leads to at most two processing runs. -/
structure Settles (state : BucketState) (moves : List BucketMove) : Prop where
  noFeedback : ∀ earlier index surroundings later event,
    moves = earlier ++ .deliver index surroundings :: later →
      (run (bucketStep platform bucketName) state earlier).pending[index]? = some event →
        event.written = true → deliveredWrites platform bucketName
            (run (bucketStep platform bucketName) state earlier) index surroundings = []
  bounded : ∀ earlier later, moves = earlier ++ later →
    processingRuns platform bucketName state earlier ≤ 2 * uploads earlier

/-- A notification of metadata that the pipeline wrote meets a failure, a limit or known
content: the download fails, the metadata is over the size limit, its content is known, or
the storage takes no document. -/
def StopsFeedback (state : BucketState) : BucketMove → Prop
  | .deliver index surroundings =>
    ∀ event, state.pending[index]? = some event → event.written = true → ∀ fileBytes,
        (storageView platform state.service event.objectKey surroundings).download = .ok fileBytes →
          ¬ TooLarge platform.settings fileBytes → IsKnown (surroundings.servicesOn platform)
                (storageView platform state.service event.objectKey surroundings)
                event.objectKey { tracker := state.service.tracker } fileBytes ∨
              surroundings.writeSucceeds = false
  | _ => True

/-- Notifications of the service's own objects are about metadata. -/
def NamesMetadata (state : BucketState) : Prop := ∀ event ∈ state.pending, event.written = true →
    ∃ fileKey, event.objectKey = metadataKey fileKey

/-- The processing runs that the pending notifications can still lead to. -/
def weight (events : List BucketEvent) : Nat :=
  (events.map fun event => if event.written then 1 else 2).sum

end

/-- Nothing but leading dots of the name is dropped before the extension is read. -/
theorem dropWhile_dots_metadata (start : List Char) :
    ∃ kept, (start ++ ".metadata.json".toList).dropWhile (fun char => char == '.') =
      kept ++ "metadata.json".toList := by
  rw [List.dropWhile_append]
  split
  · exact ⟨[], rfl⟩
  · refine ⟨start.dropWhile (fun char => char == '.') ++ ['.'], ?_⟩
    rw [List.append_assoc]
    rfl

theorem afterLastSlash_metadataKey (fileKey : String) :
    ∃ start : List Char, (Text.afterLastSlash (metadataKey fileKey)).toList =
      start ++ ".metadata.json".toList := by
  refine ⟨(fileKey.toList.reverse.takeWhile fun char => char != '/').reverse, ?_⟩
  rw [Text.afterLastSlash, metadataKey, String.toList_append, List.reverse_append,
    String.toList_ofList, List.takeWhile_append_of_pos, List.reverse_append]
  · simp
  · exact List.all_eq_true.mp (by decide)

theorem splitExtension_metadataKey (fileKey : String) :
    splitExtension (metadataKey fileKey) = ".json" := by
  rcases afterLastSlash_metadataKey fileKey with ⟨start, name⟩
  rcases dropWhile_dots_metadata start with ⟨kept, dropped⟩
  rw [splitExtension, name, dropped]
  have dotted : (kept ++ "metadata.json".toList).contains '.' = true := by
    simp
  have extension : ((kept ++ "metadata.json".toList).reverse.takeWhile
      fun char => char != '.').reverse = "json".toList := by
    rw [List.reverse_append]
    rfl
  rw [if_pos dotted, extension]
  rfl

theorem detectFileType_metadataKey (services : PipelineServices) (fileKey : String)
    (fileBytes : Bytes) : detectFileType services (metadataKey fileKey) fileBytes = .json := by
  delta detectFileType
  rw [splitExtension_metadataKey]
  rfl

theorem metadataKey_ne_empty (fileKey : String) : metadataKey fileKey ≠ "" := by
  intro same
  simp [metadataKey] at same

section

variable {platform : Platform} {bucketName : String}

section

variable {surroundings : Surroundings} {state : ServiceState} {event : BucketEvent}

theorem deliverEvent_eq (named : event.objectKey ≠ "") :
    deliverEvent platform bucketName surroundings state event =
      (afterTrigger platform state event.objectKey surroundings,
        (processFileOn platform state event.objectKey surroundings).2.metadataWrites) := by
  rw [deliverEvent, handleNotification, parseNotifications_created _ _ named]
  simp [processNotified]

theorem deliverEvent_unnamed (unnamed : event.objectKey = "") :
    deliverEvent platform bucketName surroundings state event = (state, []) := by
  have nothing : parseNotifications
      (createdPayload bucketName event.objectKey event.objectSize) = .ok [] := by
    have created : Text.contains "ObjectCreated" "s3:ObjectCreated:Put" = true := by
      decide
    simp [parseNotifications, createdPayload, parseRecord, notificationOf, recordFields, getOr,
      occursInValue, created, truthy, iterated, unnamed, bind, Except.bind,
      List.filterMapM_cons, pure, Except.pure]
  rw [deliverEvent, handleNotification, nothing]
  rfl

end

section

variable (state : ServiceState) (fileKey : String) (surroundings : Surroundings)

theorem processFileOn_writes :
    (processFileOn platform state fileKey surroundings).2.metadataWrites = [] ∨
      ∃ document, (processFileOn platform state fileKey surroundings).2.metadataWrites =
        [(metadataKey fileKey, document)] := by
  have ran := @runFile_fileRun (surroundings.servicesOn platform) platform.settings
    (storageView platform state fileKey surroundings) fileKey { tracker := state.tracker }
  rw [processFileOn]
  cases ran with
  | idle notSkipped noWrites sameTracker => exact .inl noWrites
  | skipped fileBytes downloaded fits known noWrites marked => exact .inl noWrites
  | worked fileBytes downloaded fits fresh notSkipped written marked =>
    rw [written, acceptedWrites]
    split
    · exact .inr ⟨_, rfl⟩
    · exact .inl rfl

theorem processFileOn_metadata_eq_nil_iff :
    (processFileOn platform state (metadataKey fileKey) surroundings).2.metadataWrites = [] ↔
      ∀ fileBytes, (storageView platform state (metadataKey fileKey) surroundings).download =
            .ok fileBytes → ¬ TooLarge platform.settings fileBytes →
            IsKnown (surroundings.servicesOn platform)
                (storageView platform state (metadataKey fileKey) surroundings)
                (metadataKey fileKey) { tracker := state.tracker } fileBytes ∨
              surroundings.writeSucceeds = false := by
  constructor
  · intro nothing fileBytes downloaded fits
    by_contra goesOn
    rw [not_or, Bool.not_eq_false] at goesOn
    have fresh : ¬ IsSkipped (surroundings.servicesOn platform) platform.settings
        (storageView platform state (metadataKey fileKey) surroundings) (metadataKey fileKey)
        { tracker := state.tracker } fileBytes := by
      rintro ⟨-, described | tracked | unknown⟩
      · exact goesOn.1 (.inl described)
      · exact goesOn.1 (.inr tracked)
      · rw [detectFileType_metadataKey] at unknown
        cases unknown
    have taken : (storageView platform state (metadataKey fileKey)
        surroundings).writeSucceeds = true := goesOn.2
    rw [processFileOn, (runFile_supported downloaded fits fresh).2.1, acceptedWrites,
      if_pos taken] at nothing
    cases nothing
  · intro stops
    have ran := @runFile_fileRun (surroundings.servicesOn platform) platform.settings
      (storageView platform state (metadataKey fileKey) surroundings) (metadataKey fileKey)
      { tracker := state.tracker }
    rw [processFileOn]
    cases ran with
    | idle notSkipped noWrites sameTracker => exact noWrites
    | skipped fileBytes downloaded fits known noWrites marked => exact noWrites
    | worked fileBytes downloaded fits fresh notSkipped written marked =>
      rcases stops fileBytes downloaded fits with known | refused
      · rcases known with described | tracked
        · exact absurd ⟨fits, .inl described⟩ fresh
        · exact absurd ⟨fits, .inr (.inl tracked)⟩ fresh
      · have taken : (storageView platform state (metadataKey fileKey)
            surroundings).writeSucceeds = false := refused
        rw [written, acceptedWrites, taken]
        rfl

end

theorem deliverEvent_writes (surroundings : Surroundings) (state : ServiceState)
    (event : BucketEvent) :
    (deliverEvent platform bucketName surroundings state event).2 = [] ∨
      ∃ document, (deliverEvent platform bucketName surroundings state event).2 =
        [(metadataKey event.objectKey, document)] := by
  by_cases named : event.objectKey = ""
  · rw [deliverEvent_unnamed named]
    exact .inl rfl
  · rw [deliverEvent_eq named]
    exact processFileOn_writes state event.objectKey surroundings

theorem namesMetadata_step (state : BucketState) (move : BucketMove)
    (names : NamesMetadata state) : NamesMetadata (bucketStep platform bucketName state move) := by
  intro event pending written
  cases move with
  | upload objectKey fileBytes =>
    rcases List.mem_append.mp pending with before | added
    · exact names event before written
    · rw [List.mem_singleton] at added
      rw [added] at written
      cases written
  | restart => exact names event pending written
  | deliver index surroundings =>
    rw [bucketStep] at pending
    split at pending
    · exact names event pending written
    · next delivered found =>
      rcases List.mem_append.mp pending with before | added
      · exact names event (List.mem_of_mem_eraseIdx before) written
      · rcases @deliverEvent_writes platform bucketName surroundings state.service
          delivered with nothing | ⟨document, wrote⟩
        · rw [nothing] at added
          cases added
        · rw [wrote] at added
          refine ⟨delivered.objectKey, ?_⟩
          rw [List.mem_singleton.mp added]

theorem deliveredWrites_eq_nil_iff {state : BucketState} (names : NamesMetadata state)
    (index : Nat) (surroundings : Surroundings) :
    (∀ event, state.pending[index]? = some event → event.written = true →
        deliveredWrites platform bucketName state index surroundings = []) ↔
      StopsFeedback platform state (.deliver index surroundings) := by
  apply forall_congr'
  intro event
  apply imp_congr_right
  intro found
  apply imp_congr_right
  intro written
  rcases names event (List.mem_of_getElem? found) written with ⟨fileKey, key⟩
  rw [deliveredWrites, found]
  dsimp only
  rw [deliverEvent_eq (key ▸ metadataKey_ne_empty fileKey), key]
  exact processFileOn_metadata_eq_nil_iff state.service fileKey surroundings

theorem weight_append (first second : List BucketEvent) :
    weight (first ++ second) = weight first + weight second := by
  simp [weight]

/-- A notification that is delivered no longer counts. -/
theorem weight_eraseIdx {events : List BucketEvent} {index : Nat} {event : BucketEvent}
    (found : events[index]? = some event) :
    weight (events.eraseIdx index) + weight [event] = weight events := by
  induction events generalizing index with
  | nil => cases found
  | cons first rest ih =>
    cases index with
    | zero =>
      cases found
      rw [List.eraseIdx_cons_zero, Nat.add_comm, ← weight_append]
      rfl
    | succ index =>
      rw [List.getElem?_cons_succ] at found
      have rest := ih found
      rw [List.eraseIdx_cons_succ, ← List.singleton_append, weight_append,
        Nat.add_assoc, rest, ← weight_append]
      rfl

theorem weight_writtenEvents (writes : List (String × Json)) :
    weight (writtenEvents platform writes) = writes.length := by
  induction writes with
  | nil => rfl
  | cons write rest ih =>
    rw [writtenEvents] at ih ⊢
    rw [List.map_cons, ← List.singleton_append, weight_append, ih, List.length_cons, Nat.add_comm]
    rfl

theorem deliverEvent_length_le_one (surroundings : Surroundings) (state : ServiceState)
    (event : BucketEvent) :
    (deliverEvent platform bucketName surroundings state event).2.length ≤ 1 := by
  rcases @deliverEvent_writes platform bucketName surroundings state event with nothing | ⟨document, wrote⟩
  · rw [nothing]
    exact Nat.zero_le 1
  · rw [wrote]
    exact Nat.le_refl 1

theorem weight_step {state : BucketState} (names : NamesMetadata state) {move : BucketMove}
    (stops : StopsFeedback platform state move) :
    (deliversEvent state move).toNat + weight (bucketStep platform bucketName state move).pending ≤
      weight state.pending + 2 * uploads [move] := by
  cases move with
  | upload objectKey fileBytes =>
    rw [bucketStep, weight_append]
    simp [deliversEvent, uploads, weight]
  | restart => simp [deliversEvent, bucketStep, uploads]
  | deliver index surroundings =>
    rw [deliversEvent, bucketStep]
    split
    · next missing => simp [missing, uploads]
    · next event found =>
      have erased := weight_eraseIdx found
      have few := @deliverEvent_length_le_one platform bucketName surroundings
        state.service event
      rw [weight_append, weight_writtenEvents, found]
      cases marked : event.written with
      | false =>
        have paid : weight [event] = 2 := by simp [weight, marked]
        simp [uploads]
        omega
      | true =>
        have paid : weight [event] = 1 := by simp [weight, marked]
        have quiet := (@deliveredWrites_eq_nil_iff platform bucketName state names
          index surroundings).mpr stops event found marked
        rw [deliveredWrites, found] at quiet
        dsimp only at quiet
        rw [quiet]
        simp [uploads]
        omega

theorem uploads_cons (move : BucketMove) (rest : List BucketMove) :
    uploads (move :: rest) = uploads [move] + uploads rest := by
  cases move with
  | upload objectKey fileBytes => simp [uploads, Nat.add_comm]
  | deliver index surroundings => simp [uploads]
  | restart => simp [uploads]

theorem processingRuns_le {state : BucketState} (names : NamesMetadata state)
    {moves : List BucketMove}
    (stops : Allowed (bucketStep platform bucketName) (StopsFeedback platform) state moves) :
    processingRuns platform bucketName state moves ≤
      weight state.pending + 2 * uploads moves := by
  induction moves generalizing state with
  | nil => simp [processingRuns]
  | cons move rest ih =>
    have step := @weight_step platform bucketName _ names _ stops.1
    have later := ih (namesMetadata_step state move names) stops.2
    rw [processingRuns, uploads_cons]
    omega

end

/-- In webhook mode uploads settle exactly in the runs in which every notification of
metadata that the pipeline wrote meets a failure, a limit or known content. -/
theorem settles_iff (platform : Platform) (bucketName : String) (moves : List BucketMove) :
    Settles platform bucketName {} moves ↔
      Allowed (bucketStep platform bucketName) (StopsFeedback platform) {} moves := by
  have start : NamesMetadata {} := by
    intro event pending
    cases pending
  constructor
  · intro settles
    rw [allowed_iff_passed]
    intro earlier move later split
    have names := run_always (bucketStep platform bucketName) NamesMetadata
      namesMetadata_step start earlier
    cases move with
    | upload objectKey fileBytes => trivial
    | restart => trivial
    | deliver index surroundings =>
      rw [← @deliveredWrites_eq_nil_iff platform bucketName _ names]
      intro event found written
      exact settles.noFeedback earlier index surroundings later event split found written
  · intro stops
    constructor
    · intro earlier index surroundings later event split found written
      have names := run_always (bucketStep platform bucketName) NamesMetadata
        namesMetadata_step start earlier
      have stopped := (allowed_iff_passed _ _ _ _).mp stops earlier _ later split
      exact (deliveredWrites_eq_nil_iff names index surroundings).mpr stopped event found
        written
    · intro earlier later split
      rw [split, allowed_append] at stops
      have bound := processingRuns_le start stops.1
      simpa [weight] using bound

mutual

/-- The compact text of a document whose strings need no escapes. -/
def compactText : Json → String
  | .null => "null"
  | .bool value => toString value
  | .num value => toString value.num
  | .str text => "\"" ++ text ++ "\""
  | .arr items => "[" ++ compactItems items ++ "]"
  | .obj fields => "\x7b" ++ compactFields fields ++ "\x7d"

def compactItems : List Json → String
  | [] => ""
  | [item] => compactText item
  | item :: rest => compactText item ++ "," ++ compactItems rest

def compactFields : List (String × Json) → String
  | [] => ""
  | [(key, value)] => "\"" ++ key ++ "\":" ++ compactText value
  | (key, value) :: rest =>
    "\"" ++ key ++ "\":" ++ compactText value ++ "," ++ compactFields rest

end

/-- A deployment that is sent the empty JSON object, whose metadata has 349 bytes. -/
def webhookPlatform : Platform where
  sha256Hex := fun fileBytes =>
    if fileBytes.length = 349 then
      "b2330916b48a6ecf3ca55806c4609840a7ca797c3844997f8557ed0d175df3a5"
    else jsonReader.sha256Hex fileBytes
  dumps := fun document => (compactText document).toList.map fun char => char.toNat.toUInt8
  loads := jsonReader.loadsUtf8

theorem length_toList_le (text : String) : text.toList.length ≤ text.utf8ByteSize := by
  rw [← String.size_toByteArray, ← String.utf8Encode_toList]
  induction text.toList with
  | nil => exact Nat.zero_le _
  | cons char rest ih =>
    rw [List.utf8Encode_cons, ByteArray.size_append, List.length_cons, List.utf8Encode_singleton]
    have := char.utf8Size_pos
    simp
    omega

/-- The metadata of an upload is processed as a file, and gets metadata of its own. -/
theorem metadata_of_metadata_is_written : ¬ Settles webhookPlatform "artifacts" {}
      [.upload "uploads/acme/report.json" [123, 125],
        .deliver 0 { services := jsonReader }, .deliver 0 { services := jsonReader }] := by
  intro settles
  have none : NamesMetadata {} := fun event pending => by cases pending
  have names := run_always (bucketStep webhookPlatform "artifacts") NamesMetadata
    namesMetadata_step none [.upload "uploads/acme/report.json" [123, 125],
      .deliver 0 { services := jsonReader }]
  let state := run (bucketStep webhookPlatform "artifacts") {}
    [.upload "uploads/acme/report.json" [123, 125], .deliver 0 { services := jsonReader }]
  have stops : StopsFeedback webhookPlatform state (.deliver 0 { services := jsonReader }) :=
    (deliveredWrites_eq_nil_iff names 0 _).mp fun event =>
      settles.noFeedback [_, _] 0 _ [] event rfl
  let metadata := metadataKey "uploads/acme/report.json"
  have waits : (state.pending[0]?.map fun event => (event.objectKey, event.written)) =
      some (metadata, true) := by
    decide
  rcases Option.map_eq_some_iff.mp waits with ⟨event, found, shape⟩
  rw [Prod.mk.injEq] at shape
  have short : (state.service.objects.get? metadata).any (fun object => match object with
      | .document document => decide ((compactText document).utf8ByteSize ≤ 1000)
      | .file _ => false) = true := by
    decide +kernel
  obtain ⟨object, stored, short⟩ := (Option.any_eq_true _ _).mp short
  have seen : (storageView webhookPlatform state.service event.objectKey
      { services := jsonReader }).download = .ok (object.content webhookPlatform) := by
    rw [shape.1, storageView, stored]
  have fits : ¬ TooLarge webhookPlatform.settings (object.content webhookPlatform) := by
    cases object with
    | file fileBytes => cases short
    | document document =>
      rw [decide_eq_true_eq] at short
      apply Nat.not_lt.mpr
      rw [StoredObject.content, webhookPlatform, List.length_map]
      exact (length_toList_le _).trans (short.trans (by decide))
  rcases stops event found shape.2 _ seen fits with (described | tracked) | refused
  · have bare : state.service.objects.get? (metadataKey metadata) = Option.none := by
      decide
    rw [shape.1, alreadyDescribed, storageView, bare] at described
    cases described
  · have new : state.service.tracker.get? metadata = Option.none := by decide
    rw [shape.1, new] at tracked
    cases tracked
  · cases refused
end Onpremai.Preprocessor
