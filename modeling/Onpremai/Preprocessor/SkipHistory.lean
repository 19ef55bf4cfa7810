import Onpremai.Preprocessor.ServiceRuns

/-!
# When a file is skipped as already processed

A file should be skipped only while the storage holds metadata of its current content
without an error that a retry might cure.  The tracker is marked even where the write of
the metadata failed, and the metadata of a failed extraction carries the same hash as that
of a success, so this depends on the runs before.
-/

namespace Onpremai.Preprocessor

open Onpremai.Library

def describes (document : Json) (contentHash : String) : Bool :=
  match document.get? "content_hash" with
  | some hash => hash.isString contentHash
  | none => false

/-- The document records an error that a retry might cure. -/
def carriesRecoverableError (document : Json) : Bool :=
  match (document.get? "error").bind (Json.get? "recoverable") with
  | some (.bool recoverable) => recoverable
  | _ => false

/-- The extraction failed in a way that a retry might cure. -/
def FileMetadata.failedRecoverably (metadata : FileMetadata) : Bool :=
  match metadata.error with
  | some error => error.recoverable
  | none => false

section

variable (platform : Platform) (state : ServiceState)

def storedDocument (fileKey : String) : Option Json :=
  (state.objects.get? (metadataKey fileKey)).bind fun object =>
    (object.getJson platform).toOption

def DescribedCleanly (fileKey contentHash : String) : Prop :=
  ∃ document, storedDocument platform state fileKey = some document ∧
    describes document contentHash = true ∧ carriesRecoverableError document = false

/-- The storage holds metadata for the current content of the file, without a recoverable
error. -/
def CurrentlyDescribed (fileKey : String) : Prop :=
  ∃ object, state.objects.get? fileKey = some object ∧
    DescribedCleanly platform state fileKey (platform.sha256Hex (object.content platform))

def SkipsOnlyDescribed (moves : List ServiceMove) : Prop := ∀ earlier fileKey surroundings later,
    moves = earlier ++ .trigger fileKey surroundings :: later →
      SkippedAsProcessed (processFileOn platform (run (serviceStep platform) state earlier)
          fileKey surroundings).1 →
        CurrentlyDescribed platform (run (serviceStep platform) state earlier) fileKey

def KeepsRecords (state : ServiceState) : ServiceMove → Prop
  | .upload key fileBytes =>
    ∀ fileKey, key = metadataKey fileKey → state.tracker.get? fileKey = none ∧
        ∀ document, platform.loads fileBytes = .ok document →
          carriesRecoverableError document = false
  | .trigger fileKey surroundings =>
    ∀ fileBytes, (storageView platform state fileKey surroundings).download = .ok fileBytes →
        ¬ TooLarge platform.settings fileBytes →
          ¬ IsSkipped (surroundings.servicesOn platform) platform.settings
              (storageView platform state fileKey surroundings) fileKey
              { tracker := state.tracker } fileBytes →
            surroundings.writeSucceeds = true ∧
              (extractedMetadata (surroundings.servicesOn platform) fileKey
                fileBytes).failedRecoverably = false
  | .restart => True

/-- What the tracker has is described cleanly, and no document beside a file carries a
recoverable error. -/
structure Recorded : Prop where
  tracked : ∀ fileKey contentHash, state.tracker.get? fileKey = some contentHash →
    DescribedCleanly platform state fileKey contentHash
  clean : ∀ fileKey document, storedDocument platform state fileKey = some document →
    carriesRecoverableError document = false

end

section

variable (services : PipelineServices) (fileBytes : Bytes) (metadata : FileMetadata)

theorem extractedMetadata_contentHash (fileKey : String) :
    (extractedMetadata services fileKey fileBytes).contentHash = services.sha256Hex fileBytes :=
  extractAndBuildMetadata_contentHash services fileBytes fileKey _

theorem describes_modelDump (contentHash : String) :
    describes metadata.modelDump contentHash = decide (metadata.contentHash = contentHash) := by
  simp [describes, FileMetadata.modelDump, Json.isString]

theorem carriesRecoverableError_modelDump :
    carriesRecoverableError metadata.modelDump = metadata.failedRecoverably := by
  rw [carriesRecoverableError, FileMetadata.failedRecoverably, FileMetadata.modelDump]
  cases metadata.error with
  | none => simp [Json.get?]
  | some error => simp [ProcessingError.modelDump]

end

theorem metadataKey_injective {first second : String}
    (same : metadataKey first = metadataKey second) : first = second := by
  have chars := congrArg String.toList same
  rw [metadataKey, metadataKey, String.toList_append, String.toList_append] at chars
  exact String.toList_injective (List.append_cancel_right chars)

section

variable {platform : Platform} {state : ServiceState} {fileKey : String}

theorem storedDocument_set (key : String) (object : StoredObject) :
    storedDocument platform { state with objects := state.objects.set key object } fileKey =
      if key = metadataKey fileKey then (object.getJson platform).toOption
      else storedDocument platform state fileKey := by
  rw [storedDocument, Dict.get?_set]
  split
  · rfl
  · rfl

theorem storedDocument_putDocuments (tracker : Dict String String) (key : String)
    (document : Json) :
    storedDocument platform
        { objects := putDocuments state.objects [(metadataKey key, document)], tracker } fileKey =
      if key = fileKey then some document else storedDocument platform state fileKey := by
  rw [storedDocument, putDocuments, List.map_singleton, Dict.setAll, List.foldl_cons,
    List.foldl_nil, Dict.get?_set]
  by_cases same : key = fileKey
  · rw [if_pos same, if_pos (congrArg metadataKey same)]
    rfl
  · rw [if_neg same, if_neg fun keys => same (metadataKey_injective keys)]
    rfl

theorem storedDocument_of_alreadyDescribed {surroundings : Surroundings} {contentHash : String}
    (described : alreadyDescribed (storageView platform state fileKey surroundings)
      contentHash = true) :
    ∃ document, storedDocument platform state fileKey = some document ∧
      describes document contentHash = true := by
  rw [alreadyDescribed, storageView] at described
  dsimp only at described
  cases checked : surroundings.checkError with
  | some message =>
    rw [checked] at described
    cases described
  | none =>
    rw [checked] at described
    dsimp only at described
    rw [storedDocument]
    cases found : state.objects.get? (metadataKey fileKey) with
    | none =>
      rw [found] at described
      cases described
    | some object =>
      rw [found] at described
      dsimp only [Option.bind_some] at described ⊢
      cases decoded : object.getJson platform with
      | error message =>
        rw [decoded] at described
        cases described
      | ok document =>
        rw [decoded] at described
        exact ⟨document, rfl, described⟩

theorem object_of_download {surroundings : Surroundings} {fileBytes : Bytes}
    (downloaded : (storageView platform state fileKey surroundings).download = .ok fileBytes) :
    ∃ object, state.objects.get? fileKey = some object ∧
      object.content platform = fileBytes := by
  rw [storageView] at downloaded
  dsimp only at downloaded
  split at downloaded
  · cases downloaded
  · split at downloaded
    · next object found =>
      cases downloaded
      exact ⟨object, found, rfl⟩
    · cases downloaded

/-! ## One move -/

theorem DescribedCleanly.of_sameDocument {after : ServiceState} {contentHash : String}
    (described : DescribedCleanly platform state fileKey contentHash)
    (same : storedDocument platform after fileKey = storedDocument platform state fileKey) :
    DescribedCleanly platform after fileKey contentHash := by
  rcases described with ⟨document, stored, rest⟩
  exact ⟨document, same.trans stored, rest⟩

theorem Recorded.described {surroundings : Surroundings} {fileBytes : Bytes}
    (recorded : Recorded platform state)
    (known : IsKnown (surroundings.servicesOn platform)
      (storageView platform state fileKey surroundings) fileKey { tracker := state.tracker }
      fileBytes) :
    DescribedCleanly platform state fileKey (platform.sha256Hex fileBytes) := by
  rcases known with described | tracked
  · rcases storedDocument_of_alreadyDescribed described with ⟨document, stored, describing⟩
    exact ⟨document, stored, describing, recorded.clean fileKey document stored⟩
  · exact recorded.tracked fileKey _ tracked

theorem recorded_upload {key : String} {fileBytes : Bytes}
    (keeps : KeepsRecords platform state (.upload key fileBytes))
    (recorded : Recorded platform state) :
    Recorded platform (serviceStep platform state (.upload key fileBytes)) := by
  constructor
  · intro fileKey contentHash tracked
    apply (recorded.tracked fileKey contentHash tracked).of_sameDocument
    rw [serviceStep, storedDocument_set, if_neg]
    intro replaced
    rw [serviceStep, (keeps fileKey replaced).1] at tracked
    cases tracked
  · intro fileKey document stored
    rw [serviceStep, storedDocument_set] at stored
    split at stored
    · next replaced =>
      apply (keeps fileKey replaced).2 document
      rw [StoredObject.getJson] at stored
      cases loaded : platform.loads fileBytes with
      | error message =>
        rw [loaded] at stored
        cases stored
      | ok value =>
        rw [loaded] at stored
        cases stored
        rfl
    · exact recorded.clean fileKey document stored

theorem Recorded.mark {contentHash : String} {after : ServiceState}
    (recorded : Recorded platform state) (objects : after.objects = state.objects)
    (tracker : after.tracker = state.tracker ∨
      after.tracker = state.tracker.set fileKey contentHash)
    (described : DescribedCleanly platform state fileKey contentHash) :
    Recorded platform after := by
  have same : ∀ key, storedDocument platform after key = storedDocument platform state key := by
    intro key
    rw [storedDocument, storedDocument, objects]
  constructor
  · intro key hash tracked
    apply DescribedCleanly.of_sameDocument _ (same key)
    rcases tracker with unchanged | marked
    · rw [unchanged] at tracked
      exact recorded.tracked key hash tracked
    · rw [marked, Dict.get?_set] at tracked
      split at tracked
      · next here =>
        rw [← here, ← Option.some.inj tracked]
        exact described
      · exact recorded.tracked key hash tracked
  · intro key document stored
    rw [same] at stored
    exact recorded.clean key document stored

theorem Recorded.write {metadata : FileMetadata} {contentHash : String}
    (recorded : Recorded platform state) (current : metadata.contentHash = contentHash)
    (clean : metadata.failedRecoverably = false) :
    Recorded platform
      { objects := putDocuments state.objects [(metadataKey fileKey, metadata.modelDump)]
        tracker := state.tracker.set fileKey contentHash } := by
  constructor
  · intro key hash tracked
    dsimp only at tracked
    rw [Dict.get?_set] at tracked
    by_cases here : fileKey = key
    · rw [if_pos here] at tracked
      refine ⟨metadata.modelDump, ?_, ?_, ?_⟩
      · rw [storedDocument_putDocuments, if_pos here]
      · rw [describes_modelDump, current]
        exact decide_eq_true (Option.some.inj tracked)
      · rw [carriesRecoverableError_modelDump, clean]
    · rw [if_neg here] at tracked
      apply (recorded.tracked key hash tracked).of_sameDocument
      rw [storedDocument_putDocuments, if_neg here]
  · intro key document stored
    rw [storedDocument_putDocuments] at stored
    split at stored
    · rw [← Option.some.inj stored, carriesRecoverableError_modelDump, clean]
    · exact recorded.clean key document stored

theorem recorded_trigger {surroundings : Surroundings}
    (keeps : KeepsRecords platform state (.trigger fileKey surroundings))
    (recorded : Recorded platform state) :
    Recorded platform (serviceStep platform state (.trigger fileKey surroundings)) := by
  have ran := @runFile_fileRun (surroundings.servicesOn platform) platform.settings
    (storageView platform state fileKey surroundings) fileKey { tracker := state.tracker }
  rw [serviceStep, afterTrigger, processFileOn]
  cases ran with
  | idle notSkipped noWrites sameTracker =>
    rw [noWrites, sameTracker]
    exact ⟨recorded.tracked, recorded.clean⟩
  | skipped fileBytes downloaded fits known noWrites marked =>
    refine @Recorded.mark _ _ fileKey _ _ recorded ?_ ?_ (recorded.described known)
    · dsimp only
      rw [noWrites]
      rfl
    · exact marked.imp id And.right
  | worked fileBytes downloaded fits fresh notSkipped written marked =>
    rcases keeps fileBytes downloaded fits fresh with ⟨accepted, clean⟩
    have stored : (storageView platform state fileKey surroundings).writeSucceeds = true := accepted
    rw [written, marked, acceptedWrites, if_pos stored]
    exact recorded.write (extractedMetadata_contentHash _ _ _) clean

theorem recorded_restart (recorded : Recorded platform state) :
    Recorded platform (serviceStep platform state .restart) := by
  constructor
  · intro fileKey contentHash tracked
    cases tracked
  · exact recorded.clean

theorem recorded_step (state : ServiceState) (move : ServiceMove)
    (keeps : KeepsRecords platform state move) (recorded : Recorded platform state) :
    Recorded platform (serviceStep platform state move) := by
  cases move with
  | upload key fileBytes => exact recorded_upload keeps recorded
  | trigger fileKey surroundings => exact recorded_trigger keeps recorded
  | restart => exact recorded_restart recorded

theorem Recorded.skipped {surroundings : Surroundings} (recorded : Recorded platform state)
    (skipped : SkippedAsProcessed (processFileOn platform state fileKey surroundings).1) :
    CurrentlyDescribed platform state fileKey := by
  have ran := @runFile_fileRun (surroundings.servicesOn platform) platform.settings
    (storageView platform state fileKey surroundings) fileKey { tracker := state.tracker }
  cases ran with
  | idle notSkipped noWrites sameTracker => exact absurd skipped notSkipped
  | worked fileBytes downloaded fits fresh notSkipped written marked =>
    exact absurd skipped notSkipped
  | skipped fileBytes downloaded fits known noWrites marked =>
    rcases object_of_download downloaded with ⟨object, found, content⟩
    refine ⟨object, found, ?_⟩
    rw [content]
    exact recorded.described known

theorem recorded_empty : Recorded platform {} := by
  constructor
  · intro fileKey contentHash tracked
    cases tracked
  · intro fileKey document stored
    cases stored

end

/-- In a run whose moves keep the records, a file is skipped as already processed only
while the storage holds metadata of its current content without a recoverable error. -/
theorem skipsOnlyDescribed_of_keepsRecords (platform : Platform) (moves : List ServiceMove)
    (keeps : Allowed (serviceStep platform) (KeepsRecords platform) {} moves) :
    SkipsOnlyDescribed platform {} moves := by
  intro earlier fileKey surroundings later split skipped
  rw [split, allowed_append] at keeps
  have recorded := run_allowed (serviceStep platform) (Recorded platform) recorded_step keeps.1
    recorded_empty
  exact recorded.skipped skipped

/-- A deployment whose uploads are the empty JSON object, or no PDF of any content. -/
def reportPlatform : Platform where
  sha256Hex := fun fileBytes =>
    if fileBytes = [123, 125] then
      "44136fa355b3678a1146ad16f7e8649e94fb4fc21fe77e8310c060f61caaff8a"
    else "e3b0c44298fc1c149afbf4c8996fb92427ae41e4649b934ca495991b7852b855"
  dumps := fun _ => []
  loads := jsonReader.loadsUtf8

theorem skipsOnlyDescribed_of_keepsRecords_report :
    Allowed (serviceStep reportPlatform) (KeepsRecords reportPlatform) {}
        [.upload "uploads/acme/report.json" [123, 125],
          .trigger "uploads/acme/report.json" { services := jsonReader },
          .restart,
          .trigger "uploads/acme/report.json" { services := jsonReader }] ∧
      SkipsOnlyDescribed reportPlatform {}
        [.upload "uploads/acme/report.json" [123, 125],
          .trigger "uploads/acme/report.json" { services := jsonReader },
          .restart,
          .trigger "uploads/acme/report.json" { services := jsonReader }] := by
  have keeps : Allowed (serviceStep reportPlatform) (KeepsRecords reportPlatform) {}
        [.upload "uploads/acme/report.json" [123, 125],
          .trigger "uploads/acme/report.json" { services := jsonReader },
          .restart,
          .trigger "uploads/acme/report.json" { services := jsonReader }] := by
    refine ⟨?_, ?_, trivial, ?_, trivial⟩
    · intro fileKey replaced
      refine ⟨rfl, fun document loaded => ?_⟩
      cases loaded
      rfl
    · intro fileBytes downloaded _ _
      cases downloaded
      exact ⟨rfl, rfl⟩
    · intro fileBytes downloaded _ _
      cases downloaded
      exact ⟨rfl, rfl⟩
  exact ⟨keeps, skipsOnlyDescribed_of_keepsRecords reportPlatform _ keeps⟩

/-- A file whose metadata was not written is skipped on the next trigger, and one whose
extraction failed in a way that a retry might cure is skipped even after a restart. -/
theorem unwritten_and_failed_are_skipped : ¬ SkipsOnlyDescribed reportPlatform {}
        [.upload "uploads/acme/report.json" [123, 125], .trigger "uploads/acme/report.json"
            { services := jsonReader, writeSucceeds := false },
          .trigger "uploads/acme/report.json" { services := jsonReader }] ∧
      ¬ SkipsOnlyDescribed reportPlatform {}
        [.upload "uploads/acme/scan.pdf" [],
          .trigger "uploads/acme/scan.pdf" { services := jsonReader },
          .restart,
          .trigger "uploads/acme/scan.pdf" { services := jsonReader }] := by
  constructor
  · intro described
    rcases described [_, _] "uploads/acme/report.json" { services := jsonReader } [] rfl
      ⟨_, rfl, rfl, rfl⟩ with ⟨object, found, document, stored, -⟩
    cases stored
  · intro described
    rcases described [_, _, _] "uploads/acme/scan.pdf" { services := jsonReader } [] rfl
      ⟨_, rfl, rfl, rfl⟩ with ⟨object, found, document, stored, -, clean⟩
    cases stored
    cases clean

end Onpremai.Preprocessor
