import SeekTalent.PrivacyErasure.SubjectErasure

/-!
# Erasing a person from the database and the stage outputs

`_erase_runtime_control_subject` of `seektalent/privacy_erasure.py` with all that it calls, as it
runs on a connection and on the files of the stage outputs.  A stage output whose file holds a text
of the person is deleted: its file is renamed first, the rows go with the commit, and the renamed
files are removed afterwards.

A step may raise.  `Fault` says which one does and what it raises; the rows of the connection are
rolled back then, and the handler renames those files back that it knows of.
-/

namespace SeekTalent.PrivacyErasure

open Foundation

/-! ## Steps and faults -/

/-- The steps before the commit that may raise. -/
inductive ErasureStep
  | connect
  | identityTable
  | evidenceTable
  | selectEvidence
  | selectIdentities
  | selectMissingIdentity (key : IdentityKey)
  | updateIdentities
  | updateMissingIdentity (key : IdentityKey)
  | checkpointsTable
  | selectCheckpoints
  | updateCheckpoint (checkpointId : String)
  | snapshotsTable
  | selectSnapshots
  | updateSnapshot (runtimeRunId : String)
  | finalSummariesTable
  | selectFinalSummaries
  | updateFinalSummary (summaryId : String)
  | stageOutputsTable
  | selectStageOutputs
  | readArtifact (index : Nat)
  | renameArtifact (index : Nat)
  | deleteStageOutput (index : Nat)
  | artifactRefsTable (index : Nat)
  | deleteArtifactRef (index : Nat)
  | updateEvidence
  | commit
  deriving DecidableEq, Repr

/-- What a step may raise. -/
inductive Raised
  | fileNotFound
  | osError
  | sqliteError
  | other (name : String)
  deriving DecidableEq, Repr

/-- `except (OSError, sqlite3.Error)`. -/
def Raised.caught : Raised → Bool
  | .other _ => false
  | _ => true

/-- A step and what it raises when the run comes to it. -/
structure Fault where
  step : ErasureStep
  raises : Raised
  deriving DecidableEq, Repr

/-- The contents of the files. -/
abbrev Files := String → Option String

/-- An `OSError` of `unlink`. -/
structure UnlinkError where
  name : String
  message : String
  deriving DecidableEq, Repr

/-- A connection within its transaction, and the files. -/
structure Session where
  working : Database
  files : Files

/-- A computation that may raise, and leaves what it has done by then. -/
abbrev ErasureM (α : Type) := ExceptT Raised (StateM Session) α

/-- What one call of the erasure is given. -/
structure ErasureCall extends ErasureRuntime where
  /-- `sha256(...).hexdigest()`. -/
  sha256Hex : String → String
  /-- `path.with_name(f"\x7bpath.name\x7d.delete-\x7buuid4().hex\x7d")`, for the artifact of the
  given row. -/
  quarantineName : Nat → String → String
  resumeId : String
  erasedAt : String
  /-- `_now_iso()`. -/
  nowIso : String
  /-- `database_path.parent / _RUNTIME_STAGE_OUTPUT_ARTIFACT_DIR`. -/
  artifactDirectory : String
  fault : Option Fault
  /-- The error, if any, of removing a quarantined file. -/
  unlinkError : String → Option UnlinkError

namespace ErasureCall

variable (call : ErasureCall)

/-- What a step raises, if it does. -/
def faultAt (step : ErasureStep) : Option Raised :=
  (call.fault.filter fun fault => fault.step = step).map Fault.raises

/-- The run comes to a step. -/
def reach (step : ErasureStep) : ErasureM Unit :=
  match call.faultAt step with
  | some raised => throw raised
  | none => pure ()

/-- A statement that reads. -/
def query {α : Type} (step : ErasureStep) (read : Database → α) : ErasureM α := do
  call.reach step
  return read (← get).working

/-- A statement that writes. -/
def execute (step : ErasureStep) (write : Database → Database) : ErasureM Unit := do
  call.reach step
  modify fun s => { s with working := write s.working }

/-! ## The rows of the person -/

/-- The rows that belong to a person, and the texts by which the person is known. -/
structure Subject where
  identityRows : List IdentityRow
  evidenceRows : List EvidenceRow
  missingKeys : List IdentityKey
  tokens : List String
  deriving DecidableEq, Repr

/-- What the rows of a database say about the person. -/
def subjectIn (db : Database) : Subject where
  identityRows := identityRows call.toErasureRuntime db call.resumeId
  evidenceRows := evidenceRows db call.resumeId
  missingKeys := missingEvidenceIdentityKeys call.toErasureRuntime db call.resumeId
  tokens := runtimeSubjectTokens call.toErasureRuntime call.resumeId
    (identityRows call.toErasureRuntime db call.resumeId) (evidenceRows db call.resumeId)

/-- The statements that read the rows of the person, unless neither of the tables exists. -/
def selectSubject : ErasureM (Option Subject) := do
  call.reach .connect
  let hasIdentityTable ← call.query .identityTable fun db => db.identities.isSome
  let hasEvidenceTable ← call.query .evidenceTable fun db => db.evidence.isSome
  if ¬ hasIdentityTable ∧ ¬ hasEvidenceTable then return none
  if hasEvidenceTable then call.reach .selectEvidence
  let subject := call.subjectIn (← get).working
  if hasIdentityTable then
    call.reach .selectIdentities
    subject.missingKeys.forM fun key => call.reach (.selectMissingIdentity key)
  return some subject

/-- `row["runtime_run_id"]` of some identities. -/
def identityRunIds (identityRows : List IdentityRow) : List String :=
  (identityRows.map IdentityRow.runtimeRunId).filter (· ≠ "")

/-! ## The statements that write -/

/-- What the erasure makes of an identity. -/
def erasedIdentity (row : IdentityRow) : IdentityRow :=
  { row with
    canonicalResumeId := ""
    mergedResumeIdsJson := "[]"
    displayName := "Candidate erased"
    title := ""
    company := ""
    location := ""
    summary := ""
    score := none
    fitBucket := none
    payloadHash := "erased:" ++ call.erasedAt
    updatedAt := call.erasedAt }

/-- What the erasure makes of an evidence row. -/
def erasedEvidence (row : EvidenceRow) : EvidenceRow :=
  { row with
    resumeId := ""
    providerCandidateKeyHash := ""
    score := none
    fitBucket := none
    payloadJson := "\x7b\x7d"
    payloadHash := "erased:" ++ call.erasedAt
    updatedAt := call.erasedAt }

/-- The identities that are found from the resume are erased. -/
def updateIdentities (db : Database) : Database :=
  { db with identities := db.identities.map fun rows => rows.map fun row =>
      if row.hasResume call.toErasureRuntime call.resumeId then call.erasedIdentity row else row }

/-- One identity is erased. -/
def updateIdentity (key : IdentityKey) (db : Database) : Database :=
  { db with identities := db.identities.map fun rows => rows.map fun row =>
      if row.key = key then call.erasedIdentity row else row }

/-- The evidence of the person is erased. -/
def updateEvidence (db : Database) : Database :=
  { db with evidence := db.evidence.map fun rows => rows.map fun row =>
      if row.resumeId = call.resumeId then call.erasedEvidence row else row }

/-- The rows of which a document is to be cleaned: those of the runs, and those that the resume
occurs in. -/
def rowsToClean {ρ : Type} (runId : ρ → String) (mentions : ρ → Bool) (runIds : List String)
    (rows : List ρ) : List ρ :=
  (rows.filter fun row => runId row ∈ runIds) ++ rows.filter mentions

/-- The first row of each key, `seen` being keys that have come already. -/
def onceEach {ρ : Type} (key : ρ → String) : List String → List ρ → List ρ
  | _, [] => []
  | seen, row :: rest =>
    if key row ∈ seen then onceEach key seen rest else row :: onceEach key (key row :: seen) rest

/-- `_erase_runtime_checkpoints`. -/
def eraseRuntimeCheckpoints (subject : Subject) : ErasureM Unit := do
  if subject.tokens = [] then return
  if ← call.query .checkpointsTable fun db => db.checkpoints.isSome then
    let rows ← call.query .selectCheckpoints fun db =>
      rowsToClean CheckpointRow.runtimeRunId
        (fun row => likeContains row.runStateJson call.resumeId)
        (identityRunIds subject.identityRows) (db.checkpoints.getD [])
    (onceEach CheckpointRow.checkpointId [] rows).forM fun row => do
      let cleaned := eraseTokensFromJsonText call.toErasureRuntime row.runStateJson subject.tokens
      if cleaned ≠ row.runStateJson then
        call.execute (.updateCheckpoint row.checkpointId) fun db =>
          { db with checkpoints := db.checkpoints.map fun stored =>
              updateRows CheckpointRow.checkpointId stored row.checkpointId fun old =>
                { old with runStateJson := cleaned } }

/-- The first half of `_erase_runtime_snapshots_and_summaries`. -/
def eraseRuntimeSnapshots (subject : Subject) : ErasureM Unit := do
  if ← call.query .snapshotsTable fun db => db.snapshots.isSome then
    let rows ← call.query .selectSnapshots fun db =>
      rowsToClean SnapshotRow.runtimeRunId (fun row => likeContains row.snapshotJson call.resumeId)
        (identityRunIds subject.identityRows) (db.snapshots.getD [])
    (onceEach SnapshotRow.runtimeRunId [] rows).forM fun row => do
      let cleaned := eraseTokensFromJsonText call.toErasureRuntime row.snapshotJson subject.tokens
      if cleaned ≠ row.snapshotJson then
        call.execute (.updateSnapshot row.runtimeRunId) fun db =>
          { db with snapshots := db.snapshots.map fun stored =>
              updateRows SnapshotRow.runtimeRunId stored row.runtimeRunId fun old =>
                { old with snapshotJson := cleaned } }

/-- The second half of `_erase_runtime_snapshots_and_summaries`. -/
def eraseRuntimeSummaries (subject : Subject) : ErasureM Unit := do
  if ← call.query .finalSummariesTable fun db => db.finalSummaries.isSome then
    let rows ← call.query .selectFinalSummaries fun db =>
      rowsToClean SummaryRow.runtimeRunId
        (fun row => likeContains row.summaryJson call.resumeId ||
          row.userInstruction.elim false fun text => likeContains text call.resumeId)
        (identityRunIds subject.identityRows) (db.finalSummaries.getD [])
    (onceEach SummaryRow.summaryId [] rows).forM fun row => do
      let cleanedJson :=
        eraseTokensFromJsonText call.toErasureRuntime row.summaryJson subject.tokens
      let cleanedInstruction := row.userInstruction.map (eraseTokensFromString subject.tokens)
      if cleanedJson ≠ row.summaryJson ∨ cleanedInstruction ≠ row.userInstruction then
        call.execute (.updateFinalSummary row.summaryId) fun db =>
          { db with finalSummaries := db.finalSummaries.map fun stored =>
              updateRows SummaryRow.summaryId stored row.summaryId fun old =>
                { old with summaryJson := cleanedJson, userInstruction := cleanedInstruction } }

/-- `_erase_runtime_snapshots_and_summaries`. -/
def eraseRuntimeSnapshotsAndSummaries (subject : Subject) : ErasureM Unit := do
  if subject.tokens = [] then return
  call.eraseRuntimeSnapshots subject
  call.eraseRuntimeSummaries subject

/-- The statements that write the identities and the documents. -/
def eraseIdentities (subject : Subject) : ErasureM Unit := do
  call.execute .updateIdentities call.updateIdentities
  subject.missingKeys.forM fun key =>
  call.execute (.updateMissingIdentity key) (call.updateIdentity key)
  call.eraseRuntimeCheckpoints subject
  call.eraseRuntimeSnapshotsAndSummaries subject

/-! ## The stage outputs -/

/-- A member of an object is the given text. -/
def memberIs (members : List (String × Json)) (key text : String) : Bool :=
  match members.lookup key with
  | some (.str value) => value = text
  | _ => false

/-- `_is_stage_output_artifact_marker`. -/
def isStageOutputArtifactMarker (value : Option Json) (artifactRefId : String) : Bool :=
  match value with
  | some (.obj members) =>
    memberIs members "storage" "file" && memberIs members "artifactKind" "runtime_stage_output" &&
      memberIs members "artifactRefId" artifactRefId
  | _ => false

/-- `_safe_stage_output_artifact_ref_id`. -/
def safeStageOutputArtifactRefId (artifactRefId : String) : Bool :=
  artifactRefId ≠ "" && artifactRefId.toList.all fun c => call.isalnum c || c ∈ ['_', '-', '.']

/-- `_stage_output_artifact_path`. -/
def stageOutputArtifactPath (artifactRefId : String) : String :=
  call.artifactDirectory ++ "/" ++ artifactRefId ++ ".json"

/-- The artifact of a row, if the row is one that the loop looks at. -/
def artifactOf (row : StageOutputRow) : Option String :=
  match row.artifactRefId with
  | some artifactRefId =>
    if isStageOutputArtifactMarker (call.loads row.outputJson) artifactRefId ∧
        call.safeStageOutputArtifactRefId artifactRefId then some artifactRefId
    else none
  | none => none

/-- `any(token in artifact_text for token in subject_tokens)`. -/
def holdsToken (tokens : List String) (text : String) : Bool := tokens.any fun token =>
    occursIn token text

/-- `artifact_path.read_text(encoding="utf-8")`, and no text when there is no file. -/
def readArtifact (index : Nat) (path : String) : ErasureM String := do
  match call.faultAt (.readArtifact index) with
  | some .fileNotFound => return ""
  | some raised => throw raised
  | none => return ((← get).files path).getD ""

/-- Rename a file. -/
def renameFile (old new : String) (files : Files) : Files :=
  Function.update (Function.update files old none) new (files old)

/-- One round of the loop of `_delete_runtime_stage_output_artifacts`: the file that was renamed, if
one was. -/
def deleteStageOutputArtifact (tokens : List String) (index : Nat) (row : StageOutputRow) :
    ErasureM (Option (String × String)) := do
  match call.artifactOf row with
  | none => return none
  | some artifactRefId =>
    let path := call.stageOutputArtifactPath artifactRefId
    let text ← call.readArtifact index path
    if holdsToken tokens text = false then return none
    call.reach (.renameArtifact index)
    modify fun s => { s with files := renameFile path (call.quarantineName index path) s.files }
    call.execute (.deleteStageOutput index) fun db =>
      { db with stageOutputs := db.stageOutputs.map fun rows => rows.filter fun r =>
        r.outputId ≠ row.outputId }
    if ← call.query (.artifactRefsTable index) fun db => db.artifactRefs.isSome then
      call.execute (.deleteArtifactRef index) fun db =>
        { db with artifactRefs := db.artifactRefs.map fun refs => refs.filter (· ≠ artifactRefId) }
    return some (call.quarantineName index path, path)

/-- The loop of `_delete_runtime_stage_output_artifacts`. -/
def deleteArtifactsFrom (tokens : List String) : Nat → List StageOutputRow → ErasureM
    (List (String × String))
  | _, [] => return []
  | index, row :: rest => do
    let moved ← call.deleteStageOutputArtifact tokens index row
    let later ← deleteArtifactsFrom tokens (index + 1) rest
    return moved.toList ++ later

/-- The stage outputs that the loop goes through. -/
def stageOutputRows (subject : Subject) (db : Database) : List StageOutputRow :=
  let runIds := (subject.identityRows.map IdentityRow.runtimeRunId ++
    subject.evidenceRows.map EvidenceRow.runtimeRunId).filter (· ≠ "")
  (db.stageOutputs.getD []).filter fun row => row.runtimeRunId ∈ runIds ∧ row.artifactRefId.isSome

/-- `_delete_runtime_stage_output_artifacts`. -/
def deleteRuntimeStageOutputArtifacts (subject : Subject) : ErasureM (List (String × String)) := do
  if subject.tokens = [] then return []
  if ← call.query .stageOutputsTable fun db => db.stageOutputs.isSome then
    if (subject.identityRows.map IdentityRow.runtimeRunId ++
        subject.evidenceRows.map EvidenceRow.runtimeRunId).all (· = "") then return []
    let rows ← call.query .selectStageOutputs (stageOutputRows subject)
    call.deleteArtifactsFrom subject.tokens 0 rows
  else return []

/-! ## The call -/

/-- What is done until `_delete_runtime_stage_output_artifacts` has returned, unless there is
nothing to erase. -/
def eraseUntilArtifacts : ErasureM (Option (Subject × List (String × String))) := do
  match ← call.selectSubject with
  | none => return none
  | some subject =>
    if (← get).working.identities.isSome then call.eraseIdentities subject
    let quarantined ← call.deleteRuntimeStageOutputArtifacts subject
    return some (subject, quarantined)

/-- What is done from then to the commit. -/
def eraseEvidenceAndCommit : ErasureM Unit := do
  if (← get).working.evidence.isSome then call.execute .updateEvidence call.updateEvidence
  call.reach .commit

/-- `_restore_quarantined_artifact_paths`. -/
def restoreQuarantinedArtifactPaths (paths : List (String × String)) (files : Files) : Files :=
  paths.reverse.foldl (fun files moved =>
    if (files moved.1).isSome then renameFile moved.1 moved.2 files else files) files

/-- `deletion_id`. -/
def deletionId (quarantinePath : String) : String :=
  "rtartifact_delete_" ++ String.ofList ((call.sha256Hex quarantinePath).toList.take 32)

/-- `_record_pending_artifact_deletion`. -/
def recordPendingArtifactDeletion (moved : String × String) (artifactRefId : String)
    (error : UnlinkError) (db : Database) : Database :=
  let metadata := call.dumps (.obj [("message", .str error.message)])
  let stored := db.artifactDeletions.getD []
  { db with artifactDeletions := some (
      if (rowAt ArtifactDeletionRow.deletionId stored (call.deletionId moved.1)).isSome then
        updateRows ArtifactDeletionRow.deletionId stored (call.deletionId moved.1) fun row =>
          { row with
            status := "pending"
            attemptCount := row.attemptCount + 1
            lastErrorCode := some error.name
            lastAttemptAt := some call.nowIso
            metadataJson := metadata }
      else
        stored ++ [{
          deletionId := call.deletionId moved.1
          artifactRefId := artifactRefId
          artifactKind := "runtime_stage_output"
          originalPath := moved.2
          quarantinePath := moved.1
          reasonCode := "privacy_erasure"
          status := "pending"
          attemptCount := 1
          lastErrorCode := some error.name
          requestedAt := call.nowIso
          lastAttemptAt := some call.nowIso
          metadataJson := metadata }]) }

/-- `path.stem` of an artifact. -/
def artifactStem (path : String) : String :=
  String.ofList ((path.toList.drop (call.artifactDirectory.length + 1)).take
    (path.length - (call.artifactDirectory.length + 1) - 5))

/-- `_delete_quarantined_artifact_paths`: the rows, the files, and the errors. -/
def deleteQuarantinedArtifactPaths : List (String × String) → Database → Files →
    Database × Files × List UnlinkError
  | [], db, files => (db, files, [])
  | moved :: rest, db, files =>
    match call.unlinkError moved.1 with
    | none => deleteQuarantinedArtifactPaths rest db (Function.update files moved.1 none)
    | some error =>
      let recorded := call.recordPendingArtifactDeletion moved (call.artifactStem moved.2) error db
      let (db, files, failures) := deleteQuarantinedArtifactPaths rest recorded files
      (db, files, error :: failures)

/-- How a call ends. -/
inductive Ending
  /-- A step before the commit raised. -/
  | raised (error : Raised)
  /-- The counts are returned. -/
  | returned (identities evidence : Nat)
  /-- The rows are committed, and a renamed file could not be removed. -/
  | unlinkFailed (error : UnlinkError)
  deriving DecidableEq, Repr

/-- The rows and the files after a call. -/
structure Outcome where
  committed : Database
  files : Files
  ending : Ending

/-- `_erase_runtime_control_subject`. -/
def eraseRuntimeControlSubject (db : Database) (files : Files) : Outcome :=
  match call.eraseUntilArtifacts.run.run ⟨db, files⟩ with
  | (.error raised, s) =>
    -- The handler knows of no renamed file here.
    ⟨db, if raised.caught then restoreQuarantinedArtifactPaths [] s.files else s.files,
      .raised raised⟩
  | (.ok none, s) => ⟨db, s.files, .returned 0 0⟩
  | (.ok (some (subject, quarantined)), s) =>
    match call.eraseEvidenceAndCommit.run.run s with
    | (.error raised, s) =>
      ⟨db, if raised.caught then restoreQuarantinedArtifactPaths quarantined s.files else s.files,
        .raised raised⟩
    | (.ok (), s) =>
      match call.deleteQuarantinedArtifactPaths quarantined s.working s.files with
      | (db, files, []) =>
        ⟨db, files, .returned subject.identityRows.length subject.evidenceRows.length⟩
      | (db, files, error :: _) => ⟨db, files, .unlinkFailed error⟩

end ErasureCall

end SeekTalent.PrivacyErasure
