import SeekTalent.Foundation.Lists
import SeekTalent.SourcePort.HistoryContract

/-!
# The journal's own validation

The reader half of the journal (`history_sqlite_reader.py`): the `CHECK` constraints and indexes of
the schema, `_verify_journal_consistency` and `load_validated_history_facts`.  `openValidated` is
the sequence that `open_command_journal`, `CommandJournal.start` and
`SourceHistorySQLiteReader.query` run on the tables before they use them.

A raised `TypeError` or `ValueError` is turned into the reason `corrupt` by the callers of the
consistency check and of the fact loader, so both are `Except` computations that raise that reason
only.  A comparison with `int(None)` raises a `TypeError` in the source; here it is a comparison
with an optional value, which fails with the same reason.
-/

namespace SeekTalent.SourcePort

open Foundation

variable (py : PythonRuntime)

/-! ## Schema constraints -/

/-- `lower(value)` of SQLite, which folds ASCII letters only. -/
def sqlLower (value : String) : List Char :=
  value.toList.map Char.toLower

/-- `value = trim(value)` of SQLite, which trims the space character only. -/
def sqlTrimmed (value : String) : Bool :=
  value.toList.head? != some ' ' && value.toList.getLast? != some ' '

/-- `_AUTHORIZATION_EPOCH_CHECK_DDL`. -/
def authorizationEpochCheck (command : AcceptedCommand) : Bool :=
  (command.dispatchAuthorizationOrdinal == 1 && command.safeRetryCommitRef == none &&
      command.expectedSourceOperationLedgerRevision == 1 &&
      command.expectedReconciliationRevision == 0) ||
    (2 ≤ command.dispatchAuthorizationOrdinal &&
      command.dispatchAuthorizationOrdinal ≤ jsonSafeInteger &&
      command.safeRetryCommitRef.any (fun ref =>
        1 ≤ ref.utf8ByteSize && ref.utf8ByteSize ≤ 256 && sqlTrimmed ref &&
          !(["bearer ", "basic ", "authorization:", "authorization="].any
            (fun start => start.toList.isPrefixOf (sqlLower ref))) &&
          !((sqlLower ref).tails.any (fun rest => "authorization=".toList.isPrefixOf rest))) &&
      1 ≤ command.expectedSourceOperationLedgerRevision &&
      command.expectedSourceOperationLedgerRevision ≤ jsonSafeInteger &&
      1 ≤ command.expectedReconciliationRevision &&
      command.expectedReconciliationRevision ≤ jsonSafeInteger)

/-- The `CHECK` constraints that the event and the head table share. -/
def columnsCheck (columns : ImmutableColumns) : Bool :=
  1 ≤ columns.attemptNo && columns.attemptNo ≤ jsonSafeInteger &&
    1 ≤ columns.dispatchAuthorizationOrdinal &&
    columns.dispatchAuthorizationOrdinal ≤ jsonSafeInteger &&
    authorizationEpochCheck columns.toAcceptedCommand &&
    isValidDurableReplyBytes columns.acceptedAckBytes

/-- The `CHECK` constraints of the event table. -/
def eventCheck (event : EventRow) : Bool :=
  1 ≤ event.journalRevision && event.journalRevision ≤ sqliteMaxInteger &&
    columnsCheck event.columns && isValidDurableReplyBytes event.progress.terminalReplyBytes

/-- The `CHECK` constraints of the head table. -/
def headCheck (head : HeadRow) : Bool :=
  columnsCheck head.columns && isValidDurableReplyBytes head.progress.terminalReplyBytes

/-- Two heads agree on the columns of `source_history_heads_operation_retry_ref`. -/
def sameRetryRef (left right : AcceptedCommand) : Bool :=
  left.operation == right.operation && left.safeRetryCommitRef == right.safeRetryCommitRef &&
    left.safeRetryCommitRef != none

/-! ## `_verify_journal_consistency` -/

/-- One row of the generation table passes the reader's checks. -/
def generationRowCheck (row : GenerationRow) : Bool :=
  1 ≤ row.generation && row.generation ≤ sqliteMaxInteger && isSha256 row.sidecarInstanceId &&
    (row.retained == 0 || row.retained == 1) && (row.complete == 0 || row.complete == 1)

/-- The order of `ORDER BY run_id, operation_id, dispatch_authorization_ordinal`. -/
def headOrder (left right : HeadRow) : Bool :=
  let a := left.columns
  let b := right.columns
  a.runId < b.runId ||
    (a.runId == b.runId && (a.operationId < b.operationId ||
      (a.operationId == b.operationId &&
        a.dispatchAuthorizationOrdinal ≤ b.dispatchAuthorizationOrdinal)))

/-- `SELECT * FROM source_history_heads ORDER BY run_id, operation_id, ...`. -/
def Journal.selectHeads (journal : Journal) : List HeadRow :=
  journal.heads.insertionSort (fun a b => headOrder a b = true)

/-- `SELECT * FROM source_history_events ORDER BY journal_revision`. -/
def Journal.selectEvents (journal : Journal) : List EventRow :=
  orderBy (·.journalRevision) journal.events

/-- `SELECT ... FROM source_history_generations ORDER BY generation`. -/
def Journal.selectGenerations (journal : Journal) : List GenerationRow :=
  orderBy (·.generation) journal.generations

/-- The value stored under a key by `d.setdefault(key, value)` after a scan of earlier entries:
the value of the first entry with the same key, or the given one. -/
def setdefault {κ ν : Type} [DecidableEq κ] (earlier : List (κ × ν)) (key : κ) (value : ν) : ν :=
  (earlier.lookup key).getD value

/-- The three maps that `_verify_head_aliases` fills. -/
structure AliasMaps where
  logicalByOperation : List (OperationKey × (String × String × String × String × String))
  operationByRunKey : List ((String × String) × String)
  runByOperationKey : List ((String × String) × String)

/-- One iteration of `_verify_head_aliases`. -/
def verifyHeadAlias (maps : AliasMaps) (head : HeadRow) :
    Except CommandJournalErrorReason AliasMaps := do
  let columns := head.columns.toAcceptedCommand
  require (setdefault maps.logicalByOperation columns.operation columns.stableIdentity =
    columns.stableIdentity) .corrupt
  require (setdefault maps.operationByRunKey (columns.runId, columns.idempotencyKey)
    columns.operationId = columns.operationId) .corrupt
  require (setdefault maps.runByOperationKey (columns.operationId, columns.idempotencyKey)
    columns.runId = columns.runId) .corrupt
  pure
    { logicalByOperation :=
        maps.logicalByOperation ++ [(columns.operation, columns.stableIdentity)]
      operationByRunKey :=
        maps.operationByRunKey ++ [((columns.runId, columns.idempotencyKey), columns.operationId)]
      runByOperationKey :=
        maps.runByOperationKey ++ [((columns.operationId, columns.idempotencyKey), columns.runId)] }

/-- `_verify_head_aliases`. -/
def verifyHeadAliases (heads : List HeadRow) : Except CommandJournalErrorReason Unit := do
  let _ ← heads.foldlM verifyHeadAlias ⟨[], [], []⟩
  pure ()

/-- `expected_phases`. -/
def expectedPhases : Phase → List Phase
  | .accepted => [.accepted]
  | .dispatchIntent => [.accepted, .dispatchIntent]
  | .observedResult => [.accepted, .dispatchIntent, .observedResult]
  | .observedFailure => [.accepted, .dispatchIntent, .observedFailure]

/-- Every column of `_OBSERVATION_COLUMNS` is null. -/
def noObservation (progress : ProgressColumns) : Bool :=
  progress.observationGeneration == none && progress.observationJournalRevision == none &&
    progress.observationRef == none && progress.observationHash == none &&
    progress.terminalReplyBytes == none

/-- Every column of `_DISPATCH_AND_OBSERVATION_COLUMNS` is null. -/
def noProgress (progress : ProgressColumns) : Bool :=
  progress.durableDispatchIntentRef == none && progress.dispatchIntentGeneration == none &&
    progress.dispatchIntentJournalRevision == none && noObservation progress

@[simp] theorem noObservation_dispatch (ref : Option String) (generation revision : Option Int) :
    noObservation
      { durableDispatchIntentRef := ref
        dispatchIntentGeneration := generation
        dispatchIntentJournalRevision := revision } = true := rfl

@[simp] theorem noProgress_empty : noProgress {} = true := rfl

/-- The columns of `_DISPATCH_COLUMNS` agree. -/
def sameDispatch (left right : ProgressColumns) : Bool :=
  left.durableDispatchIntentRef == right.durableDispatchIntentRef &&
    left.dispatchIntentGeneration == right.dispatchIntentGeneration &&
    left.dispatchIntentJournalRevision == right.dispatchIntentJournalRevision

/-- `_terminal_reply_bytes_match_observation`. -/
def terminalReplyBytesMatchObservation (progress : ProgressColumns) : Bool :=
  match progress.terminalReplyBytes with
  | none => true
  | some bytes =>
    progress.observationRef == some (py.sha256Hexdigest bytes) &&
      progress.observationHash == some (py.sha256Hexdigest bytes)

/-- The checks on the accepted event of a head. -/
def acceptedEventMatches (event : EventRow) (head : HeadRow) : Bool :=
  event.journalRevision == head.columns.acceptedJournalRevision &&
    event.eventGeneration == head.columns.acceptedGeneration && noProgress event.progress

/-- The checks on the dispatch event of a head. -/
def dispatchEventMatches (event : EventRow) (head : HeadRow) : Bool :=
  some event.journalRevision == head.progress.dispatchIntentJournalRevision &&
    some event.eventGeneration == head.progress.dispatchIntentGeneration &&
    event.progress.dispatchIntentJournalRevision == some event.journalRevision &&
    event.progress.dispatchIntentGeneration == some event.eventGeneration &&
    event.progress.durableDispatchIntentRef != none &&
    event.progress.durableDispatchIntentRef == head.progress.durableDispatchIntentRef &&
    noObservation event.progress

/-- The checks on the observation event of a head. -/
def observationEventMatches (event : EventRow) (head : HeadRow) : Bool :=
  some event.journalRevision == head.progress.observationJournalRevision &&
    some event.eventGeneration == head.progress.observationGeneration &&
    event.progress.observationJournalRevision == some event.journalRevision &&
    event.progress.observationGeneration == some event.eventGeneration &&
    event.progress.observationRef != none && event.progress.observationHash != none &&
    event.progress.observationRef == head.progress.observationRef &&
    event.progress.observationHash == head.progress.observationHash &&
    event.progress.terminalReplyBytes == head.progress.terminalReplyBytes &&
    terminalReplyBytesMatchObservation py event.progress &&
    terminalReplyBytesMatchObservation py head.progress

/-- The body of the loop over `head_by_key`, for one head and the events of its group. -/
def verifyHead (grouped : List EventRow) (head : HeadRow) :
    Except CommandJournalErrorReason Unit := do
  require (grouped.map (·.phase) = expectedPhases head.phase) .corrupt
  require ((grouped.map (·.eventGeneration)).Pairwise (· ≤ ·)) .corrupt
  require (grouped.all (fun event => event.columns == head.columns) = true) .corrupt
  require ((grouped.all (fun event => isValidDurableReplyBytes event.columns.acceptedAckBytes &&
      isValidDurableReplyBytes event.progress.terminalReplyBytes)) = true) .corrupt
  require ((isValidDurableReplyBytes head.columns.acceptedAckBytes &&
      isValidDurableReplyBytes head.progress.terminalReplyBytes) = true) .corrupt
  require (grouped[0]?.any (fun event => acceptedEventMatches event head) = true) .corrupt
  require (grouped.length = 1 → noProgress head.progress = true) .corrupt
  require (2 ≤ grouped.length →
      grouped[1]?.any (fun event => dispatchEventMatches event head) = true) .corrupt
  require ((grouped.drop 1).all (fun event => sameDispatch event.progress head.progress) = true)
    .corrupt
  require (grouped.length = 2 → noObservation head.progress = true) .corrupt
  require (grouped.length = 3 →
      grouped[2]?.any (fun event => observationEventMatches py event head) = true) .corrupt
  require (grouped.getLast?.any (fun event =>
      event.journalRevision == head.headJournalRevision &&
        event.eventGeneration == head.headGeneration) = true) .corrupt

/-- The generation a foreign key refers to is on record. -/
def knownGeneration (journal : Journal) (generation : Int) : Bool :=
  journal.generations.any (·.generation == generation)

/-- The foreign keys of the dispatch and observation columns hold. -/
def progressKnown (journal : Journal) (progress : ProgressColumns) : Bool :=
  progress.dispatchIntentGeneration.all (knownGeneration journal) &&
    progress.observationGeneration.all (knownGeneration journal)

/-- The foreign keys of an event hold. -/
def eventKnown (journal : Journal) (event : EventRow) : Bool :=
  knownGeneration journal event.eventGeneration &&
    knownGeneration journal event.columns.acceptedGeneration &&
    progressKnown journal event.progress

/-- The foreign keys of a head hold. -/
def headKnown (journal : Journal) (head : HeadRow) : Bool :=
  knownGeneration journal head.columns.acceptedGeneration &&
    knownGeneration journal head.headGeneration && progressKnown journal head.progress

/-- `PRAGMA foreign_key_check`: every generation a row refers to is on record. -/
def foreignKeysHold (journal : Journal) : Bool :=
  journal.events.all (eventKnown journal) && journal.heads.all (headKnown journal)

/-- `PRAGMA quick_check` on the constraints of the four tables. -/
def quickCheck (journal : Journal) : Bool :=
  journal.events.all eventCheck && journal.heads.all headCheck

/-- `_verify_journal_consistency`. -/
def verifyJournalConsistency (journal : Journal) : Except CommandJournalErrorReason Unit := do
  let events := journal.selectEvents
  let heads := journal.selectHeads
  let generations := journal.selectGenerations
  require (journal.state.lastSidecarGeneration =
    (generations.getLast?.map (·.generation)).getD 0) .corrupt
  require (generations.all generationRowCheck = true) .corrupt
  require (journal.state.lastJournalRevision =
    (events.getLast?.map (·.journalRevision)).getD 0) .corrupt
  require (events.map (·.journalRevision) = countFromOne events.length) .corrupt
  require ((∀ event ∈ events, event.key ∈ heads.map HeadRow.key) ∧
    (∀ head ∈ heads, head.key ∈ events.map EventRow.key)) .corrupt
  verifyHeadAliases heads
  checkAll (fun head => verifyHead py (events.filter (·.key == head.key)) head) heads

/-- `verify_schema` on the contents of the tables. -/
def verifySchema (journal : Journal) : Except CommandJournalErrorReason Unit := do
  require (quickCheck journal = true) .corrupt
  require (foreignKeysHold journal = true) .corrupt
  verifyJournalConsistency py journal

/-! ## `load_validated_history_facts` -/

/-- The dispatch values of a head row; a null column is not a strict value. -/
def dispatchFromRow (head : HeadRow) : Option DispatchValues := do
  let ref ← head.progress.durableDispatchIntentRef
  let generation ← head.progress.dispatchIntentGeneration
  let revision ← head.progress.dispatchIntentJournalRevision
  pure ⟨ref, generation, revision⟩

/-- The observation values of a head row. -/
def observationFromRow (head : HeadRow) : Option ObservationValues := do
  let generation ← head.progress.observationGeneration
  let revision ← head.progress.observationJournalRevision
  let ref ← head.progress.observationRef
  let hash ← head.progress.observationHash
  pure ⟨generation, revision, ref, hash⟩

/-- The conclusion that the phase and the columns of a head row state. -/
def conclusionFromRow (head : HeadRow) : Option Conclusion :=
  match head.phase with
  | .accepted => some .acceptedNoDispatch
  | .dispatchIntent => (dispatchFromRow head).map .dispatchNotObserved
  | .observedResult => do
    let dispatch ← dispatchFromRow head
    let observation ← observationFromRow head
    pure (.observedResult dispatch observation)
  | .observedFailure => do
    let dispatch ← dispatchFromRow head
    let observation ← observationFromRow head
    pure (.observedFailure dispatch observation)

/-- `_fact_from_row`. -/
def factFromRow (head : HeadRow) : Except JournalFailure (MatchedHistoryFact py) :=
  match conclusionFromRow head with
  | none => .error (.typeError "int() argument must be a number, not 'NoneType'")
  | some conclusion =>
    modelValidate py
      { command := head.columns.toAcceptedCommand
        acceptedGeneration := head.columns.acceptedGeneration
        acceptedJournalRevision := head.columns.acceptedJournalRevision
        headGeneration := head.headGeneration
        headJournalRevision := head.headJournalRevision
        conclusion := conclusion }

/-- Consecutive elements of a tuple are strictly increasing. -/
def strictlyIncreasing (values : List Int) : Bool :=
  (values.zip values.tail).all (fun pair => pair.1 < pair.2)

/-- The fields that grow with the authorization ordinal, by name. -/
def monotonicFields : List (String × (AcceptedCommand → Int)) :=
  [("attempt_no", AcceptedCommand.attemptNo),
    ("authorized_dispatch_intent_revision", AcceptedCommand.authorizedDispatchIntentRevision),
    ("expected_source_operation_ledger_revision",
      AcceptedCommand.expectedSourceOperationLedgerRevision),
    ("expected_reconciliation_revision", AcceptedCommand.expectedReconciliationRevision)]

/-- `_validate_authorization_histories`, for the commands of one logical operation. -/
def validateAuthorizationHistory (commands : List AcceptedCommand) :
    Except JournalFailure Unit := do
  let history := orderBy (·.dispatchAuthorizationOrdinal) commands
  require (history.map (·.dispatchAuthorizationOrdinal) = countFromOne history.length)
    (.valueError "source_history_authorization_ordinal_gap")
  require (∀ command ∈ history, some command.stableIdentity = history.head?.map (·.stableIdentity))
    (.valueError "source_history_authorization_identity_mismatch")
  require ((history.filterMap (·.safeRetryCommitRef)).Nodup)
    (.valueError "source_history_safe_retry_commit_ref_reused")
  checkAll (fun field =>
    require (strictlyIncreasing (history.map field.2) = true)
      (.valueError ("source_history_" ++ field.1 ++ "_not_increasing"))) monotonicFields

/-- `_validate_authorization_histories`: group the facts by operation and check each group. -/
def validateAuthorizationHistories (facts : List AcceptedCommand) : Except JournalFailure Unit :=
  checkAll (fun operation =>
    validateAuthorizationHistory (facts.filter (fun fact => fact.operation == operation)))
    (facts.map (·.operation)).eraseDups

/-- `load_validated_history_facts`, whose errors its callers report as `corrupt`. -/
def loadValidatedHistoryFacts (journal : Journal) :
    Except CommandJournalErrorReason (List (MatchedHistoryFact py)) := do
  let facts ← ((journal.selectHeads.mapM (factFromRow py)).mapError (fun _ => .corrupt))
  (validateAuthorizationHistories (facts.map (·.values.command))).mapError (fun _ => .corrupt)
  pure facts

/-- The validation that every opening of the journal runs. -/
def openValidated (journal : Journal) : Except CommandJournalErrorReason Unit := do
  verifySchema py journal
  let _ ← loadValidatedHistoryFacts py journal
  pure ()

end SeekTalent.SourcePort
