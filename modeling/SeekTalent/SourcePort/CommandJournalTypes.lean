import SeekTalent.SourcePort.WirePrimitives

/-!
# Command-journal values

The values shared by the journal's writer and its reader: the accepted command, the rows of the four
tables, the reasons of the typed errors and the transition result
(`_command_journal_types.py`, and the column lists of `history_sqlite_reader.py`).

The event and the head table share their first twenty-two columns, the ones that never change after
acceptance (`_IMMUTABLE_EVENT_HEAD_COLUMNS`); they are one structure here that both rows extend.
The nullable dispatch and observation columns are a second shared structure.
-/

namespace SeekTalent.SourcePort

/-- `CommandJournalErrorReason`. -/
inductive CommandJournalErrorReason
  | busy
  | cannotOpen
  | corrupt
  | full
  | ioError
  | pragmaMismatch
  | readonly
  | schemaMismatch
deriving DecidableEq, Repr

/-- `CommandJournalConflictReason`. -/
inductive CommandJournalConflictReason
  | acceptanceReplayConflict
  | createPathExists
  | dispatchReplayConflict
  | generationExhausted
  | headCasFailed
  | headMissing
  | identityConflict
  | instanceIdConflict
  | observationReplayConflict
  | observationWithoutDispatch
  | phaseRollback
  | revisionExhausted
  | sessionGenerationInvalid
  | staleHeadRevision
deriving DecidableEq, Repr

/-- What a journal call raises. -/
inductive JournalFailure
  /-- `ValueError`, with its text. -/
  | valueError (text : String)
  /-- `TypeError`, with its text. -/
  | typeError (text : String)
  /-- `pydantic.ValidationError`, with the names of the fields that do not validate. -/
  | validation (fields : List String)
  /-- `CommandJournalConflict`. -/
  | conflict (reason : CommandJournalConflictReason)
  /-- `CommandJournalError`. -/
  | journal (reason : CommandJournalErrorReason)
deriving DecidableEq, Repr

/-- The phase of a head or of an event. -/
inductive Phase
  | accepted
  | dispatchIntent
  | observedResult
  | observedFailure
deriving DecidableEq, Repr

/-- `CommandJournalTransitionDisposition`. -/
inductive Disposition
  | created
  | exactReplay
deriving DecidableEq, Repr

/-- `AcceptedCommand`: command identity and one main-authorized dispatch epoch. -/
structure AcceptedCommand where
  runId : String
  operationId : String
  source : String
  operationKind : String
  idempotencyKey : String
  requestHash : String
  attemptNo : Int
  acceptedRequirementRevisionId : String
  runtimeAttemptFenceRef : String
  authorizedDispatchIntentId : String
  authorizedDispatchIntentRevision : Int
  authorizedDispatchIntentDigest : String
  profileBindingGeneration : Int
  browserControlScopeId : Option String := none
  controllerFenceRef : Option String := none
  dispatchAuthorizationOrdinal : Int := 1
  safeRetryCommitRef : Option String := none
  expectedSourceOperationLedgerRevision : Int := 1
  expectedReconciliationRevision : Int := 0
deriving DecidableEq, Repr

/-- `_IMMUTABLE_EVENT_HEAD_COLUMNS`: what a command's acceptance fixes for all of its rows. -/
structure ImmutableColumns extends AcceptedCommand where
  acceptedGeneration : Int
  acceptedJournalRevision : Int
  acceptedAckBytes : Option Bytes
deriving DecidableEq, Repr

/-- `_DISPATCH_AND_OBSERVATION_COLUMNS`. -/
structure ProgressColumns where
  durableDispatchIntentRef : Option String := none
  dispatchIntentGeneration : Option Int := none
  dispatchIntentJournalRevision : Option Int := none
  observationGeneration : Option Int := none
  observationJournalRevision : Option Int := none
  observationRef : Option String := none
  observationHash : Option String := none
  terminalReplyBytes : Option Bytes := none
deriving DecidableEq, Repr

/-- A row of `source_history_events`. -/
structure EventRow where
  journalRevision : Int
  eventGeneration : Int
  phase : Phase
  columns : ImmutableColumns
  progress : ProgressColumns
deriving DecidableEq, Repr

/-- A row of `source_history_heads`. -/
structure HeadRow where
  columns : ImmutableColumns
  phase : Phase
  headGeneration : Int
  headJournalRevision : Int
  progress : ProgressColumns
deriving DecidableEq, Repr

/-- The one row of `source_history_state`. -/
structure StateRow where
  lastJournalRevision : Int
  lastSidecarGeneration : Int
deriving DecidableEq, Repr

/-- A row of `source_history_generations`. -/
structure GenerationRow where
  generation : Int
  sidecarInstanceId : String
  retained : Int
  complete : Int
deriving DecidableEq, Repr

/-- The tables of one journal database. -/
structure Journal where
  state : StateRow
  generations : List GenerationRow
  events : List EventRow
  heads : List HeadRow
deriving DecidableEq, Repr

/-- `CommandJournalTransitionResult`. -/
structure TransitionResult where
  disposition : Disposition
  startupGeneration : Int
  acceptedGeneration : Int
  acceptedJournalRevision : Int
  revision : Int
  headPhase : Phase
  acceptedAckBytes : Option Bytes
  terminalReplyBytes : Option Bytes
deriving DecidableEq, Repr

/-- `_head_key`: run, operation and dispatch-authorization ordinal. -/
abbrev HeadKey := String × String × Int

/-- The logical operation a row belongs to. -/
abbrev OperationKey := String × String

namespace AcceptedCommand

/-- The primary key of the authorization the command asks for. -/
def key (command : AcceptedCommand) : HeadKey :=
  (command.runId, command.operationId, command.dispatchAuthorizationOrdinal)

/-- The logical operation of the command. -/
def operation (command : AcceptedCommand) : OperationKey :=
  (command.runId, command.operationId)

/-- The identity that every authorization of one logical operation shares. -/
def stableIdentity (command : AcceptedCommand) : String × String × String × String × String :=
  (command.source, command.operationKind, command.idempotencyKey, command.requestHash,
    command.acceptedRequirementRevisionId)

end AcceptedCommand

/-- The primary key of a head. -/
def HeadRow.key (head : HeadRow) : HeadKey := head.columns.key

/-- The head an event belongs to. -/
def EventRow.key (event : EventRow) : HeadKey := event.columns.key

/-- `MAX_DURABLE_REPLY_BYTES`. -/
def maxDurableReplyBytes : Nat := 65536

/-- `_is_valid_durable_reply_bytes`. -/
def isValidDurableReplyBytes (value : Option Bytes) : Bool :=
  match value with
  | none => true
  | some bytes => 1 ≤ bytes.length && bytes.length ≤ maxDurableReplyBytes

@[simp] theorem isValidDurableReplyBytes_none : isValidDurableReplyBytes none = true := rfl

end SeekTalent.SourcePort
