import SeekTalent.Foundation.Machine
import SeekTalent.SourcePort.HistorySqliteReader

/-!
# The journal writer

The writer half of the journal (`_command_journal_engine.py`) and the public API over it
(`command_journal.py`).  Every function that opens a write transaction is a computation in
`Except JournalFailure` from the tables to the result and the new tables; a raised failure is a
rolled-back transaction, so the tables of the caller stay as they were.

`World` is one journal file together with the live sessions that the factory handed out, and `exec`
is one public call.  Histories of calls by any number of sessions in any interleaving are runs of
`exec`.
-/

namespace SeekTalent.SourcePort

open Foundation

variable (py : PythonRuntime)

/-! ## Statements on the tables -/

/-- `_EVENT_INSERT`, with the constraints and the trigger of the event table. -/
def insertEvent (journal : Journal) (event : EventRow) : Except JournalFailure Journal := do
  require (eventCheck event = true) (.journal .corrupt)
  require (journal.events.all (·.journalRevision != event.journalRevision) = true)
    (.journal .corrupt)
  require (eventKnown journal event = true) (.journal .corrupt)
  pure { journal with events := journal.events ++ [event] }

/-- `_HEAD_INSERT`, with the constraints and the unique indexes of the head table. -/
def insertHead (journal : Journal) (head : HeadRow) : Except JournalFailure Journal := do
  require (headCheck head = true) (.journal .corrupt)
  require (journal.heads.all (·.key != head.key) = true) (.journal .corrupt)
  require (journal.heads.all (fun other =>
      !sameRetryRef other.columns.toAcceptedCommand head.columns.toAcceptedCommand) = true)
    (.journal .corrupt)
  require (headKnown journal head = true) (.journal .corrupt)
  pure { journal with heads := journal.heads ++ [head] }

/-- The row an `UPDATE source_history_heads ... WHERE` of the writer selects. -/
def headSelected (key : HeadKey) (expectedRevision : Int) (phase : Phase) (head : HeadRow) : Bool :=
  head.key == key && head.headJournalRevision == expectedRevision && head.phase == phase

/-- `UPDATE source_history_heads SET ... WHERE key, head_journal_revision and phase`, with its
row-count check and the constraints of the head table. -/
def updateHead (journal : Journal) (key : HeadKey) (expectedRevision : Int) (phase : Phase)
    (set : HeadRow → HeadRow) : Except JournalFailure Journal := do
  let selected := headSelected key expectedRevision phase
  require (((journal.heads.filter selected).map set).all
      (fun head => headCheck head && headKnown journal head) = true) (.journal .corrupt)
  require (journal.heads.countP selected = 1) (.conflict .headCasFailed)
  pure { journal with heads := journal.heads.map (fun head => if selected head then set head
    else head) }

/-- `_allocate_revision`. -/
def allocateRevision (journal : Journal) : Except JournalFailure (Int × Journal) := do
  let lastRevision := journal.state.lastJournalRevision
  require (0 ≤ lastRevision ∧ lastRevision < sqliteMaxInteger) (.conflict .revisionExhausted)
  pure (lastRevision + 1,
    { journal with state := { journal.state with lastJournalRevision := lastRevision + 1 } })

/-- `_find_operation_head`. -/
def findOperationHead (journal : Journal) (key : HeadKey) : Option HeadRow :=
  journal.heads.find? (·.key == key)

/-- `_require_head`. -/
def requireHead (journal : Journal) (key : HeadKey) : Except JournalFailure HeadRow :=
  match findOperationHead journal key with
  | some head => .ok head
  | none => .error (.conflict .headMissing)

/-- `ORDER BY dispatch_authorization_ordinal DESC LIMIT 1` over the heads of one operation. -/
def latestAuthorization (journal : Journal) (operation : OperationKey) : Option HeadRow :=
  (orderBy (fun head => -head.columns.dispatchAuthorizationOrdinal)
    (journal.heads.filter (·.columns.operation == operation))).head?

/-! ## Validation of arguments -/

/-- `_require_positive_integer`. -/
def requirePositiveInteger (value : Int) (name : String) : Except JournalFailure Unit :=
  require (1 ≤ value ∧ value ≤ sqliteMaxInteger) (.valueError ("command_journal_invalid_" ++ name))

/-- `_validate_durable_reply_bytes`. -/
def validateDurableReplyBytes (value : Option Bytes) (name : String) :
    Except JournalFailure Unit :=
  require (isValidDurableReplyBytes value = true) (.valueError ("command_journal_invalid_" ++ name))

/-- `_validate_terminal_observation_binding`. -/
def validateTerminalObservationBinding (observationRef observationHash : String)
    (terminalReplyBytes : Option Bytes) : Except JournalFailure Unit :=
  match terminalReplyBytes with
  | none => .ok ()
  | some bytes =>
    require (observationRef = py.sha256Hexdigest bytes ∧
        observationHash = py.sha256Hexdigest bytes)
      (.valueError "command_journal_terminal_reply_bytes_digest_mismatch")

/-- `_validate_accepted_input`. -/
def validateAcceptedInput (accepted : AcceptedCommand) (generation : Int) :
    Except JournalFailure Unit := do
  require (1 ≤ accepted.dispatchAuthorizationOrdinal)
    (.valueError "command_journal_invalid_dispatch_authorization_ordinal")
  if accepted.dispatchAuthorizationOrdinal = 1 then
    require (accepted.safeRetryCommitRef = none ∧
        accepted.expectedSourceOperationLedgerRevision = 1 ∧
        accepted.expectedReconciliationRevision = 0)
      (.valueError "command_journal_invalid_initial_authorization")
  else
    require (accepted.safeRetryCommitRef.any (· != "") ∧
        1 < accepted.expectedSourceOperationLedgerRevision ∧
        1 ≤ accepted.expectedReconciliationRevision)
      (.valueError "command_journal_invalid_safe_retry_authorization")
  FactValues.validate py ⟨accepted, generation, 1, generation, 1, .acceptedNoDispatch⟩

/-! ## Sessions -/

/-- The identity a live `CommandJournalSession` carries. -/
structure Session where
  generation : Int
  instanceId : String
deriving DecidableEq, Repr

/-- `_require_session_generation`. -/
def requireSessionGeneration (journal : Journal) (session : Session) :
    Except JournalFailure Unit :=
  require ((journal.generations.find? (·.generation == session.generation)).any (fun row =>
      row.sidecarInstanceId == session.instanceId && row.retained == 1 && row.complete == 1 &&
        journal.state.lastSidecarGeneration == session.generation) = true)
    (.conflict .sessionGenerationInvalid)

/-- A token of `secrets.token_hex(32)`: sixty-four lowercase hexadecimal digits. -/
structure HexToken where
  text : String
  valid : isSha256 text = true

/-- `_start_generation`: validate the whole journal, then allocate the next generation. -/
def startGeneration (journal : Journal) (instanceId : HexToken) :
    Except JournalFailure (Session × Journal) := do
  (openValidated py journal).mapError .journal
  let lastGeneration := journal.state.lastSidecarGeneration
  require (0 ≤ lastGeneration ∧ lastGeneration < sqliteMaxInteger)
    (.conflict .generationExhausted)
  let generation := lastGeneration + 1
  require (journal.generations.all (·.sidecarInstanceId != instanceId.text) = true)
    (.conflict .instanceIdConflict)
  require (journal.generations.all (·.generation != generation) = true) (.journal .corrupt)
  pure (⟨generation, instanceId.text⟩,
    { journal with
      state := { journal.state with lastSidecarGeneration := generation }
      generations := journal.generations ++ [⟨generation, instanceId.text, 1, 1⟩] })

/-! ## Transition results -/

/-- `_reply_bytes_from_row`. -/
def replyBytesFromRow (value : Option Bytes) : Except JournalFailure (Option Bytes) := do
  require (isValidDurableReplyBytes value = true) (.journal .corrupt)
  pure value

/-- `_transition_result_from_head`. -/
def transitionResultFromHead (head : HeadRow) (disposition : Disposition)
    (startupGeneration revision : Int) : Except JournalFailure TransitionResult := do
  let terminalReplyBytes ← replyBytesFromRow head.progress.terminalReplyBytes
  if head.phase = .observedResult ∨ head.phase = .observedFailure then
    require (terminalReplyBytesMatchObservation py head.progress = true) (.journal .corrupt)
  let acceptedAckBytes ← replyBytesFromRow head.columns.acceptedAckBytes
  pure
    { disposition := disposition
      startupGeneration := startupGeneration
      acceptedGeneration := head.columns.acceptedGeneration
      acceptedJournalRevision := head.columns.acceptedJournalRevision
      revision := revision
      headPhase := head.phase
      acceptedAckBytes := acceptedAckBytes
      terminalReplyBytes := terminalReplyBytes }

/-! ## `record_accepted` -/

/-- The columns that a transport replay may change. -/
def withTransportOf (accepted row : AcceptedCommand) : AcceptedCommand :=
  { accepted with
    runtimeAttemptFenceRef := row.runtimeAttemptFenceRef
    browserControlScopeId := row.browserControlScopeId
    controllerFenceRef := row.controllerFenceRef }

/-- `_same_accepted_identity`. -/
def sameAcceptedIdentity (row : HeadRow) (accepted : AcceptedCommand)
    (allowTransportReplay : Bool) : Bool :=
  let stored := row.columns.toAcceptedCommand
  if allowTransportReplay then withTransportOf accepted stored == stored else accepted == stored

/-- `_require_safe_retry_predecessor`. -/
def requireSafeRetryPredecessor (journal : Journal) (accepted : AcceptedCommand) :
    Except JournalFailure Unit :=
  require ((latestAuthorization journal accepted.operation).any (fun predecessor =>
      predecessor.columns.dispatchAuthorizationOrdinal ==
          accepted.dispatchAuthorizationOrdinal - 1 &&
        predecessor.phase == .accepted &&
        predecessor.columns.stableIdentity == accepted.stableIdentity &&
        predecessor.columns.expectedSourceOperationLedgerRevision <
          accepted.expectedSourceOperationLedgerRevision &&
        predecessor.columns.expectedReconciliationRevision <
          accepted.expectedReconciliationRevision) = true)
    (.conflict .identityConflict)

/-- A head shares the idempotency key within the run or within the operation id. -/
def idempotencyCollision (accepted : AcceptedCommand) (head : HeadRow) : Bool :=
  (head.columns.runId == accepted.runId ||
      head.columns.operationId == accepted.operationId) &&
    head.columns.idempotencyKey == accepted.idempotencyKey

/-- `_require_no_identity_collision`. -/
def requireNoIdentityCollision (journal : Journal) (accepted : AcceptedCommand) :
    Except JournalFailure Unit := do
  if 1 < accepted.dispatchAuthorizationOrdinal then
    requireSafeRetryPredecessor journal accepted
    require (journal.heads.all (fun head => !(idempotencyCollision accepted head &&
        !(head.columns.operation == accepted.operation))) = true) (.conflict .identityConflict)
  else
    require (journal.heads.all (fun head => !(head.columns.operation == accepted.operation &&
        head.columns.dispatchAuthorizationOrdinal == 1)) = true) (.conflict .identityConflict)
    require (journal.heads.all (fun head => !idempotencyCollision accepted head) = true)
      (.conflict .identityConflict)

/-- The options of `record_accepted`. -/
structure AcceptOptions where
  acceptedAckBytes : Option Bytes := none
  /-- `accepted_ack_factory`: a callback on the generation and the revision, which may raise. -/
  acceptedAckFactory : Option (Int → Int → Except JournalFailure (Option Bytes)) := none
  allowExistingPhaseReplay : Bool := false
  allowTransportReplay : Bool := false
  requireExistingReplay : Bool := false

/-- The acknowledgement bytes of a new acceptance. -/
def acceptedAck (options : AcceptOptions) (generation revision : Int) :
    Except JournalFailure (Option Bytes) :=
  match options.acceptedAckFactory with
  | none => .ok options.acceptedAckBytes
  | some factory => do
    let bytes ← factory generation revision
    validateDurableReplyBytes bytes "accepted_ack_bytes"
    pure bytes

/-- The branch of `_record_accepted` for an authorization that has a head. -/
def replayAccepted (session : Session) (existing : HeadRow) (accepted : AcceptedCommand)
    (options : AcceptOptions) : Except JournalFailure TransitionResult := do
  require (sameAcceptedIdentity existing accepted options.allowTransportReplay = true)
    (.conflict .identityConflict)
  require (existing.phase = .accepted ∨ options.allowExistingPhaseReplay = true)
    (.conflict .phaseRollback)
  require (existing.columns.acceptedGeneration = session.generation ∨
      options.allowExistingPhaseReplay = true) (.conflict .acceptanceReplayConflict)
  transitionResultFromHead py existing .exactReplay session.generation
    existing.columns.acceptedJournalRevision

/-- The branch of `_record_accepted` that creates the head. -/
def createAccepted (journal : Journal) (session : Session) (accepted : AcceptedCommand)
    (options : AcceptOptions) : Except JournalFailure (TransitionResult × Journal) := do
  requireNoIdentityCollision journal accepted
  let (revision, journal) ← allocateRevision journal
  FactValues.validate py ⟨accepted, session.generation, revision, session.generation, revision,
    .acceptedNoDispatch⟩
  let ack ← acceptedAck options session.generation revision
  let columns : ImmutableColumns :=
    { accepted with
      acceptedGeneration := session.generation
      acceptedJournalRevision := revision
      acceptedAckBytes := ack }
  let journal ← insertEvent journal ⟨revision, session.generation, .accepted, columns, {}⟩
  let journal ← insertHead journal ⟨columns, .accepted, session.generation, revision, {}⟩
  pure (⟨.created, session.generation, session.generation, revision, revision, .accepted, ack,
    none⟩, journal)

/-- `_record_accepted`. -/
def recordAccepted (journal : Journal) (session : Session) (accepted : AcceptedCommand)
    (options : AcceptOptions) : Except JournalFailure (TransitionResult × Journal) := do
  require (options.acceptedAckBytes = none ∨ options.acceptedAckFactory.isNone = true)
    (.valueError "accepted ack bytes and factory are mutually exclusive")
  validateAcceptedInput py accepted session.generation
  validateDurableReplyBytes options.acceptedAckBytes "accepted_ack_bytes"
  requireSessionGeneration journal session
  match findOperationHead journal accepted.key with
  | some existing => do
    let result ← replayAccepted py session existing accepted options
    pure (result, journal)
  | none => do
    require (options.requireExistingReplay = false) (.conflict .headMissing)
    createAccepted py journal session accepted options

/-! ## `record_dispatch_intent` -/

/-- The arguments of `record_dispatch_intent`. -/
structure DispatchArguments where
  runId : String
  operationId : String
  dispatchAuthorizationOrdinal : Int := 1
  expectedHeadJournalRevision : Int
  durableDispatchIntentRef : String
deriving DecidableEq, Repr

/-- The head that the arguments address. -/
def DispatchArguments.key (arguments : DispatchArguments) : HeadKey :=
  (arguments.runId, arguments.operationId, arguments.dispatchAuthorizationOrdinal)

/-- The branch of `_record_dispatch_intent` for a head that is dispatched already. -/
def replayDispatchIntent (session : Session) (head : HeadRow) (arguments : DispatchArguments) :
    Except JournalFailure TransitionResult := do
  require (head.columns.acceptedJournalRevision = arguments.expectedHeadJournalRevision ∧
      head.progress.durableDispatchIntentRef = some arguments.durableDispatchIntentRef)
    (.conflict .dispatchReplayConflict)
  transitionResultFromHead py head .exactReplay session.generation
    (head.progress.dispatchIntentJournalRevision.getD 0)

/-- The dispatch columns that a new dispatch intent writes. -/
def dispatchProgress (session : Session) (revision : Int) (ref : String) : ProgressColumns :=
  { durableDispatchIntentRef := some ref
    dispatchIntentGeneration := some session.generation
    dispatchIntentJournalRevision := some revision }

/-- The branch of `_record_dispatch_intent` that advances the head. -/
def createDispatchIntent (journal : Journal) (session : Session) (head : HeadRow)
    (arguments : DispatchArguments) : Except JournalFailure (TransitionResult × Journal) := do
  require (head.phase = .accepted) (.conflict .phaseRollback)
  require (head.headGeneration = session.generation) (.conflict .sessionGenerationInvalid)
  require (head.headJournalRevision = arguments.expectedHeadJournalRevision)
    (.conflict .staleHeadRevision)
  let (revision, journal) ← allocateRevision journal
  FactValues.validate py ⟨head.columns.toAcceptedCommand, head.columns.acceptedGeneration,
    head.columns.acceptedJournalRevision, session.generation, revision,
    .dispatchNotObserved ⟨arguments.durableDispatchIntentRef, session.generation, revision⟩⟩
  let ack ← replyBytesFromRow head.columns.acceptedAckBytes
  let progress := dispatchProgress session revision arguments.durableDispatchIntentRef
  let journal ← insertEvent journal
    ⟨revision, session.generation, .dispatchIntent, head.columns, progress⟩
  let journal ← updateHead journal arguments.key arguments.expectedHeadJournalRevision .accepted
    (fun row => { row with
      phase := .dispatchIntent
      headGeneration := session.generation
      headJournalRevision := revision
      progress := { row.progress with
        durableDispatchIntentRef := some arguments.durableDispatchIntentRef
        dispatchIntentGeneration := some session.generation
        dispatchIntentJournalRevision := some revision } })
  pure (⟨.created, session.generation, head.columns.acceptedGeneration,
    head.columns.acceptedJournalRevision, revision, .dispatchIntent, ack, none⟩, journal)

/-- `_record_dispatch_intent`. -/
def recordDispatchIntent (journal : Journal) (session : Session) (arguments : DispatchArguments) :
    Except JournalFailure (TransitionResult × Journal) := do
  requirePositiveInteger arguments.expectedHeadJournalRevision "expected_head_journal_revision"
  requirePositiveInteger arguments.dispatchAuthorizationOrdinal "dispatch_authorization_ordinal"
  requireSessionGeneration journal session
  let head ← requireHead journal arguments.key
  if head.phase = .dispatchIntent then
    let result ← replayDispatchIntent py session head arguments
    pure (result, journal)
  else
    createDispatchIntent py journal session head arguments

/-! ## `record_observed_result` and `record_observed_failure` -/

/-- `observation_kind`. -/
inductive ObservationKind
  | observedResult
  | observedFailure
deriving DecidableEq, Repr

/-- The phase that an observation of a kind reaches. -/
def ObservationKind.phase : ObservationKind → Phase
  | .observedResult => .observedResult
  | .observedFailure => .observedFailure

/-- The conclusion that an observation of a kind states. -/
def ObservationKind.conclusion : ObservationKind → DispatchValues → ObservationValues → Conclusion
  | .observedResult => .observedResult
  | .observedFailure => .observedFailure

/-- The arguments of `record_observed_result` and `record_observed_failure`. -/
structure ObservationArguments where
  runId : String
  operationId : String
  dispatchAuthorizationOrdinal : Int := 1
  expectedHeadJournalRevision : Int
  kind : ObservationKind
  observationRef : String
  observationHash : String
  terminalReplyBytes : Option Bytes := none
deriving DecidableEq, Repr

/-- The head that the arguments address. -/
def ObservationArguments.key (arguments : ObservationArguments) : HeadKey :=
  (arguments.runId, arguments.operationId, arguments.dispatchAuthorizationOrdinal)

/-- The branch of `_record_observation` for a head that is observed already. -/
def replayObservation (session : Session) (head : HeadRow) (arguments : ObservationArguments) :
    Except JournalFailure TransitionResult := do
  require (head.phase = arguments.kind.phase) (.conflict .phaseRollback)
  require (head.progress.dispatchIntentJournalRevision =
        some arguments.expectedHeadJournalRevision ∧
      head.progress.observationRef = some arguments.observationRef ∧
      head.progress.observationHash = some arguments.observationHash ∧
      (arguments.terminalReplyBytes = none ∨
        arguments.terminalReplyBytes = head.progress.terminalReplyBytes))
    (.conflict .observationReplayConflict)
  transitionResultFromHead py head .exactReplay session.generation
    (head.progress.observationJournalRevision.getD 0)

/-- The branch of `_record_observation` that advances the head. -/
def createObservation (journal : Journal) (session : Session) (head : HeadRow)
    (arguments : ObservationArguments) : Except JournalFailure (TransitionResult × Journal) := do
  require (head.phase = .dispatchIntent) (.conflict .observationWithoutDispatch)
  require (head.headGeneration = session.generation) (.conflict .sessionGenerationInvalid)
  require (head.headJournalRevision = arguments.expectedHeadJournalRevision)
    (.conflict .staleHeadRevision)
  let (revision, journal) ← allocateRevision journal
  match dispatchFromRow head with
  | none => .error (.typeError "int() argument must be a number, not 'NoneType'")
  | some dispatch => do
    FactValues.validate py ⟨head.columns.toAcceptedCommand, head.columns.acceptedGeneration,
      head.columns.acceptedJournalRevision, session.generation, revision,
      arguments.kind.conclusion dispatch ⟨session.generation, revision,
        arguments.observationRef, arguments.observationHash⟩⟩
    let ack ← replyBytesFromRow head.columns.acceptedAckBytes
    let journal ← insertEvent journal
      ⟨revision, session.generation, arguments.kind.phase, head.columns,
        { durableDispatchIntentRef := some dispatch.durableDispatchIntentRef
          dispatchIntentGeneration := some dispatch.dispatchIntentGeneration
          dispatchIntentJournalRevision := some dispatch.dispatchIntentJournalRevision
          observationGeneration := some session.generation
          observationJournalRevision := some revision
          observationRef := some arguments.observationRef
          observationHash := some arguments.observationHash
          terminalReplyBytes := arguments.terminalReplyBytes }⟩
    let journal ← updateHead journal arguments.key arguments.expectedHeadJournalRevision
      .dispatchIntent (fun row => { row with
        phase := arguments.kind.phase
        headGeneration := session.generation
        headJournalRevision := revision
        progress := { row.progress with
          observationGeneration := some session.generation
          observationJournalRevision := some revision
          observationRef := some arguments.observationRef
          observationHash := some arguments.observationHash
          terminalReplyBytes := arguments.terminalReplyBytes } })
    pure (⟨.created, session.generation, head.columns.acceptedGeneration,
      head.columns.acceptedJournalRevision, revision, arguments.kind.phase, ack,
      arguments.terminalReplyBytes⟩, journal)

/-- `_record_observation`. -/
def recordObservation (journal : Journal) (session : Session) (arguments : ObservationArguments) :
    Except JournalFailure (TransitionResult × Journal) := do
  requirePositiveInteger arguments.expectedHeadJournalRevision "expected_head_journal_revision"
  requirePositiveInteger arguments.dispatchAuthorizationOrdinal "dispatch_authorization_ordinal"
  validateDurableReplyBytes arguments.terminalReplyBytes "terminal_reply_bytes"
  requireSessionGeneration journal session
  validateTerminalObservationBinding py arguments.observationRef arguments.observationHash
    arguments.terminalReplyBytes
  let head ← requireHead journal arguments.key
  if head.phase = .observedResult ∨ head.phase = .observedFailure then
    let result ← replayObservation py session head arguments
    pure (result, journal)
  else
    createObservation py journal session head arguments

/-! ## The public API -/

/-- One call of the public journal API, with any arguments. -/
inductive Call
  | create
  | start (instanceId : HexToken)
  | close (session : Session)
  | recordAccepted (session : Session) (accepted : AcceptedCommand) (options : AcceptOptions)
  | recordDispatchIntent (session : Session) (arguments : DispatchArguments)
  | recordObservation (session : Session) (arguments : ObservationArguments)

/-- One journal path and the live sessions over it. -/
structure World where
  journal : Option Journal
  sessions : List Session

/-- Before the first call there is no file and no session. -/
def World.initial : World := ⟨none, []⟩

/-- The tables that `_initialize_database` writes. -/
def emptyJournal : Journal := ⟨⟨0, 0⟩, [], [], []⟩

/-- A live session and the journal it writes to; `_session_state` raises otherwise. -/
def World.live (world : World) (session : Session) : Except JournalFailure Journal := do
  require (session ∈ world.sessions)
    (.typeError "CommandJournalSession must be a live factory session")
  match world.journal with
  | some journal => .ok journal
  | none => .error (.journal .cannotOpen)

/-- What a call hands to its caller when it does not raise. -/
inductive Returned
  | journal
  | session (session : Session)
  | closed
  | receipt (result : TransitionResult)

/-- What a call that does not raise returns, and the world it leaves. -/
def call (world : World) : Call → Except JournalFailure (Returned × World)
  | .create =>
    match world.journal with
    | some _ => .error (.conflict .createPathExists)
    | none => .ok (.journal, { world with journal := some emptyJournal })
  | .start instanceId =>
    match world.journal with
    | none => .error (.journal .cannotOpen)
    | some journal => do
      let (session, journal) ← startGeneration py journal instanceId
      pure (.session session, ⟨some journal, world.sessions ++ [session]⟩)
  | .close session => do
    require (session ∈ world.sessions)
      (.typeError "CommandJournalSession must be a live factory session")
    pure (.closed, { world with sessions := world.sessions.filter (· != session) })
  | .recordAccepted session accepted options => do
    let journal ← world.live session
    let (result, journal) ← recordAccepted py journal session accepted options
    pure (.receipt result, { world with journal := some journal })
  | .recordDispatchIntent session arguments => do
    let journal ← world.live session
    let (result, journal) ← recordDispatchIntent py journal session arguments
    pure (.receipt result, { world with journal := some journal })
  | .recordObservation session arguments => do
    let journal ← world.live session
    let (result, journal) ← recordObservation py journal session arguments
    pure (.receipt result, { world with journal := some journal })

/-- The world after a call: a call that raises is rolled back. -/
def exec (world : World) (c : Call) : World :=
  match call py world c with
  | .ok (_, next) => next
  | .error _ => world

end SeekTalent.SourcePort
