import SeekTalent.SourcePort.CommandJournalEngine

/-!
# The Liepin sidecar

The child process that owns the browser effects (`liepin_cards_sidecar.py`).  A process opens or
creates the journal, starts a session and then serves one submit after the other.  The handlers of
cards and details submits are the same function of the submit's kind; each is a sequence of durable
journal calls, frames that are sent and one browser effect, and a `Stage` is the position between
two of them.

`Sidecars` is any number of such processes over one journal.  A step moves one process by one stage,
so two processes interleave between every pair of durable steps.  A process can crash in every
stage: an exception of the transport, of a message validator, of the browser or of the database ends
the process like an injected fault does.  Labels that a process is not in the right stage for leave
the state as it is.
-/

namespace SeekTalent.SourcePort

open Foundation

variable (py : PythonRuntime)

/-! ## Messages -/

/-- The two submits that the sidecar serves. -/
inductive SubmitKind
  | cards
  | details
deriving DecidableEq, Repr

/-- `operation_kind` of a submit. -/
def SubmitKind.operationKind : SubmitKind → String
  | .cards => "cards"
  | .details => "details"

/-- `OperationIdentityV1`: the fields that the handlers read. -/
structure OperationIdentity where
  runId : String
  operationId : String
  attemptNo : Int
  requestHash : String
  idempotencyKey : String
  acceptedRequirementRevisionId : String
  runtimeAttemptFenceRef : String
  profileBindingGeneration : Int
  browserControlScopeId : String
  expectedReconciliationRevision : Int

/-- `DispatchAuthorizationV1`: the fields that the handlers read. -/
structure DispatchAuthorization where
  dispatchIntentId : String
  dispatchIntentRevision : Int
  dispatchAuthorizationOrdinal : Int
  safeRetryCommitRef : Option String
  expectedSourceOperationLedgerRevision : Int
  expectedReconciliationRevision : Int
  dispatchIntentDigest : String

/-- `LiepinCardsSubmitV1` or `LiepinDetailsSubmitV1`. -/
structure Submit where
  kind : SubmitKind
  identity : OperationIdentity
  authorization : DispatchAuthorization

namespace Submit

/-- The command that a handler records as accepted. -/
def acceptedCommand (submit : Submit) : AcceptedCommand where
  runId := submit.identity.runId
  operationId := submit.identity.operationId
  source := "liepin"
  operationKind := submit.kind.operationKind
  idempotencyKey := submit.identity.idempotencyKey
  requestHash := submit.identity.requestHash
  attemptNo := submit.identity.attemptNo
  acceptedRequirementRevisionId := submit.identity.acceptedRequirementRevisionId
  runtimeAttemptFenceRef := submit.identity.runtimeAttemptFenceRef
  authorizedDispatchIntentId := submit.authorization.dispatchIntentId
  authorizedDispatchIntentRevision := submit.authorization.dispatchIntentRevision
  authorizedDispatchIntentDigest := submit.authorization.dispatchIntentDigest
  profileBindingGeneration := submit.identity.profileBindingGeneration
  browserControlScopeId := some submit.identity.browserControlScopeId
  dispatchAuthorizationOrdinal := submit.authorization.dispatchAuthorizationOrdinal
  safeRetryCommitRef := submit.authorization.safeRetryCommitRef
  expectedSourceOperationLedgerRevision :=
    submit.authorization.expectedSourceOperationLedgerRevision
  expectedReconciliationRevision := submit.authorization.expectedReconciliationRevision

/-- `dispatch_ref`. -/
def dispatchRef (submit : Submit) : String :=
  "source-dispatch://" ++ submit.identity.operationId ++ "/" ++
    toString submit.authorization.dispatchAuthorizationOrdinal

/-- The authorization that the submit delivers. -/
def key (submit : Submit) : HeadKey := submit.acceptedCommand.key

end Submit

/-- `ack_kind`, as far as the handlers use it. -/
inductive AckKind
  | newLogicalOperation
  | newDispatchAuthorization
deriving DecidableEq, Repr

/-- `LiepinCardsAcceptedAckV1` or `LiepinDetailsAcceptedAckV1`. -/
structure AcceptedAck where
  sidecarGeneration : Int
  acceptedJournalRevision : Int
  ackKind : AckKind
  dispatchIntentRef : String

/-- `history_fact` of a reconcile-required message. -/
inductive HistoryFactKind
  | acceptedNoDispatch
  | dispatchNotObserved
deriving DecidableEq, Repr

/-- What a handler sends back. -/
inductive SidecarReply
  | acceptedAck (ack : AcceptedAck)
  | reconcileRequired (historyFact : HistoryFactKind)
  | result (observation : Bytes)

/-- `disposition` of an observation. -/
inductive ObservationDisposition
  | completed
  | partialResult
  | failed
deriving DecidableEq, Repr

/-- The observation of an effect: its disposition and its canonical JSON. -/
structure TerminalObservation where
  disposition : ObservationDisposition
  terminalBytes : Bytes

/-! ## Steps of a handler -/

/-- The options of the handlers' `record_accepted` call. -/
def acceptOptions : AcceptOptions :=
  { allowExistingPhaseReplay := true
    allowTransportReplay := true }

/-- The ack of an acceptance; `none` when `validate_ack_kind` raises. -/
def acceptedAckOf (submit : Submit) (accepted : TransitionResult) : Option AcceptedAck :=
  let ackKind := if submit.authorization.dispatchAuthorizationOrdinal = 1 then
    AckKind.newLogicalOperation else .newDispatchAuthorization
  let expected := if submit.identity.expectedReconciliationRevision = 0 then
    AckKind.newLogicalOperation else .newDispatchAuthorization
  if ackKind = expected then
    some ⟨accepted.startupGeneration, accepted.acceptedJournalRevision, ackKind, submit.dispatchRef⟩
  else none

/-- What a handler does after it sent the ack. -/
inductive AfterAck
  | sendResult (observation : Bytes)
  /-- `_cards_observation_from_receipt` raises on a head without a terminal reply. -/
  | observationMissing
  | sendReconcile (historyFact : HistoryFactKind)
  | recordDispatchIntent
deriving DecidableEq

/-- The branches of a handler on the receipt of its acceptance. -/
def afterAck (replayObservedOnly : Bool) (accepted : TransitionResult) : AfterAck :=
  if accepted.headPhase = .observedResult ∨ accepted.headPhase = .observedFailure then
    match accepted.terminalReplyBytes with
    | some observation => .sendResult observation
    | none => .observationMissing
  else if accepted.headPhase = .dispatchIntent ∨ accepted.disposition = .exactReplay then
    .sendReconcile (if accepted.headPhase = .dispatchIntent then .dispatchNotObserved
      else .acceptedNoDispatch)
  else if replayObservedOnly then .sendReconcile .acceptedNoDispatch
  else .recordDispatchIntent

/-- The arguments of a handler's `record_dispatch_intent` call. -/
def dispatchArguments (submit : Submit) (accepted : TransitionResult) : DispatchArguments where
  runId := submit.identity.runId
  operationId := submit.identity.operationId
  dispatchAuthorizationOrdinal := submit.authorization.dispatchAuthorizationOrdinal
  expectedHeadJournalRevision := accepted.revision
  durableDispatchIntentRef := submit.dispatchRef

/-- The arguments of `_record_terminal_observation`. -/
def observationArguments (submit : Submit) (dispatch : TransitionResult)
    (observation : TerminalObservation) : ObservationArguments where
  runId := submit.identity.runId
  operationId := submit.identity.operationId
  dispatchAuthorizationOrdinal := submit.authorization.dispatchAuthorizationOrdinal
  expectedHeadJournalRevision := dispatch.revision
  kind := if observation.disposition = .completed ∨ observation.disposition = .partialResult then
    .observedResult else .observedFailure
  observationRef := py.sha256Hexdigest observation.terminalBytes
  observationHash := py.sha256Hexdigest observation.terminalBytes
  terminalReplyBytes := some observation.terminalBytes

/-! ## Processes -/

/-- Where a process is. -/
inductive Stage
  /-- Before the check of `--replay-observed-only` for a journal file. -/
  | launching
  /-- The handshake is done and the journal not yet looked for. -/
  | connected
  /-- `args.journal.exists()` was evaluated. -/
  | probed (journalExists : Bool)
  /-- The journal is open and no session started. -/
  | opened
  /-- In the receive loop. -/
  | serving (session : Session)
  /-- A submit was received: the fault point `before_accept`. -/
  | received (session : Session) (submit : Submit)
  /-- The acceptance is committed: the fault point `after_accept`. -/
  | accepted (session : Session) (submit : Submit) (accepted : TransitionResult)
  /-- The ack was sent. -/
  | acknowledged (session : Session) (submit : Submit) (accepted : TransitionResult)
  /-- The dispatch intent is committed: the fault point `after_dispatch_intent`. -/
  | dispatched (session : Session) (submit : Submit) (dispatch : TransitionResult)
  /-- `_execute_cards` or `_execute_details` was started. -/
  | executing (session : Session) (submit : Submit) (dispatch : TransitionResult)
  /-- The effect returned: the fault point `after_effect`. -/
  | executed (session : Session) (submit : Submit) (dispatch : TransitionResult)
      (observation : TerminalObservation)
  /-- The observation is committed: the fault point `after_terminal`. -/
  | recorded (session : Session) (submit : Submit) (observation : TerminalObservation)
  /-- The process is gone; the session it had, if it had started one. -/
  | exited (session : Option Session)

/-- The session that the process started. -/
def Stage.session : Stage → Option Session
  | .launching | .connected | .probed _ | .opened => none
  | .serving session | .received session _ | .accepted session _ _ | .acknowledged session _ _
  | .dispatched session _ _ | .executing session _ _ | .executed session _ _ _
  | .recorded session _ _ => some session
  | .exited session => session

/-- One sidecar process. -/
structure Process where
  replayObservedOnly : Bool
  stage : Stage

/-- The start of an effect function: the process, the kind and the authorization. -/
structure Effect where
  process : Nat
  kind : SubmitKind
  key : HeadKey

/-- The logical operation of an effect. -/
def Effect.operation (effect : Effect) : OperationKey := (effect.key.1, effect.key.2.1)

/-- What one stage of a process leaves: the journal and its sessions, the next stage, an effect that
was started and a frame that was sent. -/
structure Advanced where
  world : World
  stage : Stage
  effect : Option Effect := none
  reply : Option SidecarReply := none

/-- The process ends; `finally` closes its session. -/
def exitFrom (world : World) (stage : Stage) : Advanced :=
  match stage with
  | .exited _ => ⟨world, stage, none, none⟩
  | _ =>
    match stage.session with
    | some session => ⟨exec py world (.close session), .exited (some session), none, none⟩
    | none => ⟨world, .exited none, none, none⟩

/-- One journal call of a process, which goes on with the receipt or ends. -/
def withReceipt (world : World) (stage : Stage) (c : Call) (next : TransitionResult → Stage) :
    Advanced :=
  match call py world c with
  | .ok (.receipt result, after) => ⟨after, next result, none, none⟩
  | _ => exitFrom py world stage

/-- The next own step of a process. -/
def Process.advance (pid : Nat) (world : World) (process : Process) : Advanced :=
  match process.stage with
  | .launching =>
    if process.replayObservedOnly = true ∧ world.journal.isNone = true then
      exitFrom py world process.stage
    else ⟨world, .connected, none, none⟩
  | .connected => ⟨world, .probed world.journal.isSome, none, none⟩
  | .probed true =>
    match world.journal.map (openValidated py) with
    | some (.ok ()) => ⟨world, .opened, none, none⟩
    | _ => exitFrom py world process.stage
  | .probed false =>
    match call py world .create with
    | .ok (_, after) => ⟨after, .opened, none, none⟩
    | .error _ => exitFrom py world process.stage
  | .received session submit =>
    withReceipt py world process.stage
      (.recordAccepted session submit.acceptedCommand acceptOptions)
      (fun accepted => .accepted session submit accepted)
  | .accepted session submit accepted =>
    match acceptedAckOf submit accepted with
    | some ack => ⟨world, .acknowledged session submit accepted, none, some (.acceptedAck ack)⟩
    | none => exitFrom py world process.stage
  | .acknowledged session submit accepted =>
    match afterAck process.replayObservedOnly accepted with
    | .sendResult observation => ⟨world, .serving session, none, some (.result observation)⟩
    | .observationMissing => exitFrom py world process.stage
    | .sendReconcile fact => ⟨world, .serving session, none, some (.reconcileRequired fact)⟩
    | .recordDispatchIntent =>
      withReceipt py world process.stage
        (.recordDispatchIntent session (dispatchArguments submit accepted))
        (fun dispatch => .dispatched session submit dispatch)
  | .dispatched session submit dispatch =>
    ⟨world, .executing session submit dispatch, some ⟨pid, submit.kind, submit.key⟩, none⟩
  | .executed session submit dispatch observation =>
    withReceipt py world process.stage
      (.recordObservation session (observationArguments py submit dispatch observation))
      (fun _ => .recorded session submit observation)
  | .recorded session _ observation =>
    ⟨world, .serving session, none, some (.result observation.terminalBytes)⟩
  | .opened | .serving _ | .executing _ _ _ | .exited _ => ⟨world, process.stage, none, none⟩

/-- What happens to a process. -/
inductive Event
  /-- The process takes its next own step. -/
  | advance
  /-- The process starts its session with a fresh token. -/
  | start (instanceId : HexToken)
  /-- A submit is delivered to the receive loop. -/
  | deliver (submit : Submit)
  /-- The effect function returns. -/
  | effectReturns (observation : TerminalObservation)
  /-- A fault, an exception or the end of the input. -/
  | crash

/-- What an event does to a process. -/
def Process.handle (pid : Nat) (world : World) (process : Process) : Event → Advanced
  | .advance => process.advance py pid world
  | .start instanceId =>
    match process.stage with
    | .opened =>
      match call py world (.start instanceId) with
      | .ok (.session session, after) => ⟨after, .serving session, none, none⟩
      | _ => exitFrom py world process.stage
    | _ => ⟨world, process.stage, none, none⟩
  | .deliver submit =>
    match process.stage with
    | .serving session => ⟨world, .received session submit, none, none⟩
    | _ => ⟨world, process.stage, none, none⟩
  | .effectReturns observation =>
    match process.stage with
    | .executing session submit dispatch =>
      ⟨world, .executed session submit dispatch observation, none, none⟩
    | _ => ⟨world, process.stage, none, none⟩
  | .crash => exitFrom py world process.stage

/-! ## All processes -/

/-- The processes over one journal, the effects they started and the frames they sent. -/
structure Sidecars where
  world : World
  processes : List Process
  effects : List Effect
  replies : List (Nat × SidecarReply)

/-- No journal and no process. -/
def Sidecars.initial : Sidecars := ⟨.initial, [], [], []⟩

/-- What the environment does next. -/
inductive SidecarLabel
  | spawn (replayObservedOnly : Bool)
  | process (pid : Nat) (event : Event)

/-- One step of the processes. -/
def Sidecars.step (sidecars : Sidecars) : SidecarLabel → Sidecars
  | .spawn replayObservedOnly =>
    { sidecars with processes := sidecars.processes ++ [⟨replayObservedOnly, .launching⟩] }
  | .process pid event =>
    match sidecars.processes[pid]? with
    | none => sidecars
    | some process =>
      let advanced := process.handle py pid sidecars.world event
      { world := advanced.world
        processes := sidecars.processes.set pid { process with stage := advanced.stage }
        effects := sidecars.effects ++ advanced.effect.toList
        replies := sidecars.replies ++ advanced.reply.toList.map (fun reply => (pid, reply)) }

end SeekTalent.SourcePort
