import SeekTalent.SourcePort.FrameSession

/-!
# Frames of the Liepin source session

The payloads of `authenticated_liepin_source_frames.py` (with `operation_dispatch.py` and the cards
and details contracts) and the contract that `PostHandshakeLiepinSourceSession` hands to a frame
session: cards and details submits from the main endpoint, and an acknowledgement, a result or a
reconcile notice for each from the sidecar.

A field that admits one literal value is written into the dump and not kept.  The pydantic adapter
is a parameter of the contract.
-/

namespace SeekTalent.SourcePort

open Foundation

/-! ## Payloads -/

/-- `OperationIdentityV1`. -/
structure OperationIdentityV1 where
  runId : String
  operationId : String
  attemptNo : Int
  operationKind : String
  requestHash : String
  idempotencyKey : String
  correlationId : String
  acceptedRequirementRevisionId : String
  runtimeAttemptFenceRef : String
  profileBindingGeneration : Int
  browserControlScopeId : String
  deadlineMilliseconds : Int
  expectedSourceOperationLedgerRevision : Int
  expectedReconciliationRevision : Int
  deriving DecidableEq

/-- `DispatchAuthorizationV1`. -/
structure DispatchAuthorizationV1 where
  runId : String
  operationId : String
  attemptNo : Int
  requestHash : String
  dispatchIntentId : String
  dispatchIntentRevision : Int
  dispatchAuthorizationOrdinal : Int
  safeRetryCommitRef : Option String
  sourceOperationAcceptanceRef : String
  expectedSourceOperationLedgerRevision : Int
  expectedReconciliationRevision : Int
  dispatchIntentDigest : String

/-- `DispatchDeliveryV1`. -/
inductive DispatchDeliveryV1 where
  | initial (authorization : DispatchAuthorizationV1)
  | outboxRedelivery (authorization : DispatchAuthorizationV1)

/-- `LiepinCardsOperationRequestV1`. -/
structure LiepinCardsRequest where
  runtimeRunId : String
  sourceLaneRunId : String
  queryInstanceId : String
  keywordQuery : String
  maxPages : Int
  maxCards : Int
  nativeFilters : Option JsonDict

/-- `LiepinDetailsOperationRequestV1`. -/
structure LiepinDetailsRequest where
  runtimeRunId : String
  sourceLaneRunId : String
  queryInstanceId : String
  cardRef : String
  rank : Int
  openMode : String
  providerCandidateKeyHash : Option String
  expectedProviderCandidateKeyHash : Option String

/-- `LiepinCardsAcceptedAckV1` and `LiepinDetailsAcceptedAckV1`. -/
structure LiepinAcceptedAck where
  identity : OperationIdentityV1
  sidecarGeneration : Int
  acceptedJournalRevision : Int
  ackKind : String
  dispatchIntentRef : String

/-- `LiepinCardsObservationV1`. -/
structure LiepinCardsObservation where
  operationId : String
  canonicalRequestHash : String
  disposition : String
  artifactRef : Option String
  artifactHash : Option String
  cardsSeen : Int
  cardCount : Int
  safeReasonCode : Option String
  producerGeneration : Int

/-- `LiepinDetailsObservationV1`. -/
structure LiepinDetailsObservation where
  operationId : String
  canonicalRequestHash : String
  disposition : String
  artifactRef : Option String
  artifactHash : Option String
  openMode : String
  providerCandidateKeyHash : Option String
  rank : Int
  actionAttempted : Int
  effectPosture : String
  safeReasonCode : Option String
  producerGeneration : Int

/-- The payload of an envelope, one constructor for each envelope class. -/
inductive LiepinSourcePayload where
  | cardsSubmit (identity : OperationIdentityV1) (delivery : DispatchDeliveryV1)
      (request : LiepinCardsRequest)
  | cardsAck (ack : LiepinAcceptedAck)
  | cardsResult (identity : OperationIdentityV1) (observation : LiepinCardsObservation)
  | cardsReconcile (identity : OperationIdentityV1) (historyFact : String)
  | detailsSubmit (identity : OperationIdentityV1) (delivery : DispatchDeliveryV1)
      (request : LiepinDetailsRequest)
  | detailsAck (ack : LiepinAcceptedAck)
  | detailsResult (identity : OperationIdentityV1) (observation : LiepinDetailsObservation)
  | detailsReconcile (identity : OperationIdentityV1) (historyFact : String)

/-- An envelope of the session. -/
abbrev LiepinSourceEnvelope := FrameEnvelope LiepinSourcePayload

namespace LiepinSourcePayload

/-- `payload.identity`. -/
def identity : LiepinSourcePayload → OperationIdentityV1
  | .cardsSubmit identity _ _ => identity
  | .cardsAck ack => ack.identity
  | .cardsResult identity _ => identity
  | .cardsReconcile identity _ => identity
  | .detailsSubmit identity _ _ => identity
  | .detailsAck ack => ack.identity
  | .detailsResult identity _ => identity
  | .detailsReconcile identity _ => identity

/-- The discriminator of the envelope class. -/
def messageType : LiepinSourcePayload → String
  | .cardsSubmit .. => "liepin_cards.submit"
  | .cardsAck .. => "liepin_cards.accepted_ack"
  | .cardsResult .. => "liepin_cards.result"
  | .cardsReconcile .. => "liepin_cards.reconcile_required"
  | .detailsSubmit .. => "liepin_details.submit"
  | .detailsAck .. => "liepin_details.accepted_ack"
  | .detailsResult .. => "liepin_details.result"
  | .detailsReconcile .. => "liepin_details.reconcile_required"

/-- A submit of either kind. -/
def isSubmit : LiepinSourcePayload → Bool
  | .cardsSubmit .. | .detailsSubmit .. => true
  | _ => false

/-- An acknowledgement of either kind. -/
def isAck : LiepinSourcePayload → Bool
  | .cardsAck .. | .detailsAck .. => true
  | _ => false

end LiepinSourcePayload

/-! ## `model_dump(mode="json")` -/

/-- An optional string. -/
def dumpText (value : Option String) : Json :=
  value.elim .null .str

/-- The dump of an operation identity. -/
def OperationIdentityV1.dump (identity : OperationIdentityV1) : Json :=
  .obj [
    ("run_id", .str identity.runId),
    ("operation_id", .str identity.operationId),
    ("attempt_no", .int identity.attemptNo),
    ("source", .str "liepin"),
    ("operation_kind", .str identity.operationKind),
    ("request_hash", .str identity.requestHash),
    ("idempotency_key", .str identity.idempotencyKey),
    ("correlation_id", .str identity.correlationId),
    ("accepted_requirement_revision_id", .str identity.acceptedRequirementRevisionId),
    ("runtime_attempt_fence_ref", .str identity.runtimeAttemptFenceRef),
    ("profile_binding_generation", .int identity.profileBindingGeneration),
    ("browser_control_scope_id", .str identity.browserControlScopeId),
    ("deadline", .obj [
      ("value", .int identity.deadlineMilliseconds),
      ("clock", .str "relative_monotonic"),
      ("unit", .str "milliseconds")]),
    ("expected_source_operation_ledger_revision",
      .int identity.expectedSourceOperationLedgerRevision),
    ("expected_reconciliation_revision", .int identity.expectedReconciliationRevision)]

/-- The dump of a dispatch authorization. -/
def DispatchAuthorizationV1.dump (authorization : DispatchAuthorizationV1) : Json :=
  .obj [
    ("run_id", .str authorization.runId),
    ("operation_id", .str authorization.operationId),
    ("attempt_no", .int authorization.attemptNo),
    ("request_hash", .str authorization.requestHash),
    ("dispatch_intent_id", .str authorization.dispatchIntentId),
    ("dispatch_intent_revision", .int authorization.dispatchIntentRevision),
    ("dispatch_authorization_ordinal", .int authorization.dispatchAuthorizationOrdinal),
    ("safe_retry_commit_ref", dumpText authorization.safeRetryCommitRef),
    ("source_operation_acceptance_ref", .str authorization.sourceOperationAcceptanceRef),
    ("expected_source_operation_ledger_revision",
      .int authorization.expectedSourceOperationLedgerRevision),
    ("expected_reconciliation_revision", .int authorization.expectedReconciliationRevision),
    ("dispatch_intent_digest", .str authorization.dispatchIntentDigest)]

/-- The dump of a delivery. -/
def DispatchDeliveryV1.dump : DispatchDeliveryV1 → Json
  | .initial authorization =>
    .obj [("delivery_mode", .str "initial"), ("authorization", authorization.dump)]
  | .outboxRedelivery authorization =>
    .obj [("delivery_mode", .str "outbox_redelivery"), ("authorization", authorization.dump)]

/-- The dump of a cards request. -/
def LiepinCardsRequest.dump (request : LiepinCardsRequest) : Json :=
  .obj [
    ("contract_version", .str "seektalent.source.liepin-cards.request/v1"),
    ("runtime_run_id", .str request.runtimeRunId),
    ("source_lane_run_id", .str request.sourceLaneRunId),
    ("query_instance_id", .str request.queryInstanceId),
    ("keyword_query", .str request.keywordQuery),
    ("max_pages", .int request.maxPages),
    ("max_cards", .int request.maxCards),
    ("native_filters", request.nativeFilters.elim .null (fun filters => .obj filters.members))]

/-- The dump of a details request. -/
def LiepinDetailsRequest.dump (request : LiepinDetailsRequest) : Json :=
  .obj [
    ("contract_version", .str "seektalent.source.liepin-details.request/v1"),
    ("runtime_run_id", .str request.runtimeRunId),
    ("source_lane_run_id", .str request.sourceLaneRunId),
    ("query_instance_id", .str request.queryInstanceId),
    ("card_ref", .str request.cardRef),
    ("rank", .int request.rank),
    ("open_mode", .str request.openMode),
    ("provider_candidate_key_hash", dumpText request.providerCandidateKeyHash),
    ("expected_provider_candidate_key_hash", dumpText request.expectedProviderCandidateKeyHash)]

/-- The dump of an acknowledgement under the version of its contract. -/
def LiepinAcceptedAck.dump (contractVersion : String) (ack : LiepinAcceptedAck) : Json :=
  .obj [
    ("contract_version", .str contractVersion),
    ("identity", ack.identity.dump),
    ("sidecar_generation", .int ack.sidecarGeneration),
    ("accepted_journal_revision", .int ack.acceptedJournalRevision),
    ("ack_kind", .str ack.ackKind),
    ("dispatch_intent_ref", .str ack.dispatchIntentRef)]

/-- The dump of a cards observation. -/
def LiepinCardsObservation.dump (observation : LiepinCardsObservation) : Json :=
  .obj [
    ("contract_version", .str "seektalent.source.liepin-cards.observation/v1"),
    ("operation_id", .str observation.operationId),
    ("canonical_request_hash", .str observation.canonicalRequestHash),
    ("disposition", .str observation.disposition),
    ("artifact_ref", dumpText observation.artifactRef),
    ("artifact_hash", dumpText observation.artifactHash),
    ("cards_seen", .int observation.cardsSeen),
    ("card_count", .int observation.cardCount),
    ("safe_reason_code", dumpText observation.safeReasonCode),
    ("producer_generation", .int observation.producerGeneration)]

/-- The dump of a details observation. -/
def LiepinDetailsObservation.dump (observation : LiepinDetailsObservation) : Json :=
  .obj [
    ("contract_version", .str "seektalent.source.liepin-details.observation/v1"),
    ("operation_id", .str observation.operationId),
    ("canonical_request_hash", .str observation.canonicalRequestHash),
    ("disposition", .str observation.disposition),
    ("artifact_ref", dumpText observation.artifactRef),
    ("artifact_hash", dumpText observation.artifactHash),
    ("open_mode", .str observation.openMode),
    ("provider_candidate_key_hash", dumpText observation.providerCandidateKeyHash),
    ("rank", .int observation.rank),
    ("action_attempted", .int observation.actionAttempted),
    ("effect_posture", .str observation.effectPosture),
    ("safe_reason_code", dumpText observation.safeReasonCode),
    ("producer_generation", .int observation.producerGeneration)]

/-- The dump of a submit under the version of its contract. -/
def dumpSubmit (contractVersion : String) (identity : OperationIdentityV1)
    (delivery : DispatchDeliveryV1) (request : Json) : Json :=
  .obj [
    ("contract_version", .str contractVersion),
    ("identity", identity.dump),
    ("delivery", delivery.dump),
    ("request", request)]

/-- The dump of a payload. -/
def LiepinSourcePayload.dump : LiepinSourcePayload → Json
  | .cardsSubmit identity delivery request =>
    dumpSubmit "seektalent.source.liepin-cards.submit/v1" identity delivery request.dump
  | .cardsAck ack => ack.dump "seektalent.source.liepin-cards.ack/v1"
  | .cardsResult identity observation =>
    .obj [
      ("contract_version", .str "seektalent.source.liepin-cards.result/v1"),
      ("identity", identity.dump),
      ("observation", observation.dump)]
  | .cardsReconcile identity historyFact =>
    .obj [
      ("contract_version", .str "seektalent.source.liepin-cards.reconcile-required/v1"),
      ("identity", identity.dump),
      ("history_fact", .str historyFact)]
  | .detailsSubmit identity delivery request =>
    dumpSubmit "seektalent.source.liepin-details.submit/v1" identity delivery request.dump
  | .detailsAck ack => ack.dump "seektalent.source.liepin-details.ack/v1"
  | .detailsResult identity observation =>
    .obj [
      ("contract_version", .str "seektalent.source.liepin-details.result/v1"),
      ("identity", identity.dump),
      ("observation", observation.dump)]
  | .detailsReconcile identity historyFact =>
    .obj [
      ("contract_version", .str "seektalent.source.liepin-details.reconcile-required/v1"),
      ("identity", identity.dump),
      ("history_fact", .str historyFact)]

/-! ## Pending requests and replies -/

/-- The kind of a pending request. -/
inductive SourceKind where
  | cards
  | details
  deriving DecidableEq

/-- `_SourcePending`. -/
structure SourcePending where
  identity : OperationIdentityV1
  kind : SourceKind

/-- The state of a request whose acknowledgement was seen. -/
inductive ReplyState where
  | acked
  deriving DecidableEq

/-- `_pending_from_request`. -/
def pendingFromRequest (e : LiepinSourceEnvelope) : Option SourcePending :=
  match e.payload with
  | .cardsSubmit identity _ _ => some { identity := identity, kind := .cards }
  | .detailsSubmit identity _ _ => some { identity := identity, kind := .details }
  | _ => none

/-- An acknowledgement, which a request gets once. -/
def acknowledge (state : Option ReplyState) (duplicateAck : String) :
    Except ReplyFailure (PendingReply ReplyState) :=
  if state = some .acked then .error (.validation duplicateAck)
  else .ok (.pending (some .acked))

/-- A result or a reconcile notice, which comes after the acknowledgement; what a result observed
belongs to the request. -/
def terminate (state : Option ReplyState) (ackMissing : String) (belongs : Bool)
    (identityMismatch : String) : Except ReplyFailure (PendingReply ReplyState) :=
  if state ≠ some .acked then .error (.validation ackMissing)
  else if !belongs then .error (.validation identityMismatch)
  else .ok .terminal

/-- `_validate_reply`. -/
def validateReply (pending : SourcePending) (e : LiepinSourceEnvelope) (state : Option ReplyState) :
    Except ReplyFailure (PendingReply ReplyState) :=
  if e.payload.isSubmit then .error (.validation "liepin_source_reply_mismatch")
  else if e.payload.identity ≠ pending.identity then
    .error (.validation "liepin_source_reply_identity_mismatch")
  else
    match pending.kind with
    | .cards =>
      match e.payload with
      | .cardsAck _ => acknowledge state "liepin_cards_duplicate_ack"
      | .cardsReconcile _ _ => terminate state "liepin_cards_ack_missing" true ""
      | .cardsResult _ observation =>
        terminate state "liepin_cards_ack_missing"
          (observation.operationId = pending.identity.operationId &&
            observation.canonicalRequestHash = pending.identity.requestHash)
          "liepin_cards_result_identity_mismatch"
      | _ => .error (.validation "liepin_source_reply_mismatch")
    | .details =>
      match e.payload with
      | .detailsAck _ => acknowledge state "liepin_details_duplicate_ack"
      | .detailsReconcile _ _ => terminate state "liepin_details_ack_missing" true ""
      | .detailsResult _ observation =>
        terminate state "liepin_details_ack_missing"
          (observation.operationId = pending.identity.operationId &&
            observation.canonicalRequestHash = pending.identity.requestHash)
          "liepin_details_result_identity_mismatch"
      | _ => .error (.validation "liepin_source_reply_mismatch")

/-! ## The session -/

/-- `_ENVELOPE_ADAPTER`, the pydantic adapter of the envelope classes. -/
structure LiepinSourceAdapter where
  /-- `validate_json(body, strict=True)`. -/
  validateJson : Bytes → Option LiepinSourceEnvelope
  /-- Building or revalidating an envelope. -/
  validatePython : LiepinSourceEnvelope → Option LiepinSourceEnvelope

/-- The message types of submits. -/
def submitTypes : List String := ["liepin_cards.submit", "liepin_details.submit"]

/-- The message types of replies. -/
def replyTypes : List String := [
  "liepin_cards.accepted_ack",
  "liepin_cards.result",
  "liepin_cards.reconcile_required",
  "liepin_details.accepted_ack",
  "liepin_details.result",
  "liepin_details.reconcile_required"]

/-- What `PostHandshakeLiepinSourceSession` hands to its frame session. -/
def liepinSourceContract (adapter : LiepinSourceAdapter) :
    FrameContract LiepinSourcePayload SourcePending ReplyState where
  validateJson := adapter.validateJson
  validatePython := adapter.validatePython
  dumpPayload := LiepinSourcePayload.dump
  mainSendTypes := submitTypes
  sidecarSendTypes := replyTypes
  requestMessageTypes := submitTypes
  responseMessageTypes := replyTypes
  replyValidator := validateReply
  pendingFromRequest := pendingFromRequest
  replyMismatchReason := "liepin_source_reply_mismatch"
  pendingRequestLimitReason := "liepin_source_pending_limit"
  maxFrameBytes := 1048576
  maxSessionMessages := 65536
  maxPendingRequests := 256
  frameLengthFits := by decide

/-- `PostHandshakeLiepinSourceSession`. -/
abbrev LiepinSourceSession := FrameSession SourcePending ReplyState

/-- The arguments of one of the `encode_*` methods; the payload says which. -/
structure EncodeCall where
  messageId : String
  replyTo : Option String
  correlationId : Option String
  payload : LiepinSourcePayload

namespace LiepinSourceSession

variable (rt : WireRuntime) (adapter : LiepinSourceAdapter)

/-- The envelope that `_encode` builds. -/
def buildEnvelope (s : LiepinSourceSession) (sequence : Nat) (call : EncodeCall) :
    LiepinSourceEnvelope where
  protocolName := protocolName
  protocolMajor := 1
  protocolMinor := s.protocolMinor
  sessionId := s.sessionId
  directionSeq := sequence
  messageId := call.messageId
  replyTo := call.replyTo
  messageType := call.payload.messageType
  correlationId := call.correlationId
  authTag := zeroAuthTag
  payload := call.payload

/-- `_encode`, behind each `encode_*` method. -/
def encodeCall (s : LiepinSourceSession) (call : EncodeCall) :
    Except String (EncodedFrame LiepinSourcePayload) × LiepinSourceSession :=
  if s.closed then (.error "source_port_session_closed", s)
  else
    match FrameSession.requireSendSequence s with
    | .error reason => (.error reason, s.close reason)
    | .ok sequence =>
      match adapter.validatePython (buildEnvelope s sequence call) with
      | none =>
        (.error "liepin_source_schema_validation", s.close "liepin_source_schema_validation")
      | some envelope => s.encode rt (liepinSourceContract adapter) envelope

end LiepinSourceSession

end SeekTalent.SourcePort
