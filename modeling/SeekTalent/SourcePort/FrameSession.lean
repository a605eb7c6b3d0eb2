import SeekTalent.Foundation.Checks
import SeekTalent.Foundation.Dicts
import SeekTalent.SourcePort.StrictJson

/-!
# Authenticated frame sessions

One endpoint of a post-handshake session (`AuthenticatedFrameSession`,
`authenticated_frame_core.py`): framing, authentication, sequencing and the pending requests.  A
session is generic in the rest of the envelope (`P`), in what a pending request keeps (`Q`) and in
the state of a request that was answered but not finished (`S`); `FrameContract` collects the
arguments of the constructor that a contract supplies, the pydantic adapter among them.

A call gives its result and the session after it.  A check that fails closes the session, and
closing forgets the keys, the buffers, the message ids and the pending requests.
-/

namespace SeekTalent.SourcePort

open Foundation

/-- `EndpointRole`. -/
inductive EndpointRole where
  | main
  | sidecar
  deriving DecidableEq, Repr

/-- The other endpoint. -/
def EndpointRole.peer : EndpointRole → EndpointRole
  | .main => .sidecar
  | .sidecar => .main

/-- `PROTOCOL_NAME`. -/
def protocolName : String := "seektalent.source-execution-port"

/-- `FRAME_AUTH_DOMAIN`. -/
def frameAuthDomain : Bytes := encodeUtf8 "seektalent-source-port-frame-auth-v1"

/-- `MAIN_TO_SIDECAR`. -/
def mainToSidecar : Bytes := encodeUtf8 "main-to-sidecar"

/-- `SIDECAR_TO_MAIN`. -/
def sidecarToMain : Bytes := encodeUtf8 "sidecar-to-main"

/-- `ZERO_AUTH_TAG`. -/
def zeroAuthTag : String := String.ofList (List.replicate 64 '0')

/-- The direction an endpoint sends in. -/
def EndpointRole.sendDirection : EndpointRole → Bytes
  | .main => mainToSidecar
  | .sidecar => sidecarToMain

/-- The direction an endpoint receives in. -/
def EndpointRole.receiveDirection : EndpointRole → Bytes
  | .main => sidecarToMain
  | .sidecar => mainToSidecar

/-- `AuthenticatedFrameEnvelopeBase`; the field that a contract adds is the payload. -/
structure FrameEnvelope (P : Type) where
  protocolName : String
  protocolMajor : Int
  protocolMinor : Int
  sessionId : String
  directionSeq : Nat
  messageId : String
  replyTo : Option String
  messageType : String
  correlationId : Option String
  authTag : String
  payload : P

/-- `PendingReply`. -/
structure PendingReply (S : Type) where
  keepPending : Bool
  state : Option S

/-- `PendingReply.terminal`. -/
def PendingReply.terminal {S : Type} : PendingReply S where
  keepPending := false
  state := none

/-- `PendingReply.pending`. -/
def PendingReply.pending {S : Type} (state : Option S) : PendingReply S where
  keepPending := true
  state := state

/-- `_PendingRequest`. -/
structure PendingRequest (Q S : Type) where
  request : Q
  state : Option S

/-- What a reply validator raises. -/
inductive ReplyFailure where
  /-- `ReplyValidationError`. -/
  | validation (reasonCode : String)
  /-- `TypeError`, `ValueError` or `ValidationError`. -/
  | mismatch

/-- The arguments of the constructor that a contract supplies. -/
structure FrameContract (P Q S : Type) where
  /-- `envelope_adapter.validate_json(body, strict=True)`. -/
  validateJson : Bytes → Option (FrameEnvelope P)
  /-- `envelope_adapter.validate_python(value.model_dump(mode="python"), strict=True)`. -/
  validatePython : FrameEnvelope P → Option (FrameEnvelope P)
  /-- `payload` in `envelope.model_dump(mode="json")`. -/
  dumpPayload : P → Json
  mainSendTypes : List String
  sidecarSendTypes : List String
  requestMessageTypes : List String
  responseMessageTypes : List String
  replyValidator : Q → FrameEnvelope P → Option S → Except ReplyFailure (PendingReply S)
  /-- `pending_from_request`, or nothing when it raises. -/
  pendingFromRequest : FrameEnvelope P → Option Q
  replyMismatchReason : String
  pendingRequestLimitReason : String
  maxFrameBytes : Nat
  maxSessionMessages : Nat
  maxPendingRequests : Nat
  /-- The four bytes of a frame header hold the length of every admitted frame. -/
  frameLengthFits : maxFrameBytes < 256 ^ 4

/-- `AuthenticatedFrameSession`. -/
structure FrameSession (Q S : Type) where
  role : EndpointRole
  sessionId : String
  protocolMinor : Int
  sendKey : Bytes
  receiveKey : Bytes
  nextSendSequence : Nat
  nextReceiveSequence : Nat
  messageIds : List String
  pendingRequests : Dict String (PendingRequest Q S)
  header : Bytes
  body : Bytes
  expectedBodyLength : Option Nat
  closed : Bool
  closedReason : Option String

/-- A frame that an endpoint encoded: the envelope it validated, its bytes and the MAC input. -/
structure EncodedFrame (P : Type) where
  envelope : FrameEnvelope P
  frame : Bytes
  macKey : Bytes
  macInput : Bytes

/-- A MAC input whose tag an endpoint found on a frame it received. -/
structure VerifiedTag where
  macKey : Bytes
  macInput : Bytes
  deriving DecidableEq

/-- What a call of `feed` does: the envelopes it accepts with the requests they reply to, the tags
it verifies, and the reason it raises for, if it does. -/
structure FeedOutcome (P Q S : Type) where
  session : FrameSession Q S
  accepted : List (FrameEnvelope P × Option Q)
  verified : List VerifiedTag
  failure : Option String

/-- What `feed` goes on to do after an outcome. -/
def FeedOutcome.andThen {P Q S : Type} (first : FeedOutcome P Q S)
    (next : FrameSession Q S → FeedOutcome P Q S) : FeedOutcome P Q S :=
  if first.failure.isSome then first
  else
    let rest := next first.session
    { session := rest.session
      accepted := first.accepted ++ rest.accepted
      verified := first.verified ++ rest.verified
      failure := rest.failure }

/-- `auth_input`. -/
def authInput (sessionId : String) (direction : Bytes) (sequence frameLength : Nat)
    (unsignedBody : Bytes) : Bytes :=
  lengthPrefix frameAuthDomain ++ (lengthPrefix (encodeUtf8 sessionId) ++ (lengthPrefix direction ++
    (toBytesBig 8 sequence ++ (toBytesBig 4 frameLength ++
      (toBytesBig 4 unsignedBody.length ++ unsignedBody)))))

namespace FrameSession

variable {P Q S : Type}

/-- `_close`. -/
def close (s : FrameSession Q S) (reasonCode : Option String) : FrameSession Q S :=
  { s with
    closedReason := if s.closed then s.closedReason else reasonCode
    closed := true
    sendKey := []
    receiveKey := []
    header := []
    body := []
    expectedBodyLength := none
    messageIds := []
    pendingRequests := ∅ }

variable (rt : WireRuntime) (c : FrameContract P Q S)

/-- The constructor, with the roles' keys and directions. -/
def create (role : EndpointRole) (sessionId : String) (protocolMinor : Int)
    (mainToSidecarKey sidecarToMainKey : Bytes) : Except String (FrameSession Q S) := do
  require (opaque96 sessionId) "source_port_invalid_session_config"
  require (nonNegativeJsonInteger protocolMinor) "source_port_invalid_session_config"
  require (mainToSidecarKey.length = 32) "source_port_invalid_direction_key"
  require (sidecarToMainKey.length = 32) "source_port_invalid_direction_key"
  require (c.pendingRequestLimitReason ≠ "") "source_port_invalid_session_config"
  return {
    role := role
    sessionId := sessionId
    protocolMinor := protocolMinor
    sendKey := if role = .main then mainToSidecarKey else sidecarToMainKey
    receiveKey := if role = .main then sidecarToMainKey else mainToSidecarKey
    nextSendSequence := 1
    nextReceiveSequence := 1
    messageIds := []
    pendingRequests := ∅
    header := []
    body := []
    expectedBodyLength := none
    closed := false
    closedReason := none }

/-! ## Checks shared by both directions -/

/-- `envelope.model_dump(mode="json", exclude={"auth_tag"})`. -/
def unsignedDump (e : FrameEnvelope P) : JsonDict :=
  .ofMembers [
    ("protocol_name", .str e.protocolName),
    ("protocol_major", .int e.protocolMajor),
    ("protocol_minor", .int e.protocolMinor),
    ("session_id", .str e.sessionId),
    ("direction_seq", .int e.directionSeq),
    ("message_id", .str e.messageId),
    ("reply_to", e.replyTo.elim .null .str),
    ("message_type", .str e.messageType),
    ("correlation_id", e.correlationId.elim .null .str),
    ("payload", c.dumpPayload e.payload)]

/-- `_canonical_bytes`. -/
def canonicalBytes (payload : JsonDict) : Except String Bytes :=
  match rt.canonicalJsonBytes payload with
  | .ok canonical => .ok canonical
  | .error _ => .error "source_port_schema_validation"

/-- `{**unsigned, "auth_tag": tag}`. -/
def withAuthTag (unsigned : JsonDict) (tag : String) : JsonDict :=
  unsigned.insert "auth_tag" (.str tag)

/-- `_outbound_message_types`. -/
def outboundMessageTypes (role : EndpointRole) : List String :=
  if role = .main then c.mainSendTypes else c.sidecarSendTypes

/-- `_inbound_message_types`. -/
def inboundMessageTypes (role : EndpointRole) : List String :=
  if role = .main then c.sidecarSendTypes else c.mainSendTypes

/-- A request replies to nothing, a response to something, and there is no third kind. -/
def requireReplyShape (e : FrameEnvelope P) : Except String Unit :=
  if e.messageType ∈ c.requestMessageTypes then
    require (e.replyTo = none) "source_port_schema_validation"
  else if e.messageType ∈ c.responseMessageTypes then
    require (e.replyTo ≠ none) "source_port_schema_validation"
  else .error "source_port_schema_validation"

/-- `_require_new_message_id`. -/
def requireNewMessageId (s : FrameSession Q S) (messageId : String) : Except String Unit := do
  require (messageId ∉ s.messageIds) "source_port_duplicate_message_id"
  require (s.messageIds.length < c.maxSessionMessages) "source_port_message_limit"

/-- `_require_send_sequence`. -/
def requireSendSequence (s : FrameSession Q S) : Except String Nat :=
  if jsonSafeInteger ≤ s.nextSendSequence then .error "source_port_sequence_exhausted"
  else .ok s.nextSendSequence

/-- `_validated_reply`. -/
def validatedReply (pending : PendingRequest Q S) (e : FrameEnvelope P) :
    Except String (PendingReply S) :=
  match c.replyValidator pending.request e pending.state with
  | .ok decision => .ok decision
  | .error (.validation reasonCode) => .error reasonCode
  | .error .mismatch => .error c.replyMismatchReason

/-- The pending request that an envelope replies to, with the disposition of the reply: nothing for
a request, which needs room in the table instead. -/
def pendingFor (s : FrameSession Q S) (e : FrameEnvelope P) :
    Except String (Option (PendingRequest Q S × PendingReply S)) :=
  if e.messageType ∈ c.requestMessageTypes then do
    require (s.pendingRequests.keys.length < c.maxPendingRequests) c.pendingRequestLimitReason
    return none
  else
    match e.replyTo with
    -- The shape of the envelope was checked before.
    | none => .error "source_port_schema_validation"
    | some replyTo =>
      match s.pendingRequests.lookup replyTo with
      | none => .error "source_port_wrong_reply"
      | some pending => (validatedReply c pending e).map (fun reply => some (pending, reply))

/-- `_pending_for_outbound`. -/
def pendingForOutbound (s : FrameSession Q S) (e : FrameEnvelope P) :
    Except String (Option (PendingRequest Q S × PendingReply S)) :=
  pendingFor c s e

/-- `_pending_for_inbound`. -/
def pendingForInbound (s : FrameSession Q S) (e : FrameEnvelope P) :
    Except String (Option (PendingRequest Q S × PendingReply S)) :=
  pendingFor c s e

/-- `_apply_pending_transition`: the pending requests after the envelope. -/
def applyPendingTransition (s : FrameSession Q S) (e : FrameEnvelope P)
    (reply : Option (PendingRequest Q S × PendingReply S)) :
    Except String (Dict String (PendingRequest Q S)) :=
  if e.messageType ∈ c.requestMessageTypes then
    match c.pendingFromRequest e with
    | none => .error "source_port_schema_validation"
    | some request => .ok (s.pendingRequests.insert e.messageId ⟨request, none⟩)
  else
    match e.replyTo, reply with
    | some replyTo, some (pending, reply) =>
      if reply.keepPending then
        .ok (s.pendingRequests.insert replyTo { pending with state := reply.state })
      else .ok (s.pendingRequests.erase replyTo)
    -- The shape of the envelope was checked before.
    | _, _ => .error "source_port_schema_validation"

/-! ## Sending -/

/-- `_require_outbound_context`. -/
def requireOutboundContext (s : FrameSession Q S) (e : FrameEnvelope P) : Except String Unit := do
  require (e.protocolName = protocolName ∧ e.protocolMajor = 1) "source_port_protocol_mismatch"
  require (e.protocolMinor = s.protocolMinor) "source_port_protocol_mismatch"
  require (e.sessionId = s.sessionId) "source_port_session_mismatch"
  require (e.authTag = zeroAuthTag) "source_port_schema_validation"
  let sequence ← requireSendSequence s
  require (e.directionSeq = sequence) "source_port_sequence_mismatch"
  require (e.messageType ∈ outboundMessageTypes c s.role) "source_port_unexpected_direction"
  requireReplyShape c e
  requireNewMessageId c s e.messageId

/-- `_encode_envelope`. -/
def encodeEnvelope (s : FrameSession Q S) (e : FrameEnvelope P) :
    Except String (EncodedFrame P) := do
  let unsigned := unsignedDump c e
  let unsignedBody ← canonicalBytes rt unsigned
  let zeroTagBody ← canonicalBytes rt (withAuthTag unsigned zeroAuthTag)
  let frameLength := zeroTagBody.length
  require (frameLength ≤ c.maxFrameBytes) "source_port_frame_too_large"
  let macInput := authInput e.sessionId s.role.sendDirection e.directionSeq frameLength unsignedBody
  let authTag := hexdigest (rt.hmacSha256 s.sendKey macInput)
  let body ← canonicalBytes rt (withAuthTag unsigned authTag)
  require (body.length = frameLength) "source_port_frame_length_mismatch"
  return {
    envelope := e
    frame := toBytesBig 4 frameLength ++ body
    macKey := s.sendKey
    macInput := macInput }

/-- `_encode_authenticated_envelope` on an open session, before a failure closes it. -/
def encodeOpen (s : FrameSession Q S) (envelope : FrameEnvelope P) :
    Except String (EncodedFrame P × FrameSession Q S) :=
  match c.validatePython envelope with
  | none => .error "source_port_schema_validation"
  | some validated => do
    requireOutboundContext c s validated
    let reply ← pendingForOutbound c s validated
    let encoded ← encodeEnvelope rt c s validated
    let pendingRequests ← applyPendingTransition c s validated reply
    return (encoded, { s with
      messageIds := validated.messageId :: s.messageIds
      pendingRequests := pendingRequests
      nextSendSequence := s.nextSendSequence + 1 })

/-- `encode`. -/
def encode (s : FrameSession Q S) (envelope : FrameEnvelope P) :
    Except String (EncodedFrame P) × FrameSession Q S :=
  if s.closed then (.error "source_port_session_closed", s)
  else
    match encodeOpen rt c s envelope with
    | .error reason => (.error reason, s.close reason)
    | .ok (encoded, after) => (.ok encoded, after)

/-! ## Receiving -/

/-- `_decode_envelope`: the envelope of a body, with the MAC input its tag was verified for. -/
def decodeEnvelope (s : FrameSession Q S) (body : Bytes) (frameLength : Nat) :
    Except String (FrameEnvelope P × VerifiedTag) :=
  match strictCanonicalJsonObject rt body with
  | .error reason => .error reason
  | .ok parsed =>
    match c.validateJson body with
    | none => .error "source_port_schema_validation"
    | some e => do
      require (e.protocolName = protocolName ∧ e.protocolMajor = 1) "source_port_protocol_mismatch"
      require (e.protocolMinor = s.protocolMinor) "source_port_protocol_mismatch"
      require (e.sessionId = s.sessionId) "source_port_session_mismatch"
      let unsigned := parsed.erase "auth_tag"
      let unsignedBody ← canonicalBytes rt unsigned
      let zeroTagBody ← canonicalBytes rt (withAuthTag unsigned zeroAuthTag)
      require (zeroTagBody.length = frameLength) "source_port_frame_length_mismatch"
      let macInput :=
        authInput s.sessionId s.role.receiveDirection e.directionSeq frameLength unsignedBody
      let expectedTag := hexdigest (rt.hmacSha256 s.receiveKey macInput)
      match parsed.get? "auth_tag" with
      | some (.str authTag) => do
        require (authTag = expectedTag) "source_port_bad_auth_tag"
        return (e, ⟨s.receiveKey, macInput⟩)
      | _ => .error "source_port_bad_auth_tag"

/-- `_accept_envelope`. -/
def acceptEnvelope (s : FrameSession Q S) (e : FrameEnvelope P) :
    Except String (FrameSession Q S) := do
  require (e.directionSeq = s.nextReceiveSequence) "source_port_sequence_mismatch"
  require ((s.nextReceiveSequence : Int) < jsonSafeInteger) "source_port_sequence_exhausted"
  require (e.messageType ∈ inboundMessageTypes c s.role) "source_port_unexpected_direction"
  requireReplyShape c e
  requireNewMessageId c s e.messageId
  let reply ← pendingForInbound c s e
  let pendingRequests ← applyPendingTransition c s e reply
  return { s with
    messageIds := e.messageId :: s.messageIds
    pendingRequests := pendingRequests
    nextReceiveSequence := s.nextReceiveSequence + 1 }

/-- `feed` raises: the session is closed. -/
def feedFailure (s : FrameSession Q S) (verified : List VerifiedTag) (reason : String) :
    FeedOutcome P Q S where
  session := s.close reason
  accepted := []
  verified := verified
  failure := reason

/-- `feed` has used up its data. -/
def feedDone (s : FrameSession Q S) : FeedOutcome P Q S where
  session := s
  accepted := []
  verified := []
  failure := none

/-- A complete body: decode it and accept its envelope. -/
def acceptBody (s : FrameSession Q S) (body : Bytes) (frameLength : Nat) : FeedOutcome P Q S :=
  match decodeEnvelope rt c s body frameLength with
  | .error reason => feedFailure s [] reason
  | .ok (e, verified) =>
    let replyRequest := (e.replyTo.bind s.pendingRequests.lookup).map PendingRequest.request
    match acceptEnvelope c s e with
    | .error reason => feedFailure s [verified] reason
    | .ok after => {
        session := after
        accepted := [(e, replyRequest)]
        verified := [verified]
        failure := none }

/-- A complete header: the length of the body that follows. -/
def openBody (s : FrameSession Q S) (header : Bytes) : FeedOutcome P Q S :=
  let frameLength := fromBytesBig header
  if frameLength = 0 then feedFailure { s with header := [] } [] "source_port_frame_length_invalid"
  else if c.maxFrameBytes < frameLength then
    feedFailure { s with header := [] } [] "source_port_frame_too_large"
  else feedDone { s with header := [], expectedBodyLength := some frameLength }

/-- The loop of `feed`.  Each turn takes at least one byte, so the counter may be the number of
bytes that are left. -/
def feedLoop : Nat → FrameSession Q S → Bytes → FeedOutcome P Q S
  | 0, s, _ => feedDone s
  | turns + 1, s, data =>
    if data = [] then feedDone s
    else
      match s.expectedBodyLength with
      | none =>
        let take := min (4 - s.header.length) data.length
        let header := s.header ++ data.take take
        if header.length < 4 then feedDone { s with header := header }
        else (openBody c s header).andThen (fun opened => feedLoop turns opened (data.drop take))
      | some frameLength =>
        let take := min (frameLength - s.body.length) data.length
        let body := s.body ++ data.take take
        if body.length < frameLength then
          feedLoop turns { s with body := body } (data.drop take)
        else
          (acceptBody rt c { s with body := [], expectedBodyLength := none } body
            frameLength).andThen (fun after => feedLoop turns after (data.drop take))

/-- `feed`. -/
def feed (s : FrameSession Q S) (data : Bytes) : FeedOutcome P Q S :=
  if s.closed then { feedDone s with failure := some "source_port_session_closed" }
  else feedLoop rt c data.length s data

/-- `feed_eof`: the reason it raises for, and the session, which is closed either way. -/
def feedEof (s : FrameSession Q S) : Option String × FrameSession Q S :=
  if s.closed then (some "source_port_session_closed", s)
  else if s.header ≠ [] ∨ s.body ≠ [] ∨ s.expectedBodyLength ≠ none then
    (some "source_port_truncated_frame", s.close "source_port_truncated_frame")
  else (none, s.close none)

/-- `require_frame_boundary`. -/
def requireFrameBoundary (s : FrameSession Q S) : Option String × FrameSession Q S :=
  if s.closed then (some "source_port_session_closed", s)
  else if s.header ≠ [] ∨ s.body ≠ [] ∨ s.expectedBodyLength ≠ none then
    (some "source_port_truncated_frame", s.close "source_port_truncated_frame")
  else (none, s)

end FrameSession

end SeekTalent.SourcePort
