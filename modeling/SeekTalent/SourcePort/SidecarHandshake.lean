import SeekTalent.Foundation.Checks
import SeekTalent.Foundation.Courses
import SeekTalent.SourcePort.FrameSession

/-!
# The readiness handshake

The four messages by which the main process and its sidecar agree on a session and its keys
(`sidecar_handshake_protocol.py`).  `performMainHandshake` and `performSidecarHandshake` are
programs: what they ask of their transport, and the three calls of their own that raise something
else than a readiness error, are the operations `HandshakeOp`.

A `Transport` is what becomes of the pipes: the chunks that the reader thread puts into its queue
and how the stream ends, what comes of each write and what is seen at the boundary of the phases. 
The deadline and the process probe decide between those, so every choice of them is some transport.
-/

namespace SeekTalent.SourcePort

open Foundation

/-! ## Failures -/

/-- `SidecarReadinessReason`: the reasons of a handshake. -/
inductive SidecarReadinessReason where
  | childExit
  | readTimeout
  | writeTimeout
  | eof
  | truncatedFrame
  | frameLengthInvalid
  | frameTooLarge
  | invalidUtf8
  | invalidJson
  | duplicateKey
  | illegalNumber
  | invalidUnicode
  | rootNotObject
  | unknownField
  | schemaValidation
  | protocolMismatch
  | unexpectedMessage
  | sessionMismatch
  | nonceMismatch
  | identityMismatch
  | badProof
  | extraFrame
  | pipeIoFailure
deriving DecidableEq, Repr

/-- What a handshake raises: a `SidecarReadinessError`, or an exception of Python. -/
inductive HandshakeFailure where
  | readiness (reason : SidecarReadinessReason)
  | valueError
  | typeError
  | unicodeEncodeError
  | recursionError
deriving DecidableEq, Repr

/-- `_strict_json_reason`. -/
def strictJsonReason : StrictJsonReason → SidecarReadinessReason
  | .invalidUtf8 => .invalidUtf8
  | .invalidJson => .invalidJson
  | .duplicateKey => .duplicateKey
  | .illegalNumber => .illegalNumber
  | .invalidUnicode => .invalidUnicode
  | .rootNotObject => .rootNotObject

/-- `_fail(reason)` unless a condition holds. -/
def demand (c : Prop) [Decidable c] (reason : SidecarReadinessReason) :
    Except HandshakeFailure Unit :=
  require c (.readiness reason)

/-! ## Reading a payload -/

/-- What the handshake relies on outside the repository: the packages, and when the interpreter runs
out of stack. -/
structure HandshakeRuntime extends WireRuntime, InterpreterStack

/-- What `_read_payload` makes of what `strict_json_object_loads` raises. -/
def handshakeFailure : StrictLoadsFailure → HandshakeFailure
  | .strict reason => .readiness (strictJsonReason reason)
  | .valueError => .valueError

/-- `strict_json_object_loads`, under the handler of `_read_payload`. -/
def HandshakeRuntime.loads (rt : HandshakeRuntime) (raw : Bytes) :
    Except HandshakeFailure JsonDict :=
  (rt.strictLoads raw).mapError handshakeFailure

/-- `_required_string`. -/
def requiredString (payload : JsonDict) (name : String) : Except HandshakeFailure String :=
  match payload.get? name with
  | some (.str value) =>
    if value ≠ "" ∧ value.length ≤ 512 then .ok value else .error (.readiness .schemaValidation)
  | _ => .error (.readiness .schemaValidation)

/-- `_required_string_list`. -/
def requiredStringList : Json → Except HandshakeFailure (List String)
  | .arr items => items.mapM fun
    | .str item => .ok item
    | _ => .error (.readiness .schemaValidation)
  | _ => .error (.readiness .schemaValidation)

/-- `value` of a member that has to be an integer, `type(value) is int`. -/
def requiredInteger (payload : JsonDict) (name : String) : Except HandshakeFailure Int :=
  match payload.get? name with
  | some (.int value) => .ok value
  | _ => .error (.readiness .schemaValidation)

/-- `HANDSHAKE_VERSION`. -/
def handshakeVersion : Int := 1

/-- `_require_handshake_version`. -/
def requireHandshakeVersion (payload : JsonDict) : Except HandshakeFailure Unit := do
  let value ← requiredInteger payload "handshake_version"
  demand (value = handshakeVersion) .protocolMismatch

/-! ## Messages -/

/-- The messages of the handshake. -/
inductive HandshakeMessage where
  | mainHello
  | sidecarHello
  | mainReady
  | sidecarReady
deriving DecidableEq, Repr

/-- `message_type` of a message. -/
def HandshakeMessage.messageType : HandshakeMessage → String
  | .mainHello => "main_hello"
  | .sidecarHello => "sidecar_hello"
  | .mainReady => "main_ready"
  | .sidecarReady => "sidecar_ready"

/-- `expected_fields` of a message. -/
def HandshakeMessage.fields : HandshakeMessage → List String
  | .mainHello => ["message_type", "handshake_version", "session_id", "nonce", "session_secret",
      "product_build_id", "main_application_build_id"]
  | .sidecarHello =>
    ["message_type", "handshake_version", "session_id", "nonce", "product_build_id",
      "sidecar_build_id", "protocol", "proof"]
  | .mainReady | .sidecarReady => ["message_type", "handshake_version", "session_id", "proof"]

/-- `_require_message_type`. -/
def requireMessageType (payload : JsonDict) (expected : HandshakeMessage) :
    Except HandshakeFailure Unit :=
  match payload.get? "message_type" with
  | some (.str messageType) => do
    demand (messageType = expected.messageType) .unexpectedMessage
    demand (∀ key ∈ payload.keys, key ∈ expected.fields) .unknownField
    demand (∀ key ∈ expected.fields, key ∈ payload.keys) .schemaValidation
  | _ => .error (.readiness .schemaValidation)

/-- `_require_shared_session_and_nonce`. -/
def requireSharedSessionAndNonce (payload mainHello : JsonDict) (requireNonce : Bool) :
    Except HandshakeFailure Unit := do
  let session ← requiredString payload "session_id"
  let mainSession ← requiredString mainHello "session_id"
  demand (session = mainSession) .sessionMismatch
  if requireNonce then
    let nonce ← requiredString payload "nonce"
    let mainNonce ← requiredString mainHello "nonce"
    demand (nonce = mainNonce) .nonceMismatch

/-- `SidecarHandshakeIdentity`. -/
structure SidecarHandshakeIdentity where
  productBuildId : String
  sidecarBuildId : String
  protocolId : String
  protocolMajor : Int
  protocolMinMinor : Int
  protocolMaxMinor : Int
  protocolCapabilities : List String
  expectedMainApplicationBuildId : String
deriving DecidableEq, Repr

/-- Equality of identities, which does not compare `expected_main_application_build_id`. -/
def SidecarHandshakeIdentity.Same (a b : SidecarHandshakeIdentity) : Prop :=
  { a with expectedMainApplicationBuildId := "" } = { b with expectedMainApplicationBuildId := "" }

instance (a b : SidecarHandshakeIdentity) : Decidable (a.Same b) := by
  unfold SidecarHandshakeIdentity.Same
  infer_instance

/-- `SidecarHandshakeIdentity.payload`. -/
def SidecarHandshakeIdentity.payload (identity : SidecarHandshakeIdentity) : List (String × Json) :=
  [("product_build_id", .str identity.productBuildId),
    ("sidecar_build_id", .str identity.sidecarBuildId),
    ("protocol", .obj
      [("protocol_id", .str identity.protocolId),
        ("major", .int identity.protocolMajor),
        ("min_minor", .int identity.protocolMinMinor),
        ("max_minor", .int identity.protocolMaxMinor),
        ("capabilities", .arr (identity.protocolCapabilities.map .str))])]

/-- The keys of `protocol`. -/
def protocolFields : List String :=
  ["protocol_id", "major", "min_minor", "max_minor", "capabilities"]

/-- `protocol["capabilities"]`. -/
def protocolCapabilities (protocol : JsonDict) : Except HandshakeFailure (List String) :=
  match protocol.get? "capabilities" with
  | some value => requiredStringList value
  | none => .error (.readiness .schemaValidation)

/-- `payload.get("protocol")`, a dictionary. -/
def protocolOf (payload : JsonDict) : Except HandshakeFailure JsonDict :=
  match payload.get? "protocol" with
  | some (.obj members) => .ok (JsonDict.ofMembers members)
  | _ => .error (.readiness .schemaValidation)

/-- `_identity_from_payload`. -/
def identityFromPayload (payload : JsonDict) :
    Except HandshakeFailure SidecarHandshakeIdentity := do
  let protocol ← protocolOf payload
  demand (∀ key ∈ protocol.keys, key ∈ protocolFields) .schemaValidation
  demand (∀ key ∈ protocolFields, key ∈ protocol.keys) .schemaValidation
  let capabilities ← protocolCapabilities protocol
  demand (capabilities.Pairwise (· ≤ ·) ∧ capabilities.Nodup) .schemaValidation
  let major ← requiredInteger protocol "major"
  let minMinor ← requiredInteger protocol "min_minor"
  let maxMinor ← requiredInteger protocol "max_minor"
  demand ((1 ≤ major ∧ major ≤ 65535) ∧ 0 ≤ minMinor ∧ minMinor ≤ maxMinor ∧ maxMinor ≤ 65535)
    .schemaValidation
  let productBuildId ← requiredString payload "product_build_id"
  let sidecarBuildId ← requiredString payload "sidecar_build_id"
  let protocolId ← requiredString protocol "protocol_id"
  return {
    productBuildId := productBuildId
    sidecarBuildId := sidecarBuildId
    protocolId := protocolId
    protocolMajor := major
    protocolMinMinor := minMinor
    protocolMaxMinor := maxMinor
    protocolCapabilities := capabilities
    expectedMainApplicationBuildId := ""
  }

/-! ## Secrets -/

/-- The value of a character of either alphabet of Base64. -/
def sextetOf (character : Char) : Option Nat :=
  let point := character.toNat
  if 65 ≤ point ∧ point ≤ 90 then some (point - 65)
  else if 97 ≤ point ∧ point ≤ 122 then some (point - 71)
  else if 48 ≤ point ∧ point ≤ 57 then some (point + 4)
  else if character = '+' ∨ character = '-' then some 62
  else if character = '/' ∨ character = '_' then some 63
  else none

/-- The character of a value in the alphabet of URLs. -/
def sextetChar (value : Nat) : Char :=
  if value < 26 then Char.ofNat (value + 65)
  else if value < 52 then Char.ofNat (value + 71)
  else if value < 62 then Char.ofNat (value - 4)
  else if value = 62 then '-'
  else '_'

/-- `base64.urlsafe_b64encode`. -/
def urlsafeB64Encode : Bytes → List Char
  | [] => []
  | [a] => [sextetChar (a.toNat / 4), sextetChar (a.toNat % 4 * 16), '=', '=']
  | [a, b] => [sextetChar (a.toNat / 4), sextetChar (a.toNat % 4 * 16 + b.toNat / 16),
      sextetChar (b.toNat % 16 * 4), '=']
  | a :: b :: c :: rest =>
    sextetChar (a.toNat / 4) :: sextetChar (a.toNat % 4 * 16 + b.toNat / 16) ::
      sextetChar (b.toNat % 16 * 4 + c.toNat / 64) :: sextetChar (c.toNat % 64) ::
      urlsafeB64Encode rest

/-- `base64.b64decode(value, altchars=b"-_", validate=True)`: padded groups of four characters. 
Bits behind the last byte are dropped. -/
def b64Decode : List Char → Option Bytes
  | [] => some []
  | [a, b, '=', '='] => do
    let a ← sextetOf a
    let b ← sextetOf b
    return [UInt8.ofNat (a * 4 + b / 16)]
  | [a, b, c, '='] => do
    let a ← sextetOf a
    let b ← sextetOf b
    let c ← sextetOf c
    return [UInt8.ofNat (a * 4 + b / 16), UInt8.ofNat (b % 16 * 16 + c / 4)]
  | a :: b :: c :: d :: rest => do
    let a ← sextetOf a
    let b ← sextetOf b
    let c ← sextetOf c
    let d ← sextetOf d
    let rest ← b64Decode rest
    return UInt8.ofNat (a * 4 + b / 16) :: UInt8.ofNat (b % 16 * 16 + c / 4) ::
      UInt8.ofNat (c % 4 * 64 + d) :: rest
  | _ => none

/-- `_encode_secret`. -/
def encodeSecret (value : Bytes) : String :=
  String.ofList (urlsafeB64Encode value)

/-- `_decode_secret`; a character beyond ASCII is in no alphabet. -/
def decodeSecret (value : String) : Except HandshakeFailure Bytes :=
  match b64Decode value.toList with
  | none => .error (.readiness .schemaValidation)
  | some decoded =>
    if decoded.length = 32 then .ok decoded else .error (.readiness .schemaValidation)

/-! ## Proofs and keys -/

/-- `str.isascii`. -/
def isAscii (value : String) : Bool :=
  value.toList.all (·.toNat < 128)

/-- `_canonical_payload`. -/
def canonicalPayload (rt : HandshakeRuntime) (payload : JsonDict) : Except HandshakeFailure Bytes :=
  match rt.canonicalJsonBytes payload with
  | .ok body => .ok body
  | .error .invalid => .error (.readiness .schemaValidation)
  | .error .recursion => .error .recursionError

/-- `_HANDSHAKE_PROOF_DOMAIN`. -/
def handshakeProofDomain : Bytes := encodeUtf8 "seektalent-sidecar-readiness-proof/v1"

/-- `_HANDSHAKE_KEY_DOMAIN`. -/
def handshakeKeyDomain : Bytes := encodeUtf8 "seektalent-sidecar-readiness-hkdf/v1"

/-- `_proof`; the stage of a message is its type. -/
def handshakeProof (rt : HandshakeRuntime) (sessionSecret : Bytes) (stage : HandshakeMessage)
    (transcript : List Bytes) (unsignedPayload : JsonDict) : Except HandshakeFailure String := do
  let canonical ← canonicalPayload rt unsignedPayload
  let material := transcript.flatMap lengthPrefix ++ lengthPrefix canonical
  return hexdigest (rt.hmacSha256 sessionSecret
    (handshakeProofDomain ++ lengthPrefix (encodeUtf8 stage.messageType) ++ lengthPrefix material))

/-- `hmac.compare_digest` on two strings. -/
def compareDigest (received expected : String) : Except HandshakeFailure Bool :=
  if isAscii received && isAscii expected then .ok (received = expected) else .error .typeError

/-- `_require_proof`. -/
def requireProof (rt : HandshakeRuntime) (payload : JsonDict) (sessionSecret : Bytes)
    (stage : HandshakeMessage) (transcript : List Bytes) : Except HandshakeFailure Unit := do
  let received ← requiredString payload "proof"
  let expected ← handshakeProof rt sessionSecret stage transcript (payload.erase "proof")
  let same ← compareDigest received expected
  demand (same = true) .badProof

/-- `derive` of `_derive_direction_keys`. -/
def directionKey (rt : HandshakeRuntime) (sessionSecret transcriptDigest : Bytes)
    (sessionId : String) (direction : Bytes) : Bytes :=
  let info := handshakeKeyDomain ++ lengthPrefix (encodeUtf8 sessionId) ++ lengthPrefix direction
  rt.hmacSha256 (rt.hmacSha256 transcriptDigest sessionSecret) (info ++ [1])

/-- `_derive_direction_keys`. -/
def deriveDirectionKeys (rt : HandshakeRuntime) (sessionSecret : Bytes) (sessionId : String)
    (transcript : List Bytes) : Except HandshakeFailure (Bytes × Bytes) :=
  let transcriptDigest := rt.sha256 (transcript.flatMap lengthPrefix)
  if isAscii sessionId then
    .ok (directionKey rt sessionSecret transcriptDigest sessionId mainToSidecar,
      directionKey rt sessionSecret transcriptDigest sessionId sidecarToMain)
  else .error .unicodeEncodeError

/-! ## The transport -/

/-- `MAX_HANDSHAKE_FRAME_BYTES`. -/
def maxHandshakeFrameBytes : Nat := 65536

/-- What the transport takes out of its queue, or finds out while it waits for it. -/
inductive Arrival where
  | chunk (data : Bytes)
  | ended
  | childExited
  | failed
  | closed
deriving DecidableEq, Repr

/-- `_observe_phase_boundary`, and the process probe before and after it. -/
structure BoundarySight where
  exitedBefore : Bool
  timedOut : Bool
  ended : Bool
  failed : Bool
  /-- The pipe or the queue has bytes that no frame was made of. -/
  pending : Bool
  exitedAfter : Bool
deriving DecidableEq, Repr

/-- `_ProtocolTransport`: its buffer, and what is still to come.  When nothing is left to arrive,
the deadline passes; a write that is not listed succeeds. -/
structure Transport where
  buffer : Bytes
  arrivals : List Arrival
  writes : List (Option SidecarReadinessReason)
  sight : BoundarySight
deriving DecidableEq, Repr

/-- `_pop_complete_handshake_frame`: the body of the first frame and what is behind it. -/
def popFrame (buffer : Bytes) : Except HandshakeFailure (Option (Bytes × Bytes)) :=
  if buffer.length < 4 then .ok none
  else
    let frameLength := fromBytesBig (buffer.take 4)
    if frameLength = 0 then .error (.readiness .frameLengthInvalid)
    else if maxHandshakeFrameBytes < frameLength then .error (.readiness .frameTooLarge)
    else if buffer.length < 4 + frameLength then .ok none
    else .ok (some ((buffer.drop 4).take frameLength, buffer.drop (4 + frameLength)))

/-- The reason of a read that ends within a frame, and the one of a read that ends before it. -/
def starved (buffer : Bytes) (reason : SidecarReadinessReason) : HandshakeFailure :=
  .readiness (if buffer ≠ [] then .truncatedFrame else reason)

/-- `read_handshake`: the body, the buffer and what is still to arrive. -/
def readHandshake (buffer : Bytes) (arrivals : List Arrival) :
    Except HandshakeFailure Bytes × Bytes × List Arrival :=
  match popFrame buffer with
  | .error e => (.error e, buffer, arrivals)
  | .ok (some (body, rest)) => (.ok body, rest, arrivals)
  | .ok none =>
    match arrivals with
    | [] => (.error (starved buffer .readTimeout), buffer, [])
    | .ended :: later => (.error (starved buffer .eof), buffer, later)
    | .childExited :: later => (.error (.readiness .childExit), buffer, later)
    | .failed :: later => (.error (.readiness .pipeIoFailure), buffer, later)
    | .closed :: later => (.error (.readiness .eof), buffer, later)
    | .chunk data :: later => readHandshake (buffer ++ data) later
termination_by structural arrivals

/-- `require_ready_handoff_liveness`. -/
def requireReadyHandoffLiveness (sight : BoundarySight) : Except HandshakeFailure Unit := do
  demand (sight.exitedBefore = false) .childExit
  demand (sight.timedOut = false) .readTimeout
  demand (sight.failed = false) .pipeIoFailure
  demand (sight.ended = false) .eof
  demand (sight.exitedAfter = false) .childExit

/-- `require_clean_pre_ready_boundary`. -/
def requireCleanPreReadyBoundary (buffer : Bytes) (sight : BoundarySight) :
    Except HandshakeFailure Unit := do
  demand (sight.timedOut = false) .readTimeout
  demand (sight.pending = false ∧ buffer = []) .extraFrame
  demand (sight.failed = false) .pipeIoFailure
  demand (sight.ended = false) .eof

/-! ## Operations -/

/-- What a handshake does beyond checking what it has read. -/
inductive HandshakeOp where
  | writeRaw (data : Bytes)
  | readHandshake
  | loads (body : Bytes)
  | requireProof (payload : JsonDict) (sessionSecret : Bytes) (stage : HandshakeMessage)
      (transcript : List Bytes)
  | handoffLiveness
  | cleanBoundary
  | deriveKeys (sessionSecret : Bytes) (sessionId : String) (transcript : List Bytes)

/-- What an operation that succeeds gives. -/
@[reducible] def HandshakeOp.Value : HandshakeOp → Type
  | .writeRaw _ | .requireProof _ _ _ _ | .handoffLiveness | .cleanBoundary => Unit
  | .readHandshake => Bytes
  | .loads _ => JsonDict
  | .deriveKeys _ _ _ => Bytes × Bytes

/-- Perform an operation on a transport. -/
def HandshakeRuntime.exec (rt : HandshakeRuntime) :
    (op : HandshakeOp) → Transport → Except HandshakeFailure op.Value × Transport
  | .writeRaw _, t =>
    match t.writes with
    | [] => (.ok (), t)
    | none :: later => (.ok (), { t with writes := later })
    | some reason :: later => (.error (.readiness reason), { t with writes := later })
  | .readHandshake, t =>
    let (answer, buffer, arrivals) := SourcePort.readHandshake t.buffer t.arrivals
    (answer, { t with buffer := buffer, arrivals := arrivals })
  | .loads body, t => (rt.loads body, t)
  | .requireProof payload sessionSecret stage transcript, t =>
    (SourcePort.requireProof rt payload sessionSecret stage transcript, t)
  | .handoffLiveness, t => (requireReadyHandoffLiveness t.sight, t)
  | .cleanBoundary, t => (requireCleanPreReadyBoundary t.buffer t.sight, t)
  | .deriveKeys sessionSecret sessionId transcript, t =>
    (deriveDirectionKeys rt sessionSecret sessionId transcript, t)

/-- A program of the handshake, which raises what its operations raise. -/
abbrev HandshakeM (α : Type) : Type :=
  ExceptT HandshakeFailure (Program HandshakeOp fun op => Except HandshakeFailure op.Value) α

/-- Perform one operation. -/
def HandshakeOp.perform (op : HandshakeOp) : HandshakeM op.Value :=
  ExceptT.mk (Program.perform op)

/-- A check, or a computation of the handshake itself. -/
def checked {α : Type} (x : Except HandshakeFailure α) : HandshakeM α :=
  ExceptT.mk (.done x)

variable (rt : HandshakeRuntime)

/-- `write_handshake`. -/
def writeHandshake (payload : JsonDict) : HandshakeM Bytes := do
  let body ← checked (canonicalPayload rt payload)
  checked (demand (0 < body.length ∧ body.length ≤ maxHandshakeFrameBytes) .frameTooLarge)
  HandshakeOp.perform (.writeRaw (lengthPrefix body))
  return body

/-- `_read_payload`. -/
def readPayload : HandshakeM (Bytes × JsonDict) := do
  let body ← HandshakeOp.perform .readHandshake
  let payload ← HandshakeOp.perform (.loads body)
  checked (requireHandshakeVersion payload)
  return (body, payload)

/-! ## The handshakes -/

/-- What `_new_main_hello` draws: `secrets.token_bytes` and the bytes of `secrets.token_hex`. -/
structure HelloDraws where
  sessionSecret : Bytes
  sessionBytes : Bytes
  nonceBytes : Bytes
  secret_length : sessionSecret.length = 32
  session_length : sessionBytes.length = 16
  nonce_length : nonceBytes.length = 32

/-- `_new_main_hello`. -/
def newMainHello (productBuildId mainApplicationBuildId : String) (draws : HelloDraws) : JsonDict :=
  JsonDict.ofMembers
    [("message_type", .str HandshakeMessage.mainHello.messageType),
      ("handshake_version", .int handshakeVersion),
      ("session_id", .str (hexdigest draws.sessionBytes)),
      ("nonce", .str (encodeSecret draws.nonceBytes)),
      ("session_secret", .str (encodeSecret draws.sessionSecret)),
      ("product_build_id", .str productBuildId),
      ("main_application_build_id", .str mainApplicationBuildId)]

/-- The payload of `_sidecar_hello_payload` before its proof. -/
def unsignedSidecarHello (identity : SidecarHandshakeIdentity) (sessionId nonce : String) :
    JsonDict :=
  JsonDict.ofMembers
    ([("message_type", .str HandshakeMessage.sidecarHello.messageType),
      ("handshake_version", .int handshakeVersion),
      ("session_id", .str sessionId),
      ("nonce", .str nonce)] ++ identity.payload)

/-- The payload of `_ready_payload` before its proof. -/
def unsignedReady (message : HandshakeMessage) (sessionId : String) : JsonDict :=
  JsonDict.ofMembers
    [("message_type", .str message.messageType),
      ("handshake_version", .int handshakeVersion),
      ("session_id", .str sessionId)]

/-- Add the proof of a payload to it, as `_sidecar_hello_payload` and `_ready_payload` do. -/
def withProof (sessionSecret : Bytes) (stage : HandshakeMessage) (transcript : List Bytes)
    (unsignedPayload : JsonDict) : Except HandshakeFailure JsonDict := do
  let proof ← handshakeProof rt sessionSecret stage transcript unsignedPayload
  return unsignedPayload.insert "proof" (.str proof)

/-- `_HandshakeMaterial`. -/
structure HandshakeMaterial where
  sessionId : String
  protocolMinor : Int
  mainToSidecarKey : Bytes
  sidecarToMainKey : Bytes
deriving DecidableEq, Repr

/-- `perform_main_handshake`. -/
def performMainHandshake (expectedIdentity : SidecarHandshakeIdentity)
    (productBuildId mainApplicationBuildId : String) (draws : HelloDraws) :
    HandshakeM HandshakeMaterial := do
  let mainHello := newMainHello productBuildId mainApplicationBuildId draws
  let sessionSecret := draws.sessionSecret
  let mainHelloRaw ← writeHandshake rt mainHello
  let (sidecarHelloRaw, sidecarHello) ← readPayload
  checked (requireMessageType sidecarHello .sidecarHello)
  checked (requireSharedSessionAndNonce sidecarHello mainHello true)
  let identity ← checked (identityFromPayload sidecarHello)
  checked (demand (identity.Same expectedIdentity) .identityMismatch)
  HandshakeOp.perform (.requireProof sidecarHello sessionSecret .sidecarHello [mainHelloRaw])
  let mainReady ← checked (withProof rt sessionSecret .mainReady [mainHelloRaw, sidecarHelloRaw]
    (unsignedReady .mainReady (hexdigest draws.sessionBytes)))
  let mainReadyRaw ← writeHandshake rt mainReady
  let (sidecarReadyRaw, sidecarReady) ← readPayload
  checked (requireMessageType sidecarReady .sidecarReady)
  checked (requireSharedSessionAndNonce sidecarReady mainHello false)
  HandshakeOp.perform (.requireProof sidecarReady sessionSecret .sidecarReady
    [mainHelloRaw, sidecarHelloRaw, mainReadyRaw])
  HandshakeOp.perform .handoffLiveness
  let sessionId ← checked (requiredString mainHello "session_id")
  let keys ← HandshakeOp.perform (.deriveKeys sessionSecret sessionId
    [mainHelloRaw, sidecarHelloRaw, mainReadyRaw, sidecarReadyRaw])
  return {
    sessionId := sessionId
    protocolMinor := expectedIdentity.protocolMaxMinor
    mainToSidecarKey := keys.1
    sidecarToMainKey := keys.2
  }

/-- `perform_sidecar_handshake`. -/
def performSidecarHandshake (identity : SidecarHandshakeIdentity) :
    HandshakeM HandshakeMaterial := do
  let (mainHelloRaw, mainHello) ← readPayload
  checked (requireMessageType mainHello .mainHello)
  let sessionId ← checked (requiredString mainHello "session_id")
  let nonce ← checked (requiredString mainHello "nonce")
  let encoded ← checked (requiredString mainHello "session_secret")
  let sessionSecret ← checked (decodeSecret encoded)
  let productBuildId ← checked (requiredString mainHello "product_build_id")
  checked (demand (productBuildId = identity.productBuildId) .identityMismatch)
  let mainApplicationBuildId ← checked (requiredString mainHello "main_application_build_id")
  checked (demand (mainApplicationBuildId = identity.expectedMainApplicationBuildId)
    .identityMismatch)
  let sidecarHello ← checked (withProof rt sessionSecret .sidecarHello [mainHelloRaw]
    (unsignedSidecarHello identity sessionId nonce))
  let sidecarHelloRaw ← writeHandshake rt sidecarHello
  let (mainReadyRaw, mainReady) ← readPayload
  checked (requireMessageType mainReady .mainReady)
  checked (requireSharedSessionAndNonce mainReady mainHello false)
  HandshakeOp.perform (.requireProof mainReady sessionSecret .mainReady
    [mainHelloRaw, sidecarHelloRaw])
  let sidecarReady ← checked (withProof rt sessionSecret .sidecarReady
    [mainHelloRaw, sidecarHelloRaw, mainReadyRaw] (unsignedReady .sidecarReady sessionId))
  HandshakeOp.perform .cleanBoundary
  let sidecarReadyRaw ← writeHandshake rt sidecarReady
  let keys ← HandshakeOp.perform (.deriveKeys sessionSecret sessionId
    [mainHelloRaw, sidecarHelloRaw, mainReadyRaw, sidecarReadyRaw])
  return {
    sessionId := sessionId
    protocolMinor := identity.protocolMaxMinor
    mainToSidecarKey := keys.1
    sidecarToMainKey := keys.2
  }

/-! ## The operations of a handshake, one after the other -/

section Rules

variable {rt : HandshakeRuntime} {allowed : List HandshakeOp → HandshakeOp → Prop} {α β : Type}
  {ends : List HandshakeOp → Except HandshakeFailure β → Prop} {before : List HandshakeOp}

/-- Behind certain operations a program performs allowed ones, and it ends as it may behind
those. -/
abbrev FollowsHandshake (rt : HandshakeRuntime) (allowed : List HandshakeOp → HandshakeOp → Prop)
    (ends : List HandshakeOp → Except HandshakeFailure β → Prop) (before : List HandshakeOp)
    (program : HandshakeM β) : Prop :=
  program.run.FollowsOn rt.exec .error (recorded allowed) ends before

/-- A check, and what follows it. -/
lemma follows_checked {x : Except HandshakeFailure α} {next : α → HandshakeM β}
    (hraise : ∀ e, x = .error e → ends before (.error e))
    (hnext : ∀ value, x = .ok value → FollowsHandshake rt allowed ends before (next value)) :
    FollowsHandshake rt allowed ends before (checked x >>= next) :=
  Program.FollowsOn.compute hraise hnext

/-- An operation, and what follows it. -/
lemma follows_perform {op : HandshakeOp} {next : op.Value → HandshakeM β} (hop : allowed before op)
    (hnext : ∀ t value, (rt.exec op t).1 = .ok value →
      FollowsHandshake rt allowed ends (before ++ [op]) (next value)) :
    FollowsHandshake rt allowed ends before (op.perform >>= next) :=
  Program.FollowsOn.call (recorded_of_allowed hop) hnext

/-- A message, and what follows it. -/
lemma follows_writeHandshake {payload : JsonDict} {next : Bytes → HandshakeM β}
    (hraise : ∀ e, canonicalPayload rt payload = .error e → ends before (.error e))
    (hlarge : ends before (.error (.readiness .frameTooLarge)))
    (hop : ∀ body, allowed before (.writeRaw (lengthPrefix body)))
    (hnext : ∀ body, canonicalPayload rt payload = .ok body →
      FollowsHandshake rt allowed ends (before ++ [.writeRaw (lengthPrefix body)]) (next body)) :
    FollowsHandshake rt allowed ends before (writeHandshake rt payload >>= next) := by
  unfold writeHandshake
  simp only [bind_assoc, pure_bind]
  refine follows_checked hraise fun body hbody => ?_
  refine follows_checked (fun e he => ?_) fun _ _ => ?_
  · obtain ⟨-, rfl⟩ := require_eq_error.mp he
    exact hlarge
  · exact follows_perform (hop body) fun _ _ _ => hnext body hbody

/-- A payload that is read, and what follows it. -/
lemma follows_readPayload {next : Bytes × JsonDict → HandshakeM β}
    (hread : allowed before .readHandshake)
    (hop : ∀ body, allowed (before ++ [.readHandshake]) (.loads body))
    (hraise : ∀ body payload e, requireHandshakeVersion payload = .error e →
      ends (before ++ [.readHandshake] ++ [.loads body]) (.error e))
    (hnext : ∀ body payload, rt.loads body = .ok payload →
      requireHandshakeVersion payload = .ok () →
      FollowsHandshake rt allowed ends (before ++ [.readHandshake] ++ [.loads body])
        (next (body, payload))) :
    FollowsHandshake rt allowed ends before (readPayload >>= next) := by
  unfold readPayload
  simp only [bind_assoc, pure_bind]
  refine follows_perform hread fun _ body _ => ?_
  refine follows_perform (hop body) fun _ payload hloads => ?_
  exact follows_checked (fun e he => hraise body payload e he) fun ⟨⟩ hversion =>
    hnext body payload hloads hversion

end Rules

end SeekTalent.SourcePort
