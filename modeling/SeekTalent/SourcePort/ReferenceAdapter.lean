import SeekTalent.SourcePort.FrameStream
import SeekTalent.SourcePort.LiepinSourceFrames
import SeekTalent.SourcePort.ReferenceRuntime

/-!
# An adapter that knows one envelope

A details submit as the main endpoint of a new session sends it, and an adapter that validates this
envelope and no other.  With `referenceRuntime` it meets what the frame session assumes of its
packages.
-/

namespace SeekTalent.SourcePort

open Foundation

variable {e : LiepinSourceEnvelope} {s : LiepinSourceSession}

deriving instance DecidableEq for DispatchAuthorizationV1, DispatchDeliveryV1, LiepinDetailsRequest

/-- A details request that resolves the locator of a card. -/
def sampleRequest : LiepinDetailsRequest where
  runtimeRunId := "run-1"
  sourceLaneRunId := "lane-1"
  queryInstanceId := "query-1"
  cardRef := "card-1"
  rank := 1
  openMode := "resolve_locator"
  providerCandidateKeyHash := none
  expectedProviderCandidateKeyHash := none

/-- Its operation, under the operation id and the hash of the request. -/
def sampleIdentity : OperationIdentityV1 where
  runId := "run-1"
  operationId := "details_331d443cb95002ba741a285898b13fa71d9849fc56b90ef1"
  attemptNo := 1
  operationKind := "details"
  requestHash := "33a891474e8ce093560fb5dacf1b31c27c9256d62395bc20c49620d6e334930f"
  idempotencyKey := "idempotency-1"
  correlationId := "correlation-1"
  acceptedRequirementRevisionId := "revision-1"
  runtimeAttemptFenceRef := "f00c70152d7ae7e524be4a54be90730d0ee53c1e21ceebb86cf348e54f7ce6fd"
  profileBindingGeneration := 1
  browserControlScopeId := "scope-1"
  deadlineMilliseconds := 60000
  expectedSourceOperationLedgerRevision := 1
  expectedReconciliationRevision := 0

/-- Its first dispatch. -/
def sampleDelivery : DispatchDeliveryV1 :=
  .initial {
    runId := "run-1"
    operationId := sampleIdentity.operationId
    attemptNo := 1
    requestHash := sampleIdentity.requestHash
    dispatchIntentId := "intent-1"
    dispatchIntentRevision := 1
    dispatchAuthorizationOrdinal := 1
    safeRetryCommitRef := none
    sourceOperationAcceptanceRef := "acceptance-1"
    expectedSourceOperationLedgerRevision := 1
    expectedReconciliationRevision := 0
    dispatchIntentDigest := "7756f346beed8164dd438f3671bb66d789cfc59ae62d98aca59a68c597e77768" }

/-- The call that submits it. -/
def sampleCall : EncodeCall where
  messageId := "message-1"
  replyTo := none
  correlationId := some "correlation-1"
  payload := .detailsSubmit sampleIdentity sampleDelivery sampleRequest

/-- The envelope of the call, the first one of session `session-1`. -/
def sampleEnvelope : LiepinSourceEnvelope where
  protocolName := protocolName
  protocolMajor := 1
  protocolMinor := 0
  sessionId := "session-1"
  directionSeq := 1
  messageId := sampleCall.messageId
  replyTo := none
  messageType := sampleCall.payload.messageType
  correlationId := sampleCall.correlationId
  authTag := zeroAuthTag
  payload := sampleCall.payload

/-- The payload of the call. -/
def isSamplePayload : LiepinSourcePayload → Bool
  | .detailsSubmit identity delivery request =>
    identity = sampleIdentity && delivery = sampleDelivery && request = sampleRequest
  | _ => false

/-- The envelope of the call. -/
def isSampleEnvelope (e : LiepinSourceEnvelope) : Bool :=
  e.protocolName = sampleEnvelope.protocolName && e.protocolMajor = 1 && e.protocolMinor = 0 &&
    e.sessionId = sampleEnvelope.sessionId && e.directionSeq = 1 &&
    e.messageId = sampleEnvelope.messageId && e.replyTo = none &&
    e.messageType = sampleEnvelope.messageType && e.correlationId = sampleEnvelope.correlationId &&
    e.authTag = zeroAuthTag && isSamplePayload e.payload

/-- The dump of the envelope without its tag, which is the same for all adapters. -/
def sampleDump : JsonDict :=
  FrameSession.unsignedDump (liepinSourceContract ⟨fun _ => none, fun _ => none⟩) sampleEnvelope

/-- The tag of a body, if the body is the sample under some tag. -/
def sampleTag (body : Bytes) : Option String :=
  match strictCanonicalJsonObject referenceRuntime body with
  | .error _ => none
  | .ok d =>
    match d.get? "auth_tag" with
    | some (.str tag) =>
      match referenceRuntime.canonicalJsonBytes (FrameSession.withAuthTag sampleDump tag) with
      | .ok expected => if expected = body then some tag else none
      | .error _ => none
    | _ => none

/-- The adapter. -/
def sampleAdapter : LiepinSourceAdapter where
  validateJson body := (sampleTag body).map (fun tag => { sampleEnvelope with authTag := tag })
  validatePython e := if isSampleEnvelope e then some e else none

/-- The payload that is recognised is that of the call. -/
lemma eq_samplePayload {payload : LiepinSourcePayload} (h : isSamplePayload payload = true) :
    payload = sampleCall.payload := by
  cases payload <;> simp only [isSamplePayload, Bool.false_eq_true, Bool.and_eq_true,
    decide_eq_true_eq] at h
  obtain ⟨⟨rfl, rfl⟩, rfl⟩ := h
  rfl

/-- The envelope that is recognised is that of the call. -/
lemma eq_sampleEnvelope (h : isSampleEnvelope e = true) :
    e = sampleEnvelope := by
  obtain ⟨name, major, minor, sessionId, sequence, messageId, replyTo, messageType, correlationId,
    tag, payload⟩ := e
  simp only [isSampleEnvelope, Bool.and_eq_true, decide_eq_true_eq] at h
  obtain ⟨⟨⟨⟨⟨⟨⟨⟨⟨⟨rfl, rfl⟩, rfl⟩, rfl⟩, rfl⟩, rfl⟩, rfl⟩, rfl⟩, rfl⟩, rfl⟩, hpayload⟩ := h
  obtain rfl := eq_samplePayload hpayload
  rfl

/-- The envelope of the call is recognised. -/
lemma isSampleEnvelope_sample : isSampleEnvelope sampleEnvelope = true := by
  simp [isSampleEnvelope, sampleEnvelope, sampleCall, isSamplePayload]

/-- The envelope of the call is validated. -/
lemma validatePython_sample :
    sampleAdapter.validatePython sampleEnvelope = some sampleEnvelope := by
  simp only [sampleAdapter, isSampleEnvelope_sample, if_true]

/-- The dump of the sample does not depend on the adapter. -/
lemma unsignedDump_sample (adapter : LiepinSourceAdapter) :
    FrameSession.unsignedDump (liepinSourceContract adapter) sampleEnvelope = sampleDump :=
  rfl

/-- The adapter reads the dump of what it validated back. -/
lemma validateJson_sampleAdapter {given : LiepinSourceEnvelope} {tag : String} {body : Bytes}
    (h : sampleAdapter.validatePython given = some e)
    (hbody : referenceRuntime.canonicalJsonBytes (FrameSession.withAuthTag
      (FrameSession.unsignedDump (liepinSourceContract sampleAdapter) e) tag) = .ok body) :
    sampleAdapter.validateJson body = some { e with authTag := tag } := by
  have hsame : e = sampleEnvelope := by
    simp only [sampleAdapter] at h
    split_ifs at h with hsample
    rw [← Option.some.inj h]
    exact eq_sampleEnvelope hsample
  subst hsame
  have hdict := strictCanonicalJsonObject_reference hbody
  rw [unsignedDump_sample] at hbody hdict
  have htag : (FrameSession.withAuthTag sampleDump tag).get? "auth_tag" = some (.str tag) := by
    rw [FrameSession.withAuthTag, JsonDict.get?_insert, if_pos rfl]
    rfl
  have hfound : sampleTag body = some tag := by
    simp only [sampleTag, hdict, htag, hbody, if_true]
  simp only [sampleAdapter, hfound, Option.map_some]

/-- The members of the sample, as they are written down. -/
def sampleMembers : List (String × Json) := [
  ("protocol_name", .str protocolName),
  ("protocol_major", .int 1),
  ("protocol_minor", .int 0),
  ("session_id", .str "session-1"),
  ("direction_seq", .int 1),
  ("message_id", .str "message-1"),
  ("reply_to", .null),
  ("message_type", .str "liepin_details.submit"),
  ("correlation_id", .str "correlation-1"),
  ("payload", sampleCall.payload.dump)]

/-- The members of the dump are those of the sample. -/
lemma members_sampleDump : sampleDump.members = Json.normalizeMembers sampleMembers := by
  have hmembers : [
      ("protocol_name", Json.str sampleEnvelope.protocolName),
      ("protocol_major", .int sampleEnvelope.protocolMajor),
      ("protocol_minor", .int sampleEnvelope.protocolMinor),
      ("session_id", .str sampleEnvelope.sessionId),
      ("direction_seq", .int sampleEnvelope.directionSeq),
      ("message_id", .str sampleEnvelope.messageId),
      ("reply_to", sampleEnvelope.replyTo.elim .null .str),
      ("message_type", .str sampleEnvelope.messageType),
      ("correlation_id", sampleEnvelope.correlationId.elim .null .str),
      ("payload", sampleEnvelope.payload.dump)] = sampleMembers := rfl
  rw [← hmembers]
  rfl

/-- The tag comes before the other keys of an envelope. -/
lemma lt_of_mem_sampleDump : ∀ member ∈ sampleDump.members, "auth_tag" < member.1 := by
  intro member hmember
  rw [members_sampleDump] at hmember
  obtain ⟨given, hgiven, hkey⟩ := exists_of_mem_normalizeMembers hmember
  have hkeys : ∀ key ∈ ["protocol_name", "protocol_major", "protocol_minor", "session_id",
      "direction_seq", "message_id", "reply_to", "message_type", "correlation_id", "payload"],
      "auth_tag" < key := by
    simp only [String.lt_iff_toList_lt]
    simp
    decide
  rw [← hkey]
  refine hkeys given.1 ?_
  have hmem : given.1 ∈ _ := List.mem_map_of_mem (f := Prod.fst) hgiven
  exact hmem

/-! The bound of a document, found member by member: the length of no text is computed. -/

lemma writeBoundMembers_nil_le : writeBoundMembers [] ≤ 0 := Nat.le_refl _

lemma writeBoundMembers_cons_le (key : List Char) {value : Json} {rest : List (String × Json)}
    {n m : Nat} (hvalue : writeBound value ≤ n) (hrest : writeBoundMembers rest ≤ m) :
    writeBoundMembers ((String.ofList key, value) :: rest) ≤ 6 * key.length + 4 + n + m := by
  rw [writeBoundMembers, String.length_ofList]
  omega

lemma writeBound_obj_le {members : List (String × Json)} {n : Nat}
    (h : writeBoundMembers members ≤ n) : writeBound (.obj members) ≤ n + 2 := by
  rw [writeBound]
  exact Nat.add_le_add_right h 2

lemma writeBound_str_le (text : List Char) :
    writeBound (.str (String.ofList text)) ≤ 6 * text.length + 2 := by
  rw [writeBound, String.length_ofList]

lemma writeBound_int_le (value : Int) : writeBound (.int value) ≤ 17 := by
  rw [writeBound]

lemma writeBound_null_le : writeBound .null ≤ 4 := by
  rw [writeBound]

/-- The sample has small numbers only, and it is short. -/
lemma writable_sampleMembers :
    WritableMembers sampleMembers ∧ writeBoundMembers sampleMembers ≤ 40000 := by
  constructor
  · simp [sampleMembers, sampleCall, sampleIdentity, sampleDelivery, sampleRequest,
      LiepinSourcePayload.dump, dumpSubmit, OperationIdentityV1.dump, DispatchDeliveryV1.dump,
      DispatchAuthorizationV1.dump, LiepinDetailsRequest.dump, dumpText, WritableMembers, Writable,
      maxSafeInteger]
  · simp only [sampleMembers, sampleCall, sampleIdentity, sampleDelivery, sampleRequest,
      LiepinSourcePayload.dump, dumpSubmit, OperationIdentityV1.dump, DispatchDeliveryV1.dump,
      DispatchAuthorizationV1.dump, LiepinDetailsRequest.dump, dumpText, Option.elim, protocolName]
    apply Nat.le_trans
    · repeat' first
        | with_reducible exact writeBoundMembers_nil_le
        | with_reducible exact writeBound_str_le _
        | with_reducible exact writeBound_int_le _
        | with_reducible exact writeBound_null_le
        | with_reducible apply writeBound_obj_le
        | with_reducible apply writeBoundMembers_cons_le
    · decide +kernel

/-- The sample can be written under any tag that is a digest. -/
lemma exists_sample {tag : String} (h : isSha256 tag = true) :
    ∃ body, referenceRuntime.canonicalJsonBytes
      (FrameSession.withAuthTag sampleDump tag) = .ok body ∧ body.length ≤ 1048576 := by
  obtain ⟨hwritable, hbound⟩ := writable_sampleMembers
  obtain ⟨hnormal, hless⟩ := writable_normalizeMembers sampleMembers hwritable
  have htag : tag.length = 64 := by
    simp only [isSha256, Bool.and_eq_true, beq_iff_eq] at h
    rw [← String.length_toList]
    exact h.1
  have hvalue : Writable (.str tag) := trivial
  obtain ⟨hput, hmore⟩ := writable_putMember "auth_tag" hvalue hnormal
  have hmembers : (FrameSession.withAuthTag sampleDump tag).members =
      Json.putMember "auth_tag" (.str tag) (Json.normalizeMembers sampleMembers) := by
    rw [← members_sampleDump]
    rfl
  rw [← hmembers] at hput hmore
  obtain ⟨body, hbody, hlength⟩ := exists_reference hput
  refine ⟨body, hbody, ?_⟩
  have hkey : "auth_tag".length = 8 := by
    rw [← String.length_toList]
    simp
  rw [writeBound, hkey, htag] at hmore
  -- The bounds are not to be computed.
  generalize writeBoundMembers (FrameSession.withAuthTag sampleDump tag).members =
    tagged at hmore hlength
  generalize writeBoundMembers (Json.normalizeMembers sampleMembers) = normal at hmore hless
  generalize writeBoundMembers sampleMembers = given at hbound hless
  omega

/-! ## Sending the sample -/

/-- The tag of a frame that is not signed yet has the form of a digest. -/
lemma isSha256_zeroAuthTag : isSha256 zeroAuthTag = true := by
  have hdigit : isHexDigit '0' = true := by decide
  have hall : (List.replicate 64 '0').all isHexDigit = true := by
    rw [List.all_eq_true]
    intro character h
    rw [List.eq_of_mem_replicate h]
    exact hdigit
  unfold isSha256 zeroAuthTag
  rw [String.toList_ofList, hall, List.length_replicate]
  rfl

/-- A new main session of the sample. -/
structure SendsSample (s : LiepinSourceSession) : Prop where
  role : s.role = .main
  sessionId : s.sessionId = "session-1"
  protocolMinor : s.protocolMinor = 0
  nextSend : s.nextSendSequence = 1
  isOpen : s.closed = false
  messageIds : s.messageIds = []
  pendingRequests : s.pendingRequests = ∅

/-- The sample fits a frame, whatever the key. -/
lemma exists_encodeEnvelope_sample (s : LiepinSourceSession) :
    ∃ frame, s.encodeEnvelope referenceRuntime (liepinSourceContract sampleAdapter) sampleEnvelope =
      .ok frame := by
  obtain ⟨hwritable, -⟩ := writable_sampleMembers
  obtain ⟨unsignedBody, hunsigned, -⟩ := exists_reference (d := sampleDump)
    (writable_normalizeMembers sampleMembers hwritable).1
  obtain ⟨zeroTagBody, hzero, hfits⟩ := exists_sample isSha256_zeroAuthTag
  have hdigest : ∀ key message,
      isSha256 (hexdigest (referenceRuntime.hmacSha256 key message)) = true :=
    fun key message => isSha256_hexdigest (length_hmacSha256 key message)
  obtain ⟨body, hbody, -⟩ := exists_sample (hdigest s.sendKey (authInput "session-1"
    s.role.sendDirection 1 zeroTagBody.length unsignedBody))
  have hlength : body.length = zeroTagBody.length :=
    length_insert_sha256 lt_of_mem_sampleDump (hdigest _ _) isSha256_zeroAuthTag hbody hzero
  unfold FrameSession.encodeEnvelope
  simp only [bind_eq_ok, require_eq_ok, pure_eq_ok, FrameSession.canonicalBytes_eq_ok]
  exact ⟨_, unsignedBody, hunsigned, zeroTagBody, hzero, (), hfits, body, hbody, (), hlength, rfl⟩

/-- The sample is a submit. -/
lemma isRequest_sample : sampleEnvelope.messageType ∈ submitTypes :=
  List.mem_cons_of_mem _ List.mem_cons_self

/-- The sample and its arrival ask for no reply, and a session without requests takes them. -/
lemma transition_sample (hpending : s.pendingRequests = ∅)
    (htype : e.messageType = sampleEnvelope.messageType)
    (hpayload : e.payload = sampleEnvelope.payload) :
    FrameSession.pendingFor (liepinSourceContract sampleAdapter) s e = .ok none ∧
      ∃ pendingRequests, FrameSession.applyPendingTransition
        (liepinSourceContract sampleAdapter) s e none = .ok pendingRequests := by
  have hrequest : e.messageType ∈ submitTypes := by
    rw [htype]
    exact isRequest_sample
  constructor
  · rw [FrameSession.pendingFor]
    refine (if_pos hrequest).trans ?_
    simp only [bind_eq_ok, require_eq_ok, pure_eq_ok, and_true, hpending]
    exact ⟨(), by decide⟩
  · obtain ⟨request, hsubmit⟩ : ∃ request,
        (liepinSourceContract sampleAdapter).pendingFromRequest e = some request := by
      simp only [liepinSourceContract, pendingFromRequest, hpayload]
      exact ⟨_, rfl⟩
    refine ⟨s.pendingRequests.insert e.messageId ⟨request, none⟩, (if_pos hrequest).trans ?_⟩
    rw [hsubmit]

/-- A new main session encodes the envelope of the sample. -/
theorem exists_encodeOpen_sample (hs : SendsSample s) :
    ∃ frame after, s.encodeOpen referenceRuntime
      (liepinSourceContract sampleAdapter) sampleEnvelope = .ok (frame, after) := by
  have hadapter : (liepinSourceContract sampleAdapter).validatePython sampleEnvelope =
      some sampleEnvelope := validatePython_sample
  obtain ⟨frame, hframe⟩ := exists_encodeEnvelope_sample s
  have hcontext : FrameSession.OutboundContext (liepinSourceContract sampleAdapter) s
      sampleEnvelope := by
    refine ⟨⟨rfl, rfl⟩, hs.protocolMinor.symm, hs.sessionId.symm, rfl, ?_, hs.nextSend.symm, ?_, ?_,
      ?_⟩
    · rw [hs.nextSend]
      decide
    · rw [FrameSession.outboundMessageTypes, if_pos hs.role]
      exact isRequest_sample
    · rw [FrameSession.requireReplyShape]
      exact (if_pos isRequest_sample).trans (require_eq_ok.mpr rfl)
    · simp [FrameSession.requireNewMessageId, hs.messageIds, liepinSourceContract]
  obtain ⟨hreply, pendingRequests, hpending⟩ := transition_sample hs.pendingRequests rfl rfl
  exact ⟨frame, _, FrameSession.encodeOpen_eq_ok.mpr
    ⟨sampleEnvelope, none, pendingRequests, hadapter, hcontext, hreply, hframe, hpending, rfl⟩⟩

/-- A new main session sends the sample. -/
theorem exists_encodeCall_sample (hs : SendsSample s) :
    ∃ frame after, s.encodeCall referenceRuntime sampleAdapter sampleCall = (.ok frame, after) := by
  have hbuilt : s.buildEnvelope 1 sampleCall = sampleEnvelope := by
    rw [LiepinSourceSession.buildEnvelope, hs.sessionId, hs.protocolMinor]
    rfl
  obtain ⟨frame, after, hopen⟩ := exists_encodeOpen_sample hs
  have hsequence : FrameSession.requireSendSequence s = .ok 1 := by
    rw [FrameSession.requireSendSequence, hs.nextSend, if_neg (by decide)]
  unfold LiepinSourceSession.encodeCall
  rw [if_neg (by rw [hs.isOpen]; exact Bool.false_ne_true), hsequence]
  dsimp only
  rw [hbuilt, validatePython_sample]
  dsimp only
  rw [FrameSession.encode, if_neg (by rw [hs.isOpen]; exact Bool.false_ne_true), hopen]
  exact ⟨frame, _, rfl⟩

/-! ## A session of the adapter -/

/-- A key of the sample session. -/
def sampleKey (byte : UInt8) : Bytes :=
  List.replicate 32 byte

/-- The endpoints of the sample session. -/
def sampleEndpoint (role : EndpointRole) : LiepinSourceSession where
  role := role
  sessionId := "session-1"
  protocolMinor := 0
  sendKey := if role = .main then sampleKey 1 else sampleKey 2
  receiveKey := if role = .main then sampleKey 2 else sampleKey 1
  nextSendSequence := 1
  nextReceiveSequence := 1
  messageIds := []
  pendingRequests := ∅
  header := []
  body := []
  expectedBodyLength := none
  closed := false
  closedReason := none

/-- The endpoints are created. -/
lemma create_sampleEndpoint (role : EndpointRole) :
    FrameSession.create (liepinSourceContract sampleAdapter) role "session-1" 0 (sampleKey 1)
      (sampleKey 2) = .ok (sampleEndpoint role) := by
  have hid : opaque96 "session-1" = true := by decide +kernel
  have hminor : nonNegativeJsonInteger 0 = true := by decide
  have hkey : ∀ byte, (sampleKey byte).length = 32 := fun byte => List.length_replicate
  have hreason : (liepinSourceContract sampleAdapter).pendingRequestLimitReason ≠ "" := by
    decide +kernel
  unfold FrameSession.create
  simp only [bind_eq_ok, require_eq_ok, pure_eq_ok]
  exact ⟨(), hid, (), hminor, (), hkey 1, (), hkey 2, (), hreason, rfl⟩

end SeekTalent.SourcePort
