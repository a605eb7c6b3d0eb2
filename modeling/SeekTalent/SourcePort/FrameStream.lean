import SeekTalent.SourcePort.FrameSession

/-!
# A session reads a stream of bytes

What each call of a frame session does when it succeeds, and how `feed` depends on the way its bytes
were cut into pieces: it does not.  `feedByte` is one byte of a stream, `feedBytes` a stream byte by
byte, and `feed_eq_feedBytes` says that the loop of `feed`, which takes as many bytes at a time as
the header or the body still lacks, comes to the same.
-/

namespace SeekTalent.SourcePort

open Foundation

variable {P Q S : Type}

namespace FeedOutcome

variable {first : FeedOutcome P Q S} {next : FrameSession Q S → FeedOutcome P Q S}

/-- Going on after a raised failure does nothing. -/
lemma andThen_of_failure
    {reason : String} (h : first.failure = some reason) : first.andThen next = first := by
  simp [andThen, h]

/-- Going on after an outcome without a failure. -/
lemma andThen_of_none (h : first.failure = none) :
    first.andThen next =
      { session := (next first.session).session
        accepted := first.accepted ++ (next first.session).accepted
        verified := first.verified ++ (next first.session).verified
        failure := (next first.session).failure } := by
  simp [andThen, h]

/-- Going on twice. -/
lemma andThen_assoc (first : FeedOutcome P Q S) (next last : FrameSession Q S → FeedOutcome P Q S) :
    (first.andThen next).andThen last = first.andThen (fun s => (next s).andThen last) := by
  cases hfirst : first.failure with
  | some reason =>
    have hstop : first.andThen next = first := andThen_of_failure hfirst
    rw [hstop, andThen_of_failure hfirst, andThen_of_failure hfirst]
  | none =>
    cases hnext : (next first.session).failure with
    | some reason =>
      have hstop : (first.andThen next).failure = some reason := by
        rw [andThen_of_none hfirst]
        exact hnext
      rw [andThen_of_failure hstop, andThen_of_none hfirst, andThen_of_none hfirst,
        andThen_of_failure hnext]
    | none =>
      have hgo : (first.andThen next).failure = none := by
        rw [andThen_of_none hfirst]
        exact hnext
      rw [andThen_of_none hgo, andThen_of_none hfirst, andThen_of_none hfirst,
        andThen_of_none hnext]
      simp [List.append_assoc]

/-- Outcomes that go on in the same way from the state they reached are the same. -/
lemma andThen_congr {last : FrameSession Q S → FeedOutcome P Q S}
    (h : first.failure = none → next first.session = last first.session) :
    first.andThen next = first.andThen last := by
  cases hfirst : first.failure with
  | some reason => rw [andThen_of_failure hfirst, andThen_of_failure hfirst]
  | none => rw [andThen_of_none hfirst, andThen_of_none hfirst, h hfirst]

end FeedOutcome

namespace FrameSession

variable {rt : WireRuntime} {c : FrameContract P Q S} {s : FrameSession Q S}
variable {e : FrameEnvelope P} {frameLength : Nat}

@[simp] lemma feedDone_andThen (next : FrameSession Q S → FeedOutcome P Q S) :
    (feedDone s : FeedOutcome P Q S).andThen next = next s := by
  rw [FeedOutcome.andThen_of_none rfl]
  rfl

/-! ## What a successful call did -/

/-- Canonical bytes are those of the runtime. -/
@[simp] lemma canonicalBytes_eq_ok {payload : JsonDict} {canonical : Bytes} :
    canonicalBytes rt payload = .ok canonical ↔ rt.canonicalJsonBytes payload = .ok canonical := by
  unfold canonicalBytes
  cases rt.canonicalJsonBytes payload <;> simp

/-- What `_encode_envelope` computes. -/
structure Encodes (rt : WireRuntime) (c : FrameContract P Q S) (s : FrameSession Q S)
    (e : FrameEnvelope P) (encoded : EncodedFrame P) (unsignedBody zeroTagBody body : Bytes) :
    Prop where
  unsigned : rt.canonicalJsonBytes (unsignedDump c e) = .ok unsignedBody
  zeroed : rt.canonicalJsonBytes (withAuthTag (unsignedDump c e) zeroAuthTag) = .ok zeroTagBody
  fits : zeroTagBody.length ≤ c.maxFrameBytes
  envelope : encoded.envelope = e
  macKey : encoded.macKey = s.sendKey
  macInput : encoded.macInput =
    authInput e.sessionId s.role.sendDirection e.directionSeq zeroTagBody.length unsignedBody
  tagged : rt.canonicalJsonBytes (withAuthTag (unsignedDump c e)
    (hexdigest (rt.hmacSha256 encoded.macKey encoded.macInput))) = .ok body
  sameLength : body.length = zeroTagBody.length
  frame : encoded.frame = toBytesBig 4 body.length ++ body

/-- What an encoded frame is. -/
theorem encodeEnvelope_spec {encoded : EncodedFrame P} (h : encodeEnvelope rt c s e = .ok encoded) :
    ∃ unsignedBody zeroTagBody body, Encodes rt c s e encoded unsignedBody zeroTagBody body := by
  unfold encodeEnvelope at h
  simp only [bind_eq_ok, canonicalBytes_eq_ok, require_eq_ok, pure_eq_ok] at h
  obtain ⟨unsignedBody, hunsigned, zeroTagBody, hzero, -, hfits, body, hbody, -, hlength, rfl⟩ := h
  exact ⟨unsignedBody, zeroTagBody, body, hunsigned, hzero, hfits, rfl, rfl, rfl, hbody, hlength,
    by rw [hlength]⟩

/-- What an envelope needs to be sent. -/
structure OutboundContext (c : FrameContract P Q S) (s : FrameSession Q S) (e : FrameEnvelope P) :
    Prop where
  protocol : e.protocolName = protocolName ∧ e.protocolMajor = 1
  minor : e.protocolMinor = s.protocolMinor
  session : e.sessionId = s.sessionId
  tag : e.authTag = zeroAuthTag
  notExhausted : (s.nextSendSequence : Int) < jsonSafeInteger
  sequence : e.directionSeq = s.nextSendSequence
  messageType : e.messageType ∈ outboundMessageTypes c s.role
  shape : requireReplyShape c e = .ok ()
  newMessageId : requireNewMessageId c s e.messageId = .ok ()

/-- The checks of an envelope that is sent. -/
theorem requireOutboundContext_eq_ok :
    requireOutboundContext c s e = .ok () ↔ OutboundContext c s e := by
  unfold requireOutboundContext requireSendSequence
  simp only [bind_eq_ok, require_eq_ok]
  constructor
  · rintro ⟨-, hprotocol, -, hminor, -, hsession, -, htag, sequence, hsequence, -, heq, -, htype, _,
      hshape, hid⟩
    by_cases hexhausted : jsonSafeInteger ≤ s.nextSendSequence
    · simp [hexhausted] at hsequence
    · rw [if_neg hexhausted] at hsequence
      cases hsequence
      exact ⟨hprotocol, hminor, hsession, htag, not_le.mp hexhausted, heq, htype, hshape, hid⟩
  · rintro ⟨hprotocol, hminor, hsession, htag, hexhausted, heq, htype, hshape, hid⟩
    refine ⟨(), hprotocol, (), hminor, (), hsession, (), htag, s.nextSendSequence, ?_, (), heq, (),
      htype, (), hshape, hid⟩
    rw [if_neg (not_le.mpr hexhausted)]

/-- What a call of `encode` that succeeds did. -/
theorem encodeOpen_eq_ok {envelope : FrameEnvelope P} {encoded : EncodedFrame P}
    {after : FrameSession Q S} :
    encodeOpen rt c s envelope = .ok (encoded, after) ↔
      ∃ validated reply pendingRequests, c.validatePython envelope = some validated ∧
        OutboundContext c s validated ∧ pendingForOutbound c s validated = .ok reply ∧
        encodeEnvelope rt c s validated = .ok encoded ∧
        applyPendingTransition c s validated reply = .ok pendingRequests ∧
        after = { s with
          messageIds := validated.messageId :: s.messageIds
          pendingRequests := pendingRequests
          nextSendSequence := s.nextSendSequence + 1 } := by
  unfold encodeOpen
  cases hvalid : c.validatePython envelope with
  | none => simp
  | some validated =>
    simp only [bind_eq_ok, pure_eq_ok, Prod.mk.injEq, Option.some.injEq]
    constructor
    · rintro ⟨_, hcontext, reply, hreply, _, hencoded, pendingRequests, hpending, rfl, rfl⟩
      exact ⟨validated, reply, pendingRequests, rfl, requireOutboundContext_eq_ok.mp hcontext,
        hreply, hencoded, hpending, rfl⟩
    · rintro ⟨_, reply, pendingRequests, rfl, hcontext, hreply, hencoded, hpending, rfl⟩
      exact ⟨(), requireOutboundContext_eq_ok.mpr hcontext, reply, hreply, encoded, hencoded,
        pendingRequests, hpending, rfl, rfl⟩

/-- What a body needs to be decoded. -/
structure Decodes (rt : WireRuntime) (c : FrameContract P Q S) (s : FrameSession Q S) (body : Bytes)
    (frameLength : Nat) (e : FrameEnvelope P) (verified : VerifiedTag) (parsed : JsonDict)
    (unsignedBody zeroTagBody : Bytes) : Prop where
  canonical : strictCanonicalJsonObject rt body = .ok parsed
  valid : c.validateJson body = some e
  protocol : e.protocolName = protocolName ∧ e.protocolMajor = 1
  minor : e.protocolMinor = s.protocolMinor
  session : e.sessionId = s.sessionId
  unsigned : rt.canonicalJsonBytes (parsed.erase "auth_tag") = .ok unsignedBody
  zeroed :
    rt.canonicalJsonBytes (withAuthTag (parsed.erase "auth_tag") zeroAuthTag) = .ok zeroTagBody
  sameLength : zeroTagBody.length = frameLength
  computed : verified = ⟨s.receiveKey, authInput s.sessionId s.role.receiveDirection e.directionSeq
    frameLength unsignedBody⟩
  tag : parsed.get? "auth_tag" =
    some (.str (hexdigest (rt.hmacSha256 verified.macKey verified.macInput)))

/-- What a decoded body is. -/
theorem decodeEnvelope_eq_ok {body : Bytes} {verified : VerifiedTag} :
    decodeEnvelope rt c s body frameLength = .ok (e, verified) ↔ ∃ parsed unsignedBody zeroTagBody,
      Decodes rt c s body frameLength e verified parsed unsignedBody zeroTagBody := by
  unfold decodeEnvelope
  constructor
  · intro h
    cases hparsed : strictCanonicalJsonObject rt body with
    | error reason => simp [hparsed] at h
    | ok parsed =>
      cases hvalid : c.validateJson body with
      | none => simp [hparsed, hvalid] at h
      | some envelope =>
        simp only [hparsed, hvalid, bind_eq_ok, canonicalBytes_eq_ok, require_eq_ok] at h
        obtain ⟨-, hprotocol, -, hminor, -, hsession, unsignedBody, hunsigned, zeroTagBody, hzero,
          -, hlength, htag⟩ := h
        split at htag
        · rename_i authTag hget
          simp only [bind_eq_ok, require_eq_ok, pure_eq_ok, Prod.mk.injEq] at htag
          obtain ⟨-, htag, rfl, rfl⟩ := htag
          exact ⟨parsed, unsignedBody, zeroTagBody, hparsed, hvalid, hprotocol, hminor, hsession,
            hunsigned, hzero, hlength, rfl, by rw [hget, htag]⟩
        · cases htag
  · rintro ⟨parsed, unsignedBody, zeroTagBody, h⟩
    rw [h.canonical, h.valid]
    simp only [bind_eq_ok, canonicalBytes_eq_ok, require_eq_ok]
    refine ⟨(), h.protocol, (), h.minor, (), h.session, unsignedBody, h.unsigned, zeroTagBody,
      h.zeroed, (), h.sameLength, ?_⟩
    rw [h.tag]
    have hverified := h.computed
    simp only [bind_eq_ok, require_eq_ok, pure_eq_ok, Prod.mk.injEq]
    exact ⟨(), by rw [hverified], trivial, hverified.symm⟩

/-- What an envelope needs to be accepted. -/
structure InboundContext (c : FrameContract P Q S) (s : FrameSession Q S) (e : FrameEnvelope P) :
    Prop where
  sequence : e.directionSeq = s.nextReceiveSequence
  notExhausted : (s.nextReceiveSequence : Int) < jsonSafeInteger
  messageType : e.messageType ∈ inboundMessageTypes c s.role
  shape : requireReplyShape c e = .ok ()
  newMessageId : requireNewMessageId c s e.messageId = .ok ()

/-- What accepting an envelope did. -/
theorem acceptEnvelope_eq_ok {after : FrameSession Q S} :
    acceptEnvelope c s e = .ok after ↔ InboundContext c s e ∧ ∃ reply pendingRequests,
      pendingForInbound c s e = .ok reply ∧
      applyPendingTransition c s e reply = .ok pendingRequests ∧
      after = { s with
        messageIds := e.messageId :: s.messageIds
        pendingRequests := pendingRequests
        nextReceiveSequence := s.nextReceiveSequence + 1 } := by
  unfold acceptEnvelope
  simp only [bind_eq_ok, require_eq_ok, pure_eq_ok]
  constructor
  · rintro ⟨-, hsequence, -, hexhausted, -, htype, _, hshape, _, hid, reply, hreply,
      pendingRequests, hpending, rfl⟩
    exact ⟨⟨hsequence, hexhausted, htype, hshape, hid⟩, reply, pendingRequests, hreply, hpending,
      rfl⟩
  · rintro ⟨⟨hsequence, hexhausted, htype, hshape, hid⟩, reply, pendingRequests, hreply, hpending,
      rfl⟩
    exact ⟨(), hsequence, (), hexhausted, (), htype, (), hshape, (), hid, reply, hreply,
      pendingRequests, hpending, rfl⟩

/-! ## Byte by byte -/

variable (rt c) in
/-- One byte of a stream. -/
def feedByte (s : FrameSession Q S) (byte : UInt8) : FeedOutcome P Q S :=
  match s.expectedBodyLength with
  | none =>
    let header := s.header ++ [byte]
    if header.length < 4 then feedDone { s with header := header } else openBody c s header
  | some frameLength =>
    let body := s.body ++ [byte]
    if body.length < frameLength then feedDone { s with body := body }
    else acceptBody rt c { s with body := [], expectedBodyLength := none } body frameLength

variable (rt c) in
/-- A stream, byte by byte. -/
def feedBytes (s : FrameSession Q S) : Bytes → FeedOutcome P Q S
  | [] => feedDone s
  | byte :: rest => (feedByte rt c s byte).andThen (fun next => feedBytes next rest)

/-- A stream in two pieces. -/
theorem feedBytes_append (front back : Bytes) :
    feedBytes rt c s (front ++ back) =
      (feedBytes rt c s front).andThen (fun next => feedBytes rt c next back) := by
  induction front generalizing s with
  | nil => simp [feedBytes]
  | cons byte rest ih =>
    show (feedByte rt c s byte).andThen (fun next => feedBytes rt c next (rest ++ back)) = _
    rw [feedBytes, FeedOutcome.andThen_assoc]
    exact FeedOutcome.andThen_congr (fun _ => ih)

/-- The bytes of a frame of which a part was read. -/
def bufferBytes (s : FrameSession Q S) : Bytes :=
  match s.expectedBodyLength with
  | none => s.header
  | some frameLength => toBytesBig 4 frameLength ++ s.body

/-- Between two bytes the header is short of four, and so is the body of its length. -/
structure Buffered (s : FrameSession Q S) : Prop where
  header : s.header.length < 4
  awaitsHeader : s.expectedBodyLength = none → s.body = []
  awaitsBody : ∀ frameLength, s.expectedBodyLength = some frameLength →
    s.header = [] ∧ s.body.length < frameLength

/-- Bytes that leave the header short are kept. -/
lemma feedBytes_header (hnone : s.expectedBodyLength = none) (front back : Bytes)
    (hshort : s.header.length + front.length < 4) :
    feedBytes rt c s (front ++ back) =
      feedBytes rt c { s with header := s.header ++ front } back := by
  induction front generalizing s with
  | nil => simp
  | cons byte rest ih =>
    simp only [List.length_cons] at hshort
    have hstep : feedByte rt c s byte = feedDone { s with header := s.header ++ [byte] } := by
      unfold feedByte
      simp only [hnone]
      rw [if_pos (by simp; omega)]
    have hrest := ih (s := { s with header := s.header ++ [byte] }) hnone (by simp; omega)
    rw [List.cons_append, feedBytes, hstep, feedDone_andThen, hrest, List.append_assoc]
    rfl

/-- Bytes that leave the body short are kept. -/
lemma feedBytes_body (hsome : s.expectedBodyLength = some frameLength)
    (front back : Bytes) (hshort : s.body.length + front.length < frameLength) :
    feedBytes rt c s (front ++ back) = feedBytes rt c { s with body := s.body ++ front } back := by
  induction front generalizing s with
  | nil => simp
  | cons byte rest ih =>
    simp only [List.length_cons] at hshort
    have hstep : feedByte rt c s byte = feedDone { s with body := s.body ++ [byte] } := by
      unfold feedByte
      simp only [hsome]
      rw [if_pos (by simp; omega)]
    have hrest := ih (s := { s with body := s.body ++ [byte] }) hsome (by simp; omega)
    rw [List.cons_append, feedBytes, hstep, feedDone_andThen, hrest, List.append_assoc]
    rfl

/-- The byte that completes a header. -/
lemma feedBytes_openBody (hnone : s.expectedBodyLength = none) (front back : Bytes)
    (hshort : s.header.length < 4) (hfull : s.header.length + front.length = 4) :
    feedBytes rt c s (front ++ back) =
      (openBody c s (s.header ++ front)).andThen (fun next => feedBytes rt c next back) := by
  have hne : front ≠ [] := by
    rintro rfl
    simp only [List.length_nil] at hfull
    omega
  obtain ⟨init, last, rfl⟩ : ∃ init last, front = init ++ [last] :=
    ⟨front.dropLast, front.getLast hne, (List.dropLast_append_getLast hne).symm⟩
  simp only [List.length_append, List.length_singleton] at hfull
  rw [List.append_assoc, feedBytes_header hnone init _ (by omega), List.singleton_append, feedBytes]
  have hstep : feedByte rt c { s with header := s.header ++ init } last =
      openBody c s (s.header ++ (init ++ [last])) := by
    unfold feedByte
    simp only [hnone]
    rw [if_neg (by simp; omega), List.append_assoc]
    rfl
  rw [hstep]

/-- The byte that completes a body. -/
lemma feedBytes_acceptBody (hsome : s.expectedBodyLength = some frameLength)
    (front back : Bytes) (hshort : s.body.length < frameLength)
    (hfull : s.body.length + front.length = frameLength) :
    feedBytes rt c s (front ++ back) =
      (acceptBody rt c { s with body := [], expectedBodyLength := none } (s.body ++ front)
        frameLength).andThen (fun next => feedBytes rt c next back) := by
  have hne : front ≠ [] := by
    rintro rfl
    simp only [List.length_nil] at hfull
    omega
  obtain ⟨init, last, rfl⟩ : ∃ init last, front = init ++ [last] :=
    ⟨front.dropLast, front.getLast hne, (List.dropLast_append_getLast hne).symm⟩
  simp only [List.length_append, List.length_singleton] at hfull
  rw [List.append_assoc, feedBytes_body hsome init _ (by omega), List.singleton_append, feedBytes]
  have hstep : feedByte rt c { s with body := s.body ++ init } last =
      acceptBody rt c { s with body := [], expectedBodyLength := none } (s.body ++ (init ++ [last]))
        frameLength := by
    unfold feedByte
    simp only [hsome]
    rw [if_neg (by simp; omega), List.append_assoc]
  rw [hstep]

/-- A complete header leaves the session between two bytes. -/
lemma buffered_openBody {header : Bytes} (hs : Buffered s) (hnone : s.expectedBodyLength = none) :
    Buffered (openBody c s header).session := by
  have hbody : s.body = [] := hs.awaitsHeader hnone
  unfold openBody
  dsimp only
  split
  · exact ⟨by simp [feedFailure, close], fun _ => rfl, fun _ h => by simp [feedFailure, close] at h⟩
  · split
    · exact ⟨by simp [feedFailure, close], fun _ =>
        rfl, fun _ h => by simp [feedFailure, close] at h⟩
    · rename_i hzero _
      refine ⟨by simp [feedDone], fun h => by simp [feedDone] at h, fun frameLength h => ?_⟩
      simp only [feedDone, Option.some.injEq] at h
      refine ⟨rfl, ?_⟩
      simp only [feedDone, hbody, List.length_nil]
      omega

/-- A complete body leaves the session between two bytes. -/
lemma buffered_acceptBody {body : Bytes} (hheader : s.header = [])
    (hbody : s.body = []) (hnone : s.expectedBodyLength = none) :
    Buffered (acceptBody rt c s body frameLength).session := by
  have hclosed : ∀ reason, Buffered (s.close reason) := fun reason =>
    ⟨by simp [close], fun _ => rfl, fun _ h => by simp [close] at h⟩
  unfold acceptBody
  split
  · exact hclosed _
  · dsimp only
    split
    · exact hclosed _
    · rename_i after hafter
      obtain ⟨-, _, _, -, -, rfl⟩ := acceptEnvelope_eq_ok.mp hafter
      exact ⟨by simp [hheader], fun _ => hbody, fun _ h => by simp [hnone] at h⟩

/-- One byte leaves the session between two bytes. -/
lemma buffered_feedByte (hs : Buffered s) (byte : UInt8) :
    Buffered (feedByte rt c s byte).session := by
  unfold feedByte
  rcases hexpected : s.expectedBodyLength with _ | frameLength
  · have hbody : s.body = [] := hs.awaitsHeader hexpected
    dsimp only
    by_cases hshort : (s.header ++ [byte]).length < 4
    · rw [if_pos hshort]
      exact ⟨hshort, fun _ => hbody, fun _ h => by simp [feedDone] at h⟩
    · rw [if_neg hshort]
      exact buffered_openBody hs hexpected
  · obtain ⟨hheader, -⟩ := hs.awaitsBody frameLength hexpected
    dsimp only
    by_cases hshort : (s.body ++ [byte]).length < frameLength
    · rw [if_pos hshort]
      refine ⟨hs.header, fun h => by simp [feedDone] at h, fun n h => ?_⟩
      obtain rfl : frameLength = n := by simpa [feedDone] using h
      exact ⟨hheader, hshort⟩
    · rw [if_neg hshort]
      exact buffered_acceptBody hheader rfl rfl

/-- A stream leaves the session between two bytes. -/
theorem buffered_feedBytes (hs : Buffered s) (data : Bytes) :
    Buffered (feedBytes rt c s data).session := by
  induction data generalizing s with
  | nil => exact hs
  | cons byte rest ih =>
    have hbyte : Buffered (feedByte rt c s byte).session := buffered_feedByte hs byte
    rw [feedBytes]
    cases hfailure : (feedByte rt c s byte).failure with
    | some reason => rwa [FeedOutcome.andThen_of_failure hfailure]
    | none =>
      rw [FeedOutcome.andThen_of_none hfailure]
      exact ih hbyte

/-- A turn of the loop that has no bytes left. -/
@[simp] lemma feedLoop_nil (turns : Nat) : feedLoop rt c turns s [] = feedDone s := by
  cases turns <;> simp [feedLoop]

/-- A turn of the loop that reads a header. -/
lemma feedLoop_header {turns : Nat} {data : Bytes} (hdata : data ≠ [])
    (hnone : s.expectedBodyLength = none) :
    feedLoop rt c (turns + 1) s data =
      if (s.header ++ data.take (4 - s.header.length)).length < 4 then
        feedDone { s with header := s.header ++ data.take (4 - s.header.length) }
      else
        (openBody c s (s.header ++ data.take (4 - s.header.length))).andThen
          (fun opened => feedLoop rt c turns opened (data.drop (4 - s.header.length))) := by
  have hdrop : data.drop (min (4 - s.header.length) data.length) =
      data.drop (4 - s.header.length) := by
    rw [List.drop_eq_drop_iff]
    omega
  rw [feedLoop, if_neg hdata, hnone]
  dsimp only
  rw [← List.take_eq_take_min, hdrop]

/-- A turn of the loop that reads a body. -/
lemma feedLoop_body {turns : Nat} {data : Bytes} (hdata : data ≠ [])
    (hsome : s.expectedBodyLength = some frameLength) :
    feedLoop rt c (turns + 1) s data =
      if (s.body ++ data.take (frameLength - s.body.length)).length < frameLength then
        feedLoop rt c turns { s with body := s.body ++ data.take (frameLength - s.body.length) }
          (data.drop (frameLength - s.body.length))
      else
        (acceptBody rt c { s with body := [], expectedBodyLength := none }
          (s.body ++ data.take (frameLength - s.body.length)) frameLength).andThen
          (fun after => feedLoop rt c turns after (data.drop (frameLength - s.body.length))) := by
  have hdrop : data.drop (min (frameLength - s.body.length) data.length) =
      data.drop (frameLength - s.body.length) := by
    rw [List.drop_eq_drop_iff]
    omega
  rw [feedLoop, if_neg hdata, hsome]
  dsimp only
  rw [← List.take_eq_take_min, hdrop]

/-- The loop of `feed` reads its bytes one after the other. -/
theorem feedLoop_eq_feedBytes (turns : Nat) (hs : Buffered s) (data : Bytes)
    (hturns : data.length ≤ turns) : feedLoop rt c turns s data = feedBytes rt c s data := by
  induction turns generalizing s data with
  | zero =>
    obtain rfl : data = [] := List.length_eq_zero_iff.mp (Nat.le_zero.mp hturns)
    rfl
  | succ turns ih =>
    by_cases hnil : data = []
    · rw [hnil, feedLoop_nil]
      rfl
    have hpos : 0 < data.length := List.length_pos_iff.mpr hnil
    rcases hexpected : s.expectedBodyLength with _ | frameLength
    · have hheader : s.header.length < 4 := hs.header
      rw [feedLoop_header hnil hexpected]
      by_cases hfull : 4 ≤ s.header.length + data.length
      · have hlength : (data.take (4 - s.header.length)).length = 4 - s.header.length := by
          rw [List.length_take]
          omega
        rw [if_neg (by rw [List.length_append, hlength]; omega)]
        conv_rhs => rw [← List.take_append_drop (4 - s.header.length) data]
        rw [feedBytes_openBody hexpected _ _ hheader (by omega)]
        refine FeedOutcome.andThen_congr (fun _ => ih (buffered_openBody hs hexpected) _ ?_)
        rw [List.length_drop]
        omega
      · have htake : data.take (4 - s.header.length) = data := List.take_of_length_le (by omega)
        have hkept : feedBytes rt c s (data ++ []) = _ :=
          feedBytes_header hexpected data [] (by omega)
        rw [List.append_nil] at hkept
        rw [htake, if_pos (by rw [List.length_append]; omega), hkept]
        rfl
    · obtain ⟨hheader, hbody⟩ := hs.awaitsBody frameLength hexpected
      rw [feedLoop_body hnil hexpected]
      by_cases hfull : frameLength ≤ s.body.length + data.length
      · have hlength : (data.take (frameLength - s.body.length)).length =
            frameLength - s.body.length := by
          rw [List.length_take]
          omega
        rw [if_neg (by rw [List.length_append, hlength]; omega)]
        conv_rhs => rw [← List.take_append_drop (frameLength - s.body.length) data]
        rw [feedBytes_acceptBody hexpected _ _ hbody (by omega)]
        refine FeedOutcome.andThen_congr (fun _ => ih ?_ _ ?_)
        · exact buffered_acceptBody hheader rfl rfl
        · rw [List.length_drop]
          omega
      · have htake : data.take (frameLength - s.body.length) = data :=
          List.take_of_length_le (by omega)
        have hdrop : data.drop (frameLength - s.body.length) = [] :=
          List.drop_eq_nil_of_le (by omega)
        have hkept : feedBytes rt c s (data ++ []) = _ :=
          feedBytes_body hexpected data [] (by omega)
        rw [List.append_nil] at hkept
        rw [htake, if_pos (by rw [List.length_append]; omega), hdrop, feedLoop_nil, hkept]
        rfl

/-! ## What a stream keeps -/

/-- A complete header is refused, or it opens a body. -/
lemma openBody_cases (header : Bytes) :
    (∃ reason, openBody c s header = feedFailure { s with header := [] } [] reason) ∨
      ∃ frameLength, openBody c s header =
        feedDone { s with header := [], expectedBodyLength := some frameLength } := by
  unfold openBody
  dsimp only
  by_cases hzero : fromBytesBig header = 0
  · exact Or.inl ⟨_, if_pos hzero⟩
  · rw [if_neg hzero]
    by_cases hlarge : c.maxFrameBytes < fromBytesBig header
    · exact Or.inl ⟨_, if_pos hlarge⟩
    · exact Or.inr ⟨_, if_neg hlarge⟩

/-- A complete body is refused, or its envelope is accepted. -/
lemma acceptBody_cases (body : Bytes) (frameLength : Nat) :
    (∃ verified reason, acceptBody rt c s body frameLength = feedFailure s verified reason) ∨
      ∃ e verified after replyRequest, decodeEnvelope rt c s body frameLength = .ok (e, verified) ∧
        acceptEnvelope c s e = .ok after ∧
        replyRequest = (e.replyTo.bind s.pendingRequests.lookup).map PendingRequest.request ∧
        acceptBody rt c s body frameLength = ⟨after, [(e, replyRequest)], [verified], none⟩ := by
  unfold acceptBody
  cases hdecode : decodeEnvelope rt c s body frameLength with
  | error reason => exact Or.inl ⟨[], reason, rfl⟩
  | ok decoded =>
    obtain ⟨e, verified⟩ := decoded
    dsimp only
    cases haccept : acceptEnvelope c s e with
    | error reason => exact Or.inl ⟨[verified], reason, rfl⟩
    | ok after => exact Or.inr ⟨e, verified, after, _, rfl, haccept, rfl, rfl⟩

/-- A session whose buffers hold something else. -/
def withBuffer (s : FrameSession Q S) (header body : Bytes) (expected : Option Nat) :
    FrameSession Q S :=
  { s with header := header, body := body, expectedBodyLength := expected }

variable (rt c) in
/-- What one byte does: it is buffered, or it is refused, or it completes a frame. -/
theorem feedByte_cases (s : FrameSession Q S) (byte : UInt8) :
    ∃ header body expected,
      feedByte rt c s byte = feedDone (s.withBuffer header body expected) ∨
      (∃ verified reason,
        feedByte rt c s byte = feedFailure (s.withBuffer header body expected) verified reason) ∨
      ∃ frame frameLength e verified after,
        decodeEnvelope rt c (s.withBuffer header body expected) frame frameLength = .ok
          (e, verified) ∧
        acceptEnvelope c (s.withBuffer header body expected) e = .ok after ∧
        feedByte rt c s byte = ⟨after, [(e, (e.replyTo.bind s.pendingRequests.lookup).map
          PendingRequest.request)], [verified], none⟩ := by
  cases hexpected : s.expectedBodyLength with
  | none =>
    by_cases hshort : (s.header ++ [byte]).length < 4
    · refine ⟨s.header ++ [byte], s.body, s.expectedBodyLength, Or.inl ?_⟩
      simp only [feedByte, hexpected, if_pos hshort, withBuffer]
    · have hstep : feedByte rt c s byte = openBody c s (s.header ++ [byte]) := by
        simp only [feedByte, hexpected, if_neg hshort]
      rcases openBody_cases (s.header ++ [byte]) with ⟨reason, hrefused⟩ | ⟨frameLength, hopened⟩
      · exact ⟨[], s.body, s.expectedBodyLength, Or.inr (Or.inl ⟨[], reason, hstep.trans hrefused⟩)⟩
      · exact ⟨[], s.body, some frameLength, Or.inl (hstep.trans hopened)⟩
  | some frameLength =>
    by_cases hshort : (s.body ++ [byte]).length < frameLength
    · refine ⟨s.header, s.body ++ [byte], s.expectedBodyLength, Or.inl ?_⟩
      simp only [feedByte, hexpected, if_pos hshort, withBuffer]
    · have hstep : feedByte rt c s byte =
          acceptBody rt c (s.withBuffer s.header [] none) (s.body ++ [byte]) frameLength := by
        simp only [feedByte, hexpected, if_neg hshort, withBuffer]
      refine ⟨s.header, [], none, Or.inr ?_⟩
      rcases acceptBody_cases (s.body ++ [byte]) frameLength with
        ⟨verified, reason, hrefused⟩ | ⟨e, verified, after, _, hdecode, haccept, rfl, haccepted⟩
      · exact Or.inl ⟨verified, reason, hstep.trans hrefused⟩
      · exact Or.inr ⟨_, _, e, verified, after, hdecode, haccept, hstep.trans haccepted⟩

/-- The invariant rule of a stream: what buffering, closing and accepting an envelope with an
allowed tag keep, a stream whose verified tags are all allowed keeps. -/
theorem feedBytes_invariant {I : FrameSession Q S → List (FrameEnvelope P × Option Q) → Prop}
    {allowed : VerifiedTag → Prop}
    (hbuffer : ∀ s header body expected received, I s received →
      I (s.withBuffer header body expected) received)
    (hclose : ∀ s reason received, I s received → I (s.close reason) received)
    (haccept : ∀ s frame frameLength e verified after received, s.closed = false → I s received →
      allowed verified → decodeEnvelope rt c s frame frameLength = .ok (e, verified) →
      acceptEnvelope c s e = .ok after →
      I after (received ++ [(e, (e.replyTo.bind s.pendingRequests.lookup).map
        PendingRequest.request)]))
    (data : Bytes) {received : List (FrameEnvelope P × Option Q)}
    (hopen : s.closed = false) (hs : I s received)
    (hallowed : ∀ verified ∈ (feedBytes rt c s data).verified, allowed verified) :
    I (feedBytes rt c s data).session (received ++ (feedBytes rt c s data).accepted) := by
  induction data generalizing s received with
  | nil => simpa [feedBytes, feedDone] using hs
  | cons byte rest ih =>
    obtain ⟨header, body, expected, hcases⟩ := feedByte_cases rt c s byte
    have hbuffered : I (s.withBuffer header body expected) received := hbuffer s _ _ _ _ hs
    rcases hcases with hstep | ⟨verified, reason, hstep⟩ |
      ⟨frame, frameLength, e, verified, after, hdecode, hafter, hstep⟩
    · rw [feedBytes, hstep, feedDone_andThen] at hallowed ⊢
      exact ih hopen hbuffered hallowed
    · have hstop : feedBytes rt c s (byte :: rest) =
          feedFailure (s.withBuffer header body expected) verified reason := by
        rw [feedBytes, hstep]
        exact FeedOutcome.andThen_of_failure rfl
      rw [hstop]
      simpa [feedFailure] using hclose _ (some reason) received hbuffered
    · rw [feedBytes, hstep, FeedOutcome.andThen_of_none rfl] at hallowed ⊢
      have hafterOpen : after.closed = false := by
        obtain ⟨-, _, _, -, -, rfl⟩ := acceptEnvelope_eq_ok.mp hafter
        exact hopen
      have hbufferedOpen : (s.withBuffer header body expected).closed = false := hopen
      have hnext := haccept _ frame frameLength e verified after received hbufferedOpen hbuffered
        (hallowed verified (by simp)) hdecode hafter
      have hrest := ih hafterOpen hnext
        (fun tag htag => hallowed tag (List.mem_append_right _ htag))
      rwa [List.append_assoc] at hrest

/-- A stream that is refused leaves the session closed, and what comes behind it does not matter. -/
theorem feedBytes_of_failure {front : Bytes} {reason : String}
    (h : (feedBytes rt c s front).failure = some reason) :
    (feedBytes rt c s front).session.closed = true ∧
      ∀ back, feedBytes rt c s (front ++ back) = feedBytes rt c s front := by
  refine ⟨?_, fun back => ?_⟩
  · induction front generalizing s with
    | nil => simp [feedBytes, feedDone] at h
    | cons byte rest ih =>
      obtain ⟨header, body, expected, hcases⟩ := feedByte_cases rt c s byte
      rcases hcases with hstep | ⟨verified, refusal, hstep⟩ |
        ⟨frame, frameLength, e, verified, after, -, -, hstep⟩
      · rw [feedBytes, hstep, feedDone_andThen] at h ⊢
        exact ih h
      · have hstop : feedBytes rt c s (byte :: rest) =
            feedFailure (s.withBuffer header body expected) verified refusal := by
          rw [feedBytes, hstep]
          exact FeedOutcome.andThen_of_failure rfl
        rw [hstop]
        rfl
      · rw [feedBytes, hstep, FeedOutcome.andThen_of_none rfl] at h ⊢
        exact ih h
  · rw [feedBytes_append]
    exact FeedOutcome.andThen_of_failure h

/-- `feed` on an open session reads its bytes one after the other. -/
theorem feed_eq_feedBytes (hs : Buffered s) (hopen : s.closed = false) (data : Bytes) :
    feed rt c s data = feedBytes rt c s data := by
  unfold feed
  rw [hopen, if_neg Bool.false_ne_true]
  exact feedLoop_eq_feedBytes data.length hs data le_rfl

end FrameSession

end SeekTalent.SourcePort
