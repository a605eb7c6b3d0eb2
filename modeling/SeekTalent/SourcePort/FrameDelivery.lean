import SeekTalent.SourcePort.FrameQueue
import SeekTalent.SourcePort.ReferenceAdapter

/-!
# A frame of the peer

A frame of the peer is decoded to the envelope it was encoded from (`decodeEnvelope_sent`), under
what is assumed of the packages; fed whole to an endpoint that is between two frames, it is the one
tag that is verified and the one envelope that is accepted (`FrameSession.feed_framed`).
-/

namespace SeekTalent.SourcePort

open Foundation

/-- The envelope of a frame with the tag it was sent with. -/
def sentEnvelope {P : Type} (rt : WireRuntime) (frame : EncodedFrame P) : FrameEnvelope P :=
  { frame.envelope with authTag := hexdigest (rt.hmacSha256 frame.macKey frame.macInput) }

/-- An endpoint receives in the direction its peer sends in. -/
lemma receiveDirection_eq (role : EndpointRole) :
    role.receiveDirection = role.peer.sendDirection := by
  cases role <;> rfl

/-! ## What is assumed of the packages -/

/-- HMAC-SHA256 digests have 32 bytes, and the canonical text of a dictionary without floating-point
numbers is the strict JSON text of that dictionary. -/
structure WireRuntime.Lawful (rt : WireRuntime) : Prop where
  digestLength : ∀ key message, (rt.hmacSha256 key message).length = 32
  readsBack : ∀ d body, d.FloatFree → rt.canonicalJsonBytes d = .ok body →
    strictCanonicalJsonObject rt body = .ok d

/-- Strict validation accepts what it dumped: a validated envelope is the one it was validated from,
and its JSON text, with any tag of the right form, is validated to it. -/
structure LiepinSourceAdapter.Lawful (rt : WireRuntime) (adapter : LiepinSourceAdapter) : Prop where
  same : ∀ given e, adapter.validatePython given = some e → e = given
  reads : ∀ given e tag body, adapter.validatePython given = some e → isSha256 tag = true →
    rt.canonicalJsonBytes (FrameSession.withAuthTag
      (FrameSession.unsignedDump (liepinSourceContract adapter) e) tag) = .ok body →
    adapter.validateJson body = some { e with authTag := tag }

/-- The reference runtime is lawful. -/
lemma lawful_referenceRuntime : referenceRuntime.Lawful where
  digestLength := length_hmacSha256
  readsBack := fun _ _ _ h => strictCanonicalJsonObject_reference h

/-- The adapter of one envelope is lawful. -/
lemma lawful_sampleAdapter : sampleAdapter.Lawful referenceRuntime where
  same := by
    intro given e h
    simp only [sampleAdapter] at h
    split_ifs at h
    exact (Option.some.inj h).symm
  reads := fun _ _ _ _ h _ hbody => validateJson_sampleAdapter h hbody

/-! ## Decoding a frame of the peer -/

section Decoding

variable {P Q S : Type} {rt : WireRuntime} {c : FrameContract P Q S} {s : FrameSession Q S}

/-- A frame that an endpoint of the session encoded under its key. -/
def EncodedBy (rt : WireRuntime) (c : FrameContract P Q S) (sessionId : String)
    (protocolMinor : Int) (role : EndpointRole) (key : Bytes) (frame : EncodedFrame P) : Prop :=
  ∃ (s : FrameSession Q S) (given : FrameEnvelope P), s.role = role ∧ s.sessionId = sessionId ∧
    s.protocolMinor = protocolMinor ∧ s.sendKey = key ∧
    c.validatePython given = some frame.envelope ∧ s.OutboundContext c frame.envelope ∧
    s.encodeEnvelope rt c frame.envelope = .ok frame

/-- The dump has no tag. -/
lemma get?_unsignedDump (e : FrameEnvelope P) :
    (FrameSession.unsignedDump c e).get? "auth_tag" = none := by
  rw [FrameSession.unsignedDump, JsonDict.get?_ofMembers]
  rfl

/-- Adding a tag and removing it. -/
lemma erase_withAuthTag (e : FrameEnvelope P) (tag : String) :
    (FrameSession.withAuthTag (FrameSession.unsignedDump c e) tag).erase "auth_tag" =
      FrameSession.unsignedDump c e :=
  JsonDict.erase_insert _ (get?_unsignedDump e)

/-- The tag that was added. -/
lemma get?_withAuthTag (d : JsonDict) (tag : String) :
    (FrameSession.withAuthTag d tag).get? "auth_tag" = some (.str tag) := by
  rw [FrameSession.withAuthTag, JsonDict.get?_insert, if_pos rfl]
  rfl

/-- A frame of the peer is decoded to the envelope it was encoded from. -/
theorem decodeEnvelope_sent (hrt : rt.Lawful)
    (hreads : ∀ given e tag body, c.validatePython given = some e → isSha256 tag = true →
      rt.canonicalJsonBytes (FrameSession.withAuthTag (FrameSession.unsignedDump c e) tag) =
        .ok body →
      c.validateJson body = some { e with authTag := tag })
    {sessionId : String} {protocolMinor : Int} {role : EndpointRole} {key : Bytes}
    {frame : EncodedFrame P} (hframe : EncodedBy rt c sessionId protocolMinor role key frame)
    (hfree : (FrameSession.unsignedDump c frame.envelope).FloatFree) (hrole : s.role.peer = role)
    (hsession : s.sessionId = sessionId) (hminor : s.protocolMinor = protocolMinor)
    (hkey : s.receiveKey = key) :
    ∃ body, frame.frame = toBytesBig 4 body.length ++ body ∧ 0 < body.length ∧
      body.length ≤ c.maxFrameBytes ∧
      s.decodeEnvelope rt c body body.length =
        .ok (sentEnvelope rt frame, ⟨frame.macKey, frame.macInput⟩) := by
  obtain ⟨sender, given, hsenderRole, hsenderSession, hsenderMinor, hsenderKey, hvalid, hcontext,
    hencode⟩ := hframe
  obtain ⟨unsignedBody, zeroTagBody, body, hencodes⟩ := FrameSession.encodeEnvelope_spec hencode
  have htaggedFree : (FrameSession.withAuthTag (FrameSession.unsignedDump c frame.envelope)
      (hexdigest (rt.hmacSha256 frame.macKey frame.macInput))).FloatFree :=
    hfree.insert "auth_tag" trivial
  have hread := hrt.readsBack _ _ htaggedFree hencodes.tagged
  refine ⟨body, hencodes.frame, ?_, by rw [hencodes.sameLength]; exact hencodes.fits, ?_⟩
  · -- No dictionary has an empty text.
    rw [List.length_pos_iff]
    rintro rfl
    simp [strictCanonicalJsonObject, decodeUtf8, jsonLoads, scanValue, scanAtom, skipSpace,
      afterLiteral, nullLiteral, trueLiteral, falseLiteral, constantLiterals, scanNumber,
      scanInteger, scanDigits] at hread
  · have hpeer : s.role.receiveDirection = sender.role.sendDirection := by
      rw [receiveDirection_eq, hrole, hsenderRole]
    have hmac : frame.macInput = authInput s.sessionId s.role.receiveDirection
        (sentEnvelope rt frame).directionSeq body.length unsignedBody := by
      rw [hencodes.macInput, hpeer, hencodes.sameLength, hsession, hcontext.session, hsenderSession]
      rfl
    refine FrameSession.decodeEnvelope_eq_ok.mpr
      ⟨_, unsignedBody, zeroTagBody, hread, ?_, ?_, ?_, ?_, ?_, ?_, hencodes.sameLength.symm, ?_,
        ?_⟩
    · exact hreads given frame.envelope _ body hvalid
        (isSha256_hexdigest (hrt.digestLength _ _)) hencodes.tagged
    · exact hcontext.protocol
    · exact hcontext.minor.trans (hsenderMinor.trans hminor.symm)
    · exact hcontext.session.trans (hsenderSession.trans hsession.symm)
    · rw [erase_withAuthTag]
      exact hencodes.unsigned
    · rw [erase_withAuthTag]
      exact hencodes.zeroed
    · rw [hkey, ← hmac, hencodes.macKey, hsenderKey]
    · exact get?_withAuthTag _ _

end Decoding

/-! ## A whole frame -/

namespace FrameSession

variable {P Q S : Type} {rt : WireRuntime} {c : FrameContract P Q S} {s after : FrameSession Q S}
  {frame : EncodedFrame P} {body : Bytes} {e : FrameEnvelope P} {verified : VerifiedTag}

/-- A whole frame, fed between two frames to an open endpoint that decodes and accepts it. -/
theorem feed_framed (hopen : s.closed = false) (hheader : s.header = []) (hbody : s.body = [])
    (hnone : s.expectedBodyLength = none) (hframe : Framed c frame body)
    (hdecode : decodeEnvelope rt c s body body.length = .ok (e, verified))
    (haccept : acceptEnvelope c s e = .ok after) :
    feed rt c s frame.frame = ⟨after, [(e, (e.replyTo.bind s.pendingRequests.lookup).map
      PendingRequest.request)], [verified], none⟩ := by
  have hbuffered : Buffered s :=
    ⟨by simp [hheader], fun _ => hbody, fun _ h => by rw [hnone] at h; cases h⟩
  have hlength : fromBytesBig (toBytesBig 4 body.length) = body.length :=
    fromBytesBig_toBytesBig hframe.lt
  have hpos := hframe.pos
  have hfits := hframe.fits
  have hsame : s.withBuffer [] [] none = s := by
    obtain ⟨⟩ := s
    simp only at hheader hbody hnone
    subst hheader hbody hnone
    rfl
  have hbodyStep : acceptBody rt c (s.withBuffer [] [] none) body body.length =
      ⟨after, [(e, (e.replyTo.bind s.pendingRequests.lookup).map PendingRequest.request)],
        [verified], none⟩ := by
    rw [hsame, acceptBody, hdecode]
    simp only [haccept]
  rw [feed_eq_feedBytes hbuffered hopen, hframe.frame,
    feedBytes_openBody hnone _ body (by simp [hheader]) (by simp [hheader, length_toBytesBig]),
    hheader, List.nil_append, openBody, hlength, if_neg (by omega), if_neg (by omega),
    feedDone_andThen]
  conv_lhs => rw [← List.append_nil body]
  rw [feedBytes_acceptBody rfl body [] (by simpa [hbody] using hpos) (by simp [hbody])]
  simp only [hbody, List.nil_append, List.append_nil]
  refine (congrArg (fun outcome => outcome.andThen fun next => feedBytes rt c next [])
    hbodyStep).trans ?_
  rw [FeedOutcome.andThen_of_none rfl]
  simp [feedBytes, feedDone]

end FrameSession

/-! ## The sample on its way -/

/-- The payload of the sample has no floating-point number. -/
lemma floatFree_sampleCall : sampleCall.payload.dump.FloatFree := by
  simp [sampleCall, sampleIdentity, sampleDelivery, sampleRequest, LiepinSourcePayload.dump,
    dumpSubmit, OperationIdentityV1.dump, DispatchDeliveryV1.dump, DispatchAuthorizationV1.dump,
    LiepinDetailsRequest.dump, dumpText, Json.FloatFree, Json.FloatFreeMembers]

/-- The main endpoint sends the sample. -/
lemma sendsSample_main : SendsSample (sampleEndpoint .main) :=
  ⟨rfl, rfl, rfl, rfl, rfl, rfl, rfl⟩

/-- The sample arrives: the sidecar, fed the frame of the main endpoint, verifies its tag and
accepts its envelope. -/
theorem exists_feed_sample :
    ∃ frame sent accepted received,
      (sampleEndpoint .main).encode referenceRuntime (liepinSourceContract sampleAdapter)
        sampleEnvelope = (.ok frame, sent) ∧
      (sampleEndpoint .sidecar).feed referenceRuntime
      (liepinSourceContract sampleAdapter) frame.frame =
        ⟨accepted, [(sentEnvelope referenceRuntime frame, received)],
          [⟨frame.macKey, frame.macInput⟩], none⟩ := by
  obtain ⟨frame, sent, hopen⟩ := exists_encodeOpen_sample sendsSample_main
  obtain ⟨e, -, -, hvalid, hcontext, -, hencode, -⟩ := FrameSession.encodeOpen_eq_ok.mp hopen
  obtain rfl : e = sampleEnvelope := lawful_sampleAdapter.same _ _ hvalid
  obtain ⟨_, _, _, hencodes⟩ := FrameSession.encodeEnvelope_spec hencode
  have henvelope : frame.envelope = sampleEnvelope := hencodes.envelope
  have hfree : (FrameSession.unsignedDump (liepinSourceContract sampleAdapter)
      frame.envelope).FloatFree := by
    rw [henvelope]
    exact JsonDict.floatFree_ofMembers
      ⟨trivial, trivial, trivial, trivial, trivial, trivial, trivial, trivial, trivial,
        floatFree_sampleCall, trivial⟩
  rw [← henvelope] at hvalid hcontext hencode
  obtain ⟨body, hframe, hpos, hfits, hdecode⟩ := decodeEnvelope_sent (s := sampleEndpoint .sidecar)
    lawful_referenceRuntime lawful_sampleAdapter.reads
    ⟨sampleEndpoint .main, _, rfl, rfl, rfl, rfl, hvalid, hcontext, hencode⟩ hfree rfl rfl rfl rfl
  have hinbound : FrameSession.InboundContext (liepinSourceContract sampleAdapter)
      (sampleEndpoint .sidecar) (sentEnvelope referenceRuntime frame) := by
    refine ⟨?_, by decide, hcontext.messageType, hcontext.shape, ?_⟩
    · rw [sentEnvelope, henvelope]
      rfl
    · simp [FrameSession.requireNewMessageId, sampleEndpoint, liepinSourceContract]
  obtain ⟨hreply, pendingRequests, hpending⟩ := transition_sample
    (s := sampleEndpoint .sidecar) (e := sentEnvelope referenceRuntime frame) rfl
    (by rw [sentEnvelope, henvelope]) (by rw [sentEnvelope, henvelope])
  refine ⟨frame, sent, _, _, ?_, FrameSession.feed_framed rfl rfl rfl rfl
    ⟨hframe, hpos, hfits⟩ hdecode (FrameSession.acceptEnvelope_eq_ok.mpr
      ⟨hinbound, none, pendingRequests, hreply, hpending, rfl⟩)⟩
  rw [FrameSession.encode, if_neg (by decide), hopen]

end SeekTalent.SourcePort
