import SeekTalent.SourcePort.FrameQueue
import SeekTalent.SourcePort.PendingTables
import SeekTalent.SourcePort.SourceLink

/-!
# Honest endpoints agree

The law of a link of two honest endpoints: what one of them encoded the other accepts, in order and
unchanged, as long as it is open, and it closes only through a failed call of its own.  The proof is
a simulation.  `LogSound` is what holds of the frames that were encoded, whatever the two endpoints
did with them: each reply answers a request that is pending once the replies before it are settled,
and each submit found room in a table that the replies sent since then only emptied.  `EndpointAt`
ties an open endpoint to the logs: its table is the effect of its own frames and of those it has
accepted.
-/

namespace SeekTalent.SourcePort

open Foundation

/-- The envelopes of frames. -/
def envelopesOf (frames : List SourceFrame) : List LiepinSourceEnvelope :=
  frames.map EncodedFrame.envelope

@[simp] lemma envelopesOf_append (front back : List SourceFrame) :
    envelopesOf (front ++ back) = envelopesOf front ++ envelopesOf back :=
  List.map_append

/-- The table of an endpoint that has sent some envelopes and received others. -/
def tableAt : EndpointRole → List LiepinSourceEnvelope → List LiepinSourceEnvelope → PendingTable
  | .main, own, received => tableOf own received
  | .sidecar, own, received => tableOf received own

/-- What the session is created with. -/
structure SourceSetup where
  rt : WireRuntime
  adapter : LiepinSourceAdapter
  sessionId : String
  protocolMinor : Int
  key : EndpointRole → Bytes

namespace SourceSetup

variable (setup : SourceSetup)

/-- The contract of both endpoints. -/
abbrev contract : FrameContract LiepinSourcePayload SourcePending ReplyState :=
  liepinSourceContract setup.adapter

/-- What holds of the frames that were encoded. -/
structure LogSound (log : EndpointRole → List SourceFrame) : Prop where
  encoded : ∀ role, ∀ frame ∈ log role,
    EncodedBy setup.rt setup.contract setup.sessionId setup.protocolMinor role (setup.key role)
    frame
  floatFree : ∀ role, ∀ frame ∈ log role,
    (FrameSession.unsignedDump setup.contract frame.envelope).FloatFree
  typed : ∀ role, ∀ frame ∈ log role, Typed frame.envelope
  numbered : ∀ role before frame, before ++ [frame] <+: log role →
    frame.envelope.directionSeq = before.length + 1
  distinct : ∀ role, ((envelopesOf (log role ++ log role.peer)).map FrameEnvelope.messageId).Nodup
  few : ∀ role, (log role).length + (log role.peer).length ≤ 65536
  answered : ∀ before frame, before ++ [frame] <+: log .sidecar →
    Answered (tableOf (envelopesOf (log .main)) (envelopesOf before)) frame.envelope
  room : ∀ before frame, before ++ [frame] <+: log .main → ∃ ids : List String, ids.length < 256 ∧
    ∀ id, tableOf (envelopesOf before) (envelopesOf (log .sidecar)) id ≠ none → id ∈ ids

/-- What holds of an open endpoint that has sent some frames and accepted some frames of its
peer. -/
structure EndpointAt (role : EndpointRole) (s : LiepinSourceSession) (own past : List SourceFrame) :
    Prop where
  plays : s.role = role
  sessionId : s.sessionId = setup.sessionId
  protocolMinor : s.protocolMinor = setup.protocolMinor
  sendKey : s.sendKey = setup.key role
  receiveKey : s.receiveKey = setup.key role.peer
  isOpen : s.closed = false
  nextSend : s.nextSendSequence = own.length + 1
  nextReceive : s.nextReceiveSequence = past.length + 1
  messageIds : s.messageIds.Perm ((envelopesOf (own ++ past)).map FrameEnvelope.messageId)
  pending : s.pendingRequests.lookup = tableAt role (envelopesOf own) (envelopesOf past)
  -- A reply that the endpoint knows answers a submit that it knows.
  known : ∀ reply ∈ envelopesOf (if role = .main then past else own),
    ∃ submit ∈ envelopesOf (if role = .main then own else past),
      reply.replyTo = some submit.messageId

end SourceSetup

/-! ## What the log says of its envelopes -/

section Log

variable {setup : SourceSetup} {log : EndpointRole → List SourceFrame}

namespace SourceSetup.LogSound

/-- The main endpoint sends submits. -/
lemma submits (h : setup.LogSound log) :
    ∀ e ∈ envelopesOf (log .main), pendingFromRequest e ≠ none := by
  intro e he
  obtain ⟨frame, hframe, rfl⟩ := List.mem_map.mp he
  obtain ⟨s, _, hrole, _, _, _, _, hcontext, _⟩ := h.encoded .main frame hframe
  have htype := hcontext.messageType
  rw [FrameSession.outboundMessageTypes, if_pos hrole] at htype
  have hsome := (mem_requestMessageTypes setup.adapter (h.typed .main frame hframe)).mp htype
  exact Option.isSome_iff_ne_none.mp hsome

/-- A frame of the sidecar answers a request that is pending once the replies before it are
settled. -/
lemma answered_of_mem (h : setup.LogSound log) {frame : SourceFrame} (hmem : frame ∈ log .sidecar) :
    ∃ before, before <+: log .sidecar ∧
      Answered (tableOf (envelopesOf (log .main)) (envelopesOf before)) frame.envelope := by
  obtain ⟨before, after, hsplit⟩ := List.append_of_mem hmem
  exact ⟨before, ⟨frame :: after, hsplit.symm⟩, h.answered before frame ⟨after, by simp [hsplit]⟩⟩

/-- The sidecar sends replies. -/
lemma replies (h : setup.LogSound log) :
    ∀ e ∈ envelopesOf (log .sidecar), pendingFromRequest e = none := by
  intro e he
  obtain ⟨frame, hframe, rfl⟩ := List.mem_map.mp he
  obtain ⟨before, -, _, pending, _, -, -, hvalid⟩ := h.answered_of_mem hframe
  obtain ⟨hsubmit, -⟩ := validateReply_eq_ok hvalid
  rw [← Option.not_isSome_iff_eq_none, pendingFromRequest_isSome, hsubmit]
  exact Bool.false_ne_true

/-- A reply answers a submit. -/
lemma answers (h : setup.LogSound log) :
    ∀ e ∈ envelopesOf (log .sidecar), ∃ submit ∈ envelopesOf (log .main),
      e.replyTo = some submit.messageId := by
  intro e he
  obtain ⟨frame, hframe, rfl⟩ := List.mem_map.mp he
  obtain ⟨before, hbefore, replyTo, pending, _, hto, hpending, -⟩ := h.answered_of_mem hframe
  have hreplies : ∀ e ∈ envelopesOf before, pendingFromRequest e = none := fun e he =>
    h.replies e ((hbefore.map EncodedFrame.envelope).subset he)
  obtain ⟨submit, hmem, hid⟩ := exists_submit h.submits hreplies (by rw [hpending]; simp)
  exact ⟨submit, hmem, by rw [hto, hid]⟩

end SourceSetup.LogSound

/-- A reply that names a submit with another id does not name this one. -/
lemma ignores_of_known {replies submits : List LiepinSourceEnvelope} {id : String}
    (hreplies : ∀ e ∈ replies, pendingFromRequest e = none)
    (hknown : ∀ e ∈ replies, ∃ submit ∈ submits, e.replyTo = some submit.messageId)
    (hfresh : ∀ submit ∈ submits, submit.messageId ≠ id) : ∀ e ∈ replies, Ignores id e := by
  intro e he
  refine ⟨fun h => absurd (hreplies e he) h, fun _ hto => ?_⟩
  obtain ⟨submit, hmem, hsubmit⟩ := hknown e he
  rw [hto] at hsubmit
  exact hfresh submit hmem (Option.some.inj hsubmit).symm

/-- More submits leave an answer an answer. -/
lemma Answered.append {submits later replies : List LiepinSourceEnvelope} {e : LiepinSourceEnvelope}
    (hsubmits : ∀ e ∈ submits, pendingFromRequest e ≠ none)
    (hlater : ∀ e ∈ later, pendingFromRequest e ≠ none)
    (hreplies : ∀ e ∈ replies, pendingFromRequest e = none)
    (hfresh : ∀ submit ∈ submits, ∀ new ∈ later, new.messageId ≠ submit.messageId)
    (h : Answered (tableOf submits replies) e) :
    Answered (tableOf (submits ++ later) replies) e := by
  obtain ⟨replyTo, pending, reply, hto, hpending, hvalid⟩ := h
  obtain ⟨submit, hmem, rfl⟩ := exists_submit hsubmits hreplies (by rw [hpending]; simp)
  refine ⟨submit.messageId, pending, reply, hto, ?_, hvalid⟩
  rw [tableOf_append_of_ne hlater (hfresh submit hmem)]
  exact hpending

/-- More replies open nothing. -/
lemma tableOf_append_ne_none {submits replies later : List LiepinSourceEnvelope} {id : String}
    (hlater : ∀ e ∈ later, pendingFromRequest e = none)
    (h : tableOf submits (replies ++ later) id ≠ none) : tableOf submits replies id ≠ none := by
  intro hnone
  refine h ?_
  unfold tableOf
  rw [settleAll_append]
  exact settleAll_none hlater hnone

end Log

/-! ## Accepting the next frame -/

section Accept

variable {setup : SourceSetup} {log : EndpointRole → List SourceFrame} {role : EndpointRole}
  {s : LiepinSourceSession} {past queue : List SourceFrame} {frame : SourceFrame}

/-- The message id of the next frame is new to the endpoint. -/
lemma SourceSetup.LogSound.fresh_next (hlog : setup.LogSound log)
    (hcoming : log role.peer = past ++ frame :: queue) :
    ∀ e ∈ envelopesOf (log role ++ past), e.messageId ≠ frame.envelope.messageId := by
  intro e he heq
  have hdistinct := hlog.distinct role
  rw [hcoming, ← List.append_assoc, envelopesOf_append, List.map_append,
    List.nodup_append] at hdistinct
  refine hdistinct.2.2 _ (List.mem_map_of_mem he) frame.envelope.messageId ?_ heq
  exact List.mem_map_of_mem (List.mem_map_of_mem List.mem_cons_self)

/-- The table of an endpoint is ready for the next frame of its peer. -/
lemma SourceSetup.EndpointAt.ready (hlog : setup.LogSound log)
    (hs : setup.EndpointAt role s (log role) past)
    (hcoming : log role.peer = past ++ frame :: queue) :
    Ready s.pendingRequests frame.envelope := by
  have hnext : past ++ [frame] <+: log role.peer := ⟨queue, by simp [hcoming]⟩
  have hmem : frame.envelope ∈ envelopesOf (log role.peer) :=
    List.mem_map_of_mem (hnext.subset (by simp))
  have hpending := hs.pending
  cases role with
  | main =>
    rw [Ready, hlog.replies _ hmem]
    have hanswered := hlog.answered past frame hnext
    rw [tableAt] at hpending
    rwa [hpending]
  | sidecar =>
    obtain ⟨request, hrequest⟩ := Option.ne_none_iff_exists'.mp (hlog.submits _ hmem)
    obtain ⟨ids, hlength, hids⟩ := hlog.room past frame hnext
    rw [Ready, hrequest]
    have hsubset : s.pendingRequests.keys ⊆ ids := by
      intro id hid
      refine hids id ?_
      rw [tableAt] at hpending
      rw [← hpending]
      exact Option.isSome_iff_ne_none.mp (AList.lookup_isSome.mpr hid)
    have hle := (List.subperm_of_subset s.pendingRequests.keys_nodup hsubset).length_le
    exact lt_of_le_of_lt hle hlength

/-- What the next frame does to the table of an endpoint. -/
lemma SourceSetup.EndpointAt.settle_next (hlog : setup.LogSound log)
    (hs : setup.EndpointAt role s (log role) past)
    (hcoming : log role.peer = past ++ frame :: queue) :
    settle (tableAt role (envelopesOf (log role)) (envelopesOf past)) frame.envelope =
      tableAt role (envelopesOf (log role)) (envelopesOf (past ++ [frame])) := by
  have hmem : frame.envelope ∈ envelopesOf (log role.peer) := by
    rw [hcoming]
    exact List.mem_map_of_mem (by simp)
  cases role with
  | main =>
    rw [tableAt, tableAt, envelopesOf_append, tableOf, tableOf]
    exact (settleAll_concat _ _ _).symm
  | sidecar =>
    obtain ⟨request, hrequest⟩ := Option.ne_none_iff_exists'.mp (hlog.submits _ hmem)
    have hfresh : ∀ submit ∈ envelopesOf past, submit.messageId ≠ frame.envelope.messageId := by
      intro submit hsubmit
      refine hlog.fresh_next hcoming submit ?_
      rw [envelopesOf_append]
      exact List.mem_append_right _ hsubmit
    rw [tableAt, tableAt, envelopesOf_append]
    exact (tableOf_submit hrequest (ignores_of_known hlog.replies hs.known hfresh)).symm

/-- The replies that an endpoint knows go on answering submits that it knows. -/
lemma SourceSetup.EndpointAt.known_next (hlog : setup.LogSound log)
    (hs : setup.EndpointAt role s (log role) past)
    (hcoming : log role.peer = past ++ frame :: queue) :
    ∀ reply ∈ envelopesOf (if role = .main then past ++ [frame] else log role),
      ∃ submit ∈ envelopesOf (if role = .main then log role else past ++ [frame]),
        reply.replyTo = some submit.messageId := by
  have hmem : frame.envelope ∈ envelopesOf (log role.peer) := by
    rw [hcoming]
    exact List.mem_map_of_mem (by simp)
  have hknown := hs.known
  intro reply hreply
  cases role with
  | main =>
    rw [if_pos rfl, envelopesOf_append] at hreply
    rcases List.mem_append.mp hreply with hold | hnew
    · exact hknown reply hold
    · obtain rfl : reply = frame.envelope := by simpa [envelopesOf] using hnew
      exact hlog.answers _ hmem
  | sidecar =>
    obtain ⟨submit, hsubmit, hto⟩ := hknown reply hreply
    refine ⟨submit, ?_, hto⟩
    rw [if_neg (by decide), envelopesOf_append]
    exact List.mem_append_left _ hsubmit

/-- The next frame of the peer is decoded to the envelope that was sent, and accepted. -/
theorem SourceSetup.EndpointAt.accept (hrt : setup.rt.Lawful)
    (hadapter : setup.adapter.Lawful setup.rt)
    (hlog : setup.LogSound log) (hs : setup.EndpointAt role s (log role) past)
    (hcoming : log role.peer = past ++ frame :: queue) :
    ∃ body verified after, FrameSession.Framed setup.contract frame body ∧
      s.decodeEnvelope setup.rt setup.contract body body.length =
        .ok (sentEnvelope setup.rt frame, verified) ∧
      s.acceptEnvelope setup.contract (sentEnvelope setup.rt frame) = .ok after ∧
      setup.EndpointAt role after (log role) (past ++ [frame]) := by
  have hmem : frame ∈ log role.peer := by
    rw [hcoming]
    simp
  have hnext : past ++ [frame] <+: log role.peer := ⟨queue, by simp [hcoming]⟩
  obtain ⟨body, hframe, hpos, hfits, hdecode⟩ := decodeEnvelope_sent (s := s) hrt hadapter.reads
    (hlog.encoded _ frame hmem) (hlog.floatFree _ frame hmem) (by rw [hs.plays]) hs.sessionId
    hs.protocolMinor hs.receiveKey
  obtain ⟨sender, _, hsender, -, -, -, -, hcontext, -⟩ := hlog.encoded _ frame hmem
  -- The checks of `_accept_envelope`.
  have hfew := hlog.few role
  have hlength : (log role.peer).length = past.length + (queue.length + 1) := by simp [hcoming]
  have hinbound : FrameSession.InboundContext setup.contract s (sentEnvelope setup.rt frame) := by
    have hids : s.messageIds.length = (log role).length + past.length := by
      rw [hs.messageIds.length_eq]
      simp [envelopesOf]
    refine ⟨?_, ?_, ?_, hcontext.shape, ?_⟩
    · rw [hs.nextReceive]
      exact hlog.numbered _ past frame hnext
    · rw [hs.nextReceive]
      simp only [jsonSafeInteger]
      omega
    · have htypes : FrameSession.inboundMessageTypes setup.contract s.role =
          FrameSession.outboundMessageTypes setup.contract sender.role := by
        rw [hs.plays, hsender]
        cases role <;> rfl
      rw [htypes]
      exact hcontext.messageType
    · simp only [FrameSession.requireNewMessageId, bind_eq_ok, require_eq_ok]
      refine ⟨(), fun hold => ?_, ?_⟩
      · obtain ⟨e, he, heq⟩ := List.mem_map.mp (hs.messageIds.mem_iff.mp hold)
        exact hlog.fresh_next hcoming e he heq
      · rw [hids]
        show _ < 65536
        omega
  obtain ⟨reply, pendingRequests, hreply, hpending⟩ := transition_of_ready setup.adapter
    (hlog.typed _ frame hmem) (hs.ready hlog hcoming)
  obtain ⟨-, hsettle⟩ := settle_of_transition (hlog.typed _ frame hmem) hreply hpending
  refine ⟨body, _, _, ⟨hframe, hpos, hfits⟩, hdecode,
    FrameSession.acceptEnvelope_eq_ok.mpr ⟨hinbound, reply, pendingRequests, hreply, hpending, rfl⟩,
    ?_⟩
  refine ⟨hs.plays, hs.sessionId, hs.protocolMinor, hs.sendKey, hs.receiveKey, hs.isOpen,
    hs.nextSend, ?_, ?_, ?_, hs.known_next hlog hcoming⟩
  · rw [List.length_append, List.length_singleton, hs.nextReceive]
  · have hids : (envelopesOf (log role ++ (past ++ [frame]))).map FrameEnvelope.messageId =
        (envelopesOf (log role ++ past)).map FrameEnvelope.messageId ++
          [frame.envelope.messageId] := by
      simp [envelopesOf]
    rw [hids]
    exact (hs.messageIds.cons _).trans (List.perm_append_singleton _ _).symm
  · rw [← hs.settle_next hlog hcoming, ← hs.pending]
    exact hsettle

end Accept

/-! ## A delivery -/

section Deliver

variable {setup : SourceSetup} {log : EndpointRole → List SourceFrame} {role : EndpointRole}
  {s : LiepinSourceSession} {past coming : List SourceFrame}

/-- The frames that an endpoint encoded have admitted bodies. -/
lemma SourceSetup.LogSound.framed (hrt : setup.rt.Lawful) (hadapter : setup.adapter.Lawful setup.rt)
    (hlog : setup.LogSound log) (hs : setup.EndpointAt role s (log role) past) :
    ∀ frame ∈ log role.peer, ∃ body, FrameSession.Framed setup.contract frame body := by
  intro frame hmem
  obtain ⟨body, hframe, hpos, hfits, -⟩ := decodeEnvelope_sent (s := s) hrt hadapter.reads
    (hlog.encoded _ frame hmem) (hlog.floatFree _ frame hmem) (by rw [hs.plays]) hs.sessionId
    hs.protocolMinor hs.receiveKey
  exact ⟨body, hframe, hpos, hfits⟩

/-- A delivery of any number of bytes to an open endpoint is not refused; the frames it completes
are accepted as they were sent. -/
theorem SourceSetup.EndpointAt.deliver (hrt : setup.rt.Lawful)
    (hadapter : setup.adapter.Lawful setup.rt)
    (hlog : setup.LogSound log) (hs : setup.EndpointAt role s (log role) past)
    (hcoming : log role.peer = past ++ coming) {data rest : Bytes}
    (hawaits : s.Awaits (data ++ rest) coming) :
    (s.feed setup.rt setup.contract data).failure = none ∧ ∃ new left, coming = new ++ left ∧
      (s.feed setup.rt setup.contract data).accepted.map Prod.fst =
        new.map (sentEnvelope setup.rt) ∧
      (s.feed setup.rt setup.contract data).session.Awaits rest left ∧
      setup.EndpointAt role (s.feed setup.rt setup.contract data).session (log role)
        (past ++ new) := by
  -- The invariant of the stream: what was received is a part of what was to come.
  have hqueue := FrameSession.feedBytes_queue setup.rt setup.contract
    (fun s received queue => ∃ new, coming = new ++ queue ∧
      received = new.map (sentEnvelope setup.rt) ∧ setup.EndpointAt role s (log role) (past ++ new))
    (fun s _ _ _ _ _ ⟨new, hnew, hreceived, hat⟩ => ⟨new, hnew, hreceived, hat.plays, hat.sessionId,
      hat.protocolMinor, hat.sendKey, hat.receiveKey, hat.isOpen, hat.nextSend, hat.nextReceive,
      hat.messageIds, hat.pending, hat.known⟩)
    (by
      rintro s received frame queue ⟨new, hnew, rfl, hat⟩
      have hnext : log role.peer = past ++ new ++ frame :: queue := by
        rw [hcoming, hnew, List.append_assoc]
      obtain ⟨body, verified, after, hframe, hdecode, hafter, hat'⟩ :=
        hat.accept hrt hadapter hlog hnext
      exact ⟨body, _, verified, after, hframe, hdecode, hafter, new ++ [frame], by simp [hnew],
        by simp, by rwa [List.append_assoc] at hat'⟩)
    data hawaits ⟨[], rfl, rfl, by rwa [List.append_nil]⟩
  obtain ⟨left, hfailure, hleft, new, hnew, hreceived, hat⟩ := hqueue
  have hfeed : s.feed setup.rt setup.contract data =
      FrameSession.feedBytes setup.rt setup.contract s data :=
    FrameSession.feed_eq_feedBytes hawaits.buffered hs.isOpen data
  rw [hfeed]
  exact ⟨hfailure, new, left, hnew, hreceived, hleft, hat⟩

end Deliver

/-! ## A call of `encode` -/

section Encode

variable {setup : SourceSetup} {log : EndpointRole → List SourceFrame} {role : EndpointRole}
  {s after : LiepinSourceSession} {past coming : List SourceFrame} {call : EncodeCall}
  {frame : SourceFrame}

/-- What a call of one of the `encode_*` methods that succeeds did. -/
structure EncodesCall (setup : SourceSetup) (s after : LiepinSourceSession) (call : EncodeCall)
    (frame : SourceFrame) : Prop where
  isOpen : s.closed = false
  envelope : frame.envelope = s.buildEnvelope s.nextSendSequence call
  valid : setup.contract.validatePython frame.envelope = some frame.envelope
  context : s.OutboundContext setup.contract frame.envelope
  encodes : s.encodeEnvelope setup.rt setup.contract frame.envelope = .ok frame
  transition : ∃ reply pendingRequests,
    FrameSession.pendingFor setup.contract s frame.envelope = .ok reply ∧
    FrameSession.applyPendingTransition setup.contract s frame.envelope reply =
      .ok pendingRequests ∧
    after = { s with
      messageIds := frame.envelope.messageId :: s.messageIds
      pendingRequests := pendingRequests
      nextSendSequence := s.nextSendSequence + 1 }

/-- A call that succeeds. -/
theorem encodesCall_of_ok (hadapter : setup.adapter.Lawful setup.rt)
    (h : s.encodeCall setup.rt setup.adapter call = (.ok frame, after)) :
    EncodesCall setup s after call frame := by
  unfold LiepinSourceSession.encodeCall at h
  cases hclosed : s.closed with
  | true => simp [hclosed] at h
  | false =>
    unfold FrameSession.requireSendSequence at h
    by_cases hsequence : jsonSafeInteger ≤ s.nextSendSequence
    · simp [hclosed, hsequence] at h
    simp only [hclosed, Bool.false_eq_true, if_false, if_neg hsequence] at h
    cases hbuilt : setup.adapter.validatePython (s.buildEnvelope s.nextSendSequence call) with
    | none => simp [hbuilt] at h
    | some built =>
      obtain rfl := hadapter.same _ _ hbuilt
      simp only [hbuilt, FrameSession.encode, hclosed, Bool.false_eq_true, if_false] at h
      cases hopen : s.encodeOpen setup.rt setup.contract
        (s.buildEnvelope s.nextSendSequence call) with
      | error reason => simp [hopen] at h
      | ok result =>
        obtain ⟨encoded, after'⟩ := result
        simp only [hopen, Prod.mk.injEq, Except.ok.injEq] at h
        obtain ⟨rfl, rfl⟩ := h
        obtain ⟨validated, reply, pendingRequests, hvalid, hcontext, hreply, hencode, hpending,
            rfl⟩ :=
          FrameSession.encodeOpen_eq_ok.mp hopen
        obtain rfl := hadapter.same _ _ hvalid
        obtain ⟨_, _, _, hencodes⟩ := FrameSession.encodeEnvelope_spec hencode
        have henvelope := hencodes.envelope
        exact ⟨hclosed, henvelope, by rw [henvelope]; exact hvalid,
          by rw [henvelope]; exact hcontext, by rw [henvelope]; exact hencode, reply,
          pendingRequests, by rw [henvelope]; exact hreply,
          by rw [henvelope]; exact hpending, by rw [henvelope]⟩

/-- A call that fails closes the session. -/
theorem closed_of_encodeCall_error {reason : String}
    (h : s.encodeCall setup.rt setup.adapter call = (.error reason, after)) :
    after.closed = true := by
  unfold LiepinSourceSession.encodeCall at h
  cases hclosed : s.closed with
  | true =>
    simp only [hclosed, if_true, Prod.mk.injEq] at h
    rw [← h.2, hclosed]
  | false =>
    unfold FrameSession.requireSendSequence at h
    by_cases hsequence : jsonSafeInteger ≤ s.nextSendSequence
    · simp only [hclosed, Bool.false_eq_true, if_false, if_pos hsequence, Prod.mk.injEq] at h
      rw [← h.2]
      rfl
    simp only [hclosed, Bool.false_eq_true, if_false, if_neg hsequence] at h
    cases hbuilt : setup.adapter.validatePython (s.buildEnvelope s.nextSendSequence call) with
    | none =>
      simp only [hbuilt, Prod.mk.injEq] at h
      rw [← h.2]
      rfl
    | some built =>
      simp only [hbuilt, FrameSession.encode, hclosed, Bool.false_eq_true, if_false] at h
      cases hopen : s.encodeOpen setup.rt setup.contract built with
      | error refusal =>
        simp only [hopen, Prod.mk.injEq] at h
        rw [← h.2]
        rfl
      | ok result => simp [hopen] at h

/-- An encoded frame is a frame of its endpoint. -/
lemma EncodesCall.encodedBy (hcall : EncodesCall setup s after call frame)
    (hs : setup.EndpointAt role s (log role) past) :
    EncodedBy setup.rt setup.contract setup.sessionId setup.protocolMinor role
      (setup.key role) frame :=
  ⟨s, frame.envelope, hs.plays, hs.sessionId, hs.protocolMinor, hs.sendKey, hcall.valid,
    hcall.context, hcall.encodes⟩

/-- The message type of an encoded frame is that of its payload. -/
lemma EncodesCall.typed (hcall : EncodesCall setup s after call frame) : Typed frame.envelope := by
  rw [Typed, hcall.envelope]
  rfl

/-- An encoded frame without floating-point numbers in its payload has none at all. -/
lemma EncodesCall.floatFree (hcall : EncodesCall setup s after call frame)
    (hfree : call.payload.dump.FloatFree) :
    (FrameSession.unsignedDump setup.contract frame.envelope).FloatFree := by
  have htext : ∀ text : Option String, (text.elim Json.null Json.str).FloatFree := by
    rintro (_ | _) <;> trivial
  rw [FrameSession.unsignedDump, hcall.envelope]
  exact JsonDict.floatFree_ofMembers ⟨trivial, trivial, trivial, trivial, trivial, trivial, htext _,
    trivial, htext _, hfree, trivial⟩

/-- The main endpoint sends a submit. -/
lemma EncodesCall.submits (hcall : EncodesCall setup s after call frame) (hrole : s.role = .main) :
    pendingFromRequest frame.envelope ≠ none := by
  have htype := hcall.context.messageType
  rw [FrameSession.outboundMessageTypes, if_pos hrole] at htype
  have hsome := (mem_requestMessageTypes setup.adapter hcall.typed).mp htype
  exact Option.isSome_iff_ne_none.mp hsome

/-- The sidecar sends a reply. -/
lemma EncodesCall.replies (hcall : EncodesCall setup s after call frame)
    (hrole : s.role = .sidecar) : pendingFromRequest frame.envelope = none := by
  have htype := hcall.context.messageType
  rw [FrameSession.outboundMessageTypes, if_neg (by rw [hrole]; decide)] at htype
  have hdisjoint : ∀ messageType ∈ submitTypes, messageType ∉ replyTypes := by decide
  by_contra hsome
  have hrequest := (mem_requestMessageTypes setup.adapter hcall.typed).mpr
    (Option.isSome_iff_ne_none.mpr hsome)
  exact hdisjoint _ hrequest htype

/-- What an endpoint sends has its effect on the table. -/
lemma EncodesCall.settles (hcall : EncodesCall setup s after call frame) :
    Ready s.pendingRequests frame.envelope ∧
      after.pendingRequests.lookup = settle s.pendingRequests.lookup frame.envelope := by
  obtain ⟨reply, pendingRequests, hreply, hpending, rfl⟩ := hcall.transition
  exact settle_of_transition hcall.typed hreply hpending

/-- What is sent after a call is known to its endpoint. -/
lemma EncodesCall.known (hcall : EncodesCall setup s after call frame) (hlog : setup.LogSound log)
    (hs : setup.EndpointAt role s (log role) past) (hpast : past <+: log role.peer) :
    ∀ reply ∈ envelopesOf (if role = .main then past else log role ++ [frame]),
      ∃ submit ∈ envelopesOf (if role = .main then log role ++ [frame] else past),
        reply.replyTo = some submit.messageId := by
  have hknown := hs.known
  have hpending := hs.pending
  intro reply hreply
  cases role with
  | main =>
    obtain ⟨submit, hsubmit, hto⟩ := hknown reply hreply
    refine ⟨submit, ?_, hto⟩
    rw [if_pos rfl, envelopesOf_append]
    exact List.mem_append_left _ hsubmit
  | sidecar =>
    rw [if_neg (by decide), envelopesOf_append] at hreply
    rcases List.mem_append.mp hreply with hold | hnew
    · exact hknown reply hold
    · obtain rfl : reply = frame.envelope := by simpa [envelopesOf] using hnew
      obtain ⟨hready, -⟩ := hcall.settles
      rw [Ready, hcall.replies hs.plays] at hready
      obtain ⟨replyTo, found, _, hto, hfound, -⟩ := hready
      have hsubmits : ∀ e ∈ envelopesOf past, pendingFromRequest e ≠ none := fun e he =>
        hlog.submits e ((hpast.map EncodedFrame.envelope).subset he)
      rw [hpending, tableAt] at hfound
      obtain ⟨submit, hmem, hid⟩ := exists_submit hsubmits hlog.replies (by rw [hfound]; simp)
      exact ⟨submit, hmem, by rw [hto, hid]⟩

/-- What a call sends has its effect on the table of its endpoint. -/
lemma EncodesCall.pending (hcall : EncodesCall setup s after call frame) (hlog : setup.LogSound log)
    (hs : setup.EndpointAt role s (log role) past) (hpast : past <+: log role.peer)
    (hfresh : ∀ submit ∈ envelopesOf (log role), submit.messageId ≠ frame.envelope.messageId) :
    after.pendingRequests.lookup =
      tableAt role (envelopesOf (log role ++ [frame])) (envelopesOf past) := by
  obtain ⟨hready, hsettle⟩ := hcall.settles
  rw [hsettle, hs.pending, envelopesOf_append]
  cases role with
  | main =>
    obtain ⟨request, hrequest⟩ := Option.ne_none_iff_exists'.mp (hcall.submits hs.plays)
    have hreplies : ∀ e ∈ envelopesOf past, pendingFromRequest e = none := fun e he =>
      hlog.replies e ((hpast.map EncodedFrame.envelope).subset he)
    exact (tableOf_submit hrequest (ignores_of_known hreplies hs.known hfresh)).symm
  | sidecar =>
    rw [tableAt, tableAt, tableOf, tableOf]
    exact (settleAll_concat _ _ _).symm

/-- The endpoint after a call. -/
theorem EncodesCall.endpointAt (hcall : EncodesCall setup s after call frame)
    (hlog : setup.LogSound log) (hs : setup.EndpointAt role s (log role) past)
    (hpast : past <+: log role.peer)
    (hfresh : ∀ submit ∈ envelopesOf (log role), submit.messageId ≠ frame.envelope.messageId) :
    setup.EndpointAt role after (log role ++ [frame]) past := by
  have hpending := hcall.pending hlog hs hpast hfresh
  have hknown := hcall.known hlog hs hpast
  obtain ⟨reply, pendingRequests, -, -, rfl⟩ := hcall.transition
  refine ⟨hs.plays, hs.sessionId, hs.protocolMinor, hs.sendKey, hs.receiveKey, hs.isOpen, ?_,
    hs.nextReceive, ?_, hpending, hknown⟩
  · rw [List.length_append, List.length_singleton, hs.nextSend]
  · have hids : ((envelopesOf (log role ++ [frame] ++ past)).map FrameEnvelope.messageId).Perm
        (frame.envelope.messageId ::
          (envelopesOf (log role ++ past)).map FrameEnvelope.messageId) := by
      have hframes : (log role ++ [frame] ++ past).Perm (frame :: (log role ++ past)) := by
        rw [List.append_assoc]
        exact List.perm_middle
      exact (hframes.map EncodedFrame.envelope).map FrameEnvelope.messageId
    exact (hs.messageIds.cons _).trans hids.symm

/-- What holds of the frames of both endpoints and of a new one holds of all frames after it. -/
lemma forall_mem_update {p : EndpointRole → SourceFrame → Prop}
    (h : ∀ role, ∀ frame ∈ log role, p role frame) (hframe : p role frame) :
    ∀ other, ∀ f ∈ Function.update log role (log role ++ [frame]) other, p other f := by
  intro other f hf
  by_cases heq : other = role
  · subst heq
    rw [Function.update_self] at hf
    rcases List.mem_append.mp hf with hold | hnew
    · exact h other f hold
    · obtain rfl := List.mem_singleton.mp hnew
      exact hframe
  · rw [Function.update_of_ne heq] at hf
    exact h other f hf

/-- An endpoint is not its own peer. -/
lemma EndpointRole.peer_ne (role : EndpointRole) : role.peer ≠ role := by
  cases role <;> decide

/-- There is no third endpoint. -/
lemma EndpointRole.eq_or_eq_peer (role other : EndpointRole) :
    other = role ∨ other = role.peer := by
  cases role <;> cases other <;> decide

/-- The message ids after a call are distinct. -/
lemma SourceSetup.LogSound.distinct_encode (hlog : setup.LogSound log)
    (hfresh : ∀ other, ∀ e ∈ envelopesOf (log other), e.messageId ≠ frame.envelope.messageId)
    (other : EndpointRole) :
    ((envelopesOf (Function.update log role (log role ++ [frame]) other ++
      Function.update log role (log role ++ [frame]) other.peer)).map
        FrameEnvelope.messageId).Nodup := by
  have hnew : ∀ r,
      ((envelopesOf (frame :: (log r ++ log r.peer))).map FrameEnvelope.messageId).Nodup := by
    intro r
    rw [envelopesOf, List.map_cons, List.map_cons]
    refine List.nodup_cons.mpr ⟨fun hmem => ?_, hlog.distinct r⟩
    obtain ⟨e, he, heq⟩ := List.mem_map.mp hmem
    rw [List.map_append] at he
    rcases List.mem_append.mp he with h | h
    · exact hfresh r e h heq
    · exact hfresh r.peer e h heq
  have hperm : ∀ frames, frames.Perm (frame :: (log other ++ log other.peer)) →
      ((envelopesOf frames).map FrameEnvelope.messageId).Nodup := by
    intro frames hframes
    have hids := (hframes.map EncodedFrame.envelope).map FrameEnvelope.messageId
    exact hids.nodup_iff.mpr (hnew other)
  refine hperm _ ?_
  rcases EndpointRole.eq_or_eq_peer role other with rfl | rfl
  · rw [Function.update_self, Function.update_of_ne other.peer_ne, List.append_assoc]
    exact List.perm_middle
  · have hpeer : role.peer.peer = role := by cases role <;> rfl
    rw [hpeer, Function.update_self, Function.update_of_ne role.peer_ne, ← List.append_assoc]
    exact List.perm_append_singleton frame _

/-- Each reply answers a pending request, after a call too. -/
lemma SourceSetup.LogSound.answered_encode (hlog : setup.LogSound log)
    (hs : setup.EndpointAt role s (log role) past) (hcoming : log role.peer = past ++ coming)
    (hcall : EncodesCall setup s after call frame)
    (hfresh : ∀ other, ∀ e ∈ envelopesOf (log other), e.messageId ≠ frame.envelope.messageId)
    {before : List SourceFrame} {reply : SourceFrame}
    (hreply : before ++ [reply] <+: Function.update log role (log role ++ [frame]) .sidecar) :
    Answered (tableOf (envelopesOf (Function.update log role (log role ++ [frame]) .main))
      (envelopesOf before)) reply.envelope := by
  cases role with
  | main =>
    rw [Function.update_of_ne (by decide)] at hreply
    have hbefore : ∀ e ∈ envelopesOf before, pendingFromRequest e = none := by
      intro e he
      have hinitial : before <+: log .sidecar := (List.prefix_append before [reply]).trans hreply
      exact hlog.replies e ((hinitial.map EncodedFrame.envelope).subset he)
    rw [Function.update_self, envelopesOf_append]
    refine (hlog.answered before reply hreply).append hlog.submits ?_ hbefore ?_
    · intro e he
      obtain rfl : e = frame.envelope := by simpa [envelopesOf] using he
      exact hcall.submits hs.plays
    · intro submit hsubmit e he
      obtain rfl : e = frame.envelope := by simpa [envelopesOf] using he
      exact (hfresh .main submit hsubmit).symm
  | sidecar =>
    rw [Function.update_self] at hreply
    rw [Function.update_of_ne (by decide)]
    rcases List.prefix_concat_iff.mp hreply with hnew | hold
    · obtain ⟨rfl, hframe⟩ := List.append_inj' hnew rfl
      obtain rfl := List.singleton_inj.mp hframe
      obtain ⟨hready, -⟩ := hcall.settles
      have hmain : log .main = past ++ coming := hcoming
      rw [Ready, hcall.replies hs.plays, hs.pending, tableAt] at hready
      have hsubmits := hlog.submits
      have hids := hlog.distinct .main
      rw [hmain, envelopesOf_append] at hsubmits
      rw [envelopesOf_append, List.map_append] at hids
      have hmainIds := hids.of_append_left
      rw [hmain, envelopesOf_append, List.map_append, List.nodup_append] at hmainIds
      rw [hmain, envelopesOf_append]
      refine hready.append (fun e he => hsubmits e (List.mem_append_left _ he))
        (fun e he => hsubmits e (List.mem_append_right _ he)) hlog.replies ?_
      intro submit hsubmit e he heq
      exact hmainIds.2.2 _ (List.mem_map_of_mem hsubmit) _ (List.mem_map_of_mem he) heq.symm
    · exact hlog.answered before reply hold

/-- Each submit found room, after a call too. -/
lemma SourceSetup.LogSound.room_encode (hlog : setup.LogSound log)
    (hs : setup.EndpointAt role s (log role) past) (hcoming : log role.peer = past ++ coming)
    (hcall : EncodesCall setup s after call frame) {before : List SourceFrame}
    {submit : SourceFrame}
    (hsubmit : before ++ [submit] <+: Function.update log role (log role ++ [frame]) .main) :
    ∃ ids : List String, ids.length < 256 ∧ ∀ id, tableOf (envelopesOf before)
      (envelopesOf (Function.update log role (log role ++ [frame]) .sidecar)) id ≠ none →
        id ∈ ids := by
  cases role with
  | main =>
    rw [Function.update_self] at hsubmit
    rw [Function.update_of_ne (by decide)]
    rcases List.prefix_concat_iff.mp hsubmit with hnew | hold
    · obtain ⟨rfl, hframe⟩ := List.append_inj' hnew rfl
      obtain ⟨hready, -⟩ := hcall.settles
      obtain ⟨request, hrequest⟩ := Option.ne_none_iff_exists'.mp (hcall.submits hs.plays)
      rw [Ready, hrequest] at hready
      have hpending := hs.pending
      rw [tableAt] at hpending
      have hsidecar : log .sidecar = past ++ coming := hcoming
      have hreplies := hlog.replies
      rw [hsidecar, envelopesOf_append] at hreplies ⊢
      refine ⟨s.pendingRequests.keys, hready, fun id hid => ?_⟩
      have hpast := tableOf_append_ne_none (fun e he => hreplies e (List.mem_append_right _ he)) hid
      rw [← hpending] at hpast
      exact AList.lookup_isSome.mp (Option.isSome_iff_ne_none.mpr hpast)
    · exact hlog.room before submit hold
  | sidecar =>
    rw [Function.update_of_ne (by decide)] at hsubmit
    rw [Function.update_self, envelopesOf_append]
    obtain ⟨ids, hlength, hids⟩ := hlog.room before submit hsubmit
    refine ⟨ids, hlength, fun id hid => hids id (tableOf_append_ne_none ?_ hid)⟩
    intro e he
    obtain rfl : e = frame.envelope := by simpa [envelopesOf] using he
    exact hcall.replies hs.plays

/-- The log after a call. -/
theorem SourceSetup.LogSound.encode (hlog : setup.LogSound log)
    (hs : setup.EndpointAt role s (log role) past) (hcoming : log role.peer = past ++ coming)
    (hcall : EncodesCall setup s after call frame)
    (hfresh : ∀ other, ∀ e ∈ envelopesOf (log other), e.messageId ≠ frame.envelope.messageId)
    (hfew : (log role).length + (log role.peer).length < 65536)
    (hfree : call.payload.dump.FloatFree) :
    setup.LogSound (Function.update log role (log role ++ [frame])) where
  encoded := forall_mem_update hlog.encoded (hcall.encodedBy hs)
  floatFree := forall_mem_update hlog.floatFree (hcall.floatFree hfree)
  typed := forall_mem_update hlog.typed hcall.typed
  numbered := by
    intro other before f hf
    by_cases heq : other = role
    · subst heq
      rw [Function.update_self] at hf
      rcases List.prefix_concat_iff.mp hf with hnew | hold
      · obtain ⟨rfl, hframe⟩ := List.append_inj' hnew rfl
        obtain rfl := List.singleton_inj.mp hframe
        rw [hcall.context.sequence, hs.nextSend]
      · exact hlog.numbered other before f hold
    · rw [Function.update_of_ne heq] at hf
      exact hlog.numbered other before f hf
  distinct := hlog.distinct_encode hfresh
  few := by
    intro other
    rcases EndpointRole.eq_or_eq_peer role other with rfl | rfl
    · rw [Function.update_self, Function.update_of_ne other.peer_ne, List.length_append,
        List.length_singleton]
      omega
    · have hpeer : role.peer.peer = role := by cases role <;> rfl
      rw [hpeer, Function.update_self, Function.update_of_ne role.peer_ne, List.length_append,
        List.length_singleton]
      omega
  answered := fun _ _ => hlog.answered_encode hs hcoming hcall hfresh
  room := fun _ _ => hlog.room_encode hs hcoming hcall

end Encode

end SeekTalent.SourcePort
