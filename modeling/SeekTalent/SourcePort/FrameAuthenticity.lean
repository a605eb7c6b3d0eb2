import SeekTalent.Foundation.Machine
import SeekTalent.SourcePort.FrameDelivery

/-!
# An adversary between the endpoints

Two endpoints of one session and an adversary that owns the wire: it decides when an endpoint
encodes an envelope, and it feeds an endpoint any bytes it likes.  Dropping, repeating, reordering,
reflecting, truncating, mutating and injecting frames are all ways to choose these bytes.

What the adversary cannot do is make a tag.  `NoForgery` says so of one event: every tag that an
endpoint verifies was computed, under the same key and for the same input, for a frame that some
endpoint has encoded.  The input names the direction, so a reflected frame fails even under equal
keys, and it names the sequence number, so each number admits one frame.
-/

namespace SeekTalent.SourcePort

open Foundation

variable {P Q S : Type}
variable {sessionId : String} {role : EndpointRole}
variable {body : Bytes}

/-- An envelope without its tag. -/
def FrameEnvelope.untagged (e : FrameEnvelope P) : FrameEnvelope P :=
  { e with authTag := zeroAuthTag }

/-- The two endpoints, the frames each has encoded and the envelopes each has accepted. -/
structure FramePair (P Q S : Type) where
  endpoint : EndpointRole → FrameSession Q S
  encoded : EndpointRole → List (EncodedFrame P)
  accepted : EndpointRole → List (FrameEnvelope P)

/-- A choice of the adversary. -/
inductive FrameEvent (P : Type) where
  | encode (role : EndpointRole) (envelope : FrameEnvelope P)
  | feed (role : EndpointRole) (data : Bytes)
  | feedEof (role : EndpointRole)
  | requireFrameBoundary (role : EndpointRole)

namespace FramePair

/-- Both endpoints of a session. -/
def create (c : FrameContract P Q S) (sessionId : String) (protocolMinor : Int)
    (mainToSidecarKey sidecarToMainKey : Bytes) : Except String (FramePair P Q S) := do
  let main ← FrameSession.create c .main sessionId protocolMinor mainToSidecarKey sidecarToMainKey
  let sidecar ←
    FrameSession.create c .sidecar sessionId protocolMinor mainToSidecarKey sidecarToMainKey
  return {
    endpoint := fun role => if role = .main then main else sidecar
    encoded := fun _ => []
    accepted := fun _ => [] }

/-- An endpoint moves on, having encoded some frames and accepted some envelopes. -/
def advance (w : FramePair P Q S) (role : EndpointRole) (s : FrameSession Q S)
    (sent : List (EncodedFrame P)) (received : List (FrameEnvelope P)) : FramePair P Q S where
  endpoint := Function.update w.endpoint role s
  encoded := Function.update w.encoded role (w.encoded role ++ sent)
  accepted := Function.update w.accepted role (w.accepted role ++ received)

variable (rt : WireRuntime) (c : FrameContract P Q S)

/-- One event. -/
def step (w : FramePair P Q S) : FrameEvent P → FramePair P Q S
  | .encode role envelope =>
    match (w.endpoint role).encode rt c envelope with
    | (.error _, after) => w.advance role after [] []
    | (.ok frame, after) => w.advance role after [frame] []
  | .feed role data =>
    let outcome := (w.endpoint role).feed rt c data
    w.advance role outcome.session [] (outcome.accepted.map Prod.fst)
  | .feedEof role => w.advance role (w.endpoint role).feedEof.2 [] []
  | .requireFrameBoundary role => w.advance role (w.endpoint role).requireFrameBoundary.2 [] []

/-- An endpoint has computed this tag for a frame that it encoded. -/
def Signed (w : FramePair P Q S) (tag : VerifiedTag) : Prop :=
  ∃ role, ∃ frame ∈ w.encoded role, frame.macKey = tag.macKey ∧ frame.macInput = tag.macInput

/-- HMAC-SHA256 is not forged by this event: the tags it verifies were computed before. -/
def NoForgery (w : FramePair P Q S) : FrameEvent P → Prop
  | .feed role data => ∀ tag ∈ ((w.endpoint role).feed rt c data).verified, w.Signed tag
  | _ => True

end FramePair

/-- Canonical JSON tells dictionaries apart. -/
def WireRuntime.Injective (rt : WireRuntime) : Prop :=
  ∀ a b canonical, rt.canonicalJsonBytes a = .ok canonical →
    rt.canonicalJsonBytes b = .ok canonical → a = b

/-- Strict JSON validation reads back what `model_dump` wrote of a validated envelope. -/
def FrameContract.ReadsBack (rt : WireRuntime) (c : FrameContract P Q S) : Prop :=
  ∀ given e tag body read, c.validatePython given = some e →
    rt.canonicalJsonBytes (FrameSession.withAuthTag (FrameSession.unsignedDump c e) tag) =
      .ok body →
    c.validateJson body = some read → read = { e with authTag := tag }

/-! ## The input of the tag -/

lemma length_lengthPrefix (value : Bytes) : (lengthPrefix value).length = 4 + value.length := by
  simp [lengthPrefix]

lemma length_sendDirection (role : EndpointRole) : role.sendDirection.length = 15 := by
  cases role <;> decide

/-- The two directions differ. -/
lemma sendDirection_inj {a b : EndpointRole} (h : a.sendDirection = b.sendDirection) : a = b := by
  have hne : mainToSidecar ≠ sidecarToMain := by decide
  cases a <;> cases b
  · rfl
  · exact absurd h hne
  · exact absurd h.symm hne
  · rfl

/-- A length prefix does not hide what it is put before. -/
lemma lengthPrefix_append_inj {a b rest more : Bytes} (hlength : a.length = b.length)
    (h : lengthPrefix a ++ rest = lengthPrefix b ++ more) : a = b ∧ rest = more := by
  have hsplit := List.append_inj h (by rw [length_lengthPrefix, length_lengthPrefix, hlength])
  obtain ⟨hprefixed, hrest⟩ := hsplit
  unfold lengthPrefix at hprefixed
  exact ⟨(List.append_inj hprefixed (by simp)).2, hrest⟩

/-- The input of a tag in one session names the sender, the sequence number and the unsigned
body. -/
theorem authInput_inj {a b : EndpointRole} {sequence number length size : Nat}
    {text : Bytes} (hsequence : sequence < 256 ^ 8) (hnumber : number < 256 ^ 8)
    (h : authInput sessionId a.sendDirection sequence length body =
      authInput sessionId b.sendDirection number size text) :
    a = b ∧ sequence = number ∧ body = text := by
  unfold authInput at h
  obtain ⟨-, h⟩ := lengthPrefix_append_inj rfl h
  obtain ⟨-, h⟩ := lengthPrefix_append_inj rfl h
  obtain ⟨hdirection, h⟩ := lengthPrefix_append_inj
    (by rw [length_sendDirection, length_sendDirection]) h
  obtain ⟨hsequences, h⟩ := List.append_inj h (by simp)
  obtain ⟨-, h⟩ := List.append_inj h (by simp)
  obtain ⟨-, hbody⟩ := List.append_inj h (by simp)
  exact ⟨sendDirection_inj hdirection, toBytesBig_inj hsequence hnumber hsequences, hbody⟩

/-! ## What an endpoint has sent and accepted -/

section Invariant

variable (rt : WireRuntime) (c : FrameContract P Q S)

/-- A frame that an endpoint of a session encoded. -/
structure SentFrame (sessionId : String) (role : EndpointRole) (frame : EncodedFrame P) : Prop where
  validated : ∃ given, c.validatePython given = some frame.envelope
  tag : frame.envelope.authTag = zeroAuthTag
  sequence : (frame.envelope.directionSeq : Int) < jsonSafeInteger
  signs : ∃ unsignedBody frameLength,
    rt.canonicalJsonBytes (FrameSession.unsignedDump c frame.envelope) = .ok unsignedBody ∧
    frame.macInput = authInput sessionId role.sendDirection frame.envelope.directionSeq frameLength
      unsignedBody

/-- The frames of an endpoint are numbered in the order in which it encoded them. -/
structure Sends (sessionId : String) (role : EndpointRole) (s : FrameSession Q S)
    (frames : List (EncodedFrame P)) : Prop where
  sent : ∀ frame ∈ frames, SentFrame rt c sessionId role frame
  numbered : ∀ index (h : index < frames.length),
    frames[index].envelope.directionSeq = index + 1
  next : s.closed = false → s.nextSendSequence = frames.length + 1

/-- The envelopes that an endpoint accepted are the first ones that its peer encoded. -/
structure Accepts (frames : List (EncodedFrame P)) (s : FrameSession Q S)
    (envelopes : List (FrameEnvelope P)) : Prop where
  begins : envelopes.map FrameEnvelope.untagged <+: frames.map EncodedFrame.envelope
  next : s.closed = false → s.nextReceiveSequence = envelopes.length + 1

/-- The invariant of a pair of endpoints. -/
structure FramePair.Authentic (sessionId : String) (w : FramePair P Q S) : Prop where
  role : ∀ role, (w.endpoint role).role = role
  session : ∀ role, (w.endpoint role).sessionId = sessionId
  buffered : ∀ role, (w.endpoint role).Buffered
  sends : ∀ role, Sends rt c sessionId role (w.endpoint role) (w.encoded role)
  accepts : ∀ role, Accepts (w.encoded role.peer) (w.endpoint role) (w.accepted role)

end Invariant

variable {rt : WireRuntime} {c : FrameContract P Q S} {sessionId : String}

variable {s : FrameSession Q S}

/-- An envelope that verifies under a tag computed for a frame of this session is the envelope of
that frame, and its peer encoded it. -/
theorem envelope_of_signed (hinjective : rt.Injective) (hreads : c.ReadsBack rt)
    {sender : EndpointRole} {frameLength : Nat}
    {e : FrameEnvelope P} {verified : VerifiedTag} {frame : EncodedFrame P}
    (hrole : s.role = role) (hsession : s.sessionId = sessionId)
    (hsequence : (e.directionSeq : Int) < jsonSafeInteger)
    (hdecode : s.decodeEnvelope rt c body frameLength = .ok (e, verified))
    (hframe : SentFrame rt c sessionId sender frame) (hinput : frame.macInput = verified.macInput) :
    sender = role.peer ∧ frame.envelope.directionSeq = e.directionSeq ∧
      e.untagged = frame.envelope := by
  obtain ⟨parsed, unsignedBody, zeroTagBody, hdecodes⟩ :=
    FrameSession.decodeEnvelope_eq_ok.mp hdecode
  obtain ⟨⟨given, hvalid⟩, hzero, hframeSequence, sentBody, sentLength, hsentBody, hmac⟩ := hframe
  have hsafe : jsonSafeInteger < (256 : Int) ^ 8 := by decide
  have hinputs := hinput
  rw [hmac, hdecodes.computed, hsession, hrole, receiveDirection_eq] at hinputs
  obtain ⟨hsender, hsequences, hbodies⟩ := authInput_inj (by omega) (by omega) hinputs
  -- The signed dictionary is the one that was parsed, so the body is the peer's text of it.
  have hsame : parsed.erase "auth_tag" = FrameSession.unsignedDump c frame.envelope :=
    hinjective _ _ _ hdecodes.unsigned (hbodies ▸ hsentBody)
  have hparsed : parsed = FrameSession.withAuthTag (FrameSession.unsignedDump c frame.envelope)
      (hexdigest (rt.hmacSha256 verified.macKey verified.macInput)) := by
    rw [FrameSession.withAuthTag, ← hsame]
    exact (JsonDict.insert_erase hdecodes.tag).symm
  have hbody := canonicalJsonBytes_of_strict hdecodes.canonical
  rw [hparsed] at hbody
  have hread := hreads given frame.envelope _ body e hvalid hbody hdecodes.valid
  refine ⟨hsender, hsequences, ?_⟩
  rw [hread, FrameEnvelope.untagged]
  show { frame.envelope with authTag := zeroAuthTag } = frame.envelope
  rw [← hzero]

variable {envelopes : List (FrameEnvelope P)}

/-- One envelope accepted under a tag that was computed for some frame. -/
theorem Accepts.acceptEnvelope (hinjective : rt.Injective) (hreads : c.ReadsBack rt)
    {w : FramePair P Q S}
    (hsent : ∀ sender, Sends rt c sessionId sender (w.endpoint sender) (w.encoded sender))
    {after : FrameSession Q S} (hrole : s.role = role) (hsession : s.sessionId = sessionId)
    (hopen : s.closed = false) (h : Accepts (w.encoded role.peer) s envelopes) {frameLength : Nat}
    {e : FrameEnvelope P} {verified : VerifiedTag} (hsigned : w.Signed verified)
    (hdecode : s.decodeEnvelope rt c body frameLength = .ok (e, verified))
    (haccept : s.acceptEnvelope c e = .ok after) :
    Accepts (w.encoded role.peer) after (envelopes ++ [e]) := by
  obtain ⟨hcontext, _, _, -, -, rfl⟩ := FrameSession.acceptEnvelope_eq_ok.mp haccept
  obtain ⟨sender, frame, hmem, -, hinput⟩ := hsigned
  have hnext : s.nextReceiveSequence = envelopes.length + 1 := h.next hopen
  have hsequence : (e.directionSeq : Int) < jsonSafeInteger := by
    rw [hcontext.sequence]
    exact hcontext.notExhausted
  obtain ⟨rfl, hnumber, henvelope⟩ := envelope_of_signed hinjective hreads hrole hsession hsequence
    hdecode ((hsent sender).sent frame hmem) hinput
  -- The sequence number is the position of the frame among those of the peer.
  obtain ⟨index, hindex, hframe⟩ := List.mem_iff_getElem.mp hmem
  have hposition : index = envelopes.length := by
    have hseq := (hsent role.peer).numbered index hindex
    have hexpected := hcontext.sequence
    rw [hframe] at hseq
    omega
  subst hposition
  refine ⟨?_, fun _ => by simp [hnext]⟩
  obtain ⟨rest, hrest⟩ := h.begins
  have hlength : envelopes.length < ((w.encoded role.peer).map EncodedFrame.envelope).length := by
    simpa using hindex
  have hhead : ((w.encoded role.peer).map EncodedFrame.envelope)[envelopes.length] =
      e.untagged := by
    rw [List.getElem_map, hframe, henvelope]
  have hdrop : rest = e.untagged :: rest.drop 1 := by
    have hcut := List.drop_eq_getElem_cons hlength
    rw [hhead, ← hrest] at hcut
    have hleft : (envelopes.map FrameEnvelope.untagged ++ rest).drop envelopes.length = rest := by
      rw [List.drop_append_of_le_length (by simp)]
      simp
    rw [hleft] at hcut
    rw [hcut]
    rfl
  refine ⟨rest.drop 1, ?_⟩
  rw [List.map_append, List.append_assoc, ← hrest]
  conv_rhs => rw [hdrop]
  rfl

/-! ## Runs -/

namespace FrameSession

lemma buffered_close (s : FrameSession Q S) (reason : Option String) : (s.close reason).Buffered :=
  ⟨by simp [close], fun _ => rfl, fun _ h => by simp [close] at h⟩

end FrameSession

variable {frames : List (EncodedFrame P)}

/-- Closing loses nothing that was sent. -/
lemma Sends.close (h : Sends rt c sessionId role s frames) (reason : Option String) :
    Sends rt c sessionId role (s.close reason) frames :=
  ⟨h.sent, h.numbered, fun hopen => by simp [FrameSession.close] at hopen⟩

/-- Closing loses nothing that was accepted. -/
lemma Accepts.close
    (h : Accepts frames s envelopes) (reason : Option String) :
    Accepts frames (s.close reason) envelopes :=
  ⟨h.begins, fun hopen => by simp [FrameSession.close] at hopen⟩

/-- What the peer sends next does not touch what was accepted. -/
lemma Accepts.append (h : Accepts frames s envelopes)
    (sent : List (EncodedFrame P)) : Accepts (frames ++ sent) s envelopes := by
  refine ⟨h.begins.trans ?_, h.next⟩
  rw [List.map_append]
  exact List.prefix_append _ _

/-- One more frame of an endpoint. -/
theorem Sends.encodeOpen {after : FrameSession Q S}
    {envelope : FrameEnvelope P} {frame : EncodedFrame P}
    (h : Sends rt c sessionId role s frames) (hrole : s.role = role)
    (hsession : s.sessionId = sessionId) (hopen : s.closed = false)
    (hencode : s.encodeOpen rt c envelope = .ok (frame, after)) :
    Sends rt c sessionId role after (frames ++ [frame]) := by
  obtain ⟨validated, _, _, hvalid, hcontext, -, hencoded, -, rfl⟩ :=
    FrameSession.encodeOpen_eq_ok.mp hencode
  obtain ⟨unsignedBody, zeroTagBody, _, hframe⟩ := FrameSession.encodeEnvelope_spec hencoded
  have hnext : s.nextSendSequence = frames.length + 1 := h.next hopen
  have henvelope : frame.envelope = validated := hframe.envelope
  have hsequence : validated.directionSeq = s.nextSendSequence := hcontext.sequence
  refine ⟨?_, ?_, fun _ => by simp [hnext]⟩
  · intro other hother
    rcases List.mem_append.mp hother with hold | hnew
    · exact h.sent other hold
    · obtain rfl := List.mem_singleton.mp hnew
      refine ⟨⟨envelope, by rw [henvelope]; exact hvalid⟩, by rw [henvelope]; exact hcontext.tag,
        ?_, unsignedBody, zeroTagBody.length, by rw [henvelope]; exact hframe.unsigned, ?_⟩
      · rw [henvelope, hsequence]
        exact hcontext.notExhausted
      · rw [hframe.macInput, henvelope, hrole, hcontext.session, hsession]
  · intro index hindex
    by_cases hold : index < frames.length
    · rw [List.getElem_append_left hold]
      exact h.numbered index hold
    · have hlast : index = frames.length := by
        rw [List.length_append, List.length_singleton] at hindex
        omega
      subst hlast
      rw [List.getElem_concat_length rfl, henvelope, hsequence, hnext]

namespace FramePair

variable {w : FramePair P Q S}

/-- An endpoint that moves on keeps the invariant if it alone does. -/
theorem Authentic.advance (h : w.Authentic rt c sessionId)
    {sent : List (EncodedFrame P)}
    {received : List (FrameEnvelope P)} (hrole : s.role = role) (hsession : s.sessionId = sessionId)
    (hbuffered : s.Buffered) (hsends : Sends rt c sessionId role s (w.encoded role ++ sent))
    (haccepts : Accepts (w.encoded role.peer) s (w.accepted role ++ received)) :
    (w.advance role s sent received).Authentic rt c sessionId := by
  have hpeer : role.peer ≠ role := by cases role <;> decide
  have hother : ∀ other, other ≠ role → other.peer = role ∧ role.peer = other := by
    intro other hne
    cases other <;> cases role <;> simp_all [EndpointRole.peer]
  constructor <;> intro other <;> by_cases hsame : other = role
  · subst hsame
    simpa [FramePair.advance] using hrole
  · simpa [FramePair.advance, hsame] using h.role other
  · subst hsame
    simpa [FramePair.advance] using hsession
  · simpa [FramePair.advance, hsame] using h.session other
  · subst hsame
    simpa [FramePair.advance] using hbuffered
  · simpa [FramePair.advance, hsame] using h.buffered other
  · subst hsame
    simpa [FramePair.advance] using hsends
  · simpa [FramePair.advance, hsame] using h.sends other
  · subst hsame
    simpa [FramePair.advance, hpeer] using haccepts
  · -- What the peer of the endpoint that moved accepted still begins what was sent.
    obtain ⟨hpeerOther, -⟩ := hother other hsame
    have hbefore := (h.accepts other).append sent
    simpa [FramePair.advance, hsame, hpeerOther] using hbefore

/-- An endpoint that closes keeps the invariant. -/
lemma Authentic.close (h : w.Authentic rt c sessionId) (role : EndpointRole)
    (reason : Option String) :
    (w.advance role ((w.endpoint role).close reason) [] []).Authentic rt c sessionId := by
  refine h.advance (h.role role) (h.session role) (FrameSession.buffered_close _ _) ?_ ?_
  · simpa using (h.sends role).close reason
  · simpa using (h.accepts role).close reason

@[simp] lemma advance_self (w : FramePair P Q S) (role : EndpointRole) :
    w.advance role (w.endpoint role) [] [] = w := by
  simp [FramePair.advance]

/-- An endpoint that encodes a frame keeps the invariant. -/
lemma Authentic.encode (h : w.Authentic rt c sessionId) (role : EndpointRole)
    (hopen : (w.endpoint role).closed = false) {envelope : FrameEnvelope P} {frame : EncodedFrame P}
    {after : FrameSession Q S}
    (hencode : (w.endpoint role).encodeOpen rt c envelope = .ok (frame, after)) :
    (w.advance role after [frame] []).Authentic rt c sessionId := by
  have hsends := (h.sends role).encodeOpen (h.role role) (h.session role) hopen hencode
  obtain ⟨hheader, hbody, hexpected⟩ := h.buffered role
  obtain ⟨hbegins, hnext⟩ := h.accepts role
  obtain ⟨validated, _, pendingRequests, -, -, -, -, -, rfl⟩ :=
    FrameSession.encodeOpen_eq_ok.mp hencode
  refine h.advance (h.role role) (h.session role) ⟨hheader, hbody, hexpected⟩ hsends ?_
  rw [List.append_nil]
  exact ⟨hbegins, hnext⟩

/-- An endpoint that reads bytes of which no tag is forged keeps the invariant. -/
lemma Authentic.feed (hinjective : rt.Injective) (hreads : c.ReadsBack rt)
    (h : w.Authentic rt c sessionId) (role : EndpointRole)
    (hopen : (w.endpoint role).closed = false) (data : Bytes)
    (hforge : ∀ tag ∈ ((w.endpoint role).feedBytes rt c data).verified, w.Signed tag) :
    (w.advance role ((w.endpoint role).feedBytes rt c data).session []
      (((w.endpoint role).feedBytes rt c data).accepted.map Prod.fst)).Authentic rt c
      sessionId := by
  -- What the bytes keep: who the endpoint is, what it has sent, and that it accepts a prefix.
  let kept : FrameSession Q S → List (FrameEnvelope P × Option Q) → Prop := fun s received =>
    s.role = role ∧ s.sessionId = sessionId ∧ Sends rt c sessionId role s (w.encoded role) ∧
      Accepts (w.encoded role.peer) s (w.accepted role ++ received.map Prod.fst)
  have hstream : kept ((w.endpoint role).feedBytes rt c data).session
      ([] ++ ((w.endpoint role).feedBytes rt c data).accepted) := by
    refine FrameSession.feedBytes_invariant (I := kept) ?_ ?_ ?_ data hopen ?_ hforge
    · rintro s header body expected received ⟨hrole, hsession, ⟨hsent, hnumbered, hnext⟩, hbegins,
        hexpected⟩
      exact ⟨hrole, hsession, ⟨hsent, hnumbered, hnext⟩, hbegins, hexpected⟩
    · rintro s reason received ⟨hrole, hsession, hsends, haccepts⟩
      exact ⟨hrole, hsession, hsends.close reason, haccepts.close reason⟩
    · rintro s body frameLength e verified after received hsopen ⟨hrole, hsession, hsends, haccepts⟩
        hsigned hdecode haccept
      have hnext := haccepts.acceptEnvelope hinjective hreads h.sends hrole hsession hsopen hsigned
        hdecode haccept
      obtain ⟨-, _, _, -, -, rfl⟩ := FrameSession.acceptEnvelope_eq_ok.mp haccept
      refine ⟨hrole, hsession, ⟨hsends.sent, hsends.numbered, hsends.next⟩, ?_⟩
      rw [List.map_append, ← List.append_assoc]
      exact hnext
    · exact ⟨h.role role, h.session role, h.sends role, by simpa using h.accepts role⟩
  obtain ⟨hrole, hsession, hsends, haccepts⟩ := hstream
  exact h.advance hrole hsession (FrameSession.buffered_feedBytes (h.buffered role) data)
    (by simpa using hsends) haccepts

/-- Every event keeps the invariant, unless it forges a tag. -/
theorem Authentic.next (hinjective : rt.Injective) (hreads : c.ReadsBack rt)
    (h : w.Authentic rt c sessionId) (event : FrameEvent P) (hforge : w.NoForgery rt c event) :
    (w.step rt c event).Authentic rt c sessionId := by
  cases event with
  | encode role envelope =>
    by_cases hclosed : (w.endpoint role).closed = true
    · simpa [step, FrameSession.encode, hclosed] using h
    · rw [Bool.not_eq_true] at hclosed
      cases hencode : (w.endpoint role).encodeOpen rt c envelope with
      | error reason =>
        simpa [step, FrameSession.encode, hclosed, hencode] using h.close role (some reason)
      | ok result =>
        obtain ⟨frame, after⟩ := result
        simpa [step, FrameSession.encode, hclosed, hencode] using h.encode role hclosed hencode
  | feed role data =>
    by_cases hclosed : (w.endpoint role).closed = true
    · simpa [step, FrameSession.feed, hclosed, FrameSession.feedDone] using h
    · rw [Bool.not_eq_true] at hclosed
      have hbytes : (w.endpoint role).feed rt c data = (w.endpoint role).feedBytes rt c data :=
        FrameSession.feed_eq_feedBytes (h.buffered role) hclosed data
      simp only [NoForgery, hbytes] at hforge
      simp only [step, hbytes]
      exact h.feed hinjective hreads role hclosed data hforge
  | feedEof role =>
    simp only [step, FrameSession.feedEof]
    by_cases hclosed : (w.endpoint role).closed = true
    · simpa [hclosed] using h
    · rw [if_neg hclosed]
      split
      · exact h.close role _
      · exact h.close role none
  | requireFrameBoundary role =>
    simp only [step, FrameSession.requireFrameBoundary]
    by_cases hclosed : (w.endpoint role).closed = true
    · simpa [hclosed] using h
    · rw [if_neg hclosed]
      split
      · exact h.close role _
      · simpa using h

/-- The endpoints of a new session satisfy the invariant. -/
theorem Authentic.create {protocolMinor : Int} {mainToSidecarKey sidecarToMainKey : Bytes}
    (hcreate : create c sessionId protocolMinor mainToSidecarKey sidecarToMainKey = .ok w) :
    w.Authentic rt c sessionId := by
  simp only [FramePair.create, FrameSession.create, bind_eq_ok, require_eq_ok,
    pure_eq_ok] at hcreate
  obtain ⟨main, ⟨-, -, -, -, -, -, -, -, -, -, rfl⟩, sidecar, ⟨-, -, -, -, -, -, -, -, -, -, rfl⟩,
      rfl⟩ :=
    hcreate
  constructor <;> intro role
  · cases role <;> rfl
  · cases role <;> rfl
  · cases role <;> exact ⟨by simp, fun _ => rfl, fun _ h => by simp at h⟩
  · cases role <;> exact ⟨fun _ h => by simp at h, fun _ h => by simp at h, fun _ => rfl⟩
  · cases role <;> exact ⟨by simp, fun _ => rfl⟩

variable (rt c) in
/-- A closed endpoint does nothing, and what the other one does leaves it alone. -/
lemma step_closed (h : (w.endpoint role).closed = true) (event : FrameEvent P) :
    ((w.step rt c event).endpoint role).closed = true ∧
      (w.step rt c event).accepted role = w.accepted role := by
  have hadvance : ∀ other s sent received, (other = role → s = w.endpoint role ∧ received = []) →
      ((w.advance other s sent received).endpoint role).closed = true ∧
        (w.advance other s sent received).accepted role = w.accepted role := by
    intro other s sent received hself
    by_cases hsame : role = other
    · obtain ⟨rfl, rfl⟩ := hself hsame.symm
      subst hsame
      simpa [advance] using h
    · simpa [advance, hsame] using h
  cases event with
  | encode other envelope =>
    simp only [step]
    split
    · rename_i after hencode
      refine hadvance other after [] [] (fun hsame => ?_)
      subst hsame
      simp [FrameSession.encode, h] at hencode
      exact ⟨hencode.2.symm, rfl⟩
    · rename_i frame after hencode
      refine hadvance other after [frame] [] (fun hsame => ?_)
      subst hsame
      simp [FrameSession.encode, h] at hencode
  | feed other data =>
    refine hadvance other _ [] _ (fun hsame => ?_)
    subst hsame
    simp [FrameSession.feed, h, FrameSession.feedDone]
  | feedEof other =>
    refine hadvance other _ [] [] (fun hsame => ?_)
    subst hsame
    simp [FrameSession.feedEof, h]
  | requireFrameBoundary other =>
    refine hadvance other _ [] [] (fun hsame => ?_)
    subst hsame
    simp [FrameSession.requireFrameBoundary, h]

/-- A closed endpoint accepts nothing more in any continuation. -/
lemma run_closed (h : (w.endpoint role).closed = true) (events : List (FrameEvent P)) :
    (run (step rt c) w events).accepted role = w.accepted role := by
  have hkept : ((run (step rt c) w events).endpoint role).closed = true ∧
      (run (step rt c) w events).accepted role = w.accepted role := by
    refine run_invariant (I := fun v : FramePair P Q S => (v.endpoint role).closed = true ∧
        v.accepted role = w.accepted role) ?_ ⟨h, rfl⟩ events
    rintro v event ⟨hclosed, haccepted⟩
    obtain ⟨hnext, hsame⟩ := step_closed rt c hclosed event
    exact ⟨hnext, hsame.trans haccepted⟩
  exact hkept.2

end FramePair

/-- Authenticated prefix delivery.  Whatever an adversary does between the two endpoints of a
session, short of forging a tag, each endpoint accepts a prefix of the envelopes that its peer
encoded; it is closed as soon as it refuses its input, the rest of which it does not look at; and a
closed endpoint accepts nothing more.  The keys of the two directions may be equal. -/
theorem accepted_prefix_encoded (rt : WireRuntime) (c : FrameContract P Q S)
    (hinjective : rt.Injective) (hreads : c.ReadsBack rt) (sessionId : String) (protocolMinor : Int)
    (mainToSidecarKey sidecarToMainKey : Bytes) (start : FramePair P Q S)
    (hcreate : FramePair.create c sessionId protocolMinor mainToSidecarKey sidecarToMainKey =
      .ok start)
    (events : List (FrameEvent P))
    (hforge : Along (FramePair.step rt c) (FramePair.NoForgery rt c) start events)
    (role : EndpointRole) :
    let w := run (FramePair.step rt c) start events
    (w.accepted role).map FrameEnvelope.untagged <+:
        (w.encoded role.peer).map EncodedFrame.envelope ∧
      (∀ front reason, ((w.endpoint role).feed rt c front).failure = some reason →
        ((w.endpoint role).feed rt c front).session.closed = true ∧
          ∀ back, (w.endpoint role).feed rt c (front ++ back) = (w.endpoint role).feed rt c front) ∧
      ((w.endpoint role).closed = true → ∀ later,
        (run (FramePair.step rt c) w later).accepted role = w.accepted role) := by
  intro w
  have hw : w.Authentic rt c sessionId :=
    run_preserves (fun v event hv hevent => hv.next hinjective hreads event hevent) hforge
      (FramePair.Authentic.create hcreate)
  refine ⟨(hw.accepts role).begins, fun front reason hfailure => ?_,
    fun hclosed later => FramePair.run_closed hclosed later⟩
  by_cases hclosed : (w.endpoint role).closed = true
  · simp [FrameSession.feed, hclosed, FrameSession.feedDone]
  · rw [Bool.not_eq_true] at hclosed
    have hbytes : ∀ data,
        (w.endpoint role).feed rt c data = (w.endpoint role).feedBytes rt c data :=
      FrameSession.feed_eq_feedBytes (hw.buffered role) hclosed
    simp only [hbytes] at hfailure ⊢
    exact FrameSession.feedBytes_of_failure hfailure

/-- The runtime that can be run tells dictionaries apart. -/
lemma injective_referenceRuntime : referenceRuntime.Injective := by
  intro a b canonical ha hb
  have hread := strictCanonicalJsonObject_reference ha
  rw [strictCanonicalJsonObject_reference hb] at hread
  exact (Except.ok.inj hread).symm

/-- The adapter of one envelope reads it back. -/
lemma readsBack_sampleAdapter :
    (liepinSourceContract sampleAdapter).ReadsBack referenceRuntime := by
  intro given e tag body read h hbody hread
  have hfound := validateJson_sampleAdapter h hbody
  exact Option.some.inj (hread.symm.trans hfound)

/-- Both endpoints of the sample session. -/
def samplePair : FramePair LiepinSourcePayload SourcePending ReplyState where
  endpoint := fun role => if role = .main then sampleEndpoint .main else sampleEndpoint .sidecar
  encoded := fun _ => []
  accepted := fun _ => []

/-- The delivery of a prefix, at a run in which the sidecar is fed the frame that the main endpoint
has encoded. -/
theorem accepted_prefix_encoded_sample :
    ∃ frame sent, (sampleEndpoint .main).encode referenceRuntime
      (liepinSourceContract sampleAdapter)
        sampleEnvelope = (.ok frame, sent) ∧
      let w := run (FramePair.step referenceRuntime (liepinSourceContract sampleAdapter)) samplePair
        [.encode .main sampleEnvelope, .feed .sidecar frame.frame]
      w.accepted .sidecar = [sentEnvelope referenceRuntime frame] ∧
        (w.accepted .sidecar).map FrameEnvelope.untagged <+:
          (w.encoded .main).map EncodedFrame.envelope := by
  obtain ⟨frame, sent, after, received, hencode, hfeed⟩ := exists_feed_sample
  have hcreate : FramePair.create (liepinSourceContract sampleAdapter) "session-1" 0 (sampleKey 1)
      (sampleKey 2) = .ok samplePair := by
    unfold FramePair.create
    simp only [bind_eq_ok, pure_eq_ok]
    exact ⟨_, create_sampleEndpoint .main, _, create_sampleEndpoint .sidecar, rfl⟩
  have hfirst : samplePair.step referenceRuntime (liepinSourceContract sampleAdapter)
      (.encode .main sampleEnvelope) = samplePair.advance .main sent [frame] [] := by
    have hmain : samplePair.endpoint .main = sampleEndpoint .main := rfl
    rw [FramePair.step, hmain, hencode]
  have hsidecar : (samplePair.advance .main sent [frame] []).endpoint .sidecar =
      sampleEndpoint .sidecar := rfl
  have hforge : Along (FramePair.step referenceRuntime (liepinSourceContract sampleAdapter))
      (FramePair.NoForgery referenceRuntime (liepinSourceContract sampleAdapter)) samplePair
      [.encode .main sampleEnvelope, .feed .sidecar frame.frame] := by
    refine ⟨trivial, ?_, trivial⟩
    rw [hfirst, FramePair.NoForgery, hsidecar, hfeed]
    -- The one tag that is verified is that of the frame.
    intro tag htag
    rw [List.mem_singleton.mp htag]
    exact ⟨.main, frame, List.mem_singleton_self frame, rfl, rfl⟩
  refine ⟨frame, sent, hencode, ?_, (accepted_prefix_encoded referenceRuntime
    (liepinSourceContract sampleAdapter) injective_referenceRuntime readsBack_sampleAdapter
    "session-1" 0
    (sampleKey 1) (sampleKey 2) samplePair hcreate
    [.encode .main sampleEnvelope, .feed .sidecar frame.frame] hforge .sidecar).1⟩
  rw [run_cons, run_cons, run_nil, hfirst, FramePair.step, hsidecar, hfeed]
  rfl

end SeekTalent.SourcePort
