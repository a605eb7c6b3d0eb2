import SeekTalent.SourcePort.HonestEndpoints

/-!
# Agreement over every run of the link

The invariant of a run of two honest endpoints, its step lemmas and what follows from it: delivery
in order and unchanged, tables that are mirror images up to the frames in flight, and the discipline
of replies (one acknowledgement, then one result or reconcile notice, to a submit that was sent).
-/

namespace SeekTalent.SourcePort

open Foundation

/-! ## The discipline of replies -/

/-- Which of the replies to a request are acknowledgements, in order. -/
def replyFlags (id : String) (replies : List LiepinSourceEnvelope) : List Bool :=
  (replies.filter (fun e => e.replyTo = some id)).map (fun e => e.payload.isAck)

/-- What the replies to a request were says what is known of it. -/
inductive ReplyPhase (flags : List Bool)
    (known : Option (PendingRequest SourcePending ReplyState)) : Prop
  | unanswered (hflags : flags = [])
      (hknown : ∀ pending, known = some pending → pending.state = none)
  | acked (hflags : flags = [true])
      (hknown : ∀ pending, known = some pending → pending.state ≠ none)
  | finished (hflags : flags = [true, false]) (hknown : known = none)

/-- A submitted request is not acknowledged yet. -/
lemma state_of_submits {submits : List LiepinSourceEnvelope}
    (hsubmits : ∀ e ∈ submits, pendingFromRequest e ≠ none) {id : String}
    {pending : PendingRequest SourcePending ReplyState}
    (h : settleAll (fun _ => none) submits id = some pending) : pending.state = none := by
  induction submits using List.reverseRecOn with
  | nil => cases h
  | append_singleton front e ih =>
    have hmem : e ∈ front ++ [e] := by simp
    obtain ⟨request, hrequest⟩ := Option.ne_none_iff_exists'.mp (hsubmits e hmem)
    rw [settleAll_concat, settle_submit hrequest, Function.update_apply] at h
    by_cases heq : id = e.messageId
    · rw [if_pos heq] at h
      cases h
      rfl
    · rw [if_neg heq] at h
      exact ih (fun other hother => hsubmits other (List.mem_append_left _ hother)) h

/-- A reply moves the request it names to the next phase. -/
lemma ReplyPhase.answer {flags : List Bool} {e : LiepinSourceEnvelope}
    {reply : PendingReply ReplyState}
    {pending : PendingRequest SourcePending ReplyState} (h : ReplyPhase flags (some pending))
    (hvalid : validateReply pending.request e pending.state = .ok reply) :
    ReplyPhase (flags ++ [e.payload.isAck])
      (if e.payload.isAck then some { pending with state := some .acked } else none) := by
  obtain ⟨-, ⟨hack, hstate, -⟩ | ⟨hack, hstate, -⟩⟩ := validateReply_eq_ok hvalid
  · rw [hack]
    cases h with
    | unanswered hflags _ =>
      refine .acked (by rw [hflags]; rfl) fun known hknown => ?_
      cases hknown
      simp
    | acked _ hknown => exact absurd hstate (hknown pending rfl)
    | finished _ hknown => cases hknown
  · rw [hack]
    cases h with
    | unanswered _ hknown =>
      rw [hknown pending rfl] at hstate
      cases hstate
    | acked hflags _ => exact .finished (by rw [hflags]; rfl) rfl
    | finished _ hknown => cases hknown

/-- Each request is in one of the phases. -/
theorem replyPhase_of_answered {submits replies : List LiepinSourceEnvelope}
    (hsubmits : ∀ e ∈ submits, pendingFromRequest e ≠ none)
    (hanswered : ∀ before e, before ++ [e] <+: replies → Answered (tableOf submits before) e)
    (id : String) : ReplyPhase (replyFlags id replies) (tableOf submits replies id) := by
  induction replies using List.reverseRecOn with
  | nil => exact .unanswered rfl (fun pending h => state_of_submits hsubmits h)
  | append_singleton before e ih =>
    obtain ⟨replyTo, pending, reply, hto, hpending, hvalid⟩ :=
      hanswered before e (List.prefix_refl _)
    have hbefore := ih fun front other hfront => hanswered front other
      (hfront.trans (List.prefix_append _ _))
    have hreply : pendingFromRequest e = none := by
      obtain ⟨hsubmit, -⟩ := validateReply_eq_ok hvalid
      rw [← Option.not_isSome_iff_eq_none, pendingFromRequest_isSome, hsubmit]
      exact Bool.false_ne_true
    have htable : tableOf submits (before ++ [e]) = settle (tableOf submits before) e :=
      settleAll_concat _ _ _
    rw [htable, settle_reply hreply hto]
    by_cases heq : id = replyTo
    · subst heq
      have hflags : replyFlags id (before ++ [e]) = replyFlags id before ++ [e.payload.isAck] := by
        simp [replyFlags, List.filter_append, hto]
      rw [hflags, Function.update_self, hpending]
      rw [hpending] at hbefore
      exact hbefore.answer hvalid
    · have hflags : replyFlags id (before ++ [e]) = replyFlags id before := by
        simp [replyFlags, List.filter_append, hto, Ne.symm heq]
      rw [hflags, Function.update_of_ne heq]
      exact hbefore

/-- One acknowledgement, and behind it one terminal reply. -/
lemma ReplyPhase.begins {flags : List Bool}
    {known : Option (PendingRequest SourcePending ReplyState)}
    (h : ReplyPhase flags known) : flags <+: [true, false] := by
  cases h with
  | unanswered hflags _ => exact ⟨[true, false], by rw [hflags]; rfl⟩
  | acked hflags _ => exact ⟨[false], by rw [hflags]; rfl⟩
  | finished hflags _ => exact ⟨[], by rw [hflags]; rfl⟩

/-! ## The invariant of a run -/

/-- What is asked of a call: a message id of its own, room among the messages of the session, and no
floating-point number in its payload. -/
structure EncodeCall.Admissible (w : SourceLink) (call : EncodeCall) : Prop where
  fresh : ∀ role, ∀ frame ∈ w.encoded role, frame.envelope.messageId ≠ call.messageId
  few : (w.encoded .main).length + (w.encoded .sidecar).length < 65536
  floatFree : call.payload.dump.FloatFree

/-- What is asked of an event. -/
def SourceLinkEvent.Admissible (w : SourceLink) : SourceLinkEvent → Prop
  | .encode _ call => call.Admissible w
  | .deliver _ _ => True

namespace SourceLink

variable {mainToSidecarKey sidecarToMainKey : Bytes}

/-- An endpoint has accepted a part of what its peer encoded; while it is open, it is where the logs
say and its buffer and its channel hold the rest. -/
def Follows (setup : SourceSetup) (w : SourceLink) (role : EndpointRole) : Prop :=
  ∃ past coming, w.encoded role.peer = past ++ coming ∧
    w.accepted role = past.map (sentEnvelope setup.rt) ∧
    ((w.endpoint role).closed = true ∨
      (setup.EndpointAt role (w.endpoint role) (w.encoded role) past ∧
        (w.endpoint role).Awaits (w.wire role.peer) coming))

/-- The invariant. -/
structure Sound (setup : SourceSetup) (w : SourceLink) : Prop where
  log : setup.LogSound w.encoded
  follows : ∀ role, w.Follows setup role

variable {setup : SourceSetup} {w : SourceLink} {role : EndpointRole}

/-- Nothing was encoded. -/
lemma logSound_nil (setup : SourceSetup) : setup.LogSound (fun _ => []) := by
  have hshort : ∀ {before : List SourceFrame} {frame : SourceFrame},
      ¬ before ++ [frame] <+: ([] : List SourceFrame) := by
    intro before frame hnil
    exact absurd (List.prefix_nil.mp hnil) (by simp)
  exact {
    encoded := fun _ frame h => absurd h List.not_mem_nil
    floatFree := fun _ frame h => absurd h List.not_mem_nil
    typed := fun _ frame h => absurd h List.not_mem_nil
    numbered := fun _ _ _ h => absurd h hshort
    distinct := fun _ => List.nodup_nil
    few := fun _ => Nat.zero_le _
    answered := fun _ _ h => absurd h hshort
    room := fun _ _ h => absurd h hshort }

/-- A new session has sent and accepted nothing. -/
lemma endpointAt_create {s : LiepinSourceSession}
    (hkeys : setup.key = fun role => if role = .main then mainToSidecarKey else sidecarToMainKey)
    (h : FrameSession.create setup.contract role setup.sessionId setup.protocolMinor
      mainToSidecarKey sidecarToMainKey = .ok s) :
    setup.EndpointAt role s [] [] ∧ s.Awaits [] ([] : List SourceFrame) := by
  unfold FrameSession.create at h
  simp only [bind_eq_ok, require_eq_ok, pure_eq_ok] at h
  obtain ⟨_, -, _, -, _, -, _, -, _, -, rfl⟩ := h
  refine ⟨⟨rfl, rfl, rfl, ?_, ?_, rfl, rfl, rfl, List.Perm.nil, ?_, ?_⟩,
    ⟨⟨Nat.zero_lt_succ _, fun _ => rfl, fun _ h => by cases h⟩, fun _ h => (by cases h), rfl⟩⟩
  · rw [hkeys]
  · rw [hkeys]
    cases role <;> rfl
  · cases role <;> funext id <;> rfl
  · intro reply hreply
    rw [ite_self] at hreply
    cases hreply

/-- The endpoints of a new link are open. -/
lemma isOpen_create {adapter : LiepinSourceAdapter} {sessionId : String} {protocolMinor : Int}
    (h : create adapter sessionId protocolMinor mainToSidecarKey sidecarToMainKey = .ok w) :
    (w.endpoint role).closed = false := by
  unfold create FrameSession.create at h
  simp only [bind_eq_ok, require_eq_ok, pure_eq_ok] at h
  obtain ⟨main, ⟨_, -, _, -, _, -, _, -, _, -, rfl⟩, sidecar, ⟨_, -, _, -, _, -, _, -, _, -, rfl⟩,
    rfl⟩ := h
  cases role <;> rfl

/-- A new link. -/
theorem sound_create
    (hkeys : setup.key = fun role => if role = .main then mainToSidecarKey else sidecarToMainKey)
    (h : create setup.adapter setup.sessionId setup.protocolMinor mainToSidecarKey
      sidecarToMainKey = .ok w) : w.Sound setup := by
  unfold create at h
  simp only [bind_eq_ok, pure_eq_ok] at h
  obtain ⟨main, hmain, sidecar, hsidecar, rfl⟩ := h
  refine ⟨logSound_nil setup, fun role => ⟨[], [], rfl, rfl, Or.inr ?_⟩⟩
  cases role with
  | main => exact endpointAt_create hkeys hmain
  | sidecar => exact endpointAt_create hkeys hsidecar

/-- An admissible call that succeeds keeps the invariant. -/
theorem Sound.encode_ok (hadapter : setup.adapter.Lawful setup.rt) (hw : w.Sound setup)
    {call : EncodeCall} (hcall : call.Admissible w) {frame : SourceFrame}
    {after : LiepinSourceSession}
    (hencode : (w.endpoint role).encodeCall setup.rt setup.adapter call = (.ok frame, after)) :
    (w.step setup.rt setup.adapter (.encode role call)).Sound setup ∧ after.closed = false := by
  have hcalled := encodesCall_of_ok hadapter hencode
  have hid : frame.envelope.messageId = call.messageId := by
    rw [hcalled.envelope]
    rfl
  have hfresh : ∀ other, ∀ e ∈ envelopesOf (w.encoded other),
      e.messageId ≠ frame.envelope.messageId := by
    intro other e he
    obtain ⟨sent, hsent, rfl⟩ := List.mem_map.mp he
    rw [hid]
    exact hcall.fresh other sent hsent
  have hfew : (w.encoded role).length + (w.encoded role.peer).length < 65536 := by
    have hsum := hcall.few
    cases role with
    | main => exact hsum
    | sidecar =>
      rw [Nat.add_comm] at hsum
      exact hsum
  obtain ⟨past, coming, hcoming, haccepted, hstate⟩ := hw.follows role
  rcases hstate with hclosed | ⟨hat, hawaits⟩
  · rw [hcalled.isOpen] at hclosed
    cases hclosed
  have hpast : past <+: w.encoded role.peer := ⟨coming, hcoming.symm⟩
  have hafter := hcalled.endpointAt hw.log hat hpast (hfresh role)
  have hbuffers : after.Awaits (w.wire role.peer) coming := by
    obtain ⟨_, _, -, -, rfl⟩ := hcalled.transition
    exact ⟨⟨hawaits.buffered.header, hawaits.buffered.awaitsHeader, hawaits.buffered.awaitsBody⟩,
      hawaits.fits, hawaits.bytes⟩
  rw [step, hencode]
  refine ⟨⟨hw.log.encode hat hcoming hcalled hfresh hfew hcall.floatFree, fun other => ?_⟩,
    hafter.isOpen⟩
  rcases EndpointRole.eq_or_eq_peer role other with rfl | rfl
  · refine ⟨past, coming, ?_, haccepted, Or.inr ⟨?_, ?_⟩⟩
    · dsimp only
      rw [Function.update_of_ne other.peer_ne]
      exact hcoming
    · dsimp only
      rw [Function.update_self, Function.update_self]
      exact hafter
    · dsimp only
      rw [Function.update_self, Function.update_of_ne other.peer_ne]
      exact hbuffers
  · -- The frame joins what its peer has still to read.
    have hpeer : role.peer.peer = role := by cases role <;> rfl
    obtain ⟨past', coming', hcoming', haccepted', hstate'⟩ := hw.follows role.peer
    rw [hpeer] at hcoming' hstate'
    refine ⟨past', coming' ++ [frame], ?_, haccepted', ?_⟩
    · dsimp only
      rw [hpeer, Function.update_self, hcoming', List.append_assoc]
    · dsimp only
      rw [hpeer, Function.update_of_ne role.peer_ne, Function.update_of_ne role.peer_ne,
        Function.update_self]
      refine hstate'.imp id fun ⟨hat', hawaits'⟩ => ⟨hat', hawaits'.buffered, hawaits'.fits, ?_⟩
      rw [← List.append_assoc, hawaits'.bytes, List.flatMap_append]
      simp

/-- A call that fails keeps the invariant. -/
theorem Sound.encode_error (hw : w.Sound setup) {call : EncodeCall} {reason : String}
    {after : LiepinSourceSession}
    (hencode : (w.endpoint role).encodeCall setup.rt setup.adapter call = (.error reason, after)) :
    (w.step setup.rt setup.adapter (.encode role call)).Sound setup := by
  rw [step, hencode]
  refine ⟨hw.log, fun other => ?_⟩
  obtain ⟨past, coming, hcoming, haccepted, hstate⟩ := hw.follows other
  refine ⟨past, coming, hcoming, haccepted, ?_⟩
  by_cases heq : other = role
  · subst heq
    left
    dsimp only
    rw [Function.update_self]
    exact closed_of_encodeCall_error hencode
  · dsimp only
    rw [Function.update_of_ne heq]
    exact hstate

/-- A delivery keeps the invariant, and an open endpoint open. -/
theorem Sound.deliver (hrt : setup.rt.Lawful) (hadapter : setup.adapter.Lawful setup.rt)
    (hw : w.Sound setup) (role : EndpointRole) (count : Nat) :
    (w.step setup.rt setup.adapter (.deliver role count)).Sound setup ∧
      ((w.endpoint role).closed = false →
        ((w.endpoint role).feed setup.rt setup.contract ((w.wire role.peer).take count)).failure =
          none ∧
        ((w.step setup.rt setup.adapter (.deliver role count)).endpoint role).closed = false) := by
  obtain ⟨past, coming, hcoming, haccepted, hstate⟩ := hw.follows role
  -- The other endpoint is as it was.
  have hothers : ∀ other, other ≠ role →
      (w.step setup.rt setup.adapter (.deliver role count)).Follows setup other := by
    intro other hne
    have hpeers : other.peer ≠ role.peer := by
      rcases EndpointRole.eq_or_eq_peer role other with rfl | rfl
      · exact absurd rfl hne
      · have hpeer : role.peer.peer = role := by cases role <;> rfl
        rw [hpeer]
        exact role.peer_ne.symm
    have hother := hw.follows other
    rw [step, Follows]
    dsimp only
    rw [Function.update_of_ne hne, Function.update_of_ne hne, Function.update_of_ne hpeers]
    exact hother
  have hwhole : ∀ hrole : (w.step setup.rt setup.adapter (.deliver role count)).Follows setup role,
      (w.step setup.rt setup.adapter (.deliver role count)).Sound setup := by
    intro hrole
    refine ⟨hw.log, fun other => ?_⟩
    by_cases heq : other = role
    · rw [heq]
      exact hrole
    · exact hothers other heq
  rcases hstate with hclosed | ⟨hat, hawaits⟩
  · refine ⟨hwhole ⟨past, coming, hcoming, ?_, Or.inl ?_⟩, fun hopen => ?_⟩
    · rw [step]
      dsimp only
      rw [Function.update_self, haccepted, FrameSession.feed, if_pos hclosed]
      simp [FrameSession.feedDone]
    · rw [step]
      dsimp only
      rw [Function.update_self, FrameSession.feed, if_pos hclosed]
      exact hclosed
    · rw [hclosed] at hopen
      cases hopen
  · rw [← List.take_append_drop count (w.wire role.peer)] at hawaits
    obtain ⟨hfailure, new, left, hnew, hreceived, hleft, hat'⟩ :=
      hat.deliver hrt hadapter hw.log hcoming hawaits
    refine ⟨hwhole ⟨past ++ new, left, ?_, ?_, Or.inr ?_⟩, fun _ => ⟨hfailure, ?_⟩⟩
    · rw [List.append_assoc, ← hnew]
      exact hcoming
    · rw [step]
      dsimp only
      rw [Function.update_self, haccepted, hreceived, List.map_append]
    · rw [step]
      dsimp only
      rw [Function.update_self, Function.update_self]
      exact ⟨hat', hleft⟩
    · rw [step]
      dsimp only
      rw [Function.update_self]
      exact hat'.isOpen

/-- An admissible event keeps the invariant, and an endpoint that it closes had a call of its own
fail. -/
theorem Sound.next (hrt : setup.rt.Lawful) (hadapter : setup.adapter.Lawful setup.rt)
    (hw : w.Sound setup) {event : SourceLinkEvent} (hevent : event.Admissible w) :
    (w.step setup.rt setup.adapter event).Sound setup ∧ ∀ role, (w.endpoint role).closed = false →
      ((w.step setup.rt setup.adapter event).endpoint role).closed = true → ∃ call reason,
        event = .encode role call ∧
        ((w.endpoint role).encodeCall setup.rt setup.adapter call).1 = .error reason := by
  cases event with
  | deliver other count =>
    obtain ⟨hsound, hopen⟩ := hw.deliver hrt hadapter other count
    refine ⟨hsound, fun role hbefore hafter => ?_⟩
    by_cases heq : role = other
    · subst heq
      rw [(hopen hbefore).2] at hafter
      cases hafter
    · rw [step] at hafter
      dsimp only at hafter
      rw [Function.update_of_ne heq, hbefore] at hafter
      cases hafter
  | encode other call =>
    have hkept : ∀ {role result after}, (w.endpoint other).encodeCall setup.rt setup.adapter call =
        (result, after) → role ≠ other → (w.endpoint role).closed = false →
        ((w.step setup.rt setup.adapter (.encode other call)).endpoint role).closed = false := by
      intro role result after hencode hne hbefore
      rw [step, hencode]
      cases result <;> exact (by dsimp only; rw [Function.update_of_ne hne, hbefore])
    cases hencode : (w.endpoint other).encodeCall setup.rt setup.adapter call with
    | mk result after =>
      cases result with
      | error reason =>
        refine ⟨hw.encode_error hencode, fun role hbefore hafter => ?_⟩
        by_cases heq : role = other
        · subst heq
          exact ⟨call, reason, rfl, by rw [hencode]⟩
        · rw [hkept hencode heq hbefore] at hafter
          cases hafter
      | ok frame =>
        obtain ⟨hsound, hopen⟩ := hw.encode_ok hadapter hevent hencode
        refine ⟨hsound, fun role hbefore hafter => ?_⟩
        by_cases heq : role = other
        · subst heq
          rw [step, hencode] at hafter
          dsimp only at hafter
          rw [Function.update_self, hopen] at hafter
          cases hafter
        · rw [hkept hencode heq hbefore] at hafter
          cases hafter

end SourceLink

/-! ## Agreement -/

namespace SourceLink

/-- Some call of an endpoint failed in the run. -/
def CallFailed (rt : WireRuntime) (adapter : LiepinSourceAdapter) (start : SourceLink)
    (events : List SourceLinkEvent) (role : EndpointRole) : Prop :=
  ∃ before call after reason, events = before ++ .encode role call :: after ∧
    (((run (step rt adapter) start before).endpoint role).encodeCall rt adapter call).1 =
      .error reason

/-- What two endpoints agree on. -/
structure Agrees (rt : WireRuntime) (adapter : LiepinSourceAdapter) (w : SourceLink) : Prop where
  /-- What an endpoint accepted its peer encoded, in that order and unchanged. -/
  inOrder : ∀ role, w.accepted role <+: (w.encoded role.peer).map (sentEnvelope rt)
  /-- No delivery to an open endpoint is refused, whatever the fragments. -/
  admitted : ∀ role count, (w.endpoint role).closed = false →
    ((w.endpoint role).feed rt (liepinSourceContract adapter)
      ((w.wire role.peer).take count)).failure = none
  /-- An open endpoint that was delivered everything has accepted everything. -/
  delivered : ∀ role, (w.endpoint role).closed = false → w.wire role.peer = [] →
    w.accepted role = (w.encoded role.peer).map (sentEnvelope rt)
  /-- The tables of open endpoints differ by the frames in flight. -/
  mirrored : (∀ role, (w.endpoint role).closed = false) →
    settleAll (w.endpoint .main).pendingRequests.lookup (envelopesOf (w.inFlight .main)) =
      settleAll (w.endpoint .sidecar).pendingRequests.lookup (envelopesOf (w.inFlight .sidecar))
  /-- A reply answers a submit, for both endpoints. -/
  submitted : ∀ reply ∈ envelopesOf (w.encoded .sidecar) ++ w.accepted .main,
    ∃ submit ∈ envelopesOf (w.encoded .main), reply.replyTo = some submit.messageId
  /-- The replies to a request are one acknowledgement and then one terminal reply, or a part of
  it. -/
  disciplined : ∀ id, replyFlags id (envelopesOf (w.encoded .sidecar)) <+: [true, false] ∧
    replyFlags id (w.accepted .main) <+: [true, false]

variable {setup : SourceSetup} {w : SourceLink}

/-- The tag does not matter to the discipline of replies. -/
lemma replyFlags_sent (rt : WireRuntime) (id : String) (frames : List SourceFrame) :
    replyFlags id (frames.map (sentEnvelope rt)) = replyFlags id (envelopesOf frames) := by
  induction frames with
  | nil => rfl
  | cons frame rest ih =>
    unfold replyFlags at ih ⊢
    rw [envelopesOf, List.map_cons, List.map_cons, List.filter_cons, List.filter_cons]
    by_cases hto : frame.envelope.replyTo = some id
    · have hsent : (sentEnvelope rt frame).replyTo = some id := hto
      rw [if_pos (by simpa using hsent), if_pos (by simpa using hto), List.map_cons, List.map_cons,
        ih]
      rfl
    · have hsent : (sentEnvelope rt frame).replyTo ≠ some id := hto
      rw [if_neg (by simpa using hsent), if_neg (by simpa using hto), ih]
      rfl

/-- The replies that were sent, up to one of them, are disciplined. -/
lemma Sound.disciplined (hw : w.Sound setup) {past : List SourceFrame}
    (hpast : past <+: w.encoded .sidecar)
    (id : String) : replyFlags id (envelopesOf past) <+: [true, false] := by
  refine (replyPhase_of_answered hw.log.submits (fun before e hbefore => ?_) id).begins
  obtain ⟨front, last, hsplit, hfront, hlast⟩ : ∃ front last, front ++ [last] <+: past ∧
      envelopesOf front = before ∧ last.envelope = e := by
    obtain ⟨rest, hrest⟩ := hbefore
    obtain ⟨both, others, hboth, hmap, -⟩ := List.map_eq_append_iff.mp hrest.symm
    obtain ⟨front, lasts, rfl, hfront, hlasts⟩ := List.map_eq_append_iff.mp hmap
    obtain ⟨last, rfl, hlast⟩ := List.map_eq_singleton_iff.mp hlasts
    exact ⟨front, last, ⟨others, hboth.symm⟩, hfront, hlast⟩
  rw [← hfront, ← hlast]
  exact hw.log.answered front last (hsplit.trans hpast)

/-- The invariant gives the agreement. -/
theorem Sound.agrees (hrt : setup.rt.Lawful) (hadapter : setup.adapter.Lawful setup.rt)
    (hw : w.Sound setup) : w.Agrees setup.rt setup.adapter := by
  have hflight : ∀ {role past coming}, w.encoded role.peer = past ++ coming →
      w.accepted role = past.map (sentEnvelope setup.rt) → w.inFlight role = coming := by
    intro role past coming hcoming haccepted
    rw [inFlight, hcoming, haccepted, List.length_map, List.drop_left]
  refine ⟨fun role => ?_, fun role count hopen => ?_, fun role hopen hwire => ?_, fun hopen => ?_,
    fun reply hreply => ?_, fun id => ⟨hw.disciplined (List.prefix_refl _) id, ?_⟩⟩
  · obtain ⟨past, coming, hcoming, haccepted, -⟩ := hw.follows role
    rw [haccepted, hcoming, List.map_append]
    exact List.prefix_append _ _
  · exact ((hw.deliver hrt hadapter _ count).2 hopen).1
  · obtain ⟨past, coming, hcoming, haccepted, hclosed | ⟨hat, hawaits⟩⟩ := hw.follows role
    · rw [hopen] at hclosed
      cases hclosed
    · rw [hwire] at hawaits
      have hframes := hw.log.framed hrt hadapter hat
      rw [hcoming] at hframes
      have hnil : coming = [] := hawaits.of_nil (fun frame hmem =>
        hframes frame (List.mem_append_right _ hmem))
      rw [haccepted, hcoming, hnil, List.append_nil]
  · obtain ⟨replies, comingReplies, hreplies, hacceptedMain, hclosed | ⟨hmain, -⟩⟩ :=
      hw.follows .main
    · rw [hopen .main] at hclosed
      cases hclosed
    obtain ⟨submits, comingSubmits, hsubmits, hacceptedSidecar, hclosed | ⟨hsidecar, -⟩⟩ :=
      hw.follows .sidecar
    · rw [hopen .sidecar] at hclosed
      cases hclosed
    -- Either side comes to the effect of all submits and all replies.
    have hall : settleAll (w.endpoint .main).pendingRequests.lookup (envelopesOf comingReplies) =
        tableOf (envelopesOf (w.encoded .main)) (envelopesOf (w.encoded .sidecar)) := by
      have hlog : w.encoded .sidecar = replies ++ comingReplies := hreplies
      rw [hmain.pending, tableAt, hlog, envelopesOf_append, tableOf, tableOf, settleAll_append]
    have hall' : settleAll (w.endpoint .sidecar).pendingRequests.lookup
      (envelopesOf comingSubmits) =
        tableOf (envelopesOf (w.encoded .main)) (envelopesOf (w.encoded .sidecar)) := by
      have hlog : w.encoded .main = submits ++ comingSubmits := hsubmits
      have hids := hw.log.distinct .main
      rw [envelopesOf_append, List.map_append] at hids
      have hmainIds := hids.of_append_left
      have hkinds := hw.log.submits
      rw [hlog, envelopesOf_append] at hkinds
      rw [hlog, envelopesOf_append, List.map_append, List.nodup_append] at hmainIds
      rw [hsidecar.pending, tableAt, hlog, envelopesOf_append]
      refine (tableOf_submits
        (fun e he => hkinds e (List.mem_append_right _ he)) fun e he => ?_).symm
      refine ignores_of_known hw.log.replies hsidecar.known fun submit hsubmit heq => ?_
      exact hmainIds.2.2 _ (List.mem_map_of_mem hsubmit) _ (List.mem_map_of_mem he) heq
    rw [hflight hreplies hacceptedMain, hflight hsubmits hacceptedSidecar, hall, hall']
  · rcases List.mem_append.mp hreply with hsent | haccepted
    · exact hw.log.answers reply hsent
    · obtain ⟨past, coming, hcoming, hpast, -⟩ := hw.follows .main
      rw [hpast] at haccepted
      obtain ⟨frame, hframe, rfl⟩ := List.mem_map.mp haccepted
      have hmem : frame ∈ w.encoded .sidecar := by
        have hlog : w.encoded .sidecar = past ++ coming := hcoming
        rw [hlog]
        exact List.mem_append_left _ hframe
      exact hw.log.answers frame.envelope (List.mem_map_of_mem hmem)
  · obtain ⟨past, coming, hcoming, hpast, -⟩ := hw.follows .main
    rw [hpast, replyFlags_sent]
    exact hw.disciplined ⟨coming, hcoming.symm⟩ id

/-- An endpoint that is closed at the end of a run had a call of its own fail. -/
theorem callFailed_of_closed (hrt : setup.rt.Lawful) (hadapter : setup.adapter.Lawful setup.rt)
    {start : SourceLink} (hstart : start.Sound setup)
    (hopen : ∀ role, (start.endpoint role).closed = false) {events : List SourceLinkEvent}
    (hevents : Along (step setup.rt setup.adapter) SourceLinkEvent.Admissible start events)
    (role : EndpointRole)
    (hclosed : ((run (step setup.rt setup.adapter) start events).endpoint role).closed = true) :
    CallFailed setup.rt setup.adapter start events role := by
  induction events using List.reverseRecOn with
  | nil =>
    rw [run_nil, hopen role] at hclosed
    cases hclosed
  | append_singleton front event ih =>
    obtain ⟨hfront, hevent⟩ := (along_append front [event]).mp hevents
    have hsound : (run (step setup.rt setup.adapter) start front).Sound setup :=
      run_preserves (I := fun w => w.Sound setup) (fun w event hw hevent =>
        (hw.next hrt hadapter hevent).1) hfront hstart
    rw [run_concat] at hclosed
    cases hbefore : ((run (step setup.rt setup.adapter) start front).endpoint role).closed with
    | true =>
      obtain ⟨before, call, after, reason, rfl, hfailed⟩ := ih hfront hbefore
      exact ⟨before, call, after ++ [event], reason, by simp, hfailed⟩
    | false =>
      obtain ⟨call, reason, rfl, hfailed⟩ :=
        (hsound.next hrt hadapter hevent.1).2 role hbefore hclosed
      exact ⟨front, call, [], reason, rfl, hfailed⟩

end SourceLink

/-- Two honest endpoints agree in every run of admissible calls and of deliveries, and an endpoint
is closed only when one of its own calls failed. -/
theorem honestEndpointsAgree (rt : WireRuntime) (adapter : LiepinSourceAdapter) (hrt : rt.Lawful)
    (hadapter : adapter.Lawful rt) (sessionId : String) (protocolMinor : Int)
    (mainToSidecarKey sidecarToMainKey : Bytes) (start : SourceLink)
    (hcreate : SourceLink.create adapter sessionId protocolMinor mainToSidecarKey sidecarToMainKey =
      .ok start)
    (events : List SourceLinkEvent)
    (hevents : Along (SourceLink.step rt adapter) SourceLinkEvent.Admissible start events) :
    (run (SourceLink.step rt adapter) start events).Agrees rt adapter ∧
      ∀ role, ((run (SourceLink.step rt adapter) start events).endpoint role).closed = true →
        SourceLink.CallFailed rt adapter start events role := by
  let setup : SourceSetup := {
    rt := rt
    adapter := adapter
    sessionId := sessionId
    protocolMinor := protocolMinor
    key := fun role => if role = .main then mainToSidecarKey else sidecarToMainKey }
  have hstart : start.Sound setup := SourceLink.sound_create rfl hcreate
  have hend : (run (SourceLink.step rt adapter) start events).Sound setup :=
    run_preserves (I := fun w => w.Sound setup) (fun w event hw hevent =>
      (hw.next hrt hadapter hevent).1) hevents hstart
  exact ⟨hend.agrees hrt hadapter, SourceLink.callFailed_of_closed hrt hadapter hstart
    (fun role => SourceLink.isOpen_create hcreate) hevents⟩

/-- The link of the sample session. -/
def sampleLink : SourceLink where
  endpoint := fun role => if role = .main then sampleEndpoint .main else sampleEndpoint .sidecar
  wire := fun _ => []
  encoded := fun _ => []
  accepted := fun _ => []

/-- The sample session is created. -/
lemma create_sampleLink :
    SourceLink.create sampleAdapter "session-1" 0 (sampleKey 1) (sampleKey 2) = .ok sampleLink := by
  unfold SourceLink.create
  simp only [bind_eq_ok, pure_eq_ok]
  exact ⟨_, create_sampleEndpoint .main, _, create_sampleEndpoint .sidecar, rfl⟩

/-- The details submit arrives: the theorem at the run that encodes it and delivers it in two
fragments. -/
theorem honestEndpointsAgree_sample :
    (run (SourceLink.step referenceRuntime sampleAdapter) sampleLink
      [.encode .main sampleCall, .deliver .sidecar 100, .deliver .sidecar 1048580]).Agrees
        referenceRuntime sampleAdapter ∧
      ∀ role, ((run (SourceLink.step referenceRuntime sampleAdapter) sampleLink
        [.encode .main sampleCall, .deliver .sidecar 100, .deliver .sidecar 1048580]).endpoint
          role).closed = true → SourceLink.CallFailed referenceRuntime sampleAdapter sampleLink
        [.encode .main sampleCall, .deliver .sidecar 100, .deliver .sidecar 1048580] role := by
  have hadmissible : sampleCall.Admissible sampleLink :=
    ⟨fun _ _ h => absurd h List.not_mem_nil, by decide, floatFree_sampleCall⟩
  exact honestEndpointsAgree referenceRuntime sampleAdapter lawful_referenceRuntime
    lawful_sampleAdapter "session-1" 0 (sampleKey 1) (sampleKey 2) sampleLink create_sampleLink
    [.encode .main sampleCall, .deliver .sidecar 100, .deliver .sidecar 1048580]
    ⟨hadmissible, trivial, trivial, trivial⟩

/-- A call that the sidecar may not make: its message id is empty. -/
def refusedCall : EncodeCall :=
  { sampleCall with messageId := "" }

/-- A frame that was encoded is not accepted when its receiver has closed itself by a refused
call. -/
theorem encoded_frame_refused :
    let w := run (SourceLink.step referenceRuntime sampleAdapter) sampleLink
      [.encode .main sampleCall, .encode .sidecar refusedCall, .deliver .sidecar 1048580]
    SourceLink.create sampleAdapter "session-1" 0 (sampleKey 1) (sampleKey 2) = .ok sampleLink ∧
      (w.encoded .main).length = 1 ∧ w.wire .main = [] ∧ w.accepted .sidecar = [] := by
  obtain ⟨frame, sent, hsent⟩ :=
    exists_encodeCall_sample (s := sampleLink.endpoint .main) sendsSample_main
  have hlength : frame.frame.length ≤ 1048580 := by
    let setup : SourceSetup := ⟨referenceRuntime, sampleAdapter, "session-1", 0, fun _ => []⟩
    have hcall : EncodesCall setup (sampleEndpoint .main) sent sampleCall frame :=
      encodesCall_of_ok lawful_sampleAdapter hsent
    obtain ⟨_, _, body, hencodes⟩ := FrameSession.encodeEnvelope_spec hcall.encodes
    have hfits : body.length ≤ 1048576 := hencodes.sameLength.trans_le hencodes.fits
    rw [hencodes.frame, List.length_append, length_toBytesBig]
    omega
  have hrefused : LiepinSourceSession.encodeCall referenceRuntime sampleAdapter
      (sampleEndpoint .sidecar) refusedCall = (.error "liepin_source_schema_validation",
        (sampleEndpoint .sidecar).close "liepin_source_schema_validation") := by
    have hname : refusedCall.messageId ≠ sampleEnvelope.messageId := by decide +kernel
    have hinvalid : sampleAdapter.validatePython
        ((sampleEndpoint .sidecar).buildEnvelope 1 refusedCall) = none := by
      have hnot : ¬ isSampleEnvelope ((sampleEndpoint .sidecar).buildEnvelope 1 refusedCall) =
          true := by
        intro hsample
        have hbuilt := eq_sampleEnvelope hsample
        exact hname (congrArg FrameEnvelope.messageId hbuilt)
      simp only [sampleAdapter, hnot, Bool.false_eq_true, if_false]
    have hopen : ¬ (sampleEndpoint .sidecar).closed = true := Bool.false_ne_true
    have hsequence : FrameSession.requireSendSequence (sampleEndpoint .sidecar) = .ok 1 := rfl
    unfold LiepinSourceSession.encodeCall
    rw [if_neg hopen, hsequence]
    dsimp only
    rw [hinvalid]
  have hfirst : sampleLink.step referenceRuntime sampleAdapter (.encode .main sampleCall) =
      { sampleLink with
        endpoint := Function.update sampleLink.endpoint .main sent
        wire := Function.update sampleLink.wire .main frame.frame
        encoded := Function.update sampleLink.encoded .main [frame] } := by
    rw [SourceLink.step, hsent]
    rfl
  refine ⟨create_sampleLink, ?_⟩
  rw [run_cons, run_cons, run_cons, run_nil, hfirst]
  generalize hw₁ : ({ sampleLink with
        endpoint := Function.update sampleLink.endpoint .main sent
        wire := Function.update sampleLink.wire .main frame.frame
        encoded := Function.update sampleLink.encoded .main [frame] } : SourceLink) = w₁
  have hsidecar : w₁.endpoint .sidecar = sampleEndpoint .sidecar := by
    subst hw₁
    rfl
  have hsecond : w₁.step referenceRuntime sampleAdapter (.encode .sidecar refusedCall) =
      { w₁ with
        endpoint := Function.update w₁.endpoint .sidecar
          ((sampleEndpoint .sidecar).close "liepin_source_schema_validation") } := by
    rw [SourceLink.step, hsidecar, hrefused]
  rw [hsecond]
  subst hw₁
  refine ⟨rfl, ?_, ?_⟩
  · exact List.drop_eq_nil_of_le hlength
  · simp [SourceLink.step, FrameSession.feed, FrameSession.close,
      FrameSession.feedDone, sampleLink]

end SeekTalent.SourcePort
