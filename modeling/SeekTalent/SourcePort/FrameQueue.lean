import SeekTalent.SourcePort.FrameStream

/-!
# A session reads a queue of frames

When the bytes that come in are those of a queue of frames, each of which the session can decode and
accept at its turn, no byte is refused: `feedBytes_queue` gives the frames that were taken from the
queue and those that are left.  What is buffered counts as not taken, so the buffered bytes and the
bytes still to come always make up whole frames.
-/

namespace SeekTalent.SourcePort

open Foundation

namespace FrameSession

variable {P Q S : Type} {rt : WireRuntime} {c : FrameContract P Q S} {s : FrameSession Q S}
variable {wire : Bytes}

/-- The buffered bytes and the bytes to come are the frames of a queue. -/
structure Awaits (s : FrameSession Q S) (wire : Bytes) (queue : List (EncodedFrame P)) : Prop where
  buffered : Buffered s
  fits : ∀ frameLength, s.expectedBodyLength = some frameLength → frameLength < 256 ^ 4
  bytes : s.bufferBytes ++ wire = queue.flatMap EncodedFrame.frame

/-- A frame with a body of a length that is admitted. -/
structure Framed (c : FrameContract P Q S) (frame : EncodedFrame P) (body : Bytes) : Prop where
  frame : frame.frame = toBytesBig 4 body.length ++ body
  pos : 0 < body.length
  fits : body.length ≤ c.maxFrameBytes

variable {frame : EncodedFrame P}

/-- The length of an admitted body fits the header. -/
lemma Framed.lt {body : Bytes} (h : Framed c frame body) :
    body.length < 256 ^ 4 :=
  lt_of_le_of_lt h.fits c.frameLengthFits

variable {queue : List (EncodedFrame P)}

/-- A header that the queue completes is that of its first frame. -/
lemma Awaits.openBody {byte : UInt8} (hs : s.Awaits (byte :: wire) (frame :: queue)) {body : Bytes}
    (hframe : Framed c frame body) (hnone : s.expectedBodyLength = none)
    (hfull : (s.header ++ [byte]).length = 4) :
    feedByte rt c s byte = feedDone (s.withBuffer [] s.body (some body.length)) ∧
      (s.withBuffer [] s.body (some body.length)).Awaits wire (frame :: queue) := by
  have hbytes : (s.header ++ [byte]) ++ wire =
      toBytesBig 4 body.length ++ (body ++ queue.flatMap EncodedFrame.frame) := by
    have h := hs.bytes
    rw [List.flatMap_cons, hframe.frame, bufferBytes, hnone] at h
    simpa using h
  obtain ⟨hheader, hrest⟩ := List.append_inj hbytes (by rw [hfull, length_toBytesBig])
  have hlength : fromBytesBig (s.header ++ [byte]) = body.length := by
    rw [hheader, fromBytesBig_toBytesBig hframe.lt]
  have hpos := hframe.pos
  have hfits := hframe.fits
  have hbody : s.body = [] := hs.buffered.awaitsHeader hnone
  constructor
  · unfold feedByte FrameSession.openBody
    simp only [hnone, hfull, lt_irrefl, if_false, hlength]
    rw [if_neg (by omega), if_neg (by omega)]
    rfl
  · refine ⟨⟨by simp [withBuffer], fun h => by simp [withBuffer] at h, fun n h => ?_⟩,
      fun n h => ?_, ?_⟩
    · obtain rfl : body.length = n := by simpa [withBuffer] using h
      exact ⟨rfl, by simpa [withBuffer, hbody] using hpos⟩
    · obtain rfl : body.length = n := by simpa [withBuffer] using h
      exact hframe.lt
    · simp only [bufferBytes, withBuffer]
      rw [hbody, List.append_nil, hrest, List.flatMap_cons, hframe.frame, List.append_assoc]

/-- A body that is read is that of the first frame of the queue. -/
lemma Awaits.body {byte : UInt8} (hs : s.Awaits (byte :: wire) (frame :: queue)) {body : Bytes}
    (hframe : Framed c frame body) {frameLength : Nat}
    (hsome : s.expectedBodyLength = some frameLength) :
    frameLength = body.length ∧
      s.body ++ byte :: wire = body ++ queue.flatMap EncodedFrame.frame := by
  have hbytes : toBytesBig 4 frameLength ++ (s.body ++ byte :: wire) =
      toBytesBig 4 body.length ++ (body ++ queue.flatMap EncodedFrame.frame) := by
    have h := hs.bytes
    rw [List.flatMap_cons, hframe.frame, bufferBytes, hsome] at h
    simpa using h
  obtain ⟨hheader, hrest⟩ :=
    List.append_inj hbytes (by rw [length_toBytesBig, length_toBytesBig])
  refine ⟨?_, hrest⟩
  have hcodes := congrArg fromBytesBig hheader
  rwa [fromBytesBig_toBytesBig (hs.fits frameLength hsome),
    fromBytesBig_toBytesBig hframe.lt] at hcodes

variable (rt) in
/-- One byte of a queue: it is buffered, or it completes the first frame. -/
lemma Awaits.feedByte {byte : UInt8}
    (hs : s.Awaits (byte :: wire) (frame :: queue)) {body : Bytes} (hframe : Framed c frame body) :
    (∃ header buffered expected,
      feedByte rt c s byte = feedDone (s.withBuffer header buffered expected) ∧
      (s.withBuffer header buffered expected).Awaits wire (frame :: queue)) ∨
    (feedByte rt c s byte = acceptBody rt c (s.withBuffer [] [] none) body body.length ∧
      wire = queue.flatMap EncodedFrame.frame) := by
  rcases hexpected : s.expectedBodyLength with _ | frameLength
  · by_cases hshort : (s.header ++ [byte]).length < 4
    · refine Or.inl ⟨s.header ++ [byte], s.body, none, ?_, ?_⟩
      · simp only [FrameSession.feedByte, hexpected, if_pos hshort]
        simp [withBuffer]
      · refine ⟨⟨hshort, fun _ => hs.buffered.awaitsHeader hexpected, fun n h => ?_⟩, fun n h => ?_,
          ?_⟩
        · simp [withBuffer] at h
        · simp [withBuffer] at h
        · have h := hs.bytes
          rw [bufferBytes, hexpected] at h
          simpa [bufferBytes, withBuffer] using h
    · have hlt : s.header.length < 4 := hs.buffered.header
      have hfull : (s.header ++ [byte]).length = 4 := by
        simp only [List.length_append, List.length_singleton] at hshort ⊢
        omega
      exact Or.inl ⟨[], s.body, some body.length, hs.openBody hframe hexpected hfull⟩
  · obtain ⟨hheader, hlt⟩ := hs.buffered.awaitsBody frameLength hexpected
    obtain ⟨rfl, hrest⟩ := hs.body hframe hexpected
    by_cases hshort : (s.body ++ [byte]).length < body.length
    · refine Or.inl ⟨s.header, s.body ++ [byte], some body.length, ?_, ?_⟩
      · simp only [FrameSession.feedByte, hexpected, if_pos hshort]
        simp [withBuffer]
      · refine ⟨⟨hs.buffered.header, fun h => by simp [withBuffer] at h, fun n h => ?_⟩,
          fun n h => ?_,
          ?_⟩
        · obtain rfl : body.length = n := by simpa [withBuffer] using h
          exact ⟨hheader, hshort⟩
        · obtain rfl : body.length = n := by simpa [withBuffer] using h
          exact hframe.lt
        · simp only [bufferBytes, withBuffer, List.append_assoc, List.singleton_append]
          rw [hrest, List.flatMap_cons, hframe.frame, List.append_assoc]
    · have hfull : (s.body ++ [byte]).length = body.length := by
        simp only [List.length_append, List.length_singleton] at hshort ⊢
        omega
      have hsplit : (s.body ++ [byte]) ++ wire = body ++ queue.flatMap EncodedFrame.frame := by
        rw [List.append_assoc]
        exact hrest
      obtain ⟨hbody, hwire⟩ := List.append_inj hsplit hfull
      refine Or.inr ⟨?_, hwire⟩
      simp only [FrameSession.feedByte, hexpected, if_neg hshort]
      rw [hbody, hheader]
      rfl

/-- A session that awaits nothing has nothing to read. -/
lemma Awaits.nil (hs : s.Awaits wire ([] : List (EncodedFrame P))) : wire = [] := by
  have h := hs.bytes
  rw [List.flatMap_nil, List.append_eq_nil_iff] at h
  exact h.2

/-- A session that has nothing to read awaits nothing: it never holds a whole frame. -/
lemma Awaits.of_nil (hs : s.Awaits [] queue)
    (hframes : ∀ frame ∈ queue, ∃ body, Framed c frame body) : queue = [] := by
  rcases queue with _ | ⟨frame, queue⟩
  · rfl
  exfalso
  obtain ⟨body, hframe⟩ := hframes frame List.mem_cons_self
  have hbytes : s.bufferBytes =
      toBytesBig 4 body.length ++ (body ++ queue.flatMap EncodedFrame.frame) := by
    have h := hs.bytes
    rw [List.flatMap_cons, hframe.frame] at h
    simpa using h
  rcases hexpected : s.expectedBodyLength with _ | frameLength
  · have hheader := hs.buffered.header
    rw [bufferBytes, hexpected] at hbytes
    have hlength := congrArg List.length hbytes
    simp only [List.length_append, length_toBytesBig] at hlength
    omega
  · obtain ⟨-, hlt⟩ := hs.buffered.awaitsBody frameLength hexpected
    rw [bufferBytes, hexpected] at hbytes
    obtain ⟨hheader, hrest⟩ :=
      List.append_inj hbytes (by rw [length_toBytesBig, length_toBytesBig])
    have hcodes := congrArg fromBytesBig hheader
    rw [fromBytesBig_toBytesBig (hs.fits frameLength hexpected), fromBytesBig_toBytesBig hframe.lt]
      at hcodes
    have hlength := congrArg List.length hrest
    simp only [List.length_append] at hlength
    omega

variable (rt c) in
/-- The rule of a queue: when `I` says of a session, of what it has received and of the frames to
come that the next frame is decoded and accepted and that `I` holds behind it, a stream of the bytes
of the frames is not refused. -/
theorem feedBytes_queue
    (I : FrameSession Q S → List (FrameEnvelope P) → List (EncodedFrame P) → Prop)
    (hbuffer : ∀ s header body expected received queue, I s received queue →
      I (s.withBuffer header body expected) received queue)
    (haccept : ∀ s received frame queue, I s received (frame :: queue) → ∃ body e verified after,
      Framed c frame body ∧ decodeEnvelope rt c s body body.length = .ok (e, verified) ∧
      acceptEnvelope c s e = .ok after ∧ I after (received ++ [e]) queue)
    (data : Bytes) {received : List (FrameEnvelope P)}
    (hs : s.Awaits (data ++ wire) queue) (hI : I s received queue) :
    ∃ left, (feedBytes rt c s data).failure = none ∧
      (feedBytes rt c s data).session.Awaits wire left ∧
      I (feedBytes rt c s data).session
        (received ++ (feedBytes rt c s data).accepted.map Prod.fst) left := by
  induction data generalizing s received queue with
  | nil => exact ⟨queue, rfl, hs, by simpa [feedBytes, feedDone] using hI⟩
  | cons byte rest ih =>
    rcases queue with _ | ⟨frame, queue⟩
    · exact absurd hs.nil (by simp)
    obtain ⟨body, e, verified, after, hframe, hdecode, hafter, hnext⟩ :=
      haccept _ received frame queue (hbuffer s [] [] none _ _ hI)
    rcases hs.feedByte rt hframe with ⟨_, _, _, hstep, hawaits⟩ | ⟨hstep, hwire⟩
    · rw [feedBytes, hstep, feedDone_andThen]
      exact ih hawaits (hbuffer s _ _ _ _ _ hI)
    · have hbyte : FrameSession.feedByte rt c s byte = ⟨after, [(e, (e.replyTo.bind
          s.pendingRequests.lookup).map PendingRequest.request)], [verified], none⟩ := by
        rw [hstep, acceptBody, hdecode]
        simp only [hafter]
        rfl
      have hafterAwaits : after.Awaits (rest ++ wire) queue := by
        obtain ⟨-, _, _, -, -, rfl⟩ := acceptEnvelope_eq_ok.mp hafter
        exact ⟨⟨by simp [withBuffer], fun _ => rfl, fun _ h => by simp [withBuffer] at h⟩,
          fun _ h => by simp [withBuffer] at h, hwire⟩
      obtain ⟨left, hfailure, hawaits, hleft⟩ := ih hafterAwaits hnext
      rw [feedBytes, hbyte, FeedOutcome.andThen_of_none rfl]
      refine ⟨left, hfailure, hawaits, ?_⟩
      rw [List.append_assoc] at hleft
      exact hleft

end FrameSession

end SeekTalent.SourcePort
