import SeekTalent.Foundation.Machine
import SeekTalent.SourcePort.FrameDelivery

/-!
# The pieces of a stream

A peer writes a stream of bytes, and the pieces in which it arrives are an accident of the
transport. `feedAll` feeds a session the pieces one after another.  Whatever the pieces are, the
session ends in the same state and returns the same messages, and at the end both checks of the
frame boundary say whether the stream, behind what was buffered before it, consists of whole frames
(`feedAll_chunking_invariant`).
-/

namespace SeekTalent.SourcePort

open Foundation

/-! ## Whole frames -/

/-- Every length that a header of four bytes spells is below `256 ^ 4`. -/
theorem fromBytesBig_lt (value : Bytes) : fromBytesBig value < 256 ^ value.length := by
  induction value using List.reverseRecOn with
  | nil => exact Nat.one_pos
  | append_singleton value byte ih =>
    unfold fromBytesBig at ih ⊢
    rw [List.foldl_append, List.length_append, List.length_singleton, pow_succ]
    have hbyte : byte.toNat < 256 := byte.toNat_lt
    simp only [List.foldl_cons, List.foldl_nil]
    omega

/-- Writing a number back to the bytes it was read from. -/
theorem toBytesBig_fromBytesBig (value : Bytes) :
    toBytesBig value.length (fromBytesBig value) = value := by
  induction value using List.reverseRecOn with
  | nil => rfl
  | append_singleton value byte ih =>
    have hbyte : byte.toNat < 256 := byte.toNat_lt
    have hread : fromBytesBig (value ++ [byte]) = fromBytesBig value * 256 + byte.toNat := by
      unfold fromBytesBig
      rw [List.foldl_append]
      rfl
    have hhigh : (fromBytesBig value * 256 + byte.toNat) / 256 = fromBytesBig value := by omega
    have hlow : (fromBytesBig value * 256 + byte.toNat) % 256 = byte.toNat := by omega
    rw [List.length_append, List.length_singleton, toBytesBig, hread, hhigh, hlow, ih,
      UInt8.ofNat_toNat]

/-- A body that a frame can have: it is not empty, and four bytes hold its length. -/
def FrameBody (body : Bytes) : Prop :=
  body ≠ [] ∧ body.length < 256 ^ 4

/-- The bytes of frames, one after another. -/
def frameBytes (bodies : List Bytes) : Bytes :=
  bodies.flatMap lengthPrefix

/-- A stream that ends on a frame boundary. -/
def WholeFrames (stream : Bytes) : Prop :=
  ∃ bodies, (∀ body ∈ bodies, FrameBody body) ∧ stream = frameBytes bodies

/-- The bytes of a frame that is not complete: a part of its header, or its header and a part of its
body. -/
inductive PartialFrame : Bytes → Prop
  | header {bytes : Bytes} (short : bytes.length < 4) : PartialFrame bytes
  | body {frameLength : Nat} {bytes : Bytes} (fits : frameLength < 256 ^ 4)
      (short : bytes.length < frameLength) : PartialFrame (toBytesBig 4 frameLength ++ bytes)

/-- No frame begins the bytes of a partial one. -/
lemma PartialFrame.ne_append {rest body tail : Bytes} (h : PartialFrame rest)
    (hbody : FrameBody body) : rest ≠ lengthPrefix body ++ tail := by
  intro heq
  have hlength := congrArg List.length heq
  unfold lengthPrefix at heq hlength
  rw [List.length_append, List.length_append, length_toBytesBig] at hlength
  cases h with
  | header hshort => omega
  | @body frameLength bytes hfits hshort =>
    rw [List.append_assoc] at heq
    have hheader := (List.append_inj heq (by rw [length_toBytesBig, length_toBytesBig])).1
    obtain rfl : frameLength = body.length := toBytesBig_inj hfits hbody.2 hheader
    rw [List.length_append, length_toBytesBig] at hlength
    omega

/-- A stream of whole frames and a partial one is a stream of whole frames only if the partial one
is empty. -/
lemma wholeFrames_append_iff {bodies : List Bytes} {rest : Bytes}
    (hbodies : ∀ body ∈ bodies, FrameBody body)
    (hrest : PartialFrame rest) : WholeFrames (frameBytes bodies ++ rest) ↔ rest = [] := by
  constructor
  · rintro ⟨others, hothers, heq⟩
    induction bodies generalizing others with
    | nil =>
      cases others with
      | nil => exact heq
      | cons first later =>
        rw [List.forall_mem_cons] at hothers
        exact absurd heq (hrest.ne_append hothers.1)
    | cons body bodies ih =>
      rw [List.forall_mem_cons] at hbodies
      have hsplit : lengthPrefix body ++ (frameBytes bodies ++ rest) = frameBytes others := by
        rw [← List.append_assoc]
        exact heq
      cases others with
      | nil =>
        have hnil := congrArg List.length hsplit
        unfold lengthPrefix at hnil
        rw [List.length_append, List.length_append, length_toBytesBig] at hnil
        simp only [frameBytes, List.flatMap_nil, List.length_nil] at hnil
        omega
      | cons first later =>
        rw [List.forall_mem_cons] at hothers
        have hframes : lengthPrefix body ++ (frameBytes bodies ++ rest) =
            lengthPrefix first ++ frameBytes later := hsplit
        unfold lengthPrefix at hframes
        rw [List.append_assoc, List.append_assoc] at hframes
        obtain ⟨hheader, hbehind⟩ :=
          List.append_inj hframes (by rw [length_toBytesBig, length_toBytesBig])
        have hlength : body.length = first.length :=
          toBytesBig_inj hbodies.1.2 hothers.1.2 hheader
        obtain ⟨-, hlater⟩ := List.append_inj hbehind hlength
        exact ih hbodies.2 later hothers.2 hlater
  · rintro rfl
    exact ⟨bodies, hbodies, List.append_nil _⟩

/-! ## What a session has not decoded -/

namespace FrameSession

variable {P Q S : Type} {rt : WireRuntime} {c : FrameContract P Q S} {s : FrameSession Q S}

/-- Between two bytes a session reads a partial frame, whose length four bytes hold. -/
structure Reading (s : FrameSession Q S) : Prop extends Buffered s where
  fits : ∀ frameLength, s.expectedBodyLength = some frameLength → frameLength < 256 ^ 4

/-- What is read is a partial frame. -/
lemma Reading.partialFrame (h : Reading s) : PartialFrame s.bufferBytes := by
  unfold bufferBytes
  cases hexpected : s.expectedBodyLength with
  | none => exact .header h.header
  | some frameLength =>
    exact .body (h.fits frameLength hexpected) (h.awaitsBody frameLength hexpected).2

/-- The buffers are empty when nothing is read. -/
lemma Reading.bufferBytes_eq_nil_iff (h : Reading s) :
    s.bufferBytes = [] ↔ ¬ (s.header ≠ [] ∨ s.body ≠ [] ∨ s.expectedBodyLength ≠ none) := by
  unfold bufferBytes
  cases hexpected : s.expectedBodyLength with
  | none => simp [h.awaitsHeader hexpected]
  | some frameLength =>
    have hne : toBytesBig 4 frameLength ++ s.body ≠ [] := by
      intro hnil
      have hlength := congrArg List.length hnil
      rw [List.length_append, length_toBytesBig, List.length_nil] at hlength
      omega
    simp [hne]

/-- A closed session reads nothing. -/
lemma reading_close (s : FrameSession Q S) (reason : Option String) : (s.close reason).Reading where
  header := by simp [close]
  awaitsHeader := fun _ => rfl
  awaitsBody := fun _ h => (nomatch h)
  fits := fun _ h => (nomatch h)

/-- A header that is not refused opens a body of its length. -/
lemma openBody_of_not_failed {header : Bytes} (hok : (openBody c s header).failure = none) :
    fromBytesBig header ≠ 0 ∧ (openBody c s header).session =
      { s with header := [], expectedBodyLength := some (fromBytesBig header) } := by
  unfold openBody at hok ⊢
  dsimp only at hok ⊢
  by_cases hzero : fromBytesBig header = 0
  · rw [if_pos hzero] at hok
    cases hok
  · rw [if_neg hzero] at hok ⊢
    by_cases hlarge : c.maxFrameBytes < fromBytesBig header
    · rw [if_pos hlarge] at hok
      cases hok
    · rw [if_neg hlarge]
      exact ⟨hzero, rfl⟩

/-- A body that is not refused leaves the buffers as they are. -/
lemma acceptBody_of_not_failed {body : Bytes} {frameLength : Nat}
    (hok : (acceptBody rt c s body frameLength).failure = none) :
    (acceptBody rt c s body frameLength).session.bufferBytes = s.bufferBytes ∧
      (acceptBody rt c s body frameLength).session.expectedBodyLength = s.expectedBodyLength := by
  rcases acceptBody_cases body frameLength with
    ⟨verified, reason, hrefused⟩ | ⟨e, verified, after, _, -, haccept, -, haccepted⟩
  · rw [hrefused] at hok
    cases hok
  · rw [haccepted]
    obtain ⟨-, _, _, -, -, rfl⟩ := acceptEnvelope_eq_ok.mp haccept
    exact ⟨rfl, rfl⟩

/-- One byte that is not refused is read: it belongs to the frame that is being read, or completes
it. -/
lemma Reading.feedByte (h : Reading s) (byte : UInt8)
    (hok : (FrameSession.feedByte rt c s byte).failure = none) :
    (FrameSession.feedByte rt c s byte).session.Reading ∧
      ∃ bodies, (∀ body ∈ bodies, FrameBody body) ∧ s.bufferBytes ++ [byte] =
        frameBytes bodies ++ (FrameSession.feedByte rt c s byte).session.bufferBytes := by
  have hbuffered : (FrameSession.feedByte rt c s byte).session.Buffered :=
    buffered_feedByte h.toBuffered byte
  unfold FrameSession.feedByte at hok hbuffered ⊢
  cases hexpected : s.expectedBodyLength with
  | none =>
    have hbuffer : s.bufferBytes = s.header := by
      unfold bufferBytes
      rw [hexpected]
    simp only [hexpected] at hok hbuffered ⊢
    by_cases hshort : (s.header ++ [byte]).length < 4
    · rw [if_pos hshort] at hbuffered ⊢
      refine ⟨⟨hbuffered, fun _ hsome => (nomatch hsome)⟩, [], by simp, ?_⟩
      rw [hbuffer]
      simp [frameBytes, bufferBytes, feedDone]
    · rw [if_neg hshort] at hok hbuffered ⊢
      obtain ⟨-, hopened⟩ := openBody_of_not_failed hok
      have hlength : (s.header ++ [byte]).length = 4 := by
        have hheader := h.header
        rw [List.length_append, List.length_singleton] at hshort ⊢
        omega
      have hfits : fromBytesBig (s.header ++ [byte]) < 256 ^ 4 := by
        have hlt := fromBytesBig_lt (s.header ++ [byte])
        rwa [hlength] at hlt
      have hwritten := toBytesBig_fromBytesBig (s.header ++ [byte])
      rw [hlength] at hwritten
      refine ⟨⟨hbuffered, fun frameLength hsome => ?_⟩, [], by simp, ?_⟩
      · rw [hopened] at hsome
        obtain rfl : fromBytesBig (s.header ++ [byte]) = frameLength := Option.some.inj hsome
        exact hfits
      · rw [hbuffer, hopened]
        simp only [frameBytes, bufferBytes, List.flatMap_nil, List.nil_append,
          h.awaitsHeader hexpected, List.append_nil]
        exact hwritten.symm
  | some frameLength =>
    obtain ⟨hheader, hbody⟩ := h.awaitsBody frameLength hexpected
    have hfits : frameLength < 256 ^ 4 := h.fits frameLength hexpected
    have hbuffer : s.bufferBytes = toBytesBig 4 frameLength ++ s.body := by
      unfold bufferBytes
      rw [hexpected]
    simp only [hexpected] at hok hbuffered ⊢
    by_cases hshort : (s.body ++ [byte]).length < frameLength
    · rw [if_pos hshort] at hbuffered ⊢
      refine ⟨⟨hbuffered, fun _ hsome => ?_⟩, [], by simp, ?_⟩
      · obtain rfl := Option.some.inj hsome
        exact hfits
      · rw [hbuffer]
        simp [frameBytes, bufferBytes, feedDone]
    · rw [if_neg hshort] at hok hbuffered ⊢
      have hlength : (s.body ++ [byte]).length = frameLength := by
        rw [List.length_append, List.length_singleton] at hshort ⊢
        omega
      obtain ⟨hrest, hnone⟩ := acceptBody_of_not_failed hok
      refine ⟨⟨hbuffered, fun _ hsome => ?_⟩, [s.body ++ [byte]], ?_, ?_⟩
      · rw [hnone] at hsome
        cases hsome
      · intro body hmem
        obtain rfl := List.mem_singleton.mp hmem
        refine ⟨by simp, ?_⟩
        rw [hlength]
        exact hfits
      · rw [hbuffer, hrest]
        simp only [frameBytes, lengthPrefix, bufferBytes, List.flatMap_cons, List.flatMap_nil,
          hlength, hheader, List.append_nil, List.append_assoc]

/-- A stream that is not refused is read: whole frames, and the one that is being read. -/
lemma Reading.feedBytes (h : Reading s) (data : Bytes)
    (hok : (FrameSession.feedBytes rt c s data).failure = none) :
    (FrameSession.feedBytes rt c s data).session.Reading ∧
      ∃ bodies, (∀ body ∈ bodies, FrameBody body) ∧ s.bufferBytes ++ data =
        frameBytes bodies ++ (FrameSession.feedBytes rt c s data).session.bufferBytes := by
  induction data generalizing s with
  | nil => exact ⟨h, [], by simp, by simp [FrameSession.feedBytes, frameBytes, feedDone]⟩
  | cons byte rest ih =>
    rw [FrameSession.feedBytes] at hok ⊢
    cases hfirst : (FrameSession.feedByte rt c s byte).failure with
    | some reason =>
      rw [FeedOutcome.andThen_of_failure hfirst, hfirst] at hok
      cases hok
    | none =>
      rw [FeedOutcome.andThen_of_none hfirst] at hok ⊢
      obtain ⟨hread, bodies, hbodies, hbyte⟩ := h.feedByte byte hfirst
      obtain ⟨hreading, others, hothers, hrest⟩ := ih hread hok
      refine ⟨hreading, bodies ++ others, fun body hmem => ?_, ?_⟩
      · exact (List.mem_append.mp hmem).elim (hbodies body) (hothers body)
      · calc s.bufferBytes ++ byte :: rest = (s.bufferBytes ++ [byte]) ++ rest := by simp
          _ = frameBytes bodies ++
              ((FrameSession.feedByte rt c s byte).session.bufferBytes ++ rest) := by
            rw [hbyte, List.append_assoc]
          _ = frameBytes (bodies ++ others) ++ _ := by
            rw [hrest, frameBytes, frameBytes, frameBytes, List.flatMap_append, List.append_assoc]

/-! ## Consecutive calls -/

/-- What consecutive calls of `feed` do: the session after them, the messages they have returned,
and the first reason that one of them has raised for. -/
structure FedChunks (P Q S : Type) where
  session : FrameSession Q S
  returned : List (FrameEnvelope P × Option Q)
  failure : Option String

variable (rt c) in
/-- Consecutive calls of `feed`, whatever they raise.  A call that raises returns nothing. -/
def feedAll (s : FrameSession Q S) : List Bytes → FedChunks P Q S
  | [] => ⟨s, [], none⟩
  | chunk :: rest =>
    let first := feed rt c s chunk
    let later := feedAll first.session rest
    { session := later.session
      returned := (if first.failure = none then first.accepted else []) ++ later.returned
      failure := first.failure <|> later.failure }

variable (rt c) in
/-- A closed session stays as it is. -/
lemma feedAll_of_closed (hclosed : s.closed = true) (chunks : List Bytes) :
    (feedAll rt c s chunks).session = s ∧ (feedAll rt c s chunks).returned = [] := by
  induction chunks with
  | nil => exact ⟨rfl, rfl⟩
  | cons chunk rest ih =>
    have hfirst : feed rt c s chunk =
        { feedDone s with failure := some "source_port_session_closed" } := by
      unfold feed
      rw [if_pos hclosed]
    unfold feedAll
    rw [hfirst]
    exact ⟨ih.1, by simpa [feedDone] using ih.2⟩

/-- A stream that is not refused leaves the session open. -/
lemma feedBytes_open {data : Bytes} (hopen : s.closed = false)
    (hok : (feedBytes rt c s data).failure = none) :
    (feedBytes rt c s data).session.closed = false := by
  induction data generalizing s with
  | nil => exact hopen
  | cons byte rest ih =>
    obtain ⟨header, body, expected, hcases⟩ := feedByte_cases rt c s byte
    rcases hcases with hstep | ⟨verified, reason, hstep⟩ |
      ⟨frame, frameLength, e, verified, after, -, hafter, hstep⟩
    · rw [feedBytes, hstep, feedDone_andThen] at hok ⊢
      exact ih hopen hok
    · rw [feedBytes, hstep, FeedOutcome.andThen_of_failure rfl] at hok
      cases hok
    · rw [feedBytes, hstep, FeedOutcome.andThen_of_none rfl] at hok ⊢
      obtain ⟨-, _, _, -, -, rfl⟩ := acceptEnvelope_eq_ok.mp hafter
      exact ih hopen hok

variable (rt c) in
/-- The pieces of a stream are the stream. -/
theorem feedAll_of_open (hs : Buffered s) (hopen : s.closed = false) (chunks : List Bytes) :
    (feedAll rt c s chunks).session = (feedBytes rt c s chunks.flatten).session ∧
      (feedAll rt c s chunks).failure = (feedBytes rt c s chunks.flatten).failure ∧
      ((feedAll rt c s chunks).failure = none →
        (feedAll rt c s chunks).returned = (feedBytes rt c s chunks.flatten).accepted) := by
  induction chunks generalizing s with
  | nil => exact ⟨rfl, rfl, fun _ => rfl⟩
  | cons chunk rest ih =>
    have hfirst : feed rt c s chunk = feedBytes rt c s chunk := feed_eq_feedBytes hs hopen chunk
    rw [List.flatten_cons, feedBytes_append]
    unfold feedAll
    rw [hfirst]
    dsimp only
    cases hfailure : (feedBytes rt c s chunk).failure with
    | some reason =>
      obtain ⟨hclosed, -⟩ := feedBytes_of_failure hfailure
      rw [FeedOutcome.andThen_of_failure hfailure]
      exact ⟨(feedAll_of_closed rt c hclosed rest).1, hfailure.symm, fun h => (nomatch h)⟩
    | none =>
      have hbuffered : (feedBytes rt c s chunk).session.Buffered := buffered_feedBytes hs chunk
      have hstill : (feedBytes rt c s chunk).session.closed = false := feedBytes_open hopen hfailure
      obtain ⟨hsession, hfail, hreturned⟩ := ih hbuffered hstill
      rw [FeedOutcome.andThen_of_none hfailure]
      refine ⟨hsession, hfail, fun hnone => ?_⟩
      rw [if_pos rfl]
      exact congrArg _ (hreturned hnone)

/-- The two checks of the frame boundary raise for the same reason. -/
lemma feedEof_eq_requireFrameBoundary (s : FrameSession Q S) :
    (feedEof s).1 = (requireFrameBoundary s).1 := by
  unfold feedEof requireFrameBoundary
  split
  · rfl
  · split <;> rfl

/-- The checks of the frame boundary pass on an open session that reads nothing. -/
lemma Reading.feedEof_eq_none_iff (h : Reading s) (hopen : s.closed = false) :
    (feedEof s).1 = none ↔ s.bufferBytes = [] := by
  rw [h.bufferBytes_eq_nil_iff]
  unfold feedEof
  rw [hopen, if_neg Bool.false_ne_true]
  split
  next hrest => simp only [reduceCtorEq, false_iff, not_not]; exact hrest
  next hrest => simp only [true_iff]; exact hrest

/-! ## Sessions in use -/

/-- A public call of a session. -/
inductive SessionCall (P : Type) where
  | encode (envelope : FrameEnvelope P)
  | feed (data : Bytes)
  | feedEof
  | requireFrameBoundary

variable (rt c) in
/-- The session after a call, whether it raises or not. -/
def afterCall (s : FrameSession Q S) : SessionCall P → FrameSession Q S
  | .encode envelope => (encode rt c s envelope).2
  | .feed data => (FrameSession.feed rt c s data).session
  | .feedEof => (FrameSession.feedEof s).2
  | .requireFrameBoundary => (FrameSession.requireFrameBoundary s).2

variable (rt c) in
/-- A session in a state that calls have brought it to. -/
def Reachable (s : FrameSession Q S) : Prop :=
  ∃ role sessionId protocolMinor mainToSidecarKey sidecarToMainKey created calls,
    create c role sessionId protocolMinor mainToSidecarKey sidecarToMainKey = .ok created ∧
      s = run (afterCall rt c) created calls

/-- A stream that is refused leaves nothing to read. -/
lemma reading_of_refused {data : Bytes} {reason : String}
    (h : (feedBytes rt c s data).failure = some reason) :
    (feedBytes rt c s data).session.Reading := by
  induction data generalizing s with
  | nil => cases h
  | cons byte rest ih =>
    obtain ⟨header, body, expected, hcases⟩ := feedByte_cases rt c s byte
    rcases hcases with hstep | ⟨verified, refusal, hstep⟩ |
      ⟨frame, frameLength, e, verified, after, -, -, hstep⟩
    · rw [feedBytes, hstep, feedDone_andThen] at h ⊢
      exact ih h
    · rw [feedBytes, hstep, FeedOutcome.andThen_of_failure rfl]
      exact reading_close _ _
    · rw [feedBytes, hstep, FeedOutcome.andThen_of_none rfl] at h ⊢
      exact ih h

/-- Every call leaves a session that reads a partial frame. -/
lemma Reading.afterCall (h : Reading s) (call : SessionCall P) :
    (FrameSession.afterCall rt c s call).Reading := by
  have hstays : ∀ {t : FrameSession Q S}, t.header = s.header → t.body = s.body →
      t.expectedBodyLength = s.expectedBodyLength → t.Reading := by
    intro t hheader hbody hexpected
    refine ⟨⟨?_, ?_, ?_⟩, ?_⟩
    · rw [hheader]
      exact h.header
    · rw [hexpected, hbody]
      exact h.awaitsHeader
    · rw [hexpected, hheader, hbody]
      exact h.awaitsBody
    · rw [hexpected]
      exact h.fits
  cases call with
  | encode envelope =>
    unfold FrameSession.afterCall encode
    dsimp only
    split
    · exact h
    · cases hencode : encodeOpen rt c s envelope with
      | error reason => exact reading_close _ _
      | ok result =>
        obtain ⟨encoded, after⟩ := result
        obtain ⟨_, _, _, -, -, -, -, -, rfl⟩ := encodeOpen_eq_ok.mp hencode
        exact hstays rfl rfl rfl
  | feed data =>
    by_cases hclosed : s.closed = true
    · unfold FrameSession.afterCall FrameSession.feed
      dsimp only
      rw [if_pos hclosed]
      exact h
    · show (FrameSession.feed rt c s data).session.Reading
      rw [feed_eq_feedBytes h.toBuffered (Bool.eq_false_iff.mpr hclosed)]
      cases hfailure : (FrameSession.feedBytes rt c s data).failure with
      | none => exact (h.feedBytes data hfailure).1
      | some reason => exact reading_of_refused hfailure
  | feedEof =>
    unfold FrameSession.afterCall FrameSession.feedEof
    dsimp only
    split
    · exact h
    · split
      · exact reading_close _ _
      · exact reading_close _ _
  | requireFrameBoundary =>
    unfold FrameSession.afterCall FrameSession.requireFrameBoundary
    dsimp only
    split
    · exact h
    · split
      · exact reading_close _ _
      · exact h

/-- A session in use reads a partial frame. -/
theorem Reachable.reading (h : Reachable rt c s) : s.Reading := by
  obtain ⟨role, sessionId, protocolMinor, mainKey, sidecarKey, created, calls, hcreated, rfl⟩ := h
  refine run_invariant (I := Reading) (fun t call ht => ht.afterCall call) ?_ calls
  unfold create at hcreated
  simp only [bind_eq_ok, require_eq_ok, pure_eq_ok] at hcreated
  obtain ⟨-, -, -, -, -, -, -, -, -, -, rfl⟩ := hcreated
  exact ⟨⟨by simp, fun _ => rfl, fun _ h => by cases h⟩, fun _ h => by cases h⟩

/-- Two ways of cutting a stream into pieces: the session ends in the same state, it has returned
the same messages if neither way raises, and an open one raises in both ways or in none, for the
same reason.  The checks of the frame boundary agree on the session after either; on an open one
they pass exactly if the stream, behind the bytes that were waiting before it, ends on a frame
boundary. -/
theorem feedAll_chunking_invariant (s : FrameSession Q S) (hs : Reachable rt c s)
    (chunks chunks' : List Bytes) (hsame : chunks.flatten = chunks'.flatten) :
    (feedAll rt c s chunks).session = (feedAll rt c s chunks').session ∧
      ((feedAll rt c s chunks).failure = none → (feedAll rt c s chunks').failure = none →
        (feedAll rt c s chunks).returned = (feedAll rt c s chunks').returned) ∧
      (s.closed = false → (feedAll rt c s chunks).failure = (feedAll rt c s chunks').failure) ∧
      (feedEof (feedAll rt c s chunks).session).1 =
        (requireFrameBoundary (feedAll rt c s chunks').session).1 ∧
      ((feedAll rt c s chunks).session.closed = false →
        ((feedEof (feedAll rt c s chunks).session).1 = none ↔
          WholeFrames (s.bufferBytes ++ chunks.flatten))) := by
  have hreading : s.Reading := hs.reading
  by_cases hclosed : s.closed = true
  · obtain ⟨hsession, hreturned⟩ := feedAll_of_closed rt c hclosed chunks
    obtain ⟨hsession', hreturned'⟩ := feedAll_of_closed rt c hclosed chunks'
    rw [hsession, hsession', hreturned, hreturned']
    refine ⟨rfl, fun _ _ =>
      rfl, fun hopen => ?_, feedEof_eq_requireFrameBoundary s, fun hopen => ?_⟩
    · rw [hclosed] at hopen
      cases hopen
    · rw [hclosed] at hopen
      cases hopen
  · have hopen : s.closed = false := Bool.eq_false_iff.mpr hclosed
    obtain ⟨hsession, hfailure, hreturned⟩ :=
      feedAll_of_open rt c hreading.toBuffered hopen chunks
    obtain ⟨hsession', hfailure', hreturned'⟩ :=
      feedAll_of_open rt c hreading.toBuffered hopen chunks'
    rw [← hsame] at hsession' hfailure' hreturned'
    refine ⟨hsession.trans hsession'.symm, fun hnone hnone' => ?_, fun _ =>
      hfailure.trans hfailure'.symm, ?_, fun hstill => ?_⟩
    · rw [hreturned hnone, hreturned' hnone']
    · rw [hsession, hsession']
      exact feedEof_eq_requireFrameBoundary _
    · rw [hsession] at hstill ⊢
      have hok : (feedBytes rt c s chunks.flatten).failure = none := by
        by_contra hfailed
        obtain ⟨reason, hreason⟩ := Option.ne_none_iff_exists'.mp hfailed
        rw [(feedBytes_of_failure hreason).1] at hstill
        cases hstill
      obtain ⟨hread, bodies, hbodies, hstream⟩ := hreading.feedBytes chunks.flatten hok
      rw [hread.feedEof_eq_none_iff hstill, hstream,
        wholeFrames_append_iff hbodies hread.partialFrame]

/-- A sidecar that gets the frame of a submit in one piece, or byte by byte: it returns the
submit. -/
theorem feedAll_chunking_invariant_sample :
    ∃ frame sent, (sampleEndpoint .main).encode referenceRuntime
      (liepinSourceContract sampleAdapter)
        sampleEnvelope = (.ok frame, sent) ∧
      let whole := feedAll referenceRuntime (liepinSourceContract sampleAdapter)
        (sampleEndpoint .sidecar) [frame.frame]
      let pieces := feedAll referenceRuntime (liepinSourceContract sampleAdapter)
        (sampleEndpoint .sidecar) (frame.frame.map fun byte => [byte])
      whole.session = pieces.session ∧ pieces.failure = none ∧ whole.returned = pieces.returned ∧
        pieces.returned.map Prod.fst = [sentEnvelope referenceRuntime frame] ∧
        (feedEof whole.session).1 = (requireFrameBoundary pieces.session).1 := by
  obtain ⟨frame, sent, after, received, hencode, hfeed⟩ := exists_feed_sample
  have hreachable : Reachable referenceRuntime (liepinSourceContract sampleAdapter)
      (sampleEndpoint .sidecar) :=
    ⟨.sidecar, "session-1", 0, sampleKey 1, sampleKey 2, _, [], create_sampleEndpoint .sidecar, rfl⟩
  have hflatten : ([frame.frame] : List Bytes).flatten =
      (frame.frame.map fun byte => [byte]).flatten := by
    rw [List.flatten_singleton, ← List.flatMap_def, List.flatMap_singleton']
  have hwhole : feedAll referenceRuntime (liepinSourceContract sampleAdapter)
      (sampleEndpoint .sidecar) [frame.frame] =
        ⟨after, [(sentEnvelope referenceRuntime frame, received)], none⟩ := by
    simp [feedAll, hfeed]
  obtain ⟨hsession, hreturned, hfailure, hboundary, -⟩ := feedAll_chunking_invariant
    (sampleEndpoint .sidecar) hreachable [frame.frame] (frame.frame.map fun byte => [byte]) hflatten
  have hnone := hfailure rfl
  rw [hwhole] at hnone
  have hsame := hreturned (by rw [hwhole]) hnone.symm
  refine ⟨frame, sent, hencode, hsession, hnone.symm, hsame, ?_, hboundary⟩
  rw [← hsame, hwhole]
  rfl

end FrameSession

end SeekTalent.SourcePort
