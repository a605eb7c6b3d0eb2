import SeekTalent.SourcePort.DispatchExclusion

/-!
# Exact replay

What the journal remembers of a committed call, that no later call of any session forgets it, and
that repeating the call therefore returns the stored receipt.  `Continues` is what every call does
to a head that exists; a committed call is a statement about such a head that `Continues` carries
along a run.
-/

namespace SeekTalent.SourcePort

open Foundation

variable {py : PythonRuntime}
variable {head later : HeadRow} {next journal : Journal} {session : Session} {c : Call}
  {world : World} {accepted : AcceptedCommand} {options : AcceptOptions}
variable {first : Session} {after before : Journal} {arguments : ObservationArguments}
  {transport : Bool} {other : Call}

/-! ## Heads along a run -/

/-- What later calls leave of a head: its columns, its dispatch once it has one, and everything once
it was observed. -/
structure Continues (head later : HeadRow) : Prop where
  columns : later.columns = head.columns
  dispatched : head.phase ≠ .accepted → later.phase ≠ .accepted ∧
    later.progress.durableDispatchIntentRef = head.progress.durableDispatchIntentRef ∧
    later.progress.dispatchIntentJournalRevision = head.progress.dispatchIntentJournalRevision
  observed : head.phase = .observedResult ∨ head.phase = .observedFailure → later = head

theorem Continues.refl (head : HeadRow) : Continues head head :=
  ⟨rfl, fun hphase => ⟨hphase, rfl, rfl⟩, fun _ => rfl⟩

theorem Continues.trans {first second third : HeadRow} (h : Continues first second)
    (h' : Continues second third) : Continues first third where
  columns := h'.columns.trans h.columns
  dispatched := by
    intro hphase
    obtain ⟨hsecond, href, hrevision⟩ := h.dispatched hphase
    obtain ⟨hthird, href', hrevision'⟩ := h'.dispatched hsecond
    exact ⟨hthird, href'.trans href, hrevision'.trans hrevision⟩
  observed := by
    intro hphase
    have hsecond := h.observed hphase
    rw [← hsecond] at hphase
    exact (h'.observed hphase).trans hsecond

/-- The key of a head stays. -/
theorem Continues.key (h : Continues head later) : later.key = head.key := by
  rw [HeadRow.key, HeadRow.key, h.columns]

/-- Every head, and every generation, of a journal is still there in another. -/
structure JournalContinues (journal next : Journal) : Prop where
  heads : ∀ head ∈ journal.heads, ∃ later ∈ next.heads, Continues head later
  generations : journal.generations ⊆ next.generations

theorem JournalContinues.refl (journal : Journal) : JournalContinues journal journal :=
  ⟨fun head hmem => ⟨head, hmem, .refl head⟩, fun _ hrow => hrow⟩

theorem JournalContinues.trans {first second third : Journal} (h : JournalContinues first second)
    (h' : JournalContinues second third) : JournalContinues first third where
  heads := by
    intro head hmem
    obtain ⟨later, hlater, hcontinues⟩ := h.heads head hmem
    obtain ⟨last, hlast, hcontinues'⟩ := h'.heads later hlater
    exact ⟨last, hlast, hcontinues.trans hcontinues'⟩
  generations := fun _ hrow => h'.generations (h.generations hrow)

/-- Advancing a head continues the journal when it continues the head. -/
theorem HeadAdvanced.continues {advanced : HeadRow}
    {event : EventRow} (h : HeadAdvanced py journal session head advanced event next)
    (hsound : JournalSound py journal) (hcontinues : Continues head advanced) :
    JournalContinues journal next := by
  rw [h.stored]
  refine ⟨fun row hrow => ?_, fun _ hrow => hrow⟩
  by_cases hkey : row.key = head.key
  · obtain rfl := List.inj_on_of_nodup_map hsound.headKeys hrow h.mem hkey
    exact ⟨advanced, advanced_mem_replaceHead hrow hcontinues.key, hcontinues⟩
  · refine ⟨row, other_mem_replaceHead hrow ?_, .refl row⟩
    rw [hcontinues.key]
    exact hkey

/-- Every outcome continues the journal it found. -/
theorem Outcome.continues {before after : Option Journal} (h : Outcome py before c after)
    (hbefore : ∀ journal ∈ before, JournalSound py journal) :
    ∀ journal ∈ before, ∃ next ∈ after, JournalContinues journal next := by
  cases h with
  | unchanged => exact fun journal hjournal => ⟨journal, hjournal, .refl journal⟩
  | created => exact fun _ hnone => by cases hnone
  | @started journal next session instanceId hstart =>
    rintro _ ⟨⟩
    refine ⟨next, rfl, ⟨?_, ?_⟩⟩
    · rw [(startGeneration_ok py hstart).2.2.2]
      exact fun head hmem => ⟨head, hmem, .refl head⟩
    · simp only [startGeneration, check_bind_eq_ok, pure_eq_ok] at hstart
      obtain ⟨-, -, -, -, hpair⟩ := hstart
      obtain ⟨-, rfl⟩ := Prod.mk.inj hpair
      exact List.subset_append_left _ _
  | @accepted journal next session command options result hcreated =>
    rintro _ ⟨⟩
    obtain ⟨head, -, -, -, -, -, rfl⟩ := hcreated.stored
    exact ⟨_, rfl, ⟨fun row hrow => ⟨row, List.mem_append_left _ hrow, .refl row⟩, fun _ h => h⟩⟩
  | dispatched _ hphase hadvance =>
    rintro _ ⟨⟩
    refine ⟨_, rfl, hadvance.continues (hbefore _ rfl) ⟨rfl, fun hother => ?_, ?_⟩⟩
    · exact absurd hphase hother
    · rintro (hobserved | hobserved) <;> rw [hphase] at hobserved <;> cases hobserved
  | @observed journal next session arguments head dispatch _ hphase hdispatch _ hadvance =>
    rintro _ ⟨⟩
    refine ⟨_, rfl, hadvance.continues (hbefore _ rfl) ⟨rfl, fun _ => ⟨?_, rfl, rfl⟩, ?_⟩⟩
    · unfold observedHead
      cases arguments.kind <;> exact Phase.noConfusion
    · rintro (hobserved | hobserved) <;> rw [hphase] at hobserved <;> cases hobserved

/-- Every run of calls continues the journal it found. -/
theorem run_continues (hsound : world.Sound py)
    (hjournal : world.journal = some journal) (calls : List Call) :
    ∃ next, (run (exec py) world calls).journal = some next ∧ JournalContinues journal next := by
  induction calls generalizing world journal with
  | nil => exact ⟨journal, hjournal, .refl journal⟩
  | cons c calls ih =>
    obtain ⟨next, hnext, hcontinues⟩ :=
      (exec_outcome hsound c).continues hsound journal hjournal
    obtain ⟨last, hlast, hcontinues'⟩ := ih (exec_sound hsound c) hnext
    exact ⟨last, hlast, hcontinues.trans hcontinues'⟩

/-! ## Live sessions -/

/-- The row that a session's start inserts. -/
def Session.row (session : Session) : GenerationRow :=
  ⟨session.generation, session.instanceId, 1, 1⟩

/-- Every session that was handed out has its generation on record. -/
def World.SessionsKnown (world : World) : Prop :=
  ∀ session ∈ world.sessions, ∃ journal, world.journal = some journal ∧
    session.row ∈ journal.generations

/-- A session is live: it is handed out and not closed, and its generation is the newest. -/
def World.LiveSession (world : World) (session : Session) : Prop :=
  session ∈ world.sessions ∧
    ∀ journal ∈ world.journal, journal.state.lastSidecarGeneration = session.generation

/-- A session after a call was there before it, or the call started it. -/
theorem exec_sessions (h : session ∈ (exec py world c).sessions) :
    session ∈ world.sessions ∨ ∃ journal next instanceId,
      startGeneration py journal instanceId = .ok (session, next) ∧
        (exec py world c).journal = some next := by
  unfold exec at h ⊢
  split at h
  next result next hcall =>
    cases c with
    | create =>
      simp only [call] at hcall
      split at hcall
      next => cases hcall
      next =>
        obtain ⟨-, rfl⟩ := Prod.mk.inj (Except.ok.inj hcall)
        exact .inl h
    | start instanceId =>
      simp only [call] at hcall
      split at hcall
      next => cases hcall
      next journal hjournal =>
        obtain ⟨⟨started, stored⟩, hstart, hcall⟩ := bind_eq_ok.mp hcall
        obtain ⟨-, rfl⟩ := Prod.mk.inj (pure_eq_ok.mp hcall)
        obtain hold | hnew := List.mem_append.mp h
        · exact .inl hold
        · obtain rfl := List.mem_singleton.mp hnew
          exact .inr ⟨journal, stored, instanceId, hstart, rfl⟩
    | close closed =>
      rw [call, check_bind_eq_ok] at hcall
      obtain ⟨-, rfl⟩ := Prod.mk.inj (pure_eq_ok.mp hcall.2)
      exact .inl (List.mem_of_mem_filter h)
    | recordAccepted _ _ _ | recordDispatchIntent _ _ | recordObservation _ _ =>
      obtain ⟨journal, -, hcall⟩ := bind_eq_ok.mp hcall
      obtain ⟨⟨receipt, stored⟩, -, hcall⟩ := bind_eq_ok.mp hcall
      obtain ⟨-, rfl⟩ := Prod.mk.inj (pure_eq_ok.mp hcall)
      exact .inl h
  next => exact .inl h

/-- Every call keeps the sessions known. -/
theorem exec_sessionsKnown (hsound : world.Sound py) (h : world.SessionsKnown)
    (c : Call) : (exec py world c).SessionsKnown := by
  intro session hsession
  obtain hold | ⟨journal, next, instanceId, hstart, hnext⟩ := exec_sessions hsession
  · obtain ⟨journal, hjournal, hrow⟩ := h session hold
    obtain ⟨next, hnext, hcontinues⟩ := (exec_outcome hsound c).continues hsound journal hjournal
    exact ⟨next, hnext, hcontinues.generations hrow⟩
  · refine ⟨next, hnext, ?_⟩
    simp only [startGeneration, check_bind_eq_ok, pure_eq_ok] at hstart
    obtain ⟨-, -, -, -, hpair⟩ := hstart
    obtain ⟨rfl, rfl⟩ := Prod.mk.inj hpair
    exact List.mem_append_right _ (List.mem_singleton_self _)

/-- What holds of every world that calls reach: a sound journal, and known sessions. -/
structure World.Reached (py : PythonRuntime) (world : World) : Prop where
  sound : world.Sound py
  known : world.SessionsKnown

/-- Calls lead from reached worlds to reached worlds. -/
theorem World.Reached.run (h : world.Reached py) (calls : List Call) :
    (Foundation.run (exec py) world calls).Reached py :=
  run_invariant (I := fun world : World => world.Reached py)
    (fun _ c hworld => ⟨exec_sound hworld.sound c, exec_sessionsKnown hworld.sound hworld.known c⟩)
    h calls

theorem World.Reached.initial : World.initial.Reached py :=
  ⟨World.initial_sound, fun _ hsession => absurd hsession List.not_mem_nil⟩

/-- A live session has the journal of its world, which accepts its generation. -/
theorem World.Reached.live (h : world.Reached py) (hlive : world.LiveSession session) :
    ∃ journal, world.journal = some journal ∧ world.live session = .ok journal ∧
      requireSessionGeneration journal session = .ok () := by
  obtain ⟨journal, hjournal, hrow⟩ := h.known session hlive.1
  refine ⟨journal, hjournal, ?_, ?_⟩
  · rw [World.live, check_bind_eq_ok, require_eq_ok, hjournal]
    exact ⟨hlive.1, rfl⟩
  · have hnodup : (journal.generations.map (·.generation)).Nodup := by
      rw [(h.sound journal hjournal).generations]
      exact (countFromOne_pairwise _).imp (fun hlt => ne_of_lt hlt)
    have hfind : journal.generations.find? (fun row => row.generation == session.generation) =
        some session.row := by
      have hsome : (journal.generations.find?
          (fun row => row.generation == session.generation)).isSome = true :=
        List.find?_isSome.mpr ⟨session.row, hrow, beq_self_eq_true _⟩
      obtain ⟨row, hfound⟩ := Option.isSome_iff_exists.mp hsome
      have hsame : row.generation = session.generation := by
        simpa using List.find?_some hfound
      rw [hfound, List.inj_on_of_nodup_map hnodup (List.mem_of_find?_eq_some hfound) hrow hsame]
    rw [requireSessionGeneration, require_eq_ok, hfind, hlive.2 journal hjournal]
    simp [Session.row]

/-! ## Committed calls -/

/-- Reply bytes within their bounds are read back as they are. -/
theorem replyBytesFromRow_eq_ok {value bytes : Option Bytes} :
    replyBytesFromRow value = .ok bytes ↔ isValidDurableReplyBytes value = true ∧
      bytes = value := by
  rw [replyBytesFromRow, check_bind_eq_ok, require_eq_ok, pure_eq_ok, eq_comm (a := bytes)]

/-- The receipt of a replay: the stored row under the revision that its call committed. -/
def storedReceipt (head : HeadRow) (startupGeneration revision : Int) : TransitionResult where
  disposition := .exactReplay
  startupGeneration := startupGeneration
  acceptedGeneration := head.columns.acceptedGeneration
  acceptedJournalRevision := head.columns.acceptedJournalRevision
  revision := revision
  headPhase := head.phase
  acceptedAckBytes := head.columns.acceptedAckBytes
  terminalReplyBytes := head.progress.terminalReplyBytes

/-- A replay reports the stored row. -/
theorem transitionResultFromHead_stored {generation revision : Int} {result : TransitionResult}
    (h : transitionResultFromHead py head .exactReplay generation revision = .ok result) :
    result = storedReceipt head generation revision := by
  obtain ⟨terminal, hterminal, h⟩ := bind_eq_ok.mp h
  obtain ⟨-, rfl⟩ := replyBytesFromRow_eq_ok.mp hterminal
  split at h
  · rw [check_bind_eq_ok] at h
    obtain ⟨ack, hack, h⟩ := bind_eq_ok.mp h.2
    obtain ⟨-, rfl⟩ := replyBytesFromRow_eq_ok.mp hack
    exact (pure_eq_ok.mp h).symm
  · obtain ⟨ack, hack, h⟩ := bind_eq_ok.mp h
    obtain ⟨-, rfl⟩ := replyBytesFromRow_eq_ok.mp hack
    exact (pure_eq_ok.mp h).symm

/-- The row of a sound head can be reported. -/
theorem HeadSound.transitionResult (h : HeadSound py head) (generation revision : Int) :
    transitionResultFromHead py head .exactReplay generation revision =
      .ok (storedReceipt head generation revision) := by
  obtain ⟨hack, hterminal⟩ := headCheck_replies h.check
  have hackRead := replyBytesFromRow_eq_ok.mpr ⟨hack, rfl⟩
  refine bind_eq_ok.mpr ⟨_, replyBytesFromRow_eq_ok.mpr ⟨hterminal, rfl⟩, ?_⟩
  by_cases hphase : head.phase = .observedResult ∨ head.phase = .observedFailure
  · have hmatch : terminalReplyBytesMatchObservation py head.progress = true := by
      rcases hphase with hphase | hphase <;> simpa [progressFitsPhase, hphase] using h.progress
    rw [if_pos hphase, check_bind_eq_ok, require_eq_ok]
    exact ⟨hmatch, bind_eq_ok.mpr ⟨_, hackRead, rfl⟩⟩
  · rw [if_neg hphase]
    exact bind_eq_ok.mpr ⟨_, hackRead, rfl⟩

/-- What the journal keeps of an acceptance. -/
structure AcceptanceKept (accepted : AcceptedCommand) (options : AcceptOptions)
    (receipt : TransitionResult) (head : HeadRow) : Prop where
  key : head.key = accepted.key
  identity : sameAcceptedIdentity head accepted options.allowTransportReplay = true
  revision : receipt.revision = head.columns.acceptedJournalRevision
  ack : receipt.acceptedAckBytes = head.columns.acceptedAckBytes

/-- What the journal keeps of a dispatch intent. -/
structure DispatchKept (arguments : DispatchArguments) (receipt : TransitionResult)
    (head : HeadRow) : Prop where
  key : head.key = arguments.key
  phase : head.phase ≠ .accepted
  expected : head.columns.acceptedJournalRevision = arguments.expectedHeadJournalRevision
  ref : head.progress.durableDispatchIntentRef = some arguments.durableDispatchIntentRef
  revision : head.progress.dispatchIntentJournalRevision = some receipt.revision
  ack : receipt.acceptedAckBytes = head.columns.acceptedAckBytes

/-- What the journal keeps of an observation. -/
structure ObservationKept (arguments : ObservationArguments) (receipt : TransitionResult)
    (head : HeadRow) : Prop where
  key : head.key = arguments.key
  phase : head.phase = arguments.kind.phase
  expected : head.progress.dispatchIntentJournalRevision =
    some arguments.expectedHeadJournalRevision
  ref : head.progress.observationRef = some arguments.observationRef
  hash : head.progress.observationHash = some arguments.observationHash
  reply : arguments.terminalReplyBytes = none ∨
    arguments.terminalReplyBytes = head.progress.terminalReplyBytes
  revision : head.progress.observationJournalRevision = some receipt.revision
  ack : receipt.acceptedAckBytes = head.columns.acceptedAckBytes
  terminal : receipt.terminalReplyBytes = head.progress.terminalReplyBytes

/-- Calls keep what the journal keeps of an acceptance. -/
theorem AcceptanceKept.continues {receipt : TransitionResult}
    (h : AcceptanceKept accepted options receipt head) (hcontinues : Continues head later) :
    AcceptanceKept accepted options receipt later where
  key := hcontinues.key.trans h.key
  identity := by
    have hidentity := h.identity
    unfold sameAcceptedIdentity at hidentity ⊢
    rw [hcontinues.columns]
    exact hidentity
  revision := by rw [hcontinues.columns, h.revision]
  ack := by rw [hcontinues.columns, h.ack]

/-- Calls keep what the journal keeps of a dispatch intent. -/
theorem DispatchKept.continues {arguments : DispatchArguments} {receipt : TransitionResult}
    (h : DispatchKept arguments receipt head)
    (hcontinues : Continues head later) : DispatchKept arguments receipt later := by
  obtain ⟨hphase, href, hrevision⟩ := hcontinues.dispatched h.phase
  exact
    { key := hcontinues.key.trans h.key
      phase := hphase
      expected := by rw [hcontinues.columns, h.expected]
      ref := href.trans h.ref
      revision := hrevision.trans h.revision
      ack := by rw [hcontinues.columns, h.ack] }

/-- Calls keep what the journal keeps of an observation. -/
theorem ObservationKept.continues {receipt : TransitionResult}
    (h : ObservationKept arguments receipt head)
    (hcontinues : Continues head later) : ObservationKept arguments receipt later := by
  have hobserved : head.phase = .observedResult ∨ head.phase = .observedFailure := by
    rw [h.phase]
    cases arguments.kind
    · exact .inl rfl
    · exact .inr rfl
  rw [hcontinues.observed hobserved]
  exact h

/-- An acceptance that returned is kept. -/
theorem recordAccepted_kept {receipt : TransitionResult}
    (h : recordAccepted py journal session accepted options = .ok (receipt, next)) :
    ∃ head ∈ next.heads, AcceptanceKept accepted options receipt head := by
  simp only [recordAccepted, check_bind_eq_ok] at h
  obtain ⟨-, -, -, -, h⟩ := h
  split at h
  next existing hfind =>
    obtain ⟨hmem, hkey⟩ := findOperationHead_eq_some hfind
    obtain ⟨replayed, hreplay, h⟩ := bind_eq_ok.mp h
    obtain ⟨rfl, rfl⟩ := Prod.mk.inj (pure_eq_ok.mp h)
    simp only [replayAccepted, check_bind_eq_ok, require_eq_ok] at hreplay
    obtain ⟨hidentity, -, -, hreport⟩ := hreplay
    rw [transitionResultFromHead_stored hreport]
    exact ⟨existing, hmem, ⟨hkey, hidentity, rfl, rfl⟩⟩
  next =>
    rw [check_bind_eq_ok] at h
    have hcreate := h.2
    rw [createAccepted, check_bind_eq_ok, bind_eq_ok] at hcreate
    obtain ⟨-, ⟨revision, allocated⟩, hallocate, hcreate⟩ := hcreate
    rw [check_bind_eq_ok, bind_eq_ok] at hcreate
    obtain ⟨-, ack, -, hcreate⟩ := hcreate
    obtain ⟨withEvent, hevent, hcreate⟩ := bind_eq_ok.mp hcreate
    obtain ⟨withHead, hhead, hcreate⟩ := bind_eq_ok.mp hcreate
    obtain ⟨rfl, rfl⟩ := Prod.mk.inj (pure_eq_ok.mp hcreate)
    obtain ⟨-, -, -, rfl⟩ := insertHead_ok hhead
    refine ⟨acceptedHead accepted session revision ack, List.mem_append_right _
      (List.mem_singleton_self _), ⟨rfl, ?_, rfl, rfl⟩⟩
    unfold sameAcceptedIdentity
    split
    · exact beq_self_eq_true _
    · exact beq_self_eq_true _

/-- The head revision of an accepted head is that of its acceptance. -/
theorem HeadSound.acceptedRevision (h : HeadSound py head) (hphase : head.phase = .accepted) :
    head.columns.acceptedJournalRevision = head.headJournalRevision := by
  obtain ⟨conclusion, hconclusion, hvalid⟩ := (factFromRow_ok_iff py).mp h.fact
  have hpositions := validateConclusion_ok py hvalid
  simp only [conclusionFromRow, hphase, Option.some.injEq] at hconclusion
  subst hconclusion
  simp only [validateConclusion, require_eq_ok] at hpositions
  exact hpositions.2.symm

/-- The head revision of a dispatched head is that of its dispatch intent. -/
theorem HeadSound.dispatchedRevision (h : HeadSound py head)
    (hphase : head.phase = .dispatchIntent) :
    head.progress.dispatchIntentJournalRevision = some head.headJournalRevision := by
  obtain ⟨conclusion, hconclusion, hvalid⟩ := (factFromRow_ok_iff py).mp h.fact
  have hpositions := validateConclusion_ok py hvalid
  simp only [conclusionFromRow, hphase, Option.map_eq_some_iff] at hconclusion
  obtain ⟨dispatch, hdispatch, rfl⟩ := hconclusion
  simp only [validateConclusion, check_bind_eq_ok, require_eq_ok] at hpositions
  rw [(dispatchFromRow_eq_some.mp hdispatch).2.2, hpositions.2.2]

/-- A head that left the accepted phase has the revision of its dispatch intent. -/
theorem HeadSound.dispatchRevision (h : HeadSound py head) (hphase : head.phase ≠ .accepted) :
    ∃ dispatch, dispatchFromRow head = some dispatch ∧
      head.progress.dispatchIntentJournalRevision =
        some dispatch.dispatchIntentJournalRevision := by
  obtain ⟨conclusion, hconclusion, -⟩ := (factFromRow_ok_iff py).mp h.fact
  have hdispatch : ∃ dispatch, dispatchFromRow head = some dispatch := by
    cases hcases : head.phase with
    | accepted => exact absurd hcases hphase
    | dispatchIntent =>
      simp only [conclusionFromRow, hcases, Option.map_eq_some_iff] at hconclusion
      obtain ⟨dispatch, hdispatch, -⟩ := hconclusion
      exact ⟨dispatch, hdispatch⟩
    | observedResult =>
      obtain ⟨dispatch, -, hdispatch, -⟩ := conclusionFromRow_observed (.inl hcases) hconclusion
      exact ⟨dispatch, hdispatch⟩
    | observedFailure =>
      obtain ⟨dispatch, -, hdispatch, -⟩ := conclusionFromRow_observed (.inr hcases) hconclusion
      exact ⟨dispatch, hdispatch⟩
  obtain ⟨dispatch, hdispatch⟩ := hdispatch
  exact ⟨dispatch, hdispatch, (dispatchFromRow_eq_some.mp hdispatch).2.2⟩

/-- An observed head has the revision of its observation. -/
theorem HeadSound.observationRevision (h : HeadSound py head)
    (hphase : head.phase = .observedResult ∨ head.phase = .observedFailure) :
    ∃ revision, head.progress.observationJournalRevision = some revision := by
  obtain ⟨conclusion, hconclusion, -⟩ := (factFromRow_ok_iff py).mp h.fact
  obtain ⟨-, observation, -, hobservation, -⟩ := conclusionFromRow_observed hphase hconclusion
  exact ⟨_, (observationFromRow_eq_some.mp hobservation).2.1⟩

/-- A dispatch intent that returned is kept. -/
theorem recordDispatchIntent_kept
    {arguments : DispatchArguments} {receipt : TransitionResult} (hsound : JournalSound py journal)
    (h : recordDispatchIntent py journal session arguments = .ok (receipt, next)) :
    ∃ head ∈ next.heads, DispatchKept arguments receipt head := by
  simp only [recordDispatchIntent, check_bind_eq_ok] at h
  obtain ⟨-, -, hsession, h⟩ := h
  obtain ⟨head, hhead, h⟩ := bind_eq_ok.mp h
  obtain ⟨hmem, hkey⟩ := requireHead_ok hhead
  split at h
  next hphase =>
    obtain ⟨replayed, hreplay, h⟩ := bind_eq_ok.mp h
    obtain ⟨rfl, rfl⟩ := Prod.mk.inj (pure_eq_ok.mp h)
    simp only [replayDispatchIntent, check_bind_eq_ok, require_eq_ok] at hreplay
    obtain ⟨⟨hexpected, href⟩, hreport⟩ := hreplay
    have hleft : head.phase ≠ .accepted := by
      rw [hphase]
      exact Phase.noConfusion
    obtain ⟨dispatch, -, hrevision⟩ := (hsound.heads head hmem).dispatchRevision hleft
    rw [transitionResultFromHead_stored hreport]
    exact ⟨head, hmem, ⟨hkey, hleft, hexpected, href, by rw [hrevision]; rfl, rfl⟩⟩
  next =>
    obtain ⟨hphase, hexpected, ⟨ack, hack, rfl⟩, hadvanced⟩ :=
      createDispatchIntent_ok py (requireSessionGeneration_ok hsession) hsound.headKeys hmem hkey h
    obtain ⟨-, rfl⟩ := replyBytesFromRow_eq_ok.mp hack
    obtain rfl := hadvanced.stored
    have haccepted : head.columns.acceptedJournalRevision = head.headJournalRevision :=
      (hsound.heads head hmem).acceptedRevision hphase
    exact ⟨_, advanced_mem_replaceHead hmem rfl,
      ⟨hkey, Phase.noConfusion, haccepted.trans hexpected, rfl, rfl, rfl⟩⟩

/-- An observation that returned is kept. -/
theorem recordObservation_kept
    {receipt : TransitionResult} (hsound : JournalSound py journal)
    (h : recordObservation py journal session arguments = .ok (receipt, next)) :
    ∃ head ∈ next.heads, ObservationKept arguments receipt head := by
  simp only [recordObservation, check_bind_eq_ok] at h
  obtain ⟨-, -, -, hsession, -, h⟩ := h
  obtain ⟨head, hhead, h⟩ := bind_eq_ok.mp h
  obtain ⟨hmem, hkey⟩ := requireHead_ok hhead
  split at h
  next hobserved =>
    obtain ⟨replayed, hreplay, h⟩ := bind_eq_ok.mp h
    obtain ⟨rfl, rfl⟩ := Prod.mk.inj (pure_eq_ok.mp h)
    simp only [replayObservation, check_bind_eq_ok, require_eq_ok] at hreplay
    obtain ⟨hphase, ⟨hexpected, href, hhash, hreply⟩, hreport⟩ := hreplay
    obtain ⟨revision, hrevision⟩ := (hsound.heads head hmem).observationRevision hobserved
    rw [transitionResultFromHead_stored hreport]
    exact ⟨head, hmem,
      ⟨hkey, hphase, hexpected, href, hhash, hreply, by rw [hrevision]; rfl, rfl, rfl⟩⟩
  next =>
    obtain ⟨hphase, hexpected, ⟨ack, hack, rfl⟩, dispatch, -, hadvanced⟩ :=
      createObservation_ok py (requireSessionGeneration_ok hsession) hsound.headKeys hmem hkey h
    obtain ⟨-, rfl⟩ := replyBytesFromRow_eq_ok.mp hack
    obtain rfl := hadvanced.stored
    have hdispatched : head.progress.dispatchIntentJournalRevision =
        some head.headJournalRevision := (hsound.heads head hmem).dispatchedRevision hphase
    exact ⟨_, advanced_mem_replaceHead hmem rfl,
      ⟨hkey, rfl, by rw [← hexpected]; exact hdispatched, rfl, rfl, .inr rfl, rfl, rfl, rfl⟩⟩

/-! ## Repetitions -/

/-- A stored head is found under its key. -/
theorem JournalSound.findOperationHead (h : JournalSound py journal)
    (hmem : head ∈ journal.heads) {key : HeadKey} (hkey : head.key = key) :
    SourcePort.findOperationHead journal key = some head := by
  cases hfind : SourcePort.findOperationHead journal key with
  | none => exact absurd hkey (findOperationHead_eq_none hfind head hmem)
  | some found =>
    obtain ⟨hfound, hsame⟩ := findOperationHead_eq_some hfind
    rw [List.inj_on_of_nodup_map h.headKeys hfound hmem (hsame.trans hkey.symm)]

/-- A command that was valid in one generation is valid in every JSON-safe one. -/
theorem validateAcceptedInput_generation {first generation : Int}
    (h : validateAcceptedInput py accepted first = .ok ())
    (hgeneration : positiveJsonInteger generation = true) :
    validateAcceptedInput py accepted generation = .ok () := by
  simp only [validateAcceptedInput, check_bind_eq_ok] at h ⊢
  refine ⟨h.1, ?_⟩
  have hfacts : FactValues.validate py ⟨accepted, first, 1, first, 1, .acceptedNoDispatch⟩ =
    .ok () →
      FactValues.validate py ⟨accepted, generation, 1, generation, 1, .acceptedNoDispatch⟩ =
        .ok () := by
    simp only [FactValues.validate, validateFields, factFields, conclusionFields,
      validateAcceptedHead, validateConclusion, check_bind_eq_ok, require_eq_ok, List.all_append,
      List.all_cons, List.all_nil, Bool.and_eq_true, hgeneration, le_refl, and_true, true_and]
    rintro ⟨⟨hcommand, -, hone, -⟩, hhead⟩
    exact ⟨⟨hcommand, hone, hone⟩, hhead⟩
  obtain ⟨-, hrest⟩ := h
  split at hrest
  next hordinal =>
    rw [if_pos hordinal, check_bind_eq_ok]
    rw [check_bind_eq_ok] at hrest
    exact ⟨hrest.1, hfacts hrest.2⟩
  next hordinal =>
    rw [if_neg hordinal, check_bind_eq_ok]
    rw [check_bind_eq_ok] at hrest
    exact ⟨hrest.1, hfacts hrest.2⟩

/-- The generation of an acceptance is JSON-safe. -/
theorem HeadSound.acceptedGeneration (h : HeadSound py head) :
    positiveJsonInteger head.columns.acceptedGeneration = true := by
  obtain ⟨conclusion, -, hvalid⟩ := (factFromRow_ok_iff py).mp h.fact
  simp only [FactValues.validate, validateFields, factFields, check_bind_eq_ok, require_eq_ok,
    List.all_append, List.all_cons, Bool.and_eq_true] at hvalid
  exact hvalid.1.1.2.1

/-- When a repeated acceptance is a replay. -/
def AcceptanceReplayable (options : AcceptOptions) (session : Session) (head : HeadRow) : Prop :=
  (head.phase = .accepted ∧ head.columns.acceptedGeneration = session.generation) ∨
    (options.allowExistingPhaseReplay = true ∧ positiveJsonInteger session.generation = true)

/-- A repeated acceptance reports the stored one and writes nothing. -/
theorem recordAccepted_again (hsound : JournalSound py journal) {receipt : TransitionResult}
    (hfirst : recordAccepted py before first accepted options = .ok (receipt, after))
    (hlive : requireSessionGeneration journal session = .ok ())
    (hmem : head ∈ journal.heads) (hkept : AcceptanceKept accepted options receipt head)
    (hreplay : AcceptanceReplayable options session head) :
    recordAccepted py journal session accepted options =
      .ok (storedReceipt head session.generation receipt.revision, journal) := by
  simp only [recordAccepted, check_bind_eq_ok] at hfirst ⊢
  obtain ⟨hexclusive, hinput, hbytes, -, -⟩ := hfirst
  have hgeneration : positiveJsonInteger session.generation = true := by
    obtain ⟨-, hsame⟩ | ⟨-, hsafe⟩ := hreplay
    · rw [← hsame]
      exact (hsound.heads head hmem).acceptedGeneration
    · exact hsafe
  refine ⟨hexclusive, validateAcceptedInput_generation hinput hgeneration, hbytes, hlive, ?_⟩
  rw [hsound.findOperationHead hmem hkept.key, hkept.revision]
  refine bind_eq_ok.mpr ⟨_, ?_, rfl⟩
  simp only [replayAccepted, check_bind_eq_ok, require_eq_ok]
  refine ⟨hkept.identity, ?_, ?_, (hsound.heads head hmem).transitionResult _ _⟩
  · exact hreplay.imp And.left And.left
  · exact hreplay.imp And.right And.left

/-- A repeated dispatch intent reports the stored one and writes nothing. -/
theorem recordDispatchIntent_again (hsound : JournalSound py journal)
    {arguments : DispatchArguments} {receipt : TransitionResult}
    (hfirst : recordDispatchIntent py before first arguments = .ok (receipt, after))
    (hlive : requireSessionGeneration journal session = .ok ())
    (hmem : head ∈ journal.heads) (hkept : DispatchKept arguments receipt head)
    (hphase : head.phase = .dispatchIntent) :
    recordDispatchIntent py journal session arguments =
      .ok (storedReceipt head session.generation receipt.revision, journal) := by
  simp only [recordDispatchIntent, check_bind_eq_ok] at hfirst ⊢
  obtain ⟨hexpected, hordinal, -, -⟩ := hfirst
  refine ⟨hexpected, hordinal, hlive, bind_eq_ok.mpr ⟨head, ?_, ?_⟩⟩
  · rw [requireHead, hsound.findOperationHead hmem hkept.key]
  · rw [if_pos hphase]
    refine bind_eq_ok.mpr ⟨_, ?_, rfl⟩
    simp only [replayDispatchIntent, check_bind_eq_ok, require_eq_ok, hkept.revision]
    exact ⟨⟨hkept.expected, hkept.ref⟩, (hsound.heads head hmem).transitionResult _ _⟩

/-- A repeated observation reports the stored one and writes nothing. -/
theorem recordObservation_again (hsound : JournalSound py journal) {receipt : TransitionResult}
    (hfirst : recordObservation py before first arguments = .ok (receipt, after))
    (hlive : requireSessionGeneration journal session = .ok ())
    (hmem : head ∈ journal.heads) (hkept : ObservationKept arguments receipt head) :
    recordObservation py journal session arguments =
      .ok (storedReceipt head session.generation receipt.revision, journal) := by
  simp only [recordObservation, check_bind_eq_ok] at hfirst ⊢
  obtain ⟨hexpected, hordinal, hbytes, -, hbinding, -⟩ := hfirst
  refine ⟨hexpected, hordinal, hbytes, hlive, hbinding, bind_eq_ok.mpr ⟨head, ?_, ?_⟩⟩
  · rw [requireHead, hsound.findOperationHead hmem hkept.key]
  · have hobserved : head.phase = .observedResult ∨ head.phase = .observedFailure := by
      rw [hkept.phase]
      cases arguments.kind
      · exact .inl rfl
      · exact .inr rfl
    rw [if_pos hobserved]
    refine bind_eq_ok.mpr ⟨_, ?_, rfl⟩
    simp only [replayObservation, check_bind_eq_ok, require_eq_ok, hkept.revision]
    exact ⟨hkept.phase, ⟨hkept.expected, hkept.ref, hkept.hash, hkept.reply⟩,
      (hsound.heads head hmem).transitionResult _ _⟩

/-! ## Repetitions that differ -/

/-- The fields of two commands that a replay compares are the same. -/
def SameBound (allowTransportReplay : Bool) (left right : AcceptedCommand) : Prop :=
  if allowTransportReplay then withTransportOf left right = right else left = right

/-- Commands with the same bound fields are told apart by the same others. -/
theorem SameBound.trans {first second third : AcceptedCommand}
    (h : SameBound transport first second) (h' : SameBound transport third second) :
    SameBound transport third first := by
  unfold SameBound at *
  split at h
  next htransport =>
    rw [if_pos htransport] at h' ⊢
    cases first
    cases second
    cases third
    simp only [withTransportOf, AcceptedCommand.mk.injEq] at h h' ⊢
    simp_all
  next htransport =>
    rw [if_neg htransport] at h' ⊢
    exact h'.trans h.symm

/-- The replay comparison is the equality of the bound fields. -/
theorem sameAcceptedIdentity_iff :
    sameAcceptedIdentity head accepted transport = true ↔
      SameBound transport accepted head.columns.toAcceptedCommand := by
  unfold sameAcceptedIdentity SameBound
  cases transport <;> simp

/-- Commands with the same bound fields have the same identity and the same epoch. -/
theorem SameBound.epoch {left right : AcceptedCommand}
    (h : SameBound transport left right) : left.key = right.key ∧
      left.stableIdentity = right.stableIdentity ∧
      left.safeRetryCommitRef = right.safeRetryCommitRef ∧
      left.expectedSourceOperationLedgerRevision = right.expectedSourceOperationLedgerRevision := by
  unfold SameBound at h
  split at h
  · rw [← h]
    exact ⟨rfl, rfl, rfl, rfl⟩
  · rw [h]
    exact ⟨rfl, rfl, rfl, rfl⟩

/-- A repetition of a call that differs from it in a bound field: one component of the address, or
any of the other fields that a replay compares.  A terminal reply is bound when it is given. -/
inductive Differs (receipt : TransitionResult) : Call → Call → Prop
  | runId {first session : Session} {accepted : AcceptedCommand} {options : AcceptOptions}
      {value : String} (h : value ≠ accepted.runId) :
      Differs receipt (.recordAccepted first accepted options)
        (.recordAccepted session { accepted with runId := value } options)
  | operationId {first session : Session} {accepted : AcceptedCommand} {options : AcceptOptions}
      {value : String} (h : value ≠ accepted.operationId) :
      Differs receipt (.recordAccepted first accepted options)
        (.recordAccepted session { accepted with operationId := value } options)
  | ordinal {first session : Session} {accepted : AcceptedCommand} {options : AcceptOptions}
      {value : Int} (h : value ≠ accepted.dispatchAuthorizationOrdinal) :
      Differs receipt (.recordAccepted first accepted options)
        (.recordAccepted session { accepted with dispatchAuthorizationOrdinal := value } options)
  | command {first session : Session} {accepted other : AcceptedCommand} {options : AcceptOptions}
      (hkey : other.key = accepted.key)
      (h : ¬ SameBound options.allowTransportReplay other accepted) :
      Differs receipt (.recordAccepted first accepted options)
        (.recordAccepted session other options)
  | dispatchAddress {first session : Session} {arguments other : DispatchArguments}
      (hkey : other.key ≠ arguments.key)
      (hexpected : other.expectedHeadJournalRevision = arguments.expectedHeadJournalRevision) :
      Differs receipt (.recordDispatchIntent first arguments) (.recordDispatchIntent session other)
  | dispatch {first session : Session} {arguments other : DispatchArguments}
      (hkey : other.key = arguments.key) (h : other ≠ arguments) :
      Differs receipt (.recordDispatchIntent first arguments) (.recordDispatchIntent session other)
  | observationAddress {first session : Session} {arguments other : ObservationArguments}
      (hkey : other.key ≠ arguments.key)
      (hexpected : other.expectedHeadJournalRevision = arguments.expectedHeadJournalRevision) :
      Differs receipt (.recordObservation first arguments) (.recordObservation session other)
  | observation {first session : Session} {arguments other : ObservationArguments}
      (hkey : other.key = arguments.key)
      (h : other.expectedHeadJournalRevision ≠ arguments.expectedHeadJournalRevision ∨
        other.kind ≠ arguments.kind ∨ other.observationRef ≠ arguments.observationRef ∨
        other.observationHash ≠ arguments.observationHash ∨
        (other.terminalReplyBytes ≠ none ∧
          other.terminalReplyBytes ≠ receipt.terminalReplyBytes)) :
      Differs receipt (.recordObservation first arguments) (.recordObservation session other)

/-- A retry reference names one authorization of an operation. -/
theorem EpochsSound.ordinal_eq_of_retryRef {history : List AcceptedCommand}
    (h : EpochsSound history)
    {left right : AcceptedCommand} (hleft : left ∈ history) (hright : right ∈ history)
    {ref : String}
    (hleftRef : left.safeRetryCommitRef = some ref)
    (hrightRef : right.safeRetryCommitRef = some ref) :
    left.dispatchAuthorizationOrdinal = right.dispatchAuthorizationOrdinal := by
  have hrefs := List.pairwise_filterMap.mp h.retryRefs
  rcases lt_trichotomy left.dispatchAuthorizationOrdinal right.dispatchAuthorizationOrdinal with
    hlt | heq | hgt
  · exact absurd rfl
      (rel_of_lt_of_numbered h.ordinals hrefs hleft hright hlt ref hleftRef ref hrightRef)
  · exact heq
  · exact absurd rfl
      (rel_of_lt_of_numbered h.ordinals hrefs hright hleft hgt ref hrightRef ref hleftRef)

namespace JournalSound

variable {journal : Journal}

/-- Two heads of one acceptance revision are one head. -/
theorem head_eq_of_acceptedRevision (h : JournalSound py journal) {left right : HeadRow}
    (hleft : left ∈ journal.heads) (hright : right ∈ journal.heads)
    (hrevision : left.columns.acceptedJournalRevision = right.columns.acceptedJournalRevision) :
    left = right := by
  have hevent : ∀ head ∈ journal.heads, head.acceptedEvent ∈ journal.events := by
    intro head hhead
    have hmem : head.acceptedEvent ∈ head.history := by
      unfold HeadRow.history
      split <;> exact List.mem_cons_self
    rw [← h.histories head hhead] at hmem
    exact List.mem_of_mem_filter hmem
  have hsame : left.acceptedEvent = right.acceptedEvent :=
    eq_of_numbered h.revisions (hevent left hleft) (hevent right hright) hrevision
  have hcolumns : left.columns = right.columns := congrArg EventRow.columns hsame
  refine List.inj_on_of_nodup_map h.headKeys hleft hright ?_
  rw [HeadRow.key, HeadRow.key, hcolumns]

/-- Two heads of one dispatch revision are one head. -/
theorem head_eq_of_dispatchRevision (h : JournalSound py journal) {left right : HeadRow}
    (hleft : left ∈ journal.heads) (hright : right ∈ journal.heads)
    (hleftPhase : left.phase ≠ .accepted) (hrightPhase : right.phase ≠ .accepted)
    (hrevision : left.progress.dispatchIntentJournalRevision =
      right.progress.dispatchIntentJournalRevision) : left = right := by
  have hevent : ∀ head ∈ journal.heads, head.phase ≠ .accepted →
      head.dispatchEvent ∈ journal.events := by
    intro head hhead hphase
    have hmem : head.dispatchEvent ∈ head.history := by
      unfold HeadRow.history
      split
      next haccepted => exact absurd haccepted hphase
      all_goals simp
    rw [← h.histories head hhead] at hmem
    exact List.mem_of_mem_filter hmem
  have hsame : left.dispatchEvent = right.dispatchEvent := by
    refine eq_of_numbered h.revisions (hevent left hleft hleftPhase)
      (hevent right hright hrightPhase) ?_
    unfold HeadRow.dispatchEvent
    rw [hrevision]
  have hcolumns : left.columns = right.columns := congrArg EventRow.columns hsame
  refine List.inj_on_of_nodup_map h.headKeys hleft hright ?_
  rw [HeadRow.key, HeadRow.key, hcolumns]

end JournalSound

/-- An authorization has a retry reference exactly when it is not the first of its operation. -/
theorem HeadSound.retryRef_iff (h : HeadSound py head) :
    head.columns.dispatchAuthorizationOrdinal = 1 ↔ head.columns.safeRetryCommitRef = none := by
  obtain ⟨conclusion, -, hvalid⟩ := (factFromRow_ok_iff py).mp h.fact
  simp only [FactValues.validate, validateAcceptedHead, check_bind_eq_ok] at hvalid
  obtain ⟨-, ⟨-, hepoch⟩, -⟩ := hvalid
  split at hepoch
  next hone =>
    rw [require_eq_ok] at hepoch
    exact ⟨fun _ => hepoch.1, fun _ => hone⟩
  next hmore =>
    rw [require_eq_ok] at hepoch
    exact ⟨fun hone => absurd hone hmore, fun hnone => absurd hnone hepoch.1⟩

/-- What the journal keeps of a call. -/
def Kept : Call → TransitionResult → HeadRow → Prop
  | .recordAccepted _ accepted options, receipt, head =>
    AcceptanceKept accepted options receipt head
  | .recordDispatchIntent _ arguments, receipt, head => DispatchKept arguments receipt head
  | .recordObservation _ arguments, receipt, head => ObservationKept arguments receipt head
  | _, _, _ => False

/-- Calls keep what the journal keeps of a call. -/
theorem Kept.continues {receipt : TransitionResult}
    (h : Kept c receipt head) (hcontinues : Continues head later) : Kept c receipt later := by
  cases c with
  | create | start _ | close _ => exact h.elim
  | recordAccepted _ _ _ => exact AcceptanceKept.continues h hcontinues
  | recordDispatchIntent _ _ => exact DispatchKept.continues h hcontinues
  | recordObservation _ _ => exact ObservationKept.continues h hcontinues

/-- Two acceptances kept by one journal that use one idempotency key in one run or under one
operation id are of one operation. -/
theorem JournalSound.operation_eq_of_kept (h : JournalSound py journal)
    {other : AcceptedCommand} {options' : AcceptOptions}
    {receipt receipt' : TransitionResult} {found : HeadRow} (hmem : head ∈ journal.heads)
    (hfound : found ∈ journal.heads) (hkept : AcceptanceKept accepted options receipt head)
    (hother : AcceptanceKept other options' receipt' found)
    (hidentity : other.idempotencyKey = accepted.idempotencyKey)
    (hshares : other.runId = accepted.runId ∨ other.operationId = accepted.operationId) :
    other.operation = accepted.operation := by
  obtain ⟨hkey, hstable, -⟩ := (sameAcceptedIdentity_iff.mp hkept.identity).epoch
  obtain ⟨hkey', hstable', -⟩ := (sameAcceptedIdentity_iff.mp hother.identity).epoch
  simp only [AcceptedCommand.key, AcceptedCommand.stableIdentity, Prod.mk.injEq]
    at hkey hstable hkey' hstable'
  have hagree := h.aliases _ (List.mem_map_of_mem hfound) _ (List.mem_map_of_mem hmem)
  have hkeys : found.columns.idempotencyKey = head.columns.idempotencyKey := by
    rw [← hstable'.2.2.1, hidentity, hstable.2.2.1]
  obtain hrun | hid := hshares
  · have hid := hagree.runKey (by rw [← hkey'.1, hrun, hkey.1]) hkeys
    exact Prod.ext hrun (hkey'.2.1.trans (hid.trans hkey.2.1.symm))
  · have hrun := hagree.operationKey (by rw [← hkey'.2.1, hid, hkey.2.1]) hkeys
    exact Prod.ext (hkey'.1.trans (hrun.trans hkey.1.symm)) hid

/-- A journal never keeps a call together with one that differs from it in a bound field. -/
theorem Differs.not_kept (h : JournalSound py journal)
    {receipt receipt' : TransitionResult} {found : HeadRow} (hdiffers : Differs receipt c other)
    (hmem : head ∈ journal.heads) (hfound : found ∈ journal.heads) (hkept : Kept c receipt head)
    (hother : Kept other receipt' found) : False := by
  have hsame : ∀ {key key' : HeadKey}, head.key = key → found.key = key' → key' = key →
      found = head := by
    intro key key' hkey hkey' heq
    exact List.inj_on_of_nodup_map h.headKeys hfound hmem (hkey'.trans (heq.trans hkey.symm))
  cases hdiffers with
  | runId hne =>
    exact hne (congrArg Prod.fst
      (h.operation_eq_of_kept hmem hfound hkept hother rfl (.inr rfl)))
  | operationId hne =>
    exact hne (congrArg Prod.snd
      (h.operation_eq_of_kept hmem hfound hkept hother rfl (.inl rfl)))
  | ordinal hne =>
    obtain ⟨hkey, -, href, -⟩ := (sameAcceptedIdentity_iff.mp hkept.identity).epoch
    obtain ⟨hkey', -, href', -⟩ := (sameAcceptedIdentity_iff.mp hother.identity).epoch
    simp only [AcceptedCommand.key, Prod.mk.injEq] at hkey hkey'
    have hrefs : found.columns.safeRetryCommitRef = head.columns.safeRetryCommitRef :=
      href'.symm.trans href
    have hoperation : found.columns.operation = head.columns.operation :=
      Prod.ext (hkey'.1.symm.trans hkey.1) (hkey'.2.1.symm.trans hkey.2.1)
    have hordinals : found.columns.dispatchAuthorizationOrdinal =
        head.columns.dispatchAuthorizationOrdinal := by
      cases hretry : head.columns.safeRetryCommitRef with
      | none =>
        rw [((h.heads found hfound).retryRef_iff).mpr (hrefs.trans hretry),
          ((h.heads head hmem).retryRef_iff).mpr hretry]
      | some ref =>
        exact (h.epochs head.columns.operation).ordinal_eq_of_retryRef
          (hoperation ▸ JournalSound.mem_authorizations hfound)
          (JournalSound.mem_authorizations hmem)
          (hrefs.trans hretry) hretry
    exact hne (hkey'.2.2.trans (hordinals.trans hkey.2.2.symm))
  | command hkey hne =>
    obtain rfl := hsame hkept.key hother.key hkey
    exact hne ((sameAcceptedIdentity_iff.mp hkept.identity).trans
      (sameAcceptedIdentity_iff.mp hother.identity))
  | dispatchAddress hkey hexpected =>
    obtain rfl := h.head_eq_of_acceptedRevision hfound hmem
      (hother.expected.trans (hexpected.trans hkept.expected.symm))
    exact hkey (hother.key.symm.trans hkept.key)
  | @dispatch _ _ arguments other hkey hne =>
    obtain rfl := hsame hkept.key hother.key hkey
    have hexpected := hother.expected.symm.trans hkept.expected
    have href := Option.some.inj (hother.ref.symm.trans hkept.ref)
    apply hne
    cases other
    cases arguments
    simp only [DispatchArguments.key, Prod.mk.injEq] at hkey href hexpected
    simp only [DispatchArguments.mk.injEq]
    exact ⟨hkey.1, hkey.2.1, hkey.2.2, hexpected, href⟩
  | observationAddress hkey hexpected =>
    have hobserved :
      ∀ {arguments : ObservationArguments} {receipt : TransitionResult} {row : HeadRow},
        ObservationKept arguments receipt row → row.phase ≠ .accepted := by
      intro arguments receipt row hrow
      rw [hrow.phase]
      cases arguments.kind <;> exact Phase.noConfusion
    obtain rfl := h.head_eq_of_dispatchRevision hfound hmem (hobserved hother) (hobserved hkept)
      (hother.expected.trans ((congrArg some hexpected).trans hkept.expected.symm))
    exact hkey (hother.key.symm.trans hkept.key)
  | @observation _ _ arguments other hkey hne =>
    obtain rfl := hsame hkept.key hother.key hkey
    obtain hexpected | hkind | href | hhash | ⟨hgiven, hreply⟩ := hne
    · exact hexpected (Option.some.inj (hother.expected.symm.trans hkept.expected))
    · have hphases := hother.phase.symm.trans hkept.phase
      cases hleft : other.kind <;> cases hright : arguments.kind <;>
        rw [hleft, hright] at hkind hphases <;> first | exact hkind rfl | cases hphases
    · exact href (Option.some.inj (hother.ref.symm.trans hkept.ref))
    · exact hhash (Option.some.inj (hother.hash.symm.trans hkept.hash))
    · obtain hnone | hsame := hother.reply
      · exact hgiven hnone
      · exact hreply (hsame.trans hkept.terminal.symm)

/-! ## The guarantee -/

/-- The call in another session. -/
def Call.inSession (session : Session) : Call → Call
  | .recordAccepted _ accepted options => .recordAccepted session accepted options
  | .recordDispatchIntent _ arguments => .recordDispatchIntent session arguments
  | .recordObservation _ arguments => .recordObservation session arguments
  | c => c

/-- A head stands under a key. -/
def World.HeadAt (world : World) (key : HeadKey) (P : HeadRow → Prop) : Prop :=
  ∃ journal, world.journal = some journal ∧ ∃ head ∈ journal.heads, head.key = key ∧ P head

/-- When the repetition of a call in a session is due a replay: an acceptance at its phase in its
own generation, or at any phase when it allows that and the generation is JSON-safe; a dispatch
intent at its phase; an observation, whose phase is final, always. -/
def Replayable (world : World) (session : Session) : Call → Prop
  | .recordAccepted _ accepted options =>
    world.HeadAt accepted.key (AcceptanceReplayable options session)
  | .recordDispatchIntent _ arguments =>
    world.HeadAt arguments.key (fun head => head.phase = .dispatchIntent)
  | _ => True

/-- The receipt of a repetition: it reports itself as a replay with what the call committed. -/
structure Replays (c : Call) (first again : TransitionResult) : Prop where
  disposition : again.disposition = .exactReplay
  revision : again.revision = first.revision
  ack : again.acceptedAckBytes = first.acceptedAckBytes
  terminal : ∀ session arguments, c = .recordObservation session arguments →
    again.terminalReplyBytes = first.terminalReplyBytes

/-- The head of a sound journal under a key is the only one. -/
theorem World.HeadAt.holds (hsound : world.Sound py) {key : HeadKey}
    {P : HeadRow → Prop} (h : world.HeadAt key P)
    (hjournal : world.journal = some journal) (hmem : head ∈ journal.heads)
    (hkey : head.key = key) : P head := by
  obtain ⟨found, hfound, other, hother, hotherKey, hholds⟩ := h
  obtain rfl : journal = found := Option.some.inj (hjournal.symm.trans hfound)
  rwa [List.inj_on_of_nodup_map (hsound journal hjournal).headKeys hmem hother
    (hkey.trans hotherKey.symm)]

/-- A call that returns a receipt is kept. -/
theorem call_kept {next : World} (hsound : world.Sound py) {receipt : TransitionResult}
    (h : call py world c = .ok (.receipt receipt, next)) :
    ∃ journal, next.journal = some journal ∧ ∃ head ∈ journal.heads, Kept c receipt head := by
  cases c with
  | create =>
    simp only [call] at h
    split at h <;> cases h
  | start instanceId =>
    simp only [call] at h
    split at h
    · cases h
    · obtain ⟨_, -, h⟩ := bind_eq_ok.mp h
      cases h
  | close closed =>
    rw [call, check_bind_eq_ok] at h
    cases h.2
  | recordAccepted session accepted options =>
    obtain ⟨journal, -, h⟩ := bind_eq_ok.mp h
    obtain ⟨⟨result, stored⟩, hrecord, h⟩ := bind_eq_ok.mp h
    obtain ⟨hresult, rfl⟩ := Prod.mk.inj (pure_eq_ok.mp h)
    obtain rfl := Returned.receipt.inj hresult
    exact ⟨stored, rfl, recordAccepted_kept hrecord⟩
  | recordDispatchIntent session arguments =>
    obtain ⟨journal, hlive, h⟩ := bind_eq_ok.mp h
    obtain ⟨⟨result, stored⟩, hrecord, h⟩ := bind_eq_ok.mp h
    obtain ⟨hresult, rfl⟩ := Prod.mk.inj (pure_eq_ok.mp h)
    obtain rfl := Returned.receipt.inj hresult
    exact ⟨stored, rfl, recordDispatchIntent_kept (hsound journal (World.live_ok hlive).1) hrecord⟩
  | recordObservation session arguments =>
    obtain ⟨journal, hlive, h⟩ := bind_eq_ok.mp h
    obtain ⟨⟨result, stored⟩, hrecord, h⟩ := bind_eq_ok.mp h
    obtain ⟨hresult, rfl⟩ := Prod.mk.inj (pure_eq_ok.mp h)
    obtain rfl := Returned.receipt.inj hresult
    exact ⟨stored, rfl, recordObservation_kept (hsound journal (World.live_ok hlive).1) hrecord⟩

/-- A repetition that differs is one of a call that returns a receipt. -/
theorem Differs.receipt {receipt : TransitionResult} (h : Differs receipt c other)
    {next : World} {returned : Returned} (hcall : call py world other = .ok (returned, next)) :
    ∃ result, returned = .receipt result := by
  cases h <;>
  · obtain ⟨_, -, hcall⟩ := bind_eq_ok.mp hcall
    obtain ⟨⟨result, _⟩, -, hcall⟩ := bind_eq_ok.mp hcall
    exact ⟨result, (Prod.mk.inj (pure_eq_ok.mp hcall)).1.symm⟩

/-- A repetition that differs from a call the journal keeps is refused. -/
theorem Differs.refused (hsound : world.Sound py)
    {receipt : TransitionResult} (h : Differs receipt c other)
    (hjournal : world.journal = some journal) (hmem : head ∈ journal.heads)
    (hkept : Kept c receipt head) :
    exec py world other = world ∧ ∃ failure, call py world other = .error failure := by
  unfold exec
  cases hcall : call py world other with
  | error failure => exact ⟨rfl, failure, rfl⟩
  | ok result =>
    obtain ⟨returned, next⟩ := result
    obtain ⟨result, rfl⟩ := h.receipt hcall
    have hnext : exec py world other = next := exec_of_call hcall
    obtain ⟨stored, hstored, found, hfound, hother⟩ := call_kept hsound hcall
    obtain ⟨continued, hcontinued, hcontinues⟩ :=
      (exec_outcome hsound other).continues hsound journal hjournal
    rw [hnext] at hcontinued
    obtain rfl : stored = continued := Option.some.inj (hstored.symm.trans hcontinued)
    obtain ⟨later, hlater, hlaterContinues⟩ := hcontinues.heads head hmem
    have hstoredSound := hnext ▸ exec_sound hsound other
    exact (h.not_kept (hstoredSound stored hstored) hlater hfound (hkept.continues hlaterContinues)
      hother).elim

/-- A repetition of a call the journal keeps is replayed when it is due a replay. -/
theorem Kept.replays (hworld : world.Reached py) {before after : World}
    {first : TransitionResult} (hfirst : call py before c = .ok (.receipt first, after))
    (hlive : world.LiveSession session)
    (hjournal : world.journal = some journal) (hmem : head ∈ journal.heads)
    (hkept : Kept c first head) (hreplay : Replayable world session c) :
    ∃ again, call py world (c.inSession session) = .ok (.receipt again, world) ∧
      Replays c first again := by
  obtain ⟨found, hfound, hopen, hsession⟩ := hworld.live hlive
  obtain rfl : journal = found := Option.some.inj (hjournal.symm.trans hfound)
  have hsound := hworld.sound journal hjournal
  have hunchanged : ({ world with journal := some journal } : World) = world := by
    rw [← hjournal]
  cases c with
  | create | start _ | close _ => exact hkept.elim
  | recordAccepted opened accepted options =>
    obtain ⟨_, -, hfirst⟩ := bind_eq_ok.mp hfirst
    obtain ⟨⟨receipt, _⟩, hrecord, hfirst⟩ := bind_eq_ok.mp hfirst
    obtain rfl := Returned.receipt.inj (Prod.mk.inj (pure_eq_ok.mp hfirst)).1
    have hagain := recordAccepted_again hsound hrecord hsession hmem hkept
      (World.HeadAt.holds hworld.sound hreplay hjournal hmem (AcceptanceKept.key hkept))
    refine ⟨storedReceipt head session.generation receipt.revision,
      bind_eq_ok.mpr ⟨journal, hopen, bind_eq_ok.mpr ⟨_, hagain, ?_⟩⟩,
      ⟨rfl, rfl, (AcceptanceKept.ack hkept).symm, nofun⟩⟩
    rw [pure_eq_ok, hunchanged]
  | recordDispatchIntent opened arguments =>
    obtain ⟨_, -, hfirst⟩ := bind_eq_ok.mp hfirst
    obtain ⟨⟨receipt, _⟩, hrecord, hfirst⟩ := bind_eq_ok.mp hfirst
    obtain rfl := Returned.receipt.inj (Prod.mk.inj (pure_eq_ok.mp hfirst)).1
    have hagain := recordDispatchIntent_again hsound hrecord hsession hmem hkept
      (World.HeadAt.holds hworld.sound hreplay hjournal hmem (DispatchKept.key hkept))
    refine ⟨storedReceipt head session.generation receipt.revision,
      bind_eq_ok.mpr ⟨journal, hopen, bind_eq_ok.mpr ⟨_, hagain, ?_⟩⟩,
      ⟨rfl, rfl, (DispatchKept.ack hkept).symm, nofun⟩⟩
    rw [pure_eq_ok, hunchanged]
  | recordObservation opened arguments =>
    obtain ⟨_, -, hfirst⟩ := bind_eq_ok.mp hfirst
    obtain ⟨⟨receipt, _⟩, hrecord, hfirst⟩ := bind_eq_ok.mp hfirst
    obtain rfl := Returned.receipt.inj (Prod.mk.inj (pure_eq_ok.mp hfirst)).1
    have hagain := recordObservation_again hsound hrecord hsession hmem hkept
    refine ⟨storedReceipt head session.generation receipt.revision,
      bind_eq_ok.mpr ⟨journal, hopen, bind_eq_ok.mpr ⟨_, hagain, ?_⟩⟩,
      ⟨rfl, rfl, (ObservationKept.ack hkept).symm, fun _ _ _ =>
        (ObservationKept.terminal hkept).symm⟩⟩
    rw [pure_eq_ok, hunchanged]

/-- A call that returned is replayed by every repetition that is due a replay, after any later calls
and in any live session, and no repetition that differs from it in a bound field is accepted. -/
theorem exact_replay (py : PythonRuntime) (before after : List Call) {c : Call}
    {first : TransitionResult} {committed : World}
    (hcommit : call py (run (exec py) .initial before) c = .ok (.receipt first, committed)) :
    (∀ session, (run (exec py) committed after).LiveSession session →
      Replayable (run (exec py) committed after) session c →
      ∃ again, call py (run (exec py) committed after) (c.inSession session) =
          .ok (.receipt again, run (exec py) committed after) ∧ Replays c first again) ∧
    (∀ other, Differs first c other →
      exec py (run (exec py) committed after) other = run (exec py) committed after ∧
        ∃ failure, call py (run (exec py) committed after) other = .error failure) := by
  have hbefore : (run (exec py) .initial before).Reached py := World.Reached.initial.run before
  have hcommitted : committed.Reached py := by
    have hreached := hbefore.run [c]
    rw [run_cons, run_nil, exec_of_call hcommit] at hreached
    exact hreached
  have hlater : (run (exec py) committed after).Reached py := hcommitted.run after
  obtain ⟨journal, hjournal, head, hmem, hkept⟩ := call_kept hbefore.sound hcommit
  obtain ⟨last, hlast, hcontinues⟩ := run_continues hcommitted.sound hjournal after
  obtain ⟨later, hlaterMem, hlaterContinues⟩ := hcontinues.heads head hmem
  have hlaterKept := hkept.continues hlaterContinues
  constructor
  · intro session hlive hreplay
    exact hlaterKept.replays hlater hcommit hlive hlast hlaterMem hreplay
  · intro other hdiffers
    exact hdiffers.refused hlater.sound hlast hlaterMem hlaterKept

/-- A live session of a world that is computed. -/
theorem World.liveSession_of (hsession : session ∈ world.sessions)
    (hnewest : world.journal.all (fun journal =>
      journal.state.lastSidecarGeneration == session.generation) = true) :
    world.LiveSession session := by
  refine ⟨hsession, fun journal hjournal => ?_⟩
  rw [Option.mem_def.mp hjournal] at hnewest
  simpa using hnewest

/-- The session that accepted the sample command replays it. -/
theorem exact_replay_sample : ∃ again, call asciiRuntime acceptedWorld
    (sampleAccept sampleSession) =
    .ok (.receipt again, acceptedWorld) ∧ again.disposition = .exactReplay := by
  have hlive : acceptedWorld.LiveSession sampleSession :=
    World.liveSession_of (List.mem_singleton_self _) (by decide)
  have hhead : acceptedWorld.HeadAt sampleCommand.key (AcceptanceReplayable {} sampleSession) :=
    ⟨sampleHistory, rfl, sampleHead, List.mem_singleton_self _, rfl, .inl ⟨rfl, rfl⟩⟩
  obtain ⟨again, hagain, hreplays⟩ := (exact_replay asciiRuntime [.create, .start sampleToken] []
    sampleAccept_returns).1 sampleSession hlive hhead
  exact ⟨again, hagain, hreplays.disposition⟩

/-- The instance id of a second start. -/
def secondToken : HexToken :=
  ⟨"fedcba9876543210fedcba9876543210fedcba9876543210fedcba9876543210", by decide⟩

/-- The session of a second start. -/
def secondSession : Session := ⟨2, secondToken.text⟩

/-- The world after a restart. -/
def restartedWorld : World :=
  ⟨some { sampleHistory with
      state := ⟨1, 2⟩
      generations := sampleHistory.generations ++ [secondSession.row] },
    [sampleSession, secondSession]⟩

/-- After a restart the same acceptance is refused, although the head is still accepted. -/
theorem restarted_acceptance_not_replayed :
    call asciiRuntime (run (exec asciiRuntime) .initial [.create, .start sampleToken])
        (sampleAccept sampleSession) = .ok (.receipt sampleReceipt, acceptedWorld) ∧
      call asciiRuntime acceptedWorld (.start secondToken) =
        .ok (.session secondSession, restartedWorld) ∧
      restartedWorld.LiveSession secondSession ∧
      restartedWorld.HeadAt sampleCommand.key (fun head => head.phase = .accepted) ∧
      call asciiRuntime restartedWorld (sampleAccept secondSession) =
        .error (.conflict .acceptanceReplayConflict) := by
  refine ⟨sampleAccept_returns, by decide +kernel, World.liveSession_of ?_ (by decide), ?_,
    by decide +kernel⟩
  · exact List.mem_cons_of_mem _ (List.mem_singleton_self _)
  · exact ⟨_, rfl, sampleHead, List.mem_singleton_self _, rfl, rfl⟩

end SeekTalent.SourcePort
