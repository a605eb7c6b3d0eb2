import SeekTalent.SourcePort.JournalInvariant

/-!
# What the writer commits

One inversion lemma for each writer says everything a successful call can have done: it replayed a
stored transition and left the tables as they were, or it created one head or advanced one head,
with every condition that was checked on the way (`AcceptanceCreated`, `HeadAdvanced`).  The
invariant of the tables follows from these outcomes and never from the code: a created head is
`JournalSound.accept`, an advanced head is `JournalSound.advance`.
-/

namespace SeekTalent.SourcePort

open Foundation

variable (py : PythonRuntime)
variable {next journal : Journal} {session : Session} {head : HeadRow} {result : TransitionResult}
variable {revision : Int} {key : HeadKey} {accepted : AcceptedCommand} {options : AcceptOptions}

/-! ## Outcomes -/

/-- The tables after one more revision, event and list of heads. -/
def Journal.append (journal : Journal) (event : EventRow) (heads : List HeadRow) : Journal :=
  { journal with
    state := { journal.state with lastJournalRevision := journal.state.lastJournalRevision + 1 }
    events := journal.events ++ [event]
    heads := heads }

/-- The heads with the row of one key replaced. -/
def replaceHead (heads : List HeadRow) (next : HeadRow) : List HeadRow :=
  heads.map (fun head => if head.key == next.key then next else head)

/-- The session's generation is on record under its instance id and is the newest. -/
structure SessionLive (journal : Journal) (session : Session) : Prop where
  newest : journal.state.lastSidecarGeneration = session.generation
  row : ∃ row ∈ journal.generations, row.generation = session.generation ∧
    row.sidecarInstanceId = session.instanceId

/-- The head that a session's new acceptance inserts. -/
def acceptedHead (accepted : AcceptedCommand) (session : Session) (revision : Int)
    (ack : Option Bytes) : HeadRow where
  columns :=
    { accepted with
      acceptedGeneration := session.generation
      acceptedJournalRevision := revision
      acceptedAckBytes := ack }
  phase := .accepted
  headGeneration := session.generation
  headJournalRevision := revision
  progress := {}

/-- A head after a session recorded its dispatch intent. -/
def dispatchedHead (head : HeadRow) (session : Session) (revision : Int) (ref : String) : HeadRow :=
  { head with
    phase := .dispatchIntent
    headGeneration := session.generation
    headJournalRevision := revision
    progress := { head.progress with
      durableDispatchIntentRef := some ref
      dispatchIntentGeneration := some session.generation
      dispatchIntentJournalRevision := some revision } }

/-- A head after a session recorded an observation of it. -/
def observedHead (head : HeadRow) (session : Session) (revision : Int)
    (arguments : ObservationArguments) : HeadRow :=
  { head with
    phase := arguments.kind.phase
    headGeneration := session.generation
    headJournalRevision := revision
    progress := { head.progress with
      observationGeneration := some session.generation
      observationJournalRevision := some revision
      observationRef := some arguments.observationRef
      observationHash := some arguments.observationHash
      terminalReplyBytes := arguments.terminalReplyBytes } }

/-- The next journal revision. -/
def Journal.nextRevision (journal : Journal) : Int := journal.state.lastJournalRevision + 1

/-- What `record_accepted` did when it created a head. -/
structure AcceptanceCreated (journal : Journal) (session : Session) (accepted : AcceptedCommand)
    (result : TransitionResult) (next : Journal) : Prop where
  live : SessionLive journal session
  ordinal : 1 ≤ accepted.dispatchAuthorizationOrdinal
  fresh : ∀ head ∈ journal.heads, head.key ≠ accepted.key
  noCollision : requireNoIdentityCollision journal accepted = .ok ()
  fact : FactValues.validate py ⟨accepted, session.generation, journal.nextRevision,
    session.generation, journal.nextRevision, .acceptedNoDispatch⟩ = .ok ()
  retryRef : ∀ head ∈ journal.heads,
    sameRetryRef head.columns.toAcceptedCommand accepted = false
  created : result.disposition = .created ∧ result.headPhase = .accepted ∧
    result.revision = journal.nextRevision
  stored : ∃ head, (∃ ack, head = acceptedHead accepted session journal.nextRevision ack) ∧
    eventCheck head.acceptedEvent = true ∧ headCheck head = true ∧
    eventKnown journal head.acceptedEvent = true ∧ headKnown journal head = true ∧
    next = journal.append head.acceptedEvent (journal.heads ++ [head])

/-- What a transition of an existing head did when it advanced the head: `advanced` is the head in
its new phase and `event` the event that was appended. -/
structure HeadAdvanced (journal : Journal) (session : Session) (head advanced : HeadRow)
    (event : EventRow) (next : Journal) : Prop where
  live : SessionLive journal session
  mem : head ∈ journal.heads
  generation : head.headGeneration = session.generation
  columns : advanced.columns = head.columns
  fact : ∃ fact, factFromRow py advanced = .ok fact
  check : headCheck advanced = true
  known : headKnown journal advanced = true
  eventColumns : event.columns = head.columns
  eventRevision : event.journalRevision = journal.nextRevision
  eventCheck : eventCheck event = true
  eventKnown : eventKnown journal event = true
  stored : next = journal.append event (replaceHead journal.heads advanced)

/-! ## Inversion of the writers -/

/-- The session check finds the session's own generation row. -/
theorem requireSessionGeneration_ok
    (h : requireSessionGeneration journal session = .ok ()) : SessionLive journal session := by
  rw [requireSessionGeneration, require_eq_ok] at h
  obtain ⟨row, hrow, hmatch⟩ := (Option.any_eq_true _ _).mp h
  simp only [Bool.and_eq_true, beq_iff_eq] at hmatch
  obtain ⟨⟨⟨hinstance, -⟩, -⟩, hnewest⟩ := hmatch
  have hgeneration : row.generation = session.generation := by
    simpa using List.find?_some hrow
  exact ⟨hnewest, row, List.mem_of_find?_eq_some hrow, hgeneration, hinstance⟩

/-- A started session has the next generation, and the events and the heads stay. -/
theorem startGeneration_ok {instanceId : HexToken}
    (h : startGeneration py journal instanceId = .ok (session, next)) :
    session.generation = journal.state.lastSidecarGeneration + 1 ∧
      next.state.lastSidecarGeneration = session.generation ∧ next.events = journal.events ∧
      next.heads = journal.heads := by
  simp only [startGeneration, check_bind_eq_ok, pure_eq_ok] at h
  obtain ⟨-, -, -, -, hpair⟩ := h
  obtain ⟨rfl, rfl⟩ := Prod.mk.inj hpair
  exact ⟨rfl, rfl, rfl, rfl⟩

/-- Allocating a revision succeeds with the next one. -/
theorem allocateRevision_ok (h : allocateRevision journal = .ok (revision, next)) :
    revision = journal.nextRevision ∧
      next = { journal with
        state := { journal.state with lastJournalRevision := journal.nextRevision } } := by
  rw [allocateRevision, check_bind_eq_ok, pure_eq_ok] at h
  obtain ⟨-, hpair⟩ := h
  cases hpair
  exact ⟨rfl, rfl⟩

/-- An inserted event passed the constraints of its table and is the last one. -/
theorem insertEvent_ok {event : EventRow} (h : insertEvent journal event = .ok next) :
    eventCheck event = true ∧ eventKnown journal event = true ∧
      next = { journal with events := journal.events ++ [event] } := by
  simp only [insertEvent, check_bind_eq_ok, require_eq_ok, pure_eq_ok] at h
  obtain ⟨hcheck, -, hknown, hnext⟩ := h
  exact ⟨hcheck, hknown, hnext.symm⟩

/-- An inserted head passed the constraints of its table and is the last one. -/
theorem insertHead_ok (h : insertHead journal head = .ok next) :
    headCheck head = true ∧ headKnown journal head = true ∧
      (∀ other ∈ journal.heads,
        sameRetryRef other.columns.toAcceptedCommand head.columns.toAcceptedCommand = false) ∧
      next = { journal with heads := journal.heads ++ [head] } := by
  simp only [insertHead, check_bind_eq_ok, require_eq_ok, pure_eq_ok, List.all_eq_true,
    Bool.not_eq_true'] at h
  obtain ⟨hcheck, -, hretry, hknown, hnext⟩ := h
  exact ⟨hcheck, hknown, hretry, hnext.symm⟩

/-- A head that was found is stored under the key it was asked for. -/
theorem findOperationHead_eq_some
    (h : findOperationHead journal key = some head) : head ∈ journal.heads ∧ head.key = key :=
  ⟨List.mem_of_find?_eq_some h, by simpa using List.find?_some h⟩

/-- A head that was not found is not stored. -/
theorem findOperationHead_eq_none
    (h : findOperationHead journal key = none) : ∀ head ∈ journal.heads, head.key ≠ key := by
  simpa [findOperationHead] using h

/-- `_require_head` returns the stored head. -/
theorem requireHead_ok
    (h : requireHead journal key = .ok head) : head ∈ journal.heads ∧ head.key = key := by
  unfold requireHead at h
  split at h
  next found hfound =>
    cases h
    exact findOperationHead_eq_some hfound
  next => cases h

/-- A replayed transition reports itself as such. -/
theorem transitionResultFromHead_ok {disposition : Disposition} {generation : Int}
    (h : transitionResultFromHead py head disposition generation revision = .ok result) :
    result.disposition = disposition ∧ result.headPhase = head.phase := by
  simp only [transitionResultFromHead, bind_eq_ok, replyBytesFromRow, pure_eq_ok] at h
  obtain ⟨_, -, h⟩ := h
  split at h
  · simp only [bind_eq_ok, pure_eq_ok] at h
    obtain ⟨_, -, _, -, rfl⟩ := h
    exact ⟨rfl, rfl⟩
  · simp only [bind_eq_ok, pure_eq_ok] at h
    obtain ⟨_, -, _, -, rfl⟩ := h
    exact ⟨rfl, rfl⟩

/-- A created acceptance passed every check of its branch. -/
theorem createAccepted_ok
    (hlive : SessionLive journal session) (hordinal : 1 ≤ accepted.dispatchAuthorizationOrdinal)
    (hfresh : ∀ head ∈ journal.heads, head.key ≠ accepted.key)
    (h : createAccepted py journal session accepted options = .ok (result, next)) :
    AcceptanceCreated py journal session accepted result next := by
  rw [createAccepted, check_bind_eq_ok, bind_eq_ok] at h
  obtain ⟨hcollision, ⟨revision, allocated⟩, hallocate, h⟩ := h
  obtain ⟨rfl, rfl⟩ := allocateRevision_ok hallocate
  rw [check_bind_eq_ok, bind_eq_ok] at h
  obtain ⟨hfact, ack, -, h⟩ := h
  obtain ⟨withEvent, hevent, h⟩ := bind_eq_ok.mp h
  obtain ⟨heventCheck, heventKnown, rfl⟩ := insertEvent_ok hevent
  obtain ⟨withHead, hhead, h⟩ := bind_eq_ok.mp h
  obtain ⟨hheadCheck, hheadKnown, hretry, rfl⟩ := insertHead_ok hhead
  obtain ⟨rfl, rfl⟩ := Prod.mk.inj (pure_eq_ok.mp h)
  exact
    { live := hlive
      ordinal := hordinal
      fresh := hfresh
      noCollision := hcollision
      fact := hfact
      retryRef := hretry
      created := ⟨rfl, rfl, rfl⟩
      stored := ⟨acceptedHead accepted session journal.nextRevision ack, ⟨ack, rfl⟩, heventCheck,
        hheadCheck, heventKnown, hheadKnown, rfl⟩ }

/-- A replayed acceptance is one of a stored head. -/
theorem replayAccepted_ok {existing : HeadRow}
    (h : replayAccepted py session existing accepted options = .ok result) :
    sameAcceptedIdentity existing accepted options.allowTransportReplay = true ∧
      result.disposition = .exactReplay ∧ result.headPhase = existing.phase := by
  simp only [replayAccepted, check_bind_eq_ok, require_eq_ok] at h
  exact ⟨h.1, transitionResultFromHead_ok py h.2.2.2⟩

/-- `record_accepted` either replays the stored acceptance or creates the head. -/
theorem recordAccepted_ok
    (h : recordAccepted py journal session accepted options = .ok (result, next)) :
    (next = journal ∧ result.disposition = .exactReplay ∧
        ∃ existing ∈ journal.heads, existing.key = accepted.key ∧
          sameAcceptedIdentity existing accepted options.allowTransportReplay = true ∧
          result.headPhase = existing.phase) ∨
      AcceptanceCreated py journal session accepted result next := by
  simp only [recordAccepted, check_bind_eq_ok] at h
  obtain ⟨-, hinput, -, hsession, h⟩ := h
  have hordinal : 1 ≤ accepted.dispatchAuthorizationOrdinal := by
    simp only [validateAcceptedInput, check_bind_eq_ok, require_eq_ok] at hinput
    exact hinput.1
  split at h
  next existing hfind =>
    obtain ⟨hmem, hkey⟩ := findOperationHead_eq_some hfind
    obtain ⟨replayed, hreplay, h⟩ := bind_eq_ok.mp h
    obtain ⟨rfl, rfl⟩ := Prod.mk.inj (pure_eq_ok.mp h)
    obtain ⟨hidentity, hdisposition, hphase⟩ := replayAccepted_ok py hreplay
    exact Or.inl ⟨rfl, hdisposition, existing, hmem, hkey, hidentity, hphase⟩
  next hfind =>
    rw [check_bind_eq_ok] at h
    exact Or.inr (createAccepted_ok py (requireSessionGeneration_ok hsession) hordinal
      (findOperationHead_eq_none hfind) h.2)

/-- A selected head is the only one under its key, and its row is the one that was updated. -/
theorem updateHead_ok {set : HeadRow → HeadRow} (advanced : HeadRow)
    (h : updateHead journal head.key head.headJournalRevision head.phase set = .ok next)
    (hkeys : (journal.heads.map (·.key)).Nodup) (hmem : head ∈ journal.heads)
    (hset : set head = advanced) (hcolumns : advanced.columns = head.columns) :
    headCheck advanced = true ∧ headKnown journal advanced = true ∧
      next = { journal with heads := replaceHead journal.heads advanced } := by
  simp only [updateHead, check_bind_eq_ok, require_eq_ok, pure_eq_ok, List.all_eq_true,
    List.mem_map, List.mem_filter, Bool.and_eq_true] at h
  obtain ⟨hconstraints, -, rfl⟩ := h
  have hselected : headSelected head.key head.headJournalRevision head.phase head = true := by
    simp [headSelected]
  obtain ⟨hcheck, hknown⟩ := hconstraints advanced ⟨head, ⟨hmem, hselected⟩, hset⟩
  have hkey : advanced.key = head.key := by rw [HeadRow.key, HeadRow.key, hcolumns]
  refine ⟨hcheck, hknown, ?_⟩
  congr 1
  apply List.map_congr_left
  intro row hrow
  by_cases hsame : row.key = head.key
  · have hrowHead : row = head := List.inj_on_of_nodup_map hkeys hrow hmem hsame
    rw [hrowHead, hset, if_pos hselected, if_pos (by simp [hkey])]
  · rw [if_neg (by simp [headSelected, hsame]), if_neg (by simp [hkey, hsame])]

/-- A new dispatch intent advances an accepted head. -/
theorem createDispatchIntent_ok {arguments : DispatchArguments}
    (hlive : SessionLive journal session) (hkeys : (journal.heads.map (·.key)).Nodup)
    (hmem : head ∈ journal.heads) (hkey : head.key = arguments.key)
    (h : createDispatchIntent py journal session head arguments = .ok (result, next)) :
    head.phase = .accepted ∧ head.headJournalRevision = arguments.expectedHeadJournalRevision ∧
      (∃ ack, replyBytesFromRow head.columns.acceptedAckBytes = .ok ack ∧
        result = ⟨.created, session.generation, head.columns.acceptedGeneration,
          head.columns.acceptedJournalRevision, journal.nextRevision, .dispatchIntent, ack,
          none⟩) ∧
      HeadAdvanced py journal session head
        (dispatchedHead head session journal.nextRevision arguments.durableDispatchIntentRef)
        ⟨journal.nextRevision, session.generation, .dispatchIntent, head.columns,
          dispatchProgress session journal.nextRevision arguments.durableDispatchIntentRef⟩
        next := by
  simp only [createDispatchIntent, check_bind_eq_ok, require_eq_ok] at h
  obtain ⟨hphase, hgeneration, hrevision, h⟩ := h
  obtain ⟨⟨revision, allocated⟩, hallocate, h⟩ := bind_eq_ok.mp h
  obtain ⟨rfl, rfl⟩ := allocateRevision_ok hallocate
  rw [check_bind_eq_ok] at h
  obtain ⟨hfact, h⟩ := h
  obtain ⟨ack, hack, h⟩ := bind_eq_ok.mp h
  obtain ⟨withEvent, hevent, h⟩ := bind_eq_ok.mp h
  obtain ⟨heventCheck, heventKnown, rfl⟩ := insertEvent_ok hevent
  obtain ⟨withHead, hupdate, h⟩ := bind_eq_ok.mp h
  rw [← hkey, ← hrevision, ← hphase] at hupdate
  obtain ⟨hcheck, hknown, rfl⟩ := updateHead_ok
    (dispatchedHead head session journal.nextRevision arguments.durableDispatchIntentRef)
    hupdate hkeys hmem rfl rfl
  obtain ⟨rfl, rfl⟩ := Prod.mk.inj (pure_eq_ok.mp h)
  refine ⟨hphase, hrevision, ⟨ack, hack, rfl⟩, ?_⟩
  exact
    { live := hlive
      mem := hmem
      generation := hgeneration
      columns := rfl
      fact := (factFromRow_ok_iff py).mpr ⟨_, rfl, hfact⟩
      check := hcheck
      known := hknown
      eventColumns := rfl
      eventRevision := rfl
      eventCheck := heventCheck
      eventKnown := heventKnown
      stored := rfl }

/-- `record_dispatch_intent` either replays a stored dispatch or advances an accepted head. -/
theorem recordDispatchIntent_ok
    {arguments : DispatchArguments} (hkeys : (journal.heads.map (·.key)).Nodup)
    (h : recordDispatchIntent py journal session arguments = .ok (result, next)) :
    SessionLive journal session ∧ ∃ head ∈ journal.heads, head.key = arguments.key ∧
      ((next = journal ∧ head.phase = .dispatchIntent ∧ result.disposition = .exactReplay) ∨
        (head.phase = .accepted ∧
          head.headJournalRevision = arguments.expectedHeadJournalRevision ∧
          result.disposition = .created ∧
          HeadAdvanced py journal session head
            (dispatchedHead head session journal.nextRevision arguments.durableDispatchIntentRef)
            ⟨journal.nextRevision, session.generation, .dispatchIntent, head.columns,
              dispatchProgress session journal.nextRevision arguments.durableDispatchIntentRef⟩
            next)) := by
  simp only [recordDispatchIntent, check_bind_eq_ok] at h
  obtain ⟨-, -, hsession, h⟩ := h
  have hlive := requireSessionGeneration_ok hsession
  obtain ⟨head, hhead, h⟩ := bind_eq_ok.mp h
  obtain ⟨hmem, hkey⟩ := requireHead_ok hhead
  refine ⟨hlive, head, hmem, hkey, ?_⟩
  split at h
  next hphase =>
    obtain ⟨replayed, hreplay, h⟩ := bind_eq_ok.mp h
    obtain ⟨rfl, rfl⟩ := Prod.mk.inj (pure_eq_ok.mp h)
    rw [replayDispatchIntent, check_bind_eq_ok] at hreplay
    exact Or.inl ⟨rfl, hphase, (transitionResultFromHead_ok py hreplay.2).1⟩
  next =>
    obtain ⟨hphase, hrevision, ⟨ack, -, rfl⟩, hadvanced⟩ :=
      createDispatchIntent_ok py hlive hkeys hmem hkey h
    exact Or.inr ⟨hphase, hrevision, rfl, hadvanced⟩

/-- The event that an observation appends. -/
def observationEventOf (head : HeadRow) (dispatch : DispatchValues) (session : Session)
    (revision : Int) (arguments : ObservationArguments) : EventRow :=
  ⟨revision, session.generation, arguments.kind.phase, head.columns,
    { durableDispatchIntentRef := some dispatch.durableDispatchIntentRef
      dispatchIntentGeneration := some dispatch.dispatchIntentGeneration
      dispatchIntentJournalRevision := some dispatch.dispatchIntentJournalRevision
      observationGeneration := some session.generation
      observationJournalRevision := some revision
      observationRef := some arguments.observationRef
      observationHash := some arguments.observationHash
      terminalReplyBytes := arguments.terminalReplyBytes }⟩

/-- The conclusion of a head that was observed. -/
theorem conclusionFromRow_observedHead {dispatch : DispatchValues}
    {arguments : ObservationArguments} (h : dispatchFromRow head = some dispatch) :
    conclusionFromRow (observedHead head session revision arguments) =
      some (arguments.kind.conclusion dispatch ⟨session.generation, revision,
        arguments.observationRef, arguments.observationHash⟩) := by
  have hdispatch : dispatchFromRow (observedHead head session revision arguments) =
      some dispatch := h
  have hobservation : observationFromRow (observedHead head session revision arguments) =
      some ⟨session.generation, revision, arguments.observationRef, arguments.observationHash⟩ :=
    observationFromRow_eq_some.mpr ⟨rfl, rfl, rfl, rfl⟩
  have hphase : (observedHead head session revision arguments).phase = arguments.kind.phase := rfl
  unfold conclusionFromRow
  rw [hphase, hdispatch, hobservation]
  cases arguments.kind <;> rfl

/-- A new observation advances a dispatched head. -/
theorem createObservation_ok {arguments : ObservationArguments}
    (hlive : SessionLive journal session) (hkeys : (journal.heads.map (·.key)).Nodup)
    (hmem : head ∈ journal.heads) (hkey : head.key = arguments.key)
    (h : createObservation py journal session head arguments = .ok (result, next)) :
    head.phase = .dispatchIntent ∧
      head.headJournalRevision = arguments.expectedHeadJournalRevision ∧
      (∃ ack, replyBytesFromRow head.columns.acceptedAckBytes = .ok ack ∧
        result = ⟨.created, session.generation, head.columns.acceptedGeneration,
          head.columns.acceptedJournalRevision, journal.nextRevision, arguments.kind.phase, ack,
          arguments.terminalReplyBytes⟩) ∧
      ∃ dispatch, dispatchFromRow head = some dispatch ∧
        HeadAdvanced py journal session head
          (observedHead head session journal.nextRevision arguments)
          (observationEventOf head dispatch session journal.nextRevision arguments) next := by
  simp only [createObservation, check_bind_eq_ok, require_eq_ok] at h
  obtain ⟨hphase, hgeneration, hrevision, h⟩ := h
  obtain ⟨⟨revision, allocated⟩, hallocate, h⟩ := bind_eq_ok.mp h
  obtain ⟨rfl, rfl⟩ := allocateRevision_ok hallocate
  cases hdispatch : dispatchFromRow head with
  | none =>
    rw [hdispatch] at h
    cases h
  | some dispatch =>
    rw [hdispatch] at h
    simp only [check_bind_eq_ok] at h
    obtain ⟨hfact, h⟩ := h
    obtain ⟨ack, hack, h⟩ := bind_eq_ok.mp h
    obtain ⟨withEvent, hevent, h⟩ := bind_eq_ok.mp h
    obtain ⟨heventCheck, heventKnown, rfl⟩ := insertEvent_ok hevent
    obtain ⟨withHead, hupdate, h⟩ := bind_eq_ok.mp h
    rw [← hkey, ← hrevision, ← hphase] at hupdate
    obtain ⟨hcheck, hknown, rfl⟩ := updateHead_ok
      (observedHead head session journal.nextRevision arguments) hupdate hkeys hmem rfl rfl
    obtain ⟨rfl, rfl⟩ := Prod.mk.inj (pure_eq_ok.mp h)
    refine ⟨hphase, hrevision, ⟨ack, hack, rfl⟩, dispatch, rfl, ?_⟩
    exact
      { live := hlive
        mem := hmem
        generation := hgeneration
        columns := rfl
        fact := (factFromRow_ok_iff py).mpr ⟨_, conclusionFromRow_observedHead hdispatch, hfact⟩
        check := hcheck
        known := hknown
        eventColumns := rfl
        eventRevision := rfl
        eventCheck := heventCheck
        eventKnown := heventKnown
        stored := rfl }

/-- `record_observed_result` and `record_observed_failure` either replay a stored observation or
advance a dispatched head. -/
theorem recordObservation_ok
    {arguments : ObservationArguments} (hkeys : (journal.heads.map (·.key)).Nodup)
    (h : recordObservation py journal session arguments = .ok (result, next)) :
    ∃ head ∈ journal.heads, head.key = arguments.key ∧
      (next = journal ∨
        (head.phase = .dispatchIntent ∧ result.disposition = .created ∧
          validateTerminalObservationBinding py arguments.observationRef
            arguments.observationHash arguments.terminalReplyBytes = .ok () ∧
          ∃ dispatch, dispatchFromRow head = some dispatch ∧
            HeadAdvanced py journal session head
              (observedHead head session journal.nextRevision arguments)
              (observationEventOf head dispatch session journal.nextRevision arguments) next)) := by
  simp only [recordObservation, check_bind_eq_ok] at h
  obtain ⟨-, -, -, hsession, hbinding, h⟩ := h
  obtain ⟨head, hhead, h⟩ := bind_eq_ok.mp h
  obtain ⟨hmem, hkey⟩ := requireHead_ok hhead
  refine ⟨head, hmem, hkey, ?_⟩
  split at h
  next hphase =>
    obtain ⟨replayed, -, h⟩ := bind_eq_ok.mp h
    obtain ⟨rfl, rfl⟩ := Prod.mk.inj (pure_eq_ok.mp h)
    exact Or.inl rfl
  next =>
    obtain ⟨hphase, -, ⟨ack, -, rfl⟩, hadvanced⟩ :=
      createObservation_ok py (requireSessionGeneration_ok hsession) hkeys hmem hkey h
    exact Or.inr ⟨hphase, rfl, hbinding, hadvanced⟩

end SeekTalent.SourcePort
