import SeekTalent.SourcePort.JournalValidity

/-!
# One dispatched authorization for each operation

`record_accepted` looks at the newest authorization of its operation and refuses to follow one that
was dispatched.  `record_dispatch_intent` looks at the one authorization it was given and at the
generation that accepted it, and not at a newer one.  When one session accepts a retry and then
dispatches the authorization the retry superseded, both of them can be dispatched.  The journal of a
history keeps one dispatched authorization for each operation, the newest, exactly when no call of
the history dispatches a superseded one.
-/

namespace SeekTalent.SourcePort

open Foundation

variable {py : PythonRuntime}
variable {head : HeadRow} {next journal : Journal} {session : Session}
variable {event : EventRow} {result : TransitionResult}

/-- The authorizations that have a dispatch intent: each one's operation and ordinal. -/
def Journal.dispatchIntents (journal : Journal) : List (OperationKey × Int) :=
  (journal.events.filter (·.phase == .dispatchIntent)).map
    (fun event => (event.columns.operation, event.columns.dispatchAuthorizationOrdinal))

/-- At most one authorization of each operation has a dispatch intent, and it is the newest: none
that was superseded is dispatched, and none was accepted after a dispatched one. -/
structure DispatchExclusive (journal : Journal) : Prop where
  oneOrdinal : ∀ operation left right, (operation, left) ∈ journal.dispatchIntents →
    (operation, right) ∈ journal.dispatchIntents → left = right
  newest : ∀ operation ordinal, (operation, ordinal) ∈ journal.dispatchIntents →
    ∀ head ∈ journal.heads, head.columns.operation = operation →
      head.columns.dispatchAuthorizationOrdinal ≤ ordinal

/-- Every journal of the world dispatches at most the newest authorization of each operation. -/
def World.DispatchExclusive (world : World) : Prop :=
  ∀ journal ∈ world.journal, SourcePort.DispatchExclusive journal

/-- A dispatch intent is recorded for the newest authorization of its operation. -/
def DispatchesNewest (world : World) : Call → Prop
  | .recordDispatchIntent _ arguments => ∀ journal ∈ world.journal, ∀ head ∈ journal.heads,
    head.columns.operation = (arguments.runId, arguments.operationId) →
      head.columns.dispatchAuthorizationOrdinal ≤ arguments.dispatchAuthorizationOrdinal
  | _ => True

/-! ## Dispatched heads -/

/-- A head that left the accepted phase is the newest one of its operation. -/
def DispatchedHeadsNewest (heads : List HeadRow) : Prop :=
  ∀ dispatched ∈ heads, dispatched.phase ≠ .accepted → ∀ head ∈ heads,
    head.columns.operation = dispatched.columns.operation →
      head.columns.dispatchAuthorizationOrdinal ≤ dispatched.columns.dispatchAuthorizationOrdinal

/-- The history of a head has a dispatch event exactly when the head left the accepted phase. -/
theorem HeadRow.dispatch_mem_history :
    (∃ event ∈ head.history, event.phase = .dispatchIntent) ↔ head.phase ≠ .accepted := by
  unfold HeadRow.history
  cases hphase : head.phase <;>
    simp [HeadRow.acceptedEvent, HeadRow.dispatchEvent, HeadRow.observationEvent]

/-- Every event of a head carries the columns of the head. -/
theorem HeadRow.columns_of_mem_history
    (h : event ∈ head.history) : event.columns = head.columns := by
  unfold HeadRow.history at h
  split at h <;>
    simp only [List.mem_cons, List.not_mem_nil, or_false] at h
  · rw [h]; rfl
  · rcases h with rfl | rfl <;> rfl
  all_goals rcases h with rfl | rfl | rfl <;> rfl

/-- The authorizations that have a dispatch intent are those whose head left the accepted phase. -/
theorem JournalSound.mem_dispatchIntents (h : JournalSound py journal)
    {operation : OperationKey} {ordinal : Int} :
    (operation, ordinal) ∈ journal.dispatchIntents ↔
      ∃ head ∈ journal.heads, head.phase ≠ .accepted ∧ head.columns.operation = operation ∧
        head.columns.dispatchAuthorizationOrdinal = ordinal := by
  simp only [Journal.dispatchIntents, List.mem_map, List.mem_filter, beq_iff_eq, Prod.mk.injEq]
  constructor
  · rintro ⟨event, ⟨hevent, hphase⟩, hoperation, hordinal⟩
    obtain ⟨head, hhead, hkey⟩ := h.eventKeys event hevent
    have hmem : event ∈ head.history := by
      rw [← h.histories head hhead]
      exact List.mem_filter.mpr ⟨hevent, by simp [hkey]⟩
    have hcolumns := HeadRow.columns_of_mem_history hmem
    rw [hcolumns] at hoperation hordinal
    exact ⟨head, hhead, HeadRow.dispatch_mem_history.mp ⟨event, hmem, hphase⟩, hoperation,
      hordinal⟩
  · rintro ⟨head, hhead, hleft, hoperation, hordinal⟩
    obtain ⟨event, hmem, hphase⟩ := HeadRow.dispatch_mem_history.mpr hleft
    have hcolumns := HeadRow.columns_of_mem_history hmem
    rw [← h.histories head hhead] at hmem
    exact ⟨event, ⟨List.mem_of_mem_filter hmem, hphase⟩, by rw [hcolumns, hoperation],
      by rw [hcolumns, hordinal]⟩

/-- In a sound journal, exclusion of dispatch intents is a fact about the heads. -/
theorem dispatchExclusive_iff (h : JournalSound py journal) :
    DispatchExclusive journal ↔ DispatchedHeadsNewest journal.heads := by
  constructor
  · intro hexclusive dispatched hdispatched hleft
    exact hexclusive.newest _ _
      (h.mem_dispatchIntents.mpr ⟨dispatched, hdispatched, hleft, rfl, rfl⟩)
  · intro hheads
    refine ⟨?_, ?_⟩
    · intro operation left right hleft hright
      obtain ⟨leftHead, hleftHead, hleftPhase, hleftOperation, rfl⟩ :=
        h.mem_dispatchIntents.mp hleft
      obtain ⟨rightHead, hrightHead, hrightPhase, hrightOperation, rfl⟩ :=
        h.mem_dispatchIntents.mp hright
      apply le_antisymm
      · exact hheads rightHead hrightHead hrightPhase leftHead hleftHead
          (hleftOperation.trans hrightOperation.symm)
      · exact hheads leftHead hleftHead hleftPhase rightHead hrightHead
          (hrightOperation.trans hleftOperation.symm)
    · intro operation ordinal hdispatch head hhead hoperation
      obtain ⟨dispatched, hdispatched, hleft, rfl, rfl⟩ := h.mem_dispatchIntents.mp hdispatch
      exact hheads dispatched hdispatched hleft head hhead hoperation

/-! ## What each outcome does to the dispatched heads -/

/-- An acceptance follows authorizations of its operation that are all undispatched. -/
theorem undispatched_of_accept
    {accepted : AcceptedCommand} (h : JournalSound py journal)
    (hcreated : AcceptanceCreated py journal session accepted result next)
    (hheads : DispatchedHeadsNewest journal.heads) :
    ∀ head ∈ journal.heads, head.columns.operation = accepted.operation →
      head.phase = .accepted := by
  have hfits := JournalSound.acceptanceFits h hcreated.ordinal hcreated.noCollision
  intro head hhead hoperation
  by_contra hdispatched
  have hbounds := JournalSound.ordinal_bounds h hhead
  rw [hoperation] at hbounds
  obtain ⟨last, hlast, hlastOrdinal⟩ :=
    exists_of_numbered (h.epochs accepted.operation).ordinals (hbounds.1.trans hbounds.2) le_rfl
  obtain ⟨lastHead, hlastHead, rfl, hlastOperation⟩ :=
    JournalSound.exists_of_mem_authorizations hlast
  have hle := hheads head hhead hdispatched lastHead hlastHead
    (hlastOperation.trans hoperation.symm)
  have hordinal := hfits.ordinal
  exact hdispatched (hfits.undispatched head hhead hoperation (by omega))

/-- An acceptance leaves the dispatched heads the newest of their operations. -/
theorem dispatchedHeadsNewest_accept
    {accepted : AcceptedCommand} (h : JournalSound py journal)
    (hcreated : AcceptanceCreated py journal session accepted result next)
    (hheads : DispatchedHeadsNewest journal.heads) : DispatchedHeadsNewest next.heads := by
  have hundispatched := undispatched_of_accept h hcreated hheads
  obtain ⟨created, ⟨ack, hcreatedEq⟩, -, -, -, -, rfl⟩ := hcreated.stored
  have hphase : created.phase = .accepted := by rw [hcreatedEq]; rfl
  have hoperation : created.columns.operation = accepted.operation := by rw [hcreatedEq]; rfl
  intro dispatched hdispatched hleft head hhead hsame
  rcases List.mem_append.mp hdispatched with hdispatched | hdispatched
  · rcases List.mem_append.mp hhead with hhead | hhead
    · exact hheads dispatched hdispatched hleft head hhead hsame
    · rw [List.mem_singleton.mp hhead, hoperation] at hsame
      exact absurd (hundispatched dispatched hdispatched hsame.symm) hleft
  · rw [List.mem_singleton.mp hdispatched] at hleft
    exact absurd hphase hleft

/-- Heads with the same columns have the same ordinals in the same operations. -/
theorem mem_of_columns_eq {heads others : List HeadRow}
    (h : others.map (·.columns) = heads.map (·.columns)) (hmem : head ∈ others) :
    ∃ old ∈ heads, old.columns = head.columns := by
  have : head.columns ∈ heads.map (·.columns) := h ▸ List.mem_map_of_mem hmem
  exact List.mem_map.mp this

/-- An observation leaves the dispatched heads as they were. -/
theorem dispatchedHeadsNewest_observe
    {advanced : HeadRow} (h : JournalSound py journal) (hphase : head.phase ≠ .accepted)
    (hadvance : HeadAdvanced py journal session head advanced event next)
    (hheads : DispatchedHeadsNewest journal.heads) : DispatchedHeadsNewest next.heads := by
  have hcolumns := replaceHead_columns h.headKeys hadvance.mem hadvance.columns
  obtain rfl := hadvance.stored
  intro dispatched hdispatched hleft other hother hoperation
  obtain ⟨oldOther, holdOther, hotherColumns⟩ := mem_of_columns_eq hcolumns hother
  rw [← hotherColumns] at hoperation ⊢
  rcases mem_replaceHead hdispatched with rfl | ⟨hold, -⟩
  · rw [hadvance.columns] at hoperation ⊢
    exact hheads head hadvance.mem hphase oldOther holdOther hoperation
  · exact hheads dispatched hold hleft oldOther holdOther hoperation

/-- A dispatch intent leaves the dispatched heads the newest of their operations exactly when it is
recorded for the newest one. -/
theorem dispatchedHeadsNewest_dispatch
    {advanced : HeadRow} (h : JournalSound py journal) (hphase : advanced.phase ≠ .accepted)
    (hadvance : HeadAdvanced py journal session head advanced event next)
    (hheads : DispatchedHeadsNewest journal.heads) :
    DispatchedHeadsNewest next.heads ↔
      ∀ other ∈ journal.heads, other.columns.operation = head.columns.operation →
        other.columns.dispatchAuthorizationOrdinal ≤
          head.columns.dispatchAuthorizationOrdinal := by
  have hcolumns := replaceHead_columns h.headKeys hadvance.mem hadvance.columns
  have hkey : advanced.key = head.key := by rw [HeadRow.key, hadvance.columns, HeadRow.key]
  obtain rfl := hadvance.stored
  constructor
  · intro hnext other hother hoperation
    obtain ⟨stored, hstored, hstoredColumns⟩ := mem_of_columns_eq hcolumns.symm hother
    have hle := hnext advanced (advanced_mem_replaceHead hadvance.mem hkey) hphase stored hstored
    rw [hstoredColumns, hadvance.columns] at hle
    exact hle hoperation
  · intro hnewest dispatched hdispatched hleft other hother hoperation
    obtain ⟨oldOther, holdOther, hotherColumns⟩ := mem_of_columns_eq hcolumns hother
    rw [← hotherColumns] at hoperation ⊢
    rcases mem_replaceHead hdispatched with rfl | ⟨hold, -⟩
    · rw [hadvance.columns] at hoperation ⊢
      exact hnewest oldOther holdOther hoperation
    · exact hheads dispatched hold hleft oldOther holdOther hoperation

/-! ## Every call -/

/-- A key names the operation and the ordinal of its head. -/
theorem HeadRow.of_key_eq {arguments : DispatchArguments} (h : head.key = arguments.key) :
    head.columns.operation = (arguments.runId, arguments.operationId) ∧
      head.columns.dispatchAuthorizationOrdinal = arguments.dispatchAuthorizationOrdinal := by
  obtain ⟨hrun, hrest⟩ := Prod.mk.inj h
  obtain ⟨hid, hordinal⟩ := Prod.mk.inj hrest
  exact ⟨Prod.ext hrun hid, hordinal⟩

/-- In a sound world, exclusion of dispatch intents is a fact about the heads. -/
theorem World.dispatchExclusive_iff {world : World} (h : world.Sound py) :
    world.DispatchExclusive ↔ ∀ journal ∈ world.journal, DispatchedHeadsNewest journal.heads :=
  forall₂_congr fun journal hjournal => SourcePort.dispatchExclusive_iff (h journal hjournal)

/-- A call that records no dispatch intent leaves the dispatched heads the newest. -/
theorem Outcome.dispatchedHeadsNewest {before after : Option Journal} {c : Call}
    (h : Outcome py before c after) (hc : ∀ session arguments, c ≠ .recordDispatchIntent session
      arguments) (hsound : ∀ journal ∈ before, JournalSound py journal)
    (hheads : ∀ journal ∈ before, DispatchedHeadsNewest journal.heads) :
    ∀ journal ∈ after, DispatchedHeadsNewest journal.heads := by
  cases h with
  | unchanged => exact hheads
  | created =>
    rintro _ ⟨⟩
    exact fun dispatched hdispatched => absurd hdispatched List.not_mem_nil
  | started hstart =>
    rintro _ ⟨⟩
    rw [(startGeneration_ok py hstart).2.2.2]
    exact hheads _ rfl
  | accepted hcreated =>
    rintro _ ⟨⟩
    exact dispatchedHeadsNewest_accept (hsound _ rfl) hcreated (hheads _ rfl)
  | dispatched => exact absurd rfl (hc _ _)
  | observed _ hphase _ _ hadvance =>
    rintro _ ⟨⟩
    exact dispatchedHeadsNewest_observe (hsound _ rfl) (by rw [hphase]; decide) hadvance
      (hheads _ rfl)

/-- A dispatch intent that returns leaves the dispatched heads the newest exactly when it was asked
for the newest authorization of its operation. -/
theorem dispatchedHeadsNewest_recordDispatchIntent
    {arguments : DispatchArguments} (h : JournalSound py journal)
    (hheads : DispatchedHeadsNewest journal.heads)
    (hrecord : recordDispatchIntent py journal session arguments = .ok (result, next)) :
    DispatchedHeadsNewest next.heads ↔ ∀ head ∈ journal.heads,
      head.columns.operation = (arguments.runId, arguments.operationId) →
        head.columns.dispatchAuthorizationOrdinal ≤ arguments.dispatchAuthorizationOrdinal := by
  obtain ⟨-, head, hmem, hkey, houtcome⟩ := recordDispatchIntent_ok py h.headKeys hrecord
  obtain ⟨hoperation, hordinal⟩ := HeadRow.of_key_eq hkey
  rw [← hoperation, ← hordinal]
  rcases houtcome with ⟨rfl, hphase, -⟩ | ⟨-, -, -, hadvance⟩
  · exact iff_of_true hheads (hheads head hmem (by rw [hphase]; decide))
  · exact dispatchedHeadsNewest_dispatch h (by simp [dispatchedHead]) hadvance hheads

/-- From an exclusive world, a call leaves an exclusive one exactly when it dispatches the newest
authorization, if it is a dispatch intent that returns. -/
theorem exec_dispatchExclusive_iff {world : World} (h : world.Sound py)
    (hworld : world.DispatchExclusive) (c : Call) :
    (exec py world c).DispatchExclusive ↔ (Returns py world c → DispatchesNewest world c) := by
  rw [World.dispatchExclusive_iff (exec_sound h c)]
  have hheads := (World.dispatchExclusive_iff h).mp hworld
  have hother := (exec_outcome h c).dispatchedHeadsNewest
  cases c with
  | recordDispatchIntent session arguments =>
    unfold exec Returns
    cases hcall : call py world (.recordDispatchIntent session arguments) with
    | error failure => simpa using hheads
    | ok returned =>
      obtain ⟨receipt, next⟩ := returned
      simp only [Except.ok.injEq, exists_eq', forall_const]
      obtain ⟨journal, hlive, hcall⟩ := bind_eq_ok.mp hcall
      obtain ⟨⟨result, stored⟩, hrecord, hcall⟩ := bind_eq_ok.mp hcall
      obtain ⟨-, rfl⟩ := Prod.mk.inj (pure_eq_ok.mp hcall)
      have hjournal := (World.live_ok hlive).1
      simp only [DispatchesNewest, hjournal, Option.mem_def, Option.some.injEq, forall_eq']
      exact dispatchedHeadsNewest_recordDispatchIntent (h journal hjournal)
        (hheads journal hjournal) hrecord
  | create => exact iff_of_true (hother (by simp) h hheads) (fun _ => trivial)
  | start => exact iff_of_true (hother (by simp) h hheads) (fun _ => trivial)
  | close => exact iff_of_true (hother (by simp) h hheads) (fun _ => trivial)
  | recordAccepted => exact iff_of_true (hother (by simp) h hheads) (fun _ => trivial)
  | recordObservation => exact iff_of_true (hother (by simp) h hheads) (fun _ => trivial)

/-- **Exclusion of dispatch intents.**  For every history of public calls, each journal of the
history keeps one dispatched authorization for each operation, the newest, exactly when every
dispatch intent that returns is recorded for the newest authorization of its operation. -/
theorem history_dispatchExclusive_iff (py : PythonRuntime) (calls : List Call) :
    (∀ before, before <+: calls → (run (exec py) .initial before).DispatchExclusive) ↔
      Along (exec py) (fun world c => Returns py world c → DispatchesNewest world c) .initial
        calls :=
  forall_prefix_iff_along (I := fun world : World => world.Sound py)
    (fun _ c h => exec_sound h c) (fun _ c h hworld => exec_dispatchExclusive_iff h hworld c)
    World.initial_sound (by rintro _ ⟨⟩) calls

/-! ## A superseded authorization that is dispatched -/

/-- A dispatch intent of one authorization of the sample operation. -/
def sampleDispatch (ordinal revision : Int) : Call :=
  .recordDispatchIntent sampleSession
    { runId := "run"
      operationId := "operation"
      dispatchAuthorizationOrdinal := ordinal
      expectedHeadJournalRevision := revision
      durableDispatchIntentRef := "dispatch" }

/-- A safe retry of the sample command that advances. -/
def advancedRetry : AcceptedCommand :=
  { sampleRetry with attemptNo := 2, authorizedDispatchIntentRevision := 2 }

/-- One session accepts an operation and its retry and dispatches both. -/
def supersededDispatch : List Call :=
  [.create, .start sampleToken, .recordAccepted sampleSession sampleCommand {},
    .recordAccepted sampleSession
      { sampleRetry with attemptNo := 2, authorizedDispatchIntentRevision := 2 } {},
    sampleDispatch 1 1, sampleDispatch 2 2]

/-- The head of the retry. -/
def advancedHead : HeadRow where
  columns := { advancedRetry with
    acceptedGeneration := 1
    acceptedJournalRevision := 2
    acceptedAckBytes := none }
  phase := .accepted
  headGeneration := 1
  headJournalRevision := 2
  progress := {}

/-- The world in which the retry was accepted. -/
def retriedWorld : World :=
  ⟨some ⟨⟨2, 1⟩, sampleHistory.generations, [sampleHead.acceptedEvent, advancedHead.acceptedEvent],
    [sampleHead, advancedHead]⟩, [sampleSession]⟩

/-- The retry is accepted. -/
theorem advancedRetry_accepted :
    exec asciiRuntime acceptedWorld (.recordAccepted sampleSession advancedRetry {}) =
      retriedWorld := by
  decide +kernel

/-- Both authorizations of the sample operation are dispatched. -/
theorem superseded_dispatch_not_exclusive :
    ¬ (run (exec asciiRuntime) .initial supersededDispatch).DispatchExclusive := by
  have hcalls : supersededDispatch = [.create, .start sampleToken, sampleAccept sampleSession] ++
      [.recordAccepted sampleSession advancedRetry {}] ++
        [sampleDispatch 1 1, sampleDispatch 2 2] := rfl
  have hboth : (run (exec asciiRuntime) .initial supersededDispatch).journal.map
      (·.dispatchIntents) = some [(("run", "operation"), 1), (("run", "operation"), 2)] := by
    rw [hcalls, run_append, run_concat, sampleAccept_reached, advancedRetry_accepted]
    decide +kernel
  intro hexclusive
  obtain ⟨journal, hjournal, hintents⟩ := Option.map_eq_some_iff.mp hboth
  have hsame := (hexclusive journal hjournal).oneOrdinal ("run", "operation") 1 2
    (by simp [hintents]) (by simp [hintents])
  exact absurd hsame (by decide)

end SeekTalent.SourcePort
