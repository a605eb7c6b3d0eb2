import SeekTalent.SourcePort.CommandJournalEngine

/-!
# What the reader accepts

The reader checks a global relation over events, heads and generations.  This file states that
relation once, as an invariant of the tables: each head determines its own events
(`HeadRow.history`), the events of the journal are numbered by their revision, and the
authorizations of one logical operation are numbered by their ordinal and chained by
`SucceedsInEpoch`.  `JournalSound` is the part that the writer keeps by itself and
`JournalAdvances` the part it does not check; together they are exactly what `openValidated`
accepts (`openValidated_iff`).
-/

namespace SeekTalent.SourcePort

open Foundation

variable (py : PythonRuntime)
variable {head : HeadRow} {journal : Journal}

/-! ## The events a head stands for -/

/-- The accepted event of a head. -/
def HeadRow.acceptedEvent (head : HeadRow) : EventRow :=
  ⟨head.columns.acceptedJournalRevision, head.columns.acceptedGeneration, .accepted, head.columns,
    {}⟩

/-- The dispatch event of a head that was dispatched. -/
def HeadRow.dispatchEvent (head : HeadRow) : EventRow :=
  ⟨head.progress.dispatchIntentJournalRevision.getD 0,
    head.progress.dispatchIntentGeneration.getD 0, .dispatchIntent, head.columns,
    { durableDispatchIntentRef := head.progress.durableDispatchIntentRef
      dispatchIntentGeneration := head.progress.dispatchIntentGeneration
      dispatchIntentJournalRevision := head.progress.dispatchIntentJournalRevision }⟩

/-- The observation event of a head that was observed. -/
def HeadRow.observationEvent (head : HeadRow) : EventRow :=
  ⟨head.progress.observationJournalRevision.getD 0,
    head.progress.observationGeneration.getD 0, head.phase, head.columns, head.progress⟩

/-- The events of a head, oldest first. -/
def HeadRow.history (head : HeadRow) : List EventRow :=
  match head.phase with
  | .accepted => [head.acceptedEvent]
  | .dispatchIntent => [head.acceptedEvent, head.dispatchEvent]
  | .observedResult | .observedFailure =>
    [head.acceptedEvent, head.dispatchEvent, head.observationEvent]

/-- The columns that a phase leaves null are null, and a terminal reply is bound to its digest. -/
def progressFitsPhase (head : HeadRow) : Prop :=
  match head.phase with
  | .accepted => noProgress head.progress = true
  | .dispatchIntent => noObservation head.progress = true
  | .observedResult | .observedFailure => terminalReplyBytesMatchObservation py head.progress = true

/-- A head that states a valid fact and whose columns agree with its phase. -/
structure HeadSound (head : HeadRow) : Prop where
  fact : ∃ fact, factFromRow py head = .ok fact
  check : headCheck head = true
  progress : progressFitsPhase py head

/-- The values of the fact that a head states. -/
abbrev HeadRow.factValues (head : HeadRow) (conclusion : Conclusion) : FactValues :=
  ⟨head.columns.toAcceptedCommand, head.columns.acceptedGeneration,
    head.columns.acceptedJournalRevision, head.headGeneration, head.headJournalRevision, conclusion⟩

/-- A head states a fact exactly when its columns give a conclusion whose values validate. -/
theorem factFromRow_ok_iff :
    (∃ fact, factFromRow py head = .ok fact) ↔
      ∃ conclusion, conclusionFromRow head = some conclusion ∧
        (head.factValues conclusion).validate py = .ok () := by
  unfold factFromRow
  cases hconclusion : conclusionFromRow head with
  | none => simp
  | some conclusion =>
    constructor
    · rintro ⟨fact, hfact⟩
      exact ⟨conclusion, rfl, ((modelValidate_eq_ok py).mp hfact).1⟩
    · rintro ⟨_, hsame, hvalid⟩
      cases hsame
      obtain ⟨built, hbuilt, -⟩ := exists_modelValidate py hvalid
      exact ⟨built, hbuilt⟩

/-- The fact of a head is about the head's own command. -/
theorem factFromRow_command {fact : MatchedHistoryFact py} (h : factFromRow py head = .ok fact) :
    fact.values.command = head.columns.toAcceptedCommand := by
  unfold factFromRow at h
  split at h
  · cases h
  · rw [((modelValidate_eq_ok py).mp h).2]

/-- What a validated fact says about the positions of its phases. -/
theorem validateConclusion_ok {conclusion : Conclusion}
    (h : (head.factValues conclusion).validate py = .ok ()) :
    validateConclusion (head.factValues conclusion) = .ok () := by
  simp only [FactValues.validate, check_bind_eq_ok] at h
  exact h.2.2

/-- A terminal reply is stored within its bounds. -/
theorem headCheck_replies (h : headCheck head = true) :
    isValidDurableReplyBytes head.columns.acceptedAckBytes = true ∧
      isValidDurableReplyBytes head.progress.terminalReplyBytes = true := by
  simp only [headCheck, columnsCheck, Bool.and_eq_true] at h
  exact ⟨h.1.2, h.2⟩

/-- A dispatch is read from the three columns that hold it. -/
theorem dispatchFromRow_eq_some {dispatch : DispatchValues} :
    dispatchFromRow head = some dispatch ↔
      head.progress.durableDispatchIntentRef = some dispatch.durableDispatchIntentRef ∧
        head.progress.dispatchIntentGeneration = some dispatch.dispatchIntentGeneration ∧
        head.progress.dispatchIntentJournalRevision =
          some dispatch.dispatchIntentJournalRevision := by
  cases dispatch
  cases h1 : head.progress.durableDispatchIntentRef <;>
    cases h2 : head.progress.dispatchIntentGeneration <;>
    cases h3 : head.progress.dispatchIntentJournalRevision <;>
    simp [dispatchFromRow, h1, h2, h3]

/-- An observation is read from the four columns that hold it. -/
theorem observationFromRow_eq_some {observation : ObservationValues} :
    observationFromRow head = some observation ↔
      head.progress.observationGeneration = some observation.observationGeneration ∧
        head.progress.observationJournalRevision = some observation.observationJournalRevision ∧
        head.progress.observationRef = some observation.ref ∧
        head.progress.observationHash = some observation.hash := by
  cases observation
  cases h1 : head.progress.observationGeneration <;>
    cases h2 : head.progress.observationJournalRevision <;>
    cases h3 : head.progress.observationRef <;>
    cases h4 : head.progress.observationHash <;>
    simp [observationFromRow, h1, h2, h3, h4]

/-- An accepted head passes the reader's checks on its own history. -/
theorem verifyHead_of_accepted (hphase : head.phase = .accepted)
    (h : HeadSound py head) : verifyHead py head.history head = .ok () := by
  obtain ⟨conclusion, hconclusion, hvalid⟩ := (factFromRow_ok_iff py).mp h.fact
  have hfits : noProgress head.progress = true := by
    simpa [progressFitsPhase, hphase] using h.progress
  obtain ⟨hack, hterminal⟩ := headCheck_replies h.check
  have hpositions := validateConclusion_ok py hvalid
  simp only [conclusionFromRow, hphase, Option.some.injEq] at hconclusion
  subst hconclusion
  simp only [validateConclusion, require_eq_ok] at hpositions
  simp [verifyHead, HeadRow.history, hphase, HeadRow.acceptedEvent, expectedPhases, hack, hterminal,
    hfits, hpositions.1, hpositions.2, acceptedEventMatches]

/-- A dispatched head passes the reader's checks on its own history. -/
theorem verifyHead_of_dispatchIntent (hphase : head.phase = .dispatchIntent)
    (h : HeadSound py head) : verifyHead py head.history head = .ok () := by
  obtain ⟨conclusion, hconclusion, hvalid⟩ := (factFromRow_ok_iff py).mp h.fact
  have hfits : noObservation head.progress = true := by
    simpa [progressFitsPhase, hphase] using h.progress
  obtain ⟨hack, hterminal⟩ := headCheck_replies h.check
  have hpositions := validateConclusion_ok py hvalid
  simp only [conclusionFromRow, hphase, Option.map_eq_some_iff] at hconclusion
  obtain ⟨dispatch, hdispatch, rfl⟩ := hconclusion
  obtain ⟨href, hgeneration, hrevision⟩ := dispatchFromRow_eq_some.mp hdispatch
  simp only [validateConclusion, validateDispatchHead, check_bind_eq_ok,
    require_eq_ok] at hpositions
  obtain ⟨⟨hle, -, -, -⟩, hgen, hrev⟩ := hpositions
  simp [verifyHead, HeadRow.history, hphase, HeadRow.acceptedEvent, HeadRow.dispatchEvent,
    expectedPhases, hack, hterminal, hfits, href, hgeneration, hrevision, hgen, hrev, hle,
    acceptedEventMatches, dispatchEventMatches, sameDispatch]

/-- The conclusion of an observed head, its dispatch and its observation. -/
theorem conclusionFromRow_observed {conclusion : Conclusion}
    (hphase : head.phase = .observedResult ∨ head.phase = .observedFailure)
    (h : conclusionFromRow head = some conclusion) :
    ∃ dispatch observation, dispatchFromRow head = some dispatch ∧
      observationFromRow head = some observation ∧
      (conclusion = .observedResult dispatch observation ∨
        conclusion = .observedFailure dispatch observation) := by
  rcases hphase with hphase | hphase <;>
    simp only [conclusionFromRow, hphase, Option.bind_eq_bind, Option.bind_eq_some_iff,
      Option.pure_def, Option.some.injEq] at h
  · obtain ⟨dispatch, hdispatch, observation, hobservation, rfl⟩ := h
    exact ⟨dispatch, observation, hdispatch, hobservation, Or.inl rfl⟩
  · obtain ⟨dispatch, hdispatch, observation, hobservation, rfl⟩ := h
    exact ⟨dispatch, observation, hdispatch, hobservation, Or.inr rfl⟩

/-- An observed head passes the reader's checks on its own history. -/
theorem verifyHead_of_observed
    (hphase : head.phase = .observedResult ∨ head.phase = .observedFailure)
    (h : HeadSound py head) : verifyHead py head.history head = .ok () := by
  obtain ⟨conclusion, hconclusion, hvalid⟩ := (factFromRow_ok_iff py).mp h.fact
  have hfits : terminalReplyBytesMatchObservation py head.progress = true := by
    rcases hphase with hphase | hphase <;> simpa [progressFitsPhase, hphase] using h.progress
  obtain ⟨hack, hterminal⟩ := headCheck_replies h.check
  have hpositions := validateConclusion_ok py hvalid
  obtain ⟨dispatch, observation, hdispatch, hobservation, hkind⟩ :=
    conclusionFromRow_observed hphase hconclusion
  obtain ⟨href, hgeneration, hrevision⟩ := dispatchFromRow_eq_some.mp hdispatch
  obtain ⟨hogeneration, horevision, horef, hohash⟩ := observationFromRow_eq_some.mp hobservation
  have hpositions : validateDispatchHead (head.factValues conclusion) dispatch = .ok () ∧
      validateObservationHead (head.factValues conclusion) dispatch observation = .ok () := by
    rcases hkind with rfl | rfl <;>
      simpa only [validateConclusion, check_bind_eq_ok] using hpositions
  simp only [validateDispatchHead, validateObservationHead, require_eq_ok] at hpositions
  obtain ⟨⟨hle, -, -, -⟩, hle', hgen, -, hrev⟩ := hpositions
  have hchain : head.columns.acceptedGeneration ≤ observation.observationGeneration :=
    le_trans hle hle'
  rcases hphase with hphase | hphase <;>
    simp [verifyHead, HeadRow.history, hphase, HeadRow.acceptedEvent, HeadRow.dispatchEvent,
      HeadRow.observationEvent, expectedPhases, hack, hterminal, hfits, href, hgeneration,
      hrevision, hogeneration, horevision, horef, hohash, ← hgen, ← hrev, hle, hle', hchain,
      acceptedEventMatches, dispatchEventMatches, observationEventMatches, sameDispatch]

/-- A sound head passes the reader's checks on its own history. -/
theorem verifyHead_history (h : HeadSound py head) :
    verifyHead py head.history head = .ok () := by
  cases hphase : head.phase with
  | accepted => exact verifyHead_of_accepted py hphase h
  | dispatchIntent => exact verifyHead_of_dispatchIntent py hphase h
  | observedResult => exact verifyHead_of_observed py (Or.inl hphase) h
  | observedFailure => exact verifyHead_of_observed py (Or.inr hphase) h

/-! ## Authorizations of one operation -/

/-- The commands of the heads of a journal, one for each authorization. -/
def Journal.commands (journal : Journal) : List AcceptedCommand :=
  journal.heads.map (·.columns.toAcceptedCommand)

/-- The authorizations of one logical operation, in the order of their acceptance. -/
def Journal.authorizations (journal : Journal) (operation : OperationKey) : List AcceptedCommand :=
  journal.commands.filter (fun command => command.operation == operation)

/-- What the writer checks of a retry and its predecessor. -/
structure SucceedsInEpoch (previous next : AcceptedCommand) : Prop where
  identity : next.stableIdentity = previous.stableIdentity
  ledger : previous.expectedSourceOperationLedgerRevision <
    next.expectedSourceOperationLedgerRevision
  reconciliation : previous.expectedReconciliationRevision < next.expectedReconciliationRevision

/-- What the reader requires of a retry and its predecessor beyond what the writer checks. -/
structure AdvancesAttempt (previous next : AcceptedCommand) : Prop where
  attempt : previous.attemptNo < next.attemptNo
  intent : previous.authorizedDispatchIntentRevision < next.authorizedDispatchIntentRevision

/-- The authorizations of an operation are numbered by their ordinal and each succeeds the one
before it. -/
structure EpochsSound (history : List AcceptedCommand) : Prop where
  ordinals : history.map (·.dispatchAuthorizationOrdinal) = countFromOne history.length
  chain : history.IsChain SucceedsInEpoch
  retryRefs : (history.filterMap (·.safeRetryCommitRef)).Nodup

/-- All authorizations of a sound history share one identity. -/
theorem EpochsSound.identity {history : List AcceptedCommand} (h : EpochsSound history) :
    ∀ command ∈ history,
      some command.stableIdentity = history.head?.map (·.stableIdentity) := by
  have hchain : history.IsChain (fun a b => b.stableIdentity = a.stableIdentity) :=
    h.chain.imp (fun _ _ hab => hab.identity)
  have htrans : IsTrans AcceptedCommand (fun a b => b.stableIdentity = a.stableIdentity) :=
    ⟨fun _ _ _ hab hbc => hbc.trans hab⟩
  have hpairwise : history.Pairwise (fun a b => b.stableIdentity = a.stableIdentity) :=
    List.isChain_iff_pairwise.mp hchain
  intro command hcommand
  cases hhistory : history with
  | nil => simp [hhistory] at hcommand
  | cons first rest =>
    rw [hhistory] at hcommand hpairwise
    rcases List.mem_cons.mp hcommand with rfl | hrest
    · rfl
    · simp [List.rel_of_pairwise_cons hpairwise hrest]

/-- A field that grows along a chain is strictly increasing. -/
theorem strictlyIncreasing_map_iff {history : List AcceptedCommand}
    {field : AcceptedCommand → Int} :
    strictlyIncreasing (history.map field) = true ↔
      history.IsChain (fun a b => field a < field b) := by
  unfold strictlyIncreasing
  rw [zip_tail_all_lt_iff, List.isChain_map]

/-- The reader accepts a sound history exactly when attempts and intents advance along it. -/
theorem validateAuthorizationHistory_iff {history commands : List AcceptedCommand}
    (h : EpochsSound history) (hperm : commands.Perm history) :
    validateAuthorizationHistory commands = .ok () ↔ history.IsChain AdvancesAttempt := by
  have hsort : orderBy (·.dispatchAuthorizationOrdinal) commands = history :=
    orderBy_of_numbered h.ordinals hperm
  have hledger : history.IsChain (fun a b => a.expectedSourceOperationLedgerRevision <
      b.expectedSourceOperationLedgerRevision) := h.chain.imp (fun _ _ hab => hab.ledger)
  have hreconciliation : history.IsChain (fun a b => a.expectedReconciliationRevision <
      b.expectedReconciliationRevision) := h.chain.imp (fun _ _ hab => hab.reconciliation)
  have hboth : history.IsChain AdvancesAttempt ↔
      history.IsChain (fun a b => a.attemptNo < b.attemptNo) ∧
        history.IsChain (fun a b => a.authorizedDispatchIntentRevision <
          b.authorizedDispatchIntentRevision) := by
    constructor
    · intro hchain
      exact ⟨hchain.imp (fun _ _ hab => hab.attempt), hchain.imp (fun _ _ hab => hab.intent)⟩
    · rintro ⟨hattempt, hintent⟩
      rw [List.isChain_iff_getElem] at hattempt hintent ⊢
      intro index hindex
      exact ⟨hattempt index hindex, hintent index hindex⟩
  simp only [validateAuthorizationHistory, hsort, check_bind_eq_ok, require_eq_ok,
    checkAll_eq_ok, monotonicFields, List.forall_mem_cons, List.not_mem_nil, false_imp_iff,
    implies_true, strictlyIncreasing_map_iff, and_true, hboth]
  constructor
  · rintro ⟨-, -, -, hattempt, hintent, -, -⟩
    exact ⟨hattempt, hintent⟩
  · rintro ⟨hattempt, hintent⟩
    exact ⟨h.ordinals, h.identity, h.retryRefs, hattempt, hintent, hledger, hreconciliation⟩

/-! ## Aliases -/

/-- Two commands that share an operation, or an idempotency key within a run or an operation id,
agree on the rest of the alias. -/
structure AliasesAgree (left right : AcceptedCommand) : Prop where
  logical : left.operation = right.operation → left.stableIdentity = right.stableIdentity
  runKey : left.runId = right.runId → left.idempotencyKey = right.idempotencyKey →
    left.operationId = right.operationId
  operationKey : left.operationId = right.operationId →
    left.idempotencyKey = right.idempotencyKey → left.runId = right.runId

/-- A `setdefault` returns the given value when every earlier entry of the key has it. -/
theorem setdefault_eq {κ ν : Type} [DecidableEq κ] {earlier : List (κ × ν)} {key : κ} {value : ν}
    (h : ∀ entry ∈ earlier, entry.1 = key → entry.2 = value) :
    setdefault earlier key value = value := by
  unfold setdefault
  cases hlookup : earlier.lookup key with
  | none => rfl
  | some found =>
    obtain ⟨before, after, hsplit, -⟩ := List.lookup_eq_some_iff.mp hlookup
    exact h (key, found) (by simp [hsplit]) rfl

/-- The maps of the alias check after a scan of some heads. -/
def aliasMaps (heads : List HeadRow) : AliasMaps where
  logicalByOperation := heads.map (fun head => (head.columns.operation,
    head.columns.stableIdentity))
  operationByRunKey := heads.map (fun head =>
    ((head.columns.runId, head.columns.idempotencyKey), head.columns.operationId))
  runByOperationKey := heads.map (fun head =>
    ((head.columns.operationId, head.columns.idempotencyKey), head.columns.runId))

/-- One iteration of the alias check succeeds on a head that agrees with the earlier ones. -/
theorem verifyHeadAlias_of_agree {earlier : List HeadRow}
    (h : ∀ other ∈ earlier,
      AliasesAgree other.columns.toAcceptedCommand head.columns.toAcceptedCommand) :
    verifyHeadAlias (aliasMaps earlier) head = .ok (aliasMaps (earlier ++ [head])) := by
  have hlogical : setdefault (aliasMaps earlier).logicalByOperation head.columns.operation
      head.columns.stableIdentity = head.columns.stableIdentity := by
    apply setdefault_eq
    simp only [aliasMaps, List.mem_map, forall_exists_index, and_imp,
      forall_apply_eq_imp_iff₂]
    exact fun other hother => (h other hother).logical
  have hrun : setdefault (aliasMaps earlier).operationByRunKey
      (head.columns.runId, head.columns.idempotencyKey) head.columns.operationId =
        head.columns.operationId := by
    apply setdefault_eq
    simp only [aliasMaps, List.mem_map, forall_exists_index, and_imp,
      forall_apply_eq_imp_iff₂, Prod.mk.injEq]
    exact fun other hother hrun hkey => (h other hother).runKey hrun hkey
  have hoperation : setdefault (aliasMaps earlier).runByOperationKey
      (head.columns.operationId, head.columns.idempotencyKey) head.columns.runId =
        head.columns.runId := by
    apply setdefault_eq
    simp only [aliasMaps, List.mem_map, forall_exists_index, and_imp,
      forall_apply_eq_imp_iff₂, Prod.mk.injEq]
    exact fun other hother hid hkey => (h other hother).operationKey hid hkey
  simp only [verifyHeadAlias, check_bind_eq_ok, require_eq_ok, pure_eq_ok]
  exact ⟨hlogical, hrun, hoperation, by simp [aliasMaps]⟩

/-- The alias check succeeds on heads that agree pairwise. -/
theorem verifyHeadAliases_of_agree {heads : List HeadRow}
    (h : ∀ left ∈ heads, ∀ right ∈ heads,
      AliasesAgree left.columns.toAcceptedCommand right.columns.toAcceptedCommand) :
    verifyHeadAliases heads = .ok () := by
  have hfold : ∀ earlier rest : List HeadRow, earlier ++ rest = heads →
      rest.foldlM verifyHeadAlias (aliasMaps earlier) = .ok (aliasMaps heads) := by
    intro earlier rest
    induction rest generalizing earlier with
    | nil =>
      intro hsplit
      rw [List.append_nil] at hsplit
      subst hsplit
      rfl
    | cons head rest ih =>
      intro hsplit
      have hhead : head ∈ heads := hsplit ▸ by simp
      have hearlier : ∀ other ∈ earlier, other ∈ heads := fun other hother =>
        hsplit ▸ List.mem_append_left _ hother
      have hstep : verifyHeadAlias (aliasMaps earlier) head =
          .ok (aliasMaps (earlier ++ [head])) :=
        verifyHeadAlias_of_agree
          (fun other hother => h other (hearlier other hother) head hhead)
      rw [List.foldlM_cons, hstep]
      exact ih (earlier ++ [head]) (by simp [← hsplit])
  have hall := hfold [] heads rfl
  change heads.foldlM verifyHeadAlias ⟨[], [], []⟩ = .ok (aliasMaps heads) at hall
  simp [verifyHeadAliases, hall, bind, Except.bind, pure, Except.pure]

/-! ## The invariant of the tables -/

/-- What every journal that the writer produces satisfies. -/
structure JournalSound (journal : Journal) : Prop where
  generations : journal.generations.map (·.generation) = countFromOne journal.generations.length
  lastGeneration : journal.state.lastSidecarGeneration = journal.generations.length
  generationRows : ∀ row ∈ journal.generations, generationRowCheck row = true
  revisions : journal.events.map (·.journalRevision) = countFromOne journal.events.length
  lastRevision : journal.state.lastJournalRevision = journal.events.length
  eventChecks : ∀ event ∈ journal.events, eventCheck event = true
  eventKeys : ∀ event ∈ journal.events, ∃ head ∈ journal.heads, head.key = event.key
  headKeys : (journal.heads.map (·.key)).Nodup
  heads : ∀ head ∈ journal.heads, HeadSound py head
  histories : ∀ head ∈ journal.heads,
    journal.events.filter (fun event => event.key == head.key) = head.history
  foreignKeys : foreignKeysHold journal = true
  aliases : ∀ left ∈ journal.commands, ∀ right ∈ journal.commands, AliasesAgree left right
  epochs : ∀ operation, EpochsSound (journal.authorizations operation)

/-- Along every operation, attempts and dispatch intents advance with the ordinal. -/
def JournalAdvances (journal : Journal) : Prop :=
  ∀ operation, (journal.authorizations operation).IsChain AdvancesAttempt

/-- A head has at least its accepted event. -/
theorem HeadRow.history_ne_nil (head : HeadRow) : ∃ event ∈ head.history, event.key = head.key := by
  refine ⟨head.acceptedEvent, ?_, rfl⟩
  unfold HeadRow.history
  split <;> simp

namespace JournalSound

variable {py} {journal : Journal}

/-- Selecting the events gives them in the order they were written. -/
theorem selectEvents (h : JournalSound py journal) : journal.selectEvents = journal.events :=
  orderBy_of_numbered h.revisions (List.Perm.refl _)

/-- Selecting the generations gives them in the order they were allocated. -/
theorem selectGenerations (h : JournalSound py journal) :
    journal.selectGenerations = journal.generations :=
  orderBy_of_numbered h.generations (List.Perm.refl _)

end JournalSound

/-- Selecting the heads permutes them. -/
theorem Journal.selectHeads_perm (journal : Journal) : journal.selectHeads.Perm journal.heads :=
  List.perm_insertionSort _ _

/-- The commands of selected heads are the commands of the journal. -/
theorem Journal.mem_selectHeads (journal : Journal) :
    head ∈ journal.selectHeads ↔ head ∈ journal.heads :=
  journal.selectHeads_perm.mem_iff

/-- A sound journal passes the consistency check. -/
theorem verifyJournalConsistency_of_sound (h : JournalSound py journal) :
    verifyJournalConsistency py journal = .ok () := by
  have hgenerations : journal.state.lastSidecarGeneration =
      (journal.generations.getLast?.map (·.generation)).getD 0 := by
    rw [getLast_of_numbered h.generations, h.lastGeneration]
  have hrevisions : journal.state.lastJournalRevision =
      (journal.events.getLast?.map (·.journalRevision)).getD 0 := by
    rw [getLast_of_numbered h.revisions, h.lastRevision]
  have hkeys : (∀ event ∈ journal.events, event.key ∈ journal.selectHeads.map HeadRow.key) ∧
      ∀ head ∈ journal.selectHeads, head.key ∈ journal.events.map EventRow.key := by
    constructor
    · intro event hevent
      obtain ⟨head, hhead, hkey⟩ := h.eventKeys event hevent
      exact List.mem_map.mpr ⟨head, journal.mem_selectHeads.mpr hhead, hkey⟩
    · intro head hhead
      rw [journal.mem_selectHeads] at hhead
      obtain ⟨event, hevent, hkey⟩ := head.history_ne_nil
      rw [← h.histories head hhead] at hevent
      exact List.mem_map.mpr ⟨event, List.mem_of_mem_filter hevent, hkey⟩
  have haliases : verifyHeadAliases journal.selectHeads = .ok () := by
    apply verifyHeadAliases_of_agree
    intro left hleft right hright
    rw [journal.mem_selectHeads] at hleft hright
    exact h.aliases _ (List.mem_map_of_mem hleft) _ (List.mem_map_of_mem hright)
  have hheads : ∀ head ∈ journal.selectHeads,
      verifyHead py (journal.events.filter (fun event => event.key == head.key)) head = .ok () := by
    intro head hhead
    rw [journal.mem_selectHeads] at hhead
    rw [h.histories head hhead]
    exact verifyHead_history py (h.heads head hhead)
  simp only [verifyJournalConsistency, h.selectEvents, h.selectGenerations, check_bind_eq_ok,
    require_eq_ok, checkAll_eq_ok, List.all_eq_true]
  exact ⟨hgenerations, h.generationRows, hrevisions, h.revisions, hkeys, haliases, hheads⟩

/-- A sound journal passes the schema check. -/
theorem verifySchema_of_sound (h : JournalSound py journal) :
    verifySchema py journal = .ok () := by
  have hquick : quickCheck journal = true := by
    simp only [quickCheck, Bool.and_eq_true, List.all_eq_true]
    exact ⟨h.eventChecks, fun head hhead => (h.heads head hhead).check⟩
  simp only [verifySchema, check_bind_eq_ok, require_eq_ok]
  exact ⟨hquick, h.foreignKeys, verifyJournalConsistency_of_sound py h⟩

/-- The commands of the facts that were loaded from some heads. -/
theorem commands_of_loaded {heads : List HeadRow} {facts : List (MatchedHistoryFact py)}
    (h : heads.mapM (factFromRow py) = .ok facts) :
    facts.map (·.values.command) = heads.map (·.columns.toAcceptedCommand) := by
  have hforall := mapM_eq_ok.mp h
  induction hforall with
  | nil => rfl
  | cons hfact _ ih =>
    rw [List.map_cons, List.map_cons, ih (mapM_eq_ok.mpr ‹_›), factFromRow_command py hfact]

/-- The facts of a sound journal load exactly when its attempts and intents advance. -/
theorem validateAuthorizationHistories_iff (h : JournalSound py journal) :
    validateAuthorizationHistories (journal.selectHeads.map (·.columns.toAcceptedCommand)) =
      .ok () ↔ JournalAdvances journal := by
  have hgroup : ∀ operation, ((journal.selectHeads.map (·.columns.toAcceptedCommand)).filter
      (fun command => command.operation == operation)).Perm (journal.authorizations operation) :=
    fun operation => filter_map_perm journal.selectHeads_perm
  simp only [validateAuthorizationHistories, checkAll_eq_ok, List.mem_eraseDups]
  constructor
  · intro hchecks operation
    by_cases hoperation : operation ∈
        (journal.selectHeads.map (·.columns.toAcceptedCommand)).map (·.operation)
    · exact (validateAuthorizationHistory_iff (h.epochs operation) (hgroup operation)).mp
        (hchecks operation hoperation)
    · have hempty : journal.authorizations operation = [] := by
        rw [List.eq_nil_iff_forall_not_mem]
        intro command hcommand
        have hmem := (hgroup operation).mem_iff.mpr hcommand
        obtain ⟨hin, hop⟩ := List.mem_filter.mp hmem
        exact hoperation (List.mem_map.mpr ⟨command, hin, by simpa using hop⟩)
      rw [hempty]
      exact List.isChain_nil
  · intro hadvances operation _
    exact (validateAuthorizationHistory_iff (h.epochs operation) (hgroup operation)).mpr
      (hadvances operation)

/-- The reader accepts a journal of the writer exactly when attempts and dispatch intents advance
along the authorizations of each operation. -/
theorem openValidated_iff (h : JournalSound py journal) :
    openValidated py journal = .ok () ↔ JournalAdvances journal := by
  obtain ⟨facts, hfacts⟩ : ∃ facts, journal.selectHeads.mapM (factFromRow py) = .ok facts :=
    exists_mapM_eq_ok (fun head hhead =>
      (h.heads head (journal.mem_selectHeads.mp hhead)).fact)
  have hload : (∃ loaded, loadValidatedHistoryFacts py journal = .ok loaded) ↔
      validateAuthorizationHistories (facts.map (·.values.command)) = .ok () := by
    unfold loadValidatedHistoryFacts
    rw [hfacts]
    simp only [Except.mapError, bind, Except.bind]
    cases validateAuthorizationHistories (facts.map (·.values.command)) with
    | ok => simp [pure, Except.pure]
    | error failure => simp
  rw [← validateAuthorizationHistories_iff py h, ← commands_of_loaded py hfacts, ← hload]
  unfold openValidated
  rw [check_bind_eq_ok, bind_eq_ok]
  constructor
  · rintro ⟨-, loaded, hloaded, -⟩
    exact ⟨loaded, hloaded⟩
  · rintro ⟨loaded, hloaded⟩
    exact ⟨verifySchema_of_sound py h, loaded, hloaded, rfl⟩

end SeekTalent.SourcePort
