import SeekTalent.SourcePort.JournalSoundness

/-!
# When the writer's journal passes its own validation

The reader requires `attempt_no` and `authorized_dispatch_intent_revision` to increase with the
authorization ordinal; the writer's predecessor check of a retry compares the two revisions of the
source-operation ledger and leaves these two out.  A retry that does not advance them is committed,
and from then on the journal is rejected as corrupt by every opening.  The journal of a history
passes its validation in every state exactly when no retry of the history does that.
-/

namespace SeekTalent.SourcePort

open Foundation

variable {py : PythonRuntime}

/-- The journal of the world passes the validation of `open_command_journal`,
`CommandJournal.start` and `SourceHistorySQLiteReader.query`. -/
def World.Valid (py : PythonRuntime) (world : World) : Prop :=
  ∀ journal ∈ world.journal, openValidated py journal = .ok ()

/-- An acceptance advances the attempt and the dispatch intent of the authorization before it. -/
def RetryAdvances (world : World) : Call → Prop
  | .recordAccepted _ accepted _ => ∀ journal ∈ world.journal, ∀ head ∈ journal.heads,
    head.columns.operation = accepted.operation →
      head.columns.dispatchAuthorizationOrdinal + 1 = accepted.dispatchAuthorizationOrdinal →
        AdvancesAttempt head.columns.toAcceptedCommand accepted
  | _ => True

/-- The call does not raise. -/
def Returns (py : PythonRuntime) (world : World) (c : Call) : Prop :=
  ∃ returned, call py world c = .ok returned

/-- A valid world of the writer is one whose authorizations advance. -/
theorem World.valid_iff {world : World} (h : world.Sound py) :
    world.Valid py ↔ ∀ journal ∈ world.journal, JournalAdvances journal :=
  forall₂_congr fun journal hjournal => openValidated_iff py (h journal hjournal)

/-- The authorizations advance after an acceptance exactly when they did before and the new command
advances the last one of its operation. -/
theorem journalAdvances_accept {journal next : Journal} {session : Session}
    {accepted : AcceptedCommand} {result : TransitionResult} (h : JournalSound py journal)
    (hcreated : AcceptanceCreated py journal session accepted result next) :
    JournalAdvances next ↔ JournalAdvances journal ∧
      ∀ head ∈ journal.heads, head.columns.operation = accepted.operation →
        head.columns.dispatchAuthorizationOrdinal + 1 = accepted.dispatchAuthorizationOrdinal →
          AdvancesAttempt head.columns.toAcceptedCommand accepted := by
  have hfits := JournalSound.acceptanceFits h hcreated.ordinal hcreated.noCollision
  have hordinals := (h.epochs accepted.operation).ordinals
  obtain ⟨head, ⟨ack, hhead⟩, -, -, -, -, rfl⟩ := hcreated.stored
  have hauthorizations : ∀ operation,
      (journal.append head.acceptedEvent (journal.heads ++ [head])).authorizations operation =
        if accepted.operation = operation then journal.authorizations operation ++ [accepted]
        else journal.authorizations operation := by
    intro operation
    rw [← JournalSound.authorizations_concat]
    simp [Journal.authorizations, Journal.commands, Journal.append, hhead, acceptedHead]
  have hlast : (∀ previous ∈ (journal.authorizations accepted.operation).getLast?,
      AdvancesAttempt previous accepted) ↔
      ∀ head ∈ journal.heads, head.columns.operation = accepted.operation →
        head.columns.dispatchAuthorizationOrdinal + 1 = accepted.dispatchAuthorizationOrdinal →
          AdvancesAttempt head.columns.toAcceptedCommand accepted := by
    have hlastOrdinal : ∀ previous ∈ (journal.authorizations accepted.operation).getLast?,
        previous.dispatchAuthorizationOrdinal =
          (journal.authorizations accepted.operation).length := by
      intro previous hprevious
      have hgetLast := getLast_of_numbered hordinals
      rw [Option.mem_def.mp hprevious] at hgetLast
      simpa using hgetLast
    have hordinal := hfits.ordinal
    constructor
    · intro hadvances head hmem hoperation hnext
      have hauthorized := hoperation ▸ JournalSound.mem_authorizations hmem
      obtain ⟨previous, hprevious⟩ :=
        Option.isSome_iff_exists.mp (List.getLast?_isSome.mpr (List.ne_nil_of_mem hauthorized))
      have hsame : previous = head.columns.toAcceptedCommand :=
        eq_of_numbered hordinals (List.mem_of_getLast? hprevious) hauthorized
          (by have := hlastOrdinal previous hprevious; omega)
      exact hsame ▸ hadvances previous hprevious
    · intro hadvances previous hprevious
      obtain ⟨head, hmem, hcommand, hoperation⟩ :=
        JournalSound.exists_of_mem_authorizations (List.mem_of_getLast? hprevious)
      subst hcommand
      exact hadvances head hmem hoperation (by have := hlastOrdinal _ hprevious; omega)
  rw [← hlast]
  constructor
  · intro hnext
    constructor
    · intro operation
      have hchain := hnext operation
      rw [hauthorizations] at hchain
      split at hchain
      next => exact (isChain_concat.mp hchain).1
      next => exact hchain
    · have hchain := hnext accepted.operation
      rw [hauthorizations, if_pos rfl] at hchain
      exact (isChain_concat.mp hchain).2
  · rintro ⟨hold, hnew⟩ operation
    rw [hauthorizations]
    split
    next hsame =>
      subst hsame
      exact isChain_concat.mpr ⟨hold accepted.operation, hnew⟩
    next => exact hold operation

/-- An advanced head leaves the authorizations as they were. -/
theorem journalAdvances_advance {journal next : Journal} {session : Session}
    {head advanced : HeadRow} {event : EventRow} (h : JournalSound py journal)
    (hadvance : HeadAdvanced py journal session head advanced event next) :
    JournalAdvances next ↔ JournalAdvances journal := by
  have hcolumns := replaceHead_columns h.headKeys hadvance.mem hadvance.columns
  have hcommands : next.commands = journal.commands := by
    rw [hadvance.stored]
    have := congrArg (List.map ImmutableColumns.toAcceptedCommand) hcolumns
    simpa [Journal.commands, Journal.append, List.map_map, Function.comp_def] using this
  unfold JournalAdvances Journal.authorizations
  rw [hcommands]

/-- From a valid world, a call leaves a valid one exactly when it advances the authorization before
it, if it is an acceptance that returns. -/
theorem exec_valid_iff {world : World} (h : world.Sound py) (hworld : world.Valid py) (c : Call) :
    (exec py world c).Valid py ↔ (Returns py world c → RetryAdvances world c) := by
  rw [World.valid_iff (exec_sound h c)]
  have hvalid := (World.valid_iff h).mp hworld
  have houtcome := exec_outcome h c
  cases c with
  | recordAccepted session accepted options =>
    unfold exec Returns
    cases hcall : call py world (.recordAccepted session accepted options) with
    | error failure => simpa using hvalid
    | ok returned =>
      obtain ⟨receipt, next⟩ := returned
      simp only [Except.ok.injEq, exists_eq', forall_const]
      obtain ⟨journal, hlive, hcall⟩ := bind_eq_ok.mp hcall
      obtain ⟨⟨result, stored⟩, hrecord, hcall⟩ := bind_eq_ok.mp hcall
      obtain ⟨-, rfl⟩ := Prod.mk.inj (pure_eq_ok.mp hcall)
      have hjournal := (World.live_ok hlive).1
      have hsound := h journal hjournal
      have hadvances := hvalid journal hjournal
      simp only [RetryAdvances, hjournal, Option.mem_def, Option.some.injEq, forall_eq']
      rcases recordAccepted_ok py hrecord with ⟨rfl, -, existing, hmem, hkey, hsame, -⟩ | hcreated
      · refine iff_of_true hadvances ?_
        intro head hhead hoperation hnext
        have hidentity : existing.columns.operation = accepted.operation ∧
            existing.columns.dispatchAuthorizationOrdinal =
              accepted.dispatchAuthorizationOrdinal ∧
            existing.columns.attemptNo = accepted.attemptNo ∧
            existing.columns.authorizedDispatchIntentRevision =
              accepted.authorizedDispatchIntentRevision := by
          unfold sameAcceptedIdentity at hsame
          split at hsame <;> rw [beq_iff_eq] at hsame <;> rw [← hsame] <;>
            exact ⟨rfl, rfl, rfl, rfl⟩
        obtain ⟨hexisting, hordinal, hattempt, hintent⟩ := hidentity
        have hrel : AdvancesAttempt head.columns.toAcceptedCommand
            existing.columns.toAcceptedCommand :=
          rel_of_numbered (hsound.epochs accepted.operation).ordinals
            (hadvances accepted.operation)
            (hoperation ▸ JournalSound.mem_authorizations hhead)
            (hexisting ▸ JournalSound.mem_authorizations hmem) (by omega)
        exact ⟨hattempt ▸ hrel.attempt, hintent ▸ hrel.intent⟩
      · rw [journalAdvances_accept hsound hcreated]
        exact and_iff_right hadvances
  | create =>
    refine iff_of_true ?_ (fun _ => trivial)
    generalize hbefore : world.journal = before at houtcome hvalid
    generalize (exec py world .create).journal = after at houtcome
    cases houtcome with
    | unchanged => exact hvalid
    | created =>
      rintro _ ⟨⟩ operation
      exact List.isChain_nil
  | start instanceId =>
    refine iff_of_true ?_ (fun _ => trivial)
    generalize hbefore : world.journal = before at houtcome hvalid
    generalize (exec py world (.start instanceId)).journal = after at houtcome
    cases houtcome with
    | unchanged => exact hvalid
    | started hstart =>
      rintro _ ⟨⟩
      have hadvances := hvalid _ rfl
      obtain ⟨-, -, -, hheads⟩ := startGeneration_ok py hstart
      unfold JournalAdvances Journal.authorizations Journal.commands at hadvances ⊢
      rwa [hheads]
  | close session =>
    refine iff_of_true ?_ (fun _ => trivial)
    generalize hbefore : world.journal = before at houtcome hvalid
    generalize (exec py world (.close session)).journal = after at houtcome
    cases houtcome with
    | unchanged => exact hvalid
  | recordDispatchIntent session arguments =>
    refine iff_of_true ?_ (fun _ => trivial)
    generalize hbefore : world.journal = before at houtcome hvalid
    generalize (exec py world (.recordDispatchIntent session arguments)).journal = after
      at houtcome
    cases houtcome with
    | unchanged => exact hvalid
    | dispatched _ _ hadvance =>
      rintro _ ⟨⟩
      exact (journalAdvances_advance (h _ hbefore) hadvance).mpr (hvalid _ rfl)
  | recordObservation session arguments =>
    refine iff_of_true ?_ (fun _ => trivial)
    generalize hbefore : world.journal = before at houtcome hvalid
    generalize (exec py world (.recordObservation session arguments)).journal = after at houtcome
    cases houtcome with
    | unchanged => exact hvalid
    | observed _ _ _ _ hadvance =>
      rintro _ ⟨⟩
      exact (journalAdvances_advance (h _ hbefore) hadvance).mpr (hvalid _ rfl)

/-- **Validity of the writer's journal.**  For every history of public calls, the journal passes its
own validation after each of them exactly when every acceptance that returns advances the attempt
and the dispatch intent of the authorization before it. -/
theorem history_valid_iff_retries_advance (py : PythonRuntime) (calls : List Call) :
    (∀ before, before <+: calls → (run (exec py) .initial before).Valid py) ↔
      Along (exec py) (fun world c => Returns py world c → RetryAdvances world c) .initial
        calls :=
  forall_prefix_iff_along (I := fun world : World => world.Sound py)
    (fun _ c h => exec_sound h c) (fun _ c h hvalid => exec_valid_iff h hvalid c)
    World.initial_sound (by rintro _ ⟨⟩) calls

/-! ## A retry that does not advance -/

/-- A digest of the shape that the journal stores. -/
def sampleDigest : String := "0123456789abcdef0123456789abcdef0123456789abcdef0123456789abcdef"

/-- Case folding of ASCII texts; no reply is hashed in the histories it is used for. -/
def asciiRuntime : PythonRuntime := ⟨fun text => text.map Char.toLower, fun _ => sampleDigest⟩

/-- The token of the first session. -/
def sampleToken : HexToken := ⟨sampleDigest, by decide⟩

/-- The session that the first start of a journal hands out. -/
def sampleSession : Session := ⟨1, sampleDigest⟩

/-- A first authorization of a cards operation. -/
def sampleCommand : AcceptedCommand where
  runId := "run"
  operationId := "operation"
  source := "liepin"
  operationKind := "cards"
  idempotencyKey := "key"
  requestHash := sampleDigest
  attemptNo := 1
  acceptedRequirementRevisionId := "requirement"
  runtimeAttemptFenceRef := sampleDigest
  authorizedDispatchIntentId := "intent"
  authorizedDispatchIntentRevision := 1
  authorizedDispatchIntentDigest := sampleDigest
  profileBindingGeneration := 1

/-- A head of the sample command, accepted in the first generation. -/
def sampleHead : HeadRow where
  columns := { sampleCommand with
    acceptedGeneration := 1
    acceptedJournalRevision := 1
    acceptedAckBytes := none }
  phase := .accepted
  headGeneration := 1
  headJournalRevision := 1
  progress := {}

/-- A journal of one generation that holds the sample command. -/
def sampleHistory : Journal where
  state := ⟨1, 1⟩
  generations := [⟨1, sampleDigest, 1, 1⟩]
  events := [sampleHead.acceptedEvent]
  heads := [sampleHead]

deriving instance DecidableEq for Returned, World

/-- The acceptance of the sample command. -/
def sampleAccept (session : Session) : Call := .recordAccepted session sampleCommand {}

/-- The world of a started journal. -/
def startedWorld : World := ⟨some ⟨⟨0, 1⟩, sampleHistory.generations, [], []⟩, [sampleSession]⟩

/-- The world in which the sample command was accepted. -/
def acceptedWorld : World := ⟨some sampleHistory, [sampleSession]⟩

/-- The receipt of the acceptance of the sample command. -/
def sampleReceipt : TransitionResult := ⟨.created, 1, 1, 1, 1, .accepted, none, none⟩

/-- The sample command is accepted. -/
theorem sampleAccept_returns :
    call asciiRuntime (run (exec asciiRuntime) .initial [.create, .start sampleToken])
      (sampleAccept sampleSession) = .ok (.receipt sampleReceipt, acceptedWorld) := by
  have hstarted : run (exec asciiRuntime) .initial [.create, .start sampleToken] =
      startedWorld := by
    decide +kernel
  rw [hstarted]
  decide +kernel

/-- The history of the sample command leaves the accepted world. -/
theorem sampleAccept_reached :
    run (exec asciiRuntime) .initial [.create, .start sampleToken, sampleAccept sampleSession] =
      acceptedWorld := by
  rw [show [Call.create, .start sampleToken, sampleAccept sampleSession] =
    [.create, .start sampleToken] ++ [sampleAccept sampleSession] from rfl, run_concat]
  exact exec_of_call sampleAccept_returns

/-- The sample journal passes its validation. -/
theorem sampleHistory_valid : openValidated asciiRuntime sampleHistory = .ok () := by
  decide +kernel

/-- A safe retry of the sample command with the ledger revisions advanced. -/
def sampleRetry : AcceptedCommand :=
  { sampleCommand with
    dispatchAuthorizationOrdinal := 2
    safeRetryCommitRef := some "retry-2"
    expectedSourceOperationLedgerRevision := 2
    expectedReconciliationRevision := 1 }

/-- A safe retry that repeats the attempt and the dispatch intent revision of its predecessor. -/
def unadvancedRetry : List Call :=
  [.create, .start sampleToken, .recordAccepted sampleSession sampleCommand {},
    .recordAccepted sampleSession sampleRetry {}]

/-- The journal of a retry that does not advance is rejected by its own validation. -/
theorem unadvanced_retry_not_valid :
    ¬ (run (exec asciiRuntime) .initial unadvancedRetry).Valid asciiRuntime := by
  have hcalls : unadvancedRetry = [.create, .start sampleToken, sampleAccept sampleSession] ++
      [.recordAccepted sampleSession sampleRetry {}] := rfl
  have hsound : acceptedWorld.Sound asciiRuntime := by
    rw [← sampleAccept_reached]
    exact run_sound _
  have hvalid : acceptedWorld.Valid asciiRuntime := by
    rintro _ ⟨⟩
    exact sampleHistory_valid
  rw [hcalls, run_concat, sampleAccept_reached, exec_valid_iff hsound hvalid]
  intro hadvances
  have hreturns : (call asciiRuntime acceptedWorld
      (.recordAccepted sampleSession sampleRetry {})).isOk = true := by
    decide +kernel
  cases hcall : call asciiRuntime acceptedWorld (.recordAccepted sampleSession sampleRetry {}) with
  | error failure =>
    rw [hcall] at hreturns
    cases hreturns
  | ok returned =>
    have hattempt := hadvances ⟨returned, hcall⟩ sampleHistory rfl sampleHead
      (List.mem_singleton_self _) rfl rfl
    exact absurd hattempt.attempt (by decide)

end SeekTalent.SourcePort
