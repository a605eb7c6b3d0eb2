import SeekTalent.SourcePort.JournalWriter

/-!
# The writer keeps the journal sound

`JournalSound` holds of the empty journal and is kept by each outcome of the writer: a new
generation, a created head and an advanced head.  By induction over the calls it holds of every
journal that the public API can produce, whatever the arguments and however the sessions
interleave.
-/

namespace SeekTalent.SourcePort

open Foundation

variable {py : PythonRuntime}
variable {next journal : Journal} {world : World}
variable {session : Session}

/-! ## Replacing one head -/

section ReplaceHead

variable {heads : List HeadRow} {advanced : HeadRow}

/-- The rows after a replacement: the new row in the place of its key, and every other row. -/
theorem mem_replaceHead {row : HeadRow} (h : row ∈ replaceHead heads advanced) :
    row = advanced ∨ (row ∈ heads ∧ row.key ≠ advanced.key) := by
  obtain ⟨old, hold, hrow⟩ := List.mem_map.mp h
  split at hrow
  next => exact Or.inl hrow.symm
  next hkey =>
    subst hrow
    exact Or.inr ⟨hold, by simpa using hkey⟩

/-- The replaced row is there when a row had its key. -/
theorem advanced_mem_replaceHead {head : HeadRow} (hmem : head ∈ heads)
    (hkey : advanced.key = head.key) : advanced ∈ replaceHead heads advanced :=
  List.mem_map.mpr ⟨head, hmem, by simp [hkey]⟩

/-- A row of another key stays. -/
theorem other_mem_replaceHead {row : HeadRow} (hmem : row ∈ heads)
    (hkey : row.key ≠ advanced.key) : row ∈ replaceHead heads advanced :=
  List.mem_map.mpr ⟨row, hmem, by simp [hkey]⟩

/-- A replacement that keeps the columns of the one row of its key keeps every row's columns. -/
theorem replaceHead_columns {head : HeadRow} (hkeys : (heads.map (·.key)).Nodup)
    (hmem : head ∈ heads) (hcolumns : advanced.columns = head.columns) :
    (replaceHead heads advanced).map (·.columns) = heads.map (·.columns) := by
  unfold replaceHead
  rw [List.map_map]
  apply List.map_congr_left
  intro row hrow
  simp only [Function.comp_apply]
  split
  next hsame =>
    have hkey : row.key = head.key := by
      rw [beq_iff_eq] at hsame
      rw [hsame, HeadRow.key, hcolumns, HeadRow.key]
    rw [List.inj_on_of_nodup_map hkeys hrow hmem hkey, hcolumns]
  next => rfl

end ReplaceHead

/-! ## Foreign keys -/

/-- Foreign keys stay satisfied when generations are only added. -/
theorem knownGeneration_mono {generation : Int}
    (hsub : ∀ row ∈ journal.generations, row ∈ next.generations)
    (h : knownGeneration journal generation = true) : knownGeneration next generation = true := by
  obtain ⟨row, hrow, hsame⟩ := List.any_eq_true.mp h
  exact List.any_eq_true.mpr ⟨row, hsub row hrow, hsame⟩

/-- Foreign keys of nullable columns stay satisfied when generations are only added. -/
theorem progressKnown_mono {progress : ProgressColumns}
    (hsub : ∀ row ∈ journal.generations, row ∈ next.generations)
    (h : progressKnown journal progress = true) : progressKnown next progress = true := by
  simp only [progressKnown, Bool.and_eq_true, Option.all_eq_true] at h ⊢
  exact ⟨fun generation hsome => knownGeneration_mono hsub (h.1 generation hsome),
    fun generation hsome => knownGeneration_mono hsub (h.2 generation hsome)⟩

/-- The foreign keys of a journal hold when those of every event and every head do. -/
theorem foreignKeysHold_iff :
    foreignKeysHold journal = true ↔
      (∀ event ∈ journal.events, eventKnown journal event = true) ∧
        ∀ head ∈ journal.heads, headKnown journal head = true := by
  simp [foreignKeysHold]

namespace JournalSound

variable {head : HeadRow} {accepted : AcceptedCommand}
variable {session : Session} {event : EventRow}

/-! ## The empty journal and new generations -/

/-- The journal that `create_command_journal` publishes is sound. -/
theorem empty : JournalSound py emptyJournal where
  generations := rfl
  lastGeneration := rfl
  generationRows := by simp [emptyJournal]
  revisions := rfl
  lastRevision := rfl
  eventChecks := by simp [emptyJournal]
  eventKeys := by simp [emptyJournal]
  headKeys := by simp [emptyJournal]
  heads := by simp [emptyJournal]
  histories := by simp [emptyJournal]
  foreignKeys := rfl
  aliases := by simp [emptyJournal, Journal.commands]
  epochs := fun _ => ⟨rfl, by simp [emptyJournal, Journal.authorizations, Journal.commands],
    by simp [emptyJournal, Journal.authorizations, Journal.commands]⟩

variable {journal next : Journal}

/-- Starting a session records the next generation and changes nothing else. -/
theorem of_start {instanceId : HexToken} (h : JournalSound py journal)
    (hstart : startGeneration py journal instanceId = .ok (session, next)) :
    JournalSound py next := by
  simp only [startGeneration, check_bind_eq_ok, require_eq_ok, pure_eq_ok] at hstart
  obtain ⟨-, hbounds, -, -, hpair⟩ := hstart
  obtain ⟨-, rfl⟩ := Prod.mk.inj hpair
  have hsub : ∀ row ∈ journal.generations, row ∈ journal.generations ++
      [(⟨journal.state.lastSidecarGeneration + 1, instanceId.text, 1, 1⟩ : GenerationRow)] :=
    fun row hrow => List.mem_append_left _ hrow
  have hforeign := foreignKeysHold_iff.mp h.foreignKeys
  exact
    { generations := numbered_concat h.generations (by simp [h.lastGeneration])
      lastGeneration := by simp [h.lastGeneration]
      generationRows := by
        intro row hrow
        rcases List.mem_append.mp hrow with hrow | hrow
        · exact h.generationRows row hrow
        · rw [List.mem_singleton] at hrow
          subst hrow
          simp only [generationRowCheck, instanceId.valid]
          simp only [Bool.and_eq_true, decide_eq_true_eq]
          exact ⟨⟨⟨⟨by omega, by omega⟩, trivial⟩, rfl⟩, rfl⟩
      revisions := h.revisions
      lastRevision := h.lastRevision
      eventChecks := h.eventChecks
      eventKeys := h.eventKeys
      headKeys := h.headKeys
      heads := h.heads
      histories := h.histories
      foreignKeys := by
        refine foreignKeysHold_iff.mpr ⟨fun event hevent => ?_, fun head hhead => ?_⟩
        · have hold := hforeign.1 event hevent
          simp only [eventKnown, Bool.and_eq_true] at hold ⊢
          exact ⟨⟨knownGeneration_mono hsub hold.1.1, knownGeneration_mono hsub hold.1.2⟩,
            progressKnown_mono hsub hold.2⟩
        · have hold := hforeign.2 head hhead
          simp only [headKnown, Bool.and_eq_true] at hold ⊢
          exact ⟨⟨knownGeneration_mono hsub hold.1.1, knownGeneration_mono hsub hold.1.2⟩,
            progressKnown_mono hsub hold.2⟩
      aliases := h.aliases
      epochs := h.epochs }

/-! ## Appending an event -/

/-- The revisions stay numbered when the next one is appended. -/
theorem append_revisions (h : JournalSound py journal)
    (hrevision : event.journalRevision = journal.nextRevision) :
    (journal.events ++ [event]).map (·.journalRevision) =
      countFromOne (journal.events ++ [event]).length :=
  numbered_concat h.revisions (by rw [hrevision, Journal.nextRevision, h.lastRevision])

/-- The events of a key that is not the new event's are the same as before. -/
theorem filter_append_of_ne {key : HeadKey} (hkey : event.key ≠ key) :
    (journal.events ++ [event]).filter (fun row => row.key == key) =
      journal.events.filter (fun row => row.key == key) := by
  simp [List.filter_append, hkey]

/-- The events of the new event's key gain it. -/
theorem filter_append_self (event : EventRow) :
    (journal.events ++ [event]).filter (fun row => row.key == event.key) =
      journal.events.filter (fun row => row.key == event.key) ++ [event] := by
  simp [List.filter_append]

/-! ## Advancing a head -/

/-- An advanced head whose event continues its history keeps the journal sound. -/
theorem advance (h : JournalSound py journal) {advanced : HeadRow}
    (hadvance : HeadAdvanced py journal session head advanced event next)
    (hprogress : progressFitsPhase py advanced)
    (hhistory : advanced.history = head.history ++ [event]) : JournalSound py next := by
  have hkey : advanced.key = head.key := by rw [HeadRow.key, hadvance.columns, HeadRow.key]
  have heventKey : event.key = head.key := by
    rw [EventRow.key, hadvance.eventColumns, HeadRow.key]
  have hcolumns := replaceHead_columns h.headKeys hadvance.mem hadvance.columns
  have hcommands : (journal.append event (replaceHead journal.heads advanced)).commands =
      journal.commands := by
    have := congrArg (List.map ImmutableColumns.toAcceptedCommand) hcolumns
    simpa [Journal.commands, Journal.append, List.map_map, Function.comp_def] using this
  have hkeys : (replaceHead journal.heads advanced).map (·.key) = journal.heads.map (·.key) := by
    have := congrArg (List.map (fun columns : ImmutableColumns => columns.key)) hcolumns
    simpa [List.map_map, Function.comp_def, HeadRow.key] using this
  have hforeign := foreignKeysHold_iff.mp h.foreignKeys
  obtain rfl := hadvance.stored
  exact
    { generations := h.generations
      lastGeneration := h.lastGeneration
      generationRows := h.generationRows
      revisions := append_revisions h hadvance.eventRevision
      lastRevision := by simp [Journal.append, h.lastRevision]
      eventChecks := by
        intro row hrow
        rcases List.mem_append.mp hrow with hrow | hrow
        · exact h.eventChecks row hrow
        · rw [List.mem_singleton.mp hrow]
          exact hadvance.eventCheck
      eventKeys := by
        intro row hrow
        have hold : row.key ∈ journal.heads.map (·.key) := by
          rcases List.mem_append.mp hrow with hrow | hrow
          · obtain ⟨old, hold, hsame⟩ := h.eventKeys row hrow
            exact hsame ▸ List.mem_map_of_mem hold
          · rw [List.mem_singleton.mp hrow, heventKey]
            exact List.mem_map_of_mem hadvance.mem
        rw [← hkeys] at hold
        exact List.mem_map.mp hold
      headKeys := by
        change ((replaceHead journal.heads advanced).map (·.key)).Nodup
        rw [hkeys]
        exact h.headKeys
      heads := by
        intro row hrow
        rcases mem_replaceHead hrow with rfl | ⟨hold, -⟩
        · exact ⟨hadvance.fact, hadvance.check, hprogress⟩
        · exact h.heads row hold
      histories := by
        intro row hrow
        rcases mem_replaceHead hrow with rfl | ⟨hold, hne⟩
        · rw [hkey, ← heventKey, hhistory, ← h.histories head hadvance.mem, ← heventKey]
          exact filter_append_self event
        · rw [← h.histories row hold]
          exact filter_append_of_ne (by rw [heventKey, ← hkey]; exact hne.symm)
      foreignKeys := by
        refine foreignKeysHold_iff.mpr ⟨fun row hrow => ?_, fun row hrow => ?_⟩
        · rcases List.mem_append.mp hrow with hrow | hrow
          · exact hforeign.1 row hrow
          · rw [List.mem_singleton.mp hrow]
            exact hadvance.eventKnown
        · rcases mem_replaceHead hrow with rfl | ⟨hold, -⟩
          · exact hadvance.known
          · exact hforeign.2 row hold
      aliases := by
        rw [hcommands]
        exact h.aliases
      epochs := by
        intro operation
        rw [Journal.authorizations, hcommands]
        exact h.epochs operation }

/-! ## Creating a head -/

/-- A command of the journal's heads, under its operation. -/
theorem mem_authorizations (hmem : head ∈ journal.heads) :
    head.columns.toAcceptedCommand ∈ journal.authorizations head.columns.operation :=
  List.mem_filter.mpr ⟨List.mem_map_of_mem hmem, by simp⟩

/-- An authorization of an operation is the command of a head of that operation. -/
theorem exists_of_mem_authorizations {operation : OperationKey} {command : AcceptedCommand}
    (h : command ∈ journal.authorizations operation) :
    ∃ head ∈ journal.heads, head.columns.toAcceptedCommand = command ∧
      head.columns.operation = operation := by
  obtain ⟨hmem, hoperation⟩ := List.mem_filter.mp h
  obtain ⟨head, hhead, rfl⟩ := List.mem_map.mp hmem
  exact ⟨head, hhead, rfl, by simpa using hoperation⟩

/-- The latest authorization of an operation is its last one, with the greatest ordinal. -/
theorem latestAuthorization_spec (h : JournalSound py journal) {operation : OperationKey}
    {predecessor : HeadRow} (hlatest : latestAuthorization journal operation = some predecessor) :
    predecessor ∈ journal.heads ∧ predecessor.columns.operation = operation ∧
      predecessor.columns.dispatchAuthorizationOrdinal =
        (journal.authorizations operation).length := by
  set selected := journal.heads.filter (fun head => head.columns.operation == operation)
  set sorted := orderBy (fun head => -head.columns.dispatchAuthorizationOrdinal) selected
  have hhead : sorted.head? = some predecessor := hlatest
  have hperm : sorted.Perm selected := orderBy_perm _ _
  have hdescending : sorted.Pairwise (fun a b =>
      -a.columns.dispatchAuthorizationOrdinal ≤ -b.columns.dispatchAuthorizationOrdinal) :=
    orderBy_pairwise _ _
  have hmem : predecessor ∈ selected := hperm.subset (List.mem_of_head? hhead)
  obtain ⟨hpredecessor, hoperation⟩ := List.mem_filter.mp hmem
  rw [beq_iff_eq] at hoperation
  refine ⟨hpredecessor, hoperation, ?_⟩
  have hordinals := (h.epochs operation).ordinals
  have hauthorized := hoperation ▸ mem_authorizations hpredecessor
  obtain ⟨hlow, hhigh⟩ := bounds_of_numbered hordinals hauthorized
  obtain ⟨last, hlast, hlastOrdinal⟩ :=
    exists_of_numbered hordinals (hlow.trans hhigh) le_rfl
  obtain ⟨lastHead, hlastHead, rfl, hlastOperation⟩ := exists_of_mem_authorizations hlast
  have hlastSorted : lastHead ∈ sorted :=
    hperm.mem_iff.mpr (List.mem_filter.mpr ⟨hlastHead, by simpa using hlastOperation⟩)
  have hle : lastHead.columns.dispatchAuthorizationOrdinal ≤
      predecessor.columns.dispatchAuthorizationOrdinal := by
    cases hcases : sorted with
    | nil => simp [hcases] at hhead
    | cons first rest =>
      rw [hcases] at hhead hdescending hlastSorted
      obtain rfl : first = predecessor := Option.some.inj hhead
      rcases List.mem_cons.mp hlastSorted with rfl | hrest
      · exact le_rfl
      · exact neg_le_neg_iff.mp (List.rel_of_pairwise_cons hdescending hrest)
  exact le_antisymm hhigh (hlastOrdinal ▸ hle)

/-- One authorization of an operation has one head. -/
theorem head_eq_of_ordinal (h : JournalSound py journal) {left right : HeadRow}
    (hleft : left ∈ journal.heads) (hright : right ∈ journal.heads)
    (hoperation : left.columns.operation = right.columns.operation)
    (hordinal : left.columns.dispatchAuthorizationOrdinal =
      right.columns.dispatchAuthorizationOrdinal) : left = right := by
  refine List.inj_on_of_nodup_map h.headKeys hleft hright ?_
  obtain ⟨hrun, hid⟩ := Prod.mk.inj hoperation
  simp only [HeadRow.key, AcceptedCommand.key, hrun, hid, hordinal]

/-- The ordinals of the heads of an operation are between one and their number. -/
theorem ordinal_bounds (h : JournalSound py journal) (hmem : head ∈ journal.heads) :
    1 ≤ head.columns.dispatchAuthorizationOrdinal ∧
      head.columns.dispatchAuthorizationOrdinal ≤
        (journal.authorizations head.columns.operation).length :=
  bounds_of_numbered (h.epochs head.columns.operation).ordinals (mem_authorizations hmem)

/-- What the collision check of a new acceptance establishes: its ordinal is the next one of its
operation, it succeeds the last authorization, which is undispatched, and no other operation uses
its key. -/
structure AcceptanceFits (journal : Journal) (accepted : AcceptedCommand) : Prop where
  ordinal : accepted.dispatchAuthorizationOrdinal =
    (journal.authorizations accepted.operation).length + 1
  succeeds : ∀ previous ∈ (journal.authorizations accepted.operation).getLast?,
    SucceedsInEpoch previous accepted
  undispatched : ∀ head ∈ journal.heads, head.columns.operation = accepted.operation →
    head.columns.dispatchAuthorizationOrdinal + 1 = accepted.dispatchAuthorizationOrdinal →
      head.phase = .accepted
  otherKeys : ∀ head ∈ journal.heads, idempotencyCollision accepted head = true →
    head.columns.operation = accepted.operation

/-- The predecessor check of a retry finds the last authorization of its operation, undispatched. -/
theorem requireSafeRetryPredecessor_ok (h : JournalSound py journal)
    (hretry : requireSafeRetryPredecessor journal accepted = .ok ()) :
    ∃ predecessor ∈ journal.heads, predecessor.columns.operation = accepted.operation ∧
      predecessor.columns.dispatchAuthorizationOrdinal =
        (journal.authorizations accepted.operation).length ∧
      accepted.dispatchAuthorizationOrdinal =
        predecessor.columns.dispatchAuthorizationOrdinal + 1 ∧
      predecessor.phase = .accepted ∧
      SucceedsInEpoch predecessor.columns.toAcceptedCommand accepted := by
  rw [requireSafeRetryPredecessor, require_eq_ok] at hretry
  obtain ⟨predecessor, hlatest, hmatch⟩ := (Option.any_eq_true _ _).mp hretry
  obtain ⟨hmem, hoperation, hordinal⟩ := latestAuthorization_spec h hlatest
  simp only [Bool.and_eq_true, beq_iff_eq, decide_eq_true_eq] at hmatch
  obtain ⟨⟨⟨⟨hprevious, hphase⟩, hidentity⟩, hledger⟩, hreconciliation⟩ := hmatch
  exact ⟨predecessor, hmem, hoperation, hordinal, by omega, hphase,
    ⟨hidentity.symm, hledger, hreconciliation⟩⟩

/-- A new acceptance that passed the collision check fits its operation. -/
theorem acceptanceFits (h : JournalSound py journal)
    (hordinal : 1 ≤ accepted.dispatchAuthorizationOrdinal)
    (hcollision : requireNoIdentityCollision journal accepted = .ok ()) :
    AcceptanceFits journal accepted := by
  have hordinals := (h.epochs accepted.operation).ordinals
  unfold requireNoIdentityCollision at hcollision
  split at hcollision
  next =>
    rw [check_bind_eq_ok, require_eq_ok] at hcollision
    obtain ⟨hretry, hothers⟩ := hcollision
    obtain ⟨predecessor, hmem, hoperation, hlast, hnext, hphase, hsucceeds⟩ :=
      requireSafeRetryPredecessor_ok h hretry
    refine ⟨by omega, ?_, ?_, ?_⟩
    · intro previous hprevious
      have hauthorized := hoperation ▸ mem_authorizations hmem
      have hpreviousMem := List.mem_of_getLast? hprevious
      have hpreviousOrdinal : previous.dispatchAuthorizationOrdinal =
          (journal.authorizations accepted.operation).length := by
        have hgetLast := getLast_of_numbered hordinals
        rw [Option.mem_def.mp hprevious] at hgetLast
        simpa using hgetLast
      have hsame : previous = predecessor.columns.toAcceptedCommand :=
        eq_of_numbered hordinals hpreviousMem hauthorized (hpreviousOrdinal.trans hlast.symm)
      rw [hsame]
      exact hsucceeds
    · intro head hhead hheadOperation hheadOrdinal
      have hsame : head = predecessor :=
        head_eq_of_ordinal h hhead hmem (hheadOperation.trans hoperation.symm) (by omega)
      rw [hsame]
      exact hphase
    · intro head hhead hsame
      have hnot := List.all_eq_true.mp hothers head hhead
      simpa [hsame] using hnot
  next hone =>
    rw [check_bind_eq_ok, require_eq_ok, require_eq_ok] at hcollision
    obtain ⟨hfirst, hnone⟩ := hcollision
    have hempty : journal.authorizations accepted.operation = [] := by
      rw [List.eq_nil_iff_length_eq_zero]
      by_contra hpositive
      obtain ⟨command, hcommand, hcommandOrdinal⟩ :=
        exists_of_numbered hordinals le_rfl (by omega)
      obtain ⟨head, hhead, rfl, hoperation⟩ := exists_of_mem_authorizations hcommand
      have hnot := List.all_eq_true.mp hfirst head hhead
      simp [hoperation, hcommandOrdinal] at hnot
    refine ⟨by rw [hempty]; simp only [List.length_nil]; omega, by simp [hempty], ?_, ?_⟩
    · intro head hhead _ hheadOrdinal
      have hpositive := (ordinal_bounds h hhead).1
      omega
    · intro head hhead hsame
      have hnot := List.all_eq_true.mp hnone head hhead
      simp [hsame] at hnot

/-- The authorizations after an acceptance: the operation of the command gains it. -/
theorem authorizations_concat (accepted : AcceptedCommand) (operation : OperationKey) :
    (journal.commands ++ [accepted]).filter (fun command => command.operation == operation) =
      if accepted.operation = operation then journal.authorizations operation ++ [accepted]
      else journal.authorizations operation := by
  rw [List.filter_append]
  split
  next hsame => simp [Journal.authorizations, hsame]
  next hother => simp [Journal.authorizations, hother]

/-- The epochs of an operation stay sound when a fitting command is appended. -/
theorem epochs_concat (h : JournalSound py journal) (hfits : AcceptanceFits journal accepted)
    (hretryRef : ∀ head ∈ journal.heads,
      sameRetryRef head.columns.toAcceptedCommand accepted = false) (operation : OperationKey) :
    EpochsSound ((journal.commands ++ [accepted]).filter
      (fun command => command.operation == operation)) := by
  rw [authorizations_concat]
  split
  next hsame =>
    subst hsame
    have hold := h.epochs accepted.operation
    refine ⟨numbered_concat hold.ordinals hfits.ordinal,
      isChain_concat.mpr ⟨hold.chain, hfits.succeeds⟩, ?_⟩
    rw [List.filterMap_append, List.nodup_append]
    refine ⟨hold.retryRefs, ?_, ?_⟩
    · cases href : accepted.safeRetryCommitRef <;> simp [href]
    · intro ref href other hother hsame
      subst hsame
      obtain ⟨command, hcommand, hcommandRef⟩ := List.mem_filterMap.mp href
      obtain ⟨head, hhead, rfl, hoperation⟩ := exists_of_mem_authorizations hcommand
      obtain ⟨_, hmem, hacceptedRef⟩ := List.mem_filterMap.mp hother
      rw [List.mem_singleton] at hmem
      subst hmem
      have hnot := hretryRef head hhead
      simp [sameRetryRef, hoperation, hcommandRef, hacceptedRef] at hnot
  next => exact h.epochs operation

/-- A fitting command agrees with every authorization of the journal. -/
theorem agrees_of_fits (h : JournalSound py journal)
    (hfits : AcceptanceFits journal accepted) (hmem : head ∈ journal.heads) :
    AliasesAgree head.columns.toAcceptedCommand accepted where
  logical := by
    intro hoperation
    have hauthorized := hoperation ▸ mem_authorizations hmem
    have hold := h.epochs accepted.operation
    obtain ⟨last, hlast⟩ := List.getLast?_isSome.mpr (List.ne_nil_of_mem hauthorized) |>
      Option.isSome_iff_exists.mp
    have hlastIdentity := hold.identity last (List.mem_of_getLast? hlast)
    have hheadIdentity := hold.identity _ hauthorized
    have hsame := Option.some.inj (hheadIdentity.trans hlastIdentity.symm)
    exact hsame.trans (hfits.succeeds last hlast).identity.symm
  runKey := by
    intro hrun hkey
    have hoperation := hfits.otherKeys head hmem (by simp [idempotencyCollision, hrun, hkey])
    exact congrArg Prod.snd hoperation
  operationKey := by
    intro hid hkey
    have hoperation := hfits.otherKeys head hmem (by simp [idempotencyCollision, hid, hkey])
    exact congrArg Prod.fst hoperation

/-- Agreement of two commands is symmetric. -/
theorem agrees_symm {left right : AcceptedCommand} (h : AliasesAgree left right) :
    AliasesAgree right left where
  logical hoperation := (h.logical hoperation.symm).symm
  runKey hrun hkey := (h.runKey hrun.symm hkey.symm).symm
  operationKey hid hkey := (h.operationKey hid.symm hkey.symm).symm

/-- A created head keeps the journal sound. -/
theorem accept (h : JournalSound py journal) {result : TransitionResult}
    (hcreated : AcceptanceCreated py journal session accepted result next) :
    JournalSound py next := by
  have hfits := acceptanceFits h hcreated.ordinal hcreated.noCollision
  obtain ⟨head, ⟨ack, hheadEq⟩, heventCheck, hheadCheck, heventKnown, hheadKnown, rfl⟩ :=
    hcreated.stored
  have hcommand : head.columns.toAcceptedCommand = accepted := by rw [hheadEq]; rfl
  have hkey : head.key = accepted.key := by rw [hheadEq]; rfl
  have hrevision : head.acceptedEvent.journalRevision = journal.nextRevision := by
    rw [hheadEq]; rfl
  have hhistory : head.history = [head.acceptedEvent] := by rw [hheadEq]; rfl
  have hsound : HeadSound py head := by
    refine ⟨(factFromRow_ok_iff py).mpr ⟨.acceptedNoDispatch, by rw [hheadEq]; rfl, ?_⟩,
      hheadCheck, by rw [hheadEq]; rfl⟩
    rw [hheadEq]
    exact hcreated.fact
  have hforeign := foreignKeysHold_iff.mp h.foreignKeys
  have hcommands : (journal.append head.acceptedEvent (journal.heads ++ [head])).commands =
      journal.commands ++ [accepted] := by
    simp [Journal.commands, Journal.append, hcommand]
  have hnoEvents : journal.events.filter (fun event => event.key == head.key) = [] := by
    rw [List.filter_eq_nil_iff]
    intro event hevent hsame
    obtain ⟨other, hother, hotherKey⟩ := h.eventKeys event hevent
    exact hcreated.fresh other hother (hotherKey.trans ((beq_iff_eq.mp hsame).trans hkey))
  exact
    { generations := h.generations
      lastGeneration := h.lastGeneration
      generationRows := h.generationRows
      revisions := append_revisions h hrevision
      lastRevision := by simp [Journal.append, h.lastRevision]
      eventChecks := by
        intro row hrow
        rcases List.mem_append.mp hrow with hrow | hrow
        · exact h.eventChecks row hrow
        · rw [List.mem_singleton.mp hrow]
          exact heventCheck
      eventKeys := by
        intro row hrow
        rcases List.mem_append.mp hrow with hrow | hrow
        · obtain ⟨other, hother, hsame⟩ := h.eventKeys row hrow
          exact ⟨other, List.mem_append_left _ hother, hsame⟩
        · rw [List.mem_singleton.mp hrow]
          exact ⟨head, List.mem_append_right _ (List.mem_singleton_self _), rfl⟩
      headKeys := by
        change ((journal.heads ++ [head]).map (·.key)).Nodup
        rw [List.map_append, List.nodup_append]
        refine ⟨h.headKeys, by simp, ?_⟩
        intro key hmem other hother hsame
        obtain ⟨row, hrow, rfl⟩ := List.mem_map.mp hmem
        rw [List.map_singleton, List.mem_singleton] at hother
        exact hcreated.fresh row hrow (hsame.trans (hother.trans hkey))
      heads := by
        intro row hrow
        rcases List.mem_append.mp hrow with hrow | hrow
        · exact h.heads row hrow
        · rw [List.mem_singleton.mp hrow]
          exact hsound
      histories := by
        intro row hrow
        rcases List.mem_append.mp hrow with hrow | hrow
        · rw [← h.histories row hrow]
          exact filter_append_of_ne
            (fun hsame => hcreated.fresh row hrow (hsame.symm.trans hkey))
        · rw [List.mem_singleton.mp hrow, hhistory]
          change (journal.events ++ [head.acceptedEvent]).filter
            (fun event => event.key == head.acceptedEvent.key) = _
          rw [filter_append_self]
          change journal.events.filter (fun event => event.key == head.key) ++ _ = _
          rw [hnoEvents, List.nil_append]
      foreignKeys := by
        refine foreignKeysHold_iff.mpr ⟨fun row hrow => ?_, fun row hrow => ?_⟩
        · rcases List.mem_append.mp hrow with hrow | hrow
          · exact hforeign.1 row hrow
          · rw [List.mem_singleton.mp hrow]
            exact heventKnown
        · rcases List.mem_append.mp hrow with hrow | hrow
          · exact hforeign.2 row hrow
          · rw [List.mem_singleton.mp hrow]
            exact hheadKnown
      aliases := by
        rw [hcommands]
        have hold : ∀ command ∈ journal.commands, AliasesAgree command accepted := by
          intro command hcommand
          obtain ⟨row, hrow, rfl⟩ := List.mem_map.mp hcommand
          exact agrees_of_fits h hfits hrow
        intro left hleft right hright
        rcases List.mem_append.mp hleft with hleft | hleft <;>
          rcases List.mem_append.mp hright with hright | hright
        · exact h.aliases left hleft right hright
        · rw [List.mem_singleton.mp hright]
          exact hold left hleft
        · rw [List.mem_singleton.mp hleft]
          exact agrees_symm (hold right hright)
        · rw [List.mem_singleton.mp hleft, List.mem_singleton.mp hright]
          exact ⟨fun _ => rfl, fun _ _ => rfl, fun _ _ => rfl⟩
      epochs := by
        intro operation
        rw [Journal.authorizations, hcommands]
        exact epochs_concat h hfits hcreated.retryRef operation }

end JournalSound

/-! ## Transitions of a stored head -/

/-- A dispatched head states its dispatch after the events it had. -/
theorem JournalSound.dispatch (h : JournalSound py journal)
    {head : HeadRow} {ref : String} (hphase : head.phase = .accepted)
    (hadvance : HeadAdvanced py journal session head
      (dispatchedHead head session journal.nextRevision ref)
      ⟨journal.nextRevision, session.generation, .dispatchIntent, head.columns,
        dispatchProgress session journal.nextRevision ref⟩ next) : JournalSound py next := by
  have hnone : noProgress head.progress = true := by
    simpa [progressFitsPhase, hphase] using (h.heads head hadvance.mem).progress
  refine h.advance hadvance ?_ ?_
  · simp only [noProgress, Bool.and_eq_true] at hnone
    exact hnone.2
  · simp [HeadRow.history, hphase, dispatchedHead, HeadRow.acceptedEvent, HeadRow.dispatchEvent,
      dispatchProgress]

/-- An observed head states its observation after the events it had. -/
theorem JournalSound.observe (h : JournalSound py journal)
    {head : HeadRow} {arguments : ObservationArguments}
    {dispatch : DispatchValues} (hphase : head.phase = .dispatchIntent)
    (hdispatch : dispatchFromRow head = some dispatch)
    (hbinding : validateTerminalObservationBinding py arguments.observationRef
      arguments.observationHash arguments.terminalReplyBytes = .ok ())
    (hadvance : HeadAdvanced py journal session head
      (observedHead head session journal.nextRevision arguments)
      (observationEventOf head dispatch session journal.nextRevision arguments) next) :
    JournalSound py next := by
  obtain ⟨href, hgeneration, hrevision⟩ := dispatchFromRow_eq_some.mp hdispatch
  have hmatch : terminalReplyBytesMatchObservation py
      (observedHead head session journal.nextRevision arguments).progress = true := by
    unfold validateTerminalObservationBinding at hbinding
    unfold terminalReplyBytesMatchObservation observedHead
    cases hterminal : arguments.terminalReplyBytes with
    | none => rfl
    | some bytes =>
      rw [hterminal] at hbinding
      obtain ⟨hrefDigest, hhashDigest⟩ := require_eq_ok.mp hbinding
      simp [hrefDigest, hhashDigest]
  refine h.advance hadvance ?_ ?_
  · unfold progressFitsPhase
    cases hkind : arguments.kind <;> simpa [observedHead, hkind, ObservationKind.phase] using hmatch
  · cases hkind : arguments.kind <;>
      simp [HeadRow.history, hphase, observedHead, hkind, ObservationKind.phase,
        HeadRow.acceptedEvent, HeadRow.dispatchEvent, HeadRow.observationEvent, observationEventOf,
        href, hgeneration, hrevision]

/-! ## Every call -/

/-- Everything a public call can do to the tables. -/
inductive Outcome (py : PythonRuntime) : Option Journal → Call → Option Journal → Prop
  | unchanged (journal : Option Journal) (c : Call) : Outcome py journal c journal
  | created : Outcome py none .create (some emptyJournal)
  | started {journal next : Journal} {session : Session} {instanceId : HexToken}
      (h : startGeneration py journal instanceId = .ok (session, next)) :
      Outcome py (some journal) (.start instanceId) (some next)
  | accepted {journal next : Journal} {session : Session} {command : AcceptedCommand}
      {options : AcceptOptions} {result : TransitionResult}
      (h : AcceptanceCreated py journal session command result next) :
      Outcome py (some journal) (.recordAccepted session command options) (some next)
  | dispatched {journal next : Journal} {session : Session} {arguments : DispatchArguments}
      {head : HeadRow} (hkey : head.key = arguments.key) (hphase : head.phase = .accepted)
      (h : HeadAdvanced py journal session head
        (dispatchedHead head session journal.nextRevision arguments.durableDispatchIntentRef)
        ⟨journal.nextRevision, session.generation, .dispatchIntent, head.columns,
          dispatchProgress session journal.nextRevision arguments.durableDispatchIntentRef⟩ next) :
      Outcome py (some journal) (.recordDispatchIntent session arguments) (some next)
  | observed {journal next : Journal} {session : Session} {arguments : ObservationArguments}
      {head : HeadRow} {dispatch : DispatchValues} (hkey : head.key = arguments.key)
      (hphase : head.phase = .dispatchIntent) (hdispatch : dispatchFromRow head = some dispatch)
      (hbinding : validateTerminalObservationBinding py arguments.observationRef
        arguments.observationHash arguments.terminalReplyBytes = .ok ())
      (h : HeadAdvanced py journal session head
        (observedHead head session journal.nextRevision arguments)
        (observationEventOf head dispatch session journal.nextRevision arguments) next) :
      Outcome py (some journal) (.recordObservation session arguments) (some next)

/-- Every journal of the world is sound. -/
def World.Sound (py : PythonRuntime) (world : World) : Prop :=
  ∀ journal ∈ world.journal, JournalSound py journal

/-- The journal of a live session is the world's. -/
theorem World.live_ok (h : world.live session = .ok journal) :
    world.journal = some journal ∧ session ∈ world.sessions := by
  rw [World.live, check_bind_eq_ok, require_eq_ok] at h
  obtain ⟨hsession, h⟩ := h
  split at h
  next found hfound =>
    cases h
    exact ⟨hfound, hsession⟩
  next => cases h

/-- A call that returns has one of the outcomes; one that raises leaves the tables alone. -/
theorem exec_outcome (hsound : world.Sound py) (c : Call) :
    Outcome py world.journal c (exec py world c).journal := by
  unfold exec
  split
  next result next hcall =>
    cases c with
    | create =>
      simp only [call] at hcall
      split at hcall
      next => cases hcall
      next hnone =>
        obtain ⟨-, rfl⟩ := Prod.mk.inj (Except.ok.inj hcall)
        rw [hnone]
        exact .created
    | start instanceId =>
      simp only [call] at hcall
      split at hcall
      next => cases hcall
      next journal hjournal =>
        obtain ⟨⟨session, started⟩, hstart, hcall⟩ := bind_eq_ok.mp hcall
        obtain ⟨-, rfl⟩ := Prod.mk.inj (pure_eq_ok.mp hcall)
        rw [hjournal]
        exact .started hstart
    | close session =>
      rw [call, check_bind_eq_ok] at hcall
      obtain ⟨-, rfl⟩ := Prod.mk.inj (pure_eq_ok.mp hcall.2)
      exact .unchanged _ _
    | recordAccepted session command options =>
      obtain ⟨journal, hlive, hcall⟩ := bind_eq_ok.mp hcall
      obtain ⟨⟨receipt, stored⟩, hrecord, hcall⟩ := bind_eq_ok.mp hcall
      obtain ⟨-, rfl⟩ := Prod.mk.inj (pure_eq_ok.mp hcall)
      rw [(World.live_ok hlive).1]
      rcases recordAccepted_ok py hrecord with ⟨rfl, -, -⟩ | hcreated
      · exact .unchanged _ _
      · exact .accepted hcreated
    | recordDispatchIntent session arguments =>
      obtain ⟨journal, hlive, hcall⟩ := bind_eq_ok.mp hcall
      obtain ⟨⟨receipt, stored⟩, hrecord, hcall⟩ := bind_eq_ok.mp hcall
      obtain ⟨-, rfl⟩ := Prod.mk.inj (pure_eq_ok.mp hcall)
      have hjournal := (World.live_ok hlive).1
      rw [hjournal]
      obtain ⟨-, head, -, hkey, ⟨rfl, -, -⟩ | ⟨hphase, -, -, hadvance⟩⟩ :=
        recordDispatchIntent_ok py (hsound journal hjournal).headKeys hrecord
      · exact .unchanged _ _
      · exact .dispatched hkey hphase hadvance
    | recordObservation session arguments =>
      obtain ⟨journal, hlive, hcall⟩ := bind_eq_ok.mp hcall
      obtain ⟨⟨receipt, stored⟩, hrecord, hcall⟩ := bind_eq_ok.mp hcall
      obtain ⟨-, rfl⟩ := Prod.mk.inj (pure_eq_ok.mp hcall)
      have hjournal := (World.live_ok hlive).1
      rw [hjournal]
      obtain ⟨head, -, hkey, rfl | ⟨hphase, -, hbinding, dispatch, hdispatch, hadvance⟩⟩ :=
        recordObservation_ok py (hsound journal hjournal).headKeys hrecord
      · exact .unchanged _ _
      · exact .observed hkey hphase hdispatch hbinding hadvance
  next => exact .unchanged _ _

/-- Every outcome leaves a sound journal when it found one. -/
theorem Outcome.sound {before after : Option Journal} {c : Call} (h : Outcome py before c after)
    (hbefore : ∀ journal ∈ before, JournalSound py journal) :
    ∀ journal ∈ after, JournalSound py journal := by
  cases h with
  | unchanged => exact hbefore
  | created =>
    rintro _ ⟨⟩
    exact .empty
  | started hstart =>
    rintro _ ⟨⟩
    exact (hbefore _ rfl).of_start hstart
  | accepted hcreated =>
    rintro _ ⟨⟩
    exact (hbefore _ rfl).accept hcreated
  | dispatched _ hphase hadvance =>
    rintro _ ⟨⟩
    exact (hbefore _ rfl).dispatch hphase hadvance
  | observed _ hphase hdispatch hbinding hadvance =>
    rintro _ ⟨⟩
    exact (hbefore _ rfl).observe hphase hdispatch hbinding hadvance

/-- Every public call keeps the journal sound. -/
theorem exec_sound (h : world.Sound py) (c : Call) : (exec py world c).Sound py :=
  (exec_outcome h c).sound h

/-- The world after a call that returns. -/
theorem exec_of_call {next : World} {c : Call} {returned : Returned}
    (h : call py world c = .ok (returned, next)) : exec py world c = next := by
  unfold exec
  rw [h]

/-- The initial world has no journal. -/
theorem World.initial_sound : World.initial.Sound py := by
  rintro _ ⟨⟩

/-- Every journal that a history of public calls produces is sound. -/
theorem run_sound (calls : List Call) : (run (exec py) .initial calls).Sound py :=
  run_invariant (I := fun world : World => world.Sound py) (fun _ c h => exec_sound h c)
    World.initial_sound calls

end SeekTalent.SourcePort
