import SeekTalent.Foundation.Lists
import SeekTalent.Foundation.Machine
import SeekTalent.Foundation.Tables
import SeekTalent.RuntimeControl.RunStore

/-!
# Paging through the events of a run

The table of events of all runs (`seektalent_runtime_control/store.py`), its retention and the pages
that `list_events` reads from it.  A consumer reads a page, moves on to the cursor it returns and is
told of a gap by a reason code.

The gap check sees the first row of a page and the empty page.  Retention removes the events that
are not public, so the numbers it leaves behind have holes anywhere; a hole behind the first row of
a page is passed over, and whether there is one depends on where the page starts and ends.
-/

namespace SeekTalent.RuntimeControl

open Foundation

/-! ## The table of events -/

/-- The columns that the projection to the workbench writes. -/
structure ProjectionColumns where
  projectionAttemptCount : Nat := 0
  lastProjectionErrorCode : Option String := none
  projectedAt : Option Nat := none
  workbenchEventGlobalSeq : Option Nat := none
  deriving DecidableEq, Repr

/-- The columns of an event beside those of `EventRow`. -/
structure EventColumns where
  runtimeRunId : String
  sourceId : Option String := none
  summary : String
  schemaVersion : String := "runtime-control-event/v1"
  visibility : String := "internal"
  payloadKind : String := "compact"
  projection : ProjectionColumns := {}
  deriving DecidableEq, Repr

/-- A row of `runtime_control_events`, with the run it belongs to. -/
structure LoggedEvent extends EventRow, EventColumns
  deriving DecidableEq, Repr

/-- `RuntimeControlEventInput`, with the run it names. -/
structure LoggedInput extends EventInput, EventColumns
  deriving DecidableEq, Repr

/-- The stored row of an input. -/
def LoggedInput.row (input : LoggedInput) (eventSeq : Nat) : LoggedEvent where
  toEventRow := input.toEventInput.row eventSeq
  toEventColumns := input.toEventColumns

/-- The unique key of an event: its run and its number in the run. -/
def LoggedEvent.number (event : LoggedEvent) : String × Nat :=
  (event.runtimeRunId, event.eventSeq)

/-- A write that leaves an event under its id and its number: the compaction of its payload
(`compact_terminal_event_payloads`) and the columns of the projection. -/
def LoggedEvent.rewrite (event : LoggedEvent) (payload : EventPayload)
    (projection : ProjectionColumns) : LoggedEvent :=
  { event with payload := payload, projection := projection }

/-- `RuntimeControlEventPage`. -/
structure EventPage where
  events : List LoggedEvent := []
  nextCursor : Int
  reasonCode : Option String := none
  deriving DecidableEq, Repr

/-- What `cleanup_runtime_control_retention` compares the rows of its events and leases with. -/
structure RetentionCutoffs where
  terminalRunOlderThan : Nat
  developerEventOlderThan : Nat
  internalEventOlderThan : Nat
  leaseOlderThan : Nat

/-- The runs, the leases of each and the events, in the order of their rowids.  The keys of the
table of events are fields: the id, and the number in a run. -/
structure EventTables where
  runs : List RunRow := []
  leases : List (String × LeaseRow) := []
  events : List LoggedEvent := []
  primaryKey : (events.map (fun event => event.eventId)).Nodup
  uniqueNumber : (events.map LoggedEvent.number).Nodup

namespace EventTables

/-- Tables without rows. -/
def empty : EventTables where
  primaryKey := by simp
  uniqueNumber := by simp

variable (t : EventTables)

/-- The row of a run. -/
def runRow (runtimeRunId : String) : Option RunRow :=
  rowAt RunRow.runtimeRunId t.runs runtimeRunId

/-- The events of a run. -/
def eventsOf (runtimeRunId : String) : List LoggedEvent :=
  t.events.filter (fun event => event.runtimeRunId = runtimeRunId)

/-- The tables with fewer events. -/
def keepEvents (p : LoggedEvent → Bool) : EventTables :=
  { t with
    events := t.events.filter p
    primaryKey := t.primaryKey.sublist (List.Sublist.map _ List.filter_sublist)
    uniqueNumber := t.uniqueNumber.sublist (List.Sublist.map _ List.filter_sublist) }

/-! ## Pages -/

/-- `max(1, min(limit, 500))`. -/
def safeLimit (limit : Int) : Nat :=
  (max 1 (min limit 500)).toNat

/-- `WHERE runtime_run_id = ? AND event_seq > ? ORDER BY event_seq ASC`. -/
def eventsAfter (runtimeRunId : String) (afterSeq : Int) : List LoggedEvent :=
  orderBy (fun event => (event.eventSeq : Int))
    ((t.eventsOf runtimeRunId).filter (fun event => afterSeq < event.eventSeq))

/-- The page of a reader that is told of a gap. -/
def gapPage (afterSeq : Int) : EventPage where
  nextCursor := afterSeq
  reasonCode := some "runtime_event_gap_detected"

/-- `list_events`. -/
def listEvents (runtimeRunId : String) (afterSeq limit : Int) : Except Raised EventPage :=
  match t.runRow runtimeRunId with
  | none => .error (.control .runtimeRunNotFound)
  | some run =>
    match (t.eventsAfter runtimeRunId afterSeq).take (safeLimit limit) with
    | [] =>
      if afterSeq < run.latestEventSeq then .ok (gapPage afterSeq) else .ok
        { nextCursor := afterSeq }
    | first :: rest =>
      if afterSeq + 1 < first.eventSeq then .ok (gapPage afterSeq)
      else
        .ok { events := first :: rest, nextCursor := ((first :: rest).getLast (by simp)).eventSeq }

/-! ## Writing events -/

/-- A row is written on a run that has one, under a number of its own. -/
def Insertable (event : LoggedEvent) : Prop :=
  (∀ stored ∈ t.events, stored.eventId ≠ event.eventId) ∧
    ∀ stored ∈ t.events, stored.number ≠ event.number

instance (event : LoggedEvent) : Decidable (t.Insertable event) :=
  inferInstanceAs (Decidable (_ ∧ _))

/-- `INSERT INTO runtime_control_events`. -/
def insertEvent (event : LoggedEvent) (h : t.Insertable event) : EventTables :=
  { t with
    events := t.events ++ [event]
    primaryKey := by
      rw [List.map_append, List.nodup_append']
      refine ⟨t.primaryKey, by simp, ?_⟩
      simp only [List.map_cons, List.map_nil, List.disjoint_singleton, List.mem_map, not_exists,
        not_and]
      exact h.1
    uniqueNumber := by
      rw [List.map_append, List.nodup_append']
      refine ⟨t.uniqueNumber, by simp, ?_⟩
      simp only [List.map_cons, List.map_nil, List.disjoint_singleton, List.mem_map, not_exists,
        not_and]
      exact h.2 }

/-- The event an append with this input would replay: the one recorded under its key for its run. -/
def recordedEvent (input : LoggedInput) : Option LoggedEvent :=
  input.idempotencyKey.bind fun key =>
    t.events.find? (fun event => event.runtimeRunId = input.runtimeRunId ∧
      event.idempotencyKey = some key)

/-- `_append_event_in_transaction`, on the tables of all runs. -/
def appendEvent (input : LoggedInput) (write : RunWrite) :
    Except Raised (LoggedEvent × EventTables) :=
  match t.recordedEvent input with
  | some existing => .ok (existing, t)
  | none =>
    match t.runRow input.runtimeRunId with
    | none => .error (.control .runtimeRunNotFound)
    | some run => do
      requireRunTruthMutable run
      requireRunTransition run.status (write.runStatus.getD run.status)
      require (input.payload.sizeBytes ≤ maxRuntimeControlJsonBytes)
        (.control .runtimeEventPayloadTooLarge)
      let event := input.row (run.latestEventSeq + 1)
      if h : t.Insertable event then
        let inserted := t.insertEvent event h
        .ok (event, { inserted with
          runs := replaceRow RunRow.runtimeRunId t.runs (run.afterEvent input.toEventInput write) })
      else .error .integrityError

/-- `UPDATE runtime_control_events`. -/
def rewriteEvent (eventId : EventId) (payload : EventPayload) (projection : ProjectionColumns) :
    EventTables :=
  { t with
    events := updateRows (fun event : LoggedEvent => event.eventId) t.events eventId
      (LoggedEvent.rewrite · payload projection)
    primaryKey := by
      have hid : ∀ event : LoggedEvent, (event.rewrite payload projection).eventId =
          event.eventId :=
        fun _ => rfl
      rw [map_updateRows hid]
      exact t.primaryKey
    uniqueNumber := by
      have hnumber : ∀ event : LoggedEvent, (event.rewrite payload projection).number =
          event.number :=
        fun _ => rfl
      rw [map_updateRows hnumber]
      exact t.uniqueNumber }

/-! ## Retention -/

/-- The run has ended before the cutoff and no lease of it is active. -/
def RunSettled (cutoffs : RetentionCutoffs) (run : RunRow) : Prop :=
  run.status ∈ terminalRunStatuses ∧
    (∃ completed ∈ run.completedAt, completed < cutoffs.terminalRunOlderThan) ∧
    ∀ lease ∈ t.leases, lease.1 = run.runtimeRunId → lease.2.status ≠ .active

instance (cutoffs : RetentionCutoffs) (run : RunRow) : Decidable (t.RunSettled cutoffs run) :=
  inferInstanceAs (Decidable (_ ∧ _ ∧ _))

/-- The condition of `_retention_nonpublic_event_ids`. -/
def Removable (cutoffs : RetentionCutoffs) (event : LoggedEvent) : Prop :=
  (∃ run ∈ t.runs, run.runtimeRunId = event.runtimeRunId ∧ t.RunSettled cutoffs run) ∧
    event.visibility ≠ "public" ∧
      ((event.visibility = "developer" ∧ event.createdAt < cutoffs.developerEventOlderThan) ∨
        (event.visibility ≠ "developer" ∧ event.createdAt < cutoffs.internalEventOlderThan))

instance (cutoffs : RetentionCutoffs) (event : LoggedEvent) :
    Decidable (t.Removable cutoffs event) :=
  inferInstanceAs (Decidable (_ ∧ _ ∧ _))

/-- `_retention_nonpublic_event_ids`. -/
def retentionNonpublicEventIds (cutoffs : RetentionCutoffs) (limit : Nat) : List EventId :=
  ((orderBy (fun event => (event.createdAt : Int)) (t.events.filter (t.Removable cutoffs ·))).take
    limit).map (fun event => event.eventId)

/-- `COALESCE(lease.released_at, lease.lease_expires_at, lease.acquired_at)`. -/
def leaseEnd (lease : LeaseRow) : Nat :=
  lease.releasedAt.getD lease.leaseExpiresAt

/-- The condition of `_retention_executor_lease_ids`. -/
def LeaseRemovable (cutoffs : RetentionCutoffs) (lease : String × LeaseRow) : Prop :=
  (∃ run ∈ t.runs, run.runtimeRunId = lease.1 ∧ t.RunSettled cutoffs run ∧
    run.productOutcome = none ∧
      run.currentFailureId = none ∧ run.currentFailureRevision = none ∧
      run.currentFailureOwnerLeaseId = none ∧ run.currentFailureAuthorityMode = none) ∧
    lease.2.status ≠ .active ∧ leaseEnd lease.2 < cutoffs.leaseOlderThan

instance (cutoffs : RetentionCutoffs) (lease : String × LeaseRow) :
    Decidable (t.LeaseRemovable cutoffs lease) :=
  inferInstanceAs (Decidable (_ ∧ _ ∧ _))

/-- `_retention_executor_lease_ids`. -/
def retentionExecutorLeaseIds (cutoffs : RetentionCutoffs) (limit : Nat) : List String :=
  ((orderBy (fun lease : String × LeaseRow => (leaseEnd lease.2 : Int))
    (t.leases.filter (t.LeaseRemovable cutoffs ·))).take limit).map (fun lease => lease.2.leaseId)

/-- `max(1, min(batch_size, 1000))`. -/
def safeBatch (batchSize : Int) : Nat :=
  (max 1 (min batchSize 1000)).toNat

/-- `cleanup_runtime_control_retention`, on the tables of events and leases. -/
def cleanupRetention (cutoffs : RetentionCutoffs) (batchSize : Int) (dryRun : Bool) : EventTables :=
  if dryRun then t
  else
    let eventIds := t.retentionNonpublicEventIds cutoffs (safeBatch batchSize)
    let leaseIds := t.retentionExecutorLeaseIds cutoffs (safeBatch batchSize)
    { t.keepEvents (fun event => event.eventId ∉ eventIds) with
      leases := t.leases.filter (fun lease => lease.2.leaseId ∉ leaseIds) }

/-! ## What a page promises -/

/-- A page without a reason code has the numbers after the cursor, up to the next cursor and without
a hole. -/
def PageComplete (runtimeRunId : String) (afterSeq limit : Int) : Prop :=
  ∀ page, t.listEvents runtimeRunId afterSeq limit = .ok page → page.reasonCode = none →
    afterSeq ≤ page.nextCursor ∧
      page.events.map (fun event => (event.eventSeq : Int)) =
        countAfter afterSeq (page.nextCursor - afterSeq).toNat

/-- The events of a run between two numbers. -/
def eventsBetween (runtimeRunId : String) (afterSeq beforeSeq : Int) : List LoggedEvent :=
  (t.eventsOf runtimeRunId).filter (fun event => afterSeq < event.eventSeq ∧
    event.eventSeq < beforeSeq)

/-- The number is kept in the events of the run. -/
def Keeps (runtimeRunId : String) (number : Int) : Prop :=
  ∃ event ∈ t.eventsOf runtimeRunId, (event.eventSeq : Int) = number

/-- The number after the cursor was removed, or every number that was removed after it has so many
events before it that no later event is on the page. -/
def NoHiddenGap (runtimeRunId : String) (afterSeq limit : Int) : Prop :=
  (t.runRow runtimeRunId).isSome → t.Keeps runtimeRunId (afterSeq + 1) →
    ∀ event ∈ t.eventsOf runtimeRunId,
      (t.eventsBetween runtimeRunId afterSeq event.eventSeq).length < safeLimit limit →
        ∀ number, afterSeq < number → number < event.eventSeq → t.Keeps runtimeRunId number

variable {t} {runtimeRunId : String} {afterSeq limit : Int}

/-- The numbers of the events after a cursor. -/
def numbersAfter (t : EventTables) (runtimeRunId : String) (afterSeq : Int) : List Int :=
  (t.eventsAfter runtimeRunId afterSeq).map (fun event => (event.eventSeq : Int))

/-- The number of an event after the cursor is that of an event of the run. -/
lemma mem_numbersAfter {number : Int} :
    number ∈ t.numbersAfter runtimeRunId afterSeq ↔ t.Keeps runtimeRunId number ∧
      afterSeq < number := by
  unfold numbersAfter eventsAfter Keeps
  rw [List.mem_map]
  constructor
  · rintro ⟨event, hevent, rfl⟩
    obtain ⟨hmem, hafter⟩ := List.mem_filter.mp ((orderBy_perm _ _).mem_iff.mp hevent)
    exact ⟨⟨event, hmem, rfl⟩, by simpa using hafter⟩
  · rintro ⟨⟨event, hmem, rfl⟩, hafter⟩
    exact ⟨event, (orderBy_perm _ _).mem_iff.mpr
      (List.mem_filter.mpr ⟨hmem, by simpa using hafter⟩), rfl⟩

/-- The numbers of the events after a cursor ascend. -/
lemma numbersAfter_sorted : (t.numbersAfter runtimeRunId afterSeq).Pairwise (· < ·) := by
  have hnodup : (t.numbersAfter runtimeRunId afterSeq).Nodup := by
    refine (((orderBy_perm _ _).map _).nodup_iff).mpr ?_
    refine List.Nodup.map_on ?_ (((List.Nodup.of_map _ t.primaryKey).filter _).filter _)
    intro event hevent other hother hsame
    obtain ⟨hmem, hrun⟩ := List.mem_filter.mp (List.mem_filter.mp hevent).1
    obtain ⟨hmem', hrun'⟩ := List.mem_filter.mp (List.mem_filter.mp hother).1
    have hnumber : event.number = other.number := by
      simp only [decide_eq_true_eq] at hrun hrun'
      exact Prod.ext (hrun.trans hrun'.symm) (Int.ofNat.inj hsame)
    exact List.inj_on_of_nodup_map t.uniqueNumber hmem hmem' hnumber
  have hsorted : (t.numbersAfter runtimeRunId afterSeq).Pairwise (· ≤ ·) :=
    List.pairwise_map.mpr (orderBy_pairwise _ _)
  exact (hsorted.and hnodup).imp fun h => lt_of_le_of_ne h.1 h.2

/-- The events between two numbers are those after the first that come before the second. -/
lemma length_eventsBetween (beforeSeq : Int) :
    (t.eventsBetween runtimeRunId afterSeq beforeSeq).length =
    ((t.numbersAfter runtimeRunId afterSeq).filter (· < beforeSeq)).length := by
  have hperm := (orderBy_perm (fun event : LoggedEvent => (event.eventSeq : Int))
    ((t.eventsOf runtimeRunId).filter (fun event => afterSeq < event.eventSeq))).filter
      (fun event => (event.eventSeq : Int) < beforeSeq)
  unfold numbersAfter eventsAfter eventsBetween
  rw [List.filter_map, List.length_map]
  refine Eq.trans ?_ hperm.length_eq.symm
  rw [List.filter_filter]
  congr 2
  funext event
  simp [Bool.and_comm]

/-- A page has room for an event. -/
lemma safeLimit_pos : 0 < safeLimit limit := by
  unfold safeLimit
  omega

/-- Every event before one of the first rows is kept, told by the numbers of the events. -/
lemma noHiddenGap_iff {run : RunRow} (hrun : t.runRow runtimeRunId = some run)
    (hnext : t.Keeps runtimeRunId (afterSeq + 1)) :
    t.NoHiddenGap runtimeRunId afterSeq limit ↔
      ∀ x ∈ t.numbersAfter runtimeRunId afterSeq,
        ((t.numbersAfter runtimeRunId afterSeq).filter (· < x)).length < safeLimit limit →
          ∀ n, afterSeq < n → n < x → n ∈ t.numbersAfter runtimeRunId afterSeq := by
  constructor
  · intro hgap x hx hfew n hlow hhigh
    obtain ⟨⟨event, hmem, rfl⟩, -⟩ := mem_numbersAfter.mp hx
    rw [← length_eventsBetween] at hfew
    exact mem_numbersAfter.mpr ⟨hgap (by simp [hrun]) hnext event hmem hfew n hlow hhigh, hlow⟩
  · intro hall _ _ event hmem hfew n hlow hhigh
    rw [length_eventsBetween] at hfew
    have hx : (event.eventSeq : Int) ∈ t.numbersAfter runtimeRunId afterSeq :=
      mem_numbersAfter.mpr ⟨⟨event, hmem, rfl⟩, by omega⟩
    exact (mem_numbersAfter.mp (hall _ hx hfew n hlow hhigh)).1

/-- The page of a cursor behind which the run has no event. -/
lemma listEvents_nil {run : RunRow} (hrun : t.runRow runtimeRunId = some run)
    (hrows : (t.eventsAfter runtimeRunId afterSeq).take (safeLimit limit) = []) :
    t.listEvents runtimeRunId afterSeq limit =
      .ok (if afterSeq <
        run.latestEventSeq then gapPage afterSeq else { nextCursor := afterSeq }) := by
  rw [listEvents, hrun]
  dsimp only
  rw [hrows]
  dsimp only
  split_ifs <;> rfl

/-- The page of a cursor behind which the run has events. -/
lemma listEvents_cons {run : RunRow} {first : LoggedEvent} {rest : List LoggedEvent}
    (hrun : t.runRow runtimeRunId = some run)
    (hrows : (t.eventsAfter runtimeRunId afterSeq).take (safeLimit limit) = first :: rest) :
    t.listEvents runtimeRunId afterSeq limit =
      .ok (if afterSeq + 1 < first.eventSeq then gapPage afterSeq
        else { events := first :: rest, nextCursor :=
          ((first :: rest).getLast (by simp)).eventSeq }) := by
  rw [listEvents, hrun]
  dsimp only
  rw [hrows]
  dsimp only
  split_ifs <;> rfl

/-- A page without a reason code is complete exactly when no hole lies behind its first row. -/
theorem pageComplete_iff :
    t.PageComplete runtimeRunId afterSeq limit ↔ t.NoHiddenGap runtimeRunId afterSeq limit := by
  cases hrun : t.runRow runtimeRunId with
  | none =>
    have herror : t.listEvents runtimeRunId afterSeq limit =
        .error (.control .runtimeRunNotFound) := by
      rw [listEvents, hrun]
    refine iff_of_true (fun page hpage => ?_) (fun hrow => ?_)
    · rw [herror] at hpage
      cases hpage
    · rw [hrun] at hrow
      cases hrow
  | some run =>
    cases hrows : (t.eventsAfter runtimeRunId afterSeq).take (safeLimit limit) with
    | nil =>
      -- The page is empty: the run has no event after the cursor.
      have hempty : t.numbersAfter runtimeRunId afterSeq = [] := by
        have hnone := (List.take_eq_nil_iff.mp hrows).resolve_left safeLimit_pos.ne'
        rw [numbersAfter, hnone, List.map_nil]
      refine iff_of_true (fun page hpage hreason => ?_) (fun _ hnext => ?_)
      · rw [listEvents_nil hrun hrows] at hpage
        obtain rfl := Except.ok.inj hpage
        split_ifs at hreason ⊢
        · cases hreason
        · simp [countAfter]
      · have hmem := mem_numbersAfter.mpr ⟨hnext, lt_add_one afterSeq⟩
        rw [hempty] at hmem
        cases hmem
    | cons first rest =>
      have hnumbers : (t.numbersAfter runtimeRunId afterSeq).take (safeLimit limit) =
          (first :: rest).map (fun event => (event.eventSeq : Int)) := by
        rw [← hrows, numbersAfter, List.map_take]
      obtain ⟨tail, htail⟩ : ∃ tail,
          t.numbersAfter runtimeRunId afterSeq = (first.eventSeq : Int) :: tail := by
        have hhead := congrArg List.head? hnumbers
        rw [List.head?_take, if_neg safeLimit_pos.ne', List.map_cons, List.head?_cons] at hhead
        exact List.head?_eq_some_iff.mp hhead
      have hkept := mem_numbersAfter.mp (htail ▸ List.mem_cons_self)
      by_cases hgap : afterSeq + 1 < first.eventSeq
      · -- The first row does not follow the cursor, which the page reports.
        refine iff_of_true (fun page hpage hreason => ?_) (fun _ hnext => ?_)
        · rw [listEvents_cons hrun hrows, if_pos hgap] at hpage
          obtain rfl := Except.ok.inj hpage
          cases hreason
        · have hmem := mem_numbersAfter.mpr ⟨hnext, lt_add_one afterSeq⟩
          have hsorted : (t.numbersAfter runtimeRunId afterSeq).Pairwise (· < ·) :=
            numbersAfter_sorted
          rw [htail] at hsorted hmem
          obtain heq | hmem := List.mem_cons.mp hmem
          · omega
          · exact absurd (List.rel_of_pairwise_cons hsorted hmem) (by omega)
      · have hnext : t.Keeps runtimeRunId (afterSeq + 1) := by
          have hfirst : (first.eventSeq : Int) = afterSeq + 1 := by
            have hlow := hkept.2
            omega
          exact hfirst ▸ hkept.1
        have hpage : t.PageComplete runtimeRunId afterSeq limit ↔
            afterSeq ≤ ((first :: rest).getLast (by simp)).eventSeq ∧
              (first :: rest).map (fun event => (event.eventSeq : Int)) = countAfter afterSeq
                (((first :: rest).getLast (by simp)).eventSeq - afterSeq).toNat := by
          unfold PageComplete
          rw [listEvents_cons hrun hrows, if_neg hgap]
          refine ⟨fun hcomplete => hcomplete _ rfl rfl, ?_⟩
          intro hcomplete page hpage _
          obtain rfl := Except.ok.inj hpage
          exact hcomplete
        have hlast : (((first :: rest).getLast (by simp)).eventSeq : Int) =
            ((first :: rest).map (fun event => (event.eventSeq : Int))).getLast?.getD afterSeq := by
          rw [List.getLast?_map, List.getLast?_eq_some_getLast (by simp)]
          rfl
        rw [hpage, eq_countAfter_getLast_iff hlast, ← hnumbers, noHiddenGap_iff hrun hnext]
        exact take_eq_countAfter_iff numbersAfter_sorted fun x hx => (mem_numbersAfter.mp hx).2

end EventTables

/-! ## Following the cursor -/

/-- A consumer: its cursor, the events it was given and whether it was told of a gap. -/
structure Reader where
  cursor : Int
  seen : List LoggedEvent := []
  told : Bool := false

/-- The consumer reads a page and moves on. -/
def Reader.read (reader : Reader) (page : EventPage) : Reader where
  cursor := page.nextCursor
  seen := reader.seen ++ page.events
  told := reader.told || page.reasonCode.isSome

/-- A consumer of the events of a run, while the store is written. -/
structure Following where
  tables : EventTables
  reader : Reader

/-- What happens to the tables or to their reader. -/
inductive LogStep
  /-- `create_run`. -/
  | createRun (run : RunRow)
  /-- An append, whoever makes it. -/
  | appendEvent (input : LoggedInput) (write : RunWrite)
  /-- A payload is compacted, or the columns of the projection are written. -/
  | rewriteEvent (eventId : EventId) (payload : EventPayload) (projection : ProjectionColumns)
  /-- Any other write of a run row: only an append writes `latest_event_seq`. -/
  | writeRun (run : RunRow)
  /-- Leases are acquired, renewed and released. -/
  | writeLeases (leases : List (String × LeaseRow))
  /-- `cleanup_runtime_control_retention`. -/
  | cleanup (cutoffs : RetentionCutoffs) (batchSize : Int) (dryRun : Bool)
  /-- The consumer asks for the page behind its cursor. -/
  | poll (limit : Int)

/-- `create_run`: a run whose id, intent and start key are new gets a row. -/
def EventTables.createRun (t : EventTables) (run : RunRow) : EventTables :=
  if run.InitialTruth ∧ ∀ stored ∈ t.runs, stored.runtimeRunId ≠ run.runtimeRunId ∧
      stored.runIntentId ≠ run.runIntentId ∧
        stored.startIdempotencyKey ≠ run.startIdempotencyKey then
    { t with runs := t.runs ++ [run] }
  else t

/-- One step, with a consumer of the events of a run. -/
def Following.step (runtimeRunId : String) (s : Following) : LogStep → Following
  | .createRun run => { s with tables := s.tables.createRun run }
  | .appendEvent input write =>
    match s.tables.appendEvent input write with
    | .ok (_, next) => { s with tables := next }
    | .error _ => s
  | .rewriteEvent eventId payload projection =>
    { s with tables := s.tables.rewriteEvent eventId payload projection }
  | .writeRun run =>
    { s with tables := { s.tables with
        runs := updateRows RunRow.runtimeRunId s.tables.runs run.runtimeRunId
          (fun stored => { run with latestEventSeq := stored.latestEventSeq }) } }
  | .writeLeases leases => { s with tables := { s.tables with leases := leases } }
  | .cleanup cutoffs batchSize dryRun =>
    { s with tables := s.tables.cleanupRetention cutoffs batchSize dryRun }
  | .poll limit =>
    match s.tables.listEvents runtimeRunId s.reader.cursor limit with
    | .ok page => { s with reader := s.reader.read page }
    | .error _ => s

/-- The consumer was told of a gap, or has seen the numbers from its start to its cursor. -/
def Reader.Informed (start : Int) (reader : Reader) : Prop :=
  reader.told = true ∨ (start ≤ reader.cursor ∧
    reader.seen.map (fun event => (event.eventSeq : Int)) =
      countAfter start (reader.cursor - start).toNat)

/-- No hole lies behind the first row of a page that the consumer asks for before it is told of a
gap. -/
def Following.Unbroken (runtimeRunId : String) (s : Following) : LogStep → Prop
  | .poll limit => s.reader.told = true ∨ s.tables.NoHiddenGap runtimeRunId s.reader.cursor limit
  | _ => True

section Follow

variable {runtimeRunId : String} {start : Int} {s : Following}

/-- A page does not take the cursor back. -/
lemma le_nextCursor {t : EventTables} {afterSeq limit : Int} {page : EventPage}
    (h : t.listEvents runtimeRunId afterSeq limit = .ok page) : afterSeq ≤ page.nextCursor := by
  cases hrun : t.runRow runtimeRunId with
  | none =>
    rw [EventTables.listEvents, hrun] at h
    cases h
  | some run =>
    cases hrows : (t.eventsAfter runtimeRunId afterSeq).take (EventTables.safeLimit limit) with
    | nil =>
      rw [EventTables.listEvents_nil hrun hrows] at h
      obtain rfl := Except.ok.inj h
      split_ifs <;> exact le_refl afterSeq
    | cons first rest =>
      rw [EventTables.listEvents_cons hrun hrows] at h
      obtain rfl := Except.ok.inj h
      split_ifs
      · exact le_refl afterSeq
      · have hlast : (first :: rest).getLast (by simp) ∈
            (t.eventsAfter runtimeRunId afterSeq).take (EventTables.safeLimit limit) := by
          rw [hrows]
          exact List.getLast_mem (by simp)
        have hmem := List.mem_of_mem_take hlast
        exact (EventTables.mem_numbersAfter.mp (List.mem_map.mpr ⟨_, hmem, rfl⟩)).2.le

/-- A page keeps a consumer informed exactly if the consumer knows of a gap, or the page tells of
one or has the numbers up to its cursor. -/
lemma informed_read {reader : Reader} {page : EventPage} (h : reader.Informed start)
    (hcursor : reader.cursor ≤ page.nextCursor) :
    (reader.read page).Informed start ↔ reader.told = true ∨ (page.reasonCode = none →
      page.events.map (fun event => (event.eventSeq : Int)) =
        countAfter reader.cursor (page.nextCursor - reader.cursor).toNat) := by
  by_cases htold : reader.told = true
  · exact iff_of_true (.inl (by simp [Reader.read, htold])) (.inl htold)
  obtain ⟨hlow, hseen⟩ := h.resolve_left htold
  cases hreason : page.reasonCode with
  | some reason =>
    exact iff_of_true (.inl (by simp [Reader.read, hreason])) (.inr (fun h => nomatch h))
  | none =>
    have hlength : (page.nextCursor - start).toNat =
        (reader.cursor - start).toNat + (page.nextCursor - reader.cursor).toNat := by omega
    have hend : start + ((reader.cursor - start).toNat : Int) = reader.cursor := by omega
    have hread : (reader.read page).Informed start ↔ start ≤ page.nextCursor ∧
        (reader.seen ++ page.events).map (fun event => (event.eventSeq : Int)) =
          countAfter start (page.nextCursor - start).toNat := by
      unfold Reader.Informed Reader.read
      simp [htold, hreason]
    rw [hread, List.map_append, hseen, hlength, countAfter_add, hend, List.append_cancel_left_eq]
    constructor
    · rintro ⟨-, hevents⟩
      exact .inr fun _ => hevents
    · rintro (hknown | hevents)
      · exact absurd hknown htold
      · exact ⟨by omega, hevents rfl⟩

/-- One step keeps the consumer informed exactly if no hole lies behind the first row of its
page. -/
lemma informed_step (h : s.reader.Informed start) (label : LogStep) :
    (s.step runtimeRunId label).reader.Informed start ↔ s.Unbroken runtimeRunId label := by
  cases label with
  | poll limit =>
    rw [Following.Unbroken, ← EventTables.pageComplete_iff]
    cases hpage : s.tables.listEvents runtimeRunId s.reader.cursor limit with
    | error e =>
      rw [Following.step, hpage]
      refine iff_of_true h (.inr fun page hok => ?_)
      rw [hpage] at hok
      cases hok
    | ok page =>
      rw [Following.step, hpage]
      dsimp only
      rw [informed_read h (le_nextCursor hpage)]
      refine or_congr_right ⟨fun hevents other hother hreason => ?_, fun hcomplete hreason => ?_⟩
      · obtain rfl := Except.ok.inj (hpage.symm.trans hother)
        exact ⟨le_nextCursor hpage, hevents hreason⟩
      · exact (hcomplete page hpage hreason).2
  | appendEvent input write =>
    refine iff_of_true ?_ trivial
    unfold Following.step
    dsimp only
    split <;> exact h
  | createRun run => exact iff_of_true h trivial
  | rewriteEvent eventId payload projection => exact iff_of_true h trivial
  | writeRun run => exact iff_of_true h trivial
  | writeLeases leases => exact iff_of_true h trivial
  | cleanup cutoffs batchSize dryRun => exact iff_of_true h trivial

/-- A page with neither events nor a reason code is that of a consumer that has come to the last
event. -/
lemma latest_le_of_empty {t : EventTables} {row : RunRow} {page : EventPage} {afterSeq limit : Int}
    (hrun : t.runRow runtimeRunId = some row)
    (h : t.listEvents runtimeRunId afterSeq limit = .ok page)
    (hevents : page.events = []) (hreason : page.reasonCode = none) :
    row.latestEventSeq ≤ afterSeq := by
  cases hrows : (t.eventsAfter runtimeRunId afterSeq).take (EventTables.safeLimit limit) with
  | nil =>
    rw [EventTables.listEvents_nil hrun hrows] at h
    obtain rfl := Except.ok.inj h
    split_ifs at hreason with hlatest
    · cases hreason
    · omega
  | cons first rest =>
    rw [EventTables.listEvents_cons hrun hrows] at h
    obtain rfl := Except.ok.inj h
    split_ifs at hreason hevents
    cases hreason

/-- A page without a reason code is complete exactly if no hole lies behind its first row, and a
consumer is informed in every state of a run exactly if none lies behind the first row of any page
that it asks for. A page with neither events nor a reason code has brought it to the last event. -/
theorem paging_iff (runtimeRunId : String) :
    (∀ (t : EventTables) (afterSeq limit : Int),
      t.PageComplete runtimeRunId afterSeq limit ↔ t.NoHiddenGap runtimeRunId afterSeq limit) ∧
    (∀ (t : EventTables) (start : Int) (steps : List LogStep),
      (∀ before, before <+: steps →
        (run (Following.step runtimeRunId) ⟨t, { cursor := start }⟩ before).reader.Informed start) ↔
          Along (Following.step runtimeRunId) (Following.Unbroken runtimeRunId)
            ⟨t, { cursor := start }⟩ steps) ∧
    ∀ (t : EventTables) (afterSeq limit : Int) (row : RunRow) (page : EventPage),
      t.runRow runtimeRunId = some row ∧ t.listEvents runtimeRunId afterSeq limit = .ok page ∧
        page.events = [] ∧ page.reasonCode = none → row.latestEventSeq ≤ afterSeq := by
  refine ⟨fun t afterSeq limit => EventTables.pageComplete_iff, fun t start steps => ?_, ?_⟩
  · have hstart : (Following.mk t { cursor := start }).reader.Informed start :=
      .inr ⟨le_refl start, by simp [countAfter]⟩
    exact forall_prefix_iff_along (I := fun _ => True)
      (P := fun s : Following => s.reader.Informed start)
      (fun _ _ _ => trivial) (fun s label _ hinformed => informed_step hinformed label) trivial
      hstart steps
  · rintro t afterSeq limit row page ⟨hrun, hpage, hevents, hreason⟩
    exact latest_le_of_empty hrun hpage hevents hreason

end Follow

/-! ## A hole inside a page -/

/-- A run that is accepted with nothing on its row. -/
def acceptedRun : RunRow where
  runtimeRunId := "run"
  runIntentId := "intent"
  startIdempotencyKey := "start"
  approvedRequirementRevisionId := "revision"
  status := .queued
  currentStage := "queued"
  currentRound := none
  latestCheckpointId := none
  latestEventSeq := 0
  sourceIds := []
  stopReasonCode := none
  createdAt := 0
  updatedAt := 0
  completedAt := none
  stateRevision := 0
  productOutcome := none
  currentFailureId := none
  currentFailureRevision := none
  currentFailureOwnerLeaseId := none
  currentFailureAuthorityMode := none
  currentActionId := none

/-- An event of the run. -/
def loggedInput (eventId visibility : String) (createdAt : Nat) : LoggedInput where
  eventId := .random eventId
  eventType := .other "runtime_round_progress"
  stage := "runtime"
  status := "completed"
  createdAt := createdAt
  runtimeRunId := "run"
  summary := ""
  visibility := visibility

/-- A public, an internal and a public event, the end of the run, and a cleanup long after it. -/
def holedSteps : List LogStep :=
  [.createRun acceptedRun, .appendEvent (loggedInput "e1" "public" 1) {},
    .appendEvent (loggedInput "e2" "internal" 2) {},
    .appendEvent (loggedInput "e3" "public" 3)
    { runStatus := some .cancelled, completedAt := some 3 }, .cleanup ⟨10, 10, 10, 10⟩ 100 false]

/-- The tables after these steps. -/
def holedTables : EventTables :=
  (run (Following.step "run") ⟨.empty, { cursor := 0 }⟩ holedSteps).tables

/-- The page of ten behind the start has the numbers 1 and 3 and no reason code, where a page of one
is followed by a page that tells of the gap. -/
theorem holedTables_skips : ¬holedTables.PageComplete "run" 0 10 ∧
    holedTables.listEvents "run" 1 1 = .ok (EventTables.gapPage 1) := by
  refine ⟨fun hcomplete => ?_, by decide +kernel⟩
  have hpage : ∃ page, holedTables.listEvents "run" 0 10 = .ok page ∧ page.reasonCode = none ∧
      page.nextCursor = 3 ∧ page.events.map (fun event => (event.eventSeq : Int)) = [1, 3] := by
    refine ⟨((holedTables.listEvents "run" 0 10).toOption.getD { nextCursor := 0 }), ?_⟩
    decide +kernel
  obtain ⟨page, hok, hreason, hcursor, hevents⟩ := hpage
  have hnumbers := (hcomplete page hok hreason).2
  rw [hevents, hcursor] at hnumbers
  exact absurd hnumbers (by decide)

end SeekTalent.RuntimeControl
