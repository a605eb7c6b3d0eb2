import SeekTalent.LiepinStore.ConnectionStore
import Mathlib.Data.List.Induction

/-!
# A gate stays bound to one account

What the calls of the Liepin store keep over every history: a call changes the rows of its own scope
only, a denied or expired gate is not approved, and a run is created over a connected session of the
account that its gate was approved for.

`bind_connection_account` approves a gate for the account it is already approved for, or for the
first one.  `approve_connection_account_hash` does not compare: after a login under another account
it approves the gate for that account (`Rebinds`).  A history keeps each gate bound to one account
exactly when none of its calls does so.
-/

namespace SeekTalent.LiepinStore

open Foundation SourcePort

variable {t after : LiepinTables} {gateRef connectionId : String} {scope : LiepinScope}
  {set : ConnectionRow → ConnectionRow} {call : LiepinCall}

/-- A gate that is approved for an account. -/
def GateRow.ApprovedFor (row : GateRow) (accountHash : String) : Prop :=
  row.gate.status = .approved ∧ row.gate.providerAccountHash = some accountHash

/-- A gate that is denied or expired. -/
def GateRow.Lapsed (row : GateRow) : Prop :=
  row.gate.status = .denied ∨ row.gate.status = .expired

/-- A call that approves a gate for a second account: the connection is connected under the account
of the call and belongs to the gate, which is approved for another. -/
def Rebinds (t : LiepinTables) : LiepinCall → Prop
  | .approveConnectionAccountHash scope gateRef connectionId accountHash =>
    accountHash ≠ "" ∧ isConnectedFor t scope gateRef connectionId accountHash = true ∧
      ∃ held other, t.gateAt gateRef scope = some held ∧ held.ApprovedFor other ∧
        other ≠ accountHash
  | _ => False

/-! ## What a call does -/

/-- A connection has a time of revocation only while it is revoked. -/
def ConnectionRow.Live (row : ConnectionRow) : Prop :=
  row.status ≠ .revoked → row.revokedAt = none

/-- All connections are so. -/
def LiepinTables.Live (t : LiepinTables) : Prop :=
  ∀ connectionId scope row, t.connectionAt connectionId scope = some row → row.Live

/-- The run may be created: its connection is connected and not revoked, under the account of its
approved gate, whose policy allows live search; all are of the scope of the run. -/
def RunRow.Allowed (t : LiepinTables) (row : RunRow) : Prop :=
  ∃ connection held accountHash, t.connectionAt row.connectionId row.scope = some connection ∧
    connection.complianceGateRef = row.complianceGateRef ∧ connection.status = .connected ∧
    connection.revokedAt = none ∧ connection.providerAccountHash = some accountHash ∧
    t.gateAt row.complianceGateRef row.scope = some held ∧ held.ApprovedFor accountHash ∧
    held.gate.basePolicyAllows "search" = true

/-- What the call does to the tables. -/
inductive CallEffect (t : LiepinTables) (call : LiepinCall) : LiepinTables → Prop
  | unchanged : CallEffect t call t
  | gate (row : GateRow) (hscope : row.gate.scope = call.scope)
      (hnew : rowAt GateRow.gateRef t.gates row.gateRef = none) :
      CallEffect t call { t with gates := t.gates ++ [row] }
  | connection (row : ConnectionRow) (hscope : row.scope = call.scope) (hlive : row.Live)
      (hnew : rowAt ConnectionRow.connectionId t.connections row.connectionId = none) :
      CallEffect t call { t with connections := t.connections ++ [row] }
  | session (connectionId : String) (set : ConnectionRow → ConnectionRow)
      (hkey : ∀ row, (set row).key = row.key)
      (hlive : ∀ row, t.connectionAt connectionId call.scope = some row → row.Live →
        (set row).Live) :
      CallEffect t call (t.setConnection connectionId call.scope set)
  | revoke (connectionId : String) (set : ConnectionRow → ConnectionRow)
      (hkey : ∀ row, (set row).key = row.key) (hlive : ∀ row, (set row).Live) (event : EventRow)
      (hevent : event.scope = call.scope) :
      CallEffect t call
        { t.setConnection connectionId call.scope set with events := t.events ++ [event] }
  | approve (gateRef connectionId accountHash : String) (held : GateRow)
      (hheld : t.gateAt gateRef call.scope = some held) (hlapsed : ¬ held.Lapsed)
      (hrebinds : ∀ other, held.ApprovedFor other → other ≠ accountHash → Rebinds t call)
      (connection : ConnectionRow)
      (hconnection : t.connectionAt connectionId call.scope = some connection)
      (hopen : connection.status = .connected ∨ connection.status = .loginReady) :
      CallEffect t call
        ((t.approveGate gateRef call.scope accountHash).connect connectionId call.scope accountHash)
  | run (row : RunRow) (hscope : row.scope = call.scope)
      (hnew : ∀ stored ∈ t.runs, stored.runId ≠ row.runId)
      (hallowed : t.Live → row.Allowed t) :
      CallEffect t call { t with runs := t.runs ++ [row] }

section Effect

variable (lower : String → String) (t : LiepinTables) (scope : LiepinScope)

/-- `create_compliance_gate` inserts a gate or raises. -/
lemma createComplianceGate_effect (gate : ComplianceGate) (purpose gateRef now : String) :
    CallEffect t (.createComplianceGate scope gate purpose gateRef now)
      (committed t (createComplianceGate t scope gate purpose gateRef now)) := by
  unfold createComplianceGate
  by_cases hused : (rowAt GateRow.gateRef t.gates gateRef).isSome = true
  · rw [if_pos hused]
    exact .unchanged
  · rw [if_neg hused]
    exact .gate _ rfl (Option.not_isSome_iff_eq_none.mp hused)

/-- `create_connection` inserts a connection or raises. -/
lemma createConnection_effect (complianceGateRef : String) (connectionId : Option String)
    (uuid now : String) :
    CallEffect t (.createConnection scope complianceGateRef connectionId uuid now)
      (committed t (createConnection t scope complianceGateRef connectionId uuid now)) := by
  unfold createConnection
  dsimp only
  generalize (if connectionId.getD "" = "" then uuid else connectionId.getD "") = id
  by_cases hused : (rowAt ConnectionRow.connectionId t.connections id).isSome = true
  · rw [if_pos hused]
    exact .unchanged
  · rw [if_neg hused]
    exact .connection _ rfl (fun _ => rfl) (Option.not_isSome_iff_eq_none.mp hused)

/-- `record_connection_account_subject` readies a pending connection. -/
lemma recordConnectionAccountSubject_effect (connectionId subject : String) :
    CallEffect t (.recordConnectionAccountSubject scope connectionId subject)
      (recordConnectionAccountSubject t scope connectionId subject).2 := by
  unfold recordConnectionAccountSubject
  by_cases hsubject : subject = ""
  · rw [if_pos hsubject]
    exact .unchanged
  rw [if_neg hsubject]
  cases hrow : t.connectionAt connectionId scope with
  | none => exact .unchanged
  | some row =>
    dsimp only
    by_cases hpending : row.status = .pendingLogin ∧ row.providerAccountHash = none
    · rw [if_pos hpending]
      refine .session connectionId _ (fun _ => rfl) ?_
      intro stored hstored hlive _
      obtain rfl : row = stored := Option.some.inj (hrow.symm.trans hstored)
      exact hlive (by rw [hpending.1]; decide)
    · rw [if_neg hpending]
      exact .unchanged

/-- The connection whose account is bound is open. -/
lemma open_of_boundAccountHash {secret accountHash : String} {row : ConnectionRow}
    (h : boundAccountHash lower secret row = some accountHash) :
    row.status = .connected ∨ row.status = .loginReady := by
  unfold boundAccountHash at h
  by_cases hconnected : row.status = .connected ∧ row.providerAccountHash.isSome = true
  · exact .inl hconnected.1
  · rw [if_neg hconnected] at h
    by_cases hready : row.status = .loginReady ∧ row.observedProviderAccountSubject.getD "" ≠ ""
    · exact .inr hready.1
    · rw [if_neg hready] at h
      cases h

/-- `bind_connection_account` approves a gate that is pending or approved for the same account. -/
lemma bindConnectionAccount_effect (gateRef connectionId secret : String) :
    CallEffect t (.bindConnectionAccount scope gateRef connectionId secret)
      (bindConnectionAccount lower t scope gateRef connectionId secret).2 := by
  unfold bindConnectionAccount
  cases hrow : t.connectionAt connectionId scope with
  | none => exact .unchanged
  | some row =>
    dsimp only
    by_cases hgate : row.complianceGateRef ≠ gateRef
    · rw [if_pos hgate]
      exact .unchanged
    rw [if_neg hgate]
    cases hhash : boundAccountHash lower secret row with
    | none => exact .unchanged
    | some accountHash =>
      cases hheld : t.gateAt gateRef scope with
      | none => exact .unchanged
      | some held =>
        dsimp only
        by_cases hstatus : held.gate.status = .pendingAccountBinding ∨
            (held.gate.status = .approved ∧ held.gate.providerAccountHash = some accountHash)
        · rw [if_neg (not_not_intro hstatus)]
          by_cases haccount : held.gate.providerAccountHash = none ∨
              held.gate.providerAccountHash = some accountHash
          · rw [if_neg (not_not_intro haccount)]
            refine .approve gateRef connectionId accountHash held hheld ?_ ?_ row hrow
              (open_of_boundAccountHash lower hhash)
            · rintro (hdenied | hexpired)
              · simp [hdenied] at hstatus
              · simp [hexpired] at hstatus
            · rintro other ⟨happroved, hother⟩ hne
              obtain hpending | ⟨-, hsame⟩ := hstatus
              · rw [hpending] at happroved
                cases happroved
              · exact absurd (Option.some.inj (hother.symm.trans hsame)) hne
          · rw [if_pos haccount]
            exact .unchanged
        · rw [if_pos hstatus]
          exact .unchanged

/-- A connection that is connected for a gate. -/
lemma isConnectedFor_eq_true {gateRef connectionId accountHash : String} :
    isConnectedFor t scope gateRef connectionId accountHash = true ↔
      ∃ row, t.connectionAt connectionId scope = some row ∧ row.status = .connected ∧
        row.providerAccountHash = some accountHash ∧ row.complianceGateRef = gateRef := by
  unfold isConnectedFor
  cases t.connectionAt connectionId scope with
  | none => simp
  | some row => simp [and_assoc]

/-- `approve_connection_account_hash` approves a gate that has not lapsed. -/
lemma approveConnectionAccountHash_effect (gateRef connectionId accountHash : String) :
    CallEffect t (.approveConnectionAccountHash scope gateRef connectionId accountHash)
      (approveConnectionAccountHash t scope gateRef connectionId accountHash).2 := by
  unfold approveConnectionAccountHash
  by_cases hempty : accountHash = ""
  · rw [if_pos hempty]
    exact .unchanged
  rw [if_neg hempty]
  by_cases hconnected : isConnectedFor t scope gateRef connectionId accountHash = true
  · rw [if_neg (not_not_intro hconnected)]
    cases hheld : t.gateAt gateRef scope with
    | none => exact .unchanged
    | some held =>
      dsimp only
      by_cases hlapsed : held.gate.status = .denied ∨ held.gate.status = .expired
      · rw [if_pos hlapsed]
        exact .unchanged
      · rw [if_neg hlapsed]
        obtain ⟨row, hrow, hstatus, -, -⟩ := (isConnectedFor_eq_true t scope).mp hconnected
        refine .approve gateRef connectionId accountHash held hheld hlapsed ?_ row hrow
          (.inl hstatus)
        intro other hother hne
        exact ⟨hempty, hconnected, held, other, hheld, hother, hne⟩
  · rw [if_pos hconnected]
    exact .unchanged

/-- `record_session_metadata` connects a connection. -/
lemma recordSessionMetadata_effect
    (connectionId accountHash sessionStoreKeyId encryptedStateSha256 now : String) :
    CallEffect t
      (.recordSessionMetadata scope connectionId accountHash sessionStoreKeyId encryptedStateSha256
        now)
      (recordSessionMetadata t scope connectionId accountHash sessionStoreKeyId encryptedStateSha256
        now).2 := by
  unfold recordSessionMetadata
  by_cases hempty : accountHash = "" ∨ sessionStoreKeyId = "" ∨ encryptedStateSha256 = ""
  · rw [if_pos hempty]
    exact .unchanged
  · rw [if_neg hempty]
    exact .session connectionId _ (fun _ => rfl) (fun _ _ _ _ => rfl)

/-- `revoke_session` revokes a connection and appends an event of its scope. -/
lemma revokeSession_effect (connectionId reason now eventNow : String) :
    CallEffect t (.revokeSession scope connectionId reason now eventNow)
      (committed t (revokeSession lower t scope connectionId reason now eventNow)) := by
  unfold revokeSession
  dsimp only
  by_cases habsent : (t.connectionAt connectionId scope).isNone = true
  · rw [if_pos habsent]
    exact .unchanged
  rw [if_neg habsent]
  by_cases hunsafe : (hasUnsafeText lower connectionId ||
      hasUnsafeText lower (safeRevokeReason lower reason)) = true
  · rw [if_pos hunsafe]
    exact .unchanged
  · rw [if_neg hunsafe]
    refine .revoke connectionId (fun row => { row with
      status := .revoked
      providerAccountHash := none
      observedProviderAccountSubject := none
      sessionStoreKeyId := none
      encryptedStateSha256 := none
      sessionUpdatedAt := none
      revokedAt := some now }) (fun _ => rfl) ?_ ⟨scope, connectionId, _, _, eventNow⟩ rfl
    exact fun _ hrevoked => absurd rfl hrevoked

/-- `create_run` inserts a run that may be created, or raises. -/
lemma createRun_effect (connectionId complianceGateRef runId now : String) :
    CallEffect t (.createRun scope connectionId complianceGateRef runId now)
      (committed t (createRun t scope connectionId complianceGateRef runId now)) := by
  unfold createRun
  cases hconnection : t.connectionAt connectionId scope with
  | none => exact .unchanged
  | some connection =>
    cases hheld : t.gateAt complianceGateRef scope with
    | none => exact .unchanged
    | some held =>
      dsimp only
      by_cases hgate : connection.complianceGateRef = complianceGateRef ∧
        connection.status = .connected
      · rw [if_neg (not_not_intro hgate)]
        by_cases hunbound : connection.providerAccountHash = none ∨
            connection.providerAccountHash ≠ held.gate.providerAccountHash
        · rw [if_pos hunbound]
          exact .unchanged
        rw [if_neg hunbound]
        by_cases hlive : held.gate.allowsLiveSearch connection.providerAccountHash "search" = true
        · rw [if_neg (not_not_intro hlive)]
          by_cases hused : t.runs.any (fun row => row.runId = runId) = true
          · rw [if_pos hused]
            exact .unchanged
          rw [if_neg hused]
          refine .run _ rfl ?_ ?_
          · intro stored hstored hsame
            exact hused (List.any_eq_true.mpr ⟨stored, hstored, decide_eq_true hsame⟩)
          · intro hopen
            push Not at hunbound
            obtain ⟨accountHash, hhash⟩ := Option.ne_none_iff_exists'.mp hunbound.1
            rw [hhash, ComplianceGate.allowsLiveSearch_iff] at hlive
            obtain ⟨hstatus, haccount, hpolicy⟩ := hlive
            have hrevoked : connection.revokedAt = none :=
              hopen connectionId scope connection hconnection (by rw [hgate.2]; decide)
            exact ⟨connection, held, accountHash, hconnection, hgate.1, hgate.2, hrevoked, hhash,
              hheld, ⟨hstatus, haccount⟩, hpolicy⟩
        · rw [if_pos hlive]
          exact .unchanged
      · rw [if_pos hgate]
        exact .unchanged

/-- What a call does. -/
theorem step_effect (call : LiepinCall) : CallEffect t call (t.step lower call) := by
  cases call with
  | createComplianceGate scope gate purpose gateRef now =>
    exact createComplianceGate_effect t scope gate purpose gateRef now
  | createConnection scope complianceGateRef connectionId uuid now =>
    exact createConnection_effect t scope complianceGateRef connectionId uuid now
  | recordConnectionAccountSubject scope connectionId subject =>
    exact recordConnectionAccountSubject_effect t scope connectionId subject
  | bindConnectionAccount scope gateRef connectionId secret =>
    exact bindConnectionAccount_effect lower t scope gateRef connectionId secret
  | approveConnectionAccountHash scope gateRef connectionId accountHash =>
    exact approveConnectionAccountHash_effect t scope gateRef connectionId accountHash
  | recordSessionMetadata scope connectionId accountHash sessionStoreKeyId encryptedStateSha256
      now =>
    exact recordSessionMetadata_effect t scope connectionId accountHash sessionStoreKeyId
      encryptedStateSha256 now
  | revokeSession scope connectionId reason now eventNow =>
    exact revokeSession_effect lower t scope connectionId reason now eventNow
  | createRun scope connectionId complianceGateRef runId now =>
    exact createRun_effect t scope connectionId complianceGateRef runId now

end Effect

/-! ## What a call keeps -/

/-- The rows of a scope. -/
def LiepinTables.under (t : LiepinTables) (scope : LiepinScope) : LiepinTables where
  gates := t.gates.filter (fun row => row.gate.scope = scope)
  connections := t.connections.filter (fun row => row.scope = scope)
  runs := t.runs.filter (fun row => row.scope = scope)
  events := t.events.filter (fun row => row.scope = scope)

/-- A connection of another scope is not updated. -/
lemma under_setConnection {other : LiepinScope}
    (hkey : ∀ row, (set row).key = row.key) (hother : other ≠ scope) :
    (t.setConnection connectionId scope set).under other = t.under other := by
  have hfilter : (updateRows ConnectionRow.key t.connections (connectionId, scope) set).filter
      (fun row => row.scope = other) = t.connections.filter (fun row => row.scope = other) := by
    apply filter_updateRows
    intro row hrow
    have hbefore : row.scope = scope := congrArg Prod.snd hrow
    have hafter : (set row).scope = scope := congrArg Prod.snd ((hkey row).trans hrow)
    simp [hbefore, hafter, hother.symm]
  unfold LiepinTables.under LiepinTables.setConnection
  rw [hfilter]

/-- A gate of another scope is not approved. -/
lemma under_approveGate {accountHash : String} {other : LiepinScope} (hother : other ≠ scope) :
    (t.approveGate gateRef scope accountHash).under other = t.under other := by
  have hfilter : (t.approveGate gateRef scope accountHash).gates.filter
      (fun row => row.gate.scope = other) = t.gates.filter (fun row => row.gate.scope = other) := by
    apply filter_updateRows
    intro row hrow
    have hscope : row.gate.scope = scope := congrArg Prod.snd hrow
    simp [hscope, hother.symm]
  unfold LiepinTables.under
  rw [hfilter]
  rfl

/-- A call changes no row of another scope. -/
theorem CallEffect.under (h : CallEffect t call after)
    (hscope : scope ≠ call.scope) : after.under scope = t.under scope := by
  cases h with
  | unchanged => rfl
  | gate row hrow => simp [LiepinTables.under, hrow, hscope.symm]
  | connection row hrow => simp [LiepinTables.under, hrow, hscope.symm]
  | session connectionId set hkey => exact under_setConnection hkey hscope
  | revoke connectionId set hkey _ event hevent =>
    have hset : (t.setConnection connectionId call.scope set).under scope = t.under scope :=
      under_setConnection hkey hscope
    unfold LiepinTables.under at hset ⊢
    simp only [LiepinTables.mk.injEq] at hset ⊢
    refine ⟨hset.1, hset.2.1, hset.2.2.1, ?_⟩
    simp [hevent, hscope.symm]
  | approve gateRef connectionId accountHash =>
    have happroved : (t.approveGate gateRef call.scope accountHash).under scope = t.under scope :=
      under_approveGate hscope
    have hconnected :
        ((t.approveGate gateRef call.scope accountHash).connect connectionId call.scope
          accountHash).under scope = (t.approveGate gateRef call.scope accountHash).under scope :=
      under_setConnection (fun _ => rfl) hscope
    exact hconnected.trans happroved
  | run row hrow => simp [LiepinTables.under, hrow, hscope.symm]

/-- What an update of a connection leaves to find. -/
lemma connectionAt_setConnection {other : String}
    {otherScope : LiepinScope} (hkey : ∀ row, (set row).key = row.key) :
    (t.setConnection connectionId scope set).connectionAt other otherScope =
      if (other, otherScope) = (connectionId, scope) then (t.connectionAt connectionId scope).map
        set
      else t.connectionAt other otherScope :=
  rowAt_updateRows hkey

/-- An update that leaves its connection live leaves all live. -/
lemma LiepinTables.Live.setConnection (h : t.Live) (hkey : ∀ row, (set row).key = row.key)
    (hset : ∀ row, t.connectionAt connectionId scope = some row → row.Live → (set row).Live) :
    (t.setConnection connectionId scope set).Live := by
  intro other otherScope row hrow
  rw [connectionAt_setConnection hkey] at hrow
  by_cases hsame : (other, otherScope) = (connectionId, scope)
  · rw [if_pos hsame] at hrow
    obtain ⟨stored, hstored, rfl⟩ := Option.map_eq_some_iff.mp hrow
    exact hset stored hstored (h connectionId scope stored hstored)
  · rw [if_neg hsame] at hrow
    exact h other otherScope row hrow

/-- A call keeps every connection live. -/
theorem CallEffect.live (h : CallEffect t call after) (hlive : t.Live) : after.Live := by
  cases h with
  | unchanged => exact hlive
  | gate row => exact hlive
  | connection row hscope hrow hnew =>
    intro connectionId scope stored hstored
    have hfresh : rowAt ConnectionRow.key t.connections row.key = none := by
      rw [rowAt_eq_none] at hnew ⊢
      exact fun other hother hkey => hnew other hother (congrArg Prod.fst hkey)
    rw [LiepinTables.connectionAt, rowAt_concat hfresh] at hstored
    by_cases hkey : row.key = (connectionId, scope)
    · rw [if_pos hkey] at hstored
      exact Option.some.inj hstored ▸ hrow
    · rw [if_neg hkey] at hstored
      exact hlive connectionId scope stored hstored
  | session connectionId set hkey hset => exact hlive.setConnection hkey hset
  | revoke connectionId set hkey hset => exact hlive.setConnection hkey (fun row _ _ => hset row)
  | approve gateRef connectionId accountHash held hheld hlapsed hrebinds connection hconnection
      hopen =>
    have hgates : (t.approveGate gateRef call.scope accountHash).Live := hlive
    refine hgates.setConnection (fun _ => rfl) ?_
    intro row hrow hrowLive _
    obtain rfl : connection = row := Option.some.inj (hconnection.symm.trans hrow)
    refine hrowLive ?_
    obtain hconnected | hready := hopen
    · rw [hconnected]
      decide
    · rw [hready]
      decide
  | run row => exact hlive

/-- Every connection of a history is live. -/
lemma live_run (lower : String → String) (calls : List LiepinCall) :
    (run (LiepinTables.step lower) .empty calls).Live :=
  run_invariant (I := LiepinTables.Live) (fun t call ht => (step_effect lower t call).live ht)
    (fun _ _ _ hrow => absurd hrow (by simp [LiepinTables.connectionAt, LiepinTables.empty])) calls

/-! ## The gates -/

/-- The gate of a reference. -/
def LiepinTables.gateOf (t : LiepinTables) (gateRef : String) : Option GateRow :=
  rowAt GateRow.gateRef t.gates gateRef

/-- What a call does to a gate: nothing, unless it approves it, and then the gate had not lapsed and
was bound to no other account, if the call does not rebind. -/
lemma CallEffect.gateOf (h : CallEffect t call after)
    {row : GateRow} (hrow : t.gateOf gateRef = some row) :
    ∃ new, after.gateOf gateRef = some new ∧ (row.Lapsed → new.Lapsed) ∧
      (¬ Rebinds t call → ∀ accountHash, row.ApprovedFor accountHash →
        new.ApprovedFor accountHash) := by
  have hkept : t.gateOf gateRef = some row ∧ (row.Lapsed → row.Lapsed) ∧
      (¬ Rebinds t call → ∀ accountHash, row.ApprovedFor accountHash →
        row.ApprovedFor accountHash) :=
    ⟨hrow, id, fun _ _ => id⟩
  cases h with
  | unchanged => exact ⟨row, hkept⟩
  | gate new hscope hnew =>
    refine ⟨row, ?_, hkept.2⟩
    rw [LiepinTables.gateOf, rowAt_concat hnew, if_neg, ← hrow]
    · rfl
    · intro hsame
      rw [LiepinTables.gateOf, ← hsame, hnew] at hrow
      cases hrow
  | connection => exact ⟨row, hkept⟩
  | session => exact ⟨row, hkept⟩
  | revoke => exact ⟨row, hkept⟩
  | run => exact ⟨row, hkept⟩
  | approve other connectionId accountHash held hheld hlapsed hrebinds =>
    let set : GateRow → GateRow := fun stored => { stored with
      gate := { stored.gate with providerAccountHash := some accountHash, status := .approved } }
    have hafter : ((t.approveGate other call.scope accountHash).connect connectionId call.scope
        accountHash).gateOf gateRef = (t.gateOf gateRef).map
          (fun stored => if stored.key = (other, call.scope) then set stored else stored) :=
      rowAt_updateRows_of_column fun _ => rfl
    rw [hafter, hrow]
    refine ⟨_, rfl, ?_⟩
    dsimp only
    by_cases hkey : row.key = (other, call.scope)
    · -- The row that is approved is the one the call has read.
      obtain rfl : row = held := by
        have hfound : rowAt GateRow.key t.gates row.key = some row :=
          rowAt_of_column (fun heq => congrArg Prod.fst heq) hrow
        rw [hkey] at hfound
        exact Option.some.inj (hfound.symm.trans hheld)
      rw [if_pos hkey]
      refine ⟨fun hrow => absurd hrow hlapsed, fun hfair bound hbound => ⟨rfl, ?_⟩⟩
      by_contra hne
      exact hfair (hrebinds bound hbound fun hsame => hne (congrArg some hsame.symm))
    · rw [if_neg hkey]
      exact hkept.2

/-- References of gates are unique. -/
def LiepinTables.UniqueRefs (t : LiepinTables) : Prop :=
  (t.gates.map GateRow.gateRef).Nodup

/-- A call keeps references unique. -/
lemma CallEffect.uniqueRefs
    (h : CallEffect t call after) (hunique : t.UniqueRefs) : after.UniqueRefs := by
  cases h with
  | gate row hscope hnew =>
    have hfresh : row.gateRef ∉ t.gates.map GateRow.gateRef := by
      intro hmem
      obtain ⟨stored, hstored, hsame⟩ := List.mem_map.mp hmem
      exact rowAt_eq_none.mp hnew stored hstored hsame
    have hconcat : (t.gates ++ [row]).map GateRow.gateRef =
        (t.gates.map GateRow.gateRef).concat row.gateRef := by simp
    rw [LiepinTables.UniqueRefs, hconcat]
    exact List.Nodup.concat hfresh hunique
  | approve gateRef connectionId accountHash =>
    have hsame : ((t.approveGate gateRef call.scope accountHash).connect connectionId call.scope
        accountHash).gates.map GateRow.gateRef = t.gates.map GateRow.gateRef :=
      map_updateRows fun _ => rfl
    rw [LiepinTables.UniqueRefs, hsame]
    exact hunique
  | _ => exact hunique

/-- The gate of a reference in a scope is the gate of the reference. -/
lemma gateOf_of_gateAt (hunique : t.UniqueRefs)
    {row : GateRow} (h : t.gateAt gateRef scope = some row) :
    t.gateOf gateRef = some row ∧ row.key = (gateRef, scope) := by
  obtain ⟨hmem, hkey⟩ := mem_of_rowAt h
  have hfound := rowAt_of_mem hunique hmem
  rw [show row.gateRef = gateRef from congrArg Prod.fst hkey] at hfound
  exact ⟨hfound, hkey⟩

/-- A call inserts at most one run, which may be created. -/
lemma CallEffect.runs (h : CallEffect t call after) (hlive : t.Live) : after.runs = t.runs ∨
      ∃ row, after.runs = t.runs ++ [row] ∧ row ∉ t.runs ∧ row.Allowed t := by
  cases h with
  | run row hscope hnew hallowed =>
    exact .inr ⟨row, rfl, fun hmem => hnew row hmem rfl, hallowed hlive⟩
  | _ => exact .inl rfl

/-! ## Histories -/

/-- The gate of the reference is approved for the account. -/
def LiepinTables.ApprovedFor (t : LiepinTables) (gateRef accountHash : String) : Prop :=
  ∃ row, t.gateOf gateRef = some row ∧ row.ApprovedFor accountHash

/-- The gate of the reference is denied or expired. -/
def LiepinTables.Lapsed (t : LiepinTables) (gateRef : String) : Prop :=
  ∃ row, t.gateOf gateRef = some row ∧ row.Lapsed

/-- The gate of the reference is approved. -/
def LiepinTables.Approved (t : LiepinTables) (gateRef : String) : Prop :=
  ∃ row, t.gateOf gateRef = some row ∧ row.gate.status = .approved

/-- The tables after the first calls of a history. -/
def tablesAfter (lower : String → String) (calls : List LiepinCall) : LiepinTables :=
  run (LiepinTables.step lower) .empty calls

/-- What is expected of a history of calls. -/
structure GatesStayBound (lower : String → String) (calls : List LiepinCall) : Prop where
  /-- A gate approved for an account is never approved for another. -/
  bound : ∀ earlier later gateRef accountHash other, earlier <+: later → later <+: calls →
    (tablesAfter lower earlier).ApprovedFor gateRef accountHash →
    (tablesAfter lower later).ApprovedFor gateRef other → other = accountHash
  /-- A denied or expired gate is never approved. -/
  lapsed : ∀ earlier later gateRef, earlier <+: later → later <+: calls →
    (tablesAfter lower earlier).Lapsed gateRef → ¬ (tablesAfter lower later).Approved gateRef
  /-- A call changes no row of another scope. -/
  isolated : ∀ before call scope, before ++ [call] <+: calls → scope ≠ call.scope →
    (tablesAfter lower (before ++ [call])).under scope = (tablesAfter lower before).under scope
  /-- Every run was created when it was allowed. -/
  allowed : ∀ row ∈ (tablesAfter lower calls).runs, ∃ before call, before ++ [call] <+: calls ∧
    row ∉ (tablesAfter lower before).runs ∧ row ∈ (tablesAfter lower (before ++ [call])).runs ∧
    row.Allowed (tablesAfter lower before)

section Histories

variable (lower : String → String) (calls : List LiepinCall)

/-- Every run of a history was created when it was allowed. -/
theorem runs_allowed : ∀ row ∈ (tablesAfter lower calls).runs, ∃ before call,
    before ++ [call] <+: calls ∧ row ∉ (tablesAfter lower before).runs ∧
      row ∈ (tablesAfter lower (before ++ [call])).runs ∧ row.Allowed
        (tablesAfter lower before) := by
  induction calls using List.reverseRecOn with
  | nil => exact fun row hrow => absurd hrow List.not_mem_nil
  | append_singleton calls call ih =>
    intro row hrow
    have hstep : tablesAfter lower (calls ++ [call]) = (tablesAfter lower calls).step lower call :=
      run_concat calls call
    obtain hsame | ⟨new, hnew, hfresh, hallowed⟩ :=
      (step_effect lower (tablesAfter lower calls) call).runs (live_run lower calls)
    · rw [hstep, hsame] at hrow
      obtain ⟨before, earlier, hbefore, hrest⟩ := ih row hrow
      exact ⟨before, earlier, hbefore.trans (List.prefix_append calls [call]), hrest⟩
    · by_cases hold : row ∈ (tablesAfter lower calls).runs
      · obtain ⟨before, earlier, hbefore, hrest⟩ := ih row hold
        exact ⟨before, earlier, hbefore.trans (List.prefix_append calls [call]), hrest⟩
      · have hmem := hrow
        rw [hstep, hnew] at hmem
        obtain rfl : row = new := by simpa [hold] using hmem
        exact ⟨calls, call, List.prefix_rfl, hold, hrow, hallowed⟩

/-- A gate that has lapsed stays so. -/
theorem lapsed_stays {earlier later : List LiepinCall} (hbegins : earlier <+: later)
    {gateRef : String}
    (h : (tablesAfter lower earlier).Lapsed gateRef) :
    (tablesAfter lower later).Lapsed gateRef := by
  obtain ⟨rest, rfl⟩ := hbegins
  unfold tablesAfter at h ⊢
  rw [run_append]
  refine run_invariant (I := fun t : LiepinTables => t.Lapsed gateRef) ?_ h rest
  rintro t call ⟨row, hrow, hlapsed⟩
  obtain ⟨new, hnew, hstays, -⟩ := (step_effect lower t call).gateOf hrow
  exact ⟨new, hnew, hstays hlapsed⟩

/-- A gate that is approved for an account stays so, as long as no call rebinds. -/
theorem bound_stays {earlier later calls : List LiepinCall}
    (hfair : Along (LiepinTables.step lower) (fun t call => ¬ Rebinds t call) .empty calls)
    (hbegins : earlier <+: later) (hlater : later <+: calls) {gateRef accountHash : String}
    (h : (tablesAfter lower earlier).ApprovedFor gateRef accountHash) :
    (tablesAfter lower later).ApprovedFor gateRef accountHash := by
  have hrelated := prefix_relates (I := fun _ : LiepinTables => True)
    (R := fun t t' => t.ApprovedFor gateRef accountHash → t'.ApprovedFor gateRef accountHash)
    (fun _ => id) (fun hfirst hsecond => hsecond ∘ hfirst) ?_ hfair trivial hbegins hlater
  · exact hrelated h
  · intro t call _ hcall
    refine ⟨trivial, ?_⟩
    rintro ⟨row, hrow, happroved⟩
    obtain ⟨new, hnew, -, hstays⟩ := (step_effect lower t call).gateOf hrow
    exact ⟨new, hnew, hstays hcall accountHash happroved⟩

/-- A call that rebinds a gate approves it for the second account. -/
lemma approvedFor_of_rebinds {t : LiepinTables} (hunique : t.UniqueRefs) {call : LiepinCall}
    (h : Rebinds t call) :
    ∃ gateRef accountHash other, t.ApprovedFor gateRef accountHash ∧
      (t.step lower call).ApprovedFor gateRef other ∧ other ≠ accountHash := by
  cases call with
  | approveConnectionAccountHash scope gateRef connectionId accountHash =>
    obtain ⟨hempty, hconnected, held, other, hheld, hother, hne⟩ := h
    obtain ⟨hgate, hkey⟩ := gateOf_of_gateAt hunique hheld
    refine ⟨gateRef, other, accountHash, ⟨held, hgate, hother⟩, ?_, hne.symm⟩
    have hlapsed : ¬ (held.gate.status = .denied ∨ held.gate.status = .expired) := by
      simp [hother.1]
    have hstep : t.step lower
      (.approveConnectionAccountHash scope gateRef connectionId accountHash) =
        (t.approveGate gateRef scope accountHash).connect connectionId scope accountHash := by
      rw [LiepinTables.step, approveConnectionAccountHash, if_neg hempty,
        if_neg (not_not_intro hconnected), hheld]
      dsimp only
      rw [if_neg hlapsed]
    have hafter : ((t.approveGate gateRef scope accountHash).connect connectionId scope
        accountHash).gateOf gateRef = (t.gateOf gateRef).map (fun stored =>
          if stored.key = (gateRef, scope) then { stored with gate := { stored.gate with
            providerAccountHash := some accountHash, status := .approved } } else stored) :=
      rowAt_updateRows_of_column fun _ => rfl
    rw [hgate, Option.map_some, if_pos hkey] at hafter
    rw [hstep]
    exact ⟨_, hafter, rfl, rfl⟩
  | _ => exact absurd h id

/-- A history keeps every gate bound to one account, and the rest of what is expected of it, exactly
when none of its calls approves a gate for a second account. -/
theorem gatesStayBound_iff : GatesStayBound lower calls ↔
    Along (LiepinTables.step lower) (fun t call => ¬ Rebinds t call) .empty calls := by
  constructor
  · intro h
    rw [along_iff_each_step]
    intro before call hbefore hrebinds
    have hempty : LiepinTables.empty.UniqueRefs := List.nodup_nil
    have hunique : (tablesAfter lower before).UniqueRefs :=
      run_invariant (fun t call ht => (step_effect lower t call).uniqueRefs ht) hempty before
    obtain ⟨gateRef, accountHash, other, hearlier, hlater, hne⟩ :=
      approvedFor_of_rebinds lower hunique hrebinds
    have hstep : tablesAfter lower (before ++ [call]) = (tablesAfter lower before).step lower
        call :=
      run_concat before call
    refine hne (h.bound before (before ++ [call]) gateRef accountHash other
      (List.prefix_append before [call]) hbefore hearlier ?_)
    rw [hstep]
    exact hlater
  · intro hfair
    refine ⟨?_, ?_, ?_, runs_allowed lower calls⟩
    · rintro earlier later gateRef accountHash other hbegins hlater hearlier ⟨row, hrow, hother⟩
      obtain ⟨stored, hstored, hbound⟩ := bound_stays lower hfair hbegins hlater hearlier
      obtain rfl : stored = row := Option.some.inj (hstored.symm.trans hrow)
      exact Option.some.inj (hother.2.symm.trans hbound.2)
    · rintro earlier later gateRef hbegins _ hearlier ⟨row, hrow, happroved⟩
      obtain ⟨stored, hstored, hlapsed⟩ := lapsed_stays lower hbegins hearlier
      obtain rfl : stored = row := Option.some.inj (hstored.symm.trans hrow)
      obtain hdenied | hexpired := hlapsed
      · rw [happroved] at hdenied
        cases hdenied
      · rw [happroved] at hexpired
        cases hexpired
    · intro before call scope _ hscope
      have hstep : tablesAfter lower (before ++ [call]) = (tablesAfter lower before).step lower
          call :=
        run_concat before call
      rw [hstep]
      exact (step_effect lower _ call).under hscope

end Histories

/-! ## A second account -/

/-- The scope of the history. -/
def localScope : LiepinScope := ⟨"tenant-a", "workspace-a", "actor-a"⟩

/-- The gate of the history. -/
def localGate : ComplianceGate where
  scope := localScope
  providerAccountHash := none
  status := .pendingAccountBinding
  candidatePersonalInfoProcessingBasis := "human initiated recruiting search"
  personalInformationProcessor := "SeekTalent local workbench"
  operatorAuditOwner := "actor-a"
  accountHolderAuthorized := true
  humanInitiatedRecruiting := true
  allowedPurposes := ["search"]
  retentionPolicy := .runDebugShort
  deletionSlaDays := 7
  deletionPath := "local workspace retention cleanup"
  rawPayloadAccessScope := .runOnly
  rawDetailRetentionAllowedAfterDebug := false
  fixtureExportAllowed := false
  policyRef := "workbench-v2-local-opencli-v1"

/-- A login under one account, as the runtime records it. -/
def loginCalls (accountHash : String) : List LiepinCall :=
  [.recordSessionMetadata localScope "conn-1" accountHash "key-1" "state" "now",
    .approveConnectionAccountHash localScope "gate-1" "conn-1" accountHash]

/-- A gate and a connection are created, and two accounts log in one after the other. -/
def secondLogin : List LiepinCall :=
  [.createComplianceGate localScope localGate "search" "gate-1" "now",
    .createConnection localScope "gate-1" (some "conn-1") "uuid" "now"] ++
    loginCalls "hmac-sha256:a" ++ loginCalls "hmac-sha256:b"

/-- The gate that was approved for the first account is approved for the second. -/
theorem secondLogin_rebinds : ¬ GatesStayBound (String.map Char.toLower) secondLogin := by
  intro h
  have hfirst : (tablesAfter (String.map Char.toLower) (secondLogin.take 4)).ApprovedFor "gate-1"
      "hmac-sha256:a" :=
    ⟨_, rfl, rfl, rfl⟩
  have hsecond : (tablesAfter (String.map Char.toLower) secondLogin).ApprovedFor "gate-1"
      "hmac-sha256:b" :=
    ⟨_, rfl, rfl, rfl⟩
  have hsame := h.bound (secondLogin.take 4) secondLogin "gate-1" "hmac-sha256:a" "hmac-sha256:b"
    (List.take_prefix 4 secondLogin) List.prefix_rfl hfirst hsecond
  exact absurd hsame (by decide)

end SeekTalent.LiepinStore
