import Mathlib.Data.List.Basic
import SeekTalent.Wtscli.LifecycleSupervisor

/-!
# Who holds a sidecar

A sidecar that was not handed to `_stop_process` is the process of the supervisor, or a watchdog is
about to hand it, or a call of `shutdown` is.  While at most one watchdog runs, and no start or
shutdown comes before an earlier shutdown has handed its process, at most one of them holds one
(`Sound`).
-/

namespace SeekTalent.Wtscli

/-- A watchdog between the two sections of a recovery, or behind a second one that failed: the
supervisor has no process then. -/
def WatchdogPoint.recovers : WatchdogPoint → Bool
  | .dropping _ => true
  | .respawning => true
  | .discarding _ => true
  | _ => false

/-- A watchdog behind the first section of a recovery: it has counted a restart that it has not
made. -/
def WatchdogPoint.owes : WatchdogPoint → Bool
  | .dropping _ => true
  | .respawning => true
  | _ => false

namespace SupervisorRun

/-- A sidecar was not handed to `_stop_process`. -/
def Unhanded (s : SupervisorRun) (k : Nat) : Prop :=
  ∃ c, s.sidecars[k]? = some c ∧ c.handed = false

/-- No watchdog runs. -/
def Unwatched (s : SupervisorRun) : Prop :=
  ∀ p ∈ s.watchdogs, p = .ended

/-- A call of `shutdown` has not yet handed its process. -/
def Leaving (s : SupervisorRun) : Prop :=
  ∃ call ∈ s.shutdowns, call.process ≠ none

/-- A start is going to reset the supervisor: it neither returns nor raises before that. -/
def StartsOver (s : SupervisorRun) (sight : StartSight) : Prop :=
  s.started = false ∧ s.allowStart = true ∧ (∃ runtime, sight.runtime = .ok runtime) ∧
    checkOwner sight = .ok ()

/-- The condition on a step: a start that resets the supervisor finds no watchdog of an earlier one,
and no process that an earlier shutdown has still to hand; no shutdown comes while another one has
still to hand its process; and a call of `status` behind the exhausted budget can read the status
file. -/
def Orderly (s : SupervisorRun) : SupervisorEvent → Prop
  | .start sight => s.StartsOver sight → s.Unwatched ∧ ¬ s.Leaving
  | .shutdown => ¬ s.Leaving
  | .status sight => s.exhausted = true → ∃ status, readStatus sight.file = .ok status
  | _ => True

/-- What holds in orderly runs. -/
structure Sound (s : SupervisorRun) : Prop where
  idle : s.started = false → s.process = none ∧ s.watchdogThread = none
  alone : ∀ (v w : Nat) (p q : WatchdogPoint), s.watchdogs[v]? = some p → s.watchdogs[w]? = some q →
    p ≠ .ended → q ≠ .ended → v = w
  recovering : ∀ p ∈ s.watchdogs, p.recovers = true → s.process = none
  leaving : ∀ call ∈ s.shutdowns, call.process ≠ none →
    s.started = false ∧ ∀ p ∈ s.watchdogs, p.held = none
  late : ∀ (i j : Nat) (c d : ShutdownCall), s.shutdowns[i]? = some c → s.shutdowns[j]? = some d →
    c.process ≠ none → i ≠ j → d.process = none ∧ d.starts < s.starts
  current : ∀ call ∈ s.shutdowns, call.starts ≤ s.starts ∧
    (call.starts = s.starts → s.started = false)
  returned : ∀ call ∈ s.shutdowns, call.returned = true → call.process = none
  kept : ∀ k, s.Unhanded k → s.process = some k ∨ (∃ p ∈ s.watchdogs, p.held = some k) ∨
    ∃ call ∈ s.shutdowns, call.process = some k
  counted : s.respawns ≤ s.sidecarRestartCount
  owed : ∀ p ∈ s.watchdogs, p.owes = true →
    s.respawns < s.sidecarRestartCount ∧ s.readonlyAttach = false
  budget : s.respawns ≤ wtscliSupervisorRestartBudget
  attention : s.exhausted = true → s.readonlyAttach = false ∧
    wtscliSupervisorRestartBudget < s.sidecarRestartCount ∧ s.watchdogFailureReason ≠ none

variable {s : SupervisorRun} {w : Nat} {p : WatchdogPoint}

/-! ## Turns of a watchdog -/

/-- When a watchdog that runs has moved, the others are at their ends. -/
lemma Sound.mem_moved (h : s.Sound) (hw : s.watchdogs[w]? = some p) (hp : p ≠ .ended)
    {q r : WatchdogPoint} (hr : r ∈ s.watchdogs.set w q) : r = .ended ∨ r = q := by
  obtain ⟨v, hv⟩ := List.getElem?_of_mem hr
  rw [List.getElem?_set] at hv
  by_cases hvw : w = v
  · rw [if_pos hvw] at hv
    split at hv
    · exact .inr (Option.some.inj hv).symm
    · cases hv
  · rw [if_neg hvw] at hv
    by_contra hne
    exact hvw (h.alone w v p r hw hv hp fun hended => hne (.inl hended))

/-- A watchdog that has moved is at its new place. -/
lemma mem_set_self (hw : s.watchdogs[w]? = some p) (q : WatchdogPoint) :
    q ∈ s.watchdogs.set w q := by
  obtain ⟨hlt, -⟩ := List.getElem?_eq_some_iff.mp hw
  exact List.mem_iff_getElem?.mpr ⟨w, by rw [List.getElem?_set_self hlt]⟩

/-- After a watchdog has moved it is still the only one that runs. -/
lemma Sound.alone_moved (h : s.Sound) (hw : s.watchdogs[w]? = some p) (hp : p ≠ .ended)
    (q : WatchdogPoint) : ∀ (v u : Nat) (p' q' : WatchdogPoint),
      (s.watchdogs.set w q)[v]? = some p' →
      (s.watchdogs.set w q)[u]? = some q' → p' ≠ .ended → q' ≠ .ended → v = u := by
  have hself : ∀ (v : Nat) (p' : WatchdogPoint), (s.watchdogs.set w q)[v]? = some p' → p' ≠ .ended →
      w = v := by
    intro v p' hv hrunning
    by_contra hne
    rw [List.getElem?_set_ne hne] at hv
    exact hne (h.alone w v p p' hw hv hp hrunning)
  intro v u p' q' hv hu hp' hq'
  rw [← hself v p' hv hp', ← hself u q' hu hq']

/-- A watchdog goes on: what it held it has handed, and what it holds now is none. -/
lemma Sound.turn (h : s.Sound) (hw : s.watchdogs[w]? = some p) (hp : p ≠ .ended) {q : WatchdogPoint}
    {sidecars : List SpawnedSidecar}
    (hhanded : ∀ k, (∃ c, sidecars[k]? = some c ∧ c.handed = false) → s.Unhanded k ∧
      p.held ≠ some k)
    (hheld : q.held = none) (hrecovers : q.recovers = true → s.process = none)
    (howes : q.owes = true → s.respawns < s.sidecarRestartCount ∧ s.readonlyAttach = false) :
    ({ s with sidecars := sidecars, watchdogs := s.watchdogs.set w q } : SupervisorRun).Sound := by
  have hmoved : ∀ r ∈ s.watchdogs.set w q, r = .ended ∨ r = q := fun r hr => h.mem_moved hw hp hr
  refine ⟨h.idle, h.alone_moved hw hp q, fun r hr hrec => ?_, fun call hcall hprocess => ?_, h.late,
    h.current, h.returned, fun k hk => ?_, h.counted, fun r hr howe => ?_, h.budget, h.attention⟩
  · obtain rfl | rfl := hmoved r hr
    · cases hrec
    · exact hrecovers hrec
  · refine ⟨(h.leaving call hcall hprocess).1, fun r hr => ?_⟩
    obtain rfl | rfl := hmoved r hr
    · rfl
    · exact hheld
  · obtain ⟨hunhanded, hother⟩ := hhanded k hk
    obtain hprocess | ⟨r, hr, hrk⟩ | hcall := h.kept k hunhanded
    · exact .inl hprocess
    · -- The only watchdog that holds anything is the one that has moved.
      obtain ⟨v, hv⟩ := List.getElem?_of_mem hr
      have hrunning : r ≠ .ended := by
        rintro rfl
        cases hrk
      obtain rfl := h.alone w v p r hw hv hp hrunning
      rw [hw] at hv
      obtain rfl := Option.some.inj hv
      exact absurd hrk hother
    · exact .inr (.inr hcall)
  · obtain rfl | rfl := hmoved r hr
    · cases howe
    · exact howes howe

/-- A watchdog that holds nothing goes to a place outside a recovery. -/
lemma Sound.moveWatchdog (h : s.Sound) (hw : s.watchdogs[w]? = some p) (hp : p ≠ .ended)
    (hnone : p.held = none) {q : WatchdogPoint} (hrecovers : q.recovers = false) :
    (s.moveWatchdog w q).Sound := by
  have hheld : q.held = none ∧ q.owes = false := by
    cases q <;> first | exact ⟨rfl, rfl⟩ | cases hrecovers
  refine h.turn hw hp (fun k hk => ⟨hk, ?_⟩) hheld.1 (fun hrec => ?_) (fun howe => ?_)
  · rw [hnone]
    exact fun hk => (nomatch hk)
  · rw [hrecovers] at hrec
    cases hrec
  · rw [hheld.2] at howe
    cases howe

/-- What is handed is handed; nothing else changes. -/
lemma unhanded_stopProcess {j k : Nat} (hj : (s.stopProcess k).Unhanded j) :
    s.Unhanded j ∧ j ≠ k := by
  obtain ⟨c', hc', hfree⟩ := hj
  change (s.sidecars.modify k _)[j]? = some c' at hc'
  rw [List.getElem?_modify] at hc'
  obtain ⟨c, hc, hchanged⟩ := Option.map_eq_some_iff.mp hc'
  by_cases hkj : k = j
  · rw [if_pos hkj] at hchanged
    subst hchanged
    cases hfree
  · rw [if_neg hkj] at hchanged
    exact ⟨⟨c, hc, by rw [← hfree, ← hchanged]⟩, fun hjk => hkj hjk.symm⟩

/-- A watchdog hands the process that it holds. -/
lemma Sound.release (h : s.Sound) (hw : s.watchdogs[w]? = some p) {k : Nat}
    (hheld : p.held = some k)
    {q : WatchdogPoint} (hnone : q.held = none) (howes : q.owes = true → p.owes = true) :
    ((s.stopProcess k).moveWatchdog w q).Sound := by
  have hp : p ≠ .ended := by
    rintro rfl
    cases hheld
  have hmem : p ∈ s.watchdogs := List.mem_of_getElem? hw
  have hrecovers : p.recovers = true := by
    cases p <;> first | rfl | cases hheld
  refine h.turn hw hp (fun j hj => ?_) hnone (fun _ => h.recovering p hmem hrecovers)
    (fun howe => h.owed p hmem (howes howe))
  obtain ⟨hunhanded, hne⟩ := unhanded_stopProcess hj
  refine ⟨hunhanded, fun hj' => hne ?_⟩
  rw [hheld] at hj'
  exact (Option.some.inj hj').symm

/-- A failure of the watchdog is kept. -/
lemma Sound.setReason (h : s.Sound) (reasonCode : String) :
    ({ s with watchdogFailureReason := some reasonCode } : SupervisorRun).Sound :=
  ⟨h.idle, h.alone, h.recovering, h.leaving, h.late, h.current, h.returned, h.kept, h.counted,
    h.owed, h.budget, fun hexhausted =>
    ⟨(h.attention hexhausted).1, (h.attention hexhausted).2.1, by simp⟩⟩

/-- A section of a recovery finds the budget exhausted. -/
lemma Sound.exhaust (h : s.Sound) (hw : s.watchdogs[w]? = some p) (hp : p ≠ .ended)
    (hnone : p.held = none) (hreadonly : s.readonlyAttach = false)
    (hover : wtscliSupervisorRestartBudget < s.sidecarRestartCount) : (s.exhaust w).Sound := by
  have hmoved : (s.moveWatchdog w .waiting).Sound := h.moveWatchdog hw hp hnone rfl
  exact ⟨hmoved.idle, hmoved.alone, hmoved.recovering, hmoved.leaving, hmoved.late, hmoved.current,
    hmoved.returned, hmoved.kept, hmoved.counted, hmoved.owed, hmoved.budget,
    fun _ => ⟨hreadonly, hover, by simp [SupervisorRun.exhaust]⟩⟩

/-- The first section of a recovery takes the process from the supervisor. -/
lemma Sound.dropSidecar (h : s.Sound) {reasonCode : String}
    (hw : s.watchdogs[w]? = some (.recovering reasonCode)) :
    (s.dropSidecar w reasonCode).Sound := by
  have hp : (WatchdogPoint.recovering reasonCode) ≠ .ended := by simp
  unfold SupervisorRun.dropSidecar
  split
  · exact h.moveWatchdog hw hp rfl rfl
  · rename_i hruns
    obtain ⟨hstarted, hreadonly⟩ : s.started = true ∧
      s.readonlyAttach = false := by simpa using hruns
    split
    · rename_i hover
      exact h.exhaust hw hp rfl hreadonly hover
    · rename_i hunder
      have hmoved : ∀ r ∈ s.watchdogs.set w (dropped s.process), r = .ended ∨
          r = dropped s.process :=
        fun r hr => h.mem_moved hw hp hr
      have hcounted := h.counted
      refine ⟨fun hidle => ?_, h.alone_moved hw hp _, fun _ _ _ =>
        rfl, fun call hcall hprocess => ?_, h.late, h.current, h.returned, fun k hk => ?_,
          Nat.le_succ_of_le hcounted, fun r hr howe => ?_,
        h.budget, fun hexhausted => absurd (h.attention hexhausted).2.1 hunder⟩
      · change s.started = false at hidle
        rw [hstarted] at hidle
        cases hidle
      · have hidle := (h.leaving call hcall hprocess).1
        rw [hstarted] at hidle
        cases hidle
      · obtain hprocess | ⟨r, hr, hrk⟩ | hcall := h.kept k hk
        · refine .inr (.inl ⟨_, mem_set_self hw _, ?_⟩)
          rw [hprocess]
          rfl
        · obtain ⟨v, hv⟩ := List.getElem?_of_mem hr
          have hrunning : r ≠ .ended := by
            rintro rfl
            cases hrk
          obtain rfl := h.alone w v _ r hw hv hp hrunning
          rw [hw] at hv
          obtain rfl := Option.some.inj hv
          cases hrk
        · exact .inr (.inr hcall)
      · exact ⟨Nat.lt_succ_of_le hcounted, hreadonly⟩

/-! ## Spawns -/

/-- A sidecar that was just spawned is not handed. -/
lemma unhanded_spawned {c : SpawnedSidecar} {k : Nat}
    (hk : ∃ d, (s.sidecars ++ [c])[k]? = some d ∧ d.handed = false) :
    s.Unhanded k ∨ k = s.sidecars.length := by
  obtain ⟨d, hd, hfree⟩ := hk
  by_cases hlt : k < s.sidecars.length
  · rw [List.getElem?_append_left hlt] at hd
    exact .inl ⟨d, hd, hfree⟩
  · obtain ⟨hbound, -⟩ := List.getElem?_eq_some_iff.mp hd
    rw [List.length_append, List.length_singleton] at hbound
    exact .inr (by omega)

/-- Who holds a sidecar that a watchdog has spawned: the supervisor, while the watchdog goes on or
ends, or the watchdog itself. -/
inductive TakesOver (k : Nat) : WatchdogPoint → Option Nat → Prop
  | goesOn : TakesOver k .waiting (some k)
  | ends : TakesOver k .ended (some k)
  | discards : TakesOver k (.discarding k) none

/-- The second section of a recovery spawns a sidecar. -/
lemma Sound.respawned (h : s.Sound) (hw : s.watchdogs[w]? = some .respawning)
    (hstarted : s.started = true)
    (hunder : s.sidecarRestartCount ≤ wtscliSupervisorRestartBudget) {q : WatchdogPoint}
    {process : Option Nat} (hheir : TakesOver s.sidecars.length q process) (c : SpawnedSidecar)
    (now : Nat) (reason : Option String) :
    ({ s with
        process := process
        sidecars := s.sidecars ++ [c]
        startedAt := now
        respawns := s.respawns + 1
        watchdogs := s.watchdogs.set w q
        watchdogFailureReason := reason } : SupervisorRun).Sound := by
  have hp : WatchdogPoint.respawning ≠ .ended := by simp
  have hmem : WatchdogPoint.respawning ∈ s.watchdogs := List.mem_of_getElem? hw
  have hmoved : ∀ r ∈ s.watchdogs.set w q, r = .ended ∨ r = q := fun r hr => h.mem_moved hw hp hr
  have hpending := (h.owed _ hmem rfl).1
  have hfree : s.process = none := h.recovering _ hmem rfl
  refine ⟨fun hidle => ?_,
    h.alone_moved hw hp q, fun r hr hrec => ?_, fun call hcall hprocess => ?_, h.late, h.current,
    h.returned, fun k hk => ?_, hpending, fun r hr howe => ?_, Nat.le_trans hpending
    hunder, fun hexhausted => ?_⟩
  · change s.started = false at hidle
    rw [hstarted] at hidle
    cases hidle
  · obtain rfl | rfl := hmoved r hr
    · cases hrec
    · cases hheir with
      | goesOn => cases hrec
      | ends => cases hrec
      | discards => rfl
  · have hidle := (h.leaving call hcall hprocess).1
    rw [hstarted] at hidle
    cases hidle
  · obtain hunhanded | rfl := unhanded_spawned hk
    · obtain hprocess | ⟨r, hr, hrk⟩ | hcall := h.kept k hunhanded
      · rw [hfree] at hprocess
        cases hprocess
      · obtain ⟨v, hv⟩ := List.getElem?_of_mem hr
        have hrunning : r ≠ .ended := by
          rintro rfl
          cases hrk
        obtain rfl := h.alone w v _ r hw hv hp hrunning
        rw [hw] at hv
        obtain rfl := Option.some.inj hv
        cases hrk
      · exact .inr (.inr hcall)
    · cases hheir with
      | goesOn => exact .inl rfl
      | ends => exact .inl rfl
      | discards => exact .inr (.inl ⟨_, mem_set_self hw _, rfl⟩)
  · obtain rfl | rfl := hmoved r hr
    · cases howe
    · cases hheir <;> cases howe
  · exact absurd (h.attention hexhausted).2.1 (Nat.not_lt.mpr hunder)

/-- The second section of a recovery fails before it has a process. -/
lemma Sound.failedRespawn (h : s.Sound) (hw : s.watchdogs[w]? = some .respawning)
    (e : SupervisorError) : (s.failedRespawn w e).Sound := by
  have hp : WatchdogPoint.respawning ≠ .ended := by simp
  have hnone : s.process = none := h.recovering _ (List.mem_of_getElem? hw) rfl
  have hnamed : ∀ reasonCode, ({ s.moveWatchdog w (discarded s.process) with
      process := none
      watchdogFailureReason := some reasonCode } : SupervisorRun).Sound := by
    intro reasonCode
    rw [hnone]
    have hmoved := (h.moveWatchdog hw hp rfl (q := .waiting) rfl).setReason reasonCode
    rwa [show ({ s.moveWatchdog w .waiting with watchdogFailureReason := some reasonCode } :
      SupervisorRun) = { s.moveWatchdog w .waiting with
        process := none, watchdogFailureReason := some reasonCode } by rw [← hnone]; rfl] at hmoved
  cases e with
  | other => exact h.moveWatchdog hw hp rfl rfl
  | _ => exact hnamed _

/-- The second section of a recovery. -/
lemma Sound.respawn (h : s.Sound) (hw : s.watchdogs[w]? = some .respawning)
    (sight : WatchdogSight) : (s.respawn w sight).Sound := by
  have hp : WatchdogPoint.respawning ≠ .ended := by simp
  unfold SupervisorRun.respawn
  split
  · exact h.moveWatchdog hw hp rfl rfl
  · rename_i hruns
    obtain ⟨hstarted, -⟩ : s.started = true ∧ s.watchdogStop = false := by simpa using hruns
    split
    · rename_i hover
      exact h.exhaust hw hp rfl (h.owed _ (List.mem_of_getElem? hw) rfl).2 hover
    · rename_i hunder
      have hle : s.sidecarRestartCount ≤ wtscliSupervisorRestartBudget := Nat.not_lt.mp hunder
      split
      · exact h.failedRespawn hw _
      · split
        · exact h.failedRespawn hw _
        · exact h.failedRespawn hw _
        · unfold SupervisorRun.awaitRespawned
          dsimp only
          split
          · rename_i e _
            cases e with
            | other => exact h.respawned hw hstarted hle .ends _ sight.now s.watchdogFailureReason
            | _ => exact h.respawned hw hstarted hle .discards _ sight.now _
          · exact h.respawned hw hstarted hle .goesOn _ sight.now none

/-- A turn of a watchdog. -/
lemma Sound.watchdogTurn (h : s.Sound) (w : Nat) (sight : WatchdogSight) :
    (s.watchdogTurn w sight).Sound := by
  unfold SupervisorRun.watchdogTurn
  split
  · exact h
  · exact h
  · rename_i hw
    refine h.moveWatchdog hw (by simp) rfl ?_
    split <;> rfl
  · rename_i hw
    refine h.moveWatchdog hw (by simp) rfl ?_
    split <;> rfl
  · rename_i process hw
    refine h.moveWatchdog hw (by simp) rfl ?_
    unfold look
    split
    · rfl
    · split
      · rfl
      · split
        · rfl
        · split
          · split <;> rfl
          · split <;> rfl
  · rename_i hw
    exact h.dropSidecar hw
  · rename_i hw
    exact h.release hw rfl rfl (fun _ => rfl)
  · rename_i hw
    exact h.respawn hw sight
  · rename_i hw
    exact h.release hw rfl rfl (fun howe => (nomatch howe))

end SupervisorRun

end SeekTalent.Wtscli
