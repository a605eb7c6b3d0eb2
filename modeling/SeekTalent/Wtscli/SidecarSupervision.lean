import SeekTalent.Wtscli.SidecarCustody

/-!
# The supervisor and its sidecars

In a run in which every start comes after the watchdogs of the earlier ones, and every start and
every shutdown after the earlier shutdowns have handed their processes, at most one sidecar is left
to itself, restarts are within the budget, a shutdown leaves nothing behind, and an exhausted budget
shows (`supervises_of_orderly`).  A watchdog that outlives the join of a shutdown breaks this
(`outlivedJoin_orphans`).
-/

namespace SeekTalent.Wtscli

open Foundation

namespace SupervisorRun

variable {s : SupervisorRun}

/-! ## `start` -/

/-- Nothing is under way: no watchdog runs, no shutdown has a process to hand, and every shutdown
comes before the last start. -/
structure Quiet (s : SupervisorRun) : Prop where
  sound : s.Sound
  unwatched : s.Unwatched
  staying : ∀ call ∈ s.shutdowns, call.process = none
  earlier : ∀ call ∈ s.shutdowns, call.starts < s.starts
  zero : s.respawns = 0
  fresh : s.exhausted = false
  idle : s.process = none

/-- The supervisor is reset when nothing is under way. -/
lemma Sound.beginStart (h : s.Sound) (hunwatched : s.Unwatched) (hstaying : ¬ s.Leaving)
    (hstarted : s.started = false) : s.beginStart.Quiet := by
  have hnone : ∀ call ∈ s.shutdowns, call.process = none := by
    intro call hcall
    by_contra hprocess
    exact hstaying ⟨call, hcall, hprocess⟩
  have hearlier : ∀ call ∈ s.shutdowns, call.starts < s.starts + 1 := fun call hcall =>
    Nat.lt_succ_of_le (h.current call hcall).1
  refine ⟨⟨h.idle, h.alone, h.recovering, h.leaving, fun i j c d hc hd hprocess hij => ?_,
    fun call hcall =>
    ⟨Nat.le_of_lt (hearlier call hcall), fun heq => ?_⟩, h.returned, h.kept,
      Nat.le_refl _, fun p hp howe => ?_, Nat.zero_le _, fun hexhausted => (nomatch hexhausted)⟩,
      hunwatched, hnone, hearlier,
    rfl, rfl, (h.idle hstarted).1⟩
  · exact absurd (hnone c (List.mem_of_getElem? hc)) hprocess
  · exact hstarted
  · rw [hunwatched p hp] at howe
    cases howe

/-- A sidecar is spawned when nothing is under way. -/
lemma Quiet.spawnSidecar (h : s.Quiet) (pid : Int) (exited : Bool) (now : Nat) :
    ({ s.spawnSidecar pid exited with started := true, startedAt :=
      now } : SupervisorRun).Sound := by
  refine ⟨fun hstarted => (nomatch hstarted), h.sound.alone, fun p hp hrec => ?_,
    fun call hcall hprocess => absurd (h.staying call hcall) hprocess, h.sound.late,
    fun call hcall =>
    ⟨(h.sound.current call hcall).1, fun heq => ?_⟩, h.sound.returned, fun k hk => ?_,
      h.sound.counted, h.sound.owed, h.sound.budget, h.sound.attention⟩
  · rw [h.unwatched p hp] at hrec
    cases hrec
  · exact absurd heq (Nat.ne_of_lt (h.earlier call hcall))
  · obtain hunhanded | rfl := unhanded_spawned hk
    · obtain hprocess | hother := h.sound.kept k hunhanded
      · rw [h.idle] at hprocess
        cases hprocess
      · exact .inr hother
    · exact .inl rfl

/-- A failed start hands the process of the supervisor. -/
lemma Sound.resetFailedStart (h : s.Sound) (hthread : s.watchdogThread = none) :
    s.resetFailedStart.Sound := by
  have hreset : ∀ sidecars : List SpawnedSidecar,
      (∀ k, (∃ c, sidecars[k]? = some c ∧ c.handed = false) → s.Unhanded k ∧ s.process ≠ some k) →
      ({ s with process := none, started := false, sidecars :=
        sidecars } : SupervisorRun).Sound := by
    intro sidecars hhanded
    refine ⟨fun _ => ⟨rfl, hthread⟩, h.alone, fun _ _ _ => rfl,
      fun call hcall hprocess => ⟨rfl, (h.leaving call hcall hprocess).2⟩, h.late,
      fun call hcall =>
      ⟨(h.current call hcall).1, fun _ => rfl⟩, h.returned, fun k hk => ?_, h.counted, h.owed,
        h.budget, h.attention⟩
    obtain ⟨hunhanded, hother⟩ := hhanded k hk
    exact .inr ((h.kept k hunhanded).resolve_left hother)
  unfold SupervisorRun.resetFailedStart
  cases hprocess : s.process with
  | none =>
    refine hreset s.sidecars fun k hk => ⟨hk, ?_⟩
    rw [hprocess]
    exact fun hk => (nomatch hk)
  | some k =>
    refine hreset _ fun j hj => ?_
    obtain ⟨hunhanded, hne⟩ := unhanded_stopProcess (s := s) hj
    refine ⟨hunhanded, fun heq => hne ?_⟩
    rw [hprocess] at heq
    exact (Option.some.inj heq).symm

/-- The handlers of a start. -/
lemma Sound.failedStart (h : s.Sound) (hthread : s.watchdogThread = none) (e : SupervisorError) :
    (s.failedStart e).Sound := by
  cases e with
  | other => exact h
  | _ => exact h.resetFailedStart hthread

/-- A watchdog is started when none runs. -/
lemma Sound.startWatchdog (h : s.Sound) (hunwatched : s.Unwatched) (hstarted : s.started = true) :
    s.startWatchdog.Sound := by
  unfold SupervisorRun.startWatchdog
  split
  · exact h
  · have hmem : ∀ p ∈ s.watchdogs ++ [.waiting], p = .ended ∨ p = .waiting := by
      intro p hp
      obtain hold | hnew := List.mem_append.mp hp
      · exact .inl (hunwatched p hold)
      · exact .inr (List.mem_singleton.mp hnew)
    have hlast : ∀ (v : Nat) (p : WatchdogPoint), (s.watchdogs ++ [.waiting])[v]? = some p →
        p ≠ .ended → v = s.watchdogs.length := by
      intro v p hv hp
      by_cases hlt : v < s.watchdogs.length
      · rw [List.getElem?_append_left hlt] at hv
        exact absurd (hunwatched p (List.mem_of_getElem? hv)) hp
      · obtain ⟨hbound, -⟩ := List.getElem?_eq_some_iff.mp hv
        rw [List.length_append, List.length_singleton] at hbound
        omega
    refine ⟨fun hidle => ?_, fun v w p q hv hw hp hq =>
      (hlast v p hv hp).trans
        (hlast w q hw hq).symm, fun p hp hrec => ?_, fun call hcall hprocess =>
        ⟨(h.leaving call hcall hprocess).1, fun p hp => ?_⟩,
      h.late, h.current, h.returned, fun k hk => ?_, h.counted, fun p hp howe => ?_, h.budget,
      h.attention⟩
    · change s.started = false at hidle
      rw [hstarted] at hidle
      cases hidle
    · obtain rfl | rfl := hmem p hp <;> cases hrec
    · obtain rfl | rfl := hmem p hp <;> rfl
    · obtain hprocess | ⟨p, hp, hpk⟩ | hcall := h.kept k hk
      · exact .inl hprocess
      · exact .inr (.inl ⟨p, List.mem_append_left _ hp, hpk⟩)
      · exact .inr (.inr hcall)
    · obtain rfl | rfl := hmem p hp <;> cases howe

/-- A start behind the check of the owner. -/
lemma Sound.startOver (h : s.Sound) (hunwatched : s.Unwatched) (hstaying : ¬ s.Leaving)
    (hstarted : s.started = false) (sight : StartSight) : (s.startOver sight).Sound := by
  have hquiet := h.beginStart hunwatched hstaying hstarted
  have hthread : s.watchdogThread = none := (h.idle hstarted).2
  unfold SupervisorRun.startOver
  split
  · exact hquiet.sound.failedStart hthread _
  · exact hquiet.sound.failedStart hthread _
  · rename_i pid _
    have hspawned := hquiet.spawnSidecar pid (sight.polls.any OwnerPoll.exited) sight.now
    unfold awaitStarted
    dsimp only
    split
    · exact hspawned.failedStart hthread _
    · exact hspawned.startWatchdog hunwatched rfl

/-- The runtime of the supervisor plays no part. -/
lemma Sound.setRuntime (h : s.Sound) (runtime : String) :
    ({ s with runtime := some runtime } : SupervisorRun).Sound :=
  ⟨h.idle, h.alone, h.recovering, h.leaving, h.late, h.current, h.returned, h.kept, h.counted,
    h.owed, h.budget, h.attention⟩

/-- A call of `start`. -/
lemma Sound.start (h : s.Sound) {sight : StartSight}
    (horderly : s.StartsOver sight → s.Unwatched ∧ ¬ s.Leaving) : (s.start sight).Sound := by
  unfold SupervisorRun.start
  split
  · exact h
  · rename_i hstarted
    have hidle : s.started = false := by simpa using hstarted
    have hthread := (h.idle hidle).2
    split
    · exact h
    · rename_i hallowed
      have hallow : s.allowStart = true := by simpa using hallowed
      split
      · exact h.failedStart hthread _
      · rename_i runtime hruntime
        split
        · exact (h.setRuntime runtime).failedStart hthread _
        · rename_i hchecked
          obtain ⟨hunwatched, hstaying⟩ := horderly ⟨hidle, hallow, ⟨runtime, hruntime⟩, hchecked⟩
          exact (h.setRuntime runtime).startOver hunwatched hstaying hidle sight

/-! ## `shutdown` -/

/-- The section of `shutdown`, when no other call has a process to hand. -/
lemma Sound.shutdown (h : s.Sound) (hstaying : ¬ s.Leaving) : s.shutdown.Sound := by
  have hnone : ∀ call ∈ s.shutdowns, call.process = none := by
    intro call hcall
    by_contra hprocess
    exact hstaying ⟨call, hcall, hprocess⟩
  -- A call at a place of the longer list is an old one, which has nothing to hand, or the new one.
  have hplace : ∀ (new call : ShutdownCall) (i : Nat), (s.shutdowns ++ [new])[i]? = some call →
      (call ∈ s.shutdowns ∧ i < s.shutdowns.length) ∨ (call = new ∧ i = s.shutdowns.length) := by
    intro new call i hi
    by_cases hlt : i < s.shutdowns.length
    · rw [List.getElem?_append_left hlt] at hi
      exact .inl ⟨List.mem_of_getElem? hi, hlt⟩
    · rw [List.getElem?_append_right (Nat.not_lt.mp hlt)] at hi
      obtain ⟨hbound, hget⟩ := List.getElem?_eq_some_iff.mp hi
      rw [List.length_singleton] at hbound
      rw [List.getElem_singleton] at hget
      exact .inr ⟨hget.symm, by omega⟩
  have hmem : ∀ new call : ShutdownCall, call ∈ s.shutdowns ++ [new] → call ∈ s.shutdowns ∨
      call = new := by
    intro new call hcall
    obtain hold | hnew := List.mem_append.mp hcall
    · exact .inl hold
    · exact .inr (List.mem_singleton.mp hnew)
  unfold SupervisorRun.shutdown
  split
  · rename_i hdone
    obtain ⟨hstarted, hfree⟩ : s.started = false ∧ s.process = none := by simpa using hdone
    refine ⟨h.idle, h.alone, h.recovering, fun call hcall hprocess => ?_,
      fun i j c d hc hd hprocess _ => ?_, fun call hcall => ?_, fun call hcall hreturned => ?_,
      fun k hk => ?_, h.counted, h.owed, h.budget, h.attention⟩
    · obtain hold | rfl := hmem _ call hcall
      · exact absurd (hnone call hold) hprocess
      · exact absurd rfl hprocess
    · obtain ⟨hold, -⟩ | ⟨rfl, -⟩ := hplace _ c i hc
      · exact absurd (hnone c hold) hprocess
      · exact absurd rfl hprocess
    · obtain hold | rfl := hmem _ call hcall
      · exact h.current call hold
      · exact ⟨Nat.le_refl _, fun _ => hstarted⟩
    · obtain hold | rfl := hmem _ call hcall
      · exact hnone call hold
      · rfl
    · obtain hprocess | hwatchdog | ⟨call, hcall, hcallk⟩ := h.kept k hk
      · exact .inl hprocess
      · exact .inr (.inl hwatchdog)
      · exact .inr (.inr ⟨call, List.mem_append_left _ hcall, hcallk⟩)
  · rename_i hbusy
    -- Before the section the supervisor had started or had a process: no shutdown was current.
    have hstarted : s.started = true := by
      by_contra hidle
      have hidle' : s.started = false := by simpa using hidle
      exact hbusy (by simp [hidle', (h.idle hidle').1])
    have hearlier : ∀ call ∈ s.shutdowns, call.starts < s.starts := by
      intro call hcall
      obtain ⟨hle, hcurrent⟩ := h.current call hcall
      refine Nat.lt_of_le_of_ne hle fun heq => ?_
      rw [hcurrent heq] at hstarted
      cases hstarted
    have hheld : s.process ≠ none → ∀ p ∈ s.watchdogs, p.held = none := by
      intro hprocess p hp
      by_contra hholds
      refine hprocess (h.recovering p hp ?_)
      cases p <;> first | rfl | exact absurd rfl hholds
    refine ⟨fun _ => ⟨rfl, rfl⟩, h.alone, fun _ _ _ => rfl, fun call hcall hprocess => ⟨rfl, ?_⟩,
      fun i j c d hc hd hprocess hij => ?_, fun call hcall => ?_, fun call hcall hreturned => ?_,
      fun k hk => ?_, h.counted, h.owed, h.budget, h.attention⟩
    · obtain hold | rfl := hmem _ call hcall
      · exact absurd (hnone call hold) hprocess
      · exact hheld hprocess
    · obtain ⟨hold, -⟩ | ⟨-, hi⟩ := hplace _ c i hc
      · exact absurd (hnone c hold) hprocess
      · obtain ⟨hold, -⟩ | ⟨-, hj⟩ := hplace _ d j hd
        · exact ⟨hnone d hold, hearlier d hold⟩
        · exact absurd (hi.trans hj.symm) hij
    · obtain hold | rfl := hmem _ call hcall
      · exact ⟨(h.current call hold).1, fun _ => rfl⟩
      · exact ⟨Nat.le_refl _, fun _ => rfl⟩
    · obtain hold | rfl := hmem _ call hcall
      · exact hnone call hold
      · cases hreturned
    · obtain hprocess | hwatchdog | ⟨call, hcall, hcallk⟩ := h.kept k hk
      · exact .inr (.inr ⟨_, List.mem_append_right _ (List.mem_singleton.mpr rfl), hprocess⟩)
      · exact .inr (.inl hwatchdog)
      · exact .inr (.inr ⟨call, List.mem_append_left _ hcall, hcallk⟩)

/-- The rest of a call of `shutdown`: it hands its process. -/
lemma Sound.shutdownGoesOn (h : s.Sound) (i : Nat) (timedOut : Bool) :
    (s.shutdownGoesOn i timedOut).Sound := by
  unfold SupervisorRun.shutdownGoesOn
  split
  · exact h
  · rename_i call hi
    split
    · -- The calls behind the step: the others as they were, and this one without a process.
      have hplace : ∀ (j : Nat) (c : ShutdownCall),
          (s.shutdowns.set i { call with process := none, returned := true })[j]? = some c →
          ∃ c', s.shutdowns[j]? = some c' ∧ c.starts = c'.starts ∧
            ((c = c' ∧ i ≠ j) ∨ (i = j ∧ c.process = none)) := by
        intro j c hj
        by_cases hij : i = j
        · subst hij
          obtain ⟨hlt, -⟩ := List.getElem?_eq_some_iff.mp hi
          rw [List.getElem?_set_self hlt] at hj
          rw [← Option.some.inj hj]
          exact ⟨call, hi, rfl, .inr ⟨rfl, rfl⟩⟩
        · rw [List.getElem?_set_ne hij] at hj
          exact ⟨c, hj, rfl, .inl ⟨rfl, hij⟩⟩
      have hmem : ∀ c ∈ s.shutdowns.set i { call with process := none, returned := true },
          ∃ c' ∈ s.shutdowns, c.starts = c'.starts ∧ (c = c' ∨ c.process = none) := by
        intro c hc
        obtain ⟨j, hj⟩ := List.getElem?_of_mem hc
        obtain ⟨c', hc', hstarts, ⟨heq, -⟩ | ⟨-, hnone⟩⟩ := hplace j c hj
        · exact ⟨c', List.mem_of_getElem? hc', hstarts, .inl heq⟩
        · exact ⟨c', List.mem_of_getElem? hc', hstarts, .inr hnone⟩
      have hgone : ∀ sidecars : List SpawnedSidecar,
          (∀ k, (∃ c, sidecars[k]? = some c ∧ c.handed = false) → s.Unhanded k ∧
            call.process ≠ some k) →
          ({ s with
            shutdowns := s.shutdowns.set i { call with process := none, returned := true }
            sidecars := sidecars } : SupervisorRun).Sound := by
        intro sidecars hhanded
        refine ⟨h.idle, h.alone, h.recovering, fun c hc hprocess => ?_,
          fun j l c d hc hd hprocess hjl => ?_, fun c hc => ?_, fun c hc hreturned => ?_,
            fun k hk => ?_,
          h.counted, h.owed, h.budget, h.attention⟩
        · obtain ⟨c', hc', -, rfl | hnone⟩ := hmem c hc
          · exact h.leaving c hc' hprocess
          · exact absurd hnone hprocess
        · obtain ⟨c', hc', -, ⟨rfl, -⟩ | ⟨-, hnone⟩⟩ := hplace j c hc
          · obtain ⟨d', hd', hstarts, hsame⟩ := hplace l d hd
            obtain ⟨hnone, hlate⟩ := h.late j l c d' hc' hd' hprocess hjl
            refine ⟨?_, by rw [hstarts]; exact hlate⟩
            obtain ⟨rfl, -⟩ | ⟨-, hgone⟩ := hsame
            · exact hnone
            · exact hgone
          · exact absurd hnone hprocess
        · obtain ⟨c', hc', hstarts, -⟩ := hmem c hc
          rw [hstarts]
          exact h.current c' hc'
        · obtain ⟨c', hc', -, rfl | hnone⟩ := hmem c hc
          · exact h.returned c hc' hreturned
          · exact hnone
        · obtain ⟨hunhanded, hother⟩ := hhanded k hk
          obtain hprocess | hwatchdog | ⟨c, hc, hck⟩ := h.kept k hunhanded
          · exact .inl hprocess
          · exact .inr (.inl hwatchdog)
          · obtain ⟨j, hj⟩ := List.getElem?_of_mem hc
            have hij : i ≠ j := by
              rintro rfl
              rw [hi] at hj
              obtain rfl := Option.some.inj hj
              exact hother hck
            refine .inr (.inr ⟨c, List.mem_of_getElem? (i := j) ?_, hck⟩)
            rw [List.getElem?_set_ne hij]
            exact hj
      cases hprocess : call.process with
      | none =>
        refine hgone s.sidecars fun k hk => ⟨hk, ?_⟩
        rw [hprocess]
        exact fun hk => (nomatch hk)
      | some k =>
        refine hgone _ fun j hj => ?_
        obtain ⟨hunhanded, hne⟩ := unhanded_stopProcess (s := s) hj
        refine ⟨hunhanded, fun heq => hne ?_⟩
        rw [hprocess] at heq
        exact (Option.some.inj heq).symm
    · exact h

/-! ## Runs -/

/-- Whether it has exited does not matter for who holds a sidecar. -/
lemma Sound.exits (h : s.Sound) (k : Nat) : (s.step (.exits k)).Sound := by
  refine ⟨h.idle, h.alone, h.recovering, h.leaving, h.late, h.current, h.returned, fun j hj =>
    h.kept j ?_, h.counted, h.owed, h.budget, h.attention⟩
  obtain ⟨c', hc', hfree⟩ := hj
  change (s.sidecars.modify k _)[j]? = some c' at hc'
  rw [List.getElem?_modify] at hc'
  obtain ⟨c, hc, hchanged⟩ := Option.map_eq_some_iff.mp hc'
  refine ⟨c, hc, ?_⟩
  rw [← hfree, ← hchanged]
  split <;> rfl

/-- A startup failure that is recorded plays no part. -/
lemma Sound.recordStartupFailure (h : s.Sound) (error : SupervisorError) :
    (s.recordStartupFailure error).Sound := by
  cases error <;>
    exact ⟨h.idle, h.alone, h.recovering, h.leaving, h.late, h.current, h.returned, h.kept,
      h.counted, h.owed, h.budget, h.attention⟩

/-- Every orderly step keeps the invariant. -/
lemma Sound.step (h : s.Sound) {event : SupervisorEvent} (horderly : s.Orderly event) :
    (s.step event).Sound := by
  cases event with
  | start sight => exact h.start horderly
  | recordStartupFailure error => exact h.recordStartupFailure error
  | shutdown => exact h.shutdown horderly
  | shutdownGoesOn i timedOut => exact h.shutdownGoesOn i timedOut
  | status sight => exact h
  | watchdog w sight => exact h.watchdogTurn w sight
  | exits k => exact h.exits k

/-! ## What the supervisor promises -/

/-- A sidecar has neither exited nor been handed to `_stop_process`. -/
def Loose (s : SupervisorRun) (k : Nat) : Prop :=
  ∃ c, s.sidecars[k]? = some c ∧ c.exited = false ∧ c.handed = false

/-- A call of `shutdown` that came after the last start has returned. -/
def ShutDown (s : SupervisorRun) : Prop :=
  ∃ call ∈ s.shutdowns, call.returned = true ∧ call.starts = s.starts

/-- At most one sidecar is left to itself; the respawns since the last start are within the budget;
and when a shutdown has returned and no watchdog runs, every sidecar was handed to
`_stop_process`. -/
structure Supervises (s : SupervisorRun) : Prop where
  single : ∀ j k, s.Loose j → s.Loose k → j = k
  budget : s.respawns ≤ wtscliSupervisorRestartBudget
  collected : s.ShutDown → s.Unwatched → ∀ c ∈ s.sidecars, c.handed = true

/-- A call of `status` behind the exhausted budget answers that the supervisor needs attention. -/
def Attends (s : SupervisorRun) : SupervisorEvent → Prop
  | .status sight => s.exhausted = true → ∃ status, s.status sight = .ok status ∧
      status.state = .needsAttention
  | _ => True

/-- What the supervisor promises of a run: in each of its states it supervises, and each call of
`status` shows the exhausted budget. -/
def Supervised (s : SupervisorRun) (events : List SupervisorEvent) : Prop :=
  (∀ before, before <+: events → (run step s before).Supervises) ∧ Along step Attends s events

/-- Only one holds a sidecar. -/
lemma Sound.single (h : s.Sound) {j k : Nat} (hj : s.Unhanded j) (hk : s.Unhanded k) : j = k := by
  -- The supervisor holds none while a watchdog does, and neither does while a shutdown does.
  have hprocess : ∀ {i l}, s.process = some i → s.Unhanded l → s.process = some l := by
    intro i l hi hl
    obtain hl | ⟨p, hp, hpl⟩ | ⟨call, hcall, hcalll⟩ := h.kept l hl
    · exact hl
    · have hnone := h.recovering p hp (by cases p <;> first | rfl | cases hpl)
      rw [hi] at hnone
      cases hnone
    · have hidle := (h.leaving call hcall (by rw [hcalll]; simp)).1
      rw [(h.idle hidle).1] at hi
      cases hi
  obtain hj' | ⟨p, hp, hpj⟩ | ⟨c, hc, hcj⟩ := h.kept j hj
  · have hk' := hprocess hj' hk
    rw [hj'] at hk'
    exact Option.some.inj hk'
  · obtain hk' | ⟨q, hq, hqk⟩ | ⟨d, hd, hdk⟩ := h.kept k hk
    · have hj' := hprocess hk' hj
      rw [hk'] at hj'
      exact (Option.some.inj hj').symm
    · obtain ⟨v, hv⟩ := List.getElem?_of_mem hp
      obtain ⟨w, hw⟩ := List.getElem?_of_mem hq
      obtain rfl := h.alone v w p q hv hw (by rintro rfl; cases hpj) (by rintro rfl; cases hqk)
      rw [hv] at hw
      obtain rfl := Option.some.inj hw
      rw [hpj] at hqk
      exact Option.some.inj hqk
    · have hnone := (h.leaving d hd (by rw [hdk]; simp)).2 p hp
      rw [hnone] at hpj
      cases hpj
  · obtain hk' | ⟨q, hq, hqk⟩ | ⟨d, hd, hdk⟩ := h.kept k hk
    · have hj' := hprocess hk' hj
      rw [hk'] at hj'
      exact (Option.some.inj hj').symm
    · have hnone := (h.leaving c hc (by rw [hcj]; simp)).2 q hq
      rw [hnone] at hqk
      cases hqk
    · obtain ⟨v, hv⟩ := List.getElem?_of_mem hc
      obtain ⟨w, hw⟩ := List.getElem?_of_mem hd
      by_cases hvw : v = w
      · subst hvw
        rw [hv] at hw
        obtain rfl := Option.some.inj hw
        rw [hcj] at hdk
        exact Option.some.inj hdk
      · have hnone := (h.late v w c d hv hw (by rw [hcj]; simp) hvw).1
        rw [hnone] at hdk
        cases hdk

/-- When a shutdown has returned and no watchdog runs, nobody holds a sidecar. -/
lemma Sound.collected (h : s.Sound) (hshut : s.ShutDown) (hunwatched : s.Unwatched) {k : Nat} :
    ¬ s.Unhanded k := by
  obtain ⟨a, ha, hreturned, hcurrent⟩ := hshut
  intro hk
  obtain hprocess | ⟨p, hp, hpk⟩ | ⟨b, hb, hbk⟩ := h.kept k hk
  · rw [(h.idle ((h.current a ha).2 hcurrent)).1] at hprocess
    cases hprocess
  · rw [hunwatched p hp] at hpk
    cases hpk
  · obtain ⟨i, hi⟩ := List.getElem?_of_mem hb
    obtain ⟨j, hj⟩ := List.getElem?_of_mem ha
    by_cases hij : i = j
    · subst hij
      rw [hi] at hj
      obtain rfl := Option.some.inj hj
      rw [h.returned b hb hreturned] at hbk
      cases hbk
    · have hlate := (h.late i j b a hi hj (by rw [hbk]; simp) hij).2
      rw [hcurrent] at hlate
      exact absurd hlate (Nat.lt_irrefl _)

/-- The invariant says that the supervisor supervises. -/
lemma Sound.supervises (h : s.Sound) : s.Supervises := by
  refine ⟨fun j k hj hk => ?_, h.budget, fun hshut hunwatched c hc => ?_⟩
  · obtain ⟨c, hc, -, hcfree⟩ := hj
    obtain ⟨d, hd, -, hdfree⟩ := hk
    exact h.single ⟨c, hc, hcfree⟩ ⟨d, hd, hdfree⟩
  · by_contra hfree
    obtain ⟨k, hk⟩ := List.getElem?_of_mem hc
    exact h.collected hshut hunwatched ⟨c, hk, by simpa using hfree⟩

/-- An exhausted budget shows in the status, unless its file is not read. -/
lemma Sound.attends (h : s.Sound) {event : SupervisorEvent} (horderly : s.Orderly event) :
    s.Attends event := by
  cases event with
  | status sight =>
    intro hexhausted
    obtain ⟨hreadonly, -, hreason⟩ := h.attention hexhausted
    obtain ⟨file, hfile⟩ := horderly hexhausted
    obtain ⟨reason, hreason⟩ := Option.ne_none_iff_exists'.mp hreason
    refine ⟨s.attentionStatus (file.map Prod.fst) reason, ?_, rfl⟩
    unfold SupervisorRun.status
    rw [hfile]
    dsimp only
    rw [if_neg (by simp [hreadonly]), hreason]
  | _ => trivial

/-- A supervisor that has not been used holds nothing. -/
lemma sound_initial {supervisor : LifecycleSupervisor} (hprocess : supervisor.process = none)
    (hthread : supervisor.watchdogThread = none) (startupTimeout : Nat) :
    (initial supervisor startupTimeout).Sound := by
  refine ⟨fun _ => ⟨hprocess, hthread⟩, fun v w p q hv => ?_, fun p hp => ?_, fun call hcall => ?_,
    fun i j c d hc => ?_, fun call hcall => ?_, fun call hcall => ?_, fun k hk => ?_, Nat.zero_le _,
    fun p hp => ?_, Nat.zero_le _, fun hexhausted => (nomatch hexhausted)⟩
  · exact absurd hv (by simp [initial])
  · exact absurd hp List.not_mem_nil
  · exact absurd hcall List.not_mem_nil
  · exact absurd hc (by simp [initial])
  · exact absurd hcall List.not_mem_nil
  · exact absurd hcall List.not_mem_nil
  · obtain ⟨c, hc, -⟩ := hk
    exact absurd hc (by simp [initial])
  · exact absurd hp List.not_mem_nil

/-- A supervisor as it comes into being: constructed, or attached to another owner. -/
inductive Created : LifecycleSupervisor → Prop
  | constructed (allowStart : Bool) (runtime : Option String) : Created (.new allowStart runtime)
  | attached (runtime : String) : Created (.attach runtime)

/-- In every run of orderly steps the supervisor keeps its promises. -/
theorem supervised_of_orderly {supervisor : LifecycleSupervisor} (hcreated : Created supervisor)
    (startupTimeout : Nat) (events : List SupervisorEvent)
    (horderly : Along step Orderly (initial supervisor startupTimeout) events) :
    Supervised (initial supervisor startupTimeout) events := by
  have hstep : ∀ t event, Sound t → Orderly t event → (step t event).Sound :=
    fun t event h hevent => h.step hevent
  have hinitial : (initial supervisor startupTimeout).Sound := by
    cases hcreated with
    | constructed allowStart runtime => exact sound_initial rfl rfl startupTimeout
    | attached runtime => exact sound_initial rfl rfl startupTimeout
  refine ⟨?_, along_of_invariant hstep (fun t event h hevent => h.attends hevent) horderly hinitial⟩
  rintro before ⟨rest, rfl⟩
  exact (run_preserves hstep ((along_append before rest).mp horderly).1 hinitial).supervises

/-! ## A watchdog that outlives the join -/

instance (s : SupervisorRun) : Decidable s.Unwatched :=
  inferInstanceAs (Decidable (∀ p ∈ s.watchdogs, p = .ended))

instance (s : SupervisorRun) : Decidable s.Leaving :=
  inferInstanceAs (Decidable (∃ call ∈ s.shutdowns, call.process ≠ none))

/-- No lock, or the lock of a process that is gone. -/
def staleLock : LockSight := ⟨.missing, .refused, .gone⟩

/-- A sidecar writes its lock at once. -/
def ownedBy (pid : Int) : List OwnerPoll :=
  [⟨⟨.owner ⟨.int pid, some "build"⟩, .delivered, .gone⟩, staleLock, false, .missing⟩]

/-- A start that succeeds. -/
def startsWith (pid : Int) : SupervisorEvent :=
  .start ⟨.ok "build", .ok (), staleLock, staleLock, .spawned pid, ownedBy pid, 0⟩

/-- A turn of a watchdog at which a sidecar can be spawned. -/
def watches (w : Nat) (pid : Int) : SupervisorEvent :=
  .watchdog w ⟨.missing, staleLock, .spawned pid, ownedBy pid, 50⟩

/-- The turns of a watchdog that finds a dead sidecar and spawns another one. -/
def recovers (w k : Nat) (pid : Int) : List SupervisorEvent :=
  .exits k :: List.replicate 6 (watches w pid)

/-- A sidecar writes no status for too long; while the watchdog stops it, the supervisor is shut
down, the join of the watchdog times out, and the supervisor is started again. -/
def outlivedJoin : List SupervisorEvent :=
  [startsWith 100, watches 0 101, watches 0 101, watches 0 101, watches 0 101, .shutdown,
    watches 0 101, .exits 0, .shutdownGoesOn 0 true, startsWith 102]

/-- The old watchdog goes on: with no lock in its way it spawns a second sidecar next to that of the
new start; and when that one is gone, the restarts behind it are one too many. -/
theorem outlivedJoin_orphans :
    ¬ Supervised (initial (.new true none) 40) (outlivedJoin ++ [watches 0 101]) ∧
      ¬ Supervised (initial (.new true none) 40) (outlivedJoin ++ [.exits 1, watches 0 101] ++
        recovers 1 2 103 ++ recovers 1 3 104 ++ recovers 1 4 105) := by
  refine ⟨fun h => ?_, fun h => ?_⟩
  · have hsingle := (h.1 _ (List.prefix_refl _)).single 1 2
      ⟨⟨102, 0, none, false, false⟩, by decide, rfl, rfl⟩
      ⟨⟨101, 0, none, false, false⟩, by decide, rfl, rfl⟩
    exact absurd hsingle (by decide)
  · have hbudget := (h.1 _ (List.prefix_refl _)).budget
    exact absurd hbudget (by decide)

/-- The theorem at a sidecar that is replaced once. -/
theorem supervised_of_orderly_replaced :
    Supervised (initial (.new true none) 40)
      ([startsWith 100] ++ recovers 0 0 101 ++
        [.shutdown, watches 0 102, .shutdownGoesOn 0 false]) :=
  supervised_of_orderly (.constructed true none) 40 _
    ⟨fun _ => by decide, trivial, trivial, trivial, trivial, trivial, trivial, trivial,
      (by decide : ¬ Leaving _), trivial, trivial, trivial⟩

end SupervisorRun

end SeekTalent.Wtscli
