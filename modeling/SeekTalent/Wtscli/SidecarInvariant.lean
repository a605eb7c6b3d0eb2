import SeekTalent.Wtscli.DaemonCustody

/-!
# What is about the daemon

At most one thing is about the daemon at any time: a child that is watched, a restart timer, or a
start or a stop in progress (`Sidecar.load`).  While the sidecar neither shuts down nor asks for
attention there is one, unless the monitor has given up on a child that did not answer:
`stopOwnedChild` forgets the child first, so its exit restarts nothing.
-/

namespace SeekTalent.Wtscli

open Foundation

/-- The child that a start is stopping. -/
def StartPoint.targets : StartPoint → List Nat
  | .stopping p _ => [p.target]
  | _ => []

/-- The child that the main program is stopping. -/
def MainPoint.targets : MainPoint → List Nat
  | .starting p => p.targets
  | .stopping p | .shuttingDown p | .failing p _ => [p.target]
  | _ => []

/-- A start or a stop of the main program is in progress. -/
def MainPoint.busy : MainPoint → Nat
  | .loop | .health | .ended => 0
  | _ => 1

namespace Sidecar

/-- The children that are being stopped. -/
def targets (s : Sidecar) : List Nat :=
  s.main.targets ++ s.restarts.flatMap StartPoint.targets ++ s.signalled.toList.map StopPoint.target

/-- What is about the daemon: the child, restart timers, starts and stops in progress. -/
def load (s : Sidecar) : Nat :=
  s.child.toList.length + s.timers.length + s.main.busy + s.restarts.length +
    s.signalled.toList.length

/-- A start waits for the health of a daemon, or is to come. -/
def Preparing (s : Sidecar) : Prop :=
  s.timers ≠ [] ∨ s.main = .starting .health ∨ s.main = .starting .busyHealth ∨
    .health ∈ s.restarts ∨ .busyHealth ∈ s.restarts

/-- What every step keeps, whether or not the daemon was lost. -/
structure Steady (s : Sidecar) : Prop where
  load : s.load ≤ 1
  stops : s.stopping = true → s.exited = true ∨ (∃ p, s.main = .shuttingDown p) ∨
    ∃ p, s.signalled = some p
  watches : ∀ p, s.main ≠ .stopping p
  begun : s.begun + s.timers.length ≤ s.restartCount
  budget : s.begun + s.timers.length ≤ maxRestarts
  fresh : s.Preparing → s.records = []
  accounted : s.toDaemonCustody.Accounted s.targets

/-- The daemon is not lost. -/
def Supervised (s : Sidecar) : Prop :=
  s.exited = false → s.stopping = false → s.attentionReason = none → s.load = 1

/-- The invariant of the sidecar. -/
structure Sound (s : Sidecar) : Prop extends s.Steady where
  supervised : s.Supervised

/-- A step may happen without losing the daemon: the monitor does not give up on a child that does
not answer, and an event of a child comes while it is the child, an error only when its process does
not run; and an error of a child that nobody listens to, which ends the sidecar, comes only when
there is no ownership record. -/
def Orderly (timeout : Nat) (s : Sidecar) : SidecarEvent → Prop
  | .mainHealth answer _ _ now => ¬ (s.main = .health ∧ s.inspectHealth answer = .ok .stopped ∧
      (∃ k, s.child = some k ∧ s.exitCodeOf k = none) ∧ s.daemonOwned = true ∧
      s.listenerOverdue timeout now = true)
  | .exitEvent k _ _ => ∀ c, s.child = some c → c = k
  | .errorEvent k => (∀ d, s.children[k]? = some d → d.listening = true ∨ s.records = []) ∧
      ∀ c, s.child = some c → c = k ∧ ∀ d, s.children[k]? = some d → d.running = false
  | _ => True

/-! ## What is about the daemon -/

section Load

variable {s : Sidecar}

/-- A main program that is not busy stops no child. -/
lemma targets_of_idle {m : MainPoint} (h : m.busy = 0) : m.targets = [] := by
  cases m with
  | loop => rfl
  | health => rfl
  | ended => rfl
  | _ => cases h

/-- No child, or no stop. -/
lemma none_of_length {α : Type} {o : Option α} (h : o.toList.length = 0) : o = none := by
  cases o with
  | none => rfl
  | some a => cases h

/-- With a child, nothing else is about the daemon. -/
lemma Steady.only_child (h : s.Steady) {k : Nat} (hchild : s.child = some k) :
    s.timers = [] ∧ s.main.busy = 0 ∧ s.restarts = [] ∧ s.signalled = none := by
  have hload := h.load
  simp only [Sidecar.load, hchild, Option.toList_some, List.length_singleton] at hload
  exact ⟨List.length_eq_zero_iff.mp (by omega), by omega, List.length_eq_zero_iff.mp (by omega),
    none_of_length (by omega)⟩

/-- With a start or a stop of the main program, nothing else is about the daemon. -/
lemma Steady.only_main (h : s.Steady) (hmain : s.main.busy = 1) :
    s.child = none ∧ s.timers = [] ∧ s.restarts = [] ∧ s.signalled = none := by
  have hload := h.load
  simp only [Sidecar.load, hmain] at hload
  exact ⟨none_of_length (by omega), List.length_eq_zero_iff.mp (by omega),
    List.length_eq_zero_iff.mp (by omega), none_of_length (by omega)⟩

/-- With a restart, nothing else is about the daemon. -/
lemma Steady.only_restart (h : s.Steady) {i : Nat} {p : StartPoint}
    (hrestart : s.restarts[i]? = some p) :
    s.child = none ∧ s.timers = [] ∧ s.main.busy = 0 ∧ s.restarts = [p] ∧ i = 0 ∧
      s.signalled = none := by
  have hload := h.load
  obtain ⟨hlt, -⟩ := List.getElem?_eq_some_iff.mp hrestart
  simp only [Sidecar.load] at hload
  obtain ⟨q, hq⟩ := List.length_eq_one_iff.mp (show s.restarts.length = 1 by omega)
  have hi : i = 0 := by omega
  subst hi
  refine ⟨none_of_length (by omega), List.length_eq_zero_iff.mp (by omega), by omega, ?_, rfl,
    none_of_length (by omega)⟩
  rw [hq] at hrestart ⊢
  rw [Option.some.inj hrestart]

/-- With a stop of the signal handler, nothing else is about the daemon. -/
lemma Steady.only_signal (h : s.Steady) {p : StopPoint} (hsignal : s.signalled = some p) :
    s.child = none ∧ s.timers = [] ∧ s.main.busy = 0 ∧ s.restarts = [] := by
  have hload := h.load
  simp only [Sidecar.load, hsignal, Option.toList_some, List.length_singleton] at hload
  exact ⟨none_of_length (by omega), List.length_eq_zero_iff.mp (by omega), by omega,
    List.length_eq_zero_iff.mp (by omega)⟩

/-- With a restart timer, nothing else is about the daemon. -/
lemma Steady.only_timer (h : s.Steady) {id : Nat} (htimer : id ∈ s.timers) :
    s.child = none ∧ s.timers = [id] ∧ s.main.busy = 0 ∧ s.restarts = [] ∧ s.signalled = none := by
  have hload := h.load
  have hpos := List.length_pos_of_mem htimer
  simp only [Sidecar.load] at hload
  obtain ⟨other, hother⟩ := List.length_eq_one_iff.mp (show s.timers.length = 1 by omega)
  refine ⟨none_of_length (by omega), ?_, by omega, List.length_eq_zero_iff.mp (by omega),
    none_of_length (by omega)⟩
  rw [hother] at htimer ⊢
  rw [List.mem_singleton.mp htimer]

/-- With a child, nobody stops one. -/
lemma Steady.targets_child (h : s.Steady) {k : Nat} (hchild : s.child = some k) :
    s.targets = [] := by
  obtain ⟨-, hidle, hrestarts, hsignalled⟩ := h.only_child hchild
  simp [Sidecar.targets, targets_of_idle hidle, hrestarts, hsignalled]

/-- A start or stop of the main program stops what the main program stops. -/
lemma Steady.targets_main (h : s.Steady) (hmain : s.main.busy = 1) :
    s.targets = s.main.targets := by
  obtain ⟨-, -, hrestarts, hsignalled⟩ := h.only_main hmain
  simp [Sidecar.targets, hrestarts, hsignalled]

/-- A restart stops what its start stops. -/
lemma Steady.targets_restart (h : s.Steady) {i : Nat} {p : StartPoint}
    (hrestart : s.restarts[i]? = some p) : s.targets = p.targets := by
  obtain ⟨-, -, hidle, hrestarts, -, hsignalled⟩ := h.only_restart hrestart
  simp [Sidecar.targets, targets_of_idle hidle, hrestarts, hsignalled]

/-- Without a shutdown in progress, none has begun. -/
lemma Steady.not_stopping (h : s.Steady) (hexited : s.exited = false)
    (hmain : ∀ p, s.main ≠ .shuttingDown p) (hsignal : s.signalled = none) :
    s.stopping = false := by
  cases hstopping : s.stopping with
  | false => rfl
  | true =>
    obtain hdone | ⟨p, hp⟩ | ⟨p, hp⟩ := h.stops hstopping
    · rw [hexited] at hdone
      cases hdone
    · exact absurd hp (hmain p)
    · rw [hsignal] at hp
      cases hp

/-- While nobody stops a child, no shutdown has begun. -/
lemma Steady.running_of_idle (h : s.Steady) (hexited : s.exited = false) (hidle : s.main.busy = 0)
    (hsignal : s.signalled = none) : s.stopping = false := by
  refine h.not_stopping hexited (fun p hp => ?_) hsignal
  rw [hp] at hidle
  cases hidle

/-- With a child, no shutdown has begun. -/
lemma Steady.running_of_child (h : s.Steady) (hexited : s.exited = false) {k : Nat}
    (hchild : s.child = some k) : s.stopping = false := by
  obtain ⟨-, hidle, -, hsignal⟩ := h.only_child hchild
  exact h.running_of_idle hexited hidle hsignal

end Load

/-! ## Status -/

section Status

variable {s : Sidecar}

/-- The status file says nothing about the daemon. -/
lemma Sound.writeStatus (h : s.Sound) (state : HealthState) : (s.writeStatus state).Sound :=
  ⟨⟨h.load, h.stops, h.watches, h.begun, h.budget, h.fresh, h.accounted⟩, h.supervised⟩

/-- A sidecar that asks for attention may have lost its daemon. -/
lemma Steady.markNeedsAttention (h : s.Steady) (reason : String) :
    (s.markNeedsAttention reason).Sound :=
  ⟨⟨h.load, h.stops, h.watches, h.begun, h.budget, h.fresh, h.accounted⟩, fun _ _ hnone =>
    (nomatch hnone)⟩

/-- The main program goes on to another point at which it is not busy. -/
lemma Steady.move (h : s.Steady) (hidle : s.main.busy = 0) {m : MainPoint} (hm : m.busy = 0) :
    ({ s with main := m } : Sidecar).Steady := by
  have hnotStarting : ∀ p, m ≠ .starting p := by
    rintro p rfl
    cases hm
  refine ⟨?_, fun hstopping => ?_, ?_, h.begun, h.budget, fun hpreparing => h.fresh ?_, ?_⟩
  · have hload := h.load
    simp only [Sidecar.load, hidle, hm] at hload ⊢
    exact hload
  · obtain hdone | ⟨p, hp⟩ | hsignal := h.stops hstopping
    · exact .inl hdone
    · rw [hp] at hidle
      cases hidle
    · exact .inr (.inr hsignal)
  · rintro p rfl
    cases hm
  · obtain htimer | hstart | hstart | hrestart := hpreparing
    · exact .inl htimer
    · exact absurd hstart (hnotStarting _)
    · exact absurd hstart (hnotStarting _)
    · exact .inr (.inr (.inr hrestart))
  · have haccounted := h.accounted
    rw [Sidecar.targets, targets_of_idle hidle] at haccounted
    rw [Sidecar.targets]
    show s.toDaemonCustody.Accounted (m.targets ++ _ ++ _)
    rwa [targets_of_idle hm]

lemma Sound.move (h : s.Sound) (hidle : s.main.busy = 0) {m : MainPoint} (hm : m.busy = 0) :
    ({ s with main := m } : Sidecar).Sound := by
  refine ⟨h.toSteady.move hidle hm, fun hexited hstopping hnone => ?_⟩
  have hload := h.supervised hexited hstopping hnone
  simp only [Sidecar.load, hidle, hm] at hload ⊢
  exact hload

end Status

/-! ## Stops -/

section Stops

variable {s : Sidecar}

/-- `stopOwnedChild` forgets the child, and waits for it when there was one. -/
lemma stopOwnedChild_none (hchild : s.child = none) :
    s.stopOwnedChild =
      ({ s.onDaemon DaemonCustody.release with childStartedAt := none }, none) := by
  rw [stopOwnedChild, hchild]

lemma stopOwnedChild_some {k : Nat} (hchild : s.child = some k) :
    ∃ (p : StopPoint) (o : DaemonCustody),
    s.stopOwnedChild = ({ s with toDaemonCustody := o, childStartedAt := none }, some p) ∧
    p.target = k ∧ o.child = none ∧ o.records = s.records ∧
    ∀ targets more, s.toDaemonCustody.Accounted targets → (∀ j ∈ targets, j ∈ more) → k ∈ more →
      o.Accounted more := by
  have hrelease : ∀ targets more, s.toDaemonCustody.Accounted targets → (∀ j ∈ targets, j ∈ more) →
      k ∈ more → s.toDaemonCustody.release.Accounted more := by
    intro targets more h hmore hk
    refine h.release hmore fun j hj => ?_
    rw [hchild] at hj
    rwa [← Option.some.inj hj]
  cases howned : s.daemonOwned with
  | true =>
    refine ⟨.request k, s.toDaemonCustody.release.ask k, ?_, rfl, rfl,
      rfl, fun targets more h hmore hk =>
      (hrelease targets more h hmore hk).ask k⟩
    simp only [stopOwnedChild, hchild, howned]
    rfl
  | false =>
    refine ⟨.exit k, s.toDaemonCustody.release, ?_, rfl, rfl, rfl, hrelease⟩
    simp only [stopOwnedChild, hchild, howned]
    rfl

/-- The end of a shutdown. -/
lemma sound_finishShutdown (hload : s.load ≤ 1) (hwatches : ∀ p, s.main ≠ .stopping p)
    (hbegun : s.begun + s.timers.length ≤ s.restartCount)
    (hbudget : s.begun + s.timers.length ≤ maxRestarts)
    (haccounted : s.toDaemonCustody.Accounted s.targets) : s.finishShutdown.Sound := by
  have hcustody : s.toDaemonCustody.removeRecord.Accounted s.targets :=
    haccounted.removeRecord fun _ hk => .inl hk
  have hchild : s.toDaemonCustody.removeRecord.child = s.child := by
    unfold DaemonCustody.removeRecord
    cases s.daemonToken <;> rfl
  refine ⟨⟨?_, fun _ => .inl rfl, hwatches, hbegun, hbudget, fun _ =>
    haccounted.records_removeRecord, hcustody⟩, fun hexited => (nomatch hexited)⟩
  show s.toDaemonCustody.removeRecord.child.toList.length + _ + _ + _ + _ ≤ 1
  rw [hchild]
  exact hload

/-- A shutdown without a child ends at once; one with a child waits for it. -/
lemma shutdown_cases (h : s.Steady) (place : StopPoint → Sidecar → Sidecar) :
    (s.shutdown place).Sound ∧ s.child = none ∨
      ∃ (k : Nat) (p : StopPoint) (o : DaemonCustody), s.child = some k ∧ p.target = k ∧
        o.child = none ∧ o.records = s.records ∧ o.Accounted [k] ∧
        s.shutdown place = place p { s with
          toDaemonCustody := o
          childStartedAt := none
          stopping := true
          timers := []
          pendingRestart := none } := by
  cases hchild : s.child with
  | none =>
    refine .inl ⟨?_, rfl⟩
    have hfilter : (s.timers.filter (fun id => some id ≠ s.pendingRestart)).length ≤
        s.timers.length :=
      List.length_filter_le _ _
    rw [shutdown, stopOwnedChild_none (s := s.beginShutdown) hchild]
    refine sound_finishShutdown ?_ h.watches ?_ ?_
      (h.accounted.release (fun _ hk => hk) fun k hk => ?_)
    · have hload := h.load
      simp only [Sidecar.load, hchild] at hload
      show 0 + (s.timers.filter (fun id => some id ≠ s.pendingRestart)).length + s.main.busy +
        s.restarts.length + s.signalled.toList.length ≤ 1
      simp only [Option.toList_none, List.length_nil] at hload
      omega
    · have hbegun := h.begun
      show s.begun + (s.timers.filter (fun id => some id ≠ s.pendingRestart)).length ≤
        s.restartCount
      omega
    · have hbudget := h.budget
      show s.begun + (s.timers.filter (fun id => some id ≠ s.pendingRestart)).length ≤ maxRestarts
      omega
    · rw [hchild] at hk
      cases hk
  | some k =>
    obtain ⟨htimers, hidle, hrestarts, hsignalled⟩ := h.only_child hchild
    have htargets := h.targets_child hchild
    obtain ⟨p, o, hstop, htarget, hnone, hrecords, haccounted⟩ :=
      stopOwnedChild_some (s := s.beginShutdown) hchild
    refine .inr
      ⟨k, p, o, rfl, htarget, hnone, hrecords, haccounted s.targets [k] h.accounted ?_ ?_, ?_⟩
    · rw [htargets]
      exact fun _ hj => absurd hj List.not_mem_nil
    · exact List.mem_singleton_self k
    · rw [shutdown, hstop]
      simp only [beginShutdown, htimers, List.filter_nil]

/-- The monitor shuts down. -/
lemma Steady.shutdown_main (h : s.Steady) :
    (s.shutdown (fun p stopped => { stopped with main := .shuttingDown p })).Sound := by
  obtain ⟨hsound, -⟩ | ⟨k, p, o, hchild, rfl, hnone, hrecords, haccounted, heq⟩ :=
    shutdown_cases h _
  · exact hsound
  · obtain ⟨htimers, hidle, hrestarts, hsignalled⟩ := h.only_child hchild
    rw [heq]
    refine ⟨⟨?_, fun _ => .inr (.inl ⟨p, rfl⟩), fun q hq => (nomatch hq), ?_, ?_, ?_, ?_⟩,
      fun _ hstopping => (nomatch hstopping)⟩
    · simp [Sidecar.load, hnone, hrestarts, hsignalled, MainPoint.busy]
    · have hbegun := h.begun
      rw [htimers] at hbegun
      exact hbegun
    · have hbudget := h.budget
      rw [htimers] at hbudget
      exact hbudget
    · simp [Preparing, hrestarts]
    · simpa [Sidecar.targets, hrestarts, hsignalled, MainPoint.targets] using haccounted

/-- The signal handler shuts down. -/
lemma Steady.shutdown_signal (h : s.Steady) :
    (s.shutdown (fun p stopped => { stopped with signalled := some p })).Sound := by
  obtain ⟨hsound, -⟩ | ⟨k, p, o, hchild, rfl, hnone, hrecords, haccounted, heq⟩ :=
    shutdown_cases h _
  · exact hsound
  · obtain ⟨htimers, hidle, hrestarts, hsignalled⟩ := h.only_child hchild
    rw [heq]
    refine ⟨⟨?_, fun _ => .inr (.inr ⟨p, rfl⟩), h.watches, ?_, ?_, ?_, ?_⟩,
      fun _ hstopping => (nomatch hstopping)⟩
    · simp [Sidecar.load, hnone, hrestarts, hidle]
    · have hbegun := h.begun
      rw [htimers] at hbegun
      exact hbegun
    · have hbudget := h.budget
      rw [htimers] at hbudget
      exact hbudget
    · rintro (htimer | hstart | hstart | hrestart | hrestart)
      · exact absurd rfl htimer
      · rw [show s.main = .starting .health from hstart] at hidle
        cases hidle
      · rw [show s.main = .starting .busyHealth from hstart] at hidle
        cases hidle
      · rw [show s.restarts = [] from hrestarts] at hrestart
        exact absurd hrestart List.not_mem_nil
      · rw [show s.restarts = [] from hrestarts] at hrestart
        exact absurd hrestart List.not_mem_nil
    · simpa [Sidecar.targets, hrestarts, targets_of_idle hidle] using haccounted

/-- The handler of the main program behind its stop. -/
lemma Steady.finishFailure (h : s.Steady) (hnot : ∀ p, s.main ≠ .shuttingDown p) (reason : String)
    (hasked : ∀ k ∈ s.main.targets, ∀ d, s.children[k]? = some d → d.running = true →
      d.asked = true) :
    (s.finishFailure reason).Sound := by
  have hcustody : s.toDaemonCustody.removeRecord.Accounted
      (s.restarts.flatMap StartPoint.targets ++ s.signalled.toList.map StopPoint.target) := by
    refine h.accounted.removeRecord fun k hk => ?_
    simp only [Sidecar.targets, List.append_assoc, List.mem_append] at hk ⊢
    obtain hmain | hothers := hk
    · exact .inr (hasked k hmain)
    · exact .inl hothers
  have hchild : s.toDaemonCustody.removeRecord.child = s.child := by
    unfold DaemonCustody.removeRecord
    cases s.daemonToken <;> rfl
  refine ⟨⟨?_, fun hstopping => ?_, fun p hp => (nomatch hp), h.begun, h.budget,
    fun _ => h.accounted.records_removeRecord, hcustody⟩, fun _ _ hnone => (nomatch hnone)⟩
  · have hload := h.load
    show s.toDaemonCustody.removeRecord.child.toList.length + s.timers.length + 0 +
      s.restarts.length + s.signalled.toList.length ≤ 1
    rw [hchild]
    simp only [Sidecar.load] at hload
    omega
  · obtain hdone | ⟨p, hp⟩ | hsignal := h.stops hstopping
    · exact .inl hdone
    · exact absurd hp (hnot p)
    · exact .inr (.inr hsignal)

/-- The main program catches an error, wherever it was. -/
lemma failMain_main (m : MainPoint) (message : String) :
    ({ s with main := m } : Sidecar).failMain message = s.failMain message := by
  cases hchild : s.child with
  | none =>
    rw [Sidecar.failMain, Sidecar.failMain, stopOwnedChild_none hchild,
      stopOwnedChild_none (s := { s with main := m }) hchild]
    rfl
  | some k =>
    cases howned : s.daemonOwned with
    | true => simp [Sidecar.failMain, stopOwnedChild, hchild, howned, onDaemon]
    | false => simp [Sidecar.failMain, stopOwnedChild, hchild, howned, onDaemon]

/-- The main program catches an error while it is not busy. -/
lemma Steady.failMain (h : s.Steady) (hidle : s.main.busy = 0) (message : String) :
    (s.failMain message).Sound := by
  have hnot : ∀ p, s.main ≠ .shuttingDown p := by
    intro p hp
    rw [hp] at hidle
    cases hidle
  cases hchild : s.child with
  | none =>
    rw [Sidecar.failMain, stopOwnedChild_none hchild]
    have hreleased : ({ s.onDaemon DaemonCustody.release with childStartedAt :=
      none } : Sidecar).Steady := by
      have hload := h.load
      simp only [Sidecar.load, hchild] at hload
      refine ⟨hload, h.stops, h.watches, h.begun, h.budget, h.fresh,
        h.accounted.release (fun _ hk => hk) fun k hk => ?_⟩
      rw [hchild] at hk
      cases hk
    refine hreleased.finishFailure hnot _ fun k hk => ?_
    rw [show ({ s.onDaemon DaemonCustody.release with childStartedAt :=
      none } : Sidecar).main.targets = [] from targets_of_idle hidle] at hk
    exact absurd hk List.not_mem_nil
  | some k =>
    obtain ⟨htimers, -, hrestarts, hsignalled⟩ := h.only_child hchild
    obtain ⟨p, o, hstop, rfl, hnone, hrecords, haccounted⟩ := stopOwnedChild_some hchild
    rw [Sidecar.failMain, hstop]
    have htargets := h.targets_child hchild
    have hcustody : o.Accounted [p.target] := by
      refine haccounted s.targets _ h.accounted ?_ (List.mem_singleton_self _)
      rw [htargets]
      exact fun _ hj => absurd hj List.not_mem_nil
    refine ⟨⟨?_, fun hstopping => ?_, fun q hq => (nomatch hq), h.begun, h.budget, ?_,
      ?_⟩, fun _ _ _ => ?_⟩
    · simp [Sidecar.load, hnone, htimers, hrestarts, hsignalled, MainPoint.busy]
    · obtain hdone | ⟨q, hq⟩ | hsignal := h.stops hstopping
      · exact .inl hdone
      · exact absurd hq (hnot q)
      · exact .inr (.inr hsignal)
    · simp [Preparing, hrestarts, htimers]
    · simpa [Sidecar.targets, hrestarts, hsignalled, MainPoint.targets] using hcustody
    · simp [Sidecar.load, hnone, htimers, hrestarts, hsignalled, MainPoint.busy]

/-- The variables about the daemon change, but not the child or the records. -/
lemma Sound.withDaemon (h : s.Sound) {o : DaemonCustody} (hchild : o.child = s.child)
    (hrecords : o.records = s.records) (haccounted : o.Accounted s.targets) :
    ({ s with toDaemonCustody := o } : Sidecar).Sound := by
  have hload : ({ s with toDaemonCustody := o } : Sidecar).load = s.load := by
    simp only [Sidecar.load, hchild]
  refine ⟨⟨by rw [hload]; exact h.load, h.stops, h.watches, h.begun, h.budget, fun hpreparing => ?_,
    haccounted⟩, fun hexited hstopping hnone => hload.trans (h.supervised hexited hstopping hnone)⟩
  exact hrecords.trans (h.fresh hpreparing)

/-- The answer to a shutdown request changes no more than whether the child was asked. -/
lemma requestAnswered_eq (s : Sidecar) (k : Nat) (accepted : Bool) : ∃ o : DaemonCustody,
    s.requestAnswered k accepted = { s with toDaemonCustody := o } ∧ o.child = s.child ∧
      o.records = s.records ∧ ∀ targets, s.toDaemonCustody.Accounted targets →
        o.Accounted targets := by
  unfold requestAnswered
  split
  · exact ⟨s.toDaemonCustody.ask k, rfl, rfl, rfl, fun _ h => h.ask k⟩
  · exact ⟨s.toDaemonCustody, rfl, rfl, rfl, fun _ h => h⟩

/-- Behind the wait for its exit a child that runs was asked to stop. -/
lemma exitWaited_eq (s : Sidecar) (k : Nat) : ∃ o : DaemonCustody,
    s.exitWaited k = { s with toDaemonCustody := o } ∧ o.child = s.child ∧ o.records = s.records ∧
      ∀ targets, s.toDaemonCustody.Accounted targets → o.Accounted targets ∧
        ∀ d, o.children[k]? = some d → d.running = true → d.asked = true := by
  unfold exitWaited
  split
  · refine ⟨s.toDaemonCustody.ask k, rfl, rfl, rfl, fun targets h => ⟨h.ask k, fun d hd _ => ?_⟩⟩
    have hmodified : (s.children.modify k (fun d => { d with asked := true }))[k]? = some d := hd
    rw [List.getElem?_modify_eq] at hmodified
    obtain ⟨before, -, rfl⟩ := Option.map_eq_some_iff.mp hmodified
    rfl
  · rename_i hcode
    refine ⟨s.toDaemonCustody, rfl, rfl, rfl, fun targets h => ⟨h, fun d hd hruns => ?_⟩⟩
    have hexit : d.exitCode.isSome = true := by
      simpa [DaemonCustody.exitCodeOf, hd, Option.isSome_iff_ne_none] using hcode
    rw [h.codes k d hd hexit] at hruns
    cases hruns

end Stops

/-! ## Events of a child -/

section ChildEvents

variable {s : Sidecar}
variable {k : Nat}

/-- An event of the child, whose process does not run: it is forgotten, and restarted within the
budget. -/
lemma Sound.childExit (h : s.Sound) (hrunning : s.stopping = false)
    (hchild : s.child = some k) {d : DaemonChild} (reported : DaemonChild)
    (hd : s.children[k]? = some d) (hdead : d.running = false)
    (hruns : reported.running = d.running)
    (hasked : reported.asked = d.asked) (htoken : reported.token = d.token) (code : Option Int)
    (signal : Option String) :
    ((s.onDaemon (fun o => o.report k reported)).handleChildExit code signal).Sound := by
  obtain ⟨htimers, hidle, hrestarts, hsignalled⟩ := h.only_child hchild
  have htargets := h.targets_child hchild
  -- The process is forgotten, then reported and its record removed.
  have hreleased : s.toDaemonCustody.release.Accounted [k] := by
    refine h.accounted.release ?_ fun j hj => ?_
    · rw [htargets]
      exact fun _ hj => absurd hj List.not_mem_nil
    · rw [hchild] at hj
      rw [← Option.some.inj hj]
      exact List.mem_singleton_self _
  have hreported : (s.toDaemonCustody.release.report k reported).Accounted [k] :=
    hreleased.report hd (by simp [DaemonCustody.release]) hruns hasked htoken (fun _ => hdead)
  have hremoved : (s.toDaemonCustody.release.report k reported).removeRecord.Accounted [] := by
    refine hreported.removeRecord fun j hj => .inr fun other hother hrunning => ?_
    rw [List.mem_singleton.mp hj] at hother
    have hlt := (List.getElem?_eq_some_iff.mp hd).1
    have hset : (s.children.set k reported)[k]? = some other := hother
    rw [List.getElem?_set_self hlt] at hset
    rw [← Option.some.inj hset, hruns, hdead] at hrunning
    cases hrunning
  have hnone : (s.toDaemonCustody.release.report k reported).removeRecord.child = none := by
    unfold DaemonCustody.removeRecord
    split <;> rfl
  have hcounted : ((s.onDaemon (fun o => o.report k reported)).countFailure code
      signal).Steady := by
    refine ⟨?_, fun hstopping => ?_, h.watches, ?_, ?_, fun _ => hreported.records_removeRecord, ?_⟩
    · show (s.toDaemonCustody.release.report k reported).removeRecord.child.toList.length +
        s.timers.length + s.main.busy + s.restarts.length + s.signalled.toList.length ≤ 1
      simp [hnone, htimers, hidle, hrestarts, hsignalled]
    · exact absurd (hrunning.symm.trans hstopping) (by decide)
    · exact Nat.le_succ_of_le h.begun
    · exact h.budget
    · show (s.toDaemonCustody.release.report k reported).removeRecord.Accounted
        (s.main.targets ++ s.restarts.flatMap StartPoint.targets ++
          s.signalled.toList.map StopPoint.target)
      rwa [targets_of_idle hidle, hrestarts, hsignalled]
  have hwatching : ¬ ((s.onDaemon (fun o => o.report k reported)).stopping = true ∨
      (s.onDaemon (fun o => o.report k reported)).child = none) := by
    show ¬ (s.stopping = true ∨ s.child = none)
    simp [hrunning, hchild]
  rw [handleChildExit, if_neg hwatching]
  split
  · exact hcounted.markNeedsAttention _
  · rename_i hwithin
    have hbudget : s.restartCount + 1 ≤ maxRestarts := Nat.le_of_not_lt hwithin
    have hbegun := h.begun
    rw [htimers, List.length_nil] at hbegun
    refine ⟨⟨?_, hcounted.stops, h.watches, ?_, ?_, fun _ => hreported.records_removeRecord,
      hcounted.accounted⟩, fun _ _ _ => ?_⟩
    · show (s.toDaemonCustody.release.report k reported).removeRecord.child.toList.length +
        (s.timers ++ [s.restartCount + 1]).length + s.main.busy + s.restarts.length +
          s.signalled.toList.length ≤ 1
      simp [hnone, htimers, hidle, hrestarts, hsignalled]
    · show s.begun + (s.timers ++ [s.restartCount + 1]).length ≤ s.restartCount + 1
      rw [htimers, List.nil_append, List.length_singleton]
      omega
    · show s.begun + (s.timers ++ [s.restartCount + 1]).length ≤ maxRestarts
      rw [htimers, List.nil_append, List.length_singleton]
      omega
    · show (s.toDaemonCustody.release.report k reported).removeRecord.child.toList.length +
        (s.timers ++ [s.restartCount + 1]).length + s.main.busy + s.restarts.length +
          s.signalled.toList.length = 1
      simp [hnone, htimers, hidle, hrestarts, hsignalled]

/-- An event of a child that is not watched. -/
lemma Sound.reported (h : s.Sound) {d : DaemonChild} (reported : DaemonChild)
    (hd : s.children[k]? = some d) (hchild : s.child ≠ some k)
    (hruns : reported.running = d.running) (hasked : reported.asked = d.asked)
    (htoken : reported.token = d.token)
    (hcode : reported.exitCode.isSome = true → d.running = false) :
    (s.onDaemon (fun o => o.report k reported)).Sound :=
  h.withDaemon (o := s.toDaemonCustody.report k reported) rfl rfl
    (h.accounted.report hd hchild hruns hasked htoken hcode)

/-- An exit is reported. -/
lemma Sound.exitEvent (h : s.Sound) (hexited : s.exited = false)
    (horderly : ∀ c, s.child = some c → c = k) (code : Option Int) (signal : Option String) :
    (s.exitEvent k code signal).Sound := by
  unfold Sidecar.exitEvent
  cases hd : s.children[k]? with
  | none => exact h
  | some d =>
    dsimp only
    split
    · exact h
    · rename_i hnew
      have hdead : d.running = false := by
        cases hruns : d.running with
        | false => rfl
        | true => exact absurd (.inl hruns) hnew
      cases hchild : s.child with
      | none =>
        have hnone : s.child ≠ some k := by
          rw [hchild]
          exact fun hsome => (nomatch hsome)
        have hreported := h.reported { d with exitCode := code, exitReported := true } hd hnone
          rfl rfl rfl (fun _ => hdead)
        split
        · rw [handleChildExit, if_pos (.inr hchild)]
          exact hreported
        · exact hreported
      | some c =>
        obtain rfl := horderly c hchild
        have hrunning := h.running_of_child hexited hchild
        obtain ⟨watched, hwatched, hlistening, -⟩ := h.accounted.watched c hchild
        obtain rfl : d = watched := Option.some.inj (hd.symm.trans hwatched)
        rw [if_pos hlistening]
        exact h.childExit hrunning hchild { d with exitCode := code, exitReported := true } hd hdead
          rfl rfl rfl code signal

/-- An error is reported. -/
lemma Sound.errorEvent (h : s.Sound) (hexited : s.exited = false)
    (horderly : ∀ c, s.child = some c → c = k ∧ ∀ d, s.children[k]? = some d → d.running = false) :
    (s.errorEvent k).Sound := by
  unfold Sidecar.errorEvent
  cases hd : s.children[k]? with
  | none => exact h
  | some d =>
    dsimp only
    split
    · exact h
    · cases hchild : s.child with
      | none =>
        have hnone : s.child ≠ some k := by
          rw [hchild]
          exact fun hsome => (nomatch hsome)
        have hreported := h.reported { d with errorReported := true } hd hnone rfl rfl rfl
          (fun hcode => h.accounted.codes k d hd hcode)
        split
        · rw [handleChildExit, if_pos (.inr hchild)]
          exact hreported
        · exact ⟨⟨hreported.load, fun _ => .inl rfl, h.watches, h.begun, h.budget, hreported.fresh,
            hreported.accounted⟩, fun hrunning => (nomatch hrunning)⟩
      | some c =>
        obtain ⟨rfl, hdead⟩ := horderly c hchild
        have hrunning := h.running_of_child hexited hchild
        obtain ⟨watched, hwatched, hlistening, -⟩ := h.accounted.watched c hchild
        obtain rfl : d = watched := Option.some.inj (hd.symm.trans hwatched)
        rw [if_pos hlistening]
        exact h.childExit hrunning hchild { d with errorReported := true } hd (hdead d hd) rfl rfl
          rfl none none

end ChildEvents

/-! ## Starts -/

section Starts

variable {s : Sidecar}
variable {o : DaemonCustody} {startedAt : Option Nat} {point : StartPoint}

/-- How a part of a start ends, when there is no child and no record before it. -/
inductive Starts (s : Sidecar) (targets : List Nat) : Sidecar × StartResult → Prop
  | failed (o : DaemonCustody) (startedAt : Option Nat) (message : String) (hchild : o.child = none)
      (haccounted : o.Accounted targets) :
      Starts s targets
        ({ s with toDaemonCustody := o, childStartedAt := startedAt }, .failed message)
  | busy : Starts s targets (s, .waits .busyHealth)
  | stops (o : DaemonCustody) (p : StopPoint) (message : String) (hchild : o.child = none)
      (haccounted : o.Accounted (p.target :: targets)) :
      Starts s targets ({ s with toDaemonCustody := o, childStartedAt := none },
        .waits (.stopping p message))
  | started (o : DaemonCustody) (startedAt : Option Nat) (published : PublishedState) (k : Nat)
      (hchild : o.child = some k) (haccounted : o.Accounted targets) :
      Starts s targets
        ({ s with toDaemonCustody := o, childStartedAt := startedAt, published := published },
          .started)

/-- `ensureDaemon` with a prepared record. -/
lemma starts_launch (hchild : s.child = none) (hrecords : s.records = []) {targets : List Nat}
    (haccounted : s.toDaemonCustody.Accounted targets) (launched : LaunchAnswer) :
    Starts s targets ((s.onDaemon DaemonCustody.prepare).launch launched) := by
  have hprepared : s.toDaemonCustody.prepare.Accounted targets := haccounted.prepare hrecords
  have htoken : s.toDaemonCustody.prepare.daemonToken.getD 0 < s.toDaemonCustody.prepare.prepared :=
    Nat.lt_succ_self _
  cases launched with
  | unresolved message => exact .failed _ s.childStartedAt message hchild hprepared
  | refused message =>
    have hnone : (s.onDaemon DaemonCustody.prepare).child = none := hchild
    rw [launch, stopOwnedChild_none hnone]
    have hreleased : s.toDaemonCustody.prepare.release.Accounted targets :=
      hprepared.release (fun _ hk => hk) fun k hk => by
        rw [show s.toDaemonCustody.prepare.child = none from hchild] at hk
        cases hk
    have hremoved : s.toDaemonCustody.prepare.release.removeRecord.Accounted targets :=
      hreleased.removeRecord fun _ hk => .inl hk
    exact .failed _ none message rfl hremoved
  | unbound running message =>
    have hreleased := hprepared.spawn_release hchild htoken false running
    cases howned : s.daemonOwned with
    | true =>
      have hlaunch : (s.onDaemon DaemonCustody.prepare).launch (.unbound running message) =
          ({ s with
              toDaemonCustody :=
                (s.toDaemonCustody.prepare.spawn false running).release.ask s.children.length
              childStartedAt := none },
                  .waits (.stopping (.request s.children.length) message)) := by
        simp only [launch, stopOwnedChild, onDaemon, DaemonCustody.spawn, DaemonCustody.prepare,
          howned]
        rfl
      rw [hlaunch]
      exact .stops _ (.request s.children.length) message rfl (hreleased.ask _)
    | false =>
      have hlaunch : (s.onDaemon DaemonCustody.prepare).launch (.unbound running message) =
          ({ s with
              toDaemonCustody := (s.toDaemonCustody.prepare.spawn false running).release
              childStartedAt := none }, .waits (.stopping (.exit s.children.length) message)) := by
        simp only [launch, stopOwnedChild, onDaemon, DaemonCustody.spawn, DaemonCustody.prepare,
          howned]
        rfl
      rw [hlaunch]
      exact .stops _ (.exit s.children.length) message rfl hreleased
  | bound running now => exact .started _ _ _ _ rfl (hprepared.spawn hchild htoken running true)

/-- `ensureDaemon` behind its first look at the health of a daemon. -/
lemma starts_startAnswered (hchild : s.child = none) (hrecords : s.records = [])
    {targets : List Nat}
    (haccounted : s.toDaemonCustody.Accounted targets) (answer : HealthAnswer)
    (prepare : PrepareAnswer)
    (launched : LaunchAnswer) : Starts s targets (s.startAnswered answer prepare launched) := by
  have hfailed : ∀ message, Starts s targets (s, .failed message) :=
    fun message => .failed s.toDaemonCustody s.childStartedAt message hchild haccounted
  unfold startAnswered
  split
  · exact hfailed _
  · exact hfailed _
  · split
    · exact hfailed _
    · exact .busy
    · exact starts_launch hchild hrecords haccounted launched
  · exact hfailed _

/-- `ensureDaemon` behind its second look. -/
lemma starts_busyAnswered (hchild : s.child = none) {targets : List Nat}
    (haccounted : s.toDaemonCustody.Accounted targets) (answer : HealthAnswer) :
    Starts s targets (s.busyAnswered answer) := by
  have hfailed : ∀ message, Starts s targets (s, .failed message) :=
    fun message => .failed s.toDaemonCustody s.childStartedAt message hchild haccounted
  unfold busyAnswered
  split <;> exact hfailed _

/-- The sidecar behind a part of a start that leaves a child, or a start or a stop in progress. -/
lemma Sound.afterStart (h : s.Sound) (hrunning : s.stopping = false) (htimers : s.timers = [])
    (hsignalled : s.signalled = none)
    {published : PublishedState} {m : MainPoint} {r : List StartPoint} (hm : ∀ p, m ≠ .stopping p)
    (hload : o.child.toList.length + m.busy + r.length = 1)
    (hfresh : m = .starting .health ∨ m = .starting .busyHealth ∨ .health ∈ r ∨ .busyHealth ∈ r →
      o.records = [])
    (haccounted : o.Accounted (m.targets ++ r.flatMap StartPoint.targets)) :
    Sound { s with
      toDaemonCustody := o
      childStartedAt := startedAt
      published := published
      main := m
      restarts := r } := by
  have htotal : o.child.toList.length + s.timers.length + m.busy + r.length +
      s.signalled.toList.length = 1 := by
    rw [htimers, hsignalled]
    simpa using hload
  refine ⟨⟨Nat.le_of_eq htotal, fun hstopping => ?_, hm, h.begun, h.budget, fun hpreparing => ?_,
    ?_⟩, fun _ _ _ => htotal⟩
  · exact absurd (hrunning.symm.trans hstopping) (by decide)
  · obtain htimer | hothers := hpreparing
    · exact absurd htimers htimer
    · exact hfresh hothers
  · show o.Accounted
      (m.targets ++ r.flatMap StartPoint.targets ++ s.signalled.toList.map StopPoint.target)
    rw [hsignalled]
    simpa using haccounted

/-- A start of the main program fails. -/
lemma Sound.mainFailed (h : s.Sound) (hexited : s.exited = false)
    (hstart : s.main = .starting point)
    (hnone : o.child = none) (haccounted : o.Accounted []) (message : String) :
    (Sidecar.failMain { s with toDaemonCustody := o, childStartedAt := startedAt }
      message).Sound := by
  obtain ⟨-, htimers, hrestarts, hsignalled⟩ := h.only_main (by rw [hstart]; rfl)
  have hrunning : s.stopping = false := by
    refine h.not_stopping hexited (fun p hp => ?_) hsignalled
    rw [hp] at hstart
    cases hstart
  have hidle : Steady
      { s with toDaemonCustody := o, childStartedAt := startedAt, main := .loop } := by
    refine ⟨?_, fun hstopping => ?_, fun p hp => (nomatch hp), h.begun, h.budget, ?_, ?_⟩
    · simp [Sidecar.load, hnone, htimers, hrestarts, hsignalled, MainPoint.busy]
    · exact absurd (hrunning.symm.trans hstopping) (by decide)
    · simp [Preparing, htimers, hrestarts]
    · simpa [Sidecar.targets, hrestarts, hsignalled, MainPoint.targets] using haccounted
  have hfailed := hidle.failMain rfl message
  rwa [failMain_main .loop message
    (s := { s with toDaemonCustody := o, childStartedAt := startedAt })]
    at hfailed

/-- A start of a restart fails. -/
lemma Sound.restartFailed (h : s.Sound) (hexited : s.exited = false) {i : Nat}
    (hrestart : s.restarts[i]? = some point)
    (hnone : o.child = none) (haccounted : o.Accounted []) (message : String) :
    (Sidecar.restarted i ({ s with toDaemonCustody := o, childStartedAt := startedAt },
      .failed message)).Sound := by
  obtain ⟨-, htimers, hidle, hrestarts, rfl, hsignalled⟩ := h.only_restart hrestart
  have hrunning := h.running_of_idle hexited hidle hsignalled
  have hmain := targets_of_idle hidle
  have hnotStarting : ∀ p, s.main ≠ .starting p := by
    rintro p hp
    rw [hp] at hidle
    cases hidle
  have hsteady : Steady { s with
      toDaemonCustody := o
      childStartedAt := startedAt
      restarts := s.restarts.eraseIdx 0 } := by
    refine ⟨?_, fun hstopping => ?_, h.watches, h.begun, h.budget, ?_, ?_⟩
    · simp [Sidecar.load, hnone, htimers, hrestarts, hsignalled, hidle]
    · exact absurd (hrunning.symm.trans hstopping) (by decide)
    · simp [Preparing, htimers, hrestarts, hnotStarting]
    · simpa [Sidecar.targets, hrestarts, hsignalled, hmain] using haccounted
  exact hsteady.markNeedsAttention _

/-- The main program goes on behind a part of its start. -/
lemma Sound.mainStarted (h : s.Sound) (hexited : s.exited = false)
    (hstart : s.main = .starting .health ∨ s.main = .starting .busyHealth)
    {result : Sidecar × StartResult} (hresult : Starts s [] result) :
    (mainStarted result).Sound := by
  have hbusy : s.main.busy = 1 := by
    obtain hp | hp := hstart <;> rw [hp] <;> rfl
  obtain ⟨hchild, htimers, hrestarts, hsignalled⟩ := h.only_main hbusy
  have hrunning : s.stopping = false := by
    refine h.not_stopping hexited (fun p hp => ?_) hsignalled
    obtain hstart | hstart := hstart <;> rw [hp] at hstart <;> cases hstart
  have htargets : s.targets = [] := by
    rw [h.targets_main hbusy]
    obtain hp | hp := hstart <;> rw [hp] <;> rfl
  cases hresult with
  | failed o startedAt message hnone haccounted =>
    obtain hpoint | hpoint := hstart
    · exact h.mainFailed hexited hpoint hnone haccounted message
    · exact h.mainFailed hexited hpoint hnone haccounted message
  | busy =>
    have hrecords : s.records = [] := h.fresh (.inr (hstart.elim .inl (fun hp => .inr (.inl hp))))
    have haccounted := h.accounted
    rw [htargets] at haccounted
    refine h.afterStart hrunning htimers hsignalled (fun p hp => (nomatch hp)) ?_
      (fun _ => hrecords) ?_
    · simp [hchild, hrestarts, MainPoint.busy]
    · simpa [hrestarts, MainPoint.targets, StartPoint.targets] using haccounted
  | stops o p message hnone haccounted =>
    refine h.afterStart hrunning htimers hsignalled (fun p hp => (nomatch hp)) ?_ ?_ ?_
    · simp [hnone, hrestarts, MainPoint.busy]
    · simp [hrestarts]
    · simpa [hrestarts, MainPoint.targets, StartPoint.targets] using haccounted
  | started o startedAt published k hsome haccounted =>
    refine h.afterStart hrunning htimers hsignalled (fun p hp => (nomatch hp)) ?_ ?_ ?_
    · simp [hsome, hrestarts, MainPoint.busy]
    · simp [hrestarts]
    · simpa [hrestarts, MainPoint.targets] using haccounted

/-- A restart goes on behind a part of its start. -/
lemma Sound.restarted (h : s.Sound) (hexited : s.exited = false) {i : Nat}
    (hrestart : s.restarts[i]? = some point) (hrecords : s.records = [])
    {result : Sidecar × StartResult} (hresult : Starts s [] result) (haccounted : s.Accounted []) :
    (restarted i result).Sound := by
  obtain ⟨hchild, htimers, hidle, hrestarts, rfl, hsignalled⟩ := h.only_restart hrestart
  have hrunning := h.running_of_idle hexited hidle hsignalled
  have hmain := targets_of_idle hidle
  have hnotStarting : ∀ p, s.main ≠ .starting p := by
    rintro p hp
    rw [hp] at hidle
    cases hidle
  cases hresult with
  | failed o startedAt message hnone haccounted =>
    exact h.restartFailed hexited hrestart hnone haccounted message
  | busy =>
    refine h.afterStart hrunning htimers hsignalled h.watches ?_ (fun _ => hrecords) ?_
    · simp [hchild, hrestarts, hidle]
    · simpa [hrestarts, hmain, StartPoint.targets] using haccounted
  | stops o p message hnone haccounted =>
    refine h.afterStart hrunning htimers hsignalled h.watches ?_ ?_ ?_
    · simp [hnone, hrestarts, hidle]
    · simp [hrestarts, hnotStarting]
    · simpa [hrestarts, hmain, StartPoint.targets] using haccounted
  | started o startedAt published k hsome haccounted =>
    refine h.afterStart hrunning htimers hsignalled h.watches ?_ ?_ ?_
    · simp [hsome, hrestarts, hidle]
    · simp [hrestarts, hnotStarting]
    · simpa [hrestarts, hmain] using haccounted

end Starts

/-! ## Steps -/

section Steps

variable {s : Sidecar} {timeout : Nat}

/-- An iteration of the monitor begins. -/
lemma Sound.wake (h : s.Sound) (hloop : s.main = .loop) (control parentDied : Bool) :
    (s.wake control parentDied).Sound := by
  have hidle : s.main.busy = 0 := by
    rw [hloop]
    rfl
  unfold Sidecar.wake
  split
  · exact h.move hidle rfl
  · split
    · exact h.shutdown_main
    · split
      · exact h.writeStatus _
      · exact h.move hidle rfl

/-- The monitor does not give up on the child. -/
lemma Sound.monitored (h : s.Sound) (hhealth : s.main = .health) {answer : HealthAnswer} {now : Nat}
    (horderly : ¬ (s.inspectHealth answer = .ok .stopped ∧
      (∃ k, s.child = some k ∧ s.exitCodeOf k = none) ∧ s.daemonOwned = true ∧
      s.listenerOverdue timeout now = true)) : (s.monitored timeout answer now).Sound := by
  have hidle : s.main.busy = 0 := by
    rw [hhealth]
    rfl
  unfold Sidecar.monitored
  split
  · exact h.failMain hidle _
  · exact (h.markNeedsAttention _).move hidle rfl
  · rename_i state hstate hanswer
    split
    · exact (h.writeStatus state).move hidle rfl
    · rename_i k hchild
      split
      · rename_i hstopped
        split
        · rename_i howned
          split
          · rename_i hoverdue
            refine absurd ⟨?_, ⟨k, hchild, hstopped.2⟩, howned, hoverdue⟩ horderly
            rw [hanswer, hstopped.1]
          · exact (h.writeStatus .warming).move hidle rfl
        · exact h.move hidle rfl
      · exact (h.writeStatus state).move hidle rfl

/-- The main program gets an answer about the health of the daemon. -/
lemma Sound.mainHealth (h : s.Sound) (hexited : s.exited = false) {answer : HealthAnswer}
    {prepare : PrepareAnswer} {launched : LaunchAnswer} {now : Nat}
    (horderly : s.Orderly timeout (.mainHealth answer prepare launched now)) :
    (s.mainHealth timeout answer prepare launched now).Sound := by
  unfold Sidecar.mainHealth
  split
  · rename_i hstart
    have hbusy : s.main.busy = 1 := by rw [hstart]; rfl
    obtain ⟨hchild, -⟩ := h.only_main hbusy
    have haccounted := h.accounted
    rw [h.targets_main hbusy, hstart] at haccounted
    have hrecords : s.records = [] := h.fresh (.inr (.inl hstart))
    exact h.mainStarted hexited (.inl hstart)
      (starts_startAnswered hchild hrecords haccounted answer prepare launched)
  · rename_i hstart
    have hbusy : s.main.busy = 1 := by rw [hstart]; rfl
    obtain ⟨hchild, -⟩ := h.only_main hbusy
    have haccounted := h.accounted
    rw [h.targets_main hbusy, hstart] at haccounted
    exact h.mainStarted hexited (.inr hstart) (starts_busyAnswered hchild haccounted answer)
  · rename_i hhealth
    exact h.monitored hhealth fun hgivesUp => horderly ⟨hhealth, hgivesUp⟩
  · exact h

/-- A restart gets an answer about the health of the daemon. -/
lemma Sound.restartHealth (h : s.Sound) (hexited : s.exited = false) (i : Nat)
    (answer : HealthAnswer) (prepare : PrepareAnswer) (launched : LaunchAnswer) :
    (s.restartHealth i answer prepare launched).Sound := by
  unfold Sidecar.restartHealth
  split
  · rename_i hrestart
    obtain ⟨hchild, -, -, hrestarts, -⟩ := h.only_restart hrestart
    have haccounted := h.accounted
    rw [h.targets_restart hrestart] at haccounted
    have hrecords : s.records = [] := h.fresh (by simp [Preparing, hrestarts])
    exact h.restarted hexited hrestart hrecords
      (starts_startAnswered hchild hrecords haccounted answer prepare launched) haccounted
  · rename_i hrestart
    obtain ⟨hchild, -, -, hrestarts, -⟩ := h.only_restart hrestart
    have haccounted := h.accounted
    rw [h.targets_restart hrestart] at haccounted
    have hrecords : s.records = [] := h.fresh (by simp [Preparing, hrestarts])
    exact h.restarted hexited hrestart hrecords (starts_busyAnswered hchild haccounted answer)
      haccounted
  · exact h

/-- A stop goes on to its next point. -/
lemma Sound.proceed (h : s.Sound) {o : DaemonCustody} (hchild : o.child = s.child)
    (hrecords : o.records = s.records) (haccounted : o.Accounted s.targets) {m : MainPoint}
    {r : List StartPoint} {g : Option StopPoint} (hmain : m.busy = s.main.busy)
    (hrestarts : r.length = s.restarts.length)
    (hsignalled : g.toList.length = s.signalled.toList.length)
    (htargets : m.targets ++ r.flatMap StartPoint.targets ++ g.toList.map StopPoint.target =
      s.targets)
    (hstops : (∃ p, s.main = .shuttingDown p) ∨ (∃ p, s.signalled = some p) →
      (∃ p, m = .shuttingDown p) ∨ ∃ p, g = some p)
    (hwatches : ∀ p, m ≠ .stopping p)
    (hpreparing : m = .starting .health ∨ m = .starting .busyHealth ∨ .health ∈ r ∨
      .busyHealth ∈ r → s.main = .starting .health ∨ s.main = .starting .busyHealth ∨
        .health ∈ s.restarts ∨ .busyHealth ∈ s.restarts) :
    Sound { s with toDaemonCustody := o, main := m, restarts := r, signalled := g } := by
  have hload : Sidecar.load
    { s with toDaemonCustody := o, main := m, restarts := r, signalled := g } =
      s.load := by
    simp only [Sidecar.load, hchild, hmain, hrestarts, hsignalled]
  refine ⟨⟨by rw [hload]; exact h.load, fun hstopping => ?_, hwatches, h.begun,
    h.budget, fun hp => ?_,
    ?_⟩, fun hexited hstopping hnone => by rw [hload]; exact h.supervised hexited hstopping hnone⟩
  · obtain hdone | hwaits := h.stops hstopping
    · exact .inl hdone
    · exact .inr (hstops hwaits)
  · refine hrecords.trans (h.fresh ?_)
    obtain htimers | hothers := hp
    · exact .inl htimers
    · exact .inr (hpreparing hothers)
  · show o.Accounted (m.targets ++ r.flatMap StartPoint.targets ++ g.toList.map StopPoint.target)
    rwa [htargets]

/-- The answer to a shutdown request. -/
lemma Sound.shutdownAnswered (h : s.Sound) (accepted : Bool) (stopper : Stopper) :
    (s.shutdownAnswered accepted stopper).Sound := by
  cases stopper with
  | main =>
    have hgo : ∀ (k : Nat) (m : MainPoint), m.busy = s.main.busy → m.targets = s.main.targets →
        ((∃ p, s.main = .shuttingDown p) → ∃ p, m = .shuttingDown p) → (∀ p, m ≠ .stopping p) →
        m ≠ .starting .health → m ≠ .starting .busyHealth →
        Sound { s.requestAnswered k accepted with main := m } := by
      intro k m hbusy htargets hshutting hwatches hhealth hbusyHealth
      obtain ⟨o, heq, hchild, hrecords, haccounted⟩ := requestAnswered_eq s k accepted
      rw [heq]
      refine h.proceed hchild hrecords (haccounted _ h.accounted) hbusy rfl rfl ?_
        (Or.imp_left hshutting) hwatches ?_
      · rw [htargets]
        rfl
      · rintro (hp | hp | hp)
        · exact absurd hp hhealth
        · exact absurd hp hbusyHealth
        · exact .inr (.inr hp)
    unfold Sidecar.shutdownAnswered
    dsimp only
    split
    · rename_i k message hmain
      rw [hmain] at hgo
      exact hgo k _ rfl rfl (fun ⟨p, hp⟩ => (nomatch hp)) (fun p hp => (nomatch hp)) (by simp)
        (by simp)
    · rename_i k hmain
      exact absurd hmain (h.watches _)
    · rename_i k hmain
      rw [hmain] at hgo
      exact hgo k _ rfl rfl (fun _ => ⟨_, rfl⟩) (fun p hp => (nomatch hp)) (by simp) (by simp)
    · rename_i k reason hmain
      rw [hmain] at hgo
      exact hgo k _ rfl rfl (fun ⟨p, hp⟩ => (nomatch hp)) (fun p hp => (nomatch hp)) (by simp)
        (by simp)
    · exact h
  | restart i =>
    unfold Sidecar.shutdownAnswered
    dsimp only
    split
    · rename_i k message hrestart
      obtain ⟨-, -, hidle, hrestarts, rfl, hsignalled⟩ := h.only_restart hrestart
      obtain ⟨o, heq, hchild, hrecords, haccounted⟩ := requestAnswered_eq s k accepted
      rw [heq]
      refine h.proceed hchild hrecords (haccounted _ h.accounted) rfl (by rw [List.length_set])
        rfl ?_ id h.watches ?_
      · simp [Sidecar.targets, hrestarts, StartPoint.targets, StopPoint.target]
      · simp only [hrestarts, List.set_cons_zero, List.mem_singleton, reduceCtorEq, or_false]
        exact id
    · exact h
  | signal =>
    unfold Sidecar.shutdownAnswered
    dsimp only
    split
    · rename_i k hsignal
      obtain ⟨o, heq, hchild, hrecords, haccounted⟩ := requestAnswered_eq s k accepted
      rw [heq]
      refine h.proceed hchild hrecords (haccounted _ h.accounted) rfl rfl
        (by rw [hsignal]; rfl) ?_ ?_ h.watches id
      · rw [Sidecar.targets, hsignal]
        rfl
      · exact fun _ => .inr ⟨_, rfl⟩
    · exact h

/-- Where the one child that was being stopped was asked to, its record is removed. -/
lemma removed_of_waited {o : DaemonCustody} {k : Nat}
    (h : o.Accounted [k] ∧ ∀ d, o.children[k]? = some d → d.running = true → d.asked = true)
    (hchild : o.child = none) : o.removeRecord.Accounted [] ∧ o.removeRecord.child = none := by
  obtain ⟨haccounted, hasked⟩ := h
  refine ⟨haccounted.removeRecord fun j hj => .inr ?_, ?_⟩
  · rw [List.mem_singleton.mp hj]
    exact hasked
  · unfold DaemonCustody.removeRecord
    split
    · exact hchild
    · exact hchild

/-- The wait for the exit of a child ends. -/
lemma Sound.stopWaited (h : s.Sound) (hexited : s.exited = false) (stopper : Stopper) :
    (s.stopWaited stopper).Sound := by
  cases stopper with
  | main =>
    unfold Sidecar.stopWaited
    dsimp only
    split
    · rename_i k message hmain
      have hbusy : s.main.busy = 1 := by rw [hmain]; rfl
      obtain ⟨hchild, -⟩ := h.only_main hbusy
      obtain ⟨o, heq, hsame, -, hwaited⟩ := exitWaited_eq s k
      have haccounted := h.accounted
      rw [h.targets_main hbusy, hmain] at haccounted
      obtain ⟨hremoved, hnone⟩ := removed_of_waited (hwaited _ haccounted) (hsame.trans hchild)
      rw [heq]
      exact h.mainFailed hexited hmain hnone hremoved message
    · rename_i k hmain
      exact absurd hmain (h.watches _)
    · rename_i k hmain
      obtain ⟨o, heq, hchild, hrecords, hwaited⟩ := exitWaited_eq s k
      rw [heq]
      refine sound_finishShutdown ?_ h.watches h.begun h.budget (hwaited _ h.accounted).1
      have hload := h.load
      simp only [Sidecar.load, hchild] at hload ⊢
      exact hload
    · rename_i k reason hmain
      obtain ⟨o, heq, hchild, hrecords, hwaited⟩ := exitWaited_eq s k
      obtain ⟨haccounted, hasked⟩ := hwaited _ h.accounted
      rw [heq]
      have hsound : Sound { s with toDaemonCustody := o } := h.withDaemon hchild hrecords haccounted
      refine hsound.finishFailure (fun p hp => ?_) reason fun j hj => ?_
      · rw [show s.main = .shuttingDown p from hp] at hmain
        cases hmain
      · rw [show ({ s with toDaemonCustody := o } : Sidecar).main.targets = [k] by
          rw [show ({ s with toDaemonCustody := o } : Sidecar).main = s.main from rfl, hmain]
          rfl] at hj
        rw [List.mem_singleton.mp hj]
        exact hasked
    · exact h
  | restart i =>
    unfold Sidecar.stopWaited
    dsimp only
    split
    · rename_i k message hrestart
      obtain ⟨hchild, -⟩ := h.only_restart hrestart
      obtain ⟨o, heq, hsame, -, hwaited⟩ := exitWaited_eq s k
      have haccounted := h.accounted
      rw [h.targets_restart hrestart] at haccounted
      obtain ⟨hremoved, hnone⟩ := removed_of_waited (hwaited _ haccounted) (hsame.trans hchild)
      rw [heq]
      exact h.restartFailed hexited hrestart hnone hremoved message
    · exact h
  | signal =>
    unfold Sidecar.stopWaited
    dsimp only
    split
    · rename_i k hsignal
      obtain ⟨o, heq, hchild, hrecords, hwaited⟩ := exitWaited_eq s k
      rw [heq]
      refine sound_finishShutdown ?_ h.watches h.begun h.budget (hwaited _ h.accounted).1
      have hload := h.load
      simp only [Sidecar.load, hchild] at hload ⊢
      exact hload
    · exact h

/-- A restart timer ends. -/
lemma Sound.restartTimer (h : s.Sound) (hexited : s.exited = false) (id : Nat) :
    (s.restartTimer id).Sound := by
  unfold Sidecar.restartTimer
  split
  · rename_i htimer
    obtain ⟨hchild, htimers, hidle, hrestarts, hsignalled⟩ := h.only_timer htimer
    have hrecords : s.records = [] := h.fresh (.inl (List.ne_nil_of_mem htimer))
    have hrunning := h.running_of_idle hexited hidle hsignalled
    have hbegun := h.begun
    have hbudget := h.budget
    rw [htimers, List.length_singleton] at hbegun hbudget
    refine ⟨⟨?_, fun hstopping => ?_, h.watches, ?_, ?_, fun _ => hrecords, ?_⟩, fun _ _ _ => ?_⟩
    · simp [Sidecar.load, hchild, htimers, hidle, hrestarts, hsignalled]
    · exact absurd (hrunning.symm.trans hstopping) (by decide)
    · simpa [htimers] using hbegun
    · simpa [htimers] using hbudget
    · have haccounted := h.accounted
      simpa [Sidecar.targets, hrestarts, hsignalled, StartPoint.targets] using haccounted
    · simp [Sidecar.load, hchild, htimers, hidle, hrestarts, hsignalled]
  · exact h

/-- An orderly step keeps the invariant. -/
theorem Sound.step (h : s.Sound) {event : SidecarEvent} (horderly : s.Orderly timeout event) :
    (s.step timeout event).Sound := by
  unfold Sidecar.step
  split
  · exact h
  · rename_i hrunning
    have hexited : s.exited = false := by simpa using hrunning
    cases event with
    | wake control parentDied =>
      dsimp only
      split
      · exact h.wake ‹_› control parentDied
      · exact h
    | mainHealth answer prepare launched now => exact h.mainHealth hexited horderly
    | restartHealth i answer prepare launched =>
      exact h.restartHealth hexited i answer prepare launched
    | shutdownAnswered stopper accepted => exact h.shutdownAnswered accepted stopper
    | exitWaited stopper => exact h.stopWaited hexited stopper
    | dies k => exact h.withDaemon (o := s.toDaemonCustody.die k) rfl rfl (h.accounted.die k)
    | exitEvent k code signal => exact h.exitEvent hexited horderly code signal
    | errorEvent k => exact h.errorEvent hexited horderly.2
    | restartTimer id => exact h.restartTimer hexited id
    | signal =>
      dsimp only
      split
      · exact h
      · exact h.shutdown_signal

end Steps

end Sidecar

end SeekTalent.Wtscli
