import SeekTalent.Wtscli.SidecarInvariant

/-!
# The sidecar does not lose its daemon

In a run in which the monitor does not give up on a silent child, and in which the events of a child
come while it is the child, the daemon is kept (`daemonKept_of_orderly`).  Once it is lost, nothing
starts it again (`lost_forever`).
-/

namespace SeekTalent.Wtscli

open Foundation

namespace Sidecar

section Spawns

variable {s : Sidecar} {timeout : Nat}

/-! ## Spawns -/

@[simp] lemma children_removeRecord (o : DaemonCustody) : o.removeRecord.children = o.children := by
  unfold DaemonCustody.removeRecord
  split <;> rfl

/-- No step but a start in progress spawns a child. -/
lemma length_children_stopOwnedChild (s : Sidecar) :
    s.stopOwnedChild.1.children.length = s.children.length := by
  unfold stopOwnedChild
  split
  · rfl
  · split
    · exact List.length_modify _ _ _
    · rfl

lemma length_children_failMain (s : Sidecar) (message : String) :
    (s.failMain message).children.length = s.children.length := by
  have hstop := length_children_stopOwnedChild s
  unfold Sidecar.failMain
  dsimp only
  split
  · rename_i stopped hstopped
    rw [hstopped] at hstop
    show stopped.toDaemonCustody.removeRecord.children.length = _
    rw [children_removeRecord]
    exact hstop
  · rename_i stopped p hstopped
    rw [hstopped] at hstop
    exact hstop

lemma length_children_handleChildExit (s : Sidecar) (code : Option Int) (signal : Option String) :
    (s.handleChildExit code signal).children.length = s.children.length := by
  have hremoved : s.toDaemonCustody.release.removeRecord.children.length = s.children.length := by
    rw [children_removeRecord]
    rfl
  unfold handleChildExit
  split
  · rfl
  · split
    · exact hremoved
    · exact hremoved

lemma length_children_monitored (s : Sidecar) (answer : HealthAnswer) (now : Nat) :
    (s.monitored timeout answer now).children.length = s.children.length := by
  have hstop := length_children_stopOwnedChild s
  unfold Sidecar.monitored
  split
  · exact length_children_failMain s _
  · rfl
  · split
    · rfl
    · split
      · split
        · split
          · split
            · rename_i stopped hstopped
              rw [hstopped] at hstop
              exact hstop
            · rename_i stopped p hstopped
              rw [hstopped] at hstop
              exact hstop
          · rfl
        · rfl
      · rfl

lemma length_children_requestAnswered (s : Sidecar) (k : Nat) (accepted : Bool) :
    (s.requestAnswered k accepted).children.length = s.children.length := by
  unfold requestAnswered
  split
  · exact List.length_modify _ _ _
  · rfl

lemma length_children_exitWaited (s : Sidecar) (k : Nat) :
    (s.exitWaited k).children.length = s.children.length := by
  unfold Sidecar.exitWaited
  split
  · exact List.length_modify _ _ _
  · rfl

/-- After a shutdown has begun, no step spawns a child. -/
lemma Sound.no_spawn (h : s.Sound) (hstopping : s.stopping = true) (event : SidecarEvent) :
    (s.step timeout event).children.length = s.children.length := by
  unfold Sidecar.step
  split
  · rfl
  · rename_i hrunning
    have hexited : s.exited = false := by simpa using hrunning
    -- Whatever shuts down, nothing is about to start.
    have hidle : (∀ p, s.main ≠ .starting p) ∧ s.restarts = [] := by
      obtain hdone | ⟨p, hp⟩ | ⟨p, hp⟩ := h.stops hstopping
      · rw [hexited] at hdone
        cases hdone
      · refine ⟨fun q hq => ?_, (h.only_main (by rw [hp]; rfl)).2.2.1⟩
        rw [hp] at hq
        cases hq
      · obtain ⟨-, -, hmain, hrestarts⟩ := h.only_signal hp
        refine ⟨fun q hq => ?_, hrestarts⟩
        rw [hq] at hmain
        cases hmain
    obtain ⟨hmain, hrestarts⟩ := hidle
    cases event with
    | wake control parentDied =>
      dsimp only
      split
      · rw [Sidecar.wake, if_pos hstopping]
      · rfl
    | mainHealth answer prepare launched now =>
      dsimp only
      unfold Sidecar.mainHealth
      split
      · exact absurd ‹_› (hmain _)
      · exact absurd ‹_› (hmain _)
      · exact length_children_monitored s answer now
      · rfl
    | restartHealth i answer prepare launched =>
      dsimp only
      rw [Sidecar.restartHealth, hrestarts]
      rfl
    | shutdownAnswered stopper accepted =>
      cases stopper with
      | main =>
        dsimp only [Sidecar.shutdownAnswered]
        split
        · exact absurd ‹_› (hmain _)
        · exact length_children_requestAnswered s _ _
        · exact length_children_requestAnswered s _ _
        · exact length_children_requestAnswered s _ _
        · rfl
      | restart i =>
        dsimp only [Sidecar.shutdownAnswered]
        rw [hrestarts]
        rfl
      | signal =>
        dsimp only [Sidecar.shutdownAnswered]
        split
        · exact length_children_requestAnswered s _ _
        · rfl
    | exitWaited stopper =>
      have hremoved : ∀ k, (s.exitWaited k).toDaemonCustody.removeRecord.children.length =
          s.children.length := by
        intro k
        rw [children_removeRecord]
        exact length_children_exitWaited s k
      cases stopper with
      | main =>
        dsimp only [Sidecar.stopWaited]
        split
        · exact absurd ‹_› (hmain _)
        · exact length_children_exitWaited s _
        · exact hremoved _
        · exact hremoved _
        · rfl
      | restart i =>
        dsimp only [Sidecar.stopWaited]
        rw [hrestarts]
        rfl
      | signal =>
        dsimp only [Sidecar.stopWaited]
        split
        · exact hremoved _
        · rfl
    | dies k => exact List.length_modify _ _ _
    | exitEvent k code signal =>
      dsimp only
      unfold Sidecar.exitEvent
      split
      · rfl
      · split
        · rfl
        · split
          · rw [length_children_handleChildExit]
            exact List.length_set
          · exact List.length_set
    | errorEvent k =>
      dsimp only
      unfold Sidecar.errorEvent
      split
      · rfl
      · split
        · rfl
        · split
          · rw [length_children_handleChildExit]
            exact List.length_set
          · exact List.length_set
    | restartTimer id =>
      dsimp only
      unfold Sidecar.restartTimer
      split <;> rfl
    | signal => rfl

/-- Without anything about the daemon there is no child, and nothing waits. -/
lemma idle_iff : s.load = 0 ↔
    s.child = none ∧ s.timers = [] ∧ s.main.busy = 0 ∧ s.restarts = [] ∧ s.signalled = none := by
  constructor
  · intro h
    simp only [Sidecar.load] at h
    exact ⟨none_of_length (by omega), List.length_eq_zero_iff.mp (by omega), by omega,
      List.length_eq_zero_iff.mp (by omega), none_of_length (by omega)⟩
  · rintro ⟨hchild, htimers, hmain, hrestarts, hsignalled⟩
    simp [Sidecar.load, hchild, htimers, hmain, hrestarts, hsignalled]

/-- A change of the child that is not there. -/
lemma idle_removeRecord (hchild : s.child = none) :
    s.toDaemonCustody.removeRecord.child = none := by
  unfold DaemonCustody.removeRecord
  split
  · exact hchild
  · exact hchild

/-- A daemon that was lost stays lost: a step neither spawns a child nor sets out to. -/
lemma lost_step (h : s.load = 0) (event : SidecarEvent) :
    (s.step timeout event).load = 0 ∧
      (s.step timeout event).children.length = s.children.length := by
  obtain ⟨hchild, htimers, hmain, hrestarts, hsignalled⟩ := idle_iff.mp h
  have hnotBusy : ∀ m, m.busy = 1 → s.main ≠ m := by
    rintro m hm rfl
    rw [hmain] at hm
    cases hm
  -- The main program may go on to any point at which it is not busy.
  have hmove : ∀ (m : MainPoint) (o : DaemonCustody), m.busy = 0 → o.child = none →
      Sidecar.load { s with toDaemonCustody := o, main := m } = 0 :=
    fun m o hm ho => idle_iff.mpr ⟨ho, htimers, hm, hrestarts, hsignalled⟩
  have hremoved := idle_removeRecord hchild
  have hshutdown : ∀ place, (s.shutdown place).load = 0 ∧
      (s.shutdown place).children.length = s.children.length := by
    intro place
    rw [shutdown, stopOwnedChild_none (s := s.beginShutdown) hchild]
    refine ⟨idle_iff.mpr
      ⟨idle_removeRecord (s := s.beginShutdown.onDaemon DaemonCustody.release) rfl, ?_, hmain,
        hrestarts, hsignalled⟩, ?_⟩
    · show s.timers.filter _ = []
      rw [htimers]
      rfl
    · show s.toDaemonCustody.release.removeRecord.children.length = _
      rw [children_removeRecord]
      rfl
  unfold Sidecar.step
  split
  · exact ⟨h, rfl⟩
  cases event with
  | wake control parentDied =>
    dsimp only
    split
    · unfold Sidecar.wake
      split
      · exact ⟨hmove .ended _ rfl hchild, rfl⟩
      · split
        · exact hshutdown _
        · split
          · exact ⟨h, rfl⟩
          · exact ⟨hmove .health _ rfl hchild, rfl⟩
    · exact ⟨h, rfl⟩
  | mainHealth answer prepare launched now =>
    dsimp only
    unfold Sidecar.mainHealth
    split
    · exact absurd ‹_› (hnotBusy _ rfl)
    · exact absurd ‹_› (hnotBusy _ rfl)
    · refine ⟨?_, length_children_monitored s answer now⟩
      unfold Sidecar.monitored
      split
      · rw [failMain, stopOwnedChild_none hchild]
        exact idle_iff.mpr
          ⟨idle_removeRecord (s := s.onDaemon DaemonCustody.release) rfl, htimers, rfl, hrestarts,
            hsignalled⟩
      · exact hmove .loop _ rfl hchild
      · split
        · exact hmove .loop _ rfl hchild
        · rename_i k hsome
          rw [hchild] at hsome
          cases hsome
    · exact ⟨h, rfl⟩
  | restartHealth i answer prepare launched =>
    dsimp only
    rw [Sidecar.restartHealth, hrestarts]
    exact ⟨h, rfl⟩
  | shutdownAnswered stopper accepted =>
    cases stopper with
    | main =>
      dsimp only [Sidecar.shutdownAnswered]
      split
      · exact absurd ‹_› (hnotBusy _ rfl)
      · exact absurd ‹_› (hnotBusy _ rfl)
      · exact absurd ‹_› (hnotBusy _ rfl)
      · exact absurd ‹_› (hnotBusy _ rfl)
      · exact ⟨h, rfl⟩
    | restart i =>
      dsimp only [Sidecar.shutdownAnswered]
      rw [hrestarts]
      exact ⟨h, rfl⟩
    | signal =>
      dsimp only [Sidecar.shutdownAnswered]
      rw [hsignalled]
      exact ⟨h, rfl⟩
  | exitWaited stopper =>
    cases stopper with
    | main =>
      dsimp only [Sidecar.stopWaited]
      split
      · exact absurd ‹_› (hnotBusy _ rfl)
      · exact absurd ‹_› (hnotBusy _ rfl)
      · exact absurd ‹_› (hnotBusy _ rfl)
      · exact absurd ‹_› (hnotBusy _ rfl)
      · exact ⟨h, rfl⟩
    | restart i =>
      dsimp only [Sidecar.stopWaited]
      rw [hrestarts]
      exact ⟨h, rfl⟩
    | signal =>
      dsimp only [Sidecar.stopWaited]
      rw [hsignalled]
      exact ⟨h, rfl⟩
  | dies k => exact ⟨hmove s.main _ hmain hchild, List.length_modify _ _ _⟩
  | exitEvent k code signal =>
    dsimp only
    unfold Sidecar.exitEvent
    split
    · exact ⟨h, rfl⟩
    · split
      · exact ⟨h, rfl⟩
      · split
        · rw [handleChildExit, if_pos (.inr hchild)]
          exact ⟨hmove s.main _ hmain hchild, List.length_set⟩
        · exact ⟨hmove s.main _ hmain hchild, List.length_set⟩
  | errorEvent k =>
    dsimp only
    unfold Sidecar.errorEvent
    split
    · exact ⟨h, rfl⟩
    · split
      · exact ⟨h, rfl⟩
      · split
        · rw [handleChildExit, if_pos (.inr hchild)]
          exact ⟨hmove s.main _ hmain hchild, List.length_set⟩
        · exact ⟨hmove s.main _ hmain hchild, List.length_set⟩
  | restartTimer id =>
    dsimp only
    rw [Sidecar.restartTimer, htimers, if_neg List.not_mem_nil]
    exact ⟨h, rfl⟩
  | signal =>
    dsimp only
    split
    · exact ⟨h, rfl⟩
    · exact hshutdown _

/-- Nothing starts a daemon that was lost, whatever comes. -/
theorem lost_forever (h : s.load = 0) (events : List SidecarEvent) :
    (run (Sidecar.step timeout) s events).children.length = s.children.length := by
  have hlost : (run (Sidecar.step timeout) s events).load = 0 ∧
      (run (Sidecar.step timeout) s events).children.length = s.children.length := by
    refine run_invariant (I := fun t : Sidecar => t.load = 0 ∧
      t.children.length = s.children.length) (fun t event ht => ?_) ⟨h, rfl⟩ events
    obtain ⟨hload, hlength⟩ : (t.step timeout event).load = 0 ∧
        (t.step timeout event).children.length = t.children.length := lost_step ht.1 event
    exact ⟨hload, hlength.trans ht.2⟩
  exact hlost.2

end Spawns

/-! ## Exits -/

section Exits

variable {s : Sidecar} {timeout : Nat}

/-- Where the process has ended, there is no ownership record. -/
def Closed (s : Sidecar) : Prop :=
  s.exited = true → s.records = []

lemma closed_of_exited {t : Sidecar} (hsame : t.exited = s.exited) (hexited : s.exited = false) :
    t.Closed := fun hended => absurd (hexited.symm.trans (hsame.symm.trans hended)) (by decide)

/-- Only the end of a shutdown ends the process, and an error of a child that nobody listens to. -/
lemma exited_stopOwnedChild (s : Sidecar) : s.stopOwnedChild.1.exited = s.exited := by
  unfold stopOwnedChild
  split
  · rfl
  · split <;> rfl

lemma exited_failMain (s : Sidecar) (message : String) :
    (s.failMain message).exited = s.exited := by
  have hstop := exited_stopOwnedChild s
  unfold Sidecar.failMain
  dsimp only
  split
  · rename_i stopped hstopped
    rw [hstopped] at hstop
    exact hstop
  · rename_i stopped p hstopped
    rw [hstopped] at hstop
    exact hstop

lemma exited_launch (s : Sidecar) (launched : LaunchAnswer) :
    (s.launch launched).1.exited = s.exited := by
  have hstop := exited_stopOwnedChild s
  cases launched with
  | unresolved message => rfl
  | refused message =>
    unfold Sidecar.launch
    dsimp only
    split
    · rename_i stopped hstopped
      rw [hstopped] at hstop
      exact hstop
    · rename_i stopped p hstopped
      rw [hstopped] at hstop
      exact hstop
  | unbound running message =>
    have hspawned := exited_stopOwnedChild (s.onDaemon (fun o => o.spawn false running))
    unfold Sidecar.launch
    dsimp only
    split
    · rename_i stopped hstopped
      rw [hstopped] at hspawned
      exact hspawned
    · rename_i stopped p hstopped
      rw [hstopped] at hspawned
      exact hspawned
  | bound running now => rfl

lemma exited_startAnswered (s : Sidecar) (answer : HealthAnswer) (prepare : PrepareAnswer)
    (launched : LaunchAnswer) : (s.startAnswered answer prepare launched).1.exited = s.exited := by
  unfold Sidecar.startAnswered
  split
  · rfl
  · rfl
  · split
    · rfl
    · rfl
    · exact exited_launch _ launched
  · rfl

lemma exited_busyAnswered (s : Sidecar) (answer : HealthAnswer) :
    (s.busyAnswered answer).1.exited = s.exited := by
  unfold Sidecar.busyAnswered
  split <;> rfl

lemma exited_mainStarted (r : Sidecar × StartResult) : (mainStarted r).exited = r.1.exited := by
  obtain ⟨started, result⟩ := r
  cases result with
  | started => rfl
  | failed message => exact exited_failMain started message
  | waits p => rfl

lemma exited_restarted (i : Nat) (r : Sidecar × StartResult) :
    (restarted i r).exited = r.1.exited := by
  obtain ⟨started, result⟩ := r
  cases result <;> rfl

lemma exited_handleChildExit (s : Sidecar) (code : Option Int) (signal : Option String) :
    (s.handleChildExit code signal).exited = s.exited := by
  unfold handleChildExit
  split
  · rfl
  · split <;> rfl

lemma exited_monitored (s : Sidecar) (answer : HealthAnswer) (now : Nat) :
    (s.monitored timeout answer now).exited = s.exited := by
  have hstop := exited_stopOwnedChild s
  unfold Sidecar.monitored
  split
  · exact exited_failMain s _
  · rfl
  · split
    · rfl
    · split
      · split
        · split
          · split
            · rename_i stopped hstopped
              rw [hstopped] at hstop
              exact hstop
            · rename_i stopped p hstopped
              rw [hstopped] at hstop
              exact hstop
          · rfl
        · rfl
      · rfl

lemma exited_requestAnswered (s : Sidecar) (k : Nat) (accepted : Bool) :
    (s.requestAnswered k accepted).exited = s.exited := by
  unfold requestAnswered
  split <;> rfl

lemma exited_exitWaited (s : Sidecar) (k : Nat) : (s.exitWaited k).exited = s.exited := by
  unfold Sidecar.exitWaited
  split <;> rfl

/-- The end of a shutdown leaves no ownership record. -/
lemma records_finishShutdown (hcurrent : ∀ token ∈ s.records, s.daemonToken = some token) :
    s.finishShutdown.records = [] :=
  DaemonCustody.records_removeRecord hcurrent

/-- A shutdown that ends at once leaves no ownership record. -/
lemma closed_shutdown (hexited : s.exited = false)
    (hcurrent : ∀ token ∈ s.records, s.daemonToken = some token)
    {place : StopPoint → Sidecar → Sidecar}
    (hplace : ∀ p t, (place p t).exited = t.exited) : (s.shutdown place).Closed := by
  have hstop := exited_stopOwnedChild s.beginShutdown
  unfold shutdown
  cases hchild : s.beginShutdown.child with
  | none =>
    rw [stopOwnedChild_none hchild]
    exact fun _ => records_finishShutdown hcurrent
  | some k =>
    obtain ⟨p, o, hstopped, -⟩ := stopOwnedChild_some hchild
    rw [hstopped] at hstop ⊢
    exact closed_of_exited (hplace p _ |>.trans hstop) hexited

/-- The process ends without an ownership record. -/
lemma Sound.closed (h : s.Sound) (hclosed : s.Closed) {event : SidecarEvent}
    (horderly : s.Orderly timeout event) : (s.step timeout event).Closed := by
  unfold Sidecar.step
  split
  · exact hclosed
  rename_i hrunning
  have hexited : s.exited = false := by simpa using hrunning
  have hcurrent := h.accounted.current
  -- A step that leaves the process running has nothing to show.
  have hruns : ∀ {t : Sidecar}, t.exited = s.exited → t.Closed := fun hsame =>
    closed_of_exited hsame hexited
  have hfinished : ∀ k, (s.exitWaited k).finishShutdown.Closed := by
    intro k _
    refine records_finishShutdown ?_
    unfold Sidecar.exitWaited
    split
    · exact hcurrent
    · exact hcurrent
  cases event with
  | wake control parentDied =>
    dsimp only
    split
    · unfold Sidecar.wake
      split
      · exact hruns rfl
      · split
        · exact closed_shutdown hexited hcurrent fun _ _ => rfl
        · split
          · exact hruns rfl
          · exact hruns rfl
    · exact hclosed
  | mainHealth answer prepare launched now =>
    dsimp only [Sidecar.mainHealth]
    split
    · exact hruns ((exited_mainStarted _).trans (exited_startAnswered s _ _ _))
    · exact hruns ((exited_mainStarted _).trans (exited_busyAnswered s _))
    · exact hruns (exited_monitored s _ _)
    · exact hclosed
  | restartHealth i answer prepare launched =>
    dsimp only [Sidecar.restartHealth]
    split
    · exact hruns ((exited_restarted i _).trans (exited_startAnswered s _ _ _))
    · exact hruns ((exited_restarted i _).trans (exited_busyAnswered s _))
    · exact hclosed
  | shutdownAnswered stopper accepted =>
    cases stopper with
    | main =>
      dsimp only [Sidecar.shutdownAnswered]
      split
      · exact hruns (exited_requestAnswered s _ _)
      · exact hruns (exited_requestAnswered s _ _)
      · exact hruns (exited_requestAnswered s _ _)
      · exact hruns (exited_requestAnswered s _ _)
      · exact hclosed
    | restart i =>
      dsimp only [Sidecar.shutdownAnswered]
      split
      · exact hruns (exited_requestAnswered s _ _)
      · exact hclosed
    | signal =>
      dsimp only [Sidecar.shutdownAnswered]
      split
      · exact hruns (exited_requestAnswered s _ _)
      · exact hclosed
  | exitWaited stopper =>
    cases stopper with
    | main =>
      dsimp only [Sidecar.stopWaited]
      split
      · exact hruns ((exited_mainStarted _).trans (exited_exitWaited s _))
      · exact hruns (exited_exitWaited s _)
      · exact hfinished _
      · exact hruns (exited_exitWaited s _)
      · exact hclosed
    | restart i =>
      dsimp only [Sidecar.stopWaited]
      split
      · exact hruns ((exited_restarted i _).trans (exited_exitWaited s _))
      · exact hclosed
    | signal =>
      dsimp only [Sidecar.stopWaited]
      split
      · exact hfinished _
      · exact hclosed
  | dies k => exact hruns rfl
  | exitEvent k code signal =>
    dsimp only [Sidecar.exitEvent]
    split
    · exact hclosed
    · split
      · exact hclosed
      · split
        · exact hruns (exited_handleChildExit _ _ _)
        · exact hruns rfl
  | errorEvent k =>
    dsimp only [Sidecar.errorEvent]
    split
    · exact hclosed
    · rename_i d hd
      split
      · exact hclosed
      · split
        · exact hruns (exited_handleChildExit _ _ _)
        · rename_i hdeaf
          exact fun _ => (horderly.1 d hd).resolve_left hdeaf
  | restartTimer id =>
    dsimp only [Sidecar.restartTimer]
    split
    · exact hruns rfl
    · exact hclosed
  | signal =>
    dsimp only
    split
    · exact hclosed
    · exact closed_shutdown hexited hcurrent fun _ _ => rfl

end Exits

/-! ## The daemon is kept -/

/-- A child that is listened to and of which nothing was reported, a restart timer, or a start or a
stop in progress. -/
def Supervising (s : Sidecar) : Prop :=
  (∃ k, s.child = some k ∧ ∃ d, s.children[k]? = some d ∧ d.listening = true ∧
    d.exitReported = false ∧
    d.errorReported = false) ∨ s.timers ≠ [] ∨ s.restarts ≠ [] ∨ s.main.busy = 1 ∨
      s.signalled ≠ none

/-- A child runs and was not asked to stop. -/
def Unasked (s : Sidecar) (k : Nat) : Prop :=
  ∃ d, s.children[k]? = some d ∧ d.running = true ∧ d.asked = false

/-- The daemon is not lost: while the sidecar neither ends, nor shuts down, nor asks for attention,
its daemon is watched or about to be started; at most one child runs without being asked to stop;
restarts are within the budget; the ownership record of a child that was reported is kept only while
the child is being stopped, by a stop that goes on; and the process ends without an ownership
record. -/
structure DaemonKept (s : Sidecar) : Prop where
  supervised : s.exited = false → s.stopping = false → s.attentionReason = none → s.Supervising
  single : ∀ k l, s.Unasked k → s.Unasked l → k = l
  budget : s.begun ≤ maxRestarts
  records : ∀ (k : Nat) (d : DaemonChild), s.children[k]? = some d →
    d.exitReported = true ∨ d.errorReported = true → d.token ∈ s.records →
      s.exited = false ∧ k ∈ s.targets
  closed : s.Closed

/-- A step spawns no child once a shutdown has begun. -/
def NoLateSpawn (timeout : Nat) (s : Sidecar) (event : SidecarEvent) : Prop :=
  s.stopping = true → (s.step timeout event).children.length = s.children.length

/-- No more children are being stopped than there are stops. -/
lemma length_targets_le (s : Sidecar) :
    s.targets.length ≤ s.main.busy + s.restarts.length + s.signalled.toList.length := by
  have hstart : ∀ p : StartPoint, p.targets.length ≤ 1 := by
    intro p
    cases p <;> simp [StartPoint.targets]
  have hmain : s.main.targets.length ≤ s.main.busy := by
    cases s.main with
    | starting p => exact hstart p
    | _ => exact Nat.le_refl _
  have hrestarts : (s.restarts.flatMap StartPoint.targets).length ≤ s.restarts.length := by
    induction s.restarts with
    | nil => exact Nat.le_refl _
    | cons p rest ih =>
      have hp := hstart p
      rw [List.flatMap_cons, List.length_append, List.length_cons]
      omega
  rw [Sidecar.targets, List.length_append, List.length_append, List.length_map]
  omega

/-- The invariant says that the daemon is kept. -/
lemma Sound.daemonKept {s : Sidecar} (h : s.Sound) (hclosed : s.Closed) : s.DaemonKept := by
  refine ⟨fun hexited hstopping hnone => ?_, fun k l hk hl => ?_, ?_,
    fun k d hd hreported hrecord => ⟨?_, ?_⟩, hclosed⟩
  · have hload := h.supervised hexited hstopping hnone
    by_contra hlost
    simp only [Supervising, not_or, ne_eq, not_not] at hlost
    obtain ⟨hchild, htimers, hrestarts, hmain, hsignalled⟩ := hlost
    cases hwatched : s.child with
    | some k =>
      exact hchild ⟨k, hwatched, h.accounted.watched k hwatched⟩
    | none =>
      have hbusy : s.main.busy = 0 ∨ s.main.busy = 1 := by
        cases s.main <;> simp [MainPoint.busy]
      simp only [Sidecar.load, hwatched, htimers, hrestarts, hsignalled, Option.toList_none,
        List.length_nil] at hload
      omega
  · have hone : ∀ j, s.Unasked j → j ∈ s.child.toList ++ s.targets := by
      rintro j ⟨d, hd, hruns, hfree⟩
      obtain hchild | htarget := h.accounted.unasked j d hd hruns hfree
      · exact List.mem_append_left _ (by simp [hchild])
      · exact List.mem_append_right _ htarget
    have hlength : (s.child.toList ++ s.targets).length ≤ 1 := by
      have hload := h.load
      have htargets := length_targets_le s
      simp only [Sidecar.load] at hload
      rw [List.length_append]
      omega
    obtain ⟨j, hj⟩ := List.length_eq_one_iff.mp
      (Nat.le_antisymm hlength (List.length_pos_of_mem (hone k hk)))
    have hk' := hone k hk
    have hl' := hone l hl
    rw [hj] at hk' hl'
    rw [List.mem_singleton.mp hk', List.mem_singleton.mp hl']
  · have hbudget := h.budget
    omega
  · cases hexited : s.exited with
    | false => rfl
    | true =>
      rw [hclosed hexited] at hrecord
      cases hrecord
  · obtain hchild | htarget := h.accounted.kept k d hd hrecord
    · obtain ⟨watched, hwatched, -, hexit, herror⟩ := h.accounted.watched k hchild
      obtain rfl : d = watched := Option.some.inj (hd.symm.trans hwatched)
      rw [hexit, herror] at hreported
      simp at hreported
    · exact htarget

/-- The sidecar starts with the start of its daemon. -/
lemma sound_initial : Sidecar.initial.Sound := by
  refine ⟨⟨?_, fun hstopping => (nomatch hstopping), fun p hp => (nomatch hp), ?_, ?_, fun _ => rfl,
    ⟨fun k hk =>
      (nomatch hk), fun k d hd => ?_, fun k d hd => ?_, fun token hmem => ?_, fun k d hd => ?_,
        fun k d hd => ?_⟩⟩, fun _ _ _ => rfl⟩
  · decide
  · decide
  · decide
  · exact absurd hd (by simp [Sidecar.initial])
  · exact absurd hd (by simp [Sidecar.initial])
  · exact absurd hmem List.not_mem_nil
  · exact absurd hd (by simp [Sidecar.initial])
  · exact absurd hd (by simp [Sidecar.initial])

/-- In every run in which the monitor does not give up on a silent child and the events of a child
come while it is the child, an error of one that is listened to, the daemon is kept in the state
reached, and no step of the run has spawned a child after the beginning of a shutdown. -/
theorem daemonKept_of_orderly (timeout : Nat) (events : List SidecarEvent)
    (horderly : Along (Sidecar.step timeout) (Sidecar.Orderly timeout) Sidecar.initial events) :
    (run (Sidecar.step timeout) Sidecar.initial events).DaemonKept ∧
      Along (Sidecar.step timeout) (NoLateSpawn timeout) Sidecar.initial events := by
  have hstep : ∀ s event, Sidecar.Sound s ∧ s.Closed → Sidecar.Orderly timeout s event →
      (s.step timeout event).Sound ∧ (s.step timeout event).Closed :=
    fun s event h hevent => ⟨h.1.step hevent, h.1.closed h.2 hevent⟩
  have hinitial : Sidecar.initial.Sound ∧ Sidecar.initial.Closed := ⟨sound_initial, fun _ => rfl⟩
  have hreached := run_preserves hstep horderly hinitial
  exact ⟨hreached.1.daemonKept hreached.2,
    along_of_invariant hstep (fun s event h _ hstopping => h.1.no_spawn hstopping event) horderly
    hinitial⟩

/-! ## A daemon that does not listen -/

/-- The daemon is started, and does not listen within forty seconds: the monitor asks it to shut
down, which it does; its exit is reported, and the wait for it ends. -/
def silentDaemon : List SidecarEvent :=
  [.mainHealth (.health .stopped false) .prepared (.bound true 0) 0,
    .wake false false,
    .mainHealth (.health .stopped false) .prepared (.bound true 0) 40000,
    .shutdownAnswered .main true,
    .dies 0,
    .exitEvent 0 (some 0) none,
    .exitWaited .main]

/-- Nothing watches or restarts the daemon, and its ownership record stays; the status says warming,
and whatever comes, no daemon is spawned again. -/
theorem silentDaemon_lost :
    ¬ (run (Sidecar.step 40000) Sidecar.initial silentDaemon).DaemonKept ∧
      (run (Sidecar.step 40000) Sidecar.initial silentDaemon).published = .warming ∧
      (run (Sidecar.step 40000) Sidecar.initial silentDaemon).records = [0] ∧
      ∀ events, (run (Sidecar.step 40000) (run (Sidecar.step 40000) Sidecar.initial silentDaemon)
        events).children.length = 1 := by
  refine ⟨fun hkept => ?_, by decide, by decide, lost_forever (by decide)⟩
  obtain ⟨k, hchild, -⟩ | htimers | hrestarts | hbusy | hsignalled :=
    hkept.supervised (by decide) (by decide) (by decide)
  · exact absurd hchild
      (by simp [show (run (Sidecar.step 40000) Sidecar.initial silentDaemon).child = none
      by decide])
  · exact htimers (by decide)
  · exact hrestarts (by decide)
  · exact absurd hbusy (by decide)
  · exact hsignalled (by decide)

/-- A daemon that fails is started again. -/
def failingDaemon : List SidecarEvent :=
  [.mainHealth (.health .stopped false) .prepared (.bound true 0) 0,
    .wake false false,
    .dies 0,
    .exitEvent 0 (some 1) none,
    .mainHealth (.health .stopped false) .prepared (.bound true 0) 40000,
    .restartTimer 1,
    .restartHealth 0 (.health .stopped false) .prepared (.bound true 40250)]

/-- The theorem at a daemon that fails. -/
theorem daemonKept_of_orderly_failing :
    (run (Sidecar.step 40000) Sidecar.initial failingDaemon).DaemonKept ∧
      Along (Sidecar.step 40000) (NoLateSpawn 40000) Sidecar.initial failingDaemon := by
  refine daemonKept_of_orderly 40000 failingDaemon
    ⟨?_, trivial, trivial, ?_, ?_, trivial, trivial, trivial⟩
  · rintro ⟨hmain, -⟩
    exact absurd hmain (by decide)
  · intro c hc
    exact (Option.some.inj hc).symm
  · rintro ⟨-, -, ⟨k, hk, -⟩, -⟩
    exact absurd hk (by
      rw [show (Sidecar.step 40000 (Sidecar.step 40000 (Sidecar.step 40000 (Sidecar.step 40000
        Sidecar.initial (.mainHealth (.health .stopped false) .prepared (.bound true 0) 0))
        (.wake false false)) (.dies 0)) (.exitEvent 0 (some 1) none)).child = none by decide]
      simp)

end Sidecar

end SeekTalent.Wtscli
