import Mathlib.Data.List.Dedup
import SeekTalent.Diagnostics.DiagnosticsRedaction

/-!
# Omitted fields do not show

`Agree allowlist` relates two payloads that hold the same at every allowlisted path: the same kept
fields in the same order, as many fields in each allowlisted mapping, and the same omission rules,
each as often, whatever the names, the contents and the places of the omitted fields.
-/

namespace SeekTalent.Diagnostics

open Foundation

variable {v w : DiagnosticValue}

/-! ## Agreement -/

/-- The rules under which a mapping's fields are omitted. -/
def omittedRules (fields : List (Option String × Allowlist))
    (members : List (Option String × DiagnosticValue)) : List String :=
  (members.filterMap Prod.fst).filterMap fun key =>
    match fieldVerdict fields key with
    | .omitted rule => some rule
    | .kept _ => none

mutual

/-- Two payloads that hold the same at every allowlisted path. -/
inductive Agree : Allowlist → DiagnosticValue → DiagnosticValue → Prop
  | scalar {contract : ScalarContract} {v w : DiagnosticValue}
      (hscalar : validateScalar v contract = validateScalar w contract) : Agree (.contract contract)
      v w
  | mapping {fields : List (Option String × Allowlist)}
      {a b : List (Option String × DiagnosticValue)} (hlength : a.length = b.length)
      (homitted : (omittedRules fields a).Perm (omittedRules fields b))
      (hmembers : AgreeMembers fields a b) : Agree (.mapping fields) (.mapping a) (.mapping b)
  | notMapping {fields : List (Option String × Allowlist)} {v w : DiagnosticValue}
      (hv : ∀ a, v ≠ .mapping a) (hw : ∀ b, w ≠ .mapping b) : Agree (.mapping fields) v w
  | sequence {children : List Allowlist} {a b : List DiagnosticValue}
      (hitems : AgreeItems children a b) : Agree (.sequence children) (.sequence a) (.sequence b)
  | notSequence {children : List Allowlist} {v w : DiagnosticValue}
      (hv : ∀ a, v ≠ .sequence a) (hw : ∀ b, w ≠ .sequence b) : Agree (.sequence children) v w

/-- The kept fields of two mappings agree, in order. -/
inductive AgreeMembers : List (Option String × Allowlist) → List (Option String × DiagnosticValue) →
    List (Option String × DiagnosticValue) → Prop
  | nil {fields : List (Option String × Allowlist)} : AgreeMembers fields [] []
  | omitLeft {fields : List (Option String × Allowlist)} {key rule : String} {v : DiagnosticValue}
      {a b : List (Option String × DiagnosticValue)}
      (hverdict : fieldVerdict fields key = .omitted rule)
      (hrest : AgreeMembers fields a b) : AgreeMembers fields ((some key, v) :: a) b
  | omitRight {fields : List (Option String × Allowlist)} {key rule : String} {w : DiagnosticValue}
      {a b : List (Option String × DiagnosticValue)}
      (hverdict : fieldVerdict fields key = .omitted rule)
      (hrest : AgreeMembers fields a b) : AgreeMembers fields a ((some key, w) :: b)
  | keep {fields : List (Option String × Allowlist)} {key : String} {child : Allowlist}
      {v w : DiagnosticValue} {a b : List (Option String × DiagnosticValue)}
      (hverdict : fieldVerdict fields key = .kept child) (hchild : Agree child v w)
      (hrest : AgreeMembers fields a b) :
      AgreeMembers fields ((some key, v) :: a) ((some key, w) :: b)
  /-- Nothing is read behind a key that is not text. -/
  | badKey {fields : List (Option String × Allowlist)} {v w : DiagnosticValue}
      {a b : List (Option String × DiagnosticValue)} :
      AgreeMembers fields ((none, v) :: a) ((none, w) :: b)

/-- The items of two sequences agree, in order. -/
inductive AgreeItems : List Allowlist → List DiagnosticValue → List DiagnosticValue → Prop
  | nil {children : List Allowlist} : AgreeItems children [] []
  | cons {child : Allowlist} {more : List Allowlist} {v w : DiagnosticValue}
      {a b : List DiagnosticValue}
      (hitem : Agree child v w) (hrest : AgreeItems (child :: more) a b) :
      AgreeItems (child :: more) (v :: a) (w :: b)

end

/-! ## Runs that show the same -/

/-- Two walks end alike: with one error, or with one value, one use of the budgets, and what they
report beside `left` and `right` shared. -/
def SameRun {α : Type} (s t : WalkState) (left right : List (String × String)) :
    Except String (α × WalkState) → Except String (α × WalkState) → Prop
  | .error e, .error e' => e = e'
  | .ok run, .ok run' => run.1 = run'.1 ∧ run.2.nodes = run'.2.nodes ∧ run.2.keys = run'.2.keys ∧
      ∃ shared, run.2.reports.Perm (s.reports ++ (left ++ shared)) ∧
        run'.2.reports.Perm (t.reports ++ (right ++ shared))
  | _, _ => False

variable {α β : Type} {s t : WalkState} {left right : List (String × String)}

/-- Two walks that stop at one error. -/
lemma sameRun_error (e : String) :
    SameRun s t left right (.error e : Except String (α × WalkState)) (.error e) := rfl

/-- Two walks that return one value at once. -/
lemma sameRun_ok (value : α) {s' t' : WalkState} (hnodes : s'.nodes = t'.nodes)
    (hkeys : s'.keys = t'.keys) (hs : s'.reports = s.reports) (ht : t'.reports = t.reports) :
    SameRun s t [] [] (.ok (value, s')) (.ok (value, t')) := by
  refine ⟨rfl, hnodes, hkeys, [], ?_, ?_⟩
  · simp [hs]
  · simp [ht]

/-- What a second walk reports stands behind what the first one reported. -/
lemma perm_reports {first second start more more' shared shared' : List (String × String)}
    (hfirst : first.Perm (start ++ (more ++ shared)))
    (hsecond : second.Perm (first ++ (more' ++ shared'))) :
    second.Perm (start ++ (more ++ more' ++ (shared ++ shared'))) := by
  rw [List.perm_iff_count] at hfirst hsecond ⊢
  intro entry
  have h1 := hfirst entry
  have h2 := hsecond entry
  simp only [List.count_append] at h1 h2 ⊢
  omega

variable {x y : Except String (α × WalkState)}

/-- One walk behind the other. -/
lemma SameRun.bind {left' right' : List (String × String)}
    {f g : α × WalkState → Except String (β × WalkState)} (hfirst : SameRun s t left right x y)
    (hsecond : ∀ value s' t', s'.nodes = t'.nodes → s'.keys = t'.keys →
      SameRun s' t' left' right' (f (value, s')) (g (value, t'))) :
    SameRun s t (left ++ left') (right ++ right') (x >>= f) (y >>= g) := by
  cases x with
  | error e =>
    cases y with
    | error e' => exact hfirst
    | ok run' => exact hfirst.elim
  | ok run =>
    cases y with
    | error e' => exact hfirst.elim
    | ok run' =>
      obtain ⟨value, s'⟩ := run
      obtain ⟨value', t'⟩ := run'
      obtain ⟨rfl, hnodes, hkeys, shared, hs, ht⟩ := hfirst
      have hnext := hsecond value s' t' hnodes hkeys
      show SameRun s t _ _ (f (value, s')) (g (value, t'))
      generalize f (value, s') = second, g (value, t') = second' at hnext ⊢
      cases second with
      | error e =>
        cases second' with
        | error e' => exact hnext
        | ok last' => exact hnext.elim
      | ok last =>
        cases second' with
        | error e' => exact hnext.elim
        | ok last' =>
          obtain ⟨hvalue, hnodes', hkeys', shared', hs', ht'⟩ := hnext
          exact ⟨hvalue, hnodes', hkeys', shared ++
            shared', perm_reports hs hs', perm_reports ht ht'⟩

/-- Two walks whose values are used alike. -/
lemma SameRun.map (f : α → β) (h : SameRun s t left right x y) :
    SameRun s t left right (x >>= fun run => pure (f run.1, run.2))
      (y >>= fun run => pure (f run.1, run.2)) := by
  rw [← List.append_nil left, ← List.append_nil right]
  exact h.bind fun value s' t' hnodes hkeys => sameRun_ok (f value) hnodes hkeys rfl rfl

/-- Walks from states that an omitted field was reported to. -/
lemma SameRun.omitLeft {rule path : String} (h : SameRun (s.report rule path) t left right x y) :
    SameRun s t ((rule, path) :: left) right x y := by
  cases x with
  | error e => cases y <;> exact h
  | ok run =>
    cases y with
    | error e' => exact h
    | ok run' =>
      obtain ⟨hvalue, hnodes, hkeys, shared, hs, ht⟩ := h
      exact ⟨hvalue, hnodes, hkeys, shared, by simpa [WalkState.report] using hs, ht⟩

/-- The same on the right. -/
lemma SameRun.omitRight {rule path : String} (h : SameRun s (t.report rule path) left right x y) :
    SameRun s t left ((rule, path) :: right) x y := by
  cases x with
  | error e => cases y <;> exact h
  | ok run =>
    cases y with
    | error e' => exact h
    | ok run' =>
      obtain ⟨hvalue, hnodes, hkeys, shared, hs, ht⟩ := h
      exact ⟨hvalue, hnodes, hkeys, shared, hs, by simpa [WalkState.report] using ht⟩

/-- What both walks report is shared. -/
lemma SameRun.share (hperm : left.Perm right)
    (h : SameRun s t left right x y) : SameRun s t [] [] x y := by
  cases x with
  | error e => cases y <;> exact h
  | ok run =>
    cases y with
    | error e' => exact h
    | ok run' =>
      obtain ⟨hvalue, hnodes, hkeys, shared, hs, ht⟩ := h
      refine ⟨hvalue, hnodes, hkeys, left ++ shared, hs, ht.trans ?_⟩
      exact (hperm.symm.append_right shared).append_left t.reports

/-! ## The walk -/

/-- The walks of two values show the same, from states with one use of the budgets. -/
def RunsAlike (allowlist : Allowlist) (v w : DiagnosticValue) : Prop :=
  ∀ (path : String) (depth : Nat) (s t : WalkState), s.nodes = t.nodes → s.keys = t.keys →
    SameRun s t [] [] (project v allowlist path depth s) (project w allowlist path depth t)

/-- The reports of a mapping's omitted fields. -/
def omittedReports (fields : List (Option String × Allowlist)) (path : String)
    (members : List (Option String × DiagnosticValue)) : List (String × String) :=
  (omittedRules fields members).map fun rule => (rule, redactedPath path)

/-- The walks of two mappings' members show the same beside their omitted fields. -/
def MembersAlike (fields : List (Option String × Allowlist))
    (a b : List (Option String × DiagnosticValue)) : Prop :=
  ∀ (path : String) (depth : Nat) (s t : WalkState), s.nodes = t.nodes → s.keys = t.keys →
    SameRun s t (omittedReports fields path a) (omittedReports fields path b)
      (projectMembers a fields path depth s) (projectMembers b fields path depth t)

/-- The walks of two sequences' items show the same. -/
def ItemsAlike (children : List Allowlist) (a b : List DiagnosticValue) : Prop :=
  ∀ (path : String) (depth : Nat) (s t : WalkState), s.nodes = t.nodes → s.keys = t.keys →
    SameRun s t [] [] (projectItems a children path depth s) (projectItems b children path depth t)

/-- What a state adds to the node budget. -/
lemma addNode_eq (s : WalkState) : s.addNode =
    if s.nodes + 1 ≤ 1024 then .ok { s with nodes := s.nodes + 1 }
    else .error "diagnostics_redaction_budget_exceeded" := by
  unfold WalkState.addNode require
  split <;> rfl

/-- What a state adds to the key budget. -/
lemma addKeys_eq (s : WalkState) (count : Nat) : s.addKeys count =
    if s.keys + count ≤ 512 then .ok { s with keys := s.keys + count }
    else .error "diagnostics_redaction_budget_exceeded" := by
  unfold WalkState.addKeys require
  split <;> rfl

/-- Two walks that make one check. -/
lemma sameRun_require {c c' : Prop} [Decidable c] [Decidable c'] {e : String}
    {f g : Unit → Except String (α × WalkState)} (hc : c ↔ c')
    (hbody : SameRun s t left right (f ()) (g ())) :
    SameRun s t left right (require c e >>= f) (require c' e >>= g) := by
  by_cases h : c
  · rw [require, require, if_pos h, if_pos (hc.mp h)]
    exact hbody
  · rw [require, require, if_neg h, if_neg fun h' => h (hc.mpr h')]
    exact sameRun_error e

/-- Both walks enter a node alike: they stop at one error, or go on from states with one use of the
budgets. -/
lemma sameRun_enter {depth : Nat} {f g : WalkState → Except String (α × WalkState)}
    (hnodes : s.nodes = t.nodes) (hkeys : s.keys = t.keys)
    (hbody : ∀ s' t' : WalkState, s'.nodes = t'.nodes → s'.keys = t'.keys →
      SameRun s' t' [] [] (f s') (g t')) :
    SameRun s t [] []
      (s.addNode >>= fun s => require (depth ≤ 3) "diagnostics_redaction_too_deep" >>= fun _ => f s)
      (t.addNode >>= fun t => require (depth ≤ 3) "diagnostics_redaction_too_deep" >>= fun _ =>
        g t) := by
  rw [addNode_eq, addNode_eq, ← hnodes]
  split
  · exact sameRun_require Iff.rfl
      (hbody { s with nodes := s.nodes + 1 } { t with nodes := s.nodes + 1 } rfl hkeys)
  · exact sameRun_error _

/-- Both walks enter a mapping alike. -/
lemma sameRun_addKeys {count : Nat} {f g : WalkState → Except String (α × WalkState)}
    (hnodes : s.nodes = t.nodes) (hkeys : s.keys = t.keys)
    (hbody : ∀ s' t' : WalkState, s'.nodes = t'.nodes → s'.keys = t'.keys →
      SameRun s' t' left right (f s') (g t')) :
    SameRun s t left right (s.addKeys count >>= f) (t.addKeys count >>= g) := by
  rw [addKeys_eq, addKeys_eq, ← hkeys]
  split
  · exact hbody { s with keys := s.keys + count } { t with keys := s.keys + count } hnodes rfl
  · exact sameRun_error _

lemma runsAlike_scalar {contract : ScalarContract}
    (hscalar : validateScalar v contract = validateScalar w contract) :
    RunsAlike (.contract contract) v w := by
  intro path depth s t hnodes hkeys
  rw [project_contract, project_contract]
  refine sameRun_enter hnodes hkeys fun s' t' hnodes' hkeys' => ?_
  rw [hscalar]
  cases validateScalar w contract with
  | error e => exact sameRun_error _
  | ok value => exact sameRun_ok value hnodes' hkeys' rfl rfl

lemma runsAlike_mapping {fields : List (Option String × Allowlist)}
    {a b : List (Option String × DiagnosticValue)} (hlength : a.length = b.length)
    (homitted : (omittedRules fields a).Perm (omittedRules fields b))
    (hmembers : MembersAlike fields a b) :
    RunsAlike (.mapping fields) (.mapping a) (.mapping b) := by
  intro path depth s t hnodes hkeys
  rw [project, project]
  refine sameRun_enter hnodes hkeys fun s' t' hnodes' hkeys' => ?_
  dsimp only
  refine sameRun_require (by rw [hlength]) ?_
  rw [hlength]
  refine sameRun_addKeys hnodes' hkeys' fun s₂ t₂ hnodes₂ hkeys₂ => ?_
  exact ((hmembers path (depth + 1) s₂ t₂ hnodes₂ hkeys₂).share (homitted.map _)).map
    DiagnosticValue.mapping

lemma runsAlike_notMapping {fields : List (Option String × Allowlist)}
    (hv : ∀ a, v ≠ .mapping a) (hw : ∀ b, w ≠ .mapping b) : RunsAlike (.mapping fields) v w := by
  intro path depth s t hnodes hkeys
  rw [project, project]
  refine sameRun_enter hnodes hkeys fun s' t' hnodes' hkeys' => ?_
  cases v with
  | mapping a => exact absurd rfl (hv a)
  | _ =>
    cases w with
    | mapping b => exact absurd rfl (hw b)
    | _ => exact sameRun_error _

lemma runsAlike_sequence {children : List Allowlist} {a b : List DiagnosticValue}
    (hlength : a.length = b.length) (hitems : ItemsAlike children a b) :
    RunsAlike (.sequence children) (.sequence a) (.sequence b) := by
  intro path depth s t hnodes hkeys
  rw [project, project]
  refine sameRun_enter hnodes hkeys fun s' t' hnodes' hkeys' => ?_
  dsimp only
  refine sameRun_require (by rw [hlength]) ?_
  exact (hitems (path ++ ".<item>") (depth + 1) s' t' hnodes' hkeys').map
    DiagnosticValue.sequence

lemma runsAlike_notSequence {children : List Allowlist}
    (hv : ∀ a, v ≠ .sequence a) (hw : ∀ b, w ≠ .sequence b) :
    RunsAlike (.sequence children) v w := by
  intro path depth s t hnodes hkeys
  rw [project, project]
  refine sameRun_enter hnodes hkeys fun s' t' hnodes' hkeys' => ?_
  cases v with
  | sequence a => exact absurd rfl (hv a)
  | _ =>
    cases w with
    | sequence b => exact absurd rfl (hw b)
    | _ => exact sameRun_error _

section Members

variable {fields : List (Option String × Allowlist)} {key rule : String} {child : Allowlist}
  {v w : DiagnosticValue} {a b : List (Option String × DiagnosticValue)}

/-- An omitted field is reported. -/
lemma omittedReports_omit (hverdict : fieldVerdict fields key = .omitted rule) (path : String) :
    omittedReports fields path ((some key, v) :: a) =
      (rule, redactedPath path) :: omittedReports fields path a := by
  simp [omittedReports, omittedRules, hverdict]

/-- A kept field is not. -/
lemma omittedReports_keep (hverdict : fieldVerdict fields key = .kept child) (path : String) :
    omittedReports fields path ((some key, v) :: a) = omittedReports fields path a := by
  simp [omittedReports, omittedRules, hverdict]

lemma membersAlike_omitLeft (hverdict : fieldVerdict fields key = .omitted rule)
    (hrest : MembersAlike fields a b) : MembersAlike fields ((some key, v) :: a) b := by
  intro path depth s t hnodes hkeys
  rw [projectMembers_omit hverdict, omittedReports_omit hverdict]
  exact (hrest path depth (s.report rule (redactedPath path)) t hnodes hkeys).omitLeft

lemma membersAlike_omitRight (hverdict : fieldVerdict fields key = .omitted rule)
    (hrest : MembersAlike fields a b) : MembersAlike fields a ((some key, w) :: b) := by
  intro path depth s t hnodes hkeys
  rw [projectMembers_omit hverdict, omittedReports_omit hverdict]
  exact (hrest path depth s (t.report rule (redactedPath path)) hnodes hkeys).omitRight

lemma membersAlike_keep (hverdict : fieldVerdict fields key = .kept child)
    (hchild : RunsAlike child v w) (hrest : MembersAlike fields a b) :
    MembersAlike fields ((some key, v) :: a) ((some key, w) :: b) := by
  intro path depth s t hnodes hkeys
  rw [projectMembers_keep hverdict, projectMembers_keep hverdict, omittedReports_keep hverdict,
    omittedReports_keep hverdict]
  refine (hchild (safePath path) depth s t hnodes hkeys).bind fun kept s' t' hnodes' hkeys' => ?_
  exact (hrest path depth s' t' hnodes' hkeys').map fun rest => (some key, kept) :: rest

end Members

lemma itemsAlike_cons {child : Allowlist} {more : List Allowlist}
    {a b : List DiagnosticValue} (hitem : RunsAlike child v w)
    (hrest : ItemsAlike (child :: more) a b) : ItemsAlike (child :: more) (v :: a) (w :: b) := by
  intro path depth s t hnodes hkeys
  rw [projectItems, projectItems]
  refine (hitem path depth s t hnodes hkeys).bind fun kept s' t' hnodes' hkeys' => ?_
  exact (hrest path depth s' t' hnodes' hkeys').map fun rest => kept :: rest

/-- The walks of payloads that agree show the same. -/
theorem runsAlike_of_agree {allowlist : Allowlist}
    (h : Agree allowlist v w) : RunsAlike allowlist v w := by
  refine @Agree.rec (fun allowlist v w _ => RunsAlike allowlist v w)
    (fun fields a b _ => MembersAlike fields a b)
    (fun children a b _ => a.length = b.length ∧ ItemsAlike children a b)
    runsAlike_scalar
    (fun hlength homitted _ hmembers => runsAlike_mapping hlength homitted hmembers)
    runsAlike_notMapping (fun _ hitems => runsAlike_sequence hitems.1 hitems.2)
    runsAlike_notSequence
    ?_ (fun hverdict _ hrest => membersAlike_omitLeft hverdict hrest)
    (fun hverdict _ hrest => membersAlike_omitRight hverdict hrest)
    (fun hverdict _ _ hchild hrest => membersAlike_keep hverdict hchild hrest)
    ?_ ?_ ?_ allowlist v w h
  · intro fields path depth s t hnodes hkeys
    rw [projectMembers]
    exact sameRun_ok [] hnodes hkeys rfl rfl
  · intro fields v w a b path depth s t hnodes hkeys
    rw [projectMembers, projectMembers]
    exact sameRun_error _
  · intro children
    refine ⟨rfl, fun path depth s t hnodes hkeys => ?_⟩
    rw [projectItems]
    exact sameRun_ok [] hnodes hkeys rfl rfl
  · intro child more v w a b _ _ hitem hrest
    exact ⟨by rw [List.length_cons, List.length_cons, hrest.1], itemsAlike_cons hitem hrest.2⟩

/-! ## The report -/

/-- The report does not depend on the order in which the fields were omitted. -/
lemma reportOf_perm {a b : List (String × String)} (h : a.Perm b) : reportOf a = reportOf b := by
  have hdedup : a.dedup.Perm b.dedup :=
    (List.perm_ext_iff_of_nodup a.nodup_dedup b.nodup_dedup).mpr fun entry => by
      rw [List.mem_dedup, List.mem_dedup, h.mem_iff]
  have hsorted : (a.dedup.insertionSort fun x y => toLex x ≤ toLex y) =
      b.dedup.insertionSort fun x y => toLex x ≤ toLex y := by
    have hperm : (a.dedup.insertionSort fun x y => toLex x ≤ toLex y).Perm
        (b.dedup.insertionSort fun x y => toLex x ≤ toLex y) :=
      (List.perm_insertionSort _ _).trans (hdedup.trans (List.perm_insertionSort _ _).symm)
    refine hperm.eq_of_pairwise (fun x y _ _ hxy hyx => ?_) (List.pairwise_insertionSort _ _)
      (List.pairwise_insertionSort _ _)
    exact toLex.injective (le_antisymm hxy hyx)
  unfold reportOf
  rw [hsorted]
  refine List.map_congr_left fun entry _ => ?_
  rw [h.count_eq]

/-- Payloads that agree at the allowlisted paths have one projection: one error, or one value, one
count and one report. -/
theorem projectDiagnostics_agree {v w : DiagnosticValue} (allowlist : Allowlist)
    (h : Agree allowlist v w) :
    projectDiagnostics v allowlist = projectDiagnostics w allowlist := by
  cases allowlist with
  | contract contract => rfl
  | sequence children => rfl
  | other => rfl
  | mapping fields =>
    unfold projectDiagnostics
    dsimp only
    cases validateAllowlist (.mapping fields) 0 {} with
    | error e => rfl
    | ok budget =>
      have hrun := runsAlike_of_agree h "root" 0 {} {} rfl rfl
      simp only [bind, Except.bind]
      generalize project v (.mapping fields) "root" 0 {} = run,
        project w (.mapping fields) "root" 0 {} = run' at hrun ⊢
      cases run with
      | error e =>
        cases run' with
        | error e' => exact congrArg Except.error hrun
        | ok last' => exact hrun.elim
      | ok last =>
        cases run' with
        | error e' => exact hrun.elim
        | ok last' =>
          obtain ⟨hvalue, _, _, shared, hs, ht⟩ := hrun
          have hreports : last.2.reports.Perm last'.2.reports := hs.trans ht.symm
          dsimp only
          rw [hvalue, reportOf_perm hreports, hreports.length_eq]

theorem projectDiagnostics_agree_prompt :
    projectDiagnostics
      (.mapping [(some "Prompt", .text "Find a VP"), (some "safe_count", .integer 2)])
        (.mapping [(some "safe_count", .contract ⟨.nonNegativeInteger, []⟩)]) =
      projectDiagnostics (.mapping [(some "safe_count", .integer 2), (some "resume", .other)])
        (.mapping [(some "safe_count", .contract ⟨.nonNegativeInteger, []⟩)]) :=
  projectDiagnostics_agree _ (.mapping rfl (.refl _)
    (.omitLeft rfl (.keep rfl (.scalar rfl) (.omitRight rfl .nil))))

end SeekTalent.Diagnostics
