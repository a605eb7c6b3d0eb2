import Mathlib.Data.List.Dedup
import SeekTalent.Diagnostics.DiagnosticsRedaction

/-!
# What the walk computes

The walk of `project` in one pass, under its budgets, against what it is for: `redact` drops the
omitted fields of a payload at every depth, `omitted` lists them with their rules and paths, and
`admissible` says which payloads may be projected at all.  `projectDiagnostics_eq_ok_iff` is the
refinement: a payload is projected exactly if it is admissible and within the budgets, and then to
its redaction, with the omitted fields counted.
-/

namespace SeekTalent.Diagnostics

open Foundation

/-! ## The redaction -/

mutual

/-- A payload without its omitted fields. -/
def redact : DiagnosticValue → Allowlist → DiagnosticValue
  | .mapping members, .mapping fields => .mapping (redactMembers members fields)
  | .sequence items, .sequence children => .sequence (redactItems items children)
  | value, _ => value

/-- The kept members of a mapping. -/
def redactMembers : List (Option String × DiagnosticValue) → List (Option String × Allowlist) →
    List (Option String × DiagnosticValue)
  | [], _ => []
  | (none, _) :: rest, fields => redactMembers rest fields
  | (some key, child) :: rest, fields =>
    match fieldVerdict fields key with
    | .omitted _ => redactMembers rest fields
    | .kept allowlist => (some key, redact child allowlist) :: redactMembers rest fields

/-- The items of a sequence, each under the first item of the allowlist. -/
def redactItems : List DiagnosticValue → List Allowlist → List DiagnosticValue
  | [], _ => []
  | item :: rest, children =>
    (match children.head? with
      | none => item
      | some child => redact item child) :: redactItems rest children

end

mutual

/-- The omitted fields of a payload: their rules and their paths. -/
def omitted : DiagnosticValue → Allowlist → String → List (String × String)
  | .mapping members, .mapping fields, path => omittedMembers members fields path
  | .sequence items, .sequence children, path => omittedItems items children (path ++ ".<item>")
  | _, _, _ => []

/-- The omitted fields of a mapping's members. -/
def omittedMembers : List (Option String × DiagnosticValue) → List (Option String × Allowlist) →
    String → List (String × String)
  | [], _, _ => []
  | (none, _) :: rest, fields, path => omittedMembers rest fields path
  | (some key, child) :: rest, fields, path =>
    match fieldVerdict fields key with
    | .omitted rule => (rule, redactedPath path) :: omittedMembers rest fields path
    | .kept allowlist => omitted child allowlist (safePath path) ++ omittedMembers rest fields path

/-- The omitted fields of a sequence's items. -/
def omittedItems : List DiagnosticValue → List Allowlist → String → List (String × String)
  | [], _, _ => []
  | item :: rest, children, path =>
    (match children.head? with
      | none => []
      | some child => omitted item child path) ++ omittedItems rest children path

end

mutual

/-- Whether a payload may be projected: it has the shapes, the sizes and the depth of its allowlist,
and its scalars meet their contracts. -/
def admissible : DiagnosticValue → Allowlist → Nat → Bool
  | value, .contract contract, depth => decide (depth ≤ 3) && meetsContract contract value
  | .mapping members, .mapping fields, depth =>
    decide (depth ≤ 3) && decide (members.length ≤ 64) &&
      admissibleMembers members fields (depth + 1)
  | .sequence items, .sequence children, depth =>
    decide (depth ≤ 3) && decide (items.length ≤ 32) && admissibleItems items children (depth + 1)
  | _, _, _ => false

/-- Whether the kept members of a mapping may be projected. -/
def admissibleMembers : List (Option String × DiagnosticValue) → List (Option String × Allowlist) →
    Nat → Bool
  | [], _, _ => true
  | (none, _) :: _, _, _ => false
  | (some key, child) :: rest, fields, depth =>
    (match fieldVerdict fields key with
      | .omitted _ => true
      | .kept allowlist => admissible child allowlist depth) && admissibleMembers rest fields depth

/-- Whether the items of a sequence may be projected. -/
def admissibleItems : List DiagnosticValue → List Allowlist → Nat → Bool
  | [], _, _ => true
  | item :: rest, children, depth =>
    (match children.head? with
      | none => false
      | some child => admissible item child depth) && admissibleItems rest children depth

end

mutual

/-- The values inside a value, itself included. -/
def nodeCount : DiagnosticValue → Nat
  | .mapping members => 1 + nodeCountMembers members
  | .sequence items => 1 + nodeCountItems items
  | .boolean _ | .integer _ | .text _ | .other => 1

/-- The values inside members. -/
def nodeCountMembers : List (Option String × DiagnosticValue) → Nat
  | [] => 0
  | (_, child) :: rest => nodeCount child + nodeCountMembers rest

/-- The values inside items. -/
def nodeCountItems : List DiagnosticValue → Nat
  | [] => 0
  | item :: rest => nodeCount item + nodeCountItems rest

end

mutual

/-- The fields of the mappings inside a value. -/
def keyCount : DiagnosticValue → Nat
  | .mapping members => keyCountMembers members
  | .sequence items => keyCountItems items
  | .boolean _ | .integer _ | .text _ | .other => 0

/-- The fields of members, and inside them. -/
def keyCountMembers : List (Option String × DiagnosticValue) → Nat
  | [] => 0
  | (_, child) :: rest => 1 + keyCount child + keyCountMembers rest

/-- The fields inside items. -/
def keyCountItems : List DiagnosticValue → Nat
  | [] => 0
  | item :: rest => keyCount item + keyCountItems rest

end

attribute [local simp] redact redactMembers redactItems omitted omittedMembers omittedItems
    admissible
  admissibleMembers admissibleItems nodeCount nodeCountMembers nodeCountItems keyCount
  keyCountMembers
  keyCountItems

/-! ## One walk -/

/-- A state further on. -/
def WalkState.advance (s : WalkState) (nodes keys : Nat) (reports : List (String × String)) :
    WalkState :=
  { nodes := s.nodes + nodes, keys := s.keys + keys, reports := s.reports ++ reports }

@[simp] lemma nodes_advance (s : WalkState) (nodes keys : Nat) (reports : List (String × String)) :
    (s.advance nodes keys reports).nodes = s.nodes + nodes := rfl

@[simp] lemma keys_advance (s : WalkState) (nodes keys : Nat) (reports : List (String × String)) :
    (s.advance nodes keys reports).keys = s.keys + keys := rfl

@[simp] lemma advance_advance (s : WalkState) (n n' k k' : Nat) (r r' : List (String × String)) :
    (s.advance n k r).advance n' k' r' = s.advance (n + n') (k + k') (r ++ r') := by
  simp [WalkState.advance, Nat.add_assoc]

@[simp] lemma advance_zero (s : WalkState) : s.advance 0 0 [] = s := by
  simp [WalkState.advance]

/-- A node is entered within the budget, and no deeper than 3. -/
lemma enter_eq_ok_iff {α : Type} {s : WalkState} {depth : Nat}
    {f : WalkState → Except String α} {run : α} :
    (s.addNode >>= fun s => require (depth ≤ 3) "diagnostics_redaction_too_deep" >>= fun _ => f s) =
        .ok run ↔ s.nodes + 1 ≤ 1024 ∧ depth ≤ 3 ∧ f (s.advance 1 0 []) = .ok run := by
  have hadvance : s.advance 1 0 [] = { s with nodes := s.nodes + 1 } := by
    simp [WalkState.advance]
  simp [WalkState.addNode, bind_eq_ok, hadvance]

/-- Keys are entered within the budget. -/
lemma addKeys_eq_ok_iff {α : Type} {s : WalkState} {count : Nat}
    {f : WalkState → Except String α} {run : α} :
    (s.addKeys count >>= f) = .ok run ↔ s.keys + count ≤ 512 ∧
      f (s.advance 0 count []) = .ok run := by
  have hadvance : s.advance 0 count [] = { s with keys := s.keys + count } := by
    simp [WalkState.advance]
  simp [WalkState.addKeys, bind_eq_ok, hadvance]

/-- A scalar is returned as it is, if it meets its contract. -/
lemma validateScalar_eq_ok_iff {v w : DiagnosticValue} {contract : ScalarContract} :
    validateScalar v contract = .ok w ↔ meetsContract contract v = true ∧ w = v := by
  obtain ⟨kind, values⟩ := contract
  cases kind with
  | unknown kind => cases v <;> simp [validateScalar, meetsContract, bind_eq_ok]
  | _ =>
    rw [validateScalar, check_bind_eq_ok, require_eq_ok, pure_eq_ok, @eq_comm _ w]

/-- Only scalars meet a contract. -/
lemma count_eq_of_meetsContract {v : DiagnosticValue} {contract : ScalarContract}
    (h : meetsContract contract v = true) : nodeCount v = 1 ∧ keyCount v = 0 := by
  cases v with
  | mapping members => cases h
  | sequence items => cases h
  | _ => exact ⟨rfl, rfl⟩

/-- The fields of the mappings that a walk visits. -/
def fieldCount (value : DiagnosticValue) (allowlist : Allowlist) (path : String) : Nat :=
  keyCount (redact value allowlist) + (omitted value allowlist path).length

/-- What a walk of a value does: it is admissible and within the budgets, and ends with its
redaction. -/
def ProjectSpec (v : DiagnosticValue) (allowlist : Allowlist) : Prop :=
  ∀ (path : String) (depth : Nat) (s : WalkState) (w : DiagnosticValue) (t : WalkState),
    s.keys ≤ 512 → (project v allowlist path depth s = .ok (w, t) ↔
      admissible v allowlist depth = true ∧ s.nodes + nodeCount (redact v allowlist) ≤ 1024 ∧
      s.keys + fieldCount v allowlist path ≤ 512 ∧ w = redact v allowlist ∧
      t = s.advance (nodeCount (redact v allowlist)) (fieldCount v allowlist path)
        (omitted v allowlist path))

/-- What a walk of members does, from a state that their keys were added to. -/
def MembersSpec (a : List (Option String × DiagnosticValue))
    (fields : List (Option String × Allowlist)) : Prop :=
  ∀ (path : String) (depth base : Nat) (s : WalkState) (b : List (Option String × DiagnosticValue))
    (t : WalkState), s.nodes ≤ 1024 → s.keys = base + a.length → s.keys ≤ 512 →
    (projectMembers a fields path depth s = .ok (b, t) ↔
      admissibleMembers a fields depth = true ∧
      s.nodes + nodeCountMembers (redactMembers a fields) ≤ 1024 ∧
      base + (keyCountMembers (redactMembers a fields) + (omittedMembers a fields path).length) ≤
        512 ∧
      b = redactMembers a fields ∧
      t = { nodes := s.nodes + nodeCountMembers (redactMembers a fields)
            keys := base + (keyCountMembers (redactMembers a fields) +
              (omittedMembers a fields path).length)
            reports := s.reports ++ omittedMembers a fields path })

/-- What a walk of items does. -/
def ItemsSpec (a : List DiagnosticValue) (children : List Allowlist) : Prop :=
  ∀ (path : String) (depth : Nat) (s : WalkState) (b : List DiagnosticValue) (t : WalkState),
    s.nodes ≤ 1024 → s.keys ≤ 512 → (projectItems a children path depth s = .ok (b, t) ↔
      admissibleItems a children depth = true ∧
      s.nodes + nodeCountItems (redactItems a children) ≤ 1024 ∧
      s.keys + (keyCountItems (redactItems a children) + (omittedItems a children path).length) ≤
        512 ∧
      b = redactItems a children ∧
      t = s.advance (nodeCountItems (redactItems a children))
        (keyCountItems (redactItems a children) + (omittedItems a children path).length)
        (omittedItems a children path))

/-- A scalar. -/
lemma projectSpec_contract (v : DiagnosticValue) (contract : ScalarContract) :
    ProjectSpec v (.contract contract) := by
  intro path depth s w t hkeys
  rw [project_contract, enter_eq_ok_iff]
  have hredact : redact v (.contract contract) = v := by cases v <;> rfl
  have homitted : omitted v (.contract contract) path = [] := by cases v <;> rfl
  have hadmissible : admissible v (.contract contract) depth =
      (decide (depth ≤ 3) && meetsContract contract v) := by cases v <;> rfl
  rw [fieldCount, hredact, homitted, hadmissible, Bool.and_eq_true, decide_eq_true_eq]
  constructor
  · rintro ⟨hnodes, hdepth, hscalar⟩
    cases hvalue : validateScalar v contract with
    | error e =>
      rw [hvalue] at hscalar
      cases hscalar
    | ok value =>
      rw [hvalue] at hscalar
      cases hscalar
      obtain ⟨hmeets, rfl⟩ := validateScalar_eq_ok_iff.mp hvalue
      obtain ⟨hone, hzero⟩ := count_eq_of_meetsContract hmeets
      rw [hone, hzero]
      exact ⟨⟨hdepth, hmeets⟩, hnodes, hkeys, rfl, rfl⟩
  · rintro ⟨⟨hdepth, hmeets⟩, hnodes, -, rfl, rfl⟩
    obtain ⟨hone, hzero⟩ := count_eq_of_meetsContract hmeets
    rw [hone] at hnodes ⊢
    rw [validateScalar_eq_ok_iff.mpr ⟨hmeets, rfl⟩, hzero]
    exact ⟨hnodes, hdepth, rfl⟩

/-- A payload that the walk stops at. -/
lemma projectSpec_stop {v : DiagnosticValue} {allowlist : Allowlist}
    (hadmissible : ∀ depth, admissible v allowlist depth = false)
    (hstop : ∀ path depth s, ∃ e, project v allowlist path depth s = s.addNode >>= fun _ =>
      require (depth ≤ 3) "diagnostics_redaction_too_deep" >>= fun _ => throw e) :
    ProjectSpec v allowlist := by
  intro path depth s w t _
  obtain ⟨e, he⟩ := hstop path depth s
  simp [hadmissible, he]

/-- A payload of another shape than its allowlist. -/
lemma projectSpec_shape {v : DiagnosticValue} {allowlist : Allowlist}
    (hcontract : ∀ contract, allowlist ≠ .contract contract)
    (hmapping : ∀ a fields, v = .mapping a → allowlist ≠ .mapping fields)
    (hsequence : ∀ a children, v = .sequence a → allowlist ≠ .sequence children) :
    ProjectSpec v allowlist := by
  cases allowlist with
  | contract contract => exact absurd rfl (hcontract contract)
  | mapping fields =>
    cases v with
    | mapping a => exact absurd rfl (hmapping a fields rfl)
    | _ => exact projectSpec_stop (fun _ => rfl) fun path depth s => ⟨_, by rw [project]⟩
  | sequence children =>
    cases v with
    | sequence a => exact absurd rfl (hsequence a children rfl)
    | _ => exact projectSpec_stop (fun _ => rfl) fun path depth s => ⟨_, by rw [project]⟩
  | other =>
    cases v with
    | _ => exact projectSpec_stop (fun _ => rfl) fun path depth s => ⟨_, by rw [project]⟩

/-- Every member of a mapping that may be projected is kept or omitted. -/
lemma length_le_of_admissibleMembers {a : List (Option String × DiagnosticValue)}
    {fields : List (Option String × Allowlist)} {depth : Nat} (path : String)
    (h : admissibleMembers a fields depth = true) :
    a.length ≤ keyCountMembers
      (redactMembers a fields) + (omittedMembers a fields path).length := by
  induction a with
  | nil => exact Nat.zero_le _
  | cons member rest ih =>
    obtain ⟨key, v⟩ := member
    cases key with
    | none => cases h
    | some key =>
      rw [admissibleMembers, Bool.and_eq_true] at h
      have hrest := ih h.2
      rw [redactMembers, omittedMembers]
      cases fieldVerdict fields key with
      | omitted rule =>
        simp only [List.length_cons]
        omega
      | kept child =>
        simp only [List.length_cons, List.length_append, keyCountMembers]
        omega

lemma projectSpec_mapping {a : List (Option String × DiagnosticValue)}
    {fields : List (Option String × Allowlist)} (hmembers : MembersSpec a fields) :
    ProjectSpec (.mapping a) (.mapping fields) := by
  intro path depth s w t hkeys
  rw [project, enter_eq_ok_iff]
  dsimp only
  rw [check_bind_eq_ok, require_eq_ok, addKeys_eq_ok_iff, bind_eq_ok, fieldCount]
  simp only [redact, omitted, admissible, nodeCount, keyCount, Bool.and_eq_true, decide_eq_true_eq]
  have hspec := hmembers path (depth + 1) s.keys ((s.advance 1 0 []).advance 0 a.length [])
  simp only [advance_advance, nodes_advance, keys_advance] at hspec ⊢
  constructor
  · rintro ⟨hnodes, hdepth, hsize, hbudget, ⟨b, t'⟩, hwalk, hend⟩
    cases hend
    obtain ⟨hadm, hn, hk, rfl, rfl⟩ := (hspec b _ (by omega) (by omega) (by omega)).mp hwalk
    refine ⟨⟨⟨hdepth, hsize⟩, hadm⟩, by omega, hk, rfl, ?_⟩
    simp [WalkState.advance, Nat.add_assoc]
  · rintro ⟨⟨⟨hdepth, hsize⟩, hadm⟩, hn, hk, rfl, rfl⟩
    have hlength := length_le_of_admissibleMembers path hadm
    refine ⟨by omega, hdepth, hsize, by omega, (_, _),
      (hspec _ _ (by omega) (by omega) (by omega)).mpr ⟨hadm, by omega, hk, rfl, rfl⟩, ?_⟩
    simp [pure, Except.pure, WalkState.advance, Nat.add_assoc]

lemma projectSpec_sequence {a : List DiagnosticValue} {children : List Allowlist}
    (hitems : ItemsSpec a children) : ProjectSpec (.sequence a) (.sequence children) := by
  intro path depth s w t hkeys
  rw [project, enter_eq_ok_iff]
  dsimp only
  rw [check_bind_eq_ok, require_eq_ok, bind_eq_ok, fieldCount]
  simp only [redact, omitted, admissible, nodeCount, keyCount, Bool.and_eq_true, decide_eq_true_eq]
  have hspec := hitems (path ++ ".<item>") (depth + 1) (s.advance 1 0 [])
  simp only [advance_advance, nodes_advance, keys_advance] at hspec ⊢
  constructor
  · rintro ⟨hnodes, hdepth, hsize, ⟨b, t'⟩, hwalk, hend⟩
    cases hend
    obtain ⟨hadm, hn, hk, rfl, rfl⟩ := (hspec b _ (by omega) (by omega)).mp hwalk
    exact ⟨⟨⟨hdepth, hsize⟩, hadm⟩, by omega, by omega, rfl, by simp⟩
  · rintro ⟨⟨⟨hdepth, hsize⟩, hadm⟩, hn, hk, rfl, rfl⟩
    refine ⟨by omega, hdepth, hsize, (_, _),
      (hspec _ _ (by omega) (by omega)).mpr ⟨hadm, by omega, by omega, rfl, rfl⟩, ?_⟩
    simp [pure, Except.pure]

/-! ## Members and items -/

section Members

variable {fields : List (Option String × Allowlist)} {key rule : String} {child : Allowlist}
  {v : DiagnosticValue} {a : List (Option String × DiagnosticValue)}

lemma membersSpec_nil : MembersSpec [] fields := by
  intro path depth base s b t hnodes hlength hkeys
  obtain ⟨nodes, keys, reports⟩ := s
  obtain rfl : keys = base := hlength
  rw [projectMembers, pure_eq_ok]
  simp only [admissibleMembers, redactMembers, omittedMembers, nodeCountMembers, keyCountMembers,
    List.length_nil, Nat.add_zero, List.append_nil, true_and, Prod.mk.injEq]
  constructor
  · rintro ⟨rfl, rfl⟩
    exact ⟨hnodes, hkeys, rfl, rfl⟩
  · rintro ⟨-, -, rfl, rfl⟩
    exact ⟨rfl, rfl⟩

lemma membersSpec_badKey : MembersSpec ((none, v) :: a) fields := by
  intro path depth base s b t _ _ _
  rw [projectMembers]
  simp [admissibleMembers]

lemma membersSpec_omit (hverdict : fieldVerdict fields key = .omitted rule)
    (hrest : MembersSpec a fields) : MembersSpec ((some key, v) :: a) fields := by
  intro path depth base s b t hnodes hlength hkeys
  rw [List.length_cons] at hlength
  have hkeys' : (s.report rule (redactedPath path)).keys = base + 1 + a.length :=
    hlength.trans (by omega)
  rw [projectMembers_omit hverdict,
    hrest path depth (base + 1) (s.report rule (redactedPath path)) b t hnodes hkeys' hkeys]
  simp only [admissibleMembers, redactMembers, omittedMembers, hverdict, Bool.true_and,
    WalkState.report, List.length_cons, List.append_assoc, List.singleton_append, ← Nat.add_assoc,
    Nat.add_right_comm base 1]

lemma membersSpec_keep (hverdict : fieldVerdict fields key = .kept child)
    (hchild : ProjectSpec v child) (hrest : MembersSpec a fields) :
    MembersSpec ((some key, v) :: a) fields := by
  intro path depth base s b t hnodes hlength hkeys
  rw [List.length_cons] at hlength
  rw [projectMembers_keep hverdict, bind_eq_ok]
  simp only [admissibleMembers, redactMembers, omittedMembers, hverdict, Bool.and_eq_true,
    nodeCountMembers, keyCountMembers, List.length_append]
  have hspec := hchild (safePath path) depth s
  rw [fieldCount] at hspec
  constructor
  · rintro ⟨⟨w, s'⟩, hwalk, hmore⟩
    obtain ⟨hadm, hn, hk, rfl, rfl⟩ := (hspec w s' hkeys).mp hwalk
    obtain ⟨⟨b', t'⟩, hwalk', hend⟩ := bind_eq_ok.mp hmore
    cases hend
    obtain ⟨hadm', hn', hk', rfl, rfl⟩ :=
      (hrest path depth (base + 1 + (keyCount (redact v child) +
        (omitted v child (safePath path)).length)) _ b' _ hn (by rw [keys_advance]; omega) hk).mp
          hwalk'
    rw [nodes_advance] at hn'
    refine ⟨⟨hadm, hadm'⟩, by omega, by omega, rfl, ?_⟩
    simp only [WalkState.advance, WalkState.mk.injEq, List.append_assoc, and_true]
    omega
  · rintro ⟨⟨hadm, hadm'⟩, hn, hk, rfl, rfl⟩
    have hlength' := length_le_of_admissibleMembers path hadm'
    refine ⟨(_, _), (hspec _ _ hkeys).mpr ⟨hadm, by omega, by omega, rfl, rfl⟩, ?_⟩
    refine bind_eq_ok.mpr ⟨(_, _),
      (hrest path depth (base + 1 + (keyCount (redact v child) +
        (omitted v child (safePath path)).length)) _ _ _ ?_ ?_ ?_).mpr
        ⟨hadm', ?_, ?_, rfl, rfl⟩, ?_⟩
    · rw [nodes_advance]
      omega
    · rw [keys_advance]
      omega
    · rw [keys_advance]
      omega
    · rw [nodes_advance]
      omega
    · omega
    · simp only [pure, Except.pure, WalkState.advance, Except.ok.injEq, Prod.mk.injEq,
        WalkState.mk.injEq, List.append_assoc, and_true, true_and]
      omega

end Members

section Items

variable {child : Allowlist} {more children : List Allowlist} {v : DiagnosticValue}
  {a : List DiagnosticValue}

lemma itemsSpec_nil : ItemsSpec [] children := by
  intro path depth s b t hnodes hkeys
  rw [projectItems, pure_eq_ok]
  simp only [admissibleItems, redactItems, omittedItems, nodeCountItems, keyCountItems,
    List.length_nil, Nat.add_zero, true_and, Prod.mk.injEq, advance_zero]
  constructor
  · rintro ⟨rfl, rfl⟩
    exact ⟨hnodes, hkeys, rfl, rfl⟩
  · rintro ⟨-, -, rfl, rfl⟩
    exact ⟨rfl, rfl⟩

lemma itemsSpec_headless : ItemsSpec (v :: a) [] := by
  intro path depth s b t _ _
  rw [projectItems]
  simp [admissibleItems]

lemma itemsSpec_cons (hchild : ProjectSpec v child) (hrest : ItemsSpec a (child :: more)) :
    ItemsSpec (v :: a) (child :: more) := by
  intro path depth s b t hnodes hkeys
  rw [projectItems, List.head?_cons]
  dsimp only
  rw [bind_eq_ok]
  simp only [admissibleItems, redactItems, omittedItems, List.head?_cons, Bool.and_eq_true,
    nodeCountItems, keyCountItems, List.length_append]
  have hspec := hchild path depth s
  rw [fieldCount] at hspec
  constructor
  · rintro ⟨⟨w, s'⟩, hwalk, hmore⟩
    obtain ⟨hadm, hn, hk, rfl, rfl⟩ := (hspec w s' hkeys).mp hwalk
    obtain ⟨⟨b', t'⟩, hwalk', hend⟩ := bind_eq_ok.mp hmore
    cases hend
    obtain ⟨hadm', hn', hk', rfl, rfl⟩ := (hrest path depth _ b' _ hn hk).mp hwalk'
    rw [nodes_advance] at hn'
    rw [keys_advance] at hk'
    refine ⟨⟨hadm, hadm'⟩, by omega, by omega, rfl, ?_⟩
    rw [advance_advance, Nat.add_add_add_comm]
  · rintro ⟨⟨hadm, hadm'⟩, hn, hk, rfl, rfl⟩
    refine ⟨(_, _), (hspec _ _ hkeys).mpr ⟨hadm, by omega, by omega, rfl, rfl⟩, ?_⟩
    refine bind_eq_ok.mpr ⟨(_, _), (hrest path depth _ _ _ ?_ ?_).mpr ⟨hadm', ?_, ?_, rfl, rfl⟩, ?_⟩
    · rw [nodes_advance]
      omega
    · rw [keys_advance]
      omega
    · rw [nodes_advance]
      omega
    · rw [keys_advance]
      omega
    · rw [advance_advance, Nat.add_add_add_comm]
      rfl

end Items

mutual

/-- The walk of a value. -/
theorem projectSpec : (v : DiagnosticValue) → (allowlist : Allowlist) → ProjectSpec v allowlist
  | v, .contract contract => projectSpec_contract v contract
  | .mapping a, .mapping fields => projectSpec_mapping (membersSpec a fields)
  | .sequence a, .sequence children => projectSpec_sequence (itemsSpec a children)
  | .mapping a, .sequence children => projectSpec_shape (by simp) (by simp) (by simp)
  | .sequence a, .mapping fields => projectSpec_shape (by simp) (by simp) (by simp)
  | .boolean value, .mapping fields => projectSpec_shape (by simp) (by simp) (by simp)
  | .integer value, .mapping fields => projectSpec_shape (by simp) (by simp) (by simp)
  | .text value, .mapping fields => projectSpec_shape (by simp) (by simp) (by simp)
  | .other, .mapping fields => projectSpec_shape (by simp) (by simp) (by simp)
  | .boolean value, .sequence children => projectSpec_shape (by simp) (by simp) (by simp)
  | .integer value, .sequence children => projectSpec_shape (by simp) (by simp) (by simp)
  | .text value, .sequence children => projectSpec_shape (by simp) (by simp) (by simp)
  | .other, .sequence children => projectSpec_shape (by simp) (by simp) (by simp)
  | v, .other => projectSpec_shape (by simp) (by simp) (by simp)

/-- The walk of members. -/
theorem membersSpec : (a : List (Option String × DiagnosticValue)) →
    (fields : List (Option String × Allowlist)) → MembersSpec a fields
  | [], _ => membersSpec_nil
  | (none, _) :: _, _ => membersSpec_badKey
  | (some key, v) :: rest, fields => by
    cases hverdict : fieldVerdict fields key with
    | omitted rule => exact membersSpec_omit hverdict (membersSpec rest fields)
    | kept child => exact membersSpec_keep hverdict (projectSpec v child) (membersSpec rest fields)

/-- The walk of items. -/
theorem itemsSpec : (a : List DiagnosticValue) → (children : List Allowlist) → ItemsSpec a children
  | [], _ => itemsSpec_nil
  | _ :: _, [] => itemsSpec_headless
  | v :: rest, child :: more =>
    itemsSpec_cons (projectSpec v child) (itemsSpec rest (child :: more))

end

/-! ## The projection -/

/-- A payload is projected exactly if the allowlist is a valid mapping, the payload has its shapes,
sizes and contracts at a depth of at most 3, the projection has at most 1024 values, and the visited
mappings have at most 512 fields; then the value is the redaction, and the count and the report are
those of the omitted fields. -/
theorem projectDiagnostics_eq_ok_iff (payload : DiagnosticValue) (allowlist : Allowlist)
    (p : DiagnosticsProjection) :
    projectDiagnostics payload allowlist = .ok p ↔
      (∃ fields, allowlist = .mapping fields) ∧ (validateAllowlist allowlist 0 {}).isOk = true ∧
      admissible payload allowlist 0 = true ∧ nodeCount (redact payload allowlist) ≤ 1024 ∧
      fieldCount payload allowlist "root" ≤ 512 ∧ p.value = redact payload allowlist ∧
      p.redactedCount = (omitted payload allowlist "root").length ∧
      p.report = reportOf (omitted payload allowlist "root") := by
  cases allowlist with
  | contract contract => simp [projectDiagnostics]
  | sequence children => simp [projectDiagnostics]
  | other => simp [projectDiagnostics]
  | mapping fields =>
    have hspec := projectSpec payload (.mapping fields) "root" 0 {}
    simp only [Nat.zero_add] at hspec
    obtain ⟨value, count, report⟩ := p
    unfold projectDiagnostics
    dsimp only
    cases validateAllowlist (.mapping fields) 0 {} with
    | error e => simp [Except.isOk, Except.toBool, bind, Except.bind]
    | ok budget =>
      show (project payload (.mapping fields) "root" 0 {} >>= _) = .ok _ ↔ _
      rw [bind_eq_ok]
      constructor
      · rintro ⟨⟨w, s⟩, hwalk, hend⟩
        cases hend
        obtain ⟨hadm, hn, hk, rfl, rfl⟩ := (hspec _ s (by decide)).mp hwalk
        exact ⟨⟨fields, rfl⟩, rfl, hadm, hn, hk, rfl, rfl, rfl⟩
      · rintro ⟨-, -, hadm, hn, hk, rfl, rfl, rfl⟩
        exact ⟨(_, _), (hspec _ _ (by decide)).mpr ⟨hadm, hn, hk, rfl, rfl⟩, rfl⟩

end SeekTalent.Diagnostics
