import Mathlib.Data.List.Forall2

/-!
# Sequenced checks

A validator that raises on the first violated condition is a computation in `Except ε`.  This file
has the two primitives such a validator is written with, `require` for one condition and `checkAll`
for a loop over a collection, together with the rules that turn a successful run into the
conjunction of its conditions and back.
-/

namespace Foundation

universe u

variable {ε : Type*} {α β : Type u} {γ : Type}

/-- Raise `e` unless the condition holds. -/
def require (c : Prop) [Decidable c] (e : ε) : Except ε Unit :=
  if c then .ok () else .error e

/-- Run a check on every element of a list, in order, stopping at the first failure. -/
def checkAll (check : α → Except ε Unit) : List α → Except ε Unit
  | [] => .ok ()
  | x :: xs =>
    match check x with
    | .ok () => checkAll check xs
    | .error e => .error e

/-- Accept the elements of a list, each checked against those accepted before it. -/
def acceptEach (check : List α → α → Except ε Unit) (accepted : List α) :
    List α → Except ε (List α)
  | [] => .ok accepted
  | x :: xs =>
    match check accepted x with
    | .ok () => acceptEach check (accepted ++ [x]) xs
    | .error e => .error e

variable {e : ε}

/-- A requirement succeeds exactly when its condition holds. -/
@[simp] theorem require_eq_ok {c : Prop} {_ : Decidable c} {u : Unit} :
    require c e = .ok u ↔ c := by
  unfold require
  split <;> simp_all

/-- A requirement fails exactly when its condition does not hold, with its own error. -/
@[simp] theorem require_eq_error {c : Prop} {_ : Decidable c} {e' : ε} :
    require c e = .error e' ↔ ¬c ∧ e = e' := by
  unfold require
  split <;> simp_all

variable {a : α}

/-- A successful `pure` returns the value it was given. -/
@[simp] theorem pure_eq_ok {b : α} : (pure a : Except ε α) = .ok b ↔ a = b := by
  simp [pure, Except.pure]

variable {x : Except ε α} {f : α → Except ε β}

/-- A sequence of two computations succeeds exactly when both do. -/
@[simp] theorem bind_eq_ok {b : β} :
    (x >>= f) = .ok b ↔ ∃ a, x = .ok a ∧ f a = .ok b := by
  cases x <;> simp [bind, Except.bind]

/-- A sequence of two computations does not fail with an error that neither of them fails with. -/
theorem bind_ne_error (hx : x ≠ .error e)
    (hf : ∀ a, x = .ok a → f a ≠ .error e) : (x >>= f) ≠ .error e := by
  cases x with
  | error e' =>
    intro h
    cases h
    exact hx rfl
  | ok a => exact hf a rfl

/-- A check followed by a computation succeeds exactly when both do. -/
theorem check_bind_eq_ok {x : Except ε Unit} {f : Unit → Except ε γ} {b : γ} :
    (x >>= f) = .ok b ↔ x = .ok () ∧ f () = .ok b := by
  rw [bind_eq_ok]
  exact ⟨fun ⟨_, hx, hf⟩ => ⟨hx, hf⟩, fun ⟨hx, hf⟩ => ⟨(), hx, hf⟩⟩

variable {xs : List α}

/-- A check over a list succeeds exactly when it succeeds on every element. -/
@[simp] theorem checkAll_eq_ok {check : α → Except ε Unit} {u : Unit} :
    checkAll check xs = .ok u ↔ ∀ x ∈ xs, check x = .ok () := by
  induction xs with
  | nil => simp [checkAll]
  | cons x xs ih =>
    unfold checkAll
    cases hx : check x with
    | ok => simp [hx, ih]
    | error e => simp [hx]

/-- When a check looks at the element and at each of those accepted before, the elements are
accepted exactly when each of them passes, next to the others as well. -/
theorem acceptEach_eq_ok {check : List α → α → Except ε Unit} {P : α → Prop} {R : α → α → Prop}
    (h : ∀ accepted x, check accepted x = .ok () ↔ P x ∧ ∀ y ∈ accepted, R y x)
    {accepted ys : List α} :
    acceptEach check accepted xs = .ok ys ↔
      ys = accepted ++ xs ∧ (∀ x ∈ xs, P x ∧ ∀ y ∈ accepted, R y x) ∧ xs.Pairwise R := by
  induction xs generalizing accepted with
  | nil => simp [acceptEach, eq_comm]
  | cons x xs ih =>
    unfold acceptEach
    cases hx : check accepted x with
    | error e =>
      have hrefused : ¬ (P x ∧ ∀ y ∈ accepted, R y x) := by
        rw [← h, hx]
        exact fun hok => (nomatch hok)
      simp only [reduceCtorEq, List.forall_mem_cons, false_iff, not_and]
      exact fun _ hall => absurd hall.1 hrefused
    | ok =>
      have hhead : P x ∧ ∀ y ∈ accepted, R y x := (h accepted x).mp hx
      dsimp only
      rw [ih, List.append_assoc, List.singleton_append, List.forall_mem_cons, List.pairwise_cons]
      refine and_congr_right fun _ =>
        ⟨fun ⟨hall, hpairwise⟩ => ?_, fun ⟨⟨_, hall⟩, hx, hpairwise⟩ => ?_⟩
      · refine ⟨⟨hhead, fun z hz => ⟨(hall z hz).1, fun y hy => ?_⟩⟩, fun z hz => ?_, hpairwise⟩
        · exact (hall z hz).2 y (List.mem_append_left _ hy)
        · exact (hall z hz).2 x (List.mem_append_right _ List.mem_cons_self)
      · refine ⟨fun z hz => ⟨(hall z hz).1, fun y hy => ?_⟩, hpairwise⟩
        obtain hold | hnew := List.mem_append.mp hy
        · exact (hall z hz).2 y hold
        · rw [List.mem_singleton.mp hnew]
          exact hx z hz

variable {ys : List β}

/-- A successful traversal of a list: its results correspond to the elements one by one. -/
theorem mapM_eq_ok :
    xs.mapM f = .ok ys ↔ List.Forall₂ (fun x y => f x = .ok y) xs ys := by
  induction xs generalizing ys with
  | nil =>
    rw [List.mapM_nil, pure_eq_ok, List.forall₂_nil_left_iff]
    exact eq_comm
  | cons x xs ih =>
    rw [List.mapM_cons, bind_eq_ok, List.forall₂_cons_left_iff]
    constructor
    · rintro ⟨y, hy, hrest⟩
      obtain ⟨rest, hrest, hys⟩ := bind_eq_ok.mp hrest
      exact ⟨y, rest, hy, ih.mp hrest, (pure_eq_ok.mp hys).symm⟩
    · rintro ⟨y, rest, hy, hrest, rfl⟩
      exact ⟨y, hy, bind_eq_ok.mpr ⟨rest, ih.mpr hrest, rfl⟩⟩

/-- Every element on the left of a correspondence has one on the right. -/
theorem exists_right_of_forall₂ {α β : Type*} {R : α → β → Prop} {xs : List α} {ys : List β}
    (h : List.Forall₂ R xs ys) {x : α} (hx : x ∈ xs) : ∃ y ∈ ys, R x y := by
  induction h with
  | nil => exact absurd hx List.not_mem_nil
  | @cons first y rest ys hfirst _ ih =>
    obtain rfl | hrest := List.mem_cons.mp hx
    · exact ⟨y, List.mem_cons_self, hfirst⟩
    · obtain ⟨z, hz, hxz⟩ := ih hrest
      exact ⟨z, List.mem_cons_of_mem y hz, hxz⟩

/-- Every element on the right of a correspondence has one on the left. -/
theorem exists_left_of_forall₂ {α β : Type*} {R : α → β → Prop} {xs : List α} {ys : List β}
    (h : List.Forall₂ R xs ys) {y : β} (hy : y ∈ ys) : ∃ x ∈ xs, R x y :=
  exists_right_of_forall₂ h.flip hy

/-- A successful traversal has a result for each element. -/
theorem mapM_ok_of_mem (h : xs.mapM f = .ok ys) {x : α} (hx : x ∈ xs) : ∃ y ∈ ys, f x = .ok y :=
  exists_right_of_forall₂ (mapM_eq_ok.mp h) hx

/-- A result of a successful traversal is that of an element. -/
theorem mem_of_mapM_ok (h : xs.mapM f = .ok ys) {y : β} (hy : y ∈ ys) : ∃ x ∈ xs, f x = .ok y :=
  exists_left_of_forall₂ (mapM_eq_ok.mp h) hy

/-- What the function keeps of every element, a successful traversal keeps of the list. -/
theorem map_eq_of_mapM {δ : Type*} {g : α → δ} {k : β → δ}
    (h : xs.mapM f = .ok ys) (hkept : ∀ x ∈ xs, ∀ y, f x = .ok y → k y = g x) :
    ys.map k = xs.map g := by
  have hforall := mapM_eq_ok.mp h
  clear h
  induction hforall with
  | nil => rfl
  | @cons x y xs ys hxy _ ih =>
    rw [List.map_cons, List.map_cons, hkept x List.mem_cons_self y hxy,
      ih fun x' hx' => hkept x' (List.mem_cons_of_mem x hx')]

/-- A traversal succeeds when its function succeeds on every element. -/
theorem exists_mapM_eq_ok (h : ∀ x ∈ xs, ∃ y, f x = .ok y) :
    ∃ ys, xs.mapM f = .ok ys := by
  induction xs with
  | nil => exact ⟨[], rfl⟩
  | cons x xs ih =>
    obtain ⟨y, hy⟩ := h x List.mem_cons_self
    obtain ⟨ys, hys⟩ := ih (fun z hz => h z (List.mem_cons_of_mem x hz))
    exact ⟨y :: ys, mapM_eq_ok.mpr (.cons hy (mapM_eq_ok.mp hys))⟩

/-- A computation that has a result has returned it. -/
theorem eq_ok_of_toOption (h : x.toOption = some a) : x = .ok a := by
  cases x with
  | error e => cases h
  | ok b => exact congrArg Except.ok (Option.some.inj h)

/-- Renaming the error of a computation does not change its successes. -/
@[simp] theorem mapError_eq_ok {ε' : Type*} {g : ε → ε'} :
    x.mapError g = .ok a ↔ x = .ok a := by
  cases x <;> simp [Except.mapError]

/-- An error that comes out of `mapError` is the image of one that went in. -/
theorem mapError_eq_error {ε' : Type*} {g : ε → ε'} {e : ε'} :
    x.mapError g = .error e ↔ ∃ raised, x = .error raised ∧ g raised = e := by
  cases x <;> simp [Except.mapError]

/-- A raised error is never a success. -/
@[simp] theorem throw_ne_ok {b : α} : (throw e : Except ε α) = .ok b ↔ False := by
  simp [throw, throwThe, MonadExceptOf.throw]

/-- A mapped computation succeeds exactly with what a value is mapped to. -/
theorem map_eq_ok {f : α → β} {b : β} : x.map f = .ok b ↔ ∃ a, x = .ok a ∧ f a = b := by
  cases x <;> simp [Except.map]

/-- A computation that succeeds has a value. -/
theorem exists_eq_ok_of_isOk (h : x.isOk = true) : ∃ a, x = .ok a := by
  cases x with
  | error e => cases h
  | ok a => exact ⟨a, rfl⟩

/-- What every step that succeeds keeps, a run that succeeds keeps. -/
theorem foldlM_preserves {δ : Type*} {f : α → δ → Except ε α} {P : α → Prop}
    (hstep : ∀ a x b, P a → f a x = .ok b → P b) {xs : List δ} {b : α} (ha : P a)
    (h : xs.foldlM f a = .ok b) : P b := by
  induction xs generalizing a with
  | nil =>
    cases h
    exact ha
  | cons x xs ih =>
    rw [List.foldlM_cons] at h
    obtain ⟨next, hnext, hrest⟩ := bind_eq_ok.mp h
    exact ih (hstep a x next ha hnext) hrest

end Foundation
