import Mathlib.Data.List.Basic

/-!
# Deterministic labelled machines

A system that is driven by a sequence of labels (calls of an interface, choices of a scheduler,
messages of an environment) is a function `step : σ → α → σ`.  A label that is not enabled leaves
the state as it is.  Quantifying over all label sequences quantifies over all histories and all
interleavings, so an invariant of a machine is proved once for one step and holds along every run.

`Along` says that a condition on (state before the step, label) holds at each step of a run; it is
how a property that needs well-behaved callers is stated.
-/

namespace Foundation

variable {σ α : Type*}

/-- The state after a run of labels. -/
def run (step : σ → α → σ) (s : σ) (labels : List α) : σ :=
  labels.foldl step s

/-- A condition on the state before each step and its label holds all along a run. -/
def Along (step : σ → α → σ) (G : σ → α → Prop) : σ → List α → Prop
  | _, [] => True
  | s, a :: as => G s a ∧ Along step G (step s a) as

section Run

variable {step : σ → α → σ} {G : σ → α → Prop} {s : σ}
variable {as : List α} {I : σ → Prop}

@[simp] theorem run_nil : run step s [] = s := rfl

@[simp] theorem run_cons (a : α) (as : List α) : run step s (a :: as) = run step (step s a) as :=
  rfl

/-- A run of a concatenation is the second run after the first. -/
theorem run_append (as bs : List α) : run step s (as ++ bs) = run step (run step s as) bs := by
  simp [run]

/-- The last step of a run. -/
@[simp] theorem run_concat (as : List α) (a : α) :
    run step s (as ++ [a]) = step (run step s as) a := by
  simp [run]

@[simp] theorem along_nil : Along step G s [] := trivial

@[simp] theorem along_cons (a : α) (as : List α) :
    Along step G s (a :: as) ↔ G s a ∧ Along step G (step s a) as :=
  Iff.rfl

/-- A condition holds along a concatenation when it holds along both parts. -/
theorem along_append (as bs : List α) :
    Along step G s (as ++ bs) ↔ Along step G s as ∧ Along step G (run step s as) bs := by
  induction as generalizing s with
  | nil => simp
  | cons a as ih => simp [ih, and_assoc]

/-- The trivial condition holds along every run. -/
theorem along_of_forall (h : ∀ t a, G t a) (as : List α) : Along step G s as := by
  induction as generalizing s with
  | nil => trivial
  | cons a as ih => exact ⟨h s a, ih⟩

/-- A condition on labels that each label of a run meets holds along it. -/
theorem along_of_mem {C : α → Prop} (h : ∀ a ∈ as, C a) :
    Along step (fun _ a => C a) s as := by
  induction as generalizing s with
  | nil => trivial
  | cons a as ih =>
    rw [List.forall_mem_cons] at h
    exact ⟨h.1, ih h.2⟩

/-- Conditions along a run are monotone. -/
theorem Along.mono {H : σ → α → Prop} (hGH : ∀ t a, G t a → H t a)
    (h : Along step G s as) : Along step H s as := by
  induction as generalizing s with
  | nil => trivial
  | cons a as ih => exact ⟨hGH _ _ h.1, ih h.2⟩

/-- Two conditions that hold along a run hold together along it. -/
theorem Along.and {H : σ → α → Prop} (hG : Along step G s as) (hH : Along step H s as) :
    Along step (fun t a => G t a ∧ H t a) s as := by
  induction as generalizing s with
  | nil => trivial
  | cons a as ih => exact ⟨⟨hG.1, hH.1⟩, ih hG.2 hH.2⟩

/-- The run rule: what every step whose condition holds preserves, a run whose steps all meet the
condition preserves. -/
theorem run_preserves (hstep : ∀ t a, I t → G t a → I (step t a))
    (hG : Along step G s as) (hs : I s) : I (run step s as) := by
  induction as generalizing s with
  | nil => exact hs
  | cons a as ih => exact ih hG.2 (hstep s a hs hG.1)

/-- The invariant rule: what every step preserves, every run preserves. -/
theorem run_invariant (hstep : ∀ t a, I t → I (step t a)) (hs : I s)
    (as : List α) : I (run step s as) :=
  run_preserves (G := fun _ _ => True) (fun t a ht _ => hstep t a ht)
    (along_of_forall (fun _ _ => trivial) as) hs

/-- A condition that follows from an invariant and another condition holds along the same run. -/
theorem along_of_invariant {H : σ → α → Prop}
    (hstep : ∀ t a, I t → G t a → I (step t a)) (hH : ∀ t a, I t → G t a → H t a)
    (hG : Along step G s as) (hs : I s) : Along step H s as := by
  induction as generalizing s with
  | nil => trivial
  | cons a as ih => exact ⟨hH s a hs hG.1, ih hG.2 (hstep s a hs hG.1)⟩

/-- A relation between the two ends of a run that every step keeps, when it is reflexive and
transitive. -/
theorem run_relates {R : σ → σ → Prop} (hrefl : ∀ t, R t t)
    (htrans : ∀ {a b c}, R a b → R b c → R a c) (hstep : ∀ t a, R t (step t a)) (as : List α) :
    R s (run step s as) := by
  induction as generalizing s with
  | nil => exact hrefl s
  | cons a as ih => exact htrans (hstep s a) ih

/-- A condition holds along a run exactly when it holds at each of its steps. -/
theorem along_iff_each_step (as : List α) :
    Along step G s as ↔ ∀ before a, before ++ [a] <+: as → G (run step s before) a := by
  constructor
  · rintro hG before a ⟨after, rfl⟩
    rw [List.append_assoc, along_append] at hG
    exact hG.2.1
  · intro hall
    induction as generalizing s with
    | nil => trivial
    | cons a as ih =>
      refine ⟨hall [] a (by simp), ih fun before b hbegins => ?_⟩
      exact hall (a :: before) b (List.cons_prefix_cons.mpr ⟨rfl, hbegins⟩)

/-- A relation between states that a run whose steps meet a condition keeps: it relates every
earlier state of the run to every later one. -/
theorem prefix_relates {R : σ → σ → Prop} (hrefl : ∀ t, R t t)
    (htrans : ∀ {a b c}, R a b → R b c → R a c)
    (hstep : ∀ t a, I t → G t a → I (step t a) ∧ R t (step t a)) {earlier later : List α}
    (hG : Along step G s as) (hs : I s) (hearlier : earlier <+: later) (hlater : later <+: as) :
    R (run step s earlier) (run step s later) := by
  obtain ⟨rest, rfl⟩ := hearlier
  obtain ⟨more, rfl⟩ := hlater
  rw [List.append_assoc, along_append] at hG
  have hI : I (run step s earlier) := run_preserves (fun t a ht ha => (hstep t a ht ha).1) hG.1 hs
  have hrest : Along step G (run step s earlier) rest := ((along_append rest more).mp hG.2).1
  rw [run_append]
  generalize run step s earlier = t at hI hrest
  clear hG hs
  induction rest generalizing t with
  | nil => exact hrefl t
  | cons a rest ih =>
    obtain ⟨hnext, hrelated⟩ := hstep t a hI hrest.1
    exact htrans hrelated (ih _ hnext hrest.2)

/-- A state property that some steps break: when a step keeps it exactly if a condition holds, the
property holds in every state of a run exactly if the condition holds along it. -/
theorem forall_prefix_iff_along {P : σ → Prop} (hI : ∀ t a, I t → I (step t a))
    (hP : ∀ t a, I t → P t → (P (step t a) ↔ G t a)) (hs : I s) (hstart : P s) (as : List α) :
    (∀ before, before <+: as → P (run step s before)) ↔ Along step G s as := by
  induction as generalizing s with
  | nil => simpa using hstart
  | cons a as ih =>
    rw [along_cons]
    constructor
    · intro hall
      have hnext : P (step s a) := hall [a] (by simp)
      refine ⟨(hP s a hs hstart).mp hnext, (ih (hI s a hs) hnext).mp ?_⟩
      intro before hbefore
      exact hall (a :: before) (List.cons_prefix_cons.mpr ⟨rfl, hbefore⟩)
    · rintro ⟨hcondition, hrest⟩ before hbefore
      have hnext := (hP s a hs hstart).mpr hcondition
      cases before with
      | nil => exact hstart
      | cons first before =>
        obtain ⟨rfl, hbegins⟩ := List.cons_prefix_cons.mp hbefore
        exact (ih (hI s first hs) hnext).mpr hrest before hbegins

end Run

end Foundation
