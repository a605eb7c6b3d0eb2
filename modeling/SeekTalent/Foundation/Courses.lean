import SeekTalent.Foundation.Programs

/-!
# The course of one program

`Pool` looks at a store and all its programs at once.  Here one program is followed: its `Course` is
the list of the operations it performs, each with the store it finds, when before each of them the
others perform the operations of a schedule.  Every interleaving of a pool is such a course
(`Pool.exists_course`).

What a course comes to is a question about the stores its operations find: `AtNext` speaks of the
store that the next one finds, once the others have had their turn.

A program that raises what its operations raise, and goes on only after those that succeed, is
described by the phases its operations take it through (`FollowsOn`).  The rule `FollowsOn.ended`
says how its course ends: an operation raises and ends it, or none does and it ends as its last
phase may.
-/

namespace Foundation

/-- An operation, and the store it is performed on. -/
structure Performed (σ Op : Type) where
  before : σ
  op : Op

/-- What a program did, the store behind its last operation and its result. -/
structure Course (σ Op ρ : Type) where
  steps : List (Performed σ Op)
  final : σ
  result : ρ

/-- The operations of a course. -/
def Course.ops {σ Op ρ : Type} (course : Course σ Op ρ) : List Op :=
  course.steps.map (·.op)

section Among

variable {σ Op ρ : Type} {Answer : Op → Type} (exec : (op : Op) → σ → Answer op × σ)

/-- The store after others have performed some operations. -/
def performAll (s : σ) (ops : List Op) : σ :=
  ops.foldl (fun s op => (exec op s).2) s

/-- The course of a program from a store: the schedule says what others perform before each of its
operations, and nothing once it is used up. -/
def Program.among : Program Op Answer ρ → σ → List (List Op) → Course σ Op ρ
  | .done result, s, _ => { steps := [], final := s, result := result }
  | .call op next, s, schedule =>
    let found := performAll exec s (schedule.headD [])
    let rest := (next (exec op found).1).among (exec op found).2 schedule.tail
    { rest with steps := { before := found, op := op } :: rest.steps }

/-- The program that dies when it has performed a number of operations. -/
def Program.dying : Nat → Program Op Answer ρ → Program Op Answer (Option ρ)
  | _, .done result => .done (some result)
  | 0, .call _ _ => .done none
  | left + 1, .call op next => .call op (fun answer => (next answer).dying left)

/-- What a step leaves. -/
def Performed.after (step : Performed σ Op) : σ :=
  (exec step.op step.before).2

/-- A condition on the store that the next operation finds, and on the schedule behind it. -/
def AtNext (s : σ) (schedule : List (List Op)) (P : σ → List (List Op) → Prop) : Prop :=
  P (performAll exec s (schedule.headD [])) schedule.tail

variable {exec} {program : Program Op Answer ρ} {s : σ} {schedule : List (List Op)}

/-- Conditions that agree on every store agree on the next one. -/
theorem atNext_congr {P Q : σ → List (List Op) → Prop}
    (h : ∀ s schedule, P s schedule ↔ Q s schedule) :
    AtNext exec s schedule P ↔ AtNext exec s schedule Q :=
  h _ _

@[simp] theorem among_done (result : ρ) :
    (Program.done result : Program Op Answer ρ).among exec s schedule =
      { steps := [], final := s, result := result } :=
  rfl

/-- A course goes on behind its first operation. -/
theorem among_call {op : Op} {next : Answer op → Program Op Answer ρ} {found : σ}
    (hfound : performAll exec s (schedule.headD []) = found) :
    (Program.call op next).among exec s schedule =
      { (next (exec op found).1).among exec (exec op found).2 schedule.tail with
        steps := { before := found, op := op } ::
          ((next (exec op found).1).among exec (exec op found).2 schedule.tail).steps } := by
  subst hfound
  rfl

/-- A course without others is the run of the program alone. -/
theorem among_nil : (program.among exec s []).final = (program.eval exec s).2 ∧
    (program.among exec s []).result = (program.eval exec s).1 := by
  induction program generalizing s with
  | done result => simp [Program.eval]
  | call op next ih =>
    rw [among_call rfl]
    exact ih (exec op s).1

/-- What every step of a course without others keeps, the program keeps when it runs alone. -/
theorem eval_keeps_of_steps {γ : Type} (read : σ → γ)
    (h : ∀ step ∈ (program.among exec s []).steps, read (step.after exec) = read step.before) :
    read (program.eval exec s).2 = read s := by
  induction program generalizing s with
  | done result => rfl
  | call op next ih =>
    rw [among_call rfl] at h
    obtain ⟨hfirst, hrest⟩ := List.forall_mem_cons.mp h
    exact (ih (exec op s).1 hrest).trans hfirst

/-- What others perform before the first operation may be counted to the store a course begins
with. -/
theorem among_others (op : Op) :
    (program.among exec s ((op :: schedule.headD []) :: schedule.tail)).steps =
        (program.among exec (exec op s).2 schedule).steps ∧
      (program.among exec s ((op :: schedule.headD []) :: schedule.tail)).result =
        (program.among exec (exec op s).2 schedule).result := by
  cases program with
  | done result => exact ⟨rfl, rfl⟩
  | call op' next => exact ⟨rfl, rfl⟩

end Among

/-! ## Courses in a pool -/

namespace Pool

variable {σ Op ρ : Type} {Answer : Op → Type} {exec : (op : Op) → σ → Answer op × σ}

/-- The operations that the program at an index performs in an interleaving. -/
def performedBy (exec : (op : Op) → σ → Answer op × σ) (index : Nat) :
    Pool σ Op Answer ρ → List (Choice Op Answer ρ) → List (Performed σ Op)
  | _, [] => []
  | pool, .start program :: choices =>
    performedBy exec index (pool.step exec (.start program)) choices
  | pool, .advance other :: choices =>
    let later := performedBy exec index (pool.step exec (.advance other)) choices
    if other = index then
      match pool.programs[other]? with
      | some (.call op _) => { before := pool.shared, op := op } :: later
      | _ => later
    else later

/-- What a program of a pool performs in an interleaving is the beginning of one of its courses, and
all of it once the program has returned. -/
theorem exists_course {pool : Pool σ Op Answer ρ} {index : Nat} {program : Program Op Answer ρ}
    (hprogram : pool.programs[index]? = some program) (choices : List (Choice Op Answer ρ)) :
    ∃ schedule rest, (program.among exec pool.shared schedule).steps =
        pool.performedBy exec index choices ++ rest ∧
      ∀ result, (run (step exec) pool choices).programs[index]? = some (.done result) →
        rest = [] ∧ (program.among exec pool.shared schedule).result = result := by
  induction choices generalizing pool program with
  | nil =>
    refine ⟨[], _, rfl, fun result hdone => ?_⟩
    obtain rfl : program = .done result := Option.some.inj (hprogram.symm.trans hdone)
    exact ⟨rfl, rfl⟩
  | cons choice choices ih =>
    cases choice with
    | start other =>
      have hkept : (pool.step exec (.start other)).programs[index]? = some program := by
        simp only [step]
        rw [List.getElem?_append_left (List.getElem?_eq_some_iff.mp hprogram).1, hprogram]
      exact ih hkept
    | advance other =>
      by_cases hindex : other = index
      · subst hindex
        cases program with
        | done result =>
          have hidle : pool.step exec (.advance other) = pool := by simp [step, hprogram]
          have hrest := ih (hidle ▸ hprogram)
          simpa only [performedBy, hprogram, hidle, if_true, run_cons] using hrest
        | call op next =>
          have hnext : pool.step exec (.advance other) =
              { shared := (exec op pool.shared).2
                programs := pool.programs.set other (next (exec op pool.shared).1) } := by
            simp [step, hprogram]
          have hkept : (pool.step exec (.advance other)).programs[other]? =
              some (next (exec op pool.shared).1) := by
            rw [hnext]
            exact List.getElem?_set_self (List.getElem?_eq_some_iff.mp hprogram).1
          obtain ⟨schedule, rest, hsteps, hreturned⟩ := ih hkept
          refine ⟨[] :: schedule, rest, ?_, ?_⟩
          · rw [hnext] at hsteps
            simp only [performedBy, hprogram, if_true, hnext, List.cons_append, ← hsteps]
            rfl
          · intro result hdone
            obtain ⟨hrest, hresult⟩ := hreturned result hdone
            rw [hnext] at hresult
            exact ⟨hrest, hresult⟩
      · have hskip : pool.performedBy exec index (.advance other :: choices) =
            (pool.step exec (.advance other)).performedBy exec index choices := by
          simp [performedBy, hindex]
        cases hother : pool.programs[other]? with
        | none =>
          have hidle : pool.step exec (.advance other) = pool := by simp [step, hother]
          simpa only [hskip, hidle, run_cons] using ih hprogram
        | some moved =>
          cases moved with
          | done result =>
            have hidle : pool.step exec (.advance other) = pool := by simp [step, hother]
            simpa only [hskip, hidle, run_cons] using ih hprogram
          | call op next =>
            have hnext : pool.step exec (.advance other) =
                { shared := (exec op pool.shared).2
                  programs := pool.programs.set other (next (exec op pool.shared).1) } := by
              simp [step, hother]
            have hkept : (pool.step exec (.advance other)).programs[index]? = some program := by
              rw [hnext]
              exact (List.getElem?_set_ne hindex).trans hprogram
            obtain ⟨schedule, rest, hsteps, hreturned⟩ := ih hkept
            refine ⟨(op :: schedule.headD []) :: schedule.tail, rest, ?_, ?_⟩
            · rw [hskip, (among_others op).1, ← hsteps, hnext]
            · intro result hdone
              obtain ⟨hrest, hresult⟩ := hreturned result hdone
              exact ⟨hrest, by rw [(among_others op).2, ← hresult, hnext]⟩

end Pool

/-! ## Programs that stop at the first failure -/

section Phases

variable {σ Op S ε α β ρ : Type} {Value : Op → Type}

variable (exec : (op : Op) → σ → Except ε (Value op) × σ)

/-- From a phase on, the operations of the program take it from phase to phase, it goes on only
after those that succeed, and its result is one the last phase may end with. -/
def Program.FollowsOn (raise : ε → ρ) (after : S → Op → Option S) (ends : S → ρ → Prop) :
    S → Program Op (fun op => Except ε (Value op)) ρ → Prop
  | phase, .done result => ends phase result
  | phase, .call op next => ∃ later, after phase op = some later ∧
      (∀ e, next (.error e) = .done (raise e)) ∧
      ∀ s value, (exec op s).1 = .ok value → (next (.ok value)).FollowsOn raise after ends later

/-- The operation of a step raises. -/
def Performed.Raises (step : Performed σ Op) : Prop :=
  ∃ e, (exec step.op step.before).1 = .error e

/-- How the course of such a program ends. -/
inductive Course.Ended (raise : ε → ρ) (after : S → Op → Option S) (ends : S → ρ → Prop) (phase : S)
    (course : Course σ Op ρ) : Prop
  | returned {last : S} (hphases : course.ops.foldlM after phase = some last)
      (hsteps : ∀ step ∈ course.steps, ¬step.Raises exec) (hends : ends last course.result)
  | raised {last : S} {e : ε} {steps : List (Performed σ Op)} {step : Performed σ Op}
      (hphases : course.ops.foldlM after phase = some last)
      (hsteps : course.steps = steps ++ [step]) (hearlier : ∀ step ∈ steps, ¬step.Raises exec)
      (hraised : (exec step.op step.before).1 = .error e) (hresult : course.result = raise e)

variable {exec} {raise : ε → ρ} {after : S → Op → Option S} {ends : S → ρ → Prop} {phase : S}

/-- The rule for the end of a course. -/
theorem Program.FollowsOn.ended {program : Program Op (fun op => Except ε (Value op)) ρ}
    (h : program.FollowsOn exec raise after ends phase) (s : σ) (schedule : List (List Op)) :
    (program.among exec s schedule).Ended exec raise after ends phase := by
  induction program generalizing phase s schedule with
  | done result => exact .returned rfl (by simp) h
  | call op next ih =>
    obtain ⟨later, hlater, hstops, hgoes⟩ := h
    generalize hfound : performAll exec s (schedule.headD []) = found
    rw [among_call hfound]
    cases hanswer : (exec op found).1 with
    | error e =>
      rw [hstops e]
      have hphases : ([op] : List Op).foldlM after phase = some later := by simp [hlater]
      have hsteps : [({ before := found, op := op } : Performed σ Op)] =
          [] ++ [{ before := found, op := op }] := rfl
      exact .raised hphases hsteps (by simp) hanswer rfl
    | ok value =>
      have hfirst : ¬({ before := found, op := op } : Performed σ Op).Raises exec := by
        rintro ⟨e, he⟩
        exact (nomatch hanswer.symm.trans he)
      cases ih _ (hgoes found value hanswer) (exec op found).2 schedule.tail with
      | returned hphases hsteps hends =>
        refine .returned (by simpa [Course.ops, hlater] using hphases) ?_ hends
        exact List.forall_mem_cons.mpr ⟨hfirst, hsteps⟩
      | @raised last e steps step hphases hsteps hearlier hraised hresult =>
        have hall : ∀ earlier ∈ { before := found, op := op } :: steps, ¬earlier.Raises exec :=
          List.forall_mem_cons.mpr ⟨hfirst, hearlier⟩
        refine .raised (by simpa [Course.ops, hlater] using hphases) ?_ hall hraised hresult
        simp [hsteps]

end Phases

/-- Running nothing behind a program. -/
lemma bind_done {Op ρ : Type} {Answer : Op → Type} (program : Program Op Answer ρ) :
    program.bind .done = program := by
  induction program with
  | done result => rfl
  | call op next ih => exact congrArg (Program.call op) (funext ih)

/-- Programs may be sequenced in any grouping. -/
lemma bind_assoc_program {Op α β ρ : Type} {Answer : Op → Type} (program : Program Op Answer α)
    (f : α → Program Op Answer β) (g : β → Program Op Answer ρ) :
    (program.bind f).bind g = program.bind (fun result => (f result).bind g) := by
  induction program with
  | done result => rfl
  | call op next ih => exact congrArg (Program.call op) (funext ih)

instance {Op : Type} {Answer : Op → Type} : LawfulMonad (Program Op Answer) :=
  LawfulMonad.mk' _ bind_done (fun _ _ => rfl) bind_assoc_program

section Sequencing

variable {σ Op S ε α β : Type} {Value : Op → Type} {after : S → Op → Option S} {phase later : S}
  {ends : S → Except ε β → Prop}

/-- One operation, and what follows its answers. -/
theorem Program.FollowsOn.call {exec : (op : Op) → σ → Except ε (Value op) × σ} {op : Op}
    {next : Value op → ExceptT ε (Program Op (fun op => Except ε (Value op))) β}
    (hop : after phase op = some later)
    (hnext : ∀ s value, (exec op s).1 = .ok value →
      (next value).run.FollowsOn exec .error after ends later) :
    ((ExceptT.mk (Program.perform op) >>= next :
      ExceptT ε (Program Op (fun op => Except ε (Value op))) β)).run.FollowsOn exec .error after
        ends phase :=
  ⟨later, hop, fun _ => rfl, hnext⟩

/-- A computation without operations, and what follows its result. -/
theorem Program.FollowsOn.compute {exec : (op : Op) → σ → Except ε (Value op) × σ} {x : Except ε α}
    {next : α → ExceptT ε (Program Op (fun op => Except ε (Value op))) β}
    (hraise : ∀ e, x = .error e → ends phase (.error e))
    (hnext : ∀ value, x = .ok value → (next value).run.FollowsOn exec .error after ends phase) :
    ((ExceptT.mk (.done x) >>= next :
      ExceptT ε (Program Op (fun op => Except ε (Value op))) β)).run.FollowsOn exec .error after
        ends phase := by
  cases x with
  | error e => exact hraise e rfl
  | ok value => exact hnext value rfl

end Sequencing

/-! ## Operations that follow others -/

section Histories

variable {Op : Type} {allowed : List Op → Op → Prop} {ops last : List Op}

open Classical in
/-- The phase of a program that may perform an operation only behind certain others: what it
performed. -/
noncomputable def recorded (allowed : List Op → Op → Prop) (before : List Op) (op : Op) :
    Option (List Op) :=
  if allowed before op then some (before ++ [op]) else none

/-- An allowed operation is recorded. -/
lemma recorded_of_allowed {before : List Op} {op : Op} (h : allowed before op) :
    recorded allowed before op = some (before ++ [op]) :=
  if_pos h

/-- Each operation of a recorded course is allowed behind those before it. -/
theorem allowed_of_recorded {start before later : List Op} {op : Op}
    (h : (before ++ op :: later).foldlM (recorded allowed) start = some last) :
    allowed (start ++ before) op := by
  induction before generalizing start with
  | nil =>
    rw [List.nil_append, List.foldlM_cons] at h
    obtain ⟨next, hnext, -⟩ := Option.bind_eq_some_iff.mp h
    rw [List.append_nil]
    by_contra hforbidden
    exact (nomatch (if_neg hforbidden).symm.trans hnext)
  | cons first before ih =>
    rw [List.cons_append, List.foldlM_cons] at h
    obtain ⟨next, hnext, hrest⟩ := Option.bind_eq_some_iff.mp h
    unfold recorded at hnext
    split at hnext
    · obtain rfl := Option.some.inj hnext
      simpa using ih hrest
    · exact (nomatch hnext)

end Histories

end Foundation
