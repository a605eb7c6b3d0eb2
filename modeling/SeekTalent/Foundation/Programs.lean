import SeekTalent.Foundation.Machine

/-!
# Concurrent programs over atomic operations

A component whose state lives in one shared store is used by several parties at once, each running a
program that alternates its own computation with atomic operations of the store.  `Program` is such
a program, `Pool` is a store together with the programs that are under way, and a list of `Choice`s
is an interleaving: it starts programs and picks, one operation at a time, which of them moves.

The rules reduce statements about interleavings to statements about single operations: what every
operation keeps, every interleaving keeps, and a property that operations keep exactly when a
condition holds is kept by an interleaving exactly when the condition holds at each operation.
-/

namespace Foundation

/-- A program that has returned, or that calls an operation and goes on with its answer. -/
inductive Program (Op : Type) (Answer : Op → Type) (ρ : Type) : Type
  | done (result : ρ)
  | call (op : Op) (next : Answer op → Program Op Answer ρ)

namespace Program

variable {Op : Type} {Answer : Op → Type} {ρ ρ' σ : Type}

/-- Run one program after another. -/
def bind : Program Op Answer ρ → (ρ → Program Op Answer ρ') → Program Op Answer ρ'
  | .done result, next => next result
  | .call op rest, next => .call op (fun answer => (rest answer).bind next)

instance : Monad (Program Op Answer) where
  pure := .done
  bind := .bind

/-- The program that performs one operation. -/
def perform (op : Op) : Program Op Answer (Answer op) :=
  .call op .done

/-- Run a program on a store that nobody else uses. -/
def eval (exec : (op : Op) → σ → Answer op × σ) : Program Op Answer ρ → σ → ρ × σ
  | .done result, s => (result, s)
  | .call op next, s => (next (exec op s).1).eval exec (exec op s).2

/-- Every call of the program, with what follows it, meets a condition. -/
def Everywhere (C : (op : Op) → (Answer op → Program Op Answer ρ) → Prop) :
    Program Op Answer ρ → Prop
  | .done _ => True
  | .call op next => C op next ∧ ∀ answer, (next answer).Everywhere C

/-- Each operation of the program meets a condition on the store it is performed on, and the result
meets one on the store it is returned from, whatever others have added to the store before. -/
def Honours (exec : (op : Op) → σ → Answer op × σ) (grows : σ → σ → Prop) (G : σ → Op → Prop)
    (Q : σ → ρ → Prop) : Program Op Answer ρ → σ → Prop
  | .done result, s => Q s result
  | .call op next, s => ∀ s', grows s s' →
    G s' op ∧ (next (exec op s').1).Honours exec grows G Q (exec op s').2

section Honours

variable {exec : (op : Op) → σ → Answer op × σ} {grows : σ → σ → Prop} {G : σ → Op → Prop}
  {Q : σ → ρ → Prop} {program : Program Op Answer ρ} {s s' : σ}

/-- A program goes on honouring the conditions when the store grows. -/
theorem Honours.grow (htrans : ∀ {a b c}, grows a b → grows b c → grows a c)
    (hQ : ∀ {a b} result, grows a b → Q a result → Q b result)
    (h : program.Honours exec grows G Q s) (hs : grows s s') :
    program.Honours exec grows G Q s' := by
  cases program with
  | done result => exact hQ result hs h
  | call op next => exact fun later hlater => h later (htrans hs hlater)

/-- What the operations of a program keep under the condition that it honours, the program keeps
when it runs alone. -/
theorem Honours.eval_keeps {I : σ → Prop} (hrefl : ∀ s, grows s s)
    (hop : ∀ s op, I s → G s op → I (exec op s).2) (h : program.Honours exec grows G Q s)
    (hs : I s) : I (program.eval exec s).2 := by
  induction program generalizing s with
  | done result => exact hs
  | call op next ih =>
    obtain ⟨hcondition, hnext⟩ := h s (hrefl s)
    exact ih _ hnext (hop s op hs hcondition)

/-- A program after another honours the conditions when it does so behind every result of the
first. -/
theorem Honours.bind {R : σ → ρ' → Prop} {next : ρ → Program Op Answer ρ'}
    (h : program.Honours exec grows G Q s)
    (hnext : ∀ s result, Q s result → (next result).Honours exec grows G R s) :
    (program.bind next).Honours exec grows G R s := by
  induction program generalizing s with
  | done result => exact hnext s result h
  | call op rest ih =>
    intro s' hs'
    obtain ⟨hcondition, hrest⟩ := h s' hs'
    exact ⟨hcondition, ih _ hrest⟩

end Honours

end Program

/-- A store and the programs that use it. -/
structure Pool (σ : Type) (Op : Type) (Answer : Op → Type) (ρ : Type) where
  shared : σ
  programs : List (Program Op Answer ρ)

/-- What happens next: a program is started, or one of the programs performs its next operation. -/
inductive Choice (Op : Type) (Answer : Op → Type) (ρ : Type) : Type
  | start (program : Program Op Answer ρ)
  | advance (index : Nat)

namespace Pool

variable {σ Op ρ : Type} {Answer : Op → Type}

/-- The operation, if any, that a choice makes a program perform. -/
def called (pool : Pool σ Op Answer ρ) : Choice Op Answer ρ → Option Op
  | .start _ => none
  | .advance index =>
    match pool.programs[index]? with
    | some (.call op _) => some op
    | _ => none

/-- One step of a pool. -/
def step (exec : (op : Op) → σ → Answer op × σ) (pool : Pool σ Op Answer ρ) :
    Choice Op Answer ρ → Pool σ Op Answer ρ
  | .start program => { pool with programs := pool.programs ++ [program] }
  | .advance index =>
    match pool.programs[index]? with
    | some (.call op next) =>
      { shared := (exec op pool.shared).2
        programs := pool.programs.set index (next (exec op pool.shared).1) }
    | _ => pool

/-- A condition on the store and the operation, asked whenever a choice performs one. -/
def Guarded (G : σ → Op → Prop) (pool : Pool σ Op Answer ρ) (choice : Choice Op Answer ρ) : Prop :=
  ∀ op, pool.called choice = some op → G pool.shared op

section Rules

variable {exec : (op : Op) → σ → Answer op × σ} {pool : Pool σ Op Answer ρ}
  {choice : Choice Op Answer ρ} {G H : σ → Op → Prop} {I P : σ → Prop}

/-- A choice that performs an operation leaves the store as the operation does. -/
theorem step_shared_of_called {op : Op} (hcalled : pool.called choice = some op) :
    (pool.step exec choice).shared = (exec op pool.shared).2 := by
  cases choice with
  | start program => simp [called] at hcalled
  | advance index =>
    cases hprogram : pool.programs[index]? with
    | none => simp [called, hprogram] at hcalled
    | some program =>
      cases program with
      | done result => simp [called, hprogram] at hcalled
      | call op' next =>
        obtain rfl : op' = op := by simpa [called, hprogram] using hcalled
        simp [step, hprogram]

/-- A choice that performs no operation leaves the store alone. -/
theorem step_shared_of_not_called (hcalled : pool.called choice = none) :
    (pool.step exec choice).shared = pool.shared := by
  cases choice with
  | start program => rfl
  | advance index =>
    cases hprogram : pool.programs[index]? with
    | none => simp [step, hprogram]
    | some program =>
      cases program with
      | done result => simp [step, hprogram]
      | call op next => simp [called, hprogram] at hcalled

/-- What every operation keeps, every step keeps. -/
theorem step_keeps (hop : ∀ s op, I s → I (exec op s).2) (hI : I pool.shared) :
    I (pool.step exec choice).shared := by
  cases hcalled : pool.called choice with
  | none => rwa [step_shared_of_not_called hcalled]
  | some op =>
    rw [step_shared_of_called hcalled]
    exact hop _ op hI

/-- The invariant rule: what every operation keeps, every interleaving keeps. -/
theorem run_keeps (hop : ∀ s op, I s → I (exec op s).2) (hI : I pool.shared)
    (choices : List (Choice Op Answer ρ)) : I (run (step exec) pool choices).shared :=
  run_invariant (I := fun p : Pool σ Op Answer ρ => I p.shared)
    (fun _ _ h => step_keeps hop h) hI choices

/-- The rule for a property that some operations break: when an operation keeps it exactly if a
condition holds, it holds in every state of an interleaving exactly if the condition holds at each
operation performed. -/
theorem forall_prefix_iff_guarded (hI : ∀ s op, I s → I (exec op s).2)
    (hP : ∀ s op, I s → P s → (P (exec op s).2 ↔ G s op)) (hs : I pool.shared)
    (hstart : P pool.shared) (choices : List (Choice Op Answer ρ)) :
    (∀ before, before <+: choices → P (run (step exec) pool before).shared) ↔
      Along (step exec) (Guarded G) pool choices := by
  refine forall_prefix_iff_along (I := fun p : Pool σ Op Answer ρ => I p.shared)
    (P := fun p => P p.shared) (fun _ _ h => step_keeps hI h) ?_ hs hstart choices
  intro p c hIp hPp
  constructor
  · intro hnext op hcalled
    rw [step_shared_of_called hcalled] at hnext
    exact (hP _ op hIp hPp).mp hnext
  · intro hguard
    cases hcalled : p.called c with
    | none => rwa [step_shared_of_not_called hcalled]
    | some op =>
      rw [step_shared_of_called hcalled]
      exact (hP _ op hIp hPp).mpr (hguard op hcalled)

/-- The rule for an invariant that operations keep under a condition. -/
theorem prefix_keeps (hop : ∀ s op, I s → G s op → I (exec op s).2) (hI : I pool.shared)
    {choices before : List (Choice Op Answer ρ)} (hG : Along (step exec) (Guarded G) pool choices)
    (hbefore : before <+: choices) : I (run (step exec) pool before).shared := by
  obtain ⟨rest, rfl⟩ := hbefore
  refine run_preserves (I := fun p : Pool σ Op Answer ρ => I p.shared) ?_
    ((along_append before rest).mp hG).1 hI
  intro p c hIp hguard
  cases hcalled : p.called c with
  | none => rwa [step_shared_of_not_called hcalled]
  | some op =>
    rw [step_shared_of_called hcalled]
    exact hop _ op hIp (hguard op hcalled)

/-- The rule for a relation between earlier and later stores. -/
theorem prefix_relates {R : σ → σ → Prop} (hrefl : ∀ s, R s s)
    (htrans : ∀ {a b c}, R a b → R b c → R a c)
    (hop : ∀ s op, I s → G s op → I (exec op s).2 ∧ R s (exec op s).2) (hI : I pool.shared)
    {choices earlier later : List (Choice Op Answer ρ)}
    (hG : Along (step exec) (Guarded G) pool choices) (hearlier : earlier <+: later)
    (hlater : later <+: choices) :
    R (run (step exec) pool earlier).shared (run (step exec) pool later).shared := by
  refine Foundation.prefix_relates (I := fun p : Pool σ Op Answer ρ => I p.shared)
    (R := fun p p' => R p.shared p'.shared) (fun p => hrefl p.shared)
    (fun h h' => htrans h h') ?_ hG hI hearlier hlater
  intro p c hIp hguard
  cases hcalled : p.called c with
  | none =>
    rw [step_shared_of_not_called hcalled]
    exact ⟨hIp, hrefl _⟩
  | some op =>
    rw [step_shared_of_called hcalled]
    exact hop _ op hIp (hguard op hcalled)

/-- Two conditions that agree on the states of an invariant hold along the same interleavings. -/
theorem along_guarded_congr (hI : ∀ s op, I s → I (exec op s).2)
    (hGH : ∀ s op, I s → (G s op ↔ H s op)) (hs : I pool.shared)
    (choices : List (Choice Op Answer ρ)) :
    Along (step exec) (Guarded G) pool choices ↔ Along (step exec) (Guarded H) pool choices := by
  have hkeep : ∀ (p : Pool σ Op Answer ρ) c, I p.shared → I (p.step exec c).shared :=
    fun _ _ h => step_keeps hI h
  constructor
  · intro hG
    refine along_of_invariant (I := fun p : Pool σ Op Answer ρ => I p.shared)
      (fun p c h _ => hkeep p c h) ?_ hG hs
    exact fun p c h hguard op hcalled => (hGH _ op h).mp (hguard op hcalled)
  · intro hH
    refine along_of_invariant (I := fun p : Pool σ Op Answer ρ => I p.shared)
      (fun p c h _ => hkeep p c h) ?_ hH hs
    exact fun p c h hguard op hcalled => (hGH _ op h).mpr (hguard op hcalled)

end Rules

section Rely

variable {exec : (op : Op) → σ → Answer op × σ} {grows : σ → σ → Prop} {G : σ → Op → Prop}
  {Q : σ → ρ → Prop}

/-- A choice starts only programs that meet a condition. -/
def Starts (K : Program Op Answer ρ → Prop) : Choice Op Answer ρ → Prop
  | .start program => K program
  | .advance _ => True

/-- Every program of the pool honours the conditions on its store. -/
def Honoured (exec : (op : Op) → σ → Answer op × σ) (grows : σ → σ → Prop) (G : σ → Op → Prop)
    (Q : σ → ρ → Prop) (pool : Pool σ Op Answer ρ) : Prop :=
  ∀ program ∈ pool.programs, program.Honours exec grows G Q pool.shared

/-- One step of the rely rule: the condition holds at the operation that is performed, and the
programs go on honouring the conditions. -/
theorem Honoured.step (hrefl : ∀ s, grows s s)
    (htrans : ∀ {a b c}, grows a b → grows b c → grows a c) (hgrows : ∀ op s, grows s (exec op s).2)
    (hQ : ∀ {a b} result, grows a b → Q a result → Q b result)
    {K : Program Op Answer ρ → Prop}
    (hstart : ∀ program s, K program → program.Honours exec grows G Q s)
    {pool : Pool σ Op Answer ρ} (hpool : pool.Honoured exec grows G Q) {choice : Choice Op Answer ρ}
    (hchoice : Starts K choice) :
    Guarded G pool choice ∧ (pool.step exec choice).Honoured exec grows G Q := by
  cases choice with
  | start program =>
    refine ⟨fun op hop => by simp [called] at hop, fun other hother => ?_⟩
    obtain hold | hsame := List.mem_append.mp hother
    · exact hpool other hold
    · rw [List.mem_singleton.mp hsame]
      exact hstart program _ hchoice
  | advance index =>
    cases hprogram : pool.programs[index]? with
    | none =>
      have hidle : pool.step exec (.advance index) = pool := by simp [Pool.step, hprogram]
      exact ⟨fun op hop => by simp [called, hprogram] at hop, by rwa [hidle]⟩
    | some program =>
      cases program with
      | done result =>
        have hidle : pool.step exec (.advance index) = pool := by simp [Pool.step, hprogram]
        exact ⟨fun op hop => by simp [called, hprogram] at hop, by rwa [hidle]⟩
      | call op next =>
        have hmem := List.mem_of_getElem? hprogram
        obtain ⟨hcondition, hnext⟩ := hpool _ hmem pool.shared (hrefl pool.shared)
        have hstep : pool.step exec (.advance index) =
            { shared := (exec op pool.shared).2
              programs := pool.programs.set index (next (exec op pool.shared).1) } := by
          simp [Pool.step, hprogram]
        refine ⟨fun other hother => ?_, ?_⟩
        · obtain rfl : op = other := by simpa [called, hprogram] using hother
          exact hcondition
        · rw [hstep]
          intro other hother
          obtain hold | rfl := List.mem_or_eq_of_mem_set hother
          · exact (hpool other hold).grow htrans hQ (hgrows op pool.shared)
          · exact hnext

/-- The rely rule: where every program that is started honours the conditions on whatever store it
finds, and operations only add to the store, the condition holds at every operation of every
interleaving, and at its end the programs honour the conditions. -/
theorem along_guarded_of_honours (hrefl : ∀ s, grows s s)
    (htrans : ∀ {a b c}, grows a b → grows b c → grows a c) (hgrows : ∀ op s, grows s (exec op s).2)
    (hQ : ∀ {a b} result, grows a b → Q a result → Q b result)
    {K : Program Op Answer ρ → Prop}
    (hstart : ∀ program s, K program → program.Honours exec grows G Q s)
    {pool : Pool σ Op Answer ρ} (hpool : pool.Honoured exec grows G Q)
    {choices : List (Choice Op Answer ρ)} (hchoices : ∀ choice ∈ choices, Starts K choice) :
    Along (step exec) (Guarded G) pool choices ∧
      (run (step exec) pool choices).Honoured exec grows G Q := by
  induction choices generalizing pool with
  | nil => exact ⟨trivial, hpool⟩
  | cons choice choices ih =>
    rw [List.forall_mem_cons] at hchoices
    obtain ⟨hcondition, hnext⟩ := hpool.step hrefl htrans hgrows hQ hstart hchoices.1
    obtain ⟨hrest, hend⟩ := ih hnext hchoices.2
    exact ⟨⟨hcondition, hrest⟩, hend⟩

end Rely

end Pool

end Foundation
