import Mathlib.Data.Option.Basic
import Mathlib.Logic.Function.Basic

/-!
# Renaming entries of a store

A store gives each name its contents, if any.  A rename moves what stands under one name to another
one.  If every rename of a list moves something to a name that is free by then, undoing them from
the last to the first brings the store back, and the names that are taken afterwards and were free
before are names that something was moved to.
-/

namespace Foundation.Renames

variable {ι α : Type*} [DecidableEq ι]

/-- Rename an entry: what `old` stands for moves to `new`. -/
def rename (old new : ι) (store : ι → Option α) : ι → Option α :=
  Function.update (Function.update store old none) new (store old)

/-- The renames of a list, each given by the new name and the old one. -/
def renameAll (moves : List (ι × ι)) (store : ι → Option α) : ι → Option α :=
  moves.foldl (fun store moved => rename moved.2 moved.1 store) store

/-- Undo the renames of a list from the last to the first, where there is something to move back. -/
def undoAll (moves : List (ι × ι)) (store : ι → Option α) : ι → Option α :=
  moves.reverse.foldl (fun store moved =>
    if (store moved.1).isSome then rename moved.1 moved.2 store else store) store

/-- Every rename moves something, to a name that is free. -/
def Clear : List (ι × ι) → (ι → Option α) → Prop
  | [], _ => True
  | moved :: rest, store =>
    (store moved.2).isSome ∧ store moved.1 = none ∧ Clear rest (rename moved.2 moved.1 store)

variable {store : ι → Option α} {moves : List (ι × ι)}

lemma rename_new (old new : ι) (store : ι → Option α) : rename old new store new = store old := by
  simp [rename]

lemma rename_old {old new : ι} (h : old ≠ new) (store : ι → Option α) :
    rename old new store old = none := by
  simp [rename, h]

lemma rename_of_ne {old new name : ι} (hold : name ≠ old) (hnew : name ≠ new)
    (store : ι → Option α) : rename old new store name = store name := by
  simp [rename, hold, hnew]

/-- A rename to a free name can be undone. -/
lemma rename_rename {old new : ι} (hfree : store new = none) :
    rename new old (rename old new store) = store := by
  funext name
  by_cases hold : name = old
  · rw [hold, rename_new, rename_new]
  by_cases hnew : name = new
  · rw [hnew, rename_old, hfree]
    exact hnew ▸ hold
  · rw [rename_of_ne hnew hold, rename_of_ne hold hnew]

lemma renameAll_append (first second : List (ι × ι)) (store : ι → Option α) :
    renameAll (first ++ second) store = renameAll second (renameAll first store) := by
  unfold renameAll
  rw [List.foldl_append]

lemma clear_append {first second : List (ι × ι)} :
    Clear (first ++ second) store ↔ Clear first store ∧ Clear second (renameAll first store) := by
  induction first generalizing store with
  | nil => simp [Clear, renameAll]
  | cons moved rest ih =>
    simp only [List.cons_append, Clear, ih, and_assoc]
    rfl

/-- Undoing the renames brings the store back. -/
theorem undoAll_renameAll (h : Clear moves store) :
    undoAll moves (renameAll moves store) = store := by
  induction moves generalizing store with
  | nil => rfl
  | cons moved rest ih =>
    obtain ⟨hold, hfree, hrest⟩ := h
    have hundone : undoAll rest (renameAll rest (rename moved.2 moved.1 store)) =
        rename moved.2 moved.1 store :=
      ih hrest
    unfold undoAll at hundone ⊢
    rw [List.reverse_cons, List.foldl_append]
    have hthere : (rename moved.2 moved.1 store moved.1).isSome := by
      rw [rename_new]
      exact hold
    calc
      _ = (if (rename moved.2 moved.1 store moved.1).isSome then
            rename moved.1 moved.2 (rename moved.2 moved.1 store) else rename moved.2 moved.1
                store) := by
        simp only [List.foldl_cons, List.foldl_nil]
        rw [show renameAll (moved :: rest) store =
          renameAll rest (rename moved.2 moved.1 store) from rfl, hundone]
      _ = store := by rw [if_pos hthere, rename_rename hfree]

/-- A name is free after the renames if it was, and nothing is moved to it. -/
lemma renameAll_eq_none {name : ι} (hnew : ∀ moved ∈ moves, moved.1 ≠ name)
    (hfree : store name = none) : renameAll moves store name = none := by
  induction moves generalizing store with
  | nil => exact hfree
  | cons moved rest ih =>
    have hne : name ≠ moved.1 := (hnew moved List.mem_cons_self).symm
    refine ih (fun later hlater => hnew later (List.mem_cons_of_mem moved hlater)) ?_
    show rename moved.2 moved.1 store name = none
    rcases eq_or_ne name moved.2 with rfl | hold
    · exact rename_old hne store
    · rw [rename_of_ne hold hne, hfree]

/-- A name that is taken afterwards and was free before is one that something was moved to. -/
lemma exists_moved_of_new {name : ι} (hfree : store name = none)
    (htaken : (renameAll moves store name).isSome) : ∃ moved ∈ moves, moved.1 = name := by
  by_contra hnone
  have hnew : ∀ moved ∈ moves, moved.1 ≠ name := fun moved hmoved heq => hnone ⟨moved, hmoved, heq⟩
  rw [renameAll_eq_none hnew hfree] at htaken
  cases htaken

/-- If nothing is moved to a name that something was moved from, then the renames change the
store. -/
lemma renameAll_ne_self (h : Clear moves store)
    (happart : ∀ moved ∈ moves, ∀ other ∈ moves, moved.1 ≠ other.2)
    (hmoves : moves ≠ []) : renameAll moves store ≠ store := by
  cases moves with
  | nil => exact absurd rfl hmoves
  | cons moved rest =>
    obtain ⟨hold, hfree, -⟩ := h
    have hgone : renameAll rest (rename moved.2 moved.1 store) moved.2 = none := by
      refine renameAll_eq_none (fun later hlater => ?_) ?_
      · exact happart later (List.mem_cons_of_mem moved hlater) moved List.mem_cons_self
      · exact rename_old (happart moved List.mem_cons_self moved List.mem_cons_self).symm store
    intro heq
    rw [show renameAll rest (rename moved.2 moved.1 store) = store from heq] at hgone
    rw [hgone] at hold
    cases hold

end Foundation.Renames
