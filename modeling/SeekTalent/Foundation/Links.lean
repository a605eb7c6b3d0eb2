import Mathlib.Data.List.Basic
import Mathlib.Logic.Relation

/-!
# Chains through a list

Elements of a list that share something pairwise are linked when a chain of such pairs joins them.
The lemmas say how linking grows with the list and how it is symmetric when sharing is.
-/

namespace Foundation

variable {α : Type*} {shares : α → α → Prop} {xs ys : List α} {x y z : α}

/-- A chain of elements of the list, each sharing something with the next, joins the two. -/
def Linked (shares : α → α → Prop) (xs : List α) : α → α → Prop :=
  Relation.ReflTransGen (fun x y => x ∈ xs ∧ y ∈ xs ∧ shares x y)

namespace Linked

/-- Two elements that share something are linked. -/
lemma of_shares (hx : x ∈ xs) (hy : y ∈ xs) (h : shares x y) : Linked shares xs x y :=
  Relation.ReflTransGen.single ⟨hx, hy, h⟩

/-- Chains compose. -/
lemma trans (hxy : Linked shares xs x y) (hyz : Linked shares xs y z) : Linked shares xs x z :=
  Relation.ReflTransGen.trans hxy hyz

/-- A chain through a list is a chain through every larger one. -/
lemma mono (hsub : ∀ w ∈ xs, w ∈ ys) (h : Linked shares xs x y) : Linked shares ys x y := by
  induction h with
  | refl => exact Relation.ReflTransGen.refl
  | tail _ hstep ih => exact ih.tail ⟨hsub _ hstep.1, hsub _ hstep.2.1, hstep.2.2⟩

/-- Chains can be walked backwards when sharing is symmetric. -/
lemma symm (hsymm : ∀ {v w}, shares v w → shares w v) (h : Linked shares xs x y) :
    Linked shares xs y x := by
  induction h with
  | refl => exact Relation.ReflTransGen.refl
  | tail _ hstep ih => exact ih.head ⟨hstep.2.1, hstep.1, hsymm hstep.2.2⟩

/-- What every pair that shares something agrees on, linked elements agree on. -/
lemma agree {β : Type*} {f : α → β} (hf : ∀ v ∈ xs, ∀ w ∈ xs, shares v w → f v = f w)
    (h : Linked shares xs x y) : f x = f y := by
  induction h with
  | refl => rfl
  | tail _ hstep ih => exact ih.trans (hf _ hstep.1 _ hstep.2.1 hstep.2.2)

end Linked

end Foundation
