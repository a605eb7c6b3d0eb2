import Mathlib.Algebra.BigOperators.Ring.Finset
import Mathlib.Data.List.Rotate
import Mathlib.Data.Nat.ModEq

/-!
# Taking turns

A list that is rotated by one more place in every round, and a total that is divided evenly among
its places, the first ones of which get the remainder.  Within as many rounds as there are elements
everyone comes first once (`heads_rotate`), and everyone has been at every place, so that all get
the same in the end (`sum_share_rotate`).
-/

namespace Foundation

namespace RoundRobin

/-- What the place `index` gets of a total for `count` places. -/
def share (total : Int) (count index : Nat) : Int :=
  total / count + if (index : Int) < total % count then 1 else 0

/-- The shares of all places are the total. -/
lemma sum_share (total : Int) {count : Nat} (hcount : 0 < count) :
    ∑ index ∈ Finset.range count, share total count index = total := by
  have hnonneg : 0 ≤ total % count := Int.emod_nonneg total (by omega)
  have hlt : total % count < count := Int.emod_lt_of_pos total (by omega)
  have hremainder : ((Finset.range count).filter fun index : Nat => (index : Int) < total %
    count).card =
      (total % count).toNat := by
    have hfirst : (Finset.range count).filter (fun index : Nat => (index : Int) < total % count) =
        Finset.range (total % count).toNat := by
      ext index
      rw [Finset.mem_filter, Finset.mem_range, Finset.mem_range]
      omega
    rw [hfirst, Finset.card_range]
  have hdivision := Int.mul_ediv_add_emod total count
  unfold share
  rw [Finset.sum_add_distrib, Finset.sum_const, Finset.card_range, Finset.sum_boole, hremainder,
    nsmul_eq_mul]
  simp only [Int.natCast_toNat_eq_self.mpr hnonneg]
  exact hdivision

/-- Two shares differ by at most one. -/
lemma share_le_succ (total : Int) (count index index' : Nat) :
    share total count index ≤ share total count index' + 1 := by
  unfold share
  split <;> split <;> omega

/-- A place gets something exactly if it is one of the first `total`. -/
lemma share_pos_iff {total : Int} (htotal : 0 < total) {count index : Nat}
    (hindex : index < count) : 0 < share total count index ↔ (index : Int) < total := by
  have hdivision := Int.mul_ediv_add_emod total count
  have hnonneg : 0 ≤ total % count := Int.emod_nonneg total (by omega)
  have hlt : total % count < count := Int.emod_lt_of_pos total (by omega)
  have hquotient : 0 ≤ total / count := Int.ediv_nonneg (by omega) (by omega)
  unfold share
  by_cases hzero : total / count = 0
  · rw [hzero, mul_zero, zero_add] at hdivision
    rw [hzero, hdivision]
    split <;> omega
  · have hone : 1 ≤ total / count := by omega
    have hle : (count : Int) * 1 ≤ count * (total / count) :=
      Int.mul_le_mul_of_nonneg_left hone (by omega)
    constructor
    · intro _
      omega
    · intro _
      split <;> omega

section Turns

variable {α : Type*}

/-- The elements that come first in as many rounds as there are elements are all, from the first
round's on. -/
theorem heads_rotate (l : List α) (start : Nat) :
    (List.range l.length).map
    (fun i => (l.rotate (start + i)).head?) = (l.rotate start).map some := by
  refine List.ext_getElem (by simp) fun i hi _ => ?_
  rw [List.length_map, List.length_range] at hi
  rw [List.getElem_map, List.getElem_map, List.getElem_range, List.head?_eq_getElem?,
    List.getElem?_eq_getElem (by rw [List.length_rotate]; omega), List.getElem_rotate,
    List.getElem_rotate]
  congr 2
  rw [Nat.zero_add, Nat.add_comm]

variable [DecidableEq α]

/-- The places of an element in as many rounds as there are elements are all places. -/
lemma image_idxOf_rotate {l : List α} (hnodup : l.Nodup) {a : α} (ha : a ∈ l) (start : Nat) :
    (Finset.range l.length).image
    (fun i => (l.rotate (start + i)).idxOf a) = Finset.range l.length := by
  have hplace : ∀ i, (l.rotate (start + i)).idxOf a < l.length := fun i => by
    have hmem : a ∈ l.rotate (start + i) := List.mem_rotate.mpr ha
    simpa using List.idxOf_lt_length_iff.mpr hmem
  refine Finset.eq_of_subset_of_card_le ?_ ?_
  · intro place hmem
    obtain ⟨i, -, rfl⟩ := Finset.mem_image.mp hmem
    exact Finset.mem_range.mpr (hplace i)
  · rw [Finset.card_image_of_injOn]
    intro i hi j hj hsame
    rw [Finset.coe_range, Set.mem_Iio] at hi hj
    dsimp only at hsame
    -- The element is found at one place of the list, which tells the two rounds to be the same.
    have hfound : ∀ k, ∃ hk : ((l.rotate (start + k)).idxOf a + (start + k)) % l.length < l.length,
        l[((l.rotate (start + k)).idxOf a + (start + k)) % l.length] = a := fun k => by
      refine ⟨Nat.mod_lt _ (by omega), ?_⟩
      have hk : (l.rotate (start + k)).idxOf a < (l.rotate (start + k)).length := by
        rw [List.length_rotate]
        exact hplace k
      rw [← List.getElem_rotate l (start + k) _ hk]
      exact List.getElem_idxOf hk
    obtain ⟨hi', hai⟩ := hfound i
    obtain ⟨hj', haj⟩ := hfound j
    have hplaces := (List.Nodup.getElem_inj_iff hnodup).mp (hai.trans haj.symm)
    rw [hsame, ← Nat.add_assoc, ← Nat.add_assoc] at hplaces
    have hmod : i % l.length = j % l.length := Nat.ModEq.add_left_cancel' _ hplaces
    rwa [Nat.mod_eq_of_lt hi, Nat.mod_eq_of_lt hj] at hmod

/-- In as many rounds as there are elements every element gets the total. -/
theorem sum_share_rotate (total : Int) {l : List α} (hnodup : l.Nodup) {a : α} (ha : a ∈ l)
    (start : Nat) :
    ∑ i ∈ Finset.range l.length, share total l.length ((l.rotate (start + i)).idxOf a) = total := by
  have himage := image_idxOf_rotate hnodup ha start
  have hinjective : Set.InjOn (fun i => (l.rotate (start + i)).idxOf a)
      (Finset.range l.length) := by
    rw [← Finset.card_image_iff, himage]
  rw [← Finset.sum_image hinjective (f := share total l.length), himage]
  exact sum_share total (List.length_pos_of_mem ha)

end Turns

end RoundRobin

end Foundation
