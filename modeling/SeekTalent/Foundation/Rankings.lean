import Mathlib.Data.Finset.Card
import Mathlib.Data.List.Sort

/-!
# Taking the first ones

The elements that `take` keeps of a list in strict order and those that `find?` finds in it, and two
lists that name the same values by different elements.
-/

namespace Foundation

variable {α β : Type*}

/-- The first elements of a list in strict order are those which few of its elements come before. -/
theorem mem_take_iff_of_sorted [LinearOrder β] {key : α → β} {l : List α}
    (h : l.Pairwise fun a b => key a < key b) {x : α} (hx : x ∈ l) (k : Nat) :
    x ∈ l.take k ↔ (l.filter fun a => key a < key x).length < k := by
  induction l generalizing k with
  | nil => exact absurd hx List.not_mem_nil
  | cons a rest ih =>
    obtain ⟨ha, hrest⟩ := List.pairwise_cons.mp h
    obtain rfl | hx := List.mem_cons.mp hx
    · have hnone : ((x :: rest).filter fun b => key b < key x) = [] :=
        List.filter_eq_nil_iff.mpr fun b hb => by
          obtain rfl | hb := List.mem_cons.mp hb
          · simp
          · simpa using (ha b hb).le
      rw [hnone]
      cases k with
      | zero => simp
      | succ k => simp
    · have hne : x ≠ a := fun heq => absurd (ha x hx) (heq ▸ lt_irrefl _)
      rw [List.filter_cons_of_pos (by simpa using ha x hx), List.length_cons]
      cases k with
      | zero => simp
      | succ k =>
        rw [List.take_succ_cons, List.mem_cons, ih hrest hx]
        simp [hne]

/-- The first element of a list in strict order that has a property is the least one that has it. -/
theorem le_of_find?_of_sorted [LinearOrder β] {key : α → β} {l : List α}
    (h : l.Pairwise fun a b => key a < key b) {p : α → Bool} {c x : α} (hc : l.find? p = some c)
    (hx : x ∈ l) (hp : p x = true) : key c ≤ key x := by
  induction l with
  | nil => exact absurd hx List.not_mem_nil
  | cons a rest ih =>
    obtain ⟨ha, hrest⟩ := List.pairwise_cons.mp h
    by_cases hpa : p a = true
    · obtain rfl : a = c := by simpa [hpa] using hc
      obtain rfl | hx := List.mem_cons.mp hx
      · exact le_refl _
      · exact (ha x hx).le
    · rw [List.find?_cons_of_neg hpa] at hc
      obtain rfl | hx := List.mem_cons.mp hx
      · exact absurd hp hpa
      · exact ih hrest hc hx

/-- Of two elements of a list in strict order, the smaller one comes first. -/
theorem rel_of_lt_of_pairwise [LinearOrder β] {key : α → β} {R : α → α → Prop} {l : List α}
    (h : l.Pairwise fun a b => key a < key b) (hR : l.Pairwise R) {x y : α} (hx : x ∈ l)
    (hy : y ∈ l) (hlt : key x < key y) : R x y := by
  induction l with
  | nil => exact absurd hx List.not_mem_nil
  | cons a rest ih =>
    obtain ⟨ha, hrest⟩ := List.pairwise_cons.mp h
    obtain ⟨hRa, hRrest⟩ := List.pairwise_cons.mp hR
    obtain rfl | hyrest := List.mem_cons.mp hy
    · obtain rfl | hxrest := List.mem_cons.mp hx
      · exact absurd hlt (lt_irrefl _)
      · exact absurd hlt (ha x hxrest).asymm
    · obtain rfl | hxrest := List.mem_cons.mp hx
      · exact hRa y hyrest
      · exact ih hrest hRrest hxrest hyrest

/-- Of two lists with the same images, the second one has an element with the image of what it
lacks. -/
theorem exists_mem_not_mem_of_map_eq {f : α → β} {xs ys : List α} (hxs : xs.Nodup)
    (hys : ys.Nodup) (h : xs.map f = ys.map f) {x : α} (hx : x ∈ xs) (hlacks : x ∉ ys) :
    ∃ y ∈ ys, y ∉ xs ∧ f y = f x := by
  classical
  by_contra hnone
  push Not at hnone
  have hsub : (ys.filter fun y => f y = f x).toFinset ⊂
      (xs.filter fun y => f y = f x).toFinset := by
    refine Finset.ssubset_iff_subset_ne.mpr ⟨fun y hy => ?_, fun heq => ?_⟩
    · rw [List.mem_toFinset, List.mem_filter, decide_eq_true_eq] at hy ⊢
      refine ⟨?_, hy.2⟩
      by_contra hmem
      exact hnone y hy.1 hmem hy.2
    · have hmem : x ∈ (ys.filter fun y => f y = f x).toFinset := by
        rw [heq]
        simpa using hx
      exact hlacks (List.mem_filter.mp (List.mem_toFinset.mp hmem)).1
  have hcount : (xs.filter fun y => f y = f x).length = (ys.filter fun y => f y = f x).length := by
    have hmap := congrArg (List.countP fun b => b = f x) h
    rw [List.countP_map, List.countP_map, List.countP_eq_length_filter,
      List.countP_eq_length_filter] at hmap
    exact hmap
  have hcard := Finset.card_lt_card hsub
  rw [List.toFinset_card_of_nodup (hys.filter _), List.toFinset_card_of_nodup (hxs.filter _),
    hcount] at hcard
  exact lt_irrefl _ hcard

end Foundation
