import Mathlib.Algebra.BigOperators.Group.Finset.Piecewise
import Mathlib.Algebra.BigOperators.Group.List.Basic
import Mathlib.Algebra.Ring.Nat
import Mathlib.Data.Finset.Card
import Mathlib.Data.Finset.Union
import Mathlib.Data.List.Dedup

/-!
# Things claimed by those who name them first

Several claimants name things, one after the other, and a thing belongs to the first one who names
it, unless it was known before anybody did.  `firstClaims` lists the claims that win.  Each unknown
thing is won exactly once, so over all claimants the claims that win are as many as the unknown
things, whatever the order in which they are named.
-/

namespace Foundation

variable {κ ι : Type*} [DecidableEq ι]

/-- The claims that win, the things of `known` being taken. -/
def firstClaims (known : List ι) : List (κ × ι) → List (κ × ι)
  | [] => []
  | claim :: rest =>
    if claim.2 ∈ known then firstClaims known rest else claim :: firstClaims (claim.2 :: known) rest

variable {claims : List (κ × ι)}

variable {known : List ι} {i : ι}

/-- A claim wins if its thing was not known and it is the first one for it. -/
lemma mem_firstClaims {k : κ} :
    (k, i) ∈ firstClaims known claims ↔
      i ∉ known ∧ (claims.find? fun claim => claim.2 = i) = some (k, i) := by
  induction claims generalizing known with
  | nil => simp [firstClaims]
  | cons claim rest ih =>
    obtain ⟨k', i'⟩ := claim
    unfold firstClaims
    by_cases hknown : i' ∈ known
    · rw [if_pos hknown, ih]
      refine and_congr_right fun hi => ?_
      have hne : i' ≠ i := fun heq => hi (heq ▸ hknown)
      rw [List.find?_cons_of_neg (by simpa using hne)]
    · rw [if_neg hknown, List.mem_cons, ih]
      by_cases heq : i' = i
      · subst heq
        rw [List.find?_cons_of_pos (by simp)]
        simp [hknown, eq_comm]
      · rw [List.find?_cons_of_neg (by simpa using heq)]
        have hne : i ≠ i' := fun h => heq h.symm
        simp [hne]

/-- What wins was claimed. -/
lemma firstClaims_sublist (known : List ι) (claims : List (κ × ι)) :
    (firstClaims known claims).Sublist claims := by
  induction claims generalizing known with
  | nil => exact List.Sublist.refl _
  | cons claim rest ih =>
    unfold firstClaims
    split
    · exact (ih known).cons claim
    · exact (ih (claim.2 :: known)).cons_cons claim

/-- The things that are won: those which are named and were not known. -/
lemma mem_map_firstClaims :
    i ∈ (firstClaims known claims).map Prod.snd ↔ i ∉ known ∧ i ∈ claims.map Prod.snd := by
  constructor
  · rintro hmem
    obtain ⟨⟨k, _⟩, hclaim, rfl⟩ := List.mem_map.mp hmem
    exact ⟨(mem_firstClaims.mp hclaim).1,
      List.mem_map_of_mem ((firstClaims_sublist known claims).subset hclaim)⟩
  · rintro ⟨hunknown, hmem⟩
    obtain ⟨claim, hclaim, hthing⟩ := List.mem_map.mp hmem
    have hfound : (claims.find? fun other => other.2 = i).isSome :=
      List.find?_isSome.mpr ⟨claim, hclaim, by simpa using hthing⟩
    obtain ⟨⟨k, i'⟩, hfirst⟩ := Option.isSome_iff_exists.mp hfound
    obtain rfl : i' = i := by simpa using List.find?_some hfirst
    exact List.mem_map_of_mem (mem_firstClaims.mpr ⟨hunknown, hfirst⟩)

/-- Nothing is won twice. -/
lemma nodup_firstClaims (known : List ι) (claims : List (κ × ι)) :
    ((firstClaims known claims).map Prod.snd).Nodup := by
  induction claims generalizing known with
  | nil => exact List.nodup_nil
  | cons claim rest ih =>
    unfold firstClaims
    split
    · exact ih known
    · rw [List.map_cons, List.nodup_cons]
      refine ⟨fun hagain => ?_, ih (claim.2 :: known)⟩
      exact (mem_map_firstClaims.mp hagain).1 List.mem_cons_self

/-- One more claim wins if its thing is new. -/
lemma firstClaims_concat (known : List ι) (claims : List (κ × ι)) (claim : κ × ι) :
    firstClaims known (claims ++ [claim]) =
      firstClaims known claims ++
        if claim.2 ∈ known ∨ claim.2 ∈ claims.map Prod.snd then [] else [claim] := by
  induction claims generalizing known with
  | nil => by_cases hknown : claim.2 ∈ known <;> simp [firstClaims, hknown]
  | cons first rest ih =>
    rw [List.cons_append]
    unfold firstClaims
    by_cases hfirst : first.2 ∈ known
    · have hsame : (claim.2 ∈ known ∨ claim.2 ∈ (first :: rest).map Prod.snd) ↔
          (claim.2 ∈ known ∨ claim.2 ∈ rest.map Prod.snd) := by
        rw [List.map_cons, List.mem_cons]
        constructor
        · rintro (hknown | heq | hrest)
          · exact .inl hknown
          · exact .inl (heq ▸ hfirst)
          · exact .inr hrest
        · exact Or.imp_right .inr
      rw [if_pos hfirst, if_pos hfirst, ih, if_congr hsame rfl rfl]
    · have hsame : (claim.2 ∈ first.2 :: known ∨ claim.2 ∈ rest.map Prod.snd) ↔
          (claim.2 ∈ known ∨ claim.2 ∈ (first :: rest).map Prod.snd) := by
        rw [List.map_cons, List.mem_cons, List.mem_cons]
        tauto
      rw [if_neg hfirst, if_neg hfirst, ih, if_congr hsame rfl rfl, List.cons_append]

/-- As many claims win as there are things that were not known. -/
lemma length_firstClaims (known : List ι) (claims : List (κ × ι)) :
    (firstClaims known claims).length = ((claims.map Prod.snd).toFinset \ known.toFinset).card := by
  have hthings : ((firstClaims known claims).map Prod.snd).toFinset =
      (claims.map Prod.snd).toFinset \ known.toFinset := by
    ext i
    rw [List.mem_toFinset, mem_map_firstClaims, Finset.mem_sdiff, List.mem_toFinset,
      List.mem_toFinset, and_comm]
  rw [← hthings, List.toFinset_card_of_nodup (nodup_firstClaims known claims), List.length_map]

variable [DecidableEq κ]

/-- The things that a claimant names. -/
def thingsOf (k : κ) (claims : List (κ × ι)) : Finset ι :=
  ((claims.filter fun claim => claim.1 = k).map Prod.snd).toFinset

/-- Only who names a thing has it. -/
@[simp] lemma mem_thingsOf {k : κ} :
    i ∈ thingsOf k claims ↔ (k, i) ∈ claims := by
  simp [thingsOf]

/-- One more claim is a thing more for its claimant. -/
lemma thingsOf_concat (k : κ) (claims : List (κ × ι)) (claim : κ × ι) :
    thingsOf k (claims ++ [claim]) =
      if claim.1 = k then insert claim.2 (thingsOf k claims) else thingsOf k claims := by
  ext i
  obtain ⟨k', i'⟩ := claim
  by_cases hk : k' = k
  · subst hk
    simp [or_comm]
  · have hne : k ≠ k' := fun h => hk h.symm
    simp [hk, hne]

/-- A claimant wins as many claims as there are things that it is the first to name. -/
lemma countP_firstClaims (known : List ι) (claims : List (κ × ι)) (k : κ) :
    (firstClaims known claims).countP (fun claim => claim.1 = k) =
      (thingsOf k (firstClaims known claims)).card := by
  have hnodup : (((firstClaims known claims).filter fun claim => claim.1 = k).map Prod.snd).Nodup :=
    (nodup_firstClaims known claims).sublist (List.filter_sublist.map Prod.snd)
  rw [thingsOf, List.toFinset_card_of_nodup hnodup, List.length_map, List.countP_eq_length_filter]

variable {keys : List κ}

omit [DecidableEq ι] in
/-- Counting under each of some different keys counts everything that has one of them. -/
lemma sum_countP_of_cover (hnodup : keys.Nodup) (hcover : ∀ claim ∈ claims, claim.1 ∈ keys) :
    (keys.map fun k => claims.countP fun claim => claim.1 = k).sum = claims.length := by
  induction claims with
  | nil => simp
  | cons claim rest ih =>
    have hrest := ih fun other hother => hcover other (List.mem_cons_of_mem claim hother)
    have hone : (keys.map fun k => if claim.1 = k then 1 else 0).sum = 1 := by
      rw [← List.sum_toFinset _ hnodup, Finset.sum_ite_eq,
        if_pos (List.mem_toFinset.mpr (hcover claim List.mem_cons_self))]
    simp only [List.countP_cons, decide_eq_true_eq, List.length_cons]
    rw [List.sum_map_add, hrest, hone]

omit [DecidableEq ι] in
/-- Adding up under each of some different keys adds up everything that has one of them. -/
lemma sum_map_filter_of_cover {α : Type*} (hnodup : keys.Nodup) (key : α → κ)
    (f : α → Nat) {l : List α} (hcover : ∀ a ∈ l, key a ∈ keys) :
    (keys.map fun k => ((l.filter fun a => key a = k).map f).sum).sum = (l.map f).sum := by
  induction l with
  | nil => simp
  | cons a rest ih =>
    have hrest := ih fun other hother => hcover other (List.mem_cons_of_mem a hother)
    have hone : (keys.map fun k => if key a = k then f a else 0).sum = f a := by
      rw [← List.sum_toFinset _ hnodup, Finset.sum_ite_eq,
        if_pos (List.mem_toFinset.mpr (hcover a List.mem_cons_self))]
    have hsplit : ∀ k, (((a :: rest).filter fun b => key b = k).map f).sum =
        (if key a = k then f a else 0) + ((rest.filter fun b => key b = k).map f).sum := fun k => by
      rw [List.filter_cons]
      by_cases hk : key a = k
      · rw [if_pos (decide_eq_true hk), if_pos hk, List.map_cons, List.sum_cons]
      · rw [if_neg (by simpa using hk), if_neg hk, Nat.zero_add]
    simp only [hsplit, List.map_cons, List.sum_cons]
    rw [List.sum_map_add, hone, hrest]

/-- Over all claimants, the claims that win are as many as the unknown things that are named. -/
theorem sum_firstClaims (hnodup : keys.Nodup) (hcover : ∀ claim ∈ claims, claim.1 ∈ keys) :
    (keys.map fun k => (firstClaims known claims).countP fun claim => claim.1 = k).sum =
      ((claims.map Prod.snd).toFinset \ known.toFinset).card := by
  rw [← length_firstClaims]
  exact sum_countP_of_cover hnodup fun claim hclaim =>
    hcover claim ((firstClaims_sublist known claims).subset hclaim)

/-- Of the things that a claimant names, those of a set are at most as many as those it wins exactly
if the things of the set that it names too late are at most as many as the things it wins outside of
the set. -/
theorem card_inter_le_iff (known : List ι) (claims : List (κ × ι)) (k : κ) (marked : Finset ι) :
    (thingsOf k claims ∩ marked).card ≤ (thingsOf k (firstClaims known claims)).card ↔
      ((thingsOf k claims \ thingsOf k (firstClaims known claims)) ∩ marked).card ≤
        (thingsOf k (firstClaims known claims) \ marked).card := by
  set named := thingsOf k claims
  set won := thingsOf k (firstClaims known claims)
  have hsub : won ⊆ named := fun i hi =>
    mem_thingsOf.mpr ((firstClaims_sublist known claims).subset (mem_thingsOf.mp hi))
  have hnamed : (named ∩ marked).card = (won ∩ marked).card + ((named \ won) ∩ marked).card := by
    rw [← Finset.card_union_of_disjoint]
    · congr 1
      rw [← Finset.union_inter_distrib_right, Finset.union_sdiff_of_subset hsub]
    · exact Finset.disjoint_left.mpr fun i hwon hrest =>
        (Finset.mem_sdiff.mp (Finset.mem_inter.mp hrest).1).2 (Finset.mem_inter.mp hwon).1
  have hwon : (won ∩ marked).card + (won \ marked).card = won.card :=
    Finset.card_inter_add_card_sdiff won marked
  omega

/-! ## Claimants who name several things at once -/

section Naming

variable {named : κ → Finset ι} {known : Finset ι} {order : List κ}

/-- The unknown things that a claimant is the first one in the order to name. -/
def firstNamed (named : κ → Finset ι) (known : Finset ι) (order : List κ) (k : κ) : Finset ι :=
  (named k).filter fun i => i ∉ known ∧ (order.find? fun other => i ∈ named other) = some k

lemma mem_firstNamed {k : κ} {i : ι} :
    i ∈ firstNamed named known order k ↔ i ∉ known ∧
      (order.find? fun other => i ∈ named other) = some k := by
  unfold firstNamed
  rw [Finset.mem_filter, and_iff_right_iff_imp]
  rintro ⟨-, hfirst⟩
  simpa using List.find?_some hfirst

/-- What those before a claimant have left of the things that it names. -/
lemma sdiff_eq_firstNamed (named : κ → Finset ι) (known : Finset ι) {before : List κ}
    (after : List κ) {k : κ} (hk : k ∉ before) :
    named k \ (known ∪ before.toFinset.biUnion named) = firstNamed named known
      (before ++ k :: after) k := by
  refine Finset.ext fun i => ?_
  rw [mem_firstNamed, Finset.mem_sdiff, Finset.mem_union, Finset.mem_biUnion, List.find?_append,
    not_or]
  constructor
  · rintro ⟨hnamed, hunknown, hfresh⟩
    have hnone : (before.find? fun other => i ∈ named other) = none :=
      List.find?_eq_none.mpr fun other hother hagain =>
        hfresh ⟨other, List.mem_toFinset.mpr hother, of_decide_eq_true hagain⟩
    refine ⟨hunknown, ?_⟩
    rw [hnone, Option.none_or, List.find?_cons_of_pos (by simpa using hnamed)]
  · rintro ⟨hunknown, hfirst⟩
    cases hbefore : before.find? fun other => i ∈ named other with
    | some other =>
      rw [hbefore, Option.some_or, Option.some.injEq] at hfirst
      exact absurd (hfirst ▸ List.mem_of_find?_eq_some hbefore) hk
    | none =>
      rw [hbefore, Option.none_or] at hfirst
      refine ⟨by simpa using List.find?_some hfirst, hunknown, ?_⟩
      rintro ⟨other, hother, hagain⟩
      exact List.find?_eq_none.mp hbefore other (List.mem_toFinset.mp hother)
        (decide_eq_true hagain)

/-- What the claimants are the first to name is all that is named and unknown, each thing once. -/
theorem sum_card_firstNamed (hnodup : order.Nodup) :
    (order.map fun k => (firstNamed named known order k).card).sum =
      (order.toFinset.biUnion named \ known).card := by
  have hunion : order.toFinset.biUnion (firstNamed named known order) =
      order.toFinset.biUnion named \ known := by
    ext i
    simp only [Finset.mem_biUnion, List.mem_toFinset, mem_firstNamed, Finset.mem_sdiff]
    constructor
    · rintro ⟨k, hk, hunknown, hfirst⟩
      exact ⟨⟨k, hk, by simpa using List.find?_some hfirst⟩, hunknown⟩
    · rintro ⟨⟨other, hother, hnamed⟩, hunknown⟩
      obtain ⟨k, hfirst⟩ := Option.isSome_iff_exists.mp
        (List.find?_isSome (p := fun other => decide (i ∈ named other)).mpr
          ⟨other, hother, by simpa using hnamed⟩)
      exact ⟨k, List.mem_of_find?_eq_some hfirst, hunknown, hfirst⟩
  rw [← hunion, Finset.card_biUnion, List.sum_toFinset _ hnodup]
  intro k _ other _ hne
  refine Finset.disjoint_left.mpr fun i hi hi' => hne ?_
  exact Option.some.inj ((mem_firstNamed.mp hi).2.symm.trans (mem_firstNamed.mp hi').2)

end Naming

end Foundation
