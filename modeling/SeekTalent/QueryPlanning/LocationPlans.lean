import SeekTalent.Foundation.RoundRobin

/-!
# The cities of a round

`build_location_execution_plan` and `allocate_balanced_city_targets` of
`seektalent/retrieval/query_plan.py`. The preferred cities of a job come first in every round, and
the other ones take turns: they are rotated by one more place in each round, and what is wanted of
them is divided evenly in the order of the round.

A plan covers every allowed city once.  In as many rounds as there are cities that take turns each
of them comes first once, and each is asked for the same number of resumes in the end.
-/

namespace SeekTalent.QueryPlanning

open Foundation

variable {orderedCities : List String} {targetNew : Int}

/-- `LocationExecutionMode`. -/
inductive LocationExecutionMode
  | none
  | single
  | priorityThenFallback
  | balancedAll
  deriving DecidableEq, Repr

/-- `LocationExecutionPlan`. -/
structure LocationExecutionPlan where
  mode : LocationExecutionMode
  allowedLocations : List String := []
  preferredLocations : List String := []
  priorityOrder : List String := []
  balancedOrder : List String := []
  rotationOffset : Int := 0
  targetNew : Int
  deriving DecidableEq, Repr

/-- `_rotation_offset`. -/
def rotationOffset (roundNo : Int) (cityCount : Nat) : Int :=
  if cityCount = 0 then 0 else (roundNo - 1) % cityCount

/-- `rotate_locations`. -/
def rotateLocations (locations : List String) (offset : Int) : List String :=
  if locations = [] then []
  else
    let normalizedOffset := (offset % locations.length).toNat
    locations.drop normalizedOffset ++ locations.take normalizedOffset

/-- `build_location_execution_plan`. -/
def buildLocationExecutionPlan (allowedLocations preferredLocations : List String)
    (roundNo targetNew : Int) : LocationExecutionPlan :=
  if allowedLocations = [] then { mode := .none, targetNew }
  else if allowedLocations.length = 1 then
    { mode := .single, allowedLocations, balancedOrder := allowedLocations, targetNew }
  else
    let normalizedPreferred := preferredLocations.filter (· ∈ allowedLocations)
    if normalizedPreferred ≠ [] then
      let fallbackLocations := allowedLocations.filter (· ∉ normalizedPreferred)
      let offset := rotationOffset roundNo fallbackLocations.length
      { mode := .priorityThenFallback
        allowedLocations
        preferredLocations := normalizedPreferred
        priorityOrder := normalizedPreferred
        balancedOrder := rotateLocations fallbackLocations offset
        rotationOffset := offset
        targetNew }
    else
      let offset := rotationOffset roundNo allowedLocations.length
      { mode := .balancedAll
        allowedLocations
        balancedOrder := rotateLocations allowedLocations offset
        rotationOffset := offset
        targetNew }

/-- `allocate_balanced_city_targets`. -/
def allocateBalancedCityTargets (orderedCities : List String) (targetNew : Int) :
    List (String × Int) :=
  if orderedCities = [] ∨ targetNew ≤ 0 then []
  else
    let baseShare := targetNew / orderedCities.length
    let remainder := targetNew % orderedCities.length
    orderedCities.zipIdx.filterMap fun entry =>
      let requestedCount := baseShare + if (entry.2 : Int) < remainder then 1 else 0
      if requestedCount ≤ 0 then none else some (entry.1, requestedCount)

/-! ## Rotations -/

/-- The cities that take turns, in the order in which they are allowed. -/
def turnLocations (allowedLocations preferredLocations : List String) : List String :=
  if allowedLocations.length ≤ 1 then allowedLocations
  else allowedLocations.filter (· ∉ preferredLocations)

/-- A rotation by an offset that is not negative. -/
lemma rotateLocations_eq (locations : List String) {offset : Int} (hoffset : 0 ≤ offset) :
    rotateLocations locations offset = locations.rotate offset.toNat := by
  unfold rotateLocations
  split
  · rename_i hnil
    rw [hnil, List.rotate_nil]
  · rename_i hne
    have hpos : 0 < locations.length := List.length_pos_iff.mpr hne
    obtain ⟨n, rfl⟩ := Int.eq_ofNat_of_zero_le hoffset
    dsimp only
    rw [show ((n : Int) % locations.length).toNat = n %
      locations.length by omega, Int.toNat_natCast, ← List.rotate_mod,
      List.rotate_eq_drop_append_take (Nat.mod_lt n hpos).le]

/-- A rotation by the offset of a round. -/
lemma rotateLocations_rotationOffset (locations : List String) {roundNo : Int}
    (hround : 1 ≤ roundNo) :
    rotateLocations locations (rotationOffset roundNo locations.length) =
      locations.rotate (roundNo - 1).toNat := by
  by_cases hnil : locations = []
  · rw [hnil, List.rotate_nil]
    rfl
  · have hpos : 0 < locations.length := List.length_pos_iff.mpr hnil
    obtain ⟨n, hn⟩ := Int.eq_ofNat_of_zero_le (show 0 ≤ roundNo - 1 by omega)
    unfold rotationOffset
    rw [if_neg hpos.ne', hn, rotateLocations_eq locations (by omega), Int.toNat_natCast,
      show ((n : Int) % locations.length).toNat = n % locations.length by omega, List.rotate_mod]

/-- The cities that take turns are rotated by one place in every round. -/
lemma balancedOrder_eq (allowedLocations preferredLocations : List String) {roundNo : Int}
    (hround : 1 ≤ roundNo) (targetNew : Int) :
    (buildLocationExecutionPlan allowedLocations preferredLocations roundNo
      targetNew).balancedOrder =
      (turnLocations allowedLocations preferredLocations).rotate (roundNo - 1).toNat := by
  unfold buildLocationExecutionPlan turnLocations
  by_cases hnil : allowedLocations = []
  · simp [hnil]
  · have hpos : 0 < allowedLocations.length := List.length_pos_iff.mpr hnil
    rw [if_neg hnil]
    by_cases hone : allowedLocations.length = 1
    · obtain ⟨city, rfl⟩ := List.length_eq_one_iff.mp hone
      rw [if_pos hone, if_pos hone.le, List.rotate_singleton]
    · rw [if_neg hone, if_neg (show ¬allowedLocations.length ≤ 1 by omega)]
      dsimp only
      by_cases hpreferred : preferredLocations.filter (· ∈ allowedLocations) ≠ []
      · have hfallback : allowedLocations.filter
          (· ∉ preferredLocations.filter (· ∈ allowedLocations)) =
            allowedLocations.filter (· ∉ preferredLocations) :=
          List.filter_congr fun city hcity => by simp [hcity]
        rw [if_pos hpreferred]
        dsimp only
        rw [hfallback]
        exact rotateLocations_rotationOffset _ hround
      · have hall : allowedLocations.filter (· ∉ preferredLocations) = allowedLocations :=
          List.filter_eq_self.mpr fun city hcity => decide_eq_true fun hmem =>
            hpreferred (List.ne_nil_of_mem (List.mem_filter.mpr ⟨hmem, decide_eq_true hcity⟩))
        rw [if_neg hpreferred, hall]
        exact rotateLocations_rotationOffset _ hround

/-- The cities that come first in every round are the preferred ones that are allowed, if there is a
choice. -/
lemma priorityOrder_eq (allowedLocations preferredLocations : List String)
    (roundNo targetNew : Int) :
    (buildLocationExecutionPlan allowedLocations preferredLocations roundNo
      targetNew).priorityOrder =
      if allowedLocations.length ≤ 1 then [] else preferredLocations.filter
        (· ∈ allowedLocations) := by
  unfold buildLocationExecutionPlan
  by_cases hnil : allowedLocations = []
  · rw [if_pos hnil, hnil]
    rfl
  · have hpos : 0 < allowedLocations.length := List.length_pos_iff.mpr hnil
    rw [if_neg hnil]
    by_cases hone : allowedLocations.length = 1
    · rw [if_pos hone, if_pos hone.le]
    · rw [if_neg hone, if_neg (show ¬allowedLocations.length ≤ 1 by omega)]
      dsimp only
      by_cases hpreferred : preferredLocations.filter (· ∈ allowedLocations) ≠ []
      · rw [if_pos hpreferred]
      · rw [if_neg hpreferred]
        exact (not_not.mp hpreferred).symm

/-! ## Shares -/

/-- What is asked of a city. -/
def askedOf (city : String) (targets : List (String × Int)) : Int :=
  ((targets.filter fun target => target.1 = city).map Prod.snd).sum

/-- The targets are the shares of the cities that get something. -/
lemma allocateBalancedCityTargets_eq (hcities : orderedCities ≠ []) (htarget : 0 < targetNew) :
    allocateBalancedCityTargets orderedCities targetNew =
      (orderedCities.take targetNew.toNat).zipIdx.map fun entry =>
        (entry.1, RoundRobin.share targetNew orderedCities.length entry.2) := by
  have hcount : 0 < orderedCities.length := List.length_pos_iff.mpr hcities
  -- The first `targetNew` cities get something, the other ones do not.
  have hsplit : orderedCities.zipIdx = (orderedCities.take targetNew.toNat).zipIdx ++
      (orderedCities.drop targetNew.toNat).zipIdx (min targetNew.toNat orderedCities.length) := by
    conv_lhs => rw [← List.take_append_drop targetNew.toNat orderedCities, List.zipIdx_append]
    rw [List.length_take, Nat.zero_add]
  have hfirst : ∀ entry ∈ (orderedCities.take targetNew.toNat).zipIdx,
      0 < RoundRobin.share targetNew orderedCities.length entry.2 := by
    rintro ⟨city, index⟩ hentry
    have hindex := (List.mem_zipIdx hentry).2.1
    rw [Nat.zero_add, List.length_take] at hindex
    exact (RoundRobin.share_pos_iff htarget (by omega)).mpr (by omega)
  have hlast : ∀ entry ∈ (orderedCities.drop targetNew.toNat).zipIdx
    (min targetNew.toNat orderedCities.length),
      ¬ 0 < RoundRobin.share targetNew orderedCities.length entry.2 := by
    rintro ⟨city, index⟩ hentry
    obtain ⟨hle, hlt, -⟩ := List.mem_zipIdx hentry
    rw [List.length_drop] at hlt
    dsimp only
    rw [RoundRobin.share_pos_iff htarget (by omega)]
    omega
  have hallocated : allocateBalancedCityTargets orderedCities targetNew =
      orderedCities.zipIdx.filterMap fun entry =>
        if RoundRobin.share targetNew orderedCities.length entry.2 ≤ 0 then none
        else some (entry.1, RoundRobin.share targetNew orderedCities.length entry.2) :=
    if_neg (by simp [hcities, htarget])
  rw [hallocated, hsplit, List.filterMap_append,
    List.filterMap_eq_nil_iff.mpr fun entry hentry =>
    if_pos (not_lt.mp (hlast entry hentry)), List.append_nil, ← List.filterMap_eq_map]
  exact List.filterMap_congr fun entry hentry => if_neg (not_le.mpr (hfirst entry hentry))

/-- The place of a city that is no more than counted has no share. -/
lemma share_eq_zero (htarget : 0 < targetNew) {count index : Nat} (hindex : index < count)
    (hle : targetNew ≤ index) : RoundRobin.share targetNew count index = 0 := by
  have hnot : ¬0 < RoundRobin.share targetNew count index := fun hpos => by
    have hlt := (RoundRobin.share_pos_iff htarget hindex).mp hpos
    omega
  have hquotient : 0 ≤ targetNew / count := Int.ediv_nonneg (by omega) (by omega)
  unfold RoundRobin.share at hnot ⊢
  split at hnot <;> omega

/-- What a city is asked for in a list in which every city is asked for something by its place. -/
lemma askedOf_zipIdx (f : Nat → Int) {cities : List String} (hnodup : cities.Nodup) (city : String)
    (start : Nat) :
    askedOf city ((cities.zipIdx start).map fun entry => (entry.1, f entry.2)) =
      if city ∈ cities then f (start + cities.idxOf city) else 0 := by
  induction cities generalizing start with
  | nil => rfl
  | cons first rest ih =>
    obtain ⟨hfirst, hrest⟩ := List.nodup_cons.mp hnodup
    have ih := ih hrest (start + 1)
    unfold askedOf at ih ⊢
    rw [List.zipIdx_cons, List.map_cons, List.filter_cons]
    by_cases hcity : first = city
    · subst hcity
      rw [if_neg hfirst] at ih
      rw [if_pos (decide_eq_true rfl), List.map_cons, List.sum_cons, ih, if_pos List.mem_cons_self,
        List.idxOf_cons_self, add_zero, add_zero]
    · rw [if_neg (by simpa using hcity), ih, List.idxOf_cons_ne _ hcity]
      simp only [List.mem_cons, Ne.symm hcity, false_or]
      split
      · congr 1
        omega
      · rfl

/-- What a city is asked for is the share of its place. -/
lemma askedOf_allocate (hnodup : orderedCities.Nodup)
    (htarget : 0 < targetNew) {city : String} (hcity : city ∈ orderedCities) :
    askedOf city (allocateBalancedCityTargets orderedCities targetNew) =
      RoundRobin.share targetNew orderedCities.length (orderedCities.idxOf city) := by
  have hindex : orderedCities.idxOf city < orderedCities.length :=
    List.idxOf_lt_length_iff.mpr hcity
  have hsplit := List.take_append_drop targetNew.toNat orderedCities
  rw [allocateBalancedCityTargets_eq (List.ne_nil_of_mem hcity) htarget,
    askedOf_zipIdx _ (hnodup.sublist (List.take_sublist _ _))]
  by_cases hmem : city ∈ orderedCities.take targetNew.toNat
  · rw [if_pos hmem, Nat.zero_add]
    congr 1
    conv_rhs => rw [← hsplit]
    exact (List.idxOf_append_of_mem hmem).symm
  · rw [if_neg hmem]
    refine (share_eq_zero htarget hindex ?_).symm
    by_contra hlt
    refine hmem (List.mem_take_iff_idxOf_lt hcity |>.mpr ?_)
    omega

/-- The targets of the cities add up to what is wanted. -/
lemma sum_allocateBalancedCityTargets (hcities : orderedCities ≠ []) (htarget : 0 < targetNew) :
    ((allocateBalancedCityTargets orderedCities targetNew).map Prod.snd).sum = targetNew := by
  have hcount : 0 < orderedCities.length := List.length_pos_iff.mpr hcities
  rw [allocateBalancedCityTargets_eq hcities htarget]
  have hlength : (orderedCities.take targetNew.toNat).length ≤ orderedCities.length := by simp
  have hshares : (((orderedCities.take targetNew.toNat).zipIdx.map fun entry =>
      (entry.1, RoundRobin.share targetNew orderedCities.length entry.2)).map Prod.snd) =
      (List.range (orderedCities.take targetNew.toNat).length).map
        (RoundRobin.share targetNew orderedCities.length) := by
    rw [List.map_map, List.range_eq_range', ← List.zipIdx_map_snd 0, List.map_map]
    rfl
  have hsum : ((List.range (orderedCities.take targetNew.toNat).length).map
      (RoundRobin.share targetNew orderedCities.length)).sum =
        ∑ index ∈ Finset.range (orderedCities.take targetNew.toNat).length,
          RoundRobin.share targetNew orderedCities.length index := rfl
  rw [hshares, hsum]
  refine Eq.trans ?_ (RoundRobin.sum_share targetNew hcount)
  refine Finset.sum_subset (Finset.range_subset_range.mpr hlength) fun index hmem hnot => ?_
  rw [Finset.mem_range, List.length_take] at hnot
  rw [Finset.mem_range] at hmem
  exact share_eq_zero htarget hmem (by omega)

/-- **The targets of the cities.**  What is wanted is divided among the first cities of the order,
as many as can get something: each gets something, no two differ by more than one, and together they
get all of it. -/
theorem allocateBalancedCityTargets_fair (orderedCities : List String) (targetNew : Int)
    (hcities : orderedCities ≠ []) (htarget : 0 < targetNew) :
    ((allocateBalancedCityTargets orderedCities targetNew).map Prod.fst =
      orderedCities.take targetNew.toNat) ∧
    (∀ target ∈ allocateBalancedCityTargets orderedCities targetNew, 0 < target.2) ∧
    (∀ target ∈ allocateBalancedCityTargets orderedCities targetNew,
      ∀ other ∈ allocateBalancedCityTargets orderedCities targetNew, target.2 ≤ other.2 + 1) ∧
    ((allocateBalancedCityTargets orderedCities targetNew).map Prod.snd).sum = targetNew := by
  have hcount : 0 < orderedCities.length := List.length_pos_iff.mpr hcities
  rw [allocateBalancedCityTargets_eq hcities htarget]
  refine ⟨?_, ?_, ?_, ?_⟩
  · rw [List.map_map]
    exact List.zipIdx_map_fst 0 _
  · intro target hmem
    obtain ⟨⟨city, index⟩, hentry, rfl⟩ := List.mem_map.mp hmem
    have hindex := (List.mem_zipIdx hentry).2.1
    rw [Nat.zero_add, List.length_take] at hindex
    exact (RoundRobin.share_pos_iff htarget (by omega)).mpr (by omega)
  · intro target hmem other hother
    obtain ⟨entry, -, rfl⟩ := List.mem_map.mp hmem
    obtain ⟨entry', -, rfl⟩ := List.mem_map.mp hother
    exact RoundRobin.share_le_succ _ _ _ _
  · rw [← allocateBalancedCityTargets_eq hcities htarget]
    exact sum_allocateBalancedCityTargets hcities htarget

/-- Three cities and two resumes: the third city gets nothing. -/
theorem allocateBalancedCityTargets_fair_three :
    allocateBalancedCityTargets ["上海", "杭州", "深圳"] 2 = [("上海", 1), ("杭州", 1)] ∧
      ((allocateBalancedCityTargets ["上海", "杭州", "深圳"] 2).map Prod.snd).sum = 2 :=
  ⟨by decide +kernel,
    (allocateBalancedCityTargets_fair ["上海", "杭州", "深圳"] 2 (by decide) (by decide)).2.2.2⟩

/-! ## A window of rounds -/

/-- The plan of the round that comes `i` rounds later. -/
def planAfter (allowedLocations preferredLocations : List String) (roundNo targetNew : Int)
    (i : Nat) : LocationExecutionPlan :=
  buildLocationExecutionPlan allowedLocations preferredLocations (roundNo + i) targetNew

/-- **The cities of the rounds.**  A plan covers every allowed city once, the preferred ones first. 
In as many rounds as there are cities that take turns, each of them comes first once, and what is
asked of it adds up to the target of a round. -/
theorem locationPlan_fair (allowedLocations preferredLocations : List String)
    (hallowed : allowedLocations.Nodup)
    (hpreferred : preferredLocations.Nodup) (roundNo : Int) (hround : 1 ≤ roundNo)
    (targetNew : Int) :
    ((planAfter allowedLocations preferredLocations roundNo targetNew 0).priorityOrder ++
      (planAfter allowedLocations preferredLocations roundNo targetNew 0).balancedOrder).Perm
      allowedLocations ∧
    ((List.range (planAfter allowedLocations preferredLocations roundNo targetNew
      0).balancedOrder.length).map fun i =>
      (planAfter allowedLocations preferredLocations roundNo targetNew i).balancedOrder.head?).Perm
        ((planAfter allowedLocations preferredLocations roundNo targetNew 0).balancedOrder.map
          some) ∧
    ∀ city ∈ (planAfter allowedLocations preferredLocations roundNo targetNew 0).balancedOrder,
      ∑ i ∈ Finset.range
        (planAfter allowedLocations preferredLocations roundNo targetNew 0).balancedOrder.length,
        askedOf city (allocateBalancedCityTargets
          (planAfter allowedLocations preferredLocations roundNo targetNew i).balancedOrder
          targetNew) =
            max targetNew 0 := by
  obtain ⟨plan, hplan⟩ : ∃ plan,
    plan = planAfter allowedLocations preferredLocations roundNo targetNew := ⟨_, rfl⟩
  rw [← hplan]
  obtain ⟨start, hstart⟩ : ∃ start, start = (roundNo - 1).toNat := ⟨_, rfl⟩
  obtain ⟨turns, hturns⟩ : ∃ turns, turns = turnLocations allowedLocations preferredLocations :=
    ⟨_, rfl⟩
  have hbalanced : ∀ i, (plan i).balancedOrder = turns.rotate (start + i) := fun i => by
    rw [hplan, planAfter, balancedOrder_eq _ _ (by omega), ← hturns]
    congr 1
    omega
  have hnodup : turns.Nodup := by
    rw [hturns]
    unfold turnLocations
    split
    · exact hallowed
    · exact hallowed.filter _
  refine ⟨?_, ?_, ?_⟩
  · rw [hbalanced, hplan, planAfter, priorityOrder_eq]
    refine List.Perm.trans (List.Perm.append_left _ (List.rotate_perm _ _)) ?_
    rw [hturns]
    unfold turnLocations
    split
    · exact List.Perm.refl _
    · refine (List.perm_ext_iff_of_nodup ?_ hallowed).mpr fun city => ?_
      · refine List.nodup_append.mpr
          ⟨hpreferred.filter _, hallowed.filter _, fun city hcity other hother heq => ?_⟩
        rw [List.mem_filter] at hcity hother
        rw [← heq] at hother
        simp [hcity.1] at hother
      · rw [List.mem_append, List.mem_filter, List.mem_filter, decide_eq_true_eq, decide_eq_true_eq]
        constructor
        · rintro (⟨-, hmem⟩ | ⟨hmem, -⟩)
          · exact hmem
          · exact hmem
        · intro hmem
          by_cases hcity : city ∈ preferredLocations
          · exact .inl ⟨hcity, hmem⟩
          · exact .inr ⟨hmem, hcity⟩
  · simp only [hbalanced, List.length_rotate, Nat.add_zero]
    rw [RoundRobin.heads_rotate]
  · intro city hcity
    rw [hbalanced, List.mem_rotate] at hcity
    simp only [hbalanced, List.length_rotate]
    by_cases htarget : 0 < targetNew
    · have hasked : ∀ i ∈ Finset.range turns.length,
          askedOf city (allocateBalancedCityTargets (turns.rotate (start + i)) targetNew) =
            RoundRobin.share targetNew turns.length
              ((turns.rotate (start + i)).idxOf city) := fun i _ => by
        rw [askedOf_allocate (List.nodup_rotate.mpr hnodup) htarget (List.mem_rotate.mpr hcity),
          List.length_rotate]
      rw [Finset.sum_congr rfl hasked, RoundRobin.sum_share_rotate targetNew hnodup hcity start]
      omega
    · have hnone : ∀ i ∈ Finset.range turns.length,
          askedOf city (allocateBalancedCityTargets (turns.rotate (start + i)) targetNew) =
          0 := fun i _ => by
        rw [allocateBalancedCityTargets, if_pos (.inr (by omega))]
        rfl
      refine (Finset.sum_eq_zero hnone).trans ?_
      omega

/-- A preferred city and two that take turns, in the second round and the third. -/
theorem locationPlan_fair_three :
    (buildLocationExecutionPlan ["上海", "杭州", "深圳"] ["杭州"] 2 5).balancedOrder = ["深圳", "上海"] ∧
      askedOf "上海" (allocateBalancedCityTargets
          (buildLocationExecutionPlan ["上海", "杭州", "深圳"] ["杭州"] 2 5).balancedOrder 5) +
        askedOf "上海" (allocateBalancedCityTargets
          (buildLocationExecutionPlan ["上海", "杭州", "深圳"] ["杭州"] 3 5).balancedOrder 5) = 5 := by
  refine ⟨by decide +kernel, ?_⟩
  have hfair :=
    (locationPlan_fair ["上海", "杭州", "深圳"] ["杭州"] (by decide) (by decide) 2 (by decide) 5).2.2
    "上海" (by decide +kernel)
  exact hfair

end SeekTalent.QueryPlanning
