import Mathlib.Data.List.Zip
import SeekTalent.Foundation.Matchings
import SeekTalent.ResumeVersions.ContentVersions

/-!
# Whether two timelines agree

`materially_consistent` of `seektalent/runtime/resume_versions.py`.  The jobs, projects and schools
of two resumes are paired by a search for a maximum matching of the items that agree, and the
verdict is read off the items that are left over: it is a conflict if two of them contradict each
other.

Maximum matchings leave different items over, and the items come sorted by their texts, so that the
spelling of a name can decide which matching is found.  The verdict is the same for every order of
the items, and for every maximum matching, exactly if all maximum matchings leave a contradiction
over or none does.
-/

namespace SeekTalent.ResumeVersions

open Foundation

/-! ## Two items -/

/-- The values of two versions that are there on both sides: whether they are all the same. -/
def compareTexts : List (String × String) → Bool → Option Bool
  | [], overlap => if overlap then some true else none
  | (left, right) :: rest, overlap =>
    if left ≠ "" ∧ right ≠ "" then
      if left ≠ right then some false else compareTexts rest true
    else compareTexts rest overlap

/-- `_periods_overlap`. -/
def periodsOverlap (left right : TimelinePeriod) : Bool :=
  if left.start = 0 ∨ right.start = 0 then false
  else
    let leftEnd := if left.current then 999912 else left.finish
    let rightEnd := if right.current then 999912 else right.finish
    if leftEnd = 0 ∨ rightEnd = 0 then false
    else decide (max left.start right.start ≤ min leftEnd rightEnd)

/-- `_timeline_item_consistency`. -/
def timelineItemConsistency (materialFieldCount : Nat) (left right : TimelineVersionItem) :
    Option Bool :=
  if periodsOverlap left.period right.period then
    compareTexts ((left.texts.take materialFieldCount).zip (right.texts.take materialFieldCount))
      false
  else none

/-! ## Two timelines -/

/-- A comparison. -/
def comparisonAt (comparisons : List (List (Option Bool))) (i j : Nat) : Option Bool :=
  (comparisons[i]?.bind fun row => row[j]?).join

/-- The number of columns. -/
def comparisonWidth (comparisons : List (List (Option Bool))) : Nat :=
  (comparisons.head?.map List.length).getD 0

/-- `right_to_left` after the search. -/
def rightToLeft (comparisons : List (List (Option Bool))) : Dict Nat Nat :=
  Matchings.matchRows (fun i j => comparisonAt comparisons i j = some true)
    (List.range (comparisonWidth comparisons)) (List.range comparisons.length)

/-- `_directed_timeline_consistency`. -/
def directedTimelineConsistency (comparisons : List (List (Option Bool))) : Option Bool :=
  let matched := rightToLeft comparisons
  let matchedLeft := matched.entries.map Sigma.snd
  let unmatchedLeft := (List.range comparisons.length).filter (· ∉ matchedLeft)
  let unmatchedRight := (List.range (comparisonWidth comparisons)).filter (· ∉ matched.keys)
  if ∃ i ∈ unmatchedLeft, ∃ j ∈ unmatchedRight,
    comparisonAt comparisons i j = some false then some false
  else if matchedLeft ≠ [] then some true
  else none

/-- `zip(*comparisons)`. -/
def transposed (comparisons : List (List (Option Bool))) : List (List (Option Bool)) :=
  (List.range (comparisonWidth comparisons)).map fun j => comparisons.map fun row => row[j]?.join

/-- `_timeline_items_consistent`. -/
def timelineItemsConsistent (materialFieldCount : Nat)
    (leftItems rightItems : List TimelineVersionItem) : Option Bool :=
  let comparisons := leftItems.map fun left =>
    rightItems.map (timelineItemConsistency materialFieldCount left)
  if comparisons = [] ∨ rightItems = [] then none
  else
    let forward := directedTimelineConsistency comparisons
    let reverse := directedTimelineConsistency (transposed comparisons)
    if forward = reverse then forward else none

/-! ## Two versions -/

/-- The verdicts on the timelines, one after another. -/
def combineVerdicts : List (Option Bool) → Bool → Option Bool
  | [], overlap => if overlap then some true else none
  | some false :: _, _ => some false
  | some true :: rest, _ => combineVerdicts rest true
  | none :: rest, overlap => combineVerdicts rest overlap

/-- `materially_consistent`. -/
def materiallyConsistent (left right : ResumeContentVersion) : Option Bool :=
  match compareTexts [(left.currentCompany, right.currentCompany),
    (left.currentTitle, right.currentTitle)] false with
  | some false => some false
  | role =>
    combineVerdicts
      [timelineItemsConsistent 2 left.workItems right.workItems,
        timelineItemsConsistent 3 left.projectItems right.projectItems,
        timelineItemsConsistent 3 left.educationItems right.educationItems]
      (role = some true)

/-! ## The search -/

/-- An item on the right belongs to one on the left that agrees with it, and no two belong to the
same. -/
structure TrueMatching (comparisons : List (List (Option Bool))) (owner : Dict Nat Nat) : Prop where
  isTrue : ∀ j i, owner.lookup j = some i → comparisonAt comparisons i j = some true
  injective : ∀ j j' i, owner.lookup j = some i → owner.lookup j' = some i → j = j'

/-- A comparison that is there is one of a row and of a column. -/
lemma lt_of_comparisonAt {comparisons : List (List (Option Bool))}
    (hrect : ∀ row ∈ comparisons, row.length = comparisonWidth comparisons) {i j : Nat}
    {verdict : Bool} (h : comparisonAt comparisons i j = some verdict) :
    i < comparisons.length ∧ j < comparisonWidth comparisons := by
  unfold comparisonAt at h
  cases hrow : comparisons[i]? with
  | none =>
    rw [hrow] at h
    cases h
  | some row =>
    rw [hrow, Option.bind_some, Option.join_eq_some_iff] at h
    obtain ⟨hi, hget⟩ := List.getElem?_eq_some_iff.mp hrow
    obtain ⟨hj, -⟩ := List.getElem?_eq_some_iff.mp h
    exact ⟨hi, hrect row (hget ▸ List.getElem_mem hi) ▸ hj⟩

/-- **The search finds a maximum matching.**  For every rectangular matrix the recursion without a
bound on its depth ends, in `right_to_left` only; this is a matching of the items that agree, and no
such matching is larger. -/
theorem rightToLeft_maximum (comparisons : List (List (Option Bool)))
    (hrect : ∀ row ∈ comparisons, row.length = comparisonWidth comparisons) :
    (∀ last, Matchings.RowsEnd (fun i j => comparisonAt comparisons i j = some true)
        (List.range (comparisonWidth comparisons)) (List.range comparisons.length) ∅ last ↔
      last = rightToLeft comparisons) ∧
    TrueMatching comparisons (rightToLeft comparisons) ∧
    ∀ other, TrueMatching comparisons other →
      other.keys.length ≤ (rightToLeft comparisons).keys.length := by
  have hmatched : Matchings.Matched (fun i j => decide (comparisonAt comparisons i j = some true))
      (List.range (comparisonWidth comparisons)) (List.range comparisons.length)
      (rightToLeft comparisons) :=
    Matchings.matched_matchRows List.nodup_range List.nodup_range
  refine ⟨fun last => Matchings.rowsEnd_iff List.nodup_range _ ∅ last,
    ⟨fun j i h => of_decide_eq_true (hmatched.fitting j i h).1, fun j j' i h h' =>
      hmatched.injective h h'⟩,
    fun other hother => ?_⟩
  have hlookup : ∀ entry ∈ other.entries, other.lookup entry.1 = some entry.2 :=
    fun entry hentry => AList.mem_lookup_iff.mpr hentry
  have hfirst : (other.entries.map Sigma.snd).Nodup := by
    refine List.Nodup.map_on (fun entry hentry entry' hentry' heq => ?_) other.nodupKeys.nodup
    have hsame := hlookup entry hentry
    rw [heq] at hsame
    exact Sigma.ext (hother.injective _ _ _ hsame (hlookup entry' hentry')) (heq_of_eq heq)
  have hpairs : (other.entries.map fun entry => (entry.2, entry.1)).length ≤
      ((List.range (comparisonWidth comparisons)).filter fun j =>
        ((rightToLeft comparisons).lookup j).isSome).length := by
    refine hmatched.length_le ?_ ?_ ?_ ?_ ?_
    · rintro q hq
      obtain ⟨entry, hentry, rfl⟩ := List.mem_map.mp hq
      exact List.mem_range.mpr
        (lt_of_comparisonAt hrect (hother.isTrue _ _ (hlookup entry hentry))).1
    · rintro q hq
      obtain ⟨entry, hentry, rfl⟩ := List.mem_map.mp hq
      exact List.mem_range.mpr
        (lt_of_comparisonAt hrect (hother.isTrue _ _ (hlookup entry hentry))).2
    · rintro q hq
      obtain ⟨entry, hentry, rfl⟩ := List.mem_map.mp hq
      exact decide_eq_true (hother.isTrue _ _ (hlookup entry hentry))
    · rw [List.map_map]
      exact hfirst
    · rw [List.map_map]
      exact other.keys_nodup
  have hkept : ((List.range (comparisonWidth comparisons)).filter fun j =>
      ((rightToLeft comparisons).lookup j).isSome).length ≤ (rightToLeft comparisons).keys.length :=
    (List.nodup_range.filter _).length_le_of_subset fun j hj =>
      AList.lookup_isSome.mp (List.mem_filter.mp hj).2
  rw [List.length_map] at hpairs
  rw [AList.keys, List.keys, List.length_map]
  exact hpairs.trans hkept

/-- Two items agree with the same one, and one of them with another: the search displaces the first
owner. -/
theorem rightToLeft_maximum_square :
    TrueMatching [[some true, some true], [some true, none]]
        (rightToLeft [[some true, some true], [some true, none]]) ∧
      (rightToLeft [[some true, some true], [some true, none]]).keys.length = 2 :=
  ⟨(rightToLeft_maximum _ (by decide)).2.1, by decide +kernel⟩

/-! ## Pairings of items -/

section Pairings

variable {α β : Type*}

/-- A pairing of items that agree. -/
abbrev AgreeingPairs (compare : α → β → Option Bool) (left : List α) (right : List β) :=
  Pairing (fun l r => decide (compare l r = some true)) left right

variable {compare : α → β → Option Bool} {left : List α} {right : List β}

/-- Two of the items that are left over contradict each other. -/
def LeavesContradiction (p : AgreeingPairs compare left right) : Prop :=
  ∃ l ∈ p.leftOver, ∃ r ∈ p.rightOver, compare l r = some false

instance (p : AgreeingPairs compare left right) : Decidable (LeavesContradiction p) := by
  unfold LeavesContradiction
  infer_instance

/-- The verdict that a pairing gives. -/
def pairingVerdict (p : AgreeingPairs compare left right) : Option Bool :=
  if LeavesContradiction p then some false else if p.pairs = [] then none else some true

variable (compare left right)

/-- All maximum pairings leave a contradiction over, or none does. -/
def Unambiguous : Prop :=
  ∀ p q : AgreeingPairs compare left right, p.IsMaximum → q.IsMaximum →
    (LeavesContradiction p ↔ LeavesContradiction q)

variable {compare left right}

/-- The comparison of two items by their places. -/
lemma comparisonAt_map (i j : Nat) :
    comparisonAt (left.map fun l => right.map (compare l)) i j =
      match left[i]?, right[j]? with
      | some l, some r => compare l r
      | _, _ => none := by
  unfold comparisonAt
  rw [List.getElem?_map]
  cases left[i]? with
  | none => rfl
  | some l =>
    simp only [Option.map_some, Option.bind_some, List.getElem?_map]
    cases right[j]? <;> rfl

/-- The comparisons have a column for each item on the right. -/
lemma comparisonWidth_map (hleft : left ≠ []) :
    comparisonWidth (left.map fun l => right.map (compare l)) = right.length := by
  cases left with
  | nil => exact absurd rfl hleft
  | cons l rest => simp [comparisonWidth]

/-- The comparisons seen from the other side. -/
lemma transposed_map (hleft : left ≠ []) :
    transposed (left.map fun l => right.map (compare l)) = right.map fun r => left.map fun l =>
      compare l r := by
  unfold transposed
  rw [comparisonWidth_map hleft]
  refine List.ext_getElem (by simp) fun j hj hj' => ?_
  rw [List.length_map] at hj'
  simp [hj']

/-- The search finds a maximum pairing, and the verdict is that of the pairing. -/
theorem directedTimelineConsistency_eq (hleft : left ≠ []) :
    ∃ p : AgreeingPairs compare left right, p.IsMaximum ∧
      directedTimelineConsistency (left.map fun l => right.map (compare l)) = pairingVerdict p := by
  have hwidth : comparisonWidth (left.map fun l => right.map (compare l)) = right.length :=
    comparisonWidth_map hleft
  obtain ⟨matched, hmatched⟩ : ∃ matched,
      matched = rightToLeft (left.map fun l => right.map (compare l)) := ⟨_, rfl⟩
  have hspec : Matchings.Matched (fitsAt (fun l r => decide (compare l r = some true)) left right)
      (List.range right.length) (List.range left.length) matched := by
    have hfits : (fun i j =>
      decide (comparisonAt (left.map fun l => right.map (compare l)) i j = some true)) =
        fitsAt (fun l r => decide (compare l r = some true)) left right := by
      funext i j
      rw [comparisonAt_map, fitsAt]
      cases left[i]? <;> cases right[j]? <;> rfl
    rw [hmatched, rightToLeft, hwidth, List.length_map, hfits]
    exact Matchings.matched_matchRows List.nodup_range List.nodup_range
  obtain ⟨p, hmaximum, hleftOver, hrightOver, hpairs⟩ := exists_maximum_pairing hspec
  refine ⟨p, hmaximum, ?_⟩
  have hvalues : ∀ i, i ∈ matched.entries.map Sigma.snd ↔ ∃ j, matched.lookup j = some i := by
    intro i
    rw [List.mem_map]
    constructor
    · rintro ⟨⟨j, i'⟩, hmem, rfl⟩
      exact ⟨j, AList.mem_lookup_iff.mpr hmem⟩
    · rintro ⟨j, hj⟩
      exact ⟨⟨j, i⟩, AList.mem_lookup_iff.mp hj, rfl⟩
  have hkeys : ∀ j, j ∈ matched.keys ↔ matched.lookup j ≠ none := by
    intro j
    rw [← AList.mem_keys, Ne, AList.lookup_eq_none, not_not]
  have hcontradiction : (∃ i ∈ (List.range left.length).filter (· ∉ matched.entries.map Sigma.snd),
      ∃ j ∈ (List.range right.length).filter (· ∉ matched.keys),
        comparisonAt (left.map fun l => right.map (compare l)) i j = some false) ↔
        LeavesContradiction p := by
    constructor
    · rintro ⟨i, hi, j, hj, hcompare⟩
      rw [List.mem_filter, decide_eq_true_eq] at hi hj
      rw [comparisonAt_map] at hcompare
      cases hl : left[i]? with
      | none =>
        rw [hl] at hcompare
        cases hcompare
      | some l =>
        cases hr : right[j]? with
        | none =>
          rw [hl, hr] at hcompare
          cases hcompare
        | some r =>
          rw [hl, hr] at hcompare
          refine ⟨l, (hleftOver l).mpr ⟨i, hl, fun j' hj' => hi.2 ((hvalues i).mpr ⟨j', hj'⟩)⟩, r,
            (hrightOver r).mpr ⟨j, hr, ?_⟩, hcompare⟩
          by_contra hsome
          exact hj.2 ((hkeys j).mpr hsome)
    · rintro ⟨l, hl, r, hr, hcompare⟩
      obtain ⟨i, hi, hfree⟩ := (hleftOver l).mp hl
      obtain ⟨j, hj, hnone⟩ := (hrightOver r).mp hr
      have hi' : i < left.length := (List.getElem?_eq_some_iff.mp hi).1
      have hj' : j < right.length := (List.getElem?_eq_some_iff.mp hj).1
      refine ⟨i, List.mem_filter.mpr ⟨List.mem_range.mpr hi', decide_eq_true fun hmem => ?_⟩, j,
        List.mem_filter.mpr ⟨List.mem_range.mpr hj', decide_eq_true fun hmem => ?_⟩, ?_⟩
      · obtain ⟨j', howner⟩ := (hvalues i).mp hmem
        exact hfree j' howner
      · exact (hkeys j).mp hmem hnone
      · rw [comparisonAt_map, hi, hj]
        exact hcompare
  have hempty : matched.entries.map Sigma.snd = [] ↔ p.pairs = [] := by
    rw [hpairs, List.eq_nil_iff_forall_not_mem]
    constructor
    · intro hnone j
      cases howner : matched.lookup j with
      | none => rfl
      | some i => exact absurd ((hvalues i).mpr ⟨j, howner⟩) (hnone i)
    · intro hnone i hi
      obtain ⟨j, hj⟩ := (hvalues i).mp hi
      rw [hnone j] at hj
      cases hj
  unfold directedTimelineConsistency pairingVerdict
  rw [← hmatched, hwidth, List.length_map]
  dsimp only
  by_cases hleaves : LeavesContradiction p
  · rw [if_pos hleaves, if_pos (hcontradiction.mpr hleaves)]
  · rw [if_neg hleaves, if_neg (fun h => hleaves (hcontradiction.mp h))]
    by_cases hnil : p.pairs = []
    · rw [if_pos hnil, if_neg (not_not.mpr (hempty.mpr hnil))]
    · rw [if_neg hnil, if_pos (fun h => hnil (hempty.mp h))]

end Pairings

/-! ## The verdict -/

section Verdict

variable {count : Nat} {left right : List TimelineVersionItem}

/-- Comparing texts makes no difference between the sides. -/
lemma compareTexts_swap (pairs : List (String × String)) (overlap : Bool) :
    compareTexts (pairs.map Prod.swap) overlap = compareTexts pairs overlap := by
  induction pairs generalizing overlap with
  | nil => rfl
  | cons pair rest ih =>
    obtain ⟨l, r⟩ := pair
    rw [List.map_cons, Prod.swap_prod_mk, compareTexts, compareTexts, ih, ih]
    by_cases hboth : l ≠ "" ∧ r ≠ ""
    · rw [if_pos hboth, if_pos hboth.symm]
      by_cases hsame : l = r
      · rw [if_neg (not_not.mpr hsame), if_neg (not_not.mpr hsame.symm)]
      · rw [if_pos hsame, if_pos (Ne.symm hsame)]
    · rw [if_neg hboth, if_neg (fun h => hboth h.symm)]

/-- Comparing items makes no difference between the sides. -/
lemma timelineItemConsistency_symm (count : Nat) (l r : TimelineVersionItem) :
    timelineItemConsistency count l r = timelineItemConsistency count r l := by
  have hperiods : periodsOverlap l.period r.period = periodsOverlap r.period l.period := by
    unfold periodsOverlap
    simp only [or_comm, max_comm, min_comm]
  have hswap : ((r.texts.take count).zip (l.texts.take count)) =
      ((l.texts.take count).zip (r.texts.take count)).map Prod.swap := (List.zip_swap _ _).symm
  rw [timelineItemConsistency, timelineItemConsistency, hperiods, hswap, compareTexts_swap]

/-- The verdict of a pairing makes no difference between the sides. -/
lemma pairingVerdict_swap {α β : Type*} {compare : α → β → Option Bool} {left : List α}
    {right : List β} (p : AgreeingPairs compare left right) :
    pairingVerdict (show AgreeingPairs (fun r l => compare l r) right left from p.swap) =
      pairingVerdict p := by
  have hleaves : LeavesContradiction
    (show AgreeingPairs (fun r l => compare l r) right left from p.swap) ↔
      LeavesContradiction p := by
    constructor
    · rintro ⟨r, hr, l, hl, h⟩
      exact ⟨l, hl, r, hr, h⟩
    · rintro ⟨l, hl, r, hr, h⟩
      exact ⟨r, hr, l, hl, h⟩
  have hpairs : p.swap.pairs = [] ↔ p.pairs = [] := List.map_eq_nil_iff
  unfold pairingVerdict
  simp only [hleaves, hpairs]

/-- The verdict on two timelines that have items, by the comparisons and the same seen from the
other side. -/
lemma timelineItemsConsistent_of_ne (hleft : left ≠ []) (hright : right ≠ []) :
    timelineItemsConsistent count left right =
      if directedTimelineConsistency
        (left.map fun l => right.map (timelineItemConsistency count l)) =
          directedTimelineConsistency
            (right.map fun r => left.map fun l => timelineItemConsistency count l r) then
        directedTimelineConsistency (left.map fun l => right.map (timelineItemConsistency count l))
      else none := by
  have hitems : ¬((left.map fun l => right.map (timelineItemConsistency count l)) = [] ∨
      right = []) := by
    rintro (h | h)
    · exact hleft (List.map_eq_nil_iff.mp h)
    · exact hright h
  unfold timelineItemsConsistent
  dsimp only
  rw [if_neg hitems, transposed_map hleft]

/-- The verdict is that of one maximum pairing in the one direction, and of another one in the
other. -/
lemma exists_pairings (hleft : left ≠ []) (hright : right ≠ []) :
    ∃ p q : AgreeingPairs (timelineItemConsistency count) left right, p.IsMaximum ∧ q.IsMaximum ∧
      timelineItemsConsistent count left right =
        if pairingVerdict p = pairingVerdict q then pairingVerdict p else none := by
  obtain ⟨p, hp, hforward⟩ : ∃ p : AgreeingPairs (timelineItemConsistency count) left right,
    p.IsMaximum ∧
      directedTimelineConsistency (left.map fun l => right.map (timelineItemConsistency count l)) =
        pairingVerdict p := directedTimelineConsistency_eq hleft
  obtain ⟨q, hq, hreverse⟩ : ∃ q : AgreeingPairs (fun r l =>
    timelineItemConsistency count l r) right left,
      q.IsMaximum ∧ directedTimelineConsistency
      (right.map fun r => left.map fun l => timelineItemConsistency count l r) =
        pairingVerdict q := directedTimelineConsistency_eq hright
  refine ⟨p, q.swap, hp, hq.swap, ?_⟩
  have hverdict : pairingVerdict
    (show AgreeingPairs (timelineItemConsistency count) left right from q.swap) =
      pairingVerdict q := pairingVerdict_swap q
  rw [timelineItemsConsistent_of_ne hleft hright, hforward, hreverse, hverdict]

/-- Maximum pairings that leave contradictions over alike have one verdict. -/
lemma pairingVerdict_congr {α β : Type*} {compare : α → β → Option Bool} {left : List α}
    {right : List β} {p q : AgreeingPairs compare left right} (hp : p.IsMaximum) (hq : q.IsMaximum)
    (h : LeavesContradiction p ↔ LeavesContradiction q) : pairingVerdict p = pairingVerdict q := by
  have hlength : p.pairs.length = q.pairs.length := le_antisymm (hq p) (hp q)
  have hempty : p.pairs = [] ↔ q.pairs = [] := by
    rw [← List.length_eq_zero_iff, hlength, List.length_eq_zero_iff]
  unfold pairingVerdict
  simp only [h, hempty]

/-- A pairing with an empty list has no verdict. -/
lemma pairingVerdict_of_nil {α β : Type*} {compare : α → β → Option Bool} {left : List α}
    {right : List β} (p : AgreeingPairs compare left right) (h : left = [] ∨ right = []) :
    pairingVerdict p = none := by
  have hnil : p.pairs = [] ∧ (p.leftOver = [] ∨ p.rightOver = []) := by
    obtain rfl | rfl := h
    · obtain ⟨hpairs, hover⟩ := List.append_eq_nil_iff.mp p.left_perm.eq_nil
      exact ⟨List.map_eq_nil_iff.mp hpairs, .inl hover⟩
    · obtain ⟨hpairs, hover⟩ := List.append_eq_nil_iff.mp p.right_perm.eq_nil
      exact ⟨List.map_eq_nil_iff.mp hpairs, .inr hover⟩
  have hleaves : ¬LeavesContradiction p := by
    rintro ⟨l, hl, r, hr, -⟩
    obtain hover | hover := hnil.2
    · rw [hover] at hl
      exact List.not_mem_nil hl
    · rw [hover] at hr
      exact List.not_mem_nil hr
  rw [pairingVerdict, if_neg hleaves, if_pos hnil.1]

/-- With no ambiguity the verdict is that of every maximum pairing. -/
lemma verdict_of_unambiguous (h : Unambiguous (timelineItemConsistency count) left right)
    {p : AgreeingPairs (timelineItemConsistency count) left right} (hp : p.IsMaximum) :
    timelineItemsConsistent count left right = pairingVerdict p := by
  by_cases hempty : left = [] ∨ right = []
  · rw [pairingVerdict_of_nil p hempty, timelineItemsConsistent]
    dsimp only
    rw [if_pos (hempty.imp_left fun hnil => by rw [hnil]; rfl)]
  · obtain ⟨hleft, hright⟩ := not_or.mp hempty
    obtain ⟨q, q', hq, hq', hverdict⟩ := exists_pairings hleft hright
    rw [hverdict, pairingVerdict_congr hq hp (h q p hq hp), pairingVerdict_congr hq' hp
      (h q' p hq' hp), if_pos rfl]

/-- There is a maximum pairing. -/
lemma exists_maximum {α β : Type*} (compare : α → β → Option Bool) (left : List α)
    (right : List β) : ∃ p : AgreeingPairs compare left right, p.IsMaximum := by
  by_cases hleft : left = []
  · subst hleft
    refine ⟨⟨[], [], right, List.Perm.refl _, List.Perm.refl _, fun p hp =>
      absurd hp List.not_mem_nil⟩, fun q => ?_⟩
    have hpairs := (List.append_eq_nil_iff.mp q.left_perm.eq_nil).1
    rw [List.map_eq_nil_iff.mp hpairs]
  · obtain ⟨p, hp, -⟩ : ∃ p : AgreeingPairs compare left right, p.IsMaximum ∧
        directedTimelineConsistency (left.map fun l => right.map (compare l)) = pairingVerdict p :=
      directedTimelineConsistency_eq hleft
    exact ⟨p, hp⟩

end Verdict

/-- The verdict depends neither on the order of the items nor on the maximum pairing that is
found. -/
structure Intrinsic (count : Nat) (left right : List TimelineVersionItem) : Prop where
  order : ∀ left' right', left.Perm left' → right.Perm right' →
    timelineItemsConsistent count left' right' = timelineItemsConsistent count left right
  pairing : ∀ p : AgreeingPairs (timelineItemConsistency count) left right, p.IsMaximum →
    pairingVerdict p = timelineItemsConsistent count left right

/-- The verdict on two timelines is intrinsic exactly if they are unambiguous. -/
theorem intrinsic_iff (count : Nat) (left right : List TimelineVersionItem) :
    Intrinsic count left right ↔ Unambiguous (timelineItemConsistency count) left right := by
  constructor
  · intro h p q hp hq
    have hverdict : pairingVerdict p = pairingVerdict q :=
      (h.pairing p hp).trans (h.pairing q hq).symm
    have hfalse : ∀ p : AgreeingPairs (timelineItemConsistency count) left right,
        LeavesContradiction p ↔ pairingVerdict p = some false := by
      intro p
      unfold pairingVerdict
      by_cases hleaves : LeavesContradiction p
      · simp [hleaves]
      · by_cases hnil : p.pairs = [] <;> simp [hleaves, hnil]
    rw [hfalse, hfalse, hverdict]
  · intro h
    refine ⟨fun left' right' hleft hright => ?_, fun p hp => (verdict_of_unambiguous h hp).symm⟩
    have h' : Unambiguous (timelineItemConsistency count) left' right' := fun p q hp hq =>
      h (p.ofPerm hleft.symm hright.symm) (q.ofPerm hleft.symm hright.symm)
        (hp.ofPerm hleft.symm hright.symm)
        (hq.ofPerm hleft.symm hright.symm)
    obtain ⟨p, hp⟩ := exists_maximum (timelineItemConsistency count) left right
    rw [verdict_of_unambiguous h hp, verdict_of_unambiguous h' (hp.ofPerm hleft hright)]
    rfl

/-! ## The two sides -/

/-- The verdict on two timelines makes no difference between the sides. -/
lemma timelineItemsConsistent_symm (count : Nat) (left right : List TimelineVersionItem) :
    timelineItemsConsistent count left right = timelineItemsConsistent count right left := by
  by_cases hempty : left = [] ∨ right = []
  · obtain rfl | rfl := hempty <;> simp [timelineItemsConsistent]
  · obtain ⟨hleft, hright⟩ := not_or.mp hempty
    have hrows : (right.map fun r => left.map (timelineItemConsistency count r)) =
        right.map fun r => left.map fun l => timelineItemConsistency count l r :=
      List.map_congr_left fun r _ => List.map_congr_left fun l _ =>
        timelineItemConsistency_symm count r l
    have hcolumns : (left.map fun l => right.map fun r => timelineItemConsistency count r l) =
        left.map fun l => right.map (timelineItemConsistency count l) :=
      List.map_congr_left fun l _ => List.map_congr_left fun r _ =>
        timelineItemConsistency_symm count r l
    rw [timelineItemsConsistent_of_ne hleft hright, timelineItemsConsistent_of_ne hright hleft,
      hrows, hcolumns]
    by_cases hsame : directedTimelineConsistency
      (left.map fun l => right.map (timelineItemConsistency count l)) =
        directedTimelineConsistency
          (right.map fun r => left.map fun l => timelineItemConsistency count l r)
    · rw [if_pos hsame, if_pos hsame.symm, hsame]
    · rw [if_neg hsame, if_neg (Ne.symm hsame)]

/-- The verdict on two versions makes no difference between the sides. -/
lemma materiallyConsistent_symm (v w : ResumeContentVersion) :
    materiallyConsistent v w = materiallyConsistent w v := by
  have hrole : compareTexts [(v.currentCompany, w.currentCompany), (v.currentTitle, w.currentTitle)]
    false =
      compareTexts [(w.currentCompany, v.currentCompany), (w.currentTitle, v.currentTitle)] false :=
    (compareTexts_swap [(v.currentCompany, w.currentCompany), (v.currentTitle, w.currentTitle)]
      false).symm
  unfold materiallyConsistent
  rw [hrole, timelineItemsConsistent_symm 2 v.workItems,
    timelineItemsConsistent_symm 3 v.projectItems, timelineItemsConsistent_symm 3 v.educationItems]

/-! ## Renaming -/

/-- An injective renaming of texts; a text that is missing stays missing. -/
structure TextRenaming where
  rename : String → String
  injective : Function.Injective rename
  rename_empty : rename "" = ""

/-- A text that is there stays there. -/
lemma TextRenaming.ne_empty_iff (ρ : TextRenaming) (text : String) :
    ρ.rename text ≠ "" ↔ text ≠ "" := by
  rw [← ρ.rename_empty, ρ.injective.ne_iff, ρ.rename_empty]

/-- The names that resumes mention. -/
structure Renaming where
  company : TextRenaming
  title : TextRenaming
  project : TextRenaming
  school : TextRenaming
  major : TextRenaming
  degree : TextRenaming

/-- An item with its first texts renamed. -/
def TimelineVersionItem.renamed (maps : List TextRenaming) (item : TimelineVersionItem) :
    TimelineVersionItem where
  period := item.period
  texts := List.zipWith TextRenaming.rename maps item.texts ++ item.texts.drop maps.length

/-- The renamed items, in the order of their new texts. -/
def renamedItems (maps : List TextRenaming) (items : List TimelineVersionItem) :
    List TimelineVersionItem :=
  sortedItems (items.map (TimelineVersionItem.renamed maps))

/-- The version of a resume in which all names are replaced. -/
def ResumeContentVersion.renamed (ρ : Renaming) (version : ResumeContentVersion) :
    ResumeContentVersion where
  resumeId := version.resumeId
  freshness := version.freshness
  contentKey := version.contentKey
  currentCompany := ρ.company.rename version.currentCompany
  currentTitle := ρ.title.rename version.currentTitle
  workItems := renamedItems [ρ.company, ρ.title] version.workItems
  projectItems := renamedItems [ρ.project, ρ.company, ρ.title] version.projectItems
  educationItems := renamedItems [ρ.school, ρ.major, ρ.degree] version.educationItems

/-- Comparing texts does not depend on how they are spelled. -/
lemma compareTexts_renamed (maps : List TextRenaming) (left right : List String) (overlap : Bool) :
    compareTexts ((List.zipWith TextRenaming.rename maps left).zip
      (List.zipWith TextRenaming.rename maps right)) overlap =
      compareTexts ((left.take maps.length).zip (right.take maps.length)) overlap := by
  induction maps generalizing left right overlap with
  | nil => simp
  | cons ρ rest ih =>
    cases left with
    | nil => simp
    | cons l left =>
      cases right with
      | nil => simp
      | cons r right =>
        simp only [List.zipWith_cons_cons, List.zip_cons_cons, List.length_cons,
          List.take_succ_cons, compareTexts, ρ.ne_empty_iff, ρ.injective.ne_iff, ih]

/-- Comparing items does not depend on how their names are spelled. -/
lemma timelineItemConsistency_renamed (maps : List TextRenaming) (l r : TimelineVersionItem) :
    timelineItemConsistency maps.length (l.renamed maps) (r.renamed maps) =
      timelineItemConsistency maps.length l r := by
  have htake : ∀ item : TimelineVersionItem,
      (item.renamed maps).texts.take maps.length = List.zipWith TextRenaming.rename maps
      item.texts := by
    intro item
    unfold TimelineVersionItem.renamed
    by_cases hlength : maps.length ≤ item.texts.length
    · exact List.take_left' (by rw [List.length_zipWith, min_eq_left hlength])
    · dsimp only
      rw [List.drop_eq_nil_of_le (by omega), List.append_nil,
        List.take_of_length_le (by rw [List.length_zipWith]; exact min_le_left _ _)]
  unfold timelineItemConsistency
  rw [htake, htake, compareTexts_renamed]
  rfl

/-- The verdict on renamed items in the order they had. -/
lemma timelineItemsConsistent_map (maps : List TextRenaming)
    (left right : List TimelineVersionItem) :
    timelineItemsConsistent maps.length (left.map (TimelineVersionItem.renamed maps))
        (right.map (TimelineVersionItem.renamed maps)) =
      timelineItemsConsistent maps.length left right := by
  have hrows : ((left.map (TimelineVersionItem.renamed maps)).map fun l =>
      (right.map (TimelineVersionItem.renamed maps)).map (timelineItemConsistency maps.length l)) =
        left.map fun l => right.map (timelineItemConsistency maps.length l) := by
    rw [List.map_map]
    refine List.map_congr_left fun l _ => ?_
    rw [Function.comp_apply, List.map_map]
    exact List.map_congr_left fun r _ => timelineItemConsistency_renamed maps l r
  unfold timelineItemsConsistent
  simp only [hrows, List.map_eq_nil_iff]

/-- A list in the order of its renamed items. -/
lemma exists_perm_renamedItems (maps : List TextRenaming) (items : List TimelineVersionItem) :
    ∃ items', items.Perm items' ∧ renamedItems maps items = items'.map
      (TimelineVersionItem.renamed maps) := by
  have hperm : (renamedItems maps items).Perm (items.map (TimelineVersionItem.renamed maps)) :=
    List.perm_insertionSort _ _
  have hcomp : Relation.Comp (· = List.map (TimelineVersionItem.renamed maps) ·) List.Perm
    (renamedItems maps items)
      items := by
    rw [List.eq_map_comp_perm]
    exact hperm
  obtain ⟨items', hmap, hitems⟩ := hcomp
  exact ⟨items', hitems.symm, hmap⟩

/-- The verdict on unambiguous timelines does not depend on how names are spelled. -/
lemma timelineItemsConsistent_renamed (maps : List TextRenaming)
    {left right : List TimelineVersionItem}
    (h : Unambiguous (timelineItemConsistency maps.length) left right) :
    timelineItemsConsistent maps.length (renamedItems maps left) (renamedItems maps right) =
      timelineItemsConsistent maps.length left right := by
  obtain ⟨left', hleft, hleftItems⟩ := exists_perm_renamedItems maps left
  obtain ⟨right', hright, hrightItems⟩ := exists_perm_renamedItems maps right
  rw [hleftItems, hrightItems, timelineItemsConsistent_map]
  exact ((intrinsic_iff maps.length left right).mpr h).order left' right' hleft hright

/-- No timeline of two versions is ambiguous. -/
structure UnambiguousVersions (v w : ResumeContentVersion) : Prop where
  work : Unambiguous (timelineItemConsistency 2) v.workItems w.workItems
  projects : Unambiguous (timelineItemConsistency 3) v.projectItems w.projectItems
  education : Unambiguous (timelineItemConsistency 3) v.educationItems w.educationItems

/-- The verdict on unambiguous versions does not depend on how names are spelled. -/
lemma materiallyConsistent_renamed (ρ : Renaming) {v w : ResumeContentVersion}
    (h : UnambiguousVersions v w) :
    materiallyConsistent (v.renamed ρ) (w.renamed ρ) = materiallyConsistent v w := by
  have hrole : compareTexts [((v.renamed ρ).currentCompany, (w.renamed ρ).currentCompany),
      ((v.renamed ρ).currentTitle, (w.renamed ρ).currentTitle)] false =
        compareTexts [(v.currentCompany, w.currentCompany), (v.currentTitle, w.currentTitle)]
          false :=
    compareTexts_renamed [ρ.company, ρ.title] [v.currentCompany, v.currentTitle]
      [w.currentCompany, w.currentTitle] false
  have hwork : timelineItemsConsistent 2 (v.renamed ρ).workItems (w.renamed ρ).workItems =
      timelineItemsConsistent 2 v.workItems w.workItems :=
    timelineItemsConsistent_renamed [ρ.company, ρ.title] h.work
  have hprojects : timelineItemsConsistent 3 (v.renamed ρ).projectItems (w.renamed ρ).projectItems =
      timelineItemsConsistent 3 v.projectItems w.projectItems :=
    timelineItemsConsistent_renamed [ρ.project, ρ.company, ρ.title] h.projects
  have heducation : timelineItemsConsistent 3 (v.renamed ρ).educationItems
    (w.renamed ρ).educationItems =
      timelineItemsConsistent 3 v.educationItems w.educationItems :=
    timelineItemsConsistent_renamed [ρ.school, ρ.major, ρ.degree] h.education
  unfold materiallyConsistent
  rw [hrole, hwork, hprojects, heducation]

/-- The verdict on two timelines depends neither on the order of the items nor on the maximum
matching that is found exactly if all maximum matchings leave a contradiction over or none does; on
versions whose timelines are like that, the verdict does not depend on how names are spelled.  The
verdict never depends on the sides. -/
theorem verdict_intrinsic (count : Nat) (left right : List TimelineVersionItem) (ρ : Renaming)
    (v w : ResumeContentVersion) :
    (Intrinsic count left right ↔ Unambiguous (timelineItemConsistency count) left right) ∧
    (UnambiguousVersions v w →
      materiallyConsistent (v.renamed ρ) (w.renamed ρ) = materiallyConsistent v w) ∧
    materiallyConsistent v w = materiallyConsistent w v :=
  ⟨intrinsic_iff count left right, materiallyConsistent_renamed ρ, materiallyConsistent_symm v w⟩

/-- Timelines without items that contradict each other are unambiguous. -/
lemma unambiguous_of_compatible {α β : Type*} {compare : α → β → Option Bool} {left : List α}
    {right : List β}
    (h : ∀ l ∈ left, ∀ r ∈ right, compare l r ≠ some false) : Unambiguous compare left right := by
  have hnone : ∀ p : AgreeingPairs compare left right, ¬LeavesContradiction p := by
    rintro p ⟨l, hl, r, hr, hfalse⟩
    have hleft : l ∈ left := p.left_perm.subset (List.mem_append_right _ hl)
    have hright : r ∈ right := p.right_perm.subset (List.mem_append_right _ hr)
    exact h l hleft r hright hfalse
  exact fun p q _ _ => iff_of_false (hnone p) (hnone q)

/-- A project of the year 2023. -/
def projectOf (name company title : String) : TimelineVersionItem where
  period := ⟨202301, 202312, false⟩
  texts := [name, company, title, ""]

/-- A version with projects only. -/
def projectVersion (resumeId : String) (projects : List TimelineVersionItem) :
    ResumeContentVersion where
  resumeId := resumeId
  freshness := none
  contentKey := ""
  currentCompany := ""
  currentTitle := ""
  workItems := []
  projectItems := sortedItems projects
  educationItems := []

/-- The renaming that exchanges the names of two projects. -/
def exchangedProjects (a b : String) (ha : a ≠ "") (hb : b ≠ "") : Renaming where
  company := ⟨id, Function.injective_id, rfl⟩
  title := ⟨id, Function.injective_id, rfl⟩
  project :=
    ⟨Equiv.swap a b, (Equiv.swap a b).injective, Equiv.swap_apply_of_ne_of_ne ha.symm hb.symm⟩
  school := ⟨id, Function.injective_id, rfl⟩
  major := ⟨id, Function.injective_id, rfl⟩
  degree := ⟨id, Function.injective_id, rfl⟩

/-- Two projects without a name, and two projects each of which either of them is found in: there
are two maximum matchings, and the verdict does not change when the names are exchanged. -/
theorem project_exchanged :
    materiallyConsistent
        ((projectVersion "v" [projectOf "" "c" "x", projectOf "" "c" ""]).renamed
          (exchangedProjects "a" "b" (by decide) (by decide)))
        ((projectVersion "w" [projectOf "a" "c" "x", projectOf "b" "c" ""]).renamed
          (exchangedProjects "a" "b" (by decide) (by decide))) =
      materiallyConsistent (projectVersion "v" [projectOf "" "c" "x", projectOf "" "c" ""])
        (projectVersion "w" [projectOf "a" "c" "x", projectOf "b" "c" ""]) :=
  (verdict_intrinsic 0 [] [] _ _ _).2.1
    ⟨unambiguous_of_compatible (by decide +kernel), unambiguous_of_compatible (by decide +kernel),
      unambiguous_of_compatible (by decide +kernel)⟩

/-- Two projects that have no name. -/
def namelessProjects : List TimelineVersionItem := [projectOf "" "c" "", projectOf "" "" "y"]

/-- A project without a name is found in either of two projects of its company, and only if it is
found in the one, a contradiction between the other projects is left over.  The order of the two
decides, and if they are sorted, their names do. -/
theorem projects_reordered :
    timelineItemsConsistent 3 namelessProjects [projectOf "a" "c" "x", projectOf "b" "c" ""] =
      some true ∧
    timelineItemsConsistent 3 namelessProjects [projectOf "b" "c" "", projectOf "a" "c" "x"] =
      some false ∧
    materiallyConsistent (projectVersion "v" namelessProjects)
      (projectVersion "w" [projectOf "a" "c" "x", projectOf "b" "c" ""]) = some true ∧
    materiallyConsistent
      ((projectVersion "v" namelessProjects).renamed
        (exchangedProjects "a" "b" (by decide) (by decide)))
      ((projectVersion "w" [projectOf "a" "c" "x", projectOf "b" "c" ""]).renamed
        (exchangedProjects "a" "b" (by decide) (by decide))) = some false :=
  ⟨by decide +kernel, by decide +kernel, by decide +kernel, by decide +kernel⟩

end SeekTalent.ResumeVersions
