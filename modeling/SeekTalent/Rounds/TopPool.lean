import SeekTalent.Foundation.Checks
import SeekTalent.Foundation.Dicts
import SeekTalent.Foundation.FirstClaims
import SeekTalent.Foundation.Rankings
import SeekTalent.Rounds.ScoredCandidates

/-!
# The top pool

`select_identity_top_candidates` of `seektalent/runtime/candidate_intake.py`.  It goes through the
scorecards in their order and takes one for each identity, until there are `TOP_K`: not the
scorecard that it has come to, but that of the canonical resume of the identity, which may rank
lower.

The scorecards that it comes to first are the first claims of `Foundation.FirstClaims` on the
identities, so it returns the first `TOP_K` of the eligible identities in the order of their best
scorecards.  `topPool_iff` says when these are the top ones in the order of the scorecards that are
returned.
-/

namespace SeekTalent.Rounds

open Foundation

/-- `TOP_K`. -/
def topK : Nat := 10

/-- `RunState`, as far as the top pool reads and writes it.  Every scorecard is stored under its
resume. -/
structure PoolRunState where
  scorecardsByResumeId : Dict String ScoredCandidate
  keyed : ∀ id card, scorecardsByResumeId.lookup id = some card → card.resumeId = id
  candidateIdentityByResumeId : Dict String String
  canonicalResumeByIdentityId : Dict String String
  topPoolIds : List String

namespace PoolRunState

variable (s : PoolRunState)
variable {b c : ScoredCandidate} {i : String}

/-- `run_state.candidate_identity_by_resume_id.get(resume_id, resume_id)`. -/
def identity (card : ScoredCandidate) : String :=
  (s.candidateIdentityByResumeId.lookup card.resumeId).getD card.resumeId

/-- The scorecard that is selected for the identity of a scorecard. -/
def selectedScore (scored : ScoredCandidate) : ScoredCandidate :=
  let selectedResumeId :=
    (s.canonicalResumeByIdentityId.lookup (s.identity scored)).getD scored.resumeId
  (s.scorecardsByResumeId.lookup selectedResumeId).getD scored

/-- A scorecard can be recommended. -/
def eligible (card : ScoredCandidate) : Bool :=
    isRecommendationEligible card.overallScore card.fitBucket

/-- `run_state.scorecards_by_resume_id.values()`. -/
def scorecards : List ScoredCandidate := s.scorecardsByResumeId.entries.map Sigma.snd

/-- The loop of `select_identity_top_candidates`. -/
def selectFrom (seenIdentityIds : List String) (selected : List ScoredCandidate) :
    List ScoredCandidate → List ScoredCandidate
  | [] => selected
  | scored :: rest =>
    if s.identity scored ∈ seenIdentityIds then selectFrom seenIdentityIds selected rest
    else if ¬ eligible (s.selectedScore scored) then
      selectFrom (s.identity scored :: seenIdentityIds) selected rest
    else if topK ≤ (selected ++ [s.selectedScore scored]).length then selected ++
      [s.selectedScore scored]
    else selectFrom (s.identity scored :: seenIdentityIds) (selected ++ [s.selectedScore scored])
      rest

/-- `select_identity_top_candidates`. -/
def selectIdentityTopCandidates : List ScoredCandidate × PoolRunState :=
  let selected := s.selectFrom [] []
    (s.scorecards.insertionSort fun a b => scoredCandidateSortKey a ≤ scoredCandidateSortKey b)
  (selected, { s with topPoolIds := selected.map ScoredCandidate.resumeId })

/-! ## What a top pool is -/

/-- The scorecard is the best one of its identity. -/
def Leads (b : ScoredCandidate) : Prop :=
  b ∈ s.scorecards ∧
    ∀ c ∈ s.scorecards, s.identity c = s.identity b →
      scoredCandidateSortKey b ≤ scoredCandidateSortKey c

instance (b : ScoredCandidate) : Decidable (s.Leads b) := inferInstanceAs (Decidable (_ ∧ _))

/-- The scorecard that stands for an identity: that of its canonical resume if that one is scored,
and its best one otherwise. -/
def Represents (i : String) (c : ScoredCandidate) : Prop :=
  ∃ b, s.Leads b ∧ s.identity b = i ∧
    c = ((s.canonicalResumeByIdentityId.lookup i).bind s.scorecardsByResumeId.lookup).getD b

/-- Scorecards are the top ones of the run: they stand for different identities that can be
recommended, are in order, at most `TOP_K`, and there are `TOP_K` that come before any other
eligible one. -/
structure IsTopPool (ids : List String) (cards : List ScoredCandidate) : Prop where
  identities : ids.Nodup
  represents : List.Forall₂ s.Represents ids cards
  eligible : ∀ c ∈ cards, eligible c
  bounded : cards.length ≤ topK
  ordered : cards.Pairwise fun a b => scoredCandidateSortKey a ≤ scoredCandidateSortKey b
  maximal : ∀ i c, s.Represents i c → PoolRunState.eligible c → i ∉ ids →
    cards.length = topK ∧ ∀ card ∈ cards, scoredCandidateSortKey card ≤ scoredCandidateSortKey c

/-- The best scorecards of the identities that can be recommended. -/
def eligibleLeaders : List ScoredCandidate :=
  s.scorecards.filter fun b => s.Leads b ∧ eligible (s.selectedScore b)

/-- The identities rank by the scorecards that stand for them as they do by their best ones, as far
as an identity that fewer than `TOP_K` others come before is concerned. -/
def RanksAgree : Prop :=
  ∀ b ∈ s.eligibleLeaders, ∀ b' ∈ s.eligibleLeaders,
    scoredCandidateSortKey b < scoredCandidateSortKey b' →
    (s.eligibleLeaders.filter fun a => scoredCandidateSortKey a < scoredCandidateSortKey b).length <
      topK →
      scoredCandidateSortKey (s.selectedScore b) ≤ scoredCandidateSortKey (s.selectedScore b')

instance : Decidable s.RanksAgree := inferInstanceAs (Decidable (∀ _ ∈ _, _))

/-! ## Scorecards and identities -/

variable {s}

/-- A scorecard of the run is the one of its resume. -/
lemma mem_scorecards :
    c ∈ s.scorecards ↔ s.scorecardsByResumeId.lookup c.resumeId = some c := by
  constructor
  · intro hmem
    obtain ⟨entry, hentry, rfl⟩ := List.mem_map.mp hmem
    have hlookup : s.scorecardsByResumeId.lookup entry.1 = some entry.2 :=
      AList.mem_lookup_iff.mpr hentry
    rw [s.keyed _ _ hlookup]
    exact hlookup
  · intro hlookup
    exact List.mem_map.mpr ⟨⟨c.resumeId, c⟩, AList.mem_lookup_iff.mp hlookup, rfl⟩

/-- No two scorecards of the run have one rank. -/
lemma eq_of_sortKey_eq {a : ScoredCandidate} (ha : a ∈ s.scorecards) (hb : b ∈ s.scorecards)
    (h : scoredCandidateSortKey a = scoredCandidateSortKey b) : a = b := by
  have hlookup := mem_scorecards.mp ha
  rw [resumeId_of_sortKey_eq h, mem_scorecards.mp hb] at hlookup
  exact (Option.some.inj hlookup).symm

/-- No scorecard is there twice. -/
lemma nodup_scorecards : s.scorecards.Nodup := by
  have hkeys : s.scorecards.map ScoredCandidate.resumeId = s.scorecardsByResumeId.keys := by
    rw [scorecards, List.map_map]
    refine List.map_congr_left fun entry hentry => ?_
    exact s.keyed _ _ (AList.mem_lookup_iff.mpr hentry)
  exact List.Nodup.of_map ScoredCandidate.resumeId (hkeys ▸ s.scorecardsByResumeId.keys_nodup)

variable (s) in
/-- The scorecards in their order. -/
def sortedScorecards : List ScoredCandidate :=
  s.scorecards.insertionSort fun a b => scoredCandidateSortKey a ≤ scoredCandidateSortKey b

@[simp] lemma mem_sortedScorecards : c ∈ s.sortedScorecards ↔ c ∈ s.scorecards :=
  List.mem_insertionSort _

/-- The order of the scorecards is strict. -/
lemma sortedScorecards_pairwise :
    s.sortedScorecards.Pairwise fun a b => scoredCandidateSortKey a < scoredCandidateSortKey b := by
  have hsorted : s.sortedScorecards.Pairwise fun a b =>
    scoredCandidateSortKey a ≤ scoredCandidateSortKey b :=
    List.pairwise_insertionSort _ _
  have hnodup : s.sortedScorecards.Nodup :=
    (List.perm_insertionSort _ _).nodup_iff.mpr nodup_scorecards
  refine List.Pairwise.imp_of_mem (fun ha hb hand => ?_) (hsorted.and hnodup)
  refine lt_of_le_of_ne hand.1 fun heq => hand.2 ?_
  exact eq_of_sortKey_eq (mem_sortedScorecards.mp ha) (mem_sortedScorecards.mp hb) heq

variable (s) in
/-- The scorecards at which the loop comes to an identity for the first time. -/
def firstVisits : List (ScoredCandidate × String) :=
  firstClaims [] (s.sortedScorecards.map fun c => (c, s.identity c))

/-- The first scorecard of an identity is its best one. -/
lemma find?_sortedScorecards :
    (s.sortedScorecards.find? fun c => s.identity c = i) = some b ↔ s.Leads b ∧
      s.identity b = i := by
  constructor
  · intro hfind
    have hi : s.identity b = i := by simpa using List.find?_some hfind
    refine ⟨⟨mem_sortedScorecards.mp (List.mem_of_find?_eq_some hfind), fun c hc hsame => ?_⟩, hi⟩
    exact le_of_find?_of_sorted sortedScorecards_pairwise hfind (mem_sortedScorecards.mpr hc)
      (by simpa using hsame.trans hi)
  · rintro ⟨⟨hmem, hleads⟩, hi⟩
    have hfound : (s.sortedScorecards.find? fun c => s.identity c = i).isSome :=
      List.find?_isSome.mpr ⟨b, mem_sortedScorecards.mpr hmem, by simpa using hi⟩
    obtain ⟨c, hfind⟩ := Option.isSome_iff_exists.mp hfound
    have hc : s.identity c = i := by simpa using List.find?_some hfind
    have hcmem : c ∈ s.scorecards := mem_sortedScorecards.mp (List.mem_of_find?_eq_some hfind)
    have hle : scoredCandidateSortKey c ≤ scoredCandidateSortKey b :=
      le_of_find?_of_sorted sortedScorecards_pairwise hfind (mem_sortedScorecards.mpr hmem)
        (by simpa using hi)
    rw [hfind, eq_of_sortKey_eq hcmem hmem (le_antisymm hle (hleads c hcmem (hc.trans hi.symm)))]

/-- The loop comes to an identity at its best scorecard. -/
lemma mem_firstVisits :
    (b, i) ∈ s.firstVisits ↔ s.Leads b ∧ s.identity b = i := by
  rw [firstVisits, mem_firstClaims, List.find?_map, ← find?_sortedScorecards]
  have hcomp : ((fun claim : ScoredCandidate × String => decide (claim.2 = i)) ∘ fun c =>
    (c, s.identity c)) =
      fun c => decide (s.identity c = i) := rfl
  rw [hcomp, Option.map_eq_some_iff]
  constructor
  · rintro ⟨-, c, hfind, hc⟩
    obtain rfl : c = b := congrArg Prod.fst hc
    exact hfind
  · intro hfind
    have hi : s.identity b = i := by simpa using List.find?_some hfind
    exact ⟨List.not_mem_nil, b, hfind, by rw [hi]⟩

variable (s) in
/-- The best scorecards of the identities, in the order in which the loop comes to them. -/
def leaders : List ScoredCandidate := s.firstVisits.map Prod.fst

lemma mem_leaders : b ∈ s.leaders ↔ s.Leads b := by
  constructor
  · intro hmem
    obtain ⟨⟨b, i⟩, hvisit, rfl⟩ := List.mem_map.mp hmem
    exact (mem_firstVisits.mp hvisit).1
  · intro hleads
    exact List.mem_map.mpr ⟨(b, s.identity b), mem_firstVisits.mpr ⟨hleads, rfl⟩, rfl⟩

/-- The loop comes to the identities in the order of their best scorecards. -/
lemma leaders_pairwise : s.leaders.Pairwise fun a b =>
    scoredCandidateSortKey a < scoredCandidateSortKey b := by
  have hsub : s.leaders.Sublist
      ((s.sortedScorecards.map fun c => (c, s.identity c)).map Prod.fst) :=
    (firstClaims_sublist _ _).map Prod.fst
  rw [List.map_map] at hsub
  exact sortedScorecards_pairwise.sublist (by simpa [Function.comp_def] using hsub)

/-- The loop comes to an identity once. -/
lemma nodup_identity_leaders : (s.leaders.map s.identity).Nodup := by
  have hsame : s.leaders.map s.identity = s.firstVisits.map Prod.snd := by
    rw [leaders, List.map_map]
    refine List.map_congr_left fun visit hvisit => ?_
    exact (mem_firstVisits.mp hvisit).2
  rw [hsame]
  exact nodup_firstClaims _ _

/-- The loop takes the scorecards that are selected for the identities it comes to, as far as they
can be recommended, until there are enough. -/
lemma selectFrom_eq (seen : List String) (selected cards : List ScoredCandidate)
    (hlength : selected.length < topK) :
    s.selectFrom seen selected cards =
      (selected ++ ((firstClaims seen (cards.map fun c => (c, s.identity c))).map
        fun visit => s.selectedScore visit.1).filter eligible).take topK := by
  induction cards generalizing seen selected with
  | nil => simp [selectFrom, firstClaims, List.take_of_length_le hlength.le]
  | cons scored rest ih =>
    rw [List.map_cons, firstClaims]
    unfold selectFrom
    by_cases hseen : s.identity scored ∈ seen
    · rw [if_pos hseen, if_pos hseen, ih seen selected hlength]
    rw [if_neg hseen, if_neg hseen, List.map_cons]
    by_cases heligible : eligible (s.selectedScore scored) = true
    · rw [if_neg (not_not.mpr heligible), List.filter_cons_of_pos heligible]
      conv_rhs => rw [List.append_cons]
      by_cases hfull : topK ≤ (selected ++ [s.selectedScore scored]).length
      · have hexact : (selected ++ [s.selectedScore scored]).length = topK := by
          rw [List.length_append, List.length_singleton] at hfull ⊢
          omega
        rw [if_pos hfull, List.take_append_of_le_length hfull, ← hexact, List.take_length]
      · rw [if_neg hfull, ih _ _ (not_le.mp hfull)]
    · rw [if_pos heligible, List.filter_cons_of_neg heligible, ih _ _ hlength]

/-! ## The top pool -/

variable (s) in
/-- The best scorecards of the eligible identities, in the order in which the loop comes to them. -/
def visited : List ScoredCandidate := s.leaders.filter fun b => eligible (s.selectedScore b)

/-- What is selected are the scorecards of the first eligible identities. -/
lemma selected_eq :
    s.selectIdentityTopCandidates.1 = (s.visited.take topK).map s.selectedScore := by
  have hselected : s.selectIdentityTopCandidates.1 = s.selectFrom [] [] s.sortedScorecards := rfl
  have hvisited : (s.firstVisits.map fun visit => s.selectedScore visit.1).filter eligible =
      s.visited.map s.selectedScore := by
    rw [visited, leaders, List.filter_map, List.filter_map, List.map_map]
    rfl
  rw [hselected, selectFrom_eq [] [] s.sortedScorecards (by decide), List.nil_append, List.map_take,
    ← hvisited]
  rfl

lemma mem_visited :
    b ∈ s.visited ↔ s.Leads b ∧ eligible (s.selectedScore b) = true := by
  rw [visited, List.mem_filter, mem_leaders]

/-- The eligible identities in the order of the loop and in that of the store. -/
lemma visited_perm : s.visited.Perm s.eligibleLeaders := by
  have hnodup : s.leaders.Nodup := List.Nodup.of_map s.identity nodup_identity_leaders
  refine (List.perm_ext_iff_of_nodup (hnodup.filter _) (nodup_scorecards.filter _)).mpr fun b => ?_
  rw [List.mem_filter, List.mem_filter, mem_leaders, decide_eq_true_eq]
  exact ⟨fun hand => ⟨hand.1.1, hand⟩, fun hand => hand.2⟩

lemma visited_pairwise : s.visited.Pairwise fun a b =>
    scoredCandidateSortKey a < scoredCandidateSortKey b :=
  leaders_pairwise.sublist List.filter_sublist

/-- An identity is among those that are selected if few eligible ones come before it. -/
lemma mem_take_visited (hb : b ∈ s.eligibleLeaders) :
    b ∈ s.visited.take topK ↔
      (s.eligibleLeaders.filter fun a => scoredCandidateSortKey a <
        scoredCandidateSortKey b).length < topK := by
  rw [mem_take_iff_of_sorted visited_pairwise (visited_perm.mem_iff.mpr hb),
    (visited_perm.filter _).length_eq]

/-- The scorecard that is selected stands for the identity. -/
lemma represents_selectedScore (hb : s.Leads b) :
    s.Represents (s.identity b) (s.selectedScore b) := by
  refine ⟨b, hb, rfl, ?_⟩
  unfold selectedScore
  cases hcanonical : s.canonicalResumeByIdentityId.lookup (s.identity b) with
  | none =>
    change (s.scorecardsByResumeId.lookup b.resumeId).getD b = b
    rw [mem_scorecards.mp hb.1]
    rfl
  | some r => rfl

/-- Only one scorecard stands for an identity. -/
lemma Represents.eq (hb : s.Leads b) (hi : s.identity b = i)
    (hc : s.Represents i c) : c = s.selectedScore b := by
  obtain ⟨b₁, hb₁, hi₁, rfl⟩ := hc
  obtain ⟨b₂, hb₂, hi₂, hselected⟩ := represents_selectedScore hb
  have hsame : ∀ x y, s.Leads x → s.Leads y → s.identity x = s.identity y →
    x = y := fun x y hx hy hxy =>
    eq_of_sortKey_eq hx.1 hy.1 (le_antisymm (hx.2 y hy.1 hxy.symm) (hy.2 x hx.1 hxy))
  rw [hselected, hi, hsame b₁ b₂ hb₁ hb₂ (hi₁.trans (hi ▸ hi₂.symm))]

variable (s) in
/-- The scorecard that stands for an identity. -/
def representative (i : String) : Option ScoredCandidate :=
  (s.leaders.find? fun b => s.identity b = i).map s.selectedScore

/-- It is the only one. -/
lemma Represents.eq_representative (h : s.Represents i c) :
    s.representative i = some c := by
  obtain ⟨b, hb, hi, -⟩ := id h
  have hfound : (s.leaders.find? fun a => s.identity a = i).isSome :=
    List.find?_isSome.mpr ⟨b, mem_leaders.mpr hb, by simpa using hi⟩
  obtain ⟨a, hfind⟩ := Option.isSome_iff_exists.mp hfound
  have ha : s.identity a = i := by simpa using List.find?_some hfind
  rw [representative, hfind, Represents.eq (mem_leaders.mp (List.mem_of_find?_eq_some hfind)) ha h]
  rfl

lemma map_representative {ids : List String} {cards : List ScoredCandidate}
    (h : List.Forall₂ s.Represents ids cards) : ids.map s.representative = cards.map some := by
  induction h with
  | nil => rfl
  | cons hfirst _ ih => rw [List.map_cons, List.map_cons, hfirst.eq_representative, ih]

/-- If an identity stands in one list of representatives and not in another one of the same
scorecards, then the other list has an identity for its scorecard that the first one lacks. -/
lemma exists_left_out {ids selected : List String} {cards : List ScoredCandidate}
    (hids : ids.Nodup) (hselected : selected.Nodup)
    (hcards : List.Forall₂ s.Represents ids cards)
    (hcards' : List.Forall₂ s.Represents selected cards)
    (hi : i ∈ ids) (hnot : i ∉ selected) (hc : s.Represents i c) :
    ∃ i' ∈ selected, i' ∉ ids ∧ s.Represents i' c := by
  have hmap : ids.map s.representative = selected.map s.representative :=
    (map_representative hcards).trans (map_representative hcards').symm
  obtain ⟨i', hi', hlacks, hsame⟩ := exists_mem_not_mem_of_map_eq hids hselected hmap hi hnot
  obtain ⟨c', -, hc'⟩ := exists_right_of_forall₂ hcards' hi'
  refine ⟨i', hi', hlacks, ?_⟩
  rw [hc'.eq_representative, hc.eq_representative] at hsame
  exact Option.some.inj hsame ▸ hc'

variable (s) in
/-- The identities that are selected. -/
def selectedIds : List String := (s.visited.take topK).map s.identity

lemma selectedIds_nodup : s.selectedIds.Nodup := by
  refine nodup_identity_leaders.sublist (List.Sublist.map s.identity ?_)
  exact (List.take_sublist _ _).trans List.filter_sublist

/-- What is selected stands for the identities. -/
lemma selected_represents :
    List.Forall₂ s.Represents s.selectedIds s.selectIdentityTopCandidates.1 := by
  rw [selected_eq, selectedIds, List.forall₂_map_left_iff, List.forall₂_map_right_iff]
  refine List.forall₂_same.mpr fun b hb => ?_
  exact represents_selectedScore (mem_visited.mp ((List.take_sublist _ _).subset hb)).1

/-- When the ranks agree, what is selected is the top pool. -/
lemma isTopPool_of_ranksAgree (h : s.RanksAgree) :
    s.IsTopPool s.selectedIds s.selectIdentityTopCandidates.1 := by
  have hselected : ∀ b ∈ s.visited.take topK, ∀ b' ∈ s.visited,
      scoredCandidateSortKey b < scoredCandidateSortKey b' →
        scoredCandidateSortKey (s.selectedScore b) ≤
          scoredCandidateSortKey (s.selectedScore b') := by
    intro b hb b' hb' hlt
    have hmem := visited_perm.mem_iff.mp ((List.take_sublist _ _).subset hb)
    exact h b hmem b' (visited_perm.mem_iff.mp hb') hlt ((mem_take_visited hmem).mp hb)
  refine ⟨selectedIds_nodup, selected_represents, ?_, ?_, ?_, ?_⟩
  · intro c hc
    rw [selected_eq] at hc
    obtain ⟨b, hb, rfl⟩ := List.mem_map.mp hc
    exact (mem_visited.mp ((List.take_sublist _ _).subset hb)).2
  · rw [selected_eq, List.length_map]
    exact List.length_take_le _ _
  · rw [selected_eq, List.pairwise_map]
    refine List.Pairwise.imp_of_mem (fun {b b'} hb hb' hlt => ?_)
      (visited_pairwise.sublist (List.take_sublist topK _))
    exact hselected b hb b' ((List.take_sublist _ _).subset hb') hlt
  · rintro i c ⟨b, hb, hi, hc⟩ heligible hnot
    have hcb : c = s.selectedScore b := Represents.eq hb hi ⟨b, hb, hi, hc⟩
    have hvisited : b ∈ s.visited := mem_visited.mpr ⟨hb, hcb ▸ heligible⟩
    have hleft : b ∉ s.visited.take topK := fun hmem => hnot (hi ▸ List.mem_map_of_mem hmem)
    have hdrop : b ∈ s.visited.drop topK := by
      have hsplit : b ∈ s.visited.take topK ++ s.visited.drop topK := by rwa [List.take_append_drop]
      exact (List.mem_append.mp hsplit).resolve_left hleft
    have hlong : topK ≤ s.visited.length := by
      by_contra hshort
      rw [List.drop_eq_nil_of_le (not_le.mp hshort).le] at hdrop
      exact List.not_mem_nil hdrop
    have hbefore : ∀ a ∈ s.visited.take topK,
        scoredCandidateSortKey a < scoredCandidateSortKey b := by
      have hpairwise := visited_pairwise (s := s)
      rw [← List.take_append_drop topK s.visited] at hpairwise
      exact fun a ha => (List.pairwise_append.mp hpairwise).2.2 a ha b hdrop
    rw [selected_eq, List.length_map, List.length_take_of_le hlong]
    refine ⟨rfl, fun card hcard => ?_⟩
    obtain ⟨a, ha, rfl⟩ := List.mem_map.mp hcard
    exact hcb ▸ hselected a ha b hvisited (hbefore a ha)

/-- When what is selected is a top pool, the ranks agree. -/
lemma ranksAgree_of_isTopPool {ids : List String}
    (h : s.IsTopPool ids s.selectIdentityTopCandidates.1) : s.RanksAgree := by
  intro b hb b' hb' hlt hfew
  have hbtake := (mem_take_visited hb).mpr hfew
  have hleads' := (mem_visited.mp (visited_perm.mem_iff.mpr hb')).1
  have heligible' := (mem_visited.mp (visited_perm.mem_iff.mpr hb')).2
  have hbmem : s.selectedScore b ∈ s.selectIdentityTopCandidates.1 := by
    rw [selected_eq]
    exact List.mem_map_of_mem hbtake
  by_cases hids : s.identity b' ∈ ids
  · by_cases htake : b' ∈ s.visited.take topK
    · -- Both are selected, and the one that the loop comes to first is the first one.
      have hordered := h.ordered
      rw [selected_eq, List.pairwise_map] at hordered
      exact rel_of_lt_of_pairwise (visited_pairwise.sublist (List.take_sublist topK _)) hordered
        hbtake htake hlt
    · -- Another identity is selected in its place, which the pool leaves out.
      have hnot : s.identity b' ∉ s.selectedIds := by
        intro hmem
        obtain ⟨a, ha, hidentity⟩ := List.mem_map.mp hmem
        have hleads := (mem_visited.mp ((List.take_sublist _ _).subset ha)).1
        have heq : a = b' := eq_of_sortKey_eq hleads.1 hleads'.1
          (le_antisymm (hleads.2 b' hleads'.1 hidentity.symm) (hleads'.2 a hleads.1 hidentity))
        exact htake (heq ▸ ha)
      obtain ⟨i, -, hout, hsame⟩ := exists_left_out h.identities selectedIds_nodup h.represents
        selected_represents hids hnot (represents_selectedScore hleads')
      exact (h.maximal i _ hsame heligible' hout).2 _ hbmem
  · exact (h.maximal _ _ (represents_selectedScore hleads') heligible' hids).2 _ hbmem

end PoolRunState

open PoolRunState

/-- The scorecards that are returned are the top pool of the run, and the ones that are recorded,
exactly if the identities rank by the scorecards that stand for them as they do by their best
ones. -/
theorem topPool_iff (s : PoolRunState) :
    ((∃ ids, s.IsTopPool ids s.selectIdentityTopCandidates.1) ∧
        s.selectIdentityTopCandidates.2.topPoolIds =
          s.selectIdentityTopCandidates.1.map ScoredCandidate.resumeId) ↔
      s.RanksAgree :=
  ⟨fun ⟨⟨_, hpool⟩, _⟩ => ranksAgree_of_isTopPool hpool,
    fun hagree => ⟨⟨_, isTopPool_of_ranksAgree hagree⟩, rfl⟩⟩

/-! ### An identity whose canonical resume ranks lower -/

section LowerCanonical

/-- A fitting scorecard. -/
def fitCard (resumeId : String) (score : Score) : ScoredCandidate where
  resumeId := resumeId
  fitBucket := .fit
  overallScore := score
  mustHaveMatchScore := score

/-- One identity has a resume with 95 points and its canonical one with 60, another one has a resume
with 80. -/
def lowerCanonicalRun : PoolRunState where
  scorecardsByResumeId :=
    .insert "first" (fitCard "first" 95) (.insert "canonical" (fitCard "canonical" 60)
      (.insert "other" (fitCard "other" 80) ∅))
  keyed := by
    intro id card hlookup
    rw [Dict.lookup_insert_ite, Dict.lookup_insert_ite, Dict.lookup_insert_ite] at hlookup
    split_ifs at hlookup with hfirst hcanonical hother
    · cases hlookup
      exact hfirst.symm
    · cases hlookup
      exact hcanonical.symm
    · cases hlookup
      exact hother.symm
    · cases hlookup
  candidateIdentityByResumeId :=
    .insert "first" "one" (.insert "canonical" "one" (.insert "other" "two" ∅))
  canonicalResumeByIdentityId := .insert "one" "canonical" (.insert "two" "other" ∅)
  topPoolIds := []

/-- The one with 60 points is returned before the one with 80. -/
theorem lowerCanonicalRun_unordered :
    lowerCanonicalRun.selectIdentityTopCandidates.1.map ScoredCandidate.resumeId =
      ["canonical", "other"] ∧
      ¬ ∃ ids, lowerCanonicalRun.IsTopPool ids lowerCanonicalRun.selectIdentityTopCandidates.1 := by
  refine ⟨by decide +kernel, fun ⟨ids, hpool⟩ => ?_⟩
  have hunordered : ¬ lowerCanonicalRun.selectIdentityTopCandidates.1.Pairwise
      fun a b => scoredCandidateSortKey a ≤ scoredCandidateSortKey b := by decide +kernel
  exact hunordered hpool.ordered

end LowerCanonical

end SeekTalent.Rounds
