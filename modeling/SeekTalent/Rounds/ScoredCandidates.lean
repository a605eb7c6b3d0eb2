import Mathlib.Algebra.Ring.Nat
import Mathlib.Data.Prod.Lex
import Mathlib.Data.String.Basic

/-!
# Scorecards

`ScoredCandidate` of `seektalent/models.py`, as far as the rounds of a run read it, and the order in
which scorecards are ranked.
-/

namespace SeekTalent.Rounds

/-- `FitBucket`. -/
inductive FitBucket
  | fit
  | notFit
  deriving DecidableEq, Repr

/-- An `int` with `ge=0, le=100`. -/
abbrev Score := Fin 101

instance instNeZeroScore : NeZero 101 := ⟨by decide⟩

/-- `ScoredCandidate`. -/
structure ScoredCandidate where
  resumeId : String
  fitBucket : FitBucket
  overallScore : Score
  mustHaveMatchScore : Score
  riskScore : Option Score := none
  strengths : List String := []
  weaknesses : List String := []
  deriving DecidableEq, Repr

/-- The ranks of scorecards. -/
abbrev ScoredCandidateKey := Nat ×ₗ Int ×ₗ Int ×ₗ Int ×ₗ String

/-- `scored_candidate_sort_key`. -/
def scoredCandidateSortKey (candidate : ScoredCandidate) : ScoredCandidateKey :=
  toLex (if candidate.fitBucket = .fit then 0 else 1,
    toLex (-(candidate.overallScore.val : Int),
      toLex (-(candidate.mustHaveMatchScore.val : Int),
        toLex ((candidate.riskScore.elim 0 fun score => (score.val : Int)), candidate.resumeId))))

/-- `RECOMMENDATION_MIN_SCORE`. -/
def recommendationMinScore : Nat := 60

/-- `is_recommendation_eligible`. -/
def isRecommendationEligible (score : Score) (fitBucket : FitBucket) : Bool :=
  fitBucket = .fit ∧ recommendationMinScore ≤ score.val

/-- Scorecards of one rank are of one resume. -/
lemma resumeId_of_sortKey_eq {a b : ScoredCandidate}
    (h : scoredCandidateSortKey a = scoredCandidateSortKey b) : a.resumeId = b.resumeId := by
  simp only [scoredCandidateSortKey, EmbeddingLike.apply_eq_iff_eq, Prod.mk.injEq] at h
  exact h.2.2.2.2

end SeekTalent.Rounds
