import CryptoTrader.Engine.Regime
import CryptoTrader.Lib.Dict
import CryptoTrader.Lib.FirstBest

/-!
# The strategy router

`StrategyRouter` of `strategies/router.py`: the playbooks a regime allows are
evaluated, their scores fused with the advice of the model and ranked with its bias,
and the best ranked is returned if its unbiased score reaches the threshold.  Scores
are exact.
-/

namespace CryptoTrader

open CryptoTrader.Lib

/-! ## What the router is given -/

/-- A setup, as far as the router reads it. -/
structure RoutedSetup where
  score : ℚ
  side : PositionSide
  deriving DecidableEq

/-- `recommended_bias`: `"any"` or any other text, `"none"`, `"long_only"` and
`"short_only"`. -/
inductive RecommendedBias where
  | any
  | noEntries
  | longOnly
  | shortOnly
  deriving DecidableEq

/-- `LLMAdvice`, as far as the router reads it. -/
structure RouterAdvice where
  recommendedBias : RecommendedBias
  deriving DecidableEq

/-- The result of `compute_final_score`. -/
structure FusedScore where
  finalScore : ℚ
  llmWeight : ℚ
  explanation : String
  deriving DecidableEq

/-- An advisor: its last advice, and how it fuses a technical score with some. -/
structure Advisor where
  getLastAdvice : Option RouterAdvice
  computeFinalScore : (technicalScore : ℚ) → (regime : String) → (regimeScore : ℚ) →
    RouterAdvice → FusedScore

/-- What comes of calling an evaluator; an empty setup is none. -/
abbrev EvaluatorOutcome := Except PyErr (Option RoutedSetup)

/-- A candidate, in the order of its tuple. -/
structure RouterCandidate where
  rankScore : ℚ
  finalScore : ℚ
  llmWeight : ℚ
  explanation : String
  playbookKey : String
  setup : RoutedSetup
  techScore : ℚ
  deriving DecidableEq

/-- `RouterResult`. -/
structure RouterResult where
  setup : RoutedSetup
  finalScore : ℚ
  techScore : ℚ
  llmWeight : ℚ
  explanation : String
  playbookKey : String
  advice : Option RouterAdvice
  dynamicThreshold : ℚ
  deriving DecidableEq

/-! ## The router -/

/-- `_bias_factor`. -/
def biasFactor (side : PositionSide) (advice : Option RouterAdvice) : ℚ :=
  match advice with
  | none => 1
  | some advice =>
      match advice.recommendedBias, side with
      | .noEntries, _ => 1 / 2
      | .longOnly, .short => 6 / 10
      | .shortOnly, .long => 6 / 10
      | _, _ => 1

/-- `StrategyRouter`, with its map. -/
structure StrategyRouter where
  map : Dict ExtendedRegime (List String) := Dict.empty

/-- `_FALLBACK_ALLOWED`. -/
def StrategyRouter.fallbackAllowed : List String := ["playbook_ares", "playbook_a", "playbook_b"]

/-- The arguments of `select`. -/
structure SelectRequest where
  regimeCtx : Option RegimeContext
  playbookEvaluators : Dict String EvaluatorOutcome
  advisor : Option Advisor
  dynamicThreshold : ℚ
  regime : String
  regimeScore : ℚ
  fallbackAllowed : Option (List String) := none

namespace StrategyRouter

variable (router : StrategyRouter) (request : SelectRequest)

/-- `_allowed_playbooks`. -/
def allowedPlaybooks : List String :=
  let fallback := request.fallbackAllowed.getD fallbackAllowed
  match request.regimeCtx with
  | none => fallback
  | some ctx => (router.map.get? ctx.extended).getD fallback

/-- `advice` of `select`. -/
def advice : Option RouterAdvice := request.advisor.bind Advisor.getLastAdvice

/-- The score of a setup, fused with the advice if there is any. -/
def fuse (techScore : ℚ) : FusedScore :=
  match request.advisor, advice request with
  | some advisor, some advice =>
      advisor.computeFinalScore techScore request.regime request.regimeScore advice
  | _, _ => ⟨techScore, 0, "LLM unavailable"⟩

/-- The candidate of a playbook: none without an evaluator, if it raises or if it has
no setup. -/
def candidateOf (key : String) : Option RouterCandidate :=
  match request.playbookEvaluators.get? key with
  | some (.ok (some setup)) =>
      let fused := fuse request setup.score
      some
        { rankScore := fused.finalScore * biasFactor setup.side (advice request)
          finalScore := fused.finalScore
          llmWeight := fused.llmWeight
          explanation := fused.explanation
          playbookKey := key
          setup := setup
          techScore := setup.score }
  | _ => none

/-- `_build_candidates`. -/
def buildCandidates : List RouterCandidate :=
  (router.allowedPlaybooks request).filterMap (candidateOf request)

/-- The result of a candidate. -/
def resultOf (c : RouterCandidate) : RouterResult :=
  { setup := c.setup
    finalScore := c.finalScore
    techScore := c.techScore
    llmWeight := c.llmWeight
    explanation := c.explanation
    playbookKey := c.playbookKey
    advice := advice request
    dynamicThreshold := request.dynamicThreshold }

/-- `select`. -/
def select : Option RouterResult :=
  match (byFallingKey RouterCandidate.rankScore (router.buildCandidates request)).head? with
  | none => none
  | some winner =>
      if winner.finalScore < request.dynamicThreshold then none
      else some (resultOf request winner)

/-! ## The right selection -/

/-- The candidate's score reaches the threshold. -/
def Reaches (c : RouterCandidate) : Prop := request.dynamicThreshold ≤ c.finalScore

/-- Nothing is returned exactly if no candidate reaches the threshold, and what is
returned is of the one that leads those that do. -/
structure SelectsBest : Prop where
  none_iff : router.select request = none ↔
    ∀ c ∈ router.buildCandidates request, ¬ Reaches request c
  best : ∀ result, router.select request = some result →
    ∃ c, Leads (Reaches request) RouterCandidate.rankScore (router.buildCandidates request) c ∧
      result = resultOf request c

/-- A candidate below the threshold leads all the others, one of which reaches it. -/
def Shadowed : Prop :=
  (∃ c, LeadsAll RouterCandidate.rankScore (router.buildCandidates request) c ∧
      ¬ Reaches request c) ∧
    ∃ c ∈ router.buildCandidates request, Reaches request c

variable {router request} {c : RouterCandidate}

/-- What is returned is decided by the one candidate that leads. -/
theorem select_of_leads (h : LeadsAll RouterCandidate.rankScore (router.buildCandidates request) c) :
    router.select request =
      if c.finalScore < request.dynamicThreshold then none else some (resultOf request c) := by
  unfold select
  cases hhead : (byFallingKey RouterCandidate.rankScore (router.buildCandidates request)).head? with
  | none =>
      rw [head_byFallingKey_eq_none] at hhead
      have hmem := h.mem
      rw [hhead] at hmem
      cases hmem
  | some winner =>
      rw [(leadsAll_of_head hhead).unique h]

theorem select_of_empty (h : router.buildCandidates request = []) : router.select request = none := by
  unfold select
  rw [head_byFallingKey_eq_none.mpr h]

/-- The best is selected exactly if no leader below the threshold shadows a candidate
that reaches it. -/
theorem selectsBest_iff (router : StrategyRouter) (request : SelectRequest) :
    router.SelectsBest request ↔ ¬ router.Shadowed request := by
  cases hhead : (byFallingKey RouterCandidate.rankScore (router.buildCandidates request)).head? with
  | none =>
      rw [head_byFallingKey_eq_none] at hhead
      have hnone := select_of_empty hhead
      refine iff_of_true ⟨?_, ?_⟩ ?_
      · simp [hnone, hhead]
      · intro result hresult
        cases hnone.symm.trans hresult
      · rintro ⟨-, d, hd, -⟩
        rw [hhead] at hd
        cases hd
  | some c =>
      have hleads := leadsAll_of_head hhead
      have hselect := select_of_leads hleads
      by_cases hbelow : c.finalScore < request.dynamicThreshold
      · rw [if_pos hbelow] at hselect
        have hmisses : ¬ Reaches request c := not_le.mpr hbelow
        constructor
        · rintro hbest ⟨-, d, hd, hreaches⟩
          exact hbest.none_iff.mp hselect d hd hreaches
        · intro hshadowed
          refine ⟨iff_of_true hselect (fun d hd hreaches => ?_), fun result hresult => ?_⟩
          · exact hshadowed ⟨⟨c, hleads, hmisses⟩, d, hd, hreaches⟩
          · cases hselect.symm.trans hresult
      · rw [if_neg hbelow] at hselect
        have hreaches : Reaches request c := not_lt.mp hbelow
        refine iff_of_true ⟨iff_of_false ?_ ?_, fun result hresult => ?_⟩ ?_
        · simp [hselect]
        · exact fun hnone => hnone c hleads.mem hreaches
        · exact ⟨c, hleads.of_all hreaches, Option.some.inj (hresult.symm.trans hselect)⟩
        · rintro ⟨⟨d, hd, hmisses⟩, -⟩
          rw [hd.unique hleads] at hmisses
          exact hmisses hreaches

/-- Two playbooks, of which the bias is against the better one. -/
def biasedRequest : SelectRequest :=
  { regimeCtx := none
    playbookEvaluators := (Dict.empty.set "playbook_a" (.ok (some ⟨7 / 10, .long⟩))).set
      "playbook_b" (.ok (some ⟨8 / 10, .short⟩))
    advisor := some
      { getLastAdvice := some ⟨.longOnly⟩
        computeFinalScore := fun score _ _ _ => ⟨score, 0, "LLM bypassed"⟩ }
    dynamicThreshold := 75 / 100
    regime := "TRENDING_UP"
    regimeScore := 9 / 10 }

/-- The short scores 0.8 and reaches the threshold; the long is ranked before it with
0.7 and is blocked. -/
theorem biased_shadows :
    ¬ ∀ (router : StrategyRouter) (request : SelectRequest), router.SelectsBest request := by
  intro h
  have hselect : StrategyRouter.select {} biasedRequest = none := by decide +kernel
  have hreaches : ∃ c ∈ StrategyRouter.buildCandidates {} biasedRequest,
      biasedRequest.dynamicThreshold ≤ c.finalScore := by decide +kernel
  obtain ⟨c, hc, hreach⟩ := hreaches
  exact (h {} biasedRequest).none_iff.mp hselect c hc hreach

end StrategyRouter

end CryptoTrader
