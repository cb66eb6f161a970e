import CryptoTrader.Engine.Entry
import CryptoTrader.Lib.Latest
import CryptoTrader.Selection.Metrics

/-!
# Choosing the champion of a symbol

`selection/selector.py`.  Every candidate strategy is backtested and scored inside a
`try`; the candidates that clear the gates are sorted by their expectancy and the
first of them wins.
-/

namespace CryptoTrader.Selection

open CryptoTrader.Lib CryptoTrader.Backtest

/-! ## Scoring -/

/-- `GATES`. -/
structure Gates where
  minTrades : ℕ := 20
  minProfitFactor : ℚ := 11 / 10
  minExpectancyR : ℚ := 0
  deriving DecidableEq

def gates : Gates := {}

structure OosMetrics where
  oosTrades : ℕ
  oosWinRate : ℚ
  oosExpectancyR : ℚ
  oosPf : ℚ
  deriving DecidableEq

/-- `round(x, 4)`, which `None` does not define. -/
def roundFour : Option ℚ → Except String ℚ
  | some x => .ok (roundPlaces 4 x)
  | none => .error "type NoneType doesn't define __round__ method"

/-- `_metrics`. -/
def oosMetrics (records : List Backtest.Trade) : Except String OosMetrics :=
  let m := computeMetrics records
  (roundFour m.profitFactor).map (fun pf =>
    { oosTrades := m.totalTrades
      oosWinRate := roundPlaces 4 m.winRate
      oosExpectancyR := roundPlaces 4 m.expectancyR
      oosPf := pf })

/-! ## Candidates -/

/-- One `try` of `_candidates`: a strategy, its parameters, and what its backtest
returns or raises. -/
structure Attempt where
  mode : StrategyMode
  params : List (String × ℚ)
  run : Except String (List Backtest.Trade)
  deriving DecidableEq

/-- What `_candidates` yields for an attempt. -/
structure Candidate where
  mode : StrategyMode
  params : List (String × ℚ)
  metrics : OosMetrics
  deriving DecidableEq

namespace Attempt

/-- The trades of an attempt; a backtest that raises has none. -/
def trades (a : Attempt) : List Backtest.Trade :=
  match a.run with
  | .ok records => records
  | .error _ => []

/-- An attempt that raises, in its backtest or when it is scored, is logged and
dropped. -/
def scored (a : Attempt) : Option Candidate :=
  match a.run.bind oosMetrics with
  | .ok metrics => some { mode := a.mode, params := a.params, metrics := metrics }
  | .error _ => none

end Attempt

/-- The candidates of a symbol, each with a name of its own. -/
structure Contest where
  symbol : String
  attempts : List Attempt
  distinct : (attempts.map (fun a => (a.mode, a.params))).Nodup

/-- What the backtests of a symbol return or raise; those on five-minute bars are
left out without a frame. -/
structure Backtests where
  meanReversion : Except String (List Backtest.Trade)
  supertrend2 : Except String (List Backtest.Trade)
  smc : Except String (List Backtest.Trade)
  liquiditySweep : ℚ → Except String (List Backtest.Trade)
  fiveMinutes : Bool
  mtfAlignment : ℚ → Except String (List Backtest.Trade)
  smc5c : Except String (List Backtest.Trade)

/-- The `try` blocks of `_candidates`, in their order. -/
def Backtests.attempts (b : Backtests) : List Attempt :=
  [ ⟨.meanReversion, [], b.meanReversion⟩,
    ⟨.supertrend2, [], b.supertrend2⟩,
    ⟨.smc, [], b.smc⟩,
    ⟨.liquiditySweep, [("lsw_tp_r", 2)], b.liquiditySweep 2⟩,
    ⟨.liquiditySweep, [("lsw_tp_r", 5 / 2)], b.liquiditySweep (5 / 2)⟩,
    ⟨.liquiditySweep, [("lsw_tp_r", 3)], b.liquiditySweep 3⟩ ] ++
  if b.fiveMinutes then
    [ ⟨.mtfAlignment, [("mta_tp_r", 5 / 2)], b.mtfAlignment (5 / 2)⟩,
      ⟨.mtfAlignment, [("mta_tp_r", 3)], b.mtfAlignment 3⟩,
      ⟨.smc5c, [], b.smc5c⟩ ]
  else []

def Backtests.contest (b : Backtests) (symbol : String) : Contest :=
  { symbol := symbol
    attempts := b.attempts
    distinct := by
      unfold Backtests.attempts
      split
      · norm_num
        decide
      · norm_num
        decide }

/-! ## Selection -/

/-- The gates of `select_symbol`. -/
def Candidate.passes (c : Candidate) : Bool :=
  gates.minTrades ≤ c.metrics.oosTrades &&
    gates.minProfitFactor ≤ c.metrics.oosPf &&
    gates.minExpectancyR < c.metrics.oosExpectancyR

/-- The dictionary `select_symbol` returns. -/
structure SymbolSelection where
  symbol : String
  candidates : List Candidate
  winner : Option Candidate

namespace Contest

variable (k : Contest)

/-- `_candidates`. -/
def candidates : List Candidate := k.attempts.filterMap Attempt.scored

def selectSymbol : SymbolSelection :=
  let passing := k.candidates.filter Candidate.passes
  let ranked := passing.insertionSort
    (fun c d => d.metrics.oosExpectancyR ≤ c.metrics.oosExpectancyR)
  { symbol := k.symbol, candidates := k.candidates, winner := ranked.head? }

end Contest

/-! ## What the champion is to be -/

/-- A list that clears the gates net of fees; without losing trades it clears the
one on the profit factor. -/
structure Qualifies (records : List Backtest.Trade) : Prop where
  enough : gates.minTrades ≤ records.length
  profitable : gates.minProfitFactor * grossLoss records ≤ grossWin records
  positive : gates.minExpectancyR < netExpectancyR records

/-- A candidate that qualifies, and none that does has a higher mean net R. -/
structure Contest.NetBest (k : Contest) (a : Attempt) : Prop where
  mem : a ∈ k.attempts
  qualifies : Qualifies a.trades
  highest : ∀ b ∈ k.attempts, Qualifies b.trades →
    netExpectancyR b.trades ≤ netExpectancyR a.trades

/-- No candidate that qualifies is dropped, the winner is the best of them, and there
is no winner only where none qualifies. -/
structure Contest.SelectsNet (k : Contest) : Prop where
  kept : ∀ a ∈ k.attempts, Qualifies a.trades → ∃ c ∈ k.candidates, a.scored = some c
  wins : ∀ c, k.selectSymbol.winner = some c → ∃ a, k.NetBest a ∧ a.scored = some c
  found : k.selectSymbol.winner = none → ∀ a ∈ k.attempts, ¬ Qualifies a.trades

/-! ## What it is -/

/-- A list the gates let through: it has a losing trade, and its figures, gross of fees
where the expectancy is concerned, clear the gates up to their rounding. -/
structure Shortlisted (records : List Backtest.Trade) : Prop where
  enough : gates.minTrades ≤ records.length
  losing : grossLoss records ≠ 0
  profitable : 109995 / 100000 * grossLoss records ≤ grossWin records
  positive : 1 / 20000 < weightedR records

theorem shortlisted_iff {records : List Backtest.Trade} : Shortlisted records ↔
    gates.minTrades ≤ records.length ∧ grossLoss records ≠ 0 ∧
      109995 / 100000 * grossLoss records ≤ grossWin records ∧
      1 / 20000 < weightedR records :=
  ⟨fun h => ⟨h.enough, h.losing, h.profitable, h.positive⟩, fun h => ⟨h.1, h.2.1, h.2.2.1, h.2.2.2⟩⟩

instance (records : List Backtest.Trade) : Decidable (Shortlisted records) :=
  decidable_of_iff' _ shortlisted_iff

namespace Attempt

/-- What an attempt is scored as when its list has a losing trade. -/
def entry (a : Attempt) : Candidate :=
  { mode := a.mode
    params := a.params
    metrics :=
      { oosTrades := a.trades.length
        oosWinRate := roundPlaces 4 (winRate a.trades)
        oosExpectancyR := expectancyR a.trades
        oosPf := roundPlaces 4 ((profitFactor a.trades).getD 0) } }

variable {a : Attempt}

/-- An attempt is scored if its backtest returns and its list has a losing trade. -/
theorem scored_eq_some_iff {c : Candidate} : a.scored = some c ↔
    a.run = .ok a.trades ∧ profitFactor a.trades ≠ none ∧ a.entry = c := by
  cases hrun : a.run with
  | error e => simp [scored, hrun, Except.bind]
  | ok records =>
      have htrades : a.trades = records := by simp [trades, hrun]
      cases hpf : profitFactor records with
      | none => simp [scored, hrun, Except.bind, oosMetrics, computeMetrics, roundFour, htrades, hpf,
          Except.map]
      | some pf => simp [scored, hrun, Except.bind, oosMetrics, computeMetrics, roundFour, htrades,
          hpf, Except.map, entry, expectancyR]

theorem run_eq_ok (h : a.trades ≠ []) : a.run = .ok a.trades := by
  cases hrun : a.run with
  | error e => simp [trades, hrun] at h
  | ok records => simp [trades, hrun]

theorem scored_of_enough (henough : gates.minTrades ≤ a.trades.length)
    (hlosing : grossLoss a.trades ≠ 0) : a.scored = some a.entry := by
  have hne : a.trades ≠ [] := by
    intro hnil
    rw [hnil] at henough
    exact absurd henough (by decide)
  exact scored_eq_some_iff.mpr ⟨run_eq_ok hne, mt profitFactor_eq_none_iff.mp hlosing, rfl⟩

/-- The gates on the figures of an attempt. -/
theorem passes_entry_iff (hpf : profitFactor a.trades ≠ none) :
    a.entry.passes ↔ Shortlisted a.trades := by
  obtain ⟨pf, hpf⟩ := Option.ne_none_iff_exists'.mp hpf
  have hrounded : roundPlaces 4 pf = pf := by
    unfold profitFactor at hpf
    split_ifs at hpf
    rw [← Option.some.inj hpf, roundPlaces_roundPlaces]
  have hgate := @le_profitFactor_iff a.trades
  simp only [hpf, Option.some.injEq, exists_eq_left'] at hgate
  rw [shortlisted_iff, ← and_assoc (a := grossLoss a.trades ≠ 0), ← hgate, ← expectancyR_pos_iff]
  simp [Candidate.passes, entry, hpf, hrounded, gates, and_assoc]

/-- What the gates keep of an attempt. -/
theorem filter_scored (a : Attempt) : a.scored.filter Candidate.passes =
    if Shortlisted a.trades then some a.entry else none := by
  by_cases hlist : Shortlisted a.trades
  · rw [if_pos hlist, scored_of_enough hlist.enough hlist.losing]
    have hpf := mt profitFactor_eq_none_iff.mp hlist.losing
    simp [(passes_entry_iff hpf).mpr hlist]
  · rw [if_neg hlist]
    cases hscored : a.scored with
    | none => rfl
    | some c =>
        obtain ⟨_, hpf, rfl⟩ := scored_eq_some_iff.mp hscored
        simp [mt (passes_entry_iff hpf).mp hlist]

end Attempt

/-! ## The winner -/

namespace Contest

variable (k : Contest)

/-- The attempts the gates let through. -/
def shortlist : List Attempt := k.attempts.filter (fun a => Shortlisted a.trades)

theorem filter_candidates :
    k.candidates.filter Candidate.passes = k.shortlist.map Attempt.entry := by
  unfold candidates shortlist
  rw [List.filter_filterMap, ← List.filterMap_eq_map, List.filterMap_filter]
  congr 1
  funext a
  simpa using a.filter_scored

/-- The winner is the first of the shortlist with the highest rounded expectancy. -/
theorem winner_eq : k.selectSymbol.winner =
    (k.shortlist.argmax (fun a => expectancyR a.trades)).map Attempt.entry := by
  unfold selectSymbol
  rw [filter_candidates]
  exact (head?_insertionSort_desc (fun c : Candidate => c.metrics.oosExpectancyR) _).trans
    (argmax_map _ Attempt.entry _)

/-- `b` is ranked before `a`: by a higher rounded expectancy, or the same and an earlier
place. -/
def Outranks (b a : Attempt) : Prop :=
  expectancyR a.trades < expectancyR b.trades ∨
    expectancyR a.trades = expectancyR b.trades ∧ k.shortlist.idxOf b < k.shortlist.idxOf a

/-- When the shortlist tells the candidates apart as their net R does: what qualifies has
a losing trade, the shortlist is not empty if anything qualifies, and whoever is on it
without being the best is outranked by one that is. -/
structure Telling : Prop where
  losing : ∀ a ∈ k.attempts, Qualifies a.trades → grossLoss a.trades ≠ 0
  nonempty : (∃ a ∈ k.attempts, Qualifies a.trades) → k.shortlist ≠ []
  outranked : ∀ a ∈ k.shortlist, ¬ k.NetBest a →
    ∃ b ∈ k.shortlist, k.NetBest b ∧ k.Outranks b a

variable {k} {a b : Attempt}

theorem mem_shortlist : a ∈ k.shortlist ↔ a ∈ k.attempts ∧ Shortlisted a.trades := by
  simp [shortlist]

/-- Candidates are told apart by their names. -/
theorem eq_of_entry (ha : a ∈ k.attempts) (hb : b ∈ k.attempts) (h : a.entry = b.entry) :
    a = b := by
  have hname : (a.mode, a.params) = (b.mode, b.params) := by
    rw [Prod.mk.injEq]
    exact ⟨congrArg Candidate.mode h, congrArg Candidate.params h⟩
  exact List.inj_on_of_nodup_map k.distinct ha hb hname

theorem SelectsNet.telling (h : k.SelectsNet) : k.Telling where
  losing a ha hqualifies := by
    obtain ⟨c, _, hc⟩ := h.kept a ha hqualifies
    exact mt profitFactor_eq_none_iff.mpr (Attempt.scored_eq_some_iff.mp hc).2.1
  nonempty := by
    rintro ⟨a, ha, hqualifies⟩ hempty
    have hnone : k.selectSymbol.winner = none := by simp [winner_eq, hempty]
    exact h.found hnone a ha hqualifies
  outranked a ha hbest := by
    obtain ⟨w, hw⟩ := Option.ne_none_iff_exists'.mp
      (mt List.argmax_eq_none.mp (List.ne_nil_of_mem ha) :
        k.shortlist.argmax (fun a => expectancyR a.trades) ≠ none)
    obtain ⟨hmem, hmax, hfirst⟩ := List.mem_argmax_iff.mp hw
    obtain ⟨b, hb, hscored⟩ := h.wins w.entry (by rw [winner_eq, hw]; rfl)
    obtain rfl : b = w :=
      eq_of_entry hb.mem (mem_shortlist.mp hmem).1 (Attempt.scored_eq_some_iff.mp hscored).2.2
    refine ⟨b, hmem, hb, ?_⟩
    rcases (hmax a ha).lt_or_eq with hlt | heq
    · exact .inl hlt
    · have hne : k.shortlist.idxOf b ≠ k.shortlist.idxOf a := by
        intro hsame
        exact hbest ((List.idxOf_inj hmem).mp hsame ▸ hb)
      exact .inr ⟨heq, lt_of_le_of_ne (hfirst a ha heq.ge) hne⟩

theorem Telling.selectsNet (h : k.Telling) : k.SelectsNet where
  kept a ha hqualifies := by
    have hscored := Attempt.scored_of_enough hqualifies.enough (h.losing a ha hqualifies)
    exact ⟨a.entry, List.mem_filterMap.mpr ⟨a, ha, hscored⟩, hscored⟩
  wins c hc := by
    rw [winner_eq, Option.map_eq_some_iff] at hc
    obtain ⟨w, hw, rfl⟩ := hc
    obtain ⟨hmem, hmax, hfirst⟩ := List.mem_argmax_iff.mp hw
    have hlist := (mem_shortlist.mp hmem).2
    refine ⟨w, ?_, Attempt.scored_of_enough hlist.enough hlist.losing⟩
    by_contra hbest
    obtain ⟨b, hb, _, hlt | ⟨heq, hbefore⟩⟩ := h.outranked w hmem hbest
    · exact (hmax b hb).not_gt hlt
    · exact (hfirst b hb heq.le).not_gt hbefore
  found hnone a ha hqualifies := by
    rw [winner_eq, Option.map_eq_none_iff, List.argmax_eq_none] at hnone
    exact h.nonempty ⟨a, ha, hqualifies⟩ hnone

/-- A long trade from 100 with a stop `risk` below, closed after `gain`. -/
def demoTrade (risk gain : ℚ) : Backtest.Trade :=
  Entry.record { idx := 0, side := .long, price := 100, sl := 100 - risk, tp := none, risk := risk }
    {} [] { idx := 1, price := 100 + gain, reason := .takeProfit }

/-- Twelve targets at `ratio` and eight stops, `risk` away. -/
def demoList (risk ratio : ℚ) : List Backtest.Trade :=
  List.replicate 12 (demoTrade risk (ratio * risk)) ++ List.replicate 8 (demoTrade risk (-risk))

/-- Only the liquidity sweep trades, and it never loses. -/
def demoLossless : Backtests where
  meanReversion := .ok []
  supertrend2 := .ok []
  smc := .ok []
  liquiditySweep _ := .ok (List.replicate 20 (demoTrade 2 5))
  fiveMinutes := false
  mtfAlignment _ := .ok []
  smc5c := .ok []

/-- The sweep has stops a quarter of a percent away, where fees are half the risk; `smc`
has them at two percent. -/
def demoTight : Backtests where
  meanReversion := .ok []
  supertrend2 := .ok []
  smc := .ok (demoList 2 (5 / 2))
  liquiditySweep ratio := .ok (demoList (1 / 4) ratio)
  fiveMinutes := false
  mtfAlignment _ := .ok []
  smc5c := .ok []

theorem qualifies_iff {records : List Backtest.Trade} : Qualifies records ↔
    gates.minTrades ≤ records.length ∧
      gates.minProfitFactor * grossLoss records ≤ grossWin records ∧
      gates.minExpectancyR < netExpectancyR records :=
  ⟨fun h => ⟨h.enough, h.profitable, h.positive⟩, fun h => ⟨h.1, h.2.1, h.2.2⟩⟩

instance (records : List Backtest.Trade) : Decidable (Qualifies records) :=
  decidable_of_iff' _ qualifies_iff

end Contest

end CryptoTrader.Selection
