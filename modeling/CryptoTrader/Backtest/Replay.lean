import CryptoTrader.Backtest.Frames

/-!
# Bar-by-bar replay

The loop the engines of `backtest/` share: decide at a bar, walk forward to the
exit, record the trade, go on after the exit bar.  What differs is the decision
and what else closes a position, `Replay.decide` and `Replay.exitOn`.
-/

namespace CryptoTrader.Backtest

open CryptoTrader.Lib

/-- A position a decision opens: the bar, the price, the levels and the risk
per unit. -/
structure Entry where
  idx : ℕ
  side : PositionSide
  price : ℚ
  sl : ℚ
  tp : Option ℚ
  risk : ℚ
  deriving DecidableEq

/-- What an engine does at a bar: go on, `break`, or open a position. -/
inductive Decision where
  | skip
  | stop
  | enter (e : Entry)
  deriving DecidableEq

/-- Side, entry, stop and target of a `setup` dictionary. -/
structure Signal where
  side : PositionSide
  entry : ℚ
  sl : ℚ
  tp : ℚ
  deriving DecidableEq

/-- What a decision to open a position says. -/
def Decision.signal : Decision → Option Signal
  | .enter e => e.tp.map (fun tp => { side := e.side, entry := e.price, sl := e.sl, tp := tp })
  | _ => none

inductive ExitReason where
  | takeProfit
  | stopLoss
  | liquidation
  | signal
  | timeStop
  deriving DecidableEq

structure Exit where
  idx : ℕ
  price : ℚ
  reason : ExitReason
  deriving DecidableEq

/-- `TradeOutcomeRecord`, less the fields that are the same for all trades of a
run. -/
structure Trade where
  entry : Entry
  exit : Exit
  openedAt : ℤ
  closedAt : ℤ
  realizedPnl : ℚ
  pnlR : Option ℚ
  deriving DecidableEq

/-- The parameters of a fill model. -/
structure FillModel where
  takerFee : ℚ := 59 / 100000
  leverage : ℕ := 1
  maxHoldBars : ℕ := 0

/-- `1.0 / max(leverage, 1)`. -/
def FillModel.liqFrac (m : FillModel) : ℚ := 1 / (max m.leverage 1 : ℕ)

section Fills

variable (e : Entry) (m : FillModel) (bar : Candle)

/-- The target a bar has reached. -/
def Entry.reached : Option ℚ :=
  match e.side with
  | .long => e.tp.filter (fun tp => tp ≤ bar.high)
  | .short => e.tp.filter (fun tp => bar.low ≤ tp)

/-- A bar has gone through the stop. -/
def Entry.stopped : Bool :=
  match e.side with
  | .long => bar.low ≤ e.sl
  | .short => e.sl ≤ bar.high

/-- The adverse excursion inside a bar. -/
def Entry.adverse : ℚ :=
  match e.side with
  | .long => (e.price - bar.low) / e.price
  | .short => (bar.high - e.price) / e.price

/-- The price an isolated position is liquidated at. -/
def Entry.liquidationPrice : ℚ :=
  match e.side with
  | .long => e.price * (1 - m.liqFrac)
  | .short => e.price * (1 + m.liqFrac)

/-- The exit tests of a bar `j` past the entry, in their order: the target and
the stop inside the bar, the liquidation, what the playbook says, the time. -/
def Entry.exitOn (signal : Bool) (j : ℕ) : Option Exit :=
  match e.reached bar with
  | some tp => some { idx := j, price := tp, reason := .takeProfit }
  | none =>
      if e.stopped bar then some { idx := j, price := e.sl, reason := .stopLoss }
      else if m.liqFrac ≤ e.adverse bar then
        some { idx := j, price := e.liquidationPrice m, reason := .liquidation }
      else if signal then some { idx := j, price := bar.close, reason := .signal }
      else if 0 < m.maxHoldBars ∧ m.maxHoldBars ≤ j - e.idx then
        some { idx := j, price := bar.close, reason := .timeStop }
      else none

/-- An exit is dated to the bar it was found on. -/
theorem Entry.idx_exitOn {signal : Bool} {j : ℕ} {x : Exit}
    (h : e.exitOn m bar signal j = some x) : x.idx = j := by
  unfold Entry.exitOn at h
  split at h
  · cases h
    rfl
  · split_ifs at h
    all_goals
      cases h
      rfl

theorem dated_exitOn (df : List Candle) {e : Entry} {j : ℕ} {x : Exit}
    (h : e.exitOn m (row df j) false j = some x) : x.idx = j :=
  Entry.idx_exitOn _ _ _ h

/-- The record of a closed trade. -/
def Entry.record (df : List Candle) (x : Exit) : Trade :=
  let gain := e.side.gain e.price x.price
  { entry := e
    exit := x
    openedAt := (row df e.idx).closeTime
    closedAt := (row df x.idx).closeTime
    realizedPnl := (gain / e.price - m.takerFee * 2) * e.price
    pnlR := if 0 < e.risk then some (gain / e.risk) else none }

end Fills

/-! ## The loop -/

/-- A backtest over `bars` bars from the bar `start` on; `σ` is what the playbook
remembers.  A position is not opened in the past, and an exit is found on the
bar it is dated to. -/
structure Replay (σ : Type) where
  bars : ℕ
  start : ℕ
  decide : σ → ℕ → σ × Decision
  exitOn : Entry → ℕ → Option Exit
  forward : ∀ {s i e}, (decide s i).2 = .enter e → i ≤ e.idx
  dated : ∀ {e j x}, exitOn e j = some x → x.idx = j

/-- A bar the loop has examined, and the exit of the position it opened. -/
structure Round where
  bar : ℕ
  decision : Decision
  exit : Option Exit
  deriving DecidableEq

namespace Replay

variable {σ : Type} (r : Replay σ)

/-- The walk forward from the bar after the entry. -/
def exitOf (e : Entry) : Option Exit :=
  (List.range' (e.idx + 1) (r.bars - (e.idx + 1))).findSome? (r.exitOn e)

/-- The `while` loop at bar `i`, with `fuel` bars to examine at most. -/
def rounds : (fuel i : ℕ) → σ → List Round
  | 0, _, _ => []
  | fuel + 1, i, s =>
      if i < r.bars - 1 then
        match (r.decide s i).2 with
        | .skip =>
            { bar := i, decision := .skip, exit := none } ::
              rounds fuel (i + 1) (r.decide s i).1
        | .stop => [{ bar := i, decision := .stop, exit := none }]
        | .enter e =>
            match r.exitOf e with
            | none => [{ bar := i, decision := .enter e, exit := none }]
            | some x =>
                { bar := i, decision := .enter e, exit := some x } ::
                  rounds fuel (x.idx + 1) (r.decide s i).1
      else []

/-- The whole run; no bar is examined twice. -/
def run (s : σ) : List Round := r.rounds r.bars r.start s

section Rounds

variable {r}

/-- What the walk forward finds: the first exit past the entry bar. -/
theorem exitOf_eq_some {e : Entry} {x : Exit} (h : r.exitOf e = some x) :
    e.idx < x.idx ∧ x.idx < r.bars ∧ r.exitOn e x.idx = some x ∧
      ∀ j, e.idx < j → j < x.idx → r.exitOn e j = none := by
  unfold exitOf at h
  obtain ⟨before, j, after, hsplit, hj, hnone⟩ := List.findSome?_eq_some_iff.mp h
  have hidx := r.dated hj
  have hmem : j ∈ List.range' (e.idx + 1) (r.bars - (e.idx + 1)) := by
    rw [hsplit]
    exact List.mem_append_right _ List.mem_cons_self
  rw [List.mem_range'_1] at hmem
  refine ⟨by omega, by omega, hidx ▸ hj, fun i hi hix => ?_⟩
  have hmem' : i ∈ List.range' (e.idx + 1) (r.bars - (e.idx + 1)) := by
    rw [List.mem_range'_1]
    omega
  have hsorted : (List.range' (e.idx + 1) (r.bars - (e.idx + 1))).Pairwise (· < ·) :=
    List.pairwise_lt_range'
  rw [hsplit] at hmem' hsorted
  rcases List.mem_append.mp hmem' with hbefore | hafter
  · exact hnone i hbefore
  · rcases List.mem_cons.mp hafter with rfl | hafter
    · omega
    · have hlt := (List.pairwise_cons.mp (List.pairwise_append.mp hsorted).2.1).1 i hafter
      omega

/-- Bars are examined from `i` to the last but one. -/
theorem mem_rounds {round : Round} (fuel : ℕ) : ∀ {i : ℕ} {s : σ}, round ∈ r.rounds fuel i s →
    i ≤ round.bar ∧ round.bar < r.bars - 1 ∧ (∃ s', round.decision = (r.decide s' round.bar).2) ∧
      ∀ x, round.exit = some x → ∃ e, round.decision = .enter e ∧ r.exitOf e = some x := by
  induction fuel with
  | zero => exact fun h => nomatch h
  | succ fuel ih =>
      intro i s h
      unfold rounds at h
      split at h
      · next hi =>
          split at h
          · next hd =>
              rcases List.mem_cons.mp h with rfl | h
              · exact ⟨Nat.le_refl _, hi, ⟨s, hd.symm⟩, fun x hx => nomatch hx⟩
              · obtain ⟨hle, hrest⟩ := ih h
                exact ⟨by omega, hrest⟩
          · next hd =>
              rw [List.mem_singleton.mp h]
              exact ⟨Nat.le_refl _, hi, ⟨s, hd.symm⟩, fun x hx => nomatch hx⟩
          · next e hd =>
              have hforward := r.forward hd
              split at h
              · rw [List.mem_singleton.mp h]
                exact ⟨Nat.le_refl _, hi, ⟨s, hd.symm⟩, fun x hx => nomatch hx⟩
              · next x hx =>
                  obtain ⟨hlt, -⟩ := exitOf_eq_some hx
                  rcases List.mem_cons.mp h with rfl | h
                  · refine ⟨Nat.le_refl _, hi, ⟨s, hd.symm⟩, fun x' hx' => ⟨e, rfl, ?_⟩⟩
                    rw [← Option.some.inj hx']
                    exact hx
                  · obtain ⟨hle, hrest⟩ := ih h
                    exact ⟨by omega, hrest⟩
      · cases h

end Rounds

end Replay

end CryptoTrader.Backtest
