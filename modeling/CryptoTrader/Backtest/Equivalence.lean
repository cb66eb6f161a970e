import CryptoTrader.Backtest.MtfAlignment
import CryptoTrader.Backtest.Smc5c

/-!
# Backtests against playbooks

At every bar the two backtests examine, what they decide is compared with what
the playbook says of the bars up to there and of the higher-timeframe bars that
have closed.  The exact condition on the bar is `MtfAlignment.WarmupHarmless` and
`Smc5c.GuardsHarmless`.
-/

namespace CryptoTrader.Backtest

open CryptoTrader.Lib

/-- The round says what a playbook says of the closed bars. -/
def Round.AsLive (evaluate : List Candle → Frames → Option Signal) (df : List Candle)
    (frames : Frames) (round : Round) : Prop :=
  round.decision.signal =
    evaluate (df.take (round.bar + 1)) (frames.closedBy (row df round.bar).closeTime)

instance (evaluate : List Candle → Frames → Option Signal) (df : List Candle) (frames : Frames)
    (round : Round) : Decidable (round.AsLive evaluate df frames) :=
  inferInstanceAs (Decidable (_ = _))

/-- Every bar a backtest examines is past its warm-up and inside the series, and
decided there. -/
theorem Replay.mem_run {σ : Type} {r : Replay σ} {s : σ} {round : Round} (h : round ∈ r.run s) :
    r.start ≤ round.bar ∧ round.bar < r.bars ∧
      ∃ s', round.decision = (r.decide s' round.bar).2 := by
  obtain ⟨hle, hlt, hdecision, -⟩ := Replay.mem_rounds _ h
  exact ⟨hle, by omega, hdecision⟩

section MtfAlignment

variable (pb : MtfAlignment) (m : FillModel) (df : List Candle) (frames : Frames)

theorem MtfAlignment.signal_decide (s : Unit) (i : ℕ) :
    ((pb.replay m df frames).decide s i).2.signal = pb.backtestSignal df frames i := by
  unfold MtfAlignment.replay
  cases h : pb.backtestSignal df frames i with
  | none => simp [h, Decision.signal]
  | some signal => simp [h, Decision.signal]

theorem MtfAlignment.asLive_iff {round : Round} (h : round ∈ pb.runBacktestMta m df frames) :
    round.AsLive pb.evaluate df frames ↔ pb.WarmupHarmless df frames round.bar := by
  unfold MtfAlignment.runBacktestMta at h
  split at h
  · cases h
  · obtain ⟨hstart, hbar, s, hdecision⟩ := Replay.mem_run h
    rw [Round.AsLive, hdecision, pb.signal_decide m]
    exact pb.backtestSignal_eq_iff df frames hstart hbar

end MtfAlignment

section Smc5c

variable (pb : Smc5c) (m : FillModel) (df : List Candle) (frames : Frames)

theorem Smc5c.signal_decide (s : Unit) (i : ℕ) :
    ((pb.replay m df frames).decide s i).2.signal = (pb.backtestSignal df frames i).join := by
  unfold Smc5c.replay
  rcases h : pb.backtestSignal df frames i with _ | _ | signal
  · simp [h, Decision.signal]
  · simp [h, Decision.signal]
  · simp [h, Decision.signal]

theorem Smc5c.asLive_iff {round : Round} (h : round ∈ pb.runBacktestSmc5c m df frames) :
    round.AsLive pb.evaluate df frames ↔ pb.GuardsHarmless df frames round.bar := by
  unfold Smc5c.runBacktestSmc5c at h
  split at h
  · cases h
  · obtain ⟨hwin, hbar, s, hdecision⟩ := Replay.mem_run h
    rw [Round.AsLive, hdecision, pb.signal_decide m]
    exact pb.backtestSignal_eq_iff df frames hwin hbar

end Smc5c

/-- **Backtests and playbooks**: at every bar they examine, the two backtests
decide as the playbooks do on the closed bars exactly when the warm-up, or the
guards of the backtest, are harmless there. -/
theorem backtests_asLive (mta : MtfAlignment) (smc : Smc5c) (m : FillModel) (df : List Candle)
    (frames : Frames) :
    (∀ round ∈ mta.runBacktestMta m df frames,
      round.AsLive mta.evaluate df frames ↔ mta.WarmupHarmless df frames round.bar) ∧
    (∀ round ∈ smc.runBacktestSmc5c m df frames,
      round.AsLive smc.evaluate df frames ↔ smc.GuardsHarmless df frames round.bar) :=
  ⟨fun _ h => mta.asLive_iff m df frames h, fun _ h => smc.asLive_iff m df frames h⟩

/-! ## A frame none of which has closed -/

/-- Flat bars, then a bullish candle that engulfs the one before it. -/
def breakoutBars : List Candle :=
  (List.range 29).map (fun i =>
    { open_ := 100, high := 101, low := 99, close := 100, volume := 1, closeTime := i }) ++
    [{ open_ := 100, high := 101, low := 99, close := 199 / 2, volume := 1, closeTime := 29 },
     { open_ := 99, high := 103, low := 99, close := 103, volume := 1, closeTime := 30 },
     { open_ := 103, high := 104, low := 102, close := 103, volume := 1, closeTime := 31 }]

/-- Four bars, the first of which closes after all the breakout bars. -/
def lateFrame : Frame where
  bars := (List.range 4).map (fun i =>
    { open_ := 90, high := 90, low := 90, close := 90, volume := 1, closeTime := 60 + i })
  sorted := by decide

def lateFrames : Frames := ((Dict.empty).set "1h" lateFrame).set "4h" lateFrame

/-- Moving averages of two bars. -/
def quickMtf : MtfAlignment := { emaLen := 2 }

/-- The backtest counts the late frames at the breakout, the playbook does not. -/
theorem quickMtf_not_asLive : ∃ round ∈ quickMtf.runBacktestMta {} breakoutBars lateFrames,
    ¬ round.AsLive quickMtf.evaluate breakoutBars lateFrames := by
  decide +kernel

theorem backtests_asLive_quickMtf : ∃ round ∈ quickMtf.runBacktestMta {} breakoutBars lateFrames,
    ¬ quickMtf.WarmupHarmless breakoutBars lateFrames round.bar := by
  obtain ⟨round, hround, hnot⟩ := quickMtf_not_asLive
  exact ⟨round, hround, fun hharmless =>
    hnot (((backtests_asLive quickMtf {} {} breakoutBars lateFrames).1 round hround).mpr hharmless)⟩

theorem not_backtests_asLive : ¬ ∀ (mta : MtfAlignment) (smc : Smc5c) (m : FillModel)
    (df : List Candle) (frames : Frames),
    (∀ round ∈ mta.runBacktestMta m df frames, round.AsLive mta.evaluate df frames) ∧
    (∀ round ∈ smc.runBacktestSmc5c m df frames, round.AsLive smc.evaluate df frames) := by
  intro h
  obtain ⟨round, hround, hnot⟩ := quickMtf_not_asLive
  exact hnot ((h quickMtf {} {} breakoutBars lateFrames).1 round hround)

end CryptoTrader.Backtest
