import CryptoTrader.Lib.Series
import CryptoTrader.Lib.Dict
import CryptoTrader.Wallet.Types
import Mathlib.Data.List.Sort
import Mathlib.Data.Rat.Floor

/-!
# Candle frames and their indicators

The frames a backtest and a playbook read, and the columns of `regime.py` they
compute from them.  Prices and volumes are exact rationals; a frame has no
missing values, so that `NaN` is left to the first rows of a rolling window.
Times are the epoch seconds of `_epoch_close`.
-/

namespace CryptoTrader.Backtest

open CryptoTrader.Lib

/-- A row of a kline frame. -/
structure Candle where
  open_ : ℚ
  high : ℚ
  low : ℚ
  close : ℚ
  volume : ℚ
  closeTime : ℤ
  deriving DecidableEq, Inhabited

/-- A higher-timeframe frame, ascending in time. -/
structure Frame where
  bars : List Candle
  sorted : bars.Pairwise (fun a b => a.closeTime ≤ b.closeTime)

/-- `htf_frames`. -/
abbrev Frames := Dict String Frame

/-- `df["close"]`. -/
def closes (df : List Candle) : List ℚ := df.map Candle.close

/-- `df["high"]`. -/
def highs (df : List Candle) : List ℚ := df.map Candle.high

/-- `df["low"]`. -/
def lows (df : List Candle) : List ℚ := df.map Candle.low

/-- `df["volume"]`. -/
def volumes (df : List Candle) : List ℚ := df.map Candle.volume

/-- `df.iloc[i]`. -/
def row (df : List Candle) (i : ℕ) : Candle := df.getD i default

/-- `np.max`. -/
def npMax (l : List ℚ) : ℚ := l.max?.getD 0

/-- `np.min`. -/
def npMin (l : List ℚ) : ℚ := l.min?.getD 0

/-- Rows before a cut are the same after it. -/
theorem row_take (df : List Candle) {i n : ℕ} (h : i < n) : row (df.take n) i = row df i :=
  getD_take df h default

theorem getD_map_row {β : Type} (f : Candle → β) (df : List Candle) {i : ℕ} (h : i < df.length)
    (d : β) : (df.map f).getD i d = f (row df i) := by
  simp [row, List.getD, h]

theorem closes_take (df : List Candle) (n : ℕ) : closes (df.take n) = (closes df).take n :=
  List.map_take

theorem highs_take (df : List Candle) (n : ℕ) : highs (df.take n) = (highs df).take n :=
  List.map_take

theorem lows_take (df : List Candle) (n : ℕ) : lows (df.take n) = (lows df).take n :=
  List.map_take

theorem volumes_take (df : List Candle) (n : ℕ) : volumes (df.take n) = (volumes df).take n :=
  List.map_take

/-! ## Indicators -/

/-- The last value of `series.ewm(span=period, adjust=False).mean()`. -/
def ewm (period : ℕ) : List ℚ → ℚ
  | [] => 0
  | first :: rest =>
      let alpha : ℚ := 2 / (period + 1)
      rest.foldl (fun mean x => (1 - alpha) * mean + alpha * x) first

/-- `compute_ema`. -/
def computeEma (series : List ℚ) (period : ℕ) : List ℚ := expanding (ewm period) series

/-- `tr` of `compute_atr`; the first row has no previous close. -/
def trueRange (df : List Candle) : ℚ :=
  let last := row df (df.length - 1)
  if df.length ≤ 1 then last.high - last.low
  else
    let previous := (row df (df.length - 2)).close
    max (last.high - last.low) (max |last.high - previous| |last.low - previous|)

/-- `series.rolling(period).mean()`. -/
def rollingMean (period : ℕ) (series : List ℚ) : List (Option ℚ) :=
  expanding (fun rows =>
    if rows.length < period then none
    else some ((rows.drop (rows.length - period)).sum / period)) series

/-- `compute_atr`. -/
def computeAtr (df : List Candle) (period : ℕ) : List (Option ℚ) :=
  rollingMean period (expanding trueRange df)

/-- `np.percentile`, with linear interpolation. -/
def percentile (a : List ℚ) (q : ℚ) : ℚ :=
  let sorted := a.insertionSort (· ≤ ·)
  let position := q / 100 * ((a.length : ℚ) - 1)
  let low := position.floor.toNat
  let below := sorted.getD low 0
  let above := sorted.getD (min (low + 1) (a.length - 1)) 0
  below + (above - below) * (position - low)

/-- What the column holds at a row is the average over the rows up to it. -/
theorem getD_computeEma (series : List ℚ) (period : ℕ) {k : ℕ} (h : k < series.length) :
    (computeEma series period).getD k 0 = ewm period (series.take (k + 1)) := by
  unfold computeEma
  rw [List.getD_eq_getElem?_getD, getElem?_expanding _ _ h, Option.getD_some]

/-- The column of the first rows is the first part of the column. -/
theorem computeAtr_take (df : List Candle) (period n : ℕ) :
    computeAtr (df.take n) period = (computeAtr df period).take n := by
  unfold computeAtr rollingMean
  rw [expanding_take, expanding_take]

@[simp] theorem length_computeAtr (df : List Candle) (period : ℕ) :
    (computeAtr df period).length = df.length := by
  simp [computeAtr, rollingMean]

/-- Only the first rows of the column are missing. -/
theorem computeAtr_eq (df : List Candle) (period : ℕ) :
    ∃ a values, computeAtr df period = List.replicate a none ++ List.map some values :=
  expanding_from period (fun rows => (rows.drop (rows.length - period)).sum / (period : ℚ))
    (expanding trueRange df)

/-! ## Closed bars -/

/-- The bars of a frame that have closed by `t`. -/
def Frame.closedBy (f : Frame) (t : ℤ) : Frame :=
  { bars := f.bars.filter (fun bar => bar.closeTime ≤ t)
    sorted := f.sorted.filter _ }

/-- The frames as they are at `t`. -/
def Frames.closedBy (frames : Frames) (t : ℤ) : Frames := frames.mapVal (fun _ f => f.closedBy t)

/-- `np.searchsorted(epochs, t, side="right")` over ascending `epochs`. -/
def searchsortedRight (epochs : List ℤ) (t : ℤ) : ℕ := epochs.countP (· ≤ t)

/-- `np.clip(np.searchsorted(h_ep, t, side="right") - 1, 0, len(hdf) - 1)`. -/
def Frame.alignedIndex (f : Frame) (t : ℤ) : ℕ :=
  (((searchsortedRight (f.bars.map Candle.closeTime) t : ℤ) - 1).toNat) ⊓ (f.bars.length - 1)

section Closed

variable (f : Frame) (t : ℤ)

/-- Closed bars come first. -/
theorem Frame.closedBy_bars :
    (f.closedBy t).bars =
      f.bars.take (searchsortedRight (f.bars.map Candle.closeTime) t) := by
  obtain ⟨bars, hsorted⟩ := f
  show bars.filter _ = bars.take _
  unfold searchsortedRight
  induction bars with
  | nil => rfl
  | cons a rest ih =>
      obtain ⟨hfirst, hrest⟩ := List.pairwise_cons.mp hsorted
      by_cases ha : a.closeTime ≤ t
      · simp [ha, ih hrest]
      · have hlate : ∀ b ∈ rest, ¬ b.closeTime ≤ t := fun b hb hle =>
          ha ((hfirst b hb).trans hle)
        have hcount : (rest.map Candle.closeTime).countP (· ≤ t) = 0 := by
          rw [List.countP_eq_zero]
          simpa using hlate
        have hnone : rest.filter (fun bar => bar.closeTime ≤ t) = [] := by
          rw [List.filter_eq_nil_iff]
          simpa using hlate
        simp only [List.filter_cons, List.map_cons, List.countP_cons, ha, decide_false,
          Bool.false_eq_true, if_false, hcount, hnone, List.take_zero, Nat.add_zero]

theorem Frame.searchsortedRight_eq :
    searchsortedRight (f.bars.map Candle.closeTime) t = (f.closedBy t).bars.length := by
  unfold searchsortedRight Frame.closedBy
  rw [List.countP_map, List.countP_eq_length_filter]
  rfl

theorem Frame.closedBy_length_le : (f.closedBy t).bars.length ≤ f.bars.length :=
  List.length_filter_le _ _

/-- The aligned index is that of the last closed bar, and 0 when there is none. -/
theorem Frame.alignedIndex_eq : f.alignedIndex t = (f.closedBy t).bars.length - 1 := by
  have hle := f.closedBy_length_le t
  unfold Frame.alignedIndex
  rw [f.searchsortedRight_eq t]
  omega

/-- The bars that have closed by `t`; the first one when none has. -/
def Frame.alignedBars : List Candle :=
  if (f.closedBy t).bars = [] then f.bars.take 1 else (f.closedBy t).bars

/-- These are the rows up to the aligned index. -/
theorem Frame.take_alignedIndex : f.bars.take (f.alignedIndex t + 1) = f.alignedBars t := by
  unfold Frame.alignedBars
  rw [f.alignedIndex_eq t]
  split
  · next hnone =>
      rw [hnone]
      rfl
  · next hsome =>
      have hpos : 0 < (f.closedBy t).bars.length := List.length_pos_iff.mpr hsome
      rw [Nat.sub_add_cancel hpos, ← f.searchsortedRight_eq t, ← f.closedBy_bars t]

theorem Frame.alignedIndex_lt (h : f.bars ≠ []) : f.alignedIndex t < f.bars.length := by
  have hpos : 0 < f.bars.length := List.length_pos_iff.mpr h
  unfold Frame.alignedIndex
  omega

end Closed

end CryptoTrader.Backtest
