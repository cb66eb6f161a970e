import CryptoTrader.Strategies.Supertrend

/-!
# The ratchet of the Supertrend line

The line is used as a trailing stop.  It is trailed where the close before stayed
within the bands; where that close was beyond one of them the fresh band is taken,
also when the trend already ran that way and nothing was switched.
-/

namespace CryptoTrader

open CryptoTrader.Lib CryptoTrader.Backtest

/-! ## One bar after another -/

/-- The line does not move against a trend that goes on. -/
structure Band.RatchetsTo (prev next : Band) : Prop where
  up : prev.direction = .up → next.direction = .up → prev.st ≤ next.st
  down : prev.direction = .down → next.direction = .down → next.st ≤ prev.st

/-- The trend turns only after a close beyond the band it turns through. -/
structure Band.FlipsTo (prev next : Band) (prevClose : ℚ) : Prop where
  up : prev.direction = .down → next.direction = .up → prev.upper < prevClose
  down : prev.direction = .up → next.direction = .down → prevClose < prev.lower

/-- The line is the band the trend leans on. -/
def Band.OnLine (b : Band) : Prop :=
  match b.direction with
  | .up => b.st = b.lower
  | .down => b.st = b.upper

/-- A close beyond the far band of a running trend, after which the fresh band is
behind the line. -/
def Band.Loosens (prev : Band) (prevClose upperBasic lowerBasic : ℚ) : Prop :=
  match prev.direction with
  | .up => prev.upper < prevClose ∧ lowerBasic < prev.st
  | .down => prevClose ≤ prev.upper ∧ prevClose < prev.lower ∧ prev.st < upperBasic

section Step

variable {prev : Band} {prevClose upperBasic lowerBasic : ℚ}

theorem Band.onLine_next : (prev.next prevClose upperBasic lowerBasic).OnLine := by
  unfold Band.next
  by_cases habove : prev.upper < prevClose
  · rw [if_pos habove]
    rfl
  · rw [if_neg habove]
    by_cases hbelow : prevClose < prev.lower
    · rw [if_pos hbelow]
      rfl
    · rw [if_neg hbelow]
      cases prev.direction with
      | up => rfl
      | down => rfl

theorem Band.flipsTo_next : prev.FlipsTo (prev.next prevClose upperBasic lowerBasic) prevClose := by
  unfold Band.next
  by_cases habove : prev.upper < prevClose
  · rw [if_pos habove]
    exact ⟨fun _ _ => habove, fun _ h => by cases h⟩
  · rw [if_neg habove]
    by_cases hbelow : prevClose < prev.lower
    · rw [if_pos hbelow]
      exact ⟨fun _ h => (by cases h), fun _ _ => hbelow⟩
    · rw [if_neg hbelow]
      cases hdirection : prev.direction with
      | up => exact ⟨fun h => (by cases hdirection.symm.trans h), fun _ h => by cases h⟩
      | down => exact ⟨fun _ h => (by cases h), fun h => by cases hdirection.symm.trans h⟩

/-- A bar keeps the line in its trend unless the fresh band loosens it. -/
theorem Band.ratchetsTo_next_iff (honline : prev.OnLine) :
    prev.RatchetsTo (prev.next prevClose upperBasic lowerBasic) ↔
      ¬ prev.Loosens prevClose upperBasic lowerBasic := by
  unfold Band.next Band.Loosens
  unfold Band.OnLine at honline
  cases hdirection : prev.direction with
  | up =>
      rw [hdirection] at honline
      by_cases habove : prev.upper < prevClose
      · -- the fresh band, although the trend is no new one
        rw [if_pos habove]
        constructor
        · rintro h ⟨-, hbehind⟩
          exact absurd (h.up hdirection rfl) (not_le.mpr hbehind)
        · intro h
          refine ⟨fun _ _ => not_lt.mp (fun hbehind => h ⟨habove, hbehind⟩), fun hdown => ?_⟩
          cases hdirection.symm.trans hdown
      · rw [if_neg habove]
        refine iff_of_true ?_ (fun h => habove h.1)
        by_cases hbelow : prevClose < prev.lower
        · rw [if_pos hbelow]
          exact ⟨fun _ h => (by cases h), fun h => by cases hdirection.symm.trans h⟩
        · rw [if_neg hbelow]
          refine ⟨fun _ _ => ?_, fun h => by cases hdirection.symm.trans h⟩
          exact honline.trans_le (le_max_right _ _)
  | down =>
      rw [hdirection] at honline
      by_cases habove : prev.upper < prevClose
      · rw [if_pos habove]
        refine iff_of_true ?_ (fun h => absurd habove (not_lt.mpr h.1))
        exact ⟨fun h => (by cases hdirection.symm.trans h), fun _ h => by cases h⟩
      · rw [if_neg habove]
        by_cases hbelow : prevClose < prev.lower
        · rw [if_pos hbelow]
          constructor
          · rintro h ⟨-, -, hbehind⟩
            exact absurd (h.down hdirection rfl) (not_le.mpr hbehind)
          · intro h
            refine ⟨fun hup => (by cases hdirection.symm.trans hup), fun _ _ => ?_⟩
            exact not_lt.mp (fun hbehind => h ⟨not_lt.mp habove, hbelow, hbehind⟩)
        · rw [if_neg hbelow]
          refine iff_of_true ⟨fun h => (by cases hdirection.symm.trans h), fun _ _ => ?_⟩
            (fun h => hbelow h.2.1)
          exact (min_le_right _ _).trans_eq honline.symm

end Step

/-! ## The loop -/

/-- The bands at a bar. -/
def bandAt (df : List Candle) (factor : ℚ) (atrLength i : ℕ) : Band :=
  (computeSupertrend2 df factor atrLength).getD i ⟨0, 0, .up, 0⟩

/-- `upper_basic`. -/
def upperBasic (df : List Candle) (factor : ℚ) (atrLength i : ℕ) : ℚ :=
  hl2 (row df i) + factor * (wilderAtr atrLength df).getD i 0

/-- `lower_basic`. -/
def lowerBasic (df : List Candle) (factor : ℚ) (atrLength i : ℕ) : ℚ :=
  hl2 (row df i) - factor * (wilderAtr atrLength df).getD i 0

section Loop

variable {df : List Candle} {factor : ℚ} {atrLength : ℕ}

/-- Each element of the loop's output comes from the one before. -/
theorem bandsFrom_getD {default : Band} {noRow : Candle × ℚ} {i : ℕ} (prev : Band)
    (first : Candle × ℚ) (rest : List (Candle × ℚ)) (hi : i < rest.length) :
    (prev :: bandsFrom factor first.1.close prev rest).getD (i + 1) default =
      ((prev :: bandsFrom factor first.1.close prev rest).getD i default).next
        ((first :: rest).getD i noRow).1.close
        (hl2 ((first :: rest).getD (i + 1) noRow).1 +
          factor * ((first :: rest).getD (i + 1) noRow).2)
        (hl2 ((first :: rest).getD (i + 1) noRow).1 -
          factor * ((first :: rest).getD (i + 1) noRow).2) := by
  induction i generalizing prev first rest with
  | zero =>
      cases rest with
      | nil => simp at hi
      | cons second rest => rfl
  | succ i ih =>
      cases rest with
      | nil => simp at hi
      | cons second rest =>
          have hrest : i < rest.length := by simpa using hi
          exact ih _ second rest hrest

theorem rows_getD {i : ℕ} (hi : i < df.length) :
    (df.zip (wilderAtr atrLength df)).getD i (default, 0) =
      (row df i, (wilderAtr atrLength df).getD i 0) := by
  have hatr : i < (wilderAtr atrLength df).length := by rwa [length_wilderAtr]
  have hzip : i < (df.zip (wilderAtr atrLength df)).length := by simp [hi, hatr]
  simp only [row, List.getD_eq_getElem?_getD, List.getElem?_eq_getElem hzip,
    List.getElem?_eq_getElem hi, List.getElem?_eq_getElem hatr, Option.getD_some, List.getElem_zip]

theorem bandAt_succ {i : ℕ} (hi : i + 1 < df.length) :
    bandAt df factor atrLength (i + 1) =
      (bandAt df factor atrLength i).next (row df i).close
        (upperBasic df factor atrLength (i + 1)) (lowerBasic df factor atrLength (i + 1)) := by
  have hprev : (df.zip (wilderAtr atrLength df)).getD i (default, 0) = _ :=
    rows_getD (Nat.lt_of_succ_lt hi)
  have hnext : (df.zip (wilderAtr atrLength df)).getD (i + 1) (default, 0) = _ := rows_getD hi
  have hlength : (df.zip (wilderAtr atrLength df)).length = df.length := by
    simp [length_wilderAtr]
  unfold bandAt computeSupertrend2 upperBasic lowerBasic
  cases hrows : df.zip (wilderAtr atrLength df) with
  | nil => simp [hrows] at hlength; omega
  | cons first rest =>
      rw [hrows] at hprev hnext hlength
      have hrest : i < rest.length := by
        rw [List.length_cons] at hlength
        omega
      have hstep := @bandsFrom_getD factor ⟨0, 0, .up, 0⟩ (default, 0) i
        { upper := hl2 first.1 + factor * first.2, lower := hl2 first.1 - factor * first.2,
          direction := .up, st := hl2 first.1 - factor * first.2 } first rest hrest
      rw [hprev, hnext] at hstep
      exact hstep

theorem bandAt_onLine {i : ℕ} (hi : i < df.length) : (bandAt df factor atrLength i).OnLine := by
  cases i with
  | zero =>
      unfold bandAt computeSupertrend2
      cases df.zip (wilderAtr atrLength df) with
      | nil => rfl
      | cons first rest => rfl
  | succ i =>
      rw [bandAt_succ hi]
      exact Band.onLine_next

end Loop

/-- The line never moves against an unbroken trend, and the trend turns only after a
close beyond the opposite band. -/
def Ratcheting (df : List Candle) (factor : ℚ) (atrLength : ℕ) : Prop :=
  ∀ i, i + 1 < df.length →
    (bandAt df factor atrLength i).RatchetsTo (bandAt df factor atrLength (i + 1)) ∧
      (bandAt df factor atrLength i).FlipsTo (bandAt df factor atrLength (i + 1)) (row df i).close

/-- The line is a ratchet exactly if no close beyond the far band of a running trend
is followed by a fresh band behind the line. -/
theorem ratcheting_iff (df : List Candle) (factor : ℚ) (atrLength : ℕ) :
    Ratcheting df factor atrLength ↔ ∀ i, i + 1 < df.length →
      ¬ (bandAt df factor atrLength i).Loosens (row df i).close
        (upperBasic df factor atrLength (i + 1)) (lowerBasic df factor atrLength (i + 1)) := by
  refine forall_congr' (fun i => forall_congr' (fun hi => ?_))
  rw [bandAt_succ hi, and_iff_left Band.flipsTo_next]
  exact Band.ratchetsTo_next_iff (bandAt_onLine (Nat.lt_of_succ_lt hi))

/-- A bar that rises by its own price and closes near its high, and one that gives
half of it back. -/
def spikeCandles : List Candle :=
  [⟨100, 201 / 2, 199 / 2, 100, 1, 0⟩, ⟨100, 200, 100, 199, 1, 1⟩, ⟨199, 150, 110, 140, 1, 2⟩]

/-- The trend goes on over all three bars, and the line falls from 117.3 to 73.87. -/
theorem spike_loosens :
    ¬ ∀ (df : List Candle) (factor : ℚ) (atrLength : ℕ), Ratcheting df factor atrLength := by
  intro h
  have hfall : (bandAt spikeCandles 3 10 2).st < (bandAt spikeCandles 3 10 1).st := by
    decide +kernel
  have hup : (bandAt spikeCandles 3 10 1).direction = .up ∧
      (bandAt spikeCandles 3 10 2).direction = .up := by decide +kernel
  exact absurd ((h spikeCandles 3 10 1 (by decide)).1.up hup.1 hup.2) (not_le.mpr hfall)

end CryptoTrader
