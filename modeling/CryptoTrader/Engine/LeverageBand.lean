import CryptoTrader.Engine.Margin
import CryptoTrader.Lib.Significant
import Mathlib.Data.Int.ConditionallyCompleteOrder

/-!
# The band of the dynamic leverage

What `DynamicLeverageManager.compute` returns between its floor and its ceiling,
and when it halts.  Every factor of the score lies between 0 and 1 and falls
with the risk it measures; rounding and clamping keep the order.
-/

namespace CryptoTrader

open CryptoTrader.Lib

/-! ## Factors -/

theorem roundHalfEven_eq (x : Decimal) : roundHalfEven x = Lib.roundHalfEven x := by
  have heven : ∀ n : Int, n % 2 = 0 ↔ Even n := fun n => Int.even_iff.symm
  unfold roundHalfEven Lib.roundHalfEven Int.fract
  simp only [heven]
  rfl

theorem roundHalfEven_mono : Monotone roundHalfEven := by
  intro x y h
  rw [roundHalfEven_eq, roundHalfEven_eq]
  exact Lib.roundHalfEven_mono h

/-- How far `x` is past `start`, over the width that counts as all of it. -/
theorem rampDown_antitone (start width : Decimal) {x y : Decimal} (h : x ≤ y) :
    1 - (y - start) / max (1 / 1000000000) width ≤ 1 - (x - start) / max (1 / 1000000000) width := by
  have hwidth : (0 : Decimal) ≤ max (1 / 1000000000) width := le_max_of_le_left (by norm_num)
  exact sub_le_sub_left (div_le_div_of_nonneg_right (sub_le_sub_right h start) hwidth) 1

theorem rampDown_le_one {start width x : Decimal} (h : start ≤ x) :
    1 - (x - start) / max (1 / 1000000000) width ≤ 1 := by
  have hramp := rampDown_antitone start width h
  rwa [sub_self, zero_div, sub_zero] at hramp

theorem healthFactor_le_one (x moderate severe : Decimal) : healthFactor x moderate severe ≤ 1 := by
  unfold healthFactor
  split_ifs with hcalm hsevere
  · exact le_refl 1
  · norm_num
  · exact rampDown_le_one (not_le.mp hcalm).le

theorem healthFactor_nonneg (x moderate severe : Decimal) : 0 ≤ healthFactor x moderate severe := by
  unfold healthFactor
  split_ifs with hcalm hsevere
  · norm_num
  · exact le_refl 0
  · have hwidth : 0 < max (1 / 1000000000) (severe - moderate) :=
      lt_max_of_lt_left (by norm_num : (0 : Decimal) < 1 / 1000000000)
    rw [sub_nonneg, div_le_one hwidth]
    have hbefore : x - moderate ≤ severe - moderate :=
      sub_le_sub_right (not_le.mp hsevere).le moderate
    exact hbefore.trans (le_max_right _ _)

theorem healthFactor_antitone (moderate severe : Decimal) {x y : Decimal} (h : x ≤ y) :
    healthFactor y moderate severe ≤ healthFactor x moderate severe := by
  by_cases hcalm : x ≤ moderate
  · have hone : healthFactor x moderate severe = 1 := if_pos hcalm
    rw [hone]
    exact healthFactor_le_one y moderate severe
  · by_cases hsevere : severe ≤ y
    · have hpast : ¬ y ≤ moderate := not_le.mpr ((not_le.mp hcalm).trans_le h)
      have hzero : healthFactor y moderate severe = 0 := by
        unfold healthFactor
        rw [if_neg hpast, if_pos hsevere]
      rw [hzero]
      exact healthFactor_nonneg x moderate severe
    · have hpast : ¬ y ≤ moderate := not_le.mpr ((not_le.mp hcalm).trans_le h)
      have hbefore : ¬ severe ≤ x := not_le.mpr (h.trans_lt (not_le.mp hsevere))
      unfold healthFactor
      rw [if_neg hcalm, if_neg hbefore, if_neg hpast, if_neg hsevere]
      exact rampDown_antitone moderate (severe - moderate) h

theorem DynamicLeverageManager.volFactor_le_one (d : DynamicLeverageManager) (atrPct : Decimal) :
    d.volFactor atrPct ≤ 1 := by
  unfold volFactor
  split_ifs with hcalm
  · exact le_refl 1
  · exact max_le zero_le_one (rampDown_le_one (not_le.mp hcalm).le)

theorem DynamicLeverageManager.volFactor_nonneg (d : DynamicLeverageManager) (atrPct : Decimal) :
    0 ≤ d.volFactor atrPct := by
  unfold volFactor
  split_ifs
  · exact zero_le_one
  · exact le_max_left _ _

theorem DynamicLeverageManager.volFactor_antitone (d : DynamicLeverageManager) {x y : Decimal}
    (h : x ≤ y) : d.volFactor y ≤ d.volFactor x := by
  by_cases hcalm : x ≤ d.highVolThreshold
  · have hone : d.volFactor x = 1 := if_pos hcalm
    rw [hone]
    exact d.volFactor_le_one y
  · have hpast : ¬ y ≤ d.highVolThreshold := not_le.mpr ((not_le.mp hcalm).trans_le h)
    unfold volFactor
    rw [if_neg hcalm, if_neg hpast]
    exact max_le_max_left 0 (rampDown_antitone _ _ h)

theorem regimeFactor_nonneg (regime : Option ExtendedRegime) : 0 ≤ regimeFactor regime := by
  cases regime with
  | none => decide +kernel
  | some regime => cases regime <;> decide +kernel

theorem convictionFactor_nonneg (conviction : Option Decimal) : 0 ≤ convictionFactor conviction := by
  cases conviction with
  | none => exact zero_le_one
  | some c => exact le_max_left _ _

/-! ## Halts -/

/-- The volatility is extreme, or the regime is one without new entries. -/
def DynamicLeverageManager.Halts (d : DynamicLeverageManager) (i : LeverageInputs) : Prop :=
  d.extremeVolThreshold ≤ i.atrPct ∨ i.regime = some .deadMarket ∨
    i.regime = some .liquidationEvent ∨ i.regime = some .highRiskChaos

/-- The regimes of the halts are those that `compute` looks up. -/
theorem halts_regime_iff (regime : Option ExtendedRegime) :
    regime.any (fun regime => !regime.allowsNewEntries) = true ↔
      regime = some .deadMarket ∨ regime = some .liquidationEvent ∨
        regime = some .highRiskChaos := by
  cases regime with
  | none => simp
  | some regime => cases regime <;> simp [ExtendedRegime.allowsNewEntries]

section Band

variable (d : DynamicLeverageManager) {i i' : LeverageInputs}

theorem DynamicLeverageManager.floor_le_ceiling (i : LeverageInputs) : d.floor i ≤ d.ceiling i :=
  min_le_right _ _

/-- A band of one point. -/
theorem DynamicLeverageManager.compute_of_flat (h : ¬ d.floor i < d.ceiling i) :
    d.compute i = d.ceiling i := by
  have hspan : max 0 (d.ceiling i - d.floor i) = 0 := by omega
  unfold compute
  dsimp only
  rw [if_pos hspan]

theorem DynamicLeverageManager.compute_of_halts (h : d.floor i < d.ceiling i) (hhalts : d.Halts i) :
    d.compute i = 0 := by
  have hspan : max 0 (d.ceiling i - d.floor i) ≠ 0 := by omega
  unfold compute
  dsimp only
  rw [if_neg hspan]
  split_ifs with hextreme hregime
  · rfl
  · rfl
  · rcases hhalts with hvol | hnone
    · exact absurd hvol hextreme
    · exact absurd ((halts_regime_iff i.regime).mpr hnone) hregime

/-- Otherwise the score places the leverage in the band. -/
theorem DynamicLeverageManager.compute_of_trades (h : d.floor i < d.ceiling i)
    (htrades : ¬ d.Halts i) :
    d.compute i = max (d.floor i)
      (min (roundHalfEven (d.floor i + d.score i * (d.ceiling i - d.floor i : Int))) (d.ceiling i)) := by
  have hspan : max 0 (d.ceiling i - d.floor i) ≠ 0 := by omega
  have hwidth : max 0 (d.ceiling i - d.floor i) = d.ceiling i - d.floor i := by omega
  have hextreme : ¬ d.extremeVolThreshold ≤ i.atrPct := fun hvol => htrades (Or.inl hvol)
  have hregime : ¬ i.regime.any (fun regime => !regime.allowsNewEntries) = true :=
    fun hnone => htrades (Or.inr ((halts_regime_iff i.regime).mp hnone))
  unfold compute
  dsimp only
  rw [if_neg hspan, if_neg hextreme, if_neg hregime, hwidth]

/-- **In a halt `compute` returns 0 exactly if the band is more than a point, or
that point is 0.** -/
theorem DynamicLeverageManager.compute_halts_iff (i : LeverageInputs) (hhalts : d.Halts i) :
    d.compute i = 0 ↔ d.minLeverage < d.ceiling i ∨ d.ceiling i = 0 := by
  have hband : d.floor i < d.ceiling i ↔ d.minLeverage < d.ceiling i := by
    unfold floor
    rw [min_lt_iff]
    exact or_iff_left (lt_irrefl _)
  rw [← hband]
  by_cases hwide : d.floor i < d.ceiling i
  · exact iff_of_true (d.compute_of_halts hwide hhalts) (Or.inl hwide)
  · rw [d.compute_of_flat hwide]
    exact (or_iff_right hwide).symm

/-- A calm trend with the base at the system cap. -/
def demoInputs : LeverageInputs := { baseLeverage := 10, regime := some .trendExpansion }

/-- An ATR of 11% of the price halts a band of 5 to 10. -/
theorem DynamicLeverageManager.compute_halts_iff_demo :
    ({} : DynamicLeverageManager).compute { demoInputs with atrPct := 11 / 100 } = 0 :=
  (DynamicLeverageManager.compute_halts_iff {} { demoInputs with atrPct := 11 / 100 }
    (Or.inl (by decide +kernel))).mpr (Or.inl (by decide +kernel))

/-- With the base at the floor it does not. -/
theorem DynamicLeverageManager.not_halted :
    ¬ ∀ (d : DynamicLeverageManager) (i : LeverageInputs), d.Halts i → d.compute i = 0 := by
  intro h
  have hzero := h {} { demoInputs with baseLeverage := 5, atrPct := 11 / 100 }
    (Or.inl (by decide +kernel))
  revert hzero
  decide +kernel

/-! ## Between floor and ceiling -/

/-- `compute` halts: the band is more than a point and the halts are looked for. -/
def DynamicLeverageManager.Stops (d : DynamicLeverageManager) (i : LeverageInputs) : Prop :=
  d.floor i < d.ceiling i ∧ d.Halts i

/-- The ceiling is under every cap there is. -/
theorem DynamicLeverageManager.ceiling_le (i : LeverageInputs) :
    d.ceiling i ≤ d.maxLeverage ∧ d.ceiling i ≤ systemMaxLeverage ∧
      (i.baseLeverage ≠ 0 → d.ceiling i ≤ i.baseLeverage) ∧
      ∀ cap, i.venueMaxLeverage = some cap → cap ≠ 0 → d.ceiling i ≤ cap := by
  have hcapped := d.capped
  unfold ceiling
  dsimp only
  cases hvenue : i.venueMaxLeverage with
  | none =>
      refine ⟨?_, ?_, fun hbase => ?_, fun cap hcap => by cases hcap⟩
      · exact min_le_left _ _
      · exact (min_le_left _ _).trans hcapped
      · rw [if_neg hbase]
        exact min_le_right _ _
  | some cap =>
      dsimp only
      by_cases hzero : cap = 0
      · rw [if_pos hzero]
        refine ⟨?_, ?_, fun hbase => ?_, ?_⟩
        · exact min_le_left _ _
        · exact (min_le_left _ _).trans hcapped
        · rw [if_neg hbase]
          exact min_le_right _ _
        · rintro cap' hcap hne
          obtain rfl := Option.some.inj hcap
          exact absurd hzero hne
      · rw [if_neg hzero]
        refine ⟨?_, ?_, fun hbase => ?_, ?_⟩
        · exact (min_le_left _ _).trans (min_le_left _ _)
        · exact (min_le_left _ _).trans ((min_le_left _ _).trans hcapped)
        · rw [if_neg hbase]
          exact (min_le_left _ _).trans (min_le_right _ _)
        · rintro cap' hcap -
          obtain rfl := Option.some.inj hcap
          exact min_le_right _ _

theorem DynamicLeverageManager.compute_mem_band (h : ¬ d.Stops i) :
    d.floor i ≤ d.compute i ∧ d.compute i ≤ d.ceiling i := by
  by_cases hwide : d.floor i < d.ceiling i
  · rw [d.compute_of_trades hwide (fun hhalts => h ⟨hwide, hhalts⟩)]
    exact ⟨le_max_left _ _, max_le (d.floor_le_ceiling i) (min_le_right _ _)⟩
  · rw [d.compute_of_flat hwide]
    exact ⟨d.floor_le_ceiling i, le_refl _⟩

/-- Under the same caps the second inputs are at least as risky as the first. -/
structure LeverageInputs.Riskier (i i' : LeverageInputs) : Prop where
  baseLeverage : i'.baseLeverage = i.baseLeverage
  venueMaxLeverage : i'.venueMaxLeverage = i.venueMaxLeverage
  atrPct : i.atrPct ≤ i'.atrPct
  drawdown : i.drawdown ≤ i'.drawdown
  marginRatio : i.marginRatio ≤ i'.marginRatio
  regime : regimeFactor i'.regime ≤ regimeFactor i.regime
  conviction : convictionFactor i'.conviction ≤ convictionFactor i.conviction

theorem LeverageInputs.Riskier.refl (i : LeverageInputs) : i.Riskier i :=
  ⟨rfl, rfl, le_refl _, le_refl _, le_refl _, le_refl _, le_refl _⟩

theorem DynamicLeverageManager.score_antitone (h : i.Riskier i') : d.score i' ≤ d.score i := by
  have hvol := d.volFactor_antitone h.atrPct
  have hdrawdown := healthFactor_antitone d.ddModerate d.ddSevere h.drawdown
  have hmargin := healthFactor_antitone d.marginModerate d.marginHigh h.marginRatio
  have hvol₀ := d.volFactor_nonneg i.atrPct
  have hregime₀ := regimeFactor_nonneg i.regime
  have hdrawdown₀ := healthFactor_nonneg i.drawdown d.ddModerate d.ddSevere
  have hmargin₀ := healthFactor_nonneg i.marginRatio d.marginModerate d.marginHigh
  have hregime' := regimeFactor_nonneg i'.regime
  have hdrawdown' := healthFactor_nonneg i'.drawdown d.ddModerate d.ddSevere
  have hmargin' := healthFactor_nonneg i'.marginRatio d.marginModerate d.marginHigh
  have hconviction' := convictionFactor_nonneg i'.conviction
  unfold score
  refine mul_le_mul (mul_le_mul (mul_le_mul (mul_le_mul hvol h.regime hregime' hvol₀)
    hdrawdown hdrawdown' ?_) hmargin hmargin' ?_) h.conviction hconviction' ?_
  · exact mul_nonneg hvol₀ hregime₀
  · exact mul_nonneg (mul_nonneg hvol₀ hregime₀) hdrawdown₀
  · exact mul_nonneg (mul_nonneg (mul_nonneg hvol₀ hregime₀) hdrawdown₀) hmargin₀

/-- More risk never means more leverage. -/
theorem DynamicLeverageManager.compute_antitone (h : i.Riskier i') (hi : ¬ d.Stops i)
    (hi' : ¬ d.Stops i') : d.compute i' ≤ d.compute i := by
  have hceiling : d.ceiling i' = d.ceiling i := by
    unfold ceiling
    rw [h.baseLeverage, h.venueMaxLeverage]
  have hfloor : d.floor i' = d.floor i := by
    unfold floor
    rw [hceiling]
  by_cases hwide : d.floor i < d.ceiling i
  · have hwide' : d.floor i' < d.ceiling i' := by rwa [hfloor, hceiling]
    rw [d.compute_of_trades hwide (fun hhalts => hi ⟨hwide, hhalts⟩),
      d.compute_of_trades hwide' (fun hhalts => hi' ⟨hwide', hhalts⟩), hfloor, hceiling]
    have hspan : (0 : Decimal) ≤ ((d.ceiling i - d.floor i : Int) : Decimal) := by
      exact_mod_cast sub_nonneg.mpr hwide.le
    refine max_le_max_left _ (min_le_min_right _ (roundHalfEven_mono ?_))
    exact add_le_add_right (mul_le_mul_of_nonneg_right (d.score_antitone h) hspan) _
  · have hflat' : ¬ d.floor i' < d.ceiling i' := by rwa [hfloor, hceiling]
    rw [d.compute_of_flat hwide, d.compute_of_flat hflat', hceiling]

end Band

/-- **Where `compute` does not halt, it stays in the band, under every cap there
is, and falls with each risk.** -/
theorem DynamicLeverageManager.compute_banded (d : DynamicLeverageManager) (i : LeverageInputs)
    (h : ¬ d.Stops i) :
    ((d.floor i ≤ d.compute i ∧ d.compute i ≤ d.ceiling i) ∧
      d.ceiling i ≤ d.maxLeverage ∧ d.ceiling i ≤ systemMaxLeverage ∧
      (i.baseLeverage ≠ 0 → d.ceiling i ≤ i.baseLeverage) ∧
      ∀ cap, i.venueMaxLeverage = some cap → cap ≠ 0 → d.ceiling i ≤ cap) ∧
    (∀ atrPct, i.atrPct ≤ atrPct → ¬ d.Stops { i with atrPct } →
      d.compute { i with atrPct } ≤ d.compute i) ∧
    (∀ drawdown, i.drawdown ≤ drawdown → d.compute { i with drawdown } ≤ d.compute i) ∧
    (∀ marginRatio, i.marginRatio ≤ marginRatio →
      d.compute { i with marginRatio } ≤ d.compute i) ∧
    (∀ c c', i.conviction = some c → c ≤ c' →
      d.compute i ≤ d.compute { i with conviction := some c' }) ∧
    ∀ i', ¬ d.Stops i' → i.Riskier i' → d.compute i' ≤ d.compute i := by
  have hrefl := LeverageInputs.Riskier.refl i
  refine ⟨⟨d.compute_mem_band h, d.ceiling_le i⟩, ?_, ?_, ?_, ?_, ?_⟩
  · intro atrPct hatr hstops
    exact d.compute_antitone { hrefl with atrPct := hatr } h hstops
  · intro drawdown hdrawdown
    exact d.compute_antitone { hrefl with drawdown := hdrawdown } h h
  · intro marginRatio hmargin
    exact d.compute_antitone { hrefl with marginRatio := hmargin } h h
  · intro c c' hc hle
    have hmore : convictionFactor i.conviction ≤ convictionFactor (some c') := by
      rw [hc]
      exact max_le_max_left 0 (min_le_min_left 1 hle)
    have hriskier : LeverageInputs.Riskier { i with conviction := some c' } i :=
      { LeverageInputs.Riskier.refl i with conviction := hmore }
    exact d.compute_antitone hriskier h h
  · intro i' hstops hriskier
    exact d.compute_antitone hriskier h hstops

/-! ### The default manager -/

theorem DynamicLeverageManager.demo_not_stops : ¬ ({} : DynamicLeverageManager).Stops demoInputs := by
  unfold Stops Halts
  decide +kernel

/-- A drawdown of 7% takes it from 10 down. -/
theorem DynamicLeverageManager.compute_banded_demo :
    ({} : DynamicLeverageManager).compute { demoInputs with drawdown := 7 / 100 } ≤
      ({} : DynamicLeverageManager).compute demoInputs :=
  (DynamicLeverageManager.compute_banded {} demoInputs demo_not_stops).2.2.1 (7 / 100)
    (by decide +kernel)

/-- A base of 0 caps nothing. -/
theorem DynamicLeverageManager.ceiling_not_le_base :
    ¬ ∀ (d : DynamicLeverageManager) (i : LeverageInputs), d.highVolThreshold ≤ d.extremeVolThreshold →
        d.ddModerate ≤ d.ddSevere → d.marginModerate ≤ d.marginHigh → ¬ d.Stops i →
          d.ceiling i ≤ i.baseLeverage := by
  intro h
  have hle := h {} { demoInputs with baseLeverage := 0 } (by decide +kernel) (by decide +kernel)
    (by decide +kernel) (by unfold Stops Halts; decide +kernel)
  revert hle
  decide +kernel

end CryptoTrader
