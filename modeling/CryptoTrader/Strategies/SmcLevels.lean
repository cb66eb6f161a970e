import CryptoTrader.Lib.Hoare
import CryptoTrader.Strategies.SetupLevels

/-!
# The setups of the SMC pipeline

Within the bounds of the parameters nothing is divided by zero.
-/

namespace CryptoTrader

open CryptoTrader.Lib

/-! ## Scores -/

/-- A score between zero and one. -/
def UnitScore (x : PyFloat) : Prop := ∃ q, x = .fin q ∧ 0 ≤ q ∧ q ≤ 1

section Floats

variable {x : PyFloat} {a d : ℚ}

theorem npClip_unit {lo hi : ℚ} (hlo : 0 ≤ lo) (hle : lo ≤ hi) (hhi : hi ≤ 1) (hx : x ≠ .nan) :
    UnitScore (npClip lo hi x) := by
  cases x with
  | nan => exact absurd rfl hx
  | negInf => exact ⟨lo, rfl, hlo, hle.trans hhi⟩
  | fin q =>
      exact ⟨_, rfl, hlo.trans (le_max_left _ _), (max_le hle (min_le_left _ _)).trans hhi⟩
  | posInf => exact ⟨hi, rfl, hlo.trans hle, hhi⟩

theorem scale_ne_nan (ha : a ≠ 0) (hx : x ≠ .nan) : PyFloat.scale a x ≠ .nan := by
  cases x with
  | nan => exact absurd rfl hx
  | negInf =>
      unfold PyFloat.scale
      rw [if_neg ha]
      split_ifs <;> exact fun h => by cases h
  | fin q => exact fun h => by cases h
  | posInf =>
      unfold PyFloat.scale
      rw [if_neg ha]
      split_ifs <;> exact fun h => by cases h

theorem sub_fin_ne_nan (hx : x ≠ .nan) : PyFloat.sub (.fin a) x ≠ .nan := by
  cases x with
  | nan => exact absurd rfl hx
  | _ => exact fun h => by cases h

theorem add_fin_ne_nan (hx : x ≠ .nan) : PyFloat.add (.fin a) x ≠ .nan := by
  cases x with
  | nan => exact absurd rfl hx
  | _ => exact fun h => by cases h

theorem pyMax_fin_ne_nan (hx : x ≠ .nan) : PyFloat.pyMax x (.fin a) ≠ .nan := by
  unfold PyFloat.pyMax
  split_ifs
  · exact fun h => by cases h
  · exact hx

/-- A division by what is not zero. -/
theorem pyDiv_yields (hd : d ≠ 0) (hx : x ≠ .nan) : Yields (pyDiv x d) (· ≠ .nan) :=
  ⟨_, if_neg hd, scale_ne_nan (one_div_ne_zero hd) hx⟩

theorem pyDiv_fin (hd : d ≠ 0) (q : ℚ) : pyDiv (.fin q) d = .ok (.fin (q / d)) := by
  rw [pyDiv, if_neg hd, PyFloat.scale_fin, one_div_mul_eq_div]

theorem roundPlaces_unit {places : ℕ} {q : ℚ} (h : 0 ≤ q ∧ q ≤ 1) :
    0 ≤ roundPlaces places q ∧ roundPlaces places q ≤ 1 := by
  have hpow : (0 : ℚ) < 10 ^ places := by positivity
  have hzero : roundHalfEven 0 = 0 := roundHalfEven_intCast 0
  have hone : roundHalfEven ((10 : ℚ) ^ places) = 10 ^ places := by
    have hcast : ((10 ^ places : ℤ) : ℚ) = 10 ^ places := by push_cast; rfl
    rw [← hcast, roundHalfEven_intCast]
  constructor
  · have hle := roundHalfEven_mono (mul_nonneg h.1 hpow.le)
    rw [hzero] at hle
    exact div_nonneg (by exact_mod_cast hle) hpow.le
  · have hle := roundHalfEven_mono (mul_le_of_le_one_left hpow.le h.2)
    rw [hone] at hle
    rw [roundPlaces, div_le_one hpow]
    exact_mod_cast hle

end Floats

/-- The participation that is read is a number. -/
structure Participation.Known (inp : Participation) : Prop where
  rvol : inp.rvol ≠ .nan
  liquidations : inp.liquidationIntensity ≠ .nan
  oi : inp.oiAvailable → inp.oiDelta ≠ some .nan

/-- All scores are between zero and one. -/
structure SmcFactors.InUnit (f : SmcFactors) : Prop where
  htf : UnitScore f.htf
  sweep : UnitScore f.sweep
  breaks : UnitScore f.breaks
  ob : UnitScore f.ob
  fvg : UnitScore f.fvg
  oi : ∀ oi, f.oi = some oi → UnitScore oi
  vol : UnitScore f.vol
  rvol : UnitScore f.rvol
  liq : UnitScore f.liq

namespace PlaybookSMC

open CryptoTrader.Structure

variable {pb : PlaybookSMC}

/-- No weight is negative. -/
structure WeightsNonneg (pb : PlaybookSMC) : Prop where
  htf : 0 ≤ pb.wHtf
  sweep : 0 ≤ pb.wSweep
  structure_ : 0 ≤ pb.wStructure
  ob : 0 ≤ pb.wOb
  fvg : 0 ≤ pb.wFvg
  oi : 0 ≤ pb.wOi
  vol : 0 ≤ pb.wVol
  rvol : 0 ≤ pb.wRvol
  liq : 0 ≤ pb.wLiq

/-! ## The factors -/

section FactorScores

variable {df : List Structure.Candle} {rows : List Backtest.Candle} {struct : Analysis}
  {side : PositionSide} {want : Structure.Bias} {entry atr : ℚ} {sweep : Recent Sweep}
  {brk : Recent Break} {inp : Participation}

theorem htfScore_unit (hentry : 0 < entry) : Yields (htfScore rows entry) UnitScore := by
  unfold htfScore
  rw [if_pos hentry]
  refine Yields.bind (pyDiv_yields hentry.ne' (by simp)) (fun sep hsep => ?_)
  refine Yields.bind (pyDiv_yields (by norm_num) hsep) (fun full hfull => ?_)
  exact Yields.pure (npClip_unit (by norm_num) (by norm_num) (by norm_num) hfull)

theorem sweepScore_unit : Yields (pb.sweepScore sweep) UnitScore := by
  have hlookback : ((pb.sweepLookback + 1 : ℕ) : ℚ) ≠ 0 := Nat.cast_ne_zero.mpr (by omega)
  refine Yields.bind (pyDiv_yields hlookback (by simp)) (fun age hage => ?_)
  exact Yields.pure (npClip_unit (by norm_num) (by norm_num) (by norm_num) (sub_fin_ne_nan hage))

theorem breakScore_unit : Yields (pb.breakScore brk) UnitScore := by
  have hlookback : ((pb.structureLookback + 1 : ℕ) : ℚ) ≠ 0 := Nat.cast_ne_zero.mpr (by omega)
  have hbase : (if brk.event.event = .bos then 1 else 6 / 10 : ℚ) ≠ 0 := by
    split_ifs <;> norm_num
  refine Yields.bind (pyDiv_yields hlookback (by simp)) (fun age hage => ?_)
  refine Yields.pure (npClip_unit (by norm_num) (by norm_num) (by norm_num) ?_)
  exact scale_ne_nan hbase (add_fin_ne_nan (scale_ne_nan (by norm_num) (sub_fin_ne_nan hage)))

theorem obScore_unit (hatr : 0 < atr) : Yields (obScore struct want entry atr) UnitScore := by
  unfold obScore
  cases (blocks struct want).getLast? with
  | none => exact Yields.pure ⟨0, rfl, le_refl _, zero_le_one⟩
  | some ob =>
      dsimp only
      split_ifs
      · exact Yields.pure ⟨1, rfl, zero_le_one, le_refl _⟩
      all_goals
        refine Yields.bind (pyDiv_yields (mul_pos two_pos hatr).ne' (by simp)) (fun far hfar => ?_)
        exact Yields.pure
          (npClip_unit (by norm_num) (by norm_num) (by norm_num) (sub_fin_ne_nan hfar))

theorem fvgScore_unit : UnitScore (fvgScore struct want) := by
  unfold fvgScore
  cases (gaps struct want).getLast? with
  | none => exact ⟨0, rfl, le_refl _, zero_le_one⟩
  | some gap =>
      dsimp only
      split_ifs
      · exact ⟨1, rfl, zero_le_one, le_refl _⟩
      · exact ⟨7 / 10, rfl, by norm_num, by norm_num⟩

theorem oiScore_unit (hknown : inp.Known) :
    Yields (pb.oiScore inp) (fun oi? => ∀ oi, oi? = some oi → UnitScore oi) := by
  have hpct : pb.oiExpansionPct ≠ 0 := (lt_of_lt_of_le (by norm_num) pb.oiExpansionPct_ge).ne'
  unfold oiScore
  cases hdelta : inp.oiDelta with
  | none => exact Yields.pure (fun _ h => by cases h)
  | some oiDelta =>
      dsimp only
      by_cases havailable : inp.oiAvailable
      · have hnumber : oiDelta ≠ .nan := by
          rintro rfl
          exact hknown.oi havailable hdelta
        rw [if_pos havailable]
        refine Yields.bind (pyDiv_yields hpct (pyMax_fin_ne_nan hnumber)) (fun part hpart => ?_)
        refine Yields.pure ?_
        rintro _ ⟨⟩
        exact npClip_unit (le_refl _) zero_le_one (le_refl _) hpart
      · rw [if_neg havailable]
        exact Yields.pure (fun _ h => by cases h)

theorem volumeScore_unit : Yields (pb.volumeScore rows) UnitScore := by
  have htarget : pb.volumeMultTarget ≠ 0 := (lt_of_lt_of_le one_pos pb.volumeMultTarget_ge).ne'
  have hzero : UnitScore (.fin 0) := ⟨0, rfl, le_refl _, zero_le_one⟩
  unfold volumeScore
  by_cases hshort : rows.length < 21
  · rw [if_pos hshort]
    exact Yields.pure hzero
  · rw [if_neg hshort]
    dsimp only
    by_cases hflat : (((Backtest.volumes rows).drop (rows.length - 21)).take 20).sum / 20 ≤ 0
    · rw [if_pos hflat]
      exact Yields.pure hzero
    · rw [if_neg hflat]
      refine Yields.bind (pyDiv_yields (not_le.mp hflat).ne' (by simp)) (fun ratio hratio => ?_)
      refine Yields.bind (pyDiv_yields htarget hratio) (fun part hpart => ?_)
      exact Yields.pure (npClip_unit (le_refl _) zero_le_one (le_refl _) hpart)

theorem rvolScore_unit (hknown : inp.Known) : Yields (pb.rvolScore inp) UnitScore := by
  have htarget : pb.rvolTarget ≠ 0 := (lt_of_lt_of_le (by norm_num) pb.rvolTarget_ge).ne'
  refine Yields.bind (pyDiv_yields htarget hknown.rvol) (fun part hpart => ?_)
  exact Yields.pure (npClip_unit (le_refl _) zero_le_one (le_refl _) hpart)

theorem liqScore_unit (hknown : inp.Known) : Yields (pb.liqScore inp) UnitScore := by
  have hthreshold : max pb.liqCascadeThreshold (1 / 10 ^ 9) ≠ 0 :=
    (lt_of_lt_of_le (by norm_num) (le_max_right _ _)).ne'
  refine Yields.bind (pyDiv_yields hthreshold hknown.liquidations) (fun part hpart => ?_)
  exact Yields.pure (npClip_unit (le_refl _) zero_le_one (le_refl _) (sub_fin_ne_nan hpart))

/-- The factors of a known participation are between zero and one. -/
theorem factors_inUnit (hentry : 0 < entry) (hatr : 0 < atr) (hknown : inp.Known) :
    Yields (pb.factors df struct side entry atr sweep brk inp) SmcFactors.InUnit := by
  unfold factors
  refine Yields.bind (htfScore_unit hentry) (fun htf hhtf => ?_)
  refine Yields.bind sweepScore_unit (fun sweep hsweep => ?_)
  refine Yields.bind breakScore_unit (fun breaks hbreaks => ?_)
  refine Yields.bind (obScore_unit hatr) (fun ob hob => ?_)
  refine Yields.bind (oiScore_unit hknown) (fun oi hoi => ?_)
  refine Yields.bind volumeScore_unit (fun vol hvol => ?_)
  refine Yields.bind (rvolScore_unit hknown) (fun rvol hrvol => ?_)
  refine Yields.bind (liqScore_unit hknown) (fun liq hliq => ?_)
  exact Yields.pure ⟨hhtf, hsweep, hbreaks, hob, fvgScore_unit, hoi, hvol, hrvol, hliq⟩

end FactorScores

/-! ## The score -/

theorem weightedSum_bounds {terms : List (ℚ × PyFloat)}
    (h : ∀ term ∈ terms, 0 ≤ term.1 ∧ UnitScore term.2) :
    ∃ s, terms.foldr (fun term sum => PyFloat.add (PyFloat.scale term.1 term.2) sum) (.fin 0) =
        .fin s ∧ 0 ≤ s ∧ s ≤ (terms.map Prod.fst).sum := by
  induction terms with
  | nil => exact ⟨0, rfl, le_refl _, le_refl _⟩
  | cons term rest ih =>
      obtain ⟨⟨hweight, q, hq, hzero, hone⟩, hrest⟩ := List.forall_mem_cons.mp h
      obtain ⟨s, hs, hnonneg, hle⟩ := ih hrest
      refine ⟨term.1 * q + s, ?_, add_nonneg (mul_nonneg hweight hzero) hnonneg, ?_⟩
      · rw [List.foldr_cons, hs, hq]
        rfl
      · rw [List.map_cons, List.sum_cons]
        exact add_le_add (mul_le_of_le_one_right hweight hone) hle

theorem weighted_fine (hweights : pb.WeightsNonneg) {f : SmcFactors} (hf : f.InUnit) :
    ∀ term ∈ pb.weighted f, 0 ≤ term.1 ∧ UnitScore term.2 := by
  intro term hterm
  unfold weighted at hterm
  rw [List.mem_append] at hterm
  rcases hterm with hfixed | hoi
  · revert term
    simp only [List.forall_mem_cons]
    exact ⟨⟨hweights.htf, hf.htf⟩, ⟨hweights.sweep, hf.sweep⟩, ⟨hweights.structure_, hf.breaks⟩,
      ⟨hweights.ob, hf.ob⟩, ⟨hweights.fvg, hf.fvg⟩, ⟨hweights.vol, hf.vol⟩,
      ⟨hweights.rvol, hf.rvol⟩, ⟨hweights.liq, hf.liq⟩, fun _ h => by cases h⟩
  · rw [Option.mem_toList, Option.map_eq_some_iff] at hoi
    obtain ⟨oi, hsome, rfl⟩ := hoi
    exact ⟨hweights.oi, hf.oi oi hsome⟩

/-- The confidence is a percentage. -/
theorem confidence_bounds (hweights : pb.WeightsNonneg) {f : SmcFactors} (hf : f.InUnit) :
    Yields (pb.confidence f) (fun c => ∃ q, c = .fin q ∧ 0 ≤ q ∧ q ≤ 100) := by
  unfold confidence
  by_cases htotal : 0 < pb.totalWeight f
  · rw [if_pos htotal]
    obtain ⟨s, hs, hnonneg, hle⟩ := weightedSum_bounds (weighted_fine hweights hf)
    have hsum : pb.weightedSum f = .fin s := hs
    rw [hsum, pyDiv_fin htotal.ne']
    refine Yields.pure ⟨100 * (s / pb.totalWeight f), rfl, ?_, ?_⟩
    · have hmean := div_nonneg hnonneg htotal.le
      linarith
    · have hmean : s / pb.totalWeight f ≤ 1 := (div_le_one htotal).mpr hle
      linarith
  · rw [if_neg htotal]
    exact Yields.pure ⟨0, rfl, le_refl _, by norm_num⟩

/-! ## The levels -/

section Levels

variable {struct : Analysis} {side : PositionSide} {entry atr swept risk : ℚ}

/-- The stop of a long stays above zero; the target of a short does at its farthest, or
there is a swing low to aim at. -/
def Room (pb : PlaybookSMC) (struct : Analysis) (side : PositionSide) (entry atr swept : ℚ) :
    Prop :=
  let dist := pb.slDist side entry atr swept
  match side with
  | .long => dist < entry
  | .short => pb.tpRr * dist < entry ∨
      (dist < entry ∧ ∃ sw ∈ struct.activeSwingLows, 0 < sw.price ∧ sw.price < entry)

theorem slDist_pos (hatr : 0 < atr) : 0 < pb.slDist side entry atr swept := by
  have hfloor : 0 < max pb.slBufferAtr (1 / 2) * atr :=
    mul_pos (lt_of_lt_of_le (by norm_num) (le_max_right _ _)) hatr
  exact lt_of_lt_of_le hfloor (le_max_right _ _)

theorem tpRr_pos : 0 < pb.tpRr := lt_of_lt_of_le (by norm_num) pb.tpRr_ge

/-- A long's target is above the entry. -/
theorem takeProfit_long (hrisk : 0 < risk) :
    entry < pb.takeProfit struct .long entry (entry - risk) := by
  have hreward : 0 < pb.tpRr * risk := mul_pos tpRr_pos hrisk
  unfold takeProfit
  rw [sub_sub_cancel, abs_of_pos hrisk]
  simp only [if_neg (not_le.mpr hrisk)]
  refine lt_min (lt_of_lt_of_le ?_ (le_max_right _ _)) ?_
  · linarith
  · linarith

/-- A short's target is below the entry, and above zero where there is room. -/
theorem takeProfit_short (hrisk : 0 < risk)
    (hroom : pb.tpRr * risk < entry ∨
      (risk < entry ∧ ∃ sw ∈ struct.activeSwingLows, 0 < sw.price ∧ sw.price < entry)) :
    0 < pb.takeProfit struct .short entry (entry + risk) ∧
      pb.takeProfit struct .short entry (entry + risk) < entry := by
  have hreward : 0 < pb.tpRr * risk := mul_pos tpRr_pos hrisk
  have habs : |entry - (entry + risk)| = risk := by
    rw [sub_add_cancel_left, abs_neg, abs_of_pos hrisk]
  unfold takeProfit
  rw [habs]
  simp only [if_neg (not_le.mpr hrisk)]
  constructor
  · rcases hroom with hfar | ⟨hnear, sw, hmem, hpos, hbelow⟩
    · exact lt_max_of_lt_right (sub_pos.mpr hfar)
    · -- the highest swing low below the entry is positive too
      have hlow : sw.price ∈ (struct.activeSwingLows.map Swing.price).filter
          (fun price => price < entry) := by
        simp only [List.mem_filter, List.mem_map, decide_eq_true_eq]
        exact ⟨⟨sw, hmem, rfl⟩, hbelow⟩
      cases hmax : ((struct.activeSwingLows.map Swing.price).filter
          (fun price => price < entry)).max? with
      | none =>
          rw [List.max?_eq_none_iff] at hmax
          rw [hmax] at hlow
          cases hlow
      | some pool =>
          obtain ⟨hpool, hgreatest⟩ := List.max?_eq_some_iff.mp hmax
          have hpoolpos : 0 < pool := lt_of_lt_of_le hpos (hgreatest _ hlow)
          have hpoolbelow : pool < entry := by
            simpa using (List.mem_filter.mp hpool).2
          refine lt_max_of_lt_left (lt_min ?_ (sub_pos.mpr hnear))
          simpa [Option.filter, hpoolpos.ne', hpoolbelow] using hpoolpos
  · refine max_lt (lt_of_le_of_lt (min_le_right _ _) ?_) ?_
    · linarith
    · linarith

end Levels

/-! ## The pipeline -/

section Pipeline

variable {df : List Structure.Candle} {dfHtf : Option (List Backtest.Candle)}
  {inp : Participation}

/-- Where the gates are passed the participation is known, no weight is negative, and the
levels have room. -/
def Roomy (pb : PlaybookSMC) (df : List Structure.Candle) (dfHtf : Option (List Backtest.Candle))
    (inp : Participation) : Prop :=
  let struct := analyze df pb.swingWindow
  let entry := (bar df (df.length - 1)).close
  pb.minBars ≤ df.length → ∀ side, htfBias (dfHtf.getD (df.map (·.toCandle))) = some side →
    ∀ sweep brk, pb.freshSweep struct side.bias = some sweep →
      pb.freshBreak struct side.bias = some brk →
      ¬ PyFloat.le (.fin pb.liqCascadeThreshold) inp.liquidationIntensity →
      inp.Known ∧ pb.WeightsNonneg ∧
        pb.Room struct side entry (pb.atr df entry) sweep.event.sweptPrice

theorem atr_pos {entry : ℚ} (hentry : 0 < entry) : 0 < pb.atr df entry := by
  have hshare : 0 < entry * (5 / 1000) := mul_pos hentry (by norm_num)
  unfold atr
  cases (Backtest.computeAtr (df.map (·.toCandle)) pb.atrPeriod).getLastD none with
  | none => exact hshare
  | some atr =>
      dsimp only
      split_ifs with hatr
      · exact hshare
      · exact not_le.mp hatr

theorem sizeMultiplier_nonneg (confidence : PyFloat) : 0 ≤ sizeMultiplier confidence := by
  unfold sizeMultiplier
  split_ifs <;> norm_num

end Pipeline

end PlaybookSMC

/-- The levels of a setup. -/
def SmcSetup.levels (s : SmcSetup) : SetupLevels :=
  { side := s.side
    entry := s.entryPrice
    stop := s.slPrice
    target := some s.tpPrice
    score := s.score
    sizeMultiplier := some s.sizeMultiplier }

namespace PlaybookSMC

open CryptoTrader.Structure

variable {pb : PlaybookSMC} {df : List Structure.Candle}
  {dfHtf : Option (List Backtest.Candle)} {inp : Participation}

/-- A setup with room has its levels in order. -/
theorem setup_wellFormed {struct : Analysis} {side : PositionSide} {entry atr q : ℚ}
    {sweep : Recent Sweep} {f : SmcFactors} {confidence : PyFloat} (hentry : 0 < entry)
    (hatr : 0 < atr) (hq : 0 ≤ q ∧ q ≤ 1)
    (hroom : pb.Room struct side entry atr sweep.event.sweptPrice) :
    (pb.setup struct side entry atr sweep f confidence (.fin q)).levels.WellFormed := by
  have hdist := @slDist_pos pb side entry atr sweep.event.sweptPrice hatr
  refine ⟨?_, ?_, ?_, ⟨_, rfl, roundPlaces_unit hq⟩, ?_⟩
  · cases side with
    | long => exact sub_pos.mpr hroom
    | short => exact add_pos hentry hdist
  · cases side with
    | long => exact sub_neg.mpr (sub_lt_self _ hdist)
    | short => exact sub_neg.mpr (lt_add_of_pos_right _ hdist)
  · rintro _ ⟨⟩
    cases side with
    | long =>
        have hwins := @takeProfit_long pb struct entry _ hdist
        exact ⟨hentry.trans hwins, sub_pos.mpr hwins⟩
    | short =>
        obtain ⟨hpos, hbelow⟩ := takeProfit_short hdist hroom
        exact ⟨hpos, sub_pos.mpr hbelow⟩
  · rintro _ ⟨⟩
    exact sizeMultiplier_nonneg confidence

/-- Where there is room the pipeline does not raise, and its setups are well formed. -/
theorem evaluate_wellFormed (hpos : ∀ c ∈ df, c.toCandle.Positive) (hroomy : pb.Roomy df dfHtf inp) :
    Yields (pb.evaluate df dfHtf inp)
      (fun setup? => ∀ setup, setup? = some setup → setup.levels.WellFormed) := by
  have hnone : Yields (pure none : Except PyErr (Option SmcSetup))
      (fun setup? => ∀ setup, setup? = some setup → setup.levels.WellFormed) :=
    Yields.pure (fun _ h => by cases h)
  unfold evaluate
  by_cases hshort : df.length < pb.minBars
  · rw [if_pos hshort]
    exact hnone
  · rw [if_neg hshort]
    have hbars := not_lt.mp hshort
    have hmin : 30 ≤ pb.minBars := le_max_right _ _
    have hlast : df.length - 1 < df.length := by omega
    have hentry := (hpos _ (bar_mem hlast)).close
    cases hbias : htfBias (dfHtf.getD (df.map (·.toCandle))) with
    | none => exact hnone
    | some side =>
        dsimp only
        cases hsweep : pb.freshSweep (analyze df pb.swingWindow) side.bias with
        | none => exact hnone
        | some sweep =>
            cases hbrk : pb.freshBreak (analyze df pb.swingWindow) side.bias with
            | none => exact hnone
            | some brk =>
                dsimp only
                by_cases hcascade : PyFloat.le (.fin pb.liqCascadeThreshold) inp.liquidationIntensity
                · rw [if_pos hcascade]
                  exact hnone
                · rw [if_neg hcascade]
                  obtain ⟨hknown, hweights, hroom⟩ :=
                    hroomy hbars side hbias sweep brk hsweep hbrk hcascade
                  have hatr := @atr_pos pb df _ hentry
                  refine Yields.bind (factors_inUnit hentry hatr hknown) (fun f hf => ?_)
                  refine Yields.bind (confidence_bounds hweights hf) ?_
                  rintro _ ⟨c, rfl, hzero, hhundred⟩
                  split_ifs
                  · exact hnone
                  · rw [pyDiv_fin (by norm_num)]
                    refine Yields.pure ?_
                    rintro _ ⟨⟩
                    refine setup_wellFormed hentry hatr ⟨div_nonneg hzero (by norm_num), ?_⟩ hroom
                    exact (div_le_one (by norm_num)).mpr hhundred

end PlaybookSMC

end CryptoTrader
