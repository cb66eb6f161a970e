import CryptoTrader.Management.StructureUse
import CryptoTrader.Structure.Mirror
import Mathlib.Algebra.Order.BigOperators.Group.List
import Mathlib.Tactic.Linarith

/-!
# The side of generated stops and targets

When the stop of a style is on the losing side of the entry, and the targets of a
style on the winning side.  Every distance is a multiple of the ATR, which is zero
exactly if the last candles do not move.
-/

namespace CryptoTrader.SlTp

open CryptoTrader.Structure (Candle)

/-! ## The ATR -/

section Atr

variable (df : List Candle)

/-- The high or the low of a candle is away from the close before it. -/
def Leaves (p : Candle × Candle) : Prop := p.2.high ≠ p.1.close ∨ p.2.low ≠ p.1.close

/-- The candles with the ones before them. -/
def pairs : List (Candle × Candle) := df.zip df.tail

/-- One of the last fourteen candles leaves the close before it. -/
def Moves : Prop := ∃ p ∈ (pairs df).drop ((pairs df).length - 14), Leaves p

/-- The true range of a candle after another. -/
def trueRange (p : Candle × Candle) : ℚ :=
  max (p.2.high - p.2.low) (max |p.2.high - p.1.close| |p.2.low - p.1.close|)

theorem trueRanges_eq : trueRanges df = (pairs df).map trueRange := by
  unfold trueRanges pairs
  rw [← List.map_uncurry_zip_eq_zipWith]
  rfl

theorem trueRange_nonneg (p : Candle × Candle) : 0 ≤ trueRange p :=
  le_max_of_le_right (le_max_of_le_left (abs_nonneg _))

theorem trueRange_pos_iff (p : Candle × Candle) : 0 < trueRange p ↔ Leaves p := by
  constructor
  · intro h
    by_contra hstill
    simp only [Leaves, not_or, not_not] at hstill
    simp [trueRange, hstill.1, hstill.2] at h
  · intro h
    unfold trueRange
    cases h with
    | inl hhigh =>
        exact lt_max_of_lt_right (lt_max_of_lt_left (abs_pos.mpr (sub_ne_zero.mpr hhigh)))
    | inr hlow =>
        exact lt_max_of_lt_right (lt_max_of_lt_right (abs_pos.mpr (sub_ne_zero.mpr hlow)))

/-- A sum of terms that are not negative is positive with one of them. -/
theorem sum_pos_iff {l : List ℚ} (h : ∀ x ∈ l, 0 ≤ x) : 0 < l.sum ↔ ∃ x ∈ l, 0 < x := by
  induction l with
  | nil => simp
  | cons x l ih =>
      have hx : 0 ≤ x := h x (by simp)
      have hl : ∀ y ∈ l, 0 ≤ y := fun y hy => h y (by simp [hy])
      have hsum : 0 ≤ l.sum := List.sum_nonneg hl
      rw [List.sum_cons, List.exists_mem_cons_iff, ← ih hl]
      constructor
      · intro hpos
        by_cases hzero : 0 < x
        · exact Or.inl hzero
        · exact Or.inr (by linarith)
      · intro hpos
        cases hpos with
        | inl hfirst => linarith
        | inr hrest => linarith

/-- The mean of the last ones is positive if one of them is. -/
theorem meanLast14_pos_iff {l : List ℚ} (h : ∀ x ∈ l, 0 ≤ x) :
    0 < meanLast14 l ↔ ∃ x ∈ l.drop (l.length - 14), 0 < x := by
  have hlast : ∀ x ∈ l.drop (l.length - 14), 0 ≤ x := fun x hx => h x (List.mem_of_mem_drop hx)
  rw [← sum_pos_iff hlast]
  unfold meanLast14
  dsimp only
  by_cases hnil : l.drop (l.length - 14) = []
  · simp [hnil]
  · have hlength : (0 : ℚ) < (l.drop (l.length - 14)).length := by
      exact_mod_cast List.length_pos_iff.mpr hnil
    exact div_pos_iff_of_pos_right hlength

theorem meanLast14_nonneg {l : List ℚ} (h : ∀ x ∈ l, 0 ≤ x) : 0 ≤ meanLast14 l := by
  have hlast : ∀ x ∈ l.drop (l.length - 14), 0 ≤ x := fun x hx => h x (List.mem_of_mem_drop hx)
  exact div_nonneg (List.sum_nonneg hlast) (Nat.cast_nonneg _)

theorem trueRanges_nonneg : ∀ r ∈ trueRanges df, 0 ≤ r := by
  intro r hr
  rw [trueRanges_eq] at hr
  obtain ⟨p, -, rfl⟩ := List.mem_map.mp hr
  exact trueRange_nonneg p

theorem atr_pos_iff : 0 < meanLast14 (trueRanges df) ↔ Moves df := by
  rw [meanLast14_pos_iff (trueRanges_nonneg df), trueRanges_eq, List.length_map, ← List.map_drop]
  simp only [List.mem_map, exists_exists_and_eq_and, trueRange_pos_iff, Moves]

end Atr

/-! ## Swings beyond the entry -/

section Swings

variable {df : List Candle} {w : ℕ} {entry level : ℚ}

theorem lowBelow_lt (h : lowBelow df w entry = some level) : level < entry := by
  have hmem := List.max?_mem h
  exact of_decide_eq_true (List.mem_filter.mp hmem).2

theorem lt_highAbove (h : highAbove df w entry = some level) : entry < level := by
  have hmem := List.min?_mem h
  exact of_decide_eq_true (List.mem_filter.mp hmem).2

end Swings

/-! ## Stops -/

/-- A stop of the side: positive, and on the losing side of the entry. -/
def OnLosingSide (side : PositionSide) (entry price : ℚ) : Prop :=
  match side with
  | .long => 0 < price ∧ price < entry
  | .short => 0 < price ∧ entry < price

/-- A target of the side. -/
def OnWinningSide (side : PositionSide) (entry price : ℚ) : Prop :=
  match side with
  | .long => entry < price
  | .short => price < entry

namespace StopLossCalculator

variable (slCalc : StopLossCalculator)

/-- What the constructor is given: a positive entry and multiplier, and a share of the
price as the fallback. -/
structure Valid : Prop where
  entry_pos : 0 < slCalc.entry
  atrMult_pos : 0 < slCalc.atrMult
  pctDefault_pos : 0 < slCalc.pctDefault
  pctDefault_lt_one : slCalc.pctDefault < 1

/-- Its frame, if it has two candles, moves, and the ATR stop of a long stays above
zero. -/
def AtrClears : Prop :=
  (2 ≤ slCalc.df.length → Moves slCalc.df) ∧
    (slCalc.side = .long → slCalc.getAtr * slCalc.atrMult < slCalc.entry)

/-- The buffer of a long's stop stays below the swing; without one, as for the ATR
stop. -/
def SwingClears : Prop :=
  match slCalc.swingLevel with
  | some level => slCalc.side = .long → slCalc.getAtr * (3 / 10) < level
  | none => slCalc.AtrClears

/-- The price weighted by volume is less than the buffer beyond the entry, and that of
a long more than the buffer. -/
def VwapClears : Prop :=
  match slCalc.vwap with
  | some vwap =>
      match slCalc.side with
      | .long =>
          slCalc.getAtr * (1 / 2) < vwap ∧ vwap < slCalc.entry + slCalc.getAtr * (1 / 2)
      | .short => slCalc.entry < vwap + slCalc.getAtr * (1 / 2)
  | none => True

/-- The condition of a style. -/
def Clears (style : String) : Prop :=
  if style ∈ ["swing_low", "swing_high", "structure"] then slCalc.SwingClears
  else if style = "vwap" then slCalc.VwapClears
  else if style = "pct_from_entry" then True
  else slCalc.AtrClears

variable {slCalc}

theorem getAtr_pos_iff (h : slCalc.Valid) :
    0 < slCalc.getAtr ↔ (2 ≤ slCalc.df.length → Moves slCalc.df) := by
  unfold getAtr
  by_cases hshort : slCalc.df.length < 2
  · rw [if_pos hshort]
    have hpos : 0 < slCalc.entry * slCalc.pctDefault := mul_pos h.entry_pos h.pctDefault_pos
    simp only [hpos, true_iff]
    intro hlong
    omega
  · rw [if_neg hshort, atr_pos_iff]
    have hlong : 2 ≤ slCalc.df.length := by omega
    simp [hlong]

theorem getAtr_nonneg (h : slCalc.Valid) : 0 ≤ slCalc.getAtr := by
  unfold getAtr
  split_ifs
  · exact mul_nonneg h.entry_pos.le h.pctDefault_pos.le
  · exact meanLast14_nonneg (trueRanges_nonneg _)

theorem stopAt_entry_iff (h : slCalc.Valid) (distance : ℚ) :
    OnLosingSide slCalc.side slCalc.entry (stopAt slCalc.side slCalc.entry distance) ↔
      0 < distance ∧ (slCalc.side = .long → distance < slCalc.entry) := by
  have hentry := h.entry_pos
  cases hside : slCalc.side with
  | long =>
      simp only [OnLosingSide, stopAt]
      constructor
      · intro hstop
        exact ⟨by linarith, fun _ => by linarith⟩
      · intro hclear
        have hbelow := hclear.2 trivial
        exact ⟨by linarith, by linarith⟩
  | short =>
      simp only [OnLosingSide, stopAt]
      constructor
      · intro hstop
        exact ⟨by linarith, fun hlong => by cases hlong⟩
      · intro hclear
        exact ⟨by linarith, by linarith⟩

theorem atrSl_iff (h : slCalc.Valid) :
    OnLosingSide slCalc.side slCalc.entry slCalc.atrSl.price ↔ slCalc.AtrClears := by
  unfold AtrClears
  rw [← getAtr_pos_iff h, ← mul_pos_iff_of_pos_right h.atrMult_pos]
  exact stopAt_entry_iff h _

theorem pctSl_right (h : slCalc.Valid) :
    OnLosingSide slCalc.side slCalc.entry slCalc.pctSl.price := by
  have hshare : slCalc.entry * slCalc.pctDefault < slCalc.entry :=
    mul_lt_of_lt_one_right h.entry_pos h.pctDefault_lt_one
  exact (stopAt_entry_iff h _).mpr
    ⟨mul_pos h.entry_pos h.pctDefault_pos, fun _ => hshare⟩

theorem swingSl_iff (h : slCalc.Valid) :
    OnLosingSide slCalc.side slCalc.entry slCalc.swingSl.price ↔ slCalc.SwingClears := by
  have hatr := getAtr_nonneg h
  have hentry := h.entry_pos
  unfold swingSl SwingClears
  cases hlevel : slCalc.swingLevel with
  | none => exact atrSl_iff h
  | some level =>
      unfold swingLevel at hlevel
      cases hside : slCalc.side with
      | long =>
          rw [hside] at hlevel
          have hbelow := lowBelow_lt hlevel
          simp only [OnLosingSide, stopAt, true_implies]
          constructor
          · intro hstop
            linarith
          · intro hclear
            exact ⟨by linarith, by linarith⟩
      | short =>
          rw [hside] at hlevel
          have habove := lt_highAbove hlevel
          simp only [OnLosingSide, stopAt]
          exact iff_of_true ⟨by linarith, by linarith⟩ (fun hlong => by cases hlong)

theorem vwapSl_iff (h : slCalc.Valid) {result : SLResult} (hresult : slCalc.vwapSl = some result) :
    OnLosingSide slCalc.side slCalc.entry result.price ↔ slCalc.VwapClears := by
  have hentry := h.entry_pos
  obtain ⟨vwap, hvwap, rfl⟩ := Option.map_eq_some_iff.mp hresult
  simp only [VwapClears, hvwap]
  cases slCalc.side with
  | long =>
      simp only [OnLosingSide, stopAt]
      constructor
      · intro hstop
        exact ⟨by linarith, by linarith⟩
      · intro hclear
        exact ⟨by linarith, by linarith⟩
  | short =>
      simp only [OnLosingSide, stopAt]
      constructor
      · intro hstop
        exact hstop.2
      · intro hclear
        exact ⟨by linarith, hclear⟩

theorem calculate_price (style : String) : (slCalc.calculate style).price =
    ((slCalc.method style).getD slCalc.pctSl).price := by
  unfold calculate
  cases slCalc.method style <;> rfl

/-- The stop of a style is on the losing side exactly under the style's condition. -/
theorem calculate_iff (h : slCalc.Valid) (style : String) :
    OnLosingSide slCalc.side slCalc.entry (slCalc.calculate style).price ↔
      slCalc.Clears style := by
  rw [calculate_price]
  unfold method Clears
  rw [structureSl_eq, orderBlockSl_eq]
  by_cases hswing : style = "swing_low" ∨ style = "swing_high"
  · have hmem : style ∈ ["swing_low", "swing_high", "structure"] := by
      rcases hswing with rfl | rfl <;> simp
    rw [if_pos hswing, if_pos hmem]
    exact swingSl_iff h
  · by_cases hstructure : style = "structure"
    · subst hstructure
      exact swingSl_iff h
    · have hmem : ¬ style ∈ ["swing_low", "swing_high", "structure"] := by
        simp only [List.mem_cons, List.not_mem_nil, or_false, not_or]
        simp only [not_or] at hswing
        exact ⟨hswing.1, hswing.2, hstructure⟩
      rw [if_neg hswing, if_neg hstructure, if_neg hmem]
      by_cases hvwap : style = "vwap"
      · rw [if_pos hvwap, if_pos hvwap]
        cases hresult : slCalc.vwapSl with
        | some result => exact vwapSl_iff h hresult
        | none =>
            have hnone : slCalc.vwap = none := Option.map_eq_none_iff.mp hresult
            exact iff_of_true (pctSl_right h) (by simp [VwapClears, hnone])
      · rw [if_neg hvwap, if_neg hvwap]
        by_cases hblock : style = "order_block"
        · subst hblock
          exact atrSl_iff h
        · rw [if_neg hblock]
          by_cases hpct : style = "pct_from_entry"
          · rw [if_pos hpct, if_pos hpct]
            exact iff_of_true (pctSl_right h) trivial
          · rw [if_neg hpct, if_neg hpct]
            exact atrSl_iff h

end StopLossCalculator

/-! ## Targets -/

namespace TakeProfitCalculator

variable (tpCalc : TakeProfitCalculator)

/-- The levels of a result: at least one, and all of them beyond the entry. -/
def Wins (result : TPResult) : Prop :=
  result.levels ≠ [] ∧ ∀ level ∈ result.levels, OnWinningSide tpCalc.side tpCalc.entry level

theorem targetAt_iff (distance : ℚ) :
    OnWinningSide tpCalc.side tpCalc.entry (tpCalc.targetAt distance) ↔ 0 < distance := by
  unfold targetAt OnWinningSide
  cases tpCalc.side with
  | long => exact lt_add_iff_pos_right tpCalc.entry
  | short => exact sub_lt_self_iff tpCalc.entry

variable {tpCalc}

theorem fixedRr_wins (hrisk : 0 < tpCalc.risk) {rr : ℚ} (hrr : 0 < rr) :
    tpCalc.Wins (tpCalc.fixedRr rr) := by
  constructor
  · simp [fixedRr]
  · intro level hlevel
    rw [List.mem_singleton.mp hlevel, targetAt_iff]
    exact mul_pos hrisk hrr

theorem multiLevel_wins (hrisk : 0 < tpCalc.risk) {rrRatios : List ℚ} (hne : rrRatios ≠ [])
    (hrr : ∀ rr ∈ rrRatios, 0 < rr) : tpCalc.Wins (tpCalc.multiLevel rrRatios) := by
  constructor
  · simpa [multiLevel] using hne
  · intro level hlevel
    obtain ⟨rr, hmem, rfl⟩ := List.mem_map.mp hlevel
    rw [targetAt_iff]
    exact mul_pos hrisk (hrr rr hmem)

theorem liquidityTarget_wins (hrisk : 0 < tpCalc.risk) :
    tpCalc.Wins tpCalc.liquidityTarget := by
  unfold liquidityTarget
  cases hlevel : tpCalc.swingLevel with
  | none => exact fixedRr_wins hrisk (by norm_num)
  | some level =>
      constructor
      · simp
      · intro other hother
        rw [List.mem_singleton.mp hother]
        unfold swingLevel at hlevel
        unfold OnWinningSide
        cases hside : tpCalc.side with
        | long =>
            rw [hside] at hlevel
            exact lt_highAbove hlevel
        | short =>
            rw [hside] at hlevel
            exact lowBelow_lt hlevel

theorem atrExpansion_iff (hrisk : 0 < tpCalc.risk) :
    tpCalc.Wins tpCalc.atrExpansion ↔ (2 ≤ tpCalc.df.length → Moves tpCalc.df) := by
  unfold atrExpansion
  by_cases hshort : tpCalc.df.length < 2
  · rw [if_pos hshort]
    exact iff_of_true (fixedRr_wins hrisk (by norm_num)) (fun hlong => by omega)
  · have hlong : 2 ≤ tpCalc.df.length := by omega
    rw [if_neg hshort, ← atr_pos_iff]
    simp [Wins, targetAt_iff, hlong]

/-- Beyond a stop on the losing side, the targets win unless they are multiples of an
ATR of zero. -/
theorem calculate_wins_iff (hrisk : 0 < tpCalc.risk) (style : String) {rrRatios : List ℚ}
    (hrr : ∀ rr ∈ rrRatios, 0 < rr) : tpCalc.Wins (tpCalc.calculate style rrRatios) ↔
      (style = "atr_expansion" → 2 ≤ tpCalc.df.length → Moves tpCalc.df) := by
  have hne : (if rrRatios = [] then [2, 3, 9 / 2] else rrRatios) ≠ [] := by
    split_ifs with hnil
    · simp
    · exact hnil
  have hpos : ∀ rr ∈ (if rrRatios = [] then [2, 3, 9 / 2] else rrRatios), (0 : ℚ) < rr := by
    split_ifs
    · simp
    · exact hrr
  unfold calculate
  dsimp only
  generalize (if rrRatios = [] then [2, 3, 9 / 2] else rrRatios) = ratios at hne hpos
  by_cases hmulti : style = "multi_level"
  · rw [if_pos hmulti]
    exact iff_of_true (multiLevel_wins hrisk hne hpos) (fun hatr => by simp [hmulti] at hatr)
  · rw [if_neg hmulti]
    by_cases hliquidity : style = "liquidity_target" ∨ style = "resistance"
    · rw [if_pos hliquidity]
      refine iff_of_true (liquidityTarget_wins hrisk) (fun hatr => ?_)
      simp [hatr] at hliquidity
    · rw [if_neg hliquidity]
      by_cases hatr : style = "atr_expansion"
      · rw [if_pos hatr, atrExpansion_iff hrisk]
        simp [hatr]
      · rw [if_neg hatr]
        cases ratios with
        | nil => exact absurd rfl hne
        | cons rr rest =>
            exact iff_of_true (fixedRr_wins hrisk (hpos rr (by simp))) (fun h => absurd h hatr)

end TakeProfitCalculator

/-! ## Both -/

/-- What a stop and its targets are asked for. -/
structure Request where
  slCalc : StopLossCalculator
  style : String
  tpStyle : String
  rrRatios : List ℚ
  tpWindow : ℕ := 3
  candles : ∀ c ∈ slCalc.df, c.Valid ∧ 0 < c.low
  valid : slCalc.Valid
  ratios : ∀ rr ∈ rrRatios, 0 < rr

namespace Request

variable (r : Request)

/-- The targets are calculated with the stop. -/
def tpCalc : TakeProfitCalculator :=
  { df := r.slCalc.df
    side := r.slCalc.side
    entry := r.slCalc.entry
    sl := (r.slCalc.calculate r.style).price
    swingWindow := r.tpWindow }

/-- The stop is on the losing side of the entry, the targets on the winning side. -/
structure RightSides : Prop where
  stop : OnLosingSide r.slCalc.side r.slCalc.entry (r.slCalc.calculate r.style).price
  targets : r.tpCalc.Wins (r.tpCalc.calculate r.tpStyle r.rrRatios)

variable {r} in
theorem risk_pos
    (h : OnLosingSide r.slCalc.side r.slCalc.entry (r.slCalc.calculate r.style).price) :
    0 < r.tpCalc.risk := by
  have hne : r.slCalc.entry ≠ (r.slCalc.calculate r.style).price := by
    unfold OnLosingSide at h
    cases hside : r.slCalc.side with
    | long =>
        rw [hside] at h
        exact h.2.ne'
    | short =>
        rw [hside] at h
        exact h.2.ne
  exact abs_pos.mpr (sub_ne_zero.mpr hne)

/-- Both are on the right side exactly if the stop's style clears, and the frame moves
where the targets are multiples of its ATR. -/
theorem rightSides_iff : r.RightSides ↔
    r.slCalc.Clears r.style ∧
      (r.tpStyle = "atr_expansion" → 2 ≤ r.slCalc.df.length → Moves r.slCalc.df) := by
  constructor
  · intro h
    exact ⟨(StopLossCalculator.calculate_iff r.valid r.style).mp h.stop,
      (TakeProfitCalculator.calculate_wins_iff (risk_pos h.stop) r.tpStyle r.ratios).mp h.targets⟩
  · intro h
    have hstop := (StopLossCalculator.calculate_iff r.valid r.style).mpr h.1
    exact ⟨hstop,
      (TakeProfitCalculator.calculate_wins_iff (risk_pos hstop) r.tpStyle r.ratios).mpr h.2⟩

end Request

/-! ### A price below the average -/

/-- A long entered at 100 after candles at 110. -/
def belowVwap : Request where
  slCalc :=
    { df := [⟨⟨110, 111, 109, 110, 1, 0⟩, 0⟩, ⟨⟨110, 111, 109, 110, 1, 1⟩, 1⟩]
      side := .long
      entry := 100 }
  style := "vwap"
  tpStyle := "fixed_rr"
  rrRatios := [2]
  candles := by
    intro c hc
    simp only [List.mem_cons, List.not_mem_nil, or_false] at hc
    rcases hc with rfl | rfl <;> exact ⟨⟨by norm_num, by norm_num, by norm_num, by norm_num⟩, by norm_num⟩
  valid := ⟨by norm_num, by norm_num, by norm_num, by norm_num⟩
  ratios := by simp

theorem belowVwap_wrong : ¬ ∀ r : Request, r.RightSides := by
  intro h
  have hstop := (h belowVwap).stop
  have hprice : (belowVwap.slCalc.calculate belowVwap.style).price = 109 := by decide +kernel
  rw [hprice] at hstop
  exact absurd hstop.2 (by decide +kernel)

end CryptoTrader.SlTp
