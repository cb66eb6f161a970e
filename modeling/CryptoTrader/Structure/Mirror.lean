import CryptoTrader.Structure.Records
import Mathlib.Algebra.Order.Group.MinMax
import Mathlib.Tactic.Linarith

/-!
# The mirrored series

The candles turned upside down, and what the scan makes of them.  Every part of the
loop body commutes with the reflection; the source writes the bullish branch before
the bearish one, which matters where a candle does both.
-/

namespace CryptoTrader.Structure

open CryptoTrader.Lib

/-! ## Reflections -/

/-- Open, high, low and close are replaced by the negated open, low, high and close. -/
def Candle.reflect (c : Candle) : Candle :=
  { c with
    open_ := -c.open_
    high := -c.low
    low := -c.high
    close := -c.close }

def Swing.mirror (sw : Swing) : Swing := { sw with price := -sw.price }

def Break.mirror (e : Break) : Break :=
  { e with
    type := e.type.flip
    swingPrice := -e.swingPrice
    breakPrice := -e.breakPrice }

def OrderBlock.mirror (ob : OrderBlock) : OrderBlock :=
  { ob with
    type := ob.type.flip
    high := -ob.low
    low := -ob.high
    open_ := -ob.open_
    close := -ob.close }

def Sweep.mirror (e : Sweep) : Sweep :=
  { e with
    type := e.type.flip
    swingPrice := -e.swingPrice
    sweptPrice := -e.sweptPrice }

def Fvg.mirror (gap : Fvg) : Fvg :=
  { gap with
    type := gap.type.flip
    top := -gap.bottom
    bottom := -gap.top }

def PriceAction.mirror (p : PriceAction) : PriceAction :=
  { p with side := p.side.flip, price := -p.price }

def Recent.map {α β : Type} (f : α → β) (r : Recent α) : Recent β := ⟨f r.event, r.candlesAgo⟩

/-- The mirror image of a result. -/
def Analysis.mirror (a : Analysis) : Analysis :=
  { swingHighsCount := a.swingLowsCount
    swingLowsCount := a.swingHighsCount
    activeSwingHighs := a.activeSwingLows.map Swing.mirror
    activeSwingLows := a.activeSwingHighs.map Swing.mirror
    recentBos := a.recentBos.map (Recent.map Break.mirror)
    recentChoch := a.recentChoch.map (Recent.map Break.mirror)
    trendBias := a.trendBias.map Bias.flip
    recentSweep := a.recentSweep.map (Recent.map Sweep.mirror)
    unmitigatedOrderBlocks := a.unmitigatedOrderBlocks.map OrderBlock.mirror
    unmitigatedFvgs := a.unmitigatedFvgs.map Fvg.mirror
    priceActionSignals := a.priceActionSignals.map PriceAction.mirror }

/-! ## Candles -/

/-- The open and the close lie within the range. -/
structure Candle.Valid (c : Candle) : Prop where
  low_le_open : c.low ≤ c.open_
  open_le_high : c.open_ ≤ c.high
  low_le_close : c.low ≤ c.close
  close_le_high : c.close ≤ c.high

section Bars

variable (df : List Candle) (dir : Bias)

theorem extreme_reflect (c : Candle) : dir.flip.extreme c.reflect = -dir.extreme c := by
  cases dir <;> rfl

@[simp] theorem beyond_flip_neg (a b : ℚ) : dir.flip.beyond (-a) (-b) = dir.beyond a b := by
  cases dir <;> simp [Bias.beyond, Bias.flip]

theorem bar_reflect (k : ℕ) : bar (df.map Candle.reflect) k = (bar df k).reflect := by
  unfold bar
  by_cases hk : k < df.length
  · simp [List.getD, hk]
  · have hdefault : (default : Candle).reflect = default := by decide +kernel
    simp [List.getD, hk, hdefault]

/-- A missing candle counts as a valid one. -/
theorem bar_valid (hvalid : ∀ c ∈ df, c.Valid) (k : ℕ) : (bar df k).Valid := by
  unfold bar
  by_cases hk : k < df.length
  · simp only [List.getD, List.getElem?_eq_getElem hk, Option.getD_some]
    exact hvalid _ (List.getElem_mem hk)
  · simp only [List.getD, List.getElem?_eq_none (not_lt.mp hk), Option.getD_none]
    exact ⟨by decide +kernel, by decide +kernel, by decide +kernel, by decide +kernel⟩

theorem Candle.Valid.close_within {c : Candle} (h : c.Valid) :
    dir.beyond c.close (dir.extreme c) = false := by
  cases dir with
  | bullish => exact Bias.not_bullish_beyond.mpr h.close_le_high
  | bearish => exact Bias.not_bearish_beyond.mpr h.low_le_close

end Bars

/-! ## Swings of the mirrored series -/

section Windows

theorem min?_map_neg (l : List ℚ) : (l.map (fun x => -x)).min? = l.max?.map (fun x => -x) := by
  cases l with
  | nil => rfl
  | cons a rest =>
      have hfold : ∀ (rest : List ℚ) (a : ℚ),
          (rest.map (fun x => -x)).foldl min (-a) = -rest.foldl max a := by
        intro rest
        induction rest with
        | nil => exact fun a => rfl
        | cons b rest ih =>
            intro a
            rw [List.map_cons, List.foldl_cons, List.foldl_cons, min_neg_neg, ih]
      rw [List.map_cons, List.min?_cons', List.max?_cons', hfold]
      rfl

theorem max?_map_neg (l : List ℚ) : (l.map (fun x => -x)).max? = l.min?.map (fun x => -x) := by
  have hmin := min?_map_neg (l.map (fun x => -x))
  rw [List.map_map] at hmin
  have hid : ((fun x : ℚ => -x) ∘ fun x => -x) = id := by
    funext x
    simp
  rw [hid, List.map_id] at hmin
  rw [hmin, Option.map_map, hid, Option.map_id]
  rfl

variable (df : List Candle) (w : ℕ)

theorem window_reflect (target : ℕ) (column column' : Candle → ℚ)
    (h : ∀ c : Candle, column' c.reflect = -column c) :
    window (df.map Candle.reflect) w target column' =
      (window df w target column).map (fun x => -x) := by
  unfold window slice
  rw [← List.map_take, ← List.map_drop, List.map_map, List.map_map]
  exact List.map_congr_left (fun c _ => h c)

theorem isSwing_reflect (dir : Bias) (target : ℕ) :
    isSwing (df.map Candle.reflect) w dir.flip target = isSwing df w dir target := by
  have hinj : ∀ a b : Option ℚ, a.map (fun x => -x) = b.map (fun x => -x) ↔ a = b := by
    intro a b
    exact (Option.map_injective neg_injective).eq_iff
  have hsome : ∀ (a : Option ℚ) (b : ℚ), a.map (fun x => -x) = some (-b) ↔ a = some b := by
    intro a b
    exact hinj a (some b)
  cases dir with
  | bullish =>
      have hwindow := window_reflect df w target (·.high) (·.low) (fun c => rfl)
      simp only [isSwing, Bias.flip, isSwingHigh, isSwingLow, hwindow, min?_map_neg, max?_map_neg,
        bar_reflect, Candle.reflect, hsome, ne_eq, hinj]
      exact decide_eq_decide.mpr (and_congr_right (fun _ => not_congr eq_comm))
  | bearish =>
      have hwindow := window_reflect df w target (·.low) (·.high) (fun c => rfl)
      simp only [isSwing, Bias.flip, isSwingHigh, isSwingLow, hwindow, min?_map_neg, max?_map_neg,
        bar_reflect, Candle.reflect, hsome, ne_eq, hinj]
      exact decide_eq_decide.mpr (and_congr_right (fun _ => not_congr eq_comm))

end Windows

/-! ## A candle breaks one way -/

section OneSided

variable {df : List Candle} {w k : ℕ} {dir : Bias}

theorem mem_window {target m : ℕ} (hlow : target - w ≤ m) (hhigh : m ≤ target + w)
    (hlen : m < df.length) (column : Candle → ℚ) :
    column (bar df m) ∈ window df w target column := by
  have hslice : bar df m ∈ slice df (target - w) (target + w + 1) := by
    unfold slice
    rw [List.mem_drop_iff_getElem]
    refine ⟨m - (target - w), ?_, ?_⟩
    · simp
      omega
    · have hindex : target - w + (m - (target - w)) = m := by omega
      simp [bar, List.getD, hindex, hlen]
  exact List.mem_map.mpr ⟨_, hslice, rfl⟩

/-- No candle of the window goes beyond the swing. -/
theorem isSwing_within {target m : ℕ} (h : isSwing df w dir target = true)
    (hlow : target - w ≤ m) (hhigh : m ≤ target + w) (hlen : m < df.length) :
    dir.beyond (dir.extreme (bar df m)) (dir.extreme (bar df target)) = false := by
  cases dir with
  | bullish =>
      have hmax := (of_decide_eq_true h).1
      have hle := (List.max?_eq_some_iff.mp hmax).2 _ (mem_window hlow hhigh hlen (·.high))
      exact Bias.not_bullish_beyond.mpr hle
  | bearish =>
      have hmin := (of_decide_eq_true h).1
      have hle := (List.min?_eq_some_iff.mp hmin).2 _ (mem_window hlow hhigh hlen (·.low))
      exact Bias.not_bearish_beyond.mpr hle

/-- While a swing is unbroken no candle since has closed beyond it. -/
theorem not_beyond_of_unbroken (hvalid : ∀ c ∈ df, c.Valid) (hk : k ≤ df.length) {i m : ℕ}
    (hconfirms : confirmsAt df w dir i = true)
    (hunbroken : firstHit (breaksAt df w dir (i - w)) k = none) (him : i - w ≤ m) (hmk : m < k) :
    dir.beyond (bar df m).close (dir.extreme (bar df (i - w))) = false := by
  obtain ⟨hi, hswing⟩ := of_decide_eq_true hconfirms
  by_cases hlate : i ≤ m ∧ i - w < m
  · have hquiet := firstHit_eq_none_iff.mp hunbroken m hmk
    have hconfirmed : i - w + w ≤ m := by omega
    simpa [breaksAt, hconfirmed, hlate.2] using hquiet
  · have hwithin := isSwing_within hswing (m := m) (by omega) (by omega) (by omega)
    have hclose := (bar_valid df hvalid m).close_within dir
    cases dir with
    | bullish =>
        rw [Bias.not_bullish_beyond] at hwithin hclose ⊢
        exact hclose.trans hwithin
    | bearish =>
        rw [Bias.not_bearish_beyond] at hwithin hclose ⊢
        exact hwithin.trans hclose

/-- No candle closes above an unbroken swing high and below an unbroken swing low: at the
later of the two the close is on the right side of both. -/
theorem breaks_one_side (hvalid : ∀ c ∈ df, c.Valid) (hk : k < df.length)
    {high low : Swing} (hhigh : high ∈ confirmed df w k (scanTo df w k) .bullish)
    (hlow : low ∈ confirmed df w k (scanTo df w k) .bearish)
    (hbull : high.brokenBy k .bullish (bar df k) = true) :
    low.brokenBy k .bearish (bar df k) = false := by
  rw [Bool.eq_false_iff]
  intro hbear
  obtain ⟨i, -, hconfirms, rfl⟩ := mem_confirmed.mp hhigh
  obtain ⟨j, -, hconfirms', rfl⟩ := mem_confirmed.mp hlow
  obtain ⟨hunbroken, habove, hi⟩ := Swing.brokenBy_iff.mp hbull
  obtain ⟨hunbroken', hbelow, hj⟩ := Swing.brokenBy_iff.mp hbear
  have hlast : max (i - w) (j - w) < k := max_lt hi hj
  have hnotAbove := not_beyond_of_unbroken hvalid hk.le hconfirms hunbroken
    (le_max_left (i - w) (j - w)) hlast
  have hnotBelow := not_beyond_of_unbroken hvalid hk.le hconfirms' hunbroken'
    (le_max_right (i - w) (j - w)) hlast
  rw [Bias.bullish_beyond] at habove
  rw [Bias.bearish_beyond] at hbelow
  rw [Bias.not_bullish_beyond] at hnotAbove
  rw [Bias.not_bearish_beyond] at hnotBelow
  exact absurd (habove.trans (hbelow.trans_le hnotBelow)) (not_lt.mpr hnotAbove)

/-- Nor does it leave a gap above and one below. -/
theorem gaps_one_side (hvalid : ∀ c ∈ df, c.Valid) (k : ℕ) :
    newGap df k .bullish = [] ∨ newGap df k .bearish = [] := by
  have hnow := bar_valid df hvalid k
  have hbefore := bar_valid df hvalid (k - 2)
  have hnow' := hnow.low_le_close.trans hnow.close_le_high
  have hbefore' := hbefore.low_le_close.trans hbefore.close_le_high
  unfold newGap gapAt
  by_cases hk : 2 ≤ k
  · by_cases hup : (bar df (k - 2)).high < (bar df k).low
    · have hdown : ¬ (bar df k).high < (bar df (k - 2)).low := by linarith
      exact Or.inr (by simp [hdown])
    · exact Or.inl (by simp [hup])
  · exact Or.inl (by simp [hk])

end OneSided

/-! ## Each part, mirrored -/

section Parts

variable (df : List Candle) (w i : ℕ) (dir : Bias)

theorem brokenBy_mirror (c : Candle) (sw : Swing) :
    sw.mirror.brokenBy i dir.flip c.reflect = sw.brokenBy i dir c := by
  have hbeyond := beyond_flip_neg dir c.close sw.price
  unfold Swing.brokenBy
  rw [show sw.mirror.price = -sw.price from rfl, show c.reflect.close = -c.close from rfl, hbeyond]
  rfl

theorem sweptBy_mirror (c : Candle) (sw : Swing) :
    sw.mirror.sweptBy i dir.flip c.reflect = sw.sweptBy i dir c := by
  have hclose := beyond_flip_neg dir c.close sw.price
  have hwick := beyond_flip_neg dir.flip (dir.flip.extreme c) sw.price
  unfold Swing.sweptBy
  rw [show sw.mirror.price = -sw.price from rfl, show c.reflect.close = -c.close from rfl, hclose,
    extreme_reflect dir.flip c, hwick]
  rfl

theorem mark_mirror (c : Candle) (sw : Swing) :
    sw.mirror.mark i dir.flip c.reflect = (sw.mark i dir c).mirror := by
  unfold Swing.mark
  rw [brokenBy_mirror]
  split_ifs
  · rfl
  · rfl

theorem newSwing_reflect (swings : List Swing) :
    newSwing (df.map Candle.reflect) w i dir.flip (swings.map Swing.mirror) =
      (newSwing df w i dir swings).map Swing.mirror := by
  have hany : (swings.map Swing.mirror).any (·.index = i - w) =
      swings.any (·.index = i - w) := List.any_map
  unfold newSwing
  dsimp only
  rw [isSwing_reflect, hany]
  split_ifs
  · simp [Swing.mirror, bar_reflect, extreme_reflect]
    rfl
  · rfl

theorem newSweeps_reflect (swings : List Swing) :
    newSweeps (df.map Candle.reflect) i dir.flip (swings.map Swing.mirror) =
      (newSweeps df i dir swings).map Sweep.mirror := by
  have hswept : (Swing.sweptBy i dir.flip (bar df i).reflect) ∘ Swing.mirror =
      Swing.sweptBy i dir (bar df i) := by
    funext sw
    exact sweptBy_mirror i dir (bar df i) sw
  unfold newSweeps
  dsimp only
  rw [bar_reflect, List.filter_map, hswept, List.map_map, List.map_map]
  refine List.map_congr_left (fun sw _ => ?_)
  have hwick := extreme_reflect dir.flip (bar df i)
  rw [Bias.flip_flip] at hwick
  simp only [Function.comp_apply, Swing.mirror, Sweep.mirror, Bias.flip_flip, hwick]
  rfl

theorem obIndex_reflect : obIndex (df.map Candle.reflect) i dir.flip = obIndex df i dir := by
  unfold obIndex
  refine congrArg (fun p => List.find? p _) (funext (fun k => ?_))
  rw [bar_reflect]
  exact beyond_flip_neg dir.flip _ _

theorem addOrderBlock_reflect (blocks : List OrderBlock) :
    addOrderBlock (df.map Candle.reflect) i dir.flip (blocks.map OrderBlock.mirror) =
      (addOrderBlock df i dir blocks).map OrderBlock.mirror := by
  unfold addOrderBlock
  rw [obIndex_reflect]
  cases obIndex df i dir with
  | none => rfl
  | some k =>
      have hany : (blocks.map OrderBlock.mirror).any (fun ob => ob.index = k ∧ ob.type = dir.flip) =
          blocks.any (fun ob => ob.index = k ∧ ob.type = dir) := by
        rw [List.any_map]
        congr 1
        funext ob
        exact decide_eq_decide.mpr (and_congr Iff.rfl Bias.flip_inj)
      dsimp only
      rw [hany]
      split_ifs
      · rfl
      · simp [OrderBlock.mirror, bar_reflect, Candle.reflect]

theorem markBlock_mirror (ob : OrderBlock) :
    ob.mirror.mark i (bar (df.map Candle.reflect) i) = (ob.mark i (bar df i)).mirror := by
  have htouched : ob.mirror.touchedAt (df.map Candle.reflect) = ob.touchedAt df := by
    funext k
    unfold OrderBlock.touchedAt
    rw [bar_reflect]
    cases htype : ob.type <;>
      simp [OrderBlock.touchedBy, OrderBlock.mirror, Candle.reflect, htype, Bias.flip]
  rw [OrderBlock.mark_eq, OrderBlock.mark_eq, htouched]
  rfl

theorem markGap_mirror (gap : Fvg) :
    gap.mirror.mark i (bar (df.map Candle.reflect) i) = (gap.mark i (bar df i)).mirror := by
  have htouched : gap.mirror.touchedAt (df.map Candle.reflect) = gap.touchedAt df := by
    funext k
    unfold Fvg.touchedAt
    rw [bar_reflect]
    cases htype : gap.type <;>
      simp [Fvg.touchedBy, Fvg.mirror, Candle.reflect, htype, Bias.flip]
  rw [Fvg.mark_eq, Fvg.mark_eq, htouched]
  rfl

theorem newGap_reflect :
    newGap (df.map Candle.reflect) i dir.flip = (newGap df i dir).map Fvg.mirror := by
  unfold newGap gapAt
  by_cases hi : 2 ≤ i
  · simp only [if_pos hi, bar_reflect]
    cases dir with
    | bullish =>
        by_cases hgap : (bar df (i - 2)).high < (bar df i).low
        · simp [Bias.flip, Candle.reflect, hgap, Fvg.mirror]
        · simp [Bias.flip, Candle.reflect, hgap]
    | bearish =>
        by_cases hgap : (bar df i).high < (bar df (i - 2)).low
        · simp [Bias.flip, Candle.reflect, hgap, Fvg.mirror]
        · simp [Bias.flip, Candle.reflect, hgap]
  · simp [hi]

end Parts

end CryptoTrader.Structure
