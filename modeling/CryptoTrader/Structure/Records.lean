import CryptoTrader.Lib.FirstHit
import CryptoTrader.Structure.Scan

/-!
# What the scan records

Each part of the loop body changes lists of its own: a lemma for each says which,
and the lists after a whole step follow.  Swings, order blocks and gaps have a
closed form: where they arise is fixed by the candles, and they end at the first
candle that breaks or touches them.
-/

namespace CryptoTrader.Structure

open CryptoTrader.Lib

@[simp] theorem Bias.flip_flip (dir : Bias) : dir.flip.flip = dir := by cases dir <;> rfl

theorem Bias.flip_inj {a b : Bias} : a.flip = b.flip ↔ a = b := by
  cases a <;> cases b <;> decide

theorem Bias.flip_ne (dir : Bias) : dir.flip ≠ dir := by cases dir <;> decide

theorem Bias.eq_or_eq_flip (dir other : Bias) : other = dir ∨ other = dir.flip := by
  cases dir <;> cases other <;> decide

section Beyond

variable {a b : ℚ}

theorem Bias.bullish_beyond : Bias.bullish.beyond a b = true ↔ b < a := decide_eq_true_iff

theorem Bias.bearish_beyond : Bias.bearish.beyond a b = true ↔ a < b := decide_eq_true_iff

theorem Bias.not_bullish_beyond : Bias.bullish.beyond a b = false ↔ a ≤ b :=
  decide_eq_false_iff_not.trans not_lt

theorem Bias.not_bearish_beyond : Bias.bearish.beyond a b = false ↔ b ≤ a :=
  decide_eq_false_iff_not.trans not_lt

end Beyond

theorem Swing.brokenBy_iff {i : ℕ} {dir : Bias} {c : Candle} {sw : Swing} :
    sw.brokenBy i dir c = true ↔
      sw.breakIndex = none ∧ dir.beyond c.close sw.price = true ∧ sw.index < i := by
  simp [Swing.brokenBy, Swing.broken]

theorem Swing.sweptBy_iff {i : ℕ} {dir : Bias} {c : Candle} {sw : Swing} :
    sw.sweptBy i dir c = true ↔
      sw.breakIndex = none ∧ sw.index < i ∧
        dir.flip.beyond (dir.flip.extreme c) sw.price = true ∧
          dir.beyond c.close sw.price = true := by
  simp [Swing.sweptBy, Swing.broken]

/-! ## What each part changes -/

namespace Scan

variable (s : Scan) (dir : Bias) (swings : List Swing)

@[simp] theorem swings_setSwings : (s.setSwings dir swings).swings dir = swings := by
  cases dir <;> rfl

theorem swings_setSwings_of_ne {other : Bias} (h : other ≠ dir) :
    (s.setSwings dir swings).swings other = s.swings other := by
  cases dir <;> cases other <;> first | rfl | exact absurd rfl h

@[simp] theorem bosEvents_setSwings : (s.setSwings dir swings).bosEvents = s.bosEvents := by
  cases dir <;> rfl

@[simp] theorem orderBlocks_setSwings : (s.setSwings dir swings).orderBlocks = s.orderBlocks := by
  cases dir <;> rfl

@[simp] theorem sweepEvents_setSwings : (s.setSwings dir swings).sweepEvents = s.sweepEvents := by
  cases dir <;> rfl

@[simp] theorem fvgs_setSwings : (s.setSwings dir swings).fvgs = s.fvgs := by cases dir <;> rfl

@[simp] theorem trendBias_setSwings : (s.setSwings dir swings).trendBias = s.trendBias := by
  cases dir <;> rfl

/-- A scan is its six lists and its bias. -/
theorem eq_of {s t : Scan} (hswings : ∀ dir, s.swings dir = t.swings dir)
    (hbos : s.bosEvents = t.bosEvents) (hblocks : s.orderBlocks = t.orderBlocks)
    (hsweeps : s.sweepEvents = t.sweepEvents) (hgaps : s.fvgs = t.fvgs)
    (hbias : s.trendBias = t.trendBias) : s = t := by
  have hhighs := hswings .bullish
  have hlows := hswings .bearish
  cases s
  cases t
  simp_all [Scan.swings]

end Scan

section Parts

variable (df : List Candle) (w i : ℕ) (dir other : Bias) (s : Scan)

/-- The swing a candle confirms, if it confirms one. -/
def newSwing (swings : List Swing) : List Swing :=
  let target := i - w
  if 2 * w ≤ i ∧ isSwing df w dir target ∧ ¬ swings.any (·.index = target) then
    [{ index := target
       price := dir.extreme (bar df target)
       time := (bar df target).openTime }]
  else []

variable {df w i dir} in
theorem mem_newSwing {swings : List Swing} {sw : Swing} (h : sw ∈ newSwing df w i dir swings) :
    2 * w ≤ i ∧ sw.index = i - w ∧ sw.breakIndex = none := by
  unfold newSwing at h
  dsimp only at h
  split at h
  · rename_i hconfirms
    rw [List.mem_singleton] at h
    rw [h]
    exact ⟨hconfirms.1, rfl, rfl⟩
  · cases h

theorem confirm_eq : confirm df w i dir s =
    s.setSwings dir (s.swings dir ++ newSwing df w i dir (s.swings dir)) := by
  unfold confirm newSwing
  dsimp only
  split_ifs
  · rfl
  · rw [List.append_nil]
    cases dir <;> rfl

/-- The sweeps of the swings of the other side. -/
def newSweeps (swings : List Swing) : List Sweep :=
  let c := bar df i
  (swings.filter (Swing.sweptBy i dir c)).map
    (fun sw =>
      { index := i
        type := dir
        swingIndex := sw.index
        swingPrice := sw.price
        sweptPrice := dir.flip.extreme c
        time := c.openTime })

variable {df i dir} in
theorem mem_newSweeps {swings : List Swing} {e : Sweep} (h : e ∈ newSweeps df i dir swings) :
    e.index = i ∧ e.type = dir := by
  obtain ⟨sw, -, rfl⟩ := List.mem_map.mp h
  exact ⟨rfl, rfl⟩

theorem sweep_eq : sweep df i dir s =
    { s with sweepEvents := s.sweepEvents ++ newSweeps df i dir (s.swings dir.flip) } := rfl

@[simp] theorem swings_sweep : (sweep df i dir s).swings other = s.swings other := by
  cases other <;> rfl

@[simp] theorem swings_mitigateBlocks : (mitigateBlocks df i s).swings other = s.swings other := by
  cases other <;> rfl

@[simp] theorem swings_mitigateGaps : (mitigateGaps df i s).swings other = s.swings other := by
  cases other <;> rfl

/-- The gap a candle closes off, if there is one. -/
def newGap : List Fvg := if 2 ≤ i then (gapAt df i dir).toList else []

theorem detectGap_eq : detectGap df i dir s = { s with fvgs := s.fvgs ++ newGap df i dir } := by
  unfold detectGap newGap
  split_ifs
  · rfl
  · rw [List.append_nil]

@[simp] theorem swings_detectGap : (detectGap df i dir s).swings other = s.swings other := by
  rw [detectGap_eq]
  cases other <;> rfl

@[simp] theorem swings_recordBreak (sw : Swing) :
    (recordBreak df i dir s sw).swings other = s.swings other := by
  cases other <;> rfl

/-- What recording one break keeps, recording all of them keeps. -/
theorem breakSwings_rec {P : Scan → Prop}
    (hstart : P (s.setSwings dir ((s.swings dir).map (Swing.mark i dir (bar df i)))))
    (hrecord : ∀ t, ∀ sw ∈ (s.swings dir).filter (Swing.brokenBy i dir (bar df i)), P t →
      P (recordBreak df i dir t sw)) : P (breakSwings df i dir s) := by
  unfold breakSwings
  exact List.foldlRecOn _ _ hstart (fun t ht sw hsw => hrecord t sw hsw ht)

theorem swings_breakSwings_self : (breakSwings df i dir s).swings dir =
    (s.swings dir).map (Swing.mark i dir (bar df i)) :=
  breakSwings_rec df i dir s (P := fun t => t.swings dir = _) (s.swings_setSwings dir _)
    (fun t sw _ ht => by rw [swings_recordBreak, ht])

theorem swings_breakSwings_of_ne (h : other ≠ dir) :
    (breakSwings df i dir s).swings other = s.swings other :=
  breakSwings_rec df i dir s (P := fun t => t.swings other = _) (s.swings_setSwings_of_ne dir _ h)
    (fun t sw _ ht => by rw [swings_recordBreak, ht])

@[simp] theorem sweepEvents_breakSwings :
    (breakSwings df i dir s).sweepEvents = s.sweepEvents :=
  breakSwings_rec df i dir s (P := fun t => t.sweepEvents = _) (s.sweepEvents_setSwings dir _)
    (fun _ _ _ ht => ht)

@[simp] theorem fvgs_breakSwings : (breakSwings df i dir s).fvgs = s.fvgs :=
  breakSwings_rec df i dir s (P := fun t => t.fvgs = _) (s.fvgs_setSwings dir _) (fun _ _ _ ht => ht)

end Parts

/-! ## The lists after a step -/

section Lists

variable (df : List Candle) (w i : ℕ) (dir : Bias) (s : Scan)

/-- The swings once the candle has confirmed its own. -/
def confirmed (dir : Bias) : List Swing := s.swings dir ++ newSwing df w i dir (s.swings dir)

theorem swings_confirm :
    (confirm df w i .bearish (confirm df w i .bullish s)).swings dir = confirmed df w i s dir := by
  cases dir with
  | bullish =>
      rw [confirm_eq df w i .bearish, Scan.swings_setSwings_of_ne _ _ _ (by decide), confirm_eq,
        Scan.swings_setSwings]
      rfl
  | bearish =>
      rw [confirm_eq df w i .bearish, Scan.swings_setSwings, confirm_eq,
        Scan.swings_setSwings_of_ne _ _ _ (by decide)]
      rfl

theorem swings_step :
    (step df w s i).swings dir = (confirmed df w i s dir).map (Swing.mark i dir (bar df i)) := by
  unfold step
  dsimp only
  rw [swings_mitigateGaps, swings_detectGap, swings_detectGap, swings_mitigateBlocks]
  cases dir with
  | bullish =>
      rw [swings_breakSwings_of_ne _ _ _ _ _ (by decide), swings_breakSwings_self, swings_sweep,
        swings_sweep, swings_confirm]
  | bearish =>
      rw [swings_breakSwings_self, swings_breakSwings_of_ne _ _ _ _ _ (by decide), swings_sweep,
        swings_sweep, swings_confirm]

theorem sweepEvents_step : (step df w s i).sweepEvents =
    s.sweepEvents ++ newSweeps df i .bullish (confirmed df w i s .bearish) ++
      newSweeps df i .bearish (confirmed df w i s .bullish) := by
  have hbefore : (confirm df w i .bearish (confirm df w i .bullish s)).sweepEvents =
      s.sweepEvents := by
    simp [confirm_eq]
  have hlows := swings_confirm df w i .bearish s
  have hhighs := swings_confirm df w i .bullish s
  unfold step
  simp only [mitigateGaps, detectGap_eq, mitigateBlocks, sweepEvents_breakSwings, sweep_eq,
    hbefore]
  congr 2
  exact congrArg (newSweeps df i .bullish) hlows

theorem fvgs_step : (step df w s i).fvgs =
    (s.fvgs ++ newGap df i .bullish ++ newGap df i .bearish).map (Fvg.mark i (bar df i)) := by
  unfold step
  simp only [mitigateGaps, detectGap_eq, mitigateBlocks, fvgs_breakSwings, sweep_eq, confirm_eq,
    Scan.fvgs_setSwings]

end Lists

/-- The scan when the loop body comes to the breaks. -/
def swept (df : List Candle) (w i : ℕ) (s : Scan) : Scan :=
  sweep df i .bearish (sweep df i .bullish (confirm df w i .bearish (confirm df w i .bullish s)))

section Swept

variable (df : List Candle) (w i : ℕ) (s : Scan)

@[simp] theorem swings_swept (dir : Bias) :
    (swept df w i s).swings dir = confirmed df w i s dir := by
  rw [swept, swings_sweep, swings_sweep, swings_confirm]

@[simp] theorem bosEvents_swept : (swept df w i s).bosEvents = s.bosEvents := by
  simp [swept, sweep_eq, confirm_eq]

@[simp] theorem orderBlocks_swept : (swept df w i s).orderBlocks = s.orderBlocks := by
  simp [swept, sweep_eq, confirm_eq]

@[simp] theorem fvgs_swept : (swept df w i s).fvgs = s.fvgs := by
  simp [swept, sweep_eq, confirm_eq]

theorem sweepEvents_swept : (swept df w i s).sweepEvents =
    s.sweepEvents ++ newSweeps df i .bullish (confirmed df w i s .bearish) ++
      newSweeps df i .bearish (confirmed df w i s .bullish) := by
  rw [← sweepEvents_step]
  simp [step, mitigateGaps, detectGap_eq, mitigateBlocks, swept]

@[simp] theorem trendBias_swept : (swept df w i s).trendBias = s.trendBias := by
  simp [swept, sweep_eq, confirm_eq]

theorem swings_step_swept (dir : Bias) : (step df w s i).swings dir =
    (breakSwings df i .bearish (breakSwings df i .bullish (swept df w i s))).swings dir := by
  simp [step, swept]

theorem bosEvents_step : (step df w s i).bosEvents =
    (breakSwings df i .bearish (breakSwings df i .bullish (swept df w i s))).bosEvents := by
  simp [step, mitigateGaps, detectGap_eq, mitigateBlocks, swept]

theorem trendBias_step : (step df w s i).trendBias =
    (breakSwings df i .bearish (breakSwings df i .bullish (swept df w i s))).trendBias := by
  simp [step, mitigateGaps, detectGap_eq, mitigateBlocks, swept]

theorem orderBlocks_step : (step df w s i).orderBlocks =
    (breakSwings df i .bearish (breakSwings df i .bullish (swept df w i s))).orderBlocks.map
      (OrderBlock.mark i (bar df i)) := by
  simp [step, mitigateGaps, detectGap_eq, mitigateBlocks, swept]

end Swept

/-! ## What the breaks add -/

/-- Breaks of a candle, and fresh blocks formed by it. -/
structure Grows (i : ℕ) (events : List Break) (blocks : List OrderBlock) : Prop where
  events : ∀ e ∈ events, e.index = i
  blocks : ∀ ob ∈ blocks, ob.formedIndex = i ∧ ob.mitigateIndex = none

theorem Grows.append {i : ℕ} {events events' : List Break} {blocks blocks' : List OrderBlock}
    (h : Grows i events blocks) (h' : Grows i events' blocks') :
    Grows i (events ++ events') (blocks ++ blocks') where
  events e he := (List.mem_append.mp he).elim (h.events e) (h'.events e)
  blocks ob hob := (List.mem_append.mp hob).elim (h.blocks ob) (h'.blocks ob)

section Growth

variable (df : List Candle) (w i : ℕ) (dir : Bias) (s : Scan)

/-- The event of a break. -/
def breakOf (sw : Swing) : Break :=
  { index := i
    type := dir
    event := if s.trendBias = some dir.flip then .choch else .bos
    swingIndex := sw.index
    swingPrice := sw.price
    breakPrice := (bar df i).close
    time := (bar df i).openTime }

theorem recordBreak_eq (sw : Swing) : recordBreak df i dir s sw =
    { s with
      bosEvents := s.bosEvents ++ [breakOf df i dir s sw]
      trendBias := some dir
      orderBlocks := addOrderBlock df i dir s.orderBlocks } := rfl

theorem addOrderBlock_grows (blocks : List OrderBlock) :
    ∃ new, (∀ ob ∈ new, ob.formedIndex = i ∧ ob.mitigateIndex = none) ∧
      addOrderBlock df i dir blocks = blocks ++ new := by
  unfold addOrderBlock
  split
  · exact ⟨[], by simp, by simp⟩
  · split
    · exact ⟨[], by simp, by simp⟩
    · exact ⟨_, by simp, rfl⟩

theorem breakSwings_grows : ∃ events blocks, Grows i events blocks ∧
    (breakSwings df i dir s).bosEvents = s.bosEvents ++ events ∧
    (breakSwings df i dir s).orderBlocks = s.orderBlocks ++ blocks := by
  refine breakSwings_rec df i dir s (P := fun t => ∃ events blocks, Grows i events blocks ∧
    t.bosEvents = s.bosEvents ++ events ∧ t.orderBlocks = s.orderBlocks ++ blocks) ?_ ?_
  · exact ⟨[], [], ⟨by simp, by simp⟩, by simp, by simp⟩
  · rintro t sw - ⟨events, blocks, hgrows, hevents, hblocks⟩
    obtain ⟨new, hnew, hadd⟩ := addOrderBlock_grows df i dir t.orderBlocks
    have hone : Grows i [breakOf df i dir t sw] new := ⟨by simp [breakOf], hnew⟩
    refine ⟨_, _, hgrows.append hone, ?_, ?_⟩
    · rw [recordBreak_eq, hevents, List.append_assoc]
    · rw [recordBreak_eq, hadd, hblocks, List.append_assoc]

theorem step_grows : ∃ events blocks, Grows i events blocks ∧
    (step df w s i).bosEvents = s.bosEvents ++ events ∧
    (step df w s i).orderBlocks = (s.orderBlocks ++ blocks).map (OrderBlock.mark i (bar df i)) := by
  obtain ⟨events, blocks, hbull, hevents, hblocks⟩ :=
    breakSwings_grows df i .bullish (swept df w i s)
  obtain ⟨events', blocks', hbear, hevents', hblocks'⟩ :=
    breakSwings_grows df i .bearish (breakSwings df i .bullish (swept df w i s))
  refine ⟨events ++ events', blocks ++ blocks', hbull.append hbear, ?_, ?_⟩
  · rw [bosEvents_step, hevents', hevents, bosEvents_swept, List.append_assoc]
  · rw [orderBlocks_step, hblocks', hblocks, orderBlocks_swept, List.append_assoc]

end Growth

/-- One more candle. -/
theorem scanTo_succ (df : List Candle) (w k : ℕ) :
    scanTo df w (k + 1) = step df w (scanTo df w k) k := by
  simp [scanTo, List.range_succ]

/-! ## Swings, in closed form -/

section Swings

variable (df : List Candle) (w : ℕ) (dir : Bias)

/-- The candle breaks the swing at an index, once the swing is confirmed. -/
def breaksAt (j i : ℕ) : Bool :=
  j + w ≤ i ∧ j < i ∧ dir.beyond (bar df i).close (dir.extreme (bar df j))

/-- The swing at an index as it stands after `k` candles. -/
def swingAt (k j : ℕ) : Swing :=
  { index := j
    price := dir.extreme (bar df j)
    time := (bar df j).openTime
    breakIndex := firstHit (breaksAt df w dir j) k }

/-- The candle confirms a swing. -/
def confirmsAt (i : ℕ) : Bool := 2 * w ≤ i ∧ isSwing df w dir (i - w)

/-- The swings as they stand after `k` candles. -/
def swingsAt (k : ℕ) : List Swing :=
  ((List.range k).filter (confirmsAt df w dir)).map (fun i => swingAt df w dir k (i - w))

variable {df w dir} {k : ℕ}

theorem mem_swingsAt {sw : Swing} : sw ∈ swingsAt df w dir k ↔
    ∃ i, i < k ∧ confirmsAt df w dir i ∧ swingAt df w dir k (i - w) = sw := by
  simp [swingsAt, and_assoc]

/-- A candle marks a confirmed swing exactly if it is the first to break it. -/
theorem mark_swingAt {j : ℕ} (h : j + w ≤ k) :
    (swingAt df w dir k j).mark k dir (bar df k) = swingAt df w dir (k + 1) j := by
  have hbreaks : (swingAt df w dir k j).brokenBy k dir (bar df k) =
      ((firstHit (breaksAt df w dir j) k).isNone && breaksAt df w dir j k) := by
    cases hfound : firstHit (breaksAt df w dir j) k with
    | none => simp [Swing.brokenBy, Swing.broken, swingAt, breaksAt, hfound, h, Bool.and_comm]
    | some i => simp [Swing.brokenBy, Swing.broken, swingAt, hfound]
  unfold Swing.mark
  rw [hbreaks]
  unfold swingAt
  rw [firstHit_succ]
  unfold latch
  cases hfound : firstHit (breaksAt df w dir j) k with
  | none =>
      cases hbroken : breaksAt df w dir j k with
      | false => simp
      | true => simp
  | some i => simp

/-- What a candle confirms is not in the list yet, and not broken. -/
theorem newSwing_swingsAt : newSwing df w k dir (swingsAt df w dir k) =
    if confirmsAt df w dir k then [swingAt df w dir k (k - w)] else [] := by
  have hnew : 2 * w ≤ k → (swingsAt df w dir k).any (fun sw => sw.index = k - w) = false := by
    intro hk
    rw [List.any_eq_false]
    intro sw hsw
    obtain ⟨i, hi, hconfirms, rfl⟩ := mem_swingsAt.mp hsw
    have hiw : 2 * w ≤ i := by
      simp only [confirmsAt, decide_eq_true_eq] at hconfirms
      exact hconfirms.1
    have hne : i - w ≠ k - w := by omega
    simp [swingAt, hne]
  have hunbroken : 2 * w ≤ k → firstHit (breaksAt df w dir (k - w)) k = none := by
    intro hk
    rw [firstHit_eq_none_iff]
    intro i hi
    have hearly : ¬ k - w + w ≤ i := by omega
    simp [breaksAt, hearly]
  unfold newSwing
  dsimp only
  by_cases hk : 2 * w ≤ k
  · by_cases hswing : isSwing df w dir (k - w) = true
    · simp [confirmsAt, hk, hswing, hnew hk, swingAt, hunbroken hk]
    · simp [confirmsAt, hswing]
  · simp [confirmsAt, hk]

/-- With its own swing, a candle has those confirmed up to it. -/
theorem swingsAt_append_newSwing :
    swingsAt df w dir k ++ newSwing df w k dir (swingsAt df w dir k) =
      ((List.range (k + 1)).filter (confirmsAt df w dir)).map
        (fun i => swingAt df w dir k (i - w)) := by
  rw [newSwing_swingsAt, List.range_succ, List.filter_append, List.map_append]
  congr 1
  by_cases hconfirms : confirmsAt df w dir k = true
  · simp [hconfirms]
  · simp [hconfirms]

/-- The swings after `k` candles are those confirmed so far, each broken by the first
candle that closes beyond it. -/
theorem swings_scanTo (df : List Candle) (w : ℕ) (dir : Bias) (k : ℕ) :
    (scanTo df w k).swings dir = swingsAt df w dir k := by
  induction k with
  | zero => cases dir <;> rfl
  | succ k ih =>
      have hmarks : ∀ i, i ∈ (List.range (k + 1)).filter (confirmsAt df w dir) →
          (swingAt df w dir k (i - w)).mark k dir (bar df k) = swingAt df w dir (k + 1) (i - w) := by
        intro i hi
        obtain ⟨hrange, hconfirms⟩ := List.mem_filter.mp hi
        have hik : i < k + 1 := List.mem_range.mp hrange
        have hiw : 2 * w ≤ i := by
          simp only [confirmsAt, decide_eq_true_eq] at hconfirms
          exact hconfirms.1
        exact mark_swingAt (by omega)
      rw [scanTo_succ, swings_step, confirmed, ih, swingsAt_append_newSwing, List.map_map]
      exact List.map_congr_left hmarks

/-- The swings that a candle may sweep or break. -/
theorem mem_confirmed {sw : Swing} : sw ∈ confirmed df w k (scanTo df w k) dir ↔
    ∃ i, i ≤ k ∧ confirmsAt df w dir i = true ∧ swingAt df w dir k (i - w) = sw := by
  rw [confirmed, swings_scanTo, swingsAt_append_newSwing]
  simp [and_assoc, Nat.lt_succ_iff]

end Swings

/-! ## Order blocks and gaps -/

section Touches

variable (df : List Candle)

/-- The candle touches the block after its formation. -/
def OrderBlock.touchedAt (ob : OrderBlock) (i : ℕ) : Bool :=
  ob.formedIndex < i ∧ ob.touchedBy (bar df i)

/-- The candle touches the gap after its formation. -/
def Fvg.touchedAt (gap : Fvg) (i : ℕ) : Bool := gap.index + 1 < i ∧ gap.touchedBy (bar df i)

/-- A block as it is kept until `k`: formed before, and mitigated by the first candle
that touches it. -/
structure OrderBlock.Kept (k : ℕ) (ob : OrderBlock) : Prop where
  formed : ob.formedIndex < k
  mitigated : ob.mitigateIndex = firstHit (ob.touchedAt df) k

structure Fvg.Kept (k : ℕ) (gap : Fvg) : Prop where
  formed : gap.index + 1 < k
  mitigated : gap.mitigateIndex = firstHit (gap.touchedAt df) k

variable {df} {k : ℕ}

theorem OrderBlock.mark_eq (ob : OrderBlock) : ob.mark k (bar df k) =
    { ob with mitigateIndex := latch (ob.touchedAt df) k ob.mitigateIndex } := by
  have hguard : (¬ ob.mitigated = true ∧ ob.formedIndex < k ∧ ob.touchedBy (bar df k) = true) ↔
      ob.mitigateIndex.isNone ∧ ob.touchedAt df k = true := by
    simp [OrderBlock.mitigated, OrderBlock.touchedAt]
  unfold OrderBlock.mark
  rw [latch_eq_ite]
  by_cases htouched : ob.mitigateIndex.isNone ∧ ob.touchedAt df k = true
  · rw [if_pos (hguard.mpr htouched), if_pos htouched]
  · rw [if_neg (mt hguard.mp htouched), if_neg htouched]

theorem Fvg.mark_eq (gap : Fvg) : gap.mark k (bar df k) =
    { gap with mitigateIndex := latch (gap.touchedAt df) k gap.mitigateIndex } := by
  have hguard : (¬ gap.mitigated = true ∧ gap.index + 1 < k ∧ gap.touchedBy (bar df k) = true) ↔
      gap.mitigateIndex.isNone ∧ gap.touchedAt df k = true := by
    simp [Fvg.mitigated, Fvg.touchedAt]
  unfold Fvg.mark
  rw [latch_eq_ite]
  by_cases htouched : gap.mitigateIndex.isNone ∧ gap.touchedAt df k = true
  · rw [if_pos (hguard.mpr htouched), if_pos htouched]
  · rw [if_neg (mt hguard.mp htouched), if_neg htouched]

theorem OrderBlock.Kept.mark {ob : OrderBlock} (h : ob.Kept df k) :
    (ob.mark k (bar df k)).Kept df (k + 1) := by
  rw [ob.mark_eq]
  refine ⟨Nat.lt_succ_of_lt h.formed, ?_⟩
  rw [firstHit_succ, h.mitigated]
  rfl

theorem Fvg.Kept.mark {gap : Fvg} (h : gap.Kept df k) :
    (gap.mark k (bar df k)).Kept df (k + 1) := by
  rw [gap.mark_eq]
  refine ⟨Nat.lt_succ_of_lt h.formed, ?_⟩
  rw [firstHit_succ, h.mitigated]
  rfl

/-- A block is formed unmitigated, and its own candle does not touch it. -/
theorem OrderBlock.Kept.new {ob : OrderBlock} (hformed : ob.formedIndex = k)
    (hfresh : ob.mitigateIndex = none) : (ob.mark k (bar df k)).Kept df (k + 1) := by
  have hnone : firstHit (ob.touchedAt df) k = none := by
    rw [firstHit_eq_none_iff]
    intro i hi
    simp [OrderBlock.touchedAt, hformed, hi.le]
  rw [ob.mark_eq]
  refine ⟨hformed ▸ Nat.lt_succ_self _, ?_⟩
  show latch (ob.touchedAt df) k ob.mitigateIndex = firstHit (ob.touchedAt df) (k + 1)
  rw [firstHit_succ, hfresh, hnone]

theorem Fvg.Kept.new {gap : Fvg} (hformed : gap.index + 1 = k)
    (hfresh : gap.mitigateIndex = none) : (gap.mark k (bar df k)).Kept df (k + 1) := by
  have hnone : firstHit (gap.touchedAt df) k = none := by
    rw [firstHit_eq_none_iff]
    intro i hi
    have hearly : ¬ gap.index + 1 < i := by omega
    simp [Fvg.touchedAt, hearly]
  rw [gap.mark_eq]
  refine ⟨hformed ▸ Nat.lt_succ_self _, ?_⟩
  show latch (gap.touchedAt df) k gap.mitigateIndex = firstHit (gap.touchedAt df) (k + 1)
  rw [firstHit_succ, hfresh, hnone]

theorem mem_newGap {i : ℕ} {dir : Bias} {gap : Fvg} (h : gap ∈ newGap df i dir) :
    gap.index + 1 = i ∧ gap.mitigateIndex = none := by
  unfold newGap at h
  split at h
  · unfold gapAt at h
    cases dir <;> dsimp only at h <;> split at h <;> simp at h <;> subst h <;>
      exact ⟨by dsimp only; omega, rfl⟩
  · cases h

/-- Every block of the scan is mitigated by the first candle that touches it. -/
theorem orderBlocks_kept (df : List Candle) (w k : ℕ) :
    ∀ ob ∈ (scanTo df w k).orderBlocks, ob.Kept df k := by
  induction k with
  | zero => exact fun ob hob => by cases hob
  | succ k ih =>
      intro ob hob
      obtain ⟨events, blocks, hgrows, -, hlist⟩ := step_grows df w k (scanTo df w k)
      rw [scanTo_succ, hlist] at hob
      obtain ⟨old, hold, rfl⟩ := List.mem_map.mp hob
      rw [List.mem_append] at hold
      exact hold.elim (fun hmem => (ih old hmem).mark)
        (fun hmem => .new (hgrows.blocks old hmem).1 (hgrows.blocks old hmem).2)

/-- So is every gap. -/
theorem fvgs_kept (df : List Candle) (w k : ℕ) :
    ∀ gap ∈ (scanTo df w k).fvgs, gap.Kept df k := by
  induction k with
  | zero => exact fun gap hgap => by cases hgap
  | succ k ih =>
      intro gap hgap
      rw [scanTo_succ, fvgs_step] at hgap
      obtain ⟨old, hold, rfl⟩ := List.mem_map.mp hgap
      rw [List.append_assoc, List.mem_append, List.mem_append] at hold
      rcases hold with hmem | hbull | hbear
      · exact (ih old hmem).mark
      · exact .new (mem_newGap hbull).1 (mem_newGap hbull).2
      · exact .new (mem_newGap hbear).1 (mem_newGap hbear).2

end Touches

end CryptoTrader.Structure
