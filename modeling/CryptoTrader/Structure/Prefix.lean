import CryptoTrader.Lib.GrowingLog
import CryptoTrader.Structure.Records
import Mathlib.Data.List.Find

/-!
# The scan does not repaint

What the scan of a longer series has recorded up to a candle is what the scan of the
series that ends there records.  With it go the laws of the records.
-/

namespace CryptoTrader.Structure

open CryptoTrader.Lib

/-! ## What was known before a candle -/

/-- A swing as it was known before candle `n`, if it was confirmed. -/
def Swing.upTo (w n : ℕ) (sw : Swing) : Option Swing :=
  if sw.index + w < n then
    some { sw with breakIndex := sw.breakIndex.filter (fun i => i < n) }
  else none

def OrderBlock.upTo (n : ℕ) (ob : OrderBlock) : Option OrderBlock :=
  if ob.formedIndex < n then
    some { ob with mitigateIndex := ob.mitigateIndex.filter (fun i => i < n) }
  else none

def Fvg.upTo (n : ℕ) (gap : Fvg) : Option Fvg :=
  if gap.index + 1 < n then
    some { gap with mitigateIndex := gap.mitigateIndex.filter (fun i => i < n) }
  else none

/-- The records made before candle `n`, with the breaks and mitigations before it. -/
def Scan.upTo (s : Scan) (w n : ℕ) : Scan :=
  let bosEvents := s.bosEvents.filter (fun e => e.index < n)
  { swingHighs := s.swingHighs.filterMap (Swing.upTo w n)
    swingLows := s.swingLows.filterMap (Swing.upTo w n)
    bosEvents
    orderBlocks := s.orderBlocks.filterMap (OrderBlock.upTo n)
    sweepEvents := s.sweepEvents.filter (fun e => e.index < n)
    fvgs := s.fvgs.filterMap (Fvg.upTo n)
    trendBias := bosEvents.getLast?.map (·.type) }

section UpTo

variable {df : List Candle} {w : ℕ} {n k : ℕ} {dir : Bias}

theorem swings_upTo (h : n ≤ k) :
    ((scanTo df w k).swings dir).filterMap (Swing.upTo w n) = (scanTo df w n).swings dir := by
  let log (k : ℕ) : List Swing := (scanTo df w k).swings dir
  have hstep : ∀ k, log (k + 1) =
      (log k ++ newSwing df w k dir (log k)).map (Swing.mark k dir (bar df k)) := by
    intro k
    simp only [log, scanTo_succ, swings_step, confirmed]
  have hnew : ∀ k n sw, n ≤ k → sw ∈ newSwing df w k dir (log k) → sw.upTo w n = none := by
    intro k n sw hn hsw
    obtain ⟨hk, hindex, -⟩ := mem_newSwing hsw
    have hlate : ¬ sw.index + w < n := by omega
    simp [Swing.upTo, hlate]
  have hmark : ∀ k n sw, n ≤ k → (Swing.mark k dir (bar df k) sw).upTo w n = sw.upTo w n := by
    intro k n sw hn
    unfold Swing.mark
    split_ifs with hbroken
    · have hnone := (Swing.brokenBy_iff.mp hbroken).1
      have hlate : ¬ k < n := not_lt.mpr hn
      simp [Swing.upTo, hnone, Option.filter, hlate]
    · rfl
  have hkept : ∀ k sw, sw ∈ log k → sw.upTo w k = some sw := by
    intro k sw hsw
    simp only [log, swings_scanTo] at hsw
    obtain ⟨i, hi, hconfirms, rfl⟩ := mem_swingsAt.mp hsw
    simp only [confirmsAt, decide_eq_true_eq] at hconfirms
    have hearly : i - w + w < k := by omega
    simp [Swing.upTo, swingAt, hearly, firstHit_filter (le_refl k)]
  exact filterMap_cut hstep hnew hmark hkept h

theorem orderBlocks_upTo (h : n ≤ k) :
    (scanTo df w k).orderBlocks.filterMap (OrderBlock.upTo n) = (scanTo df w n).orderBlocks := by
  let log (k : ℕ) : List OrderBlock := (scanTo df w k).orderBlocks
  have hgrow : ∀ k, ∃ new, (∀ ob ∈ new, ob.formedIndex = k) ∧
      log (k + 1) = (log k ++ new).map (OrderBlock.mark k (bar df k)) := by
    intro k
    obtain ⟨events, blocks, hgrows, -, hlist⟩ := step_grows df w k (scanTo df w k)
    exact ⟨blocks, fun ob hob => (hgrows.blocks ob hob).1, by simp only [log, scanTo_succ, hlist]⟩
  choose new hformed hstep using hgrow
  have hnew : ∀ k n ob, n ≤ k → ob ∈ new k → ob.upTo n = none := by
    intro k n ob hn hob
    simp [OrderBlock.upTo, hformed k ob hob, hn]
  have hmark : ∀ k n ob, n ≤ k → (OrderBlock.mark k (bar df k) ob).upTo n = ob.upTo n := by
    intro k n ob hn
    rw [OrderBlock.mark_eq]
    simp [OrderBlock.upTo, latch_filter hn]
  have hkept : ∀ k ob, ob ∈ log k → ob.upTo k = some ob := by
    intro k ob hob
    have hkept := orderBlocks_kept df w k ob hob
    have hsame : ob.mitigateIndex.filter (fun i => i < k) = ob.mitigateIndex := by
      rw [hkept.mitigated, firstHit_filter (le_refl k)]
    simp [OrderBlock.upTo, hkept.formed, hsame]
  exact filterMap_cut hstep hnew hmark hkept h

theorem fvgs_upTo (h : n ≤ k) :
    (scanTo df w k).fvgs.filterMap (Fvg.upTo n) = (scanTo df w n).fvgs := by
  let log (k : ℕ) : List Fvg := (scanTo df w k).fvgs
  let new (k : ℕ) : List Fvg := newGap df k .bullish ++ newGap df k .bearish
  have hstep : ∀ k, log (k + 1) = (log k ++ new k).map (Fvg.mark k (bar df k)) := by
    intro k
    simp only [log, new, scanTo_succ, fvgs_step, List.append_assoc]
  have hnew : ∀ k n gap, n ≤ k → gap ∈ new k → gap.upTo n = none := by
    intro k n gap hn hgap
    have hformed : gap.index + 1 = k :=
      (List.mem_append.mp hgap).elim (fun h => (mem_newGap h).1) (fun h => (mem_newGap h).1)
    simp [Fvg.upTo, hformed, hn]
  have hmark : ∀ k n gap, n ≤ k → (Fvg.mark k (bar df k) gap).upTo n = gap.upTo n := by
    intro k n gap hn
    rw [Fvg.mark_eq]
    simp [Fvg.upTo, latch_filter hn]
  have hkept : ∀ k gap, gap ∈ log k → gap.upTo k = some gap := by
    intro k gap hgap
    have hkept := fvgs_kept df w k gap hgap
    have hsame : gap.mitigateIndex.filter (fun i => i < k) = gap.mitigateIndex := by
      rw [hkept.mitigated, firstHit_filter (le_refl k)]
    simp [Fvg.upTo, hkept.formed, hsame]
  exact filterMap_cut hstep hnew hmark hkept h

theorem bosEvents_upTo (h : n ≤ k) :
    (scanTo df w k).bosEvents.filter (fun e => e.index < n) = (scanTo df w n).bosEvents := by
  let log (k : ℕ) : List Break := (scanTo df w k).bosEvents
  have hgrow : ∀ k, ∃ new, (∀ e ∈ new, e.index = k) ∧ log (k + 1) = log k ++ new := by
    intro k
    obtain ⟨events, blocks, hgrows, hlist, -⟩ := step_grows df w k (scanTo df w k)
    exact ⟨events, hgrows.events, by simp only [log, scanTo_succ, hlist]⟩
  choose new hindex hstep using hgrow
  exact filter_stamp hstep hindex rfl h

theorem sweepEvents_upTo (h : n ≤ k) :
    (scanTo df w k).sweepEvents.filter (fun e => e.index < n) = (scanTo df w n).sweepEvents := by
  let log (k : ℕ) : List Sweep := (scanTo df w k).sweepEvents
  let new (k : ℕ) : List Sweep :=
    newSweeps df k .bullish (confirmed df w k (scanTo df w k) .bearish) ++
      newSweeps df k .bearish (confirmed df w k (scanTo df w k) .bullish)
  have hstep : ∀ k, log (k + 1) = log k ++ new k := by
    intro k
    simp only [log, new, scanTo_succ, sweepEvents_step, List.append_assoc]
  have hindex : ∀ k e, e ∈ new k → e.index = k := by
    intro k e he
    simp only [new, newSweeps, List.mem_append, List.mem_map] at he
    obtain ⟨sw, -, rfl⟩ | ⟨sw, -, rfl⟩ := he
    · rfl
    · rfl
  exact filter_stamp hstep hindex rfl h

end UpTo

/-! ## The breaks -/

/-- Each break is a change of character exactly if the one before it is the other way. -/
def Classified (events : List Break) : Prop :=
  ∀ before e after, events = before ++ e :: after →
    (e.event = .choch ↔ before.getLast?.map (·.type) = some e.type.flip)

theorem Classified.snoc {events : List Break} {e : Break} (h : Classified events)
    (he : e.event = .choch ↔ events.getLast?.map (·.type) = some e.type.flip) :
    Classified (events ++ [e]) := by
  intro before x after hsplit
  rcases List.eq_nil_or_concat after with rfl | ⟨rest, last, rfl⟩
  · obtain ⟨rfl, hlast⟩ := List.append_inj' hsplit rfl
    rw [← List.singleton_inj.mp hlast]
    exact he
  · rw [List.concat_eq_append, ← List.cons_append, ← List.append_assoc] at hsplit
    exact h before x rest (List.append_inj' hsplit rfl).1

/-- The swing a break is of. -/
def Break.swing (e : Break) : Bias × ℕ := (e.type, e.swingIndex)

/-- What holds of the breaks between two steps: the bias is the direction of the last
one, and the swing of each is broken and has no other. -/
structure Scan.Booked (s : Scan) : Prop where
  bias : s.trendBias = s.bosEvents.getLast?.map (·.type)
  classified : Classified s.bosEvents
  broken : ∀ swing ∈ s.bosEvents.map Break.swing,
    ∃ sw ∈ s.swings swing.1, sw.index = swing.2 ∧ sw.broken
  once : (s.bosEvents.map Break.swing).Nodup

section Breaks

variable (df : List Candle) (w i : ℕ) (dir : Bias) {s : Scan}

theorem breakSwings_classified (hbias : s.trendBias = s.bosEvents.getLast?.map (·.type))
    (hclassified : Classified s.bosEvents) :
    (breakSwings df i dir s).trendBias = (breakSwings df i dir s).bosEvents.getLast?.map (·.type) ∧
      Classified (breakSwings df i dir s).bosEvents := by
  refine breakSwings_rec df i dir s
    (P := fun t => t.trendBias = t.bosEvents.getLast?.map (·.type) ∧ Classified t.bosEvents) ?_ ?_
  · simpa using ⟨hbias, hclassified⟩
  · rintro t sw - ⟨hlast, hclass⟩
    rw [recordBreak_eq]
    refine ⟨by simp [breakOf], hclass.snoc ?_⟩
    rw [← hlast]
    unfold breakOf
    split_ifs with hflip
    · simp [hflip]
    · simp [hflip]

theorem map_swing_breakSwings : (breakSwings df i dir s).bosEvents.map Break.swing =
    s.bosEvents.map Break.swing ++
      ((s.swings dir).filter (Swing.brokenBy i dir (bar df i))).map (fun sw => (dir, sw.index)) := by
  have hfold : ∀ (l : List Swing) (t : Scan),
      (l.foldl (recordBreak df i dir) t).bosEvents.map Break.swing =
        t.bosEvents.map Break.swing ++ l.map (fun sw => (dir, sw.index)) := by
    intro l
    induction l with
    | nil => simp
    | cons sw rest ih =>
        intro t
        rw [List.foldl_cons, ih, recordBreak_eq]
        simp [breakOf, Break.swing]
  unfold breakSwings
  dsimp only
  rw [hfold, Scan.bosEvents_setSwings]

/-- The breaks of one side of a candle, where no two swings share an index. -/
theorem Scan.Booked.breakSwings (h : s.Booked) (hnodup : ((s.swings dir).map (·.index)).Nodup) :
    (breakSwings df i dir s).Booked := by
  obtain ⟨hbias, hclassified⟩ := breakSwings_classified df i dir h.bias h.classified
  have hkeys := map_swing_breakSwings df i dir (s := s)
  have hswings := swings_breakSwings_self df i dir s
  refine ⟨hbias, hclassified, ?_, ?_⟩
  · intro swing hswing
    rw [hkeys, List.mem_append] at hswing
    rcases hswing with hold | hnew
    · obtain ⟨sw, hsw, hindex, hbroken⟩ := h.broken swing hold
      by_cases hdir : swing.1 = dir
      · rw [hdir] at hsw ⊢
        rw [hswings]
        have hmark : sw.mark i dir (bar df i) = sw := by
          have hunbreakable : ¬ sw.brokenBy i dir (bar df i) = true := by
            rw [Swing.brokenBy_iff]
            rintro ⟨hnone, -, -⟩
            simp [Swing.broken, hnone] at hbroken
          exact if_neg hunbreakable
        exact ⟨sw, List.mem_map.mpr ⟨sw, hsw, hmark⟩, hindex, hbroken⟩
      · rw [swings_breakSwings_of_ne df i dir swing.1 s hdir]
        exact ⟨sw, hsw, hindex, hbroken⟩
    · obtain ⟨sw, hsw, rfl⟩ := List.mem_map.mp hnew
      obtain ⟨hmem, hbroken⟩ := List.mem_filter.mp hsw
      have hmark : sw.mark i dir (bar df i) = { sw with breakIndex := some i } := if_pos hbroken
      dsimp only
      rw [hswings]
      exact ⟨_, List.mem_map.mpr ⟨sw, hmem, hmark⟩, rfl, rfl⟩
  · rw [hkeys, List.nodup_append]
    refine ⟨h.once, ?_, ?_⟩
    · have hsub := (List.filter_sublist (p := Swing.brokenBy i dir (bar df i)) (l := s.swings dir)).map
        (·.index)
      have hindices := (hsub.nodup hnodup).map (Prod.mk_right_injective dir)
      simpa [List.map_map, Function.comp_def] using hindices
    · -- a swing that was broken before is not broken again
      rintro swing hold other hnew rfl
      obtain ⟨old, hmem, hindex, hbroken⟩ := h.broken swing hold
      obtain ⟨sw, hsw, rfl⟩ := List.mem_map.mp hnew
      obtain ⟨hsw, hbrokenBy⟩ := List.mem_filter.mp hsw
      have hsame : old = sw := List.inj_on_of_nodup_map hnodup hmem hsw hindex
      have hnone := (Swing.brokenBy_iff.mp hbrokenBy).1
      rw [hsame] at hbroken
      simp [Swing.broken, hnone] at hbroken

theorem swingsAt_nodup (df : List Candle) (w : ℕ) (dir : Bias) (k : ℕ) :
    ((swingsAt df w dir k).map (·.index)).Nodup := by
  unfold swingsAt
  rw [List.map_map]
  have hinj : ∀ i ∈ (List.range k).filter (confirmsAt df w dir),
      ∀ j ∈ (List.range k).filter (confirmsAt df w dir),
        i - w = j - w → i = j := by
    intro i hi j hj heq
    have hi := (List.mem_filter.mp hi).2
    have hj := (List.mem_filter.mp hj).2
    simp only [confirmsAt, decide_eq_true_eq] at hi hj
    omega
  exact (List.nodup_range.filter _).map_on hinj

/-- The breaks are in order after every candle. -/
theorem scanTo_booked (df : List Candle) (w k : ℕ) : (scanTo df w k).Booked := by
  induction k with
  | zero =>
      refine ⟨rfl, ?_, by simp [scanTo], by simp [scanTo]⟩
      intro before e after h
      simp [scanTo] at h
  | succ k ih =>
      have hindices : ∀ dir, ((confirmed df w k (scanTo df w k) dir).map (·.index)).Nodup := by
        intro dir
        have hnext := swingsAt_nodup df w dir (k + 1)
        rw [← swings_scanTo, scanTo_succ, swings_step, List.map_map] at hnext
        have hindex : (fun sw : Swing => sw.index) ∘ Swing.mark k dir (bar df k) = (·.index) := by
          funext sw
          show (sw.mark k dir (bar df k)).index = sw.index
          unfold Swing.mark
          split_ifs <;> rfl
        rwa [hindex] at hnext
      have hswept : (swept df w k (scanTo df w k)).Booked := by
        refine ⟨?_, ?_, ?_, ?_⟩
        · rw [trendBias_swept, bosEvents_swept]
          exact ih.bias
        · rw [bosEvents_swept]
          exact ih.classified
        · intro swing hswing
          rw [bosEvents_swept] at hswing
          obtain ⟨sw, hsw, hbroken⟩ := ih.broken swing hswing
          rw [swings_swept]
          exact ⟨sw, List.mem_append_left _ hsw, hbroken⟩
        · rw [bosEvents_swept]
          exact ih.once
      have hbull := Scan.Booked.breakSwings df k .bullish hswept
        (by rw [swings_swept]; exact hindices .bullish)
      have hbear := Scan.Booked.breakSwings df k .bearish hbull (by
        rw [swings_breakSwings_of_ne df k .bullish .bearish _ (by decide), swings_swept]
        exact hindices .bearish)
      rw [scanTo_succ]
      refine ⟨?_, ?_, ?_, ?_⟩
      · rw [trendBias_step, bosEvents_step]
        exact hbear.bias
      · rw [bosEvents_step]
        exact hbear.classified
      · intro swing hswing
        rw [bosEvents_step] at hswing
        rw [swings_step_swept]
        exact hbear.broken swing hswing
      · rw [bosEvents_step]
        exact hbear.once

end Breaks

/-! ## The longer series -/

/-- Before a candle the scan was what it records of the time before. -/
theorem scanTo_upTo (df : List Candle) (w : ℕ) {n k : ℕ} (h : n ≤ k) :
    (scanTo df w k).upTo w n = scanTo df w n := by
  refine Scan.eq_of (fun dir => ?_) (bosEvents_upTo h) (orderBlocks_upTo h) (sweepEvents_upTo h)
    (fvgs_upTo h) ?_
  · cases dir with
    | bullish => exact @swings_upTo df w n k .bullish h
    | bearish => exact @swings_upTo df w n k .bearish h
  · rw [(scanTo_booked df w n).bias, ← bosEvents_upTo h]
    rfl

section Append

variable (df rest : List Candle) (w : ℕ) {i k : ℕ}

theorem bar_append (h : i < df.length) : bar (df ++ rest) i = bar df i := by
  simp [bar, List.getD, List.getElem?_append_left h]

theorem window_append {target : ℕ} (h : target + w < df.length) (column : Candle → ℚ) :
    window (df ++ rest) w target column = window df w target column := by
  unfold window slice
  rw [List.take_append_of_le_length (by omega)]

/-- The loop body looks at no candle after its own. -/
theorem step_append (s : Scan) (h : i < df.length) :
    step (df ++ rest) w s i = step df w s i := by
  have hbar : ∀ j, j ≤ i → bar (df ++ rest) j = bar df j :=
    fun j hj => bar_append df rest (Nat.lt_of_le_of_lt hj h)
  have hswing : ∀ dir, 2 * w ≤ i →
      isSwing (df ++ rest) w dir (i - w) = isSwing df w dir (i - w) := by
    intro dir hi
    have hwindow := @window_append df rest w (i - w) (by omega)
    cases dir with
    | bullish => simp only [isSwing, isSwingHigh, hwindow, hbar (i - w) (by omega)]
    | bearish => simp only [isSwing, isSwingLow, hwindow, hbar (i - w) (by omega)]
  have hconfirm : ∀ dir s, confirm (df ++ rest) w i dir s = confirm df w i dir s := by
    intro dir s
    by_cases hi : 2 * w ≤ i
    · simp only [confirm, hswing dir hi, hbar (i - w) (by omega)]
    · simp only [confirm, hi, false_and, if_false]
  have hsweep : ∀ dir s, sweep (df ++ rest) i dir s = sweep df i dir s := by
    intro dir s
    simp only [sweep, hbar i le_rfl]
  have hindex : ∀ dir, obIndex (df ++ rest) i dir = obIndex df i dir := by
    intro dir
    refine List.find?_congr (fun j hj => ?_)
    rw [List.mem_reverse, List.mem_range] at hj
    rw [hbar j (by omega)]
  have hblock : ∀ dir blocks, addOrderBlock (df ++ rest) i dir blocks =
      addOrderBlock df i dir blocks := by
    intro dir blocks
    unfold addOrderBlock
    rw [hindex dir]
    cases hfound : obIndex df i dir with
    | none => rfl
    | some j =>
        have hj : j < i + 1 := by
          have hmem := List.mem_of_find?_eq_some hfound
          rwa [List.mem_reverse, List.mem_range] at hmem
        simp only [hbar j (by omega)]
  have hbreak : ∀ dir s, breakSwings (df ++ rest) i dir s = breakSwings df i dir s := by
    intro dir s
    have hrecord : recordBreak (df ++ rest) i dir = recordBreak df i dir := by
      funext t sw
      simp only [recordBreak, hbar i le_rfl, hblock]
    simp only [breakSwings, hbar i le_rfl, hrecord]
  have hgap : ∀ dir s, detectGap (df ++ rest) i dir s = detectGap df i dir s := by
    intro dir s
    simp only [detectGap, gapAt, hbar i le_rfl, hbar (i - 1) (by omega), hbar (i - 2) (by omega)]
  simp only [step, hconfirm, hsweep, hbreak, hgap, mitigateBlocks, mitigateGaps, hbar i le_rfl]

theorem scanTo_append (h : k ≤ df.length) : scanTo (df ++ rest) w k = scanTo df w k := by
  induction k with
  | zero => rfl
  | succ k ih => rw [scanTo_succ, scanTo_succ, ih (by omega), step_append df rest w _ (by omega)]

end Append

/-! ## The law of the scan -/

/-- A record formed at a candle is unmitigated exactly if no later one touches it, and
is mitigated by the first that does. -/
structure Mitigates (touched : ℕ → Prop) (formed n : ℕ) (mitigateIndex : Option ℕ) : Prop where
  unmitigated : mitigateIndex = none ↔ ∀ i, formed < i → i < n → ¬ touched i
  first : ∀ k, mitigateIndex = some k ↔
    formed < k ∧ k < n ∧ touched k ∧ ∀ i, formed < i → i < k → ¬ touched i

theorem mitigates_firstHit {touched : ℕ → Bool} {formed n : ℕ} :
    Mitigates (fun i => touched i = true) formed n
      (firstHit (fun i => formed < i ∧ touched i) n) where
  unmitigated := by
    rw [firstHit_eq_none_iff]
    constructor
    · intro h i hformed hi
      simpa [hformed] using h i hi
    · intro h i hi
      by_cases hformed : formed < i
      · simpa [hformed] using h i hformed hi
      · simp [hformed]
  first k := by
    rw [firstHit_eq_some_iff]
    constructor
    · rintro ⟨hk, hhit, hfirst⟩
      obtain ⟨hformed, htouched⟩ := of_decide_eq_true hhit
      refine ⟨hformed, hk, htouched, fun i hi hik => ?_⟩
      simpa [hi] using hfirst i hik
    · rintro ⟨hformed, hk, htouched, hfirst⟩
      refine ⟨hk, by simp [hformed, htouched], fun i hik => ?_⟩
      by_cases hi : formed < i
      · simpa [hi] using hfirst i hi hik
      · simp [hi]

/-- The records of a series are those of any longer one, as they were known at its end;
each swing is broken once at most; a break is a change of character exactly if the one
before it is the other way; and order blocks and gaps are unmitigated until the first
candle after their formation that touches them. -/
theorem scan_stable (df : List Candle) (w : ℕ) :
    (∀ rest, scan df w = (scan (df ++ rest) w).upTo w df.length) ∧
      ((scan df w).bosEvents.map Break.swing).Nodup ∧
      Classified (scan df w).bosEvents ∧
      (∀ ob ∈ (scan df w).orderBlocks,
        Mitigates (fun i => ob.touchedBy (bar df i)) ob.formedIndex df.length ob.mitigateIndex) ∧
      ∀ gap ∈ (scan df w).fvgs,
        Mitigates (fun i => gap.touchedBy (bar df i)) (gap.index + 1) df.length
          gap.mitigateIndex := by
  have hbooked := scanTo_booked df w df.length
  refine ⟨fun rest => ?_, hbooked.once, hbooked.classified, fun ob hob => ?_, fun gap hgap => ?_⟩
  · have hlonger : df.length ≤ (df ++ rest).length := by simp
    unfold scan
    rw [scanTo_upTo (df ++ rest) w hlonger, scanTo_append df rest w le_rfl]
  · rw [(orderBlocks_kept df w df.length ob hob).mitigated]
    exact mitigates_firstHit
  · rw [(fvgs_kept df w df.length gap hgap).mitigated]
    exact mitigates_firstHit

end CryptoTrader.Structure
