import CryptoTrader.Strategies.LiquiditySweep
import CryptoTrader.Structure.Mirror
import Mathlib.Data.List.Find
import Mathlib.Tactic.Ring

/-!
# The scan of the mirrored series

Both scans run side by side.  Their records are mirror images after every candle, and
so is everything that is compiled of them, except the latest sweep: of the sweeps of
one candle the bearish ones come last in both.
-/

namespace CryptoTrader.Structure

open CryptoTrader.Lib

/-! ## Two scans side by side -/

/-- The scans are mirror images, their sweeps side by side. -/
structure Mirrors (s s' : Scan) : Prop where
  swings : ∀ dir, s'.swings dir.flip = (s.swings dir).map Swing.mirror
  bosEvents : s'.bosEvents = s.bosEvents.map Break.mirror
  orderBlocks : s'.orderBlocks = s.orderBlocks.map OrderBlock.mirror
  fvgs : s'.fvgs = s.fvgs.map Fvg.mirror
  trendBias : s'.trendBias = s.trendBias.map Bias.flip
  sweeps : ∀ dir, s'.sweepEvents.filter (fun e => e.type = dir.flip) =
    (s.sweepEvents.filter (fun e => e.type = dir)).map Sweep.mirror

section Runs

variable {df : List Candle} {w i : ℕ} {dir : Bias} {s s' : Scan}

theorem Mirrors.confirmed (h : Mirrors s s') (dir : Bias) :
    confirmed (df.map Candle.reflect) w i s' dir.flip =
      (confirmed df w i s dir).map Swing.mirror := by
  unfold Structure.confirmed
  rw [h.swings, newSwing_reflect, List.map_append]

theorem newSweeps_type {swings : List Swing} {other : Bias} :
    (newSweeps df i dir swings).filter (fun e => e.type = other) =
      if dir = other then newSweeps df i dir swings else [] := by
  split_ifs with hdir
  · rw [List.filter_eq_self]
    intro e he
    simp [(mem_newSweeps he).2, hdir]
  · rw [List.filter_eq_nil_iff]
    intro e he
    simp [(mem_newSweeps he).2, hdir]

theorem Mirrors.swept (h : Mirrors s s') :
    Mirrors (swept df w i s) (swept (df.map Candle.reflect) w i s') where
  swings dir := by rw [swings_swept, swings_swept, h.confirmed]
  bosEvents := by rw [bosEvents_swept, bosEvents_swept, h.bosEvents]
  orderBlocks := by rw [orderBlocks_swept, orderBlocks_swept, h.orderBlocks]
  fvgs := by rw [fvgs_swept, fvgs_swept, h.fvgs]
  trendBias := by rw [trendBias_swept, trendBias_swept, h.trendBias]
  sweeps dir := by
    have hhighs := newSweeps_reflect df i .bearish (Structure.confirmed df w i s .bullish)
    have hlows := newSweeps_reflect df i .bullish (Structure.confirmed df w i s .bearish)
    rw [← h.confirmed] at hhighs hlows
    rw [sweepEvents_swept, sweepEvents_swept]
    simp only [List.filter_append, List.map_append, newSweeps_type, h.sweeps]
    cases dir with
    | bullish => simpa [Bias.flip] using hlows
    | bearish => simpa [Bias.flip] using hhighs

theorem Mirrors.recordBreak (h : Mirrors s s') (sw : Swing) :
    Mirrors (recordBreak df i dir s sw)
      (recordBreak (df.map Candle.reflect) i dir.flip s' sw.mirror) where
  swings other := by rw [swings_recordBreak, swings_recordBreak, h.swings]
  bosEvents := by
    have hbias : s'.trendBias = some dir.flip.flip ↔ s.trendBias = some dir.flip := by
      rw [h.trendBias]
      cases s.trendBias with
      | none => simp
      | some bias => rw [Option.map_some, Option.some.injEq, Option.some.injEq, Bias.flip_inj]
    rw [recordBreak_eq, recordBreak_eq]
    simp only [h.bosEvents, List.map_append, List.map_cons, List.map_nil, breakOf, hbias,
      bar_reflect]
    rfl
  orderBlocks := by
    rw [recordBreak_eq, recordBreak_eq]
    simp only [h.orderBlocks, addOrderBlock_reflect]
  fvgs := h.fvgs
  trendBias := rfl
  sweeps := h.sweeps

/-- The breaks of one side of a candle, and those of the other side of its image. -/
theorem Mirrors.breakSwings (h : Mirrors s s') :
    Mirrors (breakSwings df i dir s) (breakSwings (df.map Candle.reflect) i dir.flip s') := by
  have hmarks : ((s.swings dir).map Swing.mirror).map
      (Swing.mark i dir.flip (bar df i).reflect) =
        ((s.swings dir).map (Swing.mark i dir (bar df i))).map Swing.mirror := by
    rw [List.map_map, List.map_map]
    exact List.map_congr_left (fun sw _ => mark_mirror i dir (bar df i) sw)
  have hbroken : ((s.swings dir).map Swing.mirror).filter
      (Swing.brokenBy i dir.flip (bar df i).reflect) =
        ((s.swings dir).filter (Swing.brokenBy i dir (bar df i))).map Swing.mirror := by
    rw [List.filter_map]
    congr 2
    funext sw
    exact brokenBy_mirror i dir (bar df i) sw
  have hstart : Mirrors (s.setSwings dir ((s.swings dir).map (Swing.mark i dir (bar df i))))
      (s'.setSwings dir.flip (((s.swings dir).map (Swing.mark i dir (bar df i))).map
        Swing.mirror)) := by
    refine ⟨fun other => ?_, ?_, ?_, ?_, ?_, fun other => ?_⟩
    · by_cases hother : other = dir
      · rw [hother, Scan.swings_setSwings, Scan.swings_setSwings]
      · have hflip : other.flip ≠ dir.flip := fun heq => hother (Bias.flip_inj.mp heq)
        rw [Scan.swings_setSwings_of_ne _ _ _ hflip, Scan.swings_setSwings_of_ne _ _ _ hother,
          h.swings]
    · rw [Scan.bosEvents_setSwings, Scan.bosEvents_setSwings, h.bosEvents]
    · rw [Scan.orderBlocks_setSwings, Scan.orderBlocks_setSwings, h.orderBlocks]
    · rw [Scan.fvgs_setSwings, Scan.fvgs_setSwings, h.fvgs]
    · rw [Scan.trendBias_setSwings, Scan.trendBias_setSwings, h.trendBias]
    · rw [Scan.sweepEvents_setSwings, Scan.sweepEvents_setSwings, h.sweeps]
  have hfold : ∀ (l : List Swing) {t t' : Scan}, Mirrors t t' →
      Mirrors (l.foldl (Structure.recordBreak df i dir) t)
        ((l.map Swing.mirror).foldl
          (Structure.recordBreak (df.map Candle.reflect) i dir.flip) t') := by
    intro l
    induction l with
    | nil => exact fun ht => ht
    | cons sw rest ih => exact fun ht => ih (ht.recordBreak sw)
  unfold Structure.breakSwings
  dsimp only
  rw [bar_reflect, h.swings, hmarks, hbroken]
  exact hfold _ hstart

/-- A side that the candle breaks nothing of is left as it is. -/
theorem breakSwings_of_quiet
    (hquiet : ∀ sw ∈ s.swings dir, sw.brokenBy i dir (bar df i) = false) :
    breakSwings df i dir s = s := by
  have hmarks : (s.swings dir).map (Swing.mark i dir (bar df i)) = s.swings dir := by
    have hmark : ∀ sw ∈ s.swings dir, Swing.mark i dir (bar df i) sw = id sw := by
      intro sw hsw
      exact if_neg (by simp [hquiet sw hsw])
    rw [List.map_congr_left hmark, List.map_id]
  have hbroken : (s.swings dir).filter (Swing.brokenBy i dir (bar df i)) = [] := by
    rw [List.filter_eq_nil_iff]
    intro sw hsw
    simp [hquiet sw hsw]
  unfold Structure.breakSwings
  dsimp only
  rw [hbroken, hmarks, List.foldl_nil]
  cases dir <;> rfl

/-- Where only one side is broken, the order of the two sides does not matter. -/
theorem breakSwings_comm
    (hone : (∀ sw ∈ s.swings .bullish, sw.brokenBy i .bullish (bar df i) = false) ∨
      ∀ sw ∈ s.swings .bearish, sw.brokenBy i .bearish (bar df i) = false) :
    breakSwings df i .bearish (breakSwings df i .bullish s) =
      breakSwings df i .bullish (breakSwings df i .bearish s) := by
  rcases hone with hquiet | hquiet
  · have hafter : ∀ sw ∈ (breakSwings df i .bearish s).swings .bullish,
        sw.brokenBy i .bullish (bar df i) = false := by
      rwa [swings_breakSwings_of_ne df i .bearish .bullish s (by decide)]
    rw [breakSwings_of_quiet hquiet, breakSwings_of_quiet hafter]
  · have hafter : ∀ sw ∈ (breakSwings df i .bullish s).swings .bearish,
        sw.brokenBy i .bearish (bar df i) = false := by
      rwa [swings_breakSwings_of_ne df i .bullish .bearish s (by decide)]
    rw [breakSwings_of_quiet hquiet, breakSwings_of_quiet hafter]

/-- One candle, on a scan of the candles before it. -/
theorem Mirrors.step (h : Mirrors (scanTo df w i) s') (hvalid : ∀ c ∈ df, c.Valid)
    (hi : i < df.length) :
    Mirrors (step df w (scanTo df w i) i) (step (df.map Candle.reflect) w s' i) := by
  have hswept := @Mirrors.swept df w i _ _ h
  have hone : (∀ sw ∈ (Structure.swept df w i (scanTo df w i)).swings .bullish,
        sw.brokenBy i .bullish (bar df i) = false) ∨
      ∀ sw ∈ (Structure.swept df w i (scanTo df w i)).swings .bearish,
        sw.brokenBy i .bearish (bar df i) = false := by
    rw [swings_swept, swings_swept]
    by_contra hboth
    push Not at hboth
    obtain ⟨⟨high, hhigh, hbull⟩, low, hlow, hbear⟩ := hboth
    exact hbear (breaks_one_side hvalid hi hhigh hlow (by simpa using hbull))
  have hbear := @Mirrors.breakSwings df i .bearish _ _ hswept
  have hbreaks := @Mirrors.breakSwings df i .bullish _ _ hbear
  rw [← breakSwings_comm hone] at hbreaks
  refine ⟨fun dir => ?_, ?_, ?_, ?_, ?_, fun dir => ?_⟩
  · rw [swings_step_swept, swings_step_swept]
    exact hbreaks.swings dir
  · rw [bosEvents_step, bosEvents_step]
    exact hbreaks.bosEvents
  · have hblocks := hbreaks.orderBlocks
    rw [orderBlocks_step, orderBlocks_step, List.map_map]
    refine (congrArg (List.map _) hblocks).trans ?_
    rw [List.map_map]
    exact List.map_congr_left (fun ob _ => markBlock_mirror df i ob)
  · have hgaps : newGap df i .bullish ++ newGap df i .bearish =
        newGap df i .bearish ++ newGap df i .bullish := by
      rcases gaps_one_side hvalid i with hnone | hnone
      · rw [hnone, List.nil_append, List.append_nil]
      · rw [hnone, List.nil_append, List.append_nil]
    have hbull := newGap_reflect df i .bearish
    have hbear := newGap_reflect df i .bullish
    simp only [Bias.flip] at hbull hbear
    rw [fvgs_step, fvgs_step, h.fvgs, hbull, hbear, ← List.map_append, ← List.map_append,
      List.append_assoc, List.append_assoc, hgaps, List.map_map, List.map_map]
    exact List.map_congr_left (fun gap _ => markGap_mirror df i gap)
  · rw [trendBias_step, trendBias_step]
    exact hbreaks.trendBias
  · rw [sweepEvents_step, sweepEvents_step, ← sweepEvents_swept, ← sweepEvents_swept]
    exact hswept.sweeps dir

theorem scanTo_mirrors (hvalid : ∀ c ∈ df, c.Valid) (w : ℕ) {k : ℕ} (hk : k ≤ df.length) :
    Mirrors (scanTo df w k) (scanTo (df.map Candle.reflect) w k) := by
  induction k with
  | zero =>
      refine ⟨fun dir => ?_, rfl, rfl, rfl, rfl, fun dir => rfl⟩
      cases dir <;> rfl
  | succ k ih =>
      rw [scanTo_succ, scanTo_succ]
      exact (ih (by omega)).step hvalid (by omega)

end Runs

/-! ## The latest sweep -/

/-- The order of the sweeps: by candle, and the bullish ones of a candle first. -/
def Sweep.Before (a b : Sweep) : Prop :=
  a.index < b.index ∨ a.index = b.index ∧ (a.type = .bullish ∨ b.type = .bearish)

theorem sweeps_ordered (df : List Candle) (w k : ℕ) :
    (scanTo df w k).sweepEvents.Pairwise Sweep.Before ∧
      ∀ e ∈ (scanTo df w k).sweepEvents, e.index < k := by
  induction k with
  | zero => exact ⟨List.Pairwise.nil, fun e he => by cases he⟩
  | succ k ih =>
      have hnew : ∀ {dir : Bias} {swings : List Swing},
          (newSweeps df k dir swings).Pairwise Sweep.Before := by
        intro dir swings
        refine List.pairwise_of_forall_mem_list (fun a ha b hb => Or.inr ?_)
        rw [(mem_newSweeps ha).1, (mem_newSweeps hb).1, (mem_newSweeps ha).2, (mem_newSweeps hb).2]
        exact ⟨rfl, by cases dir <;> simp⟩
      rw [scanTo_succ, sweepEvents_step]
      constructor
      · rw [List.pairwise_append, List.pairwise_append]
        refine ⟨⟨ih.1, hnew, fun a ha b hb => Or.inl ?_⟩, hnew, fun a ha b hb => ?_⟩
        · rw [(mem_newSweeps hb).1]
          exact ih.2 a ha
        · rcases List.mem_append.mp ha with hold | hbull
          · refine Or.inl ?_
            rw [(mem_newSweeps hb).1]
            exact ih.2 a hold
          · refine Or.inr ⟨?_, Or.inl (mem_newSweeps hbull).2⟩
            rw [(mem_newSweeps hbull).1, (mem_newSweeps hb).1]
      · intro e he
        rw [List.mem_append, List.mem_append] at he
        rcases he with (hold | hbull) | hbear
        · exact Nat.lt_succ_of_lt (ih.2 e hold)
        · rw [(mem_newSweeps hbull).1]
          exact Nat.lt_succ_self k
        · rw [(mem_newSweeps hbear).1]
          exact Nat.lt_succ_self k

/-- All sweeps come before the latest one. -/
theorem before_last {l : List Sweep} (hordered : l.Pairwise Sweep.Before) {e x : Sweep}
    (hlast : l.getLast? = some e) (hx : x ∈ l) : x = e ∨ x.Before e := by
  obtain ⟨init, rfl⟩ := List.getLast?_eq_some_iff.mp hlast
  rw [List.mem_append, List.mem_singleton] at hx
  refine hx.symm.imp id (fun hinit => ?_)
  exact (List.pairwise_append.mp hordered).2.2 x hinit e (by simp)

/-- The latest sweep is the latest one of its side. -/
theorem getLast?_filter_type {l : List Sweep} {e : Sweep} (hlast : l.getLast? = some e) :
    (l.filter (fun x => x.type = e.type)).getLast? = some e := by
  obtain ⟨init, rfl⟩ := List.getLast?_eq_some_iff.mp hlast
  simp [List.filter_append]

theorem Sweep.mirror_mirror (e : Sweep) : e.mirror.mirror = e := by
  simp [Sweep.mirror]

/-- Of two sweeps of a candle, one each way, the bearish one is the later. -/
theorem Sweep.Before.bearish {a b : Sweep} (h : a.Before b) (hindex : a.index = b.index)
    (htype : a.type = b.type.flip) : b.type = .bearish := by
  rcases h with hlt | ⟨-, hbull | hbear⟩
  · omega
  · rw [htype] at hbull
    cases hb : b.type with
    | bullish =>
        rw [hb] at hbull
        cases hbull
    | bearish => rfl
  · exact hbear

theorem Sweep.Before.index_le {a b : Sweep} (h : a.Before b) : a.index ≤ b.index := by
  rcases h with hlt | ⟨heq, -⟩
  · exact hlt.le
  · exact heq.le

/-- Each sweep has its image. -/
theorem Mirrors.mem_sweeps {s s' : Scan} (h : Mirrors s s') (x : Sweep) :
    x.mirror ∈ s'.sweepEvents ↔ x ∈ s.sweepEvents := by
  have hinj : Function.Injective Sweep.mirror :=
    Function.Involutive.injective Sweep.mirror_mirror
  have hside := h.sweeps x.type
  have himage : x.mirror ∈ s'.sweepEvents.filter (fun e => e.type = x.type.flip) ↔
      x ∈ s.sweepEvents.filter (fun e => e.type = x.type) := by
    rw [hside, List.mem_map_of_injective hinj]
  simpa [List.mem_filter, Sweep.mirror] using himage

/-- The latest sweep of the mirror image is the image of the latest one, unless the same
candle also sweeps the other way. -/
theorem Mirrors.getLast?_sweeps {s s' : Scan} (h : Mirrors s s')
    (hordered : s.sweepEvents.Pairwise Sweep.Before)
    (hordered' : s'.sweepEvents.Pairwise Sweep.Before) :
    s'.sweepEvents.getLast? = s.sweepEvents.getLast?.map Sweep.mirror ↔
      ¬ ∃ e x, s.sweepEvents.getLast? = some e ∧ x ∈ s.sweepEvents ∧
        x.index = e.index ∧ x.type = e.type.flip := by
  cases hlast : s.sweepEvents.getLast? with
  | none =>
      have hempty := List.getLast?_eq_none_iff.mp hlast
      have hempty' : s'.sweepEvents = [] := by
        rw [List.eq_nil_iff_forall_not_mem]
        intro y hy
        rw [← y.mirror_mirror, h.mem_sweeps, hempty] at hy
        cases hy
      simp [hempty']
  | some e =>
      have hmem : e ∈ s.sweepEvents := List.mem_of_getLast? hlast
      have hmem' : e.mirror ∈ s'.sweepEvents := (h.mem_sweeps e).mpr hmem
      obtain ⟨e', hlast'⟩ : ∃ e', s'.sweepEvents.getLast? = some e' := by
        cases hnone : s'.sweepEvents.getLast? with
        | none =>
            rw [List.getLast?_eq_none_iff.mp hnone] at hmem'
            cases hmem'
        | some e' => exact ⟨e', rfl⟩
      rw [hlast', Option.map_some, Option.some.injEq]
      constructor
      · rintro rfl ⟨e₁, x, he₁, hx, hindex, htype⟩
        obtain rfl := Option.some.inj he₁
        have hne : x ≠ e := fun heq => e.type.flip_ne (by rw [← htype, heq])
        have hne' : x.mirror ≠ e.mirror := fun heq => hne (by
          rw [← x.mirror_mirror, heq, e.mirror_mirror])
        have hbefore := (before_last hordered hlast hx).resolve_left hne
        have hbefore' := (before_last hordered' hlast' ((h.mem_sweeps x).mpr hx)).resolve_left hne'
        have hbear := hbefore.bearish hindex htype
        have hbear' := hbefore'.bearish hindex (by simp [Sweep.mirror, htype])
        simp [Sweep.mirror, hbear, Bias.flip] at hbear'
      · intro hone
        rcases Bias.eq_or_eq_flip e.type e'.type with hsame | hflip
        · -- then the image of the latest one is a sweep the other way, of the same candle
          refine absurd ⟨e, e'.mirror, rfl, ?_, ?_, ?_⟩ hone
          · rw [← h.mem_sweeps, e'.mirror_mirror]
            exact List.mem_of_getLast? hlast'
          · have hother : e'.mirror ∈ s.sweepEvents := by
              rw [← h.mem_sweeps, e'.mirror_mirror]
              exact List.mem_of_getLast? hlast'
            have hne : e'.mirror ≠ e := fun heq =>
              e'.type.flip_ne ((congrArg Sweep.type heq).trans hsame.symm)
            have hne' : e.mirror ≠ e' := fun heq =>
              e.type.flip_ne ((congrArg Sweep.type heq).trans hsame)
            have hle := ((before_last hordered hlast hother).resolve_left hne).index_le
            have hle' := ((before_last hordered' hlast' hmem').resolve_left hne').index_le
            exact le_antisymm hle hle'
          · simp [Sweep.mirror, hsame]
        · have hside := getLast?_filter_type hlast'
          rw [hflip, h.sweeps, List.getLast?_map, getLast?_filter_type hlast] at hside
          exact (Option.some.inj hside).symm

/-! ## Which candles sweep -/

/-- The candle at `i` sweeps the swing at `j`, which was confirmed and that no candle has
closed beyond: its wick goes beyond the swing, and it closes back inside. -/
structure SweepsSwing (df : List Candle) (w : ℕ) (dir : Bias) (i j : ℕ) : Prop where
  window : w ≤ j
  confirmed : j + w ≤ i
  later : j < i
  swing : isSwing df w dir.flip j = true
  unbroken : ∀ m, j + w ≤ m → j < m → m < i →
    dir.flip.beyond (bar df m).close (dir.flip.extreme (bar df j)) = false
  wick : dir.flip.beyond (dir.flip.extreme (bar df i)) (dir.flip.extreme (bar df j)) = true
  close : dir.beyond (bar df i).close (dir.flip.extreme (bar df j)) = true

def SweepsAt (df : List Candle) (w : ℕ) (dir : Bias) (i : ℕ) : Prop :=
  ∃ j, SweepsSwing df w dir i j

section SweepsAt

variable {df : List Candle} {w k : ℕ} {dir : Bias}

theorem newSweeps_iff (i : ℕ) :
    (∃ e, e ∈ newSweeps df i dir (confirmed df w i (scanTo df w i) dir.flip)) ↔
      SweepsAt df w dir i := by
  constructor
  · rintro ⟨e, he⟩
    obtain ⟨sw, hsw, -⟩ := List.mem_map.mp he
    obtain ⟨hmem, hswept⟩ := List.mem_filter.mp hsw
    obtain ⟨c, hci, hconfirms, rfl⟩ := mem_confirmed.mp hmem
    obtain ⟨hunbroken, hlater, hwick, hclose⟩ := Swing.sweptBy_iff.mp hswept
    obtain ⟨hc, hswing⟩ := of_decide_eq_true hconfirms
    refine ⟨c - w, by omega, by omega, hlater, hswing, fun m hm hjm hmi => ?_, hwick, hclose⟩
    have hquiet := firstHit_eq_none_iff.mp hunbroken m hmi
    simpa [breaksAt, hm, hjm] using hquiet
  · rintro ⟨j, h⟩
    have hindex : j + w - w = j := by omega
    have hconfirms : confirmsAt df w dir.flip (j + w) = true := by
      have htwice : 2 * w ≤ j + w := by
        have := h.window
        omega
      unfold confirmsAt
      rw [hindex]
      simp [htwice, h.swing]
    have hmem : swingAt df w dir.flip i j ∈ confirmed df w i (scanTo df w i) dir.flip :=
      mem_confirmed.mpr ⟨j + w, h.confirmed, hconfirms, by rw [hindex]⟩
    have hunbroken : firstHit (breaksAt df w dir.flip j) i = none := by
      rw [firstHit_eq_none_iff]
      intro m hm
      by_cases hdue : j + w ≤ m ∧ j < m
      · simp [breaksAt, h.unbroken m hdue.1 hdue.2 hm]
      · unfold breaksAt
        rw [decide_eq_false_iff_not]
        exact fun hbreaks => hdue ⟨hbreaks.1, hbreaks.2.1⟩
    have hswept : (swingAt df w dir.flip i j).sweptBy i dir (bar df i) = true :=
      Swing.sweptBy_iff.mpr ⟨hunbroken, h.later, h.wick, h.close⟩
    exact ⟨_, List.mem_map.mpr ⟨_, List.mem_filter.mpr ⟨hmem, hswept⟩, rfl⟩⟩

/-- The sweeps of the scan are those of the candles that sweep. -/
theorem exists_sweep_iff {i : ℕ} :
    (∃ e ∈ (scanTo df w k).sweepEvents, e.index = i ∧ e.type = dir) ↔
      i < k ∧ SweepsAt df w dir i := by
  induction k with
  | zero => simp [scanTo]
  | succ k ih =>
      have hone : ∀ other, (∃ e ∈ newSweeps df k other
          (confirmed df w k (scanTo df w k) other.flip), e.index = i ∧ e.type = dir) ↔
            other = dir ∧ i = k ∧ SweepsAt df w dir k := by
        intro other
        constructor
        · rintro ⟨e, he, hindex, htype⟩
          obtain ⟨hk, hother⟩ := mem_newSweeps he
          obtain rfl : other = dir := hother.symm.trans htype
          exact ⟨rfl, hindex.symm.trans hk, (newSweeps_iff k).mp ⟨e, he⟩⟩
        · rintro ⟨rfl, rfl, hsweeps⟩
          obtain ⟨e, he⟩ := (newSweeps_iff i).mpr hsweeps
          exact ⟨e, he, mem_newSweeps he⟩
      have hbull := hone .bullish
      have hbear := hone .bearish
      rw [scanTo_succ, sweepEvents_step]
      simp only [List.mem_append, or_and_right, exists_or, ih]
      simp only [Bias.flip] at hbull hbear
      rw [hbull, hbear]
      constructor
      · rintro ((⟨hi, hsweeps⟩ | ⟨-, rfl, hsweeps⟩) | ⟨-, rfl, hsweeps⟩)
        · exact ⟨by omega, hsweeps⟩
        · exact ⟨by omega, hsweeps⟩
        · exact ⟨by omega, hsweeps⟩
      · rintro ⟨hi, hsweeps⟩
        by_cases hlast : i = k
        · subst hlast
          cases dir with
          | bullish => exact Or.inl (Or.inr ⟨rfl, rfl, hsweeps⟩)
          | bearish => exact Or.inr ⟨rfl, rfl, hsweeps⟩
        · exact Or.inl (Or.inl ⟨by omega, hsweeps⟩)

end SweepsAt

/-- After a candle that sweeps both ways another one sweeps. -/
def LastSweepOneSided (df : List Candle) (w : ℕ) : Prop :=
  ∀ i, i < df.length → SweepsAt df w .bullish i → SweepsAt df w .bearish i →
    ∃ k, i < k ∧ k < df.length ∧ ∃ dir, SweepsAt df w dir k

/-- It says that the candle of the latest sweep sweeps one way. -/
theorem lastSweepOneSided_iff (df : List Candle) (w : ℕ) : LastSweepOneSided df w ↔
    ¬ ∃ e x, (scan df w).sweepEvents.getLast? = some e ∧ x ∈ (scan df w).sweepEvents ∧
      x.index = e.index ∧ x.type = e.type.flip := by
  have hordered := (sweeps_ordered df w df.length).1
  constructor
  · rintro h ⟨e, x, hlast, hx, hindex, htype⟩
    have he := List.mem_of_getLast? hlast
    have hsweeps := (exists_sweep_iff.mp ⟨e, he, rfl, rfl⟩)
    have hsweeps' := (exists_sweep_iff.mp ⟨x, hx, hindex, htype⟩).2
    have hboth : SweepsAt df w .bullish e.index ∧ SweepsAt df w .bearish e.index := by
      cases hdir : e.type with
      | bullish =>
          rw [hdir] at hsweeps hsweeps'
          exact ⟨hsweeps.2, hsweeps'⟩
      | bearish =>
          rw [hdir] at hsweeps hsweeps'
          exact ⟨hsweeps', hsweeps.2⟩
    obtain ⟨k, hlater, hk, dir, hnext⟩ := h e.index hsweeps.1 hboth.1 hboth.2
    obtain ⟨y, hy, hyindex, -⟩ := exists_sweep_iff.mpr ⟨hk, hnext⟩
    rcases before_last hordered hlast hy with rfl | hbefore
    · omega
    · have := hbefore.index_le
      omega
  · intro h i hi hbull hbear
    by_contra hnone
    push Not at hnone
    obtain ⟨y, hy, hyindex, hytype⟩ := exists_sweep_iff.mpr ⟨hi, hbull⟩
    obtain ⟨z, hz, hzindex, hztype⟩ := exists_sweep_iff.mpr ⟨hi, hbear⟩
    cases hlast : (scan df w).sweepEvents.getLast? with
    | none =>
        have hempty := List.getLast?_eq_none_iff.mp hlast
        have hin : y ∈ (scan df w).sweepEvents := hy
        rw [hempty] at hin
        cases hin
    | some e =>
        have he := List.mem_of_getLast? hlast
        obtain ⟨hlt, hsweeps⟩ := exists_sweep_iff.mp ⟨e, he, rfl, rfl⟩
        have hle : i ≤ e.index := by
          rcases before_last hordered hlast hy with rfl | hbefore
          · exact hyindex.ge
          · exact hyindex ▸ hbefore.index_le
        have hindex : e.index = i := by
          by_contra hne
          exact hnone e.index (by omega) hlt e.type hsweeps
        cases hdir : e.type with
        | bullish => exact h ⟨e, z, hlast, hz, by rw [hzindex, hindex], by rw [hztype, hdir]; rfl⟩
        | bearish => exact h ⟨e, y, hlast, hy, by rw [hyindex, hindex], by rw [hytype, hdir]; rfl⟩

/-! ## Candlestick signals -/

/-- No candle has a long wick on both sides. -/
theorem detectPinbar_reflect {c : Candle} (h : c.Valid) :
    detectPinbar c.reflect = (detectPinbar c).map Bias.flip := by
  have hbody : |(-c.close) - (-c.open_)| = |c.close - c.open_| := by
    rw [neg_sub_neg, abs_sub_comm]
  have hrng : -c.low - -c.high = c.high - c.low := by ring
  have hlower : min (-c.open_) (-c.close) - -c.high = c.high - max c.open_ c.close := by
    rw [min_neg_neg]
    ring
  have hupper : -c.low - max (-c.open_) (-c.close) = min c.open_ c.close - c.low := by
    rw [max_neg_neg]
    ring
  have hbull : -c.high + 2 / 5 * (c.high - c.low) ≤ min (-c.open_) (-c.close) ↔
      max c.open_ c.close ≤ c.high - 2 / 5 * (c.high - c.low) := by
    rw [min_neg_neg]
    constructor <;> intro hle <;> linarith
  have hbear : max (-c.open_) (-c.close) ≤ -c.low - 2 / 5 * (c.high - c.low) ↔
      c.low + 2 / 5 * (c.high - c.low) ≤ min c.open_ c.close := by
    rw [max_neg_neg]
    constructor <;> intro hle <;> linarith
  have hrange : c.low ≤ c.high := h.low_le_close.trans h.close_le_high
  unfold detectPinbar
  simp only [Candle.reflect, hbody, hrng, hlower, hupper, hbull, hbear]
  split_ifs with hflat hup hdown
  · rfl
  · -- both at once
    have hpos : 0 < c.high - c.low := lt_of_le_of_ne (by linarith) (Ne.symm hflat)
    linarith [hup.2.1, hup.2.2.1, hdown.2.1]
  · rfl
  · rfl
  · rfl

theorem detectEngulfing_reflect (prev curr : Candle) :
    detectEngulfing prev.reflect curr.reflect = (detectEngulfing prev curr).map Bias.flip := by
  unfold detectEngulfing
  simp only [Candle.reflect, neg_lt_neg_iff, neg_le_neg_iff]
  split_ifs with hdown hup
  · exact absurd (hdown.1.trans hup.1) (lt_irrefl _)
  · rfl
  · rfl
  · rfl

theorem signalsAt_reflect {df : List Candle} (hvalid : ∀ c ∈ df, c.Valid) (forming : Bool)
    (idx : ℕ) : signalsAt (df.map Candle.reflect) forming idx =
      (signalsAt df forming idx).map PriceAction.mirror := by
  unfold signalsAt
  simp only [bar_reflect, detectPinbar_reflect (bar_valid df hvalid idx), detectEngulfing_reflect,
    List.map_append]
  congr 1
  · cases detectPinbar (bar df idx) with
    | none => rfl
    | some side => rfl
  · by_cases hidx : 0 < idx
    · rw [if_pos hidx, if_pos hidx]
      cases detectEngulfing (bar df (idx - 1)) (bar df idx) with
      | none => rfl
      | some side => rfl
    · rw [if_neg hidx, if_neg hidx]
      rfl

/-! ## The result -/

theorem lastThree_map {α β : Type} (f : α → β) (l : List α) :
    lastThree (l.map f) = (lastThree l).map f := by
  simp [lastThree, List.map_drop]

/-- What is compiled of a mirrored scan is the mirror image, if the latest sweep is. -/
theorem Mirrors.compile_iff {s s' : Scan} (h : Mirrors s s') (n : ℕ) (signals : List PriceAction) :
    s'.compile n (signals.map PriceAction.mirror) = (s.compile n signals).mirror ↔
      s'.sweepEvents.getLast? = s.sweepEvents.getLast?.map Sweep.mirror := by
  have hhighs : s'.swingHighs = s.swingLows.map Swing.mirror := h.swings .bearish
  have hlows : s'.swingLows = s.swingHighs.map Swing.mirror := h.swings .bullish
  have hactive : ∀ l : List Swing, lastThree ((l.map Swing.mirror).filter (fun sw => ¬ sw.broken)) =
      (lastThree (l.filter (fun sw => ¬ sw.broken))).map Swing.mirror := by
    intro l
    rw [List.filter_map, lastThree_map]
    rfl
  have hblocks : lastThree (s'.orderBlocks.filter (fun ob => ¬ ob.mitigated)) =
      (lastThree (s.orderBlocks.filter (fun ob => ¬ ob.mitigated))).map OrderBlock.mirror := by
    rw [h.orderBlocks, List.filter_map, lastThree_map]
    rfl
  have hgaps : lastThree (s'.fvgs.filter (fun gap => ¬ gap.mitigated)) =
      (lastThree (s.fvgs.filter (fun gap => ¬ gap.mitigated))).map Fvg.mirror := by
    rw [h.fvgs, List.filter_map, lastThree_map]
    rfl
  have hchoch : s'.bosEvents.reverse.find? (fun e => e.event = .choch) =
      (s.bosEvents.reverse.find? (fun e => e.event = .choch)).map Break.mirror := by
    rw [h.bosEvents, ← List.map_reverse, List.find?_map]
    rfl
  have hrecent : ∀ e : Option Break,
      (e.map Break.mirror).map (fun e => (⟨e, n - 1 - e.index⟩ : Recent Break)) =
        (e.map (fun e => (⟨e, n - 1 - e.index⟩ : Recent Break))).map (Recent.map Break.mirror) := by
    intro e
    cases e <;> rfl
  have hsweep : ∀ e : Option Sweep,
      (e.map (fun e => (⟨e, n - 1 - e.index⟩ : Recent Sweep))).map (Recent.map Sweep.mirror) =
        (e.map Sweep.mirror).map (fun e => (⟨e, n - 1 - e.index⟩ : Recent Sweep)) := by
    intro e
    cases e <;> rfl
  have hinj : Function.Injective (fun e : Sweep => (⟨e, n - 1 - e.index⟩ : Recent Sweep)) :=
    fun a b hab => congrArg Recent.event hab
  have hlast : s'.bosEvents.getLast? = s.bosEvents.getLast?.map Break.mirror := by
    rw [h.bosEvents, List.getLast?_map]
  unfold Scan.compile Analysis.mirror
  simp only [hhighs, hlows, hactive, hblocks, hgaps, hchoch, hrecent, hlast, hsweep, h.trendBias,
    List.length_map, Analysis.mk.injEq, true_and, and_true]
  exact (Option.map_injective hinj).eq_iff

theorem pick_mirror (pb : LiquiditySweep) (a : Analysis) :
    pb.pick a.mirror = (pb.pick a).map PositionSide.exitSide := by
  unfold LiquiditySweep.pick LiquiditySweep.freshSweep Analysis.mirror
  dsimp only
  cases a.recentSweep with
  | none => rfl
  | some sweep =>
      by_cases hfresh : sweep.candlesAgo ≤ pb.sweepLookback
      · cases htype : sweep.event.type <;>
          simp [Option.filter, hfresh, Recent.map, Sweep.mirror, htype, Bias.flip, Bias.side,
            PositionSide.exitSide]
      · simp [Option.filter, hfresh, Recent.map]

/-- Candles that open and close within their range. -/
structure Series where
  candles : List Candle
  valid : ∀ c ∈ candles, c.Valid

/-- The analysis of the reflected candles is the mirror image, and the liquidity-sweep
playbook picks the opposite side on it. -/
structure Reflects (df : List Candle) (w : ℕ) : Prop where
  analysis : analyze (df.map Candle.reflect) w = (analyze df w).mirror
  pick : ∀ pb : LiquiditySweep, pb.swingWindow = w →
    pb.pick (analyze (df.map Candle.reflect) w) =
      (pb.pick (analyze df w)).map PositionSide.exitSide

/-- The analysis is mirror-symmetric exactly if the candle of the latest sweep does not
sweep both a swing low and a swing high. -/
theorem reflects_iff (df : Series) (w : ℕ) :
    Reflects df.candles w ↔ (Sufficient df.candles w → LastSweepOneSided df.candles w) := by
  have hanalysis : analyze (df.candles.map Candle.reflect) w = (analyze df.candles w).mirror ↔
      (Sufficient df.candles w → LastSweepOneSided df.candles w) := by
    unfold analyze
    by_cases hsufficient : Sufficient df.candles w
    · have hsufficient' : Sufficient (df.candles.map Candle.reflect) w := by
        unfold Sufficient
        rw [List.length_map]
        exact hsufficient
      have hmirrors := scanTo_mirrors df.valid w (le_refl df.candles.length)
      have hordered := (sweeps_ordered df.candles w df.candles.length).1
      have hordered' :=
        (sweeps_ordered (df.candles.map Candle.reflect) w df.candles.length).1
      rw [if_pos hsufficient, if_pos hsufficient', lastSweepOneSided_iff, List.length_map,
        signalsAt_reflect df.valid, signalsAt_reflect df.valid, ← List.map_append]
      have hscan : scan (df.candles.map Candle.reflect) w =
          scanTo (df.candles.map Candle.reflect) w df.candles.length := by
        unfold scan
        rw [List.length_map]
      rw [hscan]
      refine (hmirrors.compile_iff _ _).trans ((hmirrors.getLast?_sweeps hordered hordered').trans ?_)
      exact ⟨fun h _ => h, fun h => h hsufficient⟩
    · have hsufficient' : ¬ Sufficient (df.candles.map Candle.reflect) w := by
        unfold Sufficient
        rw [List.length_map]
        exact hsufficient
      rw [if_neg hsufficient, if_neg hsufficient']
      exact iff_of_true rfl (fun h => absurd h hsufficient)
  rw [← hanalysis]
  constructor
  · exact fun h => h.analysis
  · intro h
    refine ⟨h, fun pb _ => ?_⟩
    rw [h, pick_mirror]

/-! ### A candle that sweeps both ways -/

/-- Flat candles with a swing high at 5 and a swing low at 10; the last candle goes
beyond both. -/
def demoCandle (k : ℕ) : Candle :=
  { open_ := 100
    high := if k = 5 then 105 else if k = 19 then 106 else 101
    low := if k = 10 then 95 else if k = 19 then 94 else 99
    close := 100
    volume := 1
    closeTime := k
    openTime := k }

def demoSeries : Series where
  candles := (List.range 20).map demoCandle
  valid := by
    intro c hc
    obtain ⟨k, -, rfl⟩ := List.mem_map.mp hc
    unfold demoCandle
    constructor <;> dsimp only <;> split_ifs <;> norm_num

theorem not_reflects : ¬ ∀ (df : Series) (w : ℕ), Reflects df.candles w := by
  intro h
  have hpick := (h demoSeries 3).pick { } rfl
  have hboth : LiquiditySweep.pick { } (analyze demoSeries.candles 3) = some .short ∧
      LiquiditySweep.pick { } (analyze (demoSeries.candles.map Candle.reflect) 3) =
        some .short := by
    decide +kernel
  rw [hboth.1, hboth.2] at hpick
  cases hpick

end CryptoTrader.Structure
