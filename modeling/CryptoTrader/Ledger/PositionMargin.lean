import CryptoTrader.Ledger.PositionRows

/-!
# The margin of a position

`initial_margin` is computed when a position is opened.  `refresh` keeps it at
every mark, and `add_to_position` and `reduce_position` change the size without
setting it: the margin that is stored, counted in a snapshot and put under the
percentage of the result stays that of the opening.
-/

namespace CryptoTrader

open CryptoTrader.Lib

/-! ## Margins -/

/-- The margin of the current size. -/
def LedgerPosition.sizeMargin (pos : LedgerPosition) : Decimal :=
  pos.qty * pos.entryPriceAvg / pos.leverage

/-- The margin of a position is that of its size. -/
structure LedgerPosition.MarginTracks (pos : LedgerPosition) : Prop where
  initial : pos.initialMargin = some pos.sizeMargin
  used : pos.marginUsed = some pos.sizeMargin
  pct : pos.unrealizedPnlPct = pos.unrealizedPnl / pos.sizeMargin * 100

/-- A position as it is stored or as `refresh_marks` returns it. -/
def PositionDb.Shows (rows : PositionDb) (pos : LedgerPosition) : Prop :=
  pos ∈ rows ∨ ∃ (engine : PositionEngine) (venue : String) (marks : Dict String Decimal) (now : ℤ),
    pos ∈ engine.refreshMarks rows venue marks now

/-- The margin of every position is that of its size, and so is what a snapshot
of any of them counts. -/
structure PositionDb.MarginsTrack (rows : PositionDb) : Prop where
  sized : ∀ pos, rows.Shows pos → 0 < pos.qty → pos.MarginTracks
  counted : ∀ positions : List LedgerPosition, (∀ pos ∈ positions, rows.Shows pos) →
    marginUsedTotal positions = (positions.map LedgerPosition.sizeMargin).sum

/-! ## Calls with positive arguments -/

/-- Quantities, prices and leverages are positive. -/
def PositionOp.Positive : PositionOp → Prop
  | .openPosition _ _ _ _ qty entryPrice leverage _ _ _ => 0 < qty ∧ 0 < entryPrice ∧ 0 < leverage
  | .addToPosition _ qtyDelta fillPrice _ => 0 < qtyDelta ∧ 0 < fillPrice
  | .reducePosition _ qtyDelta exitPrice _ => 0 < qtyDelta ∧ 0 < exitPrice
  | .closePosition _ exitPrice _ => 0 < exitPrice
  | .updateSlTp .. | .accrueFee .. | .accrueFunding .. => True

/-- A call of an engine with positive arguments. -/
structure PositionCall where
  engine : PositionEngine
  op : PositionOp
  positive : op.Positive

/-- The table after a call, whether it returned or raised. -/
def PositionCall.step (rows : PositionDb) (call : PositionCall) : PositionDb :=
  final (call.op.run .sqlite call.engine) rows

/-- A mutation changes the size of a position that stays open. -/
def PositionMutation.Resizes (pos : LedgerPosition) : PositionMutation → Prop
  | .addToPosition .. => pos.status = .opened
  | .reducePosition qtyDelta _ => pos.status ≠ .closed ∧ qtyDelta < pos.qty
  | .updateSlTp .. | .accrueFee .. | .accrueFunding .. => False

/-- A call adds to a position, or reduces it in part. -/
def PositionOp.Resizes (rows : PositionDb) (op : PositionOp) : Prop :=
  ∃ pos m, rows.loadByUid op.uid = some pos ∧ op.mutation pos = some m ∧ m.Resizes pos

/-! ## One position -/

/-- What every call keeps of a position: the margin is positive. -/
structure LedgerPosition.Margined (pos : LedgerPosition) : Prop where
  entry : 0 < pos.entryPriceAvg
  leverage : 0 < pos.leverage
  qty : (pos.status = .closed ∧ pos.qty = 0) ∨ (pos.status ≠ .closed ∧ 0 < pos.qty)
  margin : ∃ m, 0 < m ∧ pos.initialMargin = some m ∧ pos.marginUsed = some m ∧
    (0 < pos.qty → pos.unrealizedPnlPct = pos.unrealizedPnl / m * 100)

/-- A position that is left is an open one with the margin of its size. -/
def LedgerPosition.Tracks (pos : LedgerPosition) : Prop :=
  0 < pos.qty → pos.status = .opened ∧ pos.MarginTracks

section Position

variable {engine : PositionEngine} {pos made : LedgerPosition} {now : ℤ}

theorem LedgerPosition.Margined.sizeMargin_pos (h : pos.Margined) (hqty : 0 < pos.qty) :
    0 < pos.sizeMargin := by
  have hleverage : (0 : Decimal) < pos.leverage := by exact_mod_cast h.leverage
  exact div_pos (mul_pos hqty h.entry) hleverage

theorem priceOf_of_pos {m : Decimal} (h : 0 < m) : priceOf (some m) = some m := by
  simp [priceOf, Option.filter_some, h.ne']

theorem LedgerPosition.Margined.stored (h : pos.Margined) : pos.stored.Margined := by
  obtain ⟨m, hpos, hinitial, hused, hpct⟩ := h.margin
  refine ⟨h.entry, h.leverage, h.qty, m, hpos, ?_, ?_, hpct⟩
  · show priceOf pos.initialMargin = some m
    rw [hinitial, priceOf_of_pos hpos]
  · show priceOf pos.marginUsed = some m
    rw [hused, priceOf_of_pos hpos]

theorem LedgerPosition.tracks_stored (h : pos.Margined) : pos.stored.Tracks ↔ pos.Tracks := by
  obtain ⟨m, hpos, hinitial, hused, -⟩ := h.margin
  have hinitial' : pos.stored.initialMargin = pos.initialMargin := by
    show priceOf pos.initialMargin = _
    rw [hinitial, priceOf_of_pos hpos]
  have hused' : pos.stored.marginUsed = pos.marginUsed := by
    show priceOf pos.marginUsed = _
    rw [hused, priceOf_of_pos hpos]
  refine forall_congr' (fun _ => and_congr_right (fun _ => ?_))
  constructor
  · rintro ⟨hi, hu, hp⟩
    exact ⟨hinitial' ▸ hi, hused' ▸ hu, hp⟩
  · rintro ⟨hi, hu, hp⟩
    exact ⟨hinitial'.trans hi, hused'.trans hu, hp⟩

variable (engine pos now) in
theorem PositionEngine.recalculate_margin {m : Decimal} (hpos : 0 < m)
    (hinitial : pos.initialMargin = some m) (mark : Decimal) :
    (engine.recalculate pos mark now).initialMargin = some m ∧
      (engine.recalculate pos mark now).marginUsed = some m ∧
      (engine.recalculate pos mark now).unrealizedPnlPct =
        (engine.recalculate pos mark now).unrealizedPnl / m * 100 := by
  simp [PositionEngine.recalculate, LedgerPosition.refresh, hinitial, hpos, not_le.mpr hpos]

variable (engine now) in
theorem PositionEngine.buildPosition_tracks (uid venue symbol : String) (side : PositionSide)
    {qty entryPrice : Decimal} {leverage : ℤ} (tpPrice slPrice : Option Decimal)
    (h : 0 < qty ∧ 0 < entryPrice ∧ 0 < leverage) :
    let pos := engine.buildPosition uid venue symbol side qty entryPrice leverage tpPrice slPrice now
    pos.Margined ∧ pos.Tracks := by
  obtain ⟨hqty, hentry, hleverage⟩ := h
  have hleverage' : (0 : Decimal) < leverage := by exact_mod_cast hleverage
  have hzero : (0 : Decimal) = 0 / (qty * entryPrice / leverage) * 100 := by ring
  refine ⟨⟨hentry, hleverage, Or.inr ⟨nofun, hqty⟩, _, ?_,
    rfl, rfl, fun _ => hzero⟩,
    fun _ => ⟨rfl, rfl, rfl, hzero⟩⟩
  exact div_pos (mul_pos hqty hentry) hleverage'

/-- Adding moves the size and the average entry away from the margin. -/
theorem LedgerPosition.Margined.add (h : pos.Margined) (htracks : pos.Tracks)
    {qtyDelta fillPrice : Decimal} (hpositive : 0 < qtyDelta ∧ 0 < fillPrice)
    (hmade : (PositionMutation.addToPosition qtyDelta fillPrice).change engine now pos = .ok made) :
    made.Margined ∧ ¬ made.Tracks ∧ pos.status = .opened := by
  dsimp only [PositionMutation.change] at hmade
  split at hmade
  · cases hmade
  next status hnext =>
  have hopened := LedgerPositionStatus.next?_add hnext
  have hqty : 0 < pos.qty := by
    rcases h.qty with ⟨hclosed, -⟩ | ⟨-, hqty⟩
    · rw [hopened] at hclosed
      cases hclosed
    · exact hqty
  have hsum : 0 < pos.qty + qtyDelta := add_pos hqty hpositive.1
  rw [if_neg hsum.ne'] at hmade
  cases hmade
  obtain ⟨m, hm, hinitial, -, -⟩ := h.margin
  have hcost : 0 < pos.qty * pos.entryPriceAvg + qtyDelta * fillPrice :=
    add_pos (mul_pos hqty h.entry) (mul_pos hpositive.1 hpositive.2)
  obtain ⟨hinitial', hused', hpct'⟩ := PositionEngine.recalculate_margin engine { pos with
      qty := pos.qty + qtyDelta
      entryPriceAvg := (pos.qty * pos.entryPriceAvg + qtyDelta * fillPrice) / (pos.qty + qtyDelta)
      updatedAt := now } now hm hinitial fillPrice
  refine ⟨⟨div_pos hcost hsum, h.leverage, Or.inr ⟨?_, hsum⟩, m, hm, hinitial', hused',
    fun _ => hpct'⟩, fun hmade => ?_, hopened⟩
  · show pos.status ≠ .closed
    rw [hopened]
    exact fun hclosed => nomatch hclosed
  · -- the margin is that of the size before, the size is another one
    have hsize := hinitial'.symm.trans (hmade hsum).2.initial
    have hbefore := hinitial.symm.trans (htracks hqty).2.initial
    have heq : pos.qty * pos.entryPriceAvg / pos.leverage =
        (pos.qty + qtyDelta) * ((pos.qty * pos.entryPriceAvg + qtyDelta * fillPrice) /
          (pos.qty + qtyDelta)) / pos.leverage :=
      (Option.some.inj hbefore).symm.trans (Option.some.inj hsize)
    have hleverage : (pos.leverage : Decimal) ≠ 0 := by exact_mod_cast h.leverage.ne'
    rw [mul_div_cancel₀ _ hsum.ne', div_left_inj' hleverage] at heq
    have hfill := mul_pos hpositive.1 hpositive.2
    linarith

theorem LedgerPosition.Margined.reduce (h : pos.Margined) {qtyDelta exitPrice : Decimal}
    (hmade : (PositionMutation.reducePosition qtyDelta exitPrice).change engine now pos = .ok made) :
    made.Margined ∧ (made.Tracks ↔ ¬ (pos.status ≠ .closed ∧ qtyDelta < pos.qty)) := by
  obtain ⟨m, hm, hinitial, hused, -⟩ := h.margin
  dsimp only [PositionMutation.change] at hmade
  split at hmade
  · cases hmade
  next status hnext =>
  split at hmade
  · cases hmade
  next hle =>
  by_cases hfull : qtyDelta ≥ pos.qty
  · rw [if_pos hfull] at hnext
    rw [if_pos (LedgerPositionStatus.next?_fullClose hnext).1] at hmade
    cases hmade
    refine ⟨⟨h.entry, h.leverage, Or.inl ⟨rfl, rfl⟩, m, hm, hinitial, hused,
      fun hpos => absurd hpos (lt_irrefl 0)⟩, ?_⟩
    constructor
    · rintro - ⟨-, hlt⟩
      exact absurd hfull (not_le.mpr hlt)
    · exact fun _ hpos => absurd hpos (lt_irrefl 0)
  · rw [if_neg hfull] at hnext
    obtain ⟨hreducing, hopen⟩ := LedgerPositionStatus.next?_partialClose hnext
    have hlt : qtyDelta < pos.qty := not_le.mp hfull
    rw [if_neg (by rw [hreducing]; decide)] at hmade
    cases hmade
    obtain ⟨hinitial', hused', hpct'⟩ := PositionEngine.recalculate_margin engine { pos with
        qty := pos.qty - qtyDelta
        realizedPnl := pos.realizedPnl + pos.side.gain pos.entryPriceAvg exitPrice * qtyDelta
        status := .reducing
        updatedAt := now } now hm hinitial exitPrice
    refine ⟨⟨h.entry, h.leverage, Or.inr ⟨nofun, sub_pos.mpr hlt⟩, m, hm,
      hinitial', hused', fun _ => hpct'⟩, ?_⟩
    constructor
    · intro hmade
      exact nomatch (hmade (sub_pos.mpr hlt)).1
    · exact fun hnot => absurd ⟨hopen, hlt⟩ hnot

/-- What a call makes of a position; its margin is still that of the size unless
the call resizes it. -/
theorem LedgerPosition.Margined.change (h : pos.Margined) (htracks : pos.Tracks)
    {m : PositionMutation} {op : PositionOp} (hop : op.Positive) (hm : op.mutation pos = some m)
    (hmade : m.change engine now pos = .ok made) :
    made.Margined ∧ (made.Tracks ↔ ¬ m.Resizes pos) := by
  cases op with
  | openPosition => cases hm
  | addToPosition uid qtyDelta fillPrice now =>
      cases hm
      obtain ⟨hmargined, hnot, hopened⟩ := h.add htracks hop hmade
      exact ⟨hmargined, fun htracks' => absurd htracks' hnot, fun hresize => absurd hopened hresize⟩
  | reducePosition | closePosition =>
      cases hm
      exact h.reduce hmade
  | updateSlTp | accrueFee | accrueFunding =>
      cases hm
      cases hmade
      refine ⟨⟨h.entry, h.leverage, h.qty, h.margin⟩, fun _ => not_false, fun _ => ?_⟩
      exact fun hqty => ⟨(htracks hqty).1, (htracks hqty).2.initial, (htracks hqty).2.used,
        (htracks hqty).2.pct⟩

/-- A mark moves the result of a position, not its margin. -/
theorem LedgerPosition.Tracks.recalculate (h : pos.Tracks) (hmargined : pos.Margined)
    (mark : Decimal) : (engine.recalculate pos mark now).Tracks := by
  intro hqty
  obtain ⟨hopened, htracks⟩ := h hqty
  have hpos : 0 < pos.sizeMargin := hmargined.sizeMargin_pos hqty
  obtain ⟨hinitial, hused, hpct⟩ := PositionEngine.recalculate_margin engine pos now hpos htracks.initial mark
  exact ⟨hopened, hinitial, hused, hpct⟩

/-- What a snapshot counts for a position is the margin of its size. -/
theorem LedgerPosition.Tracks.counted (h : pos.Tracks)
    (hqty : (pos.status = .closed ∧ pos.qty = 0) ∨ (pos.status ≠ .closed ∧ 0 < pos.qty)) :
    marginUsedTotal [pos] = pos.sizeMargin := by
  rcases hqty with ⟨hclosed, hzero⟩ | ⟨-, hpos⟩
  · simp [marginUsedTotal, countedPositions, LedgerPosition.sizeMargin, hclosed, hzero]
  · obtain ⟨hopened, htracks⟩ := h hpos
    simp [marginUsedTotal, countedPositions, hopened, htracks.used]

end Position

/-! ## The table -/

/-- What every run keeps of the table. -/
structure PositionDb.Margined (rows : PositionDb) : Prop where
  distinct : rows.Distinct
  rows : ∀ pos ∈ rows, pos.Margined

section Table

variable {rows rows' : PositionDb}

theorem PositionDb.Margined.shown (h : rows.Margined) (htracks : ∀ pos ∈ rows, pos.Tracks)
    {pos : LedgerPosition} (hpos : rows.Shows pos) :
    pos.Tracks ∧ ((pos.status = .closed ∧ pos.qty = 0) ∨ (pos.status ≠ .closed ∧ 0 < pos.qty)) := by
  rcases hpos with hrow | ⟨engine, venue, marks, now, hrefreshed⟩
  · exact ⟨htracks pos hrow, (h.rows pos hrow).qty⟩
  · obtain ⟨row, hlisted, hmark⟩ := List.mem_filterMap.mp hrefreshed
    have hrow : row ∈ rows := by
      unfold PositionEngine.listOpenPositions at hlisted
      split at hlisted
      · exact (List.mem_filter.mp ((List.mem_insertionSort _).mp hlisted)).1
      · exact (List.mem_filter.mp ((List.mem_insertionSort _).mp hlisted)).1
    obtain ⟨mark, -, rfl⟩ := Option.map_eq_some_iff.mp hmark
    exact ⟨(htracks row hrow).recalculate (h.rows row hrow) mark, (h.rows row hrow).qty⟩

/-- The margins of a table are those of the sizes exactly if those of its rows
are, and what is left is open. -/
theorem PositionDb.Margined.marginsTrack_iff (h : rows.Margined) :
    rows.MarginsTrack ↔ ∀ pos ∈ rows, pos.Tracks := by
  constructor
  · intro htrack pos hpos hqty
    refine ⟨?_, htrack.sized pos (Or.inl hpos) hqty⟩
    by_contra hstatus
    have hcounted := htrack.counted [pos] (fun pos' hmem => by
      rw [List.mem_singleton.mp hmem]
      exact Or.inl hpos)
    have hsize := (h.rows pos hpos).sizeMargin_pos hqty
    simp [marginUsedTotal, countedPositions, hstatus] at hcounted
    linarith
  · intro htracks
    refine ⟨fun pos hpos hqty => ((h.shown htracks hpos).1 hqty).2, fun positions hpositions => ?_⟩
    induction positions with
    | nil => rfl
    | cons pos rest ih =>
        obtain ⟨hpos, hqty⟩ := h.shown htracks (hpositions pos List.mem_cons_self)
        have hfirst := hpos.counted hqty
        have hrest := ih (fun pos' hmem => hpositions pos' (List.mem_cons_of_mem pos hmem))
        have hsplit : marginUsedTotal (pos :: rest) = marginUsedTotal [pos] + marginUsedTotal rest := by
          unfold marginUsedTotal countedPositions
          rw [← List.sum_append, ← List.map_append, ← List.filter_append, List.singleton_append]
        rw [hsplit, hfirst, hrest, List.map_cons, List.sum_cons]

/-- What an accepted call makes of one row. -/
theorem LedgerPosition.rowStep_tracks {engine : PositionEngine} {op : PositionOp}
    {pos' : LedgerPosition} {uid : String} (hop : op.Positive)
    (hrow : PositionOp.RowStep engine uid (rows.loadByUid uid) op (some pos'))
    (hbefore : ∀ pos, rows.loadByUid uid = some pos → pos.Margined ∧ pos.Tracks) :
    pos'.Margined ∧ (pos'.Tracks ↔ ¬ (op.uid = uid ∧ op.Resizes rows)) := by
  generalize hload : rows.loadByUid uid = row at hrow
  cases hrow with
  | other hother =>
      obtain ⟨hmargined, htracks⟩ := hbefore pos' hload
      exact ⟨hmargined, fun _ hresizes => hother hresizes.1, fun _ => htracks⟩
  | opened hleverage =>
      obtain ⟨hmargined, htracks⟩ := PositionEngine.buildPosition_tracks engine _ uid _ _ _
        _ _ hop
      refine ⟨hmargined.stored, fun _ => ?_, fun _ => (LedgerPosition.tracks_stored hmargined).mpr htracks⟩
      rintro ⟨-, pos, m, hload', -⟩
      rw [show rows.loadByUid uid = some pos from hload'] at hload
      cases hload
  | changed huid hm hmade =>
      obtain ⟨hmargined, htracks⟩ := hbefore _ hload
      obtain ⟨hmade', hiff⟩ := hmargined.change htracks hop hm hmade
      refine ⟨hmade'.stored, ?_⟩
      rw [LedgerPosition.tracks_stored hmade', hiff, not_iff_not]
      constructor
      · exact fun hresize => ⟨huid, _, _, huid ▸ hload, hm, hresize⟩
      · rintro ⟨-, pos₁, m₁, hload₁, hm₁, hresize⟩
        rw [huid, hload] at hload₁
        cases hload₁
        rw [hm] at hm₁
        cases hm₁
        exact hresize

/-- What an accepted call makes of the table. -/
theorem PositionDb.Margined.run (h : rows.Margined) (htracks : ∀ pos ∈ rows, pos.Tracks)
    {engine : PositionEngine} {op : PositionOp} (hop : op.Positive)
    (hrun : op.run .sqlite engine rows = .ok () rows') :
    rows'.Margined ∧ ((∀ pos ∈ rows', pos.Tracks) ↔ ¬ op.Resizes rows) := by
  have hdistinct := h.distinct.run engine hrun
  have hstep : ∀ pos' ∈ rows', pos'.Margined ∧ (pos'.Tracks ↔
      ¬ (op.uid = pos'.positionUid ∧ op.Resizes rows)) := by
    intro pos' hpos'
    have hrow := PositionOp.rowStep_of_run engine hrun pos'.positionUid
    rw [hdistinct.mem_iff.mp hpos'] at hrow
    refine LedgerPosition.rowStep_tracks hop hrow (fun pos hload => ?_)
    have hpos := List.mem_of_find?_eq_some hload
    exact ⟨h.rows pos hpos, htracks pos hpos⟩
  refine ⟨⟨hdistinct, fun pos' hpos' => (hstep pos' hpos').1⟩, fun htracks' hresizes => ?_, ?_⟩
  · -- the row that is resized is still there
    obtain ⟨pos, m, hload, hm, hresize⟩ := hresizes
    have hrow := PositionOp.rowStep_of_run engine hrun op.uid
    rw [hload] at hrow
    obtain ⟨pos', hload'⟩ : ∃ pos', rows'.loadByUid op.uid = some pos' := by
      generalize rows'.loadByUid op.uid = row' at hrow
      cases hrow with
      | other hother => exact absurd rfl hother
      | changed => exact ⟨_, rfl⟩
    have huid := PositionDb.uid_of_load hload'
    have hpos' := List.mem_of_find?_eq_some hload'
    exact (hstep pos' hpos').2.mp (htracks' pos' hpos') ⟨huid.symm, pos, m, hload, hm, hresize⟩
  · intro hnot pos' hpos'
    exact (hstep pos' hpos').2.mpr (fun hresizes => hnot hresizes.2)

/-- A call that raises would not have resized anything. -/
theorem PositionDb.Margined.not_resizes (h : rows.Margined) {engine : PositionEngine}
    {op : PositionOp} (hop : op.Positive) {e : PyErr}
    (hrun : op.run .sqlite engine rows = .error e rows') : ¬ op.Resizes rows := by
  rintro ⟨pos, m, hload, hm, hresize⟩
  have hmargined := h.rows pos (List.mem_of_find?_eq_some hload)
  have haccepted : ∃ made, m.change engine op.now pos = .ok made := by
    cases m with
    | addToPosition qtyDelta fillPrice =>
        have hopened : pos.status = .opened := hresize
        have hpositive : 0 < qtyDelta := by
          cases op <;> cases hm
          exact hop.1
        have hqty : 0 < pos.qty := by
          rcases hmargined.qty with ⟨hclosed, -⟩ | ⟨-, hqty⟩
          · rw [hopened] at hclosed
            cases hclosed
          · exact hqty
        simp [PositionMutation.change, hopened, LedgerPositionStatus.next?, positionTransitions,
          (add_pos hqty hpositive).ne']
    | reducePosition qtyDelta exitPrice =>
        obtain ⟨hopen, hlt⟩ := hresize
        have hnext : pos.status.next? .partialClose = some .reducing := by
          cases hstatus : pos.status with
          | opened => rfl
          | reducing => rfl
          | closed => exact absurd hstatus hopen
        simp [PositionMutation.change, hnext, not_le.mpr hlt, not_lt.mpr hlt.le]
    | updateSlTp | accrueFee | accrueFunding => exact hresize.elim
  obtain ⟨made, hmade⟩ := haccepted
  obtain ⟨rows₁, hok⟩ := PositionOp.accepted engine hload hm hmade
  rw [hok] at hrun
  cases hrun

/-- A call keeps the margins those of the sizes exactly if it resizes nothing. -/
theorem PositionDb.Margined.step (h : rows.Margined) (htrack : rows.MarginsTrack)
    (call : PositionCall) :
    (PositionCall.step rows call).Margined ∧
      ((PositionCall.step rows call).MarginsTrack ↔ ¬ call.op.Resizes rows) := by
  unfold PositionCall.step
  cases hrun : call.op.run .sqlite call.engine rows with
  | error e rows₁ =>
      obtain rfl := PositionOp.rows_of_error call.engine hrun
      rw [final, hrun]
      exact ⟨h, fun _ => h.not_resizes call.positive hrun, fun _ => htrack⟩
  | ok _ rows₁ =>
      rw [final_of_ok hrun]
      obtain ⟨hmargined, hiff⟩ := h.run (h.marginsTrack_iff.mp htrack) call.positive hrun
      exact ⟨hmargined, hmargined.marginsTrack_iff.trans hiff⟩

end Table

/-! ## Runs -/

/-- A position of 4 units to which one is added. -/
def demoAdded : List PositionCall :=
  [⟨demoEngine, .openPosition "a" "binance" "BTCUSDT" .long 4 50000 10 none none 1, by
      simp [PositionOp.Positive]⟩,
    ⟨demoEngine, .addToPosition "a" 1 52000 2, by simp [PositionOp.Positive]⟩]

end CryptoTrader
