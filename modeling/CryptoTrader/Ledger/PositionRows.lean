import CryptoTrader.Ledger.LostUpdates

/-!
# One row of the position table

What a call of the position engine does to the row of one position.  On SQLite a
row holds what the call has computed, up to the columns that store a zero as
nothing; a call that raises stores nothing at all.
-/

namespace CryptoTrader

open CryptoTrader.Lib

/-! ## Rows on SQLite -/

/-- A position as SQLite stores it. -/
def LedgerPosition.stored (pos : LedgerPosition) : LedgerPosition :=
  { pos with
    markPrice := priceOf pos.markPrice
    notional := priceOf pos.notional
    initialMargin := priceOf pos.initialMargin
    maintenanceMargin := priceOf pos.maintenanceMargin
    marginUsed := priceOf pos.marginUsed
    liquidationPrice := priceOf pos.liquidationPrice
    tpPrice := priceOf pos.tpPrice
    slPrice := priceOf pos.slPrice }

theorem Backend.optionColumn_sqlite (price : Option Decimal) :
    Backend.sqlite.optionColumn price = .ok (priceOf price) := by
  cases price with
  | none => rfl
  | some p =>
      by_cases hzero : p = 0
      · simp [optionColumn, priceOf, hzero, Option.filter_some]
      · simp [optionColumn, priceOf, hzero, column, Except.map, Option.filter_some]

theorem Backend.positionRow_sqlite (pos : LedgerPosition) :
    Backend.sqlite.positionRow pos = .ok pos.stored := by
  unfold positionRow
  simp only [optionColumn_sqlite]
  rfl

/-! ## Calls -/

/-- The position a call is about. -/
def PositionOp.uid : PositionOp → String
  | .openPosition uid .. | .addToPosition uid .. | .reducePosition uid .. | .closePosition uid ..
  | .updateSlTp uid .. | .accrueFee uid .. | .accrueFunding uid .. => uid

/-- When a call is made. -/
def PositionOp.now : PositionOp → ℤ
  | .openPosition _ _ _ _ _ _ _ _ _ now | .addToPosition _ _ _ now | .reducePosition _ _ _ now
  | .closePosition _ _ now | .updateSlTp _ _ _ now | .accrueFee _ _ now
  | .accrueFunding _ _ now => now

/-- The call makes a position. -/
def PositionOp.Opens : PositionOp → Prop
  | .openPosition .. => True
  | _ => False

/-- What a call changes of a position; to close it is to reduce it by all of it. -/
def PositionOp.mutation (pos : LedgerPosition) : PositionOp → Option PositionMutation
  | .openPosition .. => none
  | .addToPosition _ qtyDelta fillPrice _ => some (.addToPosition qtyDelta fillPrice)
  | .reducePosition _ qtyDelta exitPrice _ => some (.reducePosition qtyDelta exitPrice)
  | .closePosition _ exitPrice _ => some (.reducePosition pos.qty exitPrice)
  | .updateSlTp _ slPrice tpPrice _ => some (.updateSlTp slPrice tpPrice)
  | .accrueFee _ fee _ => some (.accrueFee fee)
  | .accrueFunding _ amount _ => some (.accrueFunding amount)

theorem PositionOp.mutation_of_not_opens {op : PositionOp} (h : ¬ op.Opens) (pos : LedgerPosition) :
    ∃ m, op.mutation pos = some m := by
  cases op with
  | openPosition => exact absurd trivial h
  | addToPosition | reducePosition | closePosition | updateSlTp | accrueFee | accrueFunding =>
      exact ⟨_, rfl⟩

section Calls

variable (engine : PositionEngine) {rows rows' : PositionDb} {op : PositionOp}

/-- What an accepted call does to the row of one position. -/
inductive PositionOp.RowStep (uid : String) : Option LedgerPosition → PositionOp →
    Option LedgerPosition → Prop
  | other {row : Option LedgerPosition} {op : PositionOp} (h : op.uid ≠ uid) : RowStep uid row op row
  | opened {venue symbol : String} {side : PositionSide} {qty entryPrice : Decimal} {leverage : ℤ}
      {tpPrice slPrice : Option Decimal} {now : ℤ} (hleverage : leverage ≠ 0) :
      RowStep uid none
        (.openPosition uid venue symbol side qty entryPrice leverage tpPrice slPrice now)
        (some (engine.buildPosition uid venue symbol side qty entryPrice leverage tpPrice slPrice
          now).stored)
  | changed {pos made : LedgerPosition} {m : PositionMutation} {op : PositionOp}
      (huid : op.uid = uid) (hm : op.mutation pos = some m)
      (hmade : m.change engine op.now pos = .ok made) :
      RowStep uid (some pos) op (some made.stored)

/-- A call that changes a position is its mutation. -/
theorem PositionOp.run_of_mutation {b : Backend} {pos : LedgerPosition} {m : PositionMutation}
    (hload : rows.loadByUid op.uid = some pos) (hm : op.mutation pos = some m) :
    op.run b engine rows = (ofExcept (m.change engine op.now pos) >>= updatePosition b) rows := by
  have hloaded : loadPosition op.uid rows = .ok pos rows := by
    unfold loadPosition
    rw [bind_of_ok (show (get : EStateM _ PositionDb PositionDb) rows = .ok rows rows from rfl), hload]
    rfl
  have hrun : ∀ m' : PositionMutation, (m'.op op.uid op.now).run b engine rows =
      (ofExcept (m'.change engine op.now pos) >>= updatePosition b) rows := by
    intro m'
    rw [PositionMutation.run_eq]
    exact bind_of_ok hloaded _
  cases op with
  | openPosition => cases hm
  | addToPosition uid qtyDelta fillPrice now =>
      cases hm
      exact hrun (.addToPosition qtyDelta fillPrice)
  | reducePosition uid qtyDelta exitPrice now =>
      cases hm
      exact hrun (.reducePosition qtyDelta exitPrice)
  | closePosition uid exitPrice now =>
      cases hm
      exact (bind_of_ok hloaded _).trans (hrun (.reducePosition pos.qty exitPrice))
  | updateSlTp uid slPrice tpPrice now =>
      cases hm
      exact hrun (.updateSlTp slPrice tpPrice)
  | accrueFee uid fee now =>
      cases hm
      exact hrun (.accrueFee fee)
  | accrueFunding uid amount now =>
      cases hm
      exact hrun (.accrueFunding amount)

/-- Without its row a call that changes a position raises. -/
theorem PositionOp.run_of_missing {b : Backend} (hload : rows.loadByUid op.uid = none)
    (hop : ¬ op.Opens) : ∃ e, op.run b engine rows = .error e rows := by
  obtain ⟨e, hmissing⟩ : ∃ e, loadPosition op.uid rows = .error e rows := by
    have hwp : wp (loadPosition op.uid) (fun _ _ => False) (fun _ rows' => rows' = rows) rows := by
      refine loadPosition_wp (fun pos hfound => ?_) (fun _ => rfl)
      rw [hload] at hfound
      cases hfound
    cases hrun : loadPosition op.uid rows with
    | ok pos rows' => exact (wp_ok hwp hrun).elim
    | error e rows' =>
        obtain rfl := wp_error hwp hrun
        exact ⟨e, rfl⟩
  refine ⟨e, ?_⟩
  cases op with
  | openPosition => exact absurd trivial hop
  | addToPosition | reducePosition | closePosition | updateSlTp | accrueFee | accrueFunding =>
      exact bind_of_error hmissing _

/-- An accepted call that changes a position: the row it loaded, what it made of
it, and the table with that in its place. -/
theorem PositionOp.changed_of_run {pos : LedgerPosition} {m : PositionMutation}
    (hload : rows.loadByUid op.uid = some pos) (hm : op.mutation pos = some m)
    (h : op.run .sqlite engine rows = .ok () rows') :
    ∃ made, m.change engine op.now pos = .ok made ∧ made.positionUid = pos.positionUid ∧
      rows' = rows.map (fun r => if r.positionUid = pos.positionUid then made.stored else r) := by
  rw [PositionOp.run_of_mutation engine hload hm] at h
  obtain ⟨made, rows₁, hmade, hupdate⟩ := bind_eq_ok h
  cases hchange : m.change engine op.now pos with
  | error e =>
      rw [hchange] at hmade
      cases hmade
  | ok made' =>
      rw [hchange] at hmade
      cases hmade
      have huid := (PositionMutation.change_adds hchange).uid
      obtain ⟨row, hrow, hrows⟩ := updatePosition_ok hupdate
      rw [Backend.positionRow_sqlite] at hrow
      cases hrow
      refine ⟨made, rfl, huid, ?_⟩
      rw [hrows, huid]

/-- SQLite stores whatever a call makes of a position. -/
theorem PositionOp.accepted {pos made : LedgerPosition} {m : PositionMutation}
    (hload : rows.loadByUid op.uid = some pos) (hm : op.mutation pos = some m)
    (hmade : m.change engine op.now pos = .ok made) :
    ∃ rows', op.run .sqlite engine rows = .ok () rows' := by
  rw [PositionOp.run_of_mutation engine hload hm, hmade]
  refine ⟨rows.map (fun r => if r.positionUid = made.positionUid then made.stored else r), ?_⟩
  show updatePosition .sqlite made rows = _
  unfold updatePosition
  rw [Backend.positionRow_sqlite]
  rfl

/-- An accepted `open_position`: a row of its own at the end. -/
theorem opened_of_run {uid venue symbol : String} {side : PositionSide} {qty entryPrice : Decimal}
    {leverage : ℤ} {tpPrice slPrice : Option Decimal} {now : ℤ}
    (h : openLedgerPosition .sqlite engine uid venue symbol side qty entryPrice leverage tpPrice
      slPrice now rows = .ok () rows') :
    leverage ≠ 0 ∧ (∀ r ∈ rows, r.positionUid ≠ uid) ∧
      rows' = rows ++ [(engine.buildPosition uid venue symbol side qty entryPrice leverage tpPrice
        slPrice now).stored] := by
  have hspec : wp (openLedgerPosition .sqlite engine uid venue symbol side qty entryPrice leverage
      tpPrice slPrice now) (fun _ rows' => leverage ≠ 0 ∧ (∀ r ∈ rows, r.positionUid ≠ uid) ∧
        rows' = rows ++ [(engine.buildPosition uid venue symbol side qty entryPrice leverage tpPrice
          slPrice now).stored]) (fun _ _ => True) rows := by
    unfold openLedgerPosition
    rw [wp_bind, wp_get]
    cases hexisting : engine.getOpenPosition rows venue symbol with
    | some existing => trivial
    | none =>
        dsimp only
        rw [wp_ite]
        refine ⟨fun _ => trivial, fun hleverage => ?_⟩
        unfold insertPosition
        rw [wp_bind, wp_get, Backend.positionRow_sqlite, wp_bind, wp_ofExcept]
        refine ⟨fun row hrow => ?_, fun _ _ => trivial⟩
        cases hrow
        rw [wp_ite]
        refine ⟨fun _ => trivial, fun hfresh => ⟨hleverage, fun r hr heq => ?_, rfl⟩⟩
        exact hfresh (List.any_eq_true.mpr ⟨r, hr, decide_eq_true heq⟩)
  exact wp_ok hspec h

/-- A call that raises leaves the table as it was. -/
theorem PositionOp.rows_of_error {b : Backend} {e : PyErr}
    (h : op.run b engine rows = .error e rows') : rows' = rows := by
  by_cases hopen : op.Opens
  · cases op with
    | openPosition uid venue symbol side qty entryPrice leverage tpPrice slPrice now =>
        have hspec : wp (openLedgerPosition b engine uid venue symbol side qty entryPrice leverage
            tpPrice slPrice now) (fun _ _ => True) (fun _ rows' => rows' = rows) rows := by
          unfold openLedgerPosition insertPosition
          rw [wp_bind, wp_get]
          cases engine.getOpenPosition rows venue symbol with
          | some existing => rfl
          | none =>
              dsimp only
              rw [wp_ite, wp_bind, wp_get, wp_bind, wp_ofExcept]
              refine ⟨fun _ => rfl, fun _ => ⟨fun row _ => ?_, fun _ _ => rfl⟩⟩
              rw [wp_ite]
              exact ⟨fun _ => rfl, fun _ => trivial⟩
        exact wp_error hspec h
    | addToPosition | reducePosition | closePosition | updateSlTp | accrueFee | accrueFunding =>
        exact hopen.elim
  · cases hload : rows.loadByUid op.uid with
    | none =>
        obtain ⟨e', herror⟩ := PositionOp.run_of_missing (b := b) engine hload hopen
        rw [herror] at h
        cases h
        rfl
    | some pos =>
        obtain ⟨m, hm⟩ := PositionOp.mutation_of_not_opens hopen pos
        rw [PositionOp.run_of_mutation engine hload hm] at h
        have hspec : wp (ofExcept (m.change engine op.now pos) >>= updatePosition b)
            (fun _ _ => True) (fun _ rows' => rows' = rows) rows := by
          unfold updatePosition
          rw [wp_bind, wp_ofExcept]
          refine ⟨fun made _ => ?_, fun _ _ => rfl⟩
          rw [wp_bind, wp_ofExcept]
          exact ⟨fun _ _ => trivial, fun _ _ => rfl⟩
        exact wp_error hspec h

/-- What an accepted call does, row by row. -/
theorem PositionOp.rowStep_of_run (h : op.run .sqlite engine rows = .ok () rows') (uid : String) :
    PositionOp.RowStep engine uid (rows.loadByUid uid) op (rows'.loadByUid uid) := by
  by_cases hopen : op.Opens
  · cases op with
    | openPosition uid' venue symbol side qty entryPrice leverage tpPrice slPrice now =>
        obtain ⟨hleverage, hfresh, rfl⟩ := opened_of_run engine h
        unfold PositionDb.loadByUid
        rw [List.find?_append]
        by_cases huid : uid' = uid
        · subst huid
          have hnone : rows.find? (fun r => r.positionUid = uid') = none := by
            rw [List.find?_eq_none]
            simpa using hfresh
          rw [hnone, List.find?_singleton]
          simpa [LedgerPosition.stored, PositionEngine.buildPosition] using
            RowStep.opened hleverage
        · have hother : [(engine.buildPosition uid' venue symbol side qty entryPrice leverage tpPrice
              slPrice now).stored].find? (fun r => r.positionUid = uid) = none := by
            rw [List.find?_singleton, if_neg]
            exact fun heq => huid (of_decide_eq_true heq)
          rw [hother, Option.or_none]
          exact .other huid
    | addToPosition | reducePosition | closePosition | updateSlTp | accrueFee | accrueFunding =>
        exact hopen.elim
  · cases hload : rows.loadByUid op.uid with
    | none =>
        obtain ⟨e, herror⟩ := PositionOp.run_of_missing (b := .sqlite) engine hload hopen
        rw [herror] at h
        cases h
    | some pos =>
        obtain ⟨m, hm⟩ := PositionOp.mutation_of_not_opens hopen pos
        obtain ⟨made, hmade, hkeep, rfl⟩ := PositionOp.changed_of_run engine hload hm h
        have hstored : made.stored.positionUid = pos.positionUid := hkeep
        rw [← hstored, PositionDb.loadByUid_replace, hstored, PositionDb.uid_of_load hload]
        by_cases huid : op.uid = uid
        · subst huid
          rw [if_pos rfl, hload]
          exact .changed rfl hm hmade
        · rw [if_neg (Ne.symm huid)]
          exact .other huid

/-! ## One row a position -/

/-- No two rows are of one position. -/
def PositionDb.Distinct (rows : PositionDb) : Prop :=
  rows.Pairwise (fun r r' => r.positionUid ≠ r'.positionUid)

theorem PositionDb.Distinct.mem_iff (h : rows.Distinct) {pos : LedgerPosition} :
    pos ∈ rows ↔ rows.loadByUid pos.positionUid = some pos := by
  refine ⟨fun hmem => ?_, fun hload => List.mem_of_find?_eq_some hload⟩
  have hsome : (rows.loadByUid pos.positionUid).isSome := by
    rw [PositionDb.loadByUid, List.find?_isSome]
    exact ⟨pos, hmem, decide_eq_true rfl⟩
  obtain ⟨found, hfound⟩ := Option.isSome_iff_exists.mp hsome
  rw [hfound]
  by_contra hne
  have hsymm : Std.Symm (fun r r' : LedgerPosition => r.positionUid ≠ r'.positionUid) :=
    ⟨fun _ _ hne => hne.symm⟩
  exact h.forall (List.mem_of_find?_eq_some hfound) hmem (fun heq => hne (by rw [heq]))
    (PositionDb.uid_of_load hfound)

theorem PositionDb.Distinct.run (h : rows.Distinct) (hrun : op.run .sqlite engine rows = .ok () rows') :
    rows'.Distinct := by
  by_cases hopen : op.Opens
  · cases op with
    | openPosition uid venue symbol side qty entryPrice leverage tpPrice slPrice now =>
        obtain ⟨-, hfresh, rfl⟩ := opened_of_run engine hrun
        refine List.pairwise_append.mpr ⟨h, List.pairwise_singleton _ _, ?_⟩
        intro r hr r' hr'
        rw [List.mem_singleton.mp hr']
        exact hfresh r hr
    | addToPosition | reducePosition | closePosition | updateSlTp | accrueFee | accrueFunding =>
        exact hopen.elim
  · cases hload : rows.loadByUid op.uid with
    | none =>
        obtain ⟨e, herror⟩ := PositionOp.run_of_missing (b := .sqlite) engine hload hopen
        rw [herror] at hrun
        cases hrun
    | some pos =>
        obtain ⟨m, hm⟩ := PositionOp.mutation_of_not_opens hopen pos
        obtain ⟨made, -, hkeep, rfl⟩ := PositionOp.changed_of_run engine hload hm hrun
        have huid : ∀ r : LedgerPosition,
            (if r.positionUid = pos.positionUid then made.stored else r).positionUid =
              r.positionUid := by
          intro r
          by_cases hr : r.positionUid = pos.positionUid
          · rw [if_pos hr, hr]
            exact hkeep
          · rw [if_neg hr]
        refine List.pairwise_map.mpr (h.imp (fun {r r'} hne => ?_))
        rw [huid, huid]
        exact hne

end Calls

end CryptoTrader
