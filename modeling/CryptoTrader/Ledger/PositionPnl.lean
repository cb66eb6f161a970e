import CryptoTrader.Ledger.PositionRows
import Mathlib.Tactic.LinearCombination

/-!
# The result of a position

Adding to a position moves its average entry, reducing it realizes a result
against that entry.  At any mark the realized and the unrealized result are
together what the quantity is worth less the net cash of all fills: the cost of
what is left, at the average entry, is the invariant.
-/

namespace CryptoTrader

open CryptoTrader.Lib

/-! ## Fills -/

/-- A fill of a position. -/
structure PositionFill where
  adds : Bool
  qty : Decimal
  price : Decimal
  deriving DecidableEq

/-- The cash a fill costs on the buying side. -/
def PositionFill.paid (fill : PositionFill) : Decimal :=
  if fill.adds then fill.qty * fill.price else -(fill.qty * fill.price)

/-- The net cash paid over all fills. -/
def netPaid (fills : List PositionFill) : Decimal := (fills.map PositionFill.paid).sum

@[simp] theorem netPaid_append (fills fills' : List PositionFill) :
    netPaid (fills ++ fills') = netPaid fills + netPaid fills' := by
  simp [netPaid]

@[simp] theorem netPaid_singleton (fill : PositionFill) : netPaid [fill] = fill.paid := by
  simp [netPaid]

/-- The fill of an accepted call on the position `uid` with the row it had. -/
def PositionOp.fills (uid : String) (row : Option LedgerPosition) (op : PositionOp) :
    List PositionFill :=
  if op.uid ≠ uid then []
  else
    match op with
    | .openPosition _ _ _ _ qty entryPrice _ _ _ _ => [⟨true, qty, entryPrice⟩]
    | .addToPosition _ qtyDelta fillPrice _ => [⟨true, qtyDelta, fillPrice⟩]
    | .reducePosition _ qtyDelta exitPrice _ => [⟨false, qtyDelta, exitPrice⟩]
    | .closePosition _ exitPrice _ => (row.map (fun pos => ⟨false, pos.qty, exitPrice⟩)).toList
    | .updateSlTp .. | .accrueFee .. | .accrueFunding .. => []

theorem PositionOp.fills_of_other {uid : String} {row : Option LedgerPosition} {op : PositionOp}
    (h : op.uid ≠ uid) : op.fills uid row = [] := if_pos h

/-- The fill of a mutation. -/
def PositionMutation.fills : PositionMutation → List PositionFill
  | .addToPosition qtyDelta fillPrice => [⟨true, qtyDelta, fillPrice⟩]
  | .reducePosition qtyDelta exitPrice => [⟨false, qtyDelta, exitPrice⟩]
  | .updateSlTp .. | .accrueFee .. | .accrueFunding .. => []

theorem PositionOp.fills_of_mutation {op : PositionOp} {pos : LedgerPosition} {m : PositionMutation}
    (hm : op.mutation pos = some m) : op.fills op.uid (some pos) = m.fills := by
  cases op with
  | openPosition => cases hm
  | addToPosition | reducePosition | closePosition | updateSlTp | accrueFee | accrueFunding =>
      cases hm
      simp [PositionOp.fills, PositionMutation.fills]

/-! ## The accounts of a position -/

/-- What the accounts of a position say of its fills. -/
structure LedgerPosition.Accounted (pos : LedgerPosition) (fills : List PositionFill) : Prop where
  total : ∀ mark, pos.realizedPnl + pos.side.gain pos.entryPriceAvg mark * pos.qty =
    pos.side.sign * (pos.qty * mark - netPaid fills)
  unrealized : ∃ last, fills.getLast? = some last ∧
    pos.unrealizedPnl = pos.side.gain pos.entryPriceAvg last.price * pos.qty
  closed : pos.status = .closed → pos.qty = 0 ∧ pos.unrealizedPnl = 0 ∧
    pos.realizedPnl = -(pos.side.sign * netPaid fills)

section Accounted

variable {engine : PositionEngine} {pos made : LedgerPosition} {fills : List PositionFill} {now : ℤ}

/-- The accounts do not look at the columns that store a zero as nothing. -/
theorem LedgerPosition.Accounted.stored (h : pos.Accounted fills) : pos.stored.Accounted fills :=
  ⟨h.total, h.unrealized, h.closed⟩

/-- The result of a position without quantity is realized. -/
theorem LedgerPosition.closed_of_total (hqty : pos.qty = 0)
    (htotal : ∀ mark, pos.realizedPnl + pos.side.gain pos.entryPriceAvg mark * pos.qty =
      pos.side.sign * (pos.qty * mark - netPaid fills)) :
    pos.realizedPnl = -(pos.side.sign * netPaid fills) := by
  have hzero := htotal 0
  rw [hqty] at hzero
  linarith

theorem PositionEngine.buildPosition_accounted (uid venue symbol : String) (side : PositionSide)
    (qty entryPrice : Decimal) (leverage : ℤ) (tpPrice slPrice : Option Decimal) (now : ℤ) :
    (engine.buildPosition uid venue symbol side qty entryPrice leverage tpPrice slPrice
      now).Accounted [⟨true, qty, entryPrice⟩] where
  total := by
    intro mark
    simp only [PositionEngine.buildPosition, netPaid_singleton, PositionFill.paid, if_true,
      PositionSide.gain_eq]
    ring
  unrealized := by
    refine ⟨⟨true, qty, entryPrice⟩, rfl, ?_⟩
    simp only [PositionEngine.buildPosition, PositionSide.gain_eq]
    ring
  closed := fun h => nomatch h

/-- Adding keeps the cost of the position: the old cost and that of the fill. -/
theorem LedgerPosition.Accounted.add (h : pos.Accounted fills) {qtyDelta fillPrice : Decimal}
    (hmade : (PositionMutation.addToPosition qtyDelta fillPrice).change engine now pos = .ok made) :
    made.Accounted (fills ++ [⟨true, qtyDelta, fillPrice⟩]) := by
  dsimp only [PositionMutation.change] at hmade
  split at hmade
  · cases hmade
  next status hnext =>
  split at hmade
  · cases hmade
  next hqty =>
  have hopened := LedgerPositionStatus.next?_add hnext
  have hcost : (pos.qty + qtyDelta) *
      ((pos.qty * pos.entryPriceAvg + qtyDelta * fillPrice) / (pos.qty + qtyDelta)) =
        pos.qty * pos.entryPriceAvg + qtyDelta * fillPrice := mul_div_cancel₀ _ hqty
  cases hmade
  refine ⟨fun mark => ?_, ⟨_, List.getLast?_concat, rfl⟩, fun hclosed => ?_⟩
  · have htotal := h.total mark
    simp only [PositionEngine.recalculate, LedgerPosition.refresh, PositionSide.gain_eq,
      netPaid_append, netPaid_singleton, PositionFill.paid, if_true] at htotal ⊢
    linear_combination htotal - pos.side.sign * hcost
  · have hclosed : pos.status = .closed := hclosed
    rw [hopened] at hclosed
    cases hclosed

/-- Reducing moves a part of the result from unrealized to realized. -/
theorem LedgerPosition.Accounted.reduce (h : pos.Accounted fills) {qtyDelta exitPrice : Decimal}
    (hmade : (PositionMutation.reducePosition qtyDelta exitPrice).change engine now pos = .ok made) :
    made.Accounted (fills ++ [⟨false, qtyDelta, exitPrice⟩]) := by
  dsimp only [PositionMutation.change] at hmade
  split at hmade
  · cases hmade
  next status hnext =>
  split at hmade
  · cases hmade
  next hle =>
  split at hmade
  · next hclosed =>
      have hall : qtyDelta = pos.qty := by
        by_cases hge : qtyDelta ≥ pos.qty
        · linarith
        · rw [if_neg hge] at hnext
          have hreducing := (LedgerPositionStatus.next?_partialClose hnext).1
          rw [hclosed] at hreducing
          cases hreducing
      cases hmade
      have htotal : ∀ mark, pos.realizedPnl +
          pos.side.gain pos.entryPriceAvg exitPrice * qtyDelta +
          pos.side.gain pos.entryPriceAvg mark * 0 =
            pos.side.sign * (0 * mark - netPaid (fills ++ [⟨false, qtyDelta, exitPrice⟩])) := by
        intro mark
        have hexit := h.total exitPrice
        rw [← hall] at hexit
        simp only [netPaid_append, netPaid_singleton, PositionFill.paid, Bool.false_eq_true,
          if_false]
        linear_combination hexit
      refine ⟨htotal, ⟨_, List.getLast?_concat, (mul_zero _).symm⟩, fun _ => ⟨rfl, rfl, ?_⟩⟩
      exact LedgerPosition.closed_of_total rfl htotal
  · cases hmade
    refine ⟨fun mark => ?_, ⟨_, List.getLast?_concat, rfl⟩, fun hclosed => nomatch hclosed⟩
    have htotal := h.total mark
    simp only [PositionEngine.recalculate, LedgerPosition.refresh, PositionSide.gain_eq,
      netPaid_append, netPaid_singleton, PositionFill.paid, Bool.false_eq_true, if_false]
      at htotal ⊢
    linear_combination htotal

/-- What a call makes of a position is accounted for with its fill. -/
theorem LedgerPosition.Accounted.change (h : pos.Accounted fills) {m : PositionMutation}
    (hmade : m.change engine now pos = .ok made) : made.Accounted (fills ++ m.fills) := by
  cases m with
  | addToPosition qtyDelta fillPrice => exact h.add hmade
  | reducePosition qtyDelta exitPrice => exact h.reduce hmade
  | updateSlTp | accrueFee | accrueFunding =>
      cases hmade
      rw [PositionMutation.fills, List.append_nil]
      exact ⟨h.total, h.unrealized, h.closed⟩

end Accounted

/-! ## Runs -/

/-- The table with the fills of one position so far. -/
structure PositionBook where
  rows : PositionDb
  fills : List PositionFill := []

/-- A call of an engine; only an accepted one fills. -/
def PositionBook.step (uid : String) (s : PositionBook) (call : PositionEngine × PositionOp) :
    PositionBook :=
  match call.2.run .sqlite call.1 s.rows with
  | .ok _ rows => { rows := rows, fills := s.fills ++ call.2.fills uid (s.rows.loadByUid uid) }
  | .error _ rows => { s with rows := rows }

/-- The position `uid` is accounted for, once it is there. -/
def PositionBook.Accounted (uid : String) (s : PositionBook) : Prop :=
  match s.rows.loadByUid uid with
  | none => s.fills = []
  | some pos => pos.Accounted s.fills

theorem PositionBook.Accounted.step {uid : String} {s : PositionBook} (h : s.Accounted uid)
    (call : PositionEngine × PositionOp) : (s.step uid call).Accounted uid := by
  unfold PositionBook.step
  cases hrun : call.2.run .sqlite call.1 s.rows with
  | error e rows =>
      obtain rfl := PositionOp.rows_of_error call.1 hrun
      exact h
  | ok _ rows =>
      have hrow := PositionOp.rowStep_of_run call.1 hrun uid
      unfold PositionBook.Accounted at h ⊢
      dsimp only
      generalize s.rows.loadByUid uid = row at hrow h
      generalize call.2 = op at hrow
      generalize PositionDb.loadByUid rows uid = row' at hrow
      cases hrow with
      | other hother =>
          rw [PositionOp.fills_of_other hother, List.append_nil]
          exact h
      | opened hleverage =>
          have hfills : s.fills = [] := h
          rw [hfills]
          simpa [PositionOp.fills, PositionOp.uid] using
            (PositionEngine.buildPosition_accounted ..).stored
      | changed huid hm hmade =>
          subst huid
          rw [PositionOp.fills_of_mutation hm]
          exact (LedgerPosition.Accounted.change h hmade).stored

/-- **Position accounting**: after every call, the realized and unrealized
result of a position are what its quantity is worth less the cash its fills
have cost. -/
theorem position_accounted (uid : String) (rows : PositionDb) (hnew : rows.loadByUid uid = none)
    (calls : List (PositionEngine × PositionOp)) {pos : LedgerPosition}
    (hpos : (calls.foldl (PositionBook.step uid) { rows := rows }).rows.loadByUid uid = some pos) :
    pos.Accounted (calls.foldl (PositionBook.step uid) { rows := rows }).fills := by
  have hbook : (calls.foldl (PositionBook.step uid) { rows := rows }).Accounted uid := by
    have hstart : PositionBook.Accounted uid { rows := rows } := by
      unfold PositionBook.Accounted
      rw [hnew]
    generalize ({ rows := rows } : PositionBook) = s at hstart
    clear hpos
    induction calls generalizing s with
    | nil => exact hstart
    | cons call rest ih => exact ih _ (hstart.step call)
  unfold PositionBook.Accounted at hbook
  rw [hpos] at hbook
  exact hbook

/-- A position that is opened, added to, reduced and closed. -/
def demoTraded : List (PositionEngine × PositionOp) :=
  [(demoEngine, .openPosition "a" "binance" "BTCUSDT" .short 4 50000 10 none none 1),
    (demoEngine, .addToPosition "a" 1 52000 2),
    (demoEngine, .reducePosition "a" 2 53000 3),
    (demoEngine, .closePosition "a" 51000 4)]

theorem position_accounted_demoTraded :
    ∃ pos, (demoTraded.foldl (PositionBook.step "a") { rows := [] }).rows.loadByUid "a" = some pos ∧
      pos.Accounted (demoTraded.foldl (PositionBook.step "a") { rows := [] }).fills := by
  have hfound : ((demoTraded.foldl (PositionBook.step "a") { rows := [] }).rows.loadByUid
      "a").isSome := by decide +kernel
  obtain ⟨pos, hpos⟩ := Option.isSome_iff_exists.mp hfound
  exact ⟨pos, hpos, position_accounted "a" [] rfl demoTraded hpos⟩

end CryptoTrader
