import CryptoTrader.Engine.Liquidation
import CryptoTrader.Ledger.PositionEngine

/-!
# One liquidation price

The wallet tests a position for liquidation on margin, result and maintenance at
the mark, and states the price at which the test turns.  The ledger states it
again.  With the maintenance ratio between 0 and 1 and a whole leverage the
denominator is positive on both sides, so that the price is always defined.
-/

namespace CryptoTrader

/-- The ledger divides with what the wallet divides with. -/
theorem computeLiquidationPrice_eq (side : PositionSide) (entry : Decimal) (leverage : Leverage)
    {mmr : Decimal} (hmmr : 0 < mmr ∧ mmr < 1) :
    computeLiquidationPrice side entry (leverage : ℕ) mmr =
      gateLiquidationPrice side entry leverage mmr := by
  have hfactor := side.liquidationFactor_pos hmmr leverage
  rw [gateLiquidationPrice_eq]
  unfold computeLiquidationPrice
  push_cast
  cases side with
  | long => exact if_neg (not_le.mpr hfactor)
  | short => exact if_neg (not_le.mpr hfactor)

/-- The mark is past the liquidation price on the adverse side; a short whose
denominator is not positive has none. -/
def Wallet.PastLiquidation (w : Wallet) (pos : EnhancedPosition) (markPrice : Decimal) : Prop :=
  match pos.side with
  | .long => markPrice < w.liquidationPrice pos
  | .short => 0 < 1 - 1 / ((pos.leverage : ℕ) : Decimal) + w.maintenanceMarginRatio ∧
      w.liquidationPrice pos < markPrice

/-- **The liquidation price is exact**, and the ledger has the same. -/
theorem liquidationPrice_exact (w : Wallet) (pos : EnhancedPosition) (markPrice : Decimal)
    (hmmr : 0 < w.maintenanceMarginRatio ∧ w.maintenanceMarginRatio < 1)
    (hopen : pos.status = .opened) (hentry : 0 < pos.entryPrice) (hqty : 0 < pos.remainingQuantity)
    (hmark : 0 < markPrice) :
    (w.isLiquidationRequired pos markPrice ↔ w.PastLiquidation pos markPrice) ∧
      computeLiquidationPrice pos.side pos.entryPrice (pos.leverage : ℕ) w.maintenanceMarginRatio =
        w.liquidationPrice pos := by
  have hprice := Wallet.liquidationPrice_eq hmmr hentry
  refine ⟨?_, (computeLiquidationPrice_eq pos.side pos.entryPrice pos.leverage hmmr).trans hprice.symm⟩
  have hfactor := pos.side.liquidationFactor_pos hmmr pos.leverage
  rw [Wallet.isLiquidationRequired_iff hmmr hopen hqty hmark, ← hprice]
  unfold Wallet.PastLiquidation PositionSide.past
  revert hfactor
  cases pos.side with
  | long => exact fun _ => Iff.rfl
  | short => exact fun hfactor => ⟨fun hpast => ⟨hfactor, hpast⟩, fun hpast => hpast.2⟩

/-- A short of two units at 100 with ten-fold leverage. -/
def demoShort : EnhancedPosition :=
  { symbol := demoSymbol
    side := .short
    playbook := .intraday
    entryPrice := 100
    originalQuantity := 2
    remainingQuantity := 2
    notional := 200
    marginUsed := 20
    leverage := 10
    openTime := 0
    slPrice := 105
    tpLevels := [] }

theorem liquidationPrice_exact_demoShort :
    (paperStart.wallet.isLiquidationRequired demoShort 111 ↔
        paperStart.wallet.PastLiquidation demoShort 111) ∧
      computeLiquidationPrice demoShort.side demoShort.entryPrice (demoShort.leverage : ℕ)
          paperStart.wallet.maintenanceMarginRatio =
        paperStart.wallet.liquidationPrice demoShort :=
  liquidationPrice_exact paperStart.wallet demoShort 111 (by decide +kernel) rfl (by decide +kernel)
    (by decide +kernel) (by decide +kernel)

end CryptoTrader
