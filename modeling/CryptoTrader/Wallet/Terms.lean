import CryptoTrader.Wallet.Equity
import CryptoTrader.Wallet.Exits
import CryptoTrader.Wallet.OwnFields

/-!
# The terms of a position

What the exit tests read of a position: the side, the entry price, the
leverage, the quantity, the best price so far, and the stop.  An event about
the position leaves all of it alone, a slice and an adjusted stop apart; a
property of it survives whatever an exit does to the wallet.
-/

namespace CryptoTrader

open CryptoTrader.Lib

structure PositionTerms where
  side : PositionSide
  entryPrice : Decimal
  leverage : Leverage
  quantity : Decimal
  highestPrice : Decimal
  peakPnlPct : Decimal
  slPrice : Decimal

def EnhancedPosition.terms (pos : EnhancedPosition) : PositionTerms :=
  { side := pos.side
    entryPrice := pos.entryPrice
    leverage := pos.leverage
    quantity := pos.remainingQuantity
    highestPrice := pos.highestPrice
    peakPnlPct := pos.peakPnlPct
    slPrice := pos.slPrice }

/-- Every level is on the winning side of the entry. -/
def PositionTerms.TargetsBeyond (t : PositionTerms) (levels : List TpLevel) : Prop :=
  ∀ tp ∈ levels, 0 < t.side.gain t.entryPrice tp.price

theorem PositionTerms.TargetsBeyond.congr {t t' : PositionTerms} {levels levels' : List TpLevel}
    (h : t.TargetsBeyond levels) (hside : t'.side = t.side) (hentry : t'.entryPrice = t.entryPrice)
    (hprices : ∀ tp ∈ levels', ∃ tp' ∈ levels, tp.price = tp'.price) : t'.TargetsBeyond levels' := by
  intro tp htp
  obtain ⟨tp', htp', hprice⟩ := hprices tp htp
  rw [hside, hentry, hprice]
  exact h tp' htp'

/-- A mark leaves the targets alone. -/
theorem EnhancedPosition.tpLevels_updatePnl (pos : EnhancedPosition) (markPrice : Decimal) :
    (pos.updatePnl markPrice).tpLevels = pos.tpLevels := by
  unfold updatePnl
  split <;> rfl

/-- The wallet is aligned, and the terms of the position on the symbol, if there
is one, have the property; neither is its quantity negative, nor a target of it,
or of its reducer entry, on the wrong side. -/
structure Wallet.OnTerms (symbol : Symbol) (live : Bool) (ratio : Decimal)
    (P : PositionTerms → Prop) (w : Wallet) : Prop where
  aligned : w.Aligned
  live : w.liveExecution = live
  ratio : w.maintenanceMarginRatio = ratio
  terms : ∀ pos, w.getOpenPosition symbol = some pos → P pos.terms
  quantity : ∀ pos, w.getOpenPosition symbol = some pos → 0 ≤ pos.remainingQuantity
  targets : ∀ pos, w.getOpenPosition symbol = some pos → pos.terms.TargetsBeyond pos.tpLevels
  entry : ∀ pos, w.getOpenPosition symbol = some pos →
    ∀ data, w.runtime.openPositions.get? symbol = some data →
      pos.terms.TargetsBeyond data.tpLevels

/-- An event about protective orders overwrites what the position says of them. -/
theorem Wallet.OpenAt.emit_dress {w : Wallet} {symbol : Symbol} (h : w.OpenAt symbol)
    (f : EnhancedPosition → ProtectiveOrders) {payload : Payload} (hpayload : payload = .protectiveOrdersCancelled symbol ∨
      ∃ placed, payload = .protectiveOrdersPlaced symbol placed) :
    (w.editPosition symbol (fun pos => { pos with protectiveOrders := f pos })).emit payload =
      w.emit payload := by
  have hsome : ∀ data, (w.emit payload).runtime.openPositions.get? symbol = some data →
      data.protectiveOrders.isSome := by
    intro data hdata
    rw [Wallet.runtime_emit, PortfolioState.openPositions_apply] at hdata
    rcases hpayload with rfl | ⟨placed, rfl⟩
    · have hget := (Dict.get?_modify_self _ _ _).symm.trans hdata
      obtain ⟨old, -, rfl⟩ := Option.map_eq_some_iff.mp hget
      rfl
    · have hget := (Dict.get?_modify_self _ _ _).symm.trans hdata
      obtain ⟨old, -, rfl⟩ := Option.map_eq_some_iff.mp hget
      rfl
  let dressed (pos : EnhancedPosition) : EnhancedPosition := { pos with protectiveOrders := f pos }
  have hpositions : (w.emit payload).runtime.openPositions.mapVal (fun s data =>
        syncPosition ((w.positions.modify symbol dressed).get? s) w.liveExecution s data) =
      (w.emit payload).runtime.openPositions.mapVal (fun s data =>
        syncPosition (w.positions.get? s) w.liveExecution s data) := by
    refine Dict.mapVal_congr _ (fun p hp => ?_)
    have hget := Dict.get?_of_mem _ hp
    by_cases heq : symbol = p.1
    · obtain ⟨orders, horders⟩ := Option.isSome_iff_exists.mp (hsome p.2 (heq ▸ hget))
      rw [← heq, Dict.get?_modify_self]
      cases hpos : w.positions.get? symbol with
      | none => rfl
      | some pos =>
          simp [syncPosition, dressed, (h pos hpos).2, EnhancedPosition.sync, horders]
    · rw [Dict.get?_modify_ne _ _ heq]
  show ({ w.emit payload with
    positions := (w.emit payload).runtime.openPositions.mapVal (fun s data =>
      syncPosition ((w.positions.modify symbol dressed).get? s) w.liveExecution s data) } : Wallet) = _
  rw [hpositions]
  rfl

namespace Wallet.OnTerms

variable {symbol : Symbol} {live : Bool} {ratio : Decimal} {P Q : PositionTerms → Prop} {w : Wallet}

theorem mono (h : w.OnTerms symbol live ratio P) (hPQ : ∀ t, P t → Q t) :
    w.OnTerms symbol live ratio Q :=
  ⟨h.aligned, h.live, h.ratio, fun pos hpos => hPQ _ (h.terms pos hpos), h.quantity, h.targets,
    h.entry⟩

/-- Without a position there is nothing to show. -/
theorem of_flat (haligned : w.Aligned) (hlive : w.liveExecution = live)
    (hratio : w.maintenanceMarginRatio = ratio) (hflat : w.getOpenPosition symbol = none) :
    w.OnTerms symbol live ratio P := by
  have hnone : ∀ pos, w.getOpenPosition symbol ≠ some pos := by simp [hflat]
  exact ⟨haligned, hlive, hratio, fun pos hpos => absurd hpos (hnone pos),
    fun pos hpos => absurd hpos (hnone pos), fun pos hpos => absurd hpos (hnone pos),
    fun pos hpos => absurd hpos (hnone pos)⟩

theorem tick (h : w.OnTerms symbol live ratio P) : w.tick.OnTerms symbol live ratio P :=
  ⟨h.aligned, h.live, h.ratio, h.terms, h.quantity, h.targets, h.entry⟩

theorem syncUnrealizedTotal (h : w.OnTerms symbol live ratio P) :
    w.syncUnrealizedTotal.OnTerms symbol live ratio P :=
  ⟨h.aligned, h.live, h.ratio, h.terms, h.quantity, h.targets, h.entry⟩

theorem save (h : w.OnTerms symbol live ratio P) : w.save.OnTerms symbol live ratio P := by
  refine ⟨fun s => (h.aligned s).save, h.live, h.ratio, h.terms, h.quantity, h.targets,
    fun pos hpos data hdata => ?_⟩
  have hmap : w.save.runtime.openPositions.get? symbol =
      (w.runtime.openPositions.get? symbol).map
        (fun data => data.withPeaks (w.positions.get? symbol)) := Dict.get?_mapVal _ _ _
  rw [hmap] at hdata
  obtain ⟨old, hold, rfl⟩ := Option.map_eq_some_iff.mp hdata
  have hlevels : (old.withPeaks (w.positions.get? symbol)).tpLevels = old.tpLevels := by
    cases w.positions.get? symbol <;> rfl
  rw [hlevels]
  exact h.entry pos hpos old hold

/-- An edit of the position that leaves its quantity and its targets alone. -/
theorem editPosition (h : w.OnTerms symbol live ratio P) {f : EnhancedPosition → EnhancedPosition}
    (hopen : ∀ s pos, pos.OpenOn s → (f pos).OpenOn s)
    (hf : ∀ pos data, pos.Follows data → (f pos).Follows data)
    (hstatus : ∀ pos, (f pos).status = pos.status)
    (hside : ∀ pos, (f pos).side = pos.side) (hlevels : ∀ pos, (f pos).tpLevels = pos.tpLevels)
    (hterms : ∀ pos, w.getOpenPosition symbol = some pos → P pos.terms → Q (f pos).terms) :
    (w.editPosition symbol f).OnTerms symbol live ratio Q := by
  have hafter : ∀ pos', (w.editPosition symbol f).getOpenPosition symbol = some pos' →
      ∃ pos data, w.getOpenPosition symbol = some pos ∧ pos.Follows data ∧ pos' = f pos := by
    intro pos' hpos'
    rw [Wallet.getOpenPosition_editPosition symbol hstatus] at hpos'
    obtain ⟨pos, hpos, rfl⟩ := Option.map_eq_some_iff.mp hpos'
    obtain ⟨data, -, hfollows⟩ := (h.aligned symbol).entry hpos
    exact ⟨pos, data, hpos, hfollows, rfl⟩
  refine ⟨fun s => (h.aligned s).editPosition symbol (hopen s) hf, h.live, h.ratio, ?_, ?_, ?_, ?_⟩
  · intro pos' hpos'
    obtain ⟨pos, data, hpos, -, rfl⟩ := hafter pos' hpos'
    exact hterms pos hpos (h.terms pos hpos)
  · intro pos' hpos'
    obtain ⟨pos, data, hpos, hfollows, rfl⟩ := hafter pos' hpos'
    rw [(hf pos data hfollows).quantity, ← hfollows.quantity]
    exact h.quantity pos hpos
  · intro pos' hpos'
    obtain ⟨pos, data, hpos, hfollows, rfl⟩ := hafter pos' hpos'
    refine (h.targets pos hpos).congr (hside pos) ?_ (fun tp htp => ⟨tp, hlevels pos ▸ htp, rfl⟩)
    exact (hf pos data hfollows).entryPrice.trans hfollows.entryPrice.symm
  · intro pos' hpos' data' hdata'
    obtain ⟨pos, data, hpos, hfollows, rfl⟩ := hafter pos' hpos'
    refine (h.entry pos hpos data' hdata').congr (hside pos) ?_ (fun tp htp => ⟨tp, htp, rfl⟩)
    exact (hf pos data hfollows).entryPrice.trans hfollows.entryPrice.symm

/-- An event that neither puts the entry of the symbol in nor takes it out. -/
theorem emit (h : w.OnTerms symbol live ratio P) {payload : Payload}
    (hp : payload.holds? ≠ some symbol)
    (hentry : ∀ data data', w.runtime.openPositions.get? symbol = some data →
      (w.emit payload).runtime.openPositions.get? symbol = some data' → 0 ≤ data.quantity →
        data'.entryPrice = data.entryPrice ∧ 0 ≤ data'.quantity ∧
        (∀ tp ∈ data'.tpLevels, ∃ tp' ∈ data.tpLevels, tp.price = tp'.price) ∧
        ∀ t : PositionTerms, t.quantity = data.quantity → t.slPrice = data.slPrice → P t →
          Q { t with quantity := data'.quantity, slPrice := data'.slPrice }) :
    (w.emit payload).OnTerms symbol live ratio Q := by
  have hafter : ∀ pos', (w.emit payload).getOpenPosition symbol = some pos' →
      ∃ pos data data', w.getOpenPosition symbol = some pos ∧ pos.Follows data ∧
        w.runtime.openPositions.get? symbol = some data ∧
        (w.emit payload).runtime.openPositions.get? symbol = some data' ∧ pos' = pos.sync data' := by
    intro pos' hpos'
    have haligned := (h.aligned symbol).emit payload
    obtain ⟨data', hdata', -⟩ := haligned.entry hpos'
    have hsome := PortfolioState.isSome_apply w.runtime (w.event payload) hp
    rw [← Wallet.runtime_emit, hdata', Option.isSome_some] at hsome
    obtain ⟨data, hdata⟩ := Option.isSome_iff_exists.mp hsome.symm
    have hpaired := h.aligned symbol
    unfold AlignedAt at hpaired
    rw [hdata] at hpaired
    cases hget : w.positions.get? symbol with
    | none => rw [hget] at hpaired; exact hpaired.elim
    | some pos =>
        rw [hget] at hpaired
        have hpos : w.getOpenPosition symbol = some pos := by
          rw [(h.aligned symbol).openAt.getOpenPosition_eq, hget]
        have hsync := (h.aligned symbol).openAt.getOpenPosition_emit payload hpos hdata'
        rw [hpos'] at hsync
        exact ⟨pos, data, data', hpos, hpaired.2, hdata, hdata', Option.some.inj hsync⟩
  have hchange : ∀ pos data data', w.getOpenPosition symbol = some pos → pos.Follows data →
      w.runtime.openPositions.get? symbol = some data →
      (w.emit payload).runtime.openPositions.get? symbol = some data' → _ :=
    fun pos data data' hpos hfollows hdata hdata' =>
      hentry data data' hdata hdata' (hfollows.quantity ▸ h.quantity pos hpos)
  refine ⟨fun s => (h.aligned s).emit payload, h.live, h.ratio, ?_, ?_, ?_, ?_⟩
  · intro pos' hpos'
    obtain ⟨pos, data, data', hpos, hfollows, hdata, hdata', rfl⟩ := hafter pos' hpos'
    obtain ⟨hprice, -, -, hterms⟩ := hchange pos data data' hpos hfollows hdata hdata'
    have hQ := hterms pos.terms hfollows.quantity hfollows.slPrice (h.terms pos hpos)
    have heq : (pos.sync data').terms =
        { pos.terms with quantity := data'.quantity, slPrice := data'.slPrice } := by
      simp [EnhancedPosition.terms, EnhancedPosition.sync, hfollows.entryPrice, hprice]
    rw [heq]
    exact hQ
  · intro pos' hpos'
    obtain ⟨pos, data, data', hpos, hfollows, hdata, hdata', rfl⟩ := hafter pos' hpos'
    exact (hchange pos data data' hpos hfollows hdata hdata').2.1
  · intro pos' hpos'
    obtain ⟨pos, data, data', hpos, hfollows, hdata, hdata', rfl⟩ := hafter pos' hpos'
    obtain ⟨hprice, -, hlevels, -⟩ := hchange pos data data' hpos hfollows hdata hdata'
    exact (h.entry pos hpos data hdata).congr rfl (hprice.trans hfollows.entryPrice.symm) hlevels
  · intro pos' hpos' data₁ hdata₁
    obtain ⟨pos, data, data', hpos, hfollows, hdata, hdata', rfl⟩ := hafter pos' hpos'
    obtain rfl : data' = data₁ := Option.some.inj (hdata'.symm.trans hdata₁)
    obtain ⟨hprice, -, hlevels, -⟩ := hchange pos data data' hpos hfollows hdata hdata'
    exact (h.entry pos hpos data hdata).congr rfl (hprice.trans hfollows.entryPrice.symm) hlevels

/-- An event about something else. -/
theorem emit_other (h : w.OnTerms symbol live ratio P) {payload : Payload}
    (htarget : payload.target? ≠ some symbol) :
    (w.emit payload).OnTerms symbol live ratio P := by
  have hp : payload.holds? ≠ some symbol := by
    intro heq
    refine htarget ?_
    cases payload <;> simp [Payload.holds?] at heq <;> simp [Payload.target?, heq]
  refine h.emit hp (fun data data' hdata hdata' hquantity => ?_)
  rw [Wallet.runtime_emit, PortfolioState.get?_apply _ _ htarget, hdata] at hdata'
  obtain rfl := Option.some.inj hdata'
  exact ⟨rfl, hquantity, fun tp htp => ⟨tp, htp, rfl⟩, fun t hq hs hP => hq ▸ hs ▸ hP⟩

/-- An event that changes the entry of the symbol by `f`. -/
theorem emit_modify (h : w.OnTerms symbol live ratio P) {payload : Payload}
    (hp : payload.holds? = none) {f : PositionData → PositionData}
    (hentries : (w.emit payload).runtime.openPositions = w.runtime.openPositions.modify symbol f)
    (hf : ∀ data : PositionData, 0 ≤ data.quantity →
      (f data).entryPrice = data.entryPrice ∧ 0 ≤ (f data).quantity ∧
      (∀ tp ∈ (f data).tpLevels, ∃ tp' ∈ data.tpLevels, tp.price = tp'.price) ∧
      ∀ t : PositionTerms, t.quantity = data.quantity → t.slPrice = data.slPrice → P t →
        Q { t with quantity := (f data).quantity, slPrice := (f data).slPrice }) :
    (w.emit payload).OnTerms symbol live ratio Q := by
  refine h.emit (by simp [hp]) (fun data data' hdata hdata' hquantity => ?_)
  rw [hentries, Dict.get?_modify_self, hdata] at hdata'
  obtain rfl := Option.some.inj hdata'
  exact hf data hquantity

theorem chargeTds (h : w.OnTerms symbol live ratio P) (amount : Decimal) (reason : String)
    (s : Symbol) : (w.chargeTds amount reason s).OnTerms symbol live ratio P := by
  unfold Wallet.chargeTds
  split
  · exact h.emit_other (by simp [Payload.target?])
  · exact h

/-- The venue's ids are none of the terms. -/
theorem dress (h : w.OnTerms symbol live ratio P) (f : EnhancedPosition → ProtectiveOrders)
    {payload : Payload} (hpayload : payload = .protectiveOrdersCancelled symbol ∨
      ∃ placed, payload = .protectiveOrdersPlaced symbol placed) :
    ((w.editPosition symbol (fun pos => { pos with protectiveOrders := f pos })).emit
      payload).OnTerms symbol live ratio P := by
  rw [(h.aligned symbol).openAt.emit_dress f hpayload]
  rcases hpayload with rfl | ⟨placed, rfl⟩
  · refine h.emit_modify rfl rfl (fun data hquantity => ?_)
    exact ⟨rfl, hquantity, fun tp htp => ⟨tp, htp, rfl⟩, fun t hq hs hP => hq ▸ hs ▸ hP⟩
  · refine h.emit_modify rfl rfl (fun data hquantity => ?_)
    exact ⟨rfl, hquantity, fun tp htp => ⟨tp, htp, rfl⟩, fun t hq hs hP => hq ▸ hs ▸ hP⟩

theorem slice (h : w.OnTerms symbol live ratio P) (hfree : ∀ t quantity, P t → P { t with quantity })
    {p : PartialPayload} (hp : p.symbol = symbol) :
    (w.emit (.positionPartiallyClosed p)).OnTerms symbol live ratio P := by
  subst hp
  refine h.emit_modify (f := fun data => data.reduce p) rfl rfl (fun data _ => ?_)
  refine ⟨rfl, le_max_left _ _, fun tp htp => ?_, fun t _ hs hP => hs ▸ hfree t _ hP⟩
  unfold PositionData.reduce at htp
  dsimp only at htp
  split at htp
  · exact ⟨tp, htp, rfl⟩
  · split_ifs at htp
    · exact ⟨tp, htp, rfl⟩
    · obtain ⟨old, hold, rfl⟩ := List.mem_map.mp htp
      refine ⟨old, hold, ?_⟩
      split_ifs <;> rfl

/-- A slice taken off the position. -/
theorem bookPartial (h : w.OnTerms symbol live ratio P)
    (hfree : ∀ t quantity, P t → P { t with quantity }) (markPrice pct : Decimal) (reason : String)
    (tpLabel : Option String) (fill : Option ExternalFill) :
    (w.bookPartial symbol markPrice pct reason tpLabel fill).2.OnTerms symbol live ratio P := by
  unfold Wallet.bookPartial
  cases hpos : w.getOpenPosition symbol with
  | none => exact h
  | some pos =>
      dsimp only
      by_cases hnothing : pos.remainingQuantity * pct ≤ 0
      · rw [if_pos hnothing]
        exact h
      · rw [if_neg hnothing]
        have hslice := h.slice hfree (p := pos.partialPayload symbol (w.exitPrice pos.side markPrice fill)
          (w.calculateFee (w.exitPrice pos.side markPrice fill * (pos.remainingQuantity * pct)) true)
          pct reason tpLabel) rfl
        refine chargeTds ?_ _ _ _
        exact hslice.editPosition (fun _ _ h => h)
          (fun _ _ h => ⟨h.quantity, h.entryPrice, h.slPrice, h.protectiveOrders⟩) (fun _ => rfl)
          (fun _ => rfl) (fun _ => rfl) (fun _ _ h => h)

/-- A close takes the position off. -/
theorem bookClose (h : w.OnTerms symbol live ratio P) (markPrice : Decimal) (reason : String)
    (fill : Option ExternalFill) :
    (w.bookClose symbol markPrice reason fill).2.OnTerms symbol live ratio Q := by
  have hflat : (w.bookClose symbol markPrice reason fill).2.getOpenPosition symbol = none :=
    Wallet.bookClose_flattens h.aligned markPrice reason fill
  cases hpos : w.getOpenPosition symbol with
  | none =>
      rw [Wallet.bookClose_flat symbol markPrice reason fill hpos]
      exact of_flat h.aligned h.live h.ratio hpos
  | some pos =>
      have honly := (Wallet.bookClose_spec symbol markPrice reason fill h.aligned hpos).1
      have hratio : (w.bookClose symbol markPrice reason fill).2.maintenanceMarginRatio =
          w.maintenanceMarginRatio := by
        unfold Wallet.bookClose Wallet.chargeTds
        rw [hpos]
        dsimp only
        split <;> rfl
      exact of_flat honly.aligned (honly.liveExecution.trans h.live) (hratio.trans h.ratio) hflat

theorem liquidatePosition (h : w.OnTerms symbol live ratio P) (markPrice : Decimal) :
    (w.liquidatePosition symbol markPrice).OnTerms symbol live ratio Q := by
  have hflat : (w.liquidatePosition symbol markPrice).getOpenPosition symbol = none :=
    Wallet.liquidatePosition_flattens markPrice
  unfold Wallet.liquidatePosition at hflat ⊢
  cases hpos : w.getOpenPosition symbol with
  | none => exact of_flat h.aligned h.live h.ratio hpos
  | some pos =>
      rw [hpos] at hflat
      dsimp only at hflat ⊢
      refine of_flat (fun s => ?_) h.live h.ratio hflat
      exact (((h.aligned s).emit _).save : Wallet.AlignedAt (Wallet.save _) s)

/-- The stop is where it was put. -/
theorem adjustSlPrice (h : w.OnTerms symbol live ratio P) (newSlPrice : Decimal) :
    (w.adjustSlPrice symbol newSlPrice).OnTerms symbol live ratio
      (fun t => t.slPrice = newSlPrice ∧ ∃ slPrice, P { t with slPrice }) := by
  refine save (h.emit_modify rfl rfl (fun data hquantity => ?_))
  exact ⟨rfl, hquantity, fun tp htp => ⟨tp, htp, rfl⟩, fun t hq _ hP => ⟨rfl, t.slPrice, hq ▸ hP⟩⟩

theorem activateTrailingStop (h : w.OnTerms symbol live ratio P) :
    (w.activateTrailingStop symbol).OnTerms symbol live ratio P := by
  refine save (h.emit_modify rfl rfl (fun data hquantity => ?_))
  exact ⟨rfl, hquantity, fun tp htp => ⟨tp, htp, rfl⟩, fun t hq hs hP => hq ▸ hs ▸ hP⟩

/-- A mark moves the best price only. -/
theorem markPosition (h : w.OnTerms symbol live ratio P) (markPrice : Decimal)
    (hterms : ∀ pos, w.getOpenPosition symbol = some pos → P pos.terms →
      Q (pos.updatePnl markPrice).terms) :
    (w.markPosition symbol markPrice).OnTerms symbol live ratio Q := by
  have hframe (pos : EnhancedPosition) := pos.updatePnl_frame markPrice
  exact h.editPosition (fun _ _ hopen => hopen.updatePnl markPrice)
    (fun _ _ hfollows => hfollows.updatePnl markPrice) (fun pos => (hframe pos).2.2.2.2.1)
    (fun pos => (hframe pos).2.1) (fun pos => pos.tpLevels_updatePnl markPrice) hterms

end Wallet.OnTerms

end CryptoTrader
