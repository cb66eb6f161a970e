import CryptoTrader.Wallet.Boot

/-!
# Open positions follow the reducer

After an event every open position of the wallet has an entry in the reducer
state with the same quantity, entry price, stop and protective orders, and
every entry has its position.  A position is put in ahead of its event, so
`open_position` breaks this at its own symbol for a moment.
-/

namespace CryptoTrader

open CryptoTrader.Lib

/-- The fields a position shares with its reducer entry. -/
structure EnhancedPosition.Follows (pos : EnhancedPosition) (data : PositionData) : Prop where
  quantity : pos.remainingQuantity = data.quantity
  entryPrice : pos.entryPrice = data.entryPrice
  slPrice : pos.slPrice = data.slPrice
  protectiveOrders : ∀ p, data.protectiveOrders = some p → pos.protectiveOrders = p

theorem EnhancedPosition.follows_sync (pos : EnhancedPosition) (data : PositionData) :
    (pos.sync data).Follows data :=
  ⟨rfl, rfl, rfl, fun p hp => by simp [sync, hp]⟩

theorem PositionData.follows_toPosition (data : PositionData) (symbol : Symbol) (live : Bool) :
    (data.toPosition symbol live).Follows data :=
  ⟨rfl, rfl, rfl, fun p hp => by simp [toPosition, hp]⟩

/-- A position object filed under its own symbol that is open. -/
def EnhancedPosition.OpenOn (pos : EnhancedPosition) (s : Symbol) : Prop :=
  pos.symbol = s ∧ pos.status = .opened

/-- A mark changes neither what makes a position open nor what it shares with
its entry. -/
theorem EnhancedPosition.OpenOn.updatePnl {pos : EnhancedPosition} {s : Symbol}
    (h : pos.OpenOn s) (markPrice : Decimal) : (pos.updatePnl markPrice).OpenOn s := by
  obtain ⟨hsymbol, -, -, -, hstatus, -⟩ := pos.updatePnl_frame markPrice
  exact ⟨hsymbol.trans h.1, hstatus.trans h.2⟩

theorem EnhancedPosition.Follows.updatePnl {pos : EnhancedPosition} {data : PositionData}
    (h : pos.Follows data) (markPrice : Decimal) : (pos.updatePnl markPrice).Follows data := by
  obtain ⟨-, -, hentry, hquantity, -, -, -, hsl, -, hprotective⟩ := pos.updatePnl_frame markPrice
  exact ⟨hquantity.trans h.quantity, hentry.trans h.entryPrice, hsl.trans h.slPrice,
    fun p hp => hprotective.trans (h.protectiveOrders p hp)⟩

/-- A position and a reducer entry that belong together: both are missing, or
the position is open and follows the entry. -/
def Paired (s : Symbol) : Option EnhancedPosition → Option PositionData → Prop
  | some pos, some data => pos.OpenOn s ∧ pos.Follows data
  | none, none => True
  | _, _ => False

/-- The wallet's position on `s` is the reducer's. -/
def Wallet.AlignedAt (w : Wallet) (s : Symbol) : Prop :=
  Paired s (w.positions.get? s) (w.runtime.openPositions.get? s)

/-- The wallet's positions are the reducer's. -/
def Wallet.Aligned (w : Wallet) : Prop := ∀ s, w.AlignedAt s

/-- A position object on `s` is open. -/
def Wallet.OpenAt (w : Wallet) (s : Symbol) : Prop :=
  ∀ pos, w.positions.get? s = some pos → pos.OpenOn s

section Sync

variable {w : Wallet} {s : Symbol}

theorem Wallet.AlignedAt.openAt (h : w.AlignedAt s) : w.OpenAt s := by
  intro pos hpos
  unfold AlignedAt at h
  rw [hpos] at h
  cases hdata : w.runtime.openPositions.get? s with
  | none => rw [hdata] at h; exact h.elim
  | some data => rw [hdata] at h; exact h.1

/-- Syncing an open position, or building a new one, gives an open position
that follows its entry. -/
theorem syncPosition_paired {existing : Option EnhancedPosition} (s : Symbol)
    (hopen : ∀ pos, existing = some pos → pos.OpenOn s) (live : Bool) (data : PositionData) :
    Paired s (some (syncPosition existing live s data)) (some data) := by
  cases existing with
  | none => exact ⟨⟨rfl, rfl⟩, data.follows_toPosition s live⟩
  | some pos =>
      have hpos := hopen pos rfl
      simp only [Paired, syncPosition, hpos.2]
      exact ⟨hpos, pos.follows_sync data⟩

/-- Positions read off the reducer are aligned with it. -/
theorem Wallet.aligned_sync {positions : Dict Symbol EnhancedPosition}
    (hopen : ∀ pos, positions.get? s = some pos → pos.OpenOn s) {live : Bool}
    (hpositions : w.positions = w.runtime.openPositions.mapVal
      (fun symbol data => syncPosition (positions.get? symbol) live symbol data)) :
    w.AlignedAt s := by
  unfold AlignedAt
  rw [hpositions, Dict.get?_mapVal]
  cases w.runtime.openPositions.get? s with
  | none => trivial
  | some data => exact syncPosition_paired s hopen live data

/-- An event aligns every position that is open. -/
theorem Wallet.OpenAt.aligned_emit (hopen : w.OpenAt s) (payload : Payload) :
    (w.emit payload).AlignedAt s :=
  Wallet.aligned_sync hopen rfl

theorem Wallet.AlignedAt.emit (h : w.AlignedAt s) (payload : Payload) :
    (w.emit payload).AlignedAt s :=
  h.openAt.aligned_emit payload

theorem Wallet.AlignedAt.save (h : w.AlignedAt s) : w.save.AlignedAt s := by
  show Paired s (w.positions.get? s) ((w.runtime.openPositions.mapVal
    (fun symbol data => data.withPeaks (w.positions.get? symbol))).get? s)
  unfold AlignedAt at h
  rw [Dict.get?_mapVal]
  cases hpos : w.positions.get? s with
  | none =>
      rw [hpos] at h
      cases hdata : w.runtime.openPositions.get? s with
      | none => trivial
      | some data => rw [hdata] at h; exact h.elim
  | some pos =>
      rw [hpos] at h
      cases hdata : w.runtime.openPositions.get? s with
      | none => rw [hdata] at h; exact h.elim
      | some data =>
          rw [hdata] at h
          exact ⟨h.1, h.2.quantity, h.2.entryPrice, h.2.slPrice, h.2.protectiveOrders⟩

/-- An edit of fields the reducer does not share keeps the alignment. -/
theorem Wallet.AlignedAt.editPosition (h : w.AlignedAt s) (symbol : Symbol)
    {f : EnhancedPosition → EnhancedPosition} (hopen : ∀ pos, pos.OpenOn s → (f pos).OpenOn s)
    (hf : ∀ pos data, pos.Follows data → (f pos).Follows data) :
    (w.editPosition symbol f).AlignedAt s := by
  show Paired s ((w.positions.modify symbol f).get? s) (w.runtime.openPositions.get? s)
  rw [Dict.get?_modify]
  split
  · next heq =>
      subst heq
      unfold AlignedAt at h
      cases hpos : w.positions.get? symbol with
      | none => rw [hpos] at h; exact h
      | some pos =>
          rw [hpos] at h
          cases hdata : w.runtime.openPositions.get? symbol with
          | none => rw [hdata] at h; exact h.elim
          | some data =>
              rw [hdata] at h
              exact ⟨hopen pos h.1, hf pos data h.2⟩
  · exact h

/-- An edit keeps an open position open. -/
theorem Wallet.OpenAt.editPosition (h : w.OpenAt s) (symbol : Symbol)
    {f : EnhancedPosition → EnhancedPosition} (hopen : ∀ pos, pos.OpenOn s → (f pos).OpenOn s) :
    (w.editPosition symbol f).OpenAt s := by
  intro pos hpos
  rw [Wallet.editPosition, Dict.get?_modify] at hpos
  split at hpos
  · next heq =>
      rw [Option.map_eq_some_iff] at hpos
      obtain ⟨old, hold, rfl⟩ := hpos
      exact hopen old (h old (heq ▸ hold))
  · exact h pos hpos

theorem Wallet.getOpenPosition_editPosition (symbol : Symbol)
    {f : EnhancedPosition → EnhancedPosition} (hstatus : ∀ pos, (f pos).status = pos.status) :
    (w.editPosition symbol f).getOpenPosition symbol = (w.getOpenPosition symbol).map f := by
  unfold Wallet.getOpenPosition
  rw [Wallet.editPosition, Dict.get?_modify_self]
  cases w.positions.get? symbol with
  | none => rfl
  | some pos =>
      by_cases hopen : pos.status = .opened
      · simp [Option.filter, hstatus, hopen]
      · simp [Option.filter, hstatus, hopen]

/-- Putting in a position does not touch the other symbols. -/
theorem Wallet.AlignedAt.setPosition (h : w.AlignedAt s) {symbol : Symbol} (hne : symbol ≠ s)
    (pos : EnhancedPosition) : (w.setPosition symbol pos).AlignedAt s := by
  show Paired s ((w.positions.set symbol pos).get? s) (w.runtime.openPositions.get? s)
  rw [Dict.get?_set_ne _ _ hne]
  exact h

theorem Wallet.OpenAt.setPosition {symbol : Symbol} {pos : EnhancedPosition}
    (hpos : pos.OpenOn symbol) : (w.setPosition symbol pos).OpenAt symbol := by
  intro pos' hpos'
  rw [Wallet.setPosition, Dict.get?_set_self] at hpos'
  rw [← Option.some.inj hpos']
  exact hpos

/-- On an aligned symbol a position object is an open position. -/
theorem Wallet.OpenAt.getOpenPosition_eq (h : w.OpenAt s) :
    w.getOpenPosition s = w.positions.get? s := by
  unfold Wallet.getOpenPosition
  cases hpos : w.positions.get? s with
  | none => rfl
  | some pos => simp [(h pos hpos).2]

end Sync

/-! ## What an event does to a position -/

/-- The symbol whose entry an event changes. -/
def Payload.target? : Payload → Option Symbol
  | .positionOpened p | .positionAdopted p => some p.symbol
  | .positionPartiallyClosed p => some p.symbol
  | .slAdjusted symbol _ | .trailingStopActivated symbol => some symbol
  | .positionClosed p | .liquidation p => some p.symbol
  | .protectiveOrdersPlaced symbol _ | .protectiveOrdersCancelled symbol => some symbol
  | _ => none

theorem PortfolioState.get?_apply (s : PortfolioState) (event : Event) {symbol : Symbol}
    (h : event.payload.target? ≠ some symbol) :
    (s.apply event).openPositions.get? symbol = s.openPositions.get? symbol := by
  rw [PortfolioState.openPositions_apply]
  cases hp : event.payload with
  | orderCreated p =>
      simp only [applyPayload]
      split <;> rfl
  | positionOpened p | positionAdopted p =>
      exact Dict.get?_set_ne _ _ (fun heq => h (by rw [hp, ← heq]; rfl))
  | positionPartiallyClosed p =>
      exact Dict.get?_modify_ne _ _ (fun heq => h (by rw [hp, ← heq]; rfl))
  | slAdjusted symbol' _ | trailingStopActivated symbol' | protectiveOrdersPlaced symbol' _
  | protectiveOrdersCancelled symbol' =>
      exact Dict.get?_modify_ne _ _ (fun heq => h (by rw [hp, ← heq]; rfl))
  | positionClosed p | liquidation p =>
      exact Dict.get?_erase_ne _ (fun heq => h (by rw [hp, ← heq]; rfl))
  | _ => rfl

/-- Two states of one position that differ in marks and watermarks only. -/
structure EnhancedPosition.Same (pos pos' : EnhancedPosition) : Prop where
  symbol : pos'.symbol = pos.symbol
  side : pos'.side = pos.side
  leverage : pos'.leverage = pos.leverage
  entryPrice : pos'.entryPrice = pos.entryPrice
  remainingQuantity : pos'.remainingQuantity = pos.remainingQuantity
  slPrice : pos'.slPrice = pos.slPrice
  protectiveOrders : pos'.protectiveOrders = pos.protectiveOrders
  feesPaid : pos'.feesPaid = pos.feesPaid

theorem EnhancedPosition.Same.refl (pos : EnhancedPosition) : pos.Same pos :=
  ⟨rfl, rfl, rfl, rfl, rfl, rfl, rfl, rfl⟩

theorem EnhancedPosition.Same.trans {a b c : EnhancedPosition} (h : a.Same b) (h' : b.Same c) :
    a.Same c :=
  ⟨h'.symbol.trans h.symbol, h'.side.trans h.side, h'.leverage.trans h.leverage,
    h'.entryPrice.trans h.entryPrice, h'.remainingQuantity.trans h.remainingQuantity,
    h'.slPrice.trans h.slPrice, h'.protectiveOrders.trans h.protectiveOrders,
    h'.feesPaid.trans h.feesPaid⟩

/-- Syncing a position with the entry it follows leaves it the same. -/
theorem EnhancedPosition.Follows.same_sync {pos : EnhancedPosition} {data : PositionData}
    (h : pos.Follows data) : pos.Same (pos.sync data) := by
  refine ⟨rfl, rfl, rfl, h.entryPrice.symm, h.quantity.symm, h.slPrice.symm, ?_, rfl⟩
  cases hp : data.protectiveOrders with
  | none => simp [sync, hp]
  | some p => simp [sync, hp, h.protectiveOrders p hp]

/-- What is open on a symbol before and after. -/
abbrev SamePosition : Option EnhancedPosition → Option EnhancedPosition → Prop :=
  Option.Rel EnhancedPosition.Same

theorem SamePosition.refl (a : Option EnhancedPosition) : SamePosition a a := by
  cases a with
  | none => exact .none
  | some pos => exact .some (.refl pos)

theorem SamePosition.trans {a b c : Option EnhancedPosition} (h : SamePosition a b)
    (h' : SamePosition b c) : SamePosition a c := by
  cases h with
  | none => exact h'
  | some hab =>
      cases h' with
      | some hbc => exact .some (hab.trans hbc)

theorem SamePosition.flat {a b : Option EnhancedPosition} (h : SamePosition a b)
    (ha : a = none) : b = none := by
  cases h with
  | none => rfl
  | some _ => cases ha

theorem SamePosition.exists {a b : Option EnhancedPosition} (h : SamePosition a b)
    {pos : EnhancedPosition} (ha : a = some pos) : ∃ pos', b = some pos' ∧ pos.Same pos' := by
  cases h with
  | none => cases ha
  | some hsame =>
      cases ha
      exact ⟨_, rfl, hsame⟩

section Frame

variable {w : Wallet} {s : Symbol}

/-- The entry an open position follows. -/
theorem Wallet.AlignedAt.entry (h : w.AlignedAt s) {pos : EnhancedPosition}
    (hpos : w.getOpenPosition s = some pos) :
    ∃ data, w.runtime.openPositions.get? s = some data ∧ pos.Follows data := by
  unfold AlignedAt at h
  rw [(Wallet.getOpenPosition_eq_some.mp hpos).1] at h
  cases hdata : w.runtime.openPositions.get? s with
  | none => rw [hdata] at h; exact h.elim
  | some data => rw [hdata] at h; exact ⟨data, rfl, h.2⟩

/-- The position after an event is the one before it, synced. -/
theorem Wallet.OpenAt.getOpenPosition_emit (h : w.OpenAt s) (payload : Payload)
    {pos : EnhancedPosition} (hpos : w.getOpenPosition s = some pos) {data : PositionData}
    (hdata : (w.emit payload).runtime.openPositions.get? s = some data) :
    (w.emit payload).getOpenPosition s = some (pos.sync data) := by
  obtain ⟨hget, hopen⟩ := Wallet.getOpenPosition_eq_some.mp hpos
  rw [(h.aligned_emit payload).openAt.getOpenPosition_eq, Wallet.positions_emit, hdata, hget]
  simp [syncPosition, hopen]

/-- Without an entry there is no position. -/
theorem Wallet.getOpenPosition_emit_none (payload : Payload)
    (hdata : (w.emit payload).runtime.openPositions.get? s = none) :
    (w.emit payload).getOpenPosition s = none := by
  unfold Wallet.getOpenPosition
  rw [Wallet.positions_emit, hdata]
  rfl

/-- What is open on a symbol stays the same through the events about others. -/
theorem Wallet.AlignedAt.same_emit (h : w.AlignedAt s) {payload : Payload}
    (htarget : payload.target? ≠ some s) :
    SamePosition (w.getOpenPosition s) ((w.emit payload).getOpenPosition s) := by
  have hopen := h.openAt
  have hentry : (w.emit payload).runtime.openPositions.get? s = w.runtime.openPositions.get? s := by
    rw [Wallet.runtime_emit]
    exact PortfolioState.get?_apply _ _ htarget
  unfold AlignedAt at h
  rw [hopen.getOpenPosition_eq]
  cases hpos : w.positions.get? s with
  | none =>
      rw [hpos] at h
      cases hdata : w.runtime.openPositions.get? s with
      | none =>
          rw [Wallet.getOpenPosition_emit_none payload (hentry.trans hdata)]
          exact .none
      | some data => rw [hdata] at h; exact h.elim
  | some pos =>
      rw [hpos] at h
      cases hdata : w.runtime.openPositions.get? s with
      | none => rw [hdata] at h; exact h.elim
      | some data =>
          rw [hdata] at h
          rw [hopen.getOpenPosition_emit payload (by rw [hopen.getOpenPosition_eq, hpos])
            (hentry.trans hdata)]
          exact .some h.2.same_sync

theorem Wallet.AlignedAt.same_chargeTds (h : w.AlignedAt s) (amount : Decimal) (reason : String)
    (symbol : Symbol) :
    SamePosition (w.getOpenPosition s) ((w.chargeTds amount reason symbol).getOpenPosition s) := by
  unfold Wallet.chargeTds
  split
  · exact h.same_emit (by simp [Payload.target?])
  · exact .refl _

end Frame

/-! ## From the start -/

theorem Wallet.Aligned.boot (init : WalletInit) (clock : Nat → Nat) (redisUp : Bool) :
    (Wallet.boot init clock {} redisUp).Aligned := by
  intro s
  rw [Wallet.boot_empty]
  refine Wallet.OpenAt.aligned_emit ?_ _
  intro pos hpos
  cases hpos

end CryptoTrader
