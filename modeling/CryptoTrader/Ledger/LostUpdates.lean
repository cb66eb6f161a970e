import CryptoTrader.Ledger.LivePositions
import CryptoTrader.Ledger.Concurrency

/-!
# Interleaved position updates

A mutation of `PositionEngine` loads the whole row in one transaction, changes
some fields in memory and writes all columns back in another.  The transactions
of different calls interleave, and the tally counts what the calls have written:
it is what the row should hold.
-/

namespace CryptoTrader

open CryptoTrader.Lib

/-! ## Mutations in two transactions -/

/-- The calls that change a position.  `close_position` reads the quantity in a
transaction of its own and then reduces the position by it. -/
inductive PositionMutation where
  | addToPosition (qtyDelta fillPrice : Decimal)
  | reducePosition (qtyDelta exitPrice : Decimal)
  | updateSlTp (slPrice tpPrice : Option Decimal)
  | accrueFee (fee : Decimal)
  | accrueFunding (amount : Decimal)
  deriving DecidableEq, Repr

/-- The call as one of the engine. -/
def PositionMutation.op (uid : String) (now : ℤ) : PositionMutation → PositionOp
  | .addToPosition qtyDelta fillPrice => .addToPosition uid qtyDelta fillPrice now
  | .reducePosition qtyDelta exitPrice => .reducePosition uid qtyDelta exitPrice now
  | .updateSlTp slPrice tpPrice => .updateSlTp uid slPrice tpPrice now
  | .accrueFee fee => .accrueFee uid fee now
  | .accrueFunding amount => .accrueFunding uid amount now

/-- What a call makes of the position it has loaded, or what it raises. -/
def PositionMutation.change (engine : PositionEngine) (now : ℤ) (pos : LedgerPosition) :
    PositionMutation → Except PyErr LedgerPosition
  | .addToPosition qtyDelta fillPrice =>
      match pos.status.next? .add with
      | none => .error (.valueError s!"Cannot add to a {pos.status.pyStr} position")
      | some _ =>
          if pos.qty + qtyDelta = 0 then .error .divisionByZero
          else .ok (engine.recalculate
            { pos with
              qty := pos.qty + qtyDelta
              entryPriceAvg :=
                (pos.qty * pos.entryPriceAvg + qtyDelta * fillPrice) / (pos.qty + qtyDelta)
              updatedAt := now } fillPrice now)
  | .reducePosition qtyDelta exitPrice =>
      match pos.status.next? (if qtyDelta ≥ pos.qty then .fullClose else .partialClose) with
      | none => .error (.valueError s!"Cannot reduce a {pos.status.pyStr} position")
      | some status =>
          if qtyDelta > pos.qty then
            .error (.valueError s!"qty_delta {qtyDelta} > position qty {pos.qty}")
          else
            let reduced := { pos with
              qty := pos.qty - qtyDelta
              realizedPnl :=
                pos.realizedPnl + pos.side.gain pos.entryPriceAvg exitPrice * qtyDelta
              updatedAt := now }
            if status = .closed then
              .ok { reduced with
                qty := 0
                status := .closed
                closedAt := some now
                unrealizedPnl := 0 }
            else .ok (engine.recalculate { reduced with status := .reducing } exitPrice now)
  | .updateSlTp slPrice tpPrice =>
      .ok { pos with
        slPrice := slPrice <|> pos.slPrice
        tpPrice := tpPrice <|> pos.tpPrice
        updatedAt := now }
  | .accrueFee fee =>
      .ok { pos with
        feesAccrued := pos.feesAccrued + fee
        updatedAt := now }
  | .accrueFunding amount =>
      .ok { pos with
        fundingAccrued := pos.fundingAccrued + amount
        updatedAt := now }

/-- Without interleaving a call is its load followed by its write. -/
theorem PositionMutation.run_eq (b : Backend) (engine : PositionEngine) (uid : String) (now : ℤ)
    (m : PositionMutation) : (m.op uid now).run b engine =
      loadPosition uid >>= fun pos => ofExcept (m.change engine now pos) >>= updatePosition b := by
  cases m with
  | addToPosition qtyDelta fillPrice =>
      show CryptoTrader.addToPosition b engine uid qtyDelta fillPrice now = _
      unfold CryptoTrader.addToPosition
      congr 1
      funext pos
      dsimp only [PositionMutation.change]
      cases pos.status.next? .add with
      | none => rfl
      | some _ =>
          dsimp only
          split
          · rfl
          · rfl
  | reducePosition qtyDelta exitPrice =>
      show CryptoTrader.reducePosition b engine uid qtyDelta exitPrice now = _
      unfold CryptoTrader.reducePosition
      congr 1
      funext pos
      dsimp only [PositionMutation.change]
      cases pos.status.next? (if qtyDelta ≥ pos.qty then .fullClose else .partialClose) with
      | none => rfl
      | some _ =>
          dsimp only
          split
          · rfl
          · split
            · rfl
            · rfl
  | updateSlTp slPrice tpPrice => rfl
  | accrueFee fee => rfl
  | accrueFunding amount => rfl

/-! ## What a mutation adds -/

/-- The fee that a call accrues. -/
def PositionMutation.fee : PositionMutation → Decimal
  | .accrueFee fee => fee
  | _ => 0

/-- The funding that a call accrues. -/
def PositionMutation.funding : PositionMutation → Decimal
  | .accrueFunding amount => amount
  | _ => 0

/-- The signed fill of a call. -/
def PositionMutation.fill : PositionMutation → Decimal
  | .addToPosition qtyDelta _ => qtyDelta
  | .reducePosition qtyDelta _ => -qtyDelta
  | _ => 0

/-- The stop that a call sets. -/
def PositionMutation.slPrice : PositionMutation → Option Decimal
  | .updateSlTp slPrice _ => slPrice
  | _ => none

/-- The target that a call sets. -/
def PositionMutation.tpPrice : PositionMutation → Option Decimal
  | .updateSlTp _ tpPrice => tpPrice
  | _ => none

/-- A row differs from the position it was made of by what a call adds. -/
structure PositionMutation.Adds (m : PositionMutation) (pos row : LedgerPosition) : Prop where
  uid : row.positionUid = pos.positionUid
  fees : row.feesAccrued = pos.feesAccrued + m.fee
  funding : row.fundingAccrued = pos.fundingAccrued + m.funding
  qty : row.qty = pos.qty + m.fill
  slPrice : row.slPrice = (m.slPrice <|> pos.slPrice)
  tpPrice : row.tpPrice = (m.tpPrice <|> pos.tpPrice)
  closed : pos.status = .closed → row.status = .closed

theorem PositionMutation.change_adds {engine : PositionEngine} {now : ℤ} {m : PositionMutation}
    {pos row : LedgerPosition} (h : m.change engine now pos = .ok row) : m.Adds pos row := by
  cases m with
  | addToPosition qtyDelta fillPrice =>
      dsimp only [PositionMutation.change] at h
      split at h
      · cases h
      · split at h
        · cases h
        · cases h
          exact ⟨rfl, (add_zero _).symm, (add_zero _).symm, rfl, rfl, rfl, fun hclosed => hclosed⟩
  | reducePosition qtyDelta exitPrice =>
      dsimp only [PositionMutation.change] at h
      split at h
      · cases h
      · next status hnext =>
          have hopen : pos.status ≠ .closed := by
            intro hclosed
            rw [hclosed] at hnext
            split at hnext
            · cases hnext
            · cases hnext
          split at h
          · cases h
          · next hle =>
              split at h
              · next hclosed =>
                  cases h
                  have hall : pos.qty = qtyDelta := by
                    by_cases hge : qtyDelta ≥ pos.qty
                    · linarith
                    · rw [if_neg hge] at hnext
                      have hreducing := (LedgerPositionStatus.next?_partialClose hnext).1
                      rw [hclosed] at hreducing
                      cases hreducing
                  refine ⟨rfl, (add_zero _).symm, (add_zero _).symm, ?_, rfl, rfl, fun _ => rfl⟩
                  show (0 : Decimal) = pos.qty + -qtyDelta
                  rw [hall]
                  ring
              · cases h
                refine ⟨rfl, (add_zero _).symm, (add_zero _).symm, ?_, rfl, rfl,
                  fun h => absurd h hopen⟩
                show pos.qty - qtyDelta = pos.qty + -qtyDelta
                ring
  | updateSlTp slPrice tpPrice =>
      cases h
      exact ⟨rfl, (add_zero _).symm, (add_zero _).symm, (add_zero _).symm, rfl, rfl, fun h => h⟩
  | accrueFee fee =>
      cases h
      exact ⟨rfl, rfl, (add_zero _).symm, (add_zero _).symm, rfl, rfl, fun h => h⟩
  | accrueFunding amount =>
      cases h
      exact ⟨rfl, (add_zero _).symm, rfl, (add_zero _).symm, rfl, rfl, fun h => h⟩

/-! ## Interleavings -/

/-- A call between two of its transactions: `close_position` that has read the
quantity, or a mutation that has loaded its row. -/
inductive PendingMutation where
  | sized (uid : String) (qty exitPrice : Decimal)
  | loaded (m : PositionMutation) (pos : LedgerPosition)
  deriving DecidableEq, Repr

/-- What the written calls add up to on one position. -/
structure PositionTally where
  fees : Decimal := 0
  funding : Decimal := 0
  qty : Decimal := 0
  slPrice : Option Decimal := none
  tpPrice : Option Decimal := none
  closed : Bool := false

/-- What a position has to begin with. -/
def PositionTally.of (pos : LedgerPosition) : PositionTally where
  fees := pos.feesAccrued
  funding := pos.fundingAccrued
  qty := pos.qty
  slPrice := pos.slPrice
  tpPrice := pos.tpPrice
  closed := pos.status = .closed

/-- A price as a nullable column keeps it: zero is no price. -/
def priceOf (price : Option Decimal) : Option Decimal := price.filter (fun p => p ≠ 0)

/-- A call has written its row. -/
def PositionTally.add (tally : PositionTally) (m : PositionMutation) (row : LedgerPosition) :
    PositionTally where
  fees := tally.fees + m.fee
  funding := tally.funding + m.funding
  qty := tally.qty + m.fill
  slPrice := priceOf (m.slPrice <|> tally.slPrice)
  tpPrice := priceOf (m.tpPrice <|> tally.tpPrice)
  closed := tally.closed || row.status = .closed

/-- The table, the calls under way, and the tally of each position. -/
structure PositionSystem where
  rows : PositionDb
  pending : List PendingMutation
  tally : String → PositionTally

def PositionSystem.start (rows : PositionDb) : PositionSystem where
  rows := rows
  pending := []
  tally := fun uid => (rows.loadByUid uid).elim {} PositionTally.of

/-- One transaction of a call: the load of a mutation, the first read of
`close_position`, the load of the reduction it goes on with, a write. -/
inductive PositionStep where
  | load (uid : String) (m : PositionMutation)
  | readQty (uid : String) (exitPrice : Decimal)
  | reload (i : ℕ)
  | write (i : ℕ) (now : ℤ)

/-- The row that a pending call writes, and the table with it. -/
def PendingMutation.write (b : Backend) (engine : PositionEngine) (now : ℤ) (rows : PositionDb) :
    PendingMutation → Option (PositionMutation × LedgerPosition × PositionDb)
  | .sized .. => none
  | .loaded m pos =>
      match m.change engine now pos with
      | .error _ => none
      | .ok row =>
          match updatePosition b row rows with
          | .ok _ rows' => some (m, row, rows')
          | .error _ _ => none

/-- Run a transaction; a call that raises is over. -/
def PositionSystem.step (b : Backend) (engine : PositionEngine) (s : PositionSystem) :
    PositionStep → PositionSystem
  | .load uid m =>
      match s.rows.loadByUid uid with
      | none => s
      | some pos => { s with pending := s.pending ++ [.loaded m pos] }
  | .readQty uid exitPrice =>
      match s.rows.loadByUid uid with
      | none => s
      | some pos => { s with pending := s.pending ++ [.sized uid pos.qty exitPrice] }
  | .reload i =>
      match s.pending[i]? with
      | some (.sized uid qty exitPrice) =>
          match s.rows.loadByUid uid with
          | none => { s with pending := s.pending.eraseIdx i }
          | some pos =>
              { s with pending := s.pending.set i (.loaded (.reducePosition qty exitPrice) pos) }
      | _ => s
  | .write i now =>
      match s.pending[i]? with
      | some (.loaded m pos) =>
          match (PendingMutation.loaded m pos).write b engine now s.rows with
          | none => { s with pending := s.pending.eraseIdx i }
          | some (m, row, rows) =>
              { rows := rows
                pending := s.pending.eraseIdx i
                tally := Function.update s.tally row.positionUid
                  ((s.tally row.positionUid).add m row) }
      | _ => s

/-- A row holds what the calls add up to, and is closed once one has closed it. -/
structure PositionTally.Matches (tally : PositionTally) (row : LedgerPosition) : Prop where
  fees : row.feesAccrued = tally.fees
  funding : row.fundingAccrued = tally.funding
  qty : row.qty = tally.qty
  slPrice : row.slPrice = tally.slPrice
  tpPrice : row.tpPrice = tally.tpPrice
  closed : tally.closed = true ↔ row.status = .closed

/-- No update of a position is lost. -/
def PositionSystem.Reflects (s : PositionSystem) : Prop :=
  ∀ uid row, s.rows.loadByUid uid = some row → (s.tally uid).Matches row

/-- Nothing that a mutation goes by, and does not set, has changed in the row
since the position was loaded. -/
structure PositionMutation.Current (m : PositionMutation) (pos row : LedgerPosition) : Prop where
  fees : row.feesAccrued = pos.feesAccrued
  funding : row.fundingAccrued = pos.fundingAccrued
  qty : row.qty = pos.qty
  slPrice : m.slPrice = none → row.slPrice = pos.slPrice
  tpPrice : m.tpPrice = none → row.tpPrice = pos.tpPrice
  closed : row.status = .closed → pos.status = .closed

/-- The columns hold what a mutation writes as it is. -/
structure PositionMutation.Fits (b : Backend) (m : PositionMutation) (pos : LedgerPosition) :
    Prop where
  fees : b.Stored (pos.feesAccrued + m.fee)
  funding : b.Stored (pos.fundingAccrued + m.funding)
  qty : b.Stored (pos.qty + m.fill)
  slPrice : ∀ p ∈ m.slPrice <|> pos.slPrice, b.Stored p
  tpPrice : ∀ p ∈ m.tpPrice <|> pos.tpPrice, b.Stored p

/-- A call writes over the row that it has loaded, and what it writes fits. -/
def PendingMutation.Timely (b : Backend) (rows : PositionDb) : PendingMutation → Prop
  | .sized .. => True
  | .loaded m pos =>
      m.Fits b pos ∧ ∀ row ∈ rows.loadByUid pos.positionUid, m.Current pos row

def PositionSystem.Timely (b : Backend) (s : PositionSystem) : PositionStep → Prop
  | .write i _ => ∀ p ∈ s.pending[i]?, p.Timely b s.rows
  | _ => True

instance (b : Backend) (x : Decimal) : Decidable (b.Stored x) :=
  inferInstanceAs (Decidable (b = .postgres → OnGrid numericPlaces x))

instance (b : Backend) (m : PositionMutation) (pos : LedgerPosition) : Decidable (m.Fits b pos) :=
  decidable_of_iff (b.Stored (pos.feesAccrued + m.fee) ∧ b.Stored (pos.fundingAccrued + m.funding) ∧
      b.Stored (pos.qty + m.fill) ∧ (∀ p ∈ m.slPrice <|> pos.slPrice, b.Stored p) ∧
      ∀ p ∈ m.tpPrice <|> pos.tpPrice, b.Stored p)
    ⟨fun ⟨hfees, hfunding, hqty, hsl, htp⟩ => ⟨hfees, hfunding, hqty, hsl, htp⟩,
      fun h => ⟨h.fees, h.funding, h.qty, h.slPrice, h.tpPrice⟩⟩

instance (m : PositionMutation) (pos row : LedgerPosition) : Decidable (m.Current pos row) :=
  decidable_of_iff (row.feesAccrued = pos.feesAccrued ∧ row.fundingAccrued = pos.fundingAccrued ∧
      row.qty = pos.qty ∧ (m.slPrice = none → row.slPrice = pos.slPrice) ∧
      (m.tpPrice = none → row.tpPrice = pos.tpPrice) ∧
      (row.status = .closed → pos.status = .closed))
    ⟨fun ⟨hfees, hfunding, hqty, hsl, htp, hclosed⟩ =>
        ⟨hfees, hfunding, hqty, hsl, htp, hclosed⟩,
      fun h => ⟨h.fees, h.funding, h.qty, h.slPrice, h.tpPrice, h.closed⟩⟩

instance (b : Backend) (rows : PositionDb) : (p : PendingMutation) → Decidable (p.Timely b rows)
  | .sized .. => isTrue trivial
  | .loaded m pos => inferInstanceAs (Decidable
      (m.Fits b pos ∧ ∀ row ∈ rows.loadByUid pos.positionUid, m.Current pos row))

instance (b : Backend) (s : PositionSystem) : (t : PositionStep) → Decidable (s.Timely b t)
  | .write i _ => inferInstanceAs (Decidable (∀ p ∈ s.pending[i]?, p.Timely b s.rows))
  | .load .. | .readQty .. | .reload .. => isTrue trivial

/-! ## Nothing is lost -/

/-- The table with a row put in place of those of its position. -/
theorem PositionDb.loadByUid_replace (rows : PositionDb) (row : LedgerPosition) (uid : String) :
    PositionDb.loadByUid (rows.map (fun r => if r.positionUid = row.positionUid then row else r))
      uid = if uid = row.positionUid then (rows.loadByUid uid).map (fun _ => row)
        else rows.loadByUid uid := by
  unfold PositionDb.loadByUid
  induction rows with
  | nil => simp
  | cons r rest ih =>
      rw [List.map_cons]
      by_cases hr : r.positionUid = row.positionUid
      · by_cases huid : uid = row.positionUid
        · simp [hr, huid]
        · have hne : ¬ row.positionUid = uid := fun h => huid h.symm
          simpa [hr, huid, hne] using ih
      · by_cases hfound : r.positionUid = uid
        · have huid : ¬ uid = row.positionUid := hfound ▸ hr
          simp [hfound, huid]
        · simpa [hr, hfound] using ih

/-- A write stores the row it was given, as its columns hold it. -/
theorem updatePosition_ok {b : Backend} {pos : LedgerPosition} {rows rows' : PositionDb}
    (h : updatePosition b pos rows = .ok () rows') : ∃ row, b.positionRow pos = .ok row ∧
      rows' = rows.map (fun r => if r.positionUid = pos.positionUid then row else r) := by
  unfold updatePosition at h
  cases hrow : b.positionRow pos with
  | error e =>
      rw [hrow] at h
      cases h
  | ok row =>
      rw [hrow] at h
      cases h
      exact ⟨row, rfl, rfl⟩

theorem Backend.optionColumn_eq {b : Backend} {price stored : Option Decimal}
    (hprice : ∀ p ∈ price, b.Stored p) (h : b.optionColumn price = .ok stored) :
    stored = priceOf price := by
  cases price with
  | none =>
      cases h
      rfl
  | some p =>
      unfold Backend.optionColumn at h
      dsimp only at h
      by_cases hzero : p = 0
      · rw [if_pos hzero] at h
        cases h
        simp [priceOf, Option.filter, hzero]
      · rw [if_neg hzero] at h
        cases hcolumn : b.column p with
        | error e =>
            rw [hcolumn] at h
            cases h
        | ok q =>
            rw [hcolumn] at h
            cases h
            simp [priceOf, Option.filter, hzero, (hprice p rfl).column hcolumn]

/-- The accruals and the prices of a row in their columns. -/
structure LedgerPosition.Columns (pos row : LedgerPosition) (b : Backend) : Prop where
  funding : b.column pos.fundingAccrued = .ok row.fundingAccrued
  fees : b.column pos.feesAccrued = .ok row.feesAccrued
  tpPrice : b.optionColumn pos.tpPrice = .ok row.tpPrice
  slPrice : b.optionColumn pos.slPrice = .ok row.slPrice

theorem Backend.positionRow_columns {b : Backend} {pos row : LedgerPosition}
    (h : b.positionRow pos = .ok row) : pos.Columns row b := by
  unfold Backend.positionRow at h
  iterate 11 obtain ⟨_, -, h⟩ := except_bind_eq_ok h
  obtain ⟨funding, hfunding, h⟩ := except_bind_eq_ok h
  obtain ⟨fees, hfees, h⟩ := except_bind_eq_ok h
  obtain ⟨tpPrice, htpPrice, h⟩ := except_bind_eq_ok h
  obtain ⟨slPrice, hslPrice, h⟩ := except_bind_eq_ok h
  split at h
  · cases h
  · cases h
    exact ⟨hfunding, hfees, htpPrice, hslPrice⟩

/-- What is stored of a row that a call has made. -/
structure PositionMutation.Stores (m : PositionMutation) (pos row : LedgerPosition) : Prop where
  uid : row.positionUid = pos.positionUid
  fees : row.feesAccrued = pos.feesAccrued + m.fee
  funding : row.fundingAccrued = pos.fundingAccrued + m.funding
  qty : row.qty = pos.qty + m.fill
  slPrice : row.slPrice = priceOf (m.slPrice <|> pos.slPrice)
  tpPrice : row.tpPrice = priceOf (m.tpPrice <|> pos.tpPrice)
  closed : pos.status = .closed → row.status = .closed

theorem PositionMutation.Adds.stores {b : Backend} {m : PositionMutation}
    {pos made row : LedgerPosition} (h : m.Adds pos made) (hfits : m.Fits b pos)
    (hrow : b.positionRow made = .ok row) : m.Stores pos row := by
  have hkept := Backend.positionRow_storedAs hrow
  have hcolumns := Backend.positionRow_columns hrow
  constructor
  · exact hkept.uid.trans h.uid
  · exact hfits.fees.column (h.fees ▸ hcolumns.fees)
  · exact hfits.funding.column (h.funding ▸ hcolumns.funding)
  · exact hfits.qty.column (h.qty ▸ hkept.qty)
  · exact Backend.optionColumn_eq hfits.slPrice (h.slPrice ▸ hcolumns.slPrice)
  · exact Backend.optionColumn_eq hfits.tpPrice (h.tpPrice ▸ hcolumns.tpPrice)
  · exact fun hclosed => hkept.status.trans (h.closed hclosed)

section Steps

variable {b : Backend} {engine : PositionEngine} {s : PositionSystem} {now : ℤ}

/-- What a pending call stores of the position it has loaded. -/
theorem PendingMutation.write_stores {m m' : PositionMutation} {pos row : LedgerPosition}
    {rows rows' : PositionDb} (hfits : m.Fits b pos)
    (h : (PendingMutation.loaded m pos).write b engine now rows = some (m', row, rows')) :
    m' = m ∧ row.positionUid = pos.positionUid ∧ ∃ stored, m.Stores pos stored ∧
      stored.status = row.status ∧
      rows' = rows.map (fun r => if r.positionUid = stored.positionUid then stored else r) := by
  unfold PendingMutation.write at h
  dsimp only at h
  split at h
  · cases h
  · next made hmade =>
      split at h
      · next hupdate =>
          cases h
          have hadds := PositionMutation.change_adds hmade
          obtain ⟨stored, hrow, hrows⟩ := updatePosition_ok hupdate
          have hkept := Backend.positionRow_storedAs hrow
          refine ⟨rfl, hadds.uid, stored, hadds.stores hfits hrow, hkept.status, ?_⟩
          rw [hkept.uid]
          exact hrows
      · cases h

/-- Writing over the row that was loaded books the call. -/
theorem PositionTally.Matches.add {tally : PositionTally} {m : PositionMutation}
    {pos old stored row : LedgerPosition} (h : tally.Matches old) (hcurrent : m.Current pos old)
    (hstores : m.Stores pos stored) (hstatus : stored.status = row.status) :
    (tally.add m row).Matches stored := by
  constructor
  · show stored.feesAccrued = tally.fees + m.fee
    rw [hstores.fees, ← hcurrent.fees, h.fees]
  · show stored.fundingAccrued = tally.funding + m.funding
    rw [hstores.funding, ← hcurrent.funding, h.funding]
  · show stored.qty = tally.qty + m.fill
    rw [hstores.qty, ← hcurrent.qty, h.qty]
  · show stored.slPrice = priceOf (m.slPrice <|> tally.slPrice)
    rw [hstores.slPrice, ← h.slPrice]
    cases hset : m.slPrice with
    | none => rw [hcurrent.slPrice hset]
    | some p => rfl
  · show stored.tpPrice = priceOf (m.tpPrice <|> tally.tpPrice)
    rw [hstores.tpPrice, ← h.tpPrice]
    cases hset : m.tpPrice with
    | none => rw [hcurrent.tpPrice hset]
    | some p => rfl
  · show (tally.closed || decide (row.status = .closed)) = true ↔ _
    rw [Bool.or_eq_true, h.closed, decide_eq_true_eq, ← hstatus]
    constructor
    · rintro (hclosed | hclosed)
      · exact hstores.closed (hcurrent.closed hclosed)
      · exact hclosed
    · exact Or.inr

theorem PositionSystem.Reflects.write (h : s.Reflects) {i : ℕ}
    (hok : s.Timely b (.write i now)) : (s.step b engine (.write i now)).Reflects := by
  unfold PositionSystem.step
  dsimp only
  split
  · next m pos hpending =>
      obtain ⟨hfits, hcurrent⟩ := hok (.loaded m pos) hpending
      cases hwrite : (PendingMutation.loaded m pos).write b engine now s.rows with
      | none => exact h
      | some written =>
          obtain ⟨m', row, rows⟩ := written
          obtain ⟨rfl, huid, stored, hstores, hstatus, rfl⟩ :=
            PendingMutation.write_stores hfits hwrite
          intro uid found hfound
          dsimp only at hfound ⊢
          rw [PositionDb.loadByUid_replace] at hfound
          by_cases hsame : uid = stored.positionUid
          · have hrow : uid = row.positionUid := by rw [hsame, hstores.uid, huid]
            rw [if_pos hsame] at hfound
            obtain ⟨old, hload, rfl⟩ := Option.map_eq_some_iff.mp hfound
            have hold := hcurrent old (by rw [← huid, ← hrow]; exact hload)
            rw [← hrow, Function.update_self]
            exact (h uid old hload).add hold hstores hstatus
          · have hrow : uid ≠ row.positionUid := by
              rw [huid, ← hstores.uid]
              exact hsame
            rw [if_neg hsame] at hfound
            rw [Function.update_of_ne hrow]
            exact h uid found hfound
  · exact h

theorem PositionSystem.Reflects.step (h : s.Reflects) {t : PositionStep} (hok : s.Timely b t) :
    (s.step b engine t).Reflects := by
  cases t with
  | load uid m =>
      unfold PositionSystem.step
      dsimp only
      split
      · exact h
      · exact h
  | readQty uid exitPrice =>
      unfold PositionSystem.step
      dsimp only
      split
      · exact h
      · exact h
  | reload i =>
      unfold PositionSystem.step
      dsimp only
      split
      · split
        · exact h
        · exact h
      · exact h
  | write i now => exact h.write hok

theorem PositionSystem.reflects_start (rows : PositionDb) :
    (PositionSystem.start rows).Reflects := by
  intro uid row hrow
  have htally : (PositionSystem.start rows).tally uid = PositionTally.of row := by
    have hload : rows.loadByUid uid = some row := hrow
    simp [PositionSystem.start, hload]
  rw [htally]
  exact ⟨rfl, rfl, rfl, rfl, rfl, by simp [PositionTally.of]⟩

/-- In every interleaving whose writes are timely no update is lost. -/
theorem PositionSystem.reflects_of_reaches {rows : PositionDb}
    (h : Reaches (PositionSystem.step b engine) (PositionSystem.Timely b)
      (PositionSystem.start rows) s) : s.Reflects :=
  h.invariant (PositionSystem.reflects_start rows) (fun _ _ hs ht => hs.step ht)

end Steps

/-! ## Two calls at once -/

/-- A long position of two units at 100. -/
def demoOpened : PositionDb :=
  final (PositionOp.run .sqlite demoEngine
    (.openPosition "p" "binance" "BTCUSDT" .long 2 100 10 none none 0)) []

/-- A fee and a funding payment, accrued one after the other. -/
def demoAccruals : List PositionStep :=
  [.load "p" (.accrueFee 1), .write 0 1, .load "p" (.accrueFunding 2), .write 0 2]

/-- A fee that is accrued while the position is closed. -/
def demoFeeOnClose : List PositionStep :=
  [.load "p" (.accrueFee 1), .readQty "p" 110, .reload 1, .write 1 1, .write 0 2]

theorem demoAccruals_reflect :
    PositionSystem.Reflects (demoAccruals.foldl (PositionSystem.step .sqlite demoEngine)
      (PositionSystem.start demoOpened)) :=
  PositionSystem.reflects_of_reaches (Reaches.start.foldl demoAccruals (by decide +kernel))

/-- The fee is written with the row as it was before the close. -/
theorem demoFeeOnClose_not_reflects :
    ¬ ∀ (b : Backend) (engine : PositionEngine) (rows : PositionDb) (steps : List PositionStep),
      PositionSystem.Reflects (steps.foldl (PositionSystem.step b engine)
        (PositionSystem.start rows)) := by
  intro h
  let s := demoFeeOnClose.foldl (PositionSystem.step .sqlite demoEngine)
    (PositionSystem.start demoOpened)
  have hreflects : s.Reflects := h .sqlite demoEngine demoOpened demoFeeOnClose
  have hreopened : ∀ row ∈ s.rows.loadByUid "p", (s.tally "p").closed = true ∧
      row.status = .opened := by decide +kernel
  have hfound : (s.rows.loadByUid "p").isSome := by decide +kernel
  obtain ⟨row, hrow⟩ := Option.isSome_iff_exists.mp hfound
  obtain ⟨hclosed, hopened⟩ := hreopened row hrow
  rw [(hreflects "p" row hrow).closed, hopened] at hclosed
  cases hclosed

end CryptoTrader
