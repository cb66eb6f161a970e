import CryptoTrader.Ledger.Balances
import CryptoTrader.Ledger.PositionEngine

/-!
# The wallet projection

`WalletProjectionService` of `ledger/wallet_projection.py` reads the ledger
account and a list of positions into a snapshot, and `_check_balance` of
`ledger/reconciliation.py` compares the ledger balance with the exchange.  Both
take the ledger balance for the wallet balance, although a reservation debits
it.
-/

namespace CryptoTrader

open CryptoTrader.Lib

/-- `WalletSnapshot`. -/
structure WalletSnapshot where
  venue : String
  settlementCurrency : String
  walletBalance : Decimal := 0
  marginBalance : Decimal := 0
  availableBalance : Decimal := 0
  lockedBalance : Decimal := 0
  unrealizedPnl : Decimal := 0
  realizedPnl : Decimal := 0
  fundingAccrued : Decimal := 0
  feesAccrued : Decimal := 0
  accountId : String
  deriving DecidableEq, Repr

/-- `WalletSnapshot.equity`. -/
def WalletSnapshot.equity (snap : WalletSnapshot) : Decimal :=
  snap.walletBalance + snap.unrealizedPnl

/-- `WalletSnapshot.margin_utilization`. -/
def WalletSnapshot.marginUtilization (snap : WalletSnapshot) : Decimal :=
  if snap.equity ≤ 0 then 1 else snap.lockedBalance / snap.equity

/-- `WalletProjectionService`. -/
structure WalletProjection where
  userId : String
  settlement : String := "USDT"

/-- The account the projection settles in. -/
def WalletProjection.accountId (projection : WalletProjection) : AccountId :=
  ⟨projection.userId, projection.settlement.toUpper⟩

/-- `_load_account`. -/
def WalletProjection.loadAccount (projection : WalletProjection) (db : LedgerDb)
    (currency : String) : Option Account :=
  db.accounts.get? ⟨projection.userId, currency.toUpper⟩

/-- `_query_realized_pnl`; the currency is not upper-cased here. -/
def WalletProjection.queryRealizedPnl (projection : WalletProjection) (db : LedgerDb) : Decimal :=
  signedTotal ((db.entriesOf ⟨projection.userId, projection.settlement⟩).filter
    (fun e => e.eventType = .realizedPnlCredit ∨ e.eventType = .realizedPnlDebit))

/-- The positions that `build_snapshot` adds up. -/
def countedPositions (positions : List LedgerPosition) : List LedgerPosition :=
  positions.filter (fun pos => pos.status = .opened)

/-- `additional_locked`: the margin of the open positions. -/
def marginUsedTotal (positions : List LedgerPosition) : Decimal :=
  ((countedPositions positions).map (fun pos => pos.marginUsed.getD 0)).sum

/-- The unrealized result of the open positions. -/
def unrealizedPnlTotal (positions : List LedgerPosition) : Decimal :=
  ((countedPositions positions).map (fun pos => pos.unrealizedPnl)).sum

/-- `build_snapshot`. -/
def WalletProjection.buildSnapshot (projection : WalletProjection) (db : LedgerDb)
    (venue : String) (positions : List LedgerPosition) : WalletSnapshot :=
  match projection.loadAccount db projection.settlement with
  | none =>
      { venue := venue
        settlementCurrency := projection.settlement
        accountId := projection.userId }
  | some acct =>
      let unrealizedPnl := unrealizedPnlTotal positions
      { venue := venue
        settlementCurrency := projection.settlement
        walletBalance := acct.ledgerBalance
        marginBalance := acct.ledgerBalance + unrealizedPnl
        availableBalance := acct.availableBalance
        lockedBalance := max acct.lockedBalance (marginUsedTotal positions)
        unrealizedPnl := unrealizedPnl
        realizedPnl := projection.queryRealizedPnl db
        fundingAccrued := ((countedPositions positions).map (fun pos => pos.fundingAccrued)).sum
        feesAccrued := ((countedPositions positions).map (fun pos => pos.feesAccrued)).sum
        accountId := projection.userId }

/-- `status` of a reconciliation result. -/
inductive ReconStatus where
  | ok
  | drift
  | error
  deriving DecidableEq, Repr

/-- The status of `_check_balance`, which reads the account of USDT. -/
def WalletProjection.checkBalance (projection : WalletProjection) (db : LedgerDb)
    (tolerance exBalance : Decimal) : ReconStatus :=
  match projection.loadAccount db "USDT" with
  | none => .error
  | some acct => if |exBalance - acct.ledgerBalance| ≤ tolerance then .ok else .drift

/-! ## Reservations -/

/-- The reservation is let through. -/
structure LedgerDb.Reservable (b : Backend) (db : LedgerDb) (id : AccountId) (amount : Decimal) :
    Prop where
  guard : amount ≤ (db.account id).availableBalance
  posts : b.Posts (db.account id) .debit amount .marginReserve
  locked : b.holds ((db.account id).lockedBalance + amount)
  available : b.holds ((db.account id).availableBalance - amount)

section Reservations

variable {b : Backend} {db : LedgerDb} {id : AccountId} {amount : Decimal}

theorem Backend.holds_of_column {x y : Decimal} (h : b.column x = .ok y) : b.holds x := by
  unfold Backend.holds
  rw [h]

theorem LedgerEntry.Books.posts {e : LedgerEntry} {acct : Account} {way : Direction}
    {value : Decimal} {kind : EventType} (h : e.Books b acct way value kind) :
    b.Posts acct way value kind where
  guarded := h.guarded
  amount := Backend.holds_of_column h.amount
  running := Backend.holds_of_column h.running
  accepted := by
    intro stored hstored
    rw [← Except.ok.inj (h.amount.symm.trans hstored)]
    exact h.accepted

/-- A reservation that is let through locks its amount, and any other leaves the
account as it was. -/
theorem reserveMargin_cases (b : Backend) (db : LedgerDb) (id : AccountId) (amount : Decimal) :
    wp (reserveMargin b id amount)
      (fun _ db' => db.Reservable b id amount ∧
        ∃ e, (LedgerOp.reserveMargin id amount).Affects b db id e (db'.account id) ∧ db'.Has id)
      (fun _ db' => ¬ db.Reservable b id amount ∧ db' = db.ensure id) db := by
  unfold reserveMargin
  rw [wp_bind, getAccount_wp, wp_ite]
  refine ⟨fun hguard => ⟨fun h => absurd h.guard (not_le.mpr hguard), rfl⟩, fun hguard => ?_⟩
  rw [wp_transaction]
  refine wp_mono (postAndLock_wp b id (db.ensure id) .debit amount amount .marginReserve) ?_ ?_
  · rintro - db₁ ⟨e, locked, available, rfl, hbooks, hlocked, havailable, rfl⟩
    have hhas : (db.ensure e.account).Has e.account := LedgerDb.has_ensure_self db
    rw [LedgerDb.account_ensure] at hbooks hlocked havailable
    refine ⟨⟨not_lt.mp hguard, hbooks.posts, Backend.holds_of_column hlocked,
      Backend.holds_of_column havailable⟩, e, ?_, (hhas.post e).update _⟩
    rw [LedgerDb.account_book_self hhas, LedgerDb.account_ensure]
    exact .reserve (not_lt.mp hguard) hbooks hlocked havailable
  · intro _ _ hrefused
    rw [LedgerDb.account_ensure] at hrefused
    exact ⟨fun h => hrefused ⟨h.posts, h.locked, h.available⟩, rfl⟩

end Reservations

/-! ## Snapshots -/

section Snapshots

variable {projection : WalletProjection} {db : LedgerDb} (venue : String)
  (positions : List LedgerPosition)

theorem LedgerDb.Has.get? {id : AccountId} (h : db.Has id) :
    db.accounts.get? id = some (db.account id) := by
  obtain ⟨acct, hacct⟩ := Option.isSome_iff_exists.mp h
  unfold LedgerDb.account
  rw [hacct]
  rfl

theorem LedgerDb.account_of_not_has {id : AccountId} (h : ¬ db.Has id) : db.account id = {} := by
  unfold LedgerDb.account
  rw [Option.not_isSome_iff_eq_none.mp h]
  rfl

/-- The balances a snapshot shows. -/
theorem buildSnapshot_of_has (h : db.Has projection.accountId) :
    let snap := projection.buildSnapshot db venue positions
    let acct := db.account projection.accountId
    snap.equity = acct.ledgerBalance + unrealizedPnlTotal positions ∧
      snap.marginBalance = acct.ledgerBalance + unrealizedPnlTotal positions ∧
      snap.walletBalance = acct.ledgerBalance ∧
      snap.availableBalance = acct.availableBalance ∧
      snap.lockedBalance = max acct.lockedBalance (marginUsedTotal positions) := by
  intro snap acct
  have hsnap : projection.loadAccount db projection.settlement = some acct := h.get?
  simp [snap, acct, WalletProjection.buildSnapshot, WalletSnapshot.equity, hsnap]

/-- Without an account the snapshot shows nothing. -/
theorem buildSnapshot_of_not_has (h : ¬ db.Has projection.accountId) :
    let snap := projection.buildSnapshot db venue positions
    snap.equity = 0 ∧ snap.marginBalance = 0 ∧
      snap.availableBalance + snap.lockedBalance = snap.walletBalance := by
  intro snap
  have hsnap : projection.loadAccount db projection.settlement = none :=
    Option.not_isSome_iff_eq_none.mp h
  simp [snap, WalletProjection.buildSnapshot, WalletSnapshot.equity, hsnap]

end Snapshots

/-! ## Equity across a reservation -/

/-- The tables before a reservation, after it, and after the release that
matches it. -/
def reservationStages (b : Backend) (db : LedgerDb) (id : AccountId) (amount : Decimal) :
    List LedgerDb :=
  [db, final (reserveMargin b id amount) db,
    final (do
      reserveMargin b id amount
      releaseMargin b id amount) db]

/-- A reservation and its release do not show in the projection. -/
structure WalletProjection.Steady (projection : WalletProjection) (b : Backend) (db : LedgerDb)
    (amount : Decimal) (venue : String) (positions : List LedgerPosition) : Prop where
  equity : ∀ db' ∈ reservationStages b db projection.accountId amount,
    (projection.buildSnapshot db' venue positions).equity =
      (projection.buildSnapshot db venue positions).equity
  marginBalance : ∀ db' ∈ reservationStages b db projection.accountId amount,
    (projection.buildSnapshot db' venue positions).marginBalance =
      (projection.buildSnapshot db venue positions).marginBalance
  covered : ∀ db' ∈ reservationStages b db projection.accountId amount,
    marginUsedTotal positions ≤ (db'.account projection.accountId).lockedBalance →
      (projection.buildSnapshot db' venue positions).availableBalance +
        (projection.buildSnapshot db' venue positions).lockedBalance =
          (projection.buildSnapshot db' venue positions).walletBalance
  reconciled : ∀ db' ∈ reservationStages b db projection.accountId amount,
    ∀ tolerance exBalance, projection.checkBalance db tolerance exBalance = .ok →
      projection.checkBalance db' tolerance exBalance ≠ .drift

/-- Nothing is reserved: the reservation is refused or is of nothing, no margin
is locked that covers the positions, and the account is there unless the
positions have no result. -/
structure WalletProjection.Unreserved (projection : WalletProjection) (b : Backend)
    (db : LedgerDb) (amount : Decimal) (positions : List LedgerPosition) : Prop where
  refused : db.Reservable b projection.accountId amount → amount = 0
  unlocked : marginUsedTotal positions ≤ (db.account projection.accountId).lockedBalance →
    (db.account projection.accountId).lockedBalance = 0
  known : db.Has projection.accountId ∨ unrealizedPnlTotal positions = 0

/-- The balances are those of before. -/
def LedgerDb.SameBalances (db db' : LedgerDb) : Prop :=
  ∀ id, db'.account id = db.account id ∧ (db.Has id → db'.Has id)

section Stages

variable {b : Backend} {db db' : LedgerDb} {id : AccountId} {amount : Decimal}

theorem LedgerOp.Affects.reserve_eq {e : LedgerEntry} {id' : AccountId} {acct' : Account}
    (h : (LedgerOp.reserveMargin id amount).Affects b db id' e acct')
    (hlevel : (db.account id').Level b) (hzero : db.Reservable b id amount → amount = 0) :
    acct' = db.account id' := by
  cases h with
  | reserve hguard hbooks hlocked havailable =>
      have hreservable : db.Reservable b id amount :=
        ⟨hguard, hbooks.posts, Backend.holds_of_column hlocked,
          Backend.holds_of_column havailable⟩
      have hamount := hzero hreservable
      subst hamount
      rw [add_zero] at hlocked
      rw [sub_zero, hlevel.available] at havailable
      have hrunning := hbooks.running
      rw [mul_zero, add_zero] at hrunning
      rw [hlevel.storedLocked.column hlocked, hlevel.stored.column havailable,
        hlevel.stored.column hrunning]
      nth_rewrite 2 [← hlevel.available]
      rfl
  | delta hop => cases hop

/-- What a reservation in step takes off the ledger. -/
theorem LedgerOp.Affects.reserve_ledger {e : LedgerEntry} {acct' : Account}
    (h : (LedgerOp.reserveMargin id amount).Affects b db id e acct')
    (hlevel : (db.account id).Level b) (hop : (LedgerOp.reserveMargin id amount).InStep b db) :
    ∃ stored, b.column amount = .ok stored ∧ b.accepts stored ∧
      acct'.ledgerBalance = (db.account id).ledgerBalance - stored := by
  cases h with
  | reserve hguard hbooks hlocked havailable =>
      obtain ⟨-, hexact⟩ := hop hguard (Backend.accepts_of_column hbooks.amount hbooks.accepted)
      have hrunning := hbooks.running
      rw [show Direction.debit.sign = -1 from rfl, neg_one_mul, ← sub_eq_add_neg] at hrunning
      exact ⟨_, hbooks.amount, hbooks.accepted,
        Backend.column_sub hlevel.stored hexact hbooks.amount hrunning⟩
  | delta hop => cases hop

/-- No accepted amount is stored as nothing, unless it is nothing. -/
theorem Backend.eq_zero_of_column_zero (h : b.column amount = .ok 0) (haccepts : b.accepts 0) :
    amount = 0 := by
  cases b with
  | sqlite => exact (Backend.column_sqlite h).symm
  | postgres => exact absurd haccepts (by decide)

theorem LedgerOp.Affects.release_pos {e : LedgerEntry} {id' : AccountId} {acct' : Account}
    (h : (LedgerOp.releaseMargin id amount).Affects b db id' e acct') : 0 < amount := by
  cases h with
  | release hrelease hpos =>
      rw [hrelease] at hpos
      exact lt_of_lt_of_le hpos (min_le_left _ _)
  | delta hop => cases hop

/-- A reservation of nothing, or one that is refused, changes no balance. -/
theorem LedgerDb.sameBalances_reserve (hlevel : ∀ id, (db.account id).Level b)
    (hzero : db.Reservable b id amount → amount = 0) :
    db.SameBalances (final (reserveMargin b id amount) db) := by
  intro id'
  have houtcome := LedgerOp.step_cases b db (.reserveMargin id amount) id'
  rcases houtcome with ⟨hacct, -, hhas⟩ | ⟨e, haffects, -, hhas⟩
  · exact ⟨hacct, hhas⟩
  · exact ⟨haffects.reserve_eq (hlevel id') hzero, fun _ => hhas⟩

/-- A release of nothing changes no balance. -/
theorem LedgerDb.sameBalances_release (hzero : amount ≤ 0) :
    db.SameBalances (final (releaseMargin b id amount) db) := by
  intro id'
  have houtcome := LedgerOp.step_cases b db (.releaseMargin id amount) id'
  rcases houtcome with ⟨hacct, -, hhas⟩ | ⟨e, haffects, -, hhas⟩
  · exact ⟨hacct, hhas⟩
  · exact absurd haffects.release_pos (not_lt.mpr hzero)

theorem LedgerDb.SameBalances.trans {db'' : LedgerDb} (h : db.SameBalances db')
    (h' : db'.SameBalances db'') : db.SameBalances db'' :=
  fun id => ⟨(h' id).1.trans (h id).1, fun hhas => (h' id).2 ((h id).2 hhas)⟩

theorem LedgerDb.sameBalances_stages (hlevel : ∀ id, (db.account id).Level b)
    (hzero : db.Reservable b id amount → amount = 0) :
    ∀ db' ∈ reservationStages b db id amount, db.SameBalances db' := by
  have hreserve := LedgerDb.sameBalances_reserve hlevel hzero
  intro db' hdb'
  rcases List.mem_cons.mp hdb' with rfl | hdb'
  · exact fun _ => ⟨rfl, fun h => h⟩
  rcases List.mem_pair.mp hdb' with rfl | rfl
  · exact hreserve
  · have hcases := reserveMargin_cases b db id amount
    cases hrun : reserveMargin b id amount db with
    | error err db₁ =>
        rw [final_bind_error hrun]
        exact hreserve
    | ok u db₁ =>
        rw [final_bind_ok hrun]
        rw [final_of_ok hrun] at hreserve
        have hamount := hzero (wp_ok hcases hrun).1
        exact hreserve.trans (LedgerDb.sameBalances_release hamount.le)

/-- The account is there once a reservation was tried. -/
theorem LedgerDb.has_reserve : (final (reserveMargin b id amount) db).Has id := by
  refine (wp_final (P := fun db' => LedgerDb.Has db' id) _).mp (wp_mono (reserveMargin_cases _ _ _ _) ?_ ?_)
  · rintro _ _ ⟨-, e, -, hhas⟩
    exact hhas
  · rintro _ _ ⟨-, rfl⟩
    exact LedgerDb.has_ensure_self db

end Stages

section Steady

variable {projection : WalletProjection} {b : Backend} {db db' : LedgerDb} {amount : Decimal}
  {venue : String} {positions : List LedgerPosition}

/-- Equal balances give equal verdicts. -/
theorem LedgerDb.SameBalances.checkBalance_ne_drift (h : db.SameBalances db')
    {tolerance exBalance : Decimal}
    (hok : projection.checkBalance db tolerance exBalance = .ok) :
    projection.checkBalance db' tolerance exBalance ≠ .drift := by
  obtain ⟨hacct, hhas⟩ := h ⟨projection.userId, "USDT".toUpper⟩
  have hrow : db.Has ⟨projection.userId, "USDT".toUpper⟩ := by
    by_contra hnone
    unfold WalletProjection.checkBalance WalletProjection.loadAccount at hok
    rw [Option.not_isSome_iff_eq_none.mp hnone] at hok
    cases hok
  unfold WalletProjection.checkBalance WalletProjection.loadAccount at hok ⊢
  rw [hrow.get?] at hok
  rw [(hhas hrow).get?, hacct]
  dsimp only at hok ⊢
  rw [hok]
  decide

/-- A reservation that goes through shows in the equity. -/
theorem WalletProjection.Steady.eq_zero (h : projection.Steady b db amount venue positions)
    (hlevel : (db.account projection.accountId).Level b)
    (hop : (LedgerOp.reserveMargin projection.accountId amount).InStep b db)
    (hreservable : db.Reservable b projection.accountId amount) : amount = 0 := by
  have haccepts : b.accepts amount := by
    have hheld := hreservable.posts.amount
    unfold Backend.holds at hheld
    split at hheld
    · next stored hstored =>
        exact Backend.accepts_of_column hstored (hreservable.posts.accepted stored hstored)
    · cases hheld
  obtain ⟨hnonneg, hexact⟩ := hop hreservable.guard haccepts
  have hcases := reserveMargin_cases b db projection.accountId amount
  cases hrun : reserveMargin b projection.accountId amount db with
  | error err db₁ => exact absurd hreservable (wp_error hcases hrun).1
  | ok u db₁ =>
      obtain ⟨-, e, haffects, hhas⟩ := wp_ok hcases hrun
      have hstage : db₁ ∈ reservationStages b db projection.accountId amount := by
        unfold reservationStages
        rw [final_of_ok hrun]
        simp
      have hequity := h.equity db₁ hstage
      by_cases hrow : db.Has projection.accountId
      · obtain ⟨stored, hstored, hstoredAccepts, hledger⟩ := haffects.reserve_ledger hlevel hop
        rw [(buildSnapshot_of_has venue positions hhas).1, (buildSnapshot_of_has venue positions hrow).1, hledger] at hequity
        have hzero : stored = 0 := by linarith
        subst hzero
        exact Backend.eq_zero_of_column_zero hstored hstoredAccepts
      · have hguard := hreservable.guard
        rw [LedgerDb.account_of_not_has hrow] at hguard
        exact le_antisymm hguard hnonneg

/-- The states of a run of calls in step are level. -/
theorem LedgerDb.level_of_reaches (h : Reaches (LedgerOp.step b) (LedgerOp.InStep b) .empty db)
    (id : AccountId) : (db.account id).Level b :=
  (LedgerDb.reserved_of_reaches h id).level

end Steady

/-- A wallet settled in USDT. -/
def demoProjection : WalletProjection where
  userId := "default"

/-- A deposit and nothing else. -/
def demoDeposit : List LedgerOp := [.deposit demoAccount 100]

end CryptoTrader
