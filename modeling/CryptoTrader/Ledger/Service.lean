import CryptoTrader.Exchange.Instrument
import CryptoTrader.Lib.FixedPoint
import CryptoTrader.Lib.Hoare

/-!
# The ledger service

`LedgerService` of `ledger/service.py` over the tables of `ledger/schema.sql`
and of the SQLite fallback in `ledger/db.py`.  An operation reads the account
in one transaction and posts in another; what a posting did is rolled back when
it raises, the account row it ensured is not.

The two schemas differ: Postgres columns hold eight decimals and its entries
must have a positive amount, SQLite stores the text of a number and checks
nothing.  SQL arithmetic is exact, which the binary floats of SQLite are not.
-/

namespace CryptoTrader

open CryptoTrader.Lib

/-- `LedgerDB._backend`. -/
inductive Backend where
  | postgres
  | sqlite
  deriving DecidableEq, Repr

/-- `uq_account`: an account is identified by its user and its currency. -/
structure AccountId where
  userId : String
  currency : String
  deriving DecidableEq, Repr

/-- The balances of a row of `currency_accounts`. -/
structure Account where
  ledgerBalance : Decimal := 0
  availableBalance : Decimal := 0
  lockedBalance : Decimal := 0
  deriving DecidableEq, Repr

inductive Direction where
  | debit
  | credit
  deriving DecidableEq, Repr

/-- `+1` for a credit and `-1` for a debit. -/
def Direction.sign : Direction → Decimal
  | .credit => 1
  | .debit => -1

/-- `event_types.py`. -/
inductive EventType where
  | deposit
  | withdrawal
  | conversionDebit
  | conversionCredit
  | marginReserve
  | marginRelease
  | feeDebit
  | fundingDebit
  | fundingCredit
  | realizedPnlCredit
  | realizedPnlDebit
  | reconAdjust
  deriving DecidableEq, Repr

/-- The events that may take a balance below zero. -/
def EventType.mayOverdraw : EventType → Bool
  | .realizedPnlDebit | .feeDebit | .fundingDebit | .reconAdjust => true
  | _ => false

/-- A row of `ledger_entries`, less the references, the metadata and the time,
which no balance is computed from. -/
structure LedgerEntry where
  account : AccountId
  direction : Direction
  amount : Decimal
  runningBalance : Decimal
  eventType : EventType
  deriving DecidableEq, Repr

/-- The two tables. -/
structure LedgerDb where
  accounts : Dict AccountId Account
  entries : List LedgerEntry

/-- The tables of a fresh database. -/
def LedgerDb.empty : LedgerDb := ⟨Dict.empty, []⟩

/-- The balances of an account; a row starts at zero. -/
def LedgerDb.account (db : LedgerDb) (id : AccountId) : Account := (db.accounts.get? id).getD {}

/-- `INSERT … ON CONFLICT DO NOTHING`. -/
def LedgerDb.ensure (db : LedgerDb) (id : AccountId) : LedgerDb :=
  if (db.accounts.get? id).isSome then db else { db with accounts := db.accounts.set id {} }

/-- `UPDATE currency_accounts … WHERE id = …`. -/
def LedgerDb.update (db : LedgerDb) (id : AccountId) (f : Account → Account) : LedgerDb :=
  { db with accounts := db.accounts.modify id f }

/-- The insert and the update of `_post_entry`. -/
def LedgerDb.post (db : LedgerDb) (e : LedgerEntry) : LedgerDb :=
  { db with entries := db.entries ++ [e] }.update e.account
    (fun acct => { acct with ledgerBalance := e.runningBalance })

/-- The entries of an account, oldest first. -/
def LedgerDb.entriesOf (db : LedgerDb) (id : AccountId) : List LedgerEntry :=
  db.entries.filter (fun e => e.account = id)

abbrev LedgerM := EStateM PyErr LedgerDb

/-! ## Columns -/

/-- The decimals of a `NUMERIC(28,8)` column. -/
def numericPlaces : ℕ := 8

/-- What a balance or amount column stores for a number. -/
def Backend.column : Backend → Decimal → Except PyErr Decimal
  | .sqlite, x => .ok x
  | .postgres, x =>
      let stored := roundTo numericPlaces x
      if 10 ^ 20 ≤ |stored| then .error (.databaseError "numeric field overflow") else .ok stored

/-- `CHECK (amount > 0)`. -/
def Backend.accepts : Backend → Decimal → Bool
  | .sqlite, _ => true
  | .postgres, amount => 0 < amount

/-- Change a row of `currency_accounts`. -/
def updateAccount (id : AccountId) (f : Account → Account) : LedgerM Unit :=
  modify (fun db => db.update id f)

/-! ## Accounts and entries -/

section Service

variable (b : Backend)

/-- `ensure_account`. -/
def ensureAccount (id : AccountId) : LedgerM Unit := modify (fun db => db.ensure id)

/-- `get_account`. -/
def getAccount (id : AccountId) : LedgerM Account := do
  ensureAccount id
  let db ← get
  pure (db.account id)

/-- `_post_entry`. -/
def postEntry (id : AccountId) (direction : Direction) (amount : Decimal) (eventType : EventType) :
    LedgerM Decimal := do
  let db ← get
  let current := (db.account id).ledgerBalance
  let newBalance := current + direction.sign * amount
  if newBalance < 0 ∧ ¬ eventType.mayOverdraw then
    throw (.valueError (s!"Ledger balance would go negative: {id.currency} current={current} "
      ++ s!"delta={direction.sign * amount}"))
  else do
    let storedAmount ← ofExcept (b.column amount)
    let storedBalance ← ofExcept (b.column newBalance)
    if ¬ b.accepts storedAmount then
      throw (.databaseError "ledger_entries_amount_check")
    else do
      modify (fun db => db.post ⟨id, direction, storedAmount, storedBalance, eventType⟩)
      pure newBalance

/-- `SET available_balance = …`. -/
def setAvailable (id : AccountId) (balance : Decimal) : LedgerM Unit := do
  let stored ← ofExcept (b.column balance)
  updateAccount id (fun acct => { acct with availableBalance := stored })

/-- `SET available_balance = available_balance + …`. -/
def addAvailable (id : AccountId) (delta : Decimal) : LedgerM Unit := do
  let db ← get
  setAvailable b id ((db.account id).availableBalance + delta)

/-! ## Economic events -/

/-- `deposit`. -/
def deposit (id : AccountId) (amount : Decimal) : LedgerM Unit :=
  if amount ≤ 0 then throw (.valueError s!"Deposit amount must be positive, got {amount}")
  else do
    ensureAccount id
    transaction (do
      let newBal ← postEntry b id .credit amount .deposit
      setAvailable b id newBal)

/-- The posting of `withdraw`. -/
def postWithdrawal (id : AccountId) (amount : Decimal) : LedgerM Unit := do
  let newBal ← postEntry b id .debit amount .withdrawal
  setAvailable b id newBal

/-- `withdraw`. -/
def withdraw (id : AccountId) (amount : Decimal) : LedgerM Unit := do
  let acct ← getAccount id
  if amount > acct.availableBalance then
    throw (.valueError
      s!"Insufficient available {id.currency}: have {acct.availableBalance}, need {amount}")
  else transaction (postWithdrawal b id amount)

/-- `quantize(Decimal("0.00000001"), rounding=ROUND_DOWN)`. -/
def quantizeDown (x : Decimal) : Decimal :=
  (toIntegralDown (x * 10 ^ numericPlaces) : Decimal) / 10 ^ numericPlaces

/-- The posting of `convert`: it recomputes what is available in INR. -/
def postConversion (inr usdt : AccountId) (inrAmount usdtReceived : Decimal) : LedgerM Unit := do
  let _ ← postEntry b inr .debit inrAmount .conversionDebit
  let newUsdt ← postEntry b usdt .credit usdtReceived .conversionCredit
  let db ← get
  setAvailable b inr ((db.account inr).ledgerBalance - (db.account inr).lockedBalance)
  setAvailable b usdt newUsdt

/-- `convert` at the ask rate `rate`; the row of `fx_rates` is not read back. -/
def convert (userId : String) (inrAmount rate : Decimal) : LedgerM Decimal :=
  if rate = 0 then throw .divisionByZero
  else do
    let usdtReceived := quantizeDown (inrAmount / rate)
    let acct ← getAccount ⟨userId, "INR"⟩
    ensureAccount ⟨userId, "USDT"⟩
    if inrAmount > acct.availableBalance then
      throw (.valueError
        s!"Insufficient INR: have {acct.availableBalance}, need {inrAmount}")
    else do
      transaction (postConversion b ⟨userId, "INR"⟩ ⟨userId, "USDT"⟩ inrAmount usdtReceived)
      pure usdtReceived

/-- `SET locked_balance = locked_balance + …, available_balance =
available_balance - …`. -/
def lock (id : AccountId) (amount : Decimal) : LedgerM Unit := do
  let db ← get
  let acct := db.account id
  let locked ← ofExcept (b.column (acct.lockedBalance + amount))
  let available ← ofExcept (b.column (acct.availableBalance - amount))
  updateAccount id (fun acct =>
    { acct with lockedBalance := locked, availableBalance := available })

/-- The posting of `reserve_margin`. -/
def postReserve (id : AccountId) (amount : Decimal) : LedgerM Unit := do
  let _ ← postEntry b id .debit amount .marginReserve
  lock b id amount

/-- `reserve_margin`. -/
def reserveMargin (id : AccountId) (amount : Decimal) : LedgerM Unit := do
  let acct ← getAccount id
  if amount > acct.availableBalance then
    throw (.valueError (s!"Insufficient {id.currency} to reserve: "
      ++ s!"available={acct.availableBalance} need={amount}"))
  else transaction (postReserve b id amount)

/-- The posting of `release_margin`: the row is changed as for a reservation of
the opposite amount. -/
def postRelease (id : AccountId) (release : Decimal) : LedgerM Unit := do
  let _ ← postEntry b id .credit release .marginRelease
  lock b id (-release)

/-- `release_margin`. -/
def releaseMargin (id : AccountId) (amount : Decimal) : LedgerM Unit := do
  let acct ← getAccount id
  let release := min amount acct.lockedBalance
  if release ≤ 0 then pure ()
  else transaction (postRelease b id release)

/-- The body that `book_realized_pnl`, `charge_fee` and `book_funding` share:
an entry of `|delta|` and `delta` on top of what is available. -/
def bookDelta (id : AccountId) (delta : Decimal) (credit debit : EventType) : LedgerM Unit :=
  transaction (do
    let _ ← postEntry b id (if delta > 0 then .credit else .debit) |delta|
      (if delta > 0 then credit else debit)
    addAvailable b id delta)

/-- `book_realized_pnl`. -/
def bookRealizedPnl (id : AccountId) (pnl : Decimal) : LedgerM Unit := do
  ensureAccount id
  if pnl = 0 then pure () else bookDelta b id pnl .realizedPnlCredit .realizedPnlDebit

/-- `charge_fee`. -/
def chargeFee (id : AccountId) (fee : Decimal) : LedgerM Unit :=
  if fee ≤ 0 then pure ()
  else do
    ensureAccount id
    bookDelta b id (-fee) .feeDebit .feeDebit

/-- `book_funding`. -/
def bookFunding (id : AccountId) (netAmount : Decimal) : LedgerM Unit :=
  if netAmount = 0 then pure ()
  else do
    ensureAccount id
    bookDelta b id netAmount .fundingCredit .fundingDebit

/-- `recon_adjust`: the entry has already moved the ledger balance, and the
update moves it again. -/
def reconAdjust (id : AccountId) (delta : Decimal) : LedgerM Unit :=
  if delta = 0 then pure ()
  else do
    ensureAccount id
    transaction (do
      let _ ← postEntry b id (if delta > 0 then .credit else .debit) |delta| .reconAdjust
      let db ← get
      let acct := db.account id
      let available ← ofExcept (b.column (acct.availableBalance + delta))
      let ledger ← ofExcept (b.column (acct.ledgerBalance + delta))
      updateAccount id (fun acct =>
        { acct with availableBalance := available, ledgerBalance := ledger }))

/-! ## Checks -/

/-- Credits less debits. -/
def signedTotal (entries : List LedgerEntry) : Decimal :=
  (entries.map (fun e => e.direction.sign * e.amount)).sum

/-- `verify_balance_integrity`. -/
def verifyBalanceIntegrity (id : AccountId) : LedgerM (Bool × Decimal) := do
  let acct ← getAccount id
  let db ← get
  let diff := signedTotal (db.entriesOf id) - acct.ledgerBalance
  pure (diff = 0, diff)

/-- `WalletProjectionService.replay_balance`: the currency is upper-cased before
the account is looked up.  Currency codes are ASCII. -/
def LedgerDb.replayBalance (db : LedgerDb) (id : AccountId) : Decimal :=
  match db.accounts.get? ⟨id.userId, id.currency.toUpper⟩ with
  | none => 0
  | some _ => signedTotal (db.entriesOf ⟨id.userId, id.currency.toUpper⟩)

end Service

/-! ## Sequences of operations -/

/-- A call of the service. -/
inductive LedgerOp where
  | deposit (id : AccountId) (amount : Decimal)
  | withdraw (id : AccountId) (amount : Decimal)
  | convert (userId : String) (inrAmount rate : Decimal)
  | reserveMargin (id : AccountId) (amount : Decimal)
  | releaseMargin (id : AccountId) (amount : Decimal)
  | bookRealizedPnl (id : AccountId) (pnl : Decimal)
  | chargeFee (id : AccountId) (fee : Decimal)
  | bookFunding (id : AccountId) (netAmount : Decimal)
  | reconAdjust (id : AccountId) (delta : Decimal)

/-- Make the call. -/
def LedgerOp.run (b : Backend) : LedgerOp → LedgerM Unit
  | .deposit id amount => CryptoTrader.deposit b id amount
  | .withdraw id amount => CryptoTrader.withdraw b id amount
  | .convert userId inrAmount rate => do
      let _ ← CryptoTrader.convert b userId inrAmount rate
      pure ()
  | .reserveMargin id amount => CryptoTrader.reserveMargin b id amount
  | .releaseMargin id amount => CryptoTrader.releaseMargin b id amount
  | .bookRealizedPnl id pnl => CryptoTrader.bookRealizedPnl b id pnl
  | .chargeFee id fee => CryptoTrader.chargeFee b id fee
  | .bookFunding id netAmount => CryptoTrader.bookFunding b id netAmount
  | .reconAdjust id delta => CryptoTrader.reconAdjust b id delta

/-- The database after the call, whether it returned or raised. -/
def LedgerOp.step (b : Backend) (db : LedgerDb) (op : LedgerOp) : LedgerDb := final (op.run b) db

/-- The amount of a call. -/
def LedgerOp.amount : LedgerOp → Decimal
  | .deposit _ amount | .withdraw _ amount | .convert _ amount _ | .reserveMargin _ amount
  | .releaseMargin _ amount | .bookRealizedPnl _ amount | .chargeFee _ amount
  | .bookFunding _ amount | .reconAdjust _ amount => amount

end CryptoTrader
