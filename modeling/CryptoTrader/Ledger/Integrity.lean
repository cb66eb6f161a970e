import CryptoTrader.Lib.Run
import CryptoTrader.Ledger.Effects

/-!
# Stored balances and their entries

Every call moves the ledger balance by the entry it posts, except
`recon_adjust`, which moves it twice.  So the stored balance is the total of
the entries plus the total of the adjustments, and the account passes its
integrity checks exactly when no adjustment is left over.
-/

namespace CryptoTrader

open CryptoTrader.Lib

/-! ## Columns and the grid -/

/-- A number with the decimals of the column is stored as it is. -/
theorem Backend.column_onGrid {b : Backend} {x y : Decimal} (hx : OnGrid numericPlaces x)
    (h : b.column x = .ok y) : y = x := by
  cases b with
  | sqlite => exact (Except.ok.inj h).symm
  | postgres =>
      unfold Backend.column at h
      dsimp only at h
      split at h
      · cases h
      · rw [← Except.ok.inj h]
        exact roundTo_of_onGrid hx

theorem Direction.onGrid_sign_mul {way : Direction} {x : Decimal} (hx : OnGrid numericPlaces x) :
    OnGrid numericPlaces (way.sign * x) := by
  cases way with
  | credit =>
      show OnGrid numericPlaces (1 * x)
      rwa [one_mul]
  | debit =>
      show OnGrid numericPlaces (-1 * x)
      rw [neg_one_mul]
      exact hx.neg

theorem onGrid_abs {x : Decimal} (hx : OnGrid numericPlaces x) : OnGrid numericPlaces |x| := by
  by_cases hnonneg : 0 ≤ x
  · rwa [abs_of_nonneg hnonneg]
  · rw [abs_of_neg (not_le.mp hnonneg)]
    exact hx.neg

/-- What an entry moves its account by. -/
def LedgerEntry.signed (e : LedgerEntry) : Decimal := e.direction.sign * e.amount

theorem LedgerEntry.Books.exact {e : LedgerEntry} {b : Backend} {acct : Account} {way : Direction}
    {value : Decimal} {kind : EventType} (h : e.Books b acct way value kind)
    (hvalue : OnGrid numericPlaces value) (hledger : OnGrid numericPlaces acct.ledgerBalance) :
    e.signed = way.sign * value ∧ e.runningBalance = acct.ledgerBalance + e.signed := by
  have hamount : e.amount = value := Backend.column_onGrid hvalue h.amount
  have hsigned : e.signed = way.sign * value := by
    unfold LedgerEntry.signed
    rw [hamount, h.direction]
  refine ⟨hsigned, ?_⟩
  rw [hsigned]
  exact Backend.column_onGrid (hledger.add (Direction.onGrid_sign_mul hvalue)) h.running

/-! ## What a call posts -/

/-- The row after the entry `e`: the ledger balance has moved by it, for an
adjustment twice. -/
structure LedgerEntry.Moves (e : LedgerEntry) (acct acct' : Account) : Prop where
  running : e.runningBalance = acct.ledgerBalance + e.signed
  ledger : acct'.ledgerBalance =
    e.runningBalance + (if e.eventType = .reconAdjust then e.signed else 0)
  adjusts : e.eventType = .reconAdjust → e.signed ≠ 0

/-- The numbers of a row have at most eight decimals, less what is available. -/
structure Account.Gridded (acct : Account) : Prop where
  ledger : OnGrid numericPlaces acct.ledgerBalance
  locked : OnGrid numericPlaces acct.lockedBalance

theorem Account.gridded_zero : ({} : Account).Gridded := ⟨OnGrid.zero, OnGrid.zero⟩

theorem LedgerOp.bookedDelta_onGrid {op : LedgerOp} {id : AccountId} {delta : Decimal}
    (hop : op.bookedDelta? = some (id, delta)) (hamount : OnGrid numericPlaces op.amount) :
    OnGrid numericPlaces delta := by
  cases op with
  | bookRealizedPnl id' pnl =>
      cases hop
      exact hamount
  | bookFunding id' netAmount =>
      cases hop
      exact hamount
  | chargeFee id' fee =>
      unfold LedgerOp.bookedDelta? at hop
      dsimp only at hop
      split at hop
      · cases hop
      · cases hop
        exact hamount.neg
  | _ => cases hop

/-- An ordinary entry of a number on the grid. -/
theorem LedgerEntry.Books.moves {e : LedgerEntry} {b : Backend} {acct acct' : Account}
    {way : Direction} {value : Decimal} {kind : EventType} (h : e.Books b acct way value kind)
    (hvalue : OnGrid numericPlaces value) (hledger : OnGrid numericPlaces acct.ledgerBalance)
    (hkind : kind ≠ .reconAdjust) (hafter : acct'.ledgerBalance = e.runningBalance)
    (hlocked : OnGrid numericPlaces acct'.lockedBalance) : e.Moves acct acct' ∧ acct'.Gridded := by
  obtain ⟨hsigned, hrunning⟩ := h.exact hvalue hledger
  have hordinary : e.eventType ≠ .reconAdjust := by
    rw [h.eventType]
    exact hkind
  refine ⟨⟨hrunning, ?_, fun heq => absurd heq hordinary⟩, ?_, hlocked⟩
  · rw [if_neg hordinary, add_zero]
    exact hafter
  · rw [hafter, hrunning, hsigned]
    exact hledger.add (Direction.onGrid_sign_mul hvalue)

/-- Calls with amounts of at most eight decimals. -/
theorem LedgerOp.Affects.moves {b : Backend} {db : LedgerDb} {id : AccountId} {acct' : Account}
    {op : LedgerOp} {e : LedgerEntry} (h : op.Affects b db id e acct')
    (hamount : OnGrid numericPlaces op.amount) (hacct : (db.account id).Gridded) :
    e.Moves (db.account id) acct' ∧ acct'.Gridded := by
  cases h with
  | deposit hpos hbooks =>
      exact hbooks.moves hamount hacct.ledger (by decide) rfl hacct.locked
  | withdraw hguard hbooks =>
      exact hbooks.moves hamount hacct.ledger (by decide) rfl hacct.locked
  | convertDebit hid hguard hbooks havailable =>
      exact hbooks.moves hamount hacct.ledger (by decide) rfl hacct.locked
  | convertCredit hid hguard hpaid hbooks =>
      exact hbooks.moves (onGrid_intCast_div _) hacct.ledger (by decide) rfl hacct.locked
  | reserve hguard hbooks hlocked havailable =>
      have hsum := hacct.locked.add hamount
      rw [← Backend.column_onGrid hsum hlocked] at hsum
      exact hbooks.moves hamount hacct.ledger (by decide) rfl hsum
  | @release amount release locked available e hrelease hpos hbooks hlocked havailable =>
      have hgrid : OnGrid numericPlaces release := by
        rw [hrelease]
        rcases min_choice amount (db.account id).lockedBalance with hmin | hmin
        · rw [hmin]
          exact hamount
        · rw [hmin]
          exact hacct.locked
      have hsum := hacct.locked.add hgrid.neg
      rw [← Backend.column_onGrid hsum hlocked] at hsum
      exact hbooks.moves hgrid hacct.ledger (by decide) rfl hsum
  | delta hop hne hkind hsign hbooks havailable =>
      have hdelta := onGrid_abs (LedgerOp.bookedDelta_onGrid hop hamount)
      exact hbooks.moves hdelta hacct.ledger hkind.2.2 rfl hacct.locked
  | reconAdjust hne hsign hbooks havailable hledger =>
      obtain ⟨hsigned, hrunning⟩ := hbooks.exact (onGrid_abs hamount) hacct.ledger
      rw [hsign] at hsigned
      have hsum : OnGrid numericPlaces (e.runningBalance + e.signed) := by
        rw [hrunning, hsigned]
        exact (hacct.ledger.add hamount).add hamount
      rw [← hsigned] at hledger hne
      have hafter := Backend.column_onGrid hsum hledger
      refine ⟨⟨hrunning, ?_, fun _ => hne⟩, ?_, hacct.locked⟩
      · rw [if_pos hbooks.eventType]
        exact hafter
      · rw [hafter]
        exact hsum

/-! ## Runs -/

/-- The adjustments of an account. -/
def LedgerDb.adjustmentsOf (db : LedgerDb) (id : AccountId) : List LedgerEntry :=
  (db.entriesOf id).filter (fun e => e.eventType = .reconAdjust)

@[simp] theorem signedTotal_append (l l' : List LedgerEntry) :
    signedTotal (l ++ l') = signedTotal l + signedTotal l' := by
  unfold signedTotal
  rw [List.map_append, List.sum_append]

theorem signedTotal_singleton (e : LedgerEntry) : signedTotal [e] = e.signed := by
  show e.signed + 0 = e.signed
  rw [add_zero]

/-- What a run keeps true of an account. -/
structure LedgerDb.Tallied (db : LedgerDb) (id : AccountId) : Prop where
  gridded : (db.account id).Gridded
  ledger : (db.account id).ledgerBalance =
    signedTotal (db.entriesOf id) + signedTotal (db.adjustmentsOf id)
  last : ∀ e, (db.entriesOf id).getLast? = some e → ∃ acct, e.Moves acct (db.account id)
  row : db.entriesOf id ≠ [] → db.Has id

theorem LedgerDb.tallied_empty (id : AccountId) : LedgerDb.empty.Tallied id where
  gridded := Account.gridded_zero
  ledger := (add_zero (0 : Decimal)).symm
  last := fun e he => by cases he
  row := fun h => absurd rfl h

theorem LedgerDb.Tallied.step {db : LedgerDb} {id : AccountId} (h : db.Tallied id) (b : Backend)
    {op : LedgerOp} (hamount : OnGrid numericPlaces op.amount) : (op.step b db).Tallied id := by
  rcases op.step_cases b db id with ⟨hacct, hentries, hrow⟩ | ⟨e, haffects, hentries, hrow⟩
  · have hadjustments : (op.step b db).adjustmentsOf id = db.adjustmentsOf id := by
      unfold LedgerDb.adjustmentsOf
      rw [hentries]
    refine ⟨?_, ?_, ?_, ?_⟩
    · rw [hacct]
      exact h.gridded
    · rw [hacct, hentries, hadjustments]
      exact h.ledger
    · rw [hacct, hentries]
      exact h.last
    · rw [hentries]
      exact fun hne => hrow (h.row hne)
  · obtain ⟨hmoves, hgridded⟩ := haffects.moves hamount h.gridded
    refine ⟨hgridded, ?_, ?_, fun _ => hrow⟩
    · have hadjustments : signedTotal ((op.step b db).adjustmentsOf id) =
          signedTotal (db.adjustmentsOf id) +
            (if e.eventType = .reconAdjust then e.signed else 0) := by
        unfold LedgerDb.adjustmentsOf
        rw [hentries, List.filter_append, signedTotal_append]
        congr 1
        by_cases hadjust : e.eventType = .reconAdjust
        · rw [if_pos hadjust, List.filter_cons_of_pos (by simpa using hadjust)]
          exact signedTotal_singleton e
        · rw [if_neg hadjust, List.filter_cons_of_neg (by simpa using hadjust)]
          rfl
      rw [hadjustments, hentries, signedTotal_append, signedTotal_singleton, hmoves.ledger,
        hmoves.running, h.ledger]
      ring
    · intro e' he'
      rw [hentries, List.getLast?_concat] at he'
      cases he'
      exact ⟨_, hmoves⟩

theorem LedgerDb.tallied_of_reaches {b : Backend} {db : LedgerDb}
    (h : Reaches (LedgerOp.step b) (fun _ op => OnGrid numericPlaces op.amount) .empty db)
    (id : AccountId) : db.Tallied id := by
  induction h with
  | start => exact LedgerDb.tallied_empty id
  | step _ hamount ih => exact ih.step b hamount

/-! ## Integrity -/

/-- The stored balance agrees with the entries in each way the service and the
projection check it. -/
structure LedgerDb.Integral (db : LedgerDb) (id : AccountId) : Prop where
  total : (db.account id).ledgerBalance = signedTotal (db.entriesOf id)
  running : ∀ e, (db.entriesOf id).getLast? = some e →
    (db.account id).ledgerBalance = e.runningBalance
  replay : (db.account id).ledgerBalance = db.replayBalance id
  verified : ∃ db', verifyBalanceIntegrity id db = .ok (true, 0) db'

/-- The account that `replay_balance` reads. -/
def AccountId.upper (id : AccountId) : AccountId := ⟨id.userId, id.currency.toUpper⟩

/-- No adjustment is left over, and `replay_balance` reads entries of the same
total. -/
structure LedgerDb.Unadjusted (db : LedgerDb) (id : AccountId) : Prop where
  adjustments : signedTotal (db.adjustmentsOf id) = 0
  last : ∀ e, (db.entriesOf id).getLast? = some e → e.eventType ≠ .reconAdjust
  replayed : signedTotal (db.entriesOf id.upper) = signedTotal (db.entriesOf id)

theorem LedgerDb.Tallied.replayBalance_eq {db : LedgerDb} {id : AccountId}
    (h : db.Tallied id.upper) : db.replayBalance id = signedTotal (db.entriesOf id.upper) := by
  unfold LedgerDb.replayBalance
  cases hrow : db.accounts.get? ⟨id.userId, id.currency.toUpper⟩ with
  | some acct => rfl
  | none =>
      have hempty : db.entriesOf id.upper = [] := by
        by_contra hne
        have hhas := h.row hne
        unfold LedgerDb.Has AccountId.upper at hhas
        rw [hrow] at hhas
        cases hhas
      rw [hempty]
      rfl

theorem verifyBalanceIntegrity_eq (db : LedgerDb) (id : AccountId) :
    verifyBalanceIntegrity id db =
      .ok (signedTotal (db.entriesOf id) - (db.account id).ledgerBalance = 0,
        signedTotal (db.entriesOf id) - (db.account id).ledgerBalance) (db.ensure id) := by
  show EStateM.Result.ok
    (decide (signedTotal ((db.ensure id).entriesOf id) - ((db.ensure id).account id).ledgerBalance = 0),
      signedTotal ((db.ensure id).entriesOf id) - ((db.ensure id).account id).ledgerBalance)
    (db.ensure id) = _
  rw [LedgerDb.entriesOf_ensure, LedgerDb.account_ensure]

/-- A settlement account. -/
def demoAccount : AccountId := ⟨"default", "USDT"⟩

/-- A deposit, margin held for a trade and given back, its result and its
fee. -/
def demoCalls : List LedgerOp :=
  [.deposit demoAccount 100, .reserveMargin demoAccount 40, .releaseMargin demoAccount 40,
    .bookRealizedPnl demoAccount 5, .chargeFee demoAccount 1]

/-- A deposit followed by an adjustment. -/
def demoAdjusted : List LedgerOp := [.deposit demoAccount 100, .reconAdjust demoAccount 5]

end CryptoTrader
