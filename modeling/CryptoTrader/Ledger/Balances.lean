import CryptoTrader.Ledger.Integrity

/-!
# What an account can spend

A reservation debits the ledger, so what is available should be the ledger
balance itself and the locked balance what was reserved and not released.
Each call patches the row with an update of its own; `LedgerOp.InStep` says
when these updates agree.
-/

namespace CryptoTrader

open CryptoTrader.Lib

/-! ## Stored values -/

section Columns

variable {b : Backend} {x y a stored sum : Decimal}

/-- A value that a column holds. -/
def Backend.Stored (b : Backend) (x : Decimal) : Prop := b = .postgres → OnGrid numericPlaces x

/-- A number that a column does not round both ways. -/
def Backend.Exact (b : Backend) (x : Decimal) : Prop := b = .postgres → ¬ Halfway numericPlaces x

instance : Decidable (b.Exact x) :=
  inferInstanceAs (Decidable (b = .postgres → ¬ Halfway numericPlaces x))

theorem Backend.stored_zero : b.Stored 0 := fun _ => OnGrid.zero

theorem Backend.Stored.exact (h : b.Stored x) : b.Exact x := fun hb => (h hb).not_halfway

theorem Backend.column_postgres (h : Backend.postgres.column x = .ok y) :
    y = roundTo numericPlaces x := by
  unfold Backend.column at h
  dsimp only at h
  split at h
  · cases h
  · exact (Except.ok.inj h).symm

theorem Backend.column_sqlite (h : Backend.sqlite.column x = .ok y) : y = x :=
  (Except.ok.inj h).symm

theorem Backend.stored_column (h : b.column x = .ok y) : b.Stored y := by
  rintro rfl
  rw [Backend.column_postgres h]
  exact onGrid_roundTo numericPlaces x

/-- What is stored is stored again as it is. -/
theorem Backend.Stored.column (hx : b.Stored x) (h : b.column x = .ok y) : y = x := by
  cases b with
  | sqlite => exact Backend.column_sqlite h
  | postgres => exact Backend.column_onGrid (hx rfl) h

/-- A stored value moved by a number moves by what is stored of it. -/
theorem Backend.column_add (hx : b.Stored x) (ha : b.Exact a) (hstored : b.column a = .ok stored)
    (hsum : b.column (x + a) = .ok sum) : sum = x + stored := by
  cases b with
  | sqlite => rw [Backend.column_sqlite hsum, Backend.column_sqlite hstored]
  | postgres =>
      rw [Backend.column_postgres hsum, Backend.column_postgres hstored]
      exact roundTo_add (hx rfl) (ha rfl)

theorem Backend.column_sub (hx : b.Stored x) (ha : b.Exact a) (hstored : b.column a = .ok stored)
    (hsum : b.column (x - a) = .ok sum) : sum = x - stored := by
  cases b with
  | sqlite => rw [Backend.column_sqlite hsum, Backend.column_sqlite hstored]
  | postgres =>
      rw [Backend.column_postgres hsum, Backend.column_postgres hstored]
      exact roundTo_sub (hx rfl) (ha rfl)

theorem Backend.column_nonneg (hx : 0 ≤ x) (h : b.column x = .ok y) : 0 ≤ y := by
  cases b with
  | sqlite => rwa [Backend.column_sqlite h]
  | postgres =>
      rw [Backend.column_postgres h]
      exact roundTo_nonneg hx

/-- Storing does not pass a stored value. -/
theorem Backend.column_le (hxa : x ≤ a) (ha : b.Stored a) (h : b.column x = .ok y) : y ≤ a := by
  cases b with
  | sqlite => rwa [Backend.column_sqlite h]
  | postgres =>
      rw [Backend.column_postgres h]
      exact roundTo_le hxa (ha rfl)

theorem Backend.le_column (hax : a ≤ x) (ha : b.Stored a) (h : b.column x = .ok y) : a ≤ y := by
  cases b with
  | sqlite => rwa [Backend.column_sqlite h]
  | postgres =>
      rw [Backend.column_postgres h]
      exact le_roundTo hax (ha rfl)

/-- The check on a stored amount is one on the amount. -/
theorem Backend.accepts_of_column (h : b.column x = .ok y) (hy : b.accepts y) : b.accepts x := by
  cases b with
  | sqlite => rfl
  | postgres =>
      have hpos : 0 < y := of_decide_eq_true hy
      refine decide_eq_true ?_
      by_contra hneg
      have hle := Backend.column_le (not_lt.mp hneg) Backend.stored_zero h
      linarith

end Columns

/-! ## Balances in step -/

/-- The total of the entries of one kind. -/
def totalOf (kind : EventType) (entries : List LedgerEntry) : Decimal :=
  ((entries.filter (fun e => e.eventType = kind)).map (fun e => e.amount)).sum

/-- What is available is the ledger balance, and what is locked was reserved
and not released. -/
structure LedgerDb.Spendable (db : LedgerDb) (id : AccountId) : Prop where
  available : (db.account id).availableBalance = (db.account id).ledgerBalance
  locked_nonneg : 0 ≤ (db.account id).lockedBalance
  locked : (db.account id).lockedBalance =
    totalOf .marginReserve (db.entriesOf id) - totalOf .marginRelease (db.entriesOf id)

/-- `reserve_margin` and `release_margin`. -/
def LedgerOp.movesMargin : LedgerOp → Bool
  | .reserveMargin _ _ | .releaseMargin _ _ => true
  | _ => false

/-- A call moves margin within an account, and a negative amount makes nothing
available. -/
structure LedgerOp.Fair (op : LedgerOp) (acct acct' : Account) : Prop where
  held : op.movesMargin →
    acct'.ledgerBalance + acct'.lockedBalance = acct.ledgerBalance + acct.lockedBalance
  spent : op.amount < 0 → acct'.availableBalance ≤ acct.availableBalance

/-- The calls that keep the balances in step.  A withdrawal, a conversion or a
reservation that is let through is not of a negative amount, a conversion finds
no margin locked in INR, margin amounts are not halfway between two stored
numbers, and an adjustment adjusts nothing. -/
def LedgerOp.InStep (b : Backend) (db : LedgerDb) : LedgerOp → Prop
  | .withdraw id amount =>
      amount ≤ (db.account id).availableBalance → b.accepts amount → 0 ≤ amount
  | .convert userId inrAmount _ =>
      inrAmount ≤ (db.account ⟨userId, "INR"⟩).availableBalance → b.accepts inrAmount →
        0 ≤ inrAmount ∧ (db.account ⟨userId, "INR"⟩).lockedBalance = 0
  | .reserveMargin id amount =>
      amount ≤ (db.account id).availableBalance → b.accepts amount → 0 ≤ amount ∧ b.Exact amount
  | .releaseMargin id amount =>
      0 < amount → amount < (db.account id).lockedBalance → b.Exact amount
  | .reconAdjust _ delta => delta = 0
  | _ => True

instance (b : Backend) (db : LedgerDb) : (op : LedgerOp) → Decidable (op.InStep b db)
  | .deposit _ _ | .bookRealizedPnl _ _ | .chargeFee _ _ | .bookFunding _ _ => isTrue trivial
  | .withdraw id amount => inferInstanceAs (Decidable
      (amount ≤ (db.account id).availableBalance → b.accepts amount → 0 ≤ amount))
  | .convert userId inrAmount _ => inferInstanceAs (Decidable
      (inrAmount ≤ (db.account ⟨userId, "INR"⟩).availableBalance → b.accepts inrAmount →
        0 ≤ inrAmount ∧ (db.account ⟨userId, "INR"⟩).lockedBalance = 0))
  | .reserveMargin id amount => inferInstanceAs (Decidable
      (amount ≤ (db.account id).availableBalance → b.accepts amount →
        0 ≤ amount ∧ b.Exact amount))
  | .releaseMargin id amount => inferInstanceAs (Decidable
      (0 < amount → amount < (db.account id).lockedBalance → b.Exact amount))
  | .reconAdjust _ delta => inferInstanceAs (Decidable (delta = 0))

/-! ## One call -/

/-- What an entry adds to the margin that was reserved and not released. -/
def LedgerEntry.held (e : LedgerEntry) : Decimal :=
  if e.eventType = .marginReserve then e.amount
  else if e.eventType = .marginRelease then -e.amount
  else 0

theorem totalOf_append_singleton (kind : EventType) (l : List LedgerEntry) (e : LedgerEntry) :
    totalOf kind (l ++ [e]) = totalOf kind l + if e.eventType = kind then e.amount else 0 := by
  unfold totalOf
  rw [List.filter_append, List.map_append, List.sum_append]
  congr 1
  by_cases hkind : e.eventType = kind
  · rw [if_pos hkind, List.filter_cons_of_pos (by simpa using hkind)]
    exact add_zero e.amount
  · rw [if_neg hkind, List.filter_cons_of_neg (by simpa using hkind)]
    rfl

theorem held_append_singleton (l : List LedgerEntry) (e : LedgerEntry) :
    totalOf .marginReserve (l ++ [e]) - totalOf .marginRelease (l ++ [e]) =
      totalOf .marginReserve l - totalOf .marginRelease l + e.held := by
  rw [totalOf_append_singleton, totalOf_append_singleton]
  unfold LedgerEntry.held
  cases e.eventType with
  | marginReserve =>
      rw [if_pos rfl, if_pos rfl, if_neg (by decide)]
      ring
  | marginRelease =>
      rw [if_neg (by decide), if_pos rfl, if_neg (by decide), if_pos rfl]
      ring
  | _ =>
      rw [if_neg (by decide), if_neg (by decide), if_neg (by decide), if_neg (by decide)]
      ring

theorem LedgerEntry.held_of_eventType {e : LedgerEntry} {kind : EventType} (h : e.eventType = kind)
    (hkind : kind ≠ .marginReserve ∧ kind ≠ .marginRelease) : e.held = 0 := by
  subst h
  unfold LedgerEntry.held
  rw [if_neg hkind.1, if_neg hkind.2]

/-- The balances of an account are in step and stored. -/
structure Account.Level (b : Backend) (acct : Account) : Prop where
  available : acct.availableBalance = acct.ledgerBalance
  locked_nonneg : 0 ≤ acct.lockedBalance
  stored : b.Stored acct.ledgerBalance
  storedLocked : b.Stored acct.lockedBalance

theorem Account.level_zero (b : Backend) : ({} : Account).Level b :=
  ⟨rfl, le_refl 0, Backend.stored_zero, Backend.stored_zero⟩

/-- What a call in step leaves of a level account. -/
structure LedgerOp.Levels (b : Backend) (op : LedgerOp) (e : LedgerEntry) (acct acct' : Account) :
    Prop where
  level : acct'.Level b
  locked : acct'.lockedBalance = acct.lockedBalance + e.held
  fair : op.Fair acct acct'

section Levels

variable {b : Backend} {db : LedgerDb} {id : AccountId} {acct acct' : Account} {op : LedgerOp}
  {e : LedgerEntry} {way : Direction} {value : Decimal} {kind : EventType}

/-- An entry that leaves the locked margin alone. -/
theorem LedgerEntry.Books.levels (h : e.Books b acct way value kind) (hacct : acct.Level b)
    (hkind : kind ≠ .marginReserve ∧ kind ≠ .marginRelease)
    (hledger : acct'.ledgerBalance = e.runningBalance)
    (havailable : acct'.availableBalance = e.runningBalance)
    (hlocked : acct'.lockedBalance = acct.lockedBalance) (hop : op.movesMargin = false)
    (hspent : op.amount < 0 → e.runningBalance ≤ acct.ledgerBalance) : op.Levels b e acct acct' where
  level := by
    refine ⟨havailable.trans hledger.symm, ?_, ?_, ?_⟩
    · rw [hlocked]
      exact hacct.locked_nonneg
    · rw [hledger]
      exact Backend.stored_column h.running
    · rw [hlocked]
      exact hacct.storedLocked
  locked := by
    rw [LedgerEntry.held_of_eventType h.eventType hkind, add_zero]
    exact hlocked
  fair := by
    refine ⟨fun hmoves => ?_, fun hneg => ?_⟩
    · rw [hop] at hmoves
      cases hmoves
    · rw [havailable, hacct.available]
      exact hspent hneg

/-- An entry of a negative delta does not raise the balance. -/
theorem LedgerEntry.Books.running_le (h : e.Books b acct way value kind) (hacct : acct.Level b)
    (hneg : way.sign * value ≤ 0) : e.runningBalance ≤ acct.ledgerBalance :=
  Backend.column_le (by linarith) hacct.stored h.running

/-- The row after a reservation or a release of `value`. -/
theorem LedgerEntry.Books.lock {ledger : Decimal} (h : e.Books b acct way value kind)
    (hacct : acct.Level b) (hexact : b.Exact value) (hheld : e.held = -(way.sign * e.amount))
    (hledger : ledger = e.runningBalance) {locked available : Decimal}
    (hlocked : b.column (acct.lockedBalance - way.sign * value) = .ok locked)
    (havailable : b.column (acct.availableBalance + way.sign * value) = .ok available)
    (hnonneg : 0 ≤ acct.lockedBalance - way.sign * value) (hspent : 0 ≤ op.amount) :
    op.Levels b e acct
      { ledgerBalance := ledger
        availableBalance := available
        lockedBalance := locked } := by
  have hmoved : locked = acct.lockedBalance - way.sign * e.amount ∧
      e.runningBalance = acct.ledgerBalance + way.sign * e.amount := by
    have hrunning := h.running
    cases way with
    | credit =>
        rw [show Direction.credit.sign = 1 from rfl, one_mul] at hlocked hrunning
        rw [show Direction.credit.sign = 1 from rfl, one_mul]
        exact ⟨Backend.column_sub hacct.storedLocked hexact h.amount hlocked,
          Backend.column_add hacct.stored hexact h.amount hrunning⟩
    | debit =>
        rw [show Direction.debit.sign = -1 from rfl, neg_one_mul] at hlocked hrunning
        rw [sub_neg_eq_add] at hlocked
        rw [← sub_eq_add_neg] at hrunning
        rw [show Direction.debit.sign = -1 from rfl, neg_one_mul, sub_neg_eq_add, ← sub_eq_add_neg]
        exact ⟨Backend.column_add hacct.storedLocked hexact h.amount hlocked,
          Backend.column_sub hacct.stored hexact h.amount hrunning⟩
  have hsame : available = e.runningBalance := by
    rw [hacct.available] at havailable
    exact Except.ok.inj (havailable.symm.trans h.running)
  subst hledger
  refine ⟨⟨hsame, Backend.column_nonneg hnonneg hlocked, Backend.stored_column h.running,
    Backend.stored_column hlocked⟩, ?_, ?_, fun hneg => absurd hspent (not_le.mpr hneg)⟩
  · rw [hmoved.1, hheld, sub_eq_add_neg]
  · intro _
    show e.runningBalance + locked = _
    rw [hmoved.1, hmoved.2]
    ring

/-- What a booked delta has to do with the amount of its call. -/
theorem LedgerOp.bookedDelta_neg {delta : Decimal} (hop : op.bookedDelta? = some (id, delta))
    (hneg : op.amount < 0) : delta < 0 := by
  cases op with
  | bookRealizedPnl id' pnl =>
      cases hop
      exact hneg
  | bookFunding id' netAmount =>
      cases hop
      exact hneg
  | chargeFee id' fee =>
      unfold LedgerOp.bookedDelta? at hop
      dsimp only at hop
      have hfee : fee ≤ 0 := le_of_lt hneg
      rw [if_pos hfee] at hop
      cases hop
  | _ => cases hop

theorem LedgerOp.movesMargin_of_bookedDelta {delta : Decimal}
    (hop : op.bookedDelta? = some (id, delta)) : op.movesMargin = false := by
  cases op with
  | reserveMargin id' amount => cases hop
  | releaseMargin id' amount => cases hop
  | _ => rfl

/-- A call in step keeps an account level. -/
theorem LedgerOp.Affects.levels (h : op.Affects b db id e acct') (hop : op.InStep b db)
    (hacct : (db.account id).Level b) : op.Levels b e (db.account id) acct' := by
  cases h with
  | deposit hpos hbooks =>
      exact hbooks.levels hacct (by decide) rfl rfl rfl rfl
        (fun hneg => absurd hpos (not_lt.mpr (le_of_lt hneg)))
  | withdraw hguard hbooks =>
      have hnonneg := hop hguard (Backend.accepts_of_column hbooks.amount hbooks.accepted)
      exact hbooks.levels hacct (by decide) rfl rfl rfl rfl
        (fun hneg => absurd hnonneg (not_le.mpr hneg))
  | convertDebit hid hguard hbooks havailable =>
      subst hid
      obtain ⟨hnonneg, hlocked⟩ :=
        hop hguard (Backend.accepts_of_column hbooks.amount hbooks.accepted)
      rw [hlocked, sub_zero] at havailable
      have hsame := Backend.Stored.column (Backend.stored_column hbooks.running) havailable
      exact hbooks.levels hacct (by decide) rfl hsame rfl rfl
        (fun hneg => absurd hnonneg (not_le.mpr hneg))
  | convertCredit hid hguard hpaid hbooks =>
      obtain ⟨stored, hstored, haccepted⟩ := hpaid
      have hnonneg := (hop hguard (Backend.accepts_of_column hstored haccepted)).1
      exact hbooks.levels hacct (by decide) rfl rfl rfl rfl
        (fun hneg => absurd hnonneg (not_le.mpr hneg))
  | @reserve amount locked available e hguard hbooks hlocked havailable =>
      obtain ⟨hnonneg, hexact⟩ :=
        hop hguard (Backend.accepts_of_column hbooks.amount hbooks.accepted)
      have hheld : e.held = -(Direction.debit.sign * e.amount) := by
        unfold LedgerEntry.held
        rw [if_pos hbooks.eventType]
        show e.amount = -(-1 * e.amount)
        ring
      have hsign : ∀ x : Decimal, Direction.debit.sign * x = -x := neg_one_mul
      have hlocked' : b.column ((db.account id).lockedBalance - Direction.debit.sign * amount) =
          .ok locked := by
        rw [hsign, sub_neg_eq_add]
        exact hlocked
      have havailable' : b.column ((db.account id).availableBalance +
          Direction.debit.sign * amount) = .ok available := by
        rw [hsign, ← sub_eq_add_neg]
        exact havailable
      refine hbooks.lock hacct hexact hheld rfl hlocked' havailable' ?_ hnonneg
      rw [hsign, sub_neg_eq_add]
      exact add_nonneg hacct.locked_nonneg hnonneg
  | @release amount release locked available e hrelease hpos hbooks hlocked havailable =>
      have hle : release ≤ (db.account id).lockedBalance := by
        rw [hrelease]
        exact min_le_right _ _
      have hamount : 0 < amount := by
        rw [hrelease] at hpos
        exact lt_of_lt_of_le hpos (min_le_left _ _)
      have hexact : b.Exact release := by
        by_cases hpart : amount < (db.account id).lockedBalance
        · rw [hrelease, min_eq_left hpart.le]
          exact hop hamount hpart
        · rw [hrelease, min_eq_right (not_lt.mp hpart)]
          exact hacct.storedLocked.exact
      have hsign : ∀ x : Decimal, Direction.credit.sign * x = x := one_mul
      have hheld : e.held = -(Direction.credit.sign * e.amount) := by
        unfold LedgerEntry.held
        rw [if_neg (by rw [hbooks.eventType]; decide), if_pos hbooks.eventType, hsign]
      have hlocked' : b.column ((db.account id).lockedBalance - Direction.credit.sign * release) =
          .ok locked := by
        rw [hsign, sub_eq_add_neg]
        exact hlocked
      have havailable' : b.column ((db.account id).availableBalance +
          Direction.credit.sign * release) = .ok available := by
        rw [hsign, ← sub_neg_eq_add]
        exact havailable
      refine hbooks.lock hacct hexact hheld rfl hlocked' havailable' ?_ hamount.le
      rw [hsign]
      linarith
  | @delta op delta available way kind e hbooked hne hkind hsign hbooks havailable =>
      have hsame : available = e.runningBalance := by
        rw [hacct.available, ← hsign] at havailable
        exact Except.ok.inj (havailable.symm.trans hbooks.running)
      refine hbooks.levels hacct ⟨hkind.1, hkind.2.1⟩ rfl hsame rfl
        (LedgerOp.movesMargin_of_bookedDelta hbooked) (fun hneg => hbooks.running_le hacct ?_)
      rw [hsign]
      exact (LedgerOp.bookedDelta_neg hbooked hneg).le
  | reconAdjust hne hsign hbooks havailable hledger => exact absurd hop hne

end Levels

/-! ## Runs -/

/-- What a run of calls in step keeps true of an account. -/
structure LedgerDb.Reserved (b : Backend) (db : LedgerDb) (id : AccountId) : Prop where
  level : (db.account id).Level b
  locked : (db.account id).lockedBalance =
    totalOf .marginReserve (db.entriesOf id) - totalOf .marginRelease (db.entriesOf id)

theorem LedgerDb.reserved_empty (b : Backend) (id : AccountId) : LedgerDb.empty.Reserved b id :=
  ⟨Account.level_zero b, (sub_self (0 : Decimal)).symm⟩

section Runs

variable {b : Backend} {db : LedgerDb} {id : AccountId} {op : LedgerOp}

/-- A call in step is fair to a level account. -/
theorem LedgerDb.Reserved.fair (h : db.Reserved b id) (hop : op.InStep b db) :
    op.Fair (db.account id) ((op.step b db).account id) := by
  rcases op.step_cases b db id with ⟨hacct, -, -⟩ | ⟨e, haffects, -, -⟩
  · rw [hacct]
    exact ⟨fun _ => rfl, fun _ => le_refl _⟩
  · exact (haffects.levels hop h.level).fair

theorem LedgerDb.Reserved.step (h : db.Reserved b id) (hop : op.InStep b db) :
    (op.step b db).Reserved b id := by
  rcases op.step_cases b db id with ⟨hacct, hentries, -⟩ | ⟨e, haffects, hentries, -⟩
  · refine ⟨?_, ?_⟩
    · rw [hacct]
      exact h.level
    · rw [hacct, hentries]
      exact h.locked
  · have hlevels := haffects.levels hop h.level
    refine ⟨hlevels.level, ?_⟩
    rw [hentries, held_append_singleton, hlevels.locked, h.locked]

theorem LedgerDb.reserved_of_reaches (h : Reaches (LedgerOp.step b) (LedgerOp.InStep b) .empty db)
    (id : AccountId) : db.Reserved b id := by
  induction h with
  | start => exact LedgerDb.reserved_empty b id
  | step _ hop ih => exact ih.step hop

end Runs

/-- A rupee account. -/
def demoRupees : AccountId := ⟨"default", "INR"⟩

/-- A conversion while margin is reserved in INR. -/
def demoConversion : List LedgerOp :=
  [.deposit demoRupees 100, .reserveMargin demoRupees 60, .convert "default" 10 80]

end CryptoTrader
