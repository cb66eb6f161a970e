import CryptoTrader.Ledger.Balances

/-!
# Concurrent calls

A withdrawal, a conversion, a reservation or a release reads its account in
one transaction and posts in another.  Each transaction is atomic, since a
posting holds the row it changes, and the transactions of different calls
interleave: when a call posts, the balance it has read may be gone.
-/

namespace CryptoTrader

open CryptoTrader.Lib

/-- What a call posts once its check has passed. -/
inductive Posting where
  | withdrawal (id : AccountId) (amount : Decimal)
  | conversion (userId : String) (inrAmount usdtReceived : Decimal)
  | reserve (id : AccountId) (amount : Decimal)
  | release (id : AccountId) (amount : Decimal)

/-- The posting transaction. -/
def Posting.post (b : Backend) : Posting → LedgerM Unit
  | .withdrawal id amount => transaction (postWithdrawal b id amount)
  | .conversion userId inrAmount usdtReceived =>
      transaction (postConversion b ⟨userId, "INR"⟩ ⟨userId, "USDT"⟩ inrAmount usdtReceived)
  | .reserve id amount => transaction (postReserve b id amount)
  | .release id amount => transaction (postRelease b id amount)

/-- The calls that read before they post. -/
inductive GuardedCall where
  | withdraw (id : AccountId) (amount : Decimal)
  | convert (userId : String) (inrAmount rate : Decimal)
  | reserveMargin (id : AccountId) (amount : Decimal)
  | releaseMargin (id : AccountId) (amount : Decimal)

/-- The call as one of the service. -/
def GuardedCall.op : GuardedCall → LedgerOp
  | .withdraw id amount => .withdraw id amount
  | .convert userId inrAmount rate => .convert userId inrAmount rate
  | .reserveMargin id amount => .reserveMargin id amount
  | .releaseMargin id amount => .releaseMargin id amount

/-- What a call does before it posts. -/
def GuardedCall.read : GuardedCall → LedgerM (Option Posting)
  | .withdraw id amount => do
      let acct ← getAccount id
      if amount > acct.availableBalance then
        throw (.valueError
          s!"Insufficient available {id.currency}: have {acct.availableBalance}, need {amount}")
      else pure (some (.withdrawal id amount))
  | .convert userId inrAmount rate =>
      if rate = 0 then throw .divisionByZero
      else do
        let acct ← getAccount ⟨userId, "INR"⟩
        ensureAccount ⟨userId, "USDT"⟩
        if inrAmount > acct.availableBalance then
          throw (.valueError
            s!"Insufficient INR: have {acct.availableBalance}, need {inrAmount}")
        else pure (some (.conversion userId inrAmount (quantizeDown (inrAmount / rate))))
  | .reserveMargin id amount => do
      let acct ← getAccount id
      if amount > acct.availableBalance then
        throw (.valueError (s!"Insufficient {id.currency} to reserve: "
          ++ s!"available={acct.availableBalance} need={amount}"))
      else pure (some (.reserve id amount))
  | .releaseMargin id amount => do
      let acct ← getAccount id
      if min amount acct.lockedBalance ≤ 0 then pure none
      else pure (some (.release id (min amount acct.lockedBalance)))

/-- Go on with what was read. -/
def postIfAny (b : Backend) : Option Posting → LedgerM Unit
  | none => pure ()
  | some p => p.post b

/-- A branch on the way to a value is a branch of the whole. -/
theorem ite_bind {ε σ α β : Type} {c : Prop} [Decidable c] (m m' : EStateM ε σ α)
    (f : α → EStateM ε σ β) : (if c then m else m') >>= f = if c then m >>= f else m' >>= f := by
  split
  · rfl
  · rfl

/-- Without interleaving a call is what it reads followed by what it posts. -/
theorem GuardedCall.run_eq_read_post (b : Backend) (call : GuardedCall) :
    call.op.run b = call.read >>= postIfAny b := by
  cases call with
  | withdraw id amount =>
      show CryptoTrader.withdraw b id amount = (getAccount id >>= fun acct => _) >>= postIfAny b
      unfold CryptoTrader.withdraw
      rw [bind_assoc]
      congr 1
      funext acct
      rw [ite_bind]
      rfl
  | convert userId inrAmount rate =>
      show (CryptoTrader.convert b userId inrAmount rate >>= fun _ => pure ()) =
        (if rate = 0 then _ else _) >>= postIfAny b
      unfold CryptoTrader.convert
      rw [ite_bind, ite_bind]
      congr 1
      rw [bind_assoc, bind_assoc]
      congr 1
      funext acct
      rw [bind_assoc, bind_assoc]
      congr 1
      funext _
      rw [ite_bind, ite_bind]
      congr 1
      rw [bind_assoc]
      exact bind_pure_unit
  | reserveMargin id amount =>
      show CryptoTrader.reserveMargin b id amount =
        (getAccount id >>= fun acct => _) >>= postIfAny b
      unfold CryptoTrader.reserveMargin
      rw [bind_assoc]
      congr 1
      funext acct
      rw [ite_bind]
      rfl
  | releaseMargin id amount =>
      show CryptoTrader.releaseMargin b id amount =
        (getAccount id >>= fun acct => _) >>= postIfAny b
      unfold CryptoTrader.releaseMargin
      rw [bind_assoc]
      congr 1
      funext acct
      rw [ite_bind]
      rfl

/-! ## What a posting leaves -/

/-- The margin and the available balance of an account are covered. -/
structure LedgerDb.Covered (db : LedgerDb) (id : AccountId) : Prop where
  locked_nonneg : 0 ≤ (db.account id).lockedBalance
  available_nonneg : 0 ≤ (db.account id).availableBalance
  released_le : totalOf .marginRelease (db.entriesOf id) ≤ totalOf .marginReserve (db.entriesOf id)

/-- What is locked was reserved and not released, and nothing is below zero. -/
structure LedgerDb.Counted (b : Backend) (db : LedgerDb) (id : AccountId) : Prop where
  locked_nonneg : 0 ≤ (db.account id).lockedBalance
  available_nonneg : 0 ≤ (db.account id).availableBalance
  locked : (db.account id).lockedBalance =
    totalOf .marginReserve (db.entriesOf id) - totalOf .marginRelease (db.entriesOf id)
  stored : b.Stored (db.account id).lockedBalance

section Counted

variable {b : Backend} {db db' : LedgerDb} {id : AccountId}

theorem LedgerDb.Counted.covered (h : db.Counted b id) : db.Covered id where
  locked_nonneg := h.locked_nonneg
  available_nonneg := h.available_nonneg
  released_le := by
    have hnonneg := h.locked_nonneg
    rw [h.locked] at hnonneg
    linarith

theorem LedgerDb.Counted.of_eq (h : db.Counted b id) (hacct : db'.account id = db.account id)
    (hentries : db'.entriesOf id = db.entriesOf id) : db'.Counted b id := by
  refine ⟨?_, ?_, ?_, ?_⟩
  · rw [hacct]
    exact h.locked_nonneg
  · rw [hacct]
    exact h.available_nonneg
  · rw [hacct, hentries]
    exact h.locked
  · rw [hacct]
    exact h.stored

/-- An account with one entry more. -/
theorem LedgerDb.Counted.book {e : LedgerEntry} {acct : Account} (h : db.Counted b id)
    (hentries : db'.entriesOf id = db.entriesOf id ++ [e]) (hacct : db'.account id = acct)
    (hlocked : acct.lockedBalance = (db.account id).lockedBalance + e.held)
    (hlocked_nonneg : 0 ≤ acct.lockedBalance) (havailable : 0 ≤ acct.availableBalance)
    (hstored : b.Stored acct.lockedBalance) : db'.Counted b id := by
  subst hacct
  refine ⟨hlocked_nonneg, havailable, ?_, hstored⟩
  rw [hentries, held_append_singleton, hlocked, h.locked]

end Counted

/-- The accounts that a posting changes. -/
def Posting.accounts : Posting → List AccountId
  | .withdrawal id _ | .reserve id _ | .release id _ => [id]
  | .conversion userId _ _ => [⟨userId, "INR"⟩, ⟨userId, "USDT"⟩]

/-- What was read still covers what is posted: margin that is released is
locked, margin that is reserved is available unless the ledger refuses it, and
a conversion leaves the locked margin in INR. -/
def Posting.Timely (b : Backend) (db : LedgerDb) (id : AccountId) : Posting → Prop
  | .withdrawal _ _ => True
  | .conversion userId inrAmount _ => id = ⟨userId, "INR"⟩ →
      inrAmount ≤ (db.account id).ledgerBalance →
        inrAmount + (db.account id).lockedBalance ≤ (db.account id).ledgerBalance
  | .reserve id' amount => id = id' → amount ≤ (db.account id).ledgerBalance → b.accepts amount →
      -(db.account id).lockedBalance ≤ amount ∧ amount ≤ (db.account id).availableBalance
  | .release id' amount => id = id' → amount ≤ (db.account id).lockedBalance ∧
      (amount < (db.account id).lockedBalance → b.Exact amount)

instance (b : Backend) (db : LedgerDb) (id : AccountId) : (p : Posting) → Decidable (p.Timely b db id)
  | .withdrawal _ _ => isTrue trivial
  | .conversion userId inrAmount _ => inferInstanceAs (Decidable (id = ⟨userId, "INR"⟩ →
      inrAmount ≤ (db.account id).ledgerBalance →
        inrAmount + (db.account id).lockedBalance ≤ (db.account id).ledgerBalance))
  | .reserve id' amount => inferInstanceAs (Decidable (id = id' →
      amount ≤ (db.account id).ledgerBalance → b.accepts amount →
        -(db.account id).lockedBalance ≤ amount ∧ amount ≤ (db.account id).availableBalance))
  | .release id' amount => inferInstanceAs (Decidable (id = id' →
      amount ≤ (db.account id).lockedBalance ∧
        (amount < (db.account id).lockedBalance → b.Exact amount)))

/-- A posting that the service makes: it releases something. -/
def Posting.Genuine : Posting → Prop
  | .release _ amount => 0 < amount
  | _ => True

/-! ## One posting -/

/-- What a posting leaves of an account that was covered. -/
structure LedgerEntry.Covers (b : Backend) (e : LedgerEntry) (acct acct' : Account) : Prop where
  locked : acct'.lockedBalance = acct.lockedBalance + e.held
  locked_nonneg : 0 ≤ acct'.lockedBalance
  available_nonneg : 0 ≤ acct'.availableBalance
  stored : b.Stored acct'.lockedBalance

section Post

variable {b : Backend} {db : LedgerDb} {id : AccountId} {e : LedgerEntry}

theorem LedgerDb.Counted.post (h : db.Counted b id) (hhas : db.Has e.account)
    {f : Account → Account} (hcovers : id = e.account → e.Covers b (db.account id)
      (f { db.account id with ledgerBalance := e.runningBalance })) :
    ((db.post e).update e.account f).Counted b id := by
  by_cases hid : id = e.account
  · subst hid
    have hcovers := hcovers rfl
    refine h.book ?_ (LedgerDb.account_book_self hhas f) hcovers.locked hcovers.locked_nonneg
      hcovers.available_nonneg hcovers.stored
    rw [LedgerDb.entriesOf_update, LedgerDb.entriesOf_post_self]
  · refine h.of_eq ?_ ?_
    · rw [LedgerDb.account_update_ne (Ne.symm hid), LedgerDb.account_post_ne (Ne.symm hid)]
    · rw [LedgerDb.entriesOf_update, LedgerDb.entriesOf_post_ne (Ne.symm hid)]

/-- The ledger balance that an entry may not overdraw. -/
theorem LedgerEntry.Books.running_nonneg {acct : Account} {way : Direction} {value : Decimal}
    {kind : EventType} (h : e.Books b acct way value kind) (hkind : kind.mayOverdraw = false) :
    0 ≤ e.runningBalance := by
  rcases h.guarded with hnonneg | hoverdraw
  · exact Backend.column_nonneg hnonneg h.running
  · rw [hkind] at hoverdraw
    cases hoverdraw

/-- The row after an entry that sets what is available to its running
balance. -/
theorem LedgerEntry.Books.covers {way : Direction} {value : Decimal} {kind : EventType}
    (h : e.Books b (db.account id) way value kind) (hcounted : db.Counted b id)
    (hkind : kind ≠ .marginReserve ∧ kind ≠ .marginRelease) {acct' : Account}
    (hlocked : acct'.lockedBalance = (db.account id).lockedBalance)
    (havailable : 0 ≤ acct'.availableBalance) : e.Covers b (db.account id) acct' where
  locked := by
    rw [LedgerEntry.held_of_eventType h.eventType hkind, add_zero]
    exact hlocked
  locked_nonneg := by
    rw [hlocked]
    exact hcounted.locked_nonneg
  available_nonneg := havailable
  stored := by
    rw [hlocked]
    exact hcounted.stored

/-- Margin reserved on top of what is locked. -/
theorem Backend.column_reserve {x a stored sum : Decimal} (hx : b.Stored x) (hxnonneg : 0 ≤ x)
    (haccepts : b.accepts a) (hstored : b.column a = .ok stored)
    (hsum : b.column (x + a) = .ok sum) : sum = x + stored := by
  cases b with
  | sqlite => rw [Backend.column_sqlite hsum, Backend.column_sqlite hstored]
  | postgres =>
      rw [Backend.column_postgres hsum, Backend.column_postgres hstored]
      have hpos : 0 < a := of_decide_eq_true haccepts
      exact roundTo_add_of_nonneg (hx rfl) hxnonneg hpos.le

/-- A posting whose reading still holds. -/
theorem Posting.post_counted {p : Posting} (hgenuine : p.Genuine)
    (hhas : ∀ id' ∈ p.accounts, db.Has id') (htimely : p.Timely b db id)
    (hcounted : db.Counted b id) :
    wp (p.post b) (fun _ db' => db'.Counted b id ∧ ∀ id', db.Has id' → db'.Has id')
      (fun _ db' => db' = db) db := by
  cases p with
  | withdrawal id' amount =>
      unfold Posting.post
      rw [wp_transaction]
      refine wp_mono (postAndSet_wp b id' db .debit amount .withdrawal) ?_ (fun _ _ _ => rfl)
      rintro - db' ⟨e, rfl, hbooks, rfl⟩
      refine ⟨hcounted.post (hhas _ (by simp [Posting.accounts])) ?_,
        fun _ hrow => (hrow.post e).update _⟩
      rintro rfl
      exact hbooks.covers hcounted (by decide) rfl (hbooks.running_nonneg rfl)
  | reserve id' amount =>
      unfold Posting.post
      rw [wp_transaction]
      refine wp_mono (postAndLock_wp b id' db .debit amount amount .marginReserve) ?_
        (fun _ _ _ => rfl)
      rintro - db' ⟨e, locked, available, rfl, hbooks, hlocked, havailable, rfl⟩
      refine ⟨hcounted.post (hhas _ (by simp [Posting.accounts])) ?_,
        fun _ hrow => (hrow.post e).update _⟩
      rintro rfl
      have haccepts := Backend.accepts_of_column hbooks.amount hbooks.accepted
      have hledger : amount ≤ (db.account e.account).ledgerBalance := by
        rcases hbooks.guarded with hnonneg | hoverdraw
        · rw [show Direction.debit.sign = -1 from rfl] at hnonneg
          linarith
        · cases hoverdraw
      obtain ⟨hlow, hhigh⟩ := htimely rfl hledger haccepts
      have hsum := Backend.column_reserve hcounted.stored hcounted.locked_nonneg haccepts
        hbooks.amount hlocked
      refine ⟨?_, Backend.column_nonneg (by linarith) hlocked,
        Backend.column_nonneg (by linarith) havailable, Backend.stored_column hlocked⟩
      unfold LedgerEntry.held
      rw [if_pos hbooks.eventType]
      exact hsum
  | release id' amount =>
      unfold Posting.post
      rw [wp_transaction]
      refine wp_mono (postAndLock_wp b id' db .credit amount (-amount) .marginRelease) ?_
        (fun _ _ _ => rfl)
      rintro - db' ⟨e, locked, available, rfl, hbooks, hlocked, havailable, rfl⟩
      refine ⟨hcounted.post (hhas _ (by simp [Posting.accounts])) ?_,
        fun _ hrow => (hrow.post e).update _⟩
      rintro rfl
      obtain ⟨hle, hexact⟩ := htimely rfl
      have hpos : 0 < amount := hgenuine
      rw [← sub_eq_add_neg] at hlocked
      rw [sub_neg_eq_add] at havailable
      have hstored : b.Exact amount := by
        rcases lt_or_eq_of_le hle with hpart | hall
        · exact hexact hpart
        · rw [hall]
          exact hcounted.stored.exact
      have hdiff := Backend.column_sub hcounted.stored hstored hbooks.amount hlocked
      have havailable_nonneg := hcounted.available_nonneg
      refine ⟨?_, Backend.column_nonneg (by linarith) hlocked,
        Backend.column_nonneg (by linarith) havailable, Backend.stored_column hlocked⟩
      unfold LedgerEntry.held
      rw [if_neg (by rw [hbooks.eventType]; decide), if_pos hbooks.eventType, ← sub_eq_add_neg]
      exact hdiff
  | conversion userId inrAmount usdtReceived =>
      have hinr : db.Has ⟨userId, "INR"⟩ := hhas _ (by simp [Posting.accounts])
      have husdt : db.Has ⟨userId, "USDT"⟩ := hhas _ (by simp [Posting.accounts])
      unfold Posting.post
      rw [wp_transaction]
      refine wp_mono (postConversion_wp b db _ _ (by simp) inrAmount usdtReceived hinr) ?_
        (fun _ _ _ => rfl)
      rintro - db' ⟨e₁, e₂, available, he₁, he₂, hbooks₁, hbooks₂, havailable, rfl⟩
      have hne : e₁.account ≠ e₂.account := by
        rw [he₁, he₂]
        simp
      refine ⟨?_, fun _ hrow => hrow.postBoth _ _⟩
      by_cases hidInr : id = e₁.account
      · subst hidInr
        rw [← he₁] at hbooks₁ havailable hinr
        refine hcounted.book (LedgerDb.entriesOf_postBoth_fst hne _ _)
          (LedgerDb.account_postBoth_fst hne _ _ hinr) ?_ hcounted.locked_nonneg ?_ hcounted.stored
        · rw [LedgerEntry.held_of_eventType hbooks₁.eventType (by decide)]
          exact (add_zero _).symm
        · have hledger : inrAmount ≤ (db.account e₁.account).ledgerBalance := by
            rcases hbooks₁.guarded with hnonneg | hoverdraw
            · rw [show Direction.debit.sign = -1 from rfl] at hnonneg
              linarith
            · cases hoverdraw
          have hleft := htimely he₁ hledger
          have hrunning := hbooks₁.running
          rw [show Direction.debit.sign = -1 from rfl, neg_one_mul, ← sub_eq_add_neg] at hrunning
          have hlocked : (db.account e₁.account).lockedBalance ≤ e₁.runningBalance :=
            Backend.le_column (by linarith) hcounted.stored hrunning
          exact Backend.column_nonneg (by linarith) havailable
      by_cases hidUsdt : id = e₂.account
      · subst hidUsdt
        rw [← he₂] at hbooks₂ husdt
        refine hcounted.book (LedgerDb.entriesOf_postBoth_snd hne _ _)
          (LedgerDb.account_postBoth_snd hne _ _ husdt) ?_ hcounted.locked_nonneg
          (hbooks₂.running_nonneg rfl) hcounted.stored
        rw [LedgerEntry.held_of_eventType hbooks₂.eventType (by decide)]
        exact (add_zero _).symm
      · exact hcounted.of_eq
          (LedgerDb.account_postBoth_ne _ _ (Ne.symm hidInr) (Ne.symm hidUsdt))
          (LedgerDb.entriesOf_postBoth_ne _ _ (Ne.symm hidInr) (Ne.symm hidUsdt))

end Post

/-! ## Interleavings -/

/-- The tables and the calls that have read and not posted yet. -/
structure LedgerSystem where
  db : LedgerDb
  pending : List Posting

/-- A transaction of one of the calls. -/
inductive LedgerStep where
  | read (call : GuardedCall)
  | post (i : ℕ)

/-- Run a transaction; a call that raises is gone. -/
def LedgerSystem.step (b : Backend) (s : LedgerSystem) : LedgerStep → LedgerSystem
  | .read call =>
      match call.read s.db with
      | .ok (some p) db => ⟨db, s.pending ++ [p]⟩
      | .ok none db => ⟨db, s.pending⟩
      | .error _ db => ⟨db, s.pending⟩
  | .post i =>
      match s.pending[i]? with
      | none => s
      | some p => ⟨final (p.post b) s.db, s.pending.eraseIdx i⟩

/-- Calls that come one after another leave what the service leaves. -/
theorem LedgerSystem.serial_runs (b : Backend) (calls : List GuardedCall) (db : LedgerDb) :
    (calls.flatMap (fun call => [.read call, .post 0])).foldl (LedgerSystem.step b) ⟨db, []⟩ =
      ⟨(calls.map GuardedCall.op).foldl (LedgerOp.step b) db, []⟩ := by
  induction calls generalizing db with
  | nil => rfl
  | cons call rest ih =>
      have hcall : (LedgerSystem.step b ⟨db, []⟩ (.read call)).step b (.post 0) =
          ⟨call.op.step b db, []⟩ := by
        unfold LedgerOp.step
        rw [GuardedCall.run_eq_read_post]
        cases hread : call.read db with
        | ok p db' =>
            rw [final_bind_ok hread]
            cases p with
            | none =>
                simp only [LedgerSystem.step, hread, List.getElem?_nil]
                rfl
            | some p => simp [LedgerSystem.step, hread, postIfAny]
        | error e db' =>
            rw [final_bind_error hread]
            simp [LedgerSystem.step, hread, final]
      rw [List.map_cons, List.foldl_cons, ← ih, ← hcall]
      rfl

/-- What a call posts is still covered by what it has read. -/
def LedgerSystem.Timely (b : Backend) (id : AccountId) (s : LedgerSystem) : LedgerStep → Prop
  | .read _ => True
  | .post i => ∀ p, s.pending[i]? = some p → p.Timely b s.db id

instance (b : Backend) (id : AccountId) (s : LedgerSystem) : (t : LedgerStep) →
    Decidable (s.Timely b id t)
  | .read _ => isTrue trivial
  | .post i => inferInstanceAs (Decidable (∀ p, s.pending[i]? = some p → p.Timely b s.db id))

/-- A call waits with a posting of its own, on accounts that exist. -/
structure Posting.Waits (p : Posting) (db : LedgerDb) : Prop where
  genuine : p.Genuine
  rows : ∀ id ∈ p.accounts, db.Has id

/-- Reading changes no account. -/
theorem GuardedCall.read_wp (call : GuardedCall) (db : LedgerDb) :
    let same (db' : LedgerDb) : Prop := ∀ id, db'.account id = db.account id ∧
      db'.entriesOf id = db.entriesOf id ∧ (db.Has id → db'.Has id)
    wp call.read (fun p db' => same db' ∧ ∀ p' ∈ p, p'.Waits db') (fun _ db' => same db') db := by
  intro same
  have hensured : ∀ id, same (db.ensure id) := fun id _ =>
    ⟨LedgerDb.account_ensure db, LedgerDb.entriesOf_ensure db, fun h => h.ensure⟩
  cases call with
  | withdraw id amount =>
      unfold GuardedCall.read
      rw [wp_bind, getAccount_wp, wp_ite]
      refine ⟨fun _ => hensured id, fun _ => ⟨hensured id, ?_⟩⟩
      rintro p' ⟨⟩
      refine ⟨trivial, fun id' hid' => ?_⟩
      rw [List.mem_singleton.mp hid']
      exact LedgerDb.has_ensure_self db
  | reserveMargin id amount =>
      unfold GuardedCall.read
      rw [wp_bind, getAccount_wp, wp_ite]
      refine ⟨fun _ => hensured id, fun _ => ⟨hensured id, ?_⟩⟩
      rintro p' ⟨⟩
      refine ⟨trivial, fun id' hid' => ?_⟩
      rw [List.mem_singleton.mp hid']
      exact LedgerDb.has_ensure_self db
  | releaseMargin id amount =>
      unfold GuardedCall.read
      rw [wp_bind, getAccount_wp, wp_ite]
      refine ⟨fun _ => ⟨hensured id, fun _ hnone => by cases hnone⟩,
        fun hpos => ⟨hensured id, ?_⟩⟩
      rintro p' ⟨⟩
      refine ⟨not_le.mp hpos, fun id' hid' => ?_⟩
      rw [List.mem_singleton.mp hid']
      exact LedgerDb.has_ensure_self db
  | convert userId inrAmount rate =>
      unfold GuardedCall.read
      rw [wp_ite]
      refine ⟨fun _ _ => ⟨rfl, rfl, fun h => h⟩, fun _ => ?_⟩
      rw [wp_bind, getAccount_wp, wp_bind, ensureAccount_wp, wp_ite]
      have hboth : same ((db.ensure ⟨userId, "INR"⟩).ensure ⟨userId, "USDT"⟩) := by
        intro id
        refine ⟨?_, ?_, fun h => h.ensure.ensure⟩
        · rw [LedgerDb.account_ensure, LedgerDb.account_ensure]
        · rw [LedgerDb.entriesOf_ensure, LedgerDb.entriesOf_ensure]
      refine ⟨fun _ => hboth, fun _ => ⟨hboth, ?_⟩⟩
      rintro p' ⟨⟩
      refine ⟨trivial, fun id' hid' => ?_⟩
      rcases List.mem_pair.mp hid' with rfl | rfl
      · exact LedgerDb.Has.ensure (LedgerDb.has_ensure_self db)
      · exact LedgerDb.has_ensure_self _

/-- What a run keeps true. -/
structure LedgerSystem.Sound (b : Backend) (id : AccountId) (s : LedgerSystem) : Prop where
  counted : s.db.Counted b id
  waits : ∀ p ∈ s.pending, p.Waits s.db

theorem Posting.Waits.mono {p : Posting} {db db' : LedgerDb} (h : p.Waits db)
    (hrows : ∀ id, db.Has id → db'.Has id) : p.Waits db' :=
  ⟨h.genuine, fun id hid => hrows id (h.rows id hid)⟩

theorem LedgerSystem.Sound.step {b : Backend} {id : AccountId} {s : LedgerSystem}
    (h : s.Sound b id) {t : LedgerStep} (ht : s.Timely b id t) : (s.step b t).Sound b id := by
  cases t with
  | read call =>
      have hread := GuardedCall.read_wp call s.db
      unfold LedgerSystem.step
      dsimp only
      cases hrun : call.read s.db with
      | ok p db =>
          obtain ⟨hsame, hwaits⟩ := wp_ok hread hrun
          have hcounted := h.counted.of_eq (hsame id).1 (hsame id).2.1
          have hpending : ∀ p ∈ s.pending, p.Waits db := fun p hp =>
            (h.waits p hp).mono (fun id => (hsame id).2.2)
          cases p with
          | none => exact ⟨hcounted, hpending⟩
          | some p =>
              refine ⟨hcounted, fun p' hp' => ?_⟩
              rcases List.mem_append.mp hp' with hold | hnew
              · exact hpending p' hold
              · rw [List.mem_singleton.mp hnew]
                exact hwaits p rfl
      | error err db =>
          have hsame := wp_error hread hrun
          exact ⟨h.counted.of_eq (hsame id).1 (hsame id).2.1, fun p hp =>
            (h.waits p hp).mono (fun id => (hsame id).2.2)⟩
  | post i =>
      unfold LedgerSystem.step
      dsimp only
      cases hp : s.pending[i]? with
      | none => exact h
      | some p =>
          have hwaits := h.waits p (List.mem_of_getElem? hp)
          have hpost := Posting.post_counted hwaits.genuine hwaits.rows (ht p hp) h.counted
          have hended : (final (p.post b) s.db).Counted b id ∧
              ∀ id', s.db.Has id' → (final (p.post b) s.db).Has id' := by
            refine (wp_final (P := fun db' => db'.Counted b id ∧ ∀ id', s.db.Has id' → db'.Has id')
              (p.post b)).mp (wp_mono hpost (fun _ _ hdb => hdb) ?_)
            rintro _ _ rfl
            exact ⟨h.counted, fun _ hrow => hrow⟩
          refine ⟨hended.1, fun p' hp' => ?_⟩
          exact (h.waits p' (List.mem_of_mem_eraseIdx hp')).mono hended.2

/-- An account with margin held for a trade. -/
def demoHeld : LedgerDb :=
  [LedgerOp.deposit demoAccount 200, LedgerOp.reserveMargin demoAccount 100].foldl
    (LedgerOp.step .postgres) .empty

theorem demoHeld_counted : demoHeld.Counted .postgres demoAccount := by
  refine ⟨?_, ?_, ?_, fun _ => ?_⟩
  · decide +kernel
  · decide +kernel
  · decide +kernel
  · decide +kernel

/-- A release and a withdrawal that interleave. -/
def demoInterleaved : List LedgerStep :=
  [.read (.releaseMargin demoAccount 100), .read (.withdraw demoAccount 30), .post 1, .post 0]

/-- The same release made twice at once. -/
def demoReleases : List LedgerStep :=
  [.read (.releaseMargin demoAccount 100), .read (.releaseMargin demoAccount 100), .post 0, .post 0]

end CryptoTrader
