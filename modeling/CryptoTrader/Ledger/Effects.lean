import CryptoTrader.Ledger.Service

/-!
# What a ledger operation does to an account

Seen from one account a call either does nothing or appends one entry and
changes the row.  `LedgerOp.Affects` lists what each call can do, and
`LedgerOp.step_cases` says that nothing else happens.  The results about
balances are read off it.
-/

namespace CryptoTrader

open CryptoTrader.Lib

/-! ## Rows and entries -/

section Rows

variable (db : LedgerDb) {id id' : AccountId}

/-- The account has a row. -/
def LedgerDb.Has (id : AccountId) : Prop := (db.accounts.get? id).isSome

@[simp] theorem LedgerDb.account_ensure : (db.ensure id).account id' = db.account id' := by
  unfold ensure
  split
  · rfl
  · next hnone =>
      show ((db.accounts.set id {}).get? id').getD {} = _
      rw [Dict.get?_set]
      split
      · next heq =>
          subst heq
          rw [Option.not_isSome_iff_eq_none] at hnone
          unfold account
          rw [hnone]
          rfl
      · rfl

@[simp] theorem LedgerDb.entriesOf_ensure : (db.ensure id).entriesOf id' = db.entriesOf id' := by
  unfold ensure
  split
  · rfl
  · rfl

theorem LedgerDb.has_ensure_self : (db.ensure id).Has id := by
  unfold ensure
  split
  · next hhas => exact hhas
  · unfold Has
    simp

variable {db}

theorem LedgerDb.Has.ensure (h : db.Has id) : (db.ensure id').Has id := by
  unfold LedgerDb.ensure
  split
  · exact h
  · unfold LedgerDb.Has
    simp only
    rw [Dict.get?_set]
    split
    · rfl
    · exact h

theorem LedgerDb.Has.update (h : db.Has id) (f : Account → Account) : (db.update id' f).Has id := by
  unfold LedgerDb.Has LedgerDb.update
  simp only
  rw [Dict.get?_modify]
  split
  · next heq =>
      subst heq
      rw [Option.isSome_map]
      exact h
  · exact h

theorem LedgerDb.Has.post (h : db.Has id) (e : LedgerEntry) : (db.post e).Has id := by
  have happended : ({ db with entries := db.entries ++ [e] } : LedgerDb).Has id := h
  exact happended.update _

theorem LedgerDb.account_update_self (h : db.Has id) (f : Account → Account) :
    (db.update id f).account id = f (db.account id) := by
  unfold LedgerDb.account LedgerDb.update
  rw [Dict.get?_modify_self]
  obtain ⟨acct, hacct⟩ := Option.isSome_iff_exists.mp h
  rw [hacct]
  rfl

theorem LedgerDb.account_update_ne (hne : id ≠ id') (f : Account → Account) :
    (db.update id f).account id' = db.account id' := by
  unfold LedgerDb.account LedgerDb.update
  rw [Dict.get?_modify_ne _ _ hne]

@[simp] theorem LedgerDb.entriesOf_update (f : Account → Account) :
    (db.update id f).entriesOf id' = db.entriesOf id' := rfl

theorem LedgerDb.account_post_self {e : LedgerEntry} (h : db.Has e.account) :
    (db.post e).account e.account =
      { db.account e.account with ledgerBalance := e.runningBalance } := by
  have happended : ({ db with entries := db.entries ++ [e] } : LedgerDb).Has e.account := h
  exact LedgerDb.account_update_self happended _

theorem LedgerDb.account_post_ne {e : LedgerEntry} (hne : e.account ≠ id) :
    (db.post e).account id = db.account id := by
  unfold LedgerDb.post
  rw [LedgerDb.account_update_ne hne]
  rfl

theorem LedgerDb.entriesOf_post_self (e : LedgerEntry) :
    (db.post e).entriesOf e.account = db.entriesOf e.account ++ [e] := by
  show (db.entries ++ [e]).filter _ = _
  rw [List.filter_append]
  simp [entriesOf]

theorem LedgerDb.entriesOf_post_ne {e : LedgerEntry} (hne : e.account ≠ id) :
    (db.post e).entriesOf id = db.entriesOf id := by
  show (db.entries ++ [e]).filter _ = _
  rw [List.filter_append]
  simp [entriesOf, hne]

/-- One entry and one update of its account. -/
theorem LedgerDb.account_book_self {e : LedgerEntry} (h : db.Has e.account)
    (f : Account → Account) : ((db.post e).update e.account f).account e.account =
      f { db.account e.account with ledgerBalance := e.runningBalance } := by
  rw [LedgerDb.account_update_self (h.post e), LedgerDb.account_post_self h]

/-- The two entries and the two updates of a conversion. -/
def LedgerDb.postBoth (db : LedgerDb) (e₁ e₂ : LedgerEntry) (f₁ f₂ : Account → Account) :
    LedgerDb :=
  (((db.post e₁).post e₂).update e₁.account f₁).update e₂.account f₂

section PostBoth

variable {e₁ e₂ : LedgerEntry} (hne : e₁.account ≠ e₂.account) (f₁ f₂ : Account → Account)

include hne

theorem LedgerDb.account_postBoth_fst (h : db.Has e₁.account) :
    (db.postBoth e₁ e₂ f₁ f₂).account e₁.account =
      f₁ { db.account e₁.account with ledgerBalance := e₁.runningBalance } := by
  unfold LedgerDb.postBoth
  rw [LedgerDb.account_update_ne hne.symm, LedgerDb.account_update_self ((h.post e₁).post e₂),
    LedgerDb.account_post_ne hne.symm, LedgerDb.account_post_self h]

theorem LedgerDb.account_postBoth_snd (h : db.Has e₂.account) :
    (db.postBoth e₁ e₂ f₁ f₂).account e₂.account =
      f₂ { db.account e₂.account with ledgerBalance := e₂.runningBalance } := by
  unfold LedgerDb.postBoth
  rw [LedgerDb.account_update_self (((h.post e₁).post e₂).update f₁),
    LedgerDb.account_update_ne hne, LedgerDb.account_post_self (h.post e₁),
    LedgerDb.account_post_ne hne]

theorem LedgerDb.entriesOf_postBoth_fst :
    (db.postBoth e₁ e₂ f₁ f₂).entriesOf e₁.account = db.entriesOf e₁.account ++ [e₁] := by
  unfold LedgerDb.postBoth
  rw [LedgerDb.entriesOf_update, LedgerDb.entriesOf_update, LedgerDb.entriesOf_post_ne hne.symm,
    LedgerDb.entriesOf_post_self]

theorem LedgerDb.entriesOf_postBoth_snd :
    (db.postBoth e₁ e₂ f₁ f₂).entriesOf e₂.account = db.entriesOf e₂.account ++ [e₂] := by
  unfold LedgerDb.postBoth
  rw [LedgerDb.entriesOf_update, LedgerDb.entriesOf_update, LedgerDb.entriesOf_post_self,
    LedgerDb.entriesOf_post_ne hne]

omit hne in
theorem LedgerDb.account_postBoth_ne (h₁ : e₁.account ≠ id) (h₂ : e₂.account ≠ id) :
    (db.postBoth e₁ e₂ f₁ f₂).account id = db.account id := by
  unfold LedgerDb.postBoth
  rw [LedgerDb.account_update_ne h₂, LedgerDb.account_update_ne h₁, LedgerDb.account_post_ne h₂,
    LedgerDb.account_post_ne h₁]

omit hne in
theorem LedgerDb.entriesOf_postBoth_ne (h₁ : e₁.account ≠ id) (h₂ : e₂.account ≠ id) :
    (db.postBoth e₁ e₂ f₁ f₂).entriesOf id = db.entriesOf id := by
  unfold LedgerDb.postBoth
  rw [LedgerDb.entriesOf_update, LedgerDb.entriesOf_update, LedgerDb.entriesOf_post_ne h₂,
    LedgerDb.entriesOf_post_ne h₁]

omit hne in
theorem LedgerDb.Has.postBoth (h : db.Has id) : (db.postBoth e₁ e₂ f₁ f₂).Has id :=
  (((h.post e₁).post e₂).update f₁).update f₂

end PostBoth

end Rows

/-! ## One account -/

/-- `e` is the entry that `_post_entry` makes on an account. -/
structure LedgerEntry.Books (e : LedgerEntry) (b : Backend) (acct : Account) (way : Direction)
    (value : Decimal) (kind : EventType) : Prop where
  direction : e.direction = way
  eventType : e.eventType = kind
  amount : b.column value = .ok e.amount
  accepted : b.accepts e.amount
  running : b.column (acct.ledgerBalance + way.sign * value) = .ok e.runningBalance
  guarded : 0 ≤ acct.ledgerBalance + way.sign * value ∨ kind.mayOverdraw

/-- The column holds the number. -/
def Backend.holds (b : Backend) (x : Decimal) : Bool :=
  match b.column x with
  | .ok _ => true
  | .error _ => false

theorem Backend.not_holds {b : Backend} {x : Decimal} {err : PyErr} (h : b.column x = .error err) :
    ¬ b.holds x := by
  unfold Backend.holds
  rw [h]
  exact Bool.false_ne_true

/-- `_post_entry` lets the entry through. -/
structure Backend.Posts (b : Backend) (acct : Account) (way : Direction) (value : Decimal)
    (kind : EventType) : Prop where
  guarded : 0 ≤ acct.ledgerBalance + way.sign * value ∨ kind.mayOverdraw
  amount : b.holds value
  running : b.holds (acct.ledgerBalance + way.sign * value)
  accepted : ∀ stored, b.column value = .ok stored → b.accepts stored

/-- What `book_realized_pnl`, `charge_fee` and `book_funding` book on an
account. -/
def LedgerOp.bookedDelta? : LedgerOp → Option (AccountId × Decimal)
  | .bookRealizedPnl id pnl => some (id, pnl)
  | .chargeFee id fee => if fee ≤ 0 then none else some (id, -fee)
  | .bookFunding id netAmount => some (id, netAmount)
  | _ => none

/-- What a call can do to an account: the entry it appends and the row it
leaves. -/
inductive LedgerOp.Affects (b : Backend) (db : LedgerDb) (id : AccountId) :
    LedgerOp → LedgerEntry → Account → Prop
  | deposit {amount : Decimal} {e : LedgerEntry} (hpos : 0 < amount)
      (hbooks : e.Books b (db.account id) .credit amount .deposit) :
      Affects b db id (.deposit id amount) e
        { db.account id with
          ledgerBalance := e.runningBalance
          availableBalance := e.runningBalance }
  | withdraw {amount : Decimal} {e : LedgerEntry}
      (hguard : amount ≤ (db.account id).availableBalance)
      (hbooks : e.Books b (db.account id) .debit amount .withdrawal) :
      Affects b db id (.withdraw id amount) e
        { db.account id with
          ledgerBalance := e.runningBalance
          availableBalance := e.runningBalance }
  | convertDebit {userId : String} {inrAmount rate available : Decimal} {e : LedgerEntry}
      (hid : id = ⟨userId, "INR"⟩) (hguard : inrAmount ≤ (db.account id).availableBalance)
      (hbooks : e.Books b (db.account id) .debit inrAmount .conversionDebit)
      (havailable : b.column (e.runningBalance - (db.account id).lockedBalance) = .ok available) :
      Affects b db id (.convert userId inrAmount rate) e
        { db.account id with ledgerBalance := e.runningBalance, availableBalance := available }
  | convertCredit {userId : String} {inrAmount rate : Decimal} {e : LedgerEntry}
      (hid : id = ⟨userId, "USDT"⟩)
      (hguard : inrAmount ≤ (db.account ⟨userId, "INR"⟩).availableBalance)
      (hpaid : ∃ stored, b.column inrAmount = .ok stored ∧ b.accepts stored)
      (hbooks : e.Books b (db.account id) .credit (quantizeDown (inrAmount / rate))
        .conversionCredit) :
      Affects b db id (.convert userId inrAmount rate) e
        { db.account id with
          ledgerBalance := e.runningBalance
          availableBalance := e.runningBalance }
  | reserve {amount locked available : Decimal} {e : LedgerEntry}
      (hguard : amount ≤ (db.account id).availableBalance)
      (hbooks : e.Books b (db.account id) .debit amount .marginReserve)
      (hlocked : b.column ((db.account id).lockedBalance + amount) = .ok locked)
      (havailable : b.column ((db.account id).availableBalance - amount) = .ok available) :
      Affects b db id (.reserveMargin id amount) e
        { ledgerBalance := e.runningBalance
          availableBalance := available
          lockedBalance := locked }
  | release {amount release locked available : Decimal} {e : LedgerEntry}
      (hrelease : release = min amount (db.account id).lockedBalance) (hpos : 0 < release)
      (hbooks : e.Books b (db.account id) .credit release .marginRelease)
      (hlocked : b.column ((db.account id).lockedBalance + -release) = .ok locked)
      (havailable : b.column ((db.account id).availableBalance - -release) = .ok available) :
      Affects b db id (.releaseMargin id amount) e
        { ledgerBalance := e.runningBalance
          availableBalance := available
          lockedBalance := locked }
  | delta {op : LedgerOp} {delta available : Decimal} {direction : Direction}
      {eventType : EventType} {e : LedgerEntry} (hop : op.bookedDelta? = some (id, delta))
      (hne : delta ≠ 0) (hkind : eventType ≠ .marginReserve ∧ eventType ≠ .marginRelease ∧
        eventType ≠ .reconAdjust)
      (hsign : direction.sign * |delta| = delta)
      (hbooks : e.Books b (db.account id) direction |delta| eventType)
      (havailable : b.column ((db.account id).availableBalance + delta) = .ok available) :
      Affects b db id op e
        { db.account id with ledgerBalance := e.runningBalance, availableBalance := available }
  | reconAdjust {delta available ledger : Decimal} {direction : Direction} {e : LedgerEntry}
      (hne : delta ≠ 0) (hsign : direction.sign * |delta| = delta)
      (hbooks : e.Books b (db.account id) direction |delta| .reconAdjust)
      (havailable : b.column ((db.account id).availableBalance + delta) = .ok available)
      (hledger : b.column (e.runningBalance + delta) = .ok ledger) :
      Affects b db id (.reconAdjust id delta) e
        { db.account id with ledgerBalance := ledger, availableBalance := available }

/-- What a call did to an account. -/
def LedgerOp.Outcome (b : Backend) (op : LedgerOp) (db db' : LedgerDb) (id : AccountId) : Prop :=
  (db'.account id = db.account id ∧ db'.entriesOf id = db.entriesOf id ∧ (db.Has id → db'.Has id)) ∨
    ∃ e, op.Affects b db id e (db'.account id) ∧
      db'.entriesOf id = db.entriesOf id ++ [e] ∧ db'.Has id

section Outcomes

variable {b : Backend} {op : LedgerOp} {db db' : LedgerDb} {id : AccountId}

/-- A row that was only ensured has not changed. -/
theorem LedgerOp.outcome_ensure (id' : AccountId) : op.Outcome b db (db.ensure id) id' :=
  Or.inl ⟨LedgerDb.account_ensure db, LedgerDb.entriesOf_ensure db, fun h => h.ensure⟩

theorem LedgerOp.outcome_self (id' : AccountId) : op.Outcome b db db id' :=
  Or.inl ⟨rfl, rfl, fun h => h⟩

/-- One entry and one update of its account. -/
theorem LedgerOp.outcome_book {e : LedgerEntry} (he : e.account = id) {f : Account → Account}
    (h : op.Affects b db id e
      (f { db.account id with ledgerBalance := e.runningBalance })) (id' : AccountId) :
    op.Outcome b db (((db.ensure id).post e).update id f) id' := by
  have hhas : (db.ensure id).Has id := LedgerDb.has_ensure_self db
  by_cases hid : id' = id
  · subst hid
    right
    subst he
    refine ⟨e, ?_, ?_, (hhas.post e).update f⟩
    · rw [LedgerDb.account_update_self (hhas.post e), LedgerDb.account_post_self hhas,
        LedgerDb.account_ensure]
      exact h
    · rw [LedgerDb.entriesOf_update, LedgerDb.entriesOf_post_self, LedgerDb.entriesOf_ensure]
  · left
    subst he
    refine ⟨?_, ?_, fun h' => (h'.ensure.post e).update f⟩
    · rw [LedgerDb.account_update_ne (Ne.symm hid), LedgerDb.account_post_ne (Ne.symm hid),
        LedgerDb.account_ensure]
    · rw [LedgerDb.entriesOf_update, LedgerDb.entriesOf_post_ne (Ne.symm hid),
        LedgerDb.entriesOf_ensure]

end Outcomes

/-! ## The calls -/

section Calls

variable (b : Backend) (id : AccountId) (db : LedgerDb)

theorem ensureAccount_wp {Q : Unit → LedgerDb → Prop} {E : PyErr → LedgerDb → Prop} :
    wp (ensureAccount id) Q E db ↔ Q () (db.ensure id) := Iff.rfl

theorem getAccount_wp {Q : Account → LedgerDb → Prop} {E : PyErr → LedgerDb → Prop} :
    wp (getAccount id) Q E db ↔ Q (db.account id) (db.ensure id) := by
  show Q ((db.ensure id).account id) (db.ensure id) ↔ _
  rw [LedgerDb.account_ensure]

theorem updateAccount_wp {Q : Unit → LedgerDb → Prop} {E : PyErr → LedgerDb → Prop}
    (f : Account → Account) : wp (updateAccount id f) Q E db ↔ Q () (db.update id f) := Iff.rfl

theorem postEntry_wp (way : Direction) (amount : Decimal) (kind : EventType) :
    wp (postEntry b id way amount kind)
      (fun newBal db' => ∃ e, e.account = id ∧ e.Books b (db.account id) way amount kind ∧
        newBal = (db.account id).ledgerBalance + way.sign * amount ∧ db' = db.post e)
      (fun _ _ => ¬ b.Posts (db.account id) way amount kind) db := by
  unfold postEntry
  rw [wp_bind, wp_get, wp_ite]
  refine ⟨fun hguard hposts => ?_, fun hguard => ?_⟩
  · rcases hposts.guarded with hnonneg | hoverdraw
    · exact absurd hguard.1 (not_lt.mpr hnonneg)
    · exact hguard.2 hoverdraw
  rw [wp_bind, wp_ofExcept]
  refine ⟨fun storedAmount hamount => ?_,
    fun _ herror hposts => Backend.not_holds herror hposts.amount⟩
  rw [wp_bind, wp_ofExcept]
  refine ⟨fun storedBalance hbalance => ?_,
    fun _ herror hposts => Backend.not_holds herror hposts.running⟩
  rw [wp_ite]
  refine ⟨fun hrefused hposts => hrefused (hposts.accepted _ hamount), fun haccepts => ?_⟩
  refine ⟨⟨id, way, storedAmount, storedBalance, kind⟩, rfl, ⟨rfl, rfl, hamount, ?_, hbalance, ?_⟩,
    rfl, rfl⟩
  · exact not_not.mp haccepts
  · by_cases hneg : (db.account id).ledgerBalance + way.sign * amount < 0
    · exact Or.inr (not_not.mp (fun h => hguard ⟨hneg, h⟩))
    · exact Or.inl (not_lt.mp hneg)

/-- The row after an entry: only the ledger balance has moved. -/
theorem LedgerDb.lockedBalance_post (e : LedgerEntry) :
    ((db.post e).account id).lockedBalance = (db.account id).lockedBalance := by
  unfold LedgerDb.post LedgerDb.account LedgerDb.update
  simp only
  rw [Dict.get?_modify]
  split
  · next heq =>
      subst heq
      cases db.accounts.get? e.account with
      | none => rfl
      | some acct => rfl
  · rfl

theorem LedgerDb.availableBalance_post (e : LedgerEntry) :
    ((db.post e).account id).availableBalance = (db.account id).availableBalance := by
  unfold LedgerDb.post LedgerDb.account LedgerDb.update
  simp only
  rw [Dict.get?_modify]
  split
  · next heq =>
      subst heq
      cases db.accounts.get? e.account with
      | none => rfl
      | some acct => rfl
  · rfl

/-- The common end of a deposit, a withdrawal and the credit of a conversion. -/
theorem setAvailable_wp (balance : Decimal) :
    wp (setAvailable b id balance)
      (fun _ db' => ∃ stored, b.column balance = .ok stored ∧
        db' = db.update id (fun acct => { acct with availableBalance := stored }))
      (fun _ _ => True) db := by
  unfold setAvailable
  rw [wp_bind, wp_ofExcept]
  exact ⟨fun stored hstored => ⟨stored, hstored, rfl⟩, fun _ _ => trivial⟩

/-- What the postings of a deposit and a withdrawal leave. -/
theorem postAndSet_wp (way : Direction) (amount : Decimal) (kind : EventType) :
    wp (do
        let newBal ← postEntry b id way amount kind
        setAvailable b id newBal)
      (fun _ db' => ∃ e, e.account = id ∧ e.Books b (db.account id) way amount kind ∧
        db' = (db.post e).update id
          (fun acct => { acct with availableBalance := e.runningBalance }))
      (fun _ _ => True) db := by
  rw [wp_bind]
  refine wp_mono (postEntry_wp b id db way amount kind) ?_ (fun _ _ _ => trivial)
  rintro newBal db₁ ⟨e, he, hbooks, rfl, rfl⟩
  refine wp_mono (setAvailable_wp b id _ _) ?_ (fun _ _ _ => trivial)
  rintro - db₂ ⟨stored, hstored, rfl⟩
  have hsame : stored = e.runningBalance := Except.ok.inj (hstored.symm.trans hbooks.running)
  subst hsame
  exact ⟨e, he, hbooks, rfl⟩

theorem deposit_wp (amount : Decimal) :
    let ended (db' : LedgerDb) : Prop := ∀ id', (LedgerOp.deposit id amount).Outcome b db db' id'
    wp (deposit b id amount) (fun _ db' => ended db') (fun _ db' => ended db') db := by
  intro ended
  unfold deposit
  rw [wp_ite]
  refine ⟨fun _ => LedgerOp.outcome_self, fun hpos => ?_⟩
  rw [wp_bind, ensureAccount_wp, wp_transaction]
  refine wp_mono (postAndSet_wp b id (db.ensure id) .credit amount .deposit) ?_
    (fun _ _ _ => LedgerOp.outcome_ensure)
  rintro - db₁ ⟨e, he, hbooks, rfl⟩
  rw [LedgerDb.account_ensure] at hbooks
  exact LedgerOp.outcome_book he (.deposit (not_le.mp hpos) hbooks)

theorem withdraw_wp (amount : Decimal) :
    let ended (db' : LedgerDb) : Prop := ∀ id', (LedgerOp.withdraw id amount).Outcome b db db' id'
    wp (withdraw b id amount) (fun _ db' => ended db') (fun _ db' => ended db') db := by
  intro ended
  unfold withdraw
  rw [wp_bind, getAccount_wp, wp_ite]
  refine ⟨fun _ => LedgerOp.outcome_ensure, fun hguard => ?_⟩
  rw [wp_transaction]
  refine wp_mono (postAndSet_wp b id (db.ensure id) .debit amount .withdrawal) ?_
    (fun _ _ _ => LedgerOp.outcome_ensure)
  rintro - db₁ ⟨e, he, hbooks, rfl⟩
  rw [LedgerDb.account_ensure] at hbooks
  exact LedgerOp.outcome_book he (.withdraw (not_lt.mp hguard) hbooks)

/-- The posting of a reservation, and of a release with the opposite sign. -/
theorem postAndLock_wp (way : Direction) (amount moved : Decimal) (kind : EventType) :
    wp (do
        let _ ← postEntry b id way amount kind
        lock b id moved)
      (fun _ db' => ∃ e locked available, e.account = id ∧
        e.Books b (db.account id) way amount kind ∧
        b.column ((db.account id).lockedBalance + moved) = .ok locked ∧
        b.column ((db.account id).availableBalance - moved) = .ok available ∧
        db' = (db.post e).update id
          (fun acct => { acct with lockedBalance := locked, availableBalance := available }))
      (fun _ _ => ¬ (b.Posts (db.account id) way amount kind ∧
        b.holds ((db.account id).lockedBalance + moved) ∧
        b.holds ((db.account id).availableBalance - moved))) db := by
  rw [wp_bind]
  refine wp_mono (postEntry_wp b id db way amount kind) ?_ (fun _ _ hposts h => hposts h.1)
  rintro newBal db₁ ⟨e, he, hbooks, rfl, rfl⟩
  unfold lock
  rw [wp_bind, wp_get, wp_bind, wp_ofExcept]
  rw [LedgerDb.lockedBalance_post]
  refine ⟨fun locked hlocked => ?_, fun _ herror h => Backend.not_holds herror h.2.1⟩
  rw [wp_bind, wp_ofExcept, LedgerDb.availableBalance_post]
  refine ⟨fun available havailable => ?_, fun _ herror h => Backend.not_holds herror h.2.2⟩
  rw [updateAccount_wp]
  exact ⟨e, locked, available, he, hbooks, hlocked, havailable, rfl⟩

theorem reserveMargin_wp (amount : Decimal) :
    let ended (db' : LedgerDb) : Prop :=
      ∀ id', (LedgerOp.reserveMargin id amount).Outcome b db db' id'
    wp (reserveMargin b id amount) (fun _ db' => ended db') (fun _ db' => ended db') db := by
  intro ended
  unfold reserveMargin
  rw [wp_bind, getAccount_wp, wp_ite]
  refine ⟨fun _ => LedgerOp.outcome_ensure, fun hguard => ?_⟩
  rw [wp_transaction]
  refine wp_mono (postAndLock_wp b id (db.ensure id) .debit amount amount .marginReserve) ?_
    (fun _ _ _ => LedgerOp.outcome_ensure)
  rintro - db₁ ⟨e, locked, available, he, hbooks, hlocked, havailable, rfl⟩
  rw [LedgerDb.account_ensure] at hbooks hlocked havailable
  exact LedgerOp.outcome_book he (.reserve (not_lt.mp hguard) hbooks hlocked havailable)

theorem releaseMargin_wp (amount : Decimal) :
    let ended (db' : LedgerDb) : Prop :=
      ∀ id', (LedgerOp.releaseMargin id amount).Outcome b db db' id'
    wp (releaseMargin b id amount) (fun _ db' => ended db') (fun _ db' => ended db') db := by
  intro ended
  unfold releaseMargin
  rw [wp_bind, getAccount_wp, wp_ite]
  refine ⟨fun _ => LedgerOp.outcome_ensure, fun hpos => ?_⟩
  rw [wp_transaction]
  refine wp_mono (postAndLock_wp b id (db.ensure id) .credit _ _ .marginRelease) ?_
    (fun _ _ _ => LedgerOp.outcome_ensure)
  rintro - db₁ ⟨e, locked, available, he, hbooks, hlocked, havailable, rfl⟩
  rw [LedgerDb.account_ensure] at hbooks hlocked havailable
  exact LedgerOp.outcome_book he (.release rfl (not_le.mp hpos) hbooks hlocked havailable)

/-- The sign that the direction of a booking gives back to its amount. -/
theorem direction_sign_mul_abs (delta : Decimal) :
    (if delta > 0 then Direction.credit else Direction.debit).sign * |delta| = delta := by
  by_cases hpos : delta > 0
  · rw [if_pos hpos, abs_of_pos hpos]
    exact one_mul delta
  · rw [if_neg hpos, abs_of_nonpos (not_lt.mp hpos)]
    show -1 * -delta = delta
    ring

theorem bookDelta_wp (delta : Decimal) (credit debit : EventType) :
    wp (bookDelta b id delta credit debit)
      (fun _ db' => ∃ e available, e.account = id ∧
        e.Books b (db.account id) (if delta > 0 then .credit else .debit) |delta|
          (if delta > 0 then credit else debit) ∧
        b.column ((db.account id).availableBalance + delta) = .ok available ∧
        db' = (db.post e).update id (fun acct => { acct with availableBalance := available }))
      (fun _ db' => db' = db) db := by
  unfold bookDelta
  rw [wp_transaction, wp_bind]
  refine wp_mono (postEntry_wp b id db _ _ _) ?_ (fun _ _ _ => rfl)
  rintro newBal db₁ ⟨e, he, hbooks, rfl, rfl⟩
  unfold addAvailable
  rw [wp_bind, wp_get]
  refine wp_mono (setAvailable_wp b id _ _) ?_ (fun _ _ _ => rfl)
  rintro - db₂ ⟨available, havailable, rfl⟩
  rw [LedgerDb.availableBalance_post] at havailable
  exact ⟨e, available, he, hbooks, havailable, rfl⟩

/-- A booking of `delta` by a call that books it. -/
theorem bookDelta_outcome {op : LedgerOp} {delta : Decimal} {credit debit : EventType}
    (hop : op.bookedDelta? = some (id, delta)) (hne : delta ≠ 0)
    (hcredit : credit ≠ .marginReserve ∧ credit ≠ .marginRelease ∧ credit ≠ .reconAdjust)
    (hdebit : debit ≠ .marginReserve ∧ debit ≠ .marginRelease ∧ debit ≠ .reconAdjust) :
    wp (bookDelta b id delta credit debit) (fun _ db' => ∀ id', op.Outcome b db db' id')
      (fun _ db' => ∀ id', op.Outcome b db db' id') (db.ensure id) := by
  refine wp_mono (bookDelta_wp b id (db.ensure id) delta credit debit) ?_ ?_
  · rintro - db₁ ⟨e, available, he, hbooks, havailable, rfl⟩
    rw [LedgerDb.account_ensure] at hbooks havailable
    refine LedgerOp.outcome_book he (.delta hop hne ?_ (direction_sign_mul_abs delta) hbooks
      havailable)
    split
    · exact hcredit
    · exact hdebit
  · rintro - db₁ rfl
    exact LedgerOp.outcome_ensure

theorem bookRealizedPnl_wp (pnl : Decimal) :
    let ended (db' : LedgerDb) : Prop :=
      ∀ id', (LedgerOp.bookRealizedPnl id pnl).Outcome b db db' id'
    wp (bookRealizedPnl b id pnl) (fun _ db' => ended db') (fun _ db' => ended db') db := by
  intro ended
  unfold bookRealizedPnl
  rw [wp_bind, ensureAccount_wp, wp_ite]
  exact ⟨fun _ => LedgerOp.outcome_ensure,
    fun hne => bookDelta_outcome b id db rfl hne (by decide) (by decide)⟩

theorem chargeFee_wp (fee : Decimal) :
    let ended (db' : LedgerDb) : Prop := ∀ id', (LedgerOp.chargeFee id fee).Outcome b db db' id'
    wp (chargeFee b id fee) (fun _ db' => ended db') (fun _ db' => ended db') db := by
  intro ended
  unfold chargeFee
  rw [wp_ite]
  refine ⟨fun _ => LedgerOp.outcome_self, fun hpos => ?_⟩
  rw [wp_bind, ensureAccount_wp]
  have hop : (LedgerOp.chargeFee id fee).bookedDelta? = some (id, -fee) := if_neg hpos
  exact bookDelta_outcome b id db hop (neg_ne_zero.mpr (not_le.mp hpos).ne') (by decide) (by decide)

theorem bookFunding_wp (netAmount : Decimal) :
    let ended (db' : LedgerDb) : Prop :=
      ∀ id', (LedgerOp.bookFunding id netAmount).Outcome b db db' id'
    wp (bookFunding b id netAmount) (fun _ db' => ended db') (fun _ db' => ended db') db := by
  intro ended
  unfold bookFunding
  rw [wp_ite]
  refine ⟨fun _ => LedgerOp.outcome_self, fun hne => ?_⟩
  rw [wp_bind, ensureAccount_wp]
  exact bookDelta_outcome b id db rfl hne (by decide) (by decide)

theorem reconAdjust_wp (delta : Decimal) :
    let ended (db' : LedgerDb) : Prop := ∀ id', (LedgerOp.reconAdjust id delta).Outcome b db db' id'
    wp (reconAdjust b id delta) (fun _ db' => ended db') (fun _ db' => ended db') db := by
  intro ended
  unfold reconAdjust
  rw [wp_ite]
  refine ⟨fun _ => LedgerOp.outcome_self, fun hne => ?_⟩
  rw [wp_bind, ensureAccount_wp, wp_transaction, wp_bind]
  refine wp_mono (postEntry_wp b id (db.ensure id) _ _ _) ?_
    (fun _ _ _ => LedgerOp.outcome_ensure)
  rintro newBal db₁ ⟨e, rfl, hbooks, -, rfl⟩
  have hhas : (db.ensure e.account).Has e.account := LedgerDb.has_ensure_self db
  rw [wp_bind, wp_get, wp_bind, wp_ofExcept]
  refine ⟨fun available havailable => ?_, fun _ _ => LedgerOp.outcome_ensure⟩
  rw [wp_bind, wp_ofExcept]
  refine ⟨fun ledger hledger => ?_, fun _ _ => LedgerOp.outcome_ensure⟩
  rw [updateAccount_wp]
  rw [LedgerDb.availableBalance_post, LedgerDb.account_ensure] at havailable
  rw [LedgerDb.account_post_self hhas] at hledger
  rw [LedgerDb.account_ensure] at hbooks
  exact LedgerOp.outcome_book rfl
    (.reconAdjust hne (direction_sign_mul_abs delta) hbooks havailable hledger)

/-- The posting of a conversion. -/
theorem postConversion_wp (inr usdt : AccountId) (hne : inr ≠ usdt)
    (inrAmount usdtReceived : Decimal) (hinr : db.Has inr) :
    wp (postConversion b inr usdt inrAmount usdtReceived)
      (fun _ db' => ∃ e₁ e₂ available, e₁.account = inr ∧ e₂.account = usdt ∧
        e₁.Books b (db.account inr) .debit inrAmount .conversionDebit ∧
        e₂.Books b (db.account usdt) .credit usdtReceived .conversionCredit ∧
        b.column (e₁.runningBalance - (db.account inr).lockedBalance) = .ok available ∧
        db' = db.postBoth e₁ e₂ (fun acct => { acct with availableBalance := available })
          (fun acct => { acct with availableBalance := e₂.runningBalance }))
      (fun _ _ => True) db := by
  unfold postConversion
  rw [wp_bind]
  refine wp_mono (postEntry_wp b inr db _ _ _) ?_ (fun _ _ _ => trivial)
  rintro newInr db₁ ⟨e₁, rfl, hbooks₁, -, rfl⟩
  rw [wp_bind]
  refine wp_mono (postEntry_wp b usdt (db.post e₁) _ _ _) ?_ (fun _ _ _ => trivial)
  rintro newUsdt db₂ ⟨e₂, rfl, hbooks₂, rfl, rfl⟩
  have hinr' : ((db.post e₁).post e₂).account e₁.account =
      { db.account e₁.account with ledgerBalance := e₁.runningBalance } := by
    rw [LedgerDb.account_post_ne (Ne.symm hne), LedgerDb.account_post_self hinr]
  have husdt' : (db.post e₁).account e₂.account = db.account e₂.account :=
    LedgerDb.account_post_ne hne
  rw [wp_bind, wp_get, wp_bind]
  refine wp_mono (setAvailable_wp b e₁.account _ _) ?_ (fun _ _ _ => trivial)
  rintro - db₃ ⟨available, havailable, rfl⟩
  refine wp_mono (setAvailable_wp b e₂.account _ _) ?_ (fun _ _ _ => trivial)
  rintro - db₄ ⟨stored, hstored, rfl⟩
  have hsame : stored = e₂.runningBalance := Except.ok.inj (hstored.symm.trans hbooks₂.running)
  subst hsame
  rw [hinr'] at havailable
  rw [husdt'] at hbooks₂
  exact ⟨e₁, e₂, available, rfl, rfl, hbooks₁, hbooks₂, havailable, rfl⟩

theorem convert_wp (userId : String) (inrAmount rate : Decimal) :
    let ended (db' : LedgerDb) : Prop :=
      ∀ id', (LedgerOp.convert userId inrAmount rate).Outcome b db db' id'
    wp (convert b userId inrAmount rate) (fun _ db' => ended db') (fun _ db' => ended db') db := by
  intro ended
  unfold convert
  rw [wp_ite]
  refine ⟨fun _ => LedgerOp.outcome_self, fun hrate => ?_⟩
  dsimp only
  rw [wp_bind, getAccount_wp, wp_bind, ensureAccount_wp, wp_ite]
  have hensured : ended ((db.ensure ⟨userId, "INR"⟩).ensure ⟨userId, "USDT"⟩) := by
    intro id'
    left
    refine ⟨?_, ?_, fun h => h.ensure.ensure⟩
    · rw [LedgerDb.account_ensure, LedgerDb.account_ensure]
    · rw [LedgerDb.entriesOf_ensure, LedgerDb.entriesOf_ensure]
  refine ⟨fun _ => hensured, fun hguard => ?_⟩
  have hinr : ((db.ensure ⟨userId, "INR"⟩).ensure ⟨userId, "USDT"⟩).Has ⟨userId, "INR"⟩ :=
    LedgerDb.Has.ensure (LedgerDb.has_ensure_self db)
  have husdt : ((db.ensure ⟨userId, "INR"⟩).ensure ⟨userId, "USDT"⟩).Has ⟨userId, "USDT"⟩ :=
    LedgerDb.has_ensure_self _
  rw [wp_bind, wp_transaction]
  refine wp_mono (postConversion_wp b _ _ _ (by simp) _ _ hinr) ?_ (fun _ _ _ => hensured)
  rintro - db₁ ⟨e₁, e₂, available, he₁, he₂, hbooks₁, hbooks₂, havailable, rfl⟩
  rw [wp_pure]
  rw [LedgerDb.account_ensure, LedgerDb.account_ensure] at hbooks₁ hbooks₂ havailable
  have hne : e₁.account ≠ e₂.account := by
    rw [he₁, he₂]
    simp
  intro id'
  by_cases hidInr : id' = e₁.account
  · right
    subst hidInr
    refine ⟨e₁, ?_, ?_, LedgerDb.Has.postBoth _ _ (he₁ ▸ hinr)⟩
    · rw [LedgerDb.account_postBoth_fst hne _ _ (he₁ ▸ hinr), LedgerDb.account_ensure,
        LedgerDb.account_ensure]
      rw [← he₁] at hbooks₁ havailable hguard
      exact .convertDebit he₁ (not_lt.mp hguard) hbooks₁ havailable
    · rw [LedgerDb.entriesOf_postBoth_fst hne, LedgerDb.entriesOf_ensure,
        LedgerDb.entriesOf_ensure]
  by_cases hidUsdt : id' = e₂.account
  · right
    subst hidUsdt
    refine ⟨e₂, ?_, ?_, LedgerDb.Has.postBoth _ _ (he₂ ▸ husdt)⟩
    · rw [LedgerDb.account_postBoth_snd hne _ _ (he₂ ▸ husdt), LedgerDb.account_ensure,
        LedgerDb.account_ensure]
      rw [← he₂] at hbooks₂
      exact .convertCredit he₂ (not_lt.mp hguard) ⟨_, hbooks₁.amount, hbooks₁.accepted⟩ hbooks₂
    · rw [LedgerDb.entriesOf_postBoth_snd hne, LedgerDb.entriesOf_ensure,
        LedgerDb.entriesOf_ensure]
  · left
    refine ⟨?_, ?_, fun h => LedgerDb.Has.postBoth _ _ h.ensure.ensure⟩
    · rw [LedgerDb.account_postBoth_ne _ _ (Ne.symm hidInr) (Ne.symm hidUsdt),
        LedgerDb.account_ensure, LedgerDb.account_ensure]
    · rw [LedgerDb.entriesOf_postBoth_ne _ _ (Ne.symm hidInr) (Ne.symm hidUsdt),
        LedgerDb.entriesOf_ensure, LedgerDb.entriesOf_ensure]

end Calls

/-- However a call ends, an account is as it was or has one entry more. -/
theorem LedgerOp.step_cases (b : Backend) (db : LedgerDb) (op : LedgerOp) (id : AccountId) :
    op.Outcome b db (op.step b db) id := by
  have hended : ∀ id', op.Outcome b db (op.step b db) id' := by
    unfold LedgerOp.step
    rw [← wp_final (P := fun db' => ∀ id', op.Outcome b db db' id')]
    cases op with
    | deposit id amount => exact deposit_wp b id db amount
    | withdraw id amount => exact withdraw_wp b id db amount
    | convert userId inrAmount rate =>
        show wp (CryptoTrader.convert b userId inrAmount rate >>= fun _ => pure ()) _ _ db
        rw [wp_bind]
        exact convert_wp b db userId inrAmount rate
    | reserveMargin id amount => exact reserveMargin_wp b id db amount
    | releaseMargin id amount => exact releaseMargin_wp b id db amount
    | bookRealizedPnl id pnl => exact bookRealizedPnl_wp b id db pnl
    | chargeFee id fee => exact chargeFee_wp b id db fee
    | bookFunding id netAmount => exact bookFunding_wp b id db netAmount
    | reconAdjust id delta => exact reconAdjust_wp b id db delta
  exact hended id

end CryptoTrader
