import CryptoTrader.Engine.OrderSize
import CryptoTrader.Ledger.Effects
import CryptoTrader.Lib.Run

/-!
# Conversions in parts

`convert` with the division of the decimal context, on one amount and on a list.
What is credited is cut after eight decimals, so parts never bring more than
their sum does at once, and less by under a unit each, as long as the rounding of
a quotient does not carry it up to the next unit.
-/

namespace CryptoTrader

open CryptoTrader.Lib

/-- The sides of an `FxRate`. -/
structure FxRate where
  bid : Decimal
  ask : Decimal

/-- `rate_for_buy`. -/
def FxRate.rateForBuy (fx : FxRate) : Decimal := fx.ask

/-- `usdt_received`. -/
def FxRate.usdtReceived (fx : FxRate) (r : Rounding) (inrAmount : Decimal) : Decimal :=
  quantizeDown (r.round (inrAmount / fx.rateForBuy))

section Convert

variable (r : Rounding) (b : Backend) (userId : String) (fx : FxRate)

/-- `convert` in the decimal context `r`. -/
def convertIn (inrAmount : Decimal) : LedgerM Decimal :=
  if fx.rateForBuy = 0 then throw .divisionByZero
  else do
    let usdtReceived := fx.usdtReceived r inrAmount
    let acct ← getAccount ⟨userId, "INR"⟩
    ensureAccount ⟨userId, "USDT"⟩
    if inrAmount > acct.availableBalance then
      throw (.valueError
        s!"Insufficient INR: have {acct.availableBalance}, need {inrAmount}")
    else do
      transaction (postConversion b ⟨userId, "INR"⟩ ⟨userId, "USDT"⟩ inrAmount usdtReceived)
      pure usdtReceived

/-- In exact arithmetic it is the service's. -/
theorem convertIn_none (inrAmount : Decimal) :
    convertIn .none b userId fx inrAmount = convert b userId inrAmount fx.ask := rfl

/-- The database after a conversion, made or refused. -/
def convertStep (db : LedgerDb) (inrAmount : Decimal) : LedgerDb :=
  final (convertIn r b userId fx inrAmount) db

/-- What a conversion credits: what it returns, and nothing when it is
refused. -/
def credited (db : LedgerDb) (inrAmount : Decimal) : Decimal :=
  match convertIn r b userId fx inrAmount db with
  | .ok usdt _ => usdt
  | .error _ _ => 0

/-- What a list of amounts brings, converted one by one. -/
def creditedTotal : LedgerDb → List Decimal → Decimal
  | _, [] => 0
  | db, inrAmount :: rest =>
      credited r b userId fx db inrAmount +
        creditedTotal (convertStep r b userId fx db inrAmount) rest

/-! ## What a conversion is to do -/

/-- The account has one entry more, and the balance it leaves. -/
def LedgerDb.Booked (b : Backend) (db db' : LedgerDb) (id : AccountId) (way : Direction)
    (value : Decimal) (kind : EventType) : Prop :=
  ∃ e : LedgerEntry, e.Books b (db.account id) way value kind ∧
    db'.entriesOf id = db.entriesOf id ++ [e] ∧
    (db'.account id).ledgerBalance = e.runningBalance

/-- The rupees are debited and the dollars credited, or no account changes. -/
def Together (db : LedgerDb) (inrAmount : Decimal) : Prop :=
  let db' := convertStep r b userId fx db inrAmount
  db.Booked b db' ⟨userId, "INR"⟩ .debit inrAmount .conversionDebit ∧
      db.Booked b db' ⟨userId, "USDT"⟩ .credit (credited r b userId fx db inrAmount)
        .conversionCredit ∨
    ∀ id, db'.account id = db.account id ∧ db'.entriesOf id = db.entriesOf id

/-- Converted one by one, the amounts do not bring more than their sum does at
once, nor less by a unit each, none brings more than its worth, and each is
converted as a whole or not at all. -/
structure FairConversion (db : LedgerDb) (amounts : List Decimal) : Prop where
  total_le : creditedTotal r b userId fx db amounts ≤ credited r b userId fx db amounts.sum
  shortfall : credited r b userId fx db amounts.sum - creditedTotal r b userId fx db amounts <
    amounts.length / 10 ^ numericPlaces
  within : AllOk (convertStep r b userId fx)
    (fun db inrAmount => credited r b userId fx db inrAmount ≤ inrAmount / fx.ask) db amounts
  together : AllOk (convertStep r b userId fx) (Together r b userId fx) db amounts

/-- The conversion is made, or would credit nothing. -/
def GoesThrough (db : LedgerDb) (inrAmount : Decimal) : Prop :=
  (∃ usdt db', convertIn r b userId fx inrAmount db = .ok usdt db') ∨
    fx.usdtReceived r inrAmount = 0

/-- The rounding of a quotient does not carry it to the next unit. -/
def FxRate.KeepsQuotient (fx : FxRate) (r : Rounding) (inrAmount : Decimal) : Prop :=
  cutTo numericPlaces (r.round (inrAmount / fx.ask)) = cutTo numericPlaces (inrAmount / fx.ask)

instance (inrAmount : Decimal) : Decidable (fx.KeepsQuotient r inrAmount) :=
  inferInstanceAs (Decidable (_ = _))

/-- Amounts that are not negative, whose quotients are kept, and whose
conversions go through, one by one and at once. -/
structure Convertible (db : LedgerDb) (amounts : List Decimal) : Prop where
  nonneg : ∀ inrAmount ∈ amounts, 0 ≤ inrAmount
  kept : ∀ inrAmount ∈ amounts, fx.KeepsQuotient r inrAmount
  keptSum : fx.KeepsQuotient r amounts.sum
  through : AllOk (convertStep r b userId fx) (GoesThrough r b userId fx) db amounts
  throughSum : GoesThrough r b userId fx db amounts.sum

/-! ## One conversion -/

/-- How a conversion ends. -/
theorem convertIn_wp (db : LedgerDb) (inrAmount : Decimal) :
    wp (convertIn r b userId fx inrAmount)
      (fun usdt db' => usdt = fx.usdtReceived r inrAmount ∧
        db.Booked b db' ⟨userId, "INR"⟩ .debit inrAmount .conversionDebit ∧
        db.Booked b db' ⟨userId, "USDT"⟩ .credit usdt .conversionCredit)
      (fun _ db' => ∀ id, db'.account id = db.account id ∧ db'.entriesOf id = db.entriesOf id)
      db := by
  unfold convertIn
  rw [wp_ite]
  refine ⟨fun _ id => ⟨rfl, rfl⟩, fun _ => ?_⟩
  dsimp only
  rw [wp_bind, getAccount_wp, wp_bind, ensureAccount_wp, wp_ite]
  have hensured : ∀ id, ((db.ensure ⟨userId, "INR"⟩).ensure ⟨userId, "USDT"⟩).account id =
      db.account id ∧
      ((db.ensure ⟨userId, "INR"⟩).ensure ⟨userId, "USDT"⟩).entriesOf id = db.entriesOf id := by
    intro id
    simp
  refine ⟨fun _ => hensured, fun _ => ?_⟩
  have hinr : ((db.ensure ⟨userId, "INR"⟩).ensure ⟨userId, "USDT"⟩).Has ⟨userId, "INR"⟩ :=
    LedgerDb.Has.ensure (LedgerDb.has_ensure_self db)
  have husdt : ((db.ensure ⟨userId, "INR"⟩).ensure ⟨userId, "USDT"⟩).Has ⟨userId, "USDT"⟩ :=
    LedgerDb.has_ensure_self _
  rw [wp_bind, wp_transaction]
  refine wp_mono (postConversion_wp b _ _ _ (by simp) _ _ hinr) ?_ (fun _ _ _ => hensured)
  rintro - db₁ ⟨e₁, e₂, available, he₁, he₂, hbooks₁, hbooks₂, -, rfl⟩
  rw [LedgerDb.account_ensure, LedgerDb.account_ensure] at hbooks₁ hbooks₂
  have hne : e₁.account ≠ e₂.account := by
    rw [he₁, he₂]
    simp
  rw [wp_pure]
  refine ⟨rfl, ⟨e₁, hbooks₁, ?_, ?_⟩, ⟨e₂, hbooks₂, ?_, ?_⟩⟩
  · rw [← he₁, LedgerDb.entriesOf_postBoth_fst hne, LedgerDb.entriesOf_ensure,
      LedgerDb.entriesOf_ensure]
  · rw [← he₁, LedgerDb.account_postBoth_fst hne _ _ (he₁ ▸ hinr)]
  · rw [← he₂, LedgerDb.entriesOf_postBoth_snd hne, LedgerDb.entriesOf_ensure,
      LedgerDb.entriesOf_ensure]
  · rw [← he₂, LedgerDb.account_postBoth_snd hne _ _ (he₂ ▸ husdt)]

variable {r b userId fx} {db : LedgerDb} {inrAmount : Decimal}

theorem together (db : LedgerDb) (inrAmount : Decimal) :
    Together r b userId fx db inrAmount := by
  have hends := convertIn_wp r b userId fx db inrAmount
  unfold Together convertStep credited final
  cases hrun : convertIn r b userId fx inrAmount db with
  | ok usdt db' => exact .inl (wp_ok hends hrun).2
  | error e db' => exact .inr (wp_error hends hrun)

theorem credited_of_goesThrough (h : GoesThrough r b userId fx db inrAmount) :
    credited r b userId fx db inrAmount = fx.usdtReceived r inrAmount := by
  have hends := convertIn_wp r b userId fx db inrAmount
  unfold credited
  rcases h with ⟨usdt, db', hrun⟩ | hzero
  · rw [hrun]
    exact (wp_ok hends hrun).1
  · cases hrun : convertIn r b userId fx inrAmount db with
    | ok usdt db' => exact (wp_ok hends hrun).1
    | error e db' => exact hzero.symm

theorem goesThrough_of_ends (h : ends (convertIn r b userId fx inrAmount) db (fun _ _ => true)) :
    GoesThrough r b userId fx db inrAmount := by
  obtain ⟨usdt, db', hrun, -⟩ := exists_of_ends h
  exact .inl ⟨usdt, db', hrun⟩

theorem quantizeDown_eq_cutTo {x : Decimal} (h : 0 ≤ x) : quantizeDown x = cutTo numericPlaces x := by
  have hscaled : 0 ≤ x * 10 ^ numericPlaces := mul_nonneg h (ten_pow_pos numericPlaces).le
  unfold quantizeDown toIntegralDown cutTo
  rw [if_pos hscaled]

theorem FxRate.usdtReceived_eq (hask : 0 < fx.ask) (hnonneg : 0 ≤ inrAmount)
    (hkept : fx.KeepsQuotient r inrAmount) :
    fx.usdtReceived r inrAmount = cutTo numericPlaces (inrAmount / fx.ask) := by
  have hquotient : 0 ≤ inrAmount / fx.ask := div_nonneg hnonneg hask.le
  have hrounded : 0 ≤ r.round (inrAmount / fx.ask) := r.exact_zero.le_round hquotient
  unfold usdtReceived rateForBuy
  rw [quantizeDown_eq_cutTo hrounded]
  exact hkept

theorem credited_le (hask : 0 < fx.ask) (hnonneg : 0 ≤ inrAmount)
    (hkept : fx.KeepsQuotient r inrAmount) (db : LedgerDb) :
    credited r b userId fx db inrAmount ≤ inrAmount / fx.ask := by
  have hends := convertIn_wp r b userId fx db inrAmount
  unfold credited
  cases hrun : convertIn r b userId fx inrAmount db with
  | ok usdt db' =>
      show usdt ≤ inrAmount / fx.ask
      rw [(wp_ok hends hrun).1, FxRate.usdtReceived_eq hask hnonneg hkept]
      exact cutTo_le _ _
  | error e db' => exact div_nonneg hnonneg hask.le

/-! ## A list of conversions -/

/-- What a list of conversions that go through brings. -/
theorem creditedTotal_eq (amounts : List Decimal) : ∀ {db : LedgerDb},
    AllOk (convertStep r b userId fx) (GoesThrough r b userId fx) db amounts →
      creditedTotal r b userId fx db amounts = (amounts.map (fx.usdtReceived r)).sum := by
  induction amounts with
  | nil => exact fun _ => rfl
  | cons inrAmount rest ih =>
      intro db h
      rw [creditedTotal, credited_of_goesThrough h.1, ih h.2, List.map_cons, List.sum_cons]

theorem allOk_of_forall {ok : LedgerDb → Decimal → Prop} (amounts : List Decimal)
    (hok : ∀ db, ∀ inrAmount ∈ amounts, ok db inrAmount) :
    ∀ {db : LedgerDb}, AllOk (convertStep r b userId fx) ok db amounts := by
  induction amounts with
  | nil => exact trivial
  | cons inrAmount rest ih =>
      intro db
      exact ⟨hok db inrAmount List.mem_cons_self,
        ih (fun db x hx => hok db x (List.mem_cons_of_mem _ hx))⟩

/-- The quotients, cut one by one. -/
theorem Convertible.map_usdtReceived (hask : 0 < fx.ask) {amounts : List Decimal}
    (h : Convertible r b userId fx db amounts) : amounts.map (fx.usdtReceived r) =
      (amounts.map (fun inrAmount => inrAmount / fx.ask)).map (cutTo numericPlaces) := by
  rw [List.map_map]
  refine List.map_congr_left (fun inrAmount hmem => ?_)
  exact FxRate.usdtReceived_eq hask (h.nonneg _ hmem) (h.kept _ hmem)

theorem Convertible.sum_nonneg {amounts : List Decimal}
    (h : Convertible r b userId fx db amounts) : 0 ≤ amounts.sum :=
  List.sum_nonneg h.nonneg

theorem sum_div (amounts : List Decimal) (c : Decimal) :
    (amounts.map (fun x => x / c)).sum = amounts.sum / c := by
  simp only [div_eq_mul_inv, List.sum_map_mul_right, List.map_id']

end Convert

/-! ## Quotients that are kept -/

/-- Amounts and rates of eight decimals give a quotient that 28 digits keep, up
to two hundred thousand million rupees. -/
theorem FxRate.keepsQuotient (fx : FxRate) (hask : 0 < fx.ask) (hrate : OnGrid numericPlaces fx.ask)
    {inrAmount : Decimal} (hamount : OnGrid numericPlaces inrAmount) (hnonneg : 0 ≤ inrAmount)
    (hbelow : inrAmount < 2 * 10 ^ 11) : fx.KeepsQuotient decimalContext inrAmount := by
  obtain ⟨m, hm⟩ := hamount
  obtain ⟨k, hk⟩ := hrate
  have hscale := ten_pow_pos (K := ℚ) numericPlaces
  have hkpos : 0 < k := by
    have hcast : (0 : ℚ) < k := hk ▸ mul_pos hask hscale
    exact_mod_cast hcast
  have hmnonneg : 0 ≤ m := by
    have hcast : (0 : ℚ) ≤ m := hm ▸ mul_nonneg hnonneg hscale.le
    exact_mod_cast hcast
  have hmbelow : m < 2 * 10 ^ 19 := by
    have hcast : (m : ℚ) < 2 * 10 ^ 19 := by
      rw [← hm]
      calc inrAmount * 10 ^ numericPlaces < 2 * 10 ^ 11 * 10 ^ numericPlaces :=
            mul_lt_mul_of_pos_right hbelow hscale
        _ = 2 * 10 ^ 19 := by norm_num [numericPlaces]
    exact_mod_cast hcast
  have hquotient : inrAmount / fx.ask = m / k := by
    rw [← hm, ← hk, mul_div_mul_right _ _ hscale.ne']
  unfold KeepsQuotient cutTo
  rw [hquotient]
  rcases hmnonneg.eq_or_lt with rfl | hmpos
  · simp [decimalContext.zero]
  have hkcast : (0 : ℚ) < k := by exact_mod_cast hkpos
  have hpos : (0 : ℚ) < m / k := div_pos (by exact_mod_cast hmpos) hkcast
  have hround : decimalContext.round ((m : ℚ) / k) = roundNonneg 28 (m / k) := if_neg hpos.not_gt
  rw [hround]
  congr 2
  -- the next unit is at least one part in `k` away
  have hnext : m * 10 ^ numericPlaces + 1 ≤ (⌊(m : ℚ) / k * 10 ^ numericPlaces⌋ + 1) * k := by
    have hlt := Int.lt_floor_add_one ((m : ℚ) / k * 10 ^ numericPlaces)
    rw [div_mul_eq_mul_div, div_lt_iff₀ hkcast] at hlt
    rw [div_mul_eq_mul_div]
    exact_mod_cast hlt
  have hnextCast : (m : ℚ) * 10 ^ numericPlaces + 1 ≤
      (⌊(m : ℚ) / k * 10 ^ numericPlaces⌋ + 1) * k := by exact_mod_cast hnext
  have hmcast : (m : ℚ) < 2 * 10 ^ 19 := by exact_mod_cast hmbelow
  have hkone : (1 : ℚ) ≤ k := by exact_mod_cast hkpos
  refine floor_roundNonneg hpos (by norm_num) numericPlaces ?_ ?_
  · rw [div_mul_eq_mul_div, div_lt_iff₀ hkcast]
    unfold numericPlaces
    nlinarith
  · have hsum : ((m : ℚ) / k + m / k / (2 * 10 ^ (28 - 1))) * 10 ^ numericPlaces =
        (m * 10 ^ numericPlaces + m * 10 ^ numericPlaces / (2 * 10 ^ (28 - 1))) / k := by ring
    rw [hsum, div_lt_iff₀ hkcast]
    refine lt_of_lt_of_le ?_ hnextCast
    unfold numericPlaces
    linarith

theorem demoRate_keepsQuotient : FxRate.KeepsQuotient ⟨83, 84⟩ decimalContext 100 :=
  FxRate.keepsQuotient _ (by norm_num) ⟨84 * 10 ^ 8, by norm_num [numericPlaces]⟩
    ⟨100 * 10 ^ 8, by norm_num [numericPlaces]⟩ (by norm_num) (by norm_num)

/-! ## Fair conversions -/

/-- **Conversions are made as a whole or not at all, and those of a list are
fair**: when no amount is negative, no quotient is carried and they go through,
in any decimal context and on either database. -/
theorem conversions_fair (r : Rounding) (b : Backend) (userId : String) (fx : FxRate)
    (hask : 0 < fx.ask) (db : LedgerDb) (amounts : List Decimal) :
    AllOk (convertStep r b userId fx) (Together r b userId fx) db amounts ∧
      (amounts ≠ [] → Convertible r b userId fx db amounts →
        FairConversion r b userId fx db amounts) := by
  have htogether : AllOk (convertStep r b userId fx) (Together r b userId fx) db amounts :=
    allOk_of_forall amounts (fun db inrAmount _ => together db inrAmount)
  refine ⟨htogether, fun hne h => ?_⟩
  have htotal : creditedTotal r b userId fx db amounts =
      ((amounts.map (fun inrAmount => inrAmount / fx.ask)).map (cutTo numericPlaces)).sum := by
    rw [creditedTotal_eq amounts h.through, h.map_usdtReceived hask]
  have honce : credited r b userId fx db amounts.sum =
      cutTo numericPlaces (amounts.map (fun inrAmount => inrAmount / fx.ask)).sum := by
    rw [credited_of_goesThrough h.throughSum,
      FxRate.usdtReceived_eq hask h.sum_nonneg h.keptSum, sum_div]
  have hquotients : amounts.map (fun inrAmount => inrAmount / fx.ask) ≠ [] := by simpa using hne
  have hshort := cutTo_sum_lt numericPlaces hquotients
  rw [List.length_map] at hshort
  refine ⟨?_, ?_, ?_, htogether⟩
  · rw [htotal, honce]
    exact sum_cutTo_le numericPlaces _
  · rw [htotal, honce]
    exact hshort
  · exact allOk_of_forall amounts (fun db inrAmount hmem =>
      credited_le hask (h.nonneg _ hmem) (h.kept _ hmem) db)

/-- A ledger of the user with this much in INR. -/
def demoFunded (b : Backend) (inr : Decimal) : LedgerDb :=
  LedgerOp.step b .empty (.deposit ⟨"default", "INR"⟩ inr)

/-- A hundred rupees at 83, in three parts, the last of which is too small for a
unit and refused. -/
theorem conversions_fair_parts :
    FairConversion decimalContext .postgres "default" ⟨82, 83⟩ (demoFunded .postgres 100)
      [60, 30, 1 / 10 ^ 8] :=
  (conversions_fair decimalContext .postgres "default" ⟨82, 83⟩ (by norm_num)
    (demoFunded .postgres 100) [60, 30, 1 / 10 ^ 8]).2 (by simp)
    ⟨by decide +kernel, by decide +kernel, by decide +kernel,
      ⟨goesThrough_of_ends (by decide +kernel), goesThrough_of_ends (by decide +kernel),
        .inr (by decide +kernel), trivial⟩,
      goesThrough_of_ends (by decide +kernel)⟩

/-- Three ways to be unfair: 28 digits carry the quotient of 8.3 * 10^11 rupees
to the next unit; a negative amount is cut towards zero, on a database that checks
nothing; and the sum is more than there is, where one part was not. -/
theorem conversions_not_fair :
    ¬ FairConversion decimalContext .postgres "default" ⟨83, 83 + 1 / 10 ^ 8⟩
        (demoFunded .postgres (10 ^ 12)) [83000000010000000083 / 10 ^ 8] ∧
      ¬ FairConversion decimalContext .sqlite "default" ⟨83, 83⟩ (demoFunded .sqlite 100)
        [-(1 / 10 ^ 8)] ∧
      ¬ FairConversion decimalContext .sqlite "default" ⟨83, 83⟩ (demoFunded .sqlite 100) [83, 83] := by
  refine ⟨fun h => ?_, fun h => ?_, fun h => ?_⟩
  · exact absurd h.within.1 (by decide +kernel)
  · exact absurd h.within.1 (by decide +kernel)
  · exact absurd h.total_le (by decide +kernel)

end CryptoTrader
