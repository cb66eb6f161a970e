import CryptoTrader.Ledger.FxService

/-!
# Where rates come from

Every rate in the cache or in the table was read from an entry that the venue
reported at the time the rate is stamped with, so a rate that is not stale is no
older than the limit.  What was read is a price of the venue, unless the entry has
no positive price to read.
-/

namespace CryptoTrader.Fx

open CryptoTrader.Lib

/-! ## The decimal context -/

section Context

variable {x : ℚ}

theorem round_pos (h : 0 < x) : 0 < decimalContext.round x := by
  have hdigits : 10 ^ (28 - 1) ≤ Lib.roundHalfEven (x / lastUnit 28 x) :=
    (significand_bounds h (by norm_num)).1
  have hsignificand : (0 : ℚ) < (Lib.roundHalfEven (x / lastUnit 28 x) : ℤ) := by
    have hpos : (0 : ℤ) < 10 ^ (28 - 1) := by norm_num
    exact_mod_cast hpos.trans_le hdigits
  show 0 < roundSignificant 28 x
  rw [roundSignificant, if_neg h.not_gt]
  exact mul_pos hsignificand lastUnit_pos

theorem round_le (h : 0 ≤ x) : decimalContext.round x ≤ 101 / 100 * x := by
  show roundSignificant 28 x ≤ 101 / 100 * x
  rw [roundSignificant, if_neg h.not_gt]
  rcases h.eq_or_lt with rfl | hpos
  · simp
  · have hbound : roundNonneg 28 x ≤ x + x / (2 * 10 ^ (28 - 1)) :=
      roundNonneg_le_add hpos (by norm_num)
    have hsmall : x / (2 * 10 ^ (28 - 1)) ≤ x / 100 :=
      div_le_div_of_nonneg_left h (by norm_num) (by norm_num)
    linarith

end Context

namespace FXService

variable (svc : FXService)

/-! ## Prices of the venue -/

/-- A side that the entry quotes. -/
def quote (entry : Entry) (key : String) : Option PyFloat :=
  if (field entry key).truthy then svc.decimal (field entry key) else none

/-- The sides are the venue's: both quoted, or both made of its last price. -/
inductive Derived (entry : Entry) : PyFloat → PyFloat → Prop where
  | quoted {bid ask : PyFloat} (hbid : svc.quote entry "bid" = some bid)
      (hask : svc.quote entry "ask" = some ask) : Derived entry bid ask
  | last {last : PyFloat} (hlast : svc.price entry ["last_price"] = some last) :
      Derived entry last last
  | around {last : ℚ} (hlast : svc.price entry ["last_price", "last"] = some (.fin last))
      (hpos : 0 < last) : Derived entry (svc.around last).1 (svc.around last).2

/-- Positive, with the bid at most the ask. -/
def Ordered (bid ask : PyFloat) : Prop := PyFloat.lt (.fin 0) bid ∧ bid.le ask

/-- A side and the last price are not positive. -/
def Priceless (entry : Entry) : Prop :=
  (∃ side, (svc.price entry ["bid", "last_price"] = some side ∨
      svc.price entry ["ask", "last_price"] = some side) ∧ side.le (.fin 0)) ∧
    ∃ last, svc.price entry ["last_price", "last"] = some last ∧ last.le (.fin 0)

/-- The sides are positive, but only one is quoted, or the ask is below the bid. -/
def Disordered (entry : Entry) : Prop :=
  ∃ bid ask, svc.price entry ["bid", "last_price"] = some bid ∧
    svc.price entry ["ask", "last_price"] = some ask ∧
    PyFloat.lt (.fin 0) bid ∧ PyFloat.lt (.fin 0) ask ∧
    ((field entry "bid").truthy ≠ (field entry "ask").truthy ∨ ask.lt bid)

/-! ## What an entry gives -/

/-- Half the spread is less than the price. -/
theorem around_ordered {mid : ℚ} (h : 0 < mid) :
    Ordered (svc.around mid).1 (svc.around mid).2 := by
  have hspread : 0 ≤ mid * svc.spread := mul_nonneg h.le svc.spread_nonneg
  have hshare : mid * svc.spread ≤ mid := mul_le_of_le_one_right h.le svc.spread_le_one
  have hfirst := round_le hspread
  have hfirst' : 0 ≤ decimalContext.round (mid * svc.spread) :=
    decimalContext.exact_zero.le_round hspread
  have hhalf := round_le (x := decimalContext.round (mid * svc.spread) / 2) (by linarith)
  have hhalf' : 0 ≤ decimalContext.round (decimalContext.round (mid * svc.spread) / 2) :=
    decimalContext.exact_zero.le_round (by linarith)
  constructor
  · exact (PyFloat.lt_fin _ _).mpr (round_pos (by linarith))
  · exact (PyFloat.le_fin _ _).mpr (decimalContext.mono (by linarith))

section Floats

variable {x y : PyFloat}

theorem notPositive_true (h : notPositive x = some true) : x.le (.fin 0) = true := by
  cases x <;> simp_all [notPositive]

theorem notPositive_false (h : notPositive x = some false) : PyFloat.lt (.fin 0) x = true := by
  cases x <;> simp_all [notPositive, PyFloat.le, PyFloat.lt]

theorem not_le_of_lt (h : PyFloat.lt (.fin 0) x = true) : x.le (.fin 0) = false := by
  cases x <;> simp_all [PyFloat.le, PyFloat.lt]

/-- Positive numbers are comparable. -/
theorem le_of_not_lt (hx : PyFloat.lt (.fin 0) x = true) (hy : PyFloat.lt (.fin 0) y = true)
    (h : y.lt x = false) : x.le y = true := by
  cases x <;> cases y <;> simp_all [PyFloat.le, PyFloat.lt]

end Floats

/-- Without the first field, the price is that of the others. -/
theorem price_of_empty {entry : Entry} {key : String} {keys : List String}
    (h : (field entry key).truthy = false) :
    svc.price entry (key :: keys) = svc.price entry keys := by
  simp [price, h]

theorem price_of_field {entry : Entry} {key : String} {keys : List String}
    (h : (field entry key).truthy = true) :
    svc.price entry (key :: keys) = svc.quote entry key := by
  simp [price, quote, h]

/-- The sides of an entry: venue's prices in order, unless the entry is priceless or
disordered. -/
structure ReadFrom (entry : Entry) (bid ask : PyFloat) : Prop where
  bid_pos : PyFloat.lt (.fin 0) bid
  ask_pos : PyFloat.lt (.fin 0) ask
  fallback : svc.Priceless entry → (bid, ask) = svc.around 85
  honest : ¬ svc.Priceless entry → ¬ svc.Disordered entry →
    svc.Derived entry bid ask ∧ bid.le ask

variable {svc} {entry : Entry} {bid ask last : PyFloat}

theorem readFrom_around {mid : ℚ} (hpos : 0 < mid)
    (hfallback : svc.Priceless entry → svc.around mid = svc.around 85)
    (hderived : ¬ svc.Priceless entry →
      svc.Derived entry (svc.around mid).1 (svc.around mid).2) :
    svc.ReadFrom entry (svc.around mid).1 (svc.around mid).2 := by
  have hordered := svc.around_ordered hpos
  constructor
  · exact hordered.1
  · have hask := hordered.2
    have hbid := hordered.1
    simp only [around, PyFloat.le_fin, PyFloat.lt_fin] at hask hbid ⊢
    linarith
  · exact hfallback
  · exact fun hpriced _ => ⟨hderived hpriced, hordered.2⟩

/-- The sides made of the last price. -/
theorem synthesise_readFrom
    (hside : ∃ side, (svc.price entry ["bid", "last_price"] = some side ∨
      svc.price entry ["ask", "last_price"] = some side) ∧ side.le (.fin 0))
    (hlast : svc.price entry ["last_price", "last"] = some last)
    (h : svc.synthesise last = some (bid, ask)) : svc.ReadFrom entry bid ask := by
  -- without a positive last price, the entry is priceless
  have hconstant : last.le (.fin 0) = true →
      svc.ReadFrom entry (svc.around 85).1 (svc.around 85).2 := fun hle =>
    readFrom_around (by norm_num) (fun _ => rfl)
      (fun hpriced => absurd ⟨hside, last, hlast, hle⟩ hpriced)
  cases last with
  | nan => cases h
  | posInf => cases h
  | negInf =>
      cases h
      exact hconstant rfl
  | fin q =>
      by_cases hq : 0 < q
      · simp only [synthesise, if_pos hq, Option.some.injEq] at h
        obtain ⟨rfl, rfl⟩ := Prod.mk.injEq .. ▸ h
        refine readFrom_around hq (fun hpriceless => ?_) (fun _ => .around hlast hq)
        obtain ⟨-, other, hother, hle⟩ := hpriceless
        rw [hlast, Option.some.injEq] at hother
        rw [← hother, PyFloat.le_fin] at hle
        linarith
      · simp only [synthesise, if_neg hq, Option.some.injEq] at h
        obtain ⟨rfl, rfl⟩ := Prod.mk.injEq .. ▸ h
        exact hconstant ((PyFloat.le_fin _ _).mpr (not_lt.mp hq))

/-- The sides as the entry has them. -/
theorem positive_readFrom (hbid : svc.price entry ["bid", "last_price"] = some bid)
    (hask : svc.price entry ["ask", "last_price"] = some ask)
    (hbidPos : PyFloat.lt (.fin 0) bid = true) (haskPos : PyFloat.lt (.fin 0) ask = true) :
    svc.ReadFrom entry bid ask := by
  constructor
  · exact hbidPos
  · exact haskPos
  · intro hpriceless
    obtain ⟨⟨side, hside, hle⟩, -⟩ := hpriceless
    rw [hbid, hask, Option.some.injEq, Option.some.injEq] at hside
    rcases hside with rfl | rfl
    · simp [not_le_of_lt hbidPos] at hle
    · simp [not_le_of_lt haskPos] at hle
  · intro _ hordered
    have hsame : (field entry "bid").truthy = (field entry "ask").truthy := by
      by_contra hne
      exact hordered ⟨bid, ask, hbid, hask, hbidPos, haskPos, Or.inl hne⟩
    have hle : ask.lt bid = false := by
      by_contra hlt
      exact hordered ⟨bid, ask, hbid, hask, hbidPos, haskPos, Or.inr (by simpa using hlt)⟩
    refine ⟨?_, le_of_not_lt hbidPos haskPos hle⟩
    cases hquoted : (field entry "bid").truthy with
    | true =>
        rw [price_of_field svc hquoted] at hbid
        rw [price_of_field svc (hsame ▸ hquoted)] at hask
        exact .quoted hbid hask
    | false =>
        rw [price_of_empty svc hquoted] at hbid
        rw [price_of_empty svc (hsame ▸ hquoted), hbid, Option.some.injEq] at hask
        rw [← hask]
        exact .last hbid

theorem sides_readFrom (h : svc.sides entry = some (bid, ask)) : svc.ReadFrom entry bid ask := by
  simp only [sides, Option.bind_eq_bind, Option.bind_eq_some_iff] at h
  obtain ⟨bid', hbid, ask', hask, last, hlast, bidMissing, hbidMissing, h⟩ := h
  cases bidMissing with
  | true => exact synthesise_readFrom ⟨bid', Or.inl hbid, notPositive_true hbidMissing⟩ hlast h
  | false =>
      obtain ⟨missing, hmissing, h⟩ := Option.bind_eq_some_iff.mp h
      cases missing with
      | true => exact synthesise_readFrom ⟨ask', Or.inr hask, notPositive_true hmissing⟩ hlast h
      | false =>
          simp only [Bool.false_eq_true, if_false, Option.some.injEq, Prod.mk.injEq] at h
          obtain ⟨rfl, rfl⟩ := h
          exact positive_readFrom hbid hask (notPositive_false hbidMissing)
            (notPositive_false hmissing)

/-! ## What the table keeps -/

variable (svc) in
/-- The rate has these sides, or what the table stores for them. -/
def Carries (bid ask : PyFloat) (rate : FxRate) : Prop :=
  (rate.bid = bid ∧ rate.ask = ask) ∨
    (svc.column bid = some rate.bid ∧ svc.column ask = some rate.ask)

variable (svc) in
/-- A bid that Postgres stores as zero. -/
def Vanishes (bid : PyFloat) : Prop :=
  svc.backend = .postgres ∧ bid.lt (.fin (5 / 10 ^ 9)) = true

theorem column_sqlite (hbackend : svc.backend = .sqlite) (x : PyFloat) :
    svc.column x = some x := by
  cases x <;> simp [column, hbackend, Backend.column, Except.toOption]

/-- A number that Postgres stores is rounded to the column's places. -/
theorem column_postgres (hbackend : svc.backend = .postgres) {x y : PyFloat}
    (h : svc.column x = some y) :
    ∃ q, x = .fin q ∧ y = .fin (roundTo numericPlaces q) ∧
      ¬ 10 ^ 20 ≤ |roundTo numericPlaces q| := by
  cases x with
  | fin q =>
      by_cases hbig : 10 ^ 20 ≤ |roundTo numericPlaces q|
      · simp [column, hbackend, Backend.column, hbig, Except.toOption] at h
      · simp only [column, hbackend, Backend.column, hbig, if_false, Except.toOption,
          Option.map_some, Option.some.injEq] at h
        exact ⟨q, rfl, h.symm, hbig⟩
  | nan => simp [column, hbackend] at h
  | posInf => simp [column, hbackend] at h
  | negInf => simp [column, hbackend] at h

/-- What is stored is stored as it is. -/
theorem column_idem {x y : PyFloat} (h : svc.column x = some y) : svc.column y = some y := by
  cases hbackend : svc.backend with
  | sqlite => exact column_sqlite hbackend y
  | postgres =>
      obtain ⟨q, -, rfl, hfits⟩ := column_postgres hbackend h
      have hstored : roundTo numericPlaces (roundTo numericPlaces q) = roundTo numericPlaces q :=
        roundTo_of_onGrid (onGrid_roundTo numericPlaces q)
      simp [column, hbackend, Backend.column, hstored, hfits, Except.toOption]

theorem Carries.row {rate stored : FxRate} (h : svc.Carries bid ask rate)
    (hrow : svc.row rate = some stored) :
    svc.Carries bid ask stored ∧ stored.capturedAt = rate.capturedAt := by
  simp only [FXService.row, Option.bind_eq_bind, Option.bind_eq_some_iff] at hrow
  obtain ⟨bid', hbid, ask', hask, mid', -, hstored⟩ := hrow
  cases hstored
  refine ⟨Or.inr ?_, rfl⟩
  rcases h with ⟨rfl, rfl⟩ | ⟨hbid', hask'⟩
  · exact ⟨hbid, hask⟩
  · rw [column_idem hbid', Option.some.injEq] at hbid
    rw [column_idem hask', Option.some.injEq] at hask
    exact ⟨hbid ▸ hbid', hask ▸ hask'⟩

theorem roundTo_mono {x y : ℚ} (hx : 0 ≤ x) (h : x ≤ y) (places : ℕ) :
    roundTo places x ≤ roundTo places y := by
  have hscale : (0 : ℚ) < 10 ^ places := ten_pow_pos places
  have hfirst : 0 ≤ x * 10 ^ places := mul_nonneg hx hscale.le
  have hscaled : x * 10 ^ places ≤ y * 10 ^ places := mul_le_mul_of_nonneg_right h hscale.le
  unfold roundTo roundHalfAway
  rw [if_pos hfirst, if_pos (hfirst.trans hscaled)]
  refine div_le_div_of_nonneg_right ?_ hscale.le
  exact Int.cast_le.mpr (Int.floor_mono (by linarith))

/-- Half a unit is rounded to one. -/
theorem roundTo_pos {x : ℚ} (h : 5 / 10 ^ 9 ≤ x) : 0 < roundTo numericPlaces x := by
  have hscaled : 1 / 2 ≤ x * 10 ^ numericPlaces := by
    unfold numericPlaces
    linarith
  have hfloor : (1 : ℤ) ≤ ⌊x * 10 ^ numericPlaces + 1 / 2⌋ := Int.le_floor.mpr (by
    push_cast
    linarith)
  unfold roundTo roundHalfAway
  rw [if_pos (by linarith)]
  exact div_pos (by exact_mod_cast hfloor) (ten_pow_pos numericPlaces)

theorem Carries.ordered {rate : FxRate} (h : svc.Carries bid ask rate)
    (hpos : PyFloat.lt (.fin 0) bid = true) (hle : bid.le ask = true) :
    rate.bid.le rate.ask = true := by
  rcases h with ⟨rfl, rfl⟩ | ⟨hbid, hask⟩
  · exact hle
  · cases hbackend : svc.backend with
    | sqlite =>
        rw [column_sqlite hbackend, Option.some.injEq] at hbid hask
        rwa [← hbid, ← hask]
    | postgres =>
        obtain ⟨b, rfl, hbid, -⟩ := column_postgres hbackend hbid
        obtain ⟨a, rfl, hask, -⟩ := column_postgres hbackend hask
        rw [PyFloat.lt_fin] at hpos
        rw [PyFloat.le_fin] at hle
        rw [hbid, hask, PyFloat.le_fin]
        exact roundTo_mono hpos.le hle numericPlaces

theorem Carries.positive {rate : FxRate} (h : svc.Carries bid ask rate)
    (hpos : PyFloat.lt (.fin 0) bid = true) (hkept : ¬ svc.Vanishes bid) :
    PyFloat.lt (.fin 0) rate.bid = true := by
  rcases h with ⟨rfl, rfl⟩ | ⟨hbid, -⟩
  · exact hpos
  · cases hbackend : svc.backend with
    | sqlite =>
        rw [column_sqlite hbackend, Option.some.injEq] at hbid
        rwa [← hbid]
    | postgres =>
        obtain ⟨b, rfl, hbid, -⟩ := column_postgres hbackend hbid
        rw [hbid, PyFloat.lt_fin]
        refine roundTo_pos ?_
        by_contra hsmall
        exact hkept ⟨hbackend, (PyFloat.lt_fin _ _).mpr (not_le.mp hsmall)⟩

/-! ## Runs -/

variable (svc) in
/-- The rate was read from an entry, reported at the time it is stamped with. -/
def Reported (reports : List Report) (rate : FxRate) : Prop :=
  ∃ report ∈ reports, report.time = rate.capturedAt ∧
    ∃ bid ask, svc.sides report.entry = some (bid, ask) ∧ svc.Carries bid ask rate

variable (svc) in
/-- So was every rate of the world. -/
structure AllReported (w : World) : Prop where
  cache : ∀ rate, w.cache = some rate → svc.Reported w.reports rate
  rows : ∀ rate ∈ w.rows, svc.Reported w.reports rate

section Steps

variable {w : World}

theorem Reported.mono {reports more : List Report} {rate : FxRate}
    (h : svc.Reported reports rate) : svc.Reported (reports ++ more) rate := by
  obtain ⟨report, hmem, hrest⟩ := h
  exact ⟨report, List.mem_append_left more hmem, hrest⟩

theorem AllReported.persist (h : svc.AllReported w) {rate : FxRate}
    (hrate : svc.Reported w.reports rate) (persists : Bool) :
    svc.AllReported (svc.persist w rate persists) := by
  refine ⟨h.cache, fun stored hstored => ?_⟩
  rcases List.mem_append.mp hstored with hold | hnew
  · exact h.rows stored hold
  · cases persists with
    | false => cases hnew
    | true =>
        have hrow : svc.row rate = some stored := Option.mem_toList.mp hnew
        obtain ⟨report, hmem, htime, bid, ask, hsides, hcarries⟩ := hrate
        obtain ⟨hcarries', hstamp⟩ := hcarries.row hrow
        exact ⟨report, hmem, htime.trans hstamp.symm, bid, ask, hsides, hcarries'⟩

theorem AllReported.refresh (h : svc.AllReported w) {now : ℤ} {resp : Response} {w' : World}
    (hrefresh : svc.refresh w now resp = some w') : svc.AllReported w' := by
  obtain ⟨fetched, hfetch, rfl⟩ := Option.map_eq_some_iff.mp hrefresh
  simp only [fetchFromCoindcx, Option.bind_eq_bind, Option.bind_eq_some_iff] at hfetch
  obtain ⟨tickers, -, entry, -, ⟨bid, ask⟩, hsides, hrate⟩ := hfetch
  cases hrate
  have hnew : svc.Reported (w.reports ++ [⟨now, entry⟩])
      { bid, ask, mid := midOf bid ask, capturedAt := now } :=
    ⟨⟨now, entry⟩, by simp, rfl, bid, ask, hsides, Or.inl ⟨rfl, rfl⟩⟩
  refine AllReported.persist ⟨fun cached hcached => ?_, fun stored hstored => ?_⟩ hnew resp.persists
  · cases hcached
    exact hnew
  · exact (h.rows stored hstored).mono

theorem AllReported.getRate (h : svc.AllReported w) (allowStale : Bool) (clock : Clock)
    (resp : Response) : svc.AllReported (svc.getRate w allowStale clock resp).2 := by
  unfold FXService.getRate
  split_ifs
  · cases hrefresh : svc.refresh w clock.fetched resp with
    | none => exact h
    | some w' => exact h.refresh hrefresh
  · exact h

theorem getRate_cached {allowStale : Bool} {clock : Clock} {resp : Response} {rate : FxRate}
    (h : (svc.getRate w allowStale clock resp).1 = some rate) :
    (svc.getRate w allowStale clock resp).2.cache = some rate := by
  unfold FXService.getRate at h ⊢
  split_ifs at h ⊢
  · cases hrefresh : svc.refresh w clock.fetched resp with
    | none =>
        simp only [hrefresh] at h
        exact (Option.filter_eq_some_iff.mp h).1
    | some w' =>
        simp only [hrefresh] at h
        exact (Option.filter_eq_some_iff.mp h).1
  · exact (Option.filter_eq_some_iff.mp h).1

/-- It is not stale, unless stale ones are allowed. -/
theorem getRate_fresh {clock : Clock} {resp : Response} {rate : FxRate}
    (h : (svc.getRate w false clock resp).1 = some rate) :
    clock.after - rate.capturedAt ≤ svc.maxAgeMs := by
  have hchecked : ∀ world : World, svc.checked world false clock.after = some rate →
      clock.after - rate.capturedAt ≤ svc.maxAgeMs := by
    intro world hworld
    have hfresh := (Option.filter_eq_some_iff.mp hworld).2
    simpa [FxRate.isStale] using hfresh
  unfold FXService.getRate at h
  split_ifs at h
  · cases hrefresh : svc.refresh w clock.fetched resp with
    | none =>
        simp only [hrefresh] at h
        cases (Option.filter_eq_some_iff.mp h).2
    | some w' =>
        simp only [hrefresh] at h
        exact hchecked w' h
  · exact hchecked w h

theorem AllReported.warmStart (h : svc.AllReported w) (now : ℤ) (choice : ℕ) :
    svc.AllReported (warmStart w now choice) := by
  unfold FXService.warmStart
  cases hlatest : getLatestPersisted w 300000 now choice with
  | none => exact h
  | some rate =>
      have hnewest := List.mem_of_getElem? (Option.filter_eq_some_iff.mp hlatest).1
      have hrow : rate ∈ w.rows := List.mem_of_mem_filter hnewest
      refine ⟨fun cached hcached => ?_, h.rows⟩
      cases hcached
      exact h.rows rate hrow

theorem AllReported.convertAt (h : svc.AllReported w) (clock : Clock) (resp : Response)
    (saves : Bool) : svc.AllReported (svc.convertAt w clock resp saves) := by
  have hworld := h.getRate false clock resp
  unfold FXService.convertAt
  cases hresult : svc.getRate w false clock resp with
  | mk returned w' =>
      rw [hresult] at hworld
      cases returned with
      | none => exact hworld
      | some rate =>
          have hreturned : (svc.getRate w false clock resp).1 = some rate := by rw [hresult]
          have hcached := getRate_cached hreturned
          rw [hresult] at hcached
          exact hworld.persist (hworld.cache rate hcached) saves

theorem AllReported.step (h : svc.AllReported w) (e : Event) : svc.AllReported (svc.step w e) := by
  cases e with
  | getRate allowStale clock resp => exact h.getRate allowStale clock resp
  | forceRefresh now resp =>
      show svc.AllReported ((svc.refresh w now resp).getD w)
      cases hrefresh : svc.refresh w now resp with
      | none => exact h
      | some w' => exact h.refresh hrefresh
  | warmStart now choice => exact h.warmStart now choice
  | convert clock resp saves => exact h.convertAt clock resp saves
  | restart => exact ⟨fun rate hrate => (by cases hrate), h.rows⟩

end Steps

theorem run_allReported (svc : FXService) (events : List Event) :
    svc.AllReported (svc.run events) := by
  unfold run
  refine List.foldlRecOn events svc.step ?_ (fun w hw e _ => hw.step e)
  exact ⟨fun rate hrate => (by cases hrate), fun rate hrate => (by cases hrate)⟩

/-! ## The rates of a run -/

/-- A rate is the venue's, no older than the limit, and in order. -/
def Honest (svc : FXService) (w : World) (now : ℤ) (rate : FxRate) : Prop :=
  ∃ report ∈ w.reports, now - report.time ≤ svc.maxAgeMs ∧
    ∃ bid ask, svc.Carries bid ask rate ∧ svc.Derived report.entry bid ask ∧
      Ordered rate.bid rate.ask

/-- What a rate is that was read from an entry. -/
structure Sound (svc : FXService) (now : ℤ) (report : Report) (bid ask : PyFloat)
    (rate : FxRate) : Prop where
  stamped : report.time = rate.capturedAt
  fresh : now - report.time ≤ svc.maxAgeMs
  read : svc.ReadFrom report.entry bid ask
  carries : svc.Carries bid ask rate
  positive : ¬ svc.Vanishes bid → PyFloat.lt (.fin 0) rate.bid
  ordered : ¬ svc.Disordered report.entry → rate.bid.le rate.ask

/-- The rates that a service returns in a world, and its failures. -/
structure RatesSound (svc : FXService) (w : World) : Prop where
  returned : ∀ clock resp rate, (svc.getRate w false clock resp).1 = some rate →
    ∃ report ∈ (svc.getRate w false clock resp).2.reports, ∃ bid ask,
      Sound svc clock.after report bid ask rate
  failed : ∀ allowStale clock resp, svc.refresh w clock.fetched resp = none →
    (svc.getRate w allowStale clock resp).2.cache = w.cache
  failedForced : ∀ now resp, svc.refresh w now resp = none →
    (svc.step w (.forceRefresh now resp)).cache = w.cache

theorem ReadFrom.ordered (h : svc.ReadFrom entry bid ask) (hordered : ¬ svc.Disordered entry) :
    bid.le ask = true := by
  by_cases hpriceless : svc.Priceless entry
  · obtain ⟨rfl, rfl⟩ := Prod.mk.injEq .. ▸ h.fallback hpriceless
    exact (svc.around_ordered (by norm_num)).2
  · exact (h.honest hpriceless hordered).2

/-- In every world of every run. -/
theorem run_ratesSound (svc : FXService) (events : List Event) :
    svc.RatesSound (svc.run events) := by
  constructor
  · intro clock resp rate hrate
    have hworld := (run_allReported svc events).getRate false clock resp
    obtain ⟨report, hmem, htime, bid, ask, hsides, hcarries⟩ :=
      hworld.cache rate (getRate_cached hrate)
    have hread := sides_readFrom hsides
    refine ⟨report, hmem, bid, ask, ?_⟩
    constructor
    · exact htime
    · rw [htime]
      exact getRate_fresh hrate
    · exact hread
    · exact hcarries
    · exact fun hkept => hcarries.positive hread.bid_pos hkept
    · exact fun hordered => hcarries.ordered hread.bid_pos (hread.ordered hordered)
  · intro allowStale clock resp hfailed
    simp only [getRate, hfailed]
    split_ifs <;> rfl
  · intro now resp hfailed
    simp [step, hfailed]

/-! ### An entry without a price -/

/-- A service that reads integers. -/
def integers : FXService where
  backend := .sqlite
  decimal := fun v =>
    match v with
    | .int n => some (.fin n)
    | _ => none

/-- The pair's entry names the market only. -/
def unpriced : Response :=
  { tickers := some (.list [.dict [("market", .str "USDTINR")]]), persists := true }

theorem rates_not_honest : ¬ ∀ (svc : FXService) events clock resp rate,
    (svc.getRate (svc.run events) false clock resp).1 = some rate →
      Honest svc (svc.getRate (svc.run events) false clock resp).2 clock.after rate := by
  intro h
  let clock : Clock := ⟨0, 0, 0⟩
  have hreturns : (integers.getRate (integers.run []) false clock unpriced).1.isSome = true := by
    decide +kernel
  obtain ⟨rate, hrate⟩ := Option.isSome_iff_exists.mp hreturns
  obtain ⟨report, hmem, -, bid, ask, hcarries, hderived, hordered⟩ :=
    h integers [] clock unpriced rate hrate
  have hreport : report = ⟨0, [("market", .str "USDTINR")]⟩ := List.mem_singleton.mp hmem
  subst hreport
  cases hderived with
  | quoted hbid hask => cases hbid
  | last hlast =>
      cases hlast
      have hzero : rate.bid = .fin 0 := by
        rcases hcarries with ⟨hbid, -⟩ | ⟨hbid, -⟩
        · exact hbid
        · rw [column_sqlite rfl, Option.some.injEq] at hbid
          exact hbid.symm
      rw [hzero] at hordered
      cases hordered.1
  | around hlast hpos =>
      cases hlast
      exact absurd hpos (by decide)

end FXService

end CryptoTrader.Fx
