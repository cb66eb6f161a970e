import CryptoTrader.Live.Protection

/-!
# Entries under interference

Whether the fill of a live entry ends up as an open position, whatever other
threads do while `open_position` has released the lock.  Phase 2 checks
eligibility and margin again, after the venue has filled the order, and returns
without booking when a check fails.
-/

namespace CryptoTrader

open CryptoTrader.Lib

/-- The arguments of a live `open_position`. -/
structure Entry where
  symbol : Symbol
  setup : Setup
  markPrice : Decimal
  customMargin : Option Decimal := none
  customQuantity : Option Decimal := none

/-- What other threads do between the phases goes through the wallet's
operations, which keep the positions aligned with the reducer. -/
structure Interference.Keeps (others : Interference) : Prop where
  before : ∀ s, s.wallet.Aligned → (others.before s).wallet.Aligned
  after : ∀ s, s.wallet.Aligned → (others.after s).wallet.Aligned

theorem Interference.none_keeps : Interference.none.Keeps :=
  ⟨fun _ h => h, fun _ h => h⟩

namespace Entry

variable (e : Entry) (env : Env) (others : Interference) (qty : Decimal) (s : World)

/-- The call. -/
def run : Live (Option EnhancedPosition) :=
  openPosition env others e.symbol e.setup e.markPrice e.customMargin e.customQuantity none

/-- The quantity of phase 1. -/
def plan (w : Wallet) : Except PyErr (Option Decimal) :=
  w.openPlan e.symbol e.setup e.customMargin e.customQuantity

/-- The venue call of `qty`. -/
def fill : Live ExternalFill := venueFill env e.symbol e.setup.side qty "entry"

/-- Among what the venue call exchanged is an order that the venue took and
filled. -/
def Accepted : Prop :=
  ∃ ext, (final (e.fill env qty) (others.before s)).trace = (others.before s).trace ++ ext ∧
    ∃ c ∈ created ext, c.outcome.accepted ∧ 0 < c.outcome.executed

/-- The world in which the lock is taken again; when the venue call raises, it
is the one in which the call ends. -/
def returned : World :=
  match e.fill env qty (others.before s) with
  | .ok _ s' => others.after s'
  | .error _ s' => s'

/-- Going from `w` to `w'` a fill was booked, and the wallet still holds it. -/
structure Books (fill : ExternalFill) (w w' : Wallet) : Prop where
  event : ∃ p, Payload.positionOpened p ∈ w.appended w' ∧ p.symbol = e.symbol ∧
    p.quantity = qty ∧ p.executionPrice = fill.price ∧ p.fee = fill.fee
  position : ∃ pos, w'.getOpenPosition e.symbol = some pos ∧ pos.side = e.setup.side ∧
    pos.entryPrice = fill.price ∧ pos.remainingQuantity = qty

/-- When the call is over the wallet holds a position for its fill. -/
def Held : Prop :=
  ∃ fill : ExternalFill, (∀ f s', e.fill env qty (others.before s) = .ok f s' → fill = f) ∧
    e.Books qty fill (e.returned env others qty s).wallet (final (e.run env others) s).wallet

/-- The wallet after booking the fill in `s`. -/
def booked (fill : ExternalFill) : Wallet :=
  (s.wallet.bookOpen e.symbol e.setup e.markPrice e.customMargin e.customQuantity (some fill)
    (some qty)).2

/-- A required stop of a position cannot be placed, and the venue then reports
the symbol flat. -/
def LosesStop (pos : EnhancedPosition) (s : World) : Prop :=
  ∃ msg s', attemptProtective env pos s = .ok (.failed msg) s' ∧
    FlatReported env pos.symbol { s' with halt := true }

/-- What it takes for the fill to be held: the venue confirms it, both checks
of phase 2 still pass, and the position is not lost with its stop. -/
structure Passes (fill : ExternalFill) : Prop where
  confirmed : ∃ s', e.fill env qty (others.before s) = .ok fill s'
  eligible : ((e.returned env others qty s).wallet.canOpen e.symbol).1
  fits : qty * e.setup.entryPrice /
      ((e.returned env others qty s).wallet.getLeverage e.symbol : ℕ) ≤
    (e.returned env others qty s).wallet.availableBalance
  keepsStop : ∀ pos, (e.booked qty (e.returned env others qty s) fill).getOpenPosition e.symbol =
      some pos →
    ¬ LosesStop env pos { e.returned env others qty s with
      wallet := e.booked qty (e.returned env others qty s) fill }

end Entry

/-! ## Phase 2 -/

/-- Nothing is booked between two equal states. -/
theorem Entry.not_books_self (e : Entry) (qty : Decimal) (fill : ExternalFill) (w : Wallet) :
    ¬ e.Books qty fill w w := by
  intro h
  obtain ⟨p, hp, -⟩ := h.event
  rw [Wallet.appended_self] at hp
  cases hp

section Book

variable (env : Env) (e : Entry) {qty : Decimal} {s : World} (fill : ExternalFill)

/-- The sizing of phase 2 with the quantity that was sent. -/
theorem Wallet.sizeOpen_sent (w : Wallet) (symbol : Symbol) (setup : Setup)
    (customMargin customQuantity : Option Decimal) (qty : Decimal) :
    w.sizeOpen symbol setup customMargin customQuantity (some qty) =
      if (w.canOpen symbol).1 ∧
          qty * setup.entryPrice / (w.getLeverage symbol : ℕ) ≤ w.availableBalance then
        .ok (some ⟨qty, qty * setup.entryPrice,
          qty * setup.entryPrice / (w.getLeverage symbol : ℕ)⟩)
      else .ok none := by
  unfold Wallet.sizeOpen
  by_cases hcan : (w.canOpen symbol).1
  · by_cases hfits : qty * setup.entryPrice / (w.getLeverage symbol : ℕ) ≤ w.availableBalance
    · simp [hcan, hfits]
    · simp [hcan, not_le.mp hfits]
  · simp [hcan]

/-- A check of phase 2 fails: nothing is booked. -/
theorem openBook_refused (h : s.wallet.sizeOpen e.symbol e.setup e.customMargin e.customQuantity
    (some qty) = .ok none) :
    openBook env e.symbol e.setup e.markPrice e.customMargin e.customQuantity (some fill)
      (some qty) s = .ok none s := by
  have hbook : s.wallet.bookOpen e.symbol e.setup e.markPrice e.customMargin e.customQuantity
      (some fill) (some qty) = (.ok none, s.wallet) := by
    unfold Wallet.bookOpen
    rw [h]
  unfold openBook
  rw [bind_of_ok (onWallet_of_eq hbook)]
  rfl

/-- Both checks pass: the position is booked, and gets its protective orders. -/
theorem openBook_wp (haligned : s.wallet.Aligned) {size : Sizing}
    (hsize : s.wallet.sizeOpen e.symbol e.setup e.customMargin e.customQuantity (some qty) =
      .ok (some size)) :
    ∃ pos, Wallet.OnlyAt e.symbol s.wallet (e.booked qty s fill) ∧
      (e.booked qty s fill).getOpenPosition e.symbol = some pos ∧
      pos.BooksOpen s.wallet e.symbol e.setup size fill.price ∧
      (∃ p, Payload.positionOpened p ∈ s.wallet.appended (e.booked qty s fill) ∧
        p.symbol = e.symbol ∧ p.quantity = size.quantity ∧ p.executionPrice = fill.price ∧
        p.fee = fill.fee) ∧
      wp (openBook env e.symbol e.setup e.markPrice e.customMargin e.customQuantity (some fill)
          (some qty))
        (fun _ s' => World.Guarded env e.symbol pos { s with wallet := e.booked qty s fill } s')
        (fun _ s' => World.Guarded env e.symbol pos { s with wallet := e.booked qty s fill } s')
        s := by
  obtain ⟨pos, w', hbook, honly, hpos, hbooks, hevent⟩ := Wallet.bookOpen_of_size haligned e.symbol
    e.setup e.markPrice e.customMargin e.customQuantity (some qty) fill hsize
  have hbooked : e.booked qty s fill = w' := by
    unfold Entry.booked
    rw [hbook]
  rw [hbooked]
  refine ⟨pos, honly, hpos, hbooks, hevent, ?_⟩
  unfold openBook
  rw [wp_bind, wp_onWallet, hbook, wp_bind]
  exact placeAndSave_wp env (s := { s with wallet := w' }) honly.aligned hpos
    hbooks.protectiveOrders

/-- Phase 2 leaves the fill in the wallet exactly if both checks pass and the
position is not lost with its stop. -/
theorem openBook_books_iff (haligned : s.wallet.Aligned) :
    e.Books qty fill s.wallet (final (openBook env e.symbol e.setup e.markPrice e.customMargin
        e.customQuantity (some fill) (some qty)) s).wallet ↔
      ((s.wallet.canOpen e.symbol).1 ∧
        qty * e.setup.entryPrice / (s.wallet.getLeverage e.symbol : ℕ) ≤
          s.wallet.availableBalance) ∧
      ∀ pos, (e.booked qty s fill).getOpenPosition e.symbol = some pos →
        ¬ Entry.LosesStop env pos { s with wallet := e.booked qty s fill } := by
  have hsize := s.wallet.sizeOpen_sent e.symbol e.setup e.customMargin e.customQuantity qty
  by_cases hchecks : (s.wallet.canOpen e.symbol).1 ∧
      qty * e.setup.entryPrice / (s.wallet.getLeverage e.symbol : ℕ) ≤ s.wallet.availableBalance
  · rw [if_pos hchecks] at hsize
    obtain ⟨pos, honly, hpos, hbooks, ⟨p, hmem, hp⟩, hwp⟩ := openBook_wp env e fill haligned hsize
    have hguarded := (wp_final _).mp hwp
    set s' := final (openBook env e.symbol e.setup e.markPrice e.customMargin e.customQuantity
      (some fill) (some qty)) s
    rw [hpos]
    constructor
    · intro hheld
      refine ⟨hchecks, ?_⟩
      rintro _ ⟨⟩ ⟨msg, s₁, hfailed, hflat⟩
      -- a stop that is lost takes the position with it
      cases hguarded with
      | placed orders s₁' hattempt =>
          rw [hattempt] at hfailed
          cases hfailed
      | failed msg' s₁' hattempt _ hlost =>
          rw [hattempt] at hfailed
          cases hfailed
          rw [hbooks.symbol] at hflat
          obtain ⟨pos', hpos', -⟩ := hheld.position
          rw [hlost.closed hflat] at hpos'
          cases hpos'
    · rintro ⟨-, hkeeps⟩
      have hevent : ∀ w', Wallet.OnlyAt e.symbol (e.booked qty s fill) w' →
          Payload.positionOpened p ∈ s.wallet.appended w' :=
        fun w' h => Wallet.appended_mono honly.log h.log hmem
      cases hguarded with
      | placed orders s₁ hattempt _ _ _ _ hwallet hposition =>
          obtain ⟨pos', hpos', hdressed⟩ := hposition
          exact ⟨⟨p, hevent _ hwallet, hp⟩, pos', hpos', hdressed.side.trans hbooks.side,
            hdressed.entryPrice.trans hbooks.entryPrice,
            hdressed.remainingQuantity.trans hbooks.remainingQuantity⟩
      | failed msg s₁ hattempt hprotecting hlost =>
          obtain ⟨ext, rfl, -⟩ := hprotecting
          have hkept := hlost.kept (fun hflat => hkeeps pos rfl ⟨msg, _, hattempt, by
            rw [hbooks.symbol]
            exact hflat⟩)
          exact ⟨⟨p, hevent _ hlost.wallet, hp⟩, pos, hkept.trans hpos, hbooks.side,
            hbooks.entryPrice, hbooks.remainingQuantity⟩
  · rw [if_neg hchecks] at hsize
    have hrefused := openBook_refused env e fill hsize
    have hfinal : final (openBook env e.symbol e.setup e.markPrice e.customMargin e.customQuantity
        (some fill) (some qty)) s = s := by
      unfold final
      rw [hrefused]
    rw [hfinal]
    exact ⟨fun h => absurd h (e.not_books_self qty fill _), fun h => absurd h.1 hchecks⟩

end Book

/-! ## The call -/

section Call

variable (env : Env) (others : Interference) {e : Entry} {qty : Decimal} {s : World}
  (hlive : s.wallet.liveExecution) (hplan : e.plan s.wallet = .ok (some qty))
include hlive hplan

/-- The call once phase 1 has settled a quantity. -/
theorem Entry.run_eq :
    e.run env others s =
      (e.fill env qty >>= fun fill => do
        modify others.after
        openBook env e.symbol e.setup e.markPrice e.customMargin e.customQuantity (some fill)
          (some qty)) (others.before s) := by
  unfold Entry.run openPosition
  rw [bind_of_ok (show (get : Live World) s = .ok s s from rfl), if_pos ⟨rfl, hlive⟩]
  have hopen : ofReply (s.wallet.openPlan e.symbol e.setup e.customMargin e.customQuantity) s =
      .ok (some qty) s := by
    rw [show s.wallet.openPlan e.symbol e.setup e.customMargin e.customQuantity = .ok (some qty)
      from hplan]
    rfl
  rw [bind_of_ok hopen]
  rfl

/-- The venue call raises, and so does the call. -/
theorem Entry.final_of_error {err : PyErr} {s' : World}
    (hfill : e.fill env qty (others.before s) = .error err s') :
    final (e.run env others) s = s' ∧ e.returned env others qty s = s' := by
  constructor
  · unfold final
    rw [e.run_eq env others hlive hplan, bind_of_error hfill]
  · unfold Entry.returned
    rw [hfill]

/-- The venue call returns, and phase 2 follows. -/
theorem Entry.final_of_ok {fill : ExternalFill} {s' : World}
    (hfill : e.fill env qty (others.before s) = .ok fill s') :
    final (e.run env others) s = final (openBook env e.symbol e.setup e.markPrice e.customMargin
        e.customQuantity (some fill) (some qty)) (others.after s') ∧
      e.returned env others qty s = others.after s' := by
  constructor
  · unfold final
    rw [e.run_eq env others hlive hplan, bind_of_ok hfill,
      bind_of_ok (show (modify others.after : Live Unit) s' = .ok () (others.after s') from rfl)]
  · unfold Entry.returned
    rw [hfill]

variable (haligned : s.wallet.Aligned) (hothers : others.Keeps)
include haligned hothers

theorem Entry.held_iff_passes :
    e.Held env others qty s ↔ ∃ fill, e.Passes env others qty s fill := by
  cases hfill : e.fill env qty (others.before s) with
  | error err s' =>
      obtain ⟨hfinal, hreturned⟩ := Entry.final_of_error env others hlive hplan hfill
      constructor
      · rintro ⟨fill, -, hbooks⟩
        rw [hfinal, hreturned] at hbooks
        exact absurd hbooks (e.not_books_self qty fill _)
      · rintro ⟨fill, hpasses⟩
        obtain ⟨s'', hok⟩ := hpasses.confirmed
        rw [hfill] at hok
        cases hok
  | ok fill s' =>
      obtain ⟨hfinal, hreturned⟩ := Entry.final_of_ok env others hlive hplan hfill
      have haligned₃ : (others.after s').wallet.Aligned := by
        refine hothers.after _ ?_
        rw [show s'.wallet = _ from wp_ok (venueFill_wallet env e.symbol e.setup.side qty "entry" _)
          hfill]
        exact hothers.before s haligned
      have hiff : e.Books qty fill (others.after s').wallet _ ↔ _ :=
        openBook_books_iff env e fill haligned₃
      rw [← hfinal, ← hreturned] at hiff
      constructor
      · rintro ⟨fill', hsame, hbooks⟩
        rw [hsame fill s' hfill] at hbooks
        obtain ⟨⟨heligible, hfits⟩, hkeeps⟩ := hiff.mp hbooks
        exact ⟨fill, ⟨s', hfill⟩, heligible, hfits, hkeeps⟩
      · rintro ⟨fill', hpasses⟩
        obtain ⟨s'', hok⟩ := hpasses.confirmed
        rw [hfill] at hok
        cases hok
        refine ⟨fill, ?_, hiff.mpr ⟨⟨hpasses.eligible, hpasses.fits⟩, hpasses.keepsStop⟩⟩
        intro f s'' hf
        rw [hfill] at hf
        cases hf
        rfl

/-- No fill is left unbooked: a call whose entry the venue took and filled ends,
returning or raising, with the fill in the wallet, if and only if the fill
passes. -/
theorem Entry.noUnbookedFill_iff :
    (e.Accepted env others qty s → e.Held env others qty s) ↔
      (e.Accepted env others qty s → ∃ fill, e.Passes env others qty s fill) :=
  imp_congr_right (fun _ => Entry.held_iff_passes env others hlive hplan haligned hothers)

end Call

/-! ## Two calls -/

/-- An entry of `qty` units of the demo symbol. -/
def demoCall (qty : Decimal) : Entry :=
  { symbol := demoSymbol
    setup := demoSetup
    markPrice := 100
    customQuantity := some qty }

theorem demoCall_accepted {qty : Decimal}
    (h : (created (final ((demoCall qty).fill demoEnv qty) demoWorld).trace).any
      (fun c => c.outcome.accepted ∧ 0 < c.outcome.executed)) :
    (demoCall qty).Accepted demoEnv .none qty demoWorld := by
  obtain ⟨c, hc, hfilled⟩ := List.any_eq_true.mp h
  exact ⟨_, rfl, c, hc, of_decide_eq_true hfilled⟩

/-- The fill of the small entry. -/
def demoFill : ExternalFill := { price := 100, fee := 1 / 10, orderId := "o1" }

/-- The fill of an entry the wallet can afford is held. -/
theorem demoCall_held : (demoCall 2).Held demoEnv .none 2 demoWorld := by
  have hfill : ends ((demoCall 2).fill demoEnv 2) demoWorld (fun fill _ => fill = demoFill) := by
    decide +kernel
  obtain ⟨fill, s', hrun, hfilled⟩ := exists_of_ends hfill
  obtain rfl := of_decide_eq_true hfilled
  refine (Entry.noUnbookedFill_iff demoEnv .none rfl (by decide +kernel)
    (Wallet.Aligned.boot demoInit id false) Interference.none_keeps).mpr
    (fun _ => ⟨demoFill, ⟨s', hrun⟩, by decide +kernel, by decide +kernel, ?_⟩)
    (demoCall_accepted (by decide +kernel))
  have hstop : ((demoCall 2).booked 2 ((demoCall 2).returned demoEnv .none 2 demoWorld)
      demoFill).getOpenPosition demoSymbol |>.all (fun pos =>
        ends (attemptProtective demoEnv pos)
          { (demoCall 2).returned demoEnv .none 2 demoWorld with
            wallet := (demoCall 2).booked 2 ((demoCall 2).returned demoEnv .none 2 demoWorld)
              demoFill }
          (fun result _ => result.isPlaced)) := by
    decide +kernel
  intro pos hpos
  rw [show (demoCall 2).symbol = demoSymbol from rfl] at hpos
  rw [hpos] at hstop
  rintro ⟨msg, s₁, hfailed, -⟩
  obtain ⟨result, s₂, hplaced, hresult⟩ := exists_of_ends hstop
  rw [hfailed] at hplaced
  cases hplaced
  cases hresult

/-- Phase 1 does not compare the quantity with the balance, and phase 2 then
drops the fill. -/
theorem demoCall_dropped :
    ¬ ∀ (env : Env) (others : Interference) (e : Entry) (qty : Decimal) (s : World),
      s.wallet.liveExecution → e.plan s.wallet = .ok (some qty) → s.wallet.Aligned →
      others.Keeps → e.Accepted env others qty s → e.Held env others qty s := by
  intro hall
  obtain ⟨fill, -, hbooks⟩ := hall demoEnv .none (demoCall 200) 200 demoWorld rfl
    (by decide +kernel) (Wallet.Aligned.boot demoInit id false) Interference.none_keeps
    (demoCall_accepted (by decide +kernel))
  obtain ⟨pos, hpos, -⟩ := hbooks.position
  have hflat : (final ((demoCall 200).run demoEnv .none) demoWorld).wallet.getOpenPosition
      demoSymbol = none := by
    decide +kernel
  rw [show (demoCall 200).symbol = demoSymbol from rfl, hflat] at hpos
  cases hpos

end CryptoTrader
