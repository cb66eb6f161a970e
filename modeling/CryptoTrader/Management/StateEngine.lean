import CryptoTrader.Lib.Run
import CryptoTrader.Management.PolicyGuard
import CryptoTrader.Wallet.Boot
import Mathlib.Algebra.Order.BigOperators.Group.List
import Mathlib.Tactic.FieldSimp
import Mathlib.Tactic.Ring

/-!
# Risk units of the state engine

The figures that `PositionStateEngine` computes from the entry and the current stop of
a position: the R-multiple of the snapshot and the total risk of the portfolio.  Over
a history of stop moves they are held against the stop the position was opened with
and against what the current stop would lose.
-/

namespace CryptoTrader

open CryptoTrader.Lib

/-! ## The figures -/

namespace EnhancedPosition

variable (pos : EnhancedPosition) (ltp : Decimal)

/-- The move in the position's favour. -/
def favourable : Decimal := pos.side.gain pos.entryPrice ltp

/-- The stop is set, and not at the entry. -/
def StopApart : Prop := pos.slPrice ≠ 0 ∧ pos.slPrice ≠ pos.entryPrice

instance : Decidable pos.StopApart := inferInstanceAs (Decidable (_ ∧ _))

/-- `risk_per_unit`. -/
def riskPerUnit : Decimal := if pos.StopApart then |pos.entryPrice - pos.slPrice| else 1

/-- `r_multiple`. -/
def rMultiple : Decimal :=
  if 0 < pos.riskPerUnit then pos.favourable ltp / pos.riskPerUnit else 0

/-- `_build_snapshot`. -/
def buildSnapshot (symbol : Symbol) : PositionSnapshot :=
  { symbol
    side := pos.side
    qty := pos.remainingQuantity
    entryPrice := pos.entryPrice
    ltp
    unrealizedPnl := pos.favourable ltp * pos.remainingQuantity
    stopLoss := pos.slPrice
    rMultiple := pos.rMultiple ltp }

/-- What an open position adds to the total risk. -/
def countedRisk : Decimal :=
  if pos.status = .opened then
    if pos.StopApart then |pos.entryPrice - pos.slPrice| * pos.remainingQuantity else 0
  else 0

end EnhancedPosition

/-- `_build_portfolio_context`. -/
def buildPortfolioContext (maxPortfolioRisk : Decimal)
    (positions : Dict Symbol EnhancedPosition) : PortfolioContext :=
  { maxTotalRisk := maxPortfolioRisk
    currentTotalRisk := positions.total EnhancedPosition.countedRisk }

/-! ## What they stand for -/

namespace EnhancedPosition

variable (pos : EnhancedPosition)

/-- What the current stop of an open position loses, if it is hit; a position without
one has none to lose at. -/
def lossAtStop : Decimal :=
  if pos.status = .opened ∧ pos.slPrice ≠ 0 then
    max 0 (-pos.favourable pos.slPrice) * pos.remainingQuantity
  else 0

/-- The stop is on the losing side of the entry, as far from it as at first; or there
is no such stop, and it was one unit away at first. -/
def Fits (initialStop : Decimal) : Prop :=
  if pos.StopApart then
    |pos.entryPrice - pos.slPrice| = |pos.entryPrice - initialStop| ∧
      pos.favourable pos.slPrice < 0
  else |pos.entryPrice - initialStop| = 1

/-- An open position with something left of it. -/
def Live : Prop := pos.status = .opened ∧ 0 < pos.remainingQuantity

section Risk

variable {pos}

theorem riskPerUnit_pos : 0 < pos.riskPerUnit := by
  unfold riskPerUnit
  split_ifs with hapart
  · exact abs_pos.mpr (sub_ne_zero.mpr hapart.2.symm)
  · exact one_pos

theorem rMultiple_eq (ltp : Decimal) :
    pos.rMultiple ltp = pos.favourable ltp / pos.riskPerUnit :=
  if_pos riskPerUnit_pos

theorem favourable_unit : pos.favourable (pos.entryPrice + pos.side.sign) = 1 := by
  unfold favourable PositionSide.gain PositionSide.sign
  cases pos.side <;> ring

/-- R-multiples are in units of some distance at every price, exactly if the risk is
that distance. -/
theorem rMultiple_iff {distance : Decimal} :
    (∀ ltp, pos.rMultiple ltp = pos.favourable ltp / distance) ↔ pos.riskPerUnit = distance := by
  constructor
  · intro h
    have hunit := h (pos.entryPrice + pos.side.sign)
    rw [rMultiple_eq, favourable_unit, one_div, one_div] at hunit
    exact inv_injective hunit
  · intro h ltp
    rw [rMultiple_eq, h]

/-- The distance of the stop is its move, in one direction or the other. -/
theorem abs_favourable (price : Decimal) : |pos.favourable price| = |pos.entryPrice - price| := by
  unfold favourable PositionSide.gain
  cases pos.side with
  | long => exact abs_sub_comm price pos.entryPrice
  | short => rfl

theorem favourable_ne_zero (h : pos.StopApart) : pos.favourable pos.slPrice ≠ 0 := by
  rw [← abs_pos, abs_favourable, abs_pos, sub_ne_zero]
  exact h.2.symm

/-- The risk is never counted too low. -/
theorem lossAtStop_le_countedRisk (h : pos.Live) : pos.lossAtStop ≤ pos.countedRisk := by
  unfold lossAtStop countedRisk
  by_cases hapart : pos.StopApart
  · rw [if_pos ⟨h.1, hapart.1⟩, if_pos h.1, if_pos hapart, ← abs_favourable]
    exact mul_le_mul_of_nonneg_right (max_le (abs_nonneg _) (neg_le_abs _)) h.2.le
  · rw [if_pos h.1, if_neg hapart]
    by_cases hset : pos.slPrice ≠ 0
    · have hentry : pos.slPrice = pos.entryPrice := by
        by_contra hne
        exact hapart ⟨hset, hne⟩
      have hzero : pos.favourable pos.slPrice = 0 := by
        rw [← abs_eq_zero, abs_favourable, hentry, sub_self, abs_zero]
      rw [if_pos ⟨h.1, hset⟩, hzero]
      simp
    · rw [if_neg (fun hboth => hset hboth.2)]

/-- It is counted right unless the stop is beyond the entry. -/
theorem countedRisk_iff (h : pos.Live) :
    pos.lossAtStop = pos.countedRisk ↔ (pos.StopApart → pos.favourable pos.slPrice < 0) := by
  by_cases hapart : pos.StopApart
  · have hne := favourable_ne_zero hapart
    unfold lossAtStop countedRisk
    rw [if_pos ⟨h.1, hapart.1⟩, if_pos h.1, if_pos hapart, ← abs_favourable,
      mul_left_inj' h.2.ne']
    constructor
    · intro hequal _
      by_contra hbeyond
      have hpos : 0 < pos.favourable pos.slPrice := lt_of_le_of_ne (not_lt.mp hbeyond) hne.symm
      rw [max_eq_left (neg_nonpos.mpr hpos.le), abs_of_pos hpos] at hequal
      exact hne hequal.symm
    · intro hbelow
      rw [abs_of_neg (hbelow hapart), max_eq_right (neg_nonneg.mpr (hbelow hapart).le)]
  · have hle := lossAtStop_le_countedRisk h
    have hcounted : pos.countedRisk = 0 := by
      unfold countedRisk
      rw [if_pos h.1, if_neg hapart]
    have hnonneg : 0 ≤ pos.lossAtStop := by
      unfold lossAtStop
      split_ifs
      · exact mul_nonneg (le_max_left _ _) h.2.le
      · exact le_refl 0
    exact iff_of_true (le_antisymm hle (hcounted ▸ hnonneg)) (fun h => absurd h hapart)

end Risk

end EnhancedPosition

/-- Sums of which each summand is at most its counterpart are the same exactly if the
summands are. -/
theorem sum_map_eq_iff {α : Type} {f g : α → Decimal} {l : List α} (h : ∀ x ∈ l, f x ≤ g x) :
    (l.map f).sum = (l.map g).sum ↔ ∀ x ∈ l, f x = g x := by
  induction l with
  | nil => simp
  | cons x l ih =>
      have hx : f x ≤ g x := h x (by simp)
      have hl : ∀ y ∈ l, f y ≤ g y := fun y hy => h y (by simp [hy])
      have hsum : (l.map f).sum ≤ (l.map g).sum := List.sum_le_sum hl
      rw [List.map_cons, List.map_cons, List.sum_cons, List.sum_cons, List.forall_mem_cons,
        ← ih hl]
      constructor
      · intro hequal
        exact ⟨by linarith, by linarith⟩
      · intro hboth
        rw [hboth.1, hboth.2]

/-! ## Histories -/

/-- A position as it is opened. -/
abbrev OpenedPosition := { pos : EnhancedPosition // pos.Live }

/-- The wallet's positions, and the stop each was opened with. -/
structure RiskBook where
  positions : Dict Symbol EnhancedPosition := .empty
  initialStop : Symbol → Decimal := fun _ => 0

/-- What happens to positions: the stop is moved to any price. -/
inductive RiskEvent where
  | opened (symbol : Symbol) (pos : OpenedPosition)
  | stopMoved (symbol : Symbol) (newStop : Decimal)
  | partiallyClosed (symbol : Symbol) (qty : Decimal)
  | closed (symbol : Symbol)

def EnhancedPosition.moveStop (pos : EnhancedPosition) (newStop : Decimal) : EnhancedPosition :=
  { pos with slPrice := newStop }

/-- A part of what remains is closed. -/
def EnhancedPosition.closePart (pos : EnhancedPosition) (qty : Decimal) : EnhancedPosition :=
  if 0 < qty ∧ qty < pos.remainingQuantity then
    { pos with remainingQuantity := pos.remainingQuantity - qty }
  else pos

namespace RiskBook

def step (b : RiskBook) : RiskEvent → RiskBook
  | .opened symbol pos =>
      { positions := b.positions.set symbol pos.1
        initialStop := fun s => if symbol = s then pos.1.slPrice else b.initialStop s }
  | .stopMoved symbol newStop =>
      { b with positions := b.positions.modify symbol (fun pos => pos.moveStop newStop) }
  | .partiallyClosed symbol qty =>
      { b with positions := b.positions.modify symbol (fun pos => pos.closePart qty) }
  | .closed symbol => { b with positions := b.positions.erase symbol }

/-- R-multiples are in units of the first distance between entry and stop, and the
total risk is what the stops would lose. -/
structure Right (b : RiskBook) : Prop where
  rMultiple : ∀ symbol pos, b.positions.get? symbol = some pos → ∀ ltp,
    (pos.buildSnapshot ltp symbol).rMultiple =
      pos.favourable ltp / |pos.entryPrice - b.initialStop symbol|
  totalRisk : ∀ maxPortfolioRisk,
    (buildPortfolioContext maxPortfolioRisk b.positions).currentTotalRisk =
      b.positions.total EnhancedPosition.lossAtStop

/-- Every position is open, with something left of it. -/
def AllLive (b : RiskBook) : Prop :=
  ∀ symbol pos, b.positions.get? symbol = some pos → pos.Live

/-- Every position's stop fits the one it was opened with. -/
def AllFit (b : RiskBook) : Prop :=
  ∀ symbol pos, b.positions.get? symbol = some pos → pos.Fits (b.initialStop symbol)

/-- The event leaves a stop that fits, if it sets one. -/
def Keeps (b : RiskBook) : RiskEvent → Prop
  | .opened _ pos => pos.1.Fits pos.1.slPrice
  | .stopMoved symbol newStop =>
      ∀ pos, b.positions.get? symbol = some pos →
        (pos.moveStop newStop).Fits (b.initialStop symbol)
  | _ => True

section Steps

variable {b : RiskBook}

/-- The figures are right exactly if the stops fit. -/
theorem right_iff_allFit (hlive : b.AllLive) : b.Right ↔ b.AllFit := by
  have hvalues : ∀ pos, pos ∈ b.positions.values ↔
      ∃ symbol, b.positions.get? symbol = some pos := by
    intro pos
    simp [Dict.values, Dict.mem_entries_iff]
  have hle : ∀ pos ∈ b.positions.values, pos.lossAtStop ≤ pos.countedRisk := by
    intro pos hpos
    obtain ⟨symbol, hget⟩ := (hvalues pos).mp hpos
    exact EnhancedPosition.lossAtStop_le_countedRisk (hlive symbol pos hget)
  have hrisk : (∀ maxPortfolioRisk,
      (buildPortfolioContext maxPortfolioRisk b.positions).currentTotalRisk =
        b.positions.total EnhancedPosition.lossAtStop) ↔
      ∀ symbol pos, b.positions.get? symbol = some pos →
        (pos.StopApart → pos.favourable pos.slPrice < 0) := by
    have hsum : b.positions.total EnhancedPosition.lossAtStop =
        b.positions.total EnhancedPosition.countedRisk ↔ _ := sum_map_eq_iff hle
    constructor
    · intro h symbol pos hget
      rw [← EnhancedPosition.countedRisk_iff (hlive symbol pos hget)]
      exact hsum.mp (h 0).symm pos ((hvalues pos).mpr ⟨symbol, hget⟩)
    · intro h _
      refine (hsum.mpr (fun pos hpos => ?_)).symm
      obtain ⟨symbol, hget⟩ := (hvalues pos).mp hpos
      exact (EnhancedPosition.countedRisk_iff (hlive symbol pos hget)).mpr (h symbol pos hget)
  constructor
  · intro h symbol pos hget
    have hunit : pos.riskPerUnit = |pos.entryPrice - b.initialStop symbol| :=
      EnhancedPosition.rMultiple_iff.mp (h.rMultiple symbol pos hget)
    unfold EnhancedPosition.riskPerUnit at hunit
    unfold EnhancedPosition.Fits
    by_cases hapart : pos.StopApart
    · rw [if_pos hapart] at hunit ⊢
      exact ⟨hunit, hrisk.mp h.totalRisk symbol pos hget hapart⟩
    · rw [if_neg hapart] at hunit ⊢
      exact hunit.symm
  · intro h
    constructor
    · intro symbol pos hget
      have hfits := h symbol pos hget
      refine EnhancedPosition.rMultiple_iff.mpr ?_
      unfold EnhancedPosition.Fits at hfits
      unfold EnhancedPosition.riskPerUnit
      by_cases hapart : pos.StopApart
      · rw [if_pos hapart] at hfits ⊢
        exact hfits.1
      · rw [if_neg hapart] at hfits ⊢
        exact hfits.symm
    · refine hrisk.mpr (fun symbol pos hget hapart => ?_)
      have hfits := h symbol pos hget
      unfold EnhancedPosition.Fits at hfits
      rw [if_pos hapart] at hfits
      exact hfits.2

theorem closePart_live {pos : EnhancedPosition} (h : pos.Live) (qty : Decimal) :
    (pos.closePart qty).Live := by
  unfold EnhancedPosition.closePart
  split_ifs with hpart
  · exact ⟨h.1, sub_pos.mpr hpart.2⟩
  · exact h

/-- A partial close leaves the stop where it is. -/
theorem closePart_fits_iff (pos : EnhancedPosition) (qty initialStop : Decimal) :
    (pos.closePart qty).Fits initialStop ↔ pos.Fits initialStop := by
  unfold EnhancedPosition.closePart
  split_ifs <;> rfl

theorem AllLive.step (h : b.AllLive) (e : RiskEvent) : (b.step e).AllLive := by
  intro symbol pos hget
  cases e with
  | opened s opened =>
      simp only [RiskBook.step, Dict.get?_set] at hget
      split_ifs at hget with hsymbol
      · cases hget
        exact opened.2
      · exact h symbol pos hget
  | stopMoved s newStop =>
      simp only [RiskBook.step, Dict.get?_modify] at hget
      split_ifs at hget with hsymbol
      · obtain ⟨old, hold, rfl⟩ := Option.map_eq_some_iff.mp hget
        exact h s old hold
      · exact h symbol pos hget
  | partiallyClosed s qty =>
      simp only [RiskBook.step, Dict.get?_modify] at hget
      split_ifs at hget with hsymbol
      · obtain ⟨old, hold, rfl⟩ := Option.map_eq_some_iff.mp hget
        exact closePart_live (h s old hold) qty
      · exact h symbol pos hget
  | closed s =>
      simp only [RiskBook.step, Dict.get?_erase] at hget
      split_ifs at hget
      exact h symbol pos hget

theorem allFit_step_iff (h : b.AllFit) (e : RiskEvent) : (b.step e).AllFit ↔ b.Keeps e := by
  cases e with
  | opened s opened =>
      constructor
      · intro hfit
        have hnew := hfit s opened.1 (Dict.get?_set_self _ _ _)
        show opened.1.Fits opened.1.slPrice
        simpa [RiskBook.step] using hnew
      · intro hkeeps symbol pos hget
        simp only [RiskBook.step, Dict.get?_set] at hget ⊢
        split_ifs at hget ⊢ with hsymbol
        · cases hget
          exact hkeeps
        · exact h symbol pos hget
  | stopMoved s newStop =>
      constructor
      · intro hfit pos hget
        refine hfit s (pos.moveStop newStop) ?_
        rw [RiskBook.step, Dict.get?_modify_self, hget, Option.map_some]
      · intro hkeeps symbol pos hget
        simp only [RiskBook.step, Dict.get?_modify] at hget ⊢
        split_ifs at hget with hsymbol
        · obtain ⟨old, hold, rfl⟩ := Option.map_eq_some_iff.mp hget
          exact hsymbol ▸ hkeeps old hold
        · exact h symbol pos hget
  | partiallyClosed s qty =>
      refine iff_of_true (fun symbol pos hget => ?_) trivial
      simp only [RiskBook.step, Dict.get?_modify] at hget ⊢
      split_ifs at hget with hsymbol
      · obtain ⟨old, hold, rfl⟩ := Option.map_eq_some_iff.mp hget
        exact (closePart_fits_iff old qty _).mpr (hsymbol ▸ h s old hold)
      · exact h symbol pos hget
  | closed s =>
      refine iff_of_true (fun symbol pos hget => ?_) trivial
      simp only [RiskBook.step, Dict.get?_erase] at hget ⊢
      split_ifs at hget
      exact h symbol pos hget

end Steps

/-- The figures are right throughout a history exactly if every event leaves stops
that fit. -/
theorem right_throughout_iff (events : List RiskEvent) :
    (∀ before, before <+: events → (before.foldl step {}).Right) ↔
      AllOk step Keeps {} events := by
  have hstart : ({} : RiskBook).AllLive := fun symbol pos hget => by cases hget
  have hright : ({} : RiskBook).Right :=
    (right_iff_allFit hstart).mpr (fun symbol pos hget => by cases hget)
  have hstep : ∀ b e, AllLive b → Right b →
      AllLive (step b e) ∧ (Right (step b e) ↔ Keeps b e) := by
    intro b e hlive hkept
    have hfit := (right_iff_allFit hlive).mp hkept
    exact ⟨hlive.step e, (right_iff_allFit (hlive.step e)).trans (allFit_step_iff hfit e)⟩
  exact AllOk.kept_iff hstep events hstart hright

/-! ### A profit that is locked in -/

/-- A long of ten units at 100, with its stop at 90. -/
def lockedLong : OpenedPosition :=
  ⟨{ symbol := demoSymbol
     side := .long
     playbook := .swing
     entryPrice := 100
     originalQuantity := 10
     remainingQuantity := 10
     notional := 1000
     marginUsed := 100
     leverage := 10
     openTime := 0
     slPrice := 90
     tpLevels := [] }, rfl, by decide⟩

/-- Its stop is trailed to 125. -/
def lockedIn : List RiskEvent :=
  [.opened demoSymbol lockedLong, .stopMoved demoSymbol 125]

theorem lockedIn_wrong : ¬ ∀ events : List RiskEvent, (events.foldl step {}).Right := by
  intro h
  have htotal := (h lockedIn).totalRisk 4000
  have hcounted : (buildPortfolioContext 4000 (lockedIn.foldl step {}).positions).currentTotalRisk =
      250 := by decide +kernel
  have hloss : (lockedIn.foldl step {}).positions.total EnhancedPosition.lossAtStop = 0 := by
    decide +kernel
  rw [hcounted, hloss] at htotal
  exact absurd htotal (by decide +kernel)

end RiskBook

end CryptoTrader
