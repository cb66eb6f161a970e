import CryptoTrader.Lib.Run
import CryptoTrader.Strategies.MrReconcile
import Mathlib.Algebra.BigOperators.Group.List.Basic
import Mathlib.Tactic.Linarith

/-!
# The daily counters of the mean-reversion state

An entry and a reset start the counters over on a new day, a close does not.  The
counters are compared with a history of what has really been recorded: they are of
the current day exactly as long as no roll-over comes to a day on which a close was
recorded before it.
-/

namespace CryptoTrader

open CryptoTrader.Lib

/-! ## The counters by themselves -/

/-- The daily fields of the state. -/
structure DailyCounters where
  date : Option ℤ
  pnl : ℚ
  count : ℕ
  deriving DecidableEq

/-- What a call means to the counters. -/
inductive DailyEffect where
  | entry
  | close (pnl : ℚ)
  | reset
  | nothing

/-- The call starts the counters over if the day is a new one. -/
def DailyEffect.rolls : DailyEffect → Bool
  | .entry | .reset => true
  | .close _ | .nothing => false

namespace DailyCounters

def rolled (d : DailyCounters) (today : ℤ) : DailyCounters :=
  if d.date = some today then d else { date := some today, pnl := 0, count := 0 }

def after (d : DailyCounters) (today : ℤ) : DailyEffect → DailyCounters
  | .entry => { d.rolled today with count := (d.rolled today).count + 1 }
  | .close pnl => { d with pnl := d.pnl + pnl }
  | .reset => d.rolled today
  | .nothing => d

end DailyCounters

/-- The days of the entries and the closes that were recorded, and the closes since the
last roll-over that were of another day than the counters. -/
structure DailyHistory where
  entries : List ℤ := []
  closes : List (ℤ × ℚ) := []
  strays : List ℚ := []

namespace DailyHistory

variable (h : DailyHistory) (d : DailyCounters) (today day : ℤ)

/-- The PnLs of the closes recorded on a day. -/
def pnlOn : ℚ := ((h.closes.filter (fun close => close.1 = day)).map Prod.snd).sum

/-- The number of entries recorded on a day. -/
def entriesOn : ℕ := h.entries.count day

/-- The history after a call that met these counters. -/
def after (date : Option ℤ) : DailyEffect → DailyHistory
  | .entry =>
      { h with
        entries := h.entries ++ [today]
        strays := if date = some today then h.strays else [] }
  | .close pnl =>
      { h with
        closes := h.closes ++ [(today, pnl)]
        strays := if date = some today then h.strays else h.strays ++ [pnl] }
  | .reset => { h with strays := if date = some today then h.strays else [] }
  | .nothing => h

/-- The counters, if they are of the day, are those of what was recorded on it. -/
def CountsDay : Prop := d.date = some today → d.pnl = h.pnlOn today ∧ d.count = h.entriesOn today

/-- A roll-over comes to a day without entries, and without closes but such as cancel;
and the clock does not come back to the day of the counters after closes of other days
that do not cancel. -/
def Clean (effect : DailyEffect) : Prop :=
  (effect.rolls = true → d.date ≠ some today → h.pnlOn today = 0 ∧ h.entriesOn today = 0) ∧
    (d.date = some today → h.strays.sum = 0)

/-- What was recorded on the day of the counters. -/
def recorded : Option ℤ → ℚ × ℕ
  | none => (0, 0)
  | some day => (h.pnlOn day, h.entriesOn day)

/-- The counters hold what was recorded on their day, and the strays. -/
structure Booked : Prop where
  pnl : d.pnl = (h.recorded d.date).1 + h.strays.sum
  count : d.count = (h.recorded d.date).2

variable {h d today day} {effect : DailyEffect}

@[simp] theorem recorded_some : h.recorded (some day) = (h.pnlOn day, h.entriesOn day) := rfl

theorem pnlOn_close {date : Option ℤ} {pnl : ℚ} : (h.after today date (.close pnl)).pnlOn day =
    h.pnlOn day + if today = day then pnl else 0 := by
  by_cases heq : today = day <;> simp [pnlOn, after, heq]

theorem entriesOn_entry {date : Option ℤ} : (h.after today date .entry).entriesOn day =
    h.entriesOn day + if today = day then 1 else 0 := by
  by_cases heq : today = day <;> simp [entriesOn, after, heq]

theorem countsDay_iff (hdate : d.date = some today) :
    h.CountsDay d today ↔ d.pnl = h.pnlOn today ∧ d.count = h.entriesOn today :=
  forall_prop_of_true hdate

theorem Booked.countsDay_iff (hbooked : h.Booked d) (hdate : d.date = some today) :
    h.CountsDay d today ↔ h.strays.sum = 0 := by
  have hpnl := hbooked.pnl
  have hcount := hbooked.count
  rw [hdate, recorded_some] at hpnl hcount
  rw [DailyHistory.countsDay_iff hdate, and_iff_left hcount, hpnl]
  exact add_eq_left

/-- On the day of the counters every call books where it should. -/
theorem Booked.after_same (hbooked : h.Booked d) (hdate : d.date = some today) :
    (h.after today d.date effect).Booked (d.after today effect) ∧
      (d.after today effect).date = some today ∧
      (h.after today d.date effect).strays = h.strays := by
  have hrolled : d.rolled today = d := if_pos hdate
  have hstrays : (h.after today d.date effect).strays = h.strays := by
    cases effect <;> simp [DailyHistory.after, hdate]
  obtain ⟨hpnl, hcount⟩ := hbooked
  rw [hdate, recorded_some] at hpnl hcount
  cases effect with
  | entry =>
      simp only [DailyCounters.after, hrolled]
      refine ⟨⟨?_, ?_⟩, hdate, hstrays⟩
      · rw [hstrays, hdate]
        exact hpnl
      · rw [hdate, recorded_some, entriesOn_entry, if_pos rfl]
        exact congrArg (· + 1) hcount
  | close pnl =>
      refine ⟨⟨?_, ?_⟩, hdate, hstrays⟩
      · show d.pnl + pnl = ((h.after today d.date (.close pnl)).recorded d.date).1 + _
        rw [hstrays, hdate, recorded_some, pnlOn_close, if_pos rfl, hpnl]
        exact add_right_comm _ _ _
      · show d.count = ((h.after today d.date (.close pnl)).recorded d.date).2
        rw [hdate]
        exact hcount
  | reset =>
      simp only [DailyCounters.after, hrolled]
      refine ⟨⟨?_, ?_⟩, hdate, hstrays⟩
      · rw [hstrays, hdate]
        exact hpnl
      · rw [hdate]
        exact hcount
  | nothing =>
      refine ⟨⟨?_, ?_⟩, hdate, hstrays⟩
      · show d.pnl = (h.recorded d.date).1 + h.strays.sum
        rw [hdate]
        exact hpnl
      · show d.count = (h.recorded d.date).2
        rw [hdate]
        exact hcount

/-- A roll-over is right exactly if nothing that counts was recorded on the day. -/
theorem after_roll (hdate : d.date ≠ some today) (hrolls : effect.rolls = true) :
    ((h.after today d.date effect).CountsDay (d.after today effect) today ↔
        h.pnlOn today = 0 ∧ h.entriesOn today = 0) ∧
      (h.pnlOn today = 0 ∧ h.entriesOn today = 0 →
        (h.after today d.date effect).Booked (d.after today effect)) := by
  have hrolled : d.rolled today = { date := some today, pnl := 0, count := 0 } := if_neg hdate
  cases effect with
  | entry =>
      simp only [DailyCounters.after, hrolled]
      have hentries : (h.after today d.date .entry).entriesOn today = h.entriesOn today + 1 := by
        rw [entriesOn_entry, if_pos rfl]
      constructor
      · rw [countsDay_iff rfl, hentries]
        show 0 = h.pnlOn today ∧ 0 + 1 = h.entriesOn today + 1 ↔ _
        exact and_congr eq_comm (by omega)
      · rintro ⟨hpnl, hcount⟩
        refine ⟨?_, ?_⟩
        · show 0 = h.pnlOn today + (if d.date = some today then h.strays else []).sum
          rw [if_neg hdate, hpnl, List.sum_nil, add_zero]
        · show 0 + 1 = (h.after today d.date .entry).entriesOn today
          rw [hentries, hcount]
  | reset =>
      simp only [DailyCounters.after, hrolled]
      constructor
      · rw [countsDay_iff rfl]
        show 0 = h.pnlOn today ∧ 0 = h.entriesOn today ↔ _
        exact and_congr eq_comm eq_comm
      · rintro ⟨hpnl, hcount⟩
        refine ⟨?_, hcount.symm⟩
        show 0 = h.pnlOn today + (if d.date = some today then h.strays else []).sum
        rw [if_neg hdate, hpnl, List.sum_nil, add_zero]
  | close pnl => cases hrolls
  | nothing => cases hrolls

/-- Without a roll-over the counters stay of another day, and a close is a stray. -/
theorem Booked.after_other (hbooked : h.Booked d) (hdate : d.date ≠ some today)
    (hrolls : effect.rolls = false) :
    (d.after today effect).date = d.date ∧
      (h.after today d.date effect).Booked (d.after today effect) := by
  cases effect with
  | entry => cases hrolls
  | reset => cases hrolls
  | close pnl =>
      have hrecorded : (h.after today d.date (.close pnl)).recorded d.date = h.recorded d.date := by
        cases hday : d.date with
        | none => rfl
        | some day =>
            have hne : today ≠ day := fun heq => hdate (by rw [hday, heq])
            rw [recorded_some, recorded_some, pnlOn_close, if_neg hne, add_zero]
            rfl
      refine ⟨rfl, ?_, ?_⟩
      · show d.pnl + pnl = ((h.after today d.date (.close pnl)).recorded d.date).1 +
          (if d.date = some today then h.strays else h.strays ++ [pnl]).sum
        rw [hrecorded, if_neg hdate, hbooked.pnl]
        simp [add_assoc]
      · show d.count = ((h.after today d.date (.close pnl)).recorded d.date).2
        rw [hrecorded]
        exact hbooked.count
  | nothing => exact ⟨rfl, hbooked⟩

/-- The counters on the day of a call are right after it exactly if it is clean, and
then they hold what they should. -/
theorem Booked.after (hbooked : h.Booked d) :
    ((h.after today d.date effect).CountsDay (d.after today effect) today ↔
        h.Clean d today effect) ∧
      (h.Clean d today effect →
        (h.after today d.date effect).Booked (d.after today effect)) := by
  unfold Clean
  by_cases hdate : d.date = some today
  · obtain ⟨hbooked', hdate', hstrays⟩ := @Booked.after_same h d today effect hbooked hdate
    refine ⟨?_, fun _ => hbooked'⟩
    rw [hbooked'.countsDay_iff hdate', hstrays, forall_prop_of_true hdate]
    exact (and_iff_right (fun _ hne => absurd hdate hne)).symm
  · have hback : (d.date = some today → h.strays.sum = 0) ↔ True :=
      iff_true_intro (fun heq => absurd heq hdate)
    rw [hback, and_true]
    by_cases hrolls : effect.rolls = true
    · rw [forall_prop_of_true hrolls, forall_prop_of_true hdate]
      exact after_roll hdate hrolls
    · obtain ⟨hdate', hbooked'⟩ :=
        @Booked.after_other h d today effect hbooked hdate (by simpa using hrolls)
      refine ⟨iff_of_true (fun heq => ?_) (fun h => absurd h hrolls), fun _ => hbooked'⟩
      exact absurd (hdate'.symm.trans heq) hdate

end DailyHistory

/-! ## The manager's counters -/

def MRSymbolState.daily (s : MRSymbolState) : DailyCounters :=
  ⟨s.dailyDate, s.dailyPnl, s.dailyTradeCount⟩

/-- A call of the manager, or a new process. -/
inductive MRCall where
  | recordEntry (side : String) (price qty : ℚ) (stopOrderId : String)
  | recordClose (pnl : ℚ)
  | resetDailyIfNewDay
  | save
  | load
  | restart
  | markCandleProcessed (candleTsMs : ℤ)
  | updateStopOrderId (stopOrderId : String)
  | clearEntry
  | reconcileOnStartup (float : Decimal → ℚ) (walletPosition : Option EnhancedPosition)

def MRCall.effect : MRCall → DailyEffect
  | .recordEntry .. => .entry
  | .recordClose pnl => .close pnl
  | .resetDailyIfNewDay => .reset
  | _ => .nothing

/-- A call, and the UTC day on which it is made. -/
structure MRStep where
  today : ℤ
  call : MRCall

namespace MRStateManager

def step (m : MRStateManager) (a : MRStep) : MRStateManager :=
  match a.call with
  | .recordEntry side price qty stopOrderId => m.recordEntry a.today side price qty stopOrderId
  | .recordClose pnl => m.recordClose pnl
  | .resetDailyIfNewDay => m.resetDailyIfNewDay a.today
  | .save => m.save
  | .load => m.load
  | .restart => m.restart
  | .markCandleProcessed candleTsMs => m.markCandleProcessed candleTsMs
  | .updateStopOrderId stopOrderId => m.updateStopOrderId stopOrderId
  | .clearEntry => m.clearEntry
  | .reconcileOnStartup float walletPosition => (m.reconcileOnStartup float walletPosition).2

variable {m : MRStateManager} {s : MRSymbolState}

/-- The state is what a new process would load. -/
def Synced (m : MRStateManager) : Prop := m.state = m.stored

theorem put_synced (hsymbol : s.symbol = m.symbol) : (m.put s).Synced := by
  unfold Synced
  rw [state_put]
  cases s
  subst hsymbol
  rfl

theorem Synced.symbol (h : m.Synced) : m.state.symbol = m.symbol := by
  rw [h]
  rfl

theorem daily_rolled (today : ℤ) : (s.rolled today).daily = s.daily.rolled today := by
  unfold MRSymbolState.rolled DailyCounters.rolled
  by_cases hday : s.dailyDate = some today <;> simp [hday, MRSymbolState.daily]

theorem symbol_rolled (today : ℤ) : (s.rolled today).symbol = s.symbol := by
  unfold MRSymbolState.rolled
  by_cases hday : s.dailyDate = some today <;> simp [hday]

theorem daily_bump (today : ℤ) : (s.bumpDailyCount today).daily = s.daily.after today .entry := by
  show _ = { s.daily.rolled today with count := (s.daily.rolled today).count + 1 }
  rw [← daily_rolled]
  rfl

theorem Synced.save (h : m.Synced) : m.save.Synced ∧ m.save.state = m.state := by
  unfold MRStateManager.save
  cases hstate : m.state? with
  | none => exact ⟨h, rfl⟩
  | some s =>
      have hs : m.state = s := by
        unfold MRStateManager.state
        rw [hstate]
        rfl
      have hsymbol : s.symbol = m.symbol := by
        rw [← hs]
        exact h.symbol
      exact ⟨put_synced hsymbol, hs.symm⟩

/-- A call does to the counters what it means to them, and leaves the file as the
state. -/
theorem Synced.step (h : m.Synced) (a : MRStep) :
    (m.step a).Synced ∧ (m.step a).state.daily = m.state.daily.after a.today a.call.effect := by
  have hsymbol := h.symbol
  have hloaded : m.load.Synced ∧ m.load.state = m.state := ⟨rfl, h.symm⟩
  cases hcall : a.call with
  | recordEntry side price qty stopOrderId =>
      simp only [MRStateManager.step, hcall]
      exact ⟨put_synced ((symbol_rolled a.today).trans hsymbol), daily_bump a.today⟩
  | recordClose pnl =>
      simp only [MRStateManager.step, hcall]
      exact ⟨put_synced hsymbol, rfl⟩
  | resetDailyIfNewDay =>
      simp only [MRStateManager.step, hcall, resetDailyIfNewDay]
      by_cases hday : m.state.dailyDate = some a.today
      · rw [if_pos hday]
        have hrolled : m.state.daily.rolled a.today = m.state.daily := if_pos hday
        exact ⟨h, hrolled.symm⟩
      · rw [if_neg hday]
        exact ⟨put_synced ((symbol_rolled a.today).trans hsymbol), daily_rolled a.today⟩
  | save =>
      simp only [MRStateManager.step, hcall]
      exact ⟨h.save.1, congrArg MRSymbolState.daily h.save.2⟩
  | load =>
      simp only [MRStateManager.step, hcall]
      exact ⟨hloaded.1, congrArg MRSymbolState.daily hloaded.2⟩
  | restart =>
      simp only [MRStateManager.step, hcall]
      exact ⟨rfl, congrArg MRSymbolState.daily h.symm⟩
  | markCandleProcessed candleTsMs =>
      simp only [MRStateManager.step, hcall]
      exact ⟨put_synced hsymbol, rfl⟩
  | updateStopOrderId stopOrderId =>
      simp only [MRStateManager.step, hcall]
      exact ⟨put_synced hsymbol, rfl⟩
  | clearEntry =>
      simp only [MRStateManager.step, hcall]
      exact ⟨put_synced hsymbol, rfl⟩
  | reconcileOnStartup float walletPosition =>
      have hdaily := congrArg MRSymbolState.daily hloaded.2
      have hsymbol' := hloaded.1.symbol
      simp only [MRStateManager.step, hcall, reconcileOnStartup]
      cases walletPosition.filter (fun p => p.status = .opened) with
      | none =>
          dsimp only
          split
          · exact ⟨put_synced hsymbol', hdaily⟩
          · exact ⟨hloaded.1, hdaily⟩
      | some p =>
          dsimp only
          split
          · exact ⟨hloaded.1, hdaily⟩
          · exact ⟨put_synced hsymbol', hdaily⟩

end MRStateManager

/-! ## Runs -/

/-- A manager, and what has been recorded with it. -/
structure MRRun where
  manager : MRStateManager
  history : DailyHistory := {}

namespace MRRun

def step (r : MRRun) (a : MRStep) : MRRun :=
  { manager := r.manager.step a
    history := r.history.after a.today r.manager.state.dailyDate a.call.effect }

/-- Where the counters are of the day of the step, they hold the PnLs of the closes and
the number of the entries recorded on it. -/
def CountsDay (r : MRRun) (a : MRStep) : Prop := r.history.CountsDay r.manager.state.daily a.today

/-- A step that rolls the counters over does so before any close of its day. -/
def Clean (r : MRRun) (a : MRStep) : Prop :=
  r.history.Clean r.manager.state.daily a.today a.call.effect

/-- The manager of a symbol without a file. -/
def fresh (symbol : String) : MRRun := { manager := { symbol } }

/-- After every step of a run the counters are right exactly if every step is clean. -/
theorem daily_counts_iff (symbol : String) (steps : List MRStep) :
    AllOk step (fun r a => (r.step a).CountsDay a) (fresh symbol) steps ↔
      AllOk step Clean (fresh symbol) steps := by
  let inv : MRRun → Prop := fun r => r.manager.Synced ∧ r.history.Booked r.manager.state.daily
  have hstart : inv (fresh symbol) := ⟨rfl, by constructor <;> simp [fresh, MRSymbolState.daily,
    MRStateManager.state, MRStateManager.stored, DailyHistory.recorded]⟩
  have hiff : ∀ r, ∀ a ∈ steps, inv r → ((r.step a).CountsDay a ↔ r.Clean a) := by
    intro r a _ hr
    show (r.step a).history.CountsDay (r.manager.step a).state.daily a.today ↔ _
    rw [(hr.1.step a).2]
    exact (@DailyHistory.Booked.after r.history r.manager.state.daily a.today a.call.effect hr.2).1
  refine AllOk.congr steps hiff (fun r a ha hr hcounts => ?_) hstart
  refine ⟨(hr.1.step a).1, ?_⟩
  show (r.step a).history.Booked (r.manager.step a).state.daily
  rw [(hr.1.step a).2]
  exact (@DailyHistory.Booked.after r.history r.manager.state.daily a.today a.call.effect hr.2).2
    ((hiff r a ha hr).mp hcounts)

/-- A long held over midnight, closed at a loss, and the first reset of the new day. -/
def overMidnight : List MRStep :=
  [⟨1, .recordEntry "LONG" 2510 1 ""⟩, ⟨2, .recordClose (-50)⟩, ⟨2, .resetDailyIfNewDay⟩]

/-- The loss of the day is gone. -/
theorem overMidnight_drops :
    ¬ ∀ (symbol : String) (steps : List MRStep),
      AllOk step (fun r a => (r.step a).CountsDay a) (fresh symbol) steps := by
  intro h
  have hreset := (h "ETHUSDT" overMidnight).2.2.1
  have hend : (overMidnight.foldl step (fresh "ETHUSDT")).manager.state.daily = ⟨some 2, 0, 0⟩ ∧
      (overMidnight.foldl step (fresh "ETHUSDT")).history.pnlOn 2 = -50 := by
    decide +kernel
  have hzero : (overMidnight.foldl step (fresh "ETHUSDT")).manager.state.daily.pnl = 0 :=
    congrArg DailyCounters.pnl hend.1
  have hloss := (hreset (congrArg DailyCounters.date hend.1)).1.trans hend.2
  exact absurd (hzero.symm.trans hloss) (by norm_num)

end MRRun

end CryptoTrader
