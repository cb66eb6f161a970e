import CryptoTrader.Risk.Manager

/-!
# The kill switch is a latch

The operations of a `RiskManager` as one type, with the restart of the process
among them.  None but `clear_kill_switch` takes the switch out of the manager or
out of the file, so whatever follows a trigger, the gate stays shut.
-/

namespace CryptoTrader.Risk

open CryptoTrader.Lib

/-! ## Operations -/

inductive RiskStep where
  | canTrade (today : Day) (now : Time) (q : TradeQuery)
  | recordOpen (today : Day) (now : Time)
  | recordClose (today : Day) (now : Time) (netPnl : Decimal) (currentBalance : Option Decimal)
  | updatePeakBalance (currentBalance : Decimal)
  | resetConsecutiveLosses
  | applyOverrides (ov : RiskOverrides)
  | triggerKillSwitch (reason : String)
  | clearKillSwitch
  | restart (limits : RiskLimits)

/-- The session after an operation has returned or raised. -/
def RiskSession.step (s : RiskSession) : RiskStep → RiskSession
  | .canTrade today now q => (s.canTrade today now q).2
  | .recordOpen today now => s.recordOpen today now
  | .recordClose today now netPnl currentBalance => s.recordClose today now netPnl currentBalance
  | .updatePeakBalance currentBalance => s.updatePeakBalance currentBalance
  | .resetConsecutiveLosses => s.resetConsecutiveLosses
  | .applyOverrides ov => s.applyOverrides ov
  | .triggerKillSwitch reason => s.triggerKillSwitch reason
  | .clearKillSwitch => s.clearKillSwitch
  | .restart limits => .construct limits s.file

/-- Not `clear_kill_switch`, and no restart with `DISABLE_RISK_HALT` set. -/
def RiskStep.KeepsLatch : RiskStep → Prop
  | .clearKillSwitch => False
  | .restart limits => limits.disabled = false
  | _ => True

/-! ## What an operation leaves alone -/

section Frame

variable (m : RiskManager)

@[simp] theorem RiskManager.resetDailyStats_killSwitch (today : Day) :
    (m.resetDailyStatsIfNewDay today).killSwitch = m.killSwitch := by
  unfold resetDailyStatsIfNewDay
  split
  · rfl
  · rfl

@[simp] theorem RiskManager.resetDailyStats_limits (today : Day) :
    (m.resetDailyStatsIfNewDay today).limits = m.limits := by
  unfold resetDailyStatsIfNewDay
  split
  · rfl
  · rfl

@[simp] theorem RiskManager.pruneOpenTimes_state (now : Time) :
    (m.pruneOpenTimes now).toRiskState = m.toRiskState := by
  unfold pruneOpenTimes
  split
  · rfl
  · rfl

@[simp] theorem RiskManager.pruneOpenTimes_limits (now : Time) :
    (m.pruneOpenTimes now).limits = m.limits := by
  unfold pruneOpenTimes
  split
  · rfl
  · rfl

/-- The gate only prunes. -/
theorem tradeGate_manager (now : Time) (q : TradeQuery) :
    (tradeGate now q m).2 = m ∨ (tradeGate now q m).2 = m.pruneOpenTimes now := by
  unfold tradeGate
  cases killSwitchSpec m with
  | some reason => exact Or.inl rfl
  | none =>
      cases dailyLimitSpec m with
      | some reason => exact Or.inl rfl
      | none => exact Or.inr rfl

/-- The gate is asked after the day has been rolled over. -/
theorem RiskManager.canTrade_manager (today : Day) (now : Time) (q : TradeQuery) :
    (m.canTrade today now q).2 =
      if m.limits.disabled then m else (tradeGate now q (m.resetDailyStatsIfNewDay today)).2 := by
  unfold canTrade
  by_cases hdisabled : m.limits.disabled
  · rw [if_pos hdisabled, if_pos hdisabled]
  · rw [if_neg hdisabled, if_neg hdisabled]
    obtain ⟨reason, m'⟩ := tradeGate now q (m.resetDailyStatsIfNewDay today)
    cases reason with
    | none => rfl
    | some reason => rfl

theorem RiskManager.canTrade_frame (today : Day) (now : Time) (q : TradeQuery) :
    (m.canTrade today now q).2.killSwitch = m.killSwitch ∧
      (m.canTrade today now q).2.limits = m.limits := by
  rw [m.canTrade_manager]
  by_cases hdisabled : m.limits.disabled
  · rw [if_pos hdisabled]
    exact ⟨rfl, rfl⟩
  · rw [if_neg hdisabled]
    rcases tradeGate_manager (m.resetDailyStatsIfNewDay today) now q with h | h
    · rw [h]
      exact ⟨by simp, by simp⟩
    · rw [h]
      exact ⟨by simp, by simp⟩

/-- No key of an overrides dict touches `disabled`. -/
theorem RiskOverrides.apply_disabled (ov : RiskOverrides) (limits : RiskLimits) :
    (final ov.apply limits).disabled = limits.disabled := by
  have hset {α : Type} (key : Override α) (write : RiskLimits → α → RiskLimits)
      (hwrite : ∀ l v, (write l v).disabled = l.disabled) :
      Moves (fun l l' : RiskLimits => l'.disabled = l.disabled) (setLimit key write) := by
    intro l
    unfold setLimit
    cases key with
    | none => exact rfl
    | some value =>
        cases value with
        | error e => exact rfl
        | ok value => exact hwrite l value
  have : IsTrans RiskLimits (fun l l' => l'.disabled = l.disabled) :=
    ⟨fun _ _ _ h h' => h'.trans h⟩
  have hmoves : Moves (fun l l' : RiskLimits => l'.disabled = l.disabled) ov.apply := by
    unfold RiskOverrides.apply
    apply (hset ov.maxDailyTrades _ ?_).bind
    · intro _
      apply (hset ov.maxConsecutiveLosses _ ?_).bind
      · intro _
        apply (hset ov.maxOrdersPerMinute _ ?_).bind
        · intro _
          apply (hset ov.maxMarginRatio _ ?_).bind
          · intro _
            apply (hset ov.maxDrawdownPct _ ?_).bind
            · intro _
              apply (hset ov.maxDailyDrawdownPct _ ?_).bind
              · intro _
                apply hset
                intro _ _
                rfl
              · intro _ _
                rfl
            · intro _ _
              rfl
          · intro _ _
            rfl
        · intro _ _
          rfl
      · intro _ _
        rfl
    · intro _ _
      rfl
  exact (wp_final _).mp (hmoves limits)

end Frame

/-! ## The latch -/

/-- The switch is set, here and in the file, and `DISABLE_RISK_HALT` was not. -/
structure RiskSession.Latched (s : RiskSession) : Prop where
  killSwitch : s.manager.killSwitch = true
  saved : ∃ state, s.file = some state ∧ state.killSwitch = true
  enabled : s.manager.limits.disabled = false

namespace RiskSession

variable {s : RiskSession}

/-- A latched manager that has been changed without the switch being touched. -/
theorem Latched.modify (h : s.Latched) {f : RiskManager → RiskManager}
    (hswitch : (f s.manager).killSwitch = s.manager.killSwitch)
    (hlimits : (f s.manager).limits.disabled = s.manager.limits.disabled) :
    (s.modify f).Latched :=
  ⟨hswitch.trans h.killSwitch, h.saved, hlimits.trans h.enabled⟩

theorem Latched.saveState (h : s.Latched) : s.saveState.Latched :=
  ⟨h.killSwitch, ⟨_, rfl, h.killSwitch⟩, h.enabled⟩

theorem triggerKillSwitch_latched (h : s.manager.limits.disabled = false) (reason : String) :
    (s.triggerKillSwitch reason).Latched :=
  ⟨rfl, ⟨_, rfl, rfl⟩, h⟩

theorem Latched.bookClose (h : s.Latched) (today : Day) (now : Time) (netPnl : Decimal) :
    (s.bookClose today now netPnl).Latched := by
  refine Latched.saveState (h.modify ?_ ?_)
  · dsimp only
    split
    · simp
    · simp
  · dsimp only
    split
    · simp
    · simp

theorem bookClose_limits (today : Day) (now : Time) (netPnl : Decimal) :
    (s.bookClose today now netPnl).manager.limits = s.manager.limits := by
  unfold RiskSession.bookClose RiskSession.saveState RiskSession.modify
  dsimp only
  split
  · simp
  · simp

theorem Latched.recordClose (h : s.Latched) (today : Day) (now : Time) (netPnl : Decimal)
    (currentBalance : Option Decimal) :
    (s.recordClose today now netPnl currentBalance).Latched := by
  have hbooked := h.bookClose today now netPnl
  unfold RiskSession.recordClose
  cases currentBalance with
  | none => exact hbooked
  | some balance =>
      dsimp only
      split
      · exact triggerKillSwitch_latched hbooked.enabled _
      · exact hbooked

theorem Latched.step (h : s.Latched) {a : RiskStep} (ha : a.KeepsLatch) : (s.step a).Latched := by
  cases a with
  | canTrade today now q =>
      obtain ⟨hswitch, hlimits⟩ := s.manager.canTrade_frame today now q
      exact h.modify (f := fun m => (m.canTrade today now q).2) hswitch (by rw [hlimits])
  | recordOpen today now => exact Latched.saveState (h.modify (by simp) (by simp))
  | recordClose today now netPnl currentBalance => exact h.recordClose today now netPnl currentBalance
  | updatePeakBalance currentBalance =>
      simp only [RiskSession.step, RiskSession.updatePeakBalance]
      split
      · exact h
      · split
        · exact h
        · exact Latched.saveState (h.modify rfl rfl)
  | resetConsecutiveLosses => exact Latched.saveState (h.modify rfl rfl)
  | applyOverrides ov =>
      exact h.modify (f := fun m => { m with limits := final ov.apply m.limits }) rfl
        (ov.apply_disabled s.manager.limits)
  | triggerKillSwitch reason => exact triggerKillSwitch_latched h.enabled reason
  | clearKillSwitch => exact ha.elim
  | restart limits =>
      obtain ⟨state, hfile, hstate⟩ := h.saved
      have hconstruct : (s.step (.restart limits)) = .construct limits (some state) := by
        rw [← hfile]
        rfl
      rw [hconstruct]
      exact ⟨hstate, ⟨state, rfl, hstate⟩, ha⟩

/-- No step but a restart decides whether the gate is in force. -/
theorem step_enabled (h : s.manager.limits.disabled = false) {a : RiskStep}
    (ha : a = .clearKillSwitch ∨ a.KeepsLatch) : (s.step a).manager.limits.disabled = false := by
  cases a with
  | canTrade today now q =>
      show (s.manager.canTrade today now q).2.limits.disabled = false
      rw [(s.manager.canTrade_frame today now q).2]
      exact h
  | recordOpen today now =>
      show (s.manager.resetDailyStatsIfNewDay today).limits.disabled = false
      rw [RiskManager.resetDailyStats_limits]
      exact h
  | recordClose today now netPnl currentBalance =>
      have hbooked : (s.bookClose today now netPnl).manager.limits.disabled = false := by
        rw [bookClose_limits]
        exact h
      simp only [RiskSession.step, RiskSession.recordClose]
      cases currentBalance with
      | none => exact hbooked
      | some balance =>
          dsimp only
          split
          · exact hbooked
          · exact hbooked
  | updatePeakBalance currentBalance =>
      simp only [RiskSession.step, RiskSession.updatePeakBalance]
      split
      · exact h
      · split
        · exact h
        · exact h
  | resetConsecutiveLosses => exact h
  | applyOverrides ov => exact (ov.apply_disabled s.manager.limits).trans h
  | triggerKillSwitch reason => exact h
  | clearKillSwitch => exact h
  | restart limits =>
      rcases ha with hclear | hkeeps
      · cases hclear
      · exact hkeeps

theorem Latched.run (h : s.Latched) (steps : List RiskStep) (hsteps : ∀ a ∈ steps, a.KeepsLatch) :
    (steps.foldl RiskSession.step s).Latched := by
  induction steps generalizing s with
  | nil => exact h
  | cons a rest ih =>
      exact ih (h.step (hsteps a List.mem_cons_self))
        (fun b hb => hsteps b (List.mem_cons_of_mem _ hb))

/-- The gate of a latched manager is shut. -/
theorem Latched.canTrade (h : s.Latched) (today : Day) (now : Time) (q : TradeQuery) :
    (s.canTrade today now q).1.1 = false := by
  have hspec : ∃ reason, killSwitchSpec (s.manager.resetDailyStatsIfNewDay today) = some reason := by
    unfold killSwitchSpec
    rw [RiskManager.resetDailyStats_killSwitch, h.killSwitch]
    exact ⟨_, rfl⟩
  obtain ⟨reason, hreason⟩ := hspec
  simp [RiskSession.canTrade, RiskManager.canTrade, h.enabled, tradeGate, hreason]

/-- After the close the day's PnL is at or below the limit. -/
def ClosesAtLimit (s : RiskSession) (balance : Decimal) : Prop :=
  PyFloat.le (.fin s.manager.dailyPnl)
    (.scale (-s.manager.openingBalance balance) s.manager.limits.maxDailyDrawdownPct)

/-- A close at or below the limit of an opening balance that is not zero trips
the switch. -/
theorem recordClose_latched (h : s.manager.limits.disabled = false) {today : Day} {now : Time}
    {netPnl balance : Decimal}
    (hlimit : (s.recordClose today now netPnl (some balance)).ClosesAtLimit balance)
    (hopening : (s.recordClose today now netPnl (some balance)).manager.openingBalance balance ≠ 0) :
    (s.recordClose today now netPnl (some balance)).Latched := by
  have henabled : (s.bookClose today now netPnl).manager.limits.disabled = false := by
    rw [bookClose_limits]
    exact h
  unfold RiskSession.recordClose at hlimit hopening ⊢
  dsimp only at hlimit hopening ⊢
  by_cases hhit : (s.bookClose today now netPnl).manager.isDailyDrawdownLimitHit
      (some ((s.bookClose today now netPnl).manager.openingBalance balance))
  · rw [if_pos hhit]
    exact triggerKillSwitch_latched henabled _
  · rw [if_neg hhit] at hlimit hopening
    refine absurd ?_ hhit
    unfold ClosesAtLimit at hlimit
    unfold RiskManager.isDailyDrawdownLimitHit
    simp only [hopening, ne_eq, not_false_eq_true, decide_true, Bool.true_and]
    exact hlimit

/-- A manager that has just been set up. -/
def demoRisk : RiskSession := .construct {} none

end RiskSession

end CryptoTrader.Risk
