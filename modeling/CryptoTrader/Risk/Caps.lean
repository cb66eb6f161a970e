import CryptoTrader.Risk.KillSwitch
import CryptoTrader.Lib.Run
import Mathlib.Data.NNRat.Defs
import Mathlib.Algebra.Order.Floor.Ring

/-!
# Order caps of a shared risk manager

Several engines ask one `RiskManager`, open, and record the open afterwards.
The check and the record are two steps, and the others take theirs in between.
An open is counted on the UTC day that `record_open` read, at the time it read
after that.
-/

namespace CryptoTrader.Risk

open CryptoTrader.Lib

abbrev EngineId := ℕ

/-- A recorded open. -/
structure Open where
  day : Day
  time : Time
  deriving DecidableEq

/-- What a check that returned True found: how many opens had been recorded,
and how many more the two caps allowed. -/
structure Admission where
  recorded : ℕ
  room : ℤ
  deriving DecidableEq

/-- The engines' risk manager, the clock, the opens recorded so far, and the
engines that may open. -/
structure SharedRisk where
  session : RiskSession
  now : Time
  recorded : List Open := []
  admitted : EngineId → Option Admission := fun _ => none

/-- A step of some engine.  The clock moves on before each reading. -/
inductive SharedStep where
  | canTrade (e : EngineId) (q : TradeQuery) (wait wait' : ℚ≥0)
  | recordOpen (e : EngineId) (wait wait' : ℚ≥0)
  | recordClose (netPnl : Decimal) (currentBalance : Option Decimal) (wait wait' : ℚ≥0)
  | restart (wait : ℚ≥0)

/-- The most opens the two caps still allow. -/
def RiskManager.room (m : RiskManager) : ℤ :=
  min (m.limits.maxDaily - m.dailyCount) (m.limits.maxOrdersPerMinute - m.recentOpenTimes.length)

namespace SharedRisk

/-- The UTC day of a time. -/
def dayOf (now : Time) : Day := ⌊now / 86400⌋

/-- `_today`. -/
def today (s : SharedRisk) : Day := dayOf s.now

def tick (s : SharedRisk) (wait : ℚ≥0) : SharedRisk := { s with now := s.now + wait }

/-- `can_trade`; an engine may open after it has returned True. -/
def canTrade (s : SharedRisk) (e : EngineId) (q : TradeQuery) (wait wait' : ℚ≥0) : SharedRisk :=
  let s := s.tick wait
  let today := s.today
  let s := s.tick wait'
  let ((ok, _), session) := s.session.canTrade today s.now q
  let admission : Option Admission :=
    if ok then some { recorded := s.recorded.length, room := session.manager.room } else none
  { s with session := session, admitted := Function.update s.admitted e admission }

/-- `record_open`. -/
def recordOpen (s : SharedRisk) (e : EngineId) (wait wait' : ℚ≥0) : SharedRisk :=
  let s := s.tick wait
  let today := s.today
  let s := s.tick wait'
  { s with
    session := s.session.recordOpen today s.now
    recorded := s.recorded ++ [{ day := today, time := s.now }]
    admitted := Function.update s.admitted e none }

/-- `record_close`. -/
def recordClose (s : SharedRisk) (netPnl : Decimal) (currentBalance : Option Decimal)
    (wait wait' : ℚ≥0) : SharedRisk :=
  let s := s.tick wait
  let today := s.today
  let s := s.tick wait'
  { s with session := s.session.recordClose today s.now netPnl currentBalance }

/-- The process ends, and is started again with the same settings. -/
def restart (s : SharedRisk) (wait : ℚ≥0) : SharedRisk :=
  let s := s.tick wait
  { s with
    session := .construct s.session.manager.limits s.session.file
    admitted := fun _ => none }

/-- One step; an engine that may not open does not. -/
def step (s : SharedRisk) : SharedStep → SharedRisk
  | .canTrade e q wait wait' => s.canTrade e q wait wait'
  | .recordOpen e wait wait' =>
      match s.admitted e with
      | none => s
      | some _ => s.recordOpen e wait wait'
  | .recordClose netPnl currentBalance wait wait' =>
      s.recordClose netPnl currentBalance wait wait'
  | .restart wait => s.restart wait

/-! ## The caps -/

/-- The opens recorded on a day. -/
def opensOn (day : Day) (opens : List Open) : List Open := opens.filter (fun o => o.day = day)

/-- No 60-second window and no UTC day holds more opens than it may. -/
def WithinCaps (s : SharedRisk) : Prop :=
  WindowCap 60 s.session.manager.limits.maxOrdersPerMinute.toNat (s.recorded.map Open.time) ∧
    ∀ day, (opensOn day s.recorded).length ≤ s.session.manager.limits.maxDaily.toNat

/-- When an engine records its open, none has been recorded since its check, or
fewer than the check found room for; and no open is younger than 60 seconds
when the process has been started again. -/
def KeepsRoom (s : SharedRisk) : SharedStep → Prop
  | .recordOpen e _ _ =>
      ∀ admission ∈ s.admitted e,
        s.recorded.length = admission.recorded ∨
          (s.recorded.length : ℤ) - admission.recorded < admission.room
  | .restart wait => ∀ o ∈ s.recorded, 60 ≤ s.now + wait - o.time
  | _ => True

/-! ## What the manager counts -/

/-- The saved counters cover the opens of the present day, and none has been
recorded on a day to come. -/
def Tallied (recorded : List Open) (today : Day) (state : RiskState) : Prop :=
  ∀ day, today ≤ day →
    (state.lastTradeDate = some day → (opensOn day recorded).length ≤ state.dailyCount) ∧
    (state.lastTradeDate ≠ some day → opensOn day recorded = [])

section Tallied

variable {recorded : List Open} {today later : Day} {state : RiskState}

theorem Tallied.mono (h : Tallied recorded today state) (hle : today ≤ later) :
    Tallied recorded later state :=
  fun day hday => h day (hle.trans hday)

/-- Only the two counters matter. -/
theorem Tallied.congr {state' : RiskState} (h : Tallied recorded today state)
    (hdate : state'.lastTradeDate = state.lastTradeDate)
    (hcount : state'.dailyCount = state.dailyCount) : Tallied recorded today state' := by
  unfold Tallied
  rw [hdate, hcount]
  exact h

theorem opensOn_eq_nil {day : Day} (hpast : ∀ o ∈ recorded, o.day ≤ today) (hday : today < day) :
    opensOn day recorded = [] := by
  unfold opensOn
  rw [List.filter_eq_nil_iff]
  intro o ho
  simp only [decide_eq_true_eq]
  exact (lt_of_le_of_lt (hpast o ho) hday).ne

theorem resetDailyStats_date (m : RiskManager) (today : Day) :
    (m.resetDailyStatsIfNewDay today).lastTradeDate = some today := by
  unfold RiskManager.resetDailyStatsIfNewDay
  by_cases h : m.lastTradeDate = some today
  · rw [if_pos h]
    exact h
  · rw [if_neg h]

/-- Rolling the day over keeps the count of the day that begins. -/
theorem Tallied.reset {m : RiskManager} (h : Tallied recorded today m.toRiskState)
    (hpast : ∀ o ∈ recorded, o.day ≤ today) (hle : today ≤ later) :
    Tallied recorded later (m.resetDailyStatsIfNewDay later).toRiskState := by
  intro day hday
  rw [resetDailyStats_date]
  constructor
  · intro heq
    obtain rfl : later = day := Option.some.inj heq
    obtain ⟨hcount, hnone⟩ := h later hle
    unfold RiskManager.resetDailyStatsIfNewDay
    by_cases hsame : m.lastTradeDate = some later
    · rw [if_pos hsame]
      exact hcount hsame
    · rw [if_neg hsame, hnone hsame]
      exact Nat.zero_le _
  · intro hne
    have hlt : later < day := lt_of_le_of_ne hday (fun heq => hne (congrArg some heq))
    exact opensOn_eq_nil hpast (lt_of_le_of_lt hle hlt)

/-- An open is recorded on the day the manager is at. -/
theorem Tallied.snoc (h : Tallied recorded today state)
    (hpast : ∀ o ∈ recorded, o.day ≤ today) (hdate : state.lastTradeDate = some today) (now : Time) :
    Tallied (recorded ++ [{ day := today, time := now }]) today
      { state with dailyCount := state.dailyCount + 1 } := by
  intro day hday
  constructor
  · intro heq
    have hcount := (h day hday).1 heq
    have hlast : (opensOn day [{ day := today, time := now }]).length ≤ 1 := List.length_filter_le _ _
    show (opensOn day _).length ≤ state.dailyCount + 1
    unfold opensOn at hcount hlast ⊢
    rw [List.filter_append, List.length_append]
    omega
  · intro hne
    have hlt : today < day := lt_of_le_of_ne hday (fun heq => hne (by rw [← heq]; exact hdate))
    have hpast' : ∀ o ∈ recorded ++ [{ day := today, time := now }], o.day ≤ today := by
      intro o ho
      rcases List.mem_append.mp ho with ho | ho
      · exact hpast o ho
      · rw [List.mem_singleton.mp ho]
    exact opensOn_eq_nil hpast' hlt

end Tallied

/-! ## One step of the manager -/

section Manager

variable {m : RiskManager} {today : Day} {now : Time} {q : TradeQuery}

@[simp] theorem resetDailyStats_openTimes (m : RiskManager) (today : Day) :
    (m.resetDailyStatsIfNewDay today).recentOpenTimes = m.recentOpenTimes := by
  unfold RiskManager.resetDailyStatsIfNewDay
  split
  · rfl
  · rfl

/-- Pruning forgets nothing that is still recent. -/
theorem pruneOpenTimes_recent (m : RiskManager) (now : Time) :
    recent 60 now (m.pruneOpenTimes now).recentOpenTimes = recent 60 now m.recentOpenTimes := by
  unfold RiskManager.pruneOpenTimes
  split
  · rfl
  · exact recent_recent (le_refl now)

/-- Asked or not, the gate leaves the counters of the day and what is recent. -/
theorem canTrade_counts (henabled : m.limits.disabled = false) (today : Day) (now : Time)
    (q : TradeQuery) :
    (m.canTrade today now q).2.toRiskState = (m.resetDailyStatsIfNewDay today).toRiskState ∧
      recent 60 now (m.canTrade today now q).2.recentOpenTimes =
        recent 60 now m.recentOpenTimes := by
  rw [m.canTrade_manager, henabled, if_neg Bool.false_ne_true]
  rcases tradeGate_manager (m.resetDailyStatsIfNewDay today) now q with h | h
  · rw [h]
    exact ⟨rfl, by rw [resetDailyStats_openTimes]⟩
  · rw [h]
    refine ⟨by rw [RiskManager.pruneOpenTimes_state], ?_⟩
    rw [pruneOpenTimes_recent, resetDailyStats_openTimes]

/-- A gate that lets through has found both caps unreached, after pruning. -/
theorem tradeGate_none (h : (tradeGate now q m).1 = none) :
    (tradeGate now q m).2 = m.pruneOpenTimes now ∧ m.hasReachedDailyLimit = false ∧
      (m.pruneOpenTimes now).hasReachedVelocityLimit = false := by
  unfold tradeGate at h ⊢
  cases hkill : killSwitchSpec m with
  | some reason => simp [hkill] at h
  | none =>
      cases hdaily : dailyLimitSpec m with
      | some reason => simp [hkill, hdaily] at h
      | none =>
          simp only [hkill, hdaily, List.findSome?_cons] at h
          refine ⟨rfl, ?_, ?_⟩
          · cases hreached : m.hasReachedDailyLimit with
            | false => rfl
            | true => simp [dailyLimitSpec, hreached] at hdaily
          · cases hreached : (m.pruneOpenTimes now).hasReachedVelocityLimit with
            | false => rfl
            | true => simp [velocitySpec, hreached] at h

/-- A check that returns True has found room under both caps. -/
theorem canTrade_true (henabled : m.limits.disabled = false)
    (hcap : 0 < m.limits.maxOrdersPerMinute) (h : (m.canTrade today now q).1.1 = true) :
    0 < (m.canTrade today now q).2.room := by
  have hgate : (tradeGate now q (m.resetDailyStatsIfNewDay today)).1 = none := by
    unfold RiskManager.canTrade at h
    rw [henabled, if_neg Bool.false_ne_true] at h
    cases hreason : (tradeGate now q (m.resetDailyStatsIfNewDay today)).1 with
    | none => rfl
    | some reason => split at h <;> simp_all
  obtain ⟨hmanager, hdaily, hvelocity⟩ := tradeGate_none hgate
  rw [m.canTrade_manager, henabled, if_neg Bool.false_ne_true, hmanager]
  have hstate := RiskManager.pruneOpenTimes_state (m.resetDailyStatsIfNewDay today) now
  have hcount : ((m.resetDailyStatsIfNewDay today).pruneOpenTimes now).dailyCount =
      (m.resetDailyStatsIfNewDay today).dailyCount := by rw [hstate]
  unfold RiskManager.room
  rw [hcount, RiskManager.pruneOpenTimes_limits]
  apply lt_min
  · unfold RiskManager.hasReachedDailyLimit at hdaily
    rw [decide_eq_false_iff_not] at hdaily
    omega
  · unfold RiskManager.hasReachedVelocityLimit at hvelocity
    rw [RiskManager.pruneOpenTimes_limits, RiskManager.resetDailyStats_limits] at hvelocity
    rw [RiskManager.resetDailyStats_limits]
    simp only [hcap, decide_true, Bool.true_and, decide_eq_false_iff_not] at hvelocity
    omega

theorem recordClose_counts (s : RiskSession) (today : Day) (now : Time) (netPnl : Decimal)
    (currentBalance : Option Decimal) :
    let s' := s.recordClose today now netPnl currentBalance
    s'.manager.limits = s.manager.limits ∧
      s'.manager.recentOpenTimes = s.manager.recentOpenTimes ∧
      s'.file = some s'.manager.toRiskState ∧
      s'.manager.lastTradeDate = some today ∧
      s'.manager.dailyCount = (s.manager.resetDailyStatsIfNewDay today).dailyCount := by
  have hbooked : (s.bookClose today now netPnl).manager.limits = s.manager.limits ∧
      (s.bookClose today now netPnl).manager.recentOpenTimes = s.manager.recentOpenTimes ∧
      (s.bookClose today now netPnl).file =
        some (s.bookClose today now netPnl).manager.toRiskState ∧
      (s.bookClose today now netPnl).manager.lastTradeDate = some today ∧
      (s.bookClose today now netPnl).manager.dailyCount =
        (s.manager.resetDailyStatsIfNewDay today).dailyCount := by
    unfold RiskSession.bookClose RiskSession.saveState RiskSession.modify
    dsimp only
    by_cases hwin : 0 < netPnl
    · simp [hwin, resetDailyStats_date]
    · simp [hwin, resetDailyStats_date]
  unfold RiskSession.recordClose
  cases currentBalance with
  | none => exact hbooked
  | some balance =>
      dsimp only
      split
      · obtain ⟨hlimits, htimes, -, hdate, hcount⟩ := hbooked
        exact ⟨hlimits, htimes, rfl, hdate, hcount⟩
      · exact hbooked

end Manager

/-! ## Every state reached -/

/-- What an admission is worth from its check on: room that the opens recorded
since may use up. -/
structure HasRoom (limits : RiskLimits) (recorded : List Open) (now : Time) (a : Admission) :
    Prop where
  checked : a.recorded ≤ recorded.length
  room : 0 < a.room
  daily : ∀ day, dayOf now ≤ day →
    (opensOn day (recorded.take a.recorded)).length + a.room ≤ limits.maxDaily
  velocity : (recent 60 now ((recorded.take a.recorded).map Open.time)).length + a.room ≤
    limits.maxOrdersPerMinute

/-- The manager and its file count every open that still matters. -/
structure Counted (limits : RiskLimits) (s : SharedRisk) : Prop where
  limits_eq : s.session.manager.limits = limits
  past : ∀ o ∈ s.recorded, o.day ≤ s.today
  manager : Tallied s.recorded s.today s.session.manager.toRiskState
  file : Tallied s.recorded s.today (s.session.file.getD {})
  window : recent 60 s.now s.session.manager.recentOpenTimes =
    recent 60 s.now (s.recorded.map Open.time)
  admitted : ∀ e a, s.admitted e = some a → HasRoom limits s.recorded s.now a
  caps : s.WithinCaps

section Steps

variable {limits : RiskLimits} {s : SharedRisk}

theorem now_le_tick (wait : ℚ≥0) : s.now ≤ (s.tick wait).now :=
  le_add_of_nonneg_right wait.2

theorem dayOf_mono {now later : Time} (h : now ≤ later) : dayOf now ≤ dayOf later := by
  apply Int.floor_mono
  exact div_le_div_of_nonneg_right h (by norm_num)

theorem today_le_tick (wait : ℚ≥0) : s.today ≤ (s.tick wait).today :=
  dayOf_mono (now_le_tick wait)

section HasRoom

variable {recorded : List Open} {now later : Time} {a : Admission}

theorem HasRoom.mono (h : HasRoom limits recorded now a) (hle : now ≤ later) :
    HasRoom limits recorded later a where
  checked := h.checked
  room := h.room
  daily day hday := h.daily day ((dayOf_mono hle).trans hday)
  velocity := by
    have hfewer : (recent 60 later ((recorded.take a.recorded).map Open.time)).length ≤
        (recent 60 now ((recorded.take a.recorded).map Open.time)).length :=
      recent_length_le_of_le hle
    have hroom := h.velocity
    omega

/-- An open recorded by another engine leaves an admission as it is. -/
theorem HasRoom.snoc (h : HasRoom limits recorded now a) (o : Open) :
    HasRoom limits (recorded ++ [o]) now a := by
  have htake : (recorded ++ [o]).take a.recorded = recorded.take a.recorded :=
    List.take_append_of_le_length h.checked
  refine ⟨?_, h.room, ?_, ?_⟩
  · rw [List.length_append]
    exact h.checked.trans (Nat.le_add_right _ _)
  · rw [htake]
    exact h.daily
  · rw [htake]
    exact h.velocity

/-- Fewer opens since than there was room for leave room for one more. -/
theorem HasRoom.left (h : HasRoom limits recorded now a)
    (hleft : recorded.length = a.recorded ∨ (recorded.length : ℤ) - a.recorded < a.room) :
    (∀ day, dayOf now ≤ day → ((opensOn day recorded).length : ℤ) < limits.maxDaily) ∧
      ((recent 60 now (recorded.map Open.time)).length : ℤ) < limits.maxOrdersPerMinute := by
  have hsince : ((recorded.drop a.recorded).length : ℤ) < a.room := by
    have hpos := h.room
    have hle := h.checked
    rw [List.length_drop]
    omega
  have hsplit : recorded = recorded.take a.recorded ++ recorded.drop a.recorded :=
    (List.take_append_drop a.recorded recorded).symm
  constructor
  · intro day hday
    have hbefore := h.daily day hday
    have hafter : (opensOn day (recorded.drop a.recorded)).length ≤
        (recorded.drop a.recorded).length := List.length_filter_le _ _
    have hcount : (opensOn day recorded).length =
        (opensOn day (recorded.take a.recorded)).length +
          (opensOn day (recorded.drop a.recorded)).length := by
      conv_lhs => rw [hsplit]
      rw [opensOn, List.filter_append, List.length_append]
      rfl
    omega
  · have hbefore := h.velocity
    have hafter : (recent 60 now ((recorded.drop a.recorded).map Open.time)).length ≤
        (recorded.drop a.recorded).length := by
      calc _ ≤ ((recorded.drop a.recorded).map Open.time).length := List.length_filter_le _ _
        _ = (recorded.drop a.recorded).length := List.length_map _
    have hcount : (recent 60 now (recorded.map Open.time)).length =
        (recent 60 now ((recorded.take a.recorded).map Open.time)).length +
          (recent 60 now ((recorded.drop a.recorded).map Open.time)).length := by
      conv_lhs => rw [hsplit]
      rw [List.map_append, recent_append, List.length_append]
    omega

end HasRoom

/-- As time goes by less matters. -/
theorem Counted.tick (h : Counted limits s) (wait : ℚ≥0) : Counted limits (s.tick wait) where
  limits_eq := h.limits_eq
  past o ho := (h.past o ho).trans (today_le_tick wait)
  manager := h.manager.mono (today_le_tick wait)
  file := h.file.mono (today_le_tick wait)
  window := by
    show recent 60 (s.tick wait).now s.session.manager.recentOpenTimes =
      recent 60 (s.tick wait).now (s.recorded.map Open.time)
    rw [← recent_recent (now_le_tick wait), h.window, recent_recent (now_le_tick wait)]
  admitted e a ha := (h.admitted e a ha).mono (now_le_tick wait)
  caps := h.caps

/-- On a day that has come or is to come, no more opens were recorded than the
manager has counted. -/
theorem Tallied.opensOn_le {recorded : List Open} {today day : Day} {state : RiskState}
    (h : Tallied recorded today state) (hday : today ≤ day) :
    (opensOn day recorded).length ≤ state.dailyCount := by
  obtain ⟨hcount, hnone⟩ := h day hday
  by_cases hdate : state.lastTradeDate = some day
  · exact hcount hdate
  · rw [hnone hdate]
    exact Nat.zero_le _

theorem Counted.canTrade (h : Counted limits s) (henabled : limits.disabled = false)
    (hcap : 0 < limits.maxOrdersPerMinute) (e : EngineId) (q : TradeQuery) (wait wait' : ℚ≥0) :
    Counted limits (s.canTrade e q wait wait') := by
  have h₁ := h.tick wait
  have h₂ := h₁.tick wait'
  set s₁ := s.tick wait
  set s₂ := s₁.tick wait'
  have hdisabled : s₂.session.manager.limits.disabled = false := by rw [h₂.limits_eq, henabled]
  obtain ⟨hstate, hrecent⟩ := canTrade_counts hdisabled s₁.today s₂.now q
  have hlimits := (s₂.session.manager.canTrade_frame s₁.today s₂.now q).2
  set m := (s₂.session.manager.canTrade s₁.today s₂.now q).2 with hm
  have hmanager : Tallied s₂.recorded s₂.today m.toRiskState := by
    rw [hstate]
    exact (h₁.manager.reset h₁.past (le_refl _)).mono (today_le_tick wait')
  have hwindow : recent 60 s₂.now m.recentOpenTimes = recent 60 s₂.now (s₂.recorded.map Open.time) :=
    hrecent.trans h₂.window
  have hnew : (s₂.session.manager.canTrade s₁.today s₂.now q).1.1 = true →
      HasRoom limits s₂.recorded s₂.now { recorded := s₂.recorded.length, room := m.room } := by
    intro hok
    have hroom := canTrade_true hdisabled (by rw [h₂.limits_eq]; exact hcap) hok
    refine ⟨le_refl _, hroom, ?_, ?_⟩
    · intro day hday
      show ((opensOn day (s₂.recorded.take s₂.recorded.length)).length : ℤ) + m.room ≤ _
      rw [List.take_length]
      have hcount := hmanager.opensOn_le hday
      have hleft : m.room ≤ m.limits.maxDaily - m.dailyCount := min_le_left _ _
      rw [hlimits, h₂.limits_eq] at hleft
      omega
    · show ((recent 60 s₂.now
        ((s₂.recorded.take s₂.recorded.length).map Open.time)).length : ℤ) + m.room ≤ _
      rw [List.take_length, ← hwindow]
      have hcount : (recent 60 s₂.now m.recentOpenTimes).length ≤ m.recentOpenTimes.length :=
        List.length_filter_le _ _
      have hleft : m.room ≤ m.limits.maxOrdersPerMinute - m.recentOpenTimes.length :=
        min_le_right _ _
      rw [hlimits, h₂.limits_eq] at hleft
      omega
  refine ⟨hlimits.trans h₂.limits_eq, h₂.past, hmanager, h₂.file, hwindow, ?_, ?_⟩
  · intro e' a ha
    by_cases he : e' = e
    · subst he
      simp only [SharedRisk.canTrade, Function.update_self] at ha
      split at ha
      · rename_i hok
        obtain rfl := Option.some.inj ha
        exact hnew hok
      · cases ha
    · simp only [SharedRisk.canTrade, Function.update_of_ne he] at ha
      exact h₂.admitted e' a ha
  · unfold WithinCaps
    show WindowCap 60 m.limits.maxOrdersPerMinute.toNat _ ∧ ∀ day, _ ≤ m.limits.maxDaily.toNat
    rw [hlimits]
    exact h₂.caps

/-- An engine's own record, in the room its check found. -/
theorem Counted.recordOpen (h : Counted limits s) {e : EngineId} {a : Admission}
    (ha : s.admitted e = some a)
    (hroom : s.recorded.length = a.recorded ∨ (s.recorded.length : ℤ) - a.recorded < a.room)
    (wait wait' : ℚ≥0) : Counted limits (s.recordOpen e wait wait') := by
  have h₁ := h.tick wait
  have h₂ := h₁.tick wait'
  have hlater := today_le_tick (s := s.tick wait) wait'
  have hdaily := ((h₁.admitted e a ha).left hroom).1
  have hvelocity := ((h₂.admitted e a ha).left hroom).2
  set s₁ := s.tick wait
  set s₂ := s₁.tick wait'
  set o : Open := { day := s₁.today, time := s₂.now } with ho
  have hlimits : (s₁.session.manager.resetDailyStatsIfNewDay s₁.today).limits = limits := by
    rw [RiskManager.resetDailyStats_limits]
    exact h₁.limits_eq
  have htally : Tallied (s₂.recorded ++ [o]) s₂.today _ :=
    ((h₁.manager.reset h₁.past (le_refl _)).snoc h₁.past
      (resetDailyStats_date s₁.session.manager s₁.today) s₂.now).mono hlater
  refine ⟨hlimits, ?_, htally, htally, ?_, ?_, ?_, ?_⟩
  · intro o' ho'
    rcases List.mem_append.mp ho' with ho' | ho'
    · exact h₂.past o' ho'
    · rw [List.mem_singleton.mp ho']
      exact hlater
  · show recent 60 s₂.now
        ((s₁.session.manager.resetDailyStatsIfNewDay s₁.today).recentOpenTimes ++ [s₂.now]) =
      recent 60 s₂.now ((s₂.recorded ++ [o]).map Open.time)
    rw [resetDailyStats_openTimes, List.map_append, recent_append, recent_append]
    exact congrArg (· ++ recent 60 s₂.now [s₂.now]) h₂.window
  · intro e' a' ha'
    by_cases he : e' = e
    · subst he
      simp only [SharedRisk.recordOpen, Function.update_self] at ha'
      cases ha'
    · simp only [SharedRisk.recordOpen, Function.update_of_ne he] at ha'
      exact (h₂.admitted e' a' ha').snoc o
  · show WindowCap 60
      (s₁.session.manager.resetDailyStatsIfNewDay s₁.today).limits.maxOrdersPerMinute.toNat
      ((s₂.recorded ++ [o]).map Open.time)
    rw [hlimits, List.map_append]
    have hwindow := h₂.caps.1
    rw [h₂.limits_eq] at hwindow
    have hrecent : (recent 60 s₂.now (s₂.recorded.map Open.time)).length <
        limits.maxOrdersPerMinute.toNat := by omega
    exact hwindow.snoc hrecent
  · intro day
    show (opensOn day (s₂.recorded ++ [o])).length ≤
      (s₁.session.manager.resetDailyStatsIfNewDay s₁.today).limits.maxDaily.toNat
    have hbefore := h₂.caps.2 day
    rw [h₂.limits_eq] at hbefore
    rw [hlimits, opensOn, List.filter_append, List.length_append]
    by_cases hday : o.day = day
    · have hroom := hdaily day (le_of_eq hday)
      have hone : ([o].filter (fun o => o.day = day)).length ≤ 1 := List.length_filter_le _ [o]
      unfold opensOn at hroom
      have hsame : s₂.recorded = s₁.recorded := rfl
      rw [hsame]
      omega
    · have hnone : [o].filter (fun o => o.day = day) = [] := by simp [hday]
      rw [hnone]
      exact hbefore

theorem Counted.recordClose (h : Counted limits s) (netPnl : Decimal)
    (currentBalance : Option Decimal) (wait wait' : ℚ≥0) :
    Counted limits (s.recordClose netPnl currentBalance wait wait') := by
  have h₁ := h.tick wait
  have h₂ := h₁.tick wait'
  have hlater := today_le_tick (s := s.tick wait) wait'
  set s₁ := s.tick wait
  set s₂ := s₁.tick wait'
  obtain ⟨hlimits, htimes, hfile, hdate, hcount⟩ :=
    recordClose_counts s₂.session s₁.today s₂.now netPnl currentBalance
  have hmanager : Tallied s₂.recorded s₂.today
      (s₂.session.recordClose s₁.today s₂.now netPnl currentBalance).manager.toRiskState :=
    ((h₁.manager.reset h₁.past (le_refl _)).congr
      (hdate.trans (resetDailyStats_date _ _).symm) hcount).mono hlater
  refine ⟨hlimits.trans h₂.limits_eq, h₂.past, hmanager, ?_, ?_, h₂.admitted, ?_⟩
  · show Tallied s₂.recorded s₂.today
      ((s₂.session.recordClose s₁.today s₂.now netPnl currentBalance).file.getD {})
    rw [hfile]
    exact hmanager
  · show recent 60 s₂.now
      (s₂.session.recordClose s₁.today s₂.now netPnl currentBalance).manager.recentOpenTimes = _
    rw [htimes]
    exact h₂.window
  · unfold WithinCaps
    show WindowCap 60 (s₂.session.recordClose s₁.today s₂.now netPnl
        currentBalance).manager.limits.maxOrdersPerMinute.toNat _ ∧
      ∀ day, _ ≤ (s₂.session.recordClose s₁.today s₂.now netPnl
        currentBalance).manager.limits.maxDaily.toNat
    rw [hlimits]
    exact h₂.caps

/-- The file has the day's count; the open times are lost, and none of them may
still be recent. -/
theorem Counted.restart (h : Counted limits s) {wait : ℚ≥0}
    (hold : ∀ o ∈ s.recorded, 60 ≤ s.now + wait - o.time) : Counted limits (s.restart wait) := by
  have h₁ := h.tick wait
  refine ⟨h₁.limits_eq, h₁.past, h₁.file, h₁.file, ?_, ?_, h₁.caps⟩
  · show recent 60 (s.tick wait).now [] = recent 60 (s.tick wait).now (s.recorded.map Open.time)
    rw [recent_nil, recent_eq_nil]
    intro t ht
    obtain ⟨o, ho, rfl⟩ := List.mem_map.mp ht
    exact hold o ho
  · intro e a ha
    cases ha

theorem Counted.step (h : Counted limits s) (henabled : limits.disabled = false)
    (hcap : 0 < limits.maxOrdersPerMinute) {a : SharedStep} (ha : s.KeepsRoom a) :
    Counted limits (s.step a) := by
  cases a with
  | canTrade e q wait wait' => exact h.canTrade henabled hcap e q wait wait'
  | recordOpen e wait wait' =>
      cases hadmitted : s.admitted e with
      | none =>
          simp only [SharedRisk.step, hadmitted]
          exact h
      | some admission =>
          simp only [SharedRisk.step, hadmitted]
          exact h.recordOpen hadmitted (ha admission hadmitted) wait wait'
  | recordClose netPnl currentBalance wait wait' =>
      exact h.recordClose netPnl currentBalance wait wait'
  | restart wait => exact h.restart ha

end Steps

/-- The engines just set up, with whatever an earlier run left in the file. -/
def start (limits : RiskLimits) (file : Option RiskState) (now : Time) : SharedRisk :=
  { session := .construct limits file, now := now }

theorem start_counted (limits : RiskLimits) (file : Option RiskState) (now : Time) :
    Counted limits (start limits file now) where
  limits_eq := rfl
  past o ho := by cases ho
  manager day _ := ⟨fun _ => Nat.zero_le _, fun _ => rfl⟩
  file day _ := ⟨fun _ => Nat.zero_le _, fun _ => rfl⟩
  window := rfl
  admitted e a ha := by cases ha
  caps := ⟨fun _ => Nat.zero_le _, fun _ => Nat.zero_le _⟩

/-- As long as the engines' checks are not overtaken by more opens than they
found room for, and no restart comes within 60 seconds of an open, the caps
hold in every state reached. -/
theorem caps_hold (limits : RiskLimits) (file : Option RiskState) (now : Time)
    (henabled : limits.disabled = false) (hcap : 0 < limits.maxOrdersPerMinute) (s : SharedRisk)
    (h : Reaches step KeepsRoom (start limits file now) s) : s.WithinCaps := by
  have hcounted : Counted limits s :=
    h.invariant (start_counted limits file now) (fun _ _ hs ha => hs.step henabled hcap ha)
  exact hcounted.caps

/-- Two engines check one after the other, and both open. -/
def demoOvertaken : List SharedStep :=
  [.canTrade 0 {} 1 0, .canTrade 1 {} 1 0, .recordOpen 0 1 0, .recordOpen 1 1 0]

theorem keepsRoom_of_recorded {s : SharedRisk} {e : EngineId} {wait wait' : ℚ≥0}
    (h : (s.admitted e).map Admission.recorded = some s.recorded.length) :
    s.KeepsRoom (.recordOpen e wait wait') := by
  intro a ha
  rw [Option.mem_def.mp ha, Option.map_some, Option.some_inj] at h
  exact Or.inl h.symm

/-- Two engines that take turns stay within two opens a day. -/
theorem demoTurns_caps_hold :
    (([.canTrade 0 {} 1 0, .recordOpen 0 1 0, .canTrade 1 {} 1 0,
      .recordOpen 1 1 0] : List SharedStep).foldl step (start {} none 0)).WithinCaps :=
  caps_hold {} none 0 rfl (by decide) _ (Reaches.start.foldl _
    ⟨trivial, keepsRoom_of_recorded (by decide +kernel), trivial,
      keepsRoom_of_recorded (by decide +kernel), trivial⟩)

/-- A cap of one open a day, and two are recorded. -/
theorem not_caps_hold_overtaken :
    ¬ ∀ (limits : RiskLimits) (file : Option RiskState) (now : Time) (steps : List SharedStep),
      limits.disabled = false → 0 < limits.maxOrdersPerMinute →
      (steps.foldl step (start limits file now)).WithinCaps := by
  intro h
  have hday := (h { maxDaily := 1 } none 0 demoOvertaken rfl (by decide)).2 0
  exact absurd hday (by decide +kernel)

end SharedRisk

end CryptoTrader.Risk
