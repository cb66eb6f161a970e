import CryptoTrader.Browser.Accounting

/-!
# Control and caps of the browser engine

A tick tests the status only before its fetches, takes responses that were asked for before
a reset, and counts the day's trades by the age of another counter.
-/

namespace CryptoTrader.Browser

open CryptoTrader.Backtest CryptoTrader.Lib

/-! ## The day's numbers through an evaluation -/

/-- Two risk states with the same numbers of the day. -/
structure SameDay (r r' : RiskState) : Prop where
  dailyTrades : r'.dailyTrades = r.dailyTrades
  dailyStartBalance : r'.dailyStartBalance = r.dailyStartBalance
  lastMinuteReset : r'.lastMinuteReset = r.lastMinuteReset

section Evaluate

variable {calendar : Calendar} {config : BotConfig} {candles : List Candle} {last : Candle}
variable {now : ℤ} {ema9 : ℚ} {s : BotState}

theorem updateAll_sameDay (config : BotConfig) (candles : List Candle) (last : Candle) (now : ℤ)
    (ema9 : ℚ) : ∀ (positions : List Position) (s : BotState),
      SameDay s.riskState (updateAll config candles last now ema9 s positions).1.riskState := by
  intro positions
  induction positions with
  | nil => exact fun s => ⟨rfl, rfl, rfl⟩
  | cons p rest ih =>
      intro s
      simp only [updateAll]
      cases (updateOne config candles last s.regime ema9 p).2 with
      | none => exact ih s
      | some update =>
          have hrest := ih (s.applyClose update now)
          have hclose : SameDay s.riskState (s.applyClose update now).riskState := by
            unfold BotState.applyClose recordTradeClose
            split <;> exact ⟨rfl, rfl, rfl⟩
          exact ⟨hrest.dailyTrades.trans hclose.dailyTrades,
            hrest.dailyStartBalance.trans hclose.dailyStartBalance,
            hrest.lastMinuteReset.trans hclose.lastMinuteReset⟩

/-- The risk check of a tick. -/
def riskCheck (calendar : Calendar) (config : BotConfig) (now : ℤ) (s : BotState) :
    RiskState × Option Refusal :=
  canTrade calendar config.risk (updatePeakBalance s.riskState s.marginBalance) now s.marginBalance

/-- What an evaluation leaves, by what its risk check found: the day's numbers are those of
the check, with the entry counted, and an entry was allowed by the check. -/
structure EvaluatedDay (checked : RiskState × Option Refusal) (before : BotState)
    (after : TradingEngine × Bool) : Prop where
  dailyTrades : after.1.state.riskState.dailyTrades =
    checked.1.dailyTrades + (if after.2 then 1 else 0)
  dailyStartBalance : after.1.state.riskState.dailyStartBalance = checked.1.dailyStartBalance
  lastMinuteReset : after.1.state.riskState.lastMinuteReset = checked.1.lastMinuteReset
  allowed : after.2 = true → checked.2 = none
  single : before.openPositions.length ≤ 1 → after.1.state.openPositions.length ≤ 1

theorem haltIfRisky_riskState (s : BotState) : s.haltIfRisky.riskState = s.riskState := by
  unfold BotState.haltIfRisky
  split <;> rfl

theorem evaluate_eq {e : TradingEngine} {times : Times} {s' : BotState} {opened : Bool}
    (h : let checked := check calendar config e.candles times.check e.state
      enter config e.candles last times.entry e.htfCandles checked.2 e.posIdCounter
        (manage config e.candles last times.close ((computeEMA (closes e.candles) 9).getLastD 0)
          checked.1) = (s', opened)) :
    e.evaluate calendar config times last =
      ({ e with
          state := s'.haltIfRisky
          posIdCounter := if opened then e.posIdCounter + 1 else e.posIdCounter }, opened) := by
  unfold TradingEngine.evaluate
  simp only at h ⊢
  rw [h]

theorem evaluate_day (calendar : Calendar) (config : BotConfig) (times : Times) {e : TradingEngine}
    (hlast : e.candles.getLast? = some last) (hfiled : Filed e.state e.posIdCounter) :
    EvaluatedDay (riskCheck calendar config times.check e.state) e.state
      (e.evaluate calendar config times last) := by
  let checked := check calendar config e.candles times.check e.state
  let ema9 := (computeEMA (closes e.candles) 9).getLastD 0
  let managed := manage config e.candles last times.close ema9 checked.1
  have hheld : ∀ p ∈ checked.1.openPositions, p.status = .open_ := hfiled.held
  have hday : SameDay checked.1.riskState managed.riskState :=
    updateAll_sameDay config e.candles last times.close ema9 checked.1.openPositions checked.1
  obtain ⟨positions', filed, hswept, hopen⟩ :=
    manage_swept config e.candles last times.close ema9 hheld
  have hmanaged : managed.openPositions = positions'.filter (fun p => p.status = .open_) := hopen
  have hlength := hswept.split.length_eq
  simp only [List.length_map, List.length_append] at hlength
  rcases @enter_cases config e.candles e.htfCandles last times.entry managed e.posIdCounter
    checked.2 hlast with hentered | ⟨pos, -, -, -, hallowed, hnone, hentered⟩
  · rw [evaluate_eq hentered]
    constructor
    · rw [haltIfRisky_riskState]
      exact hday.dailyTrades
    · rw [haltIfRisky_riskState]
      exact hday.dailyStartBalance
    · rw [haltIfRisky_riskState]
      exact hday.lastMinuteReset
    · simp
    · intro hsingle
      rw [haltIfRisky_sameBooks.held, hmanaged]
      have hbefore : checked.1.openPositions.length ≤ 1 := hsingle
      omega
  · -- whatever is still held is open, so nothing is
    have hempty : managed.openPositions = [] := by
      rw [hmanaged] at hnone ⊢
      refine List.eq_nil_iff_forall_not_mem.mpr (fun p hp => ?_)
      have hclosed := List.any_eq_false.mp hnone p hp
      exact hclosed (by simpa using List.of_mem_filter hp)
    rw [evaluate_eq hentered]
    constructor
    · rw [haltIfRisky_riskState]
      simp [recordTradeOpen, hday.dailyTrades, riskCheck, checked, check]
    · rw [haltIfRisky_riskState]
      exact hday.dailyStartBalance
    · rw [haltIfRisky_riskState]
      exact hday.lastMinuteReset
    · exact fun _ => hallowed
    · intro _
      rw [haltIfRisky_sameBooks.held]
      simp [hempty]

end Evaluate

/-! ## Risk checks of a day -/

/-- The counters count the trades of the day of a time, and the day began with a balance. -/
structure CountsDay (calendar : Calendar) (now : ℤ) (dailyTrades : ℕ) (dailyStartBalance : ℚ)
    (r : RiskState) : Prop where
  dailyTrades : r.dailyTrades = dailyTrades
  dailyStartBalance : r.dailyStartBalance = dailyStartBalance
  counted : calendar.day r.lastMinuteReset = calendar.day now

section RiskCheck

variable {calendar : Calendar} {config : BotConfig} {now : ℤ} {s : BotState}

/-- A state that is not halted has the day's numbers of the rolled state. -/
theorem riskCheck_rollOver (h : s.riskState.halted = false) :
    SameDay (rollOver calendar (updatePeakBalance s.riskState s.marginBalance) now s.marginBalance)
      (riskCheck calendar config now s).1 := by
  have hhalted : (updatePeakBalance s.riskState s.marginBalance).halted = false := h
  obtain ⟨htrades, hstart, hreset⟩ :=
    @canTrade_day calendar config.risk _ now s.marginBalance hhalted
  exact ⟨htrades, hstart, hreset⟩

/-- A check on the day that is counted keeps the day's numbers. -/
theorem riskCheck_again (hstart : s.riskState.dailyStartBalance ≠ 0)
    (hcounted : calendar.day s.riskState.lastMinuteReset = calendar.day now) :
    CountsDay calendar now s.riskState.dailyTrades s.riskState.dailyStartBalance
      (riskCheck calendar config now s).1 := by
  have hpeak : (updatePeakBalance s.riskState s.marginBalance).dailyStartBalance =
      s.riskState.dailyStartBalance := if_neg hstart
  by_cases hhalted : s.riskState.halted = true
  · have hcheck : riskCheck calendar config now s =
        (updatePeakBalance s.riskState s.marginBalance, some .halted) := canTrade_of_halted hhalted
    rw [hcheck]
    exact ⟨rfl, hpeak, hcounted⟩
  · have hsame : newDay calendar (updatePeakBalance s.riskState s.marginBalance) now = false := by
      simp [newDay, updatePeakBalance, Calendar.getDate, hcounted]
    have hroll := @riskCheck_rollOver calendar config now s (by simpa using hhalted)
    constructor
    · rw [hroll.dailyTrades]
      simp only [rollOver, hsame]
      rfl
    · rw [hroll.dailyStartBalance, ← hpeak]
      simp only [rollOver, hsame]
      rfl
    · rw [hroll.lastMinuteReset]
      unfold rollOver
      simp only
      split
      · rfl
      · exact hcounted

/-- A first check begins the day, if it finds the counters reset or resets them, and the
minute on the right side of midnight. -/
theorem riskCheck_first (hhalted : s.riskState.halted = false)
    (hminute : calendar.day s.riskState.lastMinuteReset = calendar.day now ∨
      newMinute s.riskState now = true)
    (hfirst : s.riskState.dailyTrades = 0 ∧ s.riskState.dailyStartBalance = 0 ∨
      newDay calendar s.riskState now = true) :
    CountsDay calendar now 0 s.marginBalance (riskCheck calendar config now s).1 := by
  have hroll := @riskCheck_rollOver calendar config now s hhalted
  have hday : newDay calendar (updatePeakBalance s.riskState s.marginBalance) now =
      newDay calendar s.riskState now := rfl
  constructor
  · rw [hroll.dailyTrades]
    simp only [rollOver, hday]
    rcases hfirst with ⟨htrades, -⟩ | hnew
    · simp [updatePeakBalance, htrades]
    · simp [hnew]
  · rw [hroll.dailyStartBalance]
    simp only [rollOver, hday]
    rcases hfirst with ⟨-, hstart⟩ | hnew
    · simp [updatePeakBalance, hstart]
    · simp [hnew]
  · rw [hroll.lastMinuteReset]
    have hsame : newMinute (updatePeakBalance s.riskState s.marginBalance) now =
        newMinute s.riskState now := rfl
    simp only [rollOver, hsame]
    by_cases hnew : newMinute s.riskState now = true
    · simp [hnew]
    · rw [if_neg hnew]
      exact hminute.resolve_right hnew

end RiskCheck

/-! ## What is to hold, and when it does -/

section Properties

variable (calendar : Calendar) (config : BotConfig)

/-- The entries of a day. -/
def entriesOn (w : World) (day : ℤ) : List ℤ := w.entries.filter (fun t => calendar.day t = day)

/-- The risk checks of a day, latest first. -/
def checksOn (w : World) (day : ℤ) : List RiskCheck :=
  w.checks.filter (fun c => calendar.day c.time = day)

/-- The caps: one position at a time, so many entries a day, and the day's start at the
balance of its first risk check, once the state was checked. -/
structure Capped (w : World) : Prop where
  single : w.engine.state.openPositions.length ≤ 1
  daily : ∀ day, (entriesOn calendar w day).length ≤ config.risk.maxDailyTrades
  dailyStart : ∀ c, w.checks.head? = some c → c.life = w.life →
    (checksOn calendar w (calendar.day c.time)).getLast?.map RiskCheck.balance =
      some w.engine.state.riskState.dailyStartBalance

/-- Both lists of candles were asked for in the life of the state. -/
structure Fresh (w : World) : Prop where
  candlesOf : w.candlesOf = w.life
  htfOf : w.htfOf = w.life

/-- The control over one event: the books of a state change only while it runs, and what is
evaluated belongs to the state. -/
structure ControlledStep (w : World) (event : Event) : Prop where
  quiet : w.engine.state.status ≠ .running → (w.step calendar config event).life = w.life →
    SameBooks w.engine.state (w.step calendar config event).engine.state
  fresh : w.evaluates event ≠ none → Fresh (w.step calendar config event)

/-- Candles are received by ticks of the life of the state. -/
def Belongs (w : World) (action : Action) : Prop :=
  match action with
  | .first i (some _) => ∀ pending ∈ w.pending[i]?, pending.phase = .first → pending.life = w.life
  | .second i (.ok _) _ _ =>
      ∀ pending ∈ w.pending[i]?, pending.phase = .second → pending.life = w.life
  | _ => True

/-- The risk check of a day that begins it: the state is not halted, has a margin balance
and was not checked before, or on another day of the month, and its last minute began on
this day or is over. -/
def BeginsDay (w : World) (now : ℤ) : Prop :=
  let state := w.engine.state
  state.riskState.halted = false ∧ state.marginBalance ≠ 0 ∧
    ((∀ c ∈ w.checks, c.life ≠ w.life) ∨ newDay calendar state.riskState now = true) ∧
    (calendar.day state.riskState.lastMinuteReset = calendar.day now ∨
      newMinute state.riskState now = true)

/-- A time at which an evaluation is in order. -/
def InOrder (w : World) (now entry : ℤ) : Prop :=
  w.engine.state.status = .running ∧ calendar.day entry = calendar.day now ∧
    ((∃ c ∈ w.checks, calendar.day c.time = calendar.day now) ∨ BeginsDay calendar w now)

/-- An event under which control and caps hold: candles come to the state that asked for
them, an evaluation is in order, and a reset comes on a day without a check. -/
def Guarded (w : World) (event : Event) : Prop :=
  let now := w.clock + event.elapsed
  Belongs w event.action ∧
    match event.action with
    | .second _ _ toClose toEntry =>
        w.evaluates event ≠ none → InOrder calendar w now (now + toClose + toEntry)
    | .reset => ∀ c ∈ w.checks, calendar.day c.time ≠ calendar.day now
    | _ => True

instance (w : World) (action : Action) : Decidable (Belongs w action) := by
  unfold Belongs
  split <;> infer_instance

instance (w : World) (now : ℤ) : Decidable (BeginsDay calendar w now) :=
  inferInstanceAs (Decidable (_ ∧ _ ∧ _ ∧ _))

instance (w : World) (now entry : ℤ) : Decidable (InOrder calendar w now entry) :=
  inferInstanceAs (Decidable (_ ∧ _ ∧ _))

instance (w : World) (event : Event) : Decidable (Guarded calendar w event) := by
  unfold Guarded
  cases event.action <;> infer_instance

end Properties

/-! ## Runs -/

section Run

variable {calendar : Calendar} {config : BotConfig} {w w' : World} {event : Event}

theorem evaluate_fresh (h : Fresh w) (toClose toEntry : ℕ) :
    Fresh (w.evaluate calendar config toClose toEntry) := by
  unfold World.evaluate
  split
  · exact h
  · exact ⟨h.candlesOf, h.htfOf⟩

/-- Candles that belong to the state keep both lists fresh. -/
theorem step_fresh (h : Fresh w) (hbelongs : Belongs w event.action) :
    Fresh (w.step calendar config event) := by
  have hclock : Fresh { w with clock := w.clock + event.elapsed } := ⟨h.candlesOf, h.htfOf⟩
  by_cases hcontrols : event.action.controls = true
  · obtain ⟨status, pending, hstep⟩ := World.step_of_controls calendar config w hcontrols
    rw [hstep]
    exact ⟨h.candlesOf, h.htfOf⟩
  unfold World.step
  cases haction : event.action with
  | start | pause | resume | stop | tick =>
      rw [haction] at hcontrols
      exact absurd rfl hcontrols
  | reset => exact ⟨rfl, rfl⟩
  | first i candles =>
      rw [haction] at hbelongs
      simp only [World.receiveFirst]
      split
      · rename_i life hpending
        cases candles with
        | none => exact ⟨h.candlesOf, h.htfOf⟩
        | some candles => exact ⟨hbelongs ⟨life, .first⟩ hpending rfl, h.htfOf⟩
      · exact hclock
  | second i response toClose toEntry =>
      rw [haction] at hbelongs
      simp only [World.receiveSecond]
      split
      · rename_i life hpending
        cases response with
        | threw => exact ⟨h.candlesOf, h.htfOf⟩
        | notOk =>
            refine evaluate_fresh ?_ toClose toEntry
            exact ⟨h.candlesOf, h.htfOf⟩
        | ok htfCandles =>
            refine evaluate_fresh ?_ toClose toEntry
            exact ⟨h.candlesOf, hbelongs ⟨life, .second⟩ hpending rfl⟩
      · exact hclock

/-- The state was checked: its counters are those of the day of the latest check. -/
structure Checked (calendar : Calendar) (w : World) (c : RiskCheck) : Prop where
  latest : w.checks.head? = some c
  life : c.life = w.life
  counts : CountsDay calendar c.time (entriesOn calendar w (calendar.day c.time)).length
    w.engine.state.riskState.dailyStartBalance w.engine.state.riskState
  funded : w.engine.state.riskState.dailyStartBalance ≠ 0
  begun : (checksOn calendar w (calendar.day c.time)).getLast?.map RiskCheck.balance =
    some w.engine.state.riskState.dailyStartBalance

/-- The state was not checked yet: its counters are as they were made, on a later day than
any check. -/
structure Unchecked (calendar : Calendar) (w : World) : Prop where
  other : ∀ c ∈ w.checks, c.life ≠ w.life
  past : ∀ c ∈ w.checks, calendar.day c.time < calendar.day w.clock
  dailyTrades : w.engine.state.riskState.dailyTrades = 0
  dailyStartBalance : w.engine.state.riskState.dailyStartBalance = 0

/-- The records are in order: checks of lives and times gone by, the latest first, and no
entry without a check on its day. -/
structure Logged (calendar : Calendar) (w : World) : Prop where
  lives : ∀ c ∈ w.checks, c.life ≤ w.life
  past : ∀ c ∈ w.checks, c.time ≤ w.clock
  sorted : ∀ c, w.checks.head? = some c → ∀ o ∈ w.checks, o.time ≤ c.time
  checked : ∀ t ∈ w.entries, ∃ c ∈ w.checks, calendar.day c.time = calendar.day t

/-- What the events keep. -/
structure Kept (calendar : Calendar) (config : BotConfig) (w : World) : Prop where
  filed : Filed w.engine.state w.engine.posIdCounter
  fresh : Fresh w
  single : w.engine.state.openPositions.length ≤ 1
  daily : ∀ day, (entriesOn calendar w day).length ≤ config.risk.maxDailyTrades
  logged : Logged calendar w
  counters : Unchecked calendar w ∨ ∃ c, Checked calendar w c

theorem Kept.capped (h : Kept calendar config w) : Capped calendar config w := by
  refine ⟨h.single, h.daily, fun c hlatest hlife => ?_⟩
  rcases h.counters with hun | ⟨c', hchecked⟩
  · exact absurd hlife (hun.other c (List.mem_of_mem_head? hlatest))
  · obtain rfl : c' = c := Option.some.inj (hchecked.latest.symm.trans hlatest)
    exact hchecked.begun

/-- On a day with a check the latest check is of that day and of the state. -/
theorem Kept.checkedToday (h : Kept calendar config w) {now : ℤ} (hnow : w.clock ≤ now)
    (htoday : ∃ c ∈ w.checks, calendar.day c.time = calendar.day now) :
    ∃ c, Checked calendar w c ∧ calendar.day c.time = calendar.day now := by
  obtain ⟨o, ho, hday⟩ := htoday
  rcases h.counters with hun | ⟨c, hchecked⟩
  · have hlt := hun.past o ho
    have hle := calendar.day_mono hnow
    omega
  · refine ⟨c, hchecked, le_antisymm ?_ ?_⟩
    · exact calendar.day_mono ((h.logged.past c (List.mem_of_mem_head? hchecked.latest)).trans hnow)
    · rw [← hday]
      exact calendar.day_mono (h.logged.sorted c hchecked.latest o ho)

theorem Logged.no_entries (h : Logged calendar w) {day : ℤ}
    (hnone : ∀ c ∈ w.checks, calendar.day c.time ≠ day) : entriesOn calendar w day = [] := by
  refine List.filter_eq_nil_iff.mpr (fun t ht hday => ?_)
  obtain ⟨c, hc, heq⟩ := h.checked t ht
  exact hnone c hc (heq.trans (by simpa using hday))

/-- A check in order finds the day counted, whether it begins it or not. -/
theorem Kept.counts (h : Kept calendar config w) {now : ℤ} (hnow : w.clock ≤ now)
    (horder : (∃ c ∈ w.checks, calendar.day c.time = calendar.day now) ∨
      BeginsDay calendar w now) :
    ∃ start, start ≠ 0 ∧
      CountsDay calendar now (entriesOn calendar w (calendar.day now)).length start
        (riskCheck calendar config now w.engine.state).1 ∧
      ∀ c : RiskCheck, c.balance = w.engine.state.marginBalance →
        (c :: checksOn calendar w (calendar.day now)).getLast?.map RiskCheck.balance =
          some start := by
  by_cases htoday : ∃ c ∈ w.checks, calendar.day c.time = calendar.day now
  · obtain ⟨c, hchecked, hday⟩ := h.checkedToday hnow htoday
    have hcounts := hchecked.counts
    have hbegun := hchecked.begun
    rw [hday] at hcounts hbegun
    have hagain := @riskCheck_again calendar config now w.engine.state hchecked.funded
      (hcounts.counted.trans hday)
    rw [hcounts.dailyTrades] at hagain
    refine ⟨_, hchecked.funded, hagain, fun c' _ => ?_⟩
    obtain ⟨first, hfirst, hbalance⟩ := Option.map_eq_some_iff.mp hbegun
    rw [List.getLast?_cons, hfirst, ← hbalance]
    rfl
  · obtain ⟨hhalted, hfunded, hbegins, hminute⟩ := horder.resolve_left htoday
    have hnone : ∀ c ∈ w.checks, calendar.day c.time ≠ calendar.day now :=
      fun c hc hday => htoday ⟨c, hc, hday⟩
    have hchecks : checksOn calendar w (calendar.day now) = [] :=
      List.filter_eq_nil_iff.mpr (fun c hc => by simpa using hnone c hc)
    have hfirst : w.engine.state.riskState.dailyTrades = 0 ∧
        w.engine.state.riskState.dailyStartBalance = 0 ∨
          newDay calendar w.engine.state.riskState now = true := by
      refine hbegins.imp_left (fun hother => ?_)
      rcases h.counters with hun | ⟨c, hchecked⟩
      · exact ⟨hun.dailyTrades, hun.dailyStartBalance⟩
      · exact absurd hchecked.life (hother c (List.mem_of_mem_head? hchecked.latest))
    rw [h.logged.no_entries hnone, hchecks]
    refine ⟨_, hfunded, riskCheck_first hhalted hminute hfirst, fun c hc => ?_⟩
    simp [hc]

/-- What an evaluation records, with its check at one time and its entry at another. -/
structure Recorded (w after : World) (now entry : ℤ) (opened : Bool) : Prop where
  checks : after.checks = ⟨w.life, now, w.engine.state.marginBalance⟩ :: w.checks
  entries : after.entries = if opened then entry :: w.entries else w.entries
  life : after.life = w.life
  clock : after.clock = entry

theorem evaluateAt_recorded (hprepared : World.Prepared w event w') (last : Candle)
    (toClose toEntry : ℕ) :
    Recorded w (w'.evaluateAt calendar config (w'.times toClose toEntry) last)
      (w.clock + event.elapsed) (w.clock + event.elapsed + toClose + toEntry)
      (w'.engine.evaluate calendar config (w'.times toClose toEntry) last).2 := by
  rw [← hprepared.clock]
  constructor
  · rw [← hprepared.life, ← hprepared.state, ← hprepared.checks]
    rfl
  · rw [← hprepared.entries]
    rfl
  · exact hprepared.life
  · rfl

section Recorded

variable {after : World} {now entry : ℤ} {opened : Bool}

theorem Recorded.checksOn_today (h : Recorded w after now entry opened) :
    checksOn calendar after (calendar.day now) =
      ⟨w.life, now, w.engine.state.marginBalance⟩ :: checksOn calendar w (calendar.day now) := by
  unfold checksOn
  rw [h.checks]
  exact List.filter_cons_of_pos (by simp)

/-- The entries of today are those before and the one made now. -/
theorem Recorded.entriesOn_today (h : Recorded w after now entry opened)
    (hday : calendar.day entry = calendar.day now) :
    (entriesOn calendar after (calendar.day now)).length =
      (entriesOn calendar w (calendar.day now)).length + (if opened then 1 else 0) := by
  unfold entriesOn
  rw [h.entries]
  cases opened <;> simp [hday]

theorem Recorded.entriesOn_other (h : Recorded w after now entry opened)
    (hday : calendar.day entry = calendar.day now) {day : ℤ} (hne : day ≠ calendar.day now) :
    entriesOn calendar after day = entriesOn calendar w day := by
  unfold entriesOn
  rw [h.entries]
  cases opened with
  | false => rfl
  | true => simp [hday, hne.symm]

theorem Recorded.mem_entries (h : Recorded w after now entry opened) {t : ℤ}
    (ht : t ∈ after.entries) : t = entry ∨ t ∈ w.entries := by
  rw [h.entries] at ht
  cases opened with
  | false => exact .inr ht
  | true => exact List.mem_cons.mp ht

theorem Recorded.logged (h : Recorded w after now entry opened) (hbefore : Logged calendar w)
    (hnow : w.clock ≤ now) (hentry : now ≤ entry)
    (hday : calendar.day entry = calendar.day now) : Logged calendar after := by
  constructor
  · rw [h.checks, h.life]
    exact List.forall_mem_cons.mpr ⟨le_refl w.life, hbefore.lives⟩
  · rw [h.checks, h.clock]
    have hpast : ∀ o ∈ w.checks, o.time ≤ entry :=
      fun o ho => (hbefore.past o ho).trans (hnow.trans hentry)
    exact List.forall_mem_cons.mpr ⟨hentry, hpast⟩
  · rw [h.checks]
    intro c hc
    obtain rfl := Option.some.inj hc
    exact List.forall_mem_cons.mpr ⟨le_refl now, fun o ho => (hbefore.past o ho).trans hnow⟩
  · rw [h.checks]
    intro t ht
    rcases h.mem_entries ht with rfl | ht
    · exact ⟨_, List.mem_cons_self, hday.symm⟩
    · obtain ⟨o, ho, heq⟩ := hbefore.checked t ht
      exact ⟨o, List.mem_cons_of_mem _ ho, heq⟩

end Recorded

/-- An evaluation in order keeps all. -/
theorem Kept.evaluateAt (h : Kept calendar config w) (hprepared : World.Prepared w event w')
    {last : Candle} (hlast : w'.engine.candles.getLast? = some last) {toClose toEntry : ℕ}
    (horder : InOrder calendar w (w.clock + event.elapsed)
      (w.clock + event.elapsed + toClose + toEntry))
    (hfresh : Fresh (w'.evaluateAt calendar config (w'.times toClose toEntry) last)) :
    Kept calendar config (w'.evaluateAt calendar config (w'.times toClose toEntry) last) := by
  obtain ⟨-, hentryDay, hcheck⟩ := horder
  have hnow : w.clock ≤ w.clock + (event.elapsed : ℤ) := by omega
  obtain ⟨start, hfunded, hcounts, hbegun⟩ := h.counts hnow hcheck
  have hfiled : Filed w'.engine.state w'.engine.posIdCounter := by
    rw [hprepared.state, hprepared.posIdCounter]
    exact h.filed
  have hclock : (w'.times toClose toEntry).check = w.clock + event.elapsed := hprepared.clock
  have hday := evaluate_day calendar config (w'.times toClose toEntry) hlast hfiled
  rw [hclock, hprepared.state] at hday
  have hbooks := (evaluate_books calendar config (w'.times toClose toEntry) hlast hfiled).1
  have hrecorded := @evaluateAt_recorded calendar config w w' event hprepared last toClose toEntry
  have hengine : (w'.evaluateAt calendar config (w'.times toClose toEntry) last).engine =
      (w'.engine.evaluate calendar config (w'.times toClose toEntry) last).1 := rfl
  generalize w'.engine.evaluate calendar config (w'.times toClose toEntry) last = evaluated at *
  generalize w'.evaluateAt calendar config (w'.times toClose toEntry) last = after at *
  constructor
  case filed =>
    rw [hengine]
    exact hbooks
  case fresh => exact hfresh
  case single =>
    rw [hengine]
    exact hday.single h.single
  case daily =>
    intro day
    by_cases hne : day = calendar.day (w.clock + event.elapsed)
    · subst hne
      rw [hrecorded.entriesOn_today hentryDay]
      cases hopened : evaluated.2 with
      | false => simpa using h.daily _
      | true =>
          have hallowed := canTrade_allowed (hday.allowed hopened)
          have hcount := hcounts.dailyTrades
          unfold riskCheck at hcount
          simp only [if_true]
          omega
    · rw [hrecorded.entriesOn_other hentryDay hne]
      exact h.daily day
  case logged => exact hrecorded.logged h.logged hnow (by omega) hentryDay
  case counters =>
    have hstart : after.engine.state.riskState.dailyStartBalance = start := by
      rw [hengine, hday.dailyStartBalance, hcounts.dailyStartBalance]
    refine .inr ⟨⟨w.life, w.clock + event.elapsed, w.engine.state.marginBalance⟩, ?_⟩
    constructor
    · rw [hrecorded.checks]
      rfl
    · exact hrecorded.life.symm
    · constructor
      · rw [hengine, hday.dailyTrades, hcounts.dailyTrades]
        exact (hrecorded.entriesOn_today hentryDay).symm
      · rfl
      · rw [hengine, hday.lastMinuteReset]
        exact hcounts.counted
    · rw [hstart]
      exact hfunded
    · rw [hstart, hrecorded.checksOn_today]
      exact hbegun _ rfl

/-- A reset on a day without a check keeps all. -/
theorem Kept.reset (h : Kept calendar config w)
    (hnone : ∀ c ∈ w.checks, calendar.day c.time ≠ calendar.day (w.clock + event.elapsed)) :
    Kept calendar config (({ w with clock := w.clock + event.elapsed } : World).reset config) := by
  have hnow : w.clock ≤ w.clock + (event.elapsed : ℤ) := by omega
  constructor
  case filed => exact initial_filed config _ _
  case fresh => exact ⟨rfl, rfl⟩
  case single => exact Nat.zero_le 1
  case daily => exact h.daily
  case logged =>
    have hpast : ∀ c ∈ w.checks, c.time ≤ w.clock + event.elapsed :=
      fun c hc => (h.logged.past c hc).trans hnow
    exact ⟨fun c hc => Nat.le_succ_of_le (h.logged.lives c hc), hpast, h.logged.sorted,
      h.logged.checked⟩
  case counters =>
    refine .inl ⟨fun c hc => ?_, fun c hc => ?_, rfl, rfl⟩
    · exact Nat.ne_of_lt (Nat.lt_succ_of_le (h.logged.lives c hc))
    · exact lt_of_le_of_ne (calendar.day_mono ((h.logged.past c hc).trans hnow)) (hnone c hc)

/-- What leaves all but the status and the candles keeps all, if the candles stay fresh. -/
theorem Kept.undisturbed (h : Kept calendar config w) (hquiet : World.Undisturbed w event w')
    (hfresh : Fresh w') : Kept calendar config w' := by
  have hnow : w.clock ≤ w'.clock := by
    rw [hquiet.clock]
    omega
  have hsame := Undisturbed.sameBooks hquiet
  have hrisk : w'.engine.state.riskState = w.engine.state.riskState := by
    obtain ⟨status, hstate⟩ := hquiet.state
    rw [hstate]
  have hentries : entriesOn calendar w' = entriesOn calendar w := by
    funext day
    unfold entriesOn
    rw [hquiet.entries]
  have hchecks : checksOn calendar w' = checksOn calendar w := by
    funext day
    unfold checksOn
    rw [hquiet.checks]
  constructor
  case filed =>
    rw [hquiet.posIdCounter]
    exact hsame.filed h.filed
  case fresh => exact hfresh
  case single =>
    rw [hsame.held]
    exact h.single
  case daily =>
    rw [hentries]
    exact h.daily
  case logged =>
    constructor
    · rw [hquiet.checks, hquiet.life]
      exact h.logged.lives
    · rw [hquiet.checks]
      exact fun c hc => (h.logged.past c hc).trans hnow
    · rw [hquiet.checks]
      exact h.logged.sorted
    · rw [hquiet.checks, hquiet.entries]
      exact h.logged.checked
  case counters =>
    refine h.counters.imp (fun hun => ?_) (fun ⟨c, hchecked⟩ => ⟨c, ?_⟩)
    · constructor
      · rw [hquiet.checks, hquiet.life]
        exact hun.other
      · rw [hquiet.checks]
        exact fun c hc => (hun.past c hc).trans_le (calendar.day_mono hnow)
      · rw [hrisk, hun.dailyTrades]
      · rw [hrisk, hun.dailyStartBalance]
    · constructor
      · rw [hquiet.checks, hchecked.latest]
      · rw [hquiet.life, hchecked.life]
      · rw [hrisk, hentries]
        exact hchecked.counts
      · rw [hrisk]
        exact hchecked.funded
      · rw [hrisk, hchecks]
        exact hchecked.begun

theorem create_kept (calendar : Calendar) (config : BotConfig) (now : ℤ) :
    Kept calendar config (World.create config now) := by
  constructor
  case filed => exact initial_filed config now 0
  case fresh => exact ⟨rfl, rfl⟩
  case single => exact Nat.zero_le 1
  case daily => exact fun _ => Nat.zero_le _
  case logged => constructor <;> simp [World.create]
  case counters => exact .inl ⟨by simp [World.create], by simp [World.create], rfl, rfl⟩

/-- A guarded event is controlled, and keeps all. -/
theorem step_kept (h : Kept calendar config w) (hguard : Guarded calendar w event) :
    ControlledStep calendar config w event ∧ Kept calendar config (w.step calendar config event) := by
  obtain ⟨hbelongs, hrest⟩ := hguard
  have hfresh : Fresh (w.step calendar config event) := step_fresh h.fresh hbelongs
  rcases World.step_cases calendar config w event with
    ⟨w', last, i, response, toClose, toEntry, haction, hevaluates, hprepared, hlast, hstep⟩ |
    ⟨hevaluates, haction, hstep⟩ | ⟨hevaluates, haction, hquiet⟩
  · rw [haction] at hrest
    have horder := hrest (by simp [hevaluates])
    refine ⟨⟨fun hstopped => absurd horder.1 hstopped, fun _ => hfresh⟩, ?_⟩
    rw [hstep] at hfresh ⊢
    exact h.evaluateAt hprepared hlast horder hfresh
  · rw [haction] at hrest
    refine ⟨⟨fun _ hlife => ?_, fun hsome => absurd hevaluates hsome⟩, ?_⟩
    · rw [hstep] at hlife
      exact absurd hlife (Nat.succ_ne_self w.life)
    · rw [hstep]
      exact h.reset hrest
  · exact ⟨⟨fun _ _ => Undisturbed.sameBooks hquiet, fun hsome => absurd hevaluates hsome⟩,
      h.undisturbed hquiet hfresh⟩

/-- In a run of guarded events every event is controlled, and the caps hold throughout. -/
theorem control_holds (calendar : Calendar) (config : BotConfig) (now : ℤ) (events : List Event)
    (hguard : AllOk (World.step calendar config) (Guarded calendar) (World.create config now) events) :
    AllOk (World.step calendar config) (ControlledStep calendar config) (World.create config now)
      events ∧
    ∀ before, before <+: events →
      Capped calendar config (before.foldl (World.step calendar config) (World.create config now)) := by
  have hstart := create_kept calendar config now
  constructor
  · exact AllOk.of_inv events (fun w event _ hkept hok => step_kept hkept hok) hstart hguard
  · rintro before ⟨rest, rfl⟩
    have hbefore := ((AllOk.append_iff before rest).mp hguard).1
    have hreached := Reaches.foldl before Reaches.start hbefore
    exact (hreached.invariant hstart (fun w event hkept hok => (step_kept hkept hok).2)).capped

/-- A tick that enters. -/
def entryRun : List Event :=
  [⟨0, .start⟩, ⟨0, .first 0 (some turnedUp)⟩, ⟨0, .second 0 .notOk 0 0⟩]

theorem control_holds_entryRun :
    AllOk (World.step Calendar.utc {}) (ControlledStep Calendar.utc {})
      (World.create {} 1700000000000) entryRun ∧
    ∀ before, before <+: entryRun →
      Capped Calendar.utc {} (before.foldl (World.step Calendar.utc {})
        (World.create {} 1700000000000)) :=
  control_holds Calendar.utc {} 1700000000000 entryRun (by decide +kernel)

/-- A tick that is paused between its fetches. -/
def pausedRun : List Event :=
  [⟨0, .start⟩, ⟨0, .first 0 (some turnedUp)⟩, ⟨0, .pause⟩]

/-- It enters all the same. -/
theorem pausedRun_enters : ¬ ∀ calendar config now (events : List Event),
    AllOk (World.step calendar config) (ControlledStep calendar config) (World.create config now)
      events ∧
    ∀ before, before <+: events →
      Capped calendar config
        (before.foldl (World.step calendar config) (World.create config now)) := by
  intro h
  have hrun := (h Calendar.utc {} 1700000000000 (pausedRun ++ [⟨0, .second 0 .notOk 0 0⟩])).1
  have hlast := ((AllOk.append_iff pausedRun _).mp hrun).2.1
  have htrades := (hlast.quiet (by decide +kernel) (by decide +kernel)).trades
  exact absurd htrades (by decide +kernel)

end Run

end CryptoTrader.Browser
