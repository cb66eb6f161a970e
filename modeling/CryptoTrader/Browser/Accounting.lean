import CryptoTrader.Browser.Engine

/-!
# Accounting of the browser engine

The balance moves by what closed positions realize, and a position realizes the PnL it was
marked with last.  The flip exit closes a position without marking it, so the accounts are
right in a run just as long as each flip exit closes at the price of the last mark.
-/

namespace CryptoTrader.Browser

open CryptoTrader.Backtest CryptoTrader.Lib

/-- The PnL of a position at the price it was closed at. -/
def Position.closingPnl (pos : Position) : ℚ := pos.pnlAt (pos.closePrice.getD 0)

theorem Position.Settled.realizedPnl_eq {pos : Position} (h : pos.Settled) :
    pos.realizedPnl = pos.closingPnl := by
  obtain ⟨-, price, hprice, hown⟩ := h
  rw [hown, Position.closingPnl, hprice]
  rfl

/-! ## The loop over the open positions -/

section Sweep

variable {calendar : Calendar} {config : BotConfig} {candles : List Candle} {last : Candle}
variable {now : ℤ} {ema9 mark : ℚ} {regime : MarketRegime} {pos : Position}

/-- A flip exit, where there is one, closes at the price the position was last marked at. -/
def FlipsMarked (candles : List Candle) (mark : ℚ) (positions : List Position) : Prop :=
  ∀ p ∈ positions, checkFlipExit candles p.side = true → p.unrealizedPnl = p.pnlAt mark

/-- An open position is closed as it is by a flip, closed at its mark, or marked. -/
theorem updateOne_cases (h : pos.status = .open_) :
    (checkFlipExit candles pos.side = true ∧
      updateOne config candles last regime ema9 pos =
        ((closePosition pos last.close .flipExit).position,
          some (closePosition pos last.close .flipExit))) ∨
    (checkFlipExit candles pos.side = false ∧
      ((∃ reason, updateOne config candles last regime ema9 pos =
        ((closePosition (pos.mark last.close) last.close reason).position,
          some (closePosition (pos.mark last.close) last.close reason))) ∨
      updateOne config candles last regime ema9 pos = (pos.mark last.close, none))) := by
  unfold updateOne
  rw [if_neg (not_not_intro h)]
  cases hflip : checkFlipExit candles pos.side with
  | true => exact .inl ⟨rfl, rfl⟩
  | false => exact .inr ⟨rfl, updatePosition_cases h _ _ _ _ _⟩

/-- What the loop does to the books: it files what it closed. -/
structure Swept (candles : List Candle) (mark : ℚ) (s s' : BotState)
    (positions positions' filed : List Position) : Prop where
  history : s'.positionHistory = s.positionHistory ++ filed
  balance : s'.balance = s.balance + (filed.map Position.realizedPnl).sum
  realized : s'.realizedPnl = s.realizedPnl + (filed.map Position.realizedPnl).sum
  trades : s'.totalTrades = s.totalTrades
  split : ((filed ++ positions'.filter (fun p => p.status = .open_)).map Position.id).Perm
    (positions.map Position.id)
  settled : (∀ p ∈ filed, p.Settled) ↔ FlipsMarked candles mark positions
  marked : ∀ p ∈ positions', p.status = .open_ → p.unrealizedPnl = p.pnlAt mark

theorem updateAll_swept (config : BotConfig) (candles : List Candle) (last : Candle) (now : ℤ)
    (ema9 : ℚ) : ∀ (positions : List Position) (s : BotState),
      (∀ p ∈ positions, p.status = .open_) →
      ∃ filed, Swept candles last.close s
        (updateAll config candles last now ema9 s positions).1 positions
        (updateAll config candles last now ema9 s positions).2 filed := by
  intro positions
  induction positions with
  | nil =>
      intro s _
      exact ⟨[], by simp [updateAll], by simp [updateAll], by simp [updateAll], rfl, by rfl,
        by simp [FlipsMarked], by simp [updateAll]⟩
  | cons p rest ih =>
      intro s hopen
      have hp : p.status = .open_ := hopen p List.mem_cons_self
      have hrest : ∀ q ∈ rest, q.status = .open_ := fun q hq => hopen q (List.mem_cons_of_mem p hq)
      have hsettled : FlipsMarked candles last.close (p :: rest) ↔
          (checkFlipExit candles p.side = true → p.unrealizedPnl = p.pnlAt last.close) ∧
            FlipsMarked candles last.close rest := by
        simp [FlipsMarked]
      -- a position that is closed is filed before those the rest of the loop files
      have hclose : ∀ (q : Position) (reason : ExitReason), q.id = p.id →
          updateOne config candles last s.regime ema9 p =
            ((closePosition q last.close reason).position, some (closePosition q last.close reason)) →
          (q.unrealizedPnl = q.pnlAt last.close ↔
            (checkFlipExit candles p.side = true → p.unrealizedPnl = p.pnlAt last.close)) →
          ∃ filed, Swept candles last.close s
            (updateAll config candles last now ema9 s (p :: rest)).1 (p :: rest)
            (updateAll config candles last now ema9 s (p :: rest)).2 filed := by
        intro q reason hid hone hmarked
        obtain ⟨filed, h⟩ := ih (s.applyClose (closePosition q last.close reason) now) hrest
        refine ⟨(closePosition q last.close reason).position :: filed, ?_⟩
        simp only [updateAll, hone]
        refine ⟨?_, ?_, ?_, h.trades, ?_, ?_, ?_⟩
        · rw [h.history]
          simp [BotState.applyClose]
        · rw [h.balance]
          simp [BotState.applyClose, add_assoc]
        · rw [h.realized]
          simp [BotState.applyClose, add_assoc]
        · have hskip : (((closePosition q last.close reason).position ::
              (updateAll config candles last now ema9
                (s.applyClose (closePosition q last.close reason) now) rest).2).filter
              (fun p => p.status = .open_)) = (updateAll config candles last now ema9
                (s.applyClose (closePosition q last.close reason) now) rest).2.filter
              (fun p => p.status = .open_) := by
            rw [List.filter_cons_of_neg (by simp [closePosition])]
          rw [hskip, List.cons_append, List.map_cons, List.map_cons, closePosition_id, hid]
          exact h.split.cons p.id
        · rw [List.forall_mem_cons, closePosition_settled_iff, h.settled, hmarked, ← hsettled]
        · intro r hr hropen
          rcases List.mem_cons.mp hr with rfl | hr
          · cases hropen
          · exact h.marked r hr hropen
      rcases @updateOne_cases config candles last ema9 s.regime p hp with
        ⟨hflip, hone⟩ | ⟨hstays, ⟨reason, hone⟩ | hone⟩
      · exact hclose p .flipExit rfl hone (by simp [hflip])
      · exact hclose (p.mark last.close) reason rfl hone (by simp [hstays])
      · obtain ⟨filed, h⟩ := ih s hrest
        refine ⟨filed, ?_⟩
        simp only [updateAll, hone]
        refine ⟨h.history, h.balance, h.realized, h.trades, ?_, ?_, ?_⟩
        · rw [List.filter_cons_of_pos (by simp [hp]), List.map_append, List.map_cons]
          refine List.perm_middle.trans ?_
          rw [← List.map_append]
          exact h.split.cons p.id
        · rw [h.settled, hsettled]
          simp [hstays]
        · intro r hr hropen
          rcases List.mem_cons.mp hr with rfl | hr
          · simp
          · exact h.marked r hr hropen

end Sweep

/-! ## The accounts -/

/-- The accounts of a state: the balance moved by what was realized, which is the sum of the
PnLs of the closed positions at the prices they were closed at; and every position is filed
once when it is closed, or still open. -/
structure Accounted (config : BotConfig) (s : BotState) : Prop where
  balance : s.balance - config.initialBalance = s.realizedPnl
  realized : s.realizedPnl = (s.positionHistory.map Position.closingPnl).sum
  settled : ∀ p ∈ s.positionHistory, p.Settled
  held : ∀ p ∈ s.openPositions, p.status = .open_
  once : ((s.positionHistory ++ s.openPositions).map Position.id).Nodup
  trades : s.totalTrades = s.positionHistory.length + s.openPositions.length

/-- The margin balance is the balance and the PnL of what is open at a mark. -/
def MarginAt (mark : ℚ) (s : BotState) : Prop :=
  s.marginBalance = s.balance + (s.openPositions.map (fun p => p.pnlAt mark)).sum

/-- What holds of the positions, whatever the prices: those held are open, and their ids have
been given out. -/
structure Filed (s : BotState) (posIdCounter : ℕ) : Prop where
  held : ∀ p ∈ s.openPositions, p.status = .open_
  fresh : ∀ p ∈ s.positionHistory ++ s.openPositions, p.id < posIdCounter

section Step

variable {calendar : Calendar} {config : BotConfig} {candles htfCandles : List Candle}
variable {last : Candle} {now : ℤ} {ema9 mark : ℚ} {s : BotState} {n : ℕ} {refusal : Option Refusal}

/-- What is held after the positions are managed, and what was filed meanwhile. -/
theorem manage_swept (config : BotConfig) (candles : List Candle) (last : Candle) (now : ℤ)
    (ema9 : ℚ) (hheld : ∀ p ∈ s.openPositions, p.status = .open_) :
    ∃ positions' filed, Swept candles last.close s (manage config candles last now ema9 s)
      s.openPositions positions' filed ∧
      (manage config candles last now ema9 s).openPositions =
        positions'.filter (fun p => p.status = .open_) := by
  obtain ⟨filed, h⟩ := updateAll_swept config candles last now ema9 s.openPositions s hheld
  exact ⟨_, filed, ⟨h.history, h.balance, h.realized, h.trades, h.split, h.settled, h.marked⟩, rfl⟩

/-- Managing the positions keeps the accounts right only if flips are marked. -/
theorem manage_accounted (h : Accounted config s) :
    Accounted config (manage config candles last now ema9 s) ↔
      FlipsMarked candles last.close s.openPositions := by
  obtain ⟨positions', filed, hswept, hopen⟩ :=
    manage_swept config candles last now ema9 h.held
  rw [← hswept.settled]
  constructor
  · intro hafter p hp
    exact hafter.settled p (by rw [hswept.history]; exact List.mem_append_right _ hp)
  · intro hsettled
    have hown : (filed.map Position.realizedPnl) = filed.map Position.closingPnl :=
      List.map_congr_left (fun p hp => (hsettled p hp).realizedPnl_eq)
    have hids : ((s.positionHistory ++ (filed ++ positions'.filter
        (fun p => p.status = .open_))).map Position.id).Perm
          ((s.positionHistory ++ s.openPositions).map Position.id) := by
      have hleft := hswept.split.append_left (s.positionHistory.map Position.id)
      rwa [← List.map_append, ← List.map_append] at hleft
    constructor
    · rw [hswept.balance, hswept.realized, ← h.balance]
      ring
    · rw [hswept.realized, hswept.history, List.map_append, List.sum_append, h.realized, hown]
    · intro p hp
      rw [hswept.history] at hp
      exact (List.mem_append.mp hp).elim (h.settled p) (hsettled p)
    · intro p hp
      rw [hopen] at hp
      simpa using List.of_mem_filter hp
    · rw [hswept.history, hopen, List.append_assoc]
      exact hids.symm.nodup h.once
    · have hlength := hswept.split.length_eq
      rw [hswept.trades, hswept.history, hopen, h.trades]
      simp only [List.length_map, List.length_append] at hlength ⊢
      omega

theorem manage_filed (h : Filed s n) : Filed (manage config candles last now ema9 s) n := by
  obtain ⟨positions', filed, hswept, hopen⟩ :=
    manage_swept config candles last now ema9 h.held
  refine ⟨fun p hp => ?_, fun p hp => ?_⟩
  · rw [hopen] at hp
    simpa using List.of_mem_filter hp
  · rw [hswept.history, hopen, List.append_assoc] at hp
    rcases List.mem_append.mp hp with hp | hp
    · exact h.fresh p (List.mem_append_left _ hp)
    · have hid := hswept.split.mem_iff.mp (List.mem_map_of_mem hp)
      obtain ⟨q, hq, heq⟩ := List.mem_map.mp hid
      rw [← heq]
      exact h.fresh q (List.mem_append_right _ hq)

theorem manage_margin (hheld : ∀ p ∈ s.openPositions, p.status = .open_) :
    MarginAt last.close (manage config candles last now ema9 s) := by
  obtain ⟨positions', filed, hswept, hopen⟩ :=
    manage_swept config candles last now ema9 hheld
  have hmarked : ((manage config candles last now ema9 s).openPositions.map
      Position.unrealizedPnl) = (manage config candles last now ema9 s).openPositions.map
        (fun p => p.pnlAt last.close) := by
    rw [hopen]
    refine List.map_congr_left (fun p hp => ?_)
    exact hswept.marked p (List.mem_of_mem_filter hp) (by simpa using List.of_mem_filter hp)
  unfold MarginAt
  rw [← hmarked]
  rfl

/-- An entry is at the last close. -/
theorem entryPrice_eq {supertrend : Port.Supertrend2Config} {setup : SupertrendSetup}
    {htf : Option (List Candle)} (h : supertrend.evaluateSupertrend2 candles htf = some setup)
    (hlast : candles.getLast? = some last) : setup.entryPrice = last.close := by
  have hclose : (closes candles).getD ((closes candles).length - 1) 0 = last.close := by
    have hget : (closes candles)[(closes candles).length - 1]? = some last.close := by
      rw [← List.getLast?_eq_getElem?, closes, List.getLast?_map, hlast]
      rfl
    rw [List.getD_eq_getElem?_getD, hget]
    rfl
  unfold Port.Supertrend2Config.evaluateSupertrend2 at h
  rw [← hclose]
  split at h
  · cases h
  · simp only at h
    split at h
    · cases h
    · split at h
      · cases h
      · obtain ⟨side, -, rfl⟩ := Option.map_eq_some_iff.mp h
        rfl

/-- An entry holds one more position, open at the last close, or nothing happens. -/
theorem enter_cases (hlast : candles.getLast? = some last) :
    enter config candles last now htfCandles refusal n s = (s, false) ∨
    ∃ pos : Position, pos.id = n ∧ pos.status = .open_ ∧ pos.pnlAt last.close = 0 ∧
      refusal = none ∧ s.openPositions.any (fun p => p.status = .open_) = false ∧
      enter config candles last now htfCandles refusal n s =
        ({ s with
            openPositions := s.openPositions ++ [pos]
            riskState := recordTradeOpen s.riskState
            totalTrades := s.totalTrades + 1 }, true) := by
  unfold enter
  by_cases hblocked : s.openPositions.any (fun p => p.status = .open_) ∨ refusal ≠ none
  · exact .inl (if_pos hblocked)
  rw [if_neg hblocked]
  obtain ⟨hnone, hallowed⟩ := not_or.mp hblocked
  cases hsetup : config.supertrend.evaluateSupertrend2 candles (some htfCandles) with
  | none => exact .inl rfl
  | some setup =>
      have hprice := entryPrice_eq hsetup hlast
      unfold executeEntry
      by_cases hqty : calculatePositionSize s.balance config.riskPerTrade setup.entryPrice
          setup.slPrice config.leverage 1 (6 / 10) ≤ 0
      · exact .inl (if_pos hqty)
      · refine .inr ⟨_, rfl, rfl, ?_, not_not.mp hallowed, Bool.eq_false_iff.mpr hnone, if_neg hqty⟩
        unfold Position.pnlAt openPosition
        rw [hprice]
        cases setup.side <;> simp

/-- The books of two states are the same. -/
structure SameBooks (s s' : BotState) : Prop where
  balance : s'.balance = s.balance
  realized : s'.realizedPnl = s.realizedPnl
  margin : s'.marginBalance = s.marginBalance
  history : s'.positionHistory = s.positionHistory
  held : s'.openPositions = s.openPositions
  trades : s'.totalTrades = s.totalTrades

theorem SameBooks.symm {s' : BotState} (h : SameBooks s s') : SameBooks s' s :=
  ⟨h.balance.symm, h.realized.symm, h.margin.symm, h.history.symm, h.held.symm, h.trades.symm⟩

theorem SameBooks.accounted {s' : BotState} (h : SameBooks s s') (hs : Accounted config s) :
    Accounted config s' := by
  constructor
  · rw [h.balance, h.realized, hs.balance]
  · rw [h.realized, h.history, hs.realized]
  · rw [h.history]
    exact hs.settled
  · rw [h.held]
    exact hs.held
  · rw [h.history, h.held]
    exact hs.once
  · rw [h.trades, h.history, h.held, hs.trades]

theorem SameBooks.marginAt {s' : BotState} (h : SameBooks s s') (hs : MarginAt mark s) :
    MarginAt mark s' := by
  unfold MarginAt at hs ⊢
  rw [h.margin, h.balance, h.held, hs]

theorem SameBooks.filed {s' : BotState} (h : SameBooks s s') (hs : Filed s n) : Filed s' n := by
  refine ⟨?_, ?_⟩
  · rw [h.held]
    exact hs.held
  · rw [h.history, h.held]
    exact hs.fresh

theorem check_sameBooks : SameBooks s (check calendar config candles now s).1 :=
  ⟨rfl, rfl, rfl, rfl, rfl, rfl⟩

theorem haltIfRisky_sameBooks : SameBooks s s.haltIfRisky := by
  unfold BotState.haltIfRisky
  split <;> exact ⟨rfl, rfl, rfl, rfl, rfl, rfl⟩

/-- An entry keeps the books as they are, and right only if they were. -/
theorem enter_books (hlast : candles.getLast? = some last) (hfiled : Filed s n) :
    let entered := enter config candles last now htfCandles refusal n s
    Filed entered.1 (if entered.2 then n + 1 else n) ∧
      (Accounted config entered.1 ↔ Accounted config s) ∧
      (MarginAt last.close s → MarginAt last.close entered.1) := by
  intro entered
  rcases @enter_cases config candles htfCandles last now s n refusal hlast with
    h | ⟨pos, hid, hopen, hpnl, -, -, h⟩
  · have hentered : entered = (s, false) := h
    rw [hentered]
    exact ⟨hfiled, Iff.rfl, fun hmargin => hmargin⟩
  · have hentered : entered = _ := h
    rw [hentered]
    refine ⟨⟨fun p hp => ?_, fun p hp => ?_⟩, ⟨fun hafter => ?_, fun hbefore => ?_⟩, fun hmargin => ?_⟩
    · exact (List.mem_append.mp hp).elim (hfiled.held p)
        (fun hp => by rw [List.mem_singleton.mp hp]; exact hopen)
    · simp only [if_true]
      rw [← List.append_assoc] at hp
      rcases List.mem_append.mp hp with hp | hp
      · exact Nat.lt_succ_of_lt (hfiled.fresh p hp)
      · rw [List.mem_singleton.mp hp, hid]
        exact Nat.lt_succ_self n
    · refine ⟨hafter.balance, hafter.realized, hafter.settled, hfiled.held, ?_, ?_⟩
      · have honce := hafter.once
        rw [← List.append_assoc, List.map_append] at honce
        exact (List.nodup_append.mp honce).1
      · have htrades := hafter.trades
        simp only [List.length_append, List.length_singleton] at htrades
        omega
    · refine ⟨hbefore.balance, hbefore.realized, hbefore.settled, ?_, ?_, ?_⟩
      · intro p hp
        exact (List.mem_append.mp hp).elim (hfiled.held p)
          (fun hp => by rw [List.mem_singleton.mp hp]; exact hopen)
      · rw [← List.append_assoc, List.map_append]
        refine List.nodup_append.mpr ⟨hbefore.once, List.nodup_singleton _, ?_⟩
        intro id hids id' hid' heq
        obtain ⟨p, hp, rfl⟩ := List.mem_map.mp hids
        have hlt := hfiled.fresh p hp
        rw [List.map_singleton, List.mem_singleton, hid] at hid'
        omega
      · simp only [List.length_append, List.length_singleton, hbefore.trades]
        omega
    · unfold MarginAt at hmargin ⊢
      simp [hpnl, hmargin]

/-- The evaluation of a tick. -/
theorem evaluate_books (calendar : Calendar) (config : BotConfig) (times : Times)
    {e : TradingEngine} (hlast : e.candles.getLast? = some last)
    (hfiled : Filed e.state e.posIdCounter) :
    let after := (e.evaluate calendar config times last).1
    Filed after.state after.posIdCounter ∧ MarginAt last.close after.state ∧
      (Accounted config e.state → (Accounted config after.state ↔
        FlipsMarked e.candles last.close e.state.openPositions)) := by
  intro after
  have hchecked : SameBooks e.state (check calendar config e.candles times.check e.state).1 :=
    check_sameBooks
  have hheld := (hchecked.filed hfiled).held
  have hmanaged := @manage_filed config e.candles last times.close
    ((computeEMA (closes e.candles) 9).getLastD 0) _ _ (hchecked.filed hfiled)
  have hmargin := @manage_margin config e.candles last times.close
    ((computeEMA (closes e.candles) 9).getLastD 0) _ hheld
  obtain ⟨hentered, haccounts, hmarginAfter⟩ := @enter_books config e.candles e.htfCandles last
    times.entry _ _ (check calendar config e.candles times.check e.state).2 hlast hmanaged
  refine ⟨haltIfRisky_sameBooks.filed hentered, haltIfRisky_sameBooks.marginAt
    (hmarginAfter hmargin), fun h => ?_⟩
  have hlocal := @manage_accounted config e.candles last times.close
    ((computeEMA (closes e.candles) 9).getLastD 0) _ (hchecked.accounted h)
  exact Iff.trans ⟨haltIfRisky_sameBooks.symm.accounted, haltIfRisky_sameBooks.accounted⟩
    (haccounts.trans hlocal)

end Step

/-! ## Runs -/

section Run

variable {config : BotConfig} {w : World} {event : Event}

/-- The accounts are right, and the margin balance at the mark of the last evaluation. -/
structure Right (config : BotConfig) (w : World) : Prop where
  accounted : Accounted config w.engine.state
  margin : ∀ mark, w.lastMark = some mark → MarginAt mark w.engine.state

/-- An event that evaluates closes by a flip only at the price of the last mark. -/
def FlipsAtMark (w : World) (event : Event) : Prop :=
  ∀ last, w.evaluates event = some last →
    FlipsMarked w.engine.candles last.close w.engine.state.openPositions

theorem initial_accounted (config : BotConfig) (now : ℤ) :
    Accounted config (createInitialState config now) := by
  constructor <;> simp [createInitialState]

theorem initial_filed (config : BotConfig) (now : ℤ) (n : ℕ) :
    Filed (createInitialState config now) n := by
  constructor <;> simp [createInitialState]

theorem Undisturbed.sameBooks {w' : World} (h : World.Undisturbed w event w') :
    SameBooks w.engine.state w'.engine.state := by
  obtain ⟨status, hstate⟩ := h.state
  rw [hstate]
  exact ⟨rfl, rfl, rfl, rfl, rfl, rfl⟩

/-- One event keeps the accounts right only if its flips close at the last mark. -/
theorem step_right (calendar : Calendar) (hfiled : Filed w.engine.state w.engine.posIdCounter)
    (h : Right config w) :
    Filed (w.step calendar config event).engine.state
        (w.step calendar config event).engine.posIdCounter ∧
      (Right config (w.step calendar config event) ↔ FlipsAtMark w event) := by
  rcases World.step_cases calendar config w event with
    ⟨w', last, _, _, toClose, toEntry, -, hevaluates, hprepared, hlast, hstep⟩ |
    ⟨hevaluates, -, hstep⟩ | ⟨hevaluates, -, hquiet⟩
  · have hok : FlipsAtMark w event ↔
        FlipsMarked w'.engine.candles last.close w'.engine.state.openPositions := by
      unfold FlipsAtMark
      rw [hevaluates, hprepared.candles, hprepared.state]
      simp
    have hbefore : Filed w'.engine.state w'.engine.posIdCounter := by
      rw [hprepared.state, hprepared.posIdCounter]
      exact hfiled
    have hright : Accounted config w'.engine.state := by
      rw [hprepared.state]
      exact h.accounted
    obtain ⟨hafter, hmargin, haccounts⟩ :=
      evaluate_books calendar config (w'.times toClose toEntry) hlast hbefore
    rw [hok, hstep]
    refine ⟨hafter, fun hright' => (haccounts hright).mp hright'.accounted, fun hflips => ?_⟩
    refine ⟨(haccounts hright).mpr hflips, fun mark hmark => ?_⟩
    obtain rfl : last.close = mark := Option.some.inj hmark
    exact hmargin
  · have hok : FlipsAtMark w event := fun last hlast => by
      rw [hevaluates] at hlast
      cases hlast
    rw [hstep]
    exact ⟨initial_filed config _ _,
      iff_of_true ⟨initial_accounted config _, fun _ hmark => by cases hmark⟩ hok⟩
  · have hok : FlipsAtMark w event := fun last hlast => by
      rw [hevaluates] at hlast
      cases hlast
    have hsame := Undisturbed.sameBooks hquiet
    rw [hquiet.posIdCounter]
    refine ⟨hsame.filed hfiled, iff_of_true ⟨hsame.accounted h.accounted, fun mark hmark => ?_⟩ hok⟩
    rw [hquiet.lastMark] at hmark
    exact hsame.marginAt (h.margin mark hmark)

/-- The accounts are right throughout a run just if every flip exit of it closes at the
price its position was last marked at. -/
theorem run_accounts_iff (calendar : Calendar) (config : BotConfig) (now : ℤ) (events : List Event) :
    (∀ before, before <+: events →
      Right config (before.foldl (World.step calendar config) (World.create config now))) ↔
    AllOk (World.step calendar config) FlipsAtMark (World.create config now) events := by
  let step : World → Event → World := World.step calendar config
  have hstep : ∀ (w : World) (event : Event), Filed w.engine.state w.engine.posIdCounter →
      Right config w → Filed (step w event).engine.state (step w event).engine.posIdCounter ∧
        (Right config (step w event) ↔ FlipsAtMark w event) :=
    fun w event hfiled hright => step_right calendar hfiled hright
  exact AllOk.kept_iff hstep events (initial_filed config now 0)
    ⟨initial_accounted config now, fun _ hmark => by cases hmark⟩

/-- A flat market, a crash, a rebound, and the bar after it, on which the trend turns up. -/
def turnedUp : List Candle :=
  List.replicate 60 ⟨100, 101, 99, 100, 1, 0⟩ ++
    [⟨100, 101, 49, 50, 1, 0⟩, ⟨50, 151, 49, 150, 1, 0⟩, ⟨150, 151, 149, 150, 1, 0⟩]

/-- Two hours later it has fallen, and turned down. -/
def turnedDown : List Candle := turnedUp ++ [⟨150, 151, 59, 60, 1, 0⟩, ⟨60, 61, 59, 60, 1, 0⟩]

/-- A tick that enters at 150, and one that closes by the flip at 60. -/
def flipRun : List Event :=
  [⟨0, .start⟩, ⟨0, .first 0 (some turnedUp)⟩, ⟨0, .second 0 .notOk 0 0⟩,
    ⟨7200000, .tick⟩, ⟨0, .first 0 (some turnedDown)⟩, ⟨0, .second 0 .notOk 0 0⟩]

/-- The long lost 90 a piece, and nothing is realized. -/
theorem flipRun_unaccounted : ¬ ∀ calendar config now (events : List Event),
    ∀ before, before <+: events →
      Right config (before.foldl (World.step calendar config) (World.create config now)) := by
  intro h
  have hright := h Calendar.utc {} 1700000000000 flipRun flipRun (List.prefix_refl flipRun)
  have hwrong : (flipRun.foldl (World.step Calendar.utc {})
      (World.create {} 1700000000000)).engine.state.positionHistory.map
        (fun p => decide (p.realizedPnl = p.closingPnl)) = [false] := by
    decide +kernel
  have hall : ∀ b ∈ (flipRun.foldl (World.step Calendar.utc {})
      (World.create {} 1700000000000)).engine.state.positionHistory.map
        (fun p => decide (p.realizedPnl = p.closingPnl)), b = true := by
    intro b hb
    obtain ⟨p, hp, rfl⟩ := List.mem_map.mp hb
    exact decide_eq_true (hright.accounted.settled p hp).realizedPnl_eq
  rw [hwrong] at hall
  exact absurd (hall false (by simp)) (by decide)

end Run

end CryptoTrader.Browser
