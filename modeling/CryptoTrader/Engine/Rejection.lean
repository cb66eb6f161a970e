import CryptoTrader.Engine.ZeroSize
import CryptoTrader.Live.Rejection

/-!
# Skipping a rejected entry

Whether an entry that raised a 4xx can be skipped: no order of the attempt has
filled, and none is still on the venue's book.  The attempt sends at most a
limit order and a market order, and a 4xx can come from the create call of the
market order or from a read around it.
-/

namespace CryptoTrader

open CryptoTrader.Lib

variable (env : Env) (onBook : List Interaction → Created → Prop)

/-- Which orders are on the venue's book after a record is up to the venue;
`onBook` tells. -/
structure Created.Idle (trace : List Interaction) (c : Created) : Prop where
  unfilled : c.outcome.accepted → c.outcome.executed = 0
  notResting : c.outcome.accepted → c.body.orderType ≠ .market → ¬ onBook trace c

/-- What is added to the record of `s` up to `s'`. -/
def World.added (s s' : World) : List Interaction := s'.trace.drop s.trace.length

theorem World.added_of_trace {s s' : World} {ext : List Interaction} (h : s'.trace = s.trace ++ ext) :
    s.added s' = ext := by
  unfold added
  rw [h, List.drop_left]

/-- The entry can be skipped: if it raises what is taken for a rejection, its
orders are idle. -/
def Desk.SkipsSafely (desk : Desk) (quote : Quote) (ctx : EntryContext) (s : World) : Prop :=
  ∀ e s', desk.executeEntry env quote ctx s = .error e s' → e.isBenignEntryRejection →
    ∀ c ∈ created (s.added s'), c.Idle onBook s'.trace

/-- The market order of an attempt from `s`, if it gets to send one, and the
state that it sends it from. -/
inductive Desk.SendsMarket (desk : Desk) (quote : Quote) (ctx : EntryContext) (s : World) :
    PlaceOrder → World → Prop
  /-- In place of a limit order that nothing was read of. -/
  | fallback {plan : EntryPlan} {cfg : TradingConfig} {s₁ s₂ : World}
      (prepared : desk.prepare env quote ctx s = .ok (.ready plan) s₁)
      (unpublished : ¬ desk.publishes)
      (maker : desk.cfg.filter (fun cfg => desk.useMaker quote plan.setup && cfg.usesExchange) =
        some cfg)
      (live : s₁.wallet.liveExecution) (market : cfg.makerLimitFallback.toLower = "market")
      (read : readMaker env desk.symbol plan.setup.side plan.quantity
        (plan.setup.side.postPrice plan.setup.entryPrice cfg.makerLimitOffsetBps) quote.polls s₁ =
          .ok .nothing s₂) :
      desk.SendsMarket quote ctx s
        (s₂.wallet.marketOrder desk.symbol plan.setup.side plan.quantity) s₂.ticked
  /-- As its only order. -/
  | only {plan : EntryPlan} {s₁ : World} {qty : Decimal}
      (prepared : desk.prepare env quote ctx s = .ok (.ready plan) s₁)
      (unpublished : ¬ desk.publishes)
      (taker : desk.cfg.filter (fun cfg => desk.useMaker quote plan.setup && cfg.usesExchange) =
        none)
      (live : s₁.wallet.liveExecution)
      (planned : s₁.wallet.openPlan desk.symbol plan.setup none
        (some plan.quantity) = .ok (some qty)) :
      desk.SendsMarket quote ctx s (s₁.wallet.marketOrder desk.symbol plan.setup.side qty) s₁.ticked

/-- A market order that was sent from `t`, after the orders `limits`, and that
raised `e`, leaves nothing over. -/
structure World.RejectedSafely (limits : List Created) (e : PyErr) (t s' : World) : Prop where
  /-- The limit order in whose place it was sent is idle. -/
  limit : ∀ c ∈ limits, c.Idle onBook s'.trace
  /-- The venue did not fill what it answered with the error. -/
  refused : ∀ c ∈ created (t.added s'), c.outcome.reply = .error e →
    c.outcome.accepted → c.outcome.executed = 0
  /-- A lookup was not answered with the error after the venue filled the order. -/
  lookup : ∀ c ∈ created (t.added s'), (∃ reply, c.outcome.reply = .ok reply) →
    (∃ i ∈ t.added s', i.failsWith e) → c.outcome.accepted → c.outcome.executed = 0

/-! ## The orders of an attempt -/

/-- Up to the order style only the score can raise. -/
theorem Desk.prepare_raises (desk : Desk) (quote : Quote) (ctx : EntryContext) (s : World) :
    wp (desk.prepare env quote ctx) (fun _ _ => True) (fun e _ => ¬ e.isBenignEntryRejection) s := by
  have hcaught {α : Type} (m : Live α) (a : α) (s : World) :
      wp (tryCatch m (fun _ => pure a)) (fun _ _ => True) (fun e _ => ¬ e.isBenignEntryRejection)
        s := by
    rw [tryCatch_eq_attempt, wp_bind, wp_attempt]
    exact (wp_final m).mpr trivial
  have hleverage (price : Decimal) :
      wp (desk.applyDynamicLeverage env quote price ctx.regimeCtx) (fun _ _ => True)
        (fun e _ => ¬ e.isBenignEntryRejection) s := by
    unfold Desk.applyDynamicLeverage
    cases desk.dynamicLeverage with
    | none => trivial
    | some manager =>
        dsimp only
        rw [wp_bind]
        have hread : wp (desk.readVenueMax env) (fun _ _ => True)
            (fun e _ => ¬ e.isBenignEntryRejection) s := by
          unfold Desk.readVenueMax
          rw [wp_ite]
          exact ⟨fun _ => hcaught _ _ s, fun _ => trivial⟩
        refine wp_mono hread ?_ (fun _ _ h => h)
        intro venueMax s₁ _
        rw [wp_bind, wp_get, wp_ite]
        refine ⟨fun _ => trivial, fun _ => ?_⟩
        rw [wp_bind]
        unfold Desk.pushLeverage
        rw [wp_ite]
        exact ⟨fun _ => wp_mono (hcaught _ _ s₁) (fun _ _ _ => trivial) (fun _ _ h => h),
          fun _ => trivial⟩
  have hsize (setup : Setup) (s : World) :
      wp (desk.size env ctx setup) (fun _ _ => True) (fun e _ => ¬ e.isBenignEntryRejection) s := by
    unfold Desk.size
    rw [wp_bind, wp_get, wp_ite]
    refine ⟨fun _ => Bool.false_ne_true, fun _ => ?_⟩
    rw [wp_ite]
    refine ⟨fun _ => trivial, fun _ => ?_⟩
    rw [wp_bind]
    have hbump (price qty : Decimal) : wp (desk.bump env price qty) (fun _ _ => True)
        (fun e _ => ¬ e.isBenignEntryRejection) s := by
      unfold Desk.bump
      rw [wp_ite]
      refine ⟨fun _ => ?_, fun _ => trivial⟩
      rw [wp_bind, wp_attempt]
      exact (wp_final _).mpr trivial
    refine wp_mono (hbump _ _) ?_ (fun _ _ h => h)
    intro sized s₁ _
    cases sized with
    | quantity qty => trivial
    | _ => trivial
  unfold Desk.prepare
  cases desk.anchor quote ctx.setup with
  | error veto => trivial
  | ok setup =>
      dsimp only
      rw [wp_bind]
      refine wp_mono (hleverage _) ?_ (fun _ _ h => h)
      intro entered s₁ _
      rw [wp_ite]
      refine ⟨fun _ => ?_, fun _ => trivial⟩
      rw [wp_bind]
      refine wp_mono (hsize setup s₁) ?_ (fun _ _ h => h)
      intro sized s₂ _
      cases sized with
      | quantity qty =>
          dsimp only
          rw [wp_bind, wp_get]
          cases desk.gates s₂.wallet setup qty with
          | some veto => trivial
          | none => trivial
      | _ => trivial

variable {desk : Desk} {quote : Quote} {ctx : EntryContext} {s : World}

/-- An entry raises a 4xx only as its market order does. -/
theorem Desk.executeEntry_raises (desk : Desk) (quote : Quote) (ctx : EntryContext) (s : World) :
    wp (desk.executeEntry env quote ctx) (fun _ _ => True)
      (fun e s' => e.isBenignEntryRejection →
        ∃ r t, desk.SendsMarket env quote ctx s r t ∧ placeOrder env r t = .error e s') s := by
  unfold Desk.executeEntry
  rw [wp_bind]
  refine wp_mono (wp_and (desk.prepare_raises env quote ctx s)
    (wp_run (desk.prepare env quote ctx) s)) ?_ (fun _ _ h hbenign => absurd hbenign h.1)
  rintro prepared s₁ ⟨-, hprepared⟩
  cases prepared with
  | vetoed veto => trivial
  | stuck => trivial
  | ready plan =>
      show wp (desk.submit env quote plan) _ _ s₁
      unfold Desk.submit
      dsimp only
      rw [wp_ite]
      refine ⟨fun _ => trivial, fun hunpublished => ?_⟩
      cases hmaker : desk.cfg.filter (fun cfg => desk.useMaker quote plan.setup && cfg.usesExchange) with
      | none =>
          dsimp only
          rw [wp_bind]
          refine wp_mono (openPosition_raises env _ _ _ _ _ _ s₁) (fun _ _ _ => trivial) ?_
          intro e s' h hbenign
          obtain ⟨⟨-, hlive⟩, qty, hplanned, hraised⟩ := h hbenign
          exact ⟨_, _, .only hprepared hunpublished hmaker hlive hplanned, hraised⟩
      | some cfg =>
          dsimp only
          rw [wp_bind]
          refine wp_mono (acquireLiveEntryFill_raises env desk.symbol plan.setup.side plan.quantity
            plan.setup.entryPrice _ s₁) ?_ ?_
          · intro entry? s₂ _
            cases entry? with
            | none => trivial
            | some entry =>
                dsimp only
                rw [wp_bind]
                -- an entry that was acquired sends no order of its own
                refine wp_mono (openPosition_raises env _ _ _ _ _ _ s₂) (fun _ _ _ => trivial) ?_
                intro e s' h hbenign
                cases (h hbenign).1.1
          · intro e s' h hbenign
            obtain ⟨⟨hlive, hmarket⟩, s₂, hread, hraised⟩ := h hbenign
            exact ⟨_, _, .fallback hprepared hunpublished hmaker hlive hmarket hread, hraised⟩

/-- What its market order raises, the entry raises. -/
theorem Desk.SendsMarket.raises {r : PlaceOrder} {t s' : World} {e : PyErr}
    (h : desk.SendsMarket env quote ctx s r t) (hraised : placeOrder env r t = .error e s') :
    desk.executeEntry env quote ctx s = .error e s' := by
  cases h with
  | @fallback plan cfg s₁ s₂ prepared unpublished maker live market read =>
      have hentry : acquireLiveEntryFill env desk.symbol plan.setup.side plan.quantity
          plan.setup.entryPrice ⟨cfg.makerLimitOffsetBps, cfg.makerLimitFallback, quote.polls⟩ s₁ =
            .error e s' :=
        acquireLiveEntryFill_of_error env live market read hraised
      unfold Desk.executeEntry
      rw [bind_of_ok prepared]
      dsimp only
      unfold Desk.submit
      dsimp only
      rw [if_neg unpublished, maker]
      dsimp only
      exact bind_of_error hentry _
  | @only plan s₁ qty prepared unpublished taker live planned =>
      have hentry : openPosition env .none desk.symbol
          { plan.setup with
            entryOrderStyle := if desk.useMaker quote plan.setup then .makerLimit else .market }
          plan.setup.entryPrice none (some plan.quantity) none s₁ = .error e s' :=
        openPosition_of_error env live planned hraised
      unfold Desk.executeEntry
      rw [bind_of_ok prepared]
      dsimp only
      unfold Desk.submit
      dsimp only
      rw [if_neg unpublished, taker]
      dsimp only
      exact bind_of_error hentry _

/-- Before the market order the attempt has sent limit orders only. -/
theorem Desk.SendsMarket.limits {r : PlaceOrder} {t : World}
    (h : desk.SendsMarket env quote ctx s r t) :
    r.orderType = .market ∧ t.trace = s.trace ++ s.added t ∧
      ∀ c ∈ created (s.added t), c.body.orderType = .limit := by
  have hquiet {plan : EntryPlan} {s₁ : World}
      (hprepared : desk.prepare env quote ctx s = .ok (.ready plan) s₁) :
      ∃ before, s₁.trace = s.trace ++ before ∧ created before = [] :=
    (wp_ok (desk.prepare_quiet env quote ctx s) hprepared).1
  cases h with
  | only prepared _ _ _ _ =>
      obtain ⟨before, htrace, hnone⟩ := hquiet prepared
      have hadded : s.added (World.ticked _) = before := World.added_of_trace htrace
      refine ⟨rfl, by rw [hadded]; exact htrace, ?_⟩
      rw [hadded, hnone]
      intro c hc
      cases hc
  | @fallback _ _ s₁ _ prepared _ _ _ _ read =>
      obtain ⟨before, htrace, hnone⟩ := hquiet prepared
      obtain ⟨-, ext, rfl, hcreates⟩ := wp_ok (readMaker_wp env _ _ _ _ _ _) read
      have hboth : (World.ticked (World.extend (World.ticked s₁) ext)).trace =
          s.trace ++ (before ++ ext) := by
        rw [← List.append_assoc, ← htrace]
        rfl
      have hadded := World.added_of_trace hboth
      refine ⟨rfl, by rw [hadded]; exact hboth, ?_⟩
      rw [hadded, created_append, hnone, List.nil_append]
      intro c hc
      rcases hcreates with hnone | ⟨outcome, hone⟩
      · rw [hnone] at hc
        cases hc
      · rw [hone, List.mem_singleton] at hc
        subst hc
        rfl

/-- A venue that fills a market order, leaves its price to be looked up, and
answers the lookup of its open orders with a 400. -/
def lookupEnv : Env :=
  { venue :=
      { fairVenue (1 / 100) with
        createOrder := fun trace body =>
          ⟨true, body.totalQuantity, .ok ⟨s!"o{trace.length}", "open", 0, 0⟩⟩
        listOrders := fun _ => .error (.coinDcxError "Bad Request" (some 400)) } }

end CryptoTrader
