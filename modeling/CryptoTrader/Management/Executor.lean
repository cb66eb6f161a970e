import CryptoTrader.Lib.Hoare
import CryptoTrader.Management.PolicyGuard

/-!
# The executor

`PositionExecutor` of `position_management/executor.py`.  It runs against the
wallet and a duck-typed execution client, which are seen here through the calls
that it makes on them: a `Host` answers each call, and shows the position, as a
function of the calls made before.
-/

namespace CryptoTrader

open CryptoTrader.Lib

/-! ## The host -/

/-- A call on the wallet or on the execution client.  `adjustSl` is the change
of `pos.sl_price` with its event; `recordStop` that of `pos.protective_orders`. -/
inductive ExecutorCall where
  | adjustSl (symbol : Symbol) (newSl : PyFloat)
  | partialClose (symbol : Symbol) (markPrice : Decimal) (pct : PyFloat)
  | closePosition (symbol : Symbol) (markPrice : Decimal)
  | cancelOrder (symbol : Symbol) (orderId : String)
  | placeStopMarket (symbol : Symbol) (side : String) (quantity : Decimal) (stopPrice : PyFloat)
  | recordStop (symbol : Symbol)
  | placeMarketOrder (symbol : Symbol) (side : PositionSide) (quantity : PyFloat)
  deriving DecidableEq

/-- What `apply` returns: `ok`, `skipped:<reason>` or `error:<message>`. -/
inductive ExecutionOutcome where
  | ok
  | skipped (reason : String)
  | error (message : String)
  deriving DecidableEq

def ExecutionOutcome.pyStr : ExecutionOutcome → String
  | .ok => "ok"
  | .skipped reason => "skipped:" ++ reason
  | .error message => "error:" ++ message

def ExecutionOutcome.isSkip : ExecutionOutcome → Bool
  | .skipped _ => true
  | _ => false

/-- What `wallet.positions.get(symbol)` shows. -/
structure HeldPosition where
  isOpen : Bool
  mode : Mode
  stopOrderId : String
  deriving DecidableEq

/-- The methods an execution client has. -/
structure ExecutionClient where
  cancelOrder : Bool
  placeStopMarket : Bool
  placeMarketOrder : Bool

/-- The wallet and the client.  An answer is whether what was returned is true,
or what was raised. -/
structure Host where
  execution : Option ExecutionClient
  position : List ExecutorCall → Symbol → Option HeldPosition
  answer : List ExecutorCall → ExecutorCall → Except PyErr Bool

/-- A computation that makes calls. -/
abbrev Manage := EStateM PyErr (List ExecutorCall)

variable (host : Host)

/-- Make a call. -/
def makeCall (call : ExecutorCall) : Manage Bool := do
  let calls ← get
  set (calls ++ [call])
  match host.answer calls call with
  | .ok result => pure result
  | .error e => throw e

/-- `wallet.positions.get(symbol)`. -/
def getPosition (symbol : Symbol) : Manage (Option HeldPosition) := do
  let calls ← get
  pure (host.position calls symbol)

/-- `_is_live`. -/
def isLive (symbol : Symbol) : Manage Bool := do
  let pos ← getPosition host symbol
  pure (pos.any (fun pos => pos.mode = .live))

/-! ## The handlers -/

/-- `_wallet_adjust_sl`. -/
def walletAdjustSl (symbol : Symbol) (newSl : PyFloat) : Manage Unit := do
  let pos ← getPosition host symbol
  if pos.any HeldPosition.isOpen then do
    let _ ← makeCall host (.adjustSl symbol newSl)
    pure ()
  else pure ()

/-- The body of `_exchange_replace_sl`. -/
def replaceSl (client : ExecutionClient) (symbol : Symbol) (newSl : PyFloat)
    (inp : PositionManagementInput) : Manage Unit := do
  match ← getPosition host symbol with
  | none => pure ()
  | some pos => do
      if pos.stopOrderId ≠ "" ∧ client.cancelOrder then
        let _ ← makeCall host (.cancelOrder symbol pos.stopOrderId)
      if client.placeStopMarket then
        let side := if inp.position.side = .long then "SELL" else "BUY"
        let order ← makeCall host (.placeStopMarket symbol side inp.position.qty newSl)
        if order then
          let _ ← makeCall host (.recordStop symbol)

/-- `_exchange_replace_sl`, whose result is not read. -/
def exchangeReplaceSl (client : ExecutionClient) (symbol : Symbol) (newSl : PyFloat)
    (inp : PositionManagementInput) : Manage Unit :=
  tryCatch (replaceSl host client symbol newSl inp) (fun _ => pure ())

/-- `_modify_stop`. -/
def modifyStop (symbol : Symbol) (params : ExecutionParams) (inp : PositionManagementInput) :
    Manage ExecutionOutcome :=
  match params.newStopLoss with
  | none => pure (.skipped "no_new_stop_loss")
  | some newSl =>
      if PyFloat.lt (PyFloat.distance inp.position.stopLoss newSl) (.fin (1 / 10 ^ 8)) then
        pure (.skipped "sl_unchanged")
      else do
        walletAdjustSl host symbol newSl
        match host.execution with
        | none => pure .ok
        | some client => do
            if ← isLive host symbol then
              exchangeReplaceSl host client symbol newSl inp
            pure .ok

/-- The fraction that `_partial_exit` closes. -/
def exitFraction (params : ExecutionParams) : PyFloat :=
  let pct := (params.exitQtyPct.filter PyFloat.truthy).getD (.fin (1 / 2))
  PyFloat.pyMax (.fin (1 / 100)) (PyFloat.pyMin (.fin (99 / 100)) pct)

/-- `_partial_exit`. -/
def partialExit (symbol : Symbol) (params : ExecutionParams) (inp : PositionManagementInput) :
    Manage ExecutionOutcome := do
  let _ ← makeCall host (.partialClose symbol inp.position.ltp (exitFraction params))
  pure .ok

/-- `_full_exit`. -/
def fullExit (symbol : Symbol) (inp : PositionManagementInput) : Manage ExecutionOutcome := do
  let _ ← makeCall host (.closePosition symbol inp.position.ltp)
  pure .ok

/-- `_exchange_scale_in`. -/
def exchangeScaleIn (client : ExecutionClient) (symbol : Symbol) (qty : PyFloat)
    (inp : PositionManagementInput) : Manage ExecutionOutcome :=
  tryCatch (do
      if client.placeMarketOrder then
        let _ ← makeCall host (.placeMarketOrder symbol inp.position.side qty)
      pure .ok)
    (fun e => pure (.error e.pyStr))

/-- The quantity that `_scale_in` adds. -/
def scaleQuantity (params : ExecutionParams) (inp : PositionManagementInput) : PyFloat :=
  PyFloat.scale inp.position.qty ((params.scaleQtyPct.filter PyFloat.truthy).getD (.fin (1 / 4)))

/-- `_scale_in`. -/
def scaleIn (symbol : Symbol) (params : ExecutionParams) (inp : PositionManagementInput) :
    Manage ExecutionOutcome := do
  if ← isLive host symbol then
    match host.execution with
    | some client => exchangeScaleIn host client symbol (scaleQuantity params inp) inp
    | none => pure (.skipped "paper_scale_in_not_implemented")
  else pure (.skipped "paper_scale_in_not_implemented")

/-! ## Dispatch -/

/-- The dispatch on the execution type. -/
def dispatch (inp : PositionManagementInput) (params : ExecutionParams) : Manage ExecutionOutcome :=
  let symbol := inp.position.symbol
  if params.type = "modify_stop" then modifyStop host symbol params inp
  else if params.type = "partial_exit" then partialExit host symbol params inp
  else if params.type = "full_exit" then fullExit host symbol inp
  else if params.type = "scale_in" then scaleIn host symbol params inp
  else pure (.skipped s!"unknown_exec_type:{params.type}")

/-- `PositionExecutor.apply`. -/
def PositionExecutor.apply (dryRun : Bool) (inp : PositionManagementInput)
    (policy : PolicyDecision) : Manage ExecutionOutcome :=
  let params := policy.modifiedParams.getD .keep
  if dryRun then pure (.skipped "dry_run")
  else if ¬ policy.approved then
    let reason := policy.rejectionReason.getD "None"
    pure (.skipped s!"policy_rejected:{reason}")
  else if policy.action = .pauseManagement then pure (.skipped "paused")
  else if policy.action = .keepOpen ∨ policy.action = .holdAndMonitor then pure .ok
  else tryCatch (dispatch host inp params) (fun e => pure (.error e.pyStr))

/-! ## Calls -/

section Calls

variable {host : Host} {calls : List ExecutorCall}

theorem wp_makeCall {Q : Bool → List ExecutorCall → Prop} {E : PyErr → List ExecutorCall → Prop}
    (call : ExecutorCall) :
    wp (makeCall host call) Q E calls ↔
      match host.answer calls call with
      | .ok result => Q result (calls ++ [call])
      | .error e => E e (calls ++ [call]) := by
  unfold makeCall
  rw [wp_bind, wp_get, wp_bind]
  show wp (match host.answer calls call with
    | .ok result => pure result
    | .error e => throw e) Q E (calls ++ [call]) ↔ _
  cases host.answer calls call with
  | ok result => rw [wp_pure]
  | error e => rw [wp_throw]

theorem wp_getPosition {Q : Option HeldPosition → List ExecutorCall → Prop}
    {E : PyErr → List ExecutorCall → Prop} (symbol : Symbol) :
    wp (getPosition host symbol) Q E calls ↔ Q (host.position calls symbol) calls := by
  unfold getPosition
  rw [wp_bind, wp_get, wp_pure]

theorem wp_isLive {Q : Bool → List ExecutorCall → Prop}
    {E : PyErr → List ExecutorCall → Prop} (symbol : Symbol) :
    wp (isLive host symbol) Q E calls ↔
      Q ((host.position calls symbol).any (fun pos => pos.mode = .live)) calls := by
  unfold isLive
  rw [wp_bind, wp_getPosition, wp_pure]

end Calls

/-! ### The calls that are made -/

section Makes

variable {host : Host} {P : ExecutorCall → Prop}

/-- More calls have been made, all of them as `P` says. -/
def Adds (P : ExecutorCall → Prop) (calls calls' : List ExecutorCall) : Prop :=
  ∃ more, calls' = calls ++ more ∧ ∀ call ∈ more, P call

instance : Std.Refl (Adds P) where
  refl calls := ⟨[], (List.append_nil calls).symm, by simp⟩

instance : IsTrans (List ExecutorCall) (Adds P) where
  trans := by
    rintro calls _ _ ⟨more, rfl, hmore⟩ ⟨rest, rfl, hrest⟩
    refine ⟨more ++ rest, List.append_assoc calls more rest, ?_⟩
    intro call hcall
    exact (List.mem_append.mp hcall).elim (hmore call) (hrest call)

theorem makeCall_adds {call : ExecutorCall} (h : P call) : Moves (Adds P) (makeCall host call) := by
  intro calls
  rw [wp_makeCall]
  have hadds : Adds P calls (calls ++ [call]) := by
    refine ⟨[call], rfl, ?_⟩
    intro other hother
    rwa [List.mem_singleton.mp hother]
  cases host.answer calls call with
  | ok result => exact hadds
  | error e => exact hadds

theorem getPosition_adds (symbol : Symbol) : Moves (Adds P) (getPosition host symbol) :=
  Moves.bind Moves.get (fun _ => Moves.pure _)

theorem isLive_adds (symbol : Symbol) : Moves (Adds P) (isLive host symbol) :=
  Moves.bind (getPosition_adds symbol) (fun _ => Moves.pure _)

theorem walletAdjustSl_adds {symbol : Symbol} {newSl : PyFloat} (h : P (.adjustSl symbol newSl)) :
    Moves (Adds P) (walletAdjustSl host symbol newSl) := by
  refine Moves.bind (getPosition_adds symbol) (fun pos => ?_)
  split
  · exact Moves.bind (makeCall_adds h) (fun _ => Moves.pure _)
  · exact Moves.pure _

theorem replaceSl_adds {client : ExecutionClient} {symbol : Symbol} {newSl : PyFloat}
    {inp : PositionManagementInput} (hcancel : ∀ orderId, P (.cancelOrder symbol orderId))
    (hplace : ∀ side, P (.placeStopMarket symbol side inp.position.qty newSl))
    (hrecord : P (.recordStop symbol)) :
    Moves (Adds P) (replaceSl host client symbol newSl inp) := by
  unfold replaceSl
  refine Moves.bind (getPosition_adds symbol) (fun pos? => ?_)
  cases pos? with
  | none => exact Moves.pure _
  | some pos =>
      have hplaced : Moves (Adds P) (do
          if client.placeStopMarket then
            let side := if inp.position.side = .long then "SELL" else "BUY"
            let order ← makeCall host (.placeStopMarket symbol side inp.position.qty newSl)
            if order then
              let _ ← makeCall host (.recordStop symbol)) := by
        split
        · refine Moves.bind (makeCall_adds (hplace _)) (fun order => ?_)
          split
          · exact Moves.bind (makeCall_adds hrecord) (fun _ => Moves.pure _)
          · exact Moves.pure _
        · exact Moves.pure _
      dsimp only
      split
      · exact Moves.bind (makeCall_adds (hcancel _)) (fun _ => hplaced)
      · exact hplaced

/-- Replacing the venue's stop makes only the calls that do so, and does not
raise. -/
theorem wp_exchangeReplaceSl {client : ExecutionClient} {symbol : Symbol} {newSl : PyFloat}
    {inp : PositionManagementInput} {calls : List ExecutorCall}
    (hcancel : ∀ orderId, P (.cancelOrder symbol orderId))
    (hplace : ∀ side, P (.placeStopMarket symbol side inp.position.qty newSl))
    (hrecord : P (.recordStop symbol)) :
    wp (exchangeReplaceSl host client symbol newSl inp) (fun _ => Adds P calls) (fun _ _ => False)
      calls := by
  unfold exchangeReplaceSl
  rw [wp_tryCatch]
  exact replaceSl_adds hcancel hplace hrecord calls

theorem modifyStop_adds {symbol : Symbol} {params : ExecutionParams}
    {inp : PositionManagementInput}
    (h : ∀ newSl, params.newStopLoss = some newSl →
      ¬ PyFloat.lt (PyFloat.distance inp.position.stopLoss newSl) (.fin (1 / 10 ^ 8)) →
      P (.adjustSl symbol newSl) ∧ (∀ orderId, P (.cancelOrder symbol orderId)) ∧
        (∀ side, P (.placeStopMarket symbol side inp.position.qty newSl)) ∧
        P (.recordStop symbol)) :
    Moves (Adds P) (modifyStop host symbol params inp) := by
  unfold modifyStop
  cases hstop : params.newStopLoss with
  | none => exact Moves.pure _
  | some newSl =>
      dsimp only
      by_cases hsame : PyFloat.lt (PyFloat.distance inp.position.stopLoss newSl) (.fin (1 / 10 ^ 8))
      · rw [if_pos hsame]
        exact Moves.pure _
      · rw [if_neg hsame]
        obtain ⟨hadjust, hcancel, hplace, hrecord⟩ := h newSl hstop hsame
        refine Moves.bind (walletAdjustSl_adds hadjust) (fun _ => ?_)
        cases host.execution with
        | none => exact Moves.pure _
        | some client =>
            refine Moves.bind (isLive_adds symbol) (fun live => ?_)
            split
            · refine Moves.bind (fun calls => ?_) (fun _ => Moves.pure _)
              exact wp_mono (wp_exchangeReplaceSl hcancel hplace hrecord) (fun _ _ h => h)
                (fun _ _ h => h.elim)
            · exact Moves.pure _

theorem scaleIn_adds {symbol : Symbol} {params : ExecutionParams} {inp : PositionManagementInput}
    (h : P (.placeMarketOrder symbol inp.position.side (scaleQuantity params inp))) :
    Moves (Adds P) (scaleIn host symbol params inp) := by
  refine Moves.bind (isLive_adds symbol) (fun live => ?_)
  split
  · cases host.execution with
    | none => exact Moves.pure _
    | some client =>
        refine Moves.tryCatch ?_ (fun _ => Moves.pure _)
        split
        · exact Moves.bind (makeCall_adds h) (fun _ => Moves.pure _)
        · exact Moves.pure _
  · exact Moves.pure _

end Makes

end CryptoTrader
