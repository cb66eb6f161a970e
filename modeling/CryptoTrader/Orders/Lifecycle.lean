import CryptoTrader.Lib.Dict
import CryptoTrader.Lib.Hoare
import CryptoTrader.Wallet.Types
import Mathlib.Logic.Relation

/-!
# The operational lifecycle of an order

`OrderState`, the table of legal transitions and `OrderLifecycle` of
`execution/state_machine.py`.
-/

namespace CryptoTrader.Orders

open CryptoTrader.Lib

inductive OrderState where
  | created
  | submitted
  | acked
  | partialFill
  | filled
  | cancelled
  | rejected
  | expired
  | failed
  deriving DecidableEq, Repr

namespace OrderState

/-- `OrderState.value`. -/
def value : OrderState → String
  | created => "CREATED"
  | submitted => "SUBMITTED"
  | acked => "ACKED"
  | partialFill => "PARTIAL"
  | filled => "FILLED"
  | cancelled => "CANCELLED"
  | rejected => "REJECTED"
  | expired => "EXPIRED"
  | failed => "FAILED"

/-- `is_terminal`. -/
def isTerminal : OrderState → Bool
  | filled | cancelled | rejected | expired | failed => true
  | created | submitted | acked | partialFill => false

/-- `_ALLOWED`. -/
def allowed : OrderState → List OrderState
  | created => [submitted, failed, rejected]
  | submitted => [acked, partialFill, filled, rejected, expired, failed, cancelled]
  | acked => [partialFill, filled, cancelled, expired, rejected, failed]
  | partialFill => [partialFill, filled, cancelled, expired, failed]
  | filled | cancelled | rejected | expired | failed => []

/-- `can_transition`. -/
def canTransition (current target : OrderState) : Bool :=
  !current.isTerminal && target ∈ current.allowed

/-- Nothing leads out of a terminal state. -/
theorem canTransition_of_terminal {current : OrderState} (h : current.isTerminal)
    (target : OrderState) : current.canTransition target = false := by
  simp [canTransition, h]

/-- A state is reached from another through legal transitions. -/
def Legally : OrderState → OrderState → Prop :=
  Relation.ReflTransGen (fun current target => current.canTransition target)

end OrderState

/-- How a submission can fail. -/
inductive OrderError where
  | duplicateOrder (msg : String)
  | invalidTransition (msg : String)
  | venue (e : PyErr)
  | runtimeError (msg : String)
  deriving DecidableEq

/-- The exception is one of the venue's. -/
def OrderError.isVenue : OrderError → Bool
  | .venue _ => true
  | _ => false

/-- `OrderLifecycle`. -/
structure OrderLifecycle where
  clientOrderId : String
  state : OrderState := .created
  symbol : String := ""
  intent : String := ""
  deriving DecidableEq

namespace OrderLifecycle

/-- `terminal`. -/
def terminal (lc : OrderLifecycle) : Bool := lc.state.isTerminal

/-- `transition`. -/
def transition (lc : OrderLifecycle) (target : OrderState) : Except OrderError OrderLifecycle :=
  if lc.state = .partialFill ∧ target = .partialFill then .ok lc
  else if lc.state.canTransition target then .ok { lc with state := target }
  else
    let current := lc.state.value
    let wanted := target.value
    .error (.invalidTransition s!"{lc.clientOrderId}: illegal {current} -> {wanted}")

/-- A transition that is taken is legal, and moves nothing but the state. -/
theorem transition_ok {lc lc' : OrderLifecycle} {target : OrderState}
    (h : lc.transition target = .ok lc') :
    lc.state.Legally lc'.state ∧ lc' = { lc with state := lc'.state } := by
  unfold transition at h
  by_cases hrepeated : lc.state = .partialFill ∧ target = .partialFill
  · rw [if_pos hrepeated] at h
    cases h
    exact ⟨Relation.ReflTransGen.refl, rfl⟩
  · rw [if_neg hrepeated] at h
    by_cases hcan : lc.state.canTransition target
    · rw [if_pos hcan] at h
      cases h
      exact ⟨Relation.ReflTransGen.single hcan, rfl⟩
    · rw [if_neg hcan] at h
      cases h

theorem transition_of_can {lc : OrderLifecycle} {target : OrderState}
    (h : lc.state.canTransition target) : lc.transition target = .ok { lc with state := target } := by
  unfold transition
  by_cases hrepeated : lc.state = .partialFill ∧ target = .partialFill
  · rw [if_pos hrepeated]
    obtain ⟨hstate, rfl⟩ := hrepeated
    rw [← hstate]
  · rw [if_neg hrepeated, if_pos h]

/-- What is refused is refused with the transition's own error. -/
theorem transition_of_not_can {lc : OrderLifecycle} {target : OrderState}
    (h : lc.state.canTransition target = false) :
    ∃ e, lc.transition target = .error e ∧ e.isVenue = false := by
  unfold transition
  have hrepeated : ¬ (lc.state = .partialFill ∧ target = .partialFill) := by
    rintro ⟨hstate, rfl⟩
    rw [hstate] at h
    cases h
  rw [if_neg hrepeated, h]
  exact ⟨_, rfl, rfl⟩

end OrderLifecycle

end CryptoTrader.Orders
