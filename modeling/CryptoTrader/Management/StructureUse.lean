import CryptoTrader.Management.SlTp
import CryptoTrader.Strategies.LiquiditySweep

/-!
# What position management makes of the structure

The `structure` and `order_block` stops, and the `structure` field of the market
context, read keys that the analyzer's result does not have.  So each of them is
its fallback on every series.
-/

namespace CryptoTrader.SlTp

open CryptoTrader.Structure (Candle Bias Break BreakKind OrderBlock Recent Analysis analyze bar)

/-! ## The structure field -/

/-- The `event` of a break. -/
def eventText : BreakKind → String
  | .bos => "BOS"
  | .choch => "CHOCH"

/-- The kind and the direction of a break. -/
def structureText (event : BreakKind) (type : Bias) : String :=
  let direction := if isIn "bullish" (typeText type).toLower then "UP" else "DOWN"
  s!"{(eventText event).toUpper}_{direction}"

/-- `_derive_structure`. -/
def deriveStructure (df : List Candle) (swingWindow : ℕ) : String :=
  let result := toDict (analyze df swingWindow)
  match (getEvents result "bos_events").getLast? with
  | some last => structureText last.event last.type
  | none => "RANGE"

/-- `broken_against` of the scorer. -/
def brokenAgainst (side : PositionSide) (marketStructure : String) : Bool :=
  match side with
  | .long => marketStructure ∈ ["BOS_DOWN", "CHOCH_DOWN"]
  | .short => marketStructure ∈ ["BOS_UP", "CHOCH_UP"]

/-! ## Keys the analyzer does not have -/

section Keys

variable (a : Analysis)

theorem getEvents_bosEvents : getEvents (toDict a) "bos_events" = [] := rfl

theorem getBlocks_orderBlocks : getBlocks (toDict a) "order_blocks" = [] := rfl

end Keys

/-- The field is the same on every series. -/
theorem deriveStructure_eq (df : List Candle) (w : ℕ) : deriveStructure df w = "RANGE" := by
  simp [deriveStructure, getEvents_bosEvents]

namespace StopLossCalculator

variable (slCalc : StopLossCalculator)

theorem structureSl_eq : slCalc.structureSl = slCalc.swingSl := by
  simp [structureSl, getEvents_bosEvents]

theorem orderBlockSl_eq : slCalc.orderBlockSl = slCalc.atrSl := by
  simp [orderBlockSl, getBlocks_orderBlocks]

theorem calculate_structure :
    slCalc.calculate "structure" = { slCalc.swingSl with style := "structure" } := by
  simp [calculate, method, structureSl_eq]

theorem calculate_orderBlock :
    slCalc.calculate "order_block" = { slCalc.atrSl with style := "order_block" } := by
  simp [calculate, method, orderBlockSl_eq]

/-- A swing stop is noted as one, or as an ATR stop. -/
theorem swingSl_note_ne (side : PositionSide) (level : ℚ) :
    slCalc.swingSl.invalidationNote ≠ .bos side level := by
  unfold swingSl
  cases slCalc.swingLevel <;> simp [atrSl]

theorem calculate_structure_ne (level : ℚ) :
    slCalc.calculate "structure" ≠ slCalc.bosSl level := by
  intro h
  rw [calculate_structure] at h
  exact slCalc.swingSl_note_ne slCalc.side level (congrArg SLResult.invalidationNote h)

theorem calculate_orderBlock_ne (ob : OrderBlock) :
    slCalc.calculate "order_block" ≠ slCalc.blockSl ob := by
  intro h
  rw [calculate_orderBlock] at h
  have hnote := congrArg SLResult.invalidationNote h
  simp [atrSl, blockSl] at hnote

/-! ## What the structure calls for -/

/-- The breaks that an analysis reports, the latest first. -/
def reported (a : Analysis) : List Break :=
  (a.recentBos.toList ++ a.recentChoch.toList).map (·.event)

/-- The price is on the losing side of the entry. -/
def losing (price : ℚ) : Bool :=
  match slCalc.side with
  | .long => price < slCalc.entry
  | .short => slCalc.entry < price

/-- The latest reported break of the position's direction with its swing on the losing
side of the entry. -/
def lastBreak : Option Break :=
  (reported (analyze slCalc.df slCalc.swingWindow)).find?
    (fun e => e.type.side = slCalc.side ∧ slCalc.losing e.swingPrice)

/-- The nearest reported block of the position's direction. -/
def nearestBlock : Option OrderBlock :=
  ((analyze slCalc.df slCalc.swingWindow).unmitigatedOrderBlocks.filter
    (fun ob => ob.type.side = slCalc.side)).minOn? (fun ob => |slCalc.entry - slCalc.blockEdge ob|)

end StopLossCalculator

/-- The stops rest on the break and on the block that the analyzer reports, and the
field of a context with swing window `w` names the latest break, so that one against
the position reaches the scorer. -/
structure UsesStructure (slCalc : StopLossCalculator) (w : ℕ) : Prop where
  breakStop : ∀ e, slCalc.lastBreak = some e →
    slCalc.calculate "structure" = slCalc.bosSl e.swingPrice
  blockStop : ∀ ob, slCalc.nearestBlock = some ob →
    slCalc.calculate "order_block" = slCalc.blockSl ob
  field : ∀ e, (analyze slCalc.df w).recentBos = some e →
    deriveStructure slCalc.df w = structureText e.event.event e.event.type
  scored : ∀ e, (analyze slCalc.df w).recentBos = some e → e.event.type.side ≠ slCalc.side →
    brokenAgainst slCalc.side (deriveStructure slCalc.df w) = true

theorem structureText_ne_range (event : BreakKind) (type : Bias) :
    structureText event type ≠ "RANGE" := by
  cases event <;> cases type <;> decide +kernel

/-- Nothing that the analyzer reports is used. -/
theorem usesStructure_iff (slCalc : StopLossCalculator) (w : ℕ) :
    UsesStructure slCalc w ↔
      slCalc.lastBreak = none ∧ slCalc.nearestBlock = none ∧
        (analyze slCalc.df w).recentBos = none := by
  constructor
  · intro h
    constructor
    · cases hlast : slCalc.lastBreak with
      | none => rfl
      | some e => exact absurd (h.breakStop e hlast) (slCalc.calculate_structure_ne _)
    · constructor
      · cases hnearest : slCalc.nearestBlock with
        | none => rfl
        | some ob => exact absurd (h.blockStop ob hnearest) (slCalc.calculate_orderBlock_ne ob)
      · cases hrecent : (analyze slCalc.df w).recentBos with
        | none => rfl
        | some e =>
            have hfield := h.field e hrecent
            rw [deriveStructure_eq] at hfield
            exact absurd hfield.symm (structureText_ne_range _ _)
  · intro h
    obtain ⟨hlast, hnearest, hrecent⟩ := h
    constructor
    · intro e he
      simp [hlast] at he
    · intro ob hob
      simp [hnearest] at hob
    · intro e he
      simp [hrecent] at he
    · intro e he
      simp [hrecent] at he

/-! ### A break upwards -/

/-- Flat candles with a swing high at 5; the candle at 15 closes above it. -/
def breakoutCandle (k : ℕ) : Candle :=
  { open_ := 100
    high := if k = 5 then 105 else if k = 15 then 108 else 101
    low := 99
    close := if k = 15 then 107 else 100
    volume := 1
    closeTime := k
    openTime := k }

def breakout : StopLossCalculator :=
  { df := (List.range 20).map breakoutCandle, side := .long, entry := 110 }

theorem breakout_unused : ¬ ∀ slCalc w, UsesStructure slCalc w := by
  intro h
  have hbreak : (breakout.lastBreak.map (·.swingPrice)) = some 105 ∧
      (breakout.calculate "structure").invalidationNote = .swing .long 99 := by
    decide +kernel
  obtain ⟨e, he, hprice⟩ := Option.map_eq_some_iff.mp hbreak.1
  have hstop := congrArg SLResult.invalidationNote ((h breakout 3).breakStop e he)
  rw [hbreak.2] at hstop
  cases hstop

end CryptoTrader.SlTp
