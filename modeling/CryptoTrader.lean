import CryptoTrader.Ai.Decision
import CryptoTrader.Ai.Rotation
import CryptoTrader.Ai.Salvage
import CryptoTrader.Analytics.Metrics
import CryptoTrader.Analytics.OutcomeJournal
import CryptoTrader.Arb.Book
import CryptoTrader.Arb.Exposure
import CryptoTrader.Arb.Fills
import CryptoTrader.Arb.Hedge
import CryptoTrader.Arb.Manager
import CryptoTrader.Arb.Profit
import CryptoTrader.Arb.Runs
import CryptoTrader.Backtest.Equivalence
import CryptoTrader.Backtest.Frames
import CryptoTrader.Backtest.MtfAlignment
import CryptoTrader.Backtest.Replay
import CryptoTrader.Backtest.Smc5c
import CryptoTrader.Browser.Accounting
import CryptoTrader.Browser.Control
import CryptoTrader.Browser.Engine
import CryptoTrader.Browser.Position
import CryptoTrader.Browser.Risk
import CryptoTrader.Calibration.Proposer
import CryptoTrader.Engine.ConfigStore
import CryptoTrader.Engine.Entry
import CryptoTrader.Engine.FlipExit
import CryptoTrader.Engine.HotConfig
import CryptoTrader.Engine.HotConverge
import CryptoTrader.Engine.HotRuns
import CryptoTrader.Engine.HotSwap
import CryptoTrader.Engine.LeverageBand
import CryptoTrader.Engine.Liquidation
import CryptoTrader.Engine.Margin
import CryptoTrader.Engine.OrderSize
import CryptoTrader.Engine.OverridesPoll
import CryptoTrader.Engine.Regime
import CryptoTrader.Engine.Rejection
import CryptoTrader.Engine.ZeroSize
import CryptoTrader.Exchange.Engine
import CryptoTrader.Exchange.Instrument
import CryptoTrader.Exchange.PriceFeed
import CryptoTrader.Exchange.Transport
import CryptoTrader.Exchange.UserStream
import CryptoTrader.Exchange.Venue
import CryptoTrader.Infra.RateLimiter
import CryptoTrader.Ledger.Balances
import CryptoTrader.Ledger.Concurrency
import CryptoTrader.Ledger.Conversion
import CryptoTrader.Ledger.Effects
import CryptoTrader.Ledger.FxRates
import CryptoTrader.Ledger.FxService
import CryptoTrader.Ledger.Integrity
import CryptoTrader.Ledger.LiquidationPrice
import CryptoTrader.Ledger.LivePositions
import CryptoTrader.Ledger.LostUpdates
import CryptoTrader.Ledger.PositionEngine
import CryptoTrader.Ledger.PositionMargin
import CryptoTrader.Ledger.PositionPnl
import CryptoTrader.Ledger.PositionRows
import CryptoTrader.Ledger.Projection
import CryptoTrader.Ledger.RedisLock
import CryptoTrader.Ledger.Service
import CryptoTrader.Ledger.UnitOfWork
import CryptoTrader.Lib.Attributes
import CryptoTrader.Lib.Dict
import CryptoTrader.Lib.Drawdown
import CryptoTrader.Lib.EventLog
import CryptoTrader.Lib.FirstBest
import CryptoTrader.Lib.FirstHit
import CryptoTrader.Lib.FixedPoint
import CryptoTrader.Lib.Groups
import CryptoTrader.Lib.GrowingLog
import CryptoTrader.Lib.Hoare
import CryptoTrader.Lib.Instalments
import CryptoTrader.Lib.Json
import CryptoTrader.Lib.JsonCut
import CryptoTrader.Lib.JsonDump
import CryptoTrader.Lib.Latest
import CryptoTrader.Lib.Numbered
import CryptoTrader.Lib.PyValue
import CryptoTrader.Lib.Reservoir
import CryptoTrader.Lib.Run
import CryptoTrader.Lib.Series
import CryptoTrader.Lib.Settling
import CryptoTrader.Lib.Significant
import CryptoTrader.Lib.Table
import CryptoTrader.Lib.Tunables
import CryptoTrader.Lib.Window
import CryptoTrader.Live.Acquisition
import CryptoTrader.Live.Durable
import CryptoTrader.Live.Entry
import CryptoTrader.Live.Equity
import CryptoTrader.Live.ExitPath
import CryptoTrader.Live.Frames
import CryptoTrader.Live.MakerLimit
import CryptoTrader.Live.Operations
import CryptoTrader.Live.Phases
import CryptoTrader.Live.Protection
import CryptoTrader.Live.Quantity
import CryptoTrader.Live.Rejection
import CryptoTrader.Management.Assessor
import CryptoTrader.Management.Confinement
import CryptoTrader.Management.Execution
import CryptoTrader.Management.Executor
import CryptoTrader.Management.Mirror
import CryptoTrader.Management.PolicyGuard
import CryptoTrader.Management.Protection
import CryptoTrader.Management.ReassessmentLoop
import CryptoTrader.Management.Registry
import CryptoTrader.Management.Schemas
import CryptoTrader.Management.SlTp
import CryptoTrader.Management.Staleness
import CryptoTrader.Management.StateEngine
import CryptoTrader.Management.StopChange
import CryptoTrader.Management.StopSide
import CryptoTrader.Management.Stops
import CryptoTrader.Management.StructureUse
import CryptoTrader.Management.Sync
import CryptoTrader.Orders.Lifecycle
import CryptoTrader.Orders.Manager
import CryptoTrader.Orders.Retry
import CryptoTrader.Patterns.CircuitBreaker
import CryptoTrader.Reconcile.Books
import CryptoTrader.Reconcile.Positions
import CryptoTrader.Reconcile.Reconciler
import CryptoTrader.Reconcile.Sourcing
import CryptoTrader.Reconcile.SymbolReconciler
import CryptoTrader.Reconcile.Worker
import CryptoTrader.Risk.Caps
import CryptoTrader.Risk.Fleet
import CryptoTrader.Risk.KillSwitch
import CryptoTrader.Risk.Manager
import CryptoTrader.Selection.Champions
import CryptoTrader.Selection.Metrics
import CryptoTrader.Selection.Selector
import CryptoTrader.Signals.AtMostOnce
import CryptoTrader.Signals.Bus
import CryptoTrader.Signals.Delivery
import CryptoTrader.Signals.OpenCount
import CryptoTrader.Signals.Pipeline
import CryptoTrader.Signals.Settlement
import CryptoTrader.Signals.WalletAdapter
import CryptoTrader.Storage.Projection
import CryptoTrader.Storage.Rebuild
import CryptoTrader.Storage.Reducers
import CryptoTrader.Strategies.LiquiditySweep
import CryptoTrader.Strategies.MrDaily
import CryptoTrader.Strategies.MrReconcile
import CryptoTrader.Strategies.MrState
import CryptoTrader.Strategies.Overrides
import CryptoTrader.Strategies.Ratchet
import CryptoTrader.Strategies.Router
import CryptoTrader.Strategies.SetupLevels
import CryptoTrader.Strategies.SmcLevels
import CryptoTrader.Strategies.SmcPipeline
import CryptoTrader.Strategies.Supertrend
import CryptoTrader.Strategies.SupertrendPort
import CryptoTrader.Strategies.Tuned
import CryptoTrader.Structure.Mirror
import CryptoTrader.Structure.Prefix
import CryptoTrader.Structure.Records
import CryptoTrader.Structure.Scan
import CryptoTrader.Structure.Symmetry
import CryptoTrader.Wallet.Bookings
import CryptoTrader.Wallet.Boot
import CryptoTrader.Wallet.Conservation
import CryptoTrader.Wallet.Discipline
import CryptoTrader.Wallet.Equity
import CryptoTrader.Wallet.Exits
import CryptoTrader.Wallet.Exposure
import CryptoTrader.Wallet.Fills
import CryptoTrader.Wallet.Ledger
import CryptoTrader.Wallet.Noninterference
import CryptoTrader.Wallet.OrderBook
import CryptoTrader.Wallet.OrderRuns
import CryptoTrader.Wallet.OrderSteps
import CryptoTrader.Wallet.Orders
import CryptoTrader.Wallet.OwnFields
import CryptoTrader.Wallet.Parity
import CryptoTrader.Wallet.Positions
import CryptoTrader.Wallet.Recovery
import CryptoTrader.Wallet.Reducer
import CryptoTrader.Wallet.Reports
import CryptoTrader.Wallet.Reset
import CryptoTrader.Wallet.RoundTrip
import CryptoTrader.Wallet.Sharing
import CryptoTrader.Wallet.Slices
import CryptoTrader.Wallet.State
import CryptoTrader.Wallet.Store
import CryptoTrader.Wallet.Terms
import CryptoTrader.Wallet.TradePnl
import CryptoTrader.Wallet.Trading
import CryptoTrader.Wallet.TwinOperations
import CryptoTrader.Wallet.Twins
import CryptoTrader.Wallet.Types
