import TradingPlatform.Core.Python
import TradingPlatform.Core.Json
import TradingPlatform.Core.Text
import TradingPlatform.Core.JavaScript
import TradingPlatform.Core.Numerals
import TradingPlatform.Core.Calendar
import TradingPlatform.Lib.Loop
import TradingPlatform.Lib.History
import TradingPlatform.Lib.Transition
import TradingPlatform.Lib.Trace
import TradingPlatform.Lib.Table
import TradingPlatform.Lib.Service
import TradingPlatform.Lib.Action
import TradingPlatform.Lib.Drawdown
import TradingPlatform.Lib.Crossing
import TradingPlatform.Core.Pydantic
import TradingPlatform.Schemas.Validation
import TradingPlatform.Schemas.Strategy
import TradingPlatform.Backtesting.Models
import TradingPlatform.Backtesting.Engine
import TradingPlatform.Backtesting.Ledger
import TradingPlatform.Backtesting.EngineRefinement
import TradingPlatform.Backtesting.Accounting
import TradingPlatform.Backtesting.Timeline
import TradingPlatform.Backtesting.MarkToMarket
import TradingPlatform.Backtesting.RiskExits
import TradingPlatform.Backtesting.SignalConservation
import TradingPlatform.Backtesting.RollingTotals
import TradingPlatform.Backtesting.StrategyCompiler
import TradingPlatform.Backtesting.StrategySemantics
import TradingPlatform.Backtesting.WarmUp
import TradingPlatform.Backtesting.ExponentialAverage
import TradingPlatform.Backtesting.RollingAverage
import TradingPlatform.Backtesting.NoLookAhead
import TradingPlatform.Backtesting.SignalExits
import TradingPlatform.Backtesting.InertControls
import TradingPlatform.Backtesting.Metrics
import TradingPlatform.Backtesting.MaximumDrawdown
import TradingPlatform.Backtesting.BuyAndHold
import TradingPlatform.Backtesting.MarketData
import TradingPlatform.Services.StrategyPreview
import TradingPlatform.Services.PreviewRuns
import TradingPlatform.Services.ComparisonStart
import TradingPlatform.Services.ComparisonEnd
import TradingPlatform.Jobs.JobStore
import TradingPlatform.Queue.PreviewQueue
import TradingPlatform.Jobs.System
import TradingPlatform.Jobs.StepCases
import TradingPlatform.Jobs.Structure
import TradingPlatform.Jobs.TerminalStates
import TradingPlatform.Jobs.NoJobLost
import TradingPlatform.Jobs.AttemptBudget
import TradingPlatform.Jobs.RowConsistency
import TradingPlatform.Jobs.ObjectSession
import TradingPlatform.Services.PreviewReconciliation
import TradingPlatform.Services.PreviewSubmission
import TradingPlatform.Workers.PreviewWorker
import TradingPlatform.Workers.DurableOutcome
import TradingPlatform.Services.PlainReading
import TradingPlatform.Lib.JoinedText
import TradingPlatform.Lib.MappedRun
import TradingPlatform.Lib.Regex
import TradingPlatform.Backtesting.CurrencyUnit
import TradingPlatform.Backtesting.UnitFreeResults
import TradingPlatform.Services.InterpretationInjective
import TradingPlatform.Services.RecordedSupplies
import TradingPlatform.Services.TextPatterns
import TradingPlatform.Services.PercentPatterns
import TradingPlatform.Services.RiskPhrases
import TradingPlatform.Services.WholeNumerals
import TradingPlatform.Services.RiskAttribution
import TradingPlatform.Services.ShorthandOrientation
import TradingPlatform.Api.Strategies
import TradingPlatform.Api.StrategyIsolation
import TradingPlatform.Api.ConfirmedStrategies
import TradingPlatform.Queue.ActiveScan
import TradingPlatform.Queue.BoundedScan
import TradingPlatform.Db.ConnectionPool
import TradingPlatform.Frontend.UsePreviewJob
import TradingPlatform.Frontend.PreviewJobRuns
import TradingPlatform.Frontend.StrategyWorkspace
import TradingPlatform.Frontend.StrategyPreviewGuard
import TradingPlatform.Services.StrategyParser
import TradingPlatform.Api.PreviewJobs
import TradingPlatform.Backtesting.Magnitudes
import TradingPlatform.Services.PreviewMagnitudes
import TradingPlatform.Scripts.RunSmaBacktest
import TradingPlatform.Backtesting.CrossoverAlternation
import TradingPlatform.Scripts.ImportMarketCsv
import TradingPlatform.Scripts.CsvImport
import TradingPlatform.Scripts.StorableRows
import TradingPlatform.Scripts.ImportedHistory
import TradingPlatform.Frontend.PreviewJobGuard
import TradingPlatform.Frontend.ConfirmedSave
import TradingPlatform.Api.DatabaseFaults
import TradingPlatform.Api.AuthenticatedRequests
import TradingPlatform.Services.CanonicalRules
import TradingPlatform.Backtesting.RunComposition
import TradingPlatform.Frontend.ConfirmationGuard
import TradingPlatform.Services.StrategyTextChecks
import TradingPlatform.Services.OpenAIStrategyParser
import TradingPlatform.Workers.ResultProvenance
import TradingPlatform.Services.ReconciliationBacklog
import TradingPlatform.Jobs.Retention
