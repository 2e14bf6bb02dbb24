import InvestmentAssistant.Foundation.CharClass
import InvestmentAssistant.Foundation.Decimal
import InvestmentAssistant.Foundation.KeywordSearch
import InvestmentAssistant.Core.Errors
import InvestmentAssistant.Core.Models
import InvestmentAssistant.Core.Auth
import InvestmentAssistant.Core.Mirror
import InvestmentAssistant.TechnicalAnalysis.Summary
import InvestmentAssistant.PatternRecognition.LevelDetection
import InvestmentAssistant.PatternRecognition.SupportResistance
import InvestmentAssistant.PatternRecognition.Fibonacci
import InvestmentAssistant.SignalAggregation.Aggregator
import InvestmentAssistant.TechnicalAnalysis.SignalCounts
import InvestmentAssistant.SignalAggregation.Scoring
import InvestmentAssistant.StrategyGenerator.ConfidenceScorer
import InvestmentAssistant.StrategyGenerator.DecisionSymmetry
import InvestmentAssistant.StrategyGenerator.PriceExtraction
import InvestmentAssistant.StrategyGenerator.EntryCalculator
import InvestmentAssistant.StrategyGenerator.SlTpCalculator
import InvestmentAssistant.SignalAggregation.ThresholdCalibration
import InvestmentAssistant.Foundation.RollingWindows
import InvestmentAssistant.PatternRecognition.Recognition
import InvestmentAssistant.Scripts.CalibrateSignalThresholds
import InvestmentAssistant.Scripts.CandidateEvaluation
import InvestmentAssistant.Scripts.ScoreAgreement
import InvestmentAssistant.StrategyGenerator.LevelRoundTrip
import InvestmentAssistant.DataAcquisition.OhlcvCache
import InvestmentAssistant.DataAcquisition.StoreLaw
import InvestmentAssistant.DataAcquisition.ReadThrough
import InvestmentAssistant.DataAcquisition.FourHourCandles
import InvestmentAssistant.DataAcquisition.ConcurrentReads
import InvestmentAssistant.DataAcquisition.RedisCache
import InvestmentAssistant.Core.DailyRateLimiter
import InvestmentAssistant.DataAcquisition.DailyQuota
import InvestmentAssistant.DataAcquisition.MultiTimeframe
import InvestmentAssistant.Foundation.Realizes
import InvestmentAssistant.Foundation.Substitution
import InvestmentAssistant.Core.LoggingConfig
import InvestmentAssistant.Core.JsonFormatter
import InvestmentAssistant.Core.UrlPasswords
import InvestmentAssistant.Orchestration.Pipeline
import InvestmentAssistant.Orchestration.StatusTrace
import InvestmentAssistant.Orchestration.StepNames
import InvestmentAssistant.Api.Analysis
import InvestmentAssistant.Api.ReportRetrieval
import InvestmentAssistant.Api.AnalysisSocket
import InvestmentAssistant.Frontend.ProgressIndicator
import InvestmentAssistant.Frontend.ProgressSession
import InvestmentAssistant.Frontend.Reconnection
import InvestmentAssistant.DataAcquisition.FallbackChain
import InvestmentAssistant.Core.WsConnectionLimiter
import InvestmentAssistant.Core.WsLimiterRuns
import InvestmentAssistant.Core.WsLimiterTrace
import InvestmentAssistant.PatternRecognition.Consolidator
import InvestmentAssistant.StrategyGenerator.ReportBuilder
import InvestmentAssistant.TechnicalAnalysis.PivotPoints
import InvestmentAssistant.TechnicalAnalysis.TechnicalStep
import InvestmentAssistant.Orchestration.AnalysisSteps
import InvestmentAssistant.Orchestration.GracefulDegradation
import InvestmentAssistant.StrategyGenerator.SlTpGeometry
import InvestmentAssistant.DataAcquisition.ConcurrentFetch
import InvestmentAssistant.DataAcquisition.SingleTimeframe
import InvestmentAssistant.Api.TriggerAnalysis
import InvestmentAssistant.Foundation.IpAddress
import InvestmentAssistant.Core.ClientIdentity
import InvestmentAssistant.Core.InstrumentClassifier
import InvestmentAssistant.Foundation.BoundedCache
import InvestmentAssistant.Foundation.Buckets
import InvestmentAssistant.Foundation.CollectLoop
import InvestmentAssistant.Foundation.CsvReader
import InvestmentAssistant.Foundation.IntText
import InvestmentAssistant.FundamentalAnalysis.JsonValues
import InvestmentAssistant.Foundation.SelfDelimiting
import InvestmentAssistant.Foundation.Text
import InvestmentAssistant.Api.Validators
import InvestmentAssistant.Api.SocketSlots
import InvestmentAssistant.FundamentalAnalysis.CpiYoy
import InvestmentAssistant.FundamentalAnalysis.BlsCpiSource
import InvestmentAssistant.FundamentalAnalysis.SdmxJson
import InvestmentAssistant.FundamentalAnalysis.StatCanCpiSource
import InvestmentAssistant.FundamentalAnalysis.OecdSdmxSource
import InvestmentAssistant.FundamentalAnalysis.CpiDecoders
import InvestmentAssistant.StrategyGenerator.RiskRewardBounds
import InvestmentAssistant.StrategyGenerator.RiskRewardFilter
import InvestmentAssistant.StrategyGenerator.ConservativeEntry
import InvestmentAssistant.SignalAggregation.OutcomeLabels
import InvestmentAssistant.SignalAggregation.CandidateRanking
import InvestmentAssistant.PatternRecognition.ChartPatternImpulse
import InvestmentAssistant.Foundation.LocalExtrema
import InvestmentAssistant.PatternRecognition.SwingPoints
import InvestmentAssistant.PatternRecognition.FibonacciSwing
import InvestmentAssistant.Foundation.GreedyRuns
import InvestmentAssistant.PatternRecognition.LevelClusters
import InvestmentAssistant.PatternRecognition.ClusterTolerance
import InvestmentAssistant.Api.ValidatorGrammar
import InvestmentAssistant.DataAcquisition.PeriodLookback
import InvestmentAssistant.DataAcquisition.WeeklyCandles
import InvestmentAssistant.PatternRecognition.ConsolidationSpec
import InvestmentAssistant.StrategyGenerator.PatternScores
import InvestmentAssistant.Core.ClientKey
import InvestmentAssistant.Core.KeyValueMasking
import InvestmentAssistant.Core.SanitizeTwice
import InvestmentAssistant.FundamentalAnalysis.BfsCpiSource
import InvestmentAssistant.FundamentalAnalysis.CpiEncodings
import InvestmentAssistant.FundamentalAnalysis.CpiFallbackSource
import InvestmentAssistant.PatternRecognition.IkiDetection
import InvestmentAssistant.Foundation.Clamp
import InvestmentAssistant.FundamentalAnalysis.CommodityAnalyzer
import InvestmentAssistant.FundamentalAnalysis.ForexAnalyzer
import InvestmentAssistant.PatternRecognition.RelevanceBounds
import InvestmentAssistant.Scripts.CalibrationWindows
import InvestmentAssistant.StrategyGenerator.AtrAgreement
import InvestmentAssistant.StrategyGenerator.TakeProfitGuard
import InvestmentAssistant.TechnicalAnalysis.PivotGeometry
import InvestmentAssistant.Api.CandleRequests
import InvestmentAssistant.Api.MarketData
import InvestmentAssistant.Api.MarketDataRuns
import InvestmentAssistant.Api.Patterns
import InvestmentAssistant.Api.TechnicalAnalysis
import InvestmentAssistant.Core.AccessTokens
import InvestmentAssistant.FundamentalAnalysis.FredHistory
import InvestmentAssistant.Api.Fundamental
import InvestmentAssistant.Frontend.HomePage
import InvestmentAssistant.DataAcquisition.CandleOrder
import InvestmentAssistant.Foundation.Grouping
import InvestmentAssistant.Frontend.PatternMarkers
