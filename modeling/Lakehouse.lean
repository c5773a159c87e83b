import Lakehouse.Benchmark.BenchmarkQueries
import Lakehouse.Benchmark.BenchmarkReport
import Lakehouse.Benchmark.BenchmarkSession
import Lakehouse.Benchmark.ComparisonPair
import Lakehouse.Benchmark.HistoryFile
import Lakehouse.Benchmark.PairOrder
import Lakehouse.Benchmark.TableBenchmarks
import Lakehouse.Compactor.AcquireRace
import Lakehouse.Compactor.AcquireSpec
import Lakehouse.Compactor.BackendAgreement
import Lakehouse.Compactor.CompactionCommits
import Lakehouse.Compactor.CompactionDaemon
import Lakehouse.Compactor.Config
import Lakehouse.Compactor.CycleAccounts
import Lakehouse.Compactor.CyclePhases
import Lakehouse.Compactor.CycleResources
import Lakehouse.Compactor.CycleRun
import Lakehouse.Compactor.DaemonLocks
import Lakehouse.Compactor.DaemonReports
import Lakehouse.Compactor.DaemonRun
import Lakehouse.Compactor.DatetimeArithmetic
import Lakehouse.Compactor.DatetimeLeases
import Lakehouse.Compactor.DatetimeLocks
import Lakehouse.Compactor.DatetimeSelection
import Lakehouse.Compactor.DeltaCompactor
import Lakehouse.Compactor.DeltaTable
import Lakehouse.Compactor.DryRun
import Lakehouse.Compactor.Exceptions
import Lakehouse.Compactor.FileScanner
import Lakehouse.Compactor.FormatBytes
import Lakehouse.Compactor.KeyGrammar
import Lakehouse.Compactor.LeaseRecords
import Lakehouse.Compactor.LeaseSafety
import Lakehouse.Compactor.LeaseText
import Lakehouse.Compactor.LocalLocks
import Lakehouse.Compactor.LockBackend
import Lakehouse.Compactor.LockCustody
import Lakehouse.Compactor.LockManager
import Lakehouse.Compactor.LockRemoval
import Lakehouse.Compactor.Metrics
import Lakehouse.Compactor.MetricsFile
import Lakehouse.Compactor.ObjectKeys
import Lakehouse.Compactor.OverlappingRuns
import Lakehouse.Compactor.PartitionLookup
import Lakehouse.Compactor.PartitionSelection
import Lakehouse.Compactor.RewritePredicate
import Lakehouse.Compactor.RunReports
import Lakehouse.Compactor.ScanInvariance
import Lakehouse.Compactor.SelectionLaws
import Lakehouse.Compactor.Settling
import Lakehouse.Compactor.SharedTable
import Lakehouse.Compactor.TableContents
import Lakehouse.Compactor.TableHistory
import Lakehouse.Compactor.TableLocation
import Lakehouse.Compactor.TargetSizing
import Lakehouse.Foundation.Binary64
import Lakehouse.Foundation.Calendar
import Lakehouse.Foundation.Column
import Lakehouse.Foundation.Dict
import Lakehouse.Foundation.FloatRounding
import Lakehouse.Foundation.IsoFormat
import Lakehouse.Foundation.IsoOrder
import Lakehouse.Foundation.Json
import Lakehouse.Foundation.JsonLines
import Lakehouse.Foundation.JsonNumber
import Lakehouse.Foundation.JsonValue
import Lakehouse.Foundation.LeaseTable
import Lakehouse.Foundation.Loop
import Lakehouse.Foundation.Machine
import Lakehouse.Foundation.Pattern
import Lakehouse.Foundation.Posix
import Lakehouse.Foundation.Program
import Lakehouse.Foundation.Rounding
import Lakehouse.Foundation.Sql
import Lakehouse.Foundation.Text
import Lakehouse.Producer.EventProducer
import Lakehouse.Producer.ProducerRun
import Lakehouse.Streaming.BatchRetries
import Lakehouse.Streaming.DataQuality
import Lakehouse.Streaming.EventPipeline
import Lakehouse.Streaming.PayloadVerdicts
import Lakehouse.Streaming.QualityFile
import Lakehouse.Streaming.Routing
import Lakehouse.Streaming.SparkStreamingJob
import Lakehouse.Streaming.StoredEvents
import Lakehouse.Streaming.ValidatorAgreement
import Lakehouse.Streaming.ValidatorErrors
import Lakehouse.Time
import Lakehouse.Utils.LoggingConfig
