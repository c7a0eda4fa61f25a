import CreoBench.AllOrNothing
import CreoBench.ArrivalRuns
import CreoBench.ArrivalSampling
import CreoBench.CodecHandover
import CreoBench.Collect
import CreoBench.CollectRefinement
import CreoBench.CollectRounds
import CreoBench.CollectorProgress
import CreoBench.ConnectRetries
import CreoBench.Connection
import CreoBench.CsvReadBack
import CreoBench.Dispatch
import CreoBench.DispatchPool
import CreoBench.DispatchResults
import CreoBench.DispatchTasks
import CreoBench.DispatchTiming
import CreoBench.Distribute
import CreoBench.DrainSync
import CreoBench.DropReasons
import CreoBench.DropSummary
import CreoBench.Framer
import CreoBench.FramerInput
import CreoBench.FramerStream
import CreoBench.GeneratorAddr
import CreoBench.GeneratorProgress
import CreoBench.GeneratorStream
import CreoBench.JumpResolution
import CreoBench.Library.BigEndian
import CreoBench.Library.Binary64
import CreoBench.Library.Binary64Error
import CreoBench.Library.Binary64Order
import CreoBench.Library.Binary64Rounding
import CreoBench.Library.ByteFormat
import CreoBench.Library.Checks
import CreoBench.Library.Codec
import CreoBench.Library.Columns
import CreoBench.Library.Csv
import CreoBench.Library.Framing
import CreoBench.Library.ListIndex
import CreoBench.Library.SortedMap
import CreoBench.Library.SplitOnce
import CreoBench.Library.TransitionSystem
import CreoBench.Link
import CreoBench.LoadSplit
import CreoBench.LoadTestRunner
import CreoBench.MergeRound
import CreoBench.MergedStatistics
import CreoBench.NaturalLogarithm
import CreoBench.OutputDir
import CreoBench.Pacer
import CreoBench.PacerRuns
import CreoBench.PersistedOnce
import CreoBench.Persisters
import CreoBench.Pool
import CreoBench.PoolFairness
import CreoBench.PoolSetup
import CreoBench.ProfileConfig
import CreoBench.ProfileExecution
import CreoBench.RandomStreams
import CreoBench.RateBounds
import CreoBench.ReadyHandle
import CreoBench.RecordedTimes
import CreoBench.RepeatedRun
import CreoBench.ReportAlignment
import CreoBench.ReportShape
import CreoBench.ReportSpacing
import CreoBench.ReportTimes
import CreoBench.ReportedLoad
import CreoBench.ResultConservation
import CreoBench.RunProgress
import CreoBench.RunnerAborts
import CreoBench.Schedule
import CreoBench.ScheduleRoom
import CreoBench.ScriptLoading
import CreoBench.ScriptRunner
import CreoBench.ScriptWalk
import CreoBench.Serde
import CreoBench.SerdeDataModel
import CreoBench.SerdeRoundTrip
import CreoBench.Sessions
import CreoBench.SpecEntries
import CreoBench.SpecGrammar
import CreoBench.SpecParser
import CreoBench.StartBarrier
import CreoBench.Time
import CreoBench.Tracker
import CreoBench.TrackerSnapshots
import CreoBench.TrackerSteps
import CreoBench.Transaction
import CreoBench.Verdict
import CreoBench.VirtualUser
import CreoBench.WaitUntil
import CreoBench.WholeRun
import CreoBench.Wire
import CreoBench.WireCodecs
import CreoBench.WireDelivery
import CreoBench.WireTimes
import CreoBench.WorkingGenerator
import CreoBench.WriterLoop
