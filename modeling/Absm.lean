import Absm.Foundation.Dict
import Absm.Foundation.Json
import Absm.Proofs.Foundation.JsonStrings
import Absm.Proofs.Foundation.JsonText
import Absm.Proofs.Foundation.JsonCut
import Absm.Foundation.Python
import Absm.Foundation.DateTime
import Absm.Foundation.Runs
import Absm.Ingest.Normalizer
import Absm.Ingest.KafkaConsumer
import Absm.Proofs.Ingest.ConsumeLoop
import Absm.Proofs.Ingest.AtLeastOnce
import Absm.Foundation.ExtFloat
import Absm.Ingest.PlainRuntime
import Absm.Proofs.Ingest.PoisonMessages
import Absm.Features.PiiScrubber
import Absm.Features.ProfileBuilder
import Absm.Storage.TimescaledbWriter
import Absm.Proofs.Features.Aggregates
import Absm.Foundation.Hull
import Absm.Models.OnlineUpdater
import Absm.Proofs.Models.BaselineUpdates
import Absm.Foundation.Shuffle
import Absm.Proofs.Models.ConcurrentBaselines
import Absm.Proofs.Features.FiniteFeatures
import Absm.Proofs.Storage.StoredProfiles
import Absm.Alerts.AlertBuilder
import Absm.Models.Ensemble
import Absm.Proofs.Models.EnsembleRanking
import Absm.Rl.ThresholdPolicy
import Absm.Proofs.Rl.QTable
import Absm.Foundation.WholeFloat
import Absm.Proofs.Rl.Restarts
import Absm.Proofs.Rl.CrashedSaves
import Absm.Foundation.SharedCell
import Absm.Proofs.Rl.SharedPolicies
import Absm.Proofs.Models.DriftRate
import Absm.Proofs.Ingest.Redelivery
import Absm.Alerts.Dispatcher
import Absm.Api.AuditLogger
import Absm.Api.Main
import Absm.Api.PlainService
import Absm.Enrich.PeerComparator
import Absm.Foundation.FileTree
import Absm.Models.ModelRegistry
import Absm.Proofs.Alerts.DeadLetters
import Absm.Proofs.Alerts.Disclosure
import Absm.Proofs.Api.AuditIdentity
import Absm.Proofs.Api.EndlessTokens
import Absm.Proofs.Api.RateKeys
import Absm.Proofs.Features.Privacy
import Absm.Proofs.Models.RegistryFiles
import Absm.Proofs.Models.RegistryPairs
import Absm.Features.SequenceBuilder
import Absm.Foundation.ExactFloat
import Absm.Foundation.Lines
import Absm.Foundation.Loops
import Absm.Foundation.Rank
import Absm.Foundation.Segments
import Absm.Proofs.Features.EventTokens
import Absm.Proofs.Models.CapCrossover
import Absm.Proofs.Models.DefaultVocabulary
import Absm.Proofs.Models.PaddedLikelihood
import Absm.Proofs.Rl.FeedbackLog
import Absm.Proofs.Rl.LearnedValues
import Absm.Proofs.Rl.LoadedTables
import Absm.Proofs.Storage.BatchedWrites
import Absm.Foundation.Decay
import Absm.Foundation.FirstGreatest
import Absm.Foundation.Spread
import Absm.Foundation.Sorting
import Absm.Proofs.Features.SessionOrder
import Absm.Proofs.Ingest.ResolvedFields
import Absm.Proofs.Models.LastingShift
import Absm.Proofs.Models.KeyOrder
import Absm.Proofs.Rl.ConsistentReward
import Absm.Proofs.Features.FeatureShape
import Absm.Proofs.Features.ExactSummaries
import Absm.Proofs.Features.WellFormedFeatures
import Absm.Proofs.Features.WindowLaws
import Absm.Proofs.Features.LocalHours
import Absm.Proofs.Features.WindowStarts
import Absm.Proofs.Ingest.AcceptedPayloads
import Absm.Proofs.Ingest.NullFields
import Absm.Proofs.Ingest.CanonicalEvents
import Absm.Proofs.Features.RowValidators
import Absm.Foundation.OrderStatistics
import Absm.Models.ThresholdCalibrator
import Absm.Proofs.Models.FalsePositives
import Absm.Foundation.SlidingWindow
import Absm.Foundation.Samples
import Absm.Drift.AdwinDetector
import Absm.Drift.RetrainingScheduler
import Absm.Monitoring.DataDrift
import Absm.Monitoring.ModelHealth
import Absm.Explain.ShapExplainer
import Absm.Proofs.Drift.Forgetting
import Absm.Proofs.Drift.Units
import Absm.Proofs.Drift.StepLatency
import Absm.Proofs.Monitoring.HealthAlarm
import Absm.Proofs.Explain.TopThree
import Absm.Proofs.Explain.NestedAttributions
import Absm.Foundation.EarlyStopping
import Absm.Foundation.RoundedFloat
import Absm.Proofs.Enrich.PeerRanks
import Absm.Proofs.Enrich.LogisticRanks
import Absm.Proofs.Enrich.RankOverflow
import Absm.Training.AeTrainer
import Absm.Proofs.Training.EpochRuns
import Absm.Proofs.Training.StoppingEpoch
import Absm.Proofs.Training.RecordedLoss
import Absm.Proofs.Training.OneShotBatches
import Absm.Foundation.Calendar
import Absm.Foundation.IsoFormat
import Absm.Features.FeatureStore
import Absm.Proofs.Features.CachedProfiles
import Absm.Proofs.Models.BaselineLifetimes
import Absm.Proofs.Models.ManyClients
import Absm.Proofs.Ingest.BlockedPartitions
import Absm.Proofs.Training.DeployedModels
import Absm.Proofs.Api.SubjectLimits
import Absm.Foundation.Progressions
import Absm.Proofs.Drift.Sensitivity
import Absm.Foundation.TornLog
import Absm.Proofs.Foundation.JsonTorn
import Absm.Proofs.Foundation.JsonLines
import Absm.Proofs.Rl.TornFeedback
import Absm.Proofs.Alerts.TornDeadLetters
import Absm.Proofs.Foundation.JsonInts
import Absm.Proofs.Api.AuditLog
import Absm.Proofs.Monitoring.SmallReferences
import Absm.Proofs.Models.CalibratedSequences
import Absm.Foundation.Rounding
import Absm.Monitoring.SlaChecker
import Absm.Proofs.Monitoring.SlaVerdicts
import Absm.Features.RowFetching
import Absm.Proofs.Features.RowDrivers
import Absm.Proofs.Models.SessionVolume
