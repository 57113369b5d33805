import ForkSchedule.AtomicTx
import ForkSchedule.Schedule.File
import ForkSchedule.Service
import ForkSchedule.Service.Run
import ForkSchedule.Version
import ForkSchedule.Proofs.Agreement
import ForkSchedule.Proofs.Compatibility
import ForkSchedule.Proofs.Updates
import ForkSchedule.Proofs.LowestConflict
import ForkSchedule.Proofs.AxisSeparation
import ForkSchedule.Proofs.StableRewind
import ForkSchedule.Proofs.ForkOrder
import ForkSchedule.Proofs.OrderDiagnosis
import ForkSchedule.Proofs.Petersburg
import ForkSchedule.Proofs.StoredChain
import ForkSchedule.Proofs.DeepestConflict
import ForkSchedule.Proofs.SetupStep
import ForkSchedule.Proofs.SetupSafety
import ForkSchedule.Proofs.RewindDepth
import ForkSchedule.Proofs.ServiceEvents
import ForkSchedule.Proofs.BlockLookup
import ForkSchedule.Proofs.ForkSequence
import ForkSchedule.Proofs.RulesGrowth
import ForkSchedule.Proofs.SetupFailure
import ForkSchedule.Proofs.SetupRetry
import ForkSchedule.Proofs.SetupForecast
import ForkSchedule.Proofs.JsonRecord
import ForkSchedule.Proofs.HashText
import ForkSchedule.Proofs.DocumentText
import ForkSchedule.Proofs.LoadedSchedule
import ForkSchedule.Proofs.IntegerText
import ForkSchedule.Proofs.JsonGrammar
import ForkSchedule.Proofs.JsonSpelling
import ForkSchedule.Proofs.JsonNumeral
import ForkSchedule.Proofs.JsonTokens
import ForkSchedule.Proofs.JsonValue
import ForkSchedule.Proofs.JsonMember
import ForkSchedule.Proofs.JsonObject
import ForkSchedule.Proofs.MemberSum
import ForkSchedule.Proofs.MemberOrder
import ForkSchedule.Proofs.HashLanguage
import ForkSchedule.Proofs.HashMember
import ForkSchedule.Proofs.TomlValue
import ForkSchedule.Proofs.TomlLine
import ForkSchedule.Proofs.FormatAgreement
import ForkSchedule.Proofs.DocumentNumber
