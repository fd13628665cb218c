import Intake.Main
import Intake.Proofs.Conformance
import Intake.Proofs.Violations
import Intake.Proofs.FirstViolation
import Intake.Proofs.Readings
import Intake.Proofs.FirstOffence
import Intake.Proofs.OfflineCheck
import Intake.Proofs.Calendar
import Intake.Proofs.Numerals
import Intake.Proofs.InstantText
import Intake.Proofs.Rounding
import Intake.Proofs.Documents
import Intake.Proofs.DocumentCodec
import Intake.Proofs.WriteGate
import Intake.Proofs.Durability
import Intake.Proofs.FileService
import Intake.Proofs.FailedRequests
import Intake.Proofs.Cleaning
import Intake.Proofs.AtomicWrites
import Intake.Proofs.WrittenBack
import Intake.Proofs.DefinitionCodec
import Intake.Proofs.UnseenFields
import Intake.Proofs.Listings
import Intake.Proofs.Accounts
import Intake.Proofs.UndeclaredKeys
import Intake.Proofs.DeclaredParts
import Intake.Proofs.Interleavings
import Intake.Proofs.Lifetimes
import Intake.Proofs.Exchanges
import Intake.Proofs.Relaxing
import Intake.Proofs.Spellings
import Intake.Proofs.Samples
import Intake.Proofs.Satisfiable
import Intake.Proofs.DayCount
import Intake.Proofs.DateText
import Intake.Proofs.DateLayouts
import Intake.Proofs.WrittenDates
import Intake.Proofs.IntegerBounds
import Intake.Proofs.SameVerdicts
import Intake.Proofs.AnyOrder
import Intake.Proofs.TimestampText
import Intake.Proofs.Representation
