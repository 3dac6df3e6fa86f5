import VersionGate.Catalogue
import VersionGate.Main
import VersionGate.Proofs.Floor
import VersionGate.Proofs.TextOrder
import VersionGate.Proofs.Verdict
import VersionGate.Session
import VersionGate.Version.Sorting
import VersionGate.Proofs.Retrieval
import VersionGate.Proofs.Checking
import VersionGate.Proofs.CommandLine
import VersionGate.Proofs.CheckCommand
import VersionGate.Proofs.ExitStatus
import VersionGate.Proofs.Agreement
import VersionGate.Proofs.Reporting
import VersionGate.Proofs.Unanswered
import VersionGate.Proofs.Diagnosis
import VersionGate.Proofs.Sessions
import VersionGate.Proofs.Replay
import VersionGate.Proofs.Monotone
import VersionGate.Proofs.Decoration
import VersionGate.Proofs.ControlFree
import VersionGate.Proofs.Document
import VersionGate.Proofs.Channels
import VersionGate.Proofs.Disclosure
import VersionGate.Proofs.SingleLine
import VersionGate.Proofs.Identifiers
import VersionGate.Proofs.Edits
import VersionGate.Proofs.StableSort
import VersionGate.Proofs.Sorting
import VersionGate.Proofs.Attributes
import VersionGate.Proofs.Transparency
import VersionGate.Proofs.Resolution
import VersionGate.Proofs.Discovery
import VersionGate.Proofs.Validators
import VersionGate.Proofs.ErrorContext
