import DuplicateGuard.Log.Timing
import DuplicateGuard.Main
import DuplicateGuard.Proofs.CommandLine.ExitCodes
import DuplicateGuard.Proofs.CommandLine.Importing
import DuplicateGuard.Proofs.CommandLine.Printing
import DuplicateGuard.Proofs.Detection.BlankFields
import DuplicateGuard.Proofs.Detection.Loosening
import DuplicateGuard.Proofs.Detection.Normalization
import DuplicateGuard.Proofs.Detection.RuleOrder
import DuplicateGuard.Proofs.Issuance.Approval
import DuplicateGuard.Proofs.Issuance.FailClosed
import DuplicateGuard.Proofs.Issuance.Outcome
import DuplicateGuard.Proofs.Override.Race
import DuplicateGuard.Proofs.Override.Trail
import DuplicateGuard.Proofs.Report.Listing
import DuplicateGuard.Proofs.Settings.Precedence
import DuplicateGuard.Proofs.Store.Timekeeping
import DuplicateGuard.Proofs.Time.ColumnWidth
import DuplicateGuard.Proofs.Time.WireText
import DuplicateGuard.Proofs.Wire.Acceptance
import DuplicateGuard.Proofs.Wire.Records
import DuplicateGuard.Proofs.Wire.Restored
import DuplicateGuard.Proofs.Bindings
import DuplicateGuard.Proofs.Log.Scrubbing
import DuplicateGuard.Proofs.Audit.Scoping
import DuplicateGuard.Proofs.Audit.Overlay
import DuplicateGuard.Proofs.Failure.Accounting
import DuplicateGuard.Proofs.Run.Errors
