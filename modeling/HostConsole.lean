import HostConsole.Main
import HostConsole.Proofs.Conversation
import HostConsole.Proofs.OneChange
import HostConsole.Proofs.Route
import HostConsole.Proofs.OrderlyRuns
import HostConsole.Proofs.Finding
import HostConsole.Proofs.NameGate
import HostConsole.Proofs.Reference
import HostConsole.Proofs.PercentEncoding
import HostConsole.Proofs.RequestPath
import HostConsole.Proofs.ChangeRequest
import HostConsole.Proofs.Waiting
import HostConsole.Proofs.FailFast
import HostConsole.Proofs.ExitCodes
import HostConsole.Proofs.RemoteAction
import HostConsole.Proofs.Confirmation
import HostConsole.Proofs.Secrecy
import HostConsole.Proofs.Precedence
import HostConsole.Proofs.Acceptance
import HostConsole.Proofs.Choices
import HostConsole.Proofs.AttachmentName
import HostConsole.Proofs.GroupChange
import HostConsole.Proofs.FormEncoding
import HostConsole.Proofs.RequestTarget
import HostConsole.Proofs.Occurrences
import HostConsole.Proofs.PackageRequest
import HostConsole.Proofs.BareLines
import HostConsole.Proofs.TableAlignment
import HostConsole.Proofs.FileWrites
import HostConsole.Proofs.QuotedName
import HostConsole.Proofs.SavedReport
import HostConsole.Proofs.RecordBlocks
import HostConsole.Proofs.Rearrangement
import HostConsole.Proofs.StableRecords
import HostConsole.Proofs.SystemRequest
import HostConsole.Proofs.ShownTime
import HostConsole.Proofs.Explanation
import HostConsole.Proofs.GroupNames
import HostConsole.Proofs.Timeouts
