import SessionKeeper.Access.Guard
import SessionKeeper.Access.Route
import SessionKeeper.Account.Role
import SessionKeeper.Account.User
import SessionKeeper.Client.Basic
import SessionKeeper.Client.Call
import SessionKeeper.Client.Delivery
import SessionKeeper.Client.Host
import SessionKeeper.Client.Operation
import SessionKeeper.Client.Recovery
import SessionKeeper.Client.Renewal
import SessionKeeper.Client.Task
import SessionKeeper.Command.Action
import SessionKeeper.Command.Grammar
import SessionKeeper.Command.Run
import SessionKeeper.Config
import SessionKeeper.Credentials.Disk
import SessionKeeper.Credentials.File
import SessionKeeper.Credentials.Medium
import SessionKeeper.Credentials.Store
import SessionKeeper.Decimal.Binary64
import SessionKeeper.Decimal.Shortest
import SessionKeeper.Dictionary
import SessionKeeper.Exchange.Answer
import SessionKeeper.Exchange.Payload
import SessionKeeper.Failure.ApiError
import SessionKeeper.Failure.ErrorBody
import SessionKeeper.Json.Decode
import SessionKeeper.Json.Printer
import SessionKeeper.Json.Tree
import SessionKeeper.Json.Value
import SessionKeeper.Rehearsal.Errand
import SessionKeeper.Rehearsal.Scene
import SessionKeeper.Rehearsal.Script
import SessionKeeper.Rehearsal.Storage
import SessionKeeper.Session
import SessionKeeper.Text.Blank
import SessionKeeper.Text.Case
import SessionKeeper.Text.CaseTable
import SessionKeeper.Text.EscapedTable
import SessionKeeper.Text.Quoted
import SessionKeeper.Text.Utf8
import SessionKeeper.Url.Basic
import SessionKeeper.Url.Domain
import SessionKeeper.Url.ExcludedTable
import SessionKeeper.Url.Host
import SessionKeeper.Url.Percent
import SessionKeeper.Url.Punycode
import SessionKeeper.Main
import SessionKeeper.Proofs.Access.Guards
import SessionKeeper.Proofs.Account.StoredForm
import SessionKeeper.Proofs.Credentials.CoPresence
import SessionKeeper.Proofs.Client.Invariant
import SessionKeeper.Proofs.Client.Operations
import SessionKeeper.Proofs.Client.Agreement
import SessionKeeper.Proofs.Client.Restart
import SessionKeeper.Proofs.Client.Provenance
import SessionKeeper.Proofs.Client.LateRenewal
import SessionKeeper.Proofs.Client.Claimants
import SessionKeeper.Proofs.Client.SingleFlight
import SessionKeeper.Proofs.Client.Course
import SessionKeeper.Proofs.Client.Liveness
import SessionKeeper.Proofs.Client.Interception
import SessionKeeper.Proofs.Client.SignIn
import SessionKeeper.Proofs.Client.TokenPairs
import SessionKeeper.Proofs.Client.RenewalOutcome
import SessionKeeper.Proofs.Client.Submissions
import SessionKeeper.Proofs.Client.RecoverySafety
import SessionKeeper.Proofs.Client.Outstanding
import SessionKeeper.Proofs.Client.Logout
import SessionKeeper.Proofs.Client.Resending
import SessionKeeper.Proofs.Credentials.FileMedium
import SessionKeeper.Proofs.Client.Phases
import SessionKeeper.Proofs.Client.Opacity
import SessionKeeper.Proofs.Client.AccountResults
import SessionKeeper.Proofs.Client.RecoverySteps
import SessionKeeper.Proofs.Command.RecoveryRun
import SessionKeeper.Proofs.Command.Meaning
import SessionKeeper.Proofs.Failure.ErrorBodies
import SessionKeeper.Proofs.Access.Table
import SessionKeeper.Proofs.Exchange.Confidentiality
import SessionKeeper.Proofs.Client.LocalEdits
import SessionKeeper.Proofs.Url.Endpoints
