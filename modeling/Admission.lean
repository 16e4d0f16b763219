import Admission.Main
import Admission.Poller
import Admission.Proofs.Store.Detection
import Admission.Proofs.Store.Outage
import Admission.Proofs.Store.Reopening
import Admission.Proofs.Deployment.Memory
import Admission.Proofs.Store.Overwriting
import Admission.Proofs.Store.Equivalence
import Admission.Proofs.Document.RoundTrip
import Admission.Proofs.Deployment.Log
import Admission.Proofs.Deployment.Atomicity
import Admission.Proofs.Pattern.Search
import Admission.Proofs.Pattern.Enclosed.Escape
import Admission.Proofs.Pattern.Enclosed.Bracket
import Admission.Proofs.Pattern.Enclosed.Body
import Admission.Proofs.Token.Anchors
import Admission.Proofs.Files.Staging
import Admission.Proofs.Deployment.Queries
import Admission.Proofs.Deployment.Recording
import Admission.Proofs.CommandLine.Commands
import Admission.Proofs.CommandLine.Overriding
import Admission.Proofs.Store.Edits
import Admission.Proofs.Table.Updates
import Admission.Proofs.Registry.Delivery
import Admission.Proofs.Store.Stopping
import Admission.Proofs.Deployment.Generations
import Admission.Proofs.Document.Mapping
import Admission.Proofs.Document.Untouched
import Admission.Proofs.Poller.Schedule
import Admission.Proofs.Poller.Handshake
import Admission.Proofs.Poller.Overdue
import Admission.Proofs.Token.Grammar
import Admission.Proofs.Location.Precedence
import Admission.Proofs.Location.FileUrls
import Admission.Proofs.Config.Environment
import Admission.Proofs.Document.Layout
