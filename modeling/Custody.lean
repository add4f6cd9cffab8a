import Custody.Cursor.Kind
import Custody.Estate.Probe
import Custody.Library.Loader
import Custody.Scenario.Run
import Custody.Text.Loan
import Custody.Unsaved
import Custody.Proofs.Estate.Lookup
import Custody.Proofs.Estate.Teardown
import Custody.Proofs.Estate.Lifecycle
import Custody.Proofs.Library.Books
import Custody.Proofs.Library.Calls
import Custody.Proofs.Scenario.Comparisons
import Custody.Proofs.Scenario.Conservation
import Custody.Proofs.Scenario.Dependencies
import Custody.Proofs.Scenario.Misuse
import Custody.Proofs.Library.Forest
import Custody.Proofs.Session.Indexing
import Custody.Proofs.Session.Traversal
import Custody.Proofs.Scenario.Owners
import Custody.Proofs.Scenario.Descent
import Custody.Proofs.Scenario.Refusal
import Custody.Proofs.Library.Loading
import Custody.Proofs.Library.Placement
import Custody.Proofs.Scenario.Sources
import Custody.Proofs.Scenario.Provenance
import Custody.Proofs.Estate.Retries
import Custody.Proofs.Scenario.Closings
import Custody.Proofs.Scenario.Loans
import Custody.Proofs.Scenario.Sequences
import Custody.Proofs.Scenario.Inclusions
import Custody.Proofs.Scenario.Reparsing
import Custody.Proofs.Scenario.Positions
import Custody.Proofs.Library.Models
import Custody.Proofs.Scenario.Sites
import Custody.Proofs.Scenario.Files
import Custody.Proofs.Settings.Lapses
import Custody.Proofs.Text.Loan
import Custody.Proofs.Settings.Quoting
import Custody.Proofs.Session.Recall
import Custody.Proofs.Scenario.Mirrors
