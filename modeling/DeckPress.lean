import DeckPress.Main
import DeckPress.Tree.Lemmas
import DeckPress.Proofs.Text.Replacement
import DeckPress.Proofs.Links.NormalForm
import DeckPress.Proofs.Tree.View
import DeckPress.Proofs.Path.Text
import DeckPress.Proofs.Tree.Walk
import DeckPress.Proofs.Tree.Access
import DeckPress.Proofs.Tree.Files
import DeckPress.Proofs.Tree.Spare
import DeckPress.Proofs.Tree.Again
import DeckPress.Proofs.Host.Act
import DeckPress.Proofs.Site.Stages
import DeckPress.Proofs.Site.Finish
import DeckPress.Proofs.Links.Reference
import DeckPress.Proofs.Site.PageLinks
import DeckPress.Proofs.Tree.Relocation
import DeckPress.Proofs.Site.Relocation
import DeckPress.Proofs.Site.Build
import DeckPress.Proofs.Preview.Refinement
import DeckPress.Proofs.Host.Course
import DeckPress.Proofs.Host.Keep
import DeckPress.Proofs.Host.Contain
import DeckPress.Proofs.Host.Local
import DeckPress.Proofs.Site.Course
import DeckPress.Proofs.Host.Faults
import DeckPress.Proofs.Program.Confined
import DeckPress.Proofs.Preview.Served
import DeckPress.Proofs.Preview.Rebuild
import DeckPress.Proofs.Preview.Keep
import DeckPress.Proofs.Preview.Local
import DeckPress.Proofs.Preview.Events
import DeckPress.Proofs.Preview.Memory
import DeckPress.Proofs.Host.Seen
import DeckPress.Proofs.Preview.Signature
import DeckPress.Proofs.Preview.Changes
import DeckPress.Proofs.Preview.Unchanged
import DeckPress.Proofs.Preview.Nesting
import DeckPress.Proofs.Preview.Filter
import DeckPress.Proofs.Preview.Sources
import DeckPress.Proofs.Text.Utf8
import DeckPress.Proofs.Http.Target
import DeckPress.Proofs.Http.Lines
import DeckPress.Proofs.Http.Response
import DeckPress.Proofs.Site.Failures
import DeckPress.Proofs.Site.Ready
import DeckPress.Proofs.Site.Again
import DeckPress.Proofs.Settings.Lookup
import DeckPress.Proofs.Site.Promotion
import DeckPress.Proofs.Site.Rendered
import DeckPress.Proofs.Host.Raises
import DeckPress.Proofs.Site.Raises
import DeckPress.Proofs.Preview.Escapes
import DeckPress.Proofs.Command.Words
import DeckPress.Proofs.Command.Precedence
import DeckPress.Proofs.Links.Locality
import DeckPress.Proofs.Site.Page
import DeckPress.Proofs.Preview.Identity
import DeckPress.Proofs.Site.Blame
import DeckPress.Proofs.Text.Styled
import DeckPress.Proofs.Command.Report
import DeckPress.Proofs.Number.Decimal
import DeckPress.Proofs.Preview.Port
import DeckPress.Proofs.Command.Port
