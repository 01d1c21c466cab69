import DocTidy.Block.Page
import DocTidy.Cli.Command
import DocTidy.IndentBlock
import DocTidy.Main
import DocTidy.Proofs.Cli.Reporting
import DocTidy.Proofs.Renewal.Idempotence
import DocTidy.Proofs.Source.Confinement
import DocTidy.Proofs.Source.Safeguard
import DocTidy.Reflow
import DocTidy.Renewal
import DocTidy.Proofs.Reflow
import DocTidy.Proofs.Reflow.Division
import DocTidy.Proofs.Reflow.Width
import DocTidy.Proofs.Block.Definitions
import DocTidy.Proofs.Document.Formatting
import DocTidy.Proofs.Example.Idempotence
import DocTidy.Proofs.Example.Lines
import DocTidy.Proofs.Fixer
import DocTidy.Proofs.Renewal.Parameters
import DocTidy.Proofs.Renewal.Showing
import DocTidy.Proofs.Renewal.Acceptance
import DocTidy.Proofs.Block.Progress
import DocTidy.Proofs.Block.Letters
import DocTidy.Proofs.Source.Outline
import DocTidy.Proofs.Fixer.Preservation
import DocTidy.Proofs.Fixer.Convergence
import DocTidy.Proofs.Param.RoundTrip
import DocTidy.Proofs.Link.Layout
import DocTidy.Proofs.Link.Names
import DocTidy.Proofs.Link.RoundTrip
import DocTidy.Proofs.Renewal.Framing
import DocTidy.Proofs.Renewal.Prose
import DocTidy.Proofs.Block.Extent
import DocTidy.Proofs.Block.Page
import DocTidy.Proofs.Document.Exchange
import DocTidy.Proofs.IndentBlock
import DocTidy.Proofs.Margin
import DocTidy.Proofs.Renewal.Visiting
