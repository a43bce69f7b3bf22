import Snippetry.Main
import Snippetry.Proofs.CommandLine.Deadline
import Snippetry.Proofs.CommandLine.Run
import Snippetry.Proofs.CommandLine.Test
import Snippetry.Proofs.CommandLine.Titles
import Snippetry.Proofs.Fence.Agreement
import Snippetry.Proofs.Fence.Append
import Snippetry.Proofs.Fence.Bodies
import Snippetry.Proofs.Fence.Events
import Snippetry.Proofs.Fence.Location
import Snippetry.Proofs.Fence.Printing
import Snippetry.Proofs.Fence.Reassembly
import Snippetry.Proofs.Fence.Relocation
import Snippetry.Proofs.Fence.Scan
import Snippetry.Proofs.Fence.Unplaced
import Snippetry.Proofs.Files
import Snippetry.Proofs.Include.Append
import Snippetry.Proofs.Include.Cycle
import Snippetry.Proofs.Include.Eager
import Snippetry.Proofs.Include.Lookup
import Snippetry.Proofs.Include.Notices
import Snippetry.Proofs.Include.Origin
import Snippetry.Proofs.Include.Policy
import Snippetry.Proofs.Include.Truth
import Snippetry.Proofs.Include.Turns
import Snippetry.Proofs.Include.Warnings
import Snippetry.Proofs.Presentation
import Snippetry.Proofs.Run.Environment
import Snippetry.Proofs.Run.Forwarding
import Snippetry.Proofs.Run.Limits
import Snippetry.Proofs.Run.Reaping
import Snippetry.Proofs.Selection
import Snippetry.Proofs.SelectionGrammar
import Snippetry.Proofs.TestDocument.Categories
import Snippetry.Proofs.TestDocument.Check
import Snippetry.Proofs.TestDocument.Discovery
import Snippetry.Proofs.TestDocument.Frontmatter
import Snippetry.Proofs.TestDocument.LineNumbers
import Snippetry.Proofs.TestDocument.Suites
import Snippetry.Proofs.Text.Decimal
import Snippetry.Proofs.Text.Segments
