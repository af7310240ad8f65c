import MarkTree.Main
import MarkTree.Proofs.Normalize.Append
import MarkTree.Proofs.Normalize.FixedPoint
import MarkTree.Proofs.Normalize.Frame
import MarkTree.Proofs.Normalize.Idempotent
import MarkTree.Proofs.Normalize.Leaves
import MarkTree.Proofs.Source.Balanced
import MarkTree.Proofs.Source.Blockquote
import MarkTree.Proofs.Tree.RoundTrip
import MarkTree.Tree.Content
import MarkTree.Tree.Equality
import MarkTree.Tree.NameTable
import MarkTree.Proofs.Markdown.Faultless
import MarkTree.Proofs.Markdown.Vocabulary
import MarkTree.Proofs.Markdown.Shape
import MarkTree.Proofs.Markdown.NormalTree
import MarkTree.Proofs.Markdown.CapturedOutput
import MarkTree.Proofs.Source.TrailingList
import MarkTree.Proofs.Markdown.Admonition
import MarkTree.Proofs.Markdown.CodeSources
import MarkTree.Proofs.Source.Concatenation
import MarkTree.Proofs.Tree.Decoding
import MarkTree.Proofs.Normalize.Names
import MarkTree.Proofs.Source.VisibleOpener
import MarkTree.Proofs.Tree.Interning
import MarkTree.Proofs.Source.LineOrder
import MarkTree.Proofs.Source.ListItem
import MarkTree.Proofs.Normalize.Note
import MarkTree.Proofs.Config.Discovery
import MarkTree.Proofs.Command.Ending
import MarkTree.Proofs.Normalize.Announcement
import MarkTree.Proofs.Source.WrittenList
import MarkTree.Proofs.Markdown.HeadingClasses
import MarkTree.Proofs.Markdown.ImageText
import MarkTree.Proofs.Config.ForeignProject
import MarkTree.Proofs.Command.Precedence
import MarkTree.Proofs.Config.Loading
import MarkTree.Proofs.Packages.Requirement
import MarkTree.Proofs.Logging.Setups
import MarkTree.Proofs.Tree.Splitting
import MarkTree.Proofs.Tree.WireFailure
