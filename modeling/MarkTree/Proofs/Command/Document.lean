import MarkTree.Proofs.Command.Contract
import MarkTree.Proofs.Markdown.Writable
import MarkTree.Proofs.Packages.Requirement
import MarkTree.Proofs.Result

namespace MarkTree

open Logging

namespace Packages

variable {environment : Environment} {breakdown : Breakdown}

end Packages

namespace Pipeline

variable {environment : Packages.Environment} {parser : Parser} {options : MarkdownOptions}

end Pipeline

end MarkTree
