import MarkTree.Command.Line
import MarkTree.Proofs.Result

namespace MarkTree

namespace Command

namespace Arguments

end Arguments

/-- The key of an entry is no text, or stands for the name that no option can have. -/
def IsUnusableKey (key : Datum) : Prop :=
  ∀ text, key = .str text → optionName text = receiverName

section

variable {arguments : Arguments} {config : Entries} {options : MarkdownOptions}

/-- A flag gives a value to an option only if it was used. -/
theorem mem_flagOptions {pair : String × Datum} (hmem : pair ∈ flagOptions arguments) :
    pair.1 ∈ MarkdownOptions.names ∧ arguments.get pair.1 = pair.2 ∧ pair.2 ≠ .null := by
  obtain ⟨name, hname, hpair⟩ := List.mem_filterMap.mp hmem
  dsimp only at hpair
  split at hpair
  · cases hpair
  · rename_i hgiven
    cases hpair
    exact ⟨hname, rfl, hgiven⟩

end

end Command

end MarkTree
