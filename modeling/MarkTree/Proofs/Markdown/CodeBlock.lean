import MarkTree.Proofs.Markdown.NormalTree
import MarkTree.Proofs.Normalize.CodeBlock

namespace MarkTree.Markdown

open Node

/-- A source without one line feed at its end, if it has one. -/
def IsChomped (source text : String) : Prop :=
  source = text ++ "\n" ∨ source = text ∧ ∀ front, source ≠ front ++ "\n"

/-- A code block has the source of its token, without one line feed at its end. -/
theorem isChomped_codeSource (source : String) : IsChomped source (Block.codeSource source) := by
  have hends : Text.endsWith ['\n'] source.toList = true ↔ ∃ front, source = front ++ "\n" := by
    rw [Text.endsWith, List.isSuffixOf_iff_suffix]
    constructor
    · rintro ⟨front, hfront⟩
      exact ⟨String.ofList front, String.toList_inj.mp (by simp [← hfront])⟩
    · rintro ⟨front, rfl⟩
      exact ⟨front.toList, by simp⟩
  by_cases hfeed : ∃ front, source = front ++ "\n"
  · left
    rw [Block.codeSource, if_pos (hends.mpr hfeed)]
    obtain ⟨front, rfl⟩ := hfeed
    simp
  · right
    rw [Block.codeSource, if_neg (mt hends.mp hfeed)]
    exact ⟨rfl, not_exists.mp hfeed⟩

section Code

variable {token : Entries} {source info : String}

/-- A code token is read with its source and its info string. -/
theorem readBlock_eq_code (htype : typeOf token = .str "block_code") (hraw : rawOf token = .str source)
    (hinfo : IsInfo info (detailOr "info" .null token)) : readBlock token = .code source info := by
  rw [readBlock_code htype, readCode_eq hraw hinfo]

/-- A block of code is read without fault. -/
theorem readable_code (hblock : readBlock token = .code source info) : Readable token :=
  .of_block hblock rfl (throughout_codeNode source info)

end Code

/-- What a code token is made into is a code block. -/
theorem isCodeBlock_codeNode (source info : String) :
    isCodeBlock (Block.codeNode source info) = true := by
  simp [Block.codeNode, plain, isCodeBlock, Label.reads, Label.value]

/-- The class of captured output: the first word of the info string, if there is one, and `output`. -/
def outputClassOf (info : String) : String :=
  match Text.wordsOf info with
  | [] => "output"
  | word :: _ => word ++ " output"

/-- A code block with a class, all names canonical. -/
def classedBlock (className text : String) : Node :=
  .element (.name "pre") []
    [.element (.name "code") [(.name "class", .str className)] [.text (.str text)] (.dict [])] (.dict [])

/-- Captured output is normalized to the code block with the output class, whatever the language. -/
theorem normalizedAll_withOutput_codeNode (source info : String) :
    normalizedAll false [withOutput (Block.codeNode source info)] =
      [classedBlock (outputClassOf info) (Block.codeSource source)] := by
  have hwalk : normalizedAll false [withOutput (Block.codeNode source info)] =
      [normalized (withOutput (Block.codeNode source info))] := by
    simp [normalizedAll, startsWithCodeBlock]
  rw [hwalk, ← normalizedCaptured_eq (isCodeBlock_codeNode source info), outputClassOf, Block.codeNode]
  cases Text.wordsOf info with
  | nil => rfl
  | cons word rest => rfl

end MarkTree.Markdown
