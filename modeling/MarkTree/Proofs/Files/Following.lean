import MarkTree.Files.Tree

namespace MarkTree.Files.FileTree

variable {tree : FileTree} {here : Location} {names : List String} {error : FileError}

/-- What keeps the system from telling where names lead: a name that is too long for it, or a closed
    directory on the way. -/
inductive Blocks (tree : FileTree) (here : Location) (names : List String) : FileError → Prop where
  | long {name : String} (hmem : name ∈ names) (hlong : longestName < name.utf8ByteSize) :
      Blocks tree here names .nameTooLong
  | closed (front : List String) {rest : List String} {name : String} {place : Location}
      {error : FileError} (hnames : names = front ++ name :: rest)
      (hplace : tree.follow here front = .ok place) (hclosed : tree.closed.lookup place = some error) :
      Blocks tree here names error

/-- What blocks some names blocks them behind one more name too, if that leads on to the place that they are
    followed from. -/
theorem Blocks.cons {next : Location} {name : String} (hblocks : tree.Blocks next names error)
    (hstep : ∀ rest, tree.follow here (name :: rest) = tree.follow next rest) :
    tree.Blocks here (name :: names) error := by
  cases hblocks with
  | long hmem hlong => exact .long (List.mem_cons_of_mem name hmem) hlong
  | closed front hnames hplace hclosed =>
    exact .closed (name :: front) (by rw [hnames]; rfl) ((hstep _).trans hplace) hclosed

/-- If following names fails, there is nothing where they lead, or something blocks the way. -/
theorem blocks_of_follow (h : tree.follow here names = .error error) :
    error.isAbsence = true ∨ tree.Blocks here names error := by
  fun_induction FileTree.follow tree here names with
  | case1 => cases h
  | case2 here name rest _ other hclosed =>
    cases h
    exact .inr (.closed [] rfl rfl hclosed)
  | case3 here rest hdirectory hopen ih =>
    refine (ih h).imp_right fun hblocks => hblocks.cons fun rest => ?_
    rw [follow, if_pos hdirectory, hopen]
    rfl
  | case4 here name rest _ _ _ hlong =>
    cases h
    exact .inr (.long List.mem_cons_self hlong)
  | case5 here name rest hdirectory hopen hup hshort ih =>
    refine (ih h).imp_right fun hblocks => hblocks.cons fun rest => ?_
    rw [follow, if_pos hdirectory, hopen]
    dsimp only
    rw [if_neg hup, if_neg hshort]
  | case6 | case7 =>
    cases h
    exact .inl rfl

/-- Names that are short enough are followed without hindrance where nothing is closed. -/
theorem not_blocks (hshort : ∀ name ∈ names, name.utf8ByteSize ≤ longestName) (hopen : tree.closed = []) :
    ¬ tree.Blocks here names error := by
  rintro (⟨hmem, hlong⟩ | ⟨front, -, -, hclosed⟩)
  · exact Nat.not_le.mpr hlong (hshort _ hmem)
  · rw [hopen] at hclosed
    cases hclosed

end MarkTree.Files.FileTree
