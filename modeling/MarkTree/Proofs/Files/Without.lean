import MarkTree.Files.Tree

namespace MarkTree.Files

theorem Path.climb_append (here : Location) (front back : List String) :
    climb here (front ++ back) = climb (climb here front) back := by
  induction front generalizing here with
  | nil => rfl
  | cons name rest ih => exact ih _

/-- The last name of a path is the last name of the location, unless it leads upwards. -/
theorem Path.locate_concat {path : Path} {names : List String} {name : String}
    (hnames : path.names = names ++ [name]) (hname : name ≠ "..") (here : Location) :
    path.locate here = climb (path.start here) names ++ [name] := by
  rw [locate, hnames, climb_append, climb, climb, if_neg hname]

namespace FileTree

/-- The tree without these files. The directories that they were in stay, even if nothing is left there. -/
def without (tree : FileTree) (gone : Location → Bool) : FileTree :=
  { tree with
    directories :=
      tree.directories ++ (tree.files.filter (gone ·.1)).map fun (file, _) => file.dropLast
    files := tree.files.filter (!gone ·.1) }

variable {tree : FileTree} {gone : Location → Bool} {here location : Location}

/-- A path that can be followed leads to the location that it names. -/
theorem eq_climb_of_follow {names : List String} (h : tree.follow here names = .ok location) :
    location = Path.climb here names := by
  fun_induction FileTree.follow tree here names with
  | case1 =>
    cases h
    rfl
  | case3 here rest _ _ ih => exact ih h
  | case5 here name rest _ _ hname _ ih =>
    rw [Path.climb, if_neg hname]
    exact ih h
  | case2 | case4 | case6 | case7 => cases h

/-- A directory is at the top, is listed or contains something that is. -/
theorem isDirectoryAt_iff :
    tree.isDirectoryAt location = true ↔
      location = [] ∨ (∃ directory ∈ tree.directories, location <+: directory) ∨
        ∃ file ∈ tree.files, location <+: file.1 ∧ location ≠ file.1 := by
  simp [isDirectoryAt, or_assoc]

/-- A place is above a file if it is the directory of the file or above that. -/
theorem eq_nil_or_isPrefix_dropLast_iff {file : Location} :
    location = [] ∨ location <+: file.dropLast ↔ location = [] ∨ location <+: file ∧ location ≠ file := by
  obtain rfl | ⟨directory, name, rfl⟩ := List.eq_nil_or_concat file
  · simp
  · rw [List.concat_eq_append, List.dropLast_concat, List.prefix_concat_iff]
    refine or_congr_right ⟨fun h => ⟨.inr h, ?_⟩, fun ⟨h, hne⟩ => h.resolve_left hne⟩
    rintro rfl
    simpa [Nat.succ_le_iff] using h.length_le

/-- The files that are left are those that were there and were not taken away. -/
theorem isFileAt_without :
    (tree.without gone).isFileAt location = (tree.isFileAt location && !gone location) := by
  rw [isFileAt, isFileAt, find?, find?, without]
  induction tree.files with
  | nil => rfl
  | cons file rest ih =>
    obtain ⟨place, content⟩ := file
    by_cases hplace : location = place
    · subst hplace
      cases hgone : gone location <;> simp [hgone] at ih ⊢
      exact ih
    · have hbeq : (location == place) = false := beq_false_of_ne hplace
      cases hgone : gone place <;> simp [hgone, List.lookup_cons, hbeq] at ih ⊢ <;> exact ih

/-- Taking files away leaves every directory in place. -/
theorem isDirectoryAt_without :
    (tree.without gone).isDirectoryAt location = tree.isDirectoryAt location := by
  rw [Bool.eq_iff_iff, isDirectoryAt_iff, isDirectoryAt_iff]
  constructor
  · rintro (hnil | ⟨directory, hmem, hprefix⟩ | ⟨file, hmem, habove⟩)
    · exact .inl hnil
    · obtain hmem | hmem := List.mem_append.mp hmem
      · exact .inr (.inl ⟨directory, hmem, hprefix⟩)
      · obtain ⟨file, hfile, rfl⟩ := List.mem_map.mp hmem
        refine (eq_nil_or_isPrefix_dropLast_iff.mp (.inr hprefix)).imp_right fun habove => ?_
        exact .inr ⟨file, (List.mem_filter.mp hfile).1, habove⟩
    · exact .inr (.inr ⟨file, (List.mem_filter.mp hmem).1, habove⟩)
  · rintro (hnil | ⟨directory, hmem, hprefix⟩ | ⟨file, hmem, habove⟩)
    · exact .inl hnil
    · exact .inr (.inl ⟨directory, List.mem_append_left _ hmem, hprefix⟩)
    · cases hgone : gone file.1 with
      | false => exact .inr (.inr ⟨file, List.mem_filter.mpr ⟨hmem, by simp [hgone]⟩, habove⟩)
      | true =>
        refine (eq_nil_or_isPrefix_dropLast_iff.mpr (.inr habove)).imp_right fun hprefix => ?_
        have hmem' : file.1.dropLast ∈ (tree.without gone).directories :=
          List.mem_append_right _ (List.mem_map.mpr ⟨file, List.mem_filter.mpr ⟨hmem, hgone⟩, rfl⟩)
        exact .inl ⟨_, hmem', hprefix⟩

/-- What comes of following names, without the reason why they lead to nothing. -/
def targetOf : Except FileError Location → Except FileError (Option Location)
  | .ok location => .ok (some location)
  | .error error => if error.isAbsence then .ok none else .error error

/-- The location that names lead to, if they lead anywhere. -/
def target? (tree : FileTree) (here : Location) (names : List String) : Except FileError (Option Location) :=
  targetOf (tree.follow here names)

theorem target?_cons (name : String) (rest : List String) :
    tree.target? here (name :: rest) =
      if tree.isDirectoryAt here then
        match tree.closed.lookup here with
        | some error => targetOf (.error error)
        | none =>
          if name = ".." then tree.target? here.dropLast rest
          else if longestName < name.utf8ByteSize then .error .nameTooLong
          else tree.target? (here ++ [name]) rest
      else .ok none := by
  rw [target?, follow, apply_ite targetOf]
  refine ite_congr rfl (fun _ => ?_) fun _ => ?_
  · cases tree.closed.lookup here with
    | some error => rfl
    | none =>
      dsimp only
      rw [apply_ite targetOf, apply_ite targetOf]
      rfl
  · rw [apply_ite targetOf]
    exact ite_self _

/-- A test for a file fails for a path that is too long, and otherwise comes to what following the path
    comes to. -/
theorem isFile_eq (path : Path) :
    tree.isFile here path =
      if path.isTooLong then .error .nameTooLong
      else (tree.target? (path.start here) path.names).map fun target => target.any tree.isFileAt := by
  rw [isFile, reach]
  cases path.isTooLong with
  | true => rfl
  | false =>
    rw [if_neg Bool.false_ne_true, if_neg Bool.false_ne_true, target?]
    cases tree.follow (path.start here) path.names with
    | ok location => rfl
    | error error =>
      rw [targetOf]
      cases herror : error.isAbsence <;> simp [herror, Except.map]

/-- A path that leads somewhere leads where climbing its names leads. -/
theorem eq_climb_of_target {names : List String} (h : tree.target? here names = .ok (some location)) :
    location = Path.climb here names := by
  rw [target?] at h
  cases hfollow : tree.follow here names with
  | ok target =>
    rw [hfollow] at h
    cases h
    exact eq_climb_of_follow hfollow
  | error error =>
    rw [hfollow, targetOf] at h
    split at h <;> cases h

/-- Names lead where they led before. What stands in the way may be another thing. -/
theorem target?_without (names : List String) :
    (tree.without gone).target? here names = tree.target? here names := by
  induction names generalizing here with
  | nil => rfl
  | cons name rest ih =>
    rw [target?_cons, target?_cons, isDirectoryAt_without, ih, ih]
    rfl

/-- A path leads to a file if it did so before and the file is not taken away. -/
theorem isFile_without (path : Path) :
    (tree.without gone).isFile here path =
      (tree.isFile here path).map fun found => found && !gone (path.locate here) := by
  rw [isFile_eq, isFile_eq, target?_without]
  split
  · rfl
  cases htarget : tree.target? (path.start here) path.names with
  | error => rfl
  | ok target =>
    cases target with
    | none => rfl
    | some location =>
      rw [Path.locate, ← eq_climb_of_target htarget]
      exact congrArg Except.ok isFileAt_without

end FileTree

end MarkTree.Files
