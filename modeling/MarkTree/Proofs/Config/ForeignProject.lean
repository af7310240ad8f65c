import MarkTree.Proofs.Config.Failing
import MarkTree.Proofs.Files.Without

namespace MarkTree.Config

open MarkTree.Files

namespace Surroundings

/-- The place is that of a project file that has no table for this program. -/
structure IsIdle (surroundings : Surroundings) (location : Location) : Prop where
  isProject : location.getLast? = some projectName
  ownless : ∀ own, ¬ (surroundings.decode location).HasOwnTable own

/-- The surroundings without these files. -/
def without (surroundings : Surroundings) (gone : Location → Bool) : Surroundings :=
  { surroundings with files := surroundings.files.without gone }

end Surroundings

section Without

variable {surroundings : Surroundings} {candidate : Candidate} {home start : Location}
  {gone : Location → Bool}

/-- Where files have been taken away, a path leads to a file if it did and the file is still there. -/
theorem isFile_without (path : Path) :
    isFile (surroundings.without gone) path =
      (isFile surroundings path).map fun found => found && !gone (path.locate surroundings.here) := by
  have hfiles : (surroundings.without gone).files.isFile surroundings.here path =
      (surroundings.files.isFile surroundings.here path).map
        fun found => found && !gone (path.locate surroundings.here) := FileTree.isFile_without path
  have hhere : (surroundings.without gone).here = surroundings.here := rfl
  rw [isFile, isFile, hhere, hfiles]
  cases surroundings.files.isFile surroundings.here path <;> rfl

/-- A place that stays is as it was. -/
theorem agrees_without (hstays : gone (candidate.path.locate surroundings.here) = false) :
    surroundings.Agrees (surroundings.without gone) candidate where
  isFile := by
    rw [isFile_without, hstays]
    cases isFile surroundings candidate.path <;> simp [Except.map]
  decoded _ _ _ := rfl

/-- A place of a file that is taken away, and that had no table for this program, did not apply. -/
theorem not_applies_of_isIdle (hmem : candidate ∈ Candidate.all home start)
    (hidle : surroundings.IsIdle (candidate.path.locate surroundings.here)) :
    ¬ surroundings.Applies candidate := by
  intro happlies
  obtain ⟨directory, rfl | ⟨name, hname, rfl⟩⟩ := exists_name_of_mem_all hmem
  · obtain ⟨own, howns⟩ := happlies.own _ rfl
    exact hidle.ownless own howns
  · have hnames : ∀ name ∈ fileNames, name ≠ ".." ∧ name ≠ projectName := by decide
    obtain ⟨hup, hother⟩ := hnames name hname
    have hpath : (Candidate.dedicated (directory ++ [name])).path.names = directory ++ [name] := rfl
    have hproject := hidle.isProject
    rw [Path.locate_concat hpath hup, List.getLast?_concat] at hproject
    exact hother (Option.some.inj hproject)

variable (hgone : ∀ location, gone location = true → surroundings.IsIdle location)
include hgone

/-- The test of a place says the same without the files, if it says anything. -/
theorem test?_without {applies : Bool} (hmem : candidate ∈ Candidate.all home start)
    (h : test? surroundings candidate = .ok applies) :
    test? (surroundings.without gone) candidate = .ok applies := by
  cases hplace : gone (candidate.path.locate surroundings.here) with
  | false => rw [(agrees_without hplace).test?_eq, h]
  | true =>
    have hnot := not_applies_of_isIdle hmem (hgone _ hplace)
    obtain rfl : applies = false := Bool.eq_false_iff.mpr (mt (applies_iff_of_test h).mp hnot)
    obtain ⟨found, hfile, -⟩ := bind_eq_ok_iff.mp h
    refine bind_eq_ok_iff.mpr ⟨false, ?_, rfl⟩
    rw [isFile_without, hfile, hplace]
    exact congrArg Except.ok (Bool.and_false _)

/-- What was found is found again without the files that have no say. -/
theorem firstOf_without {candidates : List Candidate} {found : Option Location}
    (hsub : ∀ candidate ∈ candidates, candidate ∈ Candidate.all home start)
    (h : firstOf surroundings candidates = .ok found) :
    firstOf (surroundings.without gone) candidates = .ok found := by
  induction candidates with
  | nil => exact h
  | cons candidate rest ih =>
    obtain ⟨hmem, hrest⟩ := List.forall_mem_cons.mp hsub
    obtain ⟨applies, htest, h⟩ := bind_eq_ok_iff.mp h
    refine bind_eq_ok_iff.mpr ⟨applies, test?_without hgone hmem htest, ?_⟩
    cases applies with
    | true => exact h
    | false => exact ih hrest h

end Without

/-- Discovery fails just where it comes to a place that stops it, before any place applies. If it does
    not fail, project files without a table for this program make no difference to what it finds. -/
theorem discover_passes (surroundings : Surroundings) (start : Location) :
    (∀ failure, discover surroundings start = .error failure ↔
      ∃ front candidate rest, Candidate.all surroundings.home start = front ++ candidate :: rest ∧
        (∀ earlier ∈ front,
          ¬ surroundings.Applies earlier ∧ ∀ other, ¬ surroundings.Stops earlier other) ∧
          surroundings.Stops candidate failure) ∧
      ∀ gone : Location → Bool, (∀ location, gone location = true → surroundings.IsIdle location) →
        ∀ found, discover surroundings start = .ok found →
          discover (surroundings.without gone) start = .ok found := by
  constructor
  · intro failure
    simp only [discover_eq, firstOf_eq_error_iff, test?_eq_false_iff, test?_eq_error_iff]
  · intro gone hgone found hfound
    rw [discover_eq] at hfound ⊢
    exact firstOf_without hgone (fun _ => id) hfound

/-- The broken project file in the directory itself does not keep the one above from being found. -/
theorem discover_passes_nestedProject :
    discover (nestedProject.without (· = ["site", "docs", "pyproject.toml"])) ["site", "docs"] =
      .ok (some ["site", "pyproject.toml"]) := by
  refine (discover_passes nestedProject ["site", "docs"]).2 _ (fun location hgone => ?_) _ (by rfl)
  obtain rfl : location = ["site", "docs", "pyproject.toml"] := of_decide_eq_true hgone
  exact ⟨rfl, fun own ⟨_, _, hdecode, _⟩ => nomatch hdecode⟩

/-- A project file that holds a number for its tools. -/
def numberedProject : Surroundings where
  files := { directories := [], files := [(["work", "pyproject.toml"], .text "tool = 1")] }
  here := []
  home := ["home"]
  decode _ := .value (.record [("tool", .int 1)])

/-- Such a file has no table for this program, but it is not passed over as if it were not there. -/
theorem discover_numberedProject :
    numberedProject.IsIdle ["work", "pyproject.toml"] ∧
      discover numberedProject ["work"] = .error (.fault .notRecord) ∧
        discover (numberedProject.without (· = ["work", "pyproject.toml"])) ["work"] = .ok none := by
  refine ⟨⟨rfl, ?_⟩, by rfl, by rfl⟩
  rintro own ⟨entries, tools, hdecode, htool, -⟩
  cases hdecode
  cases htool

end MarkTree.Config
