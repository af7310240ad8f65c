import MarkTree.Proofs.Config.Discovery
import MarkTree.Proofs.Result

namespace MarkTree.Config

open MarkTree.Files

/-- Looking for a configuration at the path may fail without a report. -/
inductive Surroundings.Breaks (surroundings : Surroundings) (path : Path) : Prop where
  | overlong (hpath : path.isTooLong = true)
  | blocked {error : FileError} (hpresent : error.isAbsence = false)
      (hblocks : surroundings.files.Blocks (path.start surroundings.here) path.names error)
  | decoder {kindName : String} (hfile : isFile surroundings path = .ok true)
      (hdecode : surroundings.decode (path.locate surroundings.here) = .broken kindName)
  | project (hfile : isFile surroundings path = .ok true)
      (hname : Text.lower path.name.toList = projectName.toList)
      (hunusual : ¬ (surroundings.decode (path.locate surroundings.here)).IsUsual)

/-- What the decoder makes of a project file is not what is expected of one, so looking into it fails. -/
inductive Decoded.Misleads : Decoded → Failure → Prop where
  | broken (kindName : String) : Misleads (.broken kindName) (.decoder kindName)
  | shape {value : Datum} (hunusual : ¬ (Decoded.value value).IsUsual) :
      Misleads (.value value) (.fault .notRecord)

/-- Discovery does not get beyond the place: the way to it has an error that leaves open what is there, or
    it is a project file that is not like the usual ones. -/
inductive Surroundings.Stops (surroundings : Surroundings) : Candidate → Failure → Prop where
  | unreachable {candidate : Candidate} {error : FileError}
      (hpath : surroundings.files.reach surroundings.here candidate.path = .error error)
      (hpresent : error.isAbsence = false) : Stops surroundings candidate (.file error)
  | project {location : Location} {failure : Failure}
      (hfile : isFile surroundings (.ofLocation location) = .ok true)
      (hdecoded : (surroundings.decodedAt (.project location)).Misleads failure) :
      Stops surroundings (.project location) failure

variable {surroundings : Surroundings} {path : Path} {failure : Failure}

/-- Looking for a file fails where the way to it has an error that leaves open what is there. -/
theorem isFile_eq_error_iff :
    isFile surroundings path = .error failure ↔
      ∃ error, surroundings.files.reach surroundings.here path = .error error ∧
        error.isAbsence = false ∧ failure = .file error := by
  rw [isFile, FileTree.isFile]
  constructor
  · intro h
    cases hreach : surroundings.files.reach surroundings.here path with
    | ok location =>
      rw [hreach] at h
      cases h
    | error error =>
      rw [hreach] at h
      dsimp only at h
      cases hpresent : error.isAbsence <;> rw [hpresent] at h <;> cases h
      exact ⟨error, rfl, hpresent, rfl⟩
  · rintro ⟨error, hreach, hpresent, rfl⟩
    rw [hreach]
    dsimp only
    rw [hpresent]
    rfl

/-- A path that cannot be looked for stops loading, whatever stands at it. -/
theorem breaks_of_isFile (hfile : isFile surroundings path = .error failure) :
    surroundings.Breaks path := by
  obtain ⟨error, hreach, hpresent, -⟩ := isFile_eq_error_iff.mp hfile
  rw [FileTree.reach] at hreach
  split at hreach
  · rename_i hlong
    exact .overlong hlong
  · obtain habsence | hblocks := FileTree.blocks_of_follow hreach
    · cases hpresent.symm.trans habsence
    · exact .blocked hpresent hblocks

variable {candidate : Candidate} {home start : Location}

/-- A content is usual just if there is no failure that it leads to. -/
theorem isUsual_iff_forall_not_misleads {decoded : Decoded} :
    decoded.IsUsual ↔ ∀ failure, ¬ decoded.Misleads failure := by
  constructor
  · rintro husual _ (_ | hunusual)
    · exact husual
    · exact hunusual husual
  · intro hnone
    cases decoded with
    | value value => exact Classical.not_not.mp fun hunusual => hnone _ (.shape hunusual)
    | malformed | unreadable => trivial
    | broken kindName => exact hnone _ (.broken kindName)

/-- An unusual content is never reported. -/
theorem Decoded.Misleads.ne_reported {decoded : Decoded} (h : decoded.Misleads failure)
    (report : Report) : failure ≠ .reported report := by
  cases h <;> exact nofun

/-- In a value that is not like a usual project file no table can be looked up. -/
theorem tableIn_of_unusual {value : Datum} (hunusual : ¬ (Decoded.value value).IsUsual) :
    (tableIn "tool" value >>= tableIn "mdnorm") = .error (.fault .notRecord) := by
  cases value with
  | dict entries =>
    obtain ⟨tool, hunusual⟩ := Classical.not_forall.mp hunusual
    obtain ⟨htool, hother⟩ := Classical.not_imp.mp hunusual
    rw [tableIn_dict, htool]
    cases tool with
    | dict tools => exact absurd ⟨tools, rfl⟩ hother
    | _ => rfl
  | _ => rfl

/-- An unusual content leads to its failure when the table is looked for. -/
theorem projectTable_of_misleads
    (hdecoded : (surroundings.decode (path.locate surroundings.here)).Misleads failure) :
    projectTable surroundings path = .error failure := by
  generalize hdecode : surroundings.decode (path.locate surroundings.here) = decoded at hdecoded
  cases hdecoded with
  | broken kindName =>
    rw [projectTable, readValue, hdecode]
    rfl
  | @shape value hunusual =>
    have hread : readValue surroundings .toml path = .ok value := by
      rw [readValue, hdecode]
      rfl
    refine bind_eq_error_iff.mpr (.inr ⟨value, hread, ?_⟩)
    obtain htool | ⟨tools, htool, htable⟩ := bind_eq_error_iff.mp (tableIn_of_unusual hunusual)
    · exact bind_eq_error_iff.mpr (.inl htool)
    · exact bind_eq_error_iff.mpr (.inr ⟨tools, htool, bind_eq_error_iff.mpr (.inl htable)⟩)

/-- An unusual content leads to the same failure when the table is only asked about. -/
theorem hasProjectTable_of_misleads {location : Location}
    (hdecoded : (surroundings.decodedAt (.project location)).Misleads failure) :
    hasProjectTable surroundings location = .error failure := by
  have htable : projectTable surroundings (.ofLocation location) = .error failure :=
    projectTable_of_misleads hdecoded
  have hreported (report : Report) : failure ≠ .reported report := hdecoded.ne_reported report
  rw [hasProjectTable, htable]
  cases failure with
  | reported report => exact absurd rfl (hreported report)
  | _ => rfl

/-- The test of a place fails where discovery stops, and nowhere else. -/
theorem test?_eq_error_iff :
    test? surroundings candidate = .error failure ↔ surroundings.Stops candidate failure := by
  constructor
  · intro h
    obtain hfile | ⟨found, hfile, h⟩ := bind_eq_error_iff.mp h
    · obtain ⟨error, hpath, hpresent, rfl⟩ := isFile_eq_error_iff.mp hfile
      exact .unreachable hpath hpresent
    cases found with
    | false => cases h
    | true =>
      cases candidate with
      | dedicated location => cases h
      | project location =>
        have h : hasProjectTable surroundings location = .error failure := h
        by_cases husual : (surroundings.decodedAt (.project location)).IsUsual
        · obtain ⟨has, hhas, -⟩ := hasProjectTable_of_isUsual husual
          cases h.symm.trans hhas
        · obtain ⟨other, hother⟩ := Classical.not_forall.mp (mt isUsual_iff_forall_not_misleads.mpr husual)
          have hmisleads := Classical.not_not.mp hother
          cases h.symm.trans (hasProjectTable_of_misleads hmisleads)
          exact .project hfile hmisleads
  · rintro (⟨hpath, hpresent⟩ | ⟨hfile, hdecoded⟩)
    · exact bind_eq_error_iff.mpr (.inl (isFile_eq_error_iff.mpr ⟨_, hpath, hpresent, rfl⟩))
    · exact bind_eq_error_iff.mpr (.inr ⟨true, hfile, hasProjectTable_of_misleads hdecoded⟩)

/-- If the test of a place says something, it says whether the place applies. -/
theorem applies_iff_of_test {applies : Bool} (h : test? surroundings candidate = .ok applies) :
    applies = true ↔ surroundings.Applies candidate := by
  obtain ⟨found, hfile, -⟩ := bind_eq_ok_iff.mp h
  have husual : ∀ location, candidate = .project location →
      isFile surroundings candidate.path = .ok true → (surroundings.decodedAt candidate).IsUsual := by
    rintro location rfl hfile
    refine isUsual_iff_forall_not_misleads.mpr fun failure hmisleads => ?_
    cases h.symm.trans (test?_eq_error_iff.mpr (.project hfile hmisleads))
  obtain ⟨other, hother, hiff⟩ := test?_of_isUsual hfile husual
  cases h.symm.trans hother
  exact hiff

/-- Discovery goes on beyond a place just where it neither applies nor stops discovery. -/
theorem test?_eq_false_iff :
    test? surroundings candidate = .ok false ↔
      ¬ surroundings.Applies candidate ∧ ∀ failure, ¬ surroundings.Stops candidate failure := by
  constructor
  · intro h
    refine ⟨fun happlies => ?_, fun failure hstops => ?_⟩
    · cases (applies_iff_of_test h).mpr happlies
    · cases h.symm.trans (test?_eq_error_iff.mpr hstops)
  · rintro ⟨hnot, hpasses⟩
    cases htest : test? surroundings candidate with
    | error failure => exact absurd (test?_eq_error_iff.mp htest) (hpasses failure)
    | ok applies =>
      cases applies with
      | false => rfl
      | true => exact absurd ((applies_iff_of_test htest).mp rfl) hnot

/-- What stops discovery is never reported. -/
theorem Surroundings.Stops.ne_reported (h : surroundings.Stops candidate failure) (report : Report) :
    failure ≠ .reported report := by
  cases h with
  | unreachable => exact nofun
  | project _ hdecoded => exact hdecoded.ne_reported report

/-- A place where discovery stops has a path that breaks. -/
theorem Surroundings.Stops.breaks (h : surroundings.Stops candidate failure)
    (hmem : candidate ∈ Candidate.all home start) : surroundings.Breaks candidate.path := by
  cases h with
  | unreachable hpath hpresent => exact breaks_of_isFile (isFile_eq_error_iff.mpr ⟨_, hpath, hpresent, rfl⟩)
  | project hfile hdecoded =>
    obtain ⟨directory, heq | ⟨name, -, heq⟩⟩ := exists_name_of_mem_all hmem
    · refine .project hfile ?_ fun husual => isUsual_iff_forall_not_misleads.mp husual failure hdecoded
      rw [heq, Candidate.path, Candidate.location, name_ofLocation]
      decide
    · cases heq

/-- A row of places fails at the first place with a test that does not say no. -/
theorem firstOf_eq_error_iff {candidates : List Candidate} :
    firstOf surroundings candidates = .error failure ↔
      ∃ front candidate rest, candidates = front ++ candidate :: rest ∧
        (∀ earlier ∈ front, test? surroundings earlier = .ok false) ∧
          test? surroundings candidate = .error failure := by
  constructor
  · intro h
    induction candidates with
    | nil => cases h
    | cons candidate rest ih =>
      obtain htest | ⟨applies, htest, h⟩ := bind_eq_error_iff.mp h
      · exact ⟨[], candidate, rest, rfl, nofun, htest⟩
      cases applies with
      | true => cases h
      | false =>
        obtain ⟨front, last, behind, rfl, hfront, hlast⟩ := ih h
        exact ⟨candidate :: front, last, behind, rfl, List.forall_mem_cons.mpr ⟨htest, hfront⟩, hlast⟩
  · rintro ⟨front, candidate, rest, rfl, hfront, hlast⟩
    rw [firstOf_append, firstOf_eq_none hfront]
    change firstOf surroundings (candidate :: rest) = .error failure
    exact bind_eq_error_iff.mpr (.inl hlast)

end MarkTree.Config
