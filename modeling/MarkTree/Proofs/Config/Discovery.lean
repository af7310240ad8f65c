import MarkTree.Config.Discovery
import MarkTree.Proofs.Files.Following

namespace MarkTree.Config

open MarkTree.Files

/-- A place where a configuration file may be. -/
inductive Candidate where
  /-- A file for this program. -/
  | dedicated (location : Location)
  /-- A project file, which may have a table for this program. -/
  | project (location : Location)
deriving DecidableEq

namespace Candidate

def location : Candidate → Location
  | .dedicated location => location
  | .project location => location

def path (candidate : Candidate) : Path :=
  .ofLocation candidate.location

def dedicatedIn (directory : Location) : List Candidate :=
  fileNames.map fun name => .dedicated (directory ++ [name])

/-- The places in a directory, the preferred one first. -/
def inDirectory (directory : Location) : List Candidate :=
  dedicatedIn directory ++ [.project (directory ++ [projectName])]

/-- All places for a directory: its own, those of the directories above it, and the home directory. -/
def all (home start : Location) : List Candidate :=
  start.ancestors.flatMap inDirectory ++ dedicatedIn home

end Candidate

/-- The decoded project file has this table for this program, and it is not empty. -/
def Decoded.HasOwnTable (decoded : Decoded) (own : Entries) : Prop :=
  ∃ entries tools, decoded = .value (.dict entries) ∧
    Entries.get? "tool" entries = some (.dict tools) ∧
      Entries.get? "mdnorm" tools = some (.dict own) ∧ own ≠ []

/-- The project file is a dictionary with nothing but a dictionary for tools, or it cannot be read or
    decoded. -/
def Decoded.IsUsual : Decoded → Prop
  | .value (.dict entries) =>
    ∀ tool, Entries.get? "tool" entries = some tool → ∃ tools, tool = .dict tools
  | .malformed .. | .unreadable _ => True
  | .value _ | .broken _ => False

namespace Surroundings

/-- What the decoder makes of the file at a place. -/
def decodedAt (surroundings : Surroundings) (candidate : Candidate) : Decoded :=
  surroundings.decode (candidate.path.locate surroundings.here)

/-- There is a file at the place and, if it is a project file, it has a table for this program. -/
structure Applies (surroundings : Surroundings) (candidate : Candidate) : Prop where
  exists_file : isFile surroundings candidate.path = .ok true
  own : ∀ location, candidate = .project location →
    ∃ own, (surroundings.decodedAt candidate).HasOwnTable own

/-- Nothing about the place is different in the other surroundings. -/
structure Agrees (surroundings other : Surroundings) (candidate : Candidate) : Prop where
  isFile : isFile other candidate.path = isFile surroundings candidate.path
  decoded : ∀ location, candidate = .project location →
    Config.isFile surroundings candidate.path = .ok true →
      other.decodedAt candidate = surroundings.decodedAt candidate

/-- What loading the file at the place comes to: the table for this program, or what its decoder makes
    of the file. -/
def Loads (surroundings : Surroundings) (candidate : Candidate) : Prop :=
  match candidate with
  | .project _ => ∃ own, own ≠ [] ∧ (surroundings.decodedAt candidate).HasOwnTable own ∧
      load surroundings candidate.path = .ok own
  | .dedicated _ => load surroundings candidate.path ≠ .error (missingFile candidate.path) ∧
      load surroundings candidate.path ≠ .error (unsupportedFormat candidate.path)

end Surroundings

/-- There is a file at the place that applies. -/
def test? (surroundings : Surroundings) (candidate : Candidate) : Except Failure Bool := do
  if ← isFile surroundings candidate.path then
    match candidate with
    | .dedicated _ => return true
    | .project location => hasProjectTable surroundings location
  else return false

/-- The first place with a file that applies. -/
def firstOf (surroundings : Surroundings) : List Candidate → Except Failure (Option Location)
  | [] => .ok none
  | candidate :: rest => do
    if ← test? surroundings candidate then return some candidate.location
    else firstOf surroundings rest

variable {surroundings : Surroundings}

theorem firstOf_append (front back : List Candidate) :
    firstOf surroundings (front ++ back) =
      (firstOf surroundings front).bind fun found =>
        match found with
        | some location => .ok (some location)
        | none => firstOf surroundings back := by
  induction front with
  | nil => rfl
  | cons candidate front ih =>
    rw [List.cons_append, firstOf, firstOf, ih]
    cases test? surroundings candidate with
    | error failure => rfl
    | ok applies => cases applies <;> rfl

/-- Looking for one of several files in a directory is going through them as candidates. -/
theorem firstFile?_eq (directory : Location) (names : List String) :
    firstFile? surroundings directory names =
      firstOf surroundings (names.map fun name => .dedicated (directory ++ [name])) := by
  induction names with
  | nil => rfl
  | cons name names ih =>
    rw [firstFile?, List.map_cons, firstOf, test?, ih, Candidate.path, Candidate.location]
    cases isFile surroundings (.ofLocation (directory ++ [name])) with
    | error failure => rfl
    | ok found => cases found <;> rfl

theorem inDirectory?_eq (directory : Location) :
    inDirectory? surroundings directory =
      firstOf surroundings (Candidate.inDirectory directory) := by
  rw [inDirectory?, Candidate.inDirectory, firstOf_append, firstFile?_eq]
  refine bind_congr fun found => ?_
  cases found with
  | some location => rfl
  | none =>
    simp only [firstOf, test?, Candidate.path, Candidate.location]
    cases isFile surroundings (.ofLocation (directory ++ [projectName])) with
    | error failure => rfl
    | ok found =>
      cases found with
      | false => rfl
      | true =>
        cases hasProjectTable surroundings (directory ++ [projectName]) with
        | error failure => rfl
        | ok own => cases own <;> rfl

/-- The directories upwards are searched through the candidates of all of them in one row. -/
theorem nearest?_eq (directories : List Location) :
    nearest? surroundings directories =
      firstOf surroundings (directories.flatMap Candidate.inDirectory) := by
  induction directories with
  | nil => rfl
  | cons directory rest ih =>
    rw [nearest?, List.flatMap_cons, firstOf_append, inDirectory?_eq, ih]
    refine bind_congr fun found => ?_
    cases found <;> rfl

/-- Discovery goes through the whole row. -/
theorem discover_eq (start : Location) :
    discover surroundings start =
      firstOf surroundings (Candidate.all surroundings.home start) := by
  rw [discover, Candidate.all, firstOf_append, nearest?_eq, firstFile?_eq]
  refine bind_congr fun found => ?_
  cases found <;> rfl

theorem tableIn_dict (name : String) (entries : Entries) :
    tableIn name (.dict entries) = .ok ((Entries.get? name entries).getD (.dict [])) := rfl

/-- The table of a project file that is a dictionary. -/
theorem projectTable_of_dict {path : Path} {entries tools : Entries}
    (hdecode : surroundings.decode (path.locate surroundings.here) = .value (.dict entries))
    (htools : (Entries.get? "tool" entries).getD (.dict []) = .dict tools) :
    projectTable surroundings path =
      requireEntries ((Entries.get? "mdnorm" tools).getD (.dict [])) "[tool.mdnorm]" path := by
  have hread : readValue surroundings .toml path = .ok (.dict entries) := by
    rw [readValue, hdecode]
    rfl
  calc projectTable surroundings path
      = (tableIn "tool" (.dict entries)).bind fun tools =>
          (tableIn "mdnorm" tools).bind fun table => requireEntries table "[tool.mdnorm]" path := by
        rw [projectTable, hread]
        rfl
    _ = (tableIn "mdnorm" (.dict tools)).bind fun table => requireEntries table "[tool.mdnorm]" path := by
        rw [tableIn_dict, htools]
        rfl
    _ = _ := rfl

/-- A table that is there is found. -/
theorem projectTable_of_hasOwnTable {path : Path} {own : Entries}
    (howns : (surroundings.decode (path.locate surroundings.here)).HasOwnTable own) :
    projectTable surroundings path = .ok own := by
  obtain ⟨entries, tools, hdecode, htool, hown, -⟩ := howns
  rw [projectTable_of_dict hdecode (by rw [htool, Option.getD_some]), hown]
  rfl

/-- A usual project file has the table that is found, or the search says what is wrong with it. -/
theorem projectTable_of_isUsual {path : Path}
    (husual : (surroundings.decode (path.locate surroundings.here)).IsUsual) :
    (∃ own, projectTable surroundings path = .ok own ∧ (own ≠ [] →
        (surroundings.decode (path.locate surroundings.here)).HasOwnTable own)) ∨
      ∃ report, projectTable surroundings path = .error (.reported report) := by
  cases hdecode : surroundings.decode (path.locate surroundings.here) with
  | malformed cause message =>
    exact .inr ⟨_, by rw [projectTable, readValue, hdecode]; rfl⟩
  | unreadable error => exact .inr ⟨_, by rw [projectTable, readValue, hdecode]; rfl⟩
  | broken kindName =>
    rw [hdecode] at husual
    cases husual
  | value value =>
    rw [hdecode] at husual
    cases value with
    | dict entries =>
      cases htool : Entries.get? "tool" entries with
      | none =>
        refine .inl ⟨[], ?_, fun hne => absurd rfl hne⟩
        have htools : (Entries.get? "tool" entries).getD (.dict []) = .dict [] := by
          rw [htool, Option.getD_none]
        rw [projectTable_of_dict hdecode htools]
        rfl
      | some tool =>
        obtain ⟨tools, rfl⟩ := husual tool htool
        rw [projectTable_of_dict hdecode (by rw [htool, Option.getD_some])]
        cases hown : Entries.get? "mdnorm" tools with
        | none => exact .inl ⟨[], rfl, fun hne => absurd rfl hne⟩
        | some table =>
          cases table with
          | dict own => exact .inl ⟨own, rfl, fun hne => ⟨entries, tools, rfl, htool, hown, hne⟩⟩
          | _ => exact .inr ⟨_, rfl⟩
    | _ => cases husual

/-- Whether a usual project file has a table is found out without a failure. -/
theorem hasProjectTable_of_isUsual {location : Location}
    (husual : (surroundings.decodedAt (.project location)).IsUsual) :
    ∃ has, hasProjectTable surroundings location = .ok has ∧
      (has = true ↔ ∃ own, (surroundings.decodedAt (.project location)).HasOwnTable own) := by
  obtain ⟨own, htable, howns⟩ | ⟨report, htable⟩ := projectTable_of_isUsual husual <;>
    rw [Candidate.path, Candidate.location] at htable <;> rw [hasProjectTable, htable]
  · refine ⟨!own.isEmpty, rfl, ?_, ?_⟩
    · intro hne
      exact ⟨own, howns (by simpa using hne)⟩
    · rintro ⟨own', howns'⟩
      have htable' := projectTable_of_hasOwnTable howns'
      obtain ⟨_, _, _, _, _, hne⟩ := howns'
      cases htable.symm.trans htable'
      simpa using hne
  · refine ⟨false, rfl, nofun, ?_⟩
    rintro ⟨own, howns⟩
    cases htable.symm.trans (projectTable_of_hasOwnTable howns)

/-- The test tells whether a place applies, if there is no failure in looking for the file and the
    project file is a usual one. -/
theorem test?_of_isUsual {candidate : Candidate} {found : Bool}
    (hfound : isFile surroundings candidate.path = .ok found)
    (husual : ∀ location, candidate = .project location →
      isFile surroundings candidate.path = .ok true → (surroundings.decodedAt candidate).IsUsual) :
    ∃ applies, test? surroundings candidate = .ok applies ∧
      (applies = true ↔ surroundings.Applies candidate) := by
  unfold test?
  rw [hfound]
  cases found with
  | false =>
    refine ⟨false, rfl, nofun, fun happlies => ?_⟩
    cases hfound.symm.trans happlies.exists_file
  | true =>
    cases candidate with
    | dedicated location => exact ⟨true, rfl, fun _ => ⟨hfound, nofun⟩, fun _ => rfl⟩
    | project location =>
      obtain ⟨has, hhas, howns⟩ := hasProjectTable_of_isUsual (husual location rfl hfound)
      refine ⟨has, hhas, ?_, ?_⟩
      · intro htrue
        exact ⟨hfound, fun _ _ => howns.mp htrue⟩
      · exact fun happlies => howns.mpr (happlies.own location rfl)

/-- The table of a project file depends on nothing but the content of the file. -/
theorem projectTable_congr {other : Surroundings} {path : Path}
    (hdecoded : other.decode (path.locate other.here) =
      surroundings.decode (path.locate surroundings.here)) :
    projectTable other path = projectTable surroundings path := by
  rw [projectTable, projectTable, readValue, readValue, hdecoded]

/-- The test of a place sees nothing but the place. -/
theorem Surroundings.Agrees.test?_eq {other : Surroundings} {candidate : Candidate}
    (hagrees : surroundings.Agrees other candidate) :
    test? other candidate = test? surroundings candidate := by
  unfold test?
  rw [hagrees.isFile]
  cases hfound : Config.isFile surroundings candidate.path with
  | error failure => rfl
  | ok found =>
    cases found with
    | false => rfl
    | true =>
      cases candidate with
      | dedicated location => rfl
      | project location =>
        have htable : projectTable other (.ofLocation location) =
            projectTable surroundings (.ofLocation location) :=
          projectTable_congr (hagrees.decoded location rfl hfound)
        simp only [hasProjectTable, htable]

/-- The first candidate that passes its test is the one that is found. -/
theorem firstOf_of_test {front rest : List Candidate} {candidate : Candidate}
    (hfront : ∀ earlier ∈ front, test? surroundings earlier = .ok false)
    (hcandidate : test? surroundings candidate = .ok true) :
    firstOf surroundings (front ++ candidate :: rest) = .ok (some candidate.location) := by
  induction front with
  | nil =>
    rw [List.nil_append, firstOf, hcandidate]
    rfl
  | cons earlier front ih =>
    obtain ⟨hearlier, hfront⟩ := List.forall_mem_cons.mp hfront
    rw [List.cons_append, firstOf, hearlier]
    exact ih hfront

/-- If no candidate passes its test, none is found. -/
theorem firstOf_eq_none {candidates : List Candidate}
    (hnone : ∀ candidate ∈ candidates, test? surroundings candidate = .ok false) :
    firstOf surroundings candidates = .ok none := by
  induction candidates with
  | nil => rfl
  | cons candidate candidates ih =>
    obtain ⟨hcandidate, hnone⟩ := List.forall_mem_cons.mp hnone
    rw [firstOf, hcandidate]
    exact ih hnone

/-- The last name of a location is the name of its path. -/
theorem name_ofLocation (directory : Location) (name : String) :
    (Path.ofLocation (directory ++ [name])).name = name := by
  simp [Path.name, Path.ofLocation]

/-- A project file gives the table that it has for this program. -/
theorem load_project {directory : Location} {own : Entries}
    (hfile : isFile surroundings (.ofLocation (directory ++ [projectName])) = .ok true)
    (htable : projectTable surroundings (.ofLocation (directory ++ [projectName])) = .ok own) :
    load surroundings (.ofLocation (directory ++ [projectName])) = .ok own := by
  have hlower : Text.lower projectName.toList = projectName.toList := by decide
  rw [load, hfile, name_ofLocation, hlower, beq_self_eq_true]
  exact htable

/-- A file of one of the dedicated names is read in the format of its ending. -/
theorem load_dedicated {directory : Location} {name : String} (hname : name ∈ fileNames)
    (hfile : isFile surroundings (.ofLocation (directory ++ [name])) = .ok true) :
    ∃ format, load surroundings (.ofLocation (directory ++ [name])) =
      (readValue surroundings format (.ofLocation (directory ++ [name]))).bind fun value =>
        requireEntries value "Configuration root" (.ofLocation (directory ++ [name])) := by
  have hformat : ∀ name ∈ fileNames, (Text.lower name.toList == projectName.toList) = false ∧
      (Format.ofSuffix? (String.ofList (Path.suffixOf name.toList))).isSome = true := by
    decide
  obtain ⟨hlower, hsome⟩ := hformat name hname
  obtain ⟨format, hsuffix⟩ := Option.isSome_iff_exists.mp hsome
  refine ⟨format, ?_⟩
  rw [load, hfile, Path.suffix, name_ofLocation, hlower, hsuffix]
  rfl

/-- What goes wrong with a dedicated file is said about its contents. -/
theorem read_ne_missing (format : Format) (path : Path) :
    ((readValue surroundings format path).bind fun value =>
        requireEntries value "Configuration root" path) ≠ .error (missingFile path) ∧
      ((readValue surroundings format path).bind fun value =>
        requireEntries value "Configuration root" path) ≠ .error (unsupportedFormat path) := by
  -- The reports without a cause tell themselves apart by their first letters.
  have hroot (value : Datum) (message : String)
      (hmessage : message.toList.take 15 ≠ "Configuration r".toList) :
      requireEntries value "Configuration root" path ≠ .error (configReport message path none) := by
    intro heq
    cases value with
    | dict entries => cases heq
    | _ =>
      rw [requireEntries, configReport, configReport] at heq
      · injection heq with heq
        injection heq with heq
        injection heq with heq
        rw [← heq] at hmessage
        simp at hmessage
      · exact nofun
  rw [readValue]
  cases surroundings.decode (path.locate surroundings.here) with
  | value value =>
    exact ⟨hroot _ _ (by simp), hroot _ _ (by simp)⟩
  | malformed cause message | unreadable error | broken kindName => exact ⟨nofun, nofun⟩

/-- Every candidate is a project file or carries one of the names of a configuration file. -/
theorem exists_name_of_mem_all {home start : Location} {candidate : Candidate}
    (hmem : candidate ∈ Candidate.all home start) :
    ∃ directory, candidate = .project (directory ++ [projectName]) ∨
      ∃ name ∈ fileNames, candidate = .dedicated (directory ++ [name]) := by
  have hdedicated {directory : Location} (hmem : candidate ∈ Candidate.dedicatedIn directory) :
      ∃ name ∈ fileNames, candidate = .dedicated (directory ++ [name]) := by
    obtain ⟨name, hname, rfl⟩ := List.mem_map.mp hmem
    exact ⟨name, hname, rfl⟩
  obtain habove | hhome := List.mem_append.mp hmem
  · obtain ⟨directory, -, hmem⟩ := List.mem_flatMap.mp habove
    obtain hmem | hproject := List.mem_append.mp hmem
    · exact ⟨directory, .inr (hdedicated hmem)⟩
    · exact ⟨directory, .inl (List.mem_singleton.mp hproject)⟩
  · exact ⟨home, .inr (hdedicated hhome)⟩

/-- What applies to a directory can be loaded. -/
theorem Surroundings.Applies.loads {home start : Location} {candidate : Candidate}
    (happlies : surroundings.Applies candidate) (hmem : candidate ∈ Candidate.all home start) :
    surroundings.Loads candidate := by
  obtain ⟨directory, rfl | ⟨name, hname, rfl⟩⟩ := exists_name_of_mem_all hmem
  · obtain ⟨own, howns⟩ := happlies.own _ rfl
    have htable := projectTable_of_hasOwnTable howns
    refine ⟨own, ?_, howns, load_project happlies.exists_file htable⟩
    obtain ⟨_, _, _, _, _, hne⟩ := howns
    exact hne
  · obtain ⟨format, hload⟩ := load_dedicated hname happlies.exists_file
    change load surroundings (.ofLocation (directory ++ [name])) ≠ _ ∧
      load surroundings (.ofLocation (directory ++ [name])) ≠ _
    rw [hload]
    exact read_ne_missing format _

/-- In every row some place is the first one of a kind, or none is. -/
theorem exists_first {α : Type} (p : α → Prop) (items : List α) :
    (∀ item ∈ items, ¬ p item) ∨
      ∃ front item rest, items = front ++ item :: rest ∧ (∀ earlier ∈ front, ¬ p earlier) ∧ p item := by
  induction items with
  | nil => exact .inl nofun
  | cons item items ih =>
    by_cases hitem : p item
    · exact .inr ⟨[], item, items, rfl, nofun, hitem⟩
    obtain hnone | ⟨front, found, rest, rfl, hfront, hfound⟩ := ih
    · exact .inl (List.forall_mem_cons.mpr ⟨hitem, hnone⟩)
    · exact .inr ⟨item :: front, found, rest, rfl, List.forall_mem_cons.mpr ⟨hitem, hfront⟩, hfound⟩

/-- Where every file can be looked for and project files are usual ones, the first place that applies is
    found, in the order of the row, and it can be loaded; nothing is found only if no place applies. Other
    surroundings that agree on the row as far as the place that is found lead to the same place, whatever
    stands behind it there. -/
theorem discover_first (surroundings : Surroundings) (start : Location)
    (hreach : ∀ candidate ∈ Candidate.all surroundings.home start,
      ∃ found, isFile surroundings candidate.path = .ok found)
    (husual : ∀ location, .project location ∈ Candidate.all surroundings.home start →
      isFile surroundings (.ofLocation location) = .ok true →
        (surroundings.decodedAt (.project location)).IsUsual) :
    ((∀ candidate ∈ Candidate.all surroundings.home start, ¬ surroundings.Applies candidate) ∧
        discover surroundings start = .ok none ∧
          ∀ other : Surroundings, other.home = surroundings.home →
            (∀ candidate ∈ Candidate.all surroundings.home start,
              surroundings.Agrees other candidate) →
              discover other start = .ok none) ∨
      ∃ front candidate rest,
        Candidate.all surroundings.home start = front ++ candidate :: rest ∧
          (∀ earlier ∈ front, ¬ surroundings.Applies earlier) ∧ surroundings.Applies candidate ∧
            discover surroundings start = .ok (some candidate.location) ∧
              surroundings.Loads candidate ∧
                ∀ (other : Surroundings) (behind : List Candidate),
                  Candidate.all other.home start = front ++ candidate :: behind →
                    (∀ seen ∈ front ++ [candidate], surroundings.Agrees other seen) →
                      discover other start = .ok (some candidate.location) := by
  have htest : ∀ candidate ∈ Candidate.all surroundings.home start,
      ∃ applies, test? surroundings candidate = .ok applies ∧
        (applies = true ↔ surroundings.Applies candidate) := by
    intro candidate hmem
    obtain ⟨found, hfound⟩ := hreach candidate hmem
    refine test?_of_isUsual hfound ?_
    rintro location rfl hfile
    exact husual location hmem hfile
  have hfalse : ∀ candidate ∈ Candidate.all surroundings.home start,
      ¬ surroundings.Applies candidate → test? surroundings candidate = .ok false := by
    intro candidate hmem hnot
    obtain ⟨applies, htest, happlies⟩ := htest candidate hmem
    rw [htest, Bool.eq_false_iff.mpr fun htrue => hnot (happlies.mp htrue)]
  obtain hnone | ⟨front, candidate, rest, hall, hfront, happlies⟩ :=
    exists_first surroundings.Applies (Candidate.all surroundings.home start)
  · have hother : ∀ other : Surroundings, other.home = surroundings.home →
        (∀ candidate ∈ Candidate.all surroundings.home start, surroundings.Agrees other candidate) →
          discover other start = .ok none := by
      intro other hhome hagrees
      rw [discover_eq, hhome]
      refine firstOf_eq_none fun candidate hmem => ?_
      rw [(hagrees candidate hmem).test?_eq]
      exact hfalse candidate hmem (hnone candidate hmem)
    exact .inl ⟨hnone, hother surroundings rfl fun _ _ => ⟨rfl, fun _ _ _ => rfl⟩, hother⟩
  · have hother : ∀ (other : Surroundings) (behind : List Candidate),
        Candidate.all other.home start = front ++ candidate :: behind →
          (∀ seen ∈ front ++ [candidate], surroundings.Agrees other seen) →
            discover other start = .ok (some candidate.location) := by
      intro other behind hrow hagrees
      obtain ⟨hseen, hlast⟩ := List.forall_mem_append.mp hagrees
      rw [discover_eq, hrow]
      refine firstOf_of_test (fun earlier hmem => ?_) ?_
      · rw [(hseen earlier hmem).test?_eq]
        exact hfalse earlier (hall ▸ List.mem_append_left _ hmem) (hfront earlier hmem)
      · have hmem : candidate ∈ Candidate.all surroundings.home start := by simp [hall]
        obtain ⟨applies, htest, happlies'⟩ := htest candidate hmem
        rw [(hlast candidate List.mem_cons_self).test?_eq, htest, happlies'.mpr happlies]
    refine .inr ⟨front, candidate, rest, hall, hfront, happlies, ?_, ?_, hother⟩
    · exact hother surroundings rest hall fun _ _ => ⟨rfl, fun _ _ _ => rfl⟩
    · have hmem : candidate ∈ Candidate.all surroundings.home start := by simp [hall]
      exact happlies.loads hmem

/-- A file can be looked for wherever the path and the names in it are not too long and no directory is
    closed. -/
theorem exists_isFile {path : Path} (hpath : path.isTooLong = false)
    (hnames : ∀ name ∈ path.names, name.utf8ByteSize ≤ FileTree.longestName)
    (hopen : surroundings.files.closed = []) : ∃ found, isFile surroundings path = .ok found := by
  rw [isFile, FileTree.isFile, FileTree.reach, hpath, if_neg Bool.false_ne_true]
  cases hfollow : surroundings.files.follow (path.start surroundings.here) path.names with
  | ok location => exact ⟨_, rfl⟩
  | error error =>
    have habsent : error.isAbsence = true :=
      (FileTree.blocks_of_follow hfollow).resolve_right (FileTree.not_blocks hnames hopen)
    dsimp only
    rw [if_pos habsent]
    exact ⟨false, rfl⟩

/-- A project with a table for this program, a broken project file in one of its directories, and a
    configuration at home. -/
def nestedProject : Surroundings where
  files :=
    { directories := []
      files := [(["site", "pyproject.toml"], .text "gfm"), (["site", "docs", "pyproject.toml"], .text "["),
        (["home", ".mdnorm.json"], .text "")] }
  here := []
  home := ["home"]
  decode location :=
    if location = ["site", "pyproject.toml"] then
      .value (.record [("tool", .record [("mdnorm", .record [("gfm", .bool false)])])])
    else .malformed .badToml "Expected a key"

theorem discover_first_nestedProject :
    ∃ front candidate rest,
      Candidate.all nestedProject.home ["site", "docs"] = front ++ candidate :: rest ∧
        candidate.location = ["site", "pyproject.toml"] ∧ nestedProject.Loads candidate ∧
          ∀ (other : Surroundings) (behind : List Candidate),
            Candidate.all other.home ["site", "docs"] = front ++ candidate :: behind →
              (∀ seen ∈ front ++ [candidate], nestedProject.Agrees other seen) →
                discover other ["site", "docs"] = .ok (some candidate.location) := by
  have hfits : ∀ candidate ∈ Candidate.all nestedProject.home ["site", "docs"],
      candidate.path.isTooLong = false ∧
        ∀ name ∈ candidate.path.names, name.utf8ByteSize ≤ FileTree.longestName := by
    decide +kernel
  have husual : ∀ location, .project location ∈ Candidate.all nestedProject.home ["site", "docs"] →
      isFile nestedProject (.ofLocation location) = .ok true →
        (nestedProject.decodedAt (.project location)).IsUsual := by
    intro location _ _
    rw [Surroundings.decodedAt, nestedProject]
    dsimp only
    split
    · intro tool htool
      cases htool
      exact ⟨_, rfl⟩
    · trivial
  have hfound : discover nestedProject ["site", "docs"] = .ok (some ["site", "pyproject.toml"]) := by
    rfl
  obtain ⟨-, hnone, -⟩ | ⟨front, candidate, rest, hall, -, -, hdiscover, hloads, hother⟩ :=
    discover_first nestedProject ["site", "docs"]
      (fun candidate hmem => exists_isFile (hfits candidate hmem).1 (hfits candidate hmem).2 rfl) husual
  · rw [hfound] at hnone
    cases hnone
  · rw [hfound] at hdiscover
    injection hdiscover with hdiscover
    injection hdiscover with hdiscover
    exact ⟨front, candidate, rest, hall, hdiscover.symm, hloads, hother⟩

/-- The first place for a directory is in the directory itself. -/
theorem exists_all_eq (home start : Location) :
    ∃ rest, Candidate.all home start = .dedicated (start ++ [".mdnorm.toml"]) :: rest := by
  have hfirst : start.ancestors =
      start :: (List.range start.length).reverse.map fun count => start.take count := by
    simp [Location.ancestors, List.range_succ]
  rw [Candidate.all, hfirst]
  exact ⟨_, rfl⟩

/-- A directory with a path that is nearly as long as any path can be. -/
def deepDirectory : Location :=
  List.replicate 16 (String.ofList (List.replicate 254 'a')) ++ ["aaaaa"]

def deepSurroundings : Surroundings where
  files := { directories := [deepDirectory], files := [] }
  here := []
  home := []
  decode _ := .unreadable .notFound

/-- There is no file at all, but the path of one that would be looked for first is too long, and looking
    for it fails. -/
theorem discover_deepDirectory :
    deepSurroundings.files.isDirectoryAt deepDirectory = true ∧
      (Path.ofLocation deepDirectory).isTooLong = false ∧
        (∀ location, deepSurroundings.files.isFileAt location = false) ∧
          discover deepSurroundings deepDirectory = .error (.file .nameTooLong) := by
  have hfits : (Path.ofLocation deepDirectory).isTooLong = false := by decide +kernel
  have hlong : (Path.ofLocation (deepDirectory ++ [".mdnorm.toml"])).isTooLong = true := by
    decide +kernel
  have htest : test? deepSurroundings (.dedicated (deepDirectory ++ [".mdnorm.toml"])) =
      .error (.file .nameTooLong) := by
    rw [test?, Candidate.path, Candidate.location, isFile, FileTree.isFile, FileTree.reach, hlong]
    rfl
  obtain ⟨rest, hall⟩ := exists_all_eq deepSurroundings.home deepDirectory
  refine ⟨by decide +kernel, hfits, fun _ => rfl, ?_⟩
  rw [discover_eq, hall, firstOf, htest]
  rfl

end MarkTree.Config
