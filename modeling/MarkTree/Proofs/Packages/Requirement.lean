import MarkTree.Pipeline
import MarkTree.Proofs.Result

namespace MarkTree.Packages

open Logging

/-- What is said about a module that cannot be imported. -/
def Importing.absence? : Importing → Option String
  | .absent message => some message
  | .found | .breaks _ => none

namespace Environment

/-- The version that a package is installed in. An empty one counts as none. -/
def version? (environment : Environment) (package : String) : Option String :=
  match environment.recorded package with
  | .ok recorded => recorded.filter fun version => version != ""
  | .error _ => none

/-- The package is installed in a version that the specifier asks for. A specifier that cannot be
    understood asks for none. -/
def meets (environment : Environment) (package specifier : String) : Bool :=
  match environment.version? package, environment.understands specifier with
  | some version, .ok true => (environment.admits specifier version).toOption == some true
  | _, _ => false

/-- A check of the version of a package asks for something that ends in this breakdown. -/
inductive VersionBreaks (environment : Environment) (package specifier : String) : Breakdown → Prop where
  | recorded {breakdown : Breakdown} (hrecorded : environment.recorded package = .error breakdown) :
      VersionBreaks environment package specifier breakdown
  | specifier {version : String} {breakdown : Breakdown}
      (hversion : environment.version? package = some version)
      (hreads : environment.understands specifier = .error breakdown) :
      VersionBreaks environment package specifier breakdown
  | comparison {version : String} {breakdown : Breakdown}
      (hversion : environment.version? package = some version)
      (hreads : environment.understands specifier = .ok true)
      (hadmits : environment.admits specifier version = .error breakdown) :
      VersionBreaks environment package specifier breakdown

/-- A check of the requirement ends in this breakdown: importing the module does, or finding out about the
    version, which is asked for if the module can be imported and some versions are wanted. -/
inductive Breaks (environment : Environment) (requirement : Requirement) : Breakdown → Prop where
  | importing {breakdown : Breakdown}
      (himport : environment.importing requirement.module = .breaks breakdown) :
      Breaks environment requirement breakdown
  | version {breakdown : Breakdown} (himport : environment.importing requirement.module = .found)
      (hwanted : requirement.specifier ≠ "")
      (hbreaks : environment.VersionBreaks requirement.package requirement.specifier breakdown) :
      Breaks environment requirement breakdown

end Environment

namespace Requirement

def isMissing (environment : Environment) (requirement : Requirement) : Bool :=
  (environment.importing requirement.module).absence?.isSome

/-- The module can be imported, but some versions are asked for and the installed one is none of them. -/
def isMismatched (environment : Environment) (requirement : Requirement) : Bool :=
  !requirement.isMissing environment && requirement.specifier != "" &&
    !environment.meets requirement.package requirement.specifier

/-- What is found wrong with the version of the package. -/
def mismatch (environment : Environment) (requirement : Requirement) : Mismatch :=
  { package := requirement.package
    specifier := requirement.specifier
    installed := (environment.version? requirement.package).getD "unknown" }

end Requirement

/-- A job that is started only in an environment that meets its requirements. -/
def guarded {α : Type} (environment : Environment) (component : String)
    (requirements : List Requirement) (job : Logged α) : Logged α := do
  Logged.ofExcept (require environment component requirements)
  job

/-- The findings are those about the requirements, in their order. -/
structure Unmet.Partitions (unmet : Unmet) (environment : Environment)
    (requirements : List Requirement) : Prop where
  missing : unmet.missing = (requirements.filter (·.isMissing environment)).map fun requirement =>
    (requirement.package, requirement.specifier)
  mismatches : unmet.mismatches =
    (requirements.filter (·.isMismatched environment)).map (·.mismatch environment)
  importError : unmet.importError =
    requirements.findSome? fun requirement => (environment.importing requirement.module).absence?

/-- Guarded jobs run as if there were no guard. -/
def LetsThrough (environment : Environment) (component : String) (requirements : List Requirement) :
    Prop :=
  ∀ (α : Type) (job : Logged α) (records : List Record),
    guarded environment component requirements job records = job records

/-- Guarded jobs are not started: whatever they are, they fail with the report and write no record. -/
def Refuses (environment : Environment) (component : String) (requirements : List Requirement)
    (report : Report) : Prop :=
  ∀ (α : Type) (job : Logged α) (records : List Record),
    guarded environment component requirements job records = (.error (.reported report), records)

variable {environment : Environment} {requirements : List Requirement} {requirement : Requirement}
  {package specifier installed : String} {breakdown : Breakdown}

/-- A version to go by is one that is recorded and not empty. -/
theorem recorded_of_version? (hversion : environment.version? package = some installed) :
    environment.recorded package = .ok (some installed) ∧ installed ≠ "" := by
  rw [Environment.version?] at hversion
  cases hrecorded : environment.recorded package with
  | error breakdown => simp [hrecorded] at hversion
  | ok recorded =>
    rw [hrecorded] at hversion
    obtain ⟨rfl, hne⟩ := Option.filter_eq_some_iff.mp hversion
    exact ⟨rfl, bne_iff_ne.mp hne⟩

/-- Without a version to go by the specifier is not met. -/
theorem checkVersion_of_none {recorded : Option String}
    (hrecorded : environment.recorded package = .ok recorded)
    (hversion : environment.version? package = none) :
    checkVersion environment package specifier = .ok (false, none) := by
  rw [checkVersion, hrecorded]
  cases recorded with
  | none => rfl
  | some installed =>
    have hempty : installed = "" := by
      simpa [Environment.version?, hrecorded, Option.filter_some] using hversion
    subst hempty
    rfl

/-- With a version to go by the specifier is read, and the version compared if it can be understood. -/
theorem checkVersion_of_some (hversion : environment.version? package = some installed) :
    checkVersion environment package specifier = (do
      if ← environment.understands specifier then
        return (← environment.admits specifier installed, some installed)
      else return (false, some installed)) := by
  obtain ⟨hrecorded, hne⟩ := recorded_of_version? hversion
  rw [checkVersion, hrecorded]
  exact if_neg hne

/-- A check of a version says whether it will do and which it is, unless something breaks down. -/
theorem checkVersion_cases (environment : Environment) (package specifier : String) :
    checkVersion environment package specifier =
        .ok (environment.meets package specifier, environment.version? package) ∨
      ∃ breakdown, checkVersion environment package specifier = .error breakdown ∧
        environment.VersionBreaks package specifier breakdown := by
  cases hrecorded : environment.recorded package with
  | error breakdown =>
    refine .inr ⟨breakdown, ?_, .recorded hrecorded⟩
    rw [checkVersion, hrecorded]
    rfl
  | ok recorded =>
    cases hversion : environment.version? package with
    | none =>
      refine .inl ?_
      rw [checkVersion_of_none hrecorded hversion, Environment.meets, hversion]
    | some installed =>
      rw [checkVersion_of_some hversion, Environment.meets, hversion]
      cases hreads : environment.understands specifier with
      | error breakdown => exact .inr ⟨breakdown, rfl, .specifier hversion hreads⟩
      | ok understood =>
        cases understood with
        | false => exact .inl rfl
        | true =>
          cases hadmits : environment.admits specifier installed with
          | error breakdown =>
            refine .inr ⟨breakdown, ?_, .comparison hversion hreads hadmits⟩
            simp [bind, Except.bind]
          | ok admitted =>
            refine .inl ?_
            cases admitted <;> simp [hadmits, bind, Except.bind, pure, Except.pure, Except.toOption]

/-- A module that can be imported is asked for its version, which is among those wanted or a mismatch. -/
theorem mismatch?_cases (himport : environment.importing requirement.module = .found) :
    mismatch? environment requirement =
        .ok (if requirement.isMismatched environment then some (requirement.mismatch environment)
          else none) ∨
      ∃ breakdown, mismatch? environment requirement = .error breakdown ∧
        environment.Breaks requirement breakdown := by
  have hmismatched : requirement.isMismatched environment =
      (requirement.specifier != "" && !environment.meets requirement.package requirement.specifier) := by
    rw [Requirement.isMismatched, Requirement.isMissing, himport]
    rfl
  rw [mismatch?, hmismatched]
  by_cases hwanted : requirement.specifier = ""
  · exact .inl (by simp [hwanted])
  · rw [if_neg hwanted]
    obtain hcheck | ⟨breakdown, hcheck, hbreaks⟩ :=
      checkVersion_cases environment requirement.package requirement.specifier
    · rw [hcheck]
      cases hmeets : environment.meets requirement.package requirement.specifier <;>
        simp [hwanted, bind, Except.bind, pure, Except.pure, Requirement.mismatch]
    · rw [hcheck]
      exact .inr ⟨breakdown, rfl, .version himport hwanted hbreaks⟩

/-- The findings about a list are those about its head in front of those about the rest. -/
theorem Unmet.Partitions.cons {unmet : Unmet} {rest : List Requirement}
    (hrest : unmet.Partitions environment rest) (requirement : Requirement) :
    Unmet.Partitions
      { missing := (if requirement.isMissing environment
          then [(requirement.package, requirement.specifier)] else []) ++ unmet.missing
        mismatches := (if requirement.isMismatched environment
          then [requirement.mismatch environment] else []) ++ unmet.mismatches
        importError :=
          (environment.importing requirement.module).absence?.or unmet.importError }
      environment (requirement :: rest) where
  missing := by
    rw [hrest.missing, List.filter_cons]
    cases requirement.isMissing environment <;> rfl
  mismatches := by
    rw [hrest.mismatches, List.filter_cons]
    cases requirement.isMismatched environment <;> rfl
  importError := by
    rw [hrest.importError, List.findSome?_cons]
    cases (environment.importing requirement.module).absence? <;> rfl

/-- A check of a list comes to findings about its requirements, or to a breakdown at one of them. -/
theorem findUnmet_cases (environment : Environment) (requirements : List Requirement) :
    (∃ unmet, findUnmet environment requirements = .ok unmet ∧
        unmet.Partitions environment requirements) ∨
      ∃ breakdown, findUnmet environment requirements = .error breakdown ∧
        ∃ requirement ∈ requirements, environment.Breaks requirement breakdown := by
  induction requirements with
  | nil => exact .inl ⟨Unmet.none, rfl, rfl, rfl, rfl⟩
  | cons requirement rest ih =>
    rw [findUnmet]
    cases himport : environment.importing requirement.module with
    | breaks breakdown => exact .inr ⟨breakdown, rfl, requirement, List.mem_cons_self, .importing himport⟩
    | absent message =>
      obtain ⟨unmet, hrest, hpartitions⟩ | ⟨breakdown, hrest, other, hmem, hbreaks⟩ := ih
      · have hcons := hpartitions.cons requirement
        rw [Requirement.isMismatched, Requirement.isMissing, himport] at hcons
        exact .inl ⟨_, by rw [hrest]; rfl, hcons⟩
      · exact .inr ⟨breakdown, by rw [hrest]; rfl, other, List.mem_cons_of_mem _ hmem, hbreaks⟩
    | found =>
      obtain hmismatch | ⟨breakdown, hmismatch, hbreaks⟩ := mismatch?_cases himport
      · obtain ⟨unmet, hrest, hpartitions⟩ | ⟨breakdown, hrest, other, hmem, hbreaks⟩ := ih
        · have hcons := hpartitions.cons requirement
          rw [Requirement.isMissing, himport] at hcons
          refine .inl ⟨_, ?_, hcons⟩
          rw [hmismatch, hrest]
          cases requirement.isMismatched environment <;> rfl
        · exact .inr ⟨breakdown, by rw [hmismatch, hrest]; rfl, other, List.mem_cons_of_mem _ hmem, hbreaks⟩
      · exact .inr ⟨breakdown, by rw [hmismatch]; rfl, requirement, List.mem_cons_self, hbreaks⟩

/-- Where nothing breaks down, a check has a result, and it divides the requirements. -/
theorem exists_findUnmet
    (hanswers : ∀ requirement ∈ requirements, ∀ breakdown, ¬ environment.Breaks requirement breakdown) :
    ∃ unmet, findUnmet environment requirements = .ok unmet ∧
      unmet.Partitions environment requirements := by
  obtain hunmet | ⟨breakdown, -, requirement, hmem, hbreaks⟩ := findUnmet_cases environment requirements
  · exact hunmet
  · exact absurd hbreaks (hanswers requirement hmem breakdown)

variable {unmet : Unmet}

theorem isAny_eq_false_iff : unmet.isAny = false ↔ unmet.missing = [] ∧ unmet.mismatches = [] := by
  simp [Unmet.isAny]

/-- Requirements that are met let the guarded jobs run. -/
theorem letsThrough_of_met (component : String)
    (hunmet : findUnmet environment requirements = .ok unmet) (hmet : unmet.isAny = false) :
    LetsThrough environment component requirements := by
  intro α job records
  have hrequire : require environment component requirements = .ok () := by
    rw [require, hunmet]
    exact if_neg (Bool.not_eq_true _ ▸ hmet)
  rw [guarded, hrequire]
  rfl

/-- Requirements that are not met keep the guarded jobs from being started. -/
theorem refuses_of_unmet (component : String)
    (hunmet : findUnmet environment requirements = .ok unmet) (hany : unmet.isAny = true) :
    Refuses environment component requirements (.unmetRequirements component unmet) := by
  intro α job records
  have hrequire : require environment component requirements =
      .error (.reported (.unmetRequirements component unmet)) := by
    rw [require, hunmet]
    exact if_pos hany
  rw [guarded, hrequire]
  rfl

/-- A guard does not refuse a job and run it. -/
theorem Refuses.not_letsThrough {component : String} {report : Report}
    (hrefuses : Refuses environment component requirements report) :
    ¬ LetsThrough environment component requirements := by
  intro hthrough
  cases (hrefuses Unit (pure ()) []).symm.trans (hthrough Unit (pure ()) [])

/-- The report about unmet requirements names them all, and a command that brings them up to date. -/
theorem detail_unmetRequirements (component : String) (hany : unmet.isAny = true) :
    (Report.unmetRequirements component unmet).detail =
      .dependency component unmet.missing unmet.mismatches
        ("pip install --upgrade " ++ " ".intercalate
          ((unmet.missing ++ unmet.mismatches.map fun found => (found.package, found.specifier)).map
            quotedPackage)) := by
  have hpackages : Report.packagesToUpgrade unmet.missing unmet.mismatches ≠ [] := by
    intro hnil
    obtain ⟨hmissing, hmismatches⟩ := List.append_eq_nil_iff.mp hnil
    have hnone := isAny_eq_false_iff.mpr ⟨hmissing, List.map_eq_nil_iff.mp hmismatches⟩
    cases hany.symm.trans hnone
  rw [Report.unmetRequirements, Report.dependency]
  dsimp only
  rw [if_pos rfl, upgradeCommand, if_neg (by simpa using hpackages)]
  rfl

/-- Markdown is parsed behind a guard. -/
theorem exists_parse_eq_guarded (parser : Pipeline.Parser) (options : MarkdownOptions)
    (source : String) :
    ∃ job, ∀ environment, Pipeline.parse environment parser options source =
      guarded environment "markdown parser" markdownRequirements job :=
  ⟨_, fun _ => rfl⟩

/-- Where nothing breaks down, a check divides the requirements, in their order: those whose module cannot
    be imported, and those that can be imported but not in a version asked for; and it keeps what is said
    about the first module that is missing. The jobs that the requirements guard run just if there are none
    of either kind; otherwise they are not started, and the report names both kinds. -/
theorem findUnmet_partitions
    (hanswers : ∀ requirement ∈ requirements, ∀ breakdown, ¬ environment.Breaks requirement breakdown)
    (component : String) :
    ∃ unmet, findUnmet environment requirements = .ok unmet ∧
      unmet.Partitions environment requirements ∧
        (LetsThrough environment component requirements ↔
          unmet.missing = [] ∧ unmet.mismatches = []) ∧
          (¬ (unmet.missing = [] ∧ unmet.mismatches = []) →
            ∃ report, Refuses environment component requirements report ∧
              report.detail = .dependency component unmet.missing unmet.mismatches
                ("pip install --upgrade " ++ " ".intercalate
                  ((unmet.missing ++ unmet.mismatches.map
                    fun found => (found.package, found.specifier)).map quotedPackage))) := by
  obtain ⟨unmet, hunmet, hpartitions⟩ := exists_findUnmet hanswers
  refine ⟨unmet, hunmet, hpartitions, ?_⟩
  rw [← isAny_eq_false_iff]
  cases hany : unmet.isAny with
  | false =>
    have hthrough : LetsThrough environment component requirements :=
      letsThrough_of_met component hunmet hany
    exact ⟨⟨fun _ => rfl, fun _ => hthrough⟩, fun hnot => absurd rfl hnot⟩
  | true =>
    have hrefuses := refuses_of_unmet component hunmet hany
    refine ⟨⟨fun hthrough => absurd hthrough hrefuses.not_letsThrough, nofun⟩, fun _ => ?_⟩
    exact ⟨_, hrefuses, detail_unmetRequirements component hany⟩

/-- An environment in which one module is absent, one package is too old, one has no recorded version, and
    one specifier cannot be understood. -/
def patchyEnvironment : Environment where
  importing module :=
    if module = "tomli" then .absent "No module named 'tomli'" else .found
  recorded package := .ok ([("mistune", "3.1.0"), ("PyYAML", "5.4"), ("rich", "13.0")].lookup package)
  understands specifier := .ok (specifier != "at least 12")
  admits specifier version := .ok (!(specifier == ">=6.0" && version == "5.4"))

theorem findUnmet_partitions_patchyEnvironment :
    let requirements : List Requirement :=
      [⟨"PyYAML", "yaml", ">=6.0"⟩, ⟨"tomli", "tomli", ""⟩, ⟨"mistune", "mistune", ">=3.0.0"⟩,
        ⟨"mistune-math", "mistune", ">=1"⟩, ⟨"rich", "rich", "at least 12"⟩, ⟨"tomli", "tomli", ""⟩]
    ∃ unmet report, findUnmet patchyEnvironment requirements = .ok unmet ∧
      unmet.Partitions patchyEnvironment requirements ∧
        unmet.missing = [("tomli", ""), ("tomli", "")] ∧
          unmet.mismatches = [⟨"PyYAML", ">=6.0", "5.4"⟩, ⟨"mistune-math", ">=1", "unknown"⟩,
            ⟨"rich", "at least 12", "13.0"⟩] ∧
            unmet.importError = some "No module named 'tomli'" ∧
              Refuses patchyEnvironment "markdown parser" requirements report := by
  intro requirements
  have hanswers : ∀ requirement ∈ requirements, ∀ breakdown,
      ¬ patchyEnvironment.Breaks requirement breakdown := by
    rintro requirement - breakdown (himport | ⟨-, -, hrecorded | ⟨-, hreads⟩ | ⟨-, -, hadmits⟩⟩)
    · rw [patchyEnvironment] at himport
      dsimp only at himport
      split at himport <;> cases himport
    · cases hrecorded
    · cases hreads
    · cases hadmits
  obtain ⟨unmet, hunmet, hpartitions, -, hrefuses⟩ := findUnmet_partitions hanswers "markdown parser"
  have hmissing : unmet.missing = [("tomli", ""), ("tomli", "")] := hpartitions.missing
  obtain ⟨report, hreport, -⟩ := hrefuses fun hnone => by
    rw [hmissing] at hnone
    cases hnone.1
  refine ⟨unmet, report, hunmet, hpartitions, hmissing, ?_, hpartitions.importError, hreport⟩
  rw [hpartitions.mismatches]
  decide +kernel

/-- An environment that does not take every question: a module has to have a name, and no number in a
    version may have more than 4300 digits. All packages are recorded with the same version. -/
def strictEnvironment (version : String) : Environment where
  importing module := if module = "" then .breaks ⟨"ValueError"⟩ else .found
  recorded _ := .ok (some version)
  understands _ := .ok true
  admits _ version := if 4300 < version.length then .error ⟨"ValueError"⟩ else .ok true

/-- Where long versions are refused, a long version that is looked at stops the check. -/
theorem findUnmet_strictEnvironment {version : String} (hlong : 4300 < version.length) :
    findUnmet (strictEnvironment version) [⟨"core", "core", ">=1"⟩] = .error ⟨"ValueError"⟩ := by
  have hne : version ≠ "" := by
    rintro rfl
    exact absurd hlong (by decide)
  have hcheck : checkVersion (strictEnvironment version) "core" ">=1" = .error ⟨"ValueError"⟩ := by
    simp only [checkVersion, strictEnvironment, bind, Except.bind, if_neg hne, if_pos hlong]
    rfl
  have hmismatch : mismatch? (strictEnvironment version) ⟨"core", "core", ">=1"⟩ =
      .error ⟨"ValueError"⟩ := by
    rw [mismatch?, if_neg (by decide), hcheck]
    rfl
  rw [findUnmet, hmismatch]
  rfl

/-- A version that is a single number of ones. -/
def longVersion (digits : Nat) : String :=
  String.ofList (List.replicate digits '1')

theorem length_longVersion (digits : Nat) : (longVersion digits).length = digits := by
  rw [longVersion, String.length_ofList, List.length_replicate]

/-- A module without a name is not told to be missing, nor is a version of 5000 digits told to fit or not:
    the check ends without findings. -/
theorem findUnmet_longVersion :
    findUnmet (strictEnvironment (longVersion 5000)) [⟨"core", "", ""⟩] = .error ⟨"ValueError"⟩ ∧
      (strictEnvironment (longVersion 5000)).recorded "core" = .ok (some (longVersion 5000)) ∧
        findUnmet (strictEnvironment (longVersion 5000)) [⟨"core", "core", ">=1"⟩] =
          .error ⟨"ValueError"⟩ := by
  have hlong : 4300 < (longVersion 5000).length := by
    rw [length_longVersion]
    decide
  exact ⟨rfl, rfl, findUnmet_strictEnvironment hlong⟩

end MarkTree.Packages
