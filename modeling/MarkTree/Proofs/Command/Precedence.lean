import MarkTree.Proofs.Command.Options
import MarkTree.Proofs.Options.Update

namespace MarkTree.Command

/-- The value goes with the last key of a configuration that stands for the name. -/
def IsLastFor (fields : List (String × Datum)) (name : String) (value : Datum) : Prop :=
  ∃ front key back, fields = front ++ (key, value) :: back ∧ optionName key = name ∧
    ∀ later ∈ back, optionName later.1 ≠ name

/-- An input that is given, and is neither empty nor the standard one, names the source. -/
def NamesSource (input : Datum) : Prop :=
  input.truthy = true ∧ input ≠ .str "-"

instance (input : Datum) : Decidable (NamesSource input) :=
  inferInstanceAs (Decidable (_ ∧ _))

/-- The value that an option comes to, by arguments and a configuration. -/
inductive Resolves (arguments : Arguments) (fields : List (String × Datum)) (name : String) :
    Datum → Prop where
  | flag (hflag : arguments.get name ≠ .null) : Resolves arguments fields name (arguments.get name)
  | configured {value : Datum} (hflag : arguments.get name = .null)
      (hlast : IsLastFor fields name value) : Resolves arguments fields name value
  | input (hflag : arguments.get name = .null) (hfields : ∀ field ∈ fields, optionName field.1 ≠ name)
      (hname : name = "source_file") (hinput : NamesSource (arguments.get "input")) :
      Resolves arguments fields name (arguments.get "input")
  | default {value : Datum} (hflag : arguments.get name = .null)
      (hfields : ∀ field ∈ fields, optionName field.1 ≠ name)
      (hinput : name = "source_file" → ¬ NamesSource (arguments.get "input"))
      (hdefault : MarkdownOptions.default.get? name = some value) : Resolves arguments fields name value

/-- The values of a configuration by the options that its keys stand for. -/
def namedFields (fields : List (String × Datum)) : Arguments :=
  fields.map fun (key, value) => (optionName key, value)

variable {arguments values : Arguments} {fields : List (String × Datum)} {name : String} {value : Datum}

theorem namedOptions_ofFields (fields : List (String × Datum)) :
    namedOptions (Entries.ofFields fields) = .ok (namedFields fields) := by
  induction fields with
  | nil => rfl
  | cons field rest ih => exact bind_eq_ok_iff.mpr ⟨namedFields rest, ih, rfl⟩

/-- The names are those that the keys stand for, in their order. -/
theorem names_namedFields (fields : List (String × Datum)) :
    (namedFields fields).map Prod.fst = fields.map fun field => optionName field.1 := by
  rw [namedFields, List.map_map]
  rfl

/-- An option has no value from the configuration just if no key stands for it. -/
theorem lastValue?_namedFields_eq_none_iff :
    lastValue? name (namedFields fields) = none ↔ ∀ field ∈ fields, optionName field.1 ≠ name := by
  rw [lastValue?_eq_none_iff, names_namedFields]
  simp

/-- The value that counts is the one of the last key that stands for the option. -/
theorem isLastFor_iff :
    IsLastFor fields name value ↔ lastValue? name (namedFields fields) = some value := by
  rw [lastValue?_eq_some_iff]
  constructor
  · rintro ⟨front, key, back, rfl, rfl, hback⟩
    refine ⟨namedFields front, namedFields back, by simp [namedFields], fun later hmem => ?_⟩
    obtain ⟨field, hfield, rfl⟩ := List.mem_map.mp hmem
    exact hback field hfield
  · rintro ⟨front, back, hfields, hback⟩
    obtain ⟨front, rest, rfl, -, hrest⟩ := List.map_eq_append_iff.mp hfields
    obtain ⟨⟨key, value'⟩, back', rfl, hpair, rfl⟩ := List.map_eq_cons_iff.mp hrest
    cases hpair
    exact ⟨front, key, back', rfl, rfl, fun later hmem =>
      hback (optionName later.1, later.2) (List.mem_map_of_mem hmem)⟩

/-- An argument that is set has the new value, and the others have theirs. -/
theorem Arguments.lookup_set (arguments : Arguments) (name other : String) (value : Datum) :
    (arguments.set name value).lookup other =
      if other = name then some value else arguments.lookup other := by
  fun_induction Arguments.set name value arguments with
  | case1 => exact lookup_cons_eq other (name, value) []
  | case2 value' rest =>
    rw [lookup_cons_eq, lookup_cons_eq]
    by_cases heq : other = name <;> simp [heq]
  | case3 name' value' rest hne ih =>
    rw [lookup_cons_eq, lookup_cons_eq, ih]
    by_cases heq : other = name'
    · simp [heq, Ne.symm hne]
    · rw [if_neg heq, if_neg heq]

/-- Setting an argument adds its name at most. -/
theorem Arguments.mem_names_set {other : String} :
    other ∈ (arguments.set name value).map Prod.fst ↔ other = name ∨ other ∈ arguments.map Prod.fst := by
  fun_induction Arguments.set name value arguments with
  | case1 => simp
  | case2 value' rest => simp
  | case3 name' value' rest hne ih =>
    rw [List.map_cons, List.mem_cons, ih, List.map_cons, List.mem_cons]
    exact or_left_comm

/-- Setting an argument keeps the names apart. -/
theorem Arguments.nodup_set (hnodup : (arguments.map Prod.fst).Nodup) (name : String) (value : Datum) :
    ((arguments.set name value).map Prod.fst).Nodup := by
  fun_induction Arguments.set name value arguments with
  | case1 => exact List.nodup_cons.mpr ⟨List.not_mem_nil, List.nodup_nil⟩
  | case2 value' rest => exact hnodup
  | case3 name' value' rest hne ih =>
    obtain ⟨hnot, hrest⟩ := List.nodup_cons.mp hnodup
    refine List.nodup_cons.mpr ⟨fun hmem => ?_, ih hrest⟩
    exact (Arguments.mem_names_set.mp hmem).elim (Ne.symm hne) hnot

/-- What is kept for a name is its last value. -/
theorem lookup_lastByName (values : Arguments) (name : String) :
    (lastByName values).lookup name = lastValue? name values := by
  have hfold (known : Arguments) :
      (values.foldl (fun known (name, value) => known.set name value) known).lookup name =
        (lastValue? name values).or (known.lookup name) := by
    induction values generalizing known with
    | nil => rfl
    | cons given rest ih =>
      rw [List.foldl_cons, ih, Arguments.lookup_set, lastValue?_cons, Option.or_assoc]
      by_cases heq : name = given.1 <;> simp [heq]
  exact (hfold []).trans Option.or_none

/-- Each name is kept once. -/
theorem nodup_lastByName (values : Arguments) : ((lastByName values).map Prod.fst).Nodup := by
  have hfold (known : Arguments) (hnodup : (known.map Prod.fst).Nodup) :
      ((values.foldl (fun known (name, value) => known.set name value) known).map Prod.fst).Nodup := by
    induction values generalizing known with
    | nil => exact hnodup
    | cons given rest ih => exact ih _ (Arguments.nodup_set hnodup _ _)
  exact hfold [] List.nodup_nil

/-- The values by name that arguments and a configuration give. -/
def givenValues (arguments : Arguments) (fields : List (String × Datum)) : Arguments :=
  let values := lastByName (namedFields fields ++ flagOptions arguments)
  if values.any fun (name, _) => name == "source_file" then values
  else values ++ inputOption arguments

theorem buildOptions_ofFields (arguments : Arguments) (fields : List (String × Datum)) :
    buildOptions arguments (Entries.ofFields fields) =
      MarkdownOptions.default.update (givenValues arguments fields) := by
  rw [buildOptions, namedOptions_ofFields]
  rfl

/-- A flag gives its value if it was used, and otherwise none. -/
theorem lastValue?_flagOptions (hname : name ∈ MarkdownOptions.names) :
    lastValue? name (flagOptions arguments) =
      if arguments.get name = .null then none else some (arguments.get name) := by
  cases hlast : lastValue? name (flagOptions arguments) with
  | none =>
    have hnot := lastValue?_eq_none_iff.mp hlast
    by_cases hnull : arguments.get name = .null
    · rw [if_pos hnull]
    · refine absurd (List.mem_map.mpr ⟨(name, arguments.get name), ?_, rfl⟩) hnot
      exact List.mem_filterMap.mpr ⟨name, hname, if_neg hnull⟩
  | some value =>
    obtain ⟨front, back, hflags, -⟩ := lastValue?_eq_some_iff.mp hlast
    have hmem : (name, value) ∈ flagOptions arguments := by simp [hflags]
    obtain ⟨-, hget, hnull⟩ := mem_flagOptions hmem
    dsimp only at hget hnull
    rw [hget, if_neg hnull]

/-- No flag gives a value to what is no option. -/
theorem lastValue?_flagOptions_of_unknown (hname : name ∉ MarkdownOptions.names) :
    lastValue? name (flagOptions arguments) = none := by
  refine lastValue?_eq_none_iff.mpr fun hmem => ?_
  obtain ⟨flag, hflag, rfl⟩ := List.mem_map.mp hmem
  exact hname (mem_flagOptions hflag).1

/-- The input path gives a source if it names one, and gives nothing else. -/
theorem inputOption_eq (arguments : Arguments) :
    inputOption arguments =
      if NamesSource (arguments.get "input") then [("source_file", arguments.get "input")] else [] := by
  have hnames : ((arguments.get "input").truthy && arguments.get "input" != .str "-") = true ↔
      NamesSource (arguments.get "input") := by
    simp [NamesSource]
  by_cases hinput : NamesSource (arguments.get "input")
  · rw [if_pos hinput]
    exact if_pos (hnames.mpr hinput)
  · rw [if_neg hinput]
    exact if_neg (mt hnames.mp hinput)

theorem lookup_inputOption_of_ne (hname : name ≠ "source_file") :
    (inputOption arguments).lookup name = none := by
  rw [inputOption_eq]
  split
  · rw [lookup_cons_eq, if_neg hname, List.lookup_nil]
  · rfl

/-- Flags come first, then the configuration, then the input path. -/
theorem lookup_givenValues (arguments : Arguments) (fields : List (String × Datum)) (name : String) :
    (givenValues arguments fields).lookup name =
      ((lastValue? name (flagOptions arguments)).or (lastValue? name (namedFields fields))).or
        ((inputOption arguments).lookup name) := by
  have hkept : (lastByName (namedFields fields ++ flagOptions arguments)).lookup name =
      (lastValue? name (flagOptions arguments)).or (lastValue? name (namedFields fields)) := by
    rw [lookup_lastByName, lastValue?_append]
  rw [← hkept, givenValues]
  dsimp only
  split
  · rename_i hany
    -- Here the input path is left out, which tells only where it would name something.
    by_cases hname : name = "source_file"
    · obtain ⟨value, hvalue⟩ : ∃ value,
          (lastByName (namedFields fields ++ flagOptions arguments)).lookup name = some value := by
        refine Option.ne_none_iff_exists'.mp fun hnone => ?_
        refine lookup_eq_none_iff_not_mem.mp hnone ?_
        simpa [hname] using hany
      rw [hvalue, Option.some_or]
    · rw [lookup_inputOption_of_ne hname, Option.or_none]
  · exact List.lookup_append

/-- Each option is given one value at most. -/
theorem nodup_givenValues (arguments : Arguments) (fields : List (String × Datum)) :
    ((givenValues arguments fields).map Prod.fst).Nodup := by
  have hkept := nodup_lastByName (namedFields fields ++ flagOptions arguments)
  rw [givenValues]
  dsimp only
  split
  · exact hkept
  · rename_i hany
    rw [inputOption_eq]
    split
    · rw [List.map_append, List.nodup_append]
      refine ⟨hkept, List.nodup_cons.mpr ⟨List.not_mem_nil, List.nodup_nil⟩, ?_⟩
      rintro name hmem _ hsource rfl
      obtain rfl := List.mem_singleton.mp hsource
      exact hany (by simpa using hmem)
    · rw [List.append_nil]
      exact hkept

/-- An unknown name is given by the configuration or not at all. -/
theorem lookup_givenValues_of_unknown (hname : name ∉ MarkdownOptions.names) :
    (givenValues arguments fields).lookup name = lastValue? name (namedFields fields) := by
  have hsource : name ≠ "source_file" := by
    rintro rfl
    exact hname (by decide)
  rw [lookup_givenValues, lastValue?_flagOptions_of_unknown hname, lookup_inputOption_of_ne hsource,
    Option.none_or, Option.or_none]

/-- A name that is no option can only come from the configuration. -/
theorem mem_givenValues_of_unknown (hname : name ∉ MarkdownOptions.names) :
    name ∈ (givenValues arguments fields).map Prod.fst ↔ name ∈ (namedFields fields).map Prod.fst := by
  rw [← Classical.not_not (a := name ∈ _), ← lookup_eq_none_iff_not_mem,
    lookup_givenValues_of_unknown hname, lastValue?_eq_none_iff, Classical.not_not]

/-- A name without underscores stands for itself only. -/
theorem optionName_eq_self {key : String} (hname : '_' ∉ (optionName key).toList) :
    optionName key = key := by
  have hdash : ∀ c ∈ key.toList, c ≠ '-' := by
    rintro c hmem rfl
    refine hname ?_
    rw [optionName, String.toList_ofList]
    exact List.mem_map.mpr ⟨'-', hmem, rfl⟩
  have hkept : (key.toList.map fun c => if c == '-' then '_' else c) = key.toList := by
    refine (List.map_congr_left fun c hmem => ?_).trans (List.map_id' _)
    rw [if_neg (by simpa using hdash c hmem)]
  rw [optionName, hkept, String.ofList_toList]

/-- The values that a configuration and flags give, each name once. -/
def givenBy (arguments : Arguments) (fields : List (String × Datum))
    (hreceiver : ∀ field ∈ fields, field.1 ≠ receiverName) : NamedValues where
  changes := givenValues arguments fields
  nodup := nodup_givenValues arguments fields
  receiver := by
    have hunknown : receiverName ∉ MarkdownOptions.names := by decide
    rw [mem_givenValues_of_unknown hunknown, names_namedFields]
    intro hmem
    obtain ⟨field, hfield, hname⟩ := List.mem_map.mp hmem
    have hself : optionName field.1 = field.1 := optionName_eq_self (hname ▸ by decide)
    exact hreceiver field hfield (hself.symm.trans hname)

/-- What an option comes to. -/
theorem exists_resolves (arguments : Arguments) (fields : List (String × Datum))
    (hname : name ∈ MarkdownOptions.names) :
    ∃ value, ((givenValues arguments fields).lookup name).or (MarkdownOptions.default.get? name) =
      some value ∧ Resolves arguments fields name value := by
  rw [lookup_givenValues, lastValue?_flagOptions hname]
  by_cases hflag : arguments.get name = .null
  case neg =>
    rw [if_neg hflag]
    exact ⟨arguments.get name, rfl, .flag hflag⟩
  rw [if_pos hflag, Option.none_or]
  cases hlast : lastValue? name (namedFields fields) with
  | some value => exact ⟨value, rfl, .configured hflag (isLastFor_iff.mpr hlast)⟩
  | none =>
    have hfields := lastValue?_namedFields_eq_none_iff.mp hlast
    obtain ⟨value, hdefault⟩ := MarkdownOptions.exists_get? .default hname
    rw [inputOption_eq]
    by_cases hinput : NamesSource (arguments.get "input")
    · by_cases hsource : name = "source_file"
      · refine ⟨arguments.get "input", ?_, .input hflag hfields hsource hinput⟩
        rw [if_pos hinput, hsource]
        rfl
      · refine ⟨value, ?_, .default hflag hfields (fun heq => absurd heq hsource) hdefault⟩
        rw [if_pos hinput, lookup_cons_eq, if_neg hsource]
        exact hdefault
    · refine ⟨value, ?_, .default hflag hfields (fun _ => hinput) hdefault⟩
      rw [if_neg hinput]
      exact hdefault

/-- Something unknown is given just if a key of the configuration stands for no option. -/
theorem exists_unknown_givenBy_iff (hreceiver : ∀ field ∈ fields, field.1 ≠ receiverName) :
    (∃ name ∈ (givenBy arguments fields hreceiver).names, name ∉ MarkdownOptions.names) ↔
      ∃ field ∈ fields, optionName field.1 ∉ MarkdownOptions.names := by
  have hmem {name : String} (hnot : name ∉ MarkdownOptions.names) :
      name ∈ (givenBy arguments fields hreceiver).names ↔ ∃ field ∈ fields, optionName field.1 = name := by
    refine (mem_givenValues_of_unknown hnot).trans ?_
    rw [names_namedFields, List.mem_map]
  constructor
  · rintro ⟨name, hgiven, hnot⟩
    obtain ⟨field, hfield, rfl⟩ := (hmem hnot).mp hgiven
    exact ⟨field, hfield, hnot⟩
  · rintro ⟨field, hfield, hnot⟩
    exact ⟨optionName field.1, (hmem hnot).mpr ⟨field, hfield, rfl⟩, hnot⟩

/-- The first unknown name is one of the configuration, given last with the value that is reported. -/
theorem isReportedBy_givenBy {hreceiver : ∀ field ∈ fields, field.1 ≠ receiverName} {failure : Failure}
    (hreported : (givenBy arguments fields hreceiver).IsReportedBy failure) :
    ∃ report name value, failure = .reported report ∧
      report.detail = .invalidValue (some name) value ∧
        IsFirstUnknown MarkdownOptions.names (namedFields fields) name ∧ IsLastFor fields name value := by
  obtain ⟨report, name, value, hfailure, hdetail, hfirst, hmem⟩ := hreported
  refine ⟨report, name, value, hfailure, hdetail, ⟨?_, hfirst.unknown, ?_⟩, ?_⟩
  · exact (mem_givenValues_of_unknown hfirst.unknown).mp hfirst.given
  · intro other hother hunknown
    exact hfirst.first other ((mem_givenValues_of_unknown hunknown).mpr hother) hunknown
  · have hlookup : (givenValues arguments fields).lookup name = some value :=
      lookup_of_mem (nodup_givenValues arguments fields) hmem
    rw [isLastFor_iff, ← lookup_givenValues_of_unknown hfirst.unknown, hlookup]

/-- The options are refused just if a key of the configuration stands for none. Then the first unknown
    name is reported, with the value of the last key that stands for it. Otherwise each option comes to a
    value by the sources in their order. -/
theorem buildOptions_precedence (arguments : Arguments) (fields : List (String × Datum))
    (hreceiver : ∀ field ∈ fields, field.1 ≠ receiverName) :
    ((∃ failure, buildOptions arguments (Entries.ofFields fields) = .error failure) ↔
        ∃ field ∈ fields, optionName field.1 ∉ MarkdownOptions.names) ∧
      (∀ failure, buildOptions arguments (Entries.ofFields fields) = .error failure →
        ∃ report name value, failure = .reported report ∧
          report.detail = .invalidValue (some name) value ∧
            IsFirstUnknown MarkdownOptions.names (namedFields fields) name ∧
              IsLastFor fields name value) ∧
        ∀ options, buildOptions arguments (Entries.ofFields fields) = .ok options →
          ∀ name ∈ MarkdownOptions.names,
            ∃ value, options.get? name = some value ∧ Resolves arguments fields name value := by
  let given := givenBy arguments fields hreceiver
  have hbuild : buildOptions arguments (Entries.ofFields fields) =
      MarkdownOptions.default.update given.changes := buildOptions_ofFields arguments fields
  rw [hbuild, ← exists_unknown_givenBy_iff hreceiver]
  refine ⟨MarkdownOptions.update_error_iff .default given, fun failure herror => ?_,
    fun options hoptions name hname => ?_⟩
  · exact isReportedBy_givenBy (MarkdownOptions.isReportedBy_of_update herror)
  · obtain ⟨value, hvalue, hresolves⟩ := exists_resolves arguments fields hname
    exact ⟨value, (MarkdownOptions.get?_of_update hoptions name).trans hvalue, hresolves⟩

/-- Two spellings of one option and a value against a flag. -/
theorem buildOptions_precedence_dashed :
    let arguments : Arguments := [("input", .str "plan.md"), ("gfm", .bool false)]
    let fields : List (String × Datum) :=
      [("start-line", .int 7), ("gfm", .bool true), ("start_line", .null)]
    (∀ field ∈ fields, field.1 ≠ receiverName) ∧
      ∃ options, buildOptions arguments (Entries.ofFields fields) = .ok options ∧
        options = { MarkdownOptions.default with
          gfm := .bool false, sourceFile := .str "plan.md", startLine := .null } ∧
          ∀ name ∈ MarkdownOptions.names,
            ∃ value, options.get? name = some value ∧ Resolves arguments fields name value := by
  intro arguments fields
  have hreceiver : ∀ field ∈ fields, field.1 ≠ receiverName := by decide
  obtain ⟨-, -, hresolves⟩ := buildOptions_precedence arguments fields hreceiver
  exact ⟨hreceiver, _, rfl, rfl, hresolves _ rfl⟩

/-- An empty input path is given, but it does not name the source. -/
theorem buildOptions_emptyInput :
    ∃ arguments options, mainLine.read [""] = .parsed arguments ∧
      arguments.get "input" = .str "" ∧ arguments.get "source_file" = .null ∧
        buildOptions arguments [] = .ok options ∧
          options.get? "source_file" = some (.str "nofile") :=
  ⟨_, _, rfl, rfl, rfl, rfl, rfl⟩

end MarkTree.Command
