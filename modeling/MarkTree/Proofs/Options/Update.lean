import MarkTree.Options
import MarkTree.Proofs.Result

namespace MarkTree

section

variable {known names : List String} {changes : List (String × Datum)} {name other : String}
  {value : Datum}

/-- The name comes first, in the order of code points, among those that changes give and that are not
    known. -/
structure IsFirstUnknown (known : List String) (changes : List (String × Datum)) (name : String) :
    Prop where
  given : name ∈ changes.map Prod.fst
  unknown : name ∉ known
  first : ∀ other ∈ changes.map Prod.fst, other ∉ known → name ≤ other

theorem mem_insertName : other ∈ insertName name names ↔ other = name ∨ other ∈ names := by
  fun_induction insertName name names with
  | case1 => simp
  | case2 rest => simp
  | case3 first rest => simp
  | case4 first rest _ _ ih =>
    rw [List.mem_cons, ih, List.mem_cons]
    exact or_left_comm

/-- A name is put in where the order has it, and never twice. -/
theorem pairwise_insertName (hsorted : names.Pairwise (· < ·)) :
    (insertName name names).Pairwise (· < ·) := by
  fun_induction insertName name names with
  | case1 => exact List.pairwise_singleton _ _
  | case2 rest => exact hsorted
  | case3 first rest _ hlt =>
    refine List.pairwise_cons.mpr ⟨List.forall_mem_cons.mpr ⟨hlt, fun other hmem => ?_⟩, hsorted⟩
    exact String.lt_trans hlt ((List.pairwise_cons.mp hsorted).1 other hmem)
  | case4 first rest hne hlt ih =>
    obtain ⟨hfirst, hrest⟩ := List.pairwise_cons.mp hsorted
    refine List.pairwise_cons.mpr ⟨fun other hmem => ?_, ih hrest⟩
    obtain rfl | hmem := mem_insertName.mp hmem
    -- A name that is neither before the first one nor the same comes behind it.
    · refine Classical.byContradiction fun hnot => hne ?_
      exact String.le_antisymm (String.not_lt.mp hnot) (String.not_lt.mp hlt)
    · exact hfirst other hmem

/-- The unknown names are those of the changes that are not known. -/
theorem mem_unknownNames :
    name ∈ unknownNames known changes ↔ name ∈ changes.map Prod.fst ∧ name ∉ known := by
  have hfold (given : List String) : name ∈ given.foldr insertName [] ↔ name ∈ given := by
    induction given with
    | nil => rfl
    | cons first rest ih => rw [List.foldr_cons, mem_insertName, ih, List.mem_cons]
  rw [unknownNames, hfold, List.mem_filter]
  simp

/-- The unknown names are in strict order. -/
theorem pairwise_unknownNames : (unknownNames known changes).Pairwise (· < ·) := by
  rw [unknownNames]
  induction (changes.map Prod.fst).filter fun name => !known.contains name with
  | nil => exact List.Pairwise.nil
  | cons first rest ih => exact pairwise_insertName ih

theorem isFirstUnknown_of_cons (hunknown : unknownNames known changes = name :: names) :
    IsFirstUnknown known changes name := by
  obtain ⟨hgiven, hnot⟩ : name ∈ changes.map Prod.fst ∧ name ∉ known :=
    mem_unknownNames.mp (hunknown ▸ List.mem_cons_self)
  refine ⟨hgiven, hnot, fun other hother hunknown' => ?_⟩
  have hmem : other ∈ name :: names := hunknown ▸ mem_unknownNames.mpr ⟨hother, hunknown'⟩
  obtain rfl | hmem := List.mem_cons.mp hmem
  · exact String.le_refl other
  · have hsorted : (name :: names).Pairwise (· < ·) := hunknown ▸ pairwise_unknownNames
    exact String.not_lt.mp (String.lt_asymm ((List.pairwise_cons.mp hsorted).1 other hmem))

/-- There is no unknown name just if every change names something known. -/
theorem unknownNames_eq_nil_iff :
    unknownNames known changes = [] ↔ ∀ name ∈ changes.map Prod.fst, name ∈ known := by
  simp only [List.eq_nil_iff_forall_not_mem, mem_unknownNames, not_and, Classical.not_not]

theorem any_receiver_eq_false (hreceiver : receiverName ∉ changes.map Prod.fst) :
    (changes.any fun (name, _) => name == receiverName) = false := by
  refine List.any_eq_false.mpr fun change hmem heq => hreceiver ?_
  exact beq_iff_eq.mp heq ▸ List.mem_map_of_mem hmem

/-- Changes of known names are accepted. -/
theorem checkNames_of_known (optionsName : String) (hreceiver : receiverName ∉ changes.map Prod.fst)
    (hunknown : unknownNames known changes = []) : checkNames optionsName known changes = .ok () := by
  rw [checkNames, any_receiver_eq_false hreceiver, hunknown]
  rfl

/-- Changes of which one has an unknown name are reported with all unknown names. -/
theorem checkNames_of_unknown (optionsName : String) (hreceiver : receiverName ∉ changes.map Prod.fst)
    (hunknown : unknownNames known changes = name :: names) :
    checkNames optionsName known changes =
      .error (.reported (.unknownOptions optionsName (name :: names)
        ((changes.lookup name).getD .null))) := by
  rw [checkNames, any_receiver_eq_false hreceiver, hunknown]
  rfl

/-- The first change counts for its name, and those behind it for the other names. -/
theorem lookup_cons_eq (name : String) (change : String × Datum) (rest : List (String × Datum)) :
    (change :: rest).lookup name = if name = change.1 then some change.2 else rest.lookup name := by
  rw [List.lookup_cons]
  by_cases heq : name = change.1
  · rw [if_pos heq, beq_iff_eq.mpr heq]
  · rw [if_neg heq, beq_eq_false_iff_ne.mpr heq]

theorem lookup_eq_none_iff_not_mem : changes.lookup name = none ↔ name ∉ changes.map Prod.fst := by
  rw [List.lookup_eq_none_iff]
  constructor
  · rintro hnone hmem
    obtain ⟨change, hchange, rfl⟩ := List.mem_map.mp hmem
    exact bne_iff_ne.mp (hnone change hchange) rfl
  · intro hnot change hmem
    exact bne_iff_ne.mpr fun heq => hnot (heq ▸ List.mem_map_of_mem hmem)

/-- The last value that changes give to a name. -/
def lastValue? (name : String) (changes : List (String × Datum)) : Option Datum :=
  changes.reverse.lookup name

theorem lastValue?_cons (name : String) (change : String × Datum) (rest : List (String × Datum)) :
    lastValue? name (change :: rest) =
      (lastValue? name rest).or (if name = change.1 then some change.2 else none) := by
  rw [lastValue?, List.reverse_cons, List.lookup_append, ← lastValue?, lookup_cons_eq, List.lookup_nil]

theorem lastValue?_append (name : String) (front back : List (String × Datum)) :
    lastValue? name (front ++ back) = (lastValue? name back).or (lastValue? name front) := by
  rw [lastValue?, List.reverse_append, List.lookup_append]
  rfl

theorem lastValue?_eq_none_iff : lastValue? name changes = none ↔ name ∉ changes.map Prod.fst := by
  rw [lastValue?, lookup_eq_none_iff_not_mem, List.map_reverse, List.mem_reverse]

/-- The last value of a name stands in a change behind which none has the name. -/
theorem lastValue?_eq_some_iff :
    lastValue? name changes = some value ↔
      ∃ front back, changes = front ++ (name, value) :: back ∧ ∀ later ∈ back, later.1 ≠ name := by
  rw [lastValue?, List.lookup_eq_some_iff]
  constructor
  · rintro ⟨back, front, hchanges, hback⟩
    refine ⟨front.reverse, back.reverse, ?_, fun later hmem => ?_⟩
    · rw [← List.reverse_reverse changes, hchanges]
      simp
    · exact (bne_iff_ne.mp (hback later (List.mem_reverse.mp hmem))).symm
  · rintro ⟨front, back, rfl, hback⟩
    refine ⟨back.reverse, front.reverse, by simp, fun later hmem => ?_⟩
    exact bne_iff_ne.mpr (hback later (List.mem_reverse.mp hmem)).symm

/-- The value that goes with a name that is given once. -/
theorem lookup_of_mem (hnodup : (changes.map Prod.fst).Nodup) (hmem : (name, value) ∈ changes) :
    changes.lookup name = some value := by
  induction changes with
  | nil => cases hmem
  | cons change rest ih =>
    obtain ⟨name', value'⟩ := change
    obtain ⟨hnot, hrest⟩ := List.nodup_cons.mp hnodup
    obtain heq | hmem := List.mem_cons.mp hmem
    · cases heq
      exact List.lookup_cons_self
    · have hmem' : name ∈ rest.map Prod.fst := List.mem_map_of_mem hmem
      have hne : name ≠ name' := fun heq => hnot (heq ▸ hmem')
      rw [lookup_cons_eq, if_neg hne]
      exact ih hrest hmem

/-- Where no name is given twice, the last value that goes with one is the only one. -/
theorem lastValue?_eq_lookup (hnodup : (changes.map Prod.fst).Nodup) (name : String) :
    lastValue? name changes = changes.lookup name := by
  cases hlast : lastValue? name changes with
  | none => exact (lookup_eq_none_iff_not_mem.mpr (lastValue?_eq_none_iff.mp hlast)).symm
  | some value =>
    obtain ⟨front, back, rfl, -⟩ := lastValue?_eq_some_iff.mp hlast
    exact (lookup_of_mem hnodup (by simp)).symm

namespace MarkdownOptions

/-- Every option has a value. -/
theorem exists_get? (options : MarkdownOptions) (hname : name ∈ MarkdownOptions.names) :
    ∃ value, options.get? name = some value := by
  refine Option.ne_none_iff_exists'.mp fun hnone => ?_
  exact lookup_eq_none_iff_not_mem.mp hnone hname

/-- Setting an option changes the field of its name and no other. -/
theorem fields_set (options : MarkdownOptions) (name : String) (value : Datum) :
    (options.set name value).fields =
      options.fields.map fun field => (field.1, if field.1 = name then value else field.2) := by
  unfold set
  split
  case h_7 hgfm hbreaks hsource hline hlinks hmath =>
    simp only [fields, List.map_cons, List.map_nil, if_neg (Ne.symm hgfm), if_neg (Ne.symm hbreaks),
      if_neg (Ne.symm hsource), if_neg (Ne.symm hline), if_neg (Ne.symm hlinks),
      if_neg (Ne.symm hmath)]
  all_goals simp [fields]

/-- An option that is set has the new value, and the others have theirs. -/
theorem get?_set (options : MarkdownOptions) (name other : String) (value : Datum) :
    (options.set name value).get? other =
      (options.get? other).map fun kept => if other = name then value else kept := by
  rw [get?, get?, fields_set]
  induction options.fields with
  | nil => rfl
  | cons field rest ih =>
    rw [List.map_cons, lookup_cons_eq, lookup_cons_eq, ih]
    by_cases heq : other = field.1 <;> simp [heq]

/-- After changes an option has the last value that they give to it, or the one it had. -/
theorem get?_setAll (options : MarkdownOptions) (name : String) (changes : List (String × Datum)) :
    (options.setAll changes).get? name =
      (options.get? name).map fun kept => (lastValue? name changes).getD kept := by
  induction changes generalizing options with
  | nil => exact Option.map_id'.symm
  | cons change rest ih =>
    rw [setAll, List.foldl_cons, ← setAll, ih, get?_set, Option.map_map, lastValue?_cons]
    refine congrArg (Option.map · (options.get? name)) (funext fun kept => ?_)
    cases lastValue? name rest with
    | some value => rfl
    | none => by_cases heq : name = change.1 <;> simp [heq]

/-- An update that names known options alone goes through. -/
theorem update_of_known (options : MarkdownOptions)
    (hreceiver : receiverName ∉ changes.map Prod.fst)
    (hknown : ∀ name ∈ changes.map Prod.fst, name ∈ MarkdownOptions.names) :
    options.update changes = .ok (options.setAll changes) := by
  rw [update, checkNames_of_known _ hreceiver (unknownNames_eq_nil_iff.mpr hknown)]
  rfl

/-- An update that names something unknown is refused with a report about the first unknown name. -/
theorem update_of_unknown (options : MarkdownOptions)
    (hreceiver : receiverName ∉ changes.map Prod.fst)
    (hunknown : ∃ name ∈ changes.map Prod.fst, name ∉ MarkdownOptions.names) :
    ∃ report name, options.update changes = .error (.reported report) ∧
      IsFirstUnknown MarkdownOptions.names changes name ∧
        report.detail = .invalidValue (some name) ((changes.lookup name).getD .null) := by
  cases hnames : unknownNames MarkdownOptions.names changes with
  | nil =>
    obtain ⟨name, hmem, hnot⟩ := hunknown
    exact absurd (unknownNames_eq_nil_iff.mp hnames name hmem) hnot
  | cons first rest =>
    have hcheck := checkNames_of_unknown "MarkdownParserOptions" hreceiver hnames
    exact ⟨_, first, bind_eq_error_iff.mpr (.inl hcheck), isFirstUnknown_of_cons hnames, rfl⟩

end MarkdownOptions

end

/-- The values that one update gives by name. No name is given twice, and none is that of the
    receiver. -/
structure NamedValues where
  changes : List (String × Datum)
  nodup : (changes.map Prod.fst).Nodup
  receiver : receiverName ∉ changes.map Prod.fst

namespace NamedValues

def names (given : NamedValues) : List String :=
  given.changes.map Prod.fst

/-- The failure reports the first unknown name together with its value. -/
def IsReportedBy (given : NamedValues) (failure : Failure) : Prop :=
  ∃ report name value, failure = .reported report ∧
    report.detail = .invalidValue (some name) value ∧
      IsFirstUnknown MarkdownOptions.names given.changes name ∧ (name, value) ∈ given.changes

/-- The value that a name has in the last of the updates that give it. -/
def lastGiven? (name : String) (updates : List NamedValues) : Option Datum :=
  updates.reverse.findSome? fun given => given.changes.lookup name

theorem lastGiven?_cons (name : String) (given : NamedValues) (updates : List NamedValues) :
    lastGiven? name (given :: updates) =
      (lastGiven? name updates).or (given.changes.lookup name) := by
  rw [lastGiven?, List.reverse_cons, List.findSome?_append, ← lastGiven?, List.findSome?_singleton]

end NamedValues

namespace MarkdownOptions

/-- The options after an update, which may be refused. -/
def attempt (options : MarkdownOptions) (given : NamedValues) : MarkdownOptions :=
  match options.update given.changes with
  | .ok updated => updated
  | .error _ => options

/-- The options after one update after the other. -/
def run (options : MarkdownOptions) (updates : List NamedValues) : MarkdownOptions :=
  updates.foldl attempt options

/-- The updates of a run that are not refused. -/
def accepted (options : MarkdownOptions) : List NamedValues → List NamedValues
  | [] => []
  | given :: rest =>
    match options.update given.changes with
    | .ok updated => given :: updated.accepted rest
    | .error _ => options.accepted rest

variable {options : MarkdownOptions} {given : NamedValues} {failure : Failure} {updated : MarkdownOptions}

/-- An update either goes through and names only options, or is refused and names something else. -/
theorem update_cases (options : MarkdownOptions) (given : NamedValues) :
    ((∀ name ∈ given.names, name ∈ MarkdownOptions.names) ∧
        options.update given.changes = .ok (options.setAll given.changes)) ∨
      (∃ name ∈ given.names, name ∉ MarkdownOptions.names) ∧
        ∃ failure, options.update given.changes = .error failure ∧ given.IsReportedBy failure := by
  by_cases hknown : ∀ name ∈ given.names, name ∈ MarkdownOptions.names
  · exact .inl ⟨hknown, update_of_known options given.receiver hknown⟩
  · have hunknown : ∃ name ∈ given.names, name ∉ MarkdownOptions.names := by
      simpa only [Classical.not_forall, exists_prop] using hknown
    obtain ⟨report, name, hupdate, hfirst, hdetail⟩ :=
      update_of_unknown options given.receiver hunknown
    obtain ⟨⟨name, value⟩, hmem, rfl⟩ := List.mem_map.mp hfirst.given
    rw [lookup_of_mem given.nodup hmem] at hdetail
    exact .inr ⟨hunknown, _, hupdate, report, name, value, rfl, hdetail, hfirst, hmem⟩

/-- An update is refused just if it names something unknown. -/
theorem update_error_iff (options : MarkdownOptions) (given : NamedValues) :
    (∃ failure, options.update given.changes = .error failure) ↔
      ∃ name ∈ given.names, name ∉ MarkdownOptions.names := by
  obtain ⟨hknown, hok⟩ | ⟨hunknown, failure, herror, -⟩ := update_cases options given
  · constructor
    · rintro ⟨failure, herror⟩
      cases herror.symm.trans hok
    · rintro ⟨name, hmem, hnot⟩
      exact absurd (hknown name hmem) hnot
  · exact ⟨fun _ => hunknown, fun _ => ⟨failure, herror⟩⟩

/-- An update that is refused is reported with its first unknown name. -/
theorem isReportedBy_of_update (hupdate : options.update given.changes = .error failure) :
    given.IsReportedBy failure := by
  obtain ⟨-, hok⟩ | ⟨-, other, herror, hreported⟩ := update_cases options given
  · cases hupdate.symm.trans hok
  · cases hupdate.symm.trans herror
    exact hreported

/-- A refused update changes nothing. -/
theorem attempt_of_error (hupdate : options.update given.changes = .error failure) :
    options.attempt given = options := by
  rw [attempt, hupdate]

/-- One update: each option has the value that is given to it, or the one it had. -/
theorem get?_of_update (hupdate : options.update given.changes = .ok updated) (name : String) :
    updated.get? name = (given.changes.lookup name).or (options.get? name) := by
  obtain ⟨hknown, hok⟩ | ⟨-, failure, herror, -⟩ := update_cases options given
  · cases hupdate.symm.trans hok
    rw [get?_setAll, lastValue?_eq_lookup given.nodup]
    cases hlookup : given.changes.lookup name with
    | none => exact Option.map_id'
    | some value =>
      obtain ⟨front, back, hchanges, -⟩ := List.lookup_eq_some_iff.mp hlookup
      have hmem : name ∈ given.names := by simp [NamedValues.names, hchanges]
      obtain ⟨kept, hkept⟩ := exists_get? options (hknown name hmem)
      rw [hkept]
      rfl
  · cases hupdate.symm.trans herror

/-- A run of updates: each option has the value from the last one that was accepted and gives it, or the
    one it had at the start. -/
theorem get?_run (options : MarkdownOptions) (updates : List NamedValues) (name : String) :
    (options.run updates).get? name =
      (NamedValues.lastGiven? name (options.accepted updates)).or (options.get? name) := by
  induction updates generalizing options with
  | nil => rfl
  | cons given rest ih =>
    rw [run, List.foldl_cons, ← run, ih, attempt, accepted]
    cases hupdate : options.update given.changes with
    | error failure => rfl
    | ok updated =>
      rw [NamedValues.lastGiven?_cons, get?_of_update hupdate, Option.or_assoc]

/-- Wherever an update stands in a run, it is refused just if it names something unknown; then the first
    unknown name is reported with its value, and the options stay as they are. After the run each option
    has the value from the last accepted update that gives it, or the one it had at the start. -/
theorem run_atomic (start : MarkdownOptions) (updates : List NamedValues) :
    (∀ front given back, updates = front ++ given :: back →
      ((∃ failure, (start.run front).update given.changes = .error failure) ↔
          ∃ name ∈ given.names, name ∉ MarkdownOptions.names) ∧
        ∀ failure, (start.run front).update given.changes = .error failure →
          given.IsReportedBy failure ∧ start.run (front ++ [given]) = start.run front) ∧
      ∀ name, (start.run updates).get? name =
        (NamedValues.lastGiven? name (start.accepted updates)).or (start.get? name) := by
  refine ⟨fun front given back _ => ⟨update_error_iff _ given, fun failure hfailure => ?_⟩,
    get?_run start updates⟩
  have hrun : start.run (front ++ [given]) = (start.run front).attempt given := List.foldl_append
  exact ⟨isReportedBy_of_update hfailure, hrun.trans (attempt_of_error hfailure)⟩

/-- A run in which the update in the middle is refused, for two of its three names. -/
theorem run_atomic_refused :
    let lacking : NamedValues := ⟨[("math", .null)], by decide, by decide⟩
    let refused : NamedValues :=
      ⟨[("math", .bool false), ("zeal", .int 1), ("Zeal", .int 2)], by decide, by decide⟩
    let plain : NamedValues := ⟨[("gfm", .bool false)], by decide, by decide⟩
    (∃ failure, (default.run [lacking]).update refused.changes = .error failure ∧
        refused.IsReportedBy failure ∧
          default.run ([lacking] ++ [refused]) = default.run [lacking]) ∧
      (default.run [lacking, refused, plain]).get? "math" = some .null := by
  intro lacking refused plain
  obtain ⟨hsteps, hvalues⟩ := run_atomic default [lacking, refused, plain]
  obtain ⟨hiff, hrefused⟩ := hsteps [lacking] refused [plain] rfl
  obtain ⟨failure, hfailure⟩ := hiff.mpr ⟨"Zeal", by decide, by decide⟩
  obtain ⟨hreported, hkept⟩ := hrefused failure hfailure
  exact ⟨⟨failure, hfailure, hreported, hkept⟩, (hvalues "math").trans (by rfl)⟩

end MarkdownOptions

end MarkTree
