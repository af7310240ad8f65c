import MarkTree.Json.Reader
import MarkTree.Proofs.Json.Scanning

namespace MarkTree.Json

/-- A value is read from its tokens, wherever a value may stand. -/
def IsRead (value : Datum) : Prop :=
  ∀ frames, (tokensOf value).foldl Reader.step (.value frames) = .complete value frames

/-- The tokens of a value start with one that a first item may start with. -/
theorem tokensOf_eq_cons (value : Datum) :
    ∃ token rest, tokensOf value = token :: rest ∧ token ≠ .closeList := by
  cases value with
  | list items =>
    cases items with
    | nil => exact ⟨_, _, rfl, nofun⟩
    | cons item items => exact ⟨_, _, rfl, nofun⟩
  | dict entries =>
    cases entries with
    | nil => exact ⟨_, _, rfl, nofun⟩
    | cons entry entries => exact ⟨_, _, rfl, nofun⟩
  | _ => exact ⟨_, _, rfl, nofun⟩

/-- The first item of a list is read as any item is. -/
theorem foldl_step_firstItem {item : Datum} (hitem : IsRead item) (frames : List Frame) :
    (tokensOf item).foldl Reader.step (.firstItem frames) = .complete item (.list [] :: frames) := by
  obtain ⟨token, rest, htokens, hne⟩ := tokensOf_eq_cons item
  have hstep : (Reader.firstItem frames).step token = (Reader.value (.list [] :: frames)).step token := by
    cases token with
    | closeList => exact absurd rfl hne
    | _ => rfl
  rw [← hitem, htokens, List.foldl_cons, List.foldl_cons, hstep]

/-- The items before the one at hand are kept with the latest in front. -/
theorem foldl_step_itemTokens {items : List Datum} (hitems : ∀ item ∈ items, IsRead item)
    (frames : List Frame) : ∀ (item : Datum) (before : List Datum),
      (itemTokens items).foldl Reader.step (.complete item (.list before :: frames)) =
        .complete (.list (before.reverse ++ item :: items)) frames := by
  induction items with
  | nil =>
    intro item before
    rw [itemTokens, List.foldl_cons, List.foldl_nil, Reader.step, List.reverse_cons]
  | cons next items ih =>
    intro item before
    obtain ⟨hnext, hitems⟩ := List.forall_mem_cons.mp hitems
    have hcomma : (Reader.complete item (.list before :: frames)).step .comma =
        .value (.list (item :: before) :: frames) := rfl
    rw [itemTokens, List.cons_append, List.foldl_cons, hcomma, List.foldl_append, hnext, ih hitems,
      List.reverse_cons, List.append_assoc]
    rfl

/-- Where names do not repeat, a name is not among those in front of it. -/
theorem fresh_of_nodup {name : String} {value : Datum} {before rest : List (String × Datum)}
    (hnames : ((before ++ (name, value) :: rest).map Prod.fst).Nodup) : name ∉ before.map Prod.fst := by
  rw [List.map_append, List.nodup_append] at hnames
  intro hmem
  exact hnames.2.2 name hmem name List.mem_cons_self rfl

/-- A key that is new to the dictionary is put behind the entries before it. -/
theorem foldl_step_entryTokens {fields : List (String × Datum)}
    (hfields : ∀ field ∈ fields, IsRead field.2) (frames : List Frame) :
    ∀ (name : String) (value : Datum) (before : List (String × Datum)),
      ((before ++ (name, value) :: fields).map Prod.fst).Nodup →
        (entryTokens (Entries.ofFields fields)).foldl Reader.step
            (.complete value (.dict (Entries.ofFields before) name :: frames)) =
          .complete (.dict (Entries.ofFields (before ++ (name, value) :: fields))) frames := by
  induction fields with
  | nil =>
    intro name value before hnames
    rw [Entries.ofFields_nil, entryTokens, List.foldl_cons, List.foldl_nil, Reader.step,
      Entries.insert_ofFields value (fresh_of_nodup hnames)]
  | cons field fields ih =>
    intro name value before hnames
    obtain ⟨name', value'⟩ := field
    obtain ⟨hvalue, hfields⟩ := List.forall_mem_cons.mp hfields
    have hkey : [Token.comma, .scalar (.str name'), .colon].foldl Reader.step
        (.complete value (.dict (Entries.ofFields before) name :: frames)) =
          .value (.dict (Entries.ofFields (before ++ [(name, value)])) name' :: frames) := by
      rw [← Entries.insert_ofFields value (fresh_of_nodup hnames)]
      rfl
    have hrest := ih hfields name' value' (before ++ [(name, value)])
    rw [List.append_assoc, List.singleton_append] at hrest
    have htokens : entryTokens (Entries.ofFields ((name', value') :: fields)) =
        [.comma, .scalar (.str name'), .colon] ++
          (tokensOf value' ++ entryTokens (Entries.ofFields fields)) := rfl
    rw [htokens, List.foldl_append, hkey, List.foldl_append, hvalue, hrest hnames]

/-- Every plain value is read from its tokens, whatever brackets are open around it. -/
theorem isRead {value : Datum} (hplain : value.IsPlain) : IsRead value := by
  induction hplain with
  | null | bool | int | str => exact fun _ => rfl
  | @list items _ ih =>
    intro frames
    cases items with
    | nil => rfl
    | cons item items =>
      obtain ⟨hitem, hitems⟩ := List.forall_mem_cons.mp ih
      have hopen : (Reader.value frames).step .openList = .firstItem frames := rfl
      rw [tokensOf, List.cons_append, List.foldl_cons, hopen, List.foldl_append,
        foldl_step_firstItem hitem, foldl_step_itemTokens hitems]
      rfl
  | @dict fields hnames _ ih =>
    intro frames
    cases fields with
    | nil => rfl
    | cons field fields =>
      obtain ⟨name, value⟩ := field
      obtain ⟨hvalue, hfields⟩ := List.forall_mem_cons.mp ih
      have hkey : [Token.openDict, .scalar (.str name), .colon].foldl Reader.step (.value frames) =
          .value (.dict [] name :: frames) := rfl
      have hrest := foldl_step_entryTokens hfields frames name value [] hnames
      have htokens : tokensOf (.dict (Entries.ofFields ((name, value) :: fields))) =
          [.openDict, .scalar (.str name), .colon] ++
            (tokensOf value ++ entryTokens (Entries.ofFields fields)) := rfl
      rw [htokens, List.foldl_append, hkey, List.foldl_append, hvalue, ← Entries.ofFields_nil, hrest,
        List.nil_append]

/-- A plain value is written, and reading what is written gives the value, whatever blanks it is
    indented with. -/
theorem read_render {indent : Option String}
    (hindent : ∀ unit ∈ indent, ∀ c ∈ unit.toList, isBlank c = true) {value : Datum}
    (hplain : value.IsPlain) : ∃ text, render indent value = .ok text ∧ read text = .ok value := by
  have hblank : ∀ unit ∈ indent.map String.toList, ∀ c ∈ unit, isBlank c = true := by
    intro unit hunit
    obtain ⟨text, htext, rfl⟩ := Option.map_eq_some_iff.mp hunit
    exact hindent text htext
  refine ⟨String.ofList (write (indent.map String.toList) 0 value), ?_, ?_⟩
  · rw [render, writeError?_eq_none hplain]
  · rw [read, String.toList_ofList, tokens_write hblank hplain, isRead hplain]
    rfl

end MarkTree.Json
