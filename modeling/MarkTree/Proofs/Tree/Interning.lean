import Mathlib.Data.List.Forall2
import Mathlib.Data.List.Nodup
import MarkTree.Tree.NameTable

namespace MarkTree

namespace Nameable

variable {α : Type} [Nameable α]

/-- The spelling of a value that can be a key. -/
def textOf (value : α) : Except Fault String :=
  if hashable value then spelling value else .error .unhashable

/-- The value is no other key than its spelling: if it is the same key as a text, it is spelled like that. -/
def IsSpelledAsKey (value : α) : Prop :=
  ∀ text, isText value text = true → spelling value = .ok text

/-- Of the values in data only a text is the same key as a text. -/
theorem eq_of_sameKey_str {value : Datum} {text : String} (h : value.sameKey (.str text) = true) :
    value = .str text := by
  rw [Datum.sameKey, Bool.or_eq_true, decide_eq_true_iff] at h
  obtain h | h := h
  · exact h
  · cases value with
    | str other => rw [eq_of_beq (by simpa using h : (other == text) = true)]
    | _ => simp [Datum.equal, Datum.equalScalars, Datum.int?] at h

theorem isSpelledAsKey_name (name : Name) : IsSpelledAsKey name :=
  fun _ h => by rw [← eq_of_beq h]; rfl

/-- Data as it comes from outside is spelled as any text that it is equal to, since only texts are. -/
theorem isSpelledAsKey_datum (value : Datum) : IsSpelledAsKey value :=
  fun _ h => by rw [eq_of_sameKey_str h]; rfl

end Nameable

namespace NameTable

open Nameable

/-- What every table that has been filled by asking for names satisfies. -/
structure IsSound (table : NameTable) : Prop where
  /-- A key is the text of its name. -/
  text : ∀ entry ∈ table.entries, entry.2.text = entry.1
  /-- No key occurs twice. -/
  keys : (table.entries.map Prod.fst).Nodup
  /-- Names are numbered in the order of making. -/
  serials : table.entries.map (fun entry => entry.2.serial) = List.range table.entries.length

/-- The name is in the table, under its text. -/
def Holds (table : NameTable) (name : Name) : Prop :=
  (name.text, name) ∈ table.entries

/-- The table with one more name. -/
def add (table : NameTable) (text : String) : NameTable :=
  { entries := table.entries ++ [(text, { text, serial := table.entries.length })] }

variable {α : Type} [Nameable α] {table : NameTable}

theorem isSound_empty : empty.IsSound :=
  ⟨nofun, List.nodup_nil, rfl⟩

theorem IsSound.eq_of_text {name other : Name} (htable : table.IsSound) (hname : table.Holds name)
    (hother : table.Holds other) (htext : name.text = other.text) : name = other := by
  have hentry : (name.text, name) = (other.text, other) :=
    List.inj_on_of_nodup_map htable.keys hname hother htext
  exact congrArg Prod.snd hentry

/-- In a sound table names of one number are one name. -/
theorem IsSound.eq_of_serial {name other : Name} (htable : table.IsSound) (hname : table.Holds name)
    (hother : table.Holds other) (hserial : name.serial = other.serial) : name = other := by
  have hserials : (table.entries.map fun entry => entry.2.serial).Nodup := by
    rw [htable.serials]
    exact List.nodup_range
  have hentry : (name.text, name) = (other.text, other) :=
    List.inj_on_of_nodup_map hserials hname hother hserial
  exact congrArg Prod.snd hentry

/-- Numbers tell names apart, and so do texts. -/
theorem IsSound.serial_eq_iff {name other : Name} (htable : table.IsSound) (hname : table.Holds name)
    (hother : table.Holds other) : name.serial = other.serial ↔ name.text = other.text :=
  ⟨fun hserial => congrArg Name.text (htable.eq_of_serial hname hother hserial),
    fun htext => congrArg Name.serial (htable.eq_of_text hname hother htext)⟩

/-- A sound table stays sound when a name with a new text is added. -/
theorem IsSound.add {text : String} (htable : table.IsSound)
    (hnew : ∀ name, table.Holds name → name.text ≠ text) : (table.add text).IsSound where
  text := by
    rw [NameTable.add, List.forall_mem_append]
    exact ⟨htable.text, by simp⟩
  keys := by
    have hfresh : text ∉ table.entries.map Prod.fst := by
      rw [List.mem_map]
      rintro ⟨⟨key, name⟩, hmem, rfl⟩
      obtain rfl : name.text = key := htable.text _ hmem
      exact hnew name hmem rfl
    rw [NameTable.add, List.map_append, List.map_singleton, List.nodup_append]
    refine ⟨htable.keys, List.nodup_singleton _, fun key hkey other hother => ?_⟩
    rintro rfl
    obtain rfl := List.mem_singleton.mp hother
    exact hfresh hkey
  serials := by
    rw [NameTable.add, List.map_append, htable.serials, List.length_append, List.length_singleton,
      List.range_succ]
    rfl

/-- What is found is in the table, and its text is equal to the value that was looked for. -/
theorem IsSound.of_find? {value : α} {name : Name} (htable : table.IsSound)
    (hfind : table.find? value = some name) : table.Holds name ∧ isText value name.text = true := by
  obtain ⟨⟨key, other⟩, hentry, rfl⟩ := Option.map_eq_some_iff.mp hfind
  have hmem := List.mem_of_find?_eq_some hentry
  obtain rfl : other.text = key := htable.text _ hmem
  have htext := List.find?_some hentry
  exact ⟨hmem, htext⟩

/-- If nothing is found, no name of the table has a text that is equal to the value. -/
theorem text_ne_of_find? {value : α} {name : Name} (hfind : table.find? value = none)
    (hname : table.Holds name) : isText value name.text = false := by
  rw [find?, Option.map_eq_none_iff] at hfind
  simpa using List.find?_eq_none.mp hfind _ hname

/-- The default is in the table already, or it is put behind all other entries. -/
theorem IsSound.setDefault_cases (htable : table.IsSound) (text : String) :
    (∃ name, table.setDefault text = (name, table) ∧ name.text = text ∧ table.Holds name) ∨
      table.setDefault text = ({ text, serial := table.entries.length }, table.add text) ∧
        ∀ name, table.Holds name → name.text ≠ text := by
  rw [setDefault]
  cases hfind : table.find? text with
  | some name =>
    obtain ⟨hname, htext⟩ := htable.of_find? hfind
    exact .inl ⟨name, rfl, (eq_of_beq htext).symm, hname⟩
  | none =>
    refine .inr ⟨rfl, fun name hname htext => ?_⟩
    have hnot := text_ne_of_find? hfind hname
    rw [htext] at hnot
    exact absurd hnot (by simp [isText])

/-- All that asking for a name can do: it fails for a value without a spelling, it finds a name with the
    spelling or with a text that the value is the same key as, or it puts the name with the spelling behind
    all other entries. -/
theorem IsSound.nameOf_cases (htable : table.IsSound) (value : α) :
    (∃ fault, table.nameOf value = (.error fault, table) ∧ textOf value = .error fault) ∨
      (∃ name, table.nameOf value = (.ok name, table) ∧
        (hashable value = true ∧ isText value name.text = true ∨ textOf value = .ok name.text) ∧
          table.Holds name) ∨
      ∃ text, table.nameOf value =
          (.ok { text, serial := table.entries.length }, table.add text) ∧
        textOf value = .ok text ∧ ∀ name, table.Holds name → name.text ≠ text := by
  unfold nameOf textOf
  by_cases hhash : hashable value = true
  · simp only [hhash, if_true]
    cases hfind : table.find? value with
    | some name =>
      obtain ⟨hname, htext⟩ := htable.of_find? hfind
      exact .inr (.inl ⟨name, rfl, .inl ⟨trivial, htext⟩, hname⟩)
    | none =>
      cases hspell : spelling value with
      | error fault => exact .inl ⟨fault, rfl, rfl⟩
      | ok text =>
        obtain ⟨name, hdefault, rfl, hname⟩ | ⟨hdefault, hnew⟩ := htable.setDefault_cases text
        · exact .inr (.inl ⟨name, by simp only [hdefault], .inr rfl, hname⟩)
        · exact .inr (.inr ⟨text, by simp only [hdefault], rfl, hnew⟩)
  · simp only [hhash]
    exact .inl ⟨.unhashable, rfl, rfl⟩

/-- The result is a name in the table, or the fault of the spelling. It is what the spelling asks for, unless
    the value is the same key as another text. -/
structure IsAnswer (table : NameTable) (value : α) (result : Except Fault Name) : Prop where
  text : IsSpelledAsKey value → result.map Name.text = textOf value
  fault : ∀ fault, result = .error fault → textOf value = .error fault
  holds : ∀ name, result = .ok name → table.Holds name

theorem IsAnswer.mono {value : α} {result : Except Fault Name} {later : NameTable}
    (hanswer : table.IsAnswer value result) (hlater : table.entries <+: later.entries) :
    later.IsAnswer value result :=
  { hanswer with holds := fun name hname => hlater.subset (hanswer.holds name hname) }

/-- What one call preserves. -/
theorem IsSound.nameOf (htable : table.IsSound) (value : α) :
    (table.nameOf value).2.IsSound ∧ table.entries <+: (table.nameOf value).2.entries ∧
      (table.nameOf value).2.IsAnswer value (table.nameOf value).1 := by
  obtain ⟨fault, hcall, htext⟩ | ⟨name, hcall, htext, hname⟩ | ⟨text, hcall, htext, hnew⟩ :=
    htable.nameOf_cases value <;> rw [hcall]
  · refine ⟨htable, List.prefix_rfl, fun _ => htext.symm, ?_, nofun⟩
    rintro _ ⟨⟩
    exact htext
  · refine ⟨htable, List.prefix_rfl, fun hspelled => ?_, nofun, ?_⟩
    · obtain ⟨hhash, hkey⟩ | htext := htext
      · rw [textOf, if_pos hhash, hspelled name.text hkey]
        rfl
      · exact htext.symm
    · rintro _ ⟨⟩
      exact hname
  · refine ⟨htable.add hnew, List.prefix_append _ _, fun _ => htext.symm, nofun, ?_⟩
    rintro _ ⟨⟩
    exact List.mem_append_right _ (List.mem_singleton.mpr rfl)

/-- A failing call leaves the table alone. -/
theorem IsSound.nameOf_of_error {fault : Fault} (htable : table.IsSound) (value : α)
    (hfault : (table.nameOf value).1 = .error fault) : (table.nameOf value).2 = table := by
  obtain ⟨fault', hcall, -⟩ | ⟨name, hcall, -⟩ | ⟨text, hcall, -⟩ := htable.nameOf_cases value <;>
    rw [hcall] at hfault
  · rw [hcall]
  · cases hfault
  · cases hfault

/-- A name of the table is its own canonical name. -/
theorem IsSound.nameOf_name {name : Name} (htable : table.IsSound) (hname : table.Holds name) :
    table.nameOf name = (.ok name, table) := by
  have htext : textOf name = .ok name.text := rfl
  obtain ⟨fault, -, herror⟩ | ⟨other, hcall, hother, hholds⟩ | ⟨text, -, hok, hnew⟩ :=
    htable.nameOf_cases name
  · rw [htext] at herror
    cases herror
  · have hsame : name.text = other.text := by
      obtain ⟨-, hkey⟩ | hother := hother
      · exact eq_of_beq hkey
      · exact Except.ok.inj hother
    rw [hcall, htable.eq_of_text hname hholds hsame]
  · rw [htext, Except.ok.injEq] at hok
    exact absurd hok (hnew name hname)

theorem nameAll_cons (table : NameTable) (value : α) (values : List α) :
    table.nameAll (value :: values) =
      ((table.nameOf value).1 :: ((table.nameOf value).2.nameAll values).1,
        ((table.nameOf value).2.nameAll values).2) := rfl

/-- What a run preserves: by induction on the values, with the table left by the first call. -/
theorem IsSound.nameAll (values : List α) : ∀ {table : NameTable}, table.IsSound →
    (table.nameAll values).2.IsSound ∧ table.entries <+: (table.nameAll values).2.entries ∧
      List.Forall₂ (table.nameAll values).2.IsAnswer values (table.nameAll values).1 := by
  induction values with
  | nil => exact fun htable => ⟨htable, List.prefix_rfl, .nil⟩
  | cons value values ih =>
    intro table htable
    obtain ⟨hnext, hprefix, hanswer⟩ := htable.nameOf value
    obtain ⟨hlast, hprefix', hanswers⟩ := ih hnext
    rw [nameAll_cons]
    exact ⟨hlast, hprefix.trans hprefix', .cons (hanswer.mono hprefix') hanswers⟩

theorem nameAll_append (front back : List α) : ∀ table : NameTable,
    table.nameAll (front ++ back) =
      ((table.nameAll front).1 ++ ((table.nameAll front).2.nameAll back).1,
        ((table.nameAll front).2.nameAll back).2) := by
  induction front with
  | nil => exact fun _ => rfl
  | cons value front ih =>
    intro table
    rw [List.cons_append, nameAll_cons, ih, nameAll_cons]
    rfl

/-- Each call of a run has a right answer. -/
theorem isAnswer_of_getElem? {values : List α} {results : List (Except Fault Name)} {index : Nat}
    {value : α} {result : Except Fault Name}
    (hanswers : List.Forall₂ table.IsAnswer values results) (hvalue : values[index]? = some value)
    (hresult : results[index]? = some result) : table.IsAnswer value result := by
  obtain ⟨hlt, rfl⟩ := List.getElem?_eq_some_iff.mp hvalue
  obtain ⟨hlt', rfl⟩ := List.getElem?_eq_some_iff.mp hresult
  exact List.Forall₂.get hanswers hlt hlt'

/-- However names are asked for, one after the other and from the empty table on: every entry has the text
    of its name as its key, and no key has two; a call fails only for a value that has no spelling or can be
    no key; a name that has been given is its own canonical name; the entries of an earlier table are those
    at the front of a later one; and a failing call leaves the table as it was. A value that is the same key
    as no text but its spelling gets the name with the spelling, or fails for want of one, and two calls for
    such values give the same name exactly when they are spelled alike. -/
theorem nameAll_empty (values : List α) :
    ∃ results table, empty.nameAll values = (results, table) ∧ results.length = values.length ∧
      (∀ key name, (key, name) ∈ table.entries → name.text = key) ∧
      (table.entries.map Prod.fst).Nodup ∧
      (∀ (i : Nat) (value : α) (result : Except Fault Name),
        values[i]? = some value → results[i]? = some result →
          (IsSpelledAsKey value → result.map Name.text = textOf value) ∧
            ∀ fault, result = .error fault → textOf value = .error fault) ∧
      (∀ (i j : Nat) (value value' : α) (name name' : Name),
        values[i]? = some value → values[j]? = some value' →
          results[i]? = some (.ok name) → results[j]? = some (.ok name') →
            IsSpelledAsKey value → IsSpelledAsKey value' →
              (name.serial = name'.serial ↔ textOf value = textOf value')) ∧
      (∀ name, .ok name ∈ results → table.nameOf name = (.ok name, table)) ∧
      (∀ front back, values = front ++ back →
        (empty.nameAll front).2.entries <+: table.entries) ∧
      ∀ front value back fault, values = front ++ value :: back →
        ((empty.nameAll front).2.nameOf value).1 = .error fault →
          ((empty.nameAll front).2.nameOf value).2 = (empty.nameAll front).2 := by
  obtain ⟨hsound, -, hanswers⟩ := isSound_empty.nameAll values
  refine ⟨_, _, rfl, hanswers.length_eq.symm, fun key name hmem => hsound.text _ hmem, hsound.keys,
    ?_, ?_, ?_, ?_, ?_⟩
  · intro i value result hvalue hresult
    have hanswer := isAnswer_of_getElem? hanswers hvalue hresult
    exact ⟨hanswer.text, hanswer.fault⟩
  · intro i j value value' name name' hvalue hvalue' hname hname' hspelled hspelled'
    have hanswer := isAnswer_of_getElem? hanswers hvalue hname
    have hanswer' := isAnswer_of_getElem? hanswers hvalue' hname'
    rw [hsound.serial_eq_iff (hanswer.holds name rfl) (hanswer'.holds name' rfl),
      ← hanswer.text hspelled, ← hanswer'.text hspelled']
    exact ⟨congrArg Except.ok, Except.ok.inj⟩
  · intro name hmem
    obtain ⟨index, hresult⟩ := List.mem_iff_getElem?.mp hmem
    obtain ⟨hlt, -⟩ := List.getElem?_eq_some_iff.mp hresult
    have hvalue := List.getElem?_eq_getElem (hanswers.length_eq ▸ hlt)
    exact hsound.nameOf_name ((isAnswer_of_getElem? hanswers hvalue hresult).holds name rfl)
  · rintro front back rfl
    rw [nameAll_append]
    exact ((isSound_empty.nameAll front).1.nameAll back).2.1
  · intro front value back fault _ hfault
    exact (isSound_empty.nameAll front).1.nameOf_of_error value hfault

/-- Values of several kinds: texts, a number, a name made elsewhere, and a list. -/
def mixedValues : List (Datum ⊕ Name) :=
  [.inl (.str "div"), .inl (.int 1), .inr ⟨"div", 9⟩, .inl (.list []), .inl (.str "1")]

theorem nameAll_empty_mixedValues :
    ∃ results table, empty.nameAll mixedValues = (results, table) ∧
      (∀ value ∈ mixedValues, IsSpelledAsKey value) ∧
      results.map (Except.map Name.text) =
        [.ok "div", .ok "1", .ok "div", .error .unhashable, .ok "1"] ∧
      (∀ name name', results[1]? = some (.ok name) → results[4]? = some (.ok name') →
        name.serial = name'.serial) ∧
      ∀ name name', results[0]? = some (.ok name) → results[1]? = some (.ok name') →
        name.serial ≠ name'.serial := by
  obtain ⟨results, table, hrun, hlength, -, -, htexts, hsame, -⟩ := nameAll_empty mixedValues
  have hspelled : ∀ value : Datum ⊕ Name, IsSpelledAsKey value
    | .inl value => isSpelledAsKey_datum value
    | .inr name => isSpelledAsKey_name name
  refine ⟨results, table, hrun, fun value _ => hspelled value, ?_, ?_, ?_⟩
  · have hall : results.map (Except.map Name.text) = mixedValues.map textOf := by
      refine List.ext_getElem (by rw [List.length_map, List.length_map, hlength]) fun i hi hi' => ?_
      rw [List.getElem_map, List.getElem_map]
      rw [List.length_map] at hi hi'
      exact (htexts i _ _ (List.getElem?_eq_getElem hi') (List.getElem?_eq_getElem hi)).1 (hspelled _)
    exact hall.trans (by decide +kernel)
  · intro name name' hname hname'
    refine (hsame 1 4 _ _ name name' rfl rfl hname hname' (hspelled _) (hspelled _)).mpr ?_
    decide +kernel
  · intro name name' hname hname' hserial
    have htext := (hsame 0 1 _ _ name name' rfl rfl hname hname' (hspelled _) (hspelled _)).mp hserial
    exact absurd htext (by decide +kernel)

/-- A member of an enumeration of texts. It is compared like its text and spelled by its full name. -/
structure TextMember where
  text : String
  fullName : String

instance : Nameable TextMember where
  hashable _ := true
  isText member text := member.text == text
  spelling member := .ok member.fullName

/-- Before its text has been asked for the member gets a name with its spelling, and afterwards the name of
    the text, which is spelled otherwise. -/
theorem nameAll_empty_textMember :
    let member : TextMember := ⟨"div", "Tag.DIV"⟩
    let values : List (TextMember ⊕ String) := [.inl member, .inr "div", .inl member]
    values.map textOf = [.ok "Tag.DIV", .ok "div", .ok "Tag.DIV"] ∧
      (empty.nameAll values).1 = [.ok ⟨"Tag.DIV", 0⟩, .ok ⟨"div", 1⟩, .ok ⟨"div", 1⟩] ∧
        ¬ IsSpelledAsKey member := by
  refine ⟨by decide +kernel, by decide +kernel, fun hspelled => ?_⟩
  have htext : (.ok "Tag.DIV" : Except Fault String) = .ok "div" := hspelled "div" rfl
  exact absurd (Except.ok.inj htext) (by decide)

end NameTable

end MarkTree
