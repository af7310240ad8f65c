import MarkTree.Proofs.Tree.Attributes

namespace MarkTree.Attributes

section

variable {test : Label → Bool} {front back attributes : List Attribute} {label : Label} {value : Datum}

/-- Looking up an attribute is finding the first pair that passes the test. -/
theorem findWhere?_eq (test : Label → Bool) (attributes : List Attribute) :
    findWhere? test attributes = (attributes.find? fun pair => test pair.1).map Prod.snd := by
  induction attributes with
  | nil => rfl
  | cons pair rest ih =>
    obtain ⟨label, value⟩ := pair
    by_cases htest : test label = true
    · simp [findWhere?, htest]
    · simp [findWhere?, htest, ih]

/-- What is looked up is the value behind which the front has nothing that passes. -/
theorem findWhere?_of_cut (htest : test label = true) (hfront : ∀ pair ∈ front, test pair.1 = false) :
    findWhere? test (front ++ (label, value) :: back) = some value := by
  have hfind : (front ++ (label, value) :: back).find? (fun pair => test pair.1) = some (label, value) := by
    refine List.find?_eq_some_iff_append.mpr ⟨htest, front, back, rfl, fun pair hmem => ?_⟩
    rw [hfront pair hmem]
    rfl
  rw [findWhere?_eq, hfind]
  rfl

/-- What is split off is the first attribute that passes; its neighbours close up. -/
theorem splitWhere_of_cut (htest : test label = true) (hfront : ∀ pair ∈ front, test pair.1 = false) :
    splitWhere test (front ++ (label, value) :: back) = (some value, front ++ back) := by
  have hrest : (front ++ (label, value) :: back).eraseP (fun pair => test pair.1) = front ++ back := by
    rw [List.eraseP_append_right _ fun pair hmem => Bool.eq_false_iff.mp (hfront pair hmem)]
    exact congrArg (front ++ ·) (List.eraseP_cons_of_pos htest)
  refine Prod.ext ?_ ?_
  · rw [splitWhere_fst, findWhere?_of_cut htest hfront]
  · rw [splitWhere_snd, hrest]

theorem findWhere?_of_none (hnone : ∀ pair ∈ attributes, test pair.1 = false) :
    findWhere? test attributes = none := by
  rw [findWhere?_eq, Option.map_eq_none_iff, List.find?_eq_none]
  exact fun pair hmem => Bool.eq_false_iff.mp (hnone pair hmem)

theorem splitWhere_of_none (hnone : ∀ pair ∈ attributes, test pair.1 = false) :
    splitWhere test attributes = (none, attributes) := by
  have hfind := findWhere?_of_none hnone
  exact Prod.ext ((splitWhere_fst test attributes).trans hfind)
    (splitWhere_snd_of_findWhere?_eq_none hfind)

/-- Attributes come apart at the first one that passes, or none passes. -/
theorem exists_cut_or_none (test : Label → Bool) (attributes : List Attribute) :
    (∃ front label value back, attributes = front ++ (label, value) :: back ∧ test label = true ∧
        ∀ pair ∈ front, test pair.1 = false) ∨
      ∀ pair ∈ attributes, test pair.1 = false := by
  cases hfind : attributes.find? fun pair => test pair.1 with
  | some pair =>
    obtain ⟨htest, front, back, hcut, hfront⟩ := List.find?_eq_some_iff_append.mp hfind
    refine .inl ⟨front, pair.1, pair.2, back, hcut, htest, fun earlier hmem => ?_⟩
    simpa using hfront earlier hmem
  | none =>
    refine .inr fun pair hmem => ?_
    simpa using List.find?_eq_none.mp hfind pair hmem

theorem insertIdx_length_append (front back : List Attribute) (pair : Attribute) :
    (front ++ back).insertIdx front.length pair = front ++ pair :: back := by
  induction front with
  | nil => rfl
  | cons first rest ih =>
    rw [List.length_cons, List.cons_append, List.insertIdx_succ_cons, ih, List.cons_append]

end

/-- Splitting off a name until none is found: the values on the way, and the attributes left in the end. -/
inductive SplitsAll (name : String) : List Attribute → List Datum → List Attribute → Prop
  | done {attributes rest : List Attribute} (hsplit : splitFirst name attributes = (none, rest)) :
    SplitsAll name attributes [] rest
  | again {attributes rest others : List Attribute} {value : Datum} {values : List Datum}
      (hsplit : splitFirst name attributes = (some value, rest))
      (hrest : SplitsAll name rest values others) : SplitsAll name attributes (value :: values) others

namespace SplitsAll

variable {name : String} {attributes others others' : List Attribute} {values values' : List Datum}

/-- An attribute of another name in front stays there. -/
theorem cons_other {label : Label} (value : Datum) (hother : label.reads name = false)
    (hall : SplitsAll name attributes values others) :
    SplitsAll name ((label, value) :: attributes) values ((label, value) :: others) := by
  induction hall with
  | done hsplit =>
    refine .done ?_
    rw [splitFirst] at hsplit ⊢
    rw [splitWhere, hother, hsplit]
    rfl
  | again hsplit _ ih =>
    refine .again ?_ ih
    rw [splitFirst] at hsplit ⊢
    rw [splitWhere, hother, hsplit]
    rfl

/-- An attribute of the name in front is the first to be split off. -/
theorem cons_named {label : Label} (value : Datum) (hnamed : label.reads name = true)
    (hall : SplitsAll name attributes values others) :
    SplitsAll name ((label, value) :: attributes) (value :: values) others := by
  refine .again ?_ hall
  rw [splitFirst, splitWhere, if_pos hnamed]

/-- Splitting comes to an end. -/
theorem filter (name : String) (attributes : List Attribute) :
    SplitsAll name attributes ((attributes.filter fun pair => pair.1.reads name).map Prod.snd)
      (attributes.filter fun pair => !pair.1.reads name) := by
  induction attributes with
  | nil => exact .done rfl
  | cons pair rest ih =>
    obtain ⟨label, value⟩ := pair
    cases hname : label.reads name with
    | true =>
      simp only [List.filter_cons, hname, Bool.not_true, if_true, List.map_cons]
      exact cons_named value hname ih
    | false =>
      simp only [List.filter_cons, hname, Bool.not_false, if_true]
      exact cons_other value hname ih

/-- There is one way only to come to an end. -/
theorem unique (hall : SplitsAll name attributes values others)
    (hall' : SplitsAll name attributes values' others') : values = values' ∧ others = others' := by
  induction hall generalizing values' with
  | done hsplit =>
    cases hall' with
    | done hsplit' =>
      rw [hsplit, Prod.mk.injEq] at hsplit'
      exact ⟨rfl, hsplit'.2⟩
    | again hsplit' => cases hsplit.symm.trans hsplit'
  | again hsplit _ ih =>
    cases hall' with
    | done hsplit' => cases hsplit.symm.trans hsplit'
    | again hsplit' hrest' =>
      rw [hsplit, Prod.mk.injEq, Option.some.injEq] at hsplit'
      obtain ⟨rfl, rfl⟩ := hsplit'
      obtain ⟨rfl, rfl⟩ := ih hrest'
      exact ⟨rfl, rfl⟩

end SplitsAll

/-- If some attribute has the name, the attributes are the rest with one of the name put in at a position
    before which none has it, and its value is the one found, as in looking up; if none has the name, the
    rest is all attributes, no value is found, and looking up gives the default. So splitting again and again
    gives the values of the name in order, and ends with the attributes of other names in their order. -/
theorem splitFirst_inserts (name : String) (default : Datum) (attributes : List Attribute) :
    ∃ found rest, splitFirst name attributes = (found, rest) ∧
      ((∃ pair ∈ attributes, pair.1.reads name = true) →
        ∃ index label value, label.reads name = true ∧ index ≤ rest.length ∧
          attributes = rest.insertIdx index (label, value) ∧
          (∀ pair ∈ attributes.take index, pair.1.reads name = false) ∧
          found = some value ∧ get name default attributes = value) ∧
      ((∀ pair ∈ attributes, pair.1.reads name = false) →
        rest = attributes ∧ found = none ∧ get name default attributes = default) ∧
      ∀ values others, SplitsAll name attributes values others ↔
        values = (attributes.filter fun pair => pair.1.reads name).map Prod.snd ∧
          others = attributes.filter fun pair => !pair.1.reads name := by
  have hall (values : List Datum) (others : List Attribute) : SplitsAll name attributes values others ↔
      values = (attributes.filter fun pair => pair.1.reads name).map Prod.snd ∧
        others = attributes.filter fun pair => !pair.1.reads name := by
    constructor
    · exact fun hall => hall.unique (.filter name attributes)
    · rintro ⟨rfl, rfl⟩
      exact .filter name attributes
  obtain ⟨front, label, value, back, rfl, hlabel, hfront⟩ | hnone :=
    exists_cut_or_none (Label.reads name) attributes
  · refine ⟨some value, front ++ back, splitWhere_of_cut hlabel hfront, fun _ => ?_, fun hnone => ?_, hall⟩
    · refine ⟨front.length, label, value, hlabel, by simp, (insertIdx_length_append ..).symm, ?_, rfl, ?_⟩
      · rw [List.take_left]
        exact hfront
      · rw [get, getWhere, findWhere?_of_cut hlabel hfront]
        rfl
    · have hother := hnone (label, value) (by simp)
      rw [hlabel] at hother
      cases hother
  · refine ⟨none, attributes, splitWhere_of_none hnone, fun hsome => ?_, fun _ => ⟨rfl, rfl, ?_⟩, hall⟩
    · obtain ⟨pair, hmem, hname⟩ := hsome
      rw [hnone pair hmem] at hname
      cases hname
    · rw [get, getWhere, findWhere?_of_none hnone]
      rfl

/-- Attributes with two classes, the first of them behind another attribute. -/
def twoClasses : List Attribute :=
  [(.name "id", .str "a"), (.name "class", .str "b"), (.name "class", .str "c")]

theorem splitFirst_inserts_twoClasses :
    (∃ pair ∈ twoClasses, pair.1.reads "class" = true) ∧
      (∃ value, splitFirst "class" twoClasses = (some value, twoClasses.eraseIdx 1) ∧
        get "class" .null twoClasses = value) ∧
      SplitsAll "class" twoClasses [.str "b", .str "c"] [(.name "id", .str "a")] ∧
      (∀ pair ∈ twoClasses, pair.1.reads "title" = false) ∧
        splitFirst "title" twoClasses = (none, twoClasses) := by
  have hclass : ∃ pair ∈ twoClasses, pair.1.reads "class" = true := by decide
  have htitle : ∀ pair ∈ twoClasses, pair.1.reads "title" = false := by decide
  obtain ⟨found, rest, hsplit, hfound, -, hall⟩ := splitFirst_inserts "class" .null twoClasses
  obtain ⟨index, label, value, -, -, -, -, rfl, hget⟩ := hfound hclass
  obtain ⟨untitled, others, huntitled, -, hnone, -⟩ := splitFirst_inserts "title" .null twoClasses
  obtain ⟨rfl, rfl, -⟩ := hnone htitle
  have hrest : rest = twoClasses.eraseIdx 1 := congrArg Prod.snd hsplit.symm
  refine ⟨hclass, ⟨value, ?_, hget⟩, (hall _ _).mpr ⟨by decide, by decide⟩, htitle, huntitled⟩
  rw [hsplit, hrest]

end MarkTree.Attributes
