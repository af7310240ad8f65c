import MarkTree.Proofs.Json.Obstacle
import MarkTree.Proofs.Result
import MarkTree.Proofs.Tree.RoundTrip

namespace MarkTree

open Json

namespace Node

/-- The kind of a node that has no wire form. -/
def strayKind? : Node → Option String
  | .bare => some "Node"
  | .foreign kindName => some kindName
  | .text _ | .comment _ _ | .element _ _ _ _ => none

theorem unknown?_leaf {node : Node} (hleaf : node.isElement = false) : unknown? node = node.strayKind? := by
  cases node with
  | element => cases hleaf
  | _ => rfl

/-- The node that is reported is the first in preorder. -/
theorem anyUnknown?_eq (nodes : List Node) : anyUnknown? nodes = (nodesOf nodes).findSome? strayKind? := by
  induction nodes using siblings_induction with
  | nil => rfl
  | leaf node rest hleaf ih =>
    rw [anyUnknown?, unknown?_leaf hleaf, ih, nodesOf_cons, nodesFrom_leaf hleaf, List.findSome?_append,
      List.findSome?_singleton]
  | element tag attributes children metadata rest ihChildren ih =>
    rw [anyUnknown?, unknown?, ihChildren, ih, nodesOf_cons, nodesFrom_element, List.findSome?_append,
      List.findSome?_cons_of_isNone]
    rfl

/-- A well-typed document holds no node without a wire form. -/
theorem findSome?_strayKind?_eq_none {nodes : List Node} (hwell : areWellTyped nodes = true) :
    (nodesOf nodes).findSome? strayKind? = none := by
  rw [← anyUnknown?_eq, anyUnknown?_eq_none hwell]

section

variable {nodes : List Node} {error : WriteError}

/-- What is put together from data with texts for keys has texts for keys. -/
theorem isInherited_hasTextKeys : Datum.IsInherited Datum.HasTextKeys where
  str := .str
  bool := .bool
  list := .list
  record := fun _ => .dict

/-- What is put together from data without an obstacle is without it. -/
theorem isInherited_not_obstructs : Datum.IsInherited fun value => ¬ Obstructs error value where
  str := not_obstructs_str
  bool := not_obstructs_bool
  list := fun hitems hlist =>
    have ⟨item, hitem, herror⟩ := obstructs_list.mp hlist
    hitems item hitem herror
  record := fun _ hvalues hrecord =>
    have ⟨field, hfield, herror⟩ := obstructs_record.mp hrecord
    hvalues field hfield herror

/-- Only metadata is in the way of writing well-typed nodes. -/
theorem obstructs_toData_iff : areWellTyped nodes = true →
    ((∃ item ∈ toData nodes, Obstructs error item) ↔
      ∃ metadata ∈ metadataOf nodes, Obstructs error metadata) := by
  induction nodes using siblings_induction with
  | nil => simp [toData]
  | leaf node rest hleaf ih =>
    intro hwell
    obtain ⟨hnode, hrest⟩ := areWellTyped_cons.mp hwell
    rw [metadataOf_leaf hleaf, ← ih hrest, toData]
    have hleaf' : ¬ Obstructs error (toDatum node) :=
      holds_toDatum_of_leaf isInherited_not_obstructs hleaf hnode
    simp [hleaf']
  | element tag attributes children metadata rest ihChildren ih =>
    intro hwell
    obtain ⟨hparts, hrest⟩ := areWellTyped_element.mp hwell
    have helement : Obstructs error (toDatum (.element tag attributes children metadata)) ↔
        (∃ metadata ∈ metadataOf children, Obstructs error metadata) ∨ Obstructs error metadata := by
      have hattributes : ¬ Obstructs error (attributesToDatum attributes) :=
        holds_attributesToDatum isInherited_not_obstructs hparts.attributes
      rw [← ihChildren hparts.children, toDatum, obstructs_record, ← obstructs_list]
      simp [not_obstructs_str, hattributes]
    rw [metadataOf_element, toData]
    simp only [List.mem_cons, List.mem_append, or_and_right, exists_or, exists_eq_left, helement,
      ih hrest, or_assoc, or_left_comm]

end

/-- Some metadata of the document holds a value that JSON has no form for, at whatever depth. -/
def HoldsOpaque (document : Document) : Prop :=
  ∃ metadata ∈ metadataOf document, ∃ value ∈ metadata.values, value.isOpaque = true

/-- Some metadata of the document holds an integer that is too long to be written. -/
def HoldsOverlong (document : Document) : Prop :=
  ∃ metadata ∈ metadataOf document, ∃ value ∈ metadata.values, IsOverlong value

variable {document : Document} {indent : Datum}

/-- An opaque value in the metadata is in the way. -/
theorem HoldsOpaque.exists_obstructs (hunfit : HoldsOpaque document) :
    ∃ kindName, ∃ metadata ∈ metadataOf document, Obstructs (.unsupported kindName) metadata := by
  obtain ⟨metadata, hmem, value, hvalue, hunfit⟩ := hunfit
  exact ⟨value.kindName, metadata, hmem, value, hvalue, obstacle?_eq_some_iff.mpr (.inl ⟨hunfit, rfl⟩)⟩

/-- An integer that is too long in the metadata is in the way. -/
theorem HoldsOverlong.exists_obstructs (hlong : HoldsOverlong document) :
    ∃ metadata ∈ metadataOf document, Obstructs .overlong metadata := by
  obtain ⟨metadata, hmem, value, hvalue, hlong⟩ := hlong
  exact ⟨metadata, hmem, value, hvalue, obstacle?_eq_some_iff.mpr (.inr ⟨hlong, rfl⟩)⟩

/-- What is in the way is a value without a form in JSON or a long integer. -/
theorem holds_of_obstructs {error : WriteError}
    (herror : ∃ metadata ∈ metadataOf document, Obstructs error metadata) :
    (HoldsOpaque document ∧ ∃ kindName, error = .unsupported kindName) ∨ HoldsOverlong document := by
  obtain ⟨metadata, hmem, value, hvalue, herror⟩ := herror
  obtain ⟨hunfit, rfl⟩ | ⟨hlong, -⟩ := obstacle?_eq_some_iff.mp herror
  · exact .inl ⟨⟨metadata, hmem, value, hvalue, hunfit⟩, _, rfl⟩
  · exact .inr ⟨metadata, hmem, value, hvalue, hlong⟩

end Node

section

variable {document : Document} {indent : Datum} {kindName : String}

open Node

/-- A stray node is reported, whatever else is wrong with the document. -/
theorem encodeDocument_of_stray (hstray : (nodesOf document).findSome? strayKind? = some kindName) :
    encodeDocument document indent = .error (.unknownNode kindName) := by
  rw [encodeDocument, anyUnknown?_eq, hstray]

/-- Without a node that has no wire form, an indentation is asked for and the wire objects are written. -/
theorem encodeDocument_of_no_stray (hnone : (nodesOf document).findSome? strayKind? = none) :
    encodeDocument document indent = indentUnit indent >>= fun unit =>
      match Json.render unit (.list (toData document)) with
      | .ok written => .ok written
      | .error error => .error (.unwritable error) := by
  unfold encodeDocument
  split
  · rename_i kindName hstray
    rw [anyUnknown?_eq, hnone] at hstray
    cases hstray
  · rfl

/-- Indentation is never to blame for a stray node. -/
theorem indentUnit_ne_unknownNode : indentUnit indent ≠ .error (.unknownNode kindName) := by
  intro herror
  unfold indentUnit at herror
  repeat' split at herror
  all_goals cases herror

/-- The node that is reported is the first stray one in preorder. -/
theorem encodeDocument_eq_unknownNode_iff :
    encodeDocument document indent = .error (.unknownNode kindName) ↔
      (nodesOf document).findSome? strayKind? = some kindName := by
  refine ⟨fun herror => ?_, encodeDocument_of_stray⟩
  cases hstray : (nodesOf document).findSome? strayKind? with
  | some other =>
    rw [encodeDocument_of_stray hstray, Except.error.injEq, WireError.unknownNode.injEq] at herror
    rw [herror]
  | none =>
    rw [encodeDocument_of_no_stray hstray, bind_eq_error_iff] at herror
    obtain herror | ⟨unit, -, herror⟩ := herror
    · exact absurd herror indentUnit_ne_unknownNode
    · split at herror <;> cases herror

/-- Well-typed documents are written unless something in their metadata is in the way. -/
theorem encodeDocument_cases {unit : Option String} (hwell : areWellTyped document = true)
    (hkeys : ∀ metadata ∈ metadataOf document, metadata.HasTextKeys)
    (hunit : indentUnit indent = .ok unit) :
    (∃ error, encodeDocument document indent = .error (.unwritable error) ∧
        ∃ metadata ∈ metadataOf document, Obstructs error metadata) ∨
      (∃ text, encodeDocument document indent = .ok text) ∧
        ∀ error, ∀ metadata ∈ metadataOf document, ¬ Obstructs error metadata := by
  have hdata : (Datum.list (toData document)).HasTextKeys :=
      .list (holds_toData isInherited_hasTextKeys hwell hkeys)
  rw [encodeDocument_of_no_stray (findSome?_strayKind?_eq_none hwell), hunit]
  dsimp only [bind, Except.bind]
  rw [Json.render]
  cases herror : writeError? (.list (toData document)) with
  | some error =>
    refine .inl ⟨error, rfl, (obstructs_toData_iff hwell).mp ?_⟩
    exact obstructs_list.mp (obstructs_of_writeError? hdata herror)
  | none =>
    refine .inr ⟨⟨_, rfl⟩, fun error metadata hmem hobstructs => ?_⟩
    have hwhole : Obstructs error (.list (toData document)) :=
      obstructs_list.mpr ((obstructs_toData_iff hwell).mpr ⟨metadata, hmem, hobstructs⟩)
    exact not_obstructs_of_writeError? hdata herror hwhole

/-- A document with nodes that have no wire form is refused with the kind of the first of them in preorder,
    whatever else it holds. A well-typed document, which has no such nodes, with texts for the keys of its
    metadata and with an indentation that is one, is written if and only if no value in its metadata, at
    whatever depth, has no form in JSON or is an integer of too many digits. If all integers are short
    enough, it is refused for a value without a form in JSON if and only if there is one. -/
theorem encodeDocument_fails (document : Document) (indent : Datum) :
    (∀ kindName, encodeDocument document indent = .error (.unknownNode kindName) ↔
        (nodesOf document).findSome? strayKind? = some kindName) ∧
      (areWellTyped document = true → (∀ metadata ∈ metadataOf document, metadata.HasTextKeys) →
        (∃ unit, indentUnit indent = .ok unit) →
          ((∃ text, encodeDocument document indent = .ok text) ↔
            ¬ HoldsOpaque document ∧ ¬ HoldsOverlong document) ∧
          (¬ HoldsOverlong document →
            ((∃ kindName,
                encodeDocument document indent = .error (.unwritable (.unsupported kindName))) ↔
              HoldsOpaque document))) ∧
      (∀ kindName, (WireError.unknownNode kindName).message? = some ("Unknown node type: " ++ kindName)) ∧
      ∀ kindName, (WireError.unwritable (.unsupported kindName)).message? =
        some ("Element metadata is not JSON serializable: Object of type " ++ kindName ++
          " is not JSON serializable") := by
  refine ⟨fun kindName => encodeDocument_eq_unknownNode_iff, ?_, fun _ => rfl, fun _ => rfl⟩
  rintro hwell hkeys ⟨unit, hunit⟩
  obtain ⟨error, hresult, herror⟩ | ⟨⟨text, hresult⟩, hclear⟩ := encodeDocument_cases hwell hkeys hunit
  · have hheld := holds_of_obstructs herror
    refine ⟨⟨?_, ?_⟩, fun hshort => ?_⟩
    · rintro ⟨text, htext⟩
      cases hresult.symm.trans htext
    · rintro ⟨hnot, hshort⟩
      obtain ⟨hunfit, -⟩ | hlong := hheld
      · exact absurd hunfit hnot
      · exact absurd hlong hshort
    · obtain ⟨hunfit, kindName, rfl⟩ := hheld.resolve_right hshort
      exact ⟨fun _ => hunfit, fun _ => ⟨kindName, hresult⟩⟩
  · have hnot : ¬ HoldsOpaque document := by
      intro hunfit
      obtain ⟨kindName, metadata, hmem, herror⟩ := hunfit.exists_obstructs
      exact hclear _ metadata hmem herror
    have hshort : ¬ HoldsOverlong document := by
      intro hlong
      obtain ⟨metadata, hmem, herror⟩ := hlong.exists_obstructs
      exact hclear _ metadata hmem herror
    refine ⟨⟨fun _ => ⟨hnot, hshort⟩, fun _ => ⟨text, hresult⟩⟩, fun _ => ⟨?_, fun hunfit => absurd hunfit hnot⟩⟩
    rintro ⟨kindName, herror⟩
    cases hresult.symm.trans herror

/-- A page with a set in its metadata, two levels deep. -/
def opaquePage : Document :=
  [.element (.name "p") [(.name "id", .str "a")] [.text (.str "x")]
    (.record [("n", .int 7), ("tags", .list [.null, .record [("seen", .foreign "set")]])])]

/-- A page with stray nodes of two kinds, the first one below an element with a date in its metadata. -/
def wanderersPage : Document :=
  [.element (.name "p") [] [.element (.name "b") [] [.foreign "Widget"] (.record [])]
    (.record [("day", .foreign "date")]), .bare]

theorem encodeDocument_fails_pages :
    (areWellTyped opaquePage = true ∧ (∀ metadata ∈ metadataOf opaquePage, metadata.HasTextKeys) ∧
        ¬ HoldsOverlong opaquePage ∧ (∃ unit, indentUnit (.int 2) = .ok unit) ∧ HoldsOpaque opaquePage) ∧
      (∃ kindName, encodeDocument opaquePage (.int 2) = .error (.unwritable (.unsupported kindName))) ∧
        encodeDocument wanderersPage .null = .error (.unknownNode "Widget") := by
  have hwell : areWellTyped opaquePage = true := by decide
  have hkeys : ∀ metadata ∈ metadataOf opaquePage, metadata.HasTextKeys := by
    have hseen : (Datum.record [("seen", .foreign "set")]).HasTextKeys :=
      .dict (by simp [Datum.HasTextKeys.foreign])
    have htags : (Datum.list [.null, .record [("seen", .foreign "set")]]).HasTextKeys :=
      .list (by simp [Datum.HasTextKeys.null, hseen])
    exact List.forall_mem_singleton.mpr (.dict (by simp [Datum.HasTextKeys.int, htags]))
  have hshort : ¬ HoldsOverlong opaquePage := by
    have hseven : ¬ Number.powerOfTen Number.maxDigits ≤ 7 := by decide +kernel
    rintro ⟨metadata, hmem, value, hvalue, number, rfl, hlong⟩
    obtain rfl := List.mem_singleton.mp hmem
    have hnumber : number = 7 := by
      simpa [Datum.record, Datum.values, Entries.ofFields, Datum.valuesOfItems, Datum.valuesOfEntries]
        using hvalue
    exact hseven (by simpa [hnumber] using hlong)
  have hindent : ∃ unit, indentUnit (.int 2) = .ok unit := ⟨_, rfl⟩
  have hunfit : HoldsOpaque opaquePage :=
    ⟨_, List.mem_singleton_self _, .foreign "set", by decide, rfl⟩
  refine ⟨⟨hwell, hkeys, hshort, hindent, hunfit⟩, ?_, ?_⟩
  · exact ((encodeDocument_fails opaquePage (.int 2)).2.1 hwell hkeys hindent).2 hshort |>.mpr hunfit
  · exact ((encodeDocument_fails wanderersPage .null).1 "Widget").mpr rfl

/-- Nothing in the metadata of the page lacks a form in JSON, but it is refused for the digits of an integer,
    and an empty document for an indentation that is no index. -/
theorem encodeDocument_fails_numberedPage :
    let page := numberedPage (Number.powerOfTen Number.maxDigits)
    areWellTyped page = true ∧ (∀ metadata ∈ metadataOf page, metadata.HasTextKeys) ∧
      ¬ HoldsOpaque page ∧ encodeDocument page .null = .error (.unwritable .overlong) ∧
        (WireError.unwritable .overlong).message? = none ∧
          encodeDocument [] (.int (Number.powerOfTwo 63)) = .error (.fault .tooLarge) := by
  have hnot (value : Int) : ¬ HoldsOpaque (numberedPage value) := by
    rintro ⟨metadata, hmem, inner, hinner, hunfit⟩
    obtain rfl := List.mem_singleton.mp hmem
    have hcases : inner = .dict (Entries.ofFields [("n", .int value)]) ∨ inner = .int value := by
      simpa [Datum.values, Entries.ofFields, Datum.valuesOfEntries] using hinner
    obtain rfl | rfl := hcases <;> cases hunfit
  have hkeys (value : Int) : ∀ metadata ∈ metadataOf (numberedPage value), metadata.HasTextKeys :=
    List.forall_mem_singleton.mpr (.dict (by simp [Datum.HasTextKeys.int]))
  exact ⟨rfl, hkeys _, hnot _, encodeDocument_numberedPage integerError?_powerOfTen, rfl, by decide⟩

end

end MarkTree
