import MarkTree.Proofs.Normalize.Frame

namespace MarkTree

namespace Node

/-- The sibling at the position is an output marker, and right behind it stands a code block. -/
def announcesAt (siblings : List Node) (i : Nat) : Bool :=
  siblings[i]?.any isOutputMarker && siblings[i + 1]?.any isCodeBlock

/-- The positions of the output markers that announce a code block. -/
def announcements (siblings : List Node) : List Nat :=
  (List.range siblings.length).filter (announcesAt siblings)

/-- The siblings at all other positions, in order. -/
def remaining (siblings : List Node) : List Node :=
  ((List.range siblings.length).filter fun i => !announcesAt siblings i).filterMap (siblings[·]?)

/-- How many siblings in front of the position are left. -/
def landing (siblings : List Node) (i : Nat) : Nat :=
  (List.range i).countP fun j => !announcesAt siblings j

section Cons

variable (node : Node) (rest : List Node)

theorem announcesAt_cons_zero :
    announcesAt (node :: rest) 0 = (node.isOutputMarker && startsWithCodeBlock rest) := by
  cases rest <;> rfl

theorem announcesAt_cons_succ (i : Nat) : announcesAt (node :: rest) (i + 1) = announcesAt rest i := rfl

theorem length_announcements_cons :
    (announcements (node :: rest)).length =
      (node.isOutputMarker && startsWithCodeBlock rest).toNat + (announcements rest).length := by
  rw [announcements, List.length_cons, List.range_succ_eq_map, List.filter_cons, announcesAt_cons_zero,
    List.filter_map, announcements]
  cases node.isOutputMarker && startsWithCodeBlock rest with
  | true => simp [Function.comp_def, announcesAt_cons_succ, Nat.add_comm]
  | false => simp [Function.comp_def, announcesAt_cons_succ]

theorem remaining_cons :
    remaining (node :: rest) =
      if node.isOutputMarker && startsWithCodeBlock rest then remaining rest
      else node :: remaining rest := by
  rw [remaining, List.length_cons, List.range_succ_eq_map, List.filter_cons, announcesAt_cons_zero,
    List.filter_map, remaining]
  cases node.isOutputMarker && startsWithCodeBlock rest with
  | true => simp [Function.comp_def, announcesAt_cons_succ, List.filterMap_map]
  | false => simp [Function.comp_def, announcesAt_cons_succ, List.filterMap_map]

theorem landing_cons_succ (i : Nat) :
    landing (node :: rest) (i + 1) =
      (!(node.isOutputMarker && startsWithCodeBlock rest)).toNat + landing rest i := by
  rw [landing, List.range_succ_eq_map, List.countP_cons, announcesAt_cons_zero, List.countP_map, landing]
  cases node.isOutputMarker && startsWithCodeBlock rest with
  | true => simp [Function.comp_def, announcesAt_cons_succ]
  | false => simp [Function.comp_def, announcesAt_cons_succ, Nat.add_comm]

end Cons

/-- What becomes of the first of some siblings. It goes if it announces a code block; otherwise one node
    stands in its place, the same one for a leaf and no marker for an element. -/
theorem Normalizes.first {before : Option Node} {node : Node} {rest out : List Node}
    (h : Normalizes before (node :: rest) out) :
    ∃ out', Normalizes (some node) rest out' ∧
      if node.isOutputMarker && startsWithCodeBlock rest then out = out'
      else ∃ node', out = node' :: out' ∧ node'.isOutputMarker = node.isOutputMarker ∧
        (node.isElement = false → node' = node) := by
  cases h with
  | drop hmarker hblock hrest => exact ⟨out, hrest, by rw [hmarker, hblock]; rfl⟩
  | keep hleaf hkeep hrest => exact ⟨_, hrest, by rw [hkeep]; exact ⟨node, rfl, rfl, fun _ => rfl⟩⟩
  | capture _ _ _ hrest => exact ⟨_, hrest, _, rfl, rfl, nofun⟩
  | formula _ _ hrest => exact ⟨_, hrest, _, rfl, rfl, nofun⟩
  | element _ _ _ hrest => exact ⟨_, hrest, _, rfl, rfl, nofun⟩

variable {before : Option Node} {siblings out : List Node}

/-- The siblings lose one node for each announcement. -/
theorem Normalizes.length_add (h : Normalizes before siblings out) :
    out.length + (announcements siblings).length = siblings.length := by
  induction siblings generalizing before out with
  | nil =>
    cases h
    rfl
  | cons node rest ih =>
    obtain ⟨out', hrest, hfirst⟩ := h.first
    have hlength := ih hrest
    rw [length_announcements_cons, List.length_cons]
    split at hfirst
    · rename_i hgoes
      rw [hgoes, hfirst, Bool.toNat_true]
      omega
    · rename_i hstays
      obtain ⟨node', rfl, -⟩ := hfirst
      rw [Bool.not_eq_true] at hstays
      rw [hstays, Bool.toNat_false, List.length_cons]
      omega

/-- The markers of the result are those that announce nothing. -/
theorem Normalizes.filter_isOutputMarker (h : Normalizes before siblings out) :
    out.filter isOutputMarker = (remaining siblings).filter isOutputMarker := by
  induction siblings generalizing before out with
  | nil =>
    cases h
    rfl
  | cons node rest ih =>
    obtain ⟨out', hrest, hfirst⟩ := h.first
    have hmarkers := ih hrest
    rw [remaining_cons]
    split
    · rename_i hgoes
      rw [if_pos hgoes] at hfirst
      rw [hfirst, hmarkers]
    · rename_i hstays
      rw [if_neg hstays] at hfirst
      obtain ⟨node', rfl, hmarker, hleaf⟩ := hfirst
      rw [List.filter_cons, List.filter_cons, hmarker, hmarkers]
      split
      · rename_i hnode
        rw [hleaf (isElement_of_isOutputMarker hnode)]
      · rfl

/-- What the siblings from a position on become stands from the landing of that position on. -/
theorem Normalizes.from_landing (h : Normalizes before siblings out) (i : Nat) :
    Normalizes ((siblings.take i).getLast?.or before) (siblings.drop i)
      (out.drop (landing siblings i)) := by
  induction siblings generalizing before out i with
  | nil =>
    cases h
    simpa using Normalizes.nil
  | cons node rest ih =>
    cases i with
    | zero => exact h
    | succ i =>
      obtain ⟨out', hrest, hfirst⟩ := h.first
      have hlater := ih hrest i
      have hlast : ((node :: rest).take (i + 1)).getLast?.or before =
          (rest.take i).getLast?.or (some node) := by
        rw [List.take_succ_cons, List.getLast?_cons, Option.some_or, Option.or_some]
      have hdrop : out.drop (landing (node :: rest) (i + 1)) = out'.drop (landing rest i) := by
        rw [landing_cons_succ]
        split at hfirst
        · rename_i hgoes
          rw [hgoes, hfirst, Bool.not_true, Bool.toNat_false, Nat.zero_add]
        · rename_i hstays
          obtain ⟨node', rfl, -⟩ := hfirst
          rw [Bool.not_eq_true] at hstays
          rw [hstays, Bool.not_false, Bool.toNat_true, Nat.add_comm, List.drop_succ_cons]
      rw [hlast, hdrop]
      exact hlater

theorem drop_eq_cons {i : Nat} {node : Node} (hnode : siblings[i]? = some node) :
    siblings.drop i = node :: siblings.drop (i + 1) := by
  obtain ⟨hi, rfl⟩ := List.getElem?_eq_some_iff.mp hnode
  exact List.drop_eq_getElem_cons hi

/-- A leaf that announces nothing stands at its landing. -/
theorem Normalizes.getElem?_landing_of_leaf (h : Normalizes before siblings out) {i : Nat} {node : Node}
    (hnode : siblings[i]? = some node) (hleaf : node.isElement = false)
    (hstays : announcesAt siblings i = false) : out[landing siblings i]? = some node := by
  have hlater := h.from_landing i
  rw [drop_eq_cons hnode] at hlater
  obtain ⟨out', -, hfirst⟩ := hlater.first
  have hsame : (node.isOutputMarker && startsWithCodeBlock (siblings.drop (i + 1))) = false := by
    rw [← hstays, startsWithCodeBlock_eq, List.head?_drop, announcesAt, hnode, Option.any_some]
  rw [hsame, if_neg Bool.false_ne_true] at hfirst
  obtain ⟨node', hout, -, hnode'⟩ := hfirst
  rw [← List.head?_drop, hout, hnode' hleaf, List.head?_cons]

/-- An announced code block stands at its landing, with the class of output on its code. -/
theorem Normalizes.getElem?_landing_of_announced (h : Normalizes before siblings out) {i : Nat}
    (hannounces : announcesAt siblings i = true) :
    ∃ tag attributes tag' attributes' content metadata' metadata,
      siblings[i + 1]? =
        some (.element tag attributes [.element tag' attributes' [.text content] metadata'] metadata) ∧
      tag.reads "pre" = true ∧ tag'.reads "code" = true ∧
      out[landing siblings (i + 1)]? =
        some (.element tag.canonical (canonicalAttributes attributes)
          [.element tag'.canonical (canonicalAttributes (outputAttributes attributes'))
            [.text content] (metadataRecord metadata')] (metadataRecord metadata)) := by
  obtain ⟨hmarker, hblock⟩ := Bool.and_eq_true_iff.mp hannounces
  obtain ⟨marker, hbefore, hmarker⟩ := (Option.any_eq_true _ _).mp hmarker
  obtain ⟨block, hbehind, hblock⟩ := (Option.any_eq_true _ _).mp hblock
  obtain ⟨tag, attributes, tag', attributes', content, metadata', metadata, rfl, htag, htag'⟩ :=
    exists_of_isCodeBlock hblock
  refine ⟨tag, attributes, tag', attributes', content, metadata', metadata, hbehind, htag, htag', ?_⟩
  have hlater := h.from_landing (i + 1)
  rw [List.take_add_one, hbefore, Option.toList_some, List.getLast?_concat, Option.some_or,
    drop_eq_cons hbehind] at hlater
  rw [← List.head?_drop]
  -- Behind a marker the code block is captured; the rule for other elements does not apply.
  cases hout : out.drop (landing siblings (i + 1)) with
  | nil =>
    rw [hout] at hlater
    cases hlater with
    | drop hmarker' => cases hmarker'
  | cons node' out' =>
    rw [hout] at hlater
    cases hlater with
    | drop hmarker' => cases hmarker'
    | keep hleaf => cases hleaf
    | capture => rfl
    | element hfree => simp [hmarker, hblock] at hfree

end Node

open Node Attributes in
/-- The markers that announce a code block are gone from among siblings, and nothing else is. Any other
    leaf stands unchanged at its landing, and so does an announced code block, apart from the class of
    output that leads the attributes of its code in place of its own first class. -/
theorem normalize_announcements {siblings : Document} (hwell : areWellTyped siblings = true) :
    ∃ out, normalize siblings = .ok out ∧
      out.length + (announcements siblings).length = siblings.length ∧
      out.filter isOutputMarker = (remaining siblings).filter isOutputMarker ∧
      (∀ i node, siblings[i]? = some node → node.isElement = false → i ∉ announcements siblings →
        out[landing siblings i]? = some node) ∧
      ∀ i ∈ announcements siblings,
        ∃ tag attributes tag' attributes' content metadata' metadata outer inner,
          siblings[i + 1]? = some
            (.element tag attributes [.element tag' attributes' [.text content] metadata'] metadata) ∧
          out[landing siblings (i + 1)]? = some
            (.element (.name "pre") outer [.element (.name "code") inner [.text content] metadata']
              metadata) ∧
          named outer = named attributes ∧
          named inner = (.str "class", .str (outputClass attributes')) ::
            named (attributes'.eraseP fun pair => pair.1.reads "class") := by
  obtain ⟨out, hout, h⟩ := normalizes_of_wellTyped hwell
  refine ⟨out, hout, h.length_add, h.filter_isOutputMarker, ?_, ?_⟩
  · intro i node hnode hleaf hother
    have hi : i < siblings.length := (List.getElem?_eq_some_iff.mp hnode).1
    have hstays : announcesAt siblings i = false := by
      simpa [announcements, hi] using hother
    exact h.getElem?_landing_of_leaf hnode hleaf hstays
  · intro i hmem
    obtain ⟨tag, attributes, tag', attributes', content, metadata', metadata, hblock, htag, htag',
      hlanded⟩ := h.getElem?_landing_of_announced (List.mem_filter.mp hmem).2
    have hparts : wellTyped
        (.element tag attributes [.element tag' attributes' [.text content] metadata'] metadata) = true :=
      wellTyped_of_mem hwell (List.mem_of_getElem? hblock)
    have houter := wellTyped_element_iff.mp hparts
    have hinner := (areWellTyped_element.mp houter.children).1
    rw [Label.canonical_of_reads htag, Label.canonical_of_reads htag', metadataRecord_eq houter.metadata,
      metadataRecord_eq hinner.metadata] at hlanded
    refine ⟨tag, attributes, tag', attributes', content, metadata', metadata, _, _, hblock, hlanded,
      named_canonical houter.attributes, ?_⟩
    rw [named_canonical (textAttributes_output hinner.attributes),
      outputAttributes_of_text hinner.attributes]
    rfl

open Node Attributes Notebook in
/-- Of the two markers in a row one is left, and the output behind them lands one position further up,
    where its math class does not make it a formula. -/
theorem normalize_announcements_page :
    areWellTyped page = true ∧
      ∃ out outer inner, normalize page = .ok out ∧ out.length = 4 ∧
        out.filter isOutputMarker = [marker] ∧ out[1]? = some marker ∧
        out[2]? = some (.element (.name "pre") outer
          [.element (.name "code") inner [.text (.str "y")] (.dict [])] (.dict [])) ∧
        named outer = [(.str "id", .str "cell")] ∧
        named inner = [(.str "class", .str "math-display output")] := by
  have hwell : areWellTyped page = true := by decide
  have hplaces : announcements page = [2] := by decide
  obtain ⟨out, hout, hlength, hmarkers, hleaves, hblocks⟩ := normalize_announcements hwell
  have hlast : out.length = 4 := by
    rw [hplaces] at hlength
    exact Nat.succ.inj hlength
  obtain ⟨_, _, _, _, _, _, _, outer, inner, hblock, hlanded, houter, hinner⟩ :=
    hblocks 2 (hplaces ▸ List.mem_singleton_self 2)
  cases hblock
  exact ⟨hwell, out, outer, inner, hout, hlast, hmarkers.trans rfl,
    hleaves 1 marker rfl rfl (by decide), hlanded, houter, hinner.trans rfl⟩

end MarkTree
