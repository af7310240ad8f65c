import Mathlib.Data.List.Chain
import MarkTree.Proofs.Markdown.Faultless
import MarkTree.Tree.Content

namespace MarkTree.Node

/-- No two texts stand side by side. -/
def AreApart (nodes : List Node) : Prop :=
  nodes.IsChain fun node next => ¬ (node.isText = true ∧ next.isText = true)

/-- No two texts stand side by side among the children of the node, if it has any. -/
def HasApartChildren : Node → Prop
  | .element _ _ children _ => AreApart children
  | .text _ | .comment _ _ | .bare | .foreign _ => True

/-- Two lists of nodes one behind the other. If texts meet at the seam, they become one. -/
def joinSeam (front back : List Node) : List Node :=
  match front.getLast?, back with
  | some (.text (.str s)), .text (.str t) :: rest => front.dropLast ++ .text (.str (s ++ t)) :: rest
  | _, _ => front ++ back

theorem areApart_singleton (node : Node) : AreApart [node] :=
  List.IsChain.singleton node

theorem areApart_cons {node : Node} {rest : List Node} (hnode : node.isText = false)
    (hrest : AreApart rest) : AreApart (node :: rest) := by
  refine List.isChain_cons.mpr ⟨fun next _ hboth => ?_, hrest⟩
  rw [hnode] at hboth
  exact Bool.false_ne_true hboth.1

theorem areApart_text_cons (content : Datum) {node : Node} {rest : List Node}
    (hnode : node.isText = false) (hrest : AreApart rest) :
    AreApart (.text content :: node :: rest) := by
  refine List.isChain_cons_cons.mpr ⟨fun hboth => ?_, areApart_cons hnode hrest⟩
  rw [hnode] at hboth
  exact Bool.false_ne_true hboth.2

/-- After the joining no two texts stand side by side, also if a text was there before. -/
theorem areApart_fuse (nodes : List Node) :
    AreApart (fuse nodes) ∧ ∀ before, AreApart (fuseOnto before nodes) := by
  induction nodes with
  | nil => exact ⟨List.IsChain.nil, fun before => areApart_singleton _⟩
  | cons node rest ih =>
    cases node with
    | text content => exact ⟨ih.2 content, fun before => ih.2 _⟩
    | _ => exact ⟨areApart_cons rfl ih.1, fun before => areApart_text_cons before rfl ih.1⟩

@[simp] theorem joinSeam_nil (back : List Node) : joinSeam [] back = back := rfl

@[simp] theorem joinSeam_text (s t : String) (rest : List Node) :
    joinSeam [.text (.str s)] (.text (.str t) :: rest) = .text (.str (s ++ t)) :: rest := rfl

/-- What does not end the front has no part in the seam. -/
theorem joinSeam_cons_cons (node next : Node) (rest back : List Node) :
    joinSeam (node :: next :: rest) back = node :: joinSeam (next :: rest) back := by
  unfold joinSeam
  rw [List.getLast?_cons_cons]
  split <;> simp

/-- What is no text has no part in the seam. -/
theorem joinSeam_cons {node : Node} (hnode : node.isText = false) (rest back : List Node) :
    joinSeam (node :: rest) back = node :: joinSeam rest back := by
  cases rest with
  | cons next rest => exact joinSeam_cons_cons node next rest back
  | nil =>
    rw [joinSeam_nil]
    cases node with
    | text => cases hnode
    | _ => rfl

/-- Texts that are joined onto a text make one text, which starts with it. -/
theorem exists_fuseOnto {nodes : List Node} (hnodes : ∀ node ∈ nodes, node.HasTextContent) :
    ∃ text rest, ∀ before : String, fuseOnto (.str before) nodes = .text (.str (before ++ text)) :: rest := by
  induction nodes with
  | nil => exact ⟨"", [], fun before => by rw [String.append_empty]; rfl⟩
  | cons node rest ih =>
    obtain ⟨hnode, hrest⟩ := List.forall_mem_cons.mp hnodes
    cases node with
    | text content =>
      obtain ⟨text, rfl⟩ := isTextDatum_iff.mp (hnode content rfl)
      obtain ⟨more, rest, hfuse⟩ := ih hrest
      refine ⟨text ++ more, rest, fun before => ?_⟩
      rw [← String.append_assoc]
      exact hfuse (before ++ text)
    | _ => exact ⟨"", _, fun before => by rw [String.append_empty]; rfl⟩

/-- Joining onto a text is joining the rest and then the seam. -/
theorem fuseOnto_eq_joinSeam {nodes : List Node} (hnodes : ∀ node ∈ nodes, node.HasTextContent)
    (before : String) : fuseOnto (.str before) nodes = joinSeam [.text (.str before)] (fuse nodes) := by
  cases nodes with
  | nil => rfl
  | cons node rest =>
    obtain ⟨hnode, hrest⟩ := List.forall_mem_cons.mp hnodes
    cases node with
    | text content =>
      obtain ⟨text, rfl⟩ := isTextDatum_iff.mp (hnode content rfl)
      obtain ⟨more, rest', hfuse⟩ := exists_fuseOnto hrest
      change fuseOnto (.str (before ++ text)) rest =
        joinSeam [.text (.str before)] (fuseOnto (.str text) rest)
      rw [hfuse, hfuse, joinSeam_text, String.append_assoc]
    | _ => rfl

/-- Joining texts in two lists at once is joining them in each list and then at the seam. -/
theorem fuse_append {front back : List Node} (hfront : ∀ node ∈ front, node.HasTextContent)
    (hback : ∀ node ∈ back, node.HasTextContent) :
    fuse (front ++ back) = joinSeam (fuse front) (fuse back) ∧
      ∀ before : String, fuseOnto (.str before) (front ++ back) =
        joinSeam (fuseOnto (.str before) front) (fuse back) := by
  induction front with
  | nil => exact ⟨rfl, fun before => fuseOnto_eq_joinSeam hback before⟩
  | cons node rest ih =>
    obtain ⟨hnode, hrest⟩ := List.forall_mem_cons.mp hfront
    obtain ⟨ihFuse, ihOnto⟩ := ih hrest
    cases node with
    | text content =>
      obtain ⟨text, rfl⟩ := isTextDatum_iff.mp (hnode content rfl)
      exact ⟨ihOnto text, fun before => ihOnto (before ++ text)⟩
    | _ =>
      simp only [List.cons_append, fuse, fuseOnto, ihFuse, joinSeam_cons_cons]
      refine ⟨(joinSeam_cons rfl _ _).symm, fun before => ?_⟩
      rw [joinSeam_cons rfl]

theorem joinTexts_append (front back : List Datum) :
    joinTexts (front ++ back) =
      (joinTexts front).bind fun first => (joinTexts back).map fun second => first ++ second := by
  induction front with
  | nil =>
    cases hback : joinTexts back with
    | error => simp [joinTexts, Except.bind, Except.map, hback]
    | ok second => simp [joinTexts, Except.bind, Except.map, hback]
  | cons datum rest ih =>
    cases datum with
    | str first =>
      rw [List.cons_append, joinTexts, joinTexts, ih]
      cases joinTexts rest with
      | error => rfl
      | ok second =>
        cases joinTexts back with
        | error => rfl
        | ok third => exact congrArg Except.ok String.append_assoc.symm
    | _ => rfl

theorem contentsOf_append (front back : List Node) :
    contentsOf (front ++ back) = contentsOf front ++ contentsOf back := by
  induction front with
  | nil => rfl
  | cons node rest ih => rw [List.cons_append, contentsOf, ih, contentsOf, List.append_assoc]

theorem textContent_append (front back : List Node) :
    textContent (front ++ back) =
      (textContent front).bind fun first => (textContent back).map fun second => first ++ second := by
  rw [textContent, contentsOf_append, joinTexts_append]
  rfl

/-- Two lists of nodes that have a text have the two texts one behind the other. -/
theorem textContent_append_of_ok {front back : List Node} {first second : String}
    (hfirst : textContent front = .ok first) (hsecond : textContent back = .ok second) :
    textContent (front ++ back) = .ok (first ++ second) := by
  rw [textContent_append, hfirst, hsecond]
  rfl

theorem textContent_text (text : String) : textContent [.text (.str text)] = .ok text :=
  congrArg Except.ok String.append_empty

theorem textContent_plain (tag : String) (attributes : List (String × Datum)) (children : List Node) :
    textContent [.plain tag attributes children] = textContent children := by
  rw [textContent, plain, contentsOf, contents, contentsOf, List.append_nil]
  rfl

/-- Joining neighbouring texts leaves the text of the document as it is. -/
theorem textContent_fuse {nodes : List Node} (hnodes : ∀ node ∈ nodes, node.HasTextContent) :
    textContent (fuse nodes) = textContent nodes ∧
      ∀ before : String, textContent (fuseOnto (.str before) nodes) =
        textContent (.text (.str before) :: nodes) := by
  induction nodes with
  | nil => exact ⟨rfl, fun before => rfl⟩
  | cons node rest ih =>
    obtain ⟨hnode, hrest⟩ := List.forall_mem_cons.mp hnodes
    obtain ⟨ihFuse, ihOnto⟩ := ih hrest
    have hcons (front : List Node) : textContent (front ++ fuse rest) = textContent (front ++ rest) := by
      rw [textContent_append, textContent_append, ihFuse]
    cases node with
    | text content =>
      obtain ⟨text, rfl⟩ := isTextDatum_iff.mp (hnode content rfl)
      refine ⟨ihOnto text, fun before => (ihOnto (before ++ text)).trans ?_⟩
      have hjoined : textContent [.text (.str (before ++ text))] =
          textContent [.text (.str before), .text (.str text)] := by
        rw [textContent_text]
        exact (textContent_append_of_ok (textContent_text before) (textContent_text text)).symm
      rw [← List.singleton_append, textContent_append, hjoined, ← textContent_append]
      rfl
    | _ => exact ⟨hcons [_], fun before => hcons [.text (.str before), _]⟩

end MarkTree.Node
