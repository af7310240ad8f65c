namespace MarkTree.Text

/-- The text before and after the first occurrence of `needle`. -/
def cut (needle : List Char) : List Char → Option (List Char × List Char)
  | [] => if needle.isEmpty then some ([], []) else none
  | c :: rest =>
    if needle.isPrefixOf (c :: rest) then some ([], (c :: rest).drop needle.length)
    else (cut needle rest).map fun (before, after) => (c :: before, after)

def contains (needle text : List Char) : Bool :=
  (cut needle text).isSome

def startsWith (start text : List Char) : Bool :=
  start.isPrefixOf text

def endsWith (ending text : List Char) : Bool :=
  ending.isSuffixOf text

/-- The pieces of a text between the occurrences of a separator character. -/
def splitAt (separator : Char) : List Char → List (List Char)
  | [] => [[]]
  | c :: rest =>
    if c == separator then [] :: splitAt separator rest
    else
      match splitAt separator rest with
      | [] => [[c]]
      | piece :: pieces => (c :: piece) :: pieces

/-- The first occurrence of a text splits around it: what is before, the text itself, what is
    after. -/
theorem eq_of_cut {needle text before after : List Char}
    (hcut : cut needle text = some (before, after)) : text = before ++ needle ++ after := by
  induction text generalizing before after with
  | nil =>
    simp only [cut] at hcut
    split at hcut
    · next h =>
      obtain ⟨rfl, rfl⟩ : before = [] ∧ after = [] := by simpa [eq_comm] using hcut
      simp [List.isEmpty_iff.1 h]
    · cases hcut
  | cons c rest ih =>
    simp only [cut] at hcut
    split at hcut
    · next h =>
      obtain ⟨rfl, rfl⟩ : [] = before ∧ (c :: rest).drop needle.length = after := by
        simpa using hcut
      obtain ⟨tail, htail⟩ := List.isPrefixOf_iff_prefix.1 h
      simp [← htail]
    · obtain ⟨⟨before', after'⟩, hrest, heq⟩ := Option.map_eq_some_iff.1 hcut
      obtain ⟨rfl, rfl⟩ : c :: before' = before ∧ after' = after := by simpa using heq
      simpa using ih hrest

end MarkTree.Text
