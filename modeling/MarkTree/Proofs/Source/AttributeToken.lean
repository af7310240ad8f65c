import MarkTree.Proofs.Text.Search
import MarkTree.Proofs.Text.Words
import MarkTree.Source.AttributeList

namespace MarkTree.Source

open MarkTree.Text

/-- Letters, digits, underscores and hyphens, at least one of them. -/
def IsName (name : List Char) : Prop :=
  name ≠ [] ∧ ∀ c ∈ name, isName c = true

instance (name : List Char) : Decidable (IsName name) :=
  decidable_of_iff (name ≠ [] ∧ name.all isName = true) (by simp [IsName])

namespace Quoting

def written : Quoting → List Char → List Char
  | .double, value => '\x22' :: value ++ ['\x22']
  | .single, value => '\x27' :: value ++ ['\x27']
  | .bare, value => value

/-- A value can be written in this way: it holds no quote of its own kind, and without quotes there is
    something to it and neither a blank nor a quote in it. -/
def Admits : Quoting → List Char → Prop
  | .double, value => '\x22' ∉ value
  | .single, value => '\x27' ∉ value
  | .bare, value => value ≠ [] ∧ ∀ c ∈ value, isBare c = true

instance (quoting : Quoting) (value : List Char) : Decidable (quoting.Admits value) :=
  match quoting with
  | .double => inferInstanceAs (Decidable ('\x22' ∉ value))
  | .single => inferInstanceAs (Decidable ('\x27' ∉ value))
  | .bare => decidable_of_iff (value ≠ [] ∧ value.all isBare = true) (by simp [Admits])

/-- The text behind a value does not go on with it. -/
def EndsAt : Quoting → List Char → Prop
  | .bare, rest => ∀ c ∈ rest.head?, isBare c = false
  | .double, _ | .single, _ => True

end Quoting

/-- A text starts with a run of one character or more, and this is the longest one. -/
theorem span_eq_iff {p : Char → Bool} {text run rest : List Char} :
    ((text.takeWhile p).isEmpty = false ∧ text.takeWhile p = run ∧ text.dropWhile p = rest) ↔
      text = run ++ rest ∧ (run ≠ [] ∧ ∀ c ∈ run, p c = true) ∧ ∀ c ∈ rest.head?, p c = false := by
  constructor
  · rintro ⟨hsome, hspan⟩
    obtain ⟨htext, hrun, hrest⟩ := takeWhile_dropWhile_eq_iff.mp hspan
    rw [hspan.1] at hsome
    exact ⟨htext, ⟨by simpa using hsome, hrun⟩, hrest⟩
  · rintro ⟨htext, ⟨hne, hrun⟩, hrest⟩
    have hspan := takeWhile_dropWhile_eq_iff.mpr ⟨htext, hrun, hrest⟩
    exact ⟨by simpa [hspan.1] using hne, hspan⟩

/-- A name is the longest run of name characters at the front of a text. -/
theorem nameAt?_eq_some_iff {text name rest : List Char} :
    nameAt? text = some (name, rest) ↔
      text = name ++ rest ∧ IsName name ∧ ∀ c ∈ rest.head?, isName c = false := by
  rw [nameAt?, IsName, ← span_eq_iff]
  cases (text.takeWhile isName).isEmpty <;> simp

/-- A quoted value ends at the next quote of its kind. -/
theorem closeQuote?_eq_some_iff {quote : Char} {text value rest : List Char} :
    closeQuote? quote text = some (value, rest) ↔ text = value ++ quote :: rest ∧ quote ∉ value := by
  have hinside (run : List Char) : (∀ c ∈ run, (c != quote) = true) ↔ quote ∉ run := by
    simp only [bne_iff_ne]
    exact ⟨fun hrun hmem => hrun quote hmem rfl, fun hnot c hmem => ne_of_mem_of_not_mem hmem hnot⟩
  constructor
  · intro hclose
    unfold closeQuote? at hclose
    split at hclose
    · cases hclose
    · rename_i c tail hdrop
      cases hclose
      obtain ⟨htext, hrun, hend⟩ := takeWhile_dropWhile_eq_iff.mp ⟨rfl, hdrop⟩
      obtain rfl : c = quote := by simpa using hend c rfl
      exact ⟨htext, (hinside _).mp hrun⟩
  · rintro ⟨htext, hnot⟩
    have hend : ∀ c ∈ (quote :: rest).head?, (c != quote) = false := by simp
    obtain ⟨htake, hdrop⟩ := takeWhile_dropWhile_eq_iff.mpr ⟨htext, (hinside value).mpr hnot, hend⟩
    rw [closeQuote?, hdrop, htake]

/-- A value without a quote at the front is the longest run of bare characters. -/
theorem valueAt?_of_unquoted {text : List Char} (hdouble : text.head? ≠ some '\x22')
    (hsingle : text.head? ≠ some '\x27') :
    valueAt? text = if (text.takeWhile isBare).isEmpty then none
      else some (text.takeWhile isBare, .bare, text.dropWhile isBare) := by
  unfold valueAt?
  split
  · exact absurd rfl hdouble
  · exact absurd rfl hsingle
  · rfl

/-- A value that starts with something bare starts with no quote. -/
theorem head?_ne_of_bare {quote : Char} (hquote : isBare quote = false) {value : List Char}
    (hvalue : Quoting.bare.Admits value) (rest : List Char) : (value ++ rest).head? ≠ some quote := by
  obtain ⟨hne, hbare⟩ := hvalue
  cases value with
  | nil => exact absurd rfl hne
  | cons c value =>
    intro hhead
    obtain rfl : c = quote := by simpa using hhead
    rw [hbare c List.mem_cons_self] at hquote
    cases hquote

/-- A value is found where the text is put together from it and a rest that it ends at. -/
theorem valueAt?_eq_some_iff {text value rest : List Char} {quoting : Quoting} :
    valueAt? text = some (value, quoting, rest) ↔
      text = quoting.written value ++ rest ∧ quoting.Admits value ∧ quoting.EndsAt rest := by
  constructor
  · intro hvalue
    unfold valueAt? at hvalue
    split at hvalue
    · obtain ⟨⟨_, _⟩, hclose, heq⟩ := Option.map_eq_some_iff.mp hvalue
      cases heq
      obtain ⟨rfl, hnot⟩ := closeQuote?_eq_some_iff.mp hclose
      exact ⟨by simp [Quoting.written], hnot, trivial⟩
    · obtain ⟨⟨_, _⟩, hclose, heq⟩ := Option.map_eq_some_iff.mp hvalue
      cases heq
      obtain ⟨rfl, hnot⟩ := closeQuote?_eq_some_iff.mp hclose
      exact ⟨by simp [Quoting.written], hnot, trivial⟩
    · dsimp only at hvalue
      split at hvalue
      · cases hvalue
      · rename_i hsome
        cases hvalue
        exact span_eq_iff.mp ⟨by simpa using hsome, rfl, rfl⟩
  · rintro ⟨rfl, hadmits, hend⟩
    cases quoting with
    | double =>
      have hclose : closeQuote? '\x22' (value ++ '\x22' :: rest) = some (value, rest) :=
        closeQuote?_eq_some_iff.mpr ⟨rfl, hadmits⟩
      simp [Quoting.written, valueAt?, hclose]
    | single =>
      have hclose : closeQuote? '\x27' (value ++ '\x27' :: rest) = some (value, rest) :=
        closeQuote?_eq_some_iff.mpr ⟨rfl, hadmits⟩
      simp [Quoting.written, valueAt?, hclose]
    | bare =>
      obtain ⟨hsome, htake, hdrop⟩ := span_eq_iff.mpr ⟨rfl, hadmits, hend⟩
      rw [Quoting.written, valueAt?_of_unquoted (head?_ne_of_bare rfl hadmits rest)
        (head?_ne_of_bare rfl hadmits rest), hsome, htake, hdrop]
      rfl

namespace AttributeToken

/-- The parts of the token are such that it can be written. -/
def IsComplete : AttributeToken → Prop
  | .dotted name | .hashed name => IsName name
  | .pair key value quoting => IsName key ∧ quoting.Admits value

instance (token : AttributeToken) : Decidable token.IsComplete :=
  match token with
  | .dotted name | .hashed name => inferInstanceAs (Decidable (IsName name))
  | .pair _ _ _ => inferInstanceAs (Decidable (_ ∧ _))

/-- The text behind a token does not go on with it. -/
def EndsAt : AttributeToken → List Char → Prop
  | .dotted _, rest | .hashed _, rest => ∀ c ∈ rest.head?, isName c = false
  | .pair _ _ quoting, rest => quoting.EndsAt rest

theorem spell_pair (key value : List Char) (quoting : Quoting) :
    spell (.pair key value quoting) = key ++ '=' :: quoting.written value := by
  cases quoting <;> simp [spell, Quoting.written]

end AttributeToken

theorem isName_equals : isName '=' = false := by decide

/-- A name with an equals sign behind it is the key of a value. -/
theorem tokenAt?_of_key {text key rest : List Char} (hkey : nameAt? text = some (key, '=' :: rest)) :
    tokenAt? text = (valueAt? rest).map fun (value, quoting, rest) => (.pair key value quoting, rest) := by
  have hdot : isName '.' = false := by decide
  have hhash : isName '#' = false := by decide
  unfold tokenAt?
  split
  · simp [nameAt?, hdot] at hkey
  · simp [nameAt?, hhash] at hkey
  · simp only [hkey]

/-- A token is written at the start of the text. -/
def StartsToken (text : List Char) : Prop :=
  ∃ token rest, AttributeToken.IsComplete token ∧ text = token.spell ++ rest

/-- The token at the start of a text is the one that is written there in full. -/
theorem tokenAt?_eq_some_iff {text rest : List Char} {token : AttributeToken} :
    tokenAt? text = some (token, rest) ↔
      text = token.spell ++ rest ∧ token.IsComplete ∧ token.EndsAt rest := by
  constructor
  · intro htoken
    unfold tokenAt? at htoken
    split at htoken
    · obtain ⟨⟨name, _⟩, hname, heq⟩ := Option.map_eq_some_iff.mp htoken
      cases heq
      obtain ⟨rfl, hname, hend⟩ := nameAt?_eq_some_iff.mp hname
      exact ⟨rfl, hname, hend⟩
    · obtain ⟨⟨name, _⟩, hname, heq⟩ := Option.map_eq_some_iff.mp htoken
      cases heq
      obtain ⟨rfl, hname, hend⟩ := nameAt?_eq_some_iff.mp hname
      exact ⟨rfl, hname, hend⟩
    · split at htoken
      · rename_i key tail hkey
        obtain ⟨⟨value, quoting, _⟩, hvalue, heq⟩ := Option.map_eq_some_iff.mp htoken
        cases heq
        obtain ⟨rfl, hname, -⟩ := nameAt?_eq_some_iff.mp hkey
        obtain ⟨rfl, hadmits, hend⟩ := valueAt?_eq_some_iff.mp hvalue
        exact ⟨by simp [AttributeToken.spell_pair], ⟨hname, hadmits⟩, hend⟩
      · cases htoken
  · rintro ⟨rfl, hcomplete, hend⟩
    cases token with
    | dotted name =>
      have hname := nameAt?_eq_some_iff.mpr ⟨rfl, hcomplete, hend⟩
      simp [AttributeToken.spell, tokenAt?, hname]
    | hashed name =>
      have hname := nameAt?_eq_some_iff.mpr ⟨rfl, hcomplete, hend⟩
      simp [AttributeToken.spell, tokenAt?, hname]
    | pair key value quoting =>
      obtain ⟨hkey, hadmits⟩ := hcomplete
      have hname : nameAt? (key ++ '=' :: (quoting.written value ++ rest)) =
          some (key, '=' :: (quoting.written value ++ rest)) :=
        nameAt?_eq_some_iff.mpr ⟨rfl, hkey, by simp [isName_equals]⟩
      have hvalue := valueAt?_eq_some_iff.mpr ⟨rfl, hadmits, hend⟩
      rw [AttributeToken.spell_pair, List.append_assoc, List.cons_append, tokenAt?_of_key hname, hvalue]
      rfl

/-- A run of characters, lengthened as far as the text behind it allows. -/
theorem exists_longest_run {p : Char → Bool} {run : List Char} (hne : run ≠ [])
    (hrun : ∀ c ∈ run, p c = true) (rest : List Char) :
    ∃ run' rest', (run' ≠ [] ∧ ∀ c ∈ run', p c = true) ∧ (∀ c ∈ rest'.head?, p c = false) ∧
      run ++ rest = run' ++ rest' := by
  refine ⟨run ++ rest.takeWhile p, rest.dropWhile p, ⟨by simp [hne], ?_⟩,
    fun c hmem => of_mem_head?_dropWhile hmem, ?_⟩
  · exact List.forall_mem_append.mpr ⟨hrun, fun c hmem => of_mem_takeWhile hmem⟩
  · rw [List.append_assoc, List.takeWhile_append_dropWhile]

/-- A value that is admitted, with anything behind it, is the front of one that ends where it is read to
    end. -/
theorem Quoting.exists_endsAt {quoting : Quoting} {value : List Char} (hadmits : quoting.Admits value)
    (rest : List Char) :
    ∃ value' rest', quoting.Admits value' ∧ quoting.EndsAt rest' ∧
      quoting.written value ++ rest = quoting.written value' ++ rest' := by
  cases quoting with
  | double | single => exact ⟨value, rest, hadmits, trivial, rfl⟩
  | bare => exact exists_longest_run hadmits.1 hadmits.2 rest

/-- A token that the text behind it goes on with is the start of one that ends. -/
theorem AttributeToken.exists_endsAt {token : AttributeToken} (hcomplete : token.IsComplete)
    (rest : List Char) :
    ∃ token' rest', AttributeToken.IsComplete token' ∧ token'.EndsAt rest' ∧
      token.spell ++ rest = token'.spell ++ rest' := by
  cases token with
  | dotted name =>
    obtain ⟨name', rest', hname, hend, heq⟩ := exists_longest_run hcomplete.1 hcomplete.2 rest
    exact ⟨.dotted name', rest', hname, hend, congrArg _ heq⟩
  | hashed name =>
    obtain ⟨name', rest', hname, hend, heq⟩ := exists_longest_run hcomplete.1 hcomplete.2 rest
    exact ⟨.hashed name', rest', hname, hend, congrArg _ heq⟩
  | pair key value quoting =>
    obtain ⟨value', rest', hadmits, hend, heq⟩ := Quoting.exists_endsAt hcomplete.2 rest
    refine ⟨.pair key value' quoting, rest', ⟨hcomplete.1, hadmits⟩, hend, ?_⟩
    rw [spell_pair, spell_pair, List.append_assoc, List.cons_append, heq, List.append_assoc,
      List.cons_append]

/-- No token is found just if none starts the text. -/
theorem tokenAt?_eq_none_iff {text : List Char} : tokenAt? text = none ↔ ¬ StartsToken text := by
  constructor
  · rintro hnone ⟨token, rest, hcomplete, htext⟩
    obtain ⟨token', rest', hcomplete', hend, heq⟩ := AttributeToken.exists_endsAt hcomplete rest
    rw [tokenAt?_eq_some_iff.mpr ⟨htext.trans heq, hcomplete', hend⟩] at hnone
    cases hnone
  · intro hnot
    cases htoken : tokenAt? text with
    | none => rfl
    | some found =>
      obtain ⟨htext, hcomplete, -⟩ := tokenAt?_eq_some_iff.mp htoken
      exact absurd ⟨_, _, hcomplete, htext⟩ hnot

end MarkTree.Source
