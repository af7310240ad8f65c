import MarkTree.Proofs.Text.Strip
import MarkTree.Text.Word

namespace MarkTree.Text

/-- A text without blanks that is not empty. -/
def IsOneWord (text : List Char) : Prop :=
  text ≠ [] ∧ ∀ c ∈ text, isBlank c = false

theorem words_of_isOneWord {word : List Char} (hword : IsOneWord word) : words word = [word] := by
  obtain ⟨hne, hsolid⟩ := hword
  induction word with
  | nil => exact absurd rfl hne
  | cons c word ih =>
    obtain ⟨hc, hsolid⟩ := List.forall_mem_cons.mp hsolid
    cases word with
    | nil => simp [words, hc, startsBlank, consHead]
    | cons d word =>
      have hd : startsBlank (d :: word) = false := (List.forall_mem_cons.mp hsolid).1
      rw [words, hc, hd, ih (List.cons_ne_nil d word) hsolid]
      rfl

theorem words_ne_nil {c : Char} (hc : isBlank c = false) (rest : List Char) : words (c :: rest) ≠ [] := by
  rw [words, hc]
  cases startsBlank rest with
  | true => exact List.cons_ne_nil _ _
  | false => cases words rest <;> exact List.cons_ne_nil _ _

/-- The words of a text that is cut at a blank are those of the two parts. -/
theorem words_append_blank {c : Char} (hc : isBlank c = true) (front back : List Char) :
    words (front ++ c :: back) = words front ++ words back := by
  induction front with
  | nil => exact words_cons_blank hc
  | cons d front ih =>
    by_cases hd : isBlank d = true
    · rw [List.cons_append, words_cons_blank hd, words_cons_blank hd, ih]
    · rw [Bool.not_eq_true] at hd
      cases front with
      | nil =>
        have hstart : startsBlank (c :: back) = true := hc
        have hone : words [d] = [[d]] :=
          words_of_isOneWord ⟨List.cons_ne_nil d [], List.forall_mem_singleton.mpr hd⟩
        rw [hone, List.singleton_append, words, hd, hstart, words_cons_blank hc]
        rfl
      | cons e front =>
        rw [List.cons_append, words, words, hd, ih, List.cons_append, startsBlank, startsBlank]
        by_cases he : isBlank e = true
        · rw [he]
          rfl
        · rw [Bool.not_eq_true] at he
          -- The first word goes on in front of the blank, so the character goes into that word.
          rw [he]
          exact consHead_append (words_ne_nil he front) d (words back)

theorem words_of_allBlank {blanks : List Char} (hblanks : allBlank blanks = true) : words blanks = [] := by
  induction blanks with
  | nil => rfl
  | cons c blanks ih =>
    obtain ⟨hc, hrest⟩ := Bool.and_eq_true_iff.mp hblanks
    rw [words_cons_blank hc, ih hrest]

/-- The words of a text, one behind the other, are its characters that are not blank. -/
theorem flatten_words (text : List Char) : (words text).flatten = text.filter fun c => !isBlank c := by
  induction text with
  | nil => rfl
  | cons c rest ih =>
    rw [words, List.filter_cons, ← ih]
    split
    · rename_i hblank
      simp [hblank]
    · rename_i hsolid
      rw [Bool.not_eq_true] at hsolid
      rw [hsolid]
      split
      · rfl
      · exact flatten_consHead c (words rest)

/-- Blanks at the end of a text change none of its words. -/
theorem words_stripRight (text : List Char) : words (stripRight text) = words text := by
  obtain ⟨blanks, hblanks, htext⟩ := exists_blanks_of_stripRight text
  cases blanks with
  | nil =>
    rw [List.append_nil] at htext
    rw [← htext]
  | cons c blanks =>
    obtain ⟨hc, hrest⟩ := Bool.and_eq_true_iff.mp hblanks
    calc
      words (stripRight text) = words (stripRight text) ++ words blanks := by
        rw [words_of_allBlank hrest, List.append_nil]
      _ = words (stripRight text ++ c :: blanks) := (words_append_blank hc _ _).symm
      _ = words text := by rw [← htext]

/-- Words joined by spaces are the words of the whole. -/
theorem words_intercalate {names : List (List Char)} (hnames : ∀ name ∈ names, IsOneWord name) :
    words ([' '].intercalate names) = names := by
  induction names with
  | nil => rfl
  | cons name rest ih =>
    obtain ⟨hname, hrest⟩ := List.forall_mem_cons.mp hnames
    cases rest with
    | nil => simpa using words_of_isOneWord hname
    | cons next rest =>
      rw [List.intercalate_cons_cons, List.append_assoc, List.singleton_append, words_append_blank rfl,
        words_of_isOneWord hname, ih hrest, List.singleton_append]

/-- The words around a space are those in front of it and those behind it. -/
theorem wordsOf_append_blank (front back : String) :
    wordsOf (front ++ " " ++ back) = wordsOf front ++ wordsOf back := by
  have hsplit : (front ++ " " ++ back).toList = front.toList ++ ' ' :: back.toList := by simp
  rw [wordsOf, hsplit, words_append_blank rfl, List.map_append]
  rfl

/-- Words with single blanks between them are the words of the text that they make. -/
theorem wordsOf_intercalate {names : List String} (hnames : ∀ name ∈ names, IsOneWord name.toList) :
    wordsOf (" ".intercalate names) = names := by
  have hwords : words (" ".intercalate names).toList = names.map String.toList := by
    rw [String.toList_intercalate]
    exact words_intercalate (List.forall_mem_map.mpr hnames)
  rw [wordsOf, hwords]
  simp

/-- The blank characters above ASCII. -/
def blankPoints : List Nat :=
  [0x85, 0xA0, 0x1680, 0x2000, 0x2001, 0x2002, 0x2003, 0x2004, 0x2005, 0x2006, 0x2007, 0x2008, 0x2009,
    0x200A, 0x2028, 0x2029, 0x202F, 0x205F, 0x3000]

/-- Every blank above ASCII is listed. -/
theorem mem_blankPoints {c : Char} (hblank : isBlank c = true) (hlarge : ¬ c.toNat < 128) :
    c.toNat ∈ blankPoints := by
  simp only [isBlank, Bool.or_eq_true, Bool.and_eq_true, decide_eq_true_eq, beq_iff_eq] at hblank
  simp only [blankPoints, List.mem_cons, List.not_mem_nil, or_false]
  omega

/-- No blank that is listed is a letter or number. -/
theorem inRanges_of_mem_blankPoints :
    ∀ point ∈ blankPoints, inRanges point wordRanges = false := by
  decide +kernel

theorem toNat_of_isAlphanum {c : Char} (hc : c.isAlphanum = true) : 48 ≤ c.toNat := by
  have halphanum : c.isAlphanum = (c.isUpper || c.isLower || c.isDigit) := rfl
  have hupper : c.isUpper = decide (65 ≤ c.val ∧ c.val ≤ 90) := rfl
  have hlower : c.isLower = (decide (97 ≤ c.val) && decide (c.val ≤ 122)) := rfl
  have hdigit : c.isDigit = (decide (48 ≤ c.val) && decide (c.val ≤ 57)) := rfl
  have hval : c.val.toNat = c.toNat := rfl
  simp only [halphanum, hupper, hlower, hdigit, UInt32.le_iff_toNat_le, UInt32.reduceToNat, hval,
    Bool.or_eq_true, Bool.and_eq_true, decide_eq_true_eq] at hc
  omega

/-- A word character is not blank. -/
theorem isBlank_of_isWord {c : Char} (hword : isWord c = true) : isBlank c = false := by
  unfold isWord at hword
  split at hword
  · rename_i hsmall
    -- In ASCII all blanks are below the digits.
    have hlow : 48 ≤ c.toNat := by
      rcases Bool.or_eq_true_iff.mp hword with hc | hc
      · exact toNat_of_isAlphanum hc
      · obtain rfl : c = '_' := by simpa using hc
        decide
    simp only [isBlank, Bool.or_eq_false_iff, Bool.and_eq_false_iff, decide_eq_false_iff_not,
      beq_eq_false_iff_ne]
    omega
  · rename_i hlarge
    cases hblank : isBlank c with
    | false => rfl
    | true =>
      rw [inRanges_of_mem_blankPoints _ (mem_blankPoints hblank hlarge)] at hword
      cases hword

/-- A name character is not blank. -/
theorem isBlank_of_isName {c : Char} (hname : isName c = true) : isBlank c = false := by
  rcases Bool.or_eq_true_iff.mp hname with hword | hhyphen
  · exact isBlank_of_isWord hword
  · obtain rfl : c = '-' := by simpa using hhyphen
    decide

/-- A name is one word. -/
theorem isOneWord_of_isName {name : List Char} (hne : name ≠ [])
    (hname : ∀ c ∈ name, isName c = true) : IsOneWord name :=
  ⟨hne, fun c hmem => isBlank_of_isName (hname c hmem)⟩

end MarkTree.Text
