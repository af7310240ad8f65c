import MarkTree.Proofs.Text.Search
import MarkTree.Source.Line

namespace MarkTree.Source

open MarkTree.Text

/-- A text behind at most three spaces. -/
theorem dropIndent?_eq_some_iff {text rest : List Char} :
    dropIndent? text = some rest ↔
      ∃ n ≤ 3, text = List.replicate n ' ' ++ rest ∧ ∀ c ∈ rest.head?, c ≠ ' ' := by
  unfold dropIndent?
  constructor
  · intro h
    split at h
    · rename_i hle
      obtain rfl : text.dropWhile (· == ' ') = rest := by simpa using h
      refine ⟨_, hle, (replicate_append_dropWhile ' ' text).symm, fun c hmem => ?_⟩
      simpa using of_mem_head?_dropWhile hmem
    · cases h
  · rintro ⟨n, hle, rfl, hrest⟩
    have hrun : ∀ c ∈ List.replicate n ' ', (c == ' ') = true := by simp
    have hstop : ∀ c ∈ rest.head?, (c == ' ') = false := by simpa using hrest
    rw [takeWhile_append_of_run hrun hstop, dropWhile_append_of_run hrun hstop, List.length_replicate,
      if_pos hle]

/-- More than three spaces are not taken off. -/
theorem dropIndent?_of_spaces {n : Nat} (hmany : 3 < n) (rest : List Char) :
    dropIndent? (List.replicate n ' ' ++ rest) = none := by
  have hrun : ∀ c ∈ List.replicate n ' ', (c == ' ') = true := by simp
  rw [dropIndent?, List.takeWhile_append_of_pos hrun, List.length_append, List.length_replicate,
    if_neg (by omega)]

namespace Fence

/-- A text is at most three spaces, a fence of backticks or tildes and an info string, which does not
    go on with the same mark. -/
structure Begins (fence : Fence) (text info : List Char) : Prop where
  eq : ∃ n ≤ 3, text = List.replicate n ' ' ++ (List.replicate fence.width fence.mark ++ info)
  mark : fence.mark = backtick ∨ fence.mark = '~'
  width : 3 ≤ fence.width
  info : ∀ c ∈ info.head?, c ≠ fence.mark

/-- A text opens a fence. The info string of a fence of backticks holds no backtick. -/
def IsOpener (fence : Fence) (text : List Char) : Prop :=
  ∃ info, fence.Begins text info ∧ (fence.mark = backtick → backtick ∉ info)

/-- A text closes a fence: it is a fence of the same mark, at least as long, with nothing but blanks
    behind it. -/
def IsCloser (fence : Fence) (text : List Char) : Prop :=
  ∃ (closing : Fence) (blanks : List Char), closing.Begins text blanks ∧ closing.mark = fence.mark ∧
    fence.width ≤ closing.width ∧ ∀ c ∈ blanks, isBlank c = true

/-- A fence is found where the text begins with one. -/
theorem start?_eq_some_iff {text info : List Char} {fence : Fence} :
    start? text = some (fence, info) ↔ fence.Begins text info := by
  unfold start?
  constructor
  · intro h
    split at h
    · rename_i mark rest hindent
      obtain ⟨n, hle, rfl, -⟩ := dropIndent?_eq_some_iff.mp hindent
      dsimp only at h
      split at h
      · rename_i hfence
        obtain ⟨rfl, rfl⟩ : _ = fence ∧ rest.dropWhile (· == mark) = info := by simpa using h
        obtain ⟨hmark, hwidth⟩ := Bool.and_eq_true_iff.mp hfence
        refine ⟨⟨n, hle, ?_⟩, by simpa using hmark, by simpa using hwidth, fun c hmem => ?_⟩
        · rw [List.replicate_succ, List.cons_append, replicate_append_dropWhile]
        · simpa using of_mem_head?_dropWhile hmem
      · cases h
    · cases h
  · rintro ⟨⟨n, hle, rfl⟩, hmark, hwidth, hinfo⟩
    obtain ⟨mark, width⟩ := fence
    dsimp only at hmark hwidth hinfo ⊢
    obtain ⟨width, rfl⟩ : ∃ k, width = k + 1 := ⟨width - 1, by omega⟩
    have hne : mark ≠ ' ' := by
      rcases hmark with rfl | rfl <;> decide
    have hindent : dropIndent? (List.replicate n ' ' ++ (List.replicate (width + 1) mark ++ info)) =
        some (mark :: (List.replicate width mark ++ info)) :=
      dropIndent?_eq_some_iff.mpr ⟨n, hle, rfl, by simpa [List.replicate_succ] using hne⟩
    have hrun : ∀ c ∈ List.replicate width mark, (c == mark) = true := by simp
    have hstop : ∀ c ∈ info.head?, (c == mark) = false := by simpa using hinfo
    have hfence : ((mark == backtick || mark == '~') && decide (3 ≤ width + 1)) = true := by
      rw [Bool.and_eq_true, decide_eq_true_iff]
      exact ⟨by simpa using hmark, hwidth⟩
    rw [hindent]
    dsimp only
    rw [takeWhile_append_of_run hrun hstop, dropWhile_append_of_run hrun hstop, List.length_replicate,
      if_pos hfence]

/-- A text begins with one fence at most. -/
theorem Begins.unique {fence fence' : Fence} {text info info' : List Char} (h : fence.Begins text info)
    (h' : fence'.Begins text info') : fence = fence' ∧ info = info' := by
  have heq := (start?_eq_some_iff.mpr h).symm.trans (start?_eq_some_iff.mpr h')
  simpa using heq

/-- A fence is closed by a line of its mark that is long enough and has nothing behind it. -/
theorem closedBy_iff {fence : Fence} {text : List Char} :
    fence.closedBy text = true ↔ fence.IsCloser text := by
  unfold closedBy
  constructor
  · intro h
    split at h
    · rename_i closing rest hstart
      simp only [Bool.and_eq_true, beq_iff_eq, decide_eq_true_eq] at h
      obtain ⟨⟨hmark, hwidth⟩, hblank⟩ := h
      exact ⟨closing, rest, start?_eq_some_iff.mp hstart, hmark, hwidth, List.all_eq_true.mp hblank⟩
    · cases h
  · rintro ⟨closing, blanks, hbegins, hmark, hwidth, hblank⟩
    rw [start?_eq_some_iff.mpr hbegins]
    have hall : allBlank blanks = true := List.all_eq_true.mpr hblank
    simp [hmark, hwidth, hall]

end Fence

/-- A bullet, or one to nine digits with a point or a parenthesis. -/
inductive IsListMarker : List Char → Prop where
  | bullet {mark : Char} (hmark : mark = '-' ∨ mark = '+' ∨ mark = '*') : IsListMarker [mark]
  | numbered {digits : List Char} {stop : Char} (hdigits : ∀ c ∈ digits, isDigit c = true)
      (hone : 1 ≤ digits.length) (hnine : digits.length ≤ 9) (hstop : stop = '.' ∨ stop = ')') :
      IsListMarker (digits ++ [stop])

/-- A text is at most three spaces, a list marker, at least one space and a rest that starts with
    none. -/
def IsListItem (text rest : List Char) : Prop :=
  ∃ n ≤ 3, ∃ marker, IsListMarker marker ∧ ∃ k,
    text = List.replicate n ' ' ++ (marker ++ (List.replicate (k + 1) ' ' ++ rest)) ∧
      ∀ c ∈ rest.head?, c ≠ ' '

theorem isDigit_eq_false_of_stop {stop : Char} (hstop : stop = '.' ∨ stop = ')') :
    isDigit stop = false := by
  rcases hstop with rfl | rfl <;> decide

/-- The first character of a list marker is neither a space nor the mark of a fence. -/
theorem IsListMarker.exists_cons {marker : List Char} (h : IsListMarker marker) :
    ∃ c rest, marker = c :: rest ∧ c ≠ ' ' ∧ c ≠ backtick ∧ c ≠ '~' := by
  cases h with
  | bullet hmark =>
    refine ⟨_, [], rfl, ?_⟩
    rcases hmark with rfl | rfl | rfl <;> decide
  | @numbered digits stop hdigits hone _ _ =>
    cases digits with
    | nil => cases hone
    | cons c rest =>
      have hc := hdigits c List.mem_cons_self
      refine ⟨c, rest ++ [stop], rfl, ?_, ?_, ?_⟩ <;>
        (rintro rfl; revert hc; decide)

/-- What is behind a list marker. -/
theorem behindMarker?_eq_some_iff {text behind : List Char} :
    behindMarker? text = some behind ↔
      ∃ n ≤ 3, ∃ marker, IsListMarker marker ∧ text = List.replicate n ' ' ++ (marker ++ behind) := by
  unfold behindMarker?
  constructor
  · intro h
    split at h
    · rename_i c rest hindent
      obtain ⟨n, hle, rfl, -⟩ := dropIndent?_eq_some_iff.mp hindent
      split at h
      · rename_i hbullet
        obtain rfl : rest = behind := by simpa using h
        exact ⟨n, hle, [c], .bullet (by simpa [or_assoc] using hbullet), rfl⟩
      · dsimp only at h
        split at h
        · rename_i stop tail hdrop
          split at h
          · rename_i hnumbered
            obtain rfl : tail = behind := by simpa using h
            simp only [Bool.and_eq_true, Bool.or_eq_true, beq_iff_eq, decide_eq_true_eq] at hnumbered
            obtain ⟨⟨hstop, hone⟩, hnine⟩ := hnumbered
            refine ⟨n, hle, (c :: rest).takeWhile isDigit ++ [stop],
              .numbered (fun d hmem => of_mem_takeWhile hmem) hone hnine hstop, ?_⟩
            rw [List.append_assoc, List.singleton_append, ← hdrop, List.takeWhile_append_dropWhile]
          · cases h
        · cases h
    · cases h
  · rintro ⟨n, hle, marker, hmarker, rfl⟩
    obtain ⟨c, tail, hcons, hspace, -, -⟩ := hmarker.exists_cons
    have hindent : dropIndent? (List.replicate n ' ' ++ (marker ++ behind)) =
        some (marker ++ behind) :=
      dropIndent?_eq_some_iff.mpr ⟨n, hle, rfl, by simpa [hcons] using hspace⟩
    rw [hindent]
    cases hmarker with
    | bullet hmark => rcases hmark with rfl | rfl | rfl <;> simp
    | @numbered digits stop hdigits hone hnine hstop =>
      have hrun : ∀ d ∈ (stop :: behind).head?, isDigit d = false := by
        simpa using isDigit_eq_false_of_stop hstop
      have htake := takeWhile_append_of_run hdigits hrun
      have hdrop := dropWhile_append_of_run hdigits hrun
      cases digits with
      | nil => cases hone
      | cons d digits =>
        -- A digit is no bullet.
        have hd := hdigits d List.mem_cons_self
        have hbullet : (d == '-' || d == '+' || d == '*') = false := by
          refine Bool.eq_false_iff.mpr fun hbullet => ?_
          simp only [Bool.or_eq_true, beq_iff_eq] at hbullet
          rcases hbullet with (rfl | rfl) | rfl <;> (revert hd; decide)
        rw [List.append_assoc, List.singleton_append]
        simp only [List.cons_append] at htake hdrop ⊢
        have hnumbered : ((stop == '.' || stop == ')') && decide (1 ≤ (d :: digits).length) &&
            decide ((d :: digits).length ≤ 9)) = true := by
          simp only [Bool.and_eq_true, Bool.or_eq_true, beq_iff_eq, decide_eq_true_eq]
          exact ⟨⟨hstop, hone⟩, hnine⟩
        simp only [hbullet, Bool.false_eq_true, ↓reduceIte, htake, hdrop, hnumbered]

/-- What starts with a list marker starts with no fence. -/
theorem start?_eq_none_of_behindMarker? {text behind : List Char}
    (h : behindMarker? text = some behind) : Fence.start? text = none := by
  obtain ⟨n, hle, marker, hmarker, rfl⟩ := behindMarker?_eq_some_iff.mp h
  obtain ⟨c, tail, rfl, hspace, hbacktick, htilde⟩ := hmarker.exists_cons
  have hindent : dropIndent? (List.replicate n ' ' ++ (c :: tail ++ behind)) =
      some (c :: (tail ++ behind)) :=
    dropIndent?_eq_some_iff.mpr ⟨n, hle, rfl, by simpa using hspace⟩
  rw [Fence.start?, hindent]
  simp [hbacktick, htilde]

/-- A list item is what stands behind a list marker and spaces. -/
theorem isListItem_iff {text rest : List Char} :
    IsListItem text rest ↔
      ∃ behind, behindMarker? text = some (' ' :: behind) ∧ rest = behind.dropWhile (· == ' ') := by
  constructor
  · rintro ⟨n, hle, marker, hmarker, k, rfl, hrest⟩
    refine ⟨List.replicate k ' ' ++ rest, behindMarker?_eq_some_iff.mpr ⟨n, hle, marker, hmarker, rfl⟩, ?_⟩
    have hrun : ∀ c ∈ List.replicate k ' ', (c == ' ') = true := by simp
    exact (dropWhile_append_of_run hrun (by simpa using hrest)).symm
  · rintro ⟨behind, hbehind, rfl⟩
    obtain ⟨n, hle, marker, hmarker, rfl⟩ := behindMarker?_eq_some_iff.mp hbehind
    refine ⟨n, hle, marker, hmarker, (behind.takeWhile (· == ' ')).length, ?_, fun c hmem => ?_⟩
    · rw [List.replicate_succ, List.cons_append, replicate_append_dropWhile]
    · simpa using of_mem_head?_dropWhile hmem

/-- Dropping the list marker takes a list item apart and leaves every other text alone. -/
theorem dropListMarker_eq (text : List Char) :
    IsListItem text (dropListMarker text) ∨
      dropListMarker text = text ∧ ∀ rest, ¬ IsListItem text rest := by
  unfold dropListMarker
  split
  · rename_i behind hbehind
    exact .inl (isListItem_iff.mpr ⟨behind, hbehind, rfl⟩)
  · rename_i hnot
    refine .inr ⟨rfl, fun rest hitem => ?_⟩
    obtain ⟨behind, hbehind, -⟩ := isListItem_iff.mp hitem
    exact hnot behind hbehind

/-- A text is a list item in one way at most. -/
theorem IsListItem.unique {text rest rest' : List Char} (h : IsListItem text rest)
    (h' : IsListItem text rest') : rest = rest' := by
  obtain ⟨behind, hbehind, rfl⟩ := isListItem_iff.mp h
  obtain ⟨behind', hbehind', rfl⟩ := isListItem_iff.mp h'
  rw [hbehind] at hbehind'
  cases hbehind'
  rfl

/-- A body opens a fence on its own or behind one list marker. -/
theorem openedFence?_eq_some_iff {body : List Char} {fence : Fence} :
    openedFence? body = some fence ↔
      fence.IsOpener body ∨ ∃ item, IsListItem body item ∧ fence.IsOpener item := by
  have hopened {text info : List Char} {found : Fence} (hbegins : found.Begins text info) :
      (if found.mark == backtick && info.contains backtick then none else some found) = some fence ↔
        fence.IsOpener text := by
    constructor
    · intro h
      split at h
      · cases h
      · rename_i hnot
        obtain rfl : found = fence := by simpa using h
        exact ⟨info, hbegins, by simpa using hnot⟩
    · rintro ⟨info', hbegins', hinfo⟩
      obtain ⟨rfl, rfl⟩ := hbegins.unique hbegins'
      simpa using hinfo
  unfold openedFence?
  cases hstart : Fence.start? body with
  | some found =>
    obtain ⟨found, info⟩ := found
    have hnone : ∀ item, ¬ IsListItem body item := by
      intro item hitem
      obtain ⟨behind, hbehind, -⟩ := isListItem_iff.mp hitem
      rw [start?_eq_none_of_behindMarker? hbehind] at hstart
      cases hstart
    rw [Option.some_or]
    dsimp only
    rw [hopened (Fence.start?_eq_some_iff.mp hstart)]
    simp [hnone]
  | none =>
    have hbody : ¬ fence.IsOpener body := by
      rintro ⟨info, hbegins, -⟩
      rw [Fence.start?_eq_some_iff.mpr hbegins] at hstart
      cases hstart
    rw [Option.none_or, or_iff_right hbody]
    rcases dropListMarker_eq body with hitem | ⟨hsame, hnone⟩
    · have hiff : (∃ item, IsListItem body item ∧ fence.IsOpener item) ↔
          fence.IsOpener (dropListMarker body) := by
        constructor
        · rintro ⟨item, hitem', hopener⟩
          rwa [hitem.unique hitem']
        · exact fun hopener => ⟨_, hitem, hopener⟩
      rw [hiff]
      cases hbehind : Fence.start? (dropListMarker body) with
      | some found => exact hopened (Fence.start?_eq_some_iff.mp hbehind)
      | none =>
        refine ⟨nofun, fun hopener => ?_⟩
        obtain ⟨info, hbegins, -⟩ := hopener
        rw [Fence.start?_eq_some_iff.mpr hbegins] at hbehind
        cases hbehind
    · rw [hsame, hstart]
      simp [hnone]

end MarkTree.Source
