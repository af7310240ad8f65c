import MarkTree.Json.Token
import Mathlib.Data.List.TakeWhile

namespace MarkTree.Number

/-- Only zero is written with a zero in front. -/
theorem head?_toDigits_ne_zero {n : Nat} : 0 < n → (Nat.toDigits 10 n).head? ≠ some '0' := by
  induction n using Nat.base_induction 10 (by decide) with
  | single m hm =>
    intro hpos
    rw [Nat.toDigits_of_lt_base hm, List.head?_singleton, ne_eq, Option.some_inj, Nat.digitChar_eq_zero]
    omega
  | digit m k hk hm ih =>
    intro _
    have hhead : ∃ c, (Nat.toDigits 10 m).head? = some c := by
      rw [← Option.isSome_iff_exists, List.isSome_head?]
      exact Nat.toDigits_ne_nil
    obtain ⟨c, hc⟩ := hhead
    rw [← Nat.toDigits_append_toDigits (by decide) hm hk, List.head?_append, hc, Option.some_or, ← hc]
    exact ih hm

/-- A number below a power of ten has no more digits than the power says. -/
theorem length_toDigits_le {n k : Nat} (hk : 0 < k) (hsize : n < powerOfTen k) :
    (Nat.toDigits 10 n).length ≤ k :=
  (Nat.length_toDigits_le_iff (by decide) hk).mpr hsize

theorem digitsValue_toDigits (n : Nat) : digitsValue (Nat.toDigits 10 n) = n := by
  have hstep : (fun (value : Nat) (d : Char) => value * 10 + (d.toNat - 48)) =
      fun value d => 10 * value + (d.toNat - '0'.toNat) := by
    funext value d
    rw [Nat.mul_comm]
    rfl
  rw [digitsValue, hstep, ← Nat.ofDigitChars_eq_foldl, Nat.ofDigitChars_ten_toDigits]

/-- An integer is written as its digits, behind a minus sign if it is negative. -/
theorem toList_toString_int (value : Int) :
    (toString value).toList =
      (if value < 0 then ['-'] else []) ++ Nat.toDigits 10 value.natAbs := by
  cases value with
  | ofNat n =>
    have hsign : ¬ Int.ofNat n < 0 := Int.not_lt.mpr (Int.natCast_nonneg n)
    rw [if_neg hsign, show toString (Int.ofNat n) = n.repr from rfl, Nat.toList_repr]
    rfl
  | negSucc n =>
    rw [if_pos (Int.negSucc_lt_zero n), show toString (Int.negSucc n) = "-" ++ (n + 1).repr from rfl,
      String.toList_append, Nat.toList_repr]
    rfl

end MarkTree.Number

namespace MarkTree.Json

open MarkTree.Number

/-- The characters of an integer. -/
def IsNumeral (text : List Char) : Prop :=
  ∀ c ∈ text, c = '-' ∨ c.isDigit = true

/-- An integer is written as a numeral. -/
theorem isNumeral_toString (value : Int) : IsNumeral (toString value).toList := by
  intro c hmem
  rw [toList_toString_int, List.mem_append] at hmem
  rcases hmem with hmem | hmem
  · split at hmem
    · exact .inl (List.mem_singleton.mp hmem)
    · cases hmem
  · exact .inr (Nat.isDigit_of_mem_toDigits (by decide) (by decide) hmem)

/-- A numeral is made of the characters of literals and numbers, so it is scanned in one piece. -/
theorem IsNumeral.isAtom {text : List Char} (htext : IsNumeral text) : ∀ c ∈ text, isAtom c = true := by
  intro c hmem
  rcases htext c hmem with rfl | hdigit
  · rfl
  · simp [Json.isAtom, Char.isAlphanum, hdigit]

/-- The names of values have letters, so an integer is none of them. -/
theorem readAtom_of_isNumeral (text : List Char) : IsNumeral text → readAtom text =
    match text with
    | '-' :: rest => readNumber true rest
    | _ => readNumber false text := by
  intro htext
  have hname (name : String) (hletter : name.toList.all (fun c => c == '-' || c.isDigit) = false) :
      String.ofList text ≠ name := by
    rintro rfl
    have hall : text.all (fun c => c == '-' || c.isDigit) = true := by
      rw [List.all_eq_true]
      intro c hmem
      rw [Bool.or_eq_true, beq_iff_eq]
      exact htext c hmem
    rw [String.toList_ofList, hall] at hletter
    cases hletter
  have hnull := hname "null" (by decide)
  have htrue := hname "true" (by decide)
  have hfalse := hname "false" (by decide)
  have hnan := hname "NaN" (by decide)
  have hinf := hname "Infinity" (by decide)
  have hneg := hname "-Infinity" (by decide)
  unfold readAtom
  split
  · contradiction
  · contradiction
  · contradiction
  · contradiction
  · contradiction
  · contradiction
  · rfl

/-- The digits of a number that is short enough are read as the number, with the sign in front of them. -/
theorem readNumber_toDigits (negative : Bool) {n : Nat} (hsize : n < powerOfTen maxDigits) :
    readNumber negative (Nat.toDigits 10 n) = .scalar (.int (if negative then -n else n)) := by
  have hdigits : ∀ c ∈ Nat.toDigits 10 n, c.isDigit = true :=
    fun c hmem => Nat.isDigit_of_mem_toDigits (by decide) (by decide) hmem
  have hwhole : (Nat.toDigits 10 n).takeWhile Char.isDigit = Nat.toDigits 10 n := by
    rw [List.takeWhile_eq_self_iff]
    exact hdigits
  have hrest : (Nat.toDigits 10 n).dropWhile Char.isDigit = [] := by
    rw [List.dropWhile_eq_nil_iff]
    exact hdigits
  have hzero : ((Nat.toDigits 10 n).isEmpty ||
      (decide ((Nat.toDigits 10 n).length > 1) && (Nat.toDigits 10 n).head? == some '0')) = false := by
    rcases Nat.eq_zero_or_pos n with rfl | hpos
    · decide
    · have hhead := head?_toDigits_ne_zero hpos
      have hempty := Nat.toDigits_ne_nil (n := n) (b := 10)
      simp [hempty, hhead]
  have hlength : ¬ maxDigits < (Nat.toDigits 10 n).length :=
    Nat.not_lt.mpr (length_toDigits_le (by decide) hsize)
  unfold readNumber
  dsimp only
  rw [hwhole, hrest, hzero, if_neg hlength, digitsValue_toDigits]
  rfl

/-- An integer that is short enough to be written is read. -/
theorem readAtom_toString {value : Int} (hsize : value.natAbs < powerOfTen maxDigits) :
    readAtom (toString value).toList = .scalar (.int value) := by
  rw [readAtom_of_isNumeral _ (isNumeral_toString value), toList_toString_int]
  by_cases hsign : value < 0
  · rw [if_pos hsign]
    change readNumber true (Nat.toDigits 10 value.natAbs) = _
    rw [readNumber_toDigits true hsize, if_pos rfl]
    have hvalue : -(value.natAbs : Int) = value := by omega
    rw [hvalue]
  · rw [if_neg hsign, List.nil_append]
    have hvalue : (value.natAbs : Int) = value := by omega
    split
    · rename_i rest heq
      have hmem : '-' ∈ Nat.toDigits 10 value.natAbs := by
        rw [heq]
        exact List.mem_cons_self
      have hdigit := Nat.isDigit_of_mem_toDigits (by decide) (by decide) hmem
      cases hdigit
    · rw [readNumber_toDigits false hsize, if_neg Bool.false_ne_true, hvalue]

end MarkTree.Json
