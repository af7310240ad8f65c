import MarkTree.Datum.Equality
import MarkTree.Fault

namespace MarkTree.Datum

open MarkTree.Number

def isComplex : Datum → Bool
  | .foreign kindName => kindName == "complex"
  | _ => false

def isNumber : Datum → Bool
  | .bool _ | .int _ | .float _ => true
  | d => d.isComplex

/-- The sum of an integer and a float; the integer is first rounded to one. -/
def addFloat (n : Int) (x : Float) : Except Fault Datum :=
  match ofInt? n with
  | some y => .ok (.float (y + x))
  | none => .error .tooLarge

/-- The sum of two data: numbers are added, texts and lists joined. Complex numbers are carried by kind
    alone. -/
def plus (a b : Datum) : Except Fault Datum :=
  match a.int?, b.int? with
  | some m, some n => .ok (.int (m + n))
  | some m, none =>
    match b with
    | .float y => addFloat m y
    | _ => if b.isComplex then .ok b else .error .notAddable
  | none, some n =>
    match a with
    | .float x => addFloat n x
    | _ => if a.isComplex then .ok a else .error .notAddable
  | none, none =>
    match a, b with
    | .float x, .float y => .ok (.float (x + y))
    | .str s, .str t => .ok (.str (s ++ t))
    | .list xs, .list ys => .ok (.list (xs ++ ys))
    | _, _ =>
      if a.isComplex && b.isNumber then .ok a
      else if b.isComplex && a.isNumber then .ok b
      else .error .notAddable

@[simp] theorem plus_str (s t : String) : plus (.str s) (.str t) = .ok (.str (s ++ t)) := rfl

@[simp] theorem plus_int (m n : Int) : plus (.int m) (.int n) = .ok (.int (m + n)) := rfl

end MarkTree.Datum
