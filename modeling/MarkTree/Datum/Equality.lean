import MarkTree.Datum.Basic
import MarkTree.Number.Binary

namespace MarkTree.Datum

open MarkTree.Number

/-- The name of the kind of a value, as messages give it. -/
def kindName : Datum → String
  | .null => "NoneType"
  | .bool _ => "bool"
  | .int _ => "int"
  | .float _ => "float"
  | .str _ => "str"
  | .list _ => "list"
  | .dict _ => "dict"
  | .foreign kindName => kindName
  | .kind _ => "type"

/-- Zero, nothing and the empty text, list and dictionary are not true; all else is. -/
def truthy : Datum → Bool
  | .null => false
  | .bool value => value
  | .int value => value != 0
  | .float value => !(value == 0.0)
  | .str text => text != ""
  | .list items => !items.isEmpty
  | .dict entries => !entries.isEmpty
  | .foreign _ | .kind _ => true

/-- Lists, dictionaries and sets cannot be keys. -/
def hashable : Datum → Bool
  | .list _ | .dict _ => false
  | .foreign kindName => kindName != "set"
  | _ => true

/-- The integer that a truth value or integer stands for. -/
def int? : Datum → Option Int
  | .bool value => some (if value then 1 else 0)
  | .int value => some value
  | _ => none

/-- Equality of two values that are no lists and no dictionaries. -/
def equalScalars (a b : Datum) : Bool :=
  match a.int?, b.int? with
  | some m, some n => m == n
  | some m, none =>
    match b with
    | .float y => (Binary.ofFloat y).isInt m
    | _ => false
  | none, some n =>
    match a with
    | .float x => (Binary.ofFloat x).isInt n
    | _ => false
  | none, none =>
    match a, b with
    | .null, .null => true
    | .float x, .float y => x == y
    | .str s, .str t => s == t
    | .foreign k, .foreign l => k == l && k != "object"
    | .kind k, .kind l => k == l
    | _, _ => false

mutual

/-- Equality by value. Truth values count as the integers one and zero, and numbers are compared by what
    they stand for whatever their kind; dictionaries are equal when they have the same keys with equal
    values, in any order. -/
def equal : (a b : Datum) → Bool
  | .list as, b =>
    match b with
    | .list bs => equalItems as bs
    | _ => false
  | .dict as, b =>
    match b with
    | .dict bs => as.length == bs.length && equalEntries as bs
    | _ => false
  | .null, b => equalScalars .null b
  | .bool v, b => equalScalars (.bool v) b
  | .int v, b => equalScalars (.int v) b
  | .float v, b => equalScalars (.float v) b
  | .str v, b => equalScalars (.str v) b
  | .foreign v, b => equalScalars (.foreign v) b
  | .kind v, b => equalScalars (.kind v) b

def equalItems : (as bs : List Datum) → Bool
  | [], bs => bs.isEmpty
  | a :: as, bs =>
    match bs with
    | [] => false
    | b :: bs => equal a b && equalItems as bs

/-- Every entry of the first dictionary is one of the second. -/
def equalEntries : (as bs : List (Datum × Datum)) → Bool
  | [], _ => true
  | (key, value) :: as, bs =>
    bs.any (fun (key', value') => equal key key' && equal value value') && equalEntries as bs

end

/-- Two keys are one: the same datum, or equal by value. -/
def sameKey (a b : Datum) : Bool :=
  decide (a = b) || equal a b

@[simp] theorem equal_str (a b : String) : (str a).equal (str b) = (a == b) := rfl

end MarkTree.Datum
