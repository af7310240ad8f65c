namespace MarkTree

/-- A value together with its kind: what configuration files, metadata and the tokens of a Markdown parser
    are made of. Dictionaries keep the order in which their keys were first written. -/
inductive Datum where
  | null
  | bool (value : Bool)
  | int (value : Int)
  | float (value : Float)
  | str (text : String)
  | list (items : List Datum)
  | dict (entries : List (Datum × Datum))
  /-- A value of which only the name of its kind is known, such as a date. -/
  | foreign (kindName : String)
  /-- A kind of values, taken as a value. -/
  | kind (name : String)
deriving Inhabited

namespace Datum

mutual

/-- Two data are the same datum: same kind, same contents, same order. -/
def decEq : (a b : Datum) → Decidable (a = b)
  | .null, .null => isTrue rfl
  | .bool a, .bool b => decidable_of_iff (a = b) (by simp)
  | .int a, .int b => decidable_of_iff (a = b) (by simp)
  | .float a, .float b => decidable_of_iff (a = b) (by simp)
  | .str a, .str b => decidable_of_iff (a = b) (by simp)
  | .list a, .list b =>
    match decEqItems a b with
    | isTrue h => isTrue (by rw [h])
    | isFalse h => isFalse (by simp [h])
  | .dict a, .dict b =>
    match decEqEntries a b with
    | isTrue h => isTrue (by rw [h])
    | isFalse h => isFalse (by simp [h])
  | .foreign a, .foreign b => decidable_of_iff (a = b) (by simp)
  | .kind a, .kind b => decidable_of_iff (a = b) (by simp)
  | .null, .bool _ | .null, .int _ | .null, .float _ | .null, .str _ | .null, .list _
  | .null, .dict _ | .null, .foreign _ | .null, .kind _ => isFalse nofun
  | .bool _, .null | .bool _, .int _ | .bool _, .float _ | .bool _, .str _ | .bool _, .list _
  | .bool _, .dict _ | .bool _, .foreign _ | .bool _, .kind _ => isFalse nofun
  | .int _, .null | .int _, .bool _ | .int _, .float _ | .int _, .str _ | .int _, .list _
  | .int _, .dict _ | .int _, .foreign _ | .int _, .kind _ => isFalse nofun
  | .float _, .null | .float _, .bool _ | .float _, .int _ | .float _, .str _ | .float _, .list _
  | .float _, .dict _ | .float _, .foreign _ | .float _, .kind _ => isFalse nofun
  | .str _, .null | .str _, .bool _ | .str _, .int _ | .str _, .float _ | .str _, .list _
  | .str _, .dict _ | .str _, .foreign _ | .str _, .kind _ => isFalse nofun
  | .list _, .null | .list _, .bool _ | .list _, .int _ | .list _, .float _ | .list _, .str _
  | .list _, .dict _ | .list _, .foreign _ | .list _, .kind _ => isFalse nofun
  | .dict _, .null | .dict _, .bool _ | .dict _, .int _ | .dict _, .float _ | .dict _, .str _
  | .dict _, .list _ | .dict _, .foreign _ | .dict _, .kind _ => isFalse nofun
  | .foreign _, .null | .foreign _, .bool _ | .foreign _, .int _ | .foreign _, .float _
  | .foreign _, .str _ | .foreign _, .list _ | .foreign _, .dict _ | .foreign _, .kind _ =>
    isFalse nofun
  | .kind _, .null | .kind _, .bool _ | .kind _, .int _ | .kind _, .float _ | .kind _, .str _
  | .kind _, .list _ | .kind _, .dict _ | .kind _, .foreign _ => isFalse nofun

def decEqItems : (a b : List Datum) → Decidable (a = b)
  | [], [] => isTrue rfl
  | [], _ :: _ => isFalse nofun
  | _ :: _, [] => isFalse nofun
  | a :: as, b :: bs =>
    match decEq a b with
    | isFalse h => isFalse (by simp [h])
    | isTrue h =>
      match decEqItems as bs with
      | isTrue hs => isTrue (by rw [h, hs])
      | isFalse hs => isFalse (by simp [hs])

def decEqEntries : (a b : List (Datum × Datum)) → Decidable (a = b)
  | [], [] => isTrue rfl
  | [], _ :: _ => isFalse nofun
  | _ :: _, [] => isFalse nofun
  | (ka, va) :: as, (kb, vb) :: bs =>
    match decEq ka kb with
    | isFalse h => isFalse (by simp [h])
    | isTrue hk =>
      match decEq va vb with
      | isFalse h => isFalse (by simp [h])
      | isTrue hv =>
        match decEqEntries as bs with
        | isTrue hs => isTrue (by rw [hk, hv, hs])
        | isFalse hs => isFalse (by simp [hs])

end

instance : DecidableEq Datum :=
  decEq

end Datum

end MarkTree
