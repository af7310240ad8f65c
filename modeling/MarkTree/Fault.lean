namespace MarkTree

/-- What goes wrong when an operation meets a value of a kind it is not defined on. Data from outside may
    have any kind, and a fault is raised only where a value is used. -/
inductive Fault where
  /-- A list or dictionary stands where a name, a key or a member of a set is wanted. -/
  | unhashable
  /-- A value without elements stands where a sequence is wanted. -/
  | notIterable
  /-- Two values whose kinds have no sum are added or joined. -/
  | notAddable
  /-- A text is searched for in a value that is no text. -/
  | notSearchable
  /-- An operation of texts is asked of another value. -/
  | notText
  /-- A field is looked up in a value that is no dictionary. -/
  | notRecord
  /-- A required field is absent. -/
  | missingField (name : String)
  /-- An operation that the value has by the name asked for wants other values. -/
  | wrongOperand
  /-- A sequence has another length than the one wanted. -/
  | wrongLength
  /-- A number is beyond the range of the kind it is turned into. -/
  | tooLarge
  /-- A value that is no number stands where a number is wanted. -/
  | notNumeric
  /-- A text is asked for that is longer than any that can be held. -/
  | tooLong
  /-- An integer has more digits than are written. -/
  | overlong
  /-- A float that stands for no number is turned into an integer. -/
  | undefinedNumber
  /-- An element of an empty sequence is asked for. -/
  | noElement
deriving DecidableEq, Repr

end MarkTree
