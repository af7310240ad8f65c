import MarkTree.Datum.Entries
import MarkTree.Json.Token

namespace MarkTree.Json

/-- Why a text is not read. -/
inductive ReadError where
  | malformed
  /-- An integer has too many digits. -/
  | overlong
deriving DecidableEq, Repr

/-- An open bracket: the items before the value at hand, latest first, or the entries before it and
    its key. -/
inductive Frame where
  | list (items : List Datum)
  | dict (entries : Entries) (key : String)
deriving DecidableEq

/-- What the reader waits for, with the open brackets from the innermost outwards and what has been read
    inside each. It takes one token at a time; a complete value is put into the innermost bracket. The
    last value of a repeated key wins and stands where the key was first written. -/
inductive Reader where
  | value (frames : List Frame)
  /-- A value or the end of an empty list. -/
  | firstItem (frames : List Frame)
  /-- A key or the end of an empty dictionary. -/
  | firstKey (frames : List Frame)
  | key (entries : Entries) (frames : List Frame)
  | colon (entries : Entries) (key : String) (frames : List Frame)
  /-- A value is complete; a comma or bracket follows, or the end. -/
  | complete (value : Datum) (frames : List Frame)
  | failed (error : ReadError)
deriving DecidableEq

/-- A token where a value has to start. -/
def Reader.startValue (frames : List Frame) : Token → Reader
  | .scalar datum => .complete datum frames
  | .openList => .firstItem frames
  | .openDict => .firstKey frames
  | .overlong => .failed .overlong
  | _ => .failed .malformed

def Reader.step : Reader → Token → Reader
  | .value frames, token => startValue frames token
  | .firstItem frames, token =>
    match token with
    | .closeList => .complete (.list []) frames
    | _ => startValue (.list [] :: frames) token
  | .firstKey frames, token =>
    match token with
    | .closeDict => .complete (.dict []) frames
    | .scalar (.str name) => .colon [] name frames
    | _ => .failed .malformed
  | .key entries frames, token =>
    match token with
    | .scalar (.str name) => .colon entries name frames
    | _ => .failed .malformed
  | .colon entries name frames, token =>
    match token with
    | .colon => .value (.dict entries name :: frames)
    | _ => .failed .malformed
  | .complete datum (.list items :: frames), token =>
    match token with
    | .comma => .value (.list (datum :: items) :: frames)
    | .closeList => .complete (.list (datum :: items).reverse) frames
    | _ => .failed .malformed
  | .complete datum (.dict entries name :: frames), token =>
    match token with
    | .comma => .key (Entries.insert (.str name) datum entries) frames
    | .closeDict => .complete (.dict (Entries.insert (.str name) datum entries)) frames
    | _ => .failed .malformed
  | .complete _ [], _ => .failed .malformed
  | .failed error, _ => .failed error

/-- The value of a complete sequence of tokens. -/
def Reader.finish : Reader → Except ReadError Datum
  | .complete datum [] => .ok datum
  | .failed error => .error error
  | _ => .error .malformed

def read (text : String) : Except ReadError Datum :=
  ((tokens text.toList).foldl Reader.step (.value [])).finish

end MarkTree.Json
