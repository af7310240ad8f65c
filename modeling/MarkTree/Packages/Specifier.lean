import MarkTree.Packages.Version
import MarkTree.Text.Lowercase

namespace MarkTree.Packages

open MarkTree.Text

/-- How a version is compared with the version of a condition. -/
inductive Comparison where
  | atLeast
  | atMost
  | above
  | below
  | equal
  | unequal
  | compatible
deriving DecidableEq, Repr

/-- One condition on a version. -/
inductive Condition where
  | compares (comparison : Comparison) (bound : Version)
  /-- The release starts with these numbers, or does not. -/
  | begins (wanted : Bool) (start : Version)
  /-- The version is spelled like this. -/
  | spelled (letters : List Char)
deriving DecidableEq, Repr

def operators : List (String × Comparison) :=
  [("~=", .compatible), ("==", .equal), ("!=", .unequal), ("<=", .atMost), (">=", .atLeast),
    ("<", .below), (">", .above)]

/-- Versions with a local label can only be compared for equality, and a compatible release needs two
    numbers. -/
def isAdmitted (comparison : Comparison) (bound : Version) : Bool :=
  match comparison with
  | .equal | .unequal => true
  | .compatible => bound.label.isNone && 2 ≤ bound.release.length
  | _ => bound.label.isNone

/-- A version that is nothing but an epoch and a release. -/
def isBare (version : Version) : Bool :=
  version.pre.isNone && version.post.isNone && version.dev.isNone && version.label.isNone

/-- A condition on the start of the release, written with a star behind it. -/
def readStart? (comparison : Comparison) (text : List Char) : Option Condition := do
  let wanted ←
    match comparison with
    | .equal => some true
    | .unequal => some false
    | _ => none
  let start ← Version.read? (String.ofList text)
  if isBare start && !(text.any isBlank) && text.getLast?.any Char.isDigit then
    some (.begins wanted start)
  else none

/-- A condition, read from its comparison and the text behind it. -/
def readBound? (comparison : Comparison) (text : List Char) : Option Condition :=
  if endsWith ['.', '*'] text then readStart? comparison (text.take (text.length - 2))
  else do
    let bound ← Version.read? (String.ofList text)
    if isAdmitted comparison bound then some (.compares comparison bound) else none

/-- The condition that a text stands for. -/
def Condition.read? (text : List Char) : Option Condition :=
  let text := strip text
  if startsWith ['=', '=', '='] text then
    let letters := strip (text.drop 3)
    if letters.any fun c => isBlank c || c == ';' || c == ')' then none else some (.spelled letters)
  else
    match wordAt? operators text with
    | some (comparison, rest) => readBound? comparison (strip rest)
    | none => none

/-- The conditions of a specifier such as `>=3.0, <4`, separated by commas; empty ones do not count. -/
def readSpecifier? (text : String) : Option (List Condition) :=
  ((splitAt ',' text.toList).filter fun part => !allBlank part).mapM Condition.read?

/-- The release starts with these numbers, as if it went on with zeros. -/
def releaseStartsWith (start version : Version) : Bool :=
  let padded := version.release ++ List.replicate start.release.length 0
  version.epoch == start.epoch && padded.take start.release.length == start.release

/-- Equal up to a local label that the bound does not ask for. -/
def meetsEqual (bound version : Version) : Bool :=
  (if bound.label.isNone then version.published else version).same bound

def meetsAtLeast (bound version : Version) : Bool :=
  (version.published.order bound).isGE

/-- Below the bound, and no pre-release of it, unless the bound is one itself. -/
def meetsBelow (bound version : Version) : Bool :=
  let earliest := { bound with dev := some 0, label := none }
  (version.order bound).isLT && !(!bound.isPre && version.isPre && (version.order earliest).isGE)

/-- Above the bound, and no post-release or local version of it, unless the bound is a post-release
    itself. -/
def meetsAbove (bound version : Version) : Bool :=
  let base := { version with post := none, dev := none, label := none }
  (version.order bound).isGT &&
    !(bound.post.isNone && version.post.isSome && base.same bound) &&
    !(version.label.isSome && version.published.same bound)

def Condition.meets (version : Version) : Condition → Bool
  | .compares .atLeast bound => meetsAtLeast bound version
  | .compares .atMost bound => (version.published.order bound).isLE
  | .compares .above bound => meetsAbove bound version
  | .compares .below bound => meetsBelow bound version
  | .compares .equal bound => meetsEqual bound version
  | .compares .unequal bound => !meetsEqual bound version
  | .compares .compatible bound =>
    let start := { bound with release := bound.release.dropLast }
    meetsAtLeast bound version && releaseStartsWith start version
  | .begins wanted start => releaseStartsWith start version == wanted
  | .spelled letters => lower version.text.toList == lower letters

/-- The version meets all conditions of a specifier. -/
def satisfies (conditions : List Condition) (version : Version) : Bool :=
  conditions.all (Condition.meets version)

end MarkTree.Packages
