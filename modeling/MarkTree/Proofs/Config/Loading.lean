import MarkTree.Proofs.Config.Failing

namespace MarkTree.Config

open MarkTree.Files

/-- What a configuration file contributes. -/
inductive Scope where
  /-- The table of a project file that is meant for this program. -/
  | table
  /-- All that is in the file. -/
  | whole (format : Format)
deriving DecidableEq, Repr

namespace Decoded

/-- The decoded file gives no configuration, and loading it has this answer instead of a report. -/
inductive Slips : Decoded → Scope → Except Failure Entries → Prop where
  /-- A YAML document of an empty text or list, of zero or of the false truth value. -/
  | hollow {value : Datum} (hfalse : value.truthy = false) (hnull : value ≠ .null)
      (hdict : ∀ entries, value ≠ .dict entries) : Slips (.value value) (.whole .yaml) (.ok [])
  | misled {decoded : Decoded} {failure : Failure} (h : decoded.Misleads failure) :
      Slips decoded .table (.error failure)
  | broken {format : Format} (kindName : String) :
      Slips (.broken kindName) (.whole format) (.error (.decoder kindName))

end Decoded

variable {surroundings : Surroundings} {path : Path} {scope : Scope} {entries : Entries}

/-- The answer to what slips through is no report. -/
theorem Decoded.Slips.ne_reported {decoded : Decoded} {answer : Except Failure Entries}
    (hslips : decoded.Slips scope answer) (report : Report) : answer ≠ .error (.reported report) := by
  cases hslips with
  | hollow | broken => exact nofun
  | misled h => exact fun heq => h.ne_reported report (Except.error.inj heq)

end MarkTree.Config
