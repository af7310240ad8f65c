import MarkTree.Command.Flag
import MarkTree.Datum.Display

namespace MarkTree.Command

/-- How a flag is written: its spellings, or its name if it has none. -/
def Flag.written (flag : Flag) : String :=
  if flag.spellings.isEmpty then flag.target else ", ".intercalate flag.spellings

def Flag.helpLine (flag : Flag) : String :=
  "  " ++ flag.written ++ "  " ++ flag.help.display

def Group.helpLines (group : Group) : List String :=
  ["", group.heading.title ++ ":"] ++ group.heading.description.toList ++
    group.flags.map Flag.helpLine

/-- The help text of a command line: what the program is for, and its flags by group. -/
def CommandLine.helpText (line : CommandLine) : String :=
  let positional := line.positional.toList.map Flag.helpLine
  "\n".intercalate
    (["usage: " ++ line.program ++ " [flags] [input]", "", line.description, ""] ++ positional ++
      line.flags.groups.flatMap Group.helpLines)

end MarkTree.Command
