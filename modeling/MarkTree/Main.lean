import MarkTree.Command.Footprint
import MarkTree.Command.Help
import MarkTree.Command.Session
import MarkTree.Packages.Register

namespace MarkTree.Program

open MarkTree.Command MarkTree.Files

/-- Adds what stands at a location to a file tree. -/
def look (tree : FileTree) (location : Location) : IO FileTree := do
  try
    let found ← IO.FS.realPath location.text
    if ← found.isDir then
      return { tree with directories := location :: tree.directories }
    else
      match String.fromUTF8? (← IO.FS.readBinFile found) with
      | some text => return tree.put location (.text text)
      | none => return tree.put location .binary
  catch _ => return tree

/-- The token stream in the file of this name. -/
def readTokens (name : Option String) : IO (Option Datum) := do
  match name with
  | none => return none
  | some name =>
    match Json.read (← IO.FS.readFile name) with
    | .ok tokens => return some tokens
    | .error _ => return none

/-- Writes the files that a session has changed. -/
def save (before after : FileTree) : IO Unit := do
  for (location, content) in after.files do
    if before.find? location != some content then
      match content with
      | .text text => IO.FS.writeFile location.text text
      | .binary => pure ()

/-- The configuration decoder of this program, over a file tree. -/
def decode (tree : FileTree) (location : Location) : Config.Decoded :=
  let format := (Config.Format.ofSuffix? (Path.ofLocation location).suffix).getD .toml
  Config.decodeContent format (tree.find? location)

/-- Shows how a session ended, and gives the exit code. -/
def finish (ending : Ending) (session : Session) : IO UInt32 := do
  IO.eprint session.outlet.console
  IO.print session.output
  match ending with
  | .exit code => return code.number.toUInt32
  | .crash failure => do
    IO.eprintln ("Error: " ++ failure.message)
    return 1

/-- The program: it looks at the world where a session may look, runs the session on what is found, and
    then writes what the session wrote. The Markdown parser is a program of its own; the environment
    variable `MDNORM_TOKENS` names a JSON file with its token stream, and without one it counts as not
    installed. -/
def runArguments (arguments : List String) : IO UInt32 := do
  let here := (Path.ofText (← IO.currentDir).toString).names
  let home := (Path.ofText ((← IO.getEnv "HOME").getD "/")).names
  let named ← IO.getEnv configVariable
  let tree ← (footprint here home named arguments).foldlM look { directories := [], files := [] }
  let tokens ← readTokens (← IO.getEnv "MDNORM_TOKENS")
  let stdin ← IO.getStdin
  let input ← if arguments.contains "-" then stdin.readToEnd else pure ""
  let host : Host :=
    { here, home
      decode := decode tree
      environment := named.toList.map fun path => (configVariable, path)
      packages :=
        if tokens.isSome then .ofRegister ["mistune"] [("mistune", "3.0.0")] else .ofRegister [] []
      layOut := indentedLayout
      parser := .returns (tokens.getD (.list [])) "0.00"
      input
      isTerminal := ← (← IO.getStdout).isTty }
  let clock := toString (← IO.monoMsNow) ++ " ms"
  match run host tree clock arguments with
  | .help => do
    IO.println mainLine.helpText
    return 0
  | .refused error => do
    IO.eprintln (mainLine.refusal error)
    return 2
  | .ended ending session => do
    save tree session.outlet.files
    finish ending session

end MarkTree.Program

def main (arguments : List String) : IO UInt32 :=
  MarkTree.Program.runArguments arguments
