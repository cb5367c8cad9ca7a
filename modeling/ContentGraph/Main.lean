import ContentGraph.CommandLine.Run

/-!
# The program

Reads the files that a request names, and writes what it comes to: the output,
and the log on the side. All decisions are made in `CommandLine`.
-/

namespace ContentGraph

/-- How the program is called. -/
def usage : String :=
  "usage: contentgraph [-h] [-v] [--warnings-only] [--errors-only] REQUEST ...\n\n"
    ++ "requests:\n"
    ++ "  describe [--config FILE] [--fields] NODES\n"
    ++ "      build the types of the nodes in a file and list them\n"
    ++ "  resolve [--config FILE] NODES ID FIELD\n"
    ++ "      follow a field of a node to the node it links to\n"

/-- What is found under the name of a file. -/
def findFile (name : String) : IO Document.Found := do
  match ← (IO.FS.readBinFile name).toBaseIO with
  | .ok content => return .bytes content
  | .error (.noFileOrDirectory ..) => return .nothing
  | .error _ => return .unreadable

/-- Writes an entry of the log. -/
def writeEntry (entry : LogEntry) : IO Unit :=
  IO.eprintln (entry.level.name ++ ": " ++ entry.message)

/-- The levels of nesting for which there is room. -/
def usualRoom : Nat := 480

/-- Carries out an invocation. -/
def carryOut (i : CommandLine.Invocation) : IO UInt32 := do
  let nodes ← findFile i.request.nodes
  let config ←
    match i.request.config? with
    | some name => findFile name
    | none => pure .nothing
  let env : CommandLine.Environment :=
    { found := fun name => if name = i.request.nodes then nodes else config
      room := usualRoom
      working := (← IO.currentDir).toString
      -- The output is in UTF-8, which has a code for every character.
      encodes := fun _ => true }
  match i.run env with
  | .ok report =>
    report.log.forM writeEntry
    IO.print report.output
    return UInt32.ofNat report.status
  | .error (.nodes e) =>
    IO.eprintln e.message
    return 1
  | .error (.config e) =>
    IO.eprintln e.message
    return 1
  | .error (.unwritten _) =>
    IO.eprintln "a character cannot be written"
    return 1

end ContentGraph

/-- The program. -/
def main (args : List String) : IO UInt32 := do
  match ContentGraph.CommandLine.Invocation.ofWords args with
  | .ok i => ContentGraph.carryOut i
  | .error stop =>
    if stop = .help then IO.print ContentGraph.usage else IO.eprint ContentGraph.usage
    return UInt32.ofNat stop.status
