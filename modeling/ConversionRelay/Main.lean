import ConversionRelay.Command.Execution
/-!
The program: reads the arguments and the file that they name, carries out the command, and writes
what it came to.
-/
namespace ConversionRelay

/-- How the program is called. -/
def usage : String :=
  "usage: conversion-relay [-h] [-v] extract FILE [-o OUTPUT] [-c CUSTOMER]\n" ++
  "       conversion-relay [-h] [-v] analyze FILE\n"

/-- The file tree with the one file that a request works on, if it can be read. -/
def loadFile (path : Text) : IO FileTree := do
  try
    let bytes ← IO.FS.readBinFile path.toString
    return FileTree.ofFiles [(path, bytes.toList)]
  catch _ => return .empty

/-- Write the configuration that a request made. -/
def saveOutput (request : Command.Request) (files : FileTree) : IO Unit := do
  match request with
  | .analyze _ => return ()
  | .extract _ output _ =>
    let path := FilePath.ofText output
    match files.readText path with
    | .error _ => return ()
    | .ok text =>
      IO.FS.createDirAll path.parent.text.toString
      IO.FS.writeFile path.text.toString text.toString

/-- Carry out a command. -/
def perform (invocation : Command.Invocation) : IO UInt32 := do
  let files ← loadFile invocation.request.file
  match invocation.execute files with
  | .error fault =>
    IO.eprintln fault.text.toString
    return 1
  | .ok outcome =>
    if outcome.status = 0 then saveOutput invocation.request outcome.files
    IO.print outcome.output.toString
    IO.eprint outcome.notes.toString
    return UInt32.ofNat outcome.status

end ConversionRelay

/-- The program. -/
def main (arguments : List String) : IO UInt32 := do
  let words := arguments.map ConversionRelay.Text.ofString
  match ConversionRelay.Command.Invocation.ofArguments words with
  | .ok invocation => ConversionRelay.perform invocation
  | .error .helpWanted =>
    IO.print ConversionRelay.usage
    return 0
  | .error .refused =>
    IO.eprint ConversionRelay.usage
    return 2
