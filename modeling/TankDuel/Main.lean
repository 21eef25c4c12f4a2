import TankDuel.Command.Arguments

/-!
# The program

Reads the files that the command line names, carries the command out and prints what it has to say.
Errors go to the error output. The exit code is 0 on success, 1 if the command failed, and 2 if the
command line could not be understood.
-/

namespace TankDuel.Command

/-- How the program is called. -/
def usage : String :=
  "usage: tankduel run P1 P2 [-l LEVEL | -m MAP] [-c CONFIG] [-t TURNS] [-f text|json] [--trace]\n"
    ++ "       tankduel check FILE... [--listing]\n"
    ++ "       tankduel tournament FILE FILE... [--levels 1,2,3] [-c CONFIG] [-t TURNS]"
    ++ " [-f text|json|csv]\n"

/-- Read a file. -/
def readContents (name : String) : IO (Except ReadError String) := do
  try
    let bytes ← IO.FS.readBinFile name
    match String.fromUTF8? bytes with
    | some text => return .ok text
    | none => return .error .notText
  catch error =>
    match error with
    | .noFileOrDirectory .. => return .error .missing
    | error => return .error (.other (toString error))

/-- Read files and look their contents up by name. -/
def readFiles (names : List String) : IO Files := do
  let contents ← names.mapM fun name => do return (name, ← readContents name)
  return fun name => (contents.lookup name).getD (.error .missing)

/-- Print what a command has to say. -/
def present (response : Response) : IO UInt32 := do
  IO.print response.output
  match response.error with
  | none => return 0
  | some error =>
    IO.eprintln s!"Error: {error.message}"
    return 1

/-- Carry out a command line. -/
def runProgram (args : List String) : IO UInt32 := do
  match Invocation.ofArguments args with
  | .ok invocation =>
    let files ← readFiles invocation.fileNames
    present (invocation.perform files)
  | .error error =>
    IO.eprintln s!"error: {error.message}"
    IO.eprint usage
    return 2

end TankDuel.Command

/-- Run the program on the arguments of the command line. -/
def main (args : List String) : IO UInt32 := TankDuel.Command.runProgram args
