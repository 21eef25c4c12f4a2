import TankDuel.Command.Files

/-!
# The command that checks programs

Every file is compiled and reported on a line of its own. A file that cannot be read ends the
command; programs with errors make it fail when all files have been seen.
-/

namespace TankDuel.Command

open Assembly

/-- The line for a program without errors, with a listing if one is wanted. -/
def acceptedText (listing : Bool) (name : String) (p : Program) : String :=
  s!"ok     {name} ({p.size} instructions, {p.labels.size} labels)\n"
    ++ if listing then p.listing ++ "\n" else ""

/-- The line for a program with an error. -/
def refusedText (name : String) (error : CompileError) : String :=
  s!"error  {name}: {error.message}\n"

/-- Check files one after the other; `failed` of `total` programs have had errors. -/
def checkFrom (files : Files) (listing : Bool) (total failed : Nat) : List String → Response
  | [] => ⟨"", if failed = 0 then none else some (.failedPrograms failed total)⟩
  | name :: rest =>
    match readFile files name with
    | .error error => ⟨"", some error⟩
    | .ok source =>
      let (line, failed) :=
        match compile source with
        | .ok p => (acceptedText listing name p, failed)
        | .error error => (refusedText name error, failed + 1)
      let others := checkFrom files listing total failed rest
      { others with output := line ++ others.output }

/-- Check programs. -/
def check (files : Files) (names : List String) (listing : Bool) : Response :=
  checkFrom files listing names.length 0 names

end TankDuel.Command
