import TextAnnotation.Program
import TextAnnotation.Tokenizer.Json

/-!
# Running the program

Gathers what the program needs of its surroundings, runs it, and writes what it leaves behind.
-/

namespace TextAnnotation

def lookUp (path : String) : IO (Except Absence Entry) := do
  try
    let real ← IO.FS.realPath path
    let about ← real.metadata
    match about.type with
    | .dir => return .ok ⟨real.toString, .directory⟩
    | .file => return .ok ⟨real.toString, .file (← IO.FS.readBinFile path)⟩
    | _ => return .error .unreachable
  catch
    | .noFileOrDirectory .. => return .error .notFound
    | _ => return .error .unreachable

/-- Looks up paths in advance. -/
def gather (paths : List String) : IO Files := do
  let found ← paths.mapM fun path => do return (path, ← lookUp path)
  return ⟨fun path => (found.lookup path).getD (.error .notFound)⟩

def environment : IO Environment := do
  let values ← Program.variableNames.mapM fun name => do return (name, ← IO.getEnv name)
  return ⟨fun name => (values.lookup name).join⟩

/-- Runs the program. Its input is left alone when it is only asked for a check. -/
def execute (arguments : List String) : IO UInt32 := do
  let env ← environment
  let files ← gather (Program.paths env)
  let input ←
    if arguments.contains Program.checkFlag then pure .empty else (← IO.getStdin).readBinToEnd
  let outcome := Program.run Tokenizer.library arguments env files input.toList
  IO.print (String.ofList outcome.output)
  match outcome.complaint with
  | some complaint => IO.eprintln complaint
  | none => pure ()
  return outcome.code

end TextAnnotation

/-- Runs the program. -/
def main (arguments : List String) : IO UInt32 :=
  TextAnnotation.execute arguments
