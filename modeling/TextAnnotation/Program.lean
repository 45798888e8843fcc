import TextAnnotation.ModelDirectory
import TextAnnotation.Settings
import TextAnnotation.Stream

/-!
# The program

The program takes its settings from the environment, makes an annotator and annotates the messages of its
input. When it is only asked for a check, it says under which key the annotator would be cached. If the library that
it relies on brings it down, there is a code for that too.

* `run`: what the program does for its arguments, its environment, the files and its input.
* `paths`: the paths under which the program looks for files.
-/

namespace TextAnnotation.Program

/-- What the program leaves behind. -/
structure Outcome where
  code : UInt32
  output : List Char
  complaint : Option String

def checkFlag : String := "--check"

def success : UInt32 := 0

def failure : UInt32 := 1

def unusableModel : UInt32 := 2

def crash : UInt32 := 101

/-- The code of a run that fails, perhaps because it is brought down. -/
def failureCode (crashes : Bool) : UInt32 :=
  if crashes then crash else failure

/-- A run that fails before anything is written. -/
def refuse (code : UInt32) (complaint : String) : Outcome :=
  ⟨code, [], some complaint⟩

def variableNames : List String :=
  [Settings.languageVariable, Settings.modelVariable, Settings.caseVariable,
   Settings.dataPathVariable, Settings.batchVariable, Settings.cacheVariable]

def settings (env : Environment) (files : Files) : Except SettingsError Settings := do
  let s ← Settings.ofEnvironment env
  s.validate files
  .ok s

def directory (library : Library) (s : Settings) (files : Files) : ModelDirectory :=
  ⟨library, files, s.dataPath⟩

def annotator (library : Library) (s : Settings) (files : Files) : Except AnnotatorError Annotator :=
  (Annotator.create s.options s.language (directory library s files).catalog).result

/-- What the program does with an annotator. -/
def use (a : Annotator) (arguments : List String) (input : List UInt8) : Outcome :=
  if arguments.contains checkFlag then ⟨success, a.key.toList ++ ['\n'], none⟩
  else
    let o := Stream.run a .unlimited input
    match o.result with
    | .ok _ => ⟨success, o.output, none⟩
    | .error e => ⟨failureCode e.isCrash, o.output, some e.message⟩

/-- The code of a run without an annotator. -/
def codeOf (e : AnnotatorError) : UInt32 :=
  if e.isUnusable then unusableModel else failureCode e.isCrash

/-- What the program does. -/
def run (library : Library) (arguments : List String) (env : Environment) (files : Files)
    (input : List UInt8) : Outcome :=
  match settings env files with
  | .error e => refuse failure e.message
  | .ok s =>
    match annotator library s files with
    | .error e => refuse (codeOf e) e.message
    | .ok a => use a arguments input

/-- The paths under which the program looks for files. -/
def paths (env : Environment) : List String :=
  match Settings.ofEnvironment env with
  | .error _ => []
  | .ok s =>
    let name := Annotator.modelName (s.model.getD "") s.language
    let dir := if ModelDirectory.isPath name then name else Files.join s.dataPath name
    [s.dataPath, dir, Files.join dir Manifest.fileName, Files.join dir Encoder.fileName,
     Files.join dir VectorTable.fileName]

end TextAnnotation.Program
