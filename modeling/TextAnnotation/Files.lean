/-!
# Files

What can be found under a path. A path is text; it may be relative to a current directory that is fixed
once and for all.

* `Files.find`: the file or the directory that a path leads to.
* `Files.isFile`, `Files.isDirectory`, `Files.exists`, `Files.read`: the usual questions.
* `Files.join`, `Files.lastName?`: paths as text.
-/

namespace TextAnnotation

/-- What a path can lead to. -/
inductive Content where
  | file (bytes : ByteArray)
  | directory

/-- Why there is nothing under a path. -/
inductive Absence where
  | notFound
  /-- A file stands where a directory should be. -/
  | notADirectory
  /-- The path cannot be followed to its end. -/
  | unreachable
  deriving DecidableEq, Repr

/-- What a path leads to, and the one absolute path without links that leads to the same. -/
structure Entry where
  path : String
  content : Content

/-- The files that can be found. -/
structure Files where
  find : String → Except Absence Entry

/-- Why a file cannot be read. -/
inductive ReadFault where
  | absent (a : Absence)
  | isADirectory
  deriving DecidableEq, Repr

namespace Files

def isFile (files : Files) (path : String) : Bool :=
  match files.find path with
  | .ok ⟨_, .file _⟩ => true
  | _ => false

def isDirectory (files : Files) (path : String) : Bool :=
  match files.find path with
  | .ok ⟨_, .directory⟩ => true
  | _ => false

def exists? (files : Files) (path : String) : Bool :=
  (files.find path).isOk

def read (files : Files) (path : String) : Except ReadFault ByteArray :=
  match files.find path with
  | .ok ⟨_, .file bytes⟩ => .ok bytes
  | .ok ⟨_, .directory⟩ => .error .isADirectory
  | .error a => .error (.absent a)

/-! ## Paths as text -/

def isAbsolute (path : String) : Bool :=
  path.toList.head? == some '/'

/-- The path of `path` seen from `base`. -/
def join (base path : String) : String :=
  if isAbsolute path || base.isEmpty then path
  else if base.toList.getLast? == some '/' then base ++ path
  else base ++ "/" ++ path

/-- The parts of characters between slashes, with `word` (backwards) already read of the current one. -/
def splitSlashes (word : List Char) : List Char → List (List Char)
  | [] => [word.reverse]
  | '/' :: cs => word.reverse :: splitSlashes [] cs
  | c :: cs => splitSlashes (c :: word) cs

def parts (path : String) : List String :=
  (splitSlashes [] path.toList).map String.ofList

/-- The last name in a path, unless the path ends with a step upwards or has no name. -/
def lastName? (path : String) : Option String :=
  match (parts path).reverse.dropWhile fun p => p == "" || p == "." with
  | p :: _ => if p == ".." then none else some p
  | [] => none

end Files

end TextAnnotation
