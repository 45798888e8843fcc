import TextAnnotation.Catalog
import TextAnnotation.LanguageModel

/-!
# Directories of models

* `ModelDirectory.resolve?`: the directory that belongs to the name of a model.
* `ModelDirectory.catalog`: the models of a directory.
-/

namespace TextAnnotation

/-- A directory in which models are linked under their names. -/
structure ModelDirectory where
  library : Library
  files : Files
  path : String

namespace ModelDirectory

/-- Whether the name of a model is a path of its own. -/
def isPath (name : String) : Bool :=
  name.toList.contains '/'

/-- The directory of a model. A name with a slash is a path; any other is looked for in the directory of
models alone. -/
def resolve? (d : ModelDirectory) (name : String) : Option String :=
  if name.isEmpty then none
  else
    let dir := if isPath name then name else Files.join d.path name
    if d.files.isDirectory dir then some dir else none

def load (d : ModelDirectory) (name : String) (disabled : List String) :
    Except ModelError LanguageModel :=
  match d.resolve? name with
  | none => .error (.notFound name d.path)
  | some dir =>
    match LanguageModel.load d.library d.files dir disabled with
    | .ok m => .ok m
    | .error e => .error (.loadFailed e)

def catalog (d : ModelDirectory) : Catalog where
  load name disabled := (d.load name disabled).map fun m => some m.model

end ModelDirectory

end TextAnnotation
