import TextAnnotation.Files.Tree
import TextAnnotation.Keyed
import TextAnnotation.LanguageModel
import TextAnnotation.Tokenizer.Json

/-!
# Small models for trials

The files of a model that knows a list of words.

* `Fixture.model`: the manifest and the tokenizer.
* `Fixture.vectors`: a table of vectors in which every entry is the number of its row.
* `Fixture.writeModel`, `Fixture.writeVectors`: write these files into a directory.
-/

namespace TextAnnotation.Fixture

def unknown : String := "[UNK]"

/-- The vocabulary of a list of words, which are numbered from one on; of equal words the last one
counts. It is in the order of the words. -/
def vocab (words : List String) : List (String × Nat) :=
  Keyed.ofList ((unknown, 0) :: words.zipIdx 1)

def version : String := "0.1.0"

def manifestJson (lang name : String) : Json.Value :=
  .object [
    ("lang", .string lang),
    ("name", .string name),
    ("pipeline", .strings Manifest.defaultPipeline),
    ("version", .string version)]

/-- The bytes of a value on several lines. -/
def prettyBytes (v : Json.Value) : ByteArray :=
  (String.ofList v.pretty).toUTF8

/-- The files of a model that knows the words: their names and their bytes. -/
def model (lang name : String) (words : List String) : List (String × ByteArray) :=
  [(Encoder.fileName, prettyBytes (Tokenizer.json (vocab words) unknown)),
   (Manifest.fileName, prettyBytes (manifestJson lang name))]

def vectors (rows width : Nat) : List (String × ByteArray) :=
  [(VectorTable.fileName, Tensor.fileOfRows VectorTable.tensorName rows width)]

/-- Makes a directory and writes the files of a model into it. -/
def writeModel (t : Files.Tree) (current : Files.Place) (dir lang name : String) (words : List String) :
    Files.Tree :=
  (t.makeDirectory current dir).writeAll current dir (model lang name words)

def writeVectors (t : Files.Tree) (current : Files.Place) (dir : String) (rows width : Nat) : Files.Tree :=
  t.writeAll current dir (vectors rows width)

end TextAnnotation.Fixture
