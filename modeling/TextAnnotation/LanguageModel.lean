import TextAnnotation.Blake3
import TextAnnotation.Files
import TextAnnotation.Manifest
import TextAnnotation.Model
import TextAnnotation.VectorTable

/-!
# Language models from directories

The directory of a model holds its manifest, its tokenizer and, if the pipeline asks for them, vectors. The
tokenizer is read by another library and used as an encoder.

* `LanguageModel.load`: reads a directory. `LanguageModel.blank` needs a tokenizer only.
* `LanguageModel.doc`, `LanguageModel.pipe`: docs of texts.
* `LanguageModel.model`: the model as an annotator sees it.
-/

namespace TextAnnotation

/-- A model with a tokenizer and perhaps vectors. -/
structure LanguageModel where
  manifest : Manifest
  /-- The directory that it was loaded from. -/
  path : Option String
  tokenizer : Encoder
  vectors : Option VectorTable
  pipeNames : List String
  disabled : List String

namespace LanguageModel

def vocab (m : LanguageModel) : Vocab where
  lang := m.manifest.lang
  size := m.tokenizer.vocabSize
  vectorsWidth := (m.vectors.map (·.width)).getD 0

/-! ## Docs -/

def vectorsOf (m : LanguageModel) (ids : List Nat) : List (Option (List Float32)) :=
  match m.vectors with
  | some table => (table.lookup ids).map some
  | none => ids.map fun _ => none

/-- The token of an item. Its text is the part of the text that it comes from, if there is such a part. -/
def token (text : List Char) (item : Item) (vector : Option (List Float32)) : Token :=
  ⟨((Text.slice? text item.start item.stop).map String.ofList).getD item.surface, item.id, item.start,
    item.stop, vector⟩

def docOfItems (m : LanguageModel) (text : String) (items : List Item) : Doc :=
  .ofTokens m.vocab text
    (List.zipWith (token text.toList) items (m.vectorsOf (items.map Item.id)))

/-- The doc of one text. -/
def doc (m : LanguageModel) (text : String) : Except ModelError Doc :=
  ((m.tokenizer.encode text.toList).map (m.docOfItems text)).mapError .tokenizationFailed

/-- The docs of texts that are encoded together. -/
def chunkDocs (m : LanguageModel) (texts : List String) : Except ModelError (List Doc) :=
  ((m.tokenizer.encodeBatch (texts.map String.toList)).map (List.zipWith m.docOfItems texts)).mapError
    .tokenizationFailed

/-- Cuts a list into parts of `size + 1` items; the last part may be shorter. -/
def chunks {α : Type} (size : Nat) : List α → List (List α)
  | [] => []
  | a :: as => (a :: as.take size) :: chunks size (as.drop size)
  termination_by as => as.length
  decreasing_by simp only [List.length_drop, List.length_cons]; omega

/-- The docs of texts, worked on `batchSize` at a time, and at least one. -/
def pipe (m : LanguageModel) (texts : List String) (batchSize : Nat) : Except ModelError (List Doc) :=
  ((chunks (batchSize - 1) texts).mapM m.chunkDocs).map List.flatten

/-- The model as an annotator sees it. -/
def model (m : LanguageModel) : Model where
  vocab := m.vocab
  path := m.path
  doc := m.doc
  pipe := m.pipe

/-! ## Loading -/

def loadManifest (files : Files) (dir : String) : Except LoadFault Manifest :=
  match files.read (Files.join dir Manifest.fileName) with
  | .error _ => .error (.manifestMissing Manifest.fileName dir)
  | .ok bytes =>
    match String.fromUTF8? bytes with
    | none => .error .manifestNotText
    | some text =>
      match Manifest.decode text.toList with
      | .error e => .error (.manifestInvalid Manifest.fileName e)
      | .ok m => .ok m

/-- The path of a tokenizer: the file in a directory, or the path itself if it has the file's name. -/
def tokenizerPath (path : String) : String :=
  if Files.lastName? path == some Encoder.fileName then path
  else Files.join path Encoder.fileName

def loadTokenizer (library : Library) (files : Files) (path : String) : Except LoadFault Encoder :=
  let path := tokenizerPath path
  match files.read path with
  | .error _ => .error (.tokenizerMissing path)
  | .ok bytes => (library.encoder bytes).mapError .tokenizerUnreadable

def fingerprint (files : Files) (path : String) : Except ReadFault String :=
  match files.read path with
  | .ok bytes => .ok (Blake3.shortHex bytes)
  | .error e => .error e

def loadVectors (library : Library) (files : Files) (path : String) : Except LoadFault VectorTable :=
  match (files.read path).toOption.bind Tensor.ofBytes? with
  | none => .error (.vectorsUnreadable path (library.tensorsReason path (files.read path)))
  | some tensors =>
    match tensors.lookup VectorTable.tensorName with
    | none => .error (.tableMissing VectorTable.tensorName path)
    | some tensor =>
      match VectorTable.ofTensor? tensor with
      | some table => .ok table
      | none => .error (.tableShape (library.shapeReason tensor.shape))

/-- Reads the table of a directory, if there is a file of vectors. -/
def loadVectors? (library : Library) (files : Files) (dir : String) :
    Except LoadFault (Option VectorTable) :=
  let path := Files.join dir VectorTable.fileName
  if files.isFile path then (loadVectors library files path).map some else .ok none

/-- Reads the model of a directory. -/
def load (library : Library) (files : Files) (dir : String) (disabled : List String) :
    Except LoadFault LanguageModel := do
  let manifest ← loadManifest files dir
  let tokenizer ← loadTokenizer library files dir
  let pipeNames := manifest.enabledPipes disabled
  let vectors ← if pipeNames.contains vectorsPipe then loadVectors? library files dir else .ok none
  .ok {
    manifest := { manifest with
      fingerprint := (fingerprint files (Files.join dir Encoder.fileName)).toOption }
    path := some ((files.find dir).toOption.elim dir Entry.path)
    tokenizer
    vectors
    pipeNames
    disabled }

/-- A model of a language that has only a tokenizer. -/
def blank (lang : String) (tokenizer : Encoder) : LanguageModel :=
  let manifest := Manifest.blank lang
  ⟨manifest, none, tokenizer, none, manifest.pipeline, []⟩

end LanguageModel

end TextAnnotation
